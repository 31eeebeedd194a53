import LedgerCourier.Digest.Blake2b
import LedgerCourier.Keys.Mnemonic
import LedgerCourier.Ledger
import LedgerCourier.Text.WordChar

/-!
Secrets and the texts that describe them.

A secret text begins with a phrase, which is a mnemonic or, behind `0x`, a seed in
hexadecimal. It may go on with a path of derivation steps, each of them a name behind one or
two slashes, and end with a password behind three slashes. Without a phrase the one that is
meant for development is used.

How a secret leads to a key pair is no concern of this library. The accounts of two secrets
that everybody uses are known here. Every other secret is given a stand-in for its account,
and all of them a stand-in for their signatures.
-/

namespace LedgerCourier

set_option autoImplicit false

inductive Secret.Root where
  | seed (bytes : Bytes)
  | phrase (entropy : Bytes)
deriving DecidableEq

structure Secret where
  root : Secret.Root
  path : List Char
  password : List Char
deriving DecidableEq

namespace Secret

def isPhraseChar (character : Char) : Bool :=
  character == ' ' || WordChar.isWordChar character

def skipSlash : List Char → List Char
  | '/' :: rest => rest
  | text => text

theorem skip_slash_length (text : List Char) : (skipSlash text).length ≤ text.length := by
  unfold skipSlash
  split
  · simp
  · exact Nat.le_refl _

/-- Reads what follows the phrase: the steps of the path, and the password behind them. -/
def readSteps (text : List Char) : Option (List Char × List Char) :=
  match text with
  | [] => some ([], [])
  | '/' :: '/' :: '/' :: password =>
      if password.contains '\n' then none else some ([], password)
  | '/' :: rest =>
      let named := skipSlash rest
      let remaining := named.dropWhile (· != '/')
      if (named.takeWhile (· != '/')).isEmpty then none
      else
        match readSteps remaining with
        | none => none
        | some (path, password) =>
            some (text.take (text.length - remaining.length) ++ path, password)
  | _ => none
termination_by text.length
decreasing_by
  have shorter := (List.dropWhile_sublist (· != '/') (l := skipSlash rest)).length_le
  have skipped := skip_slash_length rest
  simp only [List.length_cons]
  omega

def developmentPhrase : List Char :=
  "bottom drive obey lake curtain smoke basket hold race lonely fit walk".toList

def readRoot (phrase : List Char) : Except Keys.SecretFlaw Root :=
  match phrase with
  | '0' :: 'x' :: digits =>
      match Hex.decodeExactly 32 (String.ofList digits) with
      | .ok bytes => .ok (.seed bytes)
      | .error flaw => .error (.seed flaw)
  | words =>
      match Mnemonic.entropy words with
      | .ok entropy => .ok (.phrase entropy)
      | .error flaw => .error (.phrase flaw)

/-- Reads a secret text. Its shape is judged before its phrase. -/
def parse (text : String) : Except Keys.SecretFlaw Secret :=
  let characters := text.toList
  let phrase := characters.takeWhile isPhraseChar
  match readSteps (characters.dropWhile isPhraseChar) with
  | none => .error .format
  | some (path, password) =>
      match readRoot (if phrase.isEmpty then developmentPhrase else phrase) with
      | .error flaw => .error flaw
      | .ok root => .ok ⟨root, path, password⟩

def ofSeed (seed : Bytes) : Secret := ⟨.seed seed, [], []⟩

def knownAccounts : List (String × Bytes) :=
  [("//Alice", [0xd4, 0x35, 0x93, 0xc7, 0x15, 0xfd, 0xd3, 0x1c, 0x61, 0x14, 0x1a, 0xbd, 0x04,
      0xa9, 0x9f, 0xd6, 0x82, 0x2c, 0x85, 0x58, 0x85, 0x4c, 0xcd, 0xe3, 0x9a, 0x56, 0x84, 0xe7,
      0xa5, 0x6d, 0xa2, 0x7d]),
    ("//Bob", [0x8e, 0xaf, 0x04, 0x15, 0x16, 0x87, 0x73, 0x63, 0x26, 0xc9, 0xfe, 0xa1, 0x7e,
      0x25, 0xfc, 0x52, 0x87, 0x61, 0x36, 0x93, 0xc9, 0x12, 0x90, 0x9c, 0xb2, 0x26, 0xaa, 0x47,
      0x94, 0xf2, 0x6a, 0x48])]

def isDevelopment (secret : Secret) (path : String) : Bool :=
  secret.path == path.toList && secret.password.isEmpty &&
    match readRoot developmentPhrase with
    | .ok root => secret.root == root
    | .error _ => false

/-- The bytes that tell a secret apart from others. -/
def identity (secret : Secret) : Bytes :=
  let root := match secret.root with
    | .seed bytes => 0 :: bytes
    | .phrase entropy => 1 :: entropy
  root ++ Hex.textBytes (secret.path ++ '\n' :: secret.password)

def account (secret : Secret) : AccountId :=
  match knownAccounts.find? fun known => secret.isDevelopment known.1 with
  | some known => Bytes32.truncate known.2
  | none => Blake2b.digest256 secret.identity

def signer (secret : Secret) : Signer where
  account := secret.account
  sign := fun payload =>
    let digest := (Blake2b.digest256 payload).bytes
    .ok (.sr25519 (digest ++ digest))

end Secret

end LedgerCourier
