import LedgerCourier.Text.Decimal

/-!
The texts that name a network address.

An address begins with a scheme and a colon. The schemes of the web need a host behind
slashes, which may name a user in front of an at sign and a port behind a colon. Other schemes
leave open what follows, except that a host behind two slashes has to be well formed there
as well. Line ends and tabs do not count, nor do blanks and controls at the ends.
-/

namespace LedgerCourier.Url

set_option autoImplicit false

def webSchemes : List String := ["http", "https", "ws", "wss", "ftp", "file"]

def isSchemeChar (character : Char) : Bool :=
  character.isAlphanum || character == '+' || character == '-' || character == '.'

def clean (text : List Char) : List Char :=
  let isEdge (character : Char) : Bool := character.toNat ≤ 0x20
  let trimmed := ((text.dropWhile isEdge).reverse.dropWhile isEdge).reverse
  trimmed.filter fun character => !(character == '\t' || character == '\n' || character == '\r')

def scheme? (text : List Char) : Option (String × List Char) :=
  match text with
  | first :: _ =>
      if first.isAlpha then
        match text.dropWhile isSchemeChar with
        | ':' :: rest =>
            some (String.ofList ((text.takeWhile isSchemeChar).map Char.toLower), rest)
        | _ => none
      else none
  | [] => none

def isForbiddenInHost (character : Char) : Bool :=
  character.toNat ≤ 0x20 || character.toNat == 0x7f || "#/:<>?@[\\]^|%".toList.contains character

/-- Whether characters are a host. A host between brackets is an address of the new kind. -/
def isHost (host : List Char) : Bool :=
  match host with
  | '[' :: rest =>
      match rest.reverse with
      | ']' :: inner =>
          inner.contains ':' && inner.all fun character =>
            character.isDigit || character == ':' || character == '.' ||
              ('a' ≤ character && character ≤ 'f') || ('A' ≤ character && character ≤ 'F')
      | _ => false
  | other => !other.isEmpty && !other.any isForbiddenInHost

def afterUser (authority : List Char) : List Char :=
  (authority.reverse.takeWhile (· != '@')).reverse

def splitPort (authority : List Char) : List Char × List Char :=
  let port := (authority.reverse.takeWhile
    fun character => character != ':' && character != ']').reverse
  let rest := authority.take (authority.length - port.length)
  match rest.reverse with
  | ':' :: host => (host.reverse, port)
  | _ => (authority, [])

def isAuthority (authority : List Char) : Bool :=
  let (host, port) := splitPort (afterUser authority)
  isHost host && (port.isEmpty || (Decimal.readDigits 0 port).any (· < 65536))

def isValid (text : String) : Bool :=
  match scheme? (clean text.toList) with
  | none => false
  | some (scheme, rest) =>
      let isWeb := webSchemes.contains scheme
      let isSlash (character : Char) : Bool := character == '/' || (isWeb && character == '\\')
      let isEnd (character : Char) : Bool :=
        isSlash character || character == '?' || character == '#'
      if scheme == "file" then true
      else if isWeb then isAuthority ((rest.dropWhile isSlash).takeWhile (!isEnd ·))
      else
        match rest with
        | '/' :: '/' :: behind =>
            let authority := behind.takeWhile (!isEnd ·)
            authority.isEmpty || isAuthority authority
        | _ => true

end LedgerCourier.Url
