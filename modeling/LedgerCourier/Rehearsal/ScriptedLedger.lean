import LedgerCourier.Bytes.Compact
import LedgerCourier.Digest.Blake2b
import LedgerCourier.Rehearsal.Scheduler
import LedgerCourier.Table

/-!
A ledger that follows a script.

Its accounts, blocks and delays are set from outside, and so are the failures it shows. What
it does with an extrinsic is written in scripts, of which each send takes the oldest. A send
without a script is accepted and followed by silence.
-/

namespace LedgerCourier.Rehearsal

set_option autoImplicit false

structure Script where
  /-- After how many milliseconds the send is answered, never if nothing is given. -/
  delay : Option Nat
  refusal : Option String
  subscription : Subscription

def Script.silent : Script := ⟨some 0, none, ⟨[], true⟩⟩

structure ScriptedLedger where
  nonces : Table AccountId Nat
  balances : Table AccountId Amount
  decimals : Except String (Option Nat)
  failingNonces : Nat
  nonceDelay : Option Nat
  positionDelay : Option Nat
  payloadFailure : Option String
  assemblyFailure : Option String
  eventsFailure : Option String
  blockEvents : Table Hash (List Event)
  blockExtrinsics : Table Hash (List Hash)
  inclusion : Option Hash
  scripts : List Script
  queries : Nat
  accepted : List Bytes

namespace ScriptedLedger

def blank : ScriptedLedger where
  nonces := Table.empty
  balances := Table.empty
  decimals := .ok none
  failingNonces := 0
  nonceDelay := some 0
  positionDelay := some 0
  payloadFailure := none
  assemblyFailure := none
  eventsFailure := none
  blockEvents := Table.empty
  blockExtrinsics := Table.empty
  inclusion := none
  scripts := []
  queries := 0
  accepted := []

def failing {Value : Type} (message : Option String) (value : Value) : Except Failure Value :=
  match message with
  | some message => .error (.other message)
  | none => .ok value

def payload (call : EncodedCall) (nonce : Nat) : Bytes :=
  Compact.encodeBytes call.data ++ littleEndian 8 nonce

def extrinsic (call : EncodedCall) (nonce : Nat) (origin : AccountId) (signature : Signature) :
    Bytes :=
  littleEndian 8 nonce ++ origin.bytes ++ signature.schemeByte :: signature.bytes ++
    Compact.encodeBytes call.data

def channel (ledger : ScriptedLedger) : Channel where
  payload := fun call nonce => failing ledger.payloadFailure (payload call nonce)
  assemble := fun call nonce origin signature =>
    failing ledger.assemblyFailure (extrinsic call nonce origin signature)

/-- The signature of the rehearsal's signers: the digest of the payload, twice. -/
def sign (payload : Bytes) : Signature :=
  let digest := (Blake2b.digest256 payload).bytes
  .sr25519 (digest ++ digest)

def signer (account : AccountId) (refusal : Option String) : Signer where
  account := account
  sign := fun payload =>
    match refusal with
    | some message => .error message
    | none => .ok (sign payload)

inductive Ticket where
  | nonce (account : AccountId)
  | send (extrinsic : Bytes) (script : Script)
  | position (block extrinsic : Hash)
  | events (block : Hash)

def ask (ledger : ScriptedLedger) : Request → ScriptedLedger × Ticket × Option Nat
  | .nonce account =>
      ({ ledger with queries := ledger.queries + 1 }, .nonce account, ledger.nonceDelay)
  | .send extrinsic =>
      let script := ledger.scripts.head?.getD Script.silent
      ({ ledger with scripts := ledger.scripts.tail }, .send extrinsic script, script.delay)
  | .position block extrinsic => (ledger, .position block extrinsic, ledger.positionDelay)
  | .events block => (ledger, .events block, some 0)

def unknownBlock (block : Hash) : Failure := .other ("unknown block " ++ block.text)

def accept (ledger : ScriptedLedger) (extrinsic : Bytes) : ScriptedLedger :=
  let ledger := { ledger with accepted := ledger.accepted ++ [extrinsic] }
  match ledger.inclusion with
  | none => ledger
  | some block =>
      let held := (ledger.blockExtrinsics.get? block).getD []
      { ledger with
        blockExtrinsics :=
          ledger.blockExtrinsics.insert block (held ++ [Blake2b.digest256 extrinsic]) }

/-- The first position of an extrinsic in a block. A block without a list of extrinsics is
known by its events alone. -/
def position (ledger : ScriptedLedger) (block extrinsic : Hash) : Except Failure (Option Nat) :=
  match ledger.blockExtrinsics.get? block with
  | some held => .ok (held.findIdx? (· == extrinsic))
  | none =>
      if (ledger.blockEvents.get? block).isSome then .ok none else .error (unknownBlock block)

def events (ledger : ScriptedLedger) (block : Hash) : Except Failure (List Event) :=
  match ledger.eventsFailure, ledger.blockEvents.get? block with
  | some message, _ => .error (.other message)
  | none, some events => .ok events
  | none, none => .error (unknownBlock block)

def answer (ledger : ScriptedLedger) : Ticket → ScriptedLedger × Answer × Option Subscription
  | .nonce account =>
      if ledger.failingNonces = 0 then
        (ledger, .nonce (.ok ((ledger.nonces.get? account).getD 0)), none)
      else
        ({ ledger with failingNonces := ledger.failingNonces - 1 },
          .nonce (.error (.other "node unavailable")), none)
  | .send extrinsic script =>
      match script.refusal with
      | some message => (ledger, .sent (.error (.other message)), none)
      | none => (ledger.accept extrinsic, .sent (.ok ()), some script.subscription)
  | .position block extrinsic => (ledger, .position (ledger.position block extrinsic), none)
  | .events block => (ledger, .events (ledger.events block), none)

def backend : Backend ScriptedLedger Ticket := ⟨channel, ask, answer⟩

def balance (ledger : ScriptedLedger) (account : AccountId) : Except Error Amount :=
  match ledger.balances.get? account with
  | some amount => .ok amount
  | none => .error (.queryFailed (.other ("no account " ++ account.text)))

def tokenDecimals (ledger : ScriptedLedger) : Except Error (Option Nat) :=
  match ledger.decimals with
  | .ok decimals => .ok decimals
  | .error message => .error (.queryFailed (.other message))

/-- Chooses the block that accepted extrinsics go to, which has a list of extrinsics from then
on. -/
def includeIn (ledger : ScriptedLedger) (block : Option Hash) : ScriptedLedger :=
  match block with
  | none => { ledger with inclusion := none }
  | some block =>
      let held := (ledger.blockExtrinsics.get? block).getD []
      { ledger with
        inclusion := some block
        blockExtrinsics := ledger.blockExtrinsics.insert block held }

end ScriptedLedger

end LedgerCourier.Rehearsal
