import LedgerCourier.Balance
import LedgerCourier.CommandLine.Invocation
import LedgerCourier.Json.Reader
import LedgerCourier.Keys.Source
import LedgerCourier.Node.Basic
import LedgerCourier.Node.Runtime
import LedgerCourier.Rehearsal.Session

/-!
Running a command line against a node.

The program connects, loads the key if it needs one, does what it is asked and prints the
result. Whatever goes wrong ends the run with a complaint and the exit code one. A
transaction whose dispatch failed is printed like any other before the complaint.
-/

namespace LedgerCourier.CommandLine

set_option autoImplicit false

open Rehearsal

inductive Complaint where
  | courier (error : Error)
  | account (error : EncodeError)
  | noKey
  | unreadable (path : String)
  | unreadableArgs
deriving DecidableEq

def Complaint.message : Complaint → String
  | .courier error => error.message
  | .account error => error.message
  | .noKey => "either --suri or --key-file is required"
  | .unreadable path => "reading " ++ path
  | .unreadableArgs => "parsing --args"

inductive Ending where
  | finished (exitCode : Nat) (output complaint : String)
  /-- The numbers of the account are used up or a computation has no result, and the run breaks
  off. -/
  | broken
  | endless
deriving DecidableEq

abbrev Files := String → Option Bytes

def complain (output : String) (complaint : Complaint) : Ending :=
  .finished 1 output ("Error: " ++ complaint.message ++ "\n")

def loadSigner (files : Files) (invocation : Invocation) : Except Complaint Signer :=
  match Secret.choose invocation.secretText invocation.keyPath files with
  | none => .error .noKey
  | some (.error error) => .error (.courier error)
  | some (.ok secret) => .ok secret.signer

def readAccount (text : String) : Except Complaint AccountId :=
  match Arguments.readAccount text with
  | .ok account => .ok account
  | .error error => .error (.account error)

def readFile (files : Files) (path : String) : Except Complaint Bytes :=
  match files path with
  | some bytes => .ok bytes
  | none => .error (.unreadable path)

def encoded (result : Except EncodeError EncodedCall) : Except Complaint EncodedCall :=
  match result with
  | .ok call => .ok call
  | .error error => .error (.courier (.encode error))

def textArgs (name text : String) : Json := .object [(name, .string text)]

def callOf (files : Files) (encoder : CallEncoder) (signer : Signer) :
    Errand → Except Complaint EncodedCall
  | .lock amount => encoded (encoder.encode "lock" (textArgs "amount" amount))
  | .release amount => encoded (encoder.encode "release" (textArgs "amount" amount))
  | .initPool transferKeyPath treeKeyPath operator => do
      let account ← match operator with
        | some text => readAccount text
        | none => .ok signer.account
      let transferKey ← readFile files transferKeyPath
      let treeKey ← readFile files treeKeyPath
      encoded (encoder.encodeOperation
        (.batch [.setOperator account, .setTransferKey transferKey, .setTreeKey treeKey]))
  | .fund address amount =>
      encoded (encoder.encode "sudo" (textArgsOf address amount))
  | .transact data => encoded (encoder.encode "transact" (textArgs "data" data))
  | .submit tag args =>
      match Json.parse args with
      | none => .error .unreadableArgs
      | some args => encoded (encoder.encode tag args)
  | .balance _ _ => .error .noKey
where
  textArgsOf (address amount : String) : Json :=
    .object [("call", .object [
      ("args", .object [("free", .string amount), ("reserved", .string "0"),
        ("who", .string address)]),
      ("op", .string "setBalance")])]

/-- Connects to a node, which is asked for the genesis hash, its version and its metadata. -/
def connect (url : String) (node : Node) : Node × Except Complaint Unit :=
  match node.requestAll [.blockHash, .runtimeVersion, .stateCall] with
  | (node, .ok _) => (node, .ok ())
  | (node, .error cause) => (node, .error (.courier (.connection url cause)))

def showBalance (files : Files) (invocation : Invocation) (address : Option String)
    (decimals : Option Nat) (node : Node) : Node × Ending :=
  let account := match address with
    | some text => readAccount text
    | none => (loadSigner files invocation).map Signer.account
  match account with
  | .error complaint => (node, complain "" complaint)
  | .ok account =>
      let (node, decimals) := match decimals with
        | some decimals => (node, Except.ok decimals)
        | none => node.displayDecimals
      match decimals with
      | .error error => (node, complain "" (.courier error))
      | .ok decimals =>
          match node.freeBalance account with
          | (node, .error cause) => (node, complain "" (.courier (.queryFailed cause)))
          | (node, .ok amount) =>
              match Balance.text? amount decimals with
              | none => (node, .broken)
              | some text => (node, .finished 0 (account.text ++ ": " ++ text ++ "\n") "")

def endingOf : Option (Verdict Outcome × Nat) → Ending
  | none => .endless
  | some (.overflow, _) => .broken
  | some (.failure error, _) => complain "" (.courier error)
  | some (.success outcome, _) =>
      match outcome.ensureSuccess with
      | .ok _ => .finished 0 outcome.report ""
      | .error error => complain outcome.report (.courier error)

def deliver (files : Files) (invocation : Invocation) (node : Node) : Node × Ending :=
  let names : PalletNames := { pool := invocation.poolPallet }
  let encoder : CallEncoder := ⟨names, CallIndices.ofRuntime Runtime.pallets names⟩
  match loadSigner files invocation with
  | .error complaint => (node, complain "" complaint)
  | .ok signer =>
      match callOf files encoder signer invocation.errand with
      | .error complaint => (node, complain "" complaint)
      | .ok call =>
          let settings := invocation.settings
          let delivery := Delivery.start 0 settings settings.waitOptions call signer
          let (session, report, _) :=
            (Session.start node settings.historyCapacity).alone Node.backend deliveries delivery
          (session.world, endingOf report)

def Invocation.run (files : Files) (node : Node) (invocation : Invocation) : Node × Ending :=
  match connect invocation.url node with
  | (node, .error complaint) => (node, complain "" complaint)
  | (node, .ok _) =>
      match invocation.errand with
      | .balance address decimals => showBalance files invocation address decimals node
      | _ => deliver files invocation node

def Flaw.ending : Flaw → Ending
  | .help => .finished 0 helpText ""
  | .version => .finished 0 versionText ""
  | _ => .finished 2 "" "error: the command line was not understood\n"

def run (files : Files) (vars : List (String × String)) (node : Node)
    (line : List String) : Node × Ending :=
  match Invocation.parse vars line with
  | .error flaw => (node, flaw.ending)
  | .ok invocation => invocation.run files node

end LedgerCourier.CommandLine
