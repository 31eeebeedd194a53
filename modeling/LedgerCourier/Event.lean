import LedgerCourier.Bytes.Basic

/-!
The events that a block emitted, and what they say about one extrinsic.

Every event belongs to a phase of the block's execution. Those of one extrinsic are the ones
emitted while the extrinsic at its position was applied. Among them the system pallet
reports whether the extrinsic was dispatched with success, and the first such report
decides.
-/

namespace LedgerCourier

set_option autoImplicit false

inductive Phase where
  | applyExtrinsic (index : Nat)
  | finalization
  | initialization
deriving DecidableEq

def Phase.text : Phase → String
  | .applyExtrinsic index => "ApplyExtrinsic(" ++ toString index ++ ")"
  | .finalization => "Finalization"
  | .initialization => "Initialization"

structure Event where
  phase : Phase
  pallet : String
  method : String
  args : List String
deriving DecidableEq

namespace Event

def isNamed (event : Event) (pallet method : String) : Bool :=
  event.pallet == pallet && event.method == method

def text (event : Event) : String :=
  event.phase.text ++ " : " ++ event.pallet ++ "." ++ event.method ++ " [" ++
    String.intercalate ", " event.args ++ "]"

def ofExtrinsic (index : Nat) (events : List Event) : List Event :=
  events.filter fun event => event.phase == .applyExtrinsic index

end Event

inductive Dispatch where
  | success
  | failed (details : String)
  /-- There was no report. -/
  | unknown
deriving DecidableEq

/-- Reads the dispatch result from the events of an extrinsic. -/
def Dispatch.ofEvents : List Event → Dispatch
  | [] => .unknown
  | event :: rest =>
      if event.isNamed "System" "ExtrinsicSuccess" then .success
      else if event.isNamed "System" "ExtrinsicFailed" then
        .failed (String.intercalate ", " event.args)
      else ofEvents rest

end LedgerCourier
