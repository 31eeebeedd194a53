import LedgerCourier.Bytes.Hex
import LedgerCourier.Text.Quoted

/-!
The states that a submitted transaction is reported to be in.

A transaction waits in the pool, is passed on to other nodes, is included in a block and is
finalized with it. It may also fail: be found invalid, be dropped, be replaced by another
transaction with its number, or lose its block again. A wait ends at a depth that the
caller chooses, inclusion or finality.
-/

namespace LedgerCourier

set_option autoImplicit false

inductive Status where
  | ready
  | broadcast
  /-- Included in a block that may still be abandoned. -/
  | inBlock (block : Hash)
  | finalized (block : Hash)
  | invalid (reason : String)
  | dropped
  | usurped
  /-- The block that included it was abandoned. -/
  | retracted
deriving DecidableEq

namespace Status

def isTerminal : Status → Bool
  | .finalized _ | .invalid _ | .dropped | .usurped => true
  | _ => false

def block? : Status → Option Hash
  | .inBlock block | .finalized block => some block
  | _ => none

def name : Status → String
  | .ready => "Ready"
  | .broadcast => "Broadcast"
  | .inBlock _ => "InBlock"
  | .finalized _ => "Finalized"
  | .invalid _ => "Invalid"
  | .dropped => "Dropped"
  | .usurped => "Usurped"
  | .retracted => "Retracted"

/-- How far the state lies on the way to success. Failures and retraction are not on it. -/
def rank? : Status → Option Nat
  | .ready => some 1
  | .broadcast => some 2
  | .inBlock _ => some 3
  | .finalized _ => some 4
  | _ => none

def text (status : Status) : String :=
  match status with
  | .inBlock block | .finalized block => status.name ++ "(" ++ block.text ++ ")"
  | .invalid reason => status.name ++ "(" ++ reason ++ ")"
  | _ => status.name

/-- The state as it is shown inside other messages, where the reason stands in quotes. -/
def quotedText (status : Status) : String :=
  match status with
  | .invalid reason => status.name ++ "(" ++ Quoted.text reason ++ ")"
  | _ => status.text

end Status

inductive Depth where
  | inBlock
  | finalized
deriving DecidableEq

def Depth.isSatisfiedBy : Depth → Status → Bool
  | _, .finalized _ => true
  | .inBlock, .inBlock _ => true
  | _, _ => false

end LedgerCourier
