import LedgerCourier.History
import LedgerCourier.Status.Basic

/-!
How long and how often the courier waits and tries again. Times are in milliseconds unless
a name says otherwise.
-/

namespace LedgerCourier

set_option autoImplicit false

structure Settings where
  depth : Depth := .finalized
  /-- How many seconds a call may take, without limit if zero. -/
  timeoutSeconds : Nat := 120
  maxRetries : Nat := 3
  /-- The pause before the first repetition; later ones wait a multiple of it. -/
  retryPause : Nat := 500
  historyCapacity : Nat := History.defaultCapacity
deriving DecidableEq

namespace Settings

/-- No pause is longer than what 64 bits can count. -/
def longestPause : Nat := UInt64.size - 1

def timeout? (settings : Settings) : Option Nat :=
  if settings.timeoutSeconds = 0 then none else some (settings.timeoutSeconds * 1000)

/-- The pause before a repetition, the first one having number one. -/
def pause (settings : Settings) (attempt : Nat) : Nat :=
  min (settings.retryPause * attempt) longestPause

end Settings

structure WaitOptions where
  depth : Depth
  timeout : Option Nat
deriving DecidableEq

def Settings.waitOptions (settings : Settings) : WaitOptions :=
  { depth := settings.depth, timeout := settings.timeout? }

end LedgerCourier
