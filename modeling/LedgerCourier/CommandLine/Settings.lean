import LedgerCourier.CommandLine.Parser
import LedgerCourier.Settings

/-!
The options that set how long and how often the courier waits and tries again.
-/

namespace LedgerCourier.CommandLine

set_option autoImplicit false

def settingsOptions : List OptionSpec :=
  [⟨"wait-for", none, some "WAIT_FOR", .depth, false⟩,
    ⟨"timeout-secs", none, some "TX_TIMEOUT_SECS", .large, false⟩,
    ⟨"max-retries", none, some "TX_MAX_RETRIES", .small, false⟩,
    ⟨"retry-backoff-ms", none, some "TX_RETRY_BACKOFF_MS", .large, false⟩,
    ⟨"history-capacity", none, some "TX_HISTORY_CAPACITY", .large, false⟩]

def settingsOf (values : Values) : Settings :=
  let usual : Settings := {}
  { depth := ((valueOf? "wait-for" values).bind readDepth).getD usual.depth
    timeoutSeconds := ((valueOf? "timeout-secs" values).bind readLarge).getD usual.timeoutSeconds
    maxRetries := ((valueOf? "max-retries" values).bind readSmall).getD usual.maxRetries
    retryPause := ((valueOf? "retry-backoff-ms" values).bind readLarge).getD usual.retryPause
    historyCapacity :=
      ((valueOf? "history-capacity" values).bind readLarge).getD usual.historyCapacity }

/-- Reads the settings from a command line of nothing else and from the environment. -/
def parseSettings (vars : List (String × String)) (line : List String) :
    Except Flaw Settings :=
  match parseOptions ⟨settingsOptions, false, []⟩ vars line with
  | .error flaw => .error flaw
  | .ok values => .ok (settingsOf values)

end LedgerCourier.CommandLine
