import LedgerCourier.CommandLine.Program
import LedgerCourier.Node.Setup

/-!
The program.

It runs a command line against a node in memory. The state of the node is described by a
file of structured values, which the variable `LEDGER_SETUP` names. Without it the node is
one that nothing has happened on.
-/

namespace LedgerCourier.CommandLine

set_option autoImplicit false

def readVariables : IO (List (String × String)) :=
  (commonOptions.filterMap OptionSpec.environment).filterMapM fun name => do
    return (← IO.getEnv name).map fun value => (name, value)

/-- Reads a file, if it can be read. -/
def readIfPossible (path : String) : IO (Option Bytes) := do
  try
    return some (← IO.FS.readBinFile path).toList
  catch _ =>
    return none

def readNode : IO Node := do
  let blank := Node.blank ⟨1, 1, Bytes32.fill 0x11, none⟩ true
  match ← IO.getEnv "LEDGER_SETUP" with
  | none => return blank
  | some path =>
      match Json.parse (← IO.FS.readFile path) with
      | some (.array steps) => return Setup.apply blank steps
      | _ => return blank

def readFiles (vars : List (String × String)) (line : List String) : IO Files := do
  let paths := match Invocation.parse vars line with
    | .ok invocation => invocation.paths
    | .error _ => []
  let contents ← paths.mapM fun path => do return (path, ← readIfPossible path)
  return fun path => ((contents.find? fun entry => entry.1 == path).bind Prod.snd)

def runAndPrint (line : List String) : IO UInt32 := do
  let vars ← readVariables
  let files ← readFiles vars line
  match (run files vars (← readNode) line).2 with
  | .finished exitCode output complaint =>
      IO.print output
      IO.eprint complaint
      return exitCode.toUInt32
  | .broken =>
      IO.eprintln "the numbers of the account are used up"
      return 101
  | .endless =>
      IO.eprintln "the transaction was not settled within a day"
      return 1

end LedgerCourier.CommandLine

def main (line : List String) : IO UInt32 := LedgerCourier.CommandLine.runAndPrint line
