import LedgerCourier.CommandLine.Settings
import LedgerCourier.Operation.Basic

/-!
The commands of the program and their options.

In front of a command stand the options that concern all of them: the node, the key that
signs, the name of the pool's pallet, and how long to wait. A key is described by a text or
held in a file, not both.
-/

namespace LedgerCourier.CommandLine

set_option autoImplicit false

/-- What the program is asked to do. Amounts and accounts are kept as they were written. -/
inductive Errand where
  | lock (amount : String)
  | release (amount : String)
  | initPool (transferKeyPath treeKeyPath : String) (operator : Option String)
  | fund (address amount : String)
  | transact (data : String)
  | submit (tag args : String)
  | balance (address : Option String) (decimals : Option Nat)
deriving DecidableEq

structure Invocation where
  url : String
  secretText : Option String
  keyPath : Option String
  poolPallet : String
  settings : Settings
  errand : Errand
deriving DecidableEq

def commonOptions : List OptionSpec :=
  [⟨"rpc-url", none, some "RPC_URL", .url, false⟩,
    ⟨"suri", none, some "PRIVATE_KEY", .text, false⟩,
    ⟨"key-file", none, some "KEY_FILE", .text, false⟩,
    ⟨"pool-pallet", none, some "POOL_PALLET", .text, false⟩] ++ settingsOptions

def commonGrammar : Grammar := ⟨commonOptions, true, [("suri", "key-file")]⟩

def ownOption (long : String) (short : Option Char) (kind : ValueKind) (required : Bool) :
    OptionSpec := ⟨long, short, none, kind, required⟩

def commands : List Command :=
  [⟨"lock", ⟨[ownOption "amount" (some 'a') .text false], false, []⟩⟩,
    ⟨"release", ⟨[ownOption "amount" (some 'a') .text true], false, []⟩⟩,
    ⟨"init-pool", ⟨[ownOption "transfer-vk" none .path true,
      ownOption "tree-vk" none .path true,
      ownOption "operator" none .text false], false, []⟩⟩,
    ⟨"fund", ⟨[ownOption "address" (some 'd') .text true,
      ownOption "amount" (some 'a') .text false], false, []⟩⟩,
    ⟨"transact", ⟨[ownOption "data" (some 'd') .text true], false, []⟩⟩,
    ⟨"submit", ⟨[ownOption "op" (some 'o') .text true,
      ownOption "args" (some 'a') .text false], false, []⟩⟩,
    ⟨"balance", ⟨[ownOption "address" (some 'd') .text false,
      ownOption "decimals" none .small false], false, []⟩⟩]

def errandOf (name : String) (values : Values) : Errand :=
  let get (option usual : String) : String := (valueOf? option values).getD usual
  match name with
  | "lock" => .lock (get "amount" "100000")
  | "release" => .release (get "amount" "")
  | "init-pool" => .initPool (get "transfer-vk" "") (get "tree-vk" "") (valueOf? "operator" values)
  | "fund" => .fund (get "address" "") (get "amount" "1000000000000000000000")
  | "transact" => .transact (get "data" "")
  | "submit" => .submit (get "op" "") (get "args" "\x7b\x7d")
  | _ => .balance (valueOf? "address" values) ((valueOf? "decimals" values).bind readSmall)

def usualUrl : String := "ws://127.0.0.1:9944"

def Invocation.parse (vars : List (String × String)) (line : List String) :
    Except Flaw Invocation :=
  let usual : PalletNames := {}
  match parseCommand commonGrammar commands vars line with
  | .error flaw => .error flaw
  | .ok (values, name, own) =>
      .ok {
        url := (valueOf? "rpc-url" values).getD usualUrl
        secretText := valueOf? "suri" values
        keyPath := valueOf? "key-file" values
        poolPallet := (valueOf? "pool-pallet" values).getD usual.pool
        settings := settingsOf values
        errand := errandOf name own }

def Invocation.paths (invocation : Invocation) : List String :=
  invocation.keyPath.toList ++
    match invocation.errand with
    | .initPool transferKeyPath treeKeyPath _ => [transferKeyPath, treeKeyPath]
    | _ => []

def versionText : String := "zeropool-cli 0.1.0\n"

def helpText : String :=
  String.join ((["CLI for submitting zeropool transactions", "",
    "Usage: zeropool-cli [OPTIONS] <COMMAND>", "", "Commands:"] ++
    (commands.map fun command => "  " ++ command.name) ++ ["  help", "", "Options:"] ++
    (commonOptions.map fun option =>
      "      --" ++ option.long ++ (match option.environment with
        | some name => " [env: " ++ name ++ "]"
        | none => "")) ++
    ["  -h, --help", "  -V, --version"]).map fun line => line ++ "\n")

end LedgerCourier.CommandLine
