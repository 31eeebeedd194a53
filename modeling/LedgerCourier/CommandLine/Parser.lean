import LedgerCourier.CommandLine.Option

/-!
Reading a command line.

Arguments are read from left to right. The value of an option is attached to it or is the
next argument, unless that begins with a dash. A separate value is judged when the next
option is met or the line ends, an attached one at once. After the line the environment
fills in options that were not given, in the order in which they are declared, and it is
judged what is missing or excluded. The line of a command is read to its end before the
options in front of the command are settled.
-/

namespace LedgerCourier.CommandLine

set_option autoImplicit false

structure Grammar where
  options : List OptionSpec
  hasVersion : Bool
  exclusive : List (String × String)

/-- The values of options by their long names, in the order in which they were settled. -/
abbrev Values := List (String × String)

def valueOf? (name : String) (values : Values) : Option String :=
  (values.find? fun entry => entry.1 == name).map Prod.snd

structure Reading where
  values : Values
  /-- An option whose value is a separate argument, and that value once it was read. -/
  pending : Option (OptionSpec × Option String)

namespace Reading

def start : Reading := ⟨[], none⟩

def settle (reading : Reading) (option : OptionSpec) (value : String) : Except Flaw Reading :=
  if (valueOf? option.long reading.values).isSome then .error .argumentConflict
  else
    match option.kind.check value with
    | .error flaw => .error flaw
    | .ok _ => .ok { reading with values := reading.values ++ [(option.long, value)] }

def resolve (reading : Reading) : Except Flaw Reading :=
  match reading.pending with
  | none => .ok reading
  | some (_, none) => .error .invalidValue
  | some (option, some value) => { reading with pending := none }.settle option value

def isAwaiting (reading : Reading) : Bool :=
  match reading.pending with
  | some (_, none) => true
  | _ => false

def meet (reading : Reading) (option : OptionSpec) (attached : Option String) :
    Except Flaw Reading :=
  match reading.resolve with
  | .error flaw => .error flaw
  | .ok reading =>
      match attached with
      | some value => reading.settle option value
      | none => .ok { reading with pending := some (option, none) }

def stop (reading : Reading) (flaw : Flaw) : Except Flaw Reading :=
  match reading.resolve with
  | .error other => .error other
  | .ok _ => .error flaw

def long (grammar : Grammar) (reading : Reading) (text : List Char) : Except Flaw Reading :=
  let name := String.ofList (text.takeWhile (· != '='))
  let attached := match text.dropWhile (· != '=') with
    | '=' :: value => some (String.ofList value)
    | _ => none
  match grammar.options.find? fun option => option.long == name with
  | some option => reading.meet option attached
  | none =>
      if name == "help" || (name == "version" && grammar.hasVersion) then
        if attached.isSome then .error .tooManyValues
        else reading.stop (if name == "help" then .help else .version)
      else .error .unknownArgument

/-- Reads short options, without their dash. The rest behind one that takes a value is its
value. -/
def short (grammar : Grammar) (reading : Reading) (text : List Char) : Except Flaw Reading :=
  match text with
  | [] => .ok reading
  | letter :: rest =>
      match grammar.options.find? fun option => option.short == some letter with
      | some option =>
          reading.meet option (match rest with
            | [] => none
            | '=' :: value => some (String.ofList value)
            | value => some (String.ofList value))
      | none =>
          if letter == 'h' then reading.stop .help
          else if letter == 'V' && grammar.hasVersion then reading.stop .version
          else .error .unknownArgument

def argument (grammar : Grammar) (reading : Reading) (text : String) : Except Flaw Reading :=
  match text.toList with
  | '-' :: '-' :: name => reading.long grammar name
  | '-' :: letter :: letters => reading.short grammar (letter :: letters)
  | _ =>
      match reading.pending with
      | some (option, none) => .ok { reading with pending := some (option, some text) }
      | _ => .error .unknownArgument

def environment (vars : List (String × String)) :
    List OptionSpec → Reading → Except Flaw Reading
  | [], reading => .ok reading
  | option :: rest, reading =>
      let found := option.environment.bind fun name =>
        (vars.find? fun entry => entry.1 == name).map Prod.snd
      match found with
      | some value =>
          if (valueOf? option.long reading.values).isSome then environment vars rest reading
          else
            match reading.settle option value with
            | .error flaw => .error flaw
            | .ok reading => environment vars rest reading
      | none => environment vars rest reading

def validate (grammar : Grammar) (values : Values) : Except Flaw Values :=
  let isGiven (name : String) : Bool := (valueOf? name values).isSome
  if grammar.exclusive.any fun pair => isGiven pair.1 && isGiven pair.2 then
    .error .argumentConflict
  else if grammar.options.any fun option => option.required && !isGiven option.long then
    .error .missingArgument
  else .ok values

def finish (grammar : Grammar) (vars : List (String × String)) (reading : Reading) :
    Except Flaw Values :=
  match reading.resolve with
  | .error flaw => .error flaw
  | .ok reading =>
      match environment vars grammar.options reading with
      | .error flaw => .error flaw
      | .ok reading => validate grammar reading.values

/-- Reads arguments up to the end of the line. Two dashes end the options, and nothing may
follow them. -/
def line (grammar : Grammar) : List String → Reading → Except Flaw Reading
  | [], reading => .ok reading
  | "--" :: [], reading => .ok reading
  | "--" :: _ :: _, _ => .error .unknownArgument
  | text :: rest, reading =>
      match reading.argument grammar text with
      | .error flaw => .error flaw
      | .ok reading => line grammar rest reading

end Reading

def parseOptions (grammar : Grammar) (vars : List (String × String)) (line : List String) :
    Except Flaw Values :=
  match Reading.start.line grammar line with
  | .error flaw => .error flaw
  | .ok reading => reading.finish grammar vars

structure Command where
  name : String
  grammar : Grammar

def helpAbout (commands : List Command) : List String → Flaw
  | [] => .help
  | name :: rest =>
      if commands.any (fun command => command.name == name) || name == "help" then
        if rest.isEmpty then .help else .unknownCommand
      else .unknownCommand

def readCommand (grammar : Grammar) (commands : List Command)
    (vars : List (String × String)) :
    List String → Reading → Except Flaw (Reading × Option (String × Values))
  | [], reading => .ok (reading, none)
  | text :: rest, reading =>
      if !reading.isAwaiting && text == "help" then .error (helpAbout commands rest)
      else
        match if reading.isAwaiting then none
            else commands.find? fun command => command.name == text with
        | some command =>
            match parseOptions command.grammar vars rest with
            | .error flaw => .error flaw
            | .ok values => .ok (reading, some (command.name, values))
        | none =>
            if text == "--" then
              if rest.isEmpty then .ok (reading, none) else .error .unknownArgument
            else
              match reading.argument grammar text with
              | .error flaw => .error flaw
              | .ok reading => readCommand grammar commands vars rest reading

def parseCommand (grammar : Grammar) (commands : List Command)
    (vars : List (String × String)) (line : List String) :
    Except Flaw (Values × String × Values) :=
  match readCommand grammar commands vars line Reading.start with
  | .error flaw => .error flaw
  | .ok (reading, command) =>
      match reading.finish grammar vars with
      | .error flaw => .error flaw
      | .ok values =>
          match command with
          | none => .error .missingCommand
          | some (name, own) => .ok (values, name, own)

end LedgerCourier.CommandLine
