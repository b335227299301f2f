import ApiAtlas.Settings

/-! # Invocations

Reads the arguments of the command line. Arguments are read from left to right, and the first one that asks
for help or is wrong ends the reading. Options that are not given are taken from the environment.
-/

namespace ApiAtlas

namespace CommandLine

structure Common where
  /-- The directory of the documents, or a single document. -/
  path : String
  validators : List String := []
  rules : Option String := none
deriving DecidableEq, Repr, Inhabited

inductive Invocation where
  /-- Report on every document. -/
  | validate (common : Common)
  /-- List the routes, with the schemas of their models if these are asked for. -/
  | routes (common : Common) (schemas strict : Bool)
deriving DecidableEq, Repr, Inhabited

/-- Why nothing is to be done. -/
inductive Ending where
  /-- A text is shown, as was asked for. -/
  | shown
  /-- The arguments are wrong. -/
  | misused
deriving DecidableEq, Repr

/-- The exit code of a run that only reads its arguments. -/
def Ending.exitCode : Ending → Nat
  | .shown => 0
  | .misused => 2

inductive Command where
  | validate
  | routes
deriving DecidableEq, Repr

def Command.ofName? (name : String) : Option Command :=
  if name = "validate" then some .validate else if name = "routes" then some .routes else none

inductive ValueOption where
  | path
  | rules
  | validator
deriving DecidableEq, Repr

/-- The options that have been read. -/
structure Given where
  path : Option String := none
  rules : Option String := none
  validators : List String := []
  schemas : Bool := false
  strict : Bool := false
deriving DecidableEq, Repr, Inhabited

namespace Given

/-- Gives an option its value. A path is not empty and is given once; validators are collected. -/
def set (given : Given) (option : ValueOption) (value : String) : Except Ending Given :=
  match option with
  | .validator => .ok { given with validators := given.validators ++ [value] }
  | .path =>
    if value = "" || given.path.isSome then .error .misused
    else .ok { given with path := some value }
  | .rules =>
    if value = "" || given.rules.isSome then .error .misused
    else .ok { given with rules := some value }

/-- Sets the switch with a name, once. Only one command has switches. -/
def setSwitch (given : Given) (command : Command) (name : String) : Except Ending Given :=
  if command ≠ .routes then .error .misused
  else if name = "schemas" && !given.schemas then .ok { given with schemas := true }
  else if name = "strict" && !given.strict then .ok { given with strict := true }
  else .error .misused

end Given

/-- The option that takes a value and has this long name. -/
def ValueOption.ofName? (name : String) : Option ValueOption :=
  if name = "path" then some .path
  else if name = "rules" then some .rules
  else if name = "validator" then some .validator
  else none

def ValueOption.ofLetter? : Char → Option ValueOption
  | 'p' => some .path
  | 'r' => some .rules
  | 'v' => some .validator
  | _ => none

/-- What is known after an argument: the options so far, and one whose value is to come. -/
abbrev Progress := Given × Option ValueOption

/-- Reads an argument that starts with two dashes, given without these. A value may follow after an equals
sign. -/
def readLong (command : Command) (given : Given) (text : List Char) : Except Ending Progress :=
  let (name, attached) := match Text.cutAt? '=' text with
    | some (name, value) => (String.ofList name, some (String.ofList value))
    | none => (String.ofList text, none)
  match ValueOption.ofName? name, attached with
  | some option, some value => (given.set option value).map fun given => (given, none)
  | some option, none => .ok (given, some option)
  | none, some _ => .error .misused
  | none, none =>
    if name = "help" then .error .shown
    else (given.setSwitch command name).map fun given => (given, none)

/-- Reads an argument that starts with one dash, given without it. A value may follow the letter, also
after an equals sign. -/
def readShort (given : Given) : List Char → Except Ending Progress
  | [] => .error .misused
  | letter :: attached =>
    match ValueOption.ofLetter? letter, attached with
    | some option, [] => .ok (given, some option)
    | some option, '=' :: value =>
      (given.set option (String.ofList value)).map fun given => (given, none)
    | some option, value =>
      (given.set option (String.ofList value)).map fun given => (given, none)
    | none, _ => .error (if letter = 'h' then .shown else .misused)

def readArgument (command : Command) (given : Given) (argument : String) : Except Ending Progress :=
  match argument.toList with
  | '-' :: '-' :: text => readLong command given text
  | '-' :: text => readShort given text
  | _ => .error .misused

/-- Whether an argument can be a value that stands alone. -/
def isValue (argument : String) : Bool := argument == "-" || !Text.startsWith "-" argument

/-- Reads the arguments of a command. Nothing may follow two dashes alone. -/
def readOptions (command : Command) : Progress → List String → Except Ending Given
  | (given, none), [] => .ok given
  | (_, some _), [] => .error .misused
  | (given, some option), argument :: rest =>
    if isValue argument then do readOptions command ((← given.set option argument), none) rest
    else .error .misused
  | (given, none), argument :: rest =>
    if argument = "--" then if rest.isEmpty then .ok given else .error .misused
    else do readOptions command (← readArgument command given argument) rest

/-- The value of an option, or else of a variable; a variable that is set may not be empty. -/
def orVariable (environment : Environment) (name : String) (given : Option String) :
    Except Ending (Option String) :=
  match given, Table.get? name environment with
  | some value, _ => .ok (some value)
  | none, some "" => .error .misused
  | none, value => .ok value

/-- Completes the options of a command; there has to be a path. -/
def complete (environment : Environment) (command : Command) (given : Given) :
    Except Ending Invocation := do
  let path ← orVariable environment "SPECROUTER_SPECS_PATH" given.path
  let rules ← orVariable environment "SPECROUTER_RULES" given.rules
  match path with
  | none => .error .misused
  | some path =>
    let common : Common := { path, validators := given.validators, rules }
    match command with
    | .validate => return .validate common
    | .routes => return .routes common given.schemas given.strict

/-- Whether the arguments after `help` name something that there is help for. -/
def isHelpTopic : List String → Bool
  | [] => true
  | [name] => name == "help" || (Command.ofName? name).isSome
  | _ => false

/-- Whether an argument before the command asks for a text. -/
def asksForText (argument : String) : Bool :=
  ["--help", "--version"].contains argument
    || Text.startsWith "-h" argument || Text.startsWith "-V" argument

def parse (environment : Environment) : List String → Except Ending Invocation
  | [] => .error .misused
  | first :: rest =>
    match Command.ofName? first with
    | some command => do
      let given ← readOptions command ({}, none) rest
      complete environment command given
    | none =>
      if first = "help" then .error (if isHelpTopic rest then .shown else .misused)
      else .error (if asksForText first then .shown else .misused)

end CommandLine

end ApiAtlas
