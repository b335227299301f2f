import ApiAtlas.Validation.Selection

/-! # Settings

How a router is built: where its documents are, which validators check them, and how strict it is. Settings
are read from a file, and variables of the environment override single fields.
-/

namespace ApiAtlas

abbrev Environment := Table String

structure Settings where
  /-- The directory of the documents, or a single document. -/
  specsPath : String := "specs"
  /-- Whether routes without a handler get one that answers with an empty object. -/
  allowStubs : Bool := false
  /-- Whether payloads are checked strictly. -/
  strict : Bool := false
  validators : List String := []
  /-- The file of rules. -/
  rules : Option String := none
deriving DecidableEq, Repr, Inhabited

/-- Why settings do not lead to a router. -/
inductive SettingsError where
  | load (error : LoadError)
  | unknownValidator (error : UnknownValidator)
deriving DecidableEq, Repr

def SettingsError.message : SettingsError → String
  | .load error => error.message
  | .unknownValidator error => error.message

namespace Settings

def keys : List String :=
  ["specs_path", "allow_stub_handlers", "strict_validation", "validators", "rules"]

/-- Reads the settings of a value; fields that are not given keep their defaults. -/
def ofYaml? (value : Yaml) : Option Settings := do
  let fields ← value.record? keys
  let base : Settings := {}
  return {
    specsPath := ← Yaml.field? fields "specs_path" Yaml.text? base.specsPath
    allowStubs := ← Yaml.field? fields "allow_stub_handlers" Yaml.flag? base.allowStubs
    strict := ← Yaml.field? fields "strict_validation" Yaml.flag? base.strict
    validators := ← Yaml.field? fields "validators" (Yaml.list? Yaml.text?) base.validators
    rules := ← Yaml.field? fields "rules" (Yaml.optional? Yaml.text?) base.rules }

def ofText? (text : String) : Option Settings := (Yaml.parse? text).bind ofYaml?

/-- A switch in the environment: `true`, `false`, `1` or `0`, in any letter case. -/
def switch? (text : String) : Option Bool :=
  let word := Text.lower (Text.trim text)
  if word = "true" || word = "1" then some true
  else if word = "false" || word = "0" then some false
  else none

def nonempty? (environment : Environment) (name : String) : Option String :=
  (Table.get? name environment).filter (· != "")

/-- The settings with the fields that the environment sets. -/
def override (settings : Settings) (environment : Environment) : Settings :=
  let switch (name : String) := (Table.get? name environment).bind switch?
  { settings with
    specsPath := (nonempty? environment "SPECROUTER_SPECS_PATH").getD settings.specsPath
    allowStubs := (switch "SPECROUTER_ALLOW_STUBS").getD settings.allowStubs
    strict := (switch "SPECROUTER_STRICT_VALIDATION").getD settings.strict
    rules := nonempty? environment "SPECROUTER_RULES" <|> settings.rules }

/-- Reads the settings of a file, then those of the environment. -/
def load (tree : FileTree) (environment : Environment) (path : String) :
    Except LoadError Settings := do
  let text ← tree.readText path
  match ofText? text with
  | none => .error ⟨path, .invalidSettings⟩
  | some settings => .ok (settings.override environment)

def selected (tree : FileTree) (settings : Settings) : Except SettingsError (List Validator) := do
  let rules ←
    match settings.rules with
    | none => pure none
    | some path => ((RuleFile.load tree path).map some).mapError .load
  (Validator.select rules settings.validators).mapError .unknownValidator

end Settings

end ApiAtlas
