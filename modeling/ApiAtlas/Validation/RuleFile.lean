import ApiAtlas.Document.Loading
import ApiAtlas.Validation.Rule
import ApiAtlas.Yaml.Decode

/-! # Rule files

A rule file declares validators by data, in YAML or in JSON.
-/

namespace ApiAtlas

/-- The rules of a file, in order. -/
structure RuleFile where
  rules : List Rule := []
deriving DecidableEq, Repr, Inhabited

def Rule.keys : List String :=
  ["name", "min_paths", "max_paths", "exact_paths", "allowed_methods", "required_methods",
   "forbidden_keys", "required_header_parameters", "require_operation_id"]

/-- Reads a rule, which needs a name. -/
def Rule.ofYaml? (value : Yaml) : Option Rule := do
  let fields ← value.record? keys
  let count (key : String) := Yaml.field? fields key (Yaml.optional? Yaml.count?) none
  let texts (key : String) := Yaml.field? fields key (Yaml.list? Yaml.text?) []
  return {
    name := ← (Table.get? "name" fields).bind Yaml.text?
    minPaths := ← count "min_paths"
    maxPaths := ← count "max_paths"
    exactPaths := ← count "exact_paths"
    allowedMethods :=
      ← Yaml.field? fields "allowed_methods" (Yaml.optional? (Yaml.list? Yaml.text?)) none
    requiredMethods := ← texts "required_methods"
    forbiddenKeys := ← texts "forbidden_keys"
    requiredHeaders := ← texts "required_header_parameters"
    requireOperationId := ← Yaml.field? fields "require_operation_id" Yaml.flag? false }

namespace RuleFile

def ofYaml? (value : Yaml) : Option RuleFile := do
  let fields ← value.record? ["validators"]
  return { rules := ← Yaml.field? fields "validators" (Yaml.list? Rule.ofYaml?) [] }

def ofText? (text : String) : Option RuleFile := (Yaml.parse? text).bind ofYaml?

def load (tree : FileTree) (path : String) : Except LoadError RuleFile := do
  let text ← tree.readText path
  match ofText? text with
  | none => .error ⟨path, .invalidRules⟩
  | some file => .ok file

/-- The first rule with a name. -/
def get? (file : RuleFile) (name : String) : Option Rule := file.rules.find? (·.name == name)

def names (file : RuleFile) : List String := file.rules.map (·.name)

end RuleFile

end ApiAtlas
