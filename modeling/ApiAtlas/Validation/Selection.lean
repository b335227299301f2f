import ApiAtlas.Validation.DataProduct
import ApiAtlas.Validation.RuleFile

/-! # Choosing validators by name

A name is that of a built-in validator or that of a rule. Built-in names come first.
-/

namespace ApiAtlas

def Validator.builtin? (name : String) : Option Validator :=
  if name = DataProduct.validatorName || name = "DataProductStandardsValidator" then
    some DataProduct.validator
  else none

/-- A name that no validator has, and the names that there are. -/
structure UnknownValidator where
  name : String
  available : List String
deriving DecidableEq, Repr

/-- The text about an unknown name. -/
def UnknownValidator.message (error : UnknownValidator) : String :=
  "failed to load validator '" ++ error.name ++ "' (available: "
    ++ Text.join ", " error.available ++ ")"

namespace Validator

def named (rules : Option RuleFile) (name : String) : Except UnknownValidator Validator :=
  match builtin? name with
  | some validator => .ok validator
  | none =>
    match rules.bind (·.get? name) with
    | some rule => .ok rule.validator
    | none =>
      .error ⟨name, DataProduct.validatorName :: (rules.map RuleFile.names).getD []⟩

/-- The validators with given names, in order; the first unknown name is an error. -/
def select (rules : Option RuleFile) (names : List String) :
    Except UnknownValidator (List Validator) :=
  names.mapM (named rules)

end Validator

end ApiAtlas
