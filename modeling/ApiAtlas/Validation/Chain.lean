import ApiAtlas.BuildError
import ApiAtlas.Validation.Report
import ApiAtlas.Validation.Structure

/-! # Validator chains

Every document is checked by the structural validator first, and then by further validators in their
order. These rely on the structure, so they do not see a document that the structural validator rejects.
-/

namespace ApiAtlas

/-- The structural validator and those after it. -/
structure ValidatorChain where
  others : List Validator := []

namespace ValidatorChain

/-- All validators of the chain in order. -/
def validators (chain : ValidatorChain) : List Validator := Structure.validator :: chain.others

def names (chain : ValidatorChain) : List String := chain.validators.map (·.name)

def append (chain : ValidatorChain) (others : List Validator) : ValidatorChain :=
  { others := chain.others ++ others }

/-- Builds from a document only if no validator rejects it; the first rejection counts. -/
def validate (chain : ValidatorChain) (doc : Document) : Except BuildError Unit :=
  chain.validators.forM fun validator =>
    (validator.validate doc).mapError (BuildError.ofViolation doc.path validator.name)

def outcomeOf (doc : Document) (validator : Validator) : String × Outcome :=
  match validator.validate doc with
  | .ok _ => (validator.name, .passed)
  | .error violation => (validator.name, .failed violation)

/-- Reports what each validator says. If the structural one rejects the document the others are skipped;
otherwise each of them is run. -/
def check (chain : ValidatorChain) (doc : Document) : DocumentReport :=
  let first := outcomeOf doc Structure.validator
  let others :=
    if first.2.isFailed then chain.others.map fun validator => (validator.name, .skipped)
    else chain.others.map (outcomeOf doc)
  { path := doc.path, outcomes := first :: others }

end ValidatorChain

end ApiAtlas
