import ApiAtlas.Json.Basic

/-! # Facets

What a schema says about a value beside its structure: title, description, sample values, format,
the admitted values, whether null is admitted, and the constraint keywords.
-/

namespace ApiAtlas

namespace Schema

/-- The constraint keywords, in the order in which they are listed. -/
def constraintKeywords : List String :=
  ["minimum", "maximum", "exclusiveMinimum", "exclusiveMaximum", "multipleOf", "minLength",
   "maxLength", "pattern", "minItems", "maxItems", "uniqueItems", "minProperties", "maxProperties",
   "const"]

/-- The facets of a schema. Constraint values are kept as written, whatever they are. -/
structure Facets where
  title : Option String := none
  description : Option String := none
  sample : Option Json := none
  fallback : Option Json := none
  format : Option String := none
  choices : List Json := []
  nullable : Bool := false
  constraints : Table Json := []
deriving Repr, Inhabited

namespace Facets

/-- The sample value of a schema object: `example`, or else the first of `examples`. -/
def sampleOf (schema : Table Json) : Option Json :=
  match Table.get? "example" schema with
  | some value => some value
  | none => ((Table.get? "examples" schema).bind Json.items?).bind List.head?

/-- The facets of a schema object. A keyword with a value of the wrong type counts as absent, except
for the constraints. -/
def ofFields (schema : Table Json) : Facets where
  title := (Table.get? "title" schema).bind Json.text?
  description := (Table.get? "description" schema).bind Json.text?
  sample := sampleOf schema
  fallback := Table.get? "default" schema
  format := (Table.get? "format" schema).bind Json.text?
  choices := ((Table.get? "enum" schema).bind Json.items?).getD []
  nullable := ((Table.get? "nullable" schema).bind Json.bool?).getD false
  constraints := constraintKeywords.filterMap fun keyword =>
    (Table.get? keyword schema).map (keyword, ·)

/-- Takes over from `other` what is not set here. -/
def fillFrom (facets other : Facets) : Facets where
  title := facets.title.or other.title
  description := facets.description.or other.description
  sample := facets.sample.or other.sample
  fallback := facets.fallback.or other.fallback
  format := facets.format.or other.format
  choices := if facets.choices.isEmpty then other.choices else facets.choices
  nullable := facets.nullable || other.nullable
  constraints := other.constraints.foldl (fun acc c => Table.putNew c.1 c.2 acc) facets.constraints

def sameOptional : Option Json → Option Json → Bool
  | none, none => true
  | some a, some b => a.same b
  | _, _ => false

/-- Equality of facets; constraints are compared as tables. -/
def same (a b : Facets) : Bool :=
  a.title == b.title && a.description == b.description && sameOptional a.sample b.sample
    && sameOptional a.fallback b.fallback && a.format == b.format
    && Json.sameItems a.choices b.choices && a.nullable == b.nullable
    && (Json.object a.constraints).same (.object b.constraints)

end Facets

end Schema

end ApiAtlas
