import ApiAtlas.Schema.Node

/-! # Types of model fields

A type expression says what a field holds, by reference to other models by name.
-/

namespace ApiAtlas

namespace Model

open Schema (Primitive UnionMode)

/-- The type of a field, an item, a variant or a whole model. -/
inductive TypeExpr where
  | primitive (type : Primitive)
  | array (items : TypeExpr)
  | map (values : TypeExpr)
  | model (name : String)
  | union (mode : UnionMode) (variants : List TypeExpr)
  | any
deriving Repr, Inhabited

namespace TypeExpr

mutual
def same : TypeExpr → TypeExpr → Bool
  | .primitive a, .primitive b => a == b
  | .array a, .array b => same a b
  | .map a, .map b => same a b
  | .model a, .model b => a == b
  | .union m as, .union n bs => m == n && sameList as bs
  | .any, .any => true
  | _, _ => false

def sameList : List TypeExpr → List TypeExpr → Bool
  | [], [] => true
  | a :: as, b :: bs => same a b && sameList as bs
  | _, _ => false
end

mutual
theorem same_iff (a b : TypeExpr) : same a b = true ↔ a = b := by
  cases a <;> cases b <;> simp [same]
  case array a b => exact same_iff a b
  case map a b => exact same_iff a b
  case union m as n bs => simp [sameList_iff as bs]

theorem sameList_iff (as bs : List TypeExpr) : sameList as bs = true ↔ as = bs := by
  cases as <;> cases bs <;> simp [sameList]
  case cons a as b bs => rw [same_iff a b, sameList_iff as bs]
end

instance : DecidableEq TypeExpr := fun a b =>
  decidable_of_iff (same a b = true) (same_iff a b)

mutual
/-- The models that a type mentions, in order of mention. -/
def mentions : TypeExpr → List String
  | .model name => [name]
  | .array items => items.mentions
  | .map values => values.mentions
  | .union _ variants => mentionsList variants
  | .primitive _ => []
  | .any => []

def mentionsList : List TypeExpr → List String
  | [] => []
  | type :: rest => type.mentions ++ mentionsList rest
end

end TypeExpr

end Model

end ApiAtlas
