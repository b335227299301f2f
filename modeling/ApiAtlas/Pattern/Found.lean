import Std.Data.HashSet

/-! # What is found, in order

Members in the order in which they are found, each of them once. A set beside the list tells whether a
member is there already.
-/

namespace ApiAtlas

/-- Members in reverse order, none of them twice, and the set of them. -/
structure Found (α : Type) [BEq α] [Hashable α] where
  reversed : List α := []
  seen : Std.HashSet α := ∅

namespace Found

variable {α : Type} [BEq α] [Hashable α]

def nothing : Found α := {}

def contains (found : Found α) (a : α) : Bool := found.seen.contains a

/-- Adds a member, unless it is there. -/
def add (found : Found α) (a : α) : Found α :=
  if found.contains a then found else ⟨a :: found.reversed, found.seen.insert a⟩

def addAll (found : Found α) (more : List α) : Found α := more.foldl add found

/-- The members in order. -/
def toList (found : Found α) : List α := found.reversed.reverse

/-- The members of a list, each once, at its first place. -/
def distinct (list : List α) : List α := (nothing.addAll list).toList

end Found

end ApiAtlas
