/-! # Tables in order of insertion

Documents, schemas and models are read in the order in which they were written, so a table is a
list of pairs. Writing a key that is already there replaces its value and leaves its position.
-/

namespace ApiAtlas

/-- A table from names to values, in order of first insertion. -/
abbrev Table (α : Type) := List (String × α)

namespace Table

variable {α : Type}

/-- The value of the first entry with this key. -/
def get? (key : String) : Table α → Option α
  | [] => none
  | (k, v) :: rest => if k = key then some v else get? key rest

def has (key : String) (table : Table α) : Bool := (get? key table).isSome

/-- The keys in order. -/
def keys (table : Table α) : List String := table.map (·.1)

/-- Replaces the value of a key where it stands, or appends a new entry. -/
def put (key : String) (value : α) : Table α → Table α
  | [] => [(key, value)]
  | (k, v) :: rest => if k = key then (k, value) :: rest else (k, v) :: put key value rest

/-- Appends an entry unless its key is already there. -/
def putNew (key : String) (value : α) (table : Table α) : Table α :=
  if has key table then table else table ++ [(key, value)]

/-- The table that results from writing the entries one after another. -/
def ofEntries (entries : List (String × α)) : Table α :=
  entries.foldl (fun table entry => put entry.1 entry.2 table) []

end Table

end ApiAtlas
