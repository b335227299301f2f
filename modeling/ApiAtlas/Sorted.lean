/-! # Sorted sets and tables

Names, status codes and models are listed in increasing order. Both structures are lists whose
keys increase strictly; strings are compared by code point, which is also the order of their
UTF-8 bytes.
-/

namespace ApiAtlas

/-- A set, listed in increasing order. -/
abbrev SortedSet (α : Type) := List α

namespace SortedSet

variable {α : Type} [LT α] [DecidableLT α] [DecidableEq α]

def insert (x : α) : SortedSet α → SortedSet α
  | [] => [x]
  | y :: rest => if x = y then y :: rest else if x < y then x :: y :: rest else y :: insert x rest

def insertAll (xs : List α) (set : SortedSet α) : SortedSet α :=
  xs.foldl (fun acc x => insert x acc) set

def ofList (xs : List α) : SortedSet α := insertAll xs []

end SortedSet

/-- A table whose keys increase. -/
abbrev SortedTable (κ α : Type) := List (κ × α)

namespace SortedTable

variable {κ α : Type} [LT κ] [DecidableLT κ] [DecidableEq κ]

def get? (key : κ) : SortedTable κ α → Option α
  | [] => none
  | (k, v) :: rest => if k = key then some v else get? key rest

/-- Stores a value under its key, in place of an earlier one. -/
def put (key : κ) (value : α) : SortedTable κ α → SortedTable κ α
  | [] => [(key, value)]
  | (k, v) :: rest =>
    if key = k then (key, value) :: rest
    else if key < k then (key, value) :: (k, v) :: rest
    else (k, v) :: put key value rest

/-- The keys in increasing order. -/
def keys (table : SortedTable κ α) : List κ := table.map (·.1)

end SortedTable

end ApiAtlas
