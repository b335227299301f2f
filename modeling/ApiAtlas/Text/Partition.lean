/-! # Partitions of the code points

A property with one value for every code point is constant on long runs. A partition lists the first
code point of each run with the value on it. It is written down as the lengths of the runs, each
followed by the name of its value in letters.
-/

namespace ApiAtlas

namespace Letter

/-- Runs of code points that begin where the one before ends: first code points, and values. -/
structure Partition (α : Type) where
  runs : Array (Nat × α)

namespace Partition

/-- The value of the last run that begins at or before a code point, among those with an index from
`low` on and below `high`. -/
def search {α : Type} (runs : Array (Nat × α)) (code low high : Nat) : Option α :=
  if high ≤ low + 1 then runs[low]?.map (·.2)
  else
    match runs[(low + high) / 2]? with
    | none => none
    | some (first, _) =>
      if first ≤ code then search runs code ((low + high) / 2) high
      else search runs code low ((low + high) / 2)
termination_by high - low

def at? {α : Type} (partition : Partition α) (code : Nat) : Option α :=
  search partition.runs code 0 partition.runs.size

/-- The runs that a text writes, the first of which begins at `first`. `length` and `name` are what
has been read of the length of the run and, in reverse, of the name of its value. -/
def readFrom {α : Type} (value? : String → Option α) (first length : Nat) (name : List Char)
    (done : Array (Nat × α)) : List Char → Array (Nat × α)
  | [] => close first name done
  | c :: rest =>
    if !c.isDigit then readFrom value? first length (c :: name) done rest
    else
      let digit := c.toNat - '0'.toNat
      if name.isEmpty then readFrom value? first (length * 10 + digit) [] done rest
      else readFrom value? (first + length) digit [] (close first name done) rest
where
  /-- The runs with one more, if its value has that name. -/
  close (first : Nat) (name : List Char) (done : Array (Nat × α)) : Array (Nat × α) :=
    match value? (String.ofList name.reverse) with
    | some value => done.push (first, value)
    | none => done

def ofLines {α : Type} (value? : String → Option α) (lines : List String) : Partition α :=
  ⟨readFrom value? 0 0 [] #[] (lines.flatMap String.toList)⟩

end Partition

end Letter

end ApiAtlas
