import ApiAtlas.Json.Basic

/-! # Multiples

Whether a number is a multiple of a unit. Both are taken as doubles. By an integral unit the division is
exact; otherwise both doubles are taken for the decimals that they were probably written as.
-/

namespace ApiAtlas

namespace Binary64

/-- The distance between 1 and the next double. -/
def epsilon : Rat := mkRat 1 leastFull

def isIntegral (x : Binary64) : Bool := x.value.den == 1

/-- A power by repeated squaring, every product rounded; `steps` bounds the binary digits of the
exponent. -/
def powerFrom (result base : Binary64) : (steps exponent : Nat) → Option Binary64
  | 0, _ => some result
  | steps + 1, exponent => do
    let next ← if exponent % 2 = 1 then result.mul base else some result
    if exponent / 2 = 0 then return next
    powerFrom next (← base.mul base) steps (exponent / 2)

/-- A power of ten; those up to 22 are exact. -/
def tenToThe (exponent : Nat) : Option Binary64 := do
  powerFrom (← ofNat 1) (← ofNat 10) 10 exponent

/-- The most decimal places that a double is taken for. -/
def mostPlaces : Nat := 340

/-- Looks for the least number of places, from `places` on, after which the double scaled by a power of
ten is an integer. -/
def decimalFrom? (x : Binary64) : (fuel places : Nat) → Option Rat
  | 0, _ => none
  | fuel + 1, places => do
    let scaled ← x.mul (← tenToThe places)
    if scaled.isIntegral then return mkRat scaled.value.num (Nat.pow 10 places)
    decimalFrom? x fuel (places + 1)

/-- The decimal that a double is taken for. A positive double below the precision of 1 is taken for
zero. -/
def decimal? (x : Binary64) : Option Rat :=
  if 0 ≤ x.value && decide (x.value < epsilon) then some 0 else decimalFrom? x mostPlaces 0

/-- Whether a double is a multiple of a unit that is no integer; every number is a multiple of zero. -/
def isDecimalMultipleOf (x unit : Binary64) : Bool :=
  match x.decimal?, unit.decimal? with
  | some a, some b => b == 0 || (a / b).den == 1
  | _, _ => true

end Binary64

def Json.Number.isMultipleOf (n unit : Json.Number) : Bool :=
  match n.nearestDouble?, unit.nearestDouble? with
  | some x, some y =>
    if y.isIntegral then (x.value / y.value).den == 1 else x.isDecimalMultipleOf y
  | _, _ => false

end ApiAtlas
