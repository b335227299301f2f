/-! # Doubles as exact numbers

A finite double is an integer times a power of two. Every operation is exact arithmetic on that
form followed by one rounding to the nearest double, a tie going to the even neighbour.
-/

namespace ApiAtlas

/-- The finite double `mantissa * 2 ^ exponent`, negated when `negative` holds. In the form that
`round` builds, either `2 ^ 52 ≤ mantissa < 2 ^ 53`, or `mantissa < 2 ^ 52` and the exponent is the
least one. -/
structure Binary64 where
  negative : Bool
  mantissa : Nat
  exponent : Int
deriving DecidableEq, Repr, Inhabited

namespace Binary64

/-- The exponent of the smallest positive double. -/
def leastExponent : Int := -1074

/-- The exponent of the largest doubles. -/
def greatestExponent : Int := 971

/-- Zero, with a sign. -/
def zero (negative : Bool) : Binary64 := ⟨negative, 0, leastExponent⟩

/-- The least mantissa of full precision, `2 ^ 52`. -/
def leastFull : Nat := Nat.pow 2 52

def isZero (x : Binary64) : Bool := x.mantissa == 0

/-- Numerator and denominator of `n / d * 2 ^ e`. -/
def scale (n d : Nat) (e : Int) : Nat × Nat :=
  if 0 ≤ e then (n * Nat.pow 2 e.toNat, d) else (n, d * Nat.pow 2 (-e).toNat)

/-- The quotient rounded to the nearest integer, a tie to the even one. -/
def divToNearest (n d : Nat) : Nat :=
  let q := n / d
  let twice := 2 * (n % d)
  if twice < d then q
  else if d < twice then q + 1
  else if q % 2 = 0 then q else q + 1

/-- The exponent at which `n / d` has a 53-bit integer part, but no less than the least exponent. -/
def exponentFor (n d : Nat) : Int :=
  let guess : Int := (Nat.log2 n : Int) - (Nat.log2 d : Int) - 52
  let (n', d') := scale n d (-guess)
  max leastExponent (if n' / d' < leastFull then guess - 1 else guess)

/-- The double nearest to `n / d`; `none` when it would exceed every finite double. -/
def round (negative : Bool) (n d : Nat) : Option Binary64 :=
  if n = 0 then some (zero negative)
  else
    let e := exponentFor n d
    let (n', d') := scale n d (-e)
    let m := divToNearest n' d'
    let (m, e) := if m = 2 * leastFull then (leastFull, e + 1) else (m, e)
    if e ≤ greatestExponent then some ⟨negative, m, e⟩ else none

/-- The magnitude as a fraction. -/
def fraction (x : Binary64) : Nat × Nat := scale x.mantissa 1 x.exponent

def value (x : Binary64) : Rat :=
  let (n, d) := x.fraction
  let magnitude : Rat := (n : Rat) / (d : Rat)
  if x.negative then -magnitude else magnitude

def ofNat (n : Nat) : Option Binary64 := round false n 1

def mul (x y : Binary64) : Option Binary64 :=
  let (a, b) := x.fraction
  let (c, d) := y.fraction
  round (x.negative != y.negative) (a * c) (b * d)

/-- The double nearest to a quotient; `none` for a zero divisor. -/
def div (x y : Binary64) : Option Binary64 :=
  let (a, b) := x.fraction
  let (c, d) := y.fraction
  if c = 0 then none else round (x.negative != y.negative) (a * d) (b * c)

def greatestPowerOfTen : Nat := 308

/-- A decimal literal `significand * 10 ^ exponent` is read in two roundings: the significand
first, then one product or quotient with the nearest double of a power of ten. An exponent below the
powers of ten takes a quotient by the greatest of them before. -/
def ofScientific (significand : Nat) (exponent : Int) : Option Binary64 := do
  let x ← ofNat significand
  if x.isZero then return x
  if 0 ≤ exponent then
    if exponent ≤ greatestPowerOfTen then x.mul (← ofNat (Nat.pow 10 exponent.toNat)) else none
  else
    let down := (-exponent).toNat
    if down ≤ greatestPowerOfTen then x.div (← ofNat (Nat.pow 10 down))
    else
      let y ← x.div (← ofNat (Nat.pow 10 greatestPowerOfTen))
      let rest := down - greatestPowerOfTen
      if rest ≤ greatestPowerOfTen then y.div (← ofNat (Nat.pow 10 rest)) else return zero false

def neg (x : Binary64) : Binary64 := { x with negative := !x.negative }

end Binary64

end ApiAtlas
