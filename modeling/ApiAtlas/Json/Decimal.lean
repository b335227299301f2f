import ApiAtlas.Json.Basic

/-! # Number text

A double is written with the fewest decimal digits that read back as the same double, and of those
with the digits nearest to it. Positional notation serves exponents from -5 to 15.
-/

namespace ApiAtlas

namespace Binary64

/-- The reals that round to a double lie between `low / den` and `high / den`, and the double itself
is `mid / den`. The ends belong to the interval when `closed` holds. -/
structure Interval where
  low : Nat
  mid : Nat
  high : Nat
  den : Nat
  closed : Bool

/-- The interval of a positive double. Below a power of two the neighbour is half as far. -/
def interval (x : Binary64) : Interval :=
  let below := if x.mantissa = leastFull ∧ leastExponent < x.exponent then 1 else 2
  let (unit, den) := scale 1 1 (x.exponent - 2)
  { low := (4 * x.mantissa - below) * unit
    mid := 4 * x.mantissa * unit
    high := (4 * x.mantissa + 2) * unit
    den := den
    closed := x.mantissa % 2 = 0 }

/-- Whether `n / d` lies in the interval. -/
def Interval.contains (i : Interval) (n d : Nat) : Bool :=
  if i.closed then i.low * d ≤ n * i.den && n * i.den ≤ i.high * d
  else i.low * d < n * i.den && n * i.den < i.high * d

/-- The number of decimal digits of a positive natural number. -/
def digitCount (n : Nat) : Nat := (Nat.toDigits 10 n).length

/-- The decimal exponent of `n / d` in scientific notation, both positive. -/
def decimalExponent (n d : Nat) : Int :=
  if d ≤ n then (digitCount (n / d) : Int) - 1
  else
    let k := digitCount d - digitCount n
    if d ≤ n * Nat.pow 10 k then -(k : Int) else -(k + 1 : Int)

/-- The decimal `c * 10 ^ e` as a fraction. -/
def decimalFraction (c : Nat) (e : Int) : Nat × Nat :=
  if 0 ≤ e then (c * Nat.pow 10 e.toNat, 1) else (c, Nat.pow 10 (-e).toNat)

/-- The decimal of the grid `10 ^ e` that stands for the interval: one of the two grid points around
its middle, the nearer one if both lie inside, and the even one if they are equally near. -/
def Interval.gridPoint? (i : Interval) (e : Int) : Option Nat :=
  let (n, d) :=
    if 0 ≤ e then (i.mid, i.den * Nat.pow 10 e.toNat) else (i.mid * Nat.pow 10 (-e).toNat, i.den)
  let c := n / d
  let inside (c : Nat) : Bool :=
    let (p, q) := decimalFraction c e
    i.contains p q
  match inside c && c != 0, inside (c + 1) with
  | true, true =>
    let twice := 2 * (n % d)
    if twice < d then some c else if d < twice then some (c + 1)
    else some (if c % 2 = 0 then c else c + 1)
  | true, false => some c
  | false, true => some (c + 1)
  | false, false => none

/-- Looks through the grids of `count + 1` down to `count + fuel` digits for the first that has a
point in the interval. -/
def Interval.shortestFrom (i : Interval) (exponent : Int) : Nat → Nat → Nat × Int
  | 0, _ => (0, 0)
  | fuel + 1, count =>
    let e := exponent - count
    match i.gridPoint? e with
    | some c => (c, e)
    | none => i.shortestFrom exponent fuel (count + 1)

/-- The shortest decimal `c * 10 ^ e` of a nonzero double, without its sign. Seventeen digits always
suffice. -/
def shortest (x : Binary64) : Nat × Int :=
  let i := x.interval
  i.shortestFrom (decimalExponent i.mid i.den) 17 0

/-- Drops the zeros at the end of a digit list, but keeps one digit. -/
def trimZeros (digits : List Char) : List Char :=
  match (digits.reverse.dropWhile (· == '0')).reverse with
  | [] => ['0']
  | trimmed => trimmed

/-- The least decimal exponent that is written positionally. -/
def leastPositional : Int := -5

/-- The first decimal exponent that is written with an exponent again. -/
def positionalBound : Int := 16

/-- The text of digits `d₀d₁…` with the decimal point after `d₀`, times `10 ^ exponent`. -/
def notation10 (digits : List Char) (exponent : Int) : List Char :=
  if leastPositional ≤ exponent ∧ exponent < positionalBound then
    if 0 ≤ exponent then
      let whole := exponent.toNat + 1
      let padded := digits ++ List.replicate (whole - digits.length) '0'
      let fractional := padded.drop whole
      padded.take whole ++ '.' :: (if fractional.isEmpty then ['0'] else fractional)
    else
      '0' :: '.' :: (List.replicate ((-exponent).toNat - 1) '0' ++ digits)
  else
    let mark := if 0 ≤ exponent then ['e', '+'] else ['e', '-']
    let point := match digits with
      | first :: rest@(_ :: _) => first :: '.' :: rest
      | _ => digits
    point ++ mark ++ Nat.toDigits 10 exponent.natAbs

def toText (x : Binary64) : String :=
  let sign := if x.negative then ['-'] else []
  if x.isZero then String.ofList (sign ++ ['0', '.', '0'])
  else
    let (c, e) := x.shortest
    let digits := Nat.toDigits 10 c
    String.ofList (sign ++ notation10 (trimZeros digits) (e + digits.length - 1))

/-- The text of the decimal `c * 10 ^ e` without an exponent, and with a point only before places. -/
def positional (c : Nat) (e : Int) : List Char :=
  let digits := Nat.toDigits 10 c
  if 0 ≤ e then digits ++ List.replicate e.toNat '0'
  else
    let places := (-e).toNat
    let padded := List.replicate (places + 1 - digits.length) '0' ++ digits
    let whole := padded.length - places
    match trimEnd (padded.drop whole) with
    | [] => padded.take whole
    | fractional => padded.take whole ++ '.' :: fractional
where
  /-- Drops the zeros at the end. -/
  trimEnd (digits : List Char) : List Char := (digits.reverse.dropWhile (· == '0')).reverse

/-- The text of a double without an exponent: all its shortest digits, and no point in an integer. -/
def toPositionalText (x : Binary64) : String :=
  let sign := if x.negative then ['-'] else []
  if x.isZero then String.ofList (sign ++ ['0'])
  else String.ofList (sign ++ positional x.shortest.1 x.shortest.2)

end Binary64

namespace Json.Number

def toText : Number → String
  | .int n => toString n
  | .double x => x.toText

/-- The text of the nearest double, without an exponent. -/
def toPositionalText (n : Number) : String :=
  match n.nearestDouble? with
  | some x => x.toPositionalText
  | none => n.toText

end Json.Number

end ApiAtlas
