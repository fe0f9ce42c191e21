import BindingGen.Double.Basic

/-!
# Shortest decimals

The decimal of fewest digits among those that read back as the same number, and the nearest of
these. The digits come from testing, for one digit after another, the two neighbours on the decimal
grid.
-/

namespace BindingGen

/-- The number `digits` · 10 ^ `exponent`. -/
structure Decimal where
  digits : Nat
  exponent : Int
  deriving DecidableEq, Repr

namespace Double

/-! ## The interval that rounds to a number -/

/-- The ends of the interval in units of 2 ^ (`exponent` - 2), with the number itself in between.
The gap below a power of two is half as wide. -/
def roundingInterval (x : Double) : Nat × Nat × Nat :=
  let low := if x.significand = Nat.pow 2 52 && minExponent < x.exponent then 1 else 2
  (4 * x.significand - low, 4 * x.significand, 4 * x.significand + 2)

/-- A count of units of 2 ^ `exponent` over 10 ^ `spacing`, as a quotient. -/
def gridQuotient (units : Nat) (exponent spacing : Int) : Nat × Nat :=
  (units * Nat.pow 2 exponent.toNat * Nat.pow 10 (-spacing).toNat,
   Nat.pow 2 (-exponent).toNat * Nat.pow 10 spacing.toNat)

/-- The largest `k` with 10 ^ `k` at most the quotient of two positive numbers. -/
def floorLog10 (num den : Nat) : Int :=
  let k : Int := ((Nat.toDigits 10 num).length : Int) - (Nat.toDigits 10 den).length
  let fits := if 0 ≤ k then den * Nat.pow 10 k.toNat ≤ num else den ≤ num * Nat.pow 10 (-k).toNat
  if fits then k else k - 1

/-- The grid point nearest to the number among its two neighbours, if one reads back. -/
def gridPoint? (x : Double) (spacing : Int) : Option Nat :=
  let (low, mid, high) := x.roundingInterval
  let unit := x.exponent - 2
  let inside (point : Nat) : Bool :=
    let (lowNum, den) := gridQuotient low unit spacing
    let (highNum, _) := gridQuotient high unit spacing
    if x.significand % 2 = 0 then lowNum ≤ point * den && point * den ≤ highNum
    else lowNum < point * den && point * den < highNum
  let (num, den) := gridQuotient mid unit spacing
  let below := num / den
  match inside below, inside (below + 1) with
  | true, true => some (roundQuotient num den)
  | true, false => some below
  | false, true => some (below + 1)
  | false, false => none

def stripZeros : Nat → Decimal → Decimal
  | 0, d => d
  | fuel + 1, d =>
    if d.digits % 10 = 0 then stripZeros fuel ⟨d.digits / 10, d.exponent + 1⟩ else d

/-- Tries finer and finer grids; seventeen digits always suffice. -/
def shortestFrom (x : Double) (spacing : Int) : Nat → Decimal
  | 0 => ⟨0, 0⟩
  | fuel + 1 =>
    match x.gridPoint? spacing with
    | some point => stripZeros 18 ⟨point, spacing⟩
    | none => shortestFrom x (spacing - 1) fuel

/-- The shortest decimal of the magnitude. -/
def shortest (x : Double) : Decimal :=
  if x.isZero then ⟨0, 0⟩
  else
    let (num, den) := x.magnitude
    shortestFrom x (floorLog10 num den) 17

end Double

/-! ## Layout -/

namespace Decimal

def digitChars (d : Decimal) : List Char := Nat.toDigits 10 d.digits

/-- The exponent of the first digit. -/
def leadingExponent (d : Decimal) : Int := d.digitChars.length - 1 + d.exponent

/-- All digits in place, with a point only between digits that need one. -/
def positional (d : Decimal) : List Char :=
  let digits := d.digitChars
  if 0 ≤ d.exponent then digits ++ List.replicate d.exponent.toNat '0'
  else
    let places := (-d.exponent).toNat
    if places < digits.length then
      digits.take (digits.length - places) ++ '.' :: digits.drop (digits.length - places)
    else '0' :: '.' :: (List.replicate (places - digits.length) '0' ++ digits)

/-- Positional with at least one place. -/
def withPoint (d : Decimal) : List Char :=
  if 0 ≤ d.exponent then d.positional ++ ['.', '0'] else d.positional

/-- One digit before the point and a signed exponent. -/
def scientific (d : Decimal) : List Char :=
  let mantissa :=
    match d.digitChars with
    | [only] => [only]
    | first :: rest => first :: '.' :: rest
    | [] => []
  let e := d.leadingExponent
  mantissa ++ 'e' :: (if e < 0 then '-' else '+') :: Nat.toDigits 10 e.natAbs

end Decimal

namespace Double

def signed (x : Double) (text : List Char) : String :=
  String.ofList (if x.negative then '-' :: text else text)

/-- Always positional, with a point. -/
def plainText (x : Double) : String := x.signed x.shortest.withPoint

end Double

end BindingGen
