/-!
# Finite binary floating point

Numbers with a 53-bit significand and the exponent range of double precision, in exact integer
arithmetic. Each operation takes the exact quotient to the nearest number, ties to even, and has no
result when that number is out of range.
-/

namespace BindingGen

/-- The number ± `significand` · 2 ^ `exponent`. -/
structure Double where
  negative : Bool
  significand : Nat
  exponent : Int
  deriving DecidableEq, Repr

namespace Double

def minExponent : Int := -1074

def maxExponent : Int := 971

def zero (negative : Bool) : Double := ⟨negative, 0, minExponent⟩

def isZero (x : Double) : Bool := x.significand == 0

/-- Numbers with a full significand. Zeros and subnormal numbers are not normal. -/
def isNormal (x : Double) : Bool := Nat.pow 2 52 ≤ x.significand

def neg (x : Double) : Double := { x with negative := !x.negative }

/-! ## Rounding -/

/-- The nearest integer to a quotient, ties to even. -/
def roundQuotient (num den : Nat) : Nat :=
  let low := num / den
  let twice := 2 * (num % den)
  if den < twice || (twice == den && low % 2 == 1) then low + 1 else low

/-- The quotient in units of 2 ^ `exponent`, rounded. -/
def inUnits (num den : Nat) (exponent : Int) : Nat :=
  if 0 ≤ exponent then roundQuotient num (den * Nat.pow 2 exponent.toNat)
  else roundQuotient (num * Nat.pow 2 (-exponent).toNat) den

/-- The largest `k` with 2 ^ `k` at most the quotient of two positive numbers. -/
def floorLog2 (num den : Nat) : Int :=
  let k : Int := (num.log2 : Int) - den.log2
  let fits := if 0 ≤ k then den * Nat.pow 2 k.toNat ≤ num else den ≤ num * Nat.pow 2 (-k).toNat
  if fits then k else k - 1

/-- The number nearest to ± `num` / `den`. -/
def ofQuotient? (negative : Bool) (num den : Nat) : Option Double :=
  if num = 0 then some (zero negative)
  else
    let exponent := max minExponent (floorLog2 num den - 52)
    let units := inUnits num den exponent
    let rounded : Double :=
      if units = Nat.pow 2 53 then ⟨negative, Nat.pow 2 52, exponent + 1⟩
      else ⟨negative, units, exponent⟩
    if maxExponent < rounded.exponent then none else some rounded

def ofNat? (n : Nat) : Option Double := ofQuotient? false n 1

/-- The number nearest to ± `digits` · 10 ^ `exponent`. -/
def ofDecimal? (negative : Bool) (digits : Nat) (exponent : Int) : Option Double :=
  let size : Int := (Nat.toDigits 10 digits).length
  if digits = 0 || size + exponent < -330 then some (zero negative)
  else if 330 < size + exponent then none
  else if 0 ≤ exponent then ofQuotient? negative (digits * Nat.pow 10 exponent.toNat) 1
  else ofQuotient? negative digits (Nat.pow 10 (-exponent).toNat)

/-! ## Arithmetic -/

/-- The exact magnitude as a quotient. -/
def magnitude (x : Double) : Nat × Nat :=
  if 0 ≤ x.exponent then (x.significand * Nat.pow 2 x.exponent.toNat, 1)
  else (x.significand, Nat.pow 2 (-x.exponent).toNat)

/-- The signed exact value as a quotient. -/
def value (x : Double) : Int × Nat :=
  let (num, den) := x.magnitude
  (if x.negative then -(num : Int) else num, den)

/-- The sum. One of zero is negative only if both numbers are. -/
def add? (x y : Double) : Option Double :=
  let (a, b) := x.value
  let (c, d) := y.value
  let sum := a * d + c * b
  ofQuotient? (if sum = 0 then x.negative && y.negative else sum < 0) sum.natAbs (b * d)

def mul? (x y : Double) : Option Double :=
  ofQuotient? (x.negative != y.negative) (x.magnitude.1 * y.magnitude.1)
    (x.magnitude.2 * y.magnitude.2)

/-- The quotient by a number that is not zero. -/
def div? (x y : Double) : Option Double :=
  ofQuotient? (x.negative != y.negative) (x.magnitude.1 * y.magnitude.2)
    (x.magnitude.2 * y.magnitude.1)

/-! ## Order -/

def compareValues (x y : Int × Nat) : Ordering := compare (x.1 * y.2) (y.1 * x.2)

/-- Compares by value, so both zeros are equal. -/
def compareTo (x y : Double) : Ordering := compareValues x.value y.value

def compareToInt (x : Double) (n : Int) : Ordering := compareValues x.value (n, 1)

end Double

end BindingGen
