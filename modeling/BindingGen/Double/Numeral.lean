import BindingGen.Double.Basic

/-!
# Numerals

What a numeral in a text may stand for, and the parts that numerals are made of: a sign and decimal
digits.
-/

namespace BindingGen

inductive Numeral where
  | finite (value : Double)
  | infinite (negative : Bool)
  | notANumber
  deriving DecidableEq, Repr

namespace Numeral

def digitsValue (digits : List Char) : Nat :=
  digits.foldl (fun n c => 10 * n + (c.toNat - 48)) 0

/-- A sign in front of a text. -/
def takeSign : List Char → Bool × List Char
  | '-' :: rest => (true, rest)
  | '+' :: rest => (false, rest)
  | text => (false, text)

end Numeral

end BindingGen
