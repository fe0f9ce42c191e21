import BindingGen.Double.Numeral
import BindingGen.Json.Lexical
import BindingGen.Json.Printer

/-!
# Values in templates

How a value is shown, when it counts as true, how values compare, and which part of a value a step
of a path names.
-/

namespace BindingGen.Template

/-! ## Showing -/

mutual

/-- Strings are shown bare and arrays in brackets. Of an object only its kind is shown. -/
def shown : Json → List Char
  | .null => []
  | .bool true => ['t', 'r', 'u', 'e']
  | .bool false => ['f', 'a', 'l', 's', 'e']
  | .number n => n.text.toList
  | .string s => s.toList
  | .array items => '[' :: shownItems items ++ [']']
  | .object _ => ['[', 'o', 'b', 'j', 'e', 'c', 't', ']']

def shownItems : List Json → List Char
  | [] => []
  | [item] => shown item
  | item :: next :: rest => shown item ++ ',' :: ' ' :: shownItems (next :: rest)

end

/-! ## Truth -/

/-- Zero and numbers too small to be normal are false, unless zero is included. -/
def numberHolds (includeZero : Bool) : Json.Number → Bool
  | .integer n => includeZero || n ≠ 0
  | .double x => includeZero || x.isNormal

/-- Null and everything empty is false. -/
def holds (includeZero : Bool) : Json → Bool
  | .null => false
  | .bool b => b
  | .number n => numberHolds includeZero n
  | .string s => s ≠ ""
  | .array items => !items.isEmpty
  | .object members => !members.isEmpty

/-! ## Order -/

def compareNumbers : Json.Number → Json.Number → Ordering
  | .integer a, .integer b => compare a b
  | .integer a, .double y => (y.compareToInt a).swap
  | .double x, .integer b => x.compareToInt b
  | .double x, .double y => x.compareTo y

/-- The number that a text is as a whole. -/
def numberIn? (text : String) : Option Json.Number :=
  match Json.readNumber text.toList with
  | .ok (n, []) => some n
  | _ => none

def compareWithText (n : Json.Number) (text : String) : Option Ordering :=
  (numberIn? text).map (compareNumbers n)

/-- Values of one kind compare, and numbers with the numbers in strings. -/
def compareValues? : Json → Json → Option Ordering
  | .number a, .number b => some (compareNumbers a b)
  | .string a, .string b => some (compare a b)
  | .bool a, .bool b => some (compare a b)
  | .number n, .string text => compareWithText n text
  | .string text, .number n => (compareWithText n text).map Ordering.swap
  | _, _ => none

/-! ## Parts -/

/-- The position that a step names in decimal digits. -/
def position? (step : String) : Option Nat :=
  let digits := match step.toList with
    | '+' :: rest => rest
    | text => text
  if digits.isEmpty || !digits.all Char.isDigit then none else some (Numeral.digitsValue digits)

/-- The number that can count or index: an integer of 64 bits without a sign. -/
def count? : Json → Option (BitVec 64)
  | .number (.integer (.ofNat n)) => if h : n < 2 ^ 64 then some (BitVec.ofNatLT n h) else none
  | _ => none

/-- The number of parts of a value; of a string, its bytes. -/
def size : Json → Nat
  | .string s => s.utf8ByteSize
  | .array items => items.length
  | .object members => members.length
  | _ => 0

end BindingGen.Template
