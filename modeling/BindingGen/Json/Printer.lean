import BindingGen.Json.Basic

/-!
# Writing JSON

The compact form: no blanks, members in the order in which they are held, and in strings only the
escapes that are required.
-/

namespace BindingGen.Json

/-! ## Numbers -/

/-- Positional while the leading exponent is from -5 to 15, scientific beyond. -/
def doubleText (x : Double) : String :=
  let d := x.shortest
  let e := d.leadingExponent
  x.signed (if -5 ≤ e ∧ e ≤ 15 then d.withPoint else d.scientific)

def Number.text : Number → String
  | integer n => toString n
  | double x => doubleText x

/-! ## Strings -/

def hexDigit (n : Nat) : Char := (Nat.digitChar n)

def escapeChar (c : Char) : List Char :=
  if c = '"' then ['\\', '"']
  else if c = '\\' then ['\\', '\\']
  else if c = '\n' then ['\\', 'n']
  else if c = '\r' then ['\\', 'r']
  else if c = '\t' then ['\\', 't']
  else if c = '\x08' then ['\\', 'b']
  else if c = '\x0c' then ['\\', 'f']
  else if c.toNat < 32 then
    ['\\', 'u', '0', '0', hexDigit (c.toNat / 16), hexDigit (c.toNat % 16)]
  else [c]

def stringText (s : String) : List Char := '"' :: (s.toList.flatMap escapeChar ++ ['"'])

/-! ## Values -/

mutual

def textChars : Json → List Char
  | null => ['n', 'u', 'l', 'l']
  | bool true => ['t', 'r', 'u', 'e']
  | bool false => ['f', 'a', 'l', 's', 'e']
  | number n => n.text.toList
  | string s => stringText s
  | array items => '[' :: (itemChars items ++ [']'])
  | object members => '\x7b' :: (memberChars members ++ ['\x7d'])

def itemChars : List Json → List Char
  | [] => []
  | [item] => textChars item
  | item :: next :: rest => textChars item ++ ',' :: itemChars (next :: rest)

def memberChars : List (String × Json) → List Char
  | [] => []
  | [(key, value)] => stringText key ++ ':' :: textChars value
  | (key, value) :: next :: rest =>
    stringText key ++ ':' :: (textChars value ++ ',' :: memberChars (next :: rest))

end

def text (value : Json) : String := String.ofList value.textChars

end BindingGen.Json
