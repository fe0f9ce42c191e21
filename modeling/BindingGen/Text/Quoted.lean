import BindingGen.Text.Unprintable

/-!
# Quoted text in messages

A text between double quotes in which every character that could be misread is escaped: quotes,
backslashes, controls, characters without a shape and characters that attach to the one before.
-/

namespace BindingGen.Text

/-- The escape by code point, in hexadecimal digits without leading zeros. -/
def codeEscape (c : Char) : List Char :=
  "\\u".toList ++ '\x7b' :: (Nat.toDigits 16 c.toNat ++ ['\x7d'])

def quoteChar (c : Char) : List Char :=
  if c = '\x00' then ['\\', '0']
  else if c = '\t' then ['\\', 't']
  else if c = '\r' then ['\\', 'r']
  else if c = '\n' then ['\\', 'n']
  else if c = '"' || c = '\\' then ['\\', c]
  else if isGraphemeExtend c || !isPrintable c then codeEscape c
  else [c]

def quoted (text : String) : String :=
  String.ofList ('"' :: (text.toList.flatMap quoteChar ++ ['"']))

end BindingGen.Text
