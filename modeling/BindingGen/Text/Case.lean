import BindingGen.Text.CaseTable
import BindingGen.Text.CaseIgnorable

/-!
# Letter case

Classes and full case mappings of single characters, and the mappings of whole texts. Lowercasing a
text writes a sigma that ends a word in its final form; lowercasing a character never does.
-/

namespace BindingGen.Text

/-! ## Classes -/

def isLowercase (c : Char) : Bool :=
  if c.toNat < 128 then c.isLower else CodeSpan.anyContains lowercaseSpans c.toNat

def isUppercase (c : Char) : Bool :=
  if c.toNat < 128 then c.isUpper else CodeSpan.anyContains uppercaseSpans c.toNat

def isCased (c : Char) : Bool :=
  isLowercase c || isUppercase c || CodeSpan.anyContains titlecaseSpans c.toNat

/-! ## Mappings -/

/-- The mapping of a code point from 128 on: an expansion, a shift, or the character itself. -/
def mapCase (expansions : List (Nat × List Nat)) (shifts : List (CodeSpan × Int)) (c : Char) :
    List Char :=
  match expansions.lookup c.toNat with
  | some codes => codes.map Char.ofNat
  | none =>
    match shifts.find? (·.1.contains c.toNat) with
    | some (_, shift) => [Char.ofNat (c.toNat + shift).toNat]
    | none => [c]

def toLower (c : Char) : List Char :=
  if c.toNat < 128 then [c.toLower] else mapCase lowerExpansions lowerShifts c

def toUpper (c : Char) : List Char :=
  if c.toNat < 128 then [c.toUpper] else mapCase upperExpansions upperShifts c

/-- Two characters that differ at most in case. -/
def sameLetter (a b : Char) : Bool :=
  toUpper a == toUpper b || toLower a == toLower b

/-! ## Texts -/

/-- The nearest character with an influence on case context is a cased one. -/
def reachesCased (text : List Char) : Bool :=
  (text.dropWhile isCaseIgnorable).head?.any isCased

/-- Lowercases a text, given the characters before it, the nearest first. -/
def lowercaseAfter (before : List Char) : List Char → List Char
  | [] => []
  | c :: rest =>
    -- A sigma at the end of a word has a form of its own.
    (if c = 'Σ' then [if reachesCased before && !reachesCased rest then 'ς' else 'σ']
      else toLower c) ++ lowercaseAfter (c :: before) rest

def lowercase (text : List Char) : List Char := lowercaseAfter [] text

def uppercase (text : List Char) : List Char := text.flatMap toUpper

end BindingGen.Text
