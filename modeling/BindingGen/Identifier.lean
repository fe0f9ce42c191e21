import BindingGen.Text.Case

/-!
# Identifiers

The one spelling of generated names: lowercase words joined by single underscores, with the acronyms
that schemas write letter by letter put together again. A constant is the same in upper case.
-/

namespace BindingGen.Identifier

open Text

/-! ## Words -/

/-- An uppercase letter starts a word after a lowercase letter or a digit, and at the last capital
of an acronym when a lowercase letter follows. -/
def startsWord (previous : Option Char) (c : Char) (next : Option Char) : Bool :=
  match previous with
  | none => false
  | some p =>
    isUppercase c &&
      (isLowercase p || p.isDigit || (isUppercase p && next.any isLowercase))

/-- Puts an underscore before each word of a mixed-case name and lowercases it. -/
def splitWords (previous : Option Char) : List Char → List Char
  | [] => []
  | c :: rest =>
    (if startsWord previous c rest.head? then '_' :: toLower c else toLower c) ++
      splitWords (some c) rest

/-- A name without lowercase letters is separated already. -/
def lowerWords (raw : List Char) : List Char :=
  if raw.any isLowercase then splitWords none raw else lowercase raw

def collapseUnderscores : List Char → List Char
  | [] => []
  | c :: rest =>
    if c = '_' && rest.head? = some '_' then collapseUnderscores rest
    else c :: collapseUnderscores rest

/-! ## Acronyms -/

/-- Rejoins an acronym of three letters that was written letter by letter, in either case. -/
def rejoinAcronym (a b c : Char) : List Char → List Char
  | x :: '_' :: y :: '_' :: z :: '_' :: rest =>
    if sameLetter a x && sameLetter b y && sameLetter c z then
      -- The underscore that ends the acronym does not begin another search.
      a :: b :: c :: '_' :: rejoinAcronym a b c rest
    else x :: rejoinAcronym a b c ('_' :: y :: '_' :: z :: '_' :: rest)
  | x :: rest => x :: rejoinAcronym a b c rest
  | [] => []

def rejoinAcronyms (name : List Char) : List Char :=
  rejoinAcronym 'c' 't' 'e' (rejoinAcronym 's' 'q' 'l' name)

/-! ## Spellings -/

def normalizeChars (raw : List Char) : List Char :=
  rejoinAcronyms (collapseUnderscores (lowerWords raw))

def normalize (raw : String) : String := String.ofList (normalizeChars raw.toList)

def constant (raw : String) : String := String.ofList (uppercase (normalizeChars raw.toList))

end BindingGen.Identifier
