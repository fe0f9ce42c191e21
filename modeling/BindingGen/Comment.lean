import BindingGen.Text.Blank

/-!
# Documentation text

A block comment becomes the text of a documentation string: without its markers and the stars that
align its lines, and with the lines after the first indented to the nesting depth.
-/

namespace BindingGen.Comment

open Text

/-! ## Lines -/

/-- Splits at line feeds. A line feed at the end closes the last line. -/
def splitLines : List Char → List (List Char)
  | [] => []
  | c :: rest =>
    if c = '\n' then [] :: splitLines rest
    else
      match splitLines rest with
      | [] => [[c]]
      | line :: lines => (c :: line) :: lines

/-- Removes blanks around a line and one leading star. -/
def stripDecoration (line : List Char) : List Char :=
  match trimStart line with
  | '*' :: rest => trim rest
  | kept => trim kept

/-! ## Markers -/

def stripOpening (text : List Char) : List Char :=
  match text with
  | '/' :: '/' :: rest => rest
  | '/' :: '*' :: rest => rest
  | _ => text

def stripClosing (text : List Char) : List Char :=
  (beforeSuffix? ['*', '/'] text).getD text

/-- What stands between the markers, without blanks at its ends. -/
def body (comment : List Char) : List Char := trim (stripClosing (stripOpening (trim comment)))

def contentLines (comment : List Char) : List (List Char) :=
  (splitLines (body comment)).map stripDecoration

/-! ## Layout -/

/-- The number of spaces in front of a line at a depth: four for each level. The product is one of
words, so that a depth of 2 ^ 62 or more wraps around. -/
def spaces (depth : BitVec 64) : Nat := (4 * depth).toNat

/-- Indents a line, unless it is empty, and ends it. -/
def indentLine (depth : BitVec 64) (line : List Char) : List Char :=
  if line.isEmpty then ['\n'] else List.replicate (spaces depth) ' ' ++ line ++ ['\n']

def layOut (depth : BitVec 64) : List (List Char) → List Char
  | [] => []
  | [only] => only
  | first :: rest => first ++ '\n' :: rest.flatMap (indentLine depth)

/-- Puts a period behind a final quote, which would run into the closing quotes. -/
def guardQuote (text : List Char) : List Char :=
  if text.getLast? = some '"' then text ++ ['.'] else text

def docTextChars (depth : BitVec 64) (comment : List Char) : List Char :=
  guardQuote (layOut depth (contentLines comment))

/-- The documentation text of a comment, which may be absent, at a nesting depth. -/
def docText (comment : Option String) (depth : BitVec 64) : String :=
  match comment with
  | none => ""
  | some text => String.ofList (docTextChars depth text.toList)

end BindingGen.Comment
