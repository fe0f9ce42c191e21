import BindingGen.Template.Token

/-!
# Blank control

Which blanks around tags belong to the text. A tag with a trimming mark removes all blanks on that
side. A tag that shows nothing and stands alone on its line takes the whole line with it.
-/

namespace BindingGen.Template.Spacing

def isIndent (c : Char) : Bool := c = ' ' || c = '\t'

def isNewline (c : Char) : Bool := c = '\n' || c = '\r'

/-! ## Lines -/

/-- Whether a text in front of a tag leaves the tag at the beginning of a line. -/
def endsAtLineStart (atStart : Bool) (lead : List Char) : Bool :=
  match (Text.dropEndWhile isIndent lead).getLast? with
  | some c => isNewline c
  | none => atStart

/-- Whether nothing but indentation stands between a tag and the end of its line. -/
def startsAtLineEnd (atEnd : Bool) (behind : List Char) : Bool :=
  match behind.dropWhile isIndent with
  | c :: _ => isNewline c
  | [] => atEnd && behind.isEmpty

def indentation (lead : List Char) : List Char := (lead.reverse.takeWhile isIndent).reverse

def dropNewline : List Char → List Char
  | '\r' :: '\n' :: rest => rest
  | '\n' :: rest => rest
  | text => text

/-- Removes the rest of a line of which only a tag was left. -/
def dropLineEnd (text : List Char) : List Char := dropNewline (text.dropWhile isIndent)

/-! ## Text between tags -/

/-- What the tag in front of a text asks for: to drop the blanks at its start, or the rest of the
tag's line. -/
structure Demand where
  dropBlanks : Bool
  dropLine : Bool
  deriving DecidableEq, Repr

def Demand.none : Demand := ⟨false, false⟩

def Demand.apply (demand : Demand) (text : List Char) : List Char :=
  if demand.dropBlanks then Text.trimStart text
  else if demand.dropLine then dropLineEnd text
  else text

/-- The text between two tags. One of nothing but blanks that is dropped leaves the demand to the
next. -/
def between (demand : Demand) (lead : List Char) : List Char × Demand :=
  if lead.all Grammar.isSpace && (lead.isEmpty || demand.dropBlanks) then ([], demand)
  else (demand.apply lead, { demand with dropLine := false })

/-- The text of a raw block, without the blanks at its start. -/
def raw (demand : Demand) (lead : List Char) : List Char × Demand :=
  (demand.apply (lead.dropWhile Grammar.isSpace), demand)

end Spacing

/-! ## Tags -/

namespace Tag

/-- Output stays on its line. -/
def mayStandAlone : Tag → Bool
  | call _ => false
  | value _ => false
  | _ => true

end Tag

/-- A tag with the text in front of it as it is shown. -/
structure Step where
  text : List Char
  place : Place
  tag : Tag
  fromLineStart : Bool
  indent : List Char
  deriving Repr

structure Steps where
  tagged : List Step
  final : List Char
  deriving Repr

namespace Steps

open Spacing

/-- What a tag asks of the text behind it, and whether it stands alone on its line. -/
def demandAfter (token : Token) (demand : Demand) (standsAlone : Bool) : Demand :=
  match token.tag with
  | .comment => { demand with dropLine := standsAlone }
  | tag => ⟨token.trim.after, if tag.mayStandAlone then standsAlone else demand.dropLine⟩

/-- The steps of the tokens behind a tag. `atStart` holds before the first of all tags, `inRaw`
inside a raw block. -/
def ofTokensFrom (final : List Char) (atStart inRaw : Bool) (demand : Demand) :
    List Token → Steps
  | [] => ⟨[], (between demand final).1⟩
  | token :: rest =>
    let behind := match rest with
      | [] => final
      | next :: _ => next.lead
    let (text, left) := if inRaw then raw demand token.lead else between demand token.lead
    let standsAlone := token.tag.mayStandAlone && endsAtLineStart atStart token.lead &&
      startsAtLineEnd rest.isEmpty behind
    let trimmed := if token.trim.before then Text.trimEnd text else text
    let step : Step :=
      { text := if standsAlone then Text.dropEndWhile isIndent trimmed else trimmed
        place := token.place
        tag := token.tag
        fromLineStart := standsAlone && !token.trim.before
        indent := if token.trim.before then [] else indentation token.lead }
    let opensRaw := match token.tag with
      | .rawOpening _ => true
      | _ => false
    let steps := ofTokensFrom final false opensRaw (demandAfter token left standsAlone) rest
    { steps with tagged := step :: steps.tagged }

def ofTokens (tokens : Tokens) : Steps :=
  ofTokensFrom tokens.final true false .none tokens.tagged

end Steps

end BindingGen.Template
