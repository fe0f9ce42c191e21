import BindingGen.Text.Quoted
import BindingGen.Template.Syntax

/-!
# Defects of a template

Why a text is no template, and the message of each reason. A pair of tags that do not match is shown
in the lines around it.
-/

namespace BindingGen.Template

/-- Pairs of tags that go by one name. -/
inductive Pairing where
  | helper
  | decorator
  deriving DecidableEq, Repr

inductive Defect where
  | malformed
  | invalidParameter (written : String)
  | mismatch (pairing : Pairing) (opened closed : String) (place : Place)
  deriving DecidableEq, Repr

def Pairing.word : Pairing → String
  | helper => "helper"
  | decorator => "decorator"

namespace Defect

def reason : Defect → String
  | malformed => "invalid handlebars syntax"
  | invalidParameter written => "invalid parameter " ++ Text.quoted written
  | mismatch pairing opened closed _ =>
    pairing.word ++ " " ++ Text.quoted opened ++ " was opened, but " ++
      Text.quoted closed ++ " is closing"

/-! ## Excerpts -/

/-- The lines of a text, without their ends. -/
def sourceLines (text : String) : List String :=
  let lines := (text.splitOn "\n")
  let kept := if lines.getLast? = some "" then lines.dropLast else lines
  kept.map fun line =>
    if line.endsWith "\r" then String.ofList line.toList.dropLast else line

def leftPad (width : Nat) (text : String) : String :=
  String.ofList (List.replicate (width - text.length) ' ') ++ text

/-- A rule as long as the line, with a mark behind the column. -/
def underline (column : Nat) (line : String) : String :=
  String.ofList ((List.range line.utf8ByteSize).map fun i => if i = column then '^' else '-')

/-- Up to three lines on each side of the place. Lines are counted from zero here. -/
def excerpt (place : Place) (text : String) : String :=
  String.join ((sourceLines text).zipIdx.map fun (line, i) =>
    if place.line - 3 ≤ i ∧ i ≤ place.line + 3 then
      leftPad 4 (toString i) ++ " | " ++ line ++ "\n" ++
        (if i + 1 = place.line then "     |" ++ underline place.column line ++ "\n" else "")
    else "")

/-- The message of a defect found in a text. -/
def message (defect : Defect) (text : String) : String :=
  "Failed to parse template " ++
    match defect with
    | mismatch _ _ _ place =>
      "Template error: " ++ defect.reason ++ "\n    --> Template error in \"Unnamed\":" ++
        toString place.line ++ ":" ++ toString place.column ++ "\n     |\n" ++
        excerpt place text ++ "     |\n     = reason: " ++ defect.reason ++ "\n"
    | _ => defect.reason

end Defect

end BindingGen.Template
