import BindingGen.Double.Shortest
import BindingGen.Text.Quoted
import BindingGen.Toml.Document

/-!
# Complaints about TOML values

What is said about a value of the wrong kind, or about digits that are no character, with the line
that it stands in and a rule below it.
-/

namespace BindingGen.Toml

open Text.Scan (Span)

/-- A complaint about what stands at a place. -/
structure Complaint where
  reason : String
  span : Span
  deriving DecidableEq, Repr

/-! ## Reasons -/

def numeralText : Numeral → String
  | .finite x => x.plainText
  | .infinite negative => if negative then "-inf" else "inf"
  | .notANumber => "NaN"

def invalidType (found expected : String) : String :=
  "invalid type: " ++ found ++ ", expected " ++ expected

/-- An integer with a sign of 64 bits or without one. -/
def isWord (n : Int) : Bool := -Nat.pow 2 63 ≤ n && n < Nat.pow 2 64

/-- Numbers that no word of any length holds have no kind. -/
def integerMismatch (n : Int) (expected : String) : String :=
  let shown := "integer `" ++ toString n ++ "`"
  if isWord n then invalidType shown expected
  else if -Nat.pow 2 127 ≤ n && n < Nat.pow 2 127 then invalidType (shown ++ " as i128") expected
  else if 0 ≤ n && n < Nat.pow 2 128 then invalidType (shown ++ " as u128") expected
  else "integer number overflowed"

/-- Points in time are of the kind of tables. -/
def mismatch (expected : String) : Value → String
  | .string text => invalidType ("string " ++ Text.quoted text) expected
  | .integer n => integerMismatch n expected
  | .float (some x) => invalidType ("floating point `" ++ numeralText x ++ "`") expected
  | .float none => "floating-point number overflowed"
  | .boolean b => invalidType ("boolean `" ++ toString b ++ "`") expected
  | .moment _ => invalidType "map" expected
  | .inlineTable _ => invalidType "map" expected
  | .table _ _ => invalidType "map" expected
  | .array _ => invalidType "sequence" expected
  | .tables _ => invalidType "sequence" expected

/-! ## Excerpts -/

def bytes (text : List Char) : Nat := (String.ofList text).utf8ByteSize

/-- The part of a line before its end. -/
def restOfLine (text : List Char) : List Char := text.takeWhile (· ≠ '\n')

def spaces (count : Nat) : String := String.ofList (List.replicate count ' ')

/-- A rule as long as what is complained about, in bytes, as far as its line goes. -/
def rule (length : Nat) : String := String.ofList (List.replicate (max 1 length) '^')

/-- The complaint below the line that it is about. Lines and columns count from one. -/
def Complaint.message (complaint : Complaint) (text : List Char) : String :=
  let before := text.take complaint.span.start
  let lineNumber := toString (before.count '\n' + 1)
  let lead := (before.reverse.takeWhile (· ≠ '\n')).reverse
  let column := lead.length
  let line := lead ++ restOfLine (text.drop complaint.span.start)
  let found := (text.drop complaint.span.start).take (complaint.span.stop - complaint.span.start)
  let margin := spaces (lineNumber.length + 1)
  "TOML parse error at line " ++ lineNumber ++ ", column " ++ toString (column + 1) ++ "\n" ++
    margin ++ "|\n" ++ lineNumber ++ " | " ++ String.ofList line ++ "\n" ++ margin ++ "|" ++
    spaces (column + 1) ++ rule (min (bytes found) (bytes line - column)) ++ "\n" ++
    complaint.reason ++ "\n"

/-- What is said about a text that describes no table. -/
def Fault.message (fault : Fault) (text : List Char) : String :=
  match fault with
  | .noCharacter place =>
    Complaint.message ⟨"invalid value, expected unicode hexadecimal value", ⟨place, place⟩⟩ text
  | .other => "TOML parse error\n"

end BindingGen.Toml
