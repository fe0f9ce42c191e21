import BindingGen.Text.Quoted
import BindingGen.Json.Printer

/-!
# Faults of a JSON text

What can be wrong with a text or with the shape of what it says, and where. A fault's place is kept
as the text that was left, and becomes a line and a column when the message is written.
-/

namespace BindingGen.Json

inductive Fault where
  | endInValue
  | endInArray
  | endInObject
  | endInString
  | expectedValue
  | expectedIdentifier
  | expectedColon
  | expectedArrayEnd
  | expectedObjectEnd
  | keyNotString
  | trailingComma
  | trailingCharacters
  | invalidNumber
  | numberOutOfRange
  | invalidEscape
  | incompleteEscape
  | loneSurrogate
  | controlCharacter
  | tooDeep
  | invalidType (found expected : String)
  | invalidValue (found expected : String)
  | missingField (name : String)
  | duplicateField (name : String)
  deriving DecidableEq, Repr

def Fault.message : Fault → String
  | endInValue => "EOF while parsing a value"
  | endInArray => "EOF while parsing a list"
  | endInObject => "EOF while parsing an object"
  | endInString => "EOF while parsing a string"
  | expectedValue => "expected value"
  | expectedIdentifier => "expected ident"
  | expectedColon => "expected `:`"
  | expectedArrayEnd => "expected `,` or `]`"
  | expectedObjectEnd => "expected `,` or `\x7d`"
  | keyNotString => "key must be a string"
  | trailingComma => "trailing comma"
  | trailingCharacters => "trailing characters"
  | invalidNumber => "invalid number"
  | numberOutOfRange => "number out of range"
  | invalidEscape => "invalid escape"
  | incompleteEscape => "unexpected end of hex escape"
  | loneSurrogate => "lone leading surrogate in hex escape"
  | controlCharacter => "control character (\\u0000-\\u001F) found while parsing a string"
  | tooDeep => "recursion limit exceeded"
  | invalidType found expected => "invalid type: " ++ found ++ ", expected " ++ expected
  | invalidValue found expected => "invalid value: " ++ found ++ ", expected " ++ expected
  | missingField name => "missing field `" ++ name ++ "`"
  | duplicateField name => "duplicate field `" ++ name ++ "`"

/-! ## Places -/

/-- A place in a text: the text that is left there, and bytes of it that are passed as well. -/
structure Mark where
  rest : List Char
  bytes : Nat
  deriving DecidableEq, Repr

def Mark.before (rest : List Char) : Mark := ⟨rest, 0⟩

/-- Behind the next byte. -/
def Mark.after (rest : List Char) : Mark := ⟨rest, 1⟩

/-- A line, counted from one, and the bytes passed in it. -/
structure Position where
  line : Nat
  column : Nat
  deriving DecidableEq, Repr

def Position.advance (p : Position) (c : Char) : Position :=
  if c = '\n' then ⟨p.line + 1, 0⟩ else ⟨p.line, p.column + c.utf8Size⟩

/-- Passes bytes, which may end within a character. -/
def Position.advanceBytes (p : Position) (bytes : Nat) : List Char → Position
  | [] => p
  | c :: rest =>
    if bytes = 0 then p
    else if bytes < c.utf8Size then ⟨p.line, p.column + bytes⟩
    else (p.advance c).advanceBytes (bytes - c.utf8Size) rest

def Mark.position (text : List Char) (mark : Mark) : Position :=
  let passed := text.take (text.length - mark.rest.length)
  (passed.foldl Position.advance ⟨1, 0⟩).advanceBytes mark.bytes mark.rest

/-! ## Errors -/

structure ReadError where
  fault : Fault
  mark : Mark
  deriving DecidableEq, Repr

def ReadError.message (text : List Char) (error : ReadError) : String :=
  let p := error.mark.position text
  error.fault.message ++ " at line " ++ toString p.line ++ " column " ++ toString p.column

end BindingGen.Json
