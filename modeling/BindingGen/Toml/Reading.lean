import BindingGen.Toml.Lexical

/-!
# Reading TOML

A text is a sequence of lines with at most one statement each. It is read as a whole or not at all.
-/

namespace BindingGen.Toml

open Text Text.Scan

/-! ## Keys -/

def isKeyChar (c : Char) : Bool := c.isAlphanum || c = '_' || c = '-'

def bareKey : Scan (Except Fault String) := do
  let word ← someRun fun c => isWordChar c && c ≠ '.'
  return if word.all isKeyChar then .ok (String.ofList word) else .error .other

def simpleKey (total : Nat) : Scan (Except Fault Key) := do
  let (text, span) ← located total (anyShortString total <|> bareKey)
  return text.map (⟨·, span⟩)

/-- How many keys a path may have, and how deep values may nest. -/
def depthLimit : Nat := 80

def keyPath (total : Nat) : Scan (Except Fault KeyPath) := do
  let first ← simpleKey total
  let others ← many (do blanks; exactly ['.']; blanks; simpleKey total)
  return do
    let first ← first
    let keys := first :: (← others.mapM id)
    if depthLimit < keys.length then throw .other
    else return ⟨keys.dropLast, keys.getLastD first⟩

/-- What is read of a value, with its place. -/
abbrev Element := Except Fault Value × Span

/-- A key with its value, which `element` reads. -/
def entry (total : Nat) (element : Scan Element) : Scan (Except Fault Statement) := do
  let key ← keyPath total
  blanks
  exactly ['=']
  blanks
  let (value, span) ← element
  return do return .entry (← key) span (← value)

/-! ## Values -/

/-- Items between commas, with blanks and line ends around them. A comma may stand behind the last
one. -/
def commaList {α : Type} (item : Scan α) : Scan (List α) := do
  spread
  let found ← optional? do
    let first ← item
    let others ← many (do spread; exactly [',']; spread; item)
    let _ ← optional? (do spread; exactly [','])
    return first :: others
  spread
  return found.getD []

def arrayOf (element : Scan Element) : Scan (Except Fault Value) := do
  exactly ['[']
  let items ← commaList element
  exactly [']']
  return .array <$> (items.map Prod.fst).mapM id

/-- The members of an inline table are set by the rules of tables. -/
def inlineTableOf (total : Nat) (element : Scan Element) : Scan (Except Fault Value) := do
  exactly ['\x7b']
  let entries ← commaList (entry total element)
  exactly ['\x7d']
  return .inlineTable <$> build entries

def simpleValue (total : Nat) : Scan (Except Fault Value) :=
  (do return .string <$> (← anyString total)) <|> bareValue

/-- A value with at most `depth` arrays and tables in each other. -/
def valueWithin (total : Nat) : Nat → Scan Element
  | 0 => located total (simpleValue total)
  | depth + 1 => located total <|
    arrayOf (valueWithin total depth) <|> inlineTableOf total (valueWithin total depth) <|>
      simpleValue total

def value (total : Nat) : Scan Element := valueWithin total depthLimit

/-! ## Statements -/

def tableHeader (total : Nat) : Scan (Except Fault Statement) := do
  let (key, span) ← located total do
    exactly ['[']
    blanks
    let key ← keyPath total
    blanks
    exactly [']']
    return key
  return do return .header (← key) span

def itemHeader (total : Nat) : Scan (Except Fault Statement) := do
  let (key, span) ← located total do
    exactly ['[', '[']
    blanks
    let key ← keyPath total
    blanks
    exactly [']', ']']
    return key
  return do return .itemHeader (← key) span

def statement (total : Nat) : Scan (Except Fault Statement) :=
  itemHeader total <|> tableHeader total <|> entry total (value total)

/-- A line without its end. -/
def line (total : Nat) : Scan (Option (Except Fault Statement)) := do
  blanks
  let found ← optional? (statement total)
  blanks
  let _ ← optional? comment
  return found

/-- All lines. Only the last one may have no end. -/
def lines (total : Nat) : Scan (List (Except Fault Statement)) := do
  let ended ← many (do let found ← line total; newline; return found)
  let last ← line total
  return (ended ++ [last]).filterMap id

/-- A mark at the very start that only tells the encoding is skipped. -/
def afterMark : List Char → List Char
  | '\ufeff' :: rest => rest
  | text => text

/-- The table that a text describes. -/
def ofText (text : List Char) : Except Fault Members :=
  match lines text.length (afterMark text) with
  | some (statements, []) => build statements
  | _ => .error .other

end BindingGen.Toml
