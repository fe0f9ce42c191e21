import BindingGen.Json.Reading
import BindingGen.Template.Syntax
import BindingGen.Text.Scan

/-!
# The grammar inside tags

Identifiers, paths, literals and arguments, as they are written between the braces of a tag.
-/

namespace BindingGen.Template.Grammar

open Text Text.Scan

def isSpace (c : Char) : Bool := c = ' ' || c = '\t' || c = '\n' || c = '\r'

/-- Blanks may stand between any two words of a tag. -/
def skip : Scan Unit := fun text => some ((), text.dropWhile isSpace)

/-! ## Names and paths -/

/-- Letters, digits and everything beyond ASCII. -/
def isWordChar (c : Char) : Bool := c.isAlphanum || 0x80 ≤ c.toNat

def isSymbol (c : Char) : Bool := isWordChar c || c = '_' || c = '-' || c = '$' || c = ':'

def isIdentifier (name : List Char) : Bool := !name.isEmpty && name.all isSymbol

def identifier : Scan String := String.ofList <$> someRun isSymbol

def endOfWord : Scan Unit := notAhead (someRun isSymbol)

def separator : Scan Unit := exactly ['.'] <|> exactly ['/']

/-- A step of a path: a plain name, or any text in brackets. `this` stays where it is. -/
def pathStep : Scan (Option String) := do
  let name ← bracketed <|> someRun isSymbol
  return if name = ['t', 'h', 'i', 's'] then none else some (String.ofList name)
where
  bracketed : Scan (List Char) := do
    exactly ['[']
    let name ← run (· ≠ ']')
    exactly [']']
    return name

def path : Scan Path := do
  let ((fromRoot, isLocal, ups, names), text) ← written steps
  return ⟨String.ofList text, fromRoot, isLocal, ups, names.filterMap id⟩
where
  steps : Scan (Bool × Bool × Nat × List (Option String)) := do
    let _ ← optional? ((do exactly ['t', 'h', 'i', 's']; separator) <|> exactly ['.', '/'])
    let fromRoot ← optional? (do exactly ['@', 'r', 'o', 'o', 't']; separator)
    let isLocal ← flag ['@']
    let ups ← many (do exactly ['.', '.']; separator)
    let first ← pathStep
    let others ← many (do separator; pathStep)
    return (fromRoot.isSome, isLocal, ups.length, first :: others)

/-! ## Literals -/

def isEscapable (quote c : Char) : Bool :=
  c = quote || c = '\\' || c = '/' || c = 'b' || c = 'f' || c = 'n' || c = 'r' || c = 't'

def isHexDigit (c : Char) : Bool :=
  c.isDigit || ('a' ≤ c && c ≤ 'f') || ('A' ≤ c && c ≤ 'F')

/-- The inside of a string, up to its closing quote. -/
def quotedPart (quote : Char) : List Char → Option (List Char × List Char)
  | [] => none
  | '\\' :: 'u' :: a :: b :: c :: d :: rest =>
    if [a, b, c, d].all isHexDigit then
      (quotedPart quote rest).map fun (found, behind) =>
        ('\\' :: 'u' :: a :: b :: c :: d :: found, behind)
    else none
  | '\\' :: c :: rest =>
    if isEscapable quote c then
      (quotedPart quote rest).map fun (found, behind) => ('\\' :: c :: found, behind)
    else none
  | c :: rest =>
    if c = quote then some ([], rest)
    else if c = '\\' then none
    else (quotedPart quote rest).map fun (found, behind) => (c :: found, behind)

def quotedString (quote : Char) : Scan Unit := do
  exactly [quote]
  let _ ← quotedPart quote

def anyString : Scan Unit := quotedString '"' <|> quotedString '\''

def digits : Scan Unit := do let _ ← someRun Char.isDigit

def number : Scan Unit := do
  let _ ← flag ['-']
  digits
  let _ ← flag ['.']
  let _ ← run Char.isDigit
  let _ ← optional? (do exactly ['E']; let _ ← flag ['-']; digits)
  endOfWord

def keyword (letters : List Char) : Scan Unit := do exactly letters; endOfWord

/-- The extent of a literal, nested at most as deep as `depth`. -/
def literalExtent : Nat → Scan Unit
  | 0 => failure
  | depth + 1 =>
    anyString <|> array (literalExtent depth) <|> object (literalExtent depth) <|> number <|>
      keyword ['n', 'u', 'l', 'l'] <|> keyword ['t', 'r', 'u', 'e'] <|>
      keyword ['f', 'a', 'l', 's', 'e']
where
  array (item : Scan Unit) : Scan Unit := do
    exactly ['[']
    let _ ← optional? (do skip; item)
    let _ ← many (do skip; exactly [',']; skip; item)
    skip
    exactly [']']
  member (item : Scan Unit) : Scan Unit := do anyString; skip; exactly [':']; skip; item
  object (item : Scan Unit) : Scan Unit := do
    exactly ['\x7b']
    let _ ← optional? (do skip; member item)
    let _ ← many (do skip; exactly [',']; skip; member item)
    skip
    exactly ['\x7d']

/-- A text in single quotes in the form with double quotes. -/
def doubleQuoted (inner : List Char) : List Char :=
  '"' :: (unescape inner).flatMap (fun c => if c = '"' then ['\\', '"'] else [c]) ++ ['"']
where
  unescape : List Char → List Char
    | '\\' :: '\'' :: rest => '\'' :: unescape rest
    | c :: rest => c :: unescape rest
    | [] => []

def literalValue (text : List Char) : Param :=
  let standard :=
    match text with
    | '\'' :: rest => doubleQuoted rest.dropLast
    | _ => text
  match Json.ofText standard with
  | .ok value => .literal value
  | .error _ => .invalid (String.ofList text)

def literal : Scan Param := do
  let (_, text) ← written fun text => literalExtent (text.length + 1) text
  return literalValue text

/-! ## Arguments -/

/-- The words that end a list of arguments. -/
def reserved : Scan Unit := do
  exactly ['a', 's'] <|> exactly ['e', 'l', 's', 'e']
  skip
  endOfWord

def argOf (param : Scan Param) : Scan (Option String × Param) := do
  skip
  (do
    let key ← identifier
    skip
    exactly ['=']
    skip
    return (some key, ← param)) <|>
  return (none, ← param)

def subexpressionOf (param : Scan Param) : Scan Param := do
  exactly ['(']
  skip
  let found ←
    (do return Param.call (← identifier) (← many1 (argOf param))) <|>
    (do return Param.call (← path).written [])
  skip
  exactly [')']
  return found

/-- A parameter with at most `depth` subexpressions in each other. -/
def paramWithin : Nat → Scan Param
  | 0 => failure
  | depth + 1 => do
    notAhead reserved
    literal <|> .path <$> path <|> subexpressionOf (paramWithin depth)

def param : Scan Param := fun text => paramWithin (text.length + 1) text

def arg : Scan (Option String × Param) := argOf param

def subexpression : Scan Param := subexpressionOf param

/-- The names that a block gives to what it passes to its body. -/
def blockNames : Scan (List String) := do
  exactly ['a', 's']
  skip
  exactly ['|']
  skip
  let first ← identifier
  skip
  let second ← optional? identifier
  skip
  exactly ['|']
  return first :: second.toList

/-- A helper with its arguments. -/
def call : Scan Call := do
  let name ← identifier
  let args ← many arg
  let names ← optional? (do skip; blockNames)
  return ⟨name, args, names.getD []⟩

/-- What an output tag shows: a helper with arguments, or else a lone path or subexpression. -/
def output : Scan (Call ⊕ Param) :=
  (do return .inl ⟨← identifier, ← many1 arg, []⟩) <|> .inr <$> lone
where
  lone : Scan Param := subexpression <|> .path <$> path

def loneValue : Scan Param := output.lone

/-! ## Parts -/

def isPartChar (c : Char) : Bool :=
  isWordChar c || c = '_' || c = '-' || c = '/' || c = '.' || c = '@'

/-- The inside of a part's name in quotes, up to its closing quote. -/
def quotedPartName : List Char → Option (List Char × List Char)
  | [] => none
  | '\\' :: '\'' :: rest =>
    (quotedPartName rest).map fun (found, behind) => ('\\' :: '\'' :: found, behind)
  | '\'' :: rest => some ([], rest)
  | c :: rest => (quotedPartName rest).map fun (found, behind) => (c :: found, behind)

/-- The name of a part. Quotes around it are part of the name. -/
def partIdentifier : Scan (List Char) := someRun isPartChar <|> do
  let (inner, text) ← written (do exactly ['\'']; quotedPartName)
  if inner.isEmpty then failure else return text

def isPartIdentifier (name : List Char) : Bool :=
  match partIdentifier name with
  | some (_, []) => true
  | _ => false

def part : Scan (PartName × Args) := do
  let name ←
    (do return PartName.fixed (String.ofList (← partIdentifier))) <|>
    .computed <$> subexpression <|>
    (do return PartName.fixed (← path).written)
  let args ← many arg
  return (name, args)

end BindingGen.Template.Grammar
