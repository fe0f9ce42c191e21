import BindingGen.Template.Grammar

/-!
# Tags and the text between them

A template text is a sequence of tags, each with the text in front of it, and the text behind the
last one. A backslash takes the meaning from the braces behind it. Between the tags of a raw block
everything is text.
-/

namespace BindingGen.Template

open Text Text.Scan
open Grammar (skip)

inductive Tag where
  | comment
  | call (call : Call)
  | value (source : Param)
  | opening (call : Call)
  | continuation (chained : Option Call)
  | closing (name : String)
  | rawOpening (call : Call)
  | rawClosing (name : String)
  | decorator (call : Call)
  | decoratorOpening (call : Call)
  | inclusion (name : PartName) (args : Args)
  | inclusionOpening (name : PartName) (args : Args)
  deriving Repr

/-- Whether a tag removes the blanks before and behind it. -/
structure Trim where
  before : Bool
  after : Bool
  deriving DecidableEq, Repr

/-! ## Tags -/

namespace Tag

/-- A tag between braces, with the marks that trim. -/
def delimited {α : Type} (opening closing : List Char) (inside : Scan α) : Scan (Trim × α) := do
  exactly opening
  skip
  let before ← flag ['~']
  skip
  let found ← inside
  skip
  let after ← flag ['~']
  skip
  exactly closing
  return (⟨before, after⟩, found)

def openBraces : List Char := ['\x7b', '\x7b']

def closeBraces : List Char := ['\x7d', '\x7d']

def braced {α : Type} (inside : Scan α) : Scan (Trim × α) := delimited openBraces closeBraces inside

/-- A sign and what stands behind it. -/
def signed {α : Type} (sign : Char) (inside : Scan α) : Scan α := do
  exactly [sign]
  skip
  inside

def scanOutput : Scan Tag := do
  match ← Grammar.output with
  | .inl found => return .call found
  | .inr source => return .value source

def scanContinuation : Scan (Trim × Tag) := braced do
  exactly ['e', 'l', 's', 'e'] <|> exactly ['^']
  let chained ← optional? (do skip; Grammar.call)
  return .continuation chained

def scanVerbatimOutput : Scan (Trim × Tag) :=
  delimited (openBraces ++ ['\x7b']) (closeBraces ++ ['\x7d']) scanOutput <|>
  braced (signed '\x7b' do
    let tag ← scanOutput
    skip
    exactly ['\x7d']
    return tag) <|>
  braced (signed '&' (.value <$> Grammar.loneValue))

/-- A comment trims nothing. The long form ends at its own closing dashes. -/
def scanComment : Scan (Trim × Tag) := do
  exactly openBraces
  skip
  exactly ['!']
  (do
    skip
    exactly ['-', '-']
    let _ ← before (['-', '-'] ++ closeBraces)
    exactly (['-', '-'] ++ closeBraces)) <|>
  (do
    let _ ← before closeBraces
    exactly closeBraces)
  return (⟨false, false⟩, .comment)

def doubled (braces : List Char) : List Char := braces ++ braces

def scanRawOpening : Scan (Trim × Tag) :=
  delimited (doubled openBraces) (doubled closeBraces) (.rawOpening <$> Grammar.call)

/-- A name that a closing tag may leave out. -/
def nameOrNone (name : Scan String) : Scan String := name <|> pure ""

def scanRawClosing : Scan (Trim × Tag) :=
  delimited (doubled openBraces) (doubled closeBraces)
    (signed '/' (.rawClosing <$> nameOrNone Grammar.identifier))

def scanDecorator : Scan (Trim × Tag) :=
  braced (signed '*' (.decorator <$> Grammar.call)) <|>
  braced (signed '#' (signed '*' (.decoratorOpening <$> Grammar.call)))

def scanInclusion : Scan (Trim × Tag) :=
  braced (signed '>' do
    let (name, args) ← Grammar.part
    return .inclusion name args) <|>
  braced (signed '#' (signed '>' do
    let (name, args) ← Grammar.part
    return .inclusionOpening name args))

def scanClosing : Scan (Trim × Tag) :=
  braced (signed '/' (.closing <$> nameOrNone (String.ofList <$> Grammar.partIdentifier))) <|>
  braced (signed '/' (.closing <$> Grammar.identifier))

/-- Every tag but the end of a raw block, which has its place behind the block's text. -/
def scan : Scan (Trim × Tag) :=
  scanContinuation <|> braced scanOutput <|> scanVerbatimOutput <|>
    braced (signed '#' (.opening <$> Grammar.call)) <|> scanRawOpening <|> scanComment <|>
    scanDecorator <|> scanInclusion <|> scanClosing

end Tag

/-! ## Text -/

/-- Whether the text behind a backslash continues a run of them that ends at braces. -/
def continuesEscape (text : List Char) : Bool :=
  text.head? = some '\\' &&
    (Text.afterPrefix? Tag.openBraces (text.dropWhile (· = '\\'))).isSome

def consText (c : Char) (read : List Char × List Char) : List Char × List Char :=
  (c :: read.1, read.2)

/-- The text up to the braces `stop`. One backslash before braces makes them text; of several, one
is dropped and the braces keep their meaning. -/
def readText (stop : List Char) : Bool → List Char → List Char × List Char
  -- A backslash covers both pairs of the braces of a raw block.
  | false, '\\' :: '\x7b' :: '\x7b' :: '\x7b' :: '\x7b' :: rest =>
    let (found, behind) := readText stop false rest
    (Tag.doubled Tag.openBraces ++ found, behind)
  | false, '\\' :: '\x7b' :: '\x7b' :: rest =>
    let (found, behind) := readText stop false rest
    (Tag.openBraces ++ found, behind)
  | inEscape, c :: rest =>
    if (Text.afterPrefix? stop (c :: rest)).isSome then ([], c :: rest)
    else if c = '\\' then
      if inEscape then consText c (readText stop true rest)
      else if continuesEscape rest then readText stop true rest
      else consText c (readText stop false rest)
    else consText c (readText stop false rest)
  | _, [] => ([], [])

/-! ## Places -/

def Place.start : Place := ⟨1, 1⟩

def Place.step (place : Place) (c : Char) : Place :=
  if c = '\n' then ⟨place.line + 1, 1⟩ else ⟨place.line, place.column + 1⟩

/-- The place behind the characters of `text` that are not in its end `rest`. -/
def Place.upTo (place : Place) (text rest : List Char) : Place :=
  (text.take (text.length - rest.length)).foldl Place.step place

/-! ## Tokens -/

/-- A tag with the text in front of it. -/
structure Token where
  lead : List Char
  place : Place
  trim : Trim
  tag : Tag
  deriving Repr

structure Tokens where
  tagged : List Token
  final : List Char
  deriving Repr

namespace Tokens

def push (token : Token) (tokens : Tokens) : Tokens :=
  { tokens with tagged := token :: tokens.tagged }

/-- A tag takes characters, so the length of a text bounds the number of its tags. -/
def readFrom? : Nat → Place → List Char → Option Tokens
  | 0, _, _ => none
  | fuel + 1, place, text =>
    match readText Tag.openBraces false text with
    | (lead, []) => some ⟨[], lead⟩
    | (lead, rest) => do
      let here := place.upTo text rest
      let ((trim, tag), behind) ← Tag.scan rest
      let token : Token := ⟨lead, here, trim, tag⟩
      match tag with
      | .rawOpening _ =>
        let (inner, ending) := readText (Tag.doubled Tag.openBraces) false behind
        let ((innerTrim, innerTag), behindRaw) ← Tag.scanRawClosing ending
        let there := here.upTo rest ending
        let tokens ← readFrom? fuel (here.upTo rest behindRaw) behindRaw
        return (tokens.push ⟨inner, there, innerTrim, innerTag⟩).push token
      | _ =>
        let tokens ← readFrom? fuel (here.upTo rest behind) behind
        return tokens.push token

def ofText? (text : List Char) : Option Tokens := readFrom? (text.length + 1) .start text

end Tokens

end BindingGen.Template
