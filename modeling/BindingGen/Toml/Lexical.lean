import BindingGen.Toml.Document

/-!
# The words of a TOML text

Strings in their four forms, and the bare words that are numbers, truth values and points in time.
Where a word ends does not depend on whether it means anything.
-/

namespace BindingGen.Toml

open Text Text.Scan

/-! ## Blanks -/

def isBlank (c : Char) : Bool := c = ' ' || c = '\t'

/-- Characters that may stand in comments and strings. -/
def isPlain (c : Char) : Bool := c = '\t' || (0x20 ≤ c.toNat && c.toNat ≠ 0x7F)

def blanks : Scan Unit := do let _ ← run isBlank

def newline : Scan Unit := exactly ['\n'] <|> exactly ['\r', '\n']

def comment : Scan Unit := do
  exactly ['#']
  let _ ← run isPlain

/-- Blanks, comments and line ends. -/
def spread : Scan Unit := do
  let _ ← many ((do let _ ← someRun isBlank) <|> newline <|> comment)

/-! ## Strings -/

def hexValue (digits : List Char) : Nat :=
  digits.foldl (fun n c =>
    16 * n + if c.isDigit then c.toNat - 48 else c.toLower.toNat - 87) 0

def isHexDigit (c : Char) : Bool :=
  c.isDigit || ('a' ≤ c && c ≤ 'f') || ('A' ≤ c && c ≤ 'F')

/-- A part of a string as it is meant. -/
abbrev Piece := Except Fault (List Char)

/-- The character of so many hexadecimal digits. The text behind the string ends at `stop`. -/
def codePoint (stop count : Nat) : Scan Piece := fun text =>
  let digits := text.take count
  let n := hexValue digits
  if digits.length ≠ count || !digits.all isHexDigit then some (.error .other, text)
  else if n.isValidChar then some (.ok [Char.ofNat n], text.drop count)
  else some (.error (.noCharacter (stop - text.length)), text.drop count)

def escape (stop : Nat) : Scan Piece := fun text =>
  match text with
  | 'b' :: rest => some (.ok ['\x08'], rest)
  | 't' :: rest => some (.ok ['\t'], rest)
  | 'n' :: rest => some (.ok ['\n'], rest)
  | 'f' :: rest => some (.ok ['\x0c'], rest)
  | 'r' :: rest => some (.ok ['\r'], rest)
  | 'e' :: rest => some (.ok ['\x1b'], rest)
  | '"' :: rest => some (.ok ['"'], rest)
  | '\\' :: rest => some (.ok ['\\'], rest)
  | 'x' :: rest => codePoint stop 2 rest
  | 'u' :: rest => codePoint stop 4 rest
  | 'U' :: rest => codePoint stop 8 rest
  | rest => some (.error .other, rest)

def escaped (stop : Nat) : Scan Piece := do
  exactly ['\\']
  escape stop

/-- A line end in a string of several lines is kept as it is. -/
def lineEnd : Scan Piece := do
  let ((), found) ← written newline
  return .ok found

/-- A backslash at the end of a line joins it to the next text. -/
def joinedLines : Scan Piece := do
  exactly ['\\']
  blanks
  newline
  let _ ← many ((do let _ ← someRun isBlank) <|> newline)
  return .ok []

/-- The forms of a string: which quote it stands in, and whether it may take several lines. -/
structure StringForm where
  quote : Char
  isLong : Bool

/-- Only double quotes leave a meaning to backslashes. -/
def StringForm.hasEscapes (form : StringForm) : Bool := form.quote = '"'

def plainPiece (form : StringForm) : Scan Piece :=
  .ok <$> someRun fun c => isPlain c && !(form.hasEscapes && c = '\\')

def strangeChar : Scan Piece := fun text =>
  match text with
  | _ :: rest => some (.error .other, rest)
  | [] => none

def piece (form : StringForm) (stop : Nat) : Scan Piece :=
  plainPiece form <|> (if form.isLong then lineEnd else failure) <|>
    (if form.isLong && form.hasEscapes then joinedLines else failure) <|>
    (if form.hasEscapes then escaped stop else failure) <|> strangeChar

/-- What the inside of a string stands for, which ends at `stop`. -/
def meaning (form : StringForm) (stop : Nat) (inside : List Char) : Except Fault String :=
  match many (piece form stop) inside with
  | some (pieces, []) => do return String.ofList (← pieces.mapM id).flatten
  | _ => .error .other

/-- The inside of a string on one line, and the text from what ends it on: its quote or the end of
the line. -/
def shortInside (form : StringForm) : List Char → List Char × List Char
  | [] => ([], [])
  | '\\' :: c :: rest =>
    if form.hasEscapes && (c = '"' || c = '\\') then
      let (inside, behind) := shortInside form rest
      ('\\' :: c :: inside, behind)
    else
      let (inside, behind) := shortInside form (c :: rest)
      ('\\' :: inside, behind)
  | c :: rest =>
    if c = form.quote || c = '\n' then ([], c :: rest)
    else
      let (inside, behind) := shortInside form rest
      (c :: inside, behind)

/-- The inside of a string of several lines, and the text behind it. Up to two quotes in front of
the three that close it belong to it. -/
def longInside? (form : StringForm) : List Char → Option (List Char × List Char)
  | [] => none
  | '\\' :: c :: rest =>
    if form.hasEscapes && (c = '"' || c = '\\') then
      (longInside? form rest).map fun (inside, behind) => ('\\' :: c :: inside, behind)
    else (longInside? form (c :: rest)).map fun (inside, behind) => ('\\' :: inside, behind)
  | c :: rest =>
    match afterPrefix? (List.replicate 3 form.quote) (c :: rest) with
    | some behind =>
      let extra := (behind.takeWhile (· = form.quote)).take 2
      some (extra, behind.drop extra.length)
    | none => (longInside? form rest).map fun (inside, behind) => (c :: inside, behind)

/-- A string on one line, in a text of `total` characters. One that is not closed is still a word. -/
def shortString (total : Nat) (quote : Char) : Scan (Except Fault String) := do
  exactly [quote]
  fun text =>
    let form : StringForm := ⟨quote, false⟩
    let (inside, behind) := shortInside form text
    match afterPrefix? [quote] behind with
    | some rest => some (meaning form (total - behind.length) inside, rest)
    | none => some (.error .other, behind)

def longString (total : Nat) (quote : Char) : Scan (Except Fault String) := do
  exactly (List.replicate 3 quote)
  let _ ← optional? newline
  fun text =>
    let form : StringForm := ⟨quote, true⟩
    match longInside? form text with
    | some (inside, rest) =>
      some (meaning form (total - (text.length - inside.length)) inside, rest)
    | none => some (.error .other, [])

def anyShortString (total : Nat) : Scan (Except Fault String) :=
  shortString total '"' <|> shortString total '\''

def anyString (total : Nat) : Scan (Except Fault String) :=
  longString total '"' <|> longString total '\'' <|> anyShortString total

/-! ## Numbers -/

/-- Digits with single underscores between them. -/
def groupedDigits? (p : Char → Bool) : List Char → Option (List Char)
  | [] => none
  | [c] => if p c then some [c] else none
  | c :: '_' :: d :: rest =>
    if p c && p d then (groupedDigits? p (d :: rest)).map (c :: ·) else none
  | c :: d :: rest =>
    if p c then (groupedDigits? p (d :: rest)).map (c :: ·) else none

def isOctal (c : Char) : Bool := '0' ≤ c && c ≤ '7'

def isBinary (c : Char) : Bool := c = '0' || c = '1'

def valueIn (base : Nat) (digits : List Char) : Nat :=
  digits.foldl (fun n c =>
    base * n + if c.isDigit then c.toNat - 48 else c.toLower.toNat - 87) 0

/-- Decimal digits without a leading zero. -/
def decimal? (text : List Char) : Option (List Char) := do
  let digits ← groupedDigits? Char.isDigit text
  match digits with
  | '0' :: _ :: _ => none
  | _ => return digits

def integer? (text : List Char) : Option Int :=
  match text with
  | '0' :: 'x' :: digits => (groupedDigits? isHexDigit digits).map fun found => valueIn 16 found
  | '0' :: 'o' :: digits => (groupedDigits? isOctal digits).map fun found => valueIn 8 found
  | '0' :: 'b' :: digits => (groupedDigits? isBinary digits).map fun found => valueIn 2 found
  | _ =>
    let (negative, digits) := Numeral.takeSign text
    (decimal? digits).map fun digits =>
      let n : Int := valueIn 10 digits
      if negative then -n else n

/-- The places and the exponent of a float, behind its whole digits: at least one of them. -/
def floatTail? (text : List Char) : Option (List Char × Int) :=
  let isExponent (c : Char) := c = 'e' || c = 'E'
  let exponent? (text : List Char) : Option Int :=
    match text with
    | [] => some 0
    | _ :: rest =>
      let (negative, digits) := Numeral.takeSign rest
      (groupedDigits? Char.isDigit digits).map fun digits =>
        let n : Int := valueIn 10 digits
        if negative then -n else n
  match text with
  | '.' :: rest => do
    let places ← groupedDigits? Char.isDigit (rest.takeWhile (!isExponent ·))
    return (places, ← exponent? (rest.dropWhile (!isExponent ·)))
  | c :: _ => if isExponent c then (exponent? text).map ([], ·) else none
  | [] => none

/-- A float. The value is missing when it is out of range. -/
def float? (text : List Char) : Option (Option Numeral) :=
  let (negative, rest) := Numeral.takeSign text
  if rest = ['i', 'n', 'f'] then some (some (.infinite negative))
  else if rest = ['n', 'a', 'n'] then some (some .notANumber)
  else do
    let isWhole (c : Char) := c.isDigit || c = '_'
    let whole ← decimal? (rest.takeWhile isWhole)
    let (places, exponent) ← floatTail? (rest.dropWhile isWhole)
    return (Double.ofDecimal? negative (valueIn 10 (whole ++ places))
      (exponent - places.length)).map .finite

/-! ## Points in time -/

def number? (digits : List Char) : Option Nat :=
  if digits.all Char.isDigit then some (valueIn 10 digits) else none

def daysIn (year month : Nat) : Nat :=
  if month = 2 then
    if year % 4 = 0 && (year % 100 ≠ 0 || year % 400 = 0) then 29 else 28
  else if month = 4 || month = 6 || month = 9 || month = 11 then 30
  else 31

/-- A day, and the text behind it. -/
def afterDate? : List Char → Option (List Char)
  | a :: b :: c :: d :: '-' :: e :: f :: '-' :: g :: h :: rest => do
    let year ← number? [a, b, c, d]
    let month ← number? [e, f]
    let day ← number? [g, h]
    guard (1 ≤ month && month ≤ 12 && 1 ≤ day && day ≤ daysIn year month)
    return rest
  | _ => none

def afterMinutes? : List Char → Option (List Char)
  | a :: b :: ':' :: c :: d :: rest => do
    let hour ← number? [a, b]
    let minute ← number? [c, d]
    guard (hour ≤ 23 && minute ≤ 59)
    return rest
  | _ => none

/-- A time of day. Seconds may be left out, and may have places. -/
def afterTime? (text : List Char) : Option (List Char) := do
  match ← afterMinutes? text with
  | ':' :: a :: b :: rest =>
    let second ← number? [a, b]
    guard (second ≤ 60)
    match rest with
    | '.' :: more =>
      guard (more.head?.any Char.isDigit)
      return more.dropWhile Char.isDigit
    | _ => return rest
  | rest => return rest

/-- Whether a text is nothing, or a distance from universal time. -/
def isOffset : List Char → Bool
  | [] => true
  | ['Z'] => true
  | ['z'] => true
  | '+' :: rest => afterMinutes? rest = some []
  | '-' :: rest => afterMinutes? rest = some []
  | _ => false

def isMoment (text : List Char) : Bool :=
  match afterDate? text with
  | some [] => true
  | some (c :: rest) =>
    (c = 'T' || c = 't' || c = ' ') && (afterTime? rest).any isOffset
  | none => afterTime? text = some []

/-! ## Bare words -/

/-- Characters that end a bare word are those that statements are made of. -/
def isWordChar (c : Char) : Bool :=
  !isBlank c && c ≠ '\n' && c ≠ '\r' && c ≠ '=' && c ≠ ',' && c ≠ '#' && c ≠ '[' && c ≠ ']' &&
    c ≠ '\x7b' && c ≠ '\x7d'

def wordValue? (word : List Char) : Option Value :=
  if word = ['t', 'r', 'u', 'e'] then some (.boolean true)
  else if word = ['f', 'a', 'l', 's', 'e'] then some (.boolean false)
  else if isMoment word then some (.moment (String.ofList word))
  else (integer? word).map .integer |>.or ((float? word).map .float)

/-- A bare word. A blank may stand between a day and a time. -/
def bareValue : Scan (Except Fault Value) := do
  let word ← someRun isWordChar
  let withTime ← optional? do
    exactly [' ']
    let time ← someRun isWordChar
    let whole := word ++ ' ' :: time
    if isMoment whole then return whole else failure
  match wordValue? (withTime.getD word) with
  | some value => return .ok value
  | none => return .error .other

end BindingGen.Toml
