import BindingGen.Text.Blank

/-!
# Scanning

A scanner takes characters from the front of a text or fails. An alternative starts again where the
one before it started, and a choice that succeeded is not revised.
-/

namespace BindingGen.Text

abbrev Scan := StateT (List Char) Option

namespace Scan

variable {α : Type}

/-- Takes a fixed text. -/
def exactly (expected : List Char) : Scan Unit := fun text =>
  (afterPrefix? expected text).map ((), ·)

/-- Takes the longest run of a class, which may be empty. -/
def run (p : Char → Bool) : Scan (List Char) := fun text =>
  some (text.takeWhile p, text.dropWhile p)

/-- Takes a run of at least one character. -/
def someRun (p : Char → Bool) : Scan (List Char) := do
  let found ← run p
  if found.isEmpty then failure else return found

def optional? (scan : Scan α) : Scan (Option α) := some <$> scan <|> pure none

/-- Whether a fixed text was there to be taken. -/
def flag (expected : List Char) : Scan Bool := (do exactly expected; return true) <|> return false

/-- Succeeds where the scanner would fail, and takes nothing. -/
def notAhead (scan : Scan α) : Scan Unit := fun text =>
  match scan text with
  | some _ => none
  | none => some ((), text)

def manyWithin (scan : Scan α) : Nat → Scan (List α)
  | 0 => pure []
  | fuel + 1 => (do return (← scan) :: (← manyWithin scan fuel)) <|> pure []

/-- Repeats a scanner that never succeeds on nothing, as often as it succeeds. -/
def many (scan : Scan α) : Scan (List α) := fun text => manyWithin scan text.length text

def many1 (scan : Scan α) : Scan (List α) := do
  let found ← many scan
  if found.isEmpty then failure else return found

/-- Also gives the characters that were taken. -/
def written (scan : Scan α) : Scan (α × List Char) := fun text =>
  (scan text).map fun (found, rest) => ((found, text.take (text.length - rest.length)), rest)

/-- Where something was read, in characters from the start. -/
structure Span where
  start : Nat
  stop : Nat
  deriving DecidableEq, Repr

/-- Also gives the place of what was read, in a text of `total` characters. -/
def located (total : Nat) (scan : Scan α) : Scan (α × Span) := fun text =>
  (scan text).map fun (found, rest) =>
    ((found, ⟨total - text.length, total - rest.length⟩), rest)

/-- Takes what precedes the first occurrence of a text. -/
def before (stop : List Char) : List Char → Option (List Char × List Char)
  | [] => none
  | c :: rest =>
    match afterPrefix? stop (c :: rest) with
    | some _ => some ([], c :: rest)
    | none => (before stop rest).map fun (found, behind) => (c :: found, behind)

end Scan

end BindingGen.Text
