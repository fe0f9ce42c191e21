import BindingGen.Journal.Entry
import BindingGen.Text.Alphanumeric
import BindingGen.Text.Blank

/-!
# Journal filters

A filter is a list of directives between commas. A directive lets entries up to a level through:
all of them, or those from parts of the program whose name begins in a certain way, or those that
have a certain field. The most specific directive that applies to an entry decides. A text that is
no filter stands for warnings.
-/

namespace BindingGen.Journal

/-! ## Entries as filters see them -/

/-- The name by which directives know a part of the program. -/
def Origin.path : Origin → String
  | program => "postgres_parser_codegen"
  | schema => "postgres_parser_codegen::schema"
  | generation => "postgres_parser_codegen::generate"
  | rendering => "postgres_parser_codegen::render"
  | template => "handlebars::helpers::helper_log"

/-- What templates note also tells where it was noted, which is not shown. -/
def Entry.fieldNames (entry : Entry) : List String :=
  "message" :: entry.fields.map Prod.fst ++
    match entry.origin with
    | .template => ["log.target", "log.module_path", "log.file", "log.line"]
    | _ => []

/-! ## Directives -/

/-- What else a directive asks for: nothing, a field of the entry, or what no entry has. -/
inductive Condition where
  | always
  | field (name : List Char)
  | never
  deriving DecidableEq, Repr

/-- Lets entries up to a rank through, from parts whose name begins with `start`. -/
structure Directive where
  start : Option (List Char)
  condition : Condition
  rank : Nat
  deriving DecidableEq, Repr

abbrev Filter := List Directive

/-! ## Reading -/

/-- A level as a number from 0 to 5. -/
def numberedRank? (text : List Char) : Option Nat :=
  let digits := match text with
    | '+' :: rest => rest
    | _ => text
  let n := digits.foldl (fun n c => 10 * n + (c.toNat - 48)) 0
  if digits.isEmpty || !digits.all Char.isDigit || 5 < n then none else some n

/-- A level in words or as a number. -/
def rankOf? (text : List Char) : Option Nat :=
  (numberedRank? text).or
    (if text.map Char.toLower = ['o', 'f', 'f'] then some 0
      else (Level.ofName? (String.ofList text)).map Level.rank)

/-- A directive in two copies, without the blanks around it and with them. The first one tells the
words apart, and the second one is what they are read from, at the same positions. -/
structure Source where
  outline : List Char
  written : List Char

namespace Source

def ofText (text : List Char) : Source := ⟨Text.trim text, text⟩

/-- Takes the word in front of the first character that ends it. -/
def word (source : Source) (ends : Char → Bool) : List Char × Source :=
  let size := (source.outline.takeWhile (!ends ·)).length
  (source.written.take size, ⟨source.outline.drop size, source.written.drop size⟩)

/-- Drops one character. -/
def tail (source : Source) : Source := ⟨source.outline.tail, source.written.tail⟩

end Source

/-- The level at the end of a directive. Without one everything passes. -/
def levelAt? (source : Source) : Option Nat :=
  if source.written.isEmpty then some Level.trace.rank else rankOf? source.written

/-- The level behind what a directive is about. -/
def levelBehind? (source : Source) : Option Nat :=
  match source.outline with
  | [] => some Level.trace.rank
  | '=' :: _ => levelAt? source.tail
  | _ => none

/-- A field stands for itself. With a value it asks for what is not known of entries. -/
def fieldCondition (field : List Char) : Condition :=
  if field.contains '=' then .never else .field field

/-- The condition in brackets, behind the opening one: a span, of which there are none, or else a
field in braces. -/
def bracketed? (source : Source) : Option (Condition × Source) :=
  let (span, rest) := source.word fun c => c = ']' || c = '\x7b'
  match rest.outline with
  | ']' :: _ => some (.never, rest.tail)
  | _ :: _ =>
    let (field, rest) := rest.tail.word (· = '\x7d')
    match rest.outline with
    | '\x7d' :: ']' :: _ =>
      if field.isEmpty then none
      else some (if span.isEmpty then fieldCondition field else .never, rest.tail.tail)
    | _ => none
  | [] => none

def withCondition? (start : Option (List Char)) (source : Source) : Option Directive := do
  let (condition, rest) ← bracketed? source
  return ⟨start, condition, ← levelBehind? rest⟩

def mayStartName (c : Char) : Bool :=
  Text.isAlphanumeric c || c = '-' || c = ':' || c = '_'

def directive? (text : List Char) : Option Directive :=
  let source := Source.ofText text
  match source.outline with
  | [] => none
  | '[' :: _ => withCondition? none source.tail
  | c :: _ =>
    let (name, rest) := source.word fun c => c = '=' || c = '['
    if !mayStartName c then none
    else
      match rest.outline with
      | '=' :: _ => (levelAt? rest.tail).map (⟨some name, .always, ·⟩)
      | _ :: _ => withCondition? (some name) rest.tail
      -- A word alone is a level for all parts, or a part of which every level passes.
      | [] =>
        match rankOf? text with
        | some rank => some ⟨none, .always, rank⟩
        | none => some ⟨some text, .always, Level.trace.rank⟩

def splitCommas (text : String) : List (List Char) :=
  ((text.splitOn ",").map String.toList).filter (!·.isEmpty)

namespace Filter

def upTo (level : Level) : Filter := [⟨none, .always, level.rank⟩]

/-- The filter of a text. An empty one lets errors through. -/
def ofText (text : String) : Filter :=
  match (splitCommas text).mapM directive? with
  | some [] => upTo .error
  | some directives => directives
  | none => upTo .warn

end Filter

/-! ## Deciding -/

def Condition.holds (entry : Entry) : Condition → Bool
  | always => true
  | field name => entry.fieldNames.contains (String.ofList name)
  | never => false

def Directive.applies (directive : Directive) (entry : Entry) : Bool :=
  (directive.start.getD []).isPrefixOf entry.origin.path.toList && directive.condition.holds entry

/-- Whether a directive says at least as much about an entry that both apply to: more of the name
of its part first, then a field, then the field that comes later in the alphabet. -/
def Directive.covers (directive other : Directive) : Bool :=
  let size (d : Directive) := (d.start.map fun start => start.length + 1).getD 0
  if size directive = size other then
    match directive.condition, other.condition with
    | .field name, .field otherName => !decide (name < otherName)
    | .field _, _ => true
    | _, .field _ => false
    | _, _ => true
  else size other < size directive

namespace Filter

/-- The most specific directive, of several equal ones the last. -/
def deciding? (filter : Filter) (entry : Entry) : Option Directive :=
  filter.foldl (fun best directive =>
    if directive.applies entry && best.all directive.covers then some directive else best) none

def passes (filter : Filter) (entry : Entry) : Bool :=
  (filter.deciding? entry).any fun directive => entry.level.rank ≤ directive.rank

end Filter

end BindingGen.Journal
