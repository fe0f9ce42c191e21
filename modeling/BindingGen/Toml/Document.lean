import BindingGen.Double.Numeral
import BindingGen.Text.Scan

/-!
# TOML documents

Values with their places, and the rules by which statements build tables. A table may be opened
once by a header, a key may be set once, and what is written inline is closed.
-/

namespace BindingGen.Toml

open Text.Scan (Span)

/-- Why a text describes no table: the digits at a place are no character, or anything else. -/
inductive Fault where
  | noCharacter (place : Nat)
  | other
  deriving DecidableEq, Repr

structure Key where
  text : String
  span : Span
  deriving DecidableEq, Repr

/-- How a table came about: on the way to another one, by its header, or by a key with dots. -/
inductive Origin where
  | implied
  | header
  | dotted
  deriving DecidableEq, Repr

/-- An overlong float has no value. Only tables and arrays of tables can be extended. -/
inductive Value where
  | string (text : String)
  | integer (value : Int)
  | float (value : Option Numeral)
  | boolean (value : Bool)
  | moment (text : String)
  | array (items : List Value)
  | inlineTable (members : List (Key × Span × Value))
  | table (origin : Origin) (members : List (Key × Span × Value))
  | tables (items : List (List (Key × Span × Value)))
  deriving Repr

/-- The members of a table, in the order in which they were opened. -/
abbrev Members := List (Key × Span × Value)

namespace Members

def find? (members : Members) (name : String) : Option (Span × Value) :=
  (List.find? (fun member => member.1.text == name) members).map Prod.snd

/-- Puts a value in the place of an old one, or behind all others. -/
def set (members : Members) (key : Key) (span : Span) (value : Value) : Members :=
  if (members.find? key.text).isSome then
    members.map fun member =>
      if member.1.text == key.text then (member.1, span, value) else member
  else members ++ [(key, span, value)]

/-! ## Building tables -/

/-- Changes the last of a list of tables. -/
def updateLast (f : Members → Option Members) : List Members → Option (List Members)
  | [] => none
  | [last] => do return [← f last]
  | first :: rest => do return first :: (← updateLast f rest)

/-- Changes the table at the end of a path, and opens the tables on the way. Keys with dots only
go through tables that no header opened. -/
def update (origin : Origin) : List Key → (Members → Option Members) → Members → Option Members
  | [], f, members => f members
  | key :: rest, f, members =>
    match members.find? key.text with
    | none => do
      return members.set key key.span (.table origin (← update origin rest f []))
    | some (span, .table made inner) =>
      if origin = .dotted && made = .header then none
      else do return members.set key span (.table made (← update origin rest f inner))
    | some (span, .tables items) =>
      if origin = .dotted then none
      else do return members.set key span (.tables (← updateLast (update origin rest f) items))
    | some _ => none

/-- Sets a key that is not there yet. -/
def insertNew (key : Key) (span : Span) (value : Value) (members : Members) : Option Members :=
  if (members.find? key.text).isSome then none else some (members.set key span value)

/-- Sets the key at the end of a path, given as the keys before the last one and the last. -/
def insertAt (path : List Key) (key : Key) (span : Span) (value : Value) (members : Members) :
    Option Members :=
  update .dotted path (insertNew key span value) members

def openTable (key : Key) (span : Span) (members : Members) : Option Members :=
  match members.find? key.text with
  | none => some (members.set key span (.table .header []))
  | some (_, .table .implied inner) => some (members.set key span (.table .header inner))
  | some _ => none

def openItem (key : Key) (span : Span) (members : Members) : Option Members :=
  match members.find? key.text with
  | none => some (members.set key span (.tables [[]]))
  | some (old, .tables items) => some (members.set key old (.tables (items ++ [[]])))
  | some _ => none

end Members

/-! ## Statements -/

/-- A key or header is the keys before its last one, and that one. -/
structure KeyPath where
  path : List Key
  last : Key
  deriving Repr

inductive Statement where
  | entry (key : KeyPath) (span : Span) (value : Value)
  | header (key : KeyPath) (span : Span)
  | itemHeader (key : KeyPath) (span : Span)
  deriving Repr

/-- The table that is open is the one of the last header. -/
structure Building where
  root : Members
  current : List Key

def Building.add? (building : Building) : Statement → Option Building
  | .entry key span value => do
    return { building with
      root := ← building.root.update .implied building.current
        (Members.insertAt key.path key.last span value) }
  | .header key span => do
    return ⟨← building.root.update .implied key.path (Members.openTable key.last span),
      key.path ++ [key.last]⟩
  | .itemHeader key span => do
    return ⟨← building.root.update .implied key.path (Members.openItem key.last span),
      key.path ++ [key.last]⟩

def Building.add (building : Building) (statement : Except Fault Statement) :
    Except Fault Building := do
  match building.add? (← statement) with
  | some extended => return extended
  | none => throw .other

/-- The table of some statements. The first fault among them and between them is the one that
counts. -/
def build (statements : List (Except Fault Statement)) : Except Fault Members := do
  return (← statements.foldlM Building.add ⟨[], []⟩).root

end BindingGen.Toml
