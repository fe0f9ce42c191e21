/-!
# Journal entries

What a run reports while it works: a message with named fields, how urgent it is, and the part of
the program that it comes from.
-/

namespace BindingGen.Journal

/-- The urgency of an entry. -/
inductive Level where
  | error
  | warn
  | info
  | debug
  | trace
  deriving DecidableEq, Repr

namespace Level

def all : List Level := [error, warn, info, debug, trace]

def name : Level → String
  | error => "error"
  | warn => "warn"
  | info => "info"
  | debug => "debug"
  | trace => "trace"

def label (level : Level) : String := String.ofList (level.name.toList.map Char.toUpper)

/-- How much has to be let through until the level is. -/
def rank : Level → Nat
  | error => 1
  | warn => 2
  | info => 3
  | debug => 4
  | trace => 5

/-- A level by its name in either case. -/
def ofName? (text : String) : Option Level :=
  let lower := String.ofList (text.toList.map Char.toLower)
  all.find? (·.name == lower)

end Level

/-- The parts of the program that report. -/
inductive Origin where
  | program
  | schema
  | generation
  | rendering
  | template
  deriving DecidableEq, Repr

structure Entry where
  level : Level
  origin : Origin
  message : String
  fields : List (String × String)
  deriving DecidableEq, Repr

/-! ## Lines -/

/-- Characters that would act on a terminal are shown by their codes. -/
def visibleChar (c : Char) : List Char :=
  if c = '\x07' || c = '\x08' || c = '\x0c' || c = '\x1b' || c = '\x7f' then
    ['\\', 'x', Nat.digitChar (c.toNat / 16), Nat.digitChar (c.toNat % 16)]
  else if 0x80 ≤ c.toNat && c.toNat < 0xA0 then
    ['\\', 'u', '\x7b'] ++ Nat.toDigits 16 c.toNat ++ ['\x7d']
  else [c]

/-- An entry as a line, without the time. -/
def Entry.line (entry : Entry) : String :=
  entry.level.label ++ " " ++ String.ofList (entry.message.toList.flatMap visibleChar) ++
    String.join (entry.fields.map fun (name, value) => " " ++ name ++ "=" ++ value)

end BindingGen.Journal
