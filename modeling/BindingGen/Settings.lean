import BindingGen.Failure
import BindingGen.Json.Printer
import BindingGen.Path
import BindingGen.Toml.Complaint
import BindingGen.Toml.Reading

/-!
# Settings

Where schema documents and templates are found, the year that generated files carry, and what the
journal lets through. Everything has a default, and no other key is allowed.
-/

namespace BindingGen

/-- Without a year of their own, settings stand for the year in which they are used. -/
structure Settings where
  schemaRoot : Path
  templateRoot : Path
  year : Option Int
  logFilter : String
  deriving DecidableEq, Repr

namespace Settings

def defaults : Settings where
  schemaRoot := ⟨"extern/libpg_query/srcdata"⟩
  templateRoot := ⟨"templates"⟩
  year := none
  logFilter := "warn"

def yearIn (settings : Settings) (now : Int) : Int := settings.year.getD now

/-! ## Places -/

/-- Settings as seen from a base: relative roots are below it. -/
def relativeTo (settings : Settings) (base : Path) : Settings :=
  { settings with
    schemaRoot := base.join settings.schemaRoot
    templateRoot := base.join settings.templateRoot }

def schemaPath (settings : Settings) (generator : Generator) : Path :=
  settings.schemaRoot.join ⟨generator.schemaFile⟩

def templatePath (settings : Settings) (generator : Generator) : Path :=
  settings.templateRoot.join ⟨generator.templateFile⟩

/-! ## Writing -/

/-- The settings as members, in their written order. -/
def members (settings : Settings) (now : Int) : Json.Members :=
  [("srcdata_root", .string settings.schemaRoot.text),
    ("template_root", .string settings.templateRoot.text),
    ("current_year", Json.int (settings.yearIn now)), ("log_level", .string settings.logFilter)]

def text (settings : Settings) (now : Int) : String := (Json.object (settings.members now)).text

/-! ## Reading -/

def keys : List String := ["srcdata_root", "template_root", "current_year", "log_level"]

def unknownKey (name : String) : String :=
  "unknown field `" ++ name ++ "`, expected one of " ++
    ", ".intercalate (keys.map fun key => "`" ++ key ++ "`")

def expectText (expected : String) : Toml.Value → Except String String
  | .string text => .ok text
  | other => .error (Toml.mismatch expected other)

/-- A year has 32 bits with a sign. -/
def expectYear : Toml.Value → Except String Int
  | .integer n =>
    if -Nat.pow 2 31 ≤ n ∧ n < Nat.pow 2 31 then .ok n
    else if Toml.isWord n then
      .error ("invalid value: integer `" ++ toString n ++ "`, expected i32")
    else .error (Toml.mismatch "i32" (.integer n))
  | other => .error (Toml.mismatch "i32" other)

def setMember (settings : Settings) (name : String) (value : Toml.Value) :
    Except String Settings :=
  match name with
  | "srcdata_root" => do return { settings with schemaRoot := ⟨← expectText "path string" value⟩ }
  | "template_root" => do
    return { settings with templateRoot := ⟨← expectText "path string" value⟩ }
  | "current_year" => do return { settings with year := some (← expectYear value) }
  | _ => do return { settings with logFilter := ← expectText "a string" value }

/-- Complaints about a key stand at the key, those about its value at the value. -/
def addMember (settings : Settings) (member : Toml.Key × Text.Scan.Span × Toml.Value) :
    Except Toml.Complaint Settings :=
  let (key, span, value) := member
  if keys.contains key.text then
    (settings.setMember key.text value).mapError (⟨·, span⟩)
  else .error ⟨unknownKey key.text, key.span⟩

/-- Members are taken in the order of their keys, so of several faults the one of the first key is
reported. -/
def ofMembers (members : Toml.Members) : Except Toml.Complaint Settings :=
  (members.mergeSort fun a b => !decide (b.1.text < a.1.text)).foldlM addMember defaults

def ofText (text : String) : Except Failure Settings :=
  match Toml.ofText text.toList with
  | .error fault => .error (.config (fault.message text.toList))
  | .ok members =>
    match ofMembers members with
    | .ok settings => .ok settings
    | .error complaint => .error (.config (complaint.message text.toList))

end Settings

end BindingGen
