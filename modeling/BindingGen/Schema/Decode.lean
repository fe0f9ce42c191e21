import BindingGen.Failure
import BindingGen.Json.Reading
import BindingGen.Schema.Document

/-!
# Reading schema documents

Decoding a reading of a JSON text into definitions. A key may stand once; keys that a record does
not model are kept; the first fault in the order of the text is the one reported.
-/

namespace BindingGen.Schema

open Json

/-! ## Expectations -/

def describe : Scalar → String
  | .null => "null"
  | .bool b => "boolean `" ++ toString b ++ "`"
  | .number (.integer n) => "integer `" ++ toString n ++ "`"
  | .number (.double x) => "floating point `" ++ doubleText x ++ "`"
  | .string s => "string " ++ Text.quoted s

/-- A reading of another shape than expected. Brackets are complained about where they open. -/
def mismatch {α : Type} (expected : String) : Reading → Except ReadError α
  | .scalar value behind => .error ⟨.invalidType (describe value) expected, .before behind⟩
  | .array start _ => .error ⟨.invalidType "sequence" expected, .before start⟩
  | .object start _ _ => .error ⟨.invalidType "map" expected, .before start⟩
  | .fault e => .error e

def expectString : Reading → Except ReadError String
  | .scalar (.string s) _ => .ok s
  | other => mismatch "a string" other

/-- An integer of 64 bits with a sign. -/
def expectInteger : Reading → Except ReadError Int
  | .scalar (.number (.integer n)) behind =>
    if n < Nat.pow 2 63 then .ok n
    else .error ⟨.invalidValue (describe (.number (.integer n))) "i64", .before behind⟩
  | other => mismatch "i64" other

def expectOptional {α : Type} (expect : Reading → Except ReadError α) :
    Reading → Except ReadError (Option α)
  | .scalar .null _ => .ok none
  | other => some <$> expect other

def expectList {α : Type} (expect : Reading → Except ReadError α) :
    Reading → Except ReadError (List α)
  | .array _ items => items.mapM expect
  | other => mismatch "a sequence" other

/-! ## Records -/

/-- A key's value while members are read: it may be given once. -/
def claim {α : Type} (key : String) (mark : Mark) (held : Option α)
    (read : Except ReadError α) : Except ReadError (Option α) :=
  match held with
  | some _ => .error ⟨.duplicateField key, mark⟩
  | none => some <$> read

def require {α : Type} (key : String) (stop : Mark) (held : Option α) : Except ReadError α :=
  match held with
  | some value => .ok value
  | none => .error ⟨.missingField key, stop⟩

/-- Reads the members of an object one after another, then finishes at its closing brace. -/
def expectRecord {σ α : Type} (expected : String) (start : σ)
    (step : σ → String → Mark → Reading → Except ReadError σ)
    (finish : σ → Mark → Except ReadError α) : Reading → Except ReadError α
  | .object _ members ending => do
    let held ← members.foldlM (fun held (key, mark, value) => step held key mark value) start
    finish held (← ending)
  | other => mismatch expected other

/-- The unmodelled keys of a record. -/
def keep (extra : Members) (key : String) (value : Reading) : Except ReadError Members := do
  return extra.insert key (← ofReading value)

structure EnumValueParts where
  name : Option (Option String) := none
  value : Option (Option Int) := none
  comment : Option (Option String) := none
  extra : Members := []

def EnumValueParts.add (held : EnumValueParts) (key : String) (mark : Mark) (read : Reading) :
    Except ReadError EnumValueParts :=
  match key with
  | "name" => do
    return { held with name := ← claim key mark held.name (expectOptional expectString read) }
  | "value" => do
    return { held with value := ← claim key mark held.value (expectOptional expectInteger read) }
  | "comment" => do
    return { held with comment := ← claim key mark held.comment (expectOptional expectString read) }
  | _ => do return { held with extra := ← keep held.extra key read }

def EnumValue.ofReading : Reading → Except ReadError EnumValue :=
  expectRecord "struct EnumValue" ({} : EnumValueParts) EnumValueParts.add fun held _ =>
    .ok ⟨held.name.join, held.value.join, held.comment.join, held.extra⟩

structure EnumParts where
  name : Option String := none
  values : Option (List EnumValue) := none
  extra : Members := []

def EnumParts.add (held : EnumParts) (key : String) (mark : Mark) (read : Reading) :
    Except ReadError EnumParts :=
  match key with
  | "name" => do return { held with name := ← claim key mark held.name (expectString read) }
  | "values" => do
    return { held with
      values := ← claim key mark held.values (expectList EnumValue.ofReading read) }
  | _ => do return { held with extra := ← keep held.extra key read }

def EnumDefinition.ofReading : Reading → Except ReadError EnumDefinition :=
  expectRecord "struct EnumDefinition" ({} : EnumParts) EnumParts.add fun held stop => do
    let name ← require "name" stop held.name
    let values ← require "values" stop held.values
    return ⟨name, values, held.extra⟩

structure FieldParts where
  name : Option String := none
  cType : Option String := none
  comment : Option (Option String) := none
  extra : Members := []

def FieldParts.add (held : FieldParts) (key : String) (mark : Mark) (read : Reading) :
    Except ReadError FieldParts :=
  match key with
  | "name" => do return { held with name := ← claim key mark held.name (expectString read) }
  | "c_type" => do return { held with cType := ← claim key mark held.cType (expectString read) }
  | "comment" => do
    return { held with comment := ← claim key mark held.comment (expectOptional expectString read) }
  | _ => do return { held with extra := ← keep held.extra key read }

def StructField.ofReading : Reading → Except ReadError StructField :=
  expectRecord "struct StructField" ({} : FieldParts) FieldParts.add fun held stop => do
    let name ← require "name" stop held.name
    let cType ← require "c_type" stop held.cType
    return ⟨name, cType, held.comment.join, held.extra⟩

structure StructParts where
  name : Option String := none
  fields : Option (List StructField) := none
  extra : Members := []

def StructParts.add (held : StructParts) (key : String) (mark : Mark) (read : Reading) :
    Except ReadError StructParts :=
  match key with
  | "name" => do return { held with name := ← claim key mark held.name (expectString read) }
  | "fields" => do
    return { held with
      fields := ← claim key mark held.fields (expectList StructField.ofReading read) }
  | _ => do return { held with extra := ← keep held.extra key read }

def StructDefinition.ofReading : Reading → Except ReadError StructDefinition :=
  expectRecord "struct StructDefinition" ({} : StructParts) StructParts.add fun held stop => do
    let name ← require "name" stop held.name
    let fields ← require "fields" stop held.fields
    return ⟨name, fields, held.extra⟩

/-! ## Documents -/

namespace Document

def ofReading : Kind → Reading → Except ReadError Document
  | .enums, read => .enums <$> expectList EnumDefinition.ofReading read
  | .structs, read => .structs <$> expectList StructDefinition.ofReading read

/-- Reads a document. The source names it in a failure. -/
def ofText (kind : Kind) (text source : String) : Except Failure Document :=
  match decodeText (ofReading kind) text.toList with
  | .ok document => .ok document
  | .error e => .error (.schemaLoad source (e.message text.toList))

end Document

end BindingGen.Schema
