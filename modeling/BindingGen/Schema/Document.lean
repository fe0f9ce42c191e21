import BindingGen.Json.Printer
import BindingGen.Schema.Kind

/-!
# Schema documents

The enumerations or structures that a grammar declares. Every record keeps the keys that it does not
model, and is written with its own keys first.
-/

namespace BindingGen.Schema

/-- One value of an enumeration. An entry without a name only carries a comment. -/
structure EnumValue where
  name : Option String
  value : Option Int
  comment : Option String
  extra : Json.Members

structure EnumDefinition where
  name : String
  values : List EnumValue
  extra : Json.Members

structure StructField where
  name : String
  cType : String
  comment : Option String
  extra : Json.Members

structure StructDefinition where
  name : String
  fields : List StructField
  extra : Json.Members

inductive Document where
  | enums (definitions : List EnumDefinition)
  | structs (definitions : List StructDefinition)

/-! ## Members in their written order -/

def EnumValue.members (v : EnumValue) : Json.Members :=
  [("name", Json.orNull .string v.name), ("value", Json.orNull Json.int v.value),
    ("comment", Json.orNull .string v.comment)] ++ v.extra

def StructField.members (f : StructField) : Json.Members :=
  [("name", .string f.name), ("c_type", .string f.cType),
    ("comment", Json.orNull .string f.comment)] ++ f.extra

/-- The members of a definition, with its parts as objects made by `make`. -/
def EnumDefinition.members (make : Json.Members → Json) (d : EnumDefinition) : Json.Members :=
  [("name", .string d.name), ("values", .array (d.values.map fun v => make v.members))] ++ d.extra

def StructDefinition.members (make : Json.Members → Json) (d : StructDefinition) : Json.Members :=
  [("name", .string d.name), ("fields", .array (d.fields.map fun f => make f.members))] ++ d.extra

namespace Document

def kind : Document → Kind
  | enums _ => .enums
  | structs _ => .structs

def definitionNames : Document → List String
  | enums definitions => definitions.map (·.name)
  | structs definitions => definitions.map (·.name)

def size : Document → Nat
  | enums definitions => definitions.length
  | structs definitions => definitions.length

def toJsonWith (make : Json.Members → Json) : Document → Json
  | enums definitions => .array (definitions.map fun d => make (d.members make))
  | structs definitions => .array (definitions.map fun d => make (d.members make))

/-- The definitions as a value, as templates see them. -/
def toJson : Document → Json := toJsonWith Json.ofMembers

/-- The text of the document: the bare sequence of its definitions. -/
def text (document : Document) : String := (document.toJsonWith .object).text

end Document

end BindingGen.Schema
