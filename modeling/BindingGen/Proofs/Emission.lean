import BindingGen.Renderer
import BindingGen.ShippedTemplate

/-!
# Generated modules

The texts of generated modules, written line by line without a template: a header, and a class for
each definition.
-/

namespace BindingGen.Emission

open Schema ShippedTemplate

/-! ## Lines -/

def headerLines (generator title imported : String) (inputs : Renderer.Inputs) : List String :=
  ["# Generated from " ++ Vocabulary.baseName inputs.sourcePath ++ " (" ++
      Vocabulary.dirName inputs.sourcePath ++ ").",
    "# Do not edit by hand; rerun `postgres-parser-codegen " ++ generator ++ "` instead.",
    "#",
    "# Copyright (c) " ++ toString inputs.year ++ " postgres-parser contributors",
    "\"\"\"" ++ title ++ " declared by the PostgreSQL parser.\"\"\"",
    "",
    "import " ++ imported,
    ""]

/-- The documentation of a member, if its comment says anything. -/
def documentationLines : Option String → List String
  | none => []
  | some comment =>
    if comment = "" then []
    else ["    \"\"\"" ++ Comment.docText (some comment) 1 ++ "\"\"\""]

/-! ## Enumerations -/

/-- The name of a member in its class: a constant, without what it shares with its siblings. -/
def memberName (siblings : List EnumValue) (name : String) : String :=
  Identifier.constant (Namespace.stripPrefix name (Namespace.commonPrefix (siblings.map (·.name))))

/-- The lines of an entry that has a number. One without a name has no lines. -/
def entryLines (siblings : List EnumValue) (entry : EnumValue × Int) : List String :=
  match entry.1.name with
  | none => []
  | some name =>
    if name = "" then []
    else
      ("    " ++ memberName siblings name ++ " = " ++ toString entry.2) ::
        documentationLines entry.1.comment

/-- A class whose entries have some numbers. -/
def enumClass (numbers : List Int) (d : EnumDefinition) : List String :=
  ["", "class " ++ d.name ++ "(enum.IntEnum):"] ++
    (if d.values.isEmpty then ["    pass"] else []) ++
    (d.values.zip numbers).flatMap (entryLines d.values) ++ [""]

/-- The numbers of entries from a position on: an entry's own value, or else its position. -/
def numbersFrom : Nat → List EnumValue → List Int
  | _, [] => []
  | i, entry :: rest => entry.value.getD i :: numbersFrom (i + 1) rest

/-- A module of enumerations, with the numbers that `numbering` gives to their entries. -/
def enumModule (numbering : List EnumValue → List Int) (definitions : List EnumDefinition)
    (inputs : Renderer.Inputs) : String :=
  ofLines (headerLines "enums" "Enumerations" "enum" inputs ++
    definitions.flatMap fun d => enumClass (numbering d.values) d)

/-! ## Structures -/

def intSpellings : List String := ["int", "ctypes.c_int"]

def stringSpellings : List String := ["char*", "char *", "ctypes.POINTER(ctypes.c_char)"]

/-- The generated type of an annotation, empty for one that is not recognized. -/
def targetType (spelling : String) : String :=
  if spelling ∈ intSpellings then "int" else if spelling ∈ stringSpellings then "str" else ""

/-- Whether the annotation of a field is none of those that are recognized. -/
def isUnrecognized (f : StructField) : Bool := f.cType ∉ intSpellings ++ stringSpellings

def fieldLines (f : StructField) : List String :=
  ("    " ++ Identifier.normalize f.name ++ ": " ++ targetType f.cType) ::
    documentationLines f.comment

def structClass (d : StructDefinition) : List String :=
  ["", "@dataclasses.dataclass", "class " ++ d.name ++ ":"] ++ d.fields.flatMap fieldLines ++ [""]

def structModule (definitions : List StructDefinition) (inputs : Renderer.Inputs) : String :=
  ofLines (headerLines "structs" "Node structures" "dataclasses" inputs ++
    definitions.flatMap structClass)

end BindingGen.Emission
