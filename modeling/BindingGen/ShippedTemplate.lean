import BindingGen.Generator

/-!
# Shipped templates

The template that comes with each generator. A generated file begins with where it comes from, and
then declares a class per definition.
-/

namespace BindingGen.ShippedTemplate

def tag (inside : String) : String := "\x7b\x7b" ++ inside ++ "\x7d\x7d"

def header (generator title imported : String) : List String :=
  ["# Generated from " ++ tag "path_basename source_file_path" ++ " (" ++
      tag "path_dirname source_file_path" ++ ").",
    "# Do not edit by hand; rerun `postgres-parser-codegen " ++ generator ++ "` instead.",
    "#",
    "# Copyright (c) " ++ tag "current_year" ++ " postgres-parser contributors",
    "\"\"\"" ++ title ++ " declared by the PostgreSQL parser.\"\"\"",
    "",
    "import " ++ imported,
    ""]

/-- The documentation of the member in front of it, if it has any. -/
def documentation : List String :=
  [tag "#if comment", "    \"\"\"" ++ tag "to_doc_text comment 1" ++ "\"\"\"", tag "/if"]

/-- A member without a value of its own is numbered by its position. -/
def enumMember : String :=
  "    " ++ tag "to_upper_snake (strip_prefix name (common_prefix ../values))" ++ " = " ++
    tag "#if value includeZero=true" ++ tag "value" ++ tag "else" ++ tag "@index" ++ tag "/if"

def enumLines : List String :=
  header "enums" "Enumerations" "enum" ++
    [tag "#each all_enums", "", "class " ++ tag "name" ++ "(enum.IntEnum):",
      tag "#unless values", "    pass", tag "/unless",
      tag "#each values", tag "#if name", enumMember] ++
    documentation ++ [tag "/if", tag "/each", "", tag "/each"]

def structLines : List String :=
  header "structs" "Node structures" "dataclasses" ++
    [tag "#each all_structs", "", "@dataclasses.dataclass", "class " ++ tag "name" ++ ":",
      tag "#each fields", "    " ++ tag "normalize name" ++ ": " ++ tag "map_type c_type"] ++
    documentation ++ [tag "/each", "", tag "/each"]

def ofLines (lines : List String) : String := String.join (lines.map (· ++ "\n"))

def text : Generator → String
  | .enums => ofLines enumLines
  | .structs => ofLines structLines

/-- The shipped template of a file name. -/
def ofFile? (name : String) : Option String :=
  (Generator.all.find? (·.templateFile == name)).map text

end BindingGen.ShippedTemplate
