import BindingGen.Proofs.Template.Place
import BindingGen.ShippedTemplate
import BindingGen.Template.Tree

/-!
# The elements of the shipped templates

What the texts of the shipped templates are read as. Tags that stand alone on their lines have taken
the lines with them.
-/

namespace BindingGen.ShippedTemplate

open Template

/-! ## Elements -/

def field (name : String) : Param := .path (Scopes.fieldPath name 0 name)

def headerElements (generator title imported : String) : List Element :=
  [.text "# Generated from ".toList,
    .call ⟨1, 18⟩ ⟨"path_basename", [(none, field "source_file_path")], []⟩,
    .text " (".toList,
    .call ⟨1, 54⟩ ⟨"path_dirname", [(none, field "source_file_path")], []⟩,
    .text (").\n# Do not edit by hand; rerun `postgres-parser-codegen ".toList ++ generator.toList ++
      "` instead.\n#\n# Copyright (c) ".toList),
    .value ⟨4, 17⟩ (field "current_year"),
    .text (" postgres-parser contributors\n\"\"\"".toList ++ title.toList ++
      " declared by the PostgreSQL parser.\"\"\"\n\nimport ".toList ++ imported.toList ++
      "\n\n".toList)]

/-- The documentation of a member, from the line of its condition on. -/
def documentationElements (line : Nat) : List Element :=
  [.block (some ⟨line, 1⟩) ⟨"if", [(none, field "comment")], []⟩ true
    [.text "    \"\"\"".toList,
      .call ⟨line + 1, 8⟩
        ⟨"to_doc_text", [(none, field "comment"), (none, .literal (Json.int 1))], []⟩,
      .text "\"\"\"\n".toList]
    none]

def strippedName : Param :=
  .call "strip_prefix" [(none, field "name"),
    (none, .call "common_prefix" [(none, .path (Scopes.fieldPath "../values" 1 "values"))])]

def numberElement : Element :=
  .block (some ⟨17, 72⟩)
    ⟨"if", [(none, field "value"), (some "includeZero", .literal (.bool true))], []⟩ false
    [.value ⟨17, 102⟩ (field "value")]
    (some [.value ⟨17, 119⟩ (.path (Scopes.localPath "@index" "index"))])

def enumMemberElements : List Element :=
  [.block (some ⟨16, 1⟩) ⟨"if", [(none, field "name")], []⟩ true
    ([.text "    ".toList, .call ⟨17, 5⟩ ⟨"to_upper_snake", [(none, strippedName)], []⟩,
      .text " = ".toList, numberElement, .text "\n".toList] ++ documentationElements 18)
    none]

def enumElements : List Element :=
  [.text "\nclass ".toList, .value ⟨11, 7⟩ (field "name"), .text "(enum.IntEnum):\n".toList,
    .block (some ⟨12, 1⟩) ⟨"unless", [(none, field "values")], []⟩ true
      [.text "    pass\n".toList] none,
    .block (some ⟨15, 1⟩) ⟨"each", [(none, field "values")], []⟩ true enumMemberElements none,
    .text "\n".toList]

def structMemberElements : List Element :=
  [.text "    ".toList, .call ⟨14, 5⟩ ⟨"normalize", [(none, field "name")], []⟩,
    .text ": ".toList, .call ⟨14, 25⟩ ⟨"map_type", [(none, field "c_type")], []⟩,
    .text "\n".toList] ++ documentationElements 15

def structElements : List Element :=
  [.text "\n@dataclasses.dataclass\nclass ".toList, .value ⟨12, 7⟩ (field "name"),
    .text ":\n".toList,
    .block (some ⟨13, 1⟩) ⟨"each", [(none, field "fields")], []⟩ true structMemberElements none,
    .text "\n".toList]

/-- The elements of a template: the header, and a loop over the definitions. -/
def elements : Generator → List Element
  | .enums => headerElements "enums" "Enumerations" "enum" ++
      [.block (some ⟨9, 1⟩) ⟨"each", [(none, field "all_enums")], []⟩ true enumElements none]
  | .structs => headerElements "structs" "Node structures" "dataclasses" ++
      [.block (some ⟨9, 1⟩) ⟨"each", [(none, field "all_structs")], []⟩ true structElements none]

/-! ## Reading -/

theorem toList_ofLines (lines : List String) :
    (ofLines lines).toList = lines.flatMap fun line => line.toList ++ ['\n'] := by
  rw [ofLines, String.toList_join, List.flatMap_map]
  simp only [String.toList_append, String.reduceToList]

set_option maxRecDepth 20000 in
theorem ofText_text (generator : Generator) :
    Template.ofText (text generator).toList = .ok (elements generator) := by
  cases generator with
  | enums =>
    rw [text, toList_ofLines]
    simp only [enumLines, header, documentation, enumMember, tag, List.cons_append, List.nil_append,
      List.flatMap_cons, List.flatMap_nil, String.toList_append, String.reduceToList,
      elements, headerElements, enumElements, enumMemberElements, documentationElements]
    rfl
  | structs =>
    rw [text, toList_ofLines]
    simp only [structLines, header, documentation, tag, List.cons_append, List.nil_append,
      List.flatMap_cons, List.flatMap_nil, String.toList_append, String.reduceToList,
      elements, headerElements, structElements, structMemberElements, documentationElements]
    rfl

end BindingGen.ShippedTemplate
