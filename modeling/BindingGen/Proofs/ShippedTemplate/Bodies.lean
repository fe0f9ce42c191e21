import BindingGen.Proofs.Identifier.OneLine
import BindingGen.Proofs.ShippedTemplate.Enums
import BindingGen.Proofs.ShippedTemplate.Structs

/-!
# Bodies of classes

What a template writes behind the `class` line of a definition is a body only if some line of it is
indented and not blank. An enumeration without entries has a body, and any other definition has one
only through a member that shows. Nothing stands in for the entries that are only comments, nor for
the fields of a structure without any.
-/

namespace BindingGen.ShippedTemplate

open Schema Emission

/-! ## Indented lines -/

def isIndented (line : List Char) : Bool :=
  line.head?.any (fun c => c = ' ' || c = '\t') && line.any fun c => !Text.isBlank c

/-- Whether some line of a text is indented and not blank. -/
def hasBody (text : List Char) : Bool := (Comment.splitLines text).any isIndented

theorem splitLines_ne_nil (line : List Char) : Comment.splitLines (line ++ ['\n']) ≠ [] := by
  cases line with
  | nil => exact List.cons_ne_nil _ _
  | cons c line =>
    rw [List.cons_append, Comment.splitLines]
    split
    · exact List.cons_ne_nil _ _
    · split <;> exact List.cons_ne_nil _ _

theorem splitLines_append (line rest : List Char) :
    Comment.splitLines (line ++ '\n' :: rest) =
      Comment.splitLines (line ++ ['\n']) ++ Comment.splitLines rest := by
  induction line with
  | nil => rfl
  | cons c line ih =>
    rw [List.cons_append, List.cons_append, Comment.splitLines, Comment.splitLines, ih]
    split
    · rfl
    · obtain ⟨first, lines, hlines⟩ := List.exists_cons_of_ne_nil (splitLines_ne_nil line)
      rw [hlines]
      rfl

/-- A text that begins in a line goes on in the same line. -/
theorem splitLines_of_front {c : Char} {front : List Char} (h : '\n' ∉ c :: front)
    (rest : List Char) :
    ∃ more lines, Comment.splitLines (c :: front ++ rest) = (c :: front ++ more) :: lines := by
  induction front generalizing c with
  | nil =>
    rw [List.singleton_append, Comment.splitLines, if_neg (List.ne_of_not_mem_cons h).symm]
    cases Comment.splitLines rest with
    | nil => exact ⟨[], [], rfl⟩
    | cons line lines => exact ⟨line, lines, rfl⟩
  | cons d front ih =>
    obtain ⟨more, lines, hlines⟩ := ih (List.not_mem_of_not_mem_cons h)
    refine ⟨more, lines, ?_⟩
    rw [List.cons_append, Comment.splitLines, if_neg (List.ne_of_not_mem_cons h).symm, hlines]
    rfl

theorem isIndented_append {front : List Char} (h : isIndented front = true) (more : List Char) :
    isIndented (front ++ more) = true := by
  cases front with
  | nil => cases h
  | cons c front =>
    simp only [isIndented, Bool.and_eq_true] at h ⊢
    exact ⟨h.1, by rw [List.any_append, h.2, Bool.true_or]⟩

theorem hasBody_of_front {front : List Char} (hline : '\n' ∉ front) (h : isIndented front = true)
    (rest : List Char) : hasBody (front ++ rest) = true := by
  cases front with
  | nil => cases h
  | cons c front =>
    obtain ⟨more, lines, hlines⟩ := splitLines_of_front hline rest
    rw [hasBody, hlines, List.any_cons, isIndented_append h, Bool.true_or]

theorem hasBody_chars (lines : List String) :
    hasBody (chars lines) = lines.any fun line => hasBody (chars [line]) := by
  induction lines with
  | nil => rfl
  | cons line lines ih =>
    rw [List.any_cons, ← ih, chars_cons, chars_cons, hasBody, splitLines_append, List.any_append]
    rfl

/-! ## Members -/

/-- Whether a member has lines that show: its own line, or a comment that says anything. -/
def Shows (line : String) (comment : Option String) : Prop :=
  hasBody (chars [line]) = true ∨ comment.any (· ≠ "") = true

theorem hasBody_documentationLines (comment : Option String) :
    hasBody (chars (documentationLines comment)) = comment.any (· ≠ "") := by
  cases comment with
  | none => rfl
  | some text =>
    by_cases hempty : text = ""
    · rw [hempty]
      rfl
    · have hlines : documentationLines (some text) =
          ["    \"\"\"" ++ Comment.docText (some text) 1 ++ "\"\"\""] := if_neg hempty
      rw [hlines, chars_cons, String.toList_append, String.toList_append, List.append_assoc,
        List.append_assoc, hasBody_of_front (by decide) (by decide), Option.any_some]
      exact (decide_eq_true hempty).symm

theorem hasBody_member (line : String) (comment : Option String) :
    hasBody (chars (line :: documentationLines comment)) = true ↔ Shows line comment := by
  rw [hasBody_chars, List.any_cons, ← hasBody_chars, hasBody_documentationLines, Bool.or_eq_true,
    Shows]

def entryLine (d : EnumDefinition) (name : String) (number : Int) : String :=
  "    " ++ memberName d.values name ++ " = " ++ toString number

def fieldLine (f : StructField) : String :=
  "    " ++ Identifier.normalize f.name ++ ": " ++ targetType f.cType

/-- A name that is spelled on one line shows with the sign behind it. -/
theorem hasBody_of_name {name sign : List Char} (hname : '\n' ∉ name) (hline : '\n' ∉ sign)
    (hsign : ∃ c ∈ sign, Text.isBlank c = false) (rest : List Char) :
    hasBody ("    ".toList ++ name ++ sign ++ rest) = true := by
  refine hasBody_of_front ?_ ?_ rest
  · simp only [List.mem_append, not_or]
    exact ⟨⟨by decide, hname⟩, hline⟩
  · obtain ⟨c, hc, hblank⟩ := hsign
    have hshown : sign.any (fun c => !Text.isBlank c) = true :=
      List.any_eq_true.mpr ⟨c, hc, by rw [hblank]; rfl⟩
    rw [isIndented, List.any_append, hshown, Bool.or_true, Bool.and_true]
    rfl

theorem entryLine_shows (d : EnumDefinition) {name : String} (h : '\n' ∉ name.toList)
    (number : Int) : hasBody (chars [entryLine d name number]) = true := by
  have hname : '\n' ∉ (memberName d.values name).toList :=
    Identifier.newline_notMem_constant fun hmem => h (Namespace.mem_of_mem_stripPrefix hmem)
  rw [chars_cons, entryLine, String.toList_append, String.toList_append, String.toList_append,
    List.append_assoc]
  exact hasBody_of_name hname (by decide) ⟨'=', by decide, by decide⟩ _

theorem fieldLine_shows {f : StructField} (h : '\n' ∉ f.name.toList) :
    hasBody (chars [fieldLine f]) = true := by
  rw [chars_cons, fieldLine, String.toList_append, String.toList_append, String.toList_append,
    List.append_assoc]
  exact hasBody_of_name (Identifier.newline_notMem_normalize h) (by decide)
    ⟨':', by decide, by decide⟩ _

/-! ## Definitions -/

/-- What a template writes for a definition, up to its `class` line and behind it. -/
structure ClassText where
  opening : List String
  body : List String

def ClassText.lines (text : ClassText) : List String := text.opening ++ text.body

def enumText (d : EnumDefinition) : ClassText where
  opening := ["", "class " ++ d.name ++ "(enum.IntEnum):"]
  body := (if d.values.isEmpty then ["    pass"] else []) ++
    (d.values.zip (numbersFrom 0 d.values)).flatMap (entryLines d.values) ++ [""]

def structText (d : StructDefinition) : ClassText where
  opening := ["", "@dataclasses.dataclass", "class " ++ d.name ++ ":"]
  body := d.fields.flatMap fieldLines ++ [""]

theorem lines_enumText (d : EnumDefinition) :
    (enumText d).lines = enumClass (numbersFrom 0 d.values) d := by
  simp only [ClassText.lines, enumText, enumClass, List.append_assoc]

theorem lines_structText (d : StructDefinition) : (structText d).lines = structClass d := by
  simp only [ClassText.lines, structText, structClass, List.append_assoc]

/-- Whether an enumeration has no entries, or a named one among them shows. -/
def FilledEnum (d : EnumDefinition) : Prop :=
  d.values = [] ∨ ∃ entry ∈ d.values.zip (numbersFrom 0 d.values), ∃ name,
    entry.1.name = some name ∧ name ≠ "" ∧ Shows (entryLine d name entry.2) entry.1.comment

/-- Whether a field of a structure shows. -/
def FilledStruct (d : StructDefinition) : Prop := ∃ f ∈ d.fields, Shows (fieldLine f) f.comment

theorem hasBody_entryLines (d : EnumDefinition) (entry : EnumValue × Int) :
    hasBody (chars (entryLines d.values entry)) = true ↔ ∃ name,
      entry.1.name = some name ∧ name ≠ "" ∧ Shows (entryLine d name entry.2) entry.1.comment := by
  cases hname : entry.1.name with
  | none =>
    rw [entryLines, hname]
    simp [hasBody, chars, Comment.splitLines]
  | some name =>
    by_cases hempty : name = ""
    · rw [entryLines, hname]
      simp [hempty, hasBody, chars, Comment.splitLines]
    · have hlines : entryLines d.values entry =
          entryLine d name entry.2 :: documentationLines entry.1.comment := by
        rw [entryLines, hname]
        exact if_neg hempty
      rw [hlines, hasBody_member]
      simp [hempty]

theorem hasBody_append (first second : List String) :
    hasBody (chars (first ++ second)) = (hasBody (chars first) || hasBody (chars second)) := by
  rw [hasBody_chars, List.any_append, ← hasBody_chars, ← hasBody_chars]

theorem hasBody_flatMap {α : Type} (lines : α → List String) (values : List α) :
    hasBody (chars (values.flatMap lines)) = values.any fun value => hasBody (chars (lines value)) := by
  induction values with
  | nil => rfl
  | cons value values ih => rw [List.flatMap_cons, hasBody_append, ih, List.any_cons]

theorem hasBody_enumText (d : EnumDefinition) :
    hasBody (chars (enumText d).body) = true ↔ FilledEnum d := by
  have hpass : hasBody (chars (if d.values.isEmpty then ["    pass"] else [])) = true ↔
      d.values = [] := by
    cases d.values with
    | nil => exact ⟨fun _ => rfl, fun _ => by decide⟩
    | cons v rest => exact ⟨fun h => absurd h Bool.false_ne_true, fun h => nomatch h⟩
  rw [enumText, hasBody_append, hasBody_append, Bool.or_eq_true, Bool.or_eq_true, hpass,
    hasBody_flatMap, List.any_eq_true, FilledEnum]
  simp only [hasBody_entryLines]
  exact or_iff_left (by decide)

theorem hasBody_structText (d : StructDefinition) :
    hasBody (chars (structText d).body) = true ↔ FilledStruct d := by
  rw [structText, hasBody_append, Bool.or_eq_true, hasBody_flatMap, List.any_eq_true, FilledStruct]
  have hfield (f : StructField) :
      hasBody (chars (fieldLines f)) = true ↔ Shows (fieldLine f) f.comment :=
    hasBody_member (fieldLine f) f.comment
  simp only [hfield]
  exact or_iff_left (by decide)

/-! ## Documents -/

theorem render_enumTexts (inputs : Renderer.Inputs) {definitions : List EnumDefinition}
    (h : (Document.enums definitions).KeysApart) :
    Renderer.render (.enums definitions) (text .enums) inputs =
      .ok (ofLines (headerLines "enums" "Enumerations" "enum" inputs ++
        definitions.flatMap fun d => (enumText d).lines)) := by
  rw [Renderer.render_shows (ofText_text .enums) (yields_enums inputs h), ofList_chars]
  simp only [lines_enumText]

theorem render_structTexts (inputs : Renderer.Inputs) {definitions : List StructDefinition}
    (h : (Document.structs definitions).KeysApart)
    (hrecognized : ∀ d ∈ definitions, ∀ f ∈ d.fields, isUnrecognized f = false) :
    Renderer.render (.structs definitions) (text .structs) inputs =
      .ok (ofLines (headerLines "structs" "Node structures" "dataclasses" inputs ++
        definitions.flatMap fun d => (structText d).lines)) := by
  have hnone : (definitions.flatMap (·.fields)).find? isUnrecognized = none := by
    rw [List.find?_eq_none]
    intro f hf
    obtain ⟨d, hd, hfield⟩ := List.mem_flatMap.mp hf
    rw [hrecognized d hd f hfield]
    decide
  have hyields := yields_structs inputs h
  rw [hnone] at hyields
  rw [Renderer.render_shows (ofText_text .structs) hyields, ofList_chars]
  simp only [lines_structText]

/-- **A class is written with a body exactly if its definition is filled.** -/
theorem render_bodies_iff (inputs : Renderer.Inputs) :
    (∀ definitions, (Document.enums definitions).KeysApart →
      Renderer.render (.enums definitions) (text .enums) inputs =
          .ok (ofLines (headerLines "enums" "Enumerations" "enum" inputs ++
            definitions.flatMap fun d => (enumText d).lines)) ∧
        ∀ d ∈ definitions, hasBody (chars (enumText d).body) = true ↔ FilledEnum d) ∧
    ∀ definitions, (Document.structs definitions).KeysApart →
      (∀ d ∈ definitions, ∀ f ∈ d.fields, isUnrecognized f = false) →
      Renderer.render (.structs definitions) (text .structs) inputs =
          .ok (ofLines (headerLines "structs" "Node structures" "dataclasses" inputs ++
            definitions.flatMap fun d => (structText d).lines)) ∧
        ∀ d ∈ definitions, hasBody (chars (structText d).body) = true ↔ FilledStruct d :=
  ⟨fun _ h => ⟨render_enumTexts inputs h, fun d _ => hasBody_enumText d⟩,
    fun _ h hrecognized => ⟨render_structTexts inputs h hrecognized,
      fun d _ => hasBody_structText d⟩⟩

/-- Entries that are only comments, before one that has a name. -/
def mixedSample : EnumDefinition :=
  ⟨"Lock", [⟨none, none, some "/* none yet */", []⟩, ⟨some "SHARE", none, none, []⟩], []⟩

theorem render_bodies_samples :
    ((Document.enums [mixedSample, ⟨"Empty", [], []⟩]).KeysApart ∧
      hasBody (chars (enumText mixedSample).body) = true ∧
      hasBody (chars (enumText ⟨"Empty", [], []⟩).body) = true) ∧
    (Document.structs [recognizedSample]).KeysApart ∧
      hasBody (chars (structText recognizedSample).body) = true := by
  have henums : (Document.enums [mixedSample, ⟨"Empty", [], []⟩]).KeysApart := by decide
  have hstructs : (Document.structs [recognizedSample]).KeysApart := by decide
  have hbodies := render_bodies_iff ⟨"srcdata/defs.json", 2024⟩
  have henum := (hbodies.1 [mixedSample, ⟨"Empty", [], []⟩] henums).2
  have hstruct := (hbodies.2 [recognizedSample] hstructs (by decide)).2
  refine ⟨⟨henums, (henum mixedSample (by simp)).mpr ?_, (henum ⟨"Empty", [], []⟩ (by simp)).mpr ?_⟩,
    hstructs, (hstruct recognizedSample (by simp)).mpr ?_⟩
  · exact Or.inr ⟨(⟨some "SHARE", none, none, []⟩, 1), by simp [mixedSample, numbersFrom], "SHARE",
      rfl, by decide, Or.inl (entryLine_shows _ (by decide) _)⟩
  · exact Or.inl rfl
  · exact ⟨_, List.mem_cons_self, Or.inl (fieldLine_shows (by decide))⟩

/-- Only a comment, where the name of an entry would be. -/
def placeholderSample : EnumDefinition :=
  ⟨"Lock", [⟨none, none, some "/* none yet */", []⟩], []⟩

/-- The classes end with their `class` lines. -/
theorem render_without_bodies :
    Renderer.render (.enums [placeholderSample]) (text .enums) ⟨"srcdata/defs.json", 2024⟩ =
        .ok (ofLines
          ["# Generated from defs.json (srcdata).",
            "# Do not edit by hand; rerun `postgres-parser-codegen enums` instead.",
            "#",
            "# Copyright (c) 2024 postgres-parser contributors",
            "\"\"\"Enumerations declared by the PostgreSQL parser.\"\"\"",
            "",
            "import enum",
            "",
            "",
            "class Lock(enum.IntEnum):",
            ""]) ∧
      hasBody (chars (enumText placeholderSample).body) = false ∧
    Renderer.render (.structs [⟨"Node", [], []⟩]) (text .structs) ⟨"srcdata/defs.json", 2024⟩ =
        .ok (ofLines
          ["# Generated from defs.json (srcdata).",
            "# Do not edit by hand; rerun `postgres-parser-codegen structs` instead.",
            "#",
            "# Copyright (c) 2024 postgres-parser contributors",
            "\"\"\"Node structures declared by the PostgreSQL parser.\"\"\"",
            "",
            "import dataclasses",
            "",
            "",
            "@dataclasses.dataclass",
            "class Node:",
            ""]) ∧
      hasBody (chars (structText ⟨"Node", [], []⟩).body) = false := by
  have henums : (Document.enums [placeholderSample]).KeysApart := by decide
  have hstructs : (Document.structs [⟨"Node", [], []⟩]).KeysApart := by decide
  refine ⟨?_, by decide, ?_, by decide⟩
  · rw [render_enumTexts ⟨"srcdata/defs.json", 2024⟩ henums]
    exact congrArg Except.ok (by decide +kernel)
  · rw [render_structTexts ⟨"srcdata/defs.json", 2024⟩ hstructs (by decide)]
    exact congrArg Except.ok (by decide +kernel)

end BindingGen.ShippedTemplate
