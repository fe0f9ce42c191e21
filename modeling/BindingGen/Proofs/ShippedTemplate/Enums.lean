import BindingGen.Proofs.Schema.Apart
import BindingGen.Proofs.ShippedTemplate.Parts

/-!
# The template of enumerations

For every document of enumerations the shipped template renders to the module that is written
directly, in which an entry without a value of its own has its position as its number.
-/

namespace BindingGen.ShippedTemplate

open Template Env Schema

/-! ## Entries -/

theorem memberName?_ofMembers {v : EnumValue} (h : v.KeysApart) :
    Vocabulary.memberName? (Json.ofMembers v.members) = v.name := by
  rw [Json.ofMembers, Vocabulary.memberName?, v.lookup_name h]
  cases v.name <;> rfl

variable {env : Env} {block outer : Block} {scopes : Scopes} {v : EnumValue} {i : Nat}

/-- The number of an entry: its own value, zero included, or else the index of its round. -/
theorem yields_number (hhelpers : env.helpers = Vocabulary.all) (hscopes : scopes.GiveNothing)
    (hv : v.KeysApart) (hblock : ItemAt env.data i (Json.ofMembers v.members) block) :
    Yields (env.renderElement (block :: scopes) numberElement)
      (.ok (toString (v.value.getD i)).toList) := by
  have hvalue := Scopes.resolve_own hscopes hblock.standsAt (v.lookup_value hv)
  have hzero : env.evalParam (block :: scopes) (.literal (.bool true)) =
      pure (.computed (.bool true)) := by rw [evalParam]
  refine yields_condition ⟨_, _, evalArgs_option (evalParam_path hvalue) hzero, rfl, rfl⟩
    (congrArg (List.lookup "if") hhelpers) ?_
  cases hcase : v.value with
  | none =>
    have hindex := Scopes.resolve_localPath env.data scopes "@index" hblock.index
    exact (shows_cons (yields_value (congrArg (List.lookup "@index") hhelpers) hindex rfl)
      yields_nil).congr (List.append_nil _)
  | some n =>
    rw [hcase] at hvalue
    exact (shows_cons (yields_value (congrArg (List.lookup "value") hhelpers) hvalue rfl)
      yields_nil).congr (List.append_nil _)

/-- A name without the namespace of the members that stand around it. -/
theorem evalParam_strippedName {d : EnumDefinition} {name : String}
    (hhelpers : env.helpers = Vocabulary.all) (hscopes : scopes.GiveNothing) (hd : d.KeysApart)
    (hv : v.KeysApart) (hname : v.name = some name)
    (houter : outer.StandsAt env.data (Json.ofMembers (d.members Json.ofMembers)))
    (hblock : block.StandsAt env.data (Json.ofMembers v.members)) :
    env.evalParam (block :: outer :: scopes) strippedName =
      pure (.computed (.string
        (Namespace.stripPrefix name (Namespace.commonPrefix (d.values.map (·.name)))))) := by
  have hraw := Scopes.resolve_own (hscopes.cons houter) hblock (v.lookup_name hv)
  rw [hname] at hraw
  have hvalues : Scopes.resolve env.data (block :: outer :: scopes)
      (Scopes.fieldPath "../values" 1 "values") =
        .ok ⟨some "../values", some (.array (d.values.map fun v => Json.ofMembers v.members)),
          some (outer.origin ++ ["values"])⟩ :=
    Scopes.resolve_fieldPath ((hscopes.cons houter).cons hblock) houter (d.lookup_values hd)
  have hnames : (d.values.map fun v => Json.ofMembers v.members).map Vocabulary.memberName? =
      d.values.map (·.name) := by
    rw [List.map_map]
    exact List.map_congr_left fun v hmem => memberName?_ofMembers (hd.values v hmem)
  have hshared := evalParam_call (evalArgs_one (evalParam_path hvalues))
    (congrArg (List.lookup "common_prefix") hhelpers) (Vocabulary.sharedPrefix_eq rfl)
  rw [hnames, String.ofList_toList] at hshared
  have hstripped := evalParam_call (evalArgs_two (evalParam_path hraw) hshared)
    (congrArg (List.lookup "strip_prefix") hhelpers) (Vocabulary.stripped_eq rfl rfl)
  rw [String.ofList_toList] at hstripped
  exact hstripped

/-- A named entry shows its lines, and a placeholder shows nothing. -/
theorem yields_entry {d : EnumDefinition} (hhelpers : env.helpers = Vocabulary.all)
    (hscopes : scopes.GiveNothing) (hd : d.KeysApart) (hv : v.KeysApart)
    (houter : outer.StandsAt env.data (Json.ofMembers (d.members Json.ofMembers)))
    (hblock : ItemAt env.data i (Json.ofMembers v.members) block) :
    Yields (env.renderElements (block :: outer :: scopes) enumMemberElements)
      (.ok (chars (Emission.entryLines d.values (v, v.value.getD i)))) := by
  have hname := Scopes.resolve_own (hscopes.cons houter) hblock.standsAt (v.lookup_name hv)
  refine Yields.congr (shows_cons (yields_condition ⟨_, _, evalArgs_one (evalParam_path hname),
    rfl, rfl⟩ (congrArg (List.lookup "if") hhelpers) ?_) yields_nil) (List.append_nil _)
  cases hcase : v.name with
  | none =>
    rw [Emission.entryLines, hcase]
    exact yields_nil
  | some name =>
    -- An empty name does not hold as a condition, so its entry is left out like one without a name.
    by_cases hempty : name = ""
    · rw [Emission.entryLines, hcase, hempty]
      exact yields_nil
    · have hlines : Emission.entryLines d.values (v, v.value.getD i) =
          ("    " ++ Emission.memberName d.values name ++ " = " ++ toString (v.value.getD i)) ::
            Emission.documentationLines v.comment := by
        rw [Emission.entryLines, hcase]
        exact if_neg hempty
      have hholds : holds (includesZero []) (.string name) = true := by simp [holds, hempty]
      change Yields (env.renderElements _ (if holds (includesZero []) (.string name) == true then _
        else _)) _
      rw [hholds, hlines]
      have hstripped := evalParam_strippedName hhelpers hscopes hd hv hcase houter hblock.standsAt
      refine Yields.congr (yields_append
        (shows_cons (yields_text _)
        (shows_cons (shows_call (evalArgs_one hstripped)
          (congrArg (List.lookup "to_upper_snake") hhelpers) (Vocabulary.mapText_eq _ _ rfl))
        (shows_cons (yields_text _)
        (shows_cons (yields_number hhelpers (hscopes.cons houter) hv hblock)
        (shows_cons (yields_text _) yields_nil)))))
        (yields_documentation 18 hhelpers (hscopes.cons houter) hblock.standsAt
          (v.lookup_comment hv))) ?_
      simp only [chars_cons, String.toList_append, String.reduceToList, List.append_assoc,
        List.cons_append, List.nil_append]
      rfl

/-! ## Definitions -/

theorem zip_numbersFrom {β : Type} (lines : EnumValue × Int → List β) (n : Nat)
    (values : List EnumValue) :
    ((values.zipIdx n).flatMap fun entry => lines (entry.1, entry.1.value.getD entry.2)) =
      (values.zip (Emission.numbersFrom n values)).flatMap lines := by
  induction values generalizing n with
  | nil => rfl
  | cons v rest ih =>
    rw [List.zipIdx_cons, Emission.numbersFrom, List.zip_cons_cons, List.flatMap_cons,
      List.flatMap_cons, ih]

theorem yields_enumElements {d : EnumDefinition} (hhelpers : env.helpers = Vocabulary.all)
    (hscopes : scopes.GiveNothing) (hd : d.KeysApart)
    (houter : outer.StandsAt env.data (Json.ofMembers (d.members Json.ofMembers))) :
    Yields (env.renderElements (outer :: scopes) enumElements)
      (.ok (chars (Emission.enumClass (Emission.numbersFrom 0 d.values) d))) := by
  have hname := Scopes.resolve_own hscopes houter (d.lookup_name hd)
  have hvalues := Scopes.resolve_own hscopes houter (d.lookup_values hd)
  have hpass : Yields (env.renderElements (outer :: scopes)
      (if (!(d.values.map fun v => Json.ofMembers v.members).isEmpty) == false then
        [.text "    pass\n".toList] else []))
      (.ok (chars (if d.values.isEmpty then ["    pass"] else []))) := by
    cases d.values with
    | nil =>
      refine Yields.congr (shows_cons (yields_text _) yields_nil) ?_
      simp only [List.isEmpty_nil, if_true, chars_cons, String.reduceToList]
      rfl
    | cons => exact yields_nil
  refine Yields.congr (shows_cons (yields_text _)
    (shows_cons (yields_value (congrArg (List.lookup "name") hhelpers) hname rfl)
    (shows_cons (yields_text _)
    (shows_cons (yields_condition ⟨_, _, evalArgs_one (evalParam_path hvalues), rfl, rfl⟩
      (congrArg (List.lookup "unless") hhelpers) hpass)
    (shows_cons (shows_each (congrArg (List.lookup "each") hhelpers) hvalues
      (houter.walk_member (d.lookup_values hd)) fun i v hi block hblock =>
        yields_entry hhelpers hscopes hd (hd.values v (List.mem_of_getElem? hi)) houter hblock)
    (shows_cons (yields_text _) yields_nil)))))) ?_
  rw [zip_numbersFrom (fun entry => chars (Emission.entryLines d.values entry))]
  simp only [Emission.enumClass, chars_append, chars_cons, chars_flatMap, String.toList_append,
    String.reduceToList, List.append_assoc, List.cons_append, List.nil_append, shown]
  rfl

/-! ## Documents -/

theorem yields_enums {definitions : List EnumDefinition} (inputs : Renderer.Inputs)
    (h : ∀ d ∈ definitions, d.KeysApart) :
    Yields ((Renderer.rootEnv (.enums definitions) inputs).renderElements .root (elements .enums))
      (.ok (chars (Emission.headerLines "enums" "Enumerations" "enum" inputs ++
        definitions.flatMap fun d =>
          Emission.enumClass (Emission.numbersFrom 0 d.values) d))) := by
  have hroot : Block.root.StandsAt (Renderer.context (.enums definitions) inputs)
      (.object (Renderer.contextMembers (.enums definitions) inputs)) := Block.root_standsAt _
  have hdefinitions := Renderer.lookup_definitions (.enums definitions) inputs
  refine Yields.congr (yields_append (yields_header _ _ _ _ _)
    (shows_cons (shows_each rfl (Scopes.resolve_own Scopes.nil_giveNothing hroot hdefinitions)
      (hroot.walk_member hdefinitions) fun i d hi block hblock =>
        yields_enumElements rfl (Scopes.nil_giveNothing.cons hroot)
          (h d (List.mem_of_getElem? hi)) hblock.standsAt) yields_nil)) ?_
  rw [flatMap_zipIdx fun d => chars (Emission.enumClass (Emission.numbersFrom 0 d.values) d),
    chars_append, chars_flatMap, List.append_nil]

/-- **The template of enumerations is its emitter.** An entry without a value of its own has its
position as its number, and one without a name has no line. -/
theorem render_enums (definitions : List EnumDefinition) (inputs : Renderer.Inputs)
    (h : (Document.enums definitions).KeysApart) :
    Renderer.render (.enums definitions) (text .enums) inputs =
      .ok (Emission.enumModule (Emission.numbersFrom 0) definitions inputs) := by
  rw [Renderer.render_shows (ofText_text .enums) (yields_enums inputs h), ofList_chars]
  rfl

/-- Entries with and without a value, with placeholders between them, and an empty definition. -/
def sampleEnums : List EnumDefinition :=
  [⟨"Mode",
      [⟨some "MODE_ON", some 0, some "/* first */", []⟩, ⟨none, some 7, some "/* old */", []⟩,
        ⟨some "MODE_FAST", none, none, [("loc", .null)]⟩,
        ⟨some "MODE_SLOW", some (-3), some "", []⟩],
      [("comment", .string "/* modes */")]⟩,
    ⟨"Nothing", [], []⟩]

/-- The sample, with a placeholder that keeps its position. -/
theorem render_enums_sample :
    (Document.enums sampleEnums).KeysApart ∧
      Renderer.render (.enums sampleEnums) (text .enums) ⟨"srcdata/defs.json", 2024⟩ =
        .ok (ofLines
          ["# Generated from defs.json (srcdata).",
            "# Do not edit by hand; rerun `postgres-parser-codegen enums` instead.",
            "#",
            "# Copyright (c) 2024 postgres-parser contributors",
            "\"\"\"Enumerations declared by the PostgreSQL parser.\"\"\"",
            "",
            "import enum",
            "",
            "",
            "class Mode(enum.IntEnum):",
            "    ON = 0",
            "    \"\"\"first\"\"\"",
            "    FAST = 2",
            "    SLOW = -3",
            "",
            "",
            "class Nothing(enum.IntEnum):",
            "    pass",
            ""]) := by
  have h : (Document.enums sampleEnums).KeysApart := by decide
  refine ⟨h, ?_⟩
  rw [render_enums sampleEnums ⟨"srcdata/defs.json", 2024⟩ h]
  exact congrArg Except.ok (by decide +kernel)

end BindingGen.ShippedTemplate
