import BindingGen.Proofs.Schema.Apart
import BindingGen.Proofs.ShippedTemplate.Parts

/-!
# The template of structures

For every document of structures the shipped template renders to the module that is written
directly, if all annotations are recognized. Otherwise it fails with the first that is not, in the
order of the document.
-/

namespace BindingGen.ShippedTemplate

open Template Env Schema Emission

/-! ## Annotations -/

theorem ofAnnotation?_of_int {spelling : String} (h : spelling ∈ intSpellings) :
    NativeType.ofAnnotation? spelling = some .int := by
  rcases List.mem_cons.mp h with rfl | h
  · rfl
  · rw [List.mem_singleton.mp h]
    rfl

theorem ofAnnotation?_of_string {spelling : String} (h : spelling ∈ stringSpellings) :
    NativeType.ofAnnotation? spelling = some .charPointer := by
  rcases List.mem_cons.mp h with rfl | h
  · rfl
  · rcases List.mem_cons.mp h with rfl | h
    · rfl
    · rw [List.mem_singleton.mp h]
      rfl

theorem ofAnnotation?_of_unrecognized {f : StructField} (h : isUnrecognized f = true) :
    NativeType.ofAnnotation? f.cType = none := by
  have hnot : f.cType ∉ intSpellings ++ stringSpellings := of_decide_eq_true h
  rw [List.mem_append, not_or] at hnot
  rw [NativeType.ofAnnotation?, List.find?_eq_none]
  intro type _ hmem
  cases type with
  | int => exact hnot.1 (List.contains_iff_mem.mp hmem)
  | charPointer => exact hnot.2 (List.contains_iff_mem.mp hmem)

theorem ofAnnotation?_of_recognized {f : StructField} (h : isUnrecognized f = false) :
    ∃ type, NativeType.ofAnnotation? f.cType = some type ∧ type.target = targetType f.cType := by
  have hmem : f.cType ∈ intSpellings ++ stringSpellings :=
    Decidable.not_not.mp (of_decide_eq_false h)
  rw [List.mem_append] at hmem
  by_cases hint : f.cType ∈ intSpellings
  · exact ⟨.int, ofAnnotation?_of_int hint, by rw [targetType, if_pos hint]; rfl⟩
  · have hstring := hmem.resolve_left hint
    refine ⟨.charPointer, ofAnnotation?_of_string hstring, ?_⟩
    rw [targetType, if_neg hint, if_pos hstring]
    rfl

/-! ## The first unrecognized annotation -/

/-- A text, unless a field has an annotation that is not recognized. -/
def checked (unknown : Option StructField) (content : List Char) : Except Fault (List Char) :=
  match unknown with
  | some f => .error (.unsupportedType f.cType)
  | none => .ok content

theorem roundsFrom_checked {α : Type} (unknown : α → Option StructField)
    (shown : α → List Char) (n : Nat) (values : List α) :
    roundsFrom (fun _ value => checked (unknown value) (shown value)) n values =
      checked (values.findSome? unknown) (values.flatMap shown) := by
  induction values generalizing n with
  | nil => rfl
  | cons value rest ih =>
    rw [roundsFrom, ih, List.findSome?_cons, List.flatMap_cons]
    cases unknown value with
    | some f => rfl
    | none => cases rest.findSome? unknown <;> rfl

/-! ## Fields -/

variable {env : Env} {block outer : Block} {scopes : Scopes} {f : StructField}

theorem yields_mappedType (hhelpers : env.helpers = Vocabulary.all) (hscopes : scopes.GiveNothing)
    (hf : f.KeysApart) (hblock : block.StandsAt env.data (Json.ofMembers f.members)) :
    Yields (env.renderElement (block :: scopes)
        (.call ⟨14, 25⟩ ⟨"map_type", [(none, field "c_type")], []⟩))
      (checked (Option.guard isUnrecognized f) (targetType f.cType).toList) := by
  have hcType := Scopes.resolve_own hscopes hblock (f.lookup_cType hf)
  refine yields_call (evalArgs_one (evalParam_path hcType))
    (congrArg (List.lookup "map_type") hhelpers) ?_
  rw [Vocabulary.mappedType_eq rfl]
  cases h : isUnrecognized f with
  | true =>
    rw [ofAnnotation?_of_unrecognized h, Option.guard, if_pos h]
    rfl
  | false =>
    obtain ⟨type, htype, htarget⟩ := ofAnnotation?_of_recognized h
    rw [htype, Option.guard, if_neg (by rw [h]; decide), ← htarget]
    rfl

theorem yields_field (hhelpers : env.helpers = Vocabulary.all) (hscopes : scopes.GiveNothing)
    (hf : f.KeysApart) (hblock : block.StandsAt env.data (Json.ofMembers f.members)) :
    Yields (env.renderElements (block :: scopes) structMemberElements)
      (checked (Option.guard isUnrecognized f) (chars (fieldLines f))) := by
  have hname := Scopes.resolve_own hscopes hblock (f.lookup_name hf)
  have htype := yields_mappedType hhelpers hscopes hf hblock
  have hdocumentation := yields_documentation 15 hhelpers hscopes hblock (f.lookup_comment hf)
  cases hguard : Option.guard isUnrecognized f with
  | some unknown =>
    rw [hguard] at htype
    -- The fault of the type goes through, whatever the rest of the field would show.
    exact yields_append
      (yields_cons (yields_text _)
      (yields_cons (shows_call (evalArgs_one (evalParam_path hname))
        (congrArg (List.lookup "normalize") hhelpers) (Vocabulary.mapText_eq _ _ rfl))
      (yields_cons (yields_text _)
      (yields_cons htype
      (yields_cons (yields_text _) yields_nil))))) hdocumentation
  | none =>
    rw [hguard] at htype
    refine Yields.congr (yields_append
      (shows_cons (yields_text _)
      (shows_cons (shows_call (evalArgs_one (evalParam_path hname))
        (congrArg (List.lookup "normalize") hhelpers) (Vocabulary.mapText_eq _ _ rfl))
      (shows_cons (yields_text _)
      (shows_cons htype
      (shows_cons (yields_text _) yields_nil))))) hdocumentation) ?_
    simp only [fieldLines, chars_cons, String.toList_append, String.reduceToList,
      List.append_assoc, List.cons_append, List.nil_append]

/-! ## Definitions -/

theorem yields_structElements {d : StructDefinition} (hhelpers : env.helpers = Vocabulary.all)
    (hscopes : scopes.GiveNothing) (hd : d.KeysApart)
    (hblock : block.StandsAt env.data (Json.ofMembers (d.members Json.ofMembers))) :
    Yields (env.renderElements (block :: scopes) structElements)
      (checked (d.fields.find? isUnrecognized) (chars (structClass d))) := by
  have hname := Scopes.resolve_own hscopes hblock (d.lookup_name hd)
  have hfields : Yields (env.renderElement (block :: scopes)
      (.block (some ⟨13, 1⟩) ⟨"each", [(none, field "fields")], []⟩ true structMemberElements none))
      (checked (d.fields.find? isUnrecognized)
        (d.fields.flatMap fun f => chars (fieldLines f))) := by
    rw [← List.findSome?_guard, ← roundsFrom_checked]
    exact yields_each (congrArg (List.lookup "each") hhelpers)
      (Scopes.resolve_own hscopes hblock (d.lookup_fields hd))
      (hblock.walk_member (d.lookup_fields hd)) fun i f hi inner hinner =>
        yields_field hhelpers (hscopes.cons hblock) (hd.fields f (List.mem_of_getElem? hi))
          hinner.standsAt
  cases hfind : d.fields.find? isUnrecognized with
  | some unknown =>
    rw [hfind] at hfields
    exact yields_cons (yields_text _)
      (yields_cons (yields_value (congrArg (List.lookup "name") hhelpers) hname rfl)
      (yields_cons (yields_text _)
      (yields_cons hfields
      (yields_cons (yields_text _) yields_nil))))
  | none =>
    rw [hfind] at hfields
    refine Yields.congr (shows_cons (yields_text _)
      (shows_cons (yields_value (congrArg (List.lookup "name") hhelpers) hname rfl)
      (shows_cons (yields_text _)
      (shows_cons hfields
      (shows_cons (yields_text _) yields_nil))))) ?_
    simp only [structClass, chars_append, chars_cons, chars_flatMap, String.toList_append,
      String.reduceToList, List.append_assoc, List.cons_append, List.nil_append, shown]
    rfl

/-! ## Documents -/

theorem yields_structs {definitions : List StructDefinition} (inputs : Renderer.Inputs)
    (h : ∀ d ∈ definitions, d.KeysApart) :
    Yields ((Renderer.rootEnv (.structs definitions) inputs).renderElements .root
        (elements .structs))
      (checked ((definitions.flatMap (·.fields)).find? isUnrecognized)
        (chars (headerLines "structs" "Node structures" "dataclasses" inputs ++
          definitions.flatMap structClass))) := by
  have hroot : Block.root.StandsAt (Renderer.context (.structs definitions) inputs)
      (.object (Renderer.contextMembers (.structs definitions) inputs)) := Block.root_standsAt _
  have hdefinitions := Renderer.lookup_definitions (.structs definitions) inputs
  have hclasses : Yields ((Renderer.rootEnv (.structs definitions) inputs).renderElement .root
      (.block (some ⟨9, 1⟩) ⟨"each", [(none, field "all_structs")], []⟩ true structElements none))
      (checked ((definitions.flatMap (·.fields)).find? isUnrecognized)
        (definitions.flatMap fun d => chars (structClass d))) := by
    rw [List.find?_flatMap, ← roundsFrom_checked]
    exact yields_each rfl
      (Scopes.resolve_own Scopes.nil_giveNothing hroot hdefinitions)
      (hroot.walk_member hdefinitions) fun i d hi block hblock =>
        yields_structElements rfl (Scopes.nil_giveNothing.cons hroot)
          (h d (List.mem_of_getElem? hi)) hblock.standsAt
  cases hfind : (definitions.flatMap (·.fields)).find? isUnrecognized with
  | some unknown =>
    rw [hfind] at hclasses
    exact yields_append (yields_header _ _ _ _ _) (yields_cons hclasses yields_nil)
  | none =>
    rw [hfind] at hclasses
    refine Yields.congr (yields_append (yields_header _ _ _ _ _)
      (shows_cons hclasses yields_nil)) ?_
    rw [chars_append, chars_flatMap, List.append_nil]

/-- **The template of structures is its emitter, or fails with the first annotation that is not
recognized.** -/
theorem render_structs (definitions : List StructDefinition) (inputs : Renderer.Inputs)
    (h : (Document.structs definitions).KeysApart) :
    Renderer.render (.structs definitions) (text .structs) inputs =
      match (definitions.flatMap (·.fields)).find? isUnrecognized with
      | some f => .error (.unsupportedType f.cType)
      | none => .ok (structModule definitions inputs) := by
  have hyields := yields_structs inputs h
  cases hfind : (definitions.flatMap (·.fields)).find? isUnrecognized with
  | some unknown =>
    rw [hfind] at hyields
    obtain ⟨e, hfault, hrender⟩ := Renderer.render_fails (ofText_text .structs) hyields
    rw [hrender, Renderer.failure, hfault]
  | none =>
    rw [hfind] at hyields
    rw [Renderer.render_shows (ofText_text .structs) hyields, ofList_chars]
    rfl

/-- Both types, with a comment, an empty one and none. -/
def recognizedSample : StructDefinition :=
  ⟨"RangeVar",
    [⟨"relName", "char *", some "/* the table */", []⟩, ⟨"inh", "int", some "", [("c", .null)]⟩,
      ⟨"location", "ctypes.c_int", none, []⟩], []⟩

/-- Two annotations that are not recognized, after one that is. -/
def unrecognizedSample : StructDefinition :=
  ⟨"Node", [⟨"id", "int", none, []⟩, ⟨"type", "Node\"Tag", none, []⟩, ⟨"oid", "Oid", none, []⟩], []⟩

/-- The samples: a module of the first alone, and the first fault of both. -/
theorem render_structs_samples :
    ((Document.structs [recognizedSample]).KeysApart ∧
      Renderer.render (.structs [recognizedSample]) (text .structs) ⟨"defs.json", 2024⟩ =
        .ok (ofLines
          ["# Generated from defs.json ().",
            "# Do not edit by hand; rerun `postgres-parser-codegen structs` instead.",
            "#",
            "# Copyright (c) 2024 postgres-parser contributors",
            "\"\"\"Node structures declared by the PostgreSQL parser.\"\"\"",
            "",
            "import dataclasses",
            "",
            "",
            "@dataclasses.dataclass",
            "class RangeVar:",
            "    rel_name: str",
            "    \"\"\"the table\"\"\"",
            "    inh: int",
            "    location: int",
            ""])) ∧
    (Document.structs [recognizedSample, unrecognizedSample]).KeysApart ∧
      Renderer.render (.structs [recognizedSample, unrecognizedSample]) (text .structs)
        ⟨"defs.json", 2024⟩ = .error (.unsupportedType "Node\"Tag") := by
  have hfirst : (Document.structs [recognizedSample]).KeysApart := by decide
  have hboth : (Document.structs [recognizedSample, unrecognizedSample]).KeysApart := by decide
  refine ⟨⟨hfirst, ?_⟩, hboth, ?_⟩
  · rw [render_structs [recognizedSample] ⟨"defs.json", 2024⟩ hfirst]
    exact congrArg Except.ok (by decide +kernel)
  · exact render_structs [recognizedSample, unrecognizedSample] ⟨"defs.json", 2024⟩ hboth

end BindingGen.ShippedTemplate
