import BindingGen.Proofs.Namespace.Longest
import BindingGen.Proofs.ShippedTemplate.Numbering

/-!
# The members behind a namespace

The template of enumerations writes the members whose names hold, and takes the namespace of all of
them. An entry without a name counts for neither. An empty name is not written, but it still counts
for the namespace, of which it leaves nothing.
-/

namespace BindingGen.ShippedTemplate

open Template Schema Emission

variable {v : EnumValue} {d : EnumDefinition} {names : List (Option String)}

/-! ## Written members -/

/-- Whether the template writes a member: its name holds as a condition. -/
def isWritten (v : EnumValue) : Bool := holds false ((v.members.sort.lookup "name").getD .null)

theorem isWritten_eq (h : v.KeysApart) : isWritten v = isNamed v := by
  unfold isWritten isNamed
  rw [v.lookup_name h]
  cases v.name <;> rfl

/-- The members that the template writes for a definition. -/
def writtenValues (d : EnumDefinition) : List EnumValue := d.values.filter isWritten

theorem mem_writtenValues (h : d.KeysApart) :
    v ∈ writtenValues d ↔ v ∈ d.values ∧ isNamed v = true := by
  unfold writtenValues
  rw [List.mem_filter]
  constructor
  · rintro ⟨hv, hwritten⟩
    exact ⟨hv, isWritten_eq (h.values v hv) ▸ hwritten⟩
  · rintro ⟨hv, hnamed⟩
    exact ⟨hv, (isWritten_eq (h.values v hv)).trans hnamed⟩

/-! ## Their namespace -/

theorem sharedPrefix_values {application : Application} (values : List EnumValue)
    (hapart : ∀ v ∈ values, v.KeysApart)
    (h : Vocabulary.value? application 0 =
      some (.array (values.map fun v => Json.ofMembers v.members))) :
    Vocabulary.sharedPrefix application =
      pure (.written (Namespace.commonPrefix (values.map (·.name))).toList) := by
  have hnames : (values.map fun v => Json.ofMembers v.members).map Vocabulary.memberName? =
      values.map (·.name) := by
    rw [List.map_map]
    exact List.map_congr_left fun v hv => memberName?_ofMembers (hapart v hv)
  rw [Vocabulary.sharedPrefix_eq h, hnames]

theorem written_inj {a b : List Char} :
    (pure (.written a) : Eval Outcome) = pure (.written b) ↔ a = b := by
  constructor
  · intro h
    have hrun := congrArg (fun action : Eval Outcome => (action.run.run .start).1) h
    injection hrun with houtcome
    injection houtcome
  · rintro rfl
    rfl

theorem commonPrefix_of_empty (h : some "" ∈ names) : Namespace.commonPrefix names = "" := by
  have hmem : [] ∈ names.reduceOption.map String.toList :=
    List.mem_map.mpr ⟨"", List.reduceOption_mem_iff.mpr h, rfl⟩
  rw [Namespace.commonPrefix_eq, List.prefix_nil.mp (Namespace.commonPrefixChars_prefix hmem)]

/-- Without empty names, the written members are all that a namespace is taken of. -/
theorem commonPrefix_written (h : d.KeysApart) (hempty : ∀ v ∈ d.values, v.name ≠ some "") :
    Namespace.commonPrefix ((writtenValues d).map (·.name)) =
      Namespace.commonPrefix (d.values.map (·.name)) := by
  apply Namespace.commonPrefix_congr
  intro name
  simp only [List.mem_map, mem_writtenValues h]
  constructor
  · rintro ⟨v, ⟨hv, _⟩, hname⟩
    exact ⟨v, hv, hname⟩
  · rintro ⟨v, hv, hname⟩
    refine ⟨v, ⟨hv, ?_⟩, hname⟩
    have hne : name ≠ "" := by
      rintro rfl
      exact hempty v hv hname
    simp [isNamed, hname, hne]

theorem commonPrefix_written_iff (h : d.KeysApart) :
    Namespace.commonPrefix (d.values.map (·.name)) =
        Namespace.commonPrefix ((writtenValues d).map (·.name)) ↔
      (∀ v ∈ d.values, v.name ≠ some "") ∨
        Namespace.commonPrefix ((writtenValues d).map (·.name)) = "" := by
  by_cases hempty : ∀ v ∈ d.values, v.name ≠ some ""
  · exact iff_of_true (commonPrefix_written h hempty).symm (Or.inl hempty)
  · have hmem : some "" ∈ d.values.map (·.name) := by
      simp only [ne_eq, not_forall, not_not] at hempty
      obtain ⟨v, hv, hname⟩ := hempty
      exact List.mem_map.mpr ⟨v, hv, hname⟩
    rw [commonPrefix_of_empty hmem, eq_comm]
    exact (or_iff_right hempty).symm

theorem commonPrefix_named (values : List EnumValue) :
    Namespace.commonPrefix ((values.filter (·.name.isSome)).map (·.name)) =
      Namespace.commonPrefix (values.map (·.name)) := by
  apply Namespace.commonPrefix_congr
  intro name
  simp only [List.mem_map, List.mem_filter]
  constructor
  · rintro ⟨v, ⟨hv, _⟩, hname⟩
    exact ⟨v, hv, hname⟩
  · rintro ⟨v, hv, hname⟩
    exact ⟨v, ⟨hv, by rw [hname]; rfl⟩, hname⟩

/-- **The namespace is that of the written members exactly if no name is empty**, or these share
none, and then every member gets the name that it would get among them alone. Entries without a name
never count. -/
theorem sharedPrefix_written_iff (d : EnumDefinition) (h : d.KeysApart) :
    (∀ whole written : Application,
      Vocabulary.value? whole 0 =
        some (.array (d.values.map fun v => Json.ofMembers v.members)) →
      Vocabulary.value? written 0 =
        some (.array ((writtenValues d).map fun v => Json.ofMembers v.members)) →
      (Vocabulary.sharedPrefix whole = Vocabulary.sharedPrefix written ↔
        (∀ v ∈ d.values, v.name ≠ some "") ∨
          Namespace.commonPrefix ((writtenValues d).map (·.name)) = "")) ∧
    ((∀ v ∈ d.values, v.name ≠ some "") ∨
        Namespace.commonPrefix ((writtenValues d).map (·.name)) = "" →
      ∀ name, memberName d.values name = memberName (writtenValues d) name) ∧
    ∀ name, memberName d.values name = memberName (d.values.filter (·.name.isSome)) name := by
  refine ⟨?_, ?_, ?_⟩
  · intro whole written hwhole hwritten
    have hapart : ∀ v ∈ writtenValues d, v.KeysApart :=
      fun v hv => h.values v ((mem_writtenValues h).mp hv).1
    rw [sharedPrefix_values d.values h.values hwhole, sharedPrefix_values _ hapart hwritten,
      written_inj, String.toList_inj, commonPrefix_written_iff h]
  · intro hempty name
    unfold memberName
    rw [(commonPrefix_written_iff h).mpr hempty]
  · intro name
    unfold memberName
    rw [commonPrefix_named]

/-- Entries that are only comments, around two members. -/
def commentedSample : EnumDefinition :=
  ⟨"LockMode", [⟨none, none, some "/* old */", []⟩, ⟨some "LOCK_SHARE", none, none, []⟩,
    ⟨none, some 4, none, []⟩, ⟨some "LOCK_WAIT", none, none, []⟩, ⟨none, none, none, []⟩], []⟩

theorem sharedPrefix_written_sample :
    commentedSample.KeysApart ∧ (∀ v ∈ commentedSample.values, v.name ≠ some "") ∧
      memberName commentedSample.values "LOCK_SHARE" = "SHARE" ∧
      memberName (writtenValues commentedSample) "LOCK_SHARE" = "SHARE" := by
  have h : commentedSample.KeysApart := by decide
  have hempty : ∀ v ∈ commentedSample.values, v.name ≠ some "" := by decide
  have hname : memberName commentedSample.values "LOCK_SHARE" = "SHARE" := by decide +kernel
  have hsame := (sharedPrefix_written_iff commentedSample h).2.1 (Or.inl hempty) "LOCK_SHARE"
  exact ⟨h, hempty, hname, hsame.symm.trans hname⟩

/-- An entry with an empty name behind two members. -/
def emptyNameSample : EnumDefinition :=
  ⟨"LockMode", [⟨some "LOCK_SHARE", none, none, []⟩, ⟨some "LOCK_WAIT", none, none, []⟩,
    ⟨some "", none, none, []⟩], []⟩

/-- The written members share a namespace, and the template leaves it on their names. -/
theorem render_enums_empty_name :
    Namespace.commonPrefix ((writtenValues emptyNameSample).map (·.name)) = "LOCK_" ∧
      Namespace.commonPrefix (emptyNameSample.values.map (·.name)) = "" ∧
      Renderer.render (.enums [emptyNameSample]) (text .enums) ⟨"srcdata/defs.json", 2024⟩ =
        .ok (ofLines
          ["# Generated from defs.json (srcdata).",
            "# Do not edit by hand; rerun `postgres-parser-codegen enums` instead.",
            "#",
            "# Copyright (c) 2024 postgres-parser contributors",
            "\"\"\"Enumerations declared by the PostgreSQL parser.\"\"\"",
            "",
            "import enum",
            "",
            "",
            "class LockMode(enum.IntEnum):",
            "    LOCK_SHARE = 0",
            "    LOCK_WAIT = 1",
            ""]) := by
  have h : (Document.enums [emptyNameSample]).KeysApart := by decide
  refine ⟨by decide +kernel, by decide +kernel, ?_⟩
  rw [Renderer.render_shows (ofText_text .enums) (yields_enums ⟨"srcdata/defs.json", 2024⟩ h),
    ofList_chars]
  exact congrArg Except.ok (by decide +kernel)

end BindingGen.ShippedTemplate
