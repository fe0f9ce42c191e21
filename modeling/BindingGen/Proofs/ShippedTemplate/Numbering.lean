import BindingGen.Proofs.ShippedTemplate.Enums

/-!
# Numbers of enumerators

An enumerator without a value of its own is one more than the enumerator before it, and a comment
between them counts for nothing. The template of enumerations writes its position instead, so it
only writes these numbers where both are the same.
-/

namespace BindingGen.ShippedTemplate

open Schema Emission

/-! ## Declared numbers -/

/-- Whether an entry is an enumerator, and not only a comment. -/
def isNamed (v : EnumValue) : Bool := v.name.any (· ≠ "")

/-- The number for the next entry, where `next` is the one for this entry. -/
def following (next : Int) (v : EnumValue) : Int :=
  if isNamed v then v.value.getD next + 1 else next

/-- The number of an enumerator without a value of its own, by the entries before it. -/
def nextNumber (before : List EnumValue) : Int := before.foldl following 0

def declaredFrom : Int → List EnumValue → List Int
  | _, [] => []
  | next, v :: rest => v.value.getD next :: declaredFrom (following next v) rest

/-- The numbers that a declaration gives to its entries. -/
def declaredNumbers : List EnumValue → List Int := declaredFrom 0

theorem foldl_following_of_comments {gap : List EnumValue} (next : Int)
    (h : ∀ v ∈ gap, isNamed v = false) : gap.foldl following next = next := by
  induction gap with
  | nil => rfl
  | cons v rest ih =>
    have hv : following next v = next := by rw [following, h v List.mem_cons_self]; rfl
    rw [List.foldl_cons, hv]
    exact ih fun w hw => h w (List.mem_cons_of_mem v hw)

/-- The first enumerator is zero. -/
theorem nextNumber_of_comments {gap : List EnumValue} (h : ∀ v ∈ gap, isNamed v = false) :
    nextNumber gap = 0 := foldl_following_of_comments 0 h

/-- Any other is one more than the last enumerator before it. -/
theorem nextNumber_after {before gap : List EnumValue} {v : EnumValue} (hv : isNamed v = true)
    (h : ∀ w ∈ gap, isNamed w = false) :
    nextNumber (before ++ v :: gap) = v.value.getD (nextNumber before) + 1 := by
  rw [nextNumber, List.foldl_append, List.foldl_cons, foldl_following_of_comments _ h, following,
    if_pos hv, nextNumber]

theorem length_declaredFrom (next : Int) (values : List EnumValue) :
    (declaredFrom next values).length = values.length := by
  induction values generalizing next with
  | nil => rfl
  | cons v rest ih => rw [declaredFrom, List.length_cons, ih, List.length_cons]

theorem length_declaredNumbers (values : List EnumValue) :
    (declaredNumbers values).length = values.length := length_declaredFrom 0 values

theorem length_numbersFrom (i : Nat) (values : List EnumValue) :
    (numbersFrom i values).length = values.length := by
  induction values generalizing i with
  | nil => rfl
  | cons v rest ih => rw [numbersFrom, List.length_cons, ih, List.length_cons]

/-! ## Entries with the same numbers -/

/-- Two lists of numbers that are the same at every enumerator. -/
def SameNumbers : List EnumValue → List Int → List Int → Prop
  | v :: rest, m :: ms, n :: ns => (isNamed v = true → m = n) ∧ SameNumbers rest ms ns
  | _, _, _ => True

/-- Every enumerator without a value of its own stands at the position of its number. -/
def NumberedByPosition (values : List EnumValue) : Prop :=
  ∀ i v, values[i]? = some v → isNamed v = true → v.value = none → nextNumber (values.take i) = i

theorem sameNumbers_iff (i : Nat) (next : Int) (values : List EnumValue) :
    SameNumbers values (numbersFrom i values) (declaredFrom next values) ↔
      ∀ j v, values[j]? = some v → isNamed v = true → v.value = none →
        (values.take j).foldl following next = ↑(i + j) := by
  induction values generalizing i next with
  | nil => simp [SameNumbers]
  | cons v rest ih =>
    rw [numbersFrom, declaredFrom, SameNumbers, ih]
    constructor
    · rintro ⟨hv, hrest⟩ j w hw hname hvalue
      cases j with
      | zero =>
        obtain rfl : v = w := Option.some.inj hw
        have hnext := hv hname
        rw [hvalue] at hnext
        exact hnext.symm
      | succ j =>
        rw [List.take_succ_cons, List.foldl_cons, hrest j w hw hname hvalue]
        omega
    · intro h
      refine ⟨fun hname => ?_, fun j w hw hname hvalue => ?_⟩
      · cases hvalue : v.value with
        | none => exact (h 0 v rfl hname hvalue).symm
        | some n => rfl
      · have hnext := h (j + 1) w hw hname hvalue
        rw [List.take_succ_cons, List.foldl_cons] at hnext
        rw [hnext]
        omega

theorem numberedByPosition_iff (values : List EnumValue) :
    SameNumbers values (numbersFrom 0 values) (declaredNumbers values) ↔
      NumberedByPosition values := by
  rw [declaredNumbers, sameNumbers_iff]
  simp only [NumberedByPosition, nextNumber, Nat.zero_add]

/-! ## Texts with the same numbers -/

theorem notMem_repr {c : Char} (hc : c.isDigit = false) (k : Nat) : c ∉ k.repr.toList := by
  rw [Nat.toList_repr]
  intro hmem
  rw [Nat.isDigit_of_mem_toDigits (by decide) (by decide) hmem] at hc
  cases hc

theorem newline_notMem_toString (n : Int) : '\n' ∉ (toString n).toList := by
  rw [Int.toString_eq_repr, Int.repr_eq_if]
  split
  · exact notMem_repr rfl _
  · rw [String.toList_append, List.mem_append, not_or]
    exact ⟨by decide, notMem_repr rfl _⟩

theorem nat_eq_of_repr_eq {k l : Nat} (h : k.repr = l.repr) : k = l := by
  rw [← @Nat.ofDigitChars_ten_toDigits k, ← @Nat.ofDigitChars_ten_toDigits l, ← Nat.toList_repr,
    ← Nat.toList_repr, h]

theorem minus_append_ne_repr (s : String) (k : Nat) : "-" ++ s ≠ k.repr := by
  intro h
  refine notMem_repr (c := '-') rfl k ?_
  rw [← h, String.toList_append]
  exact List.mem_cons_self

theorem eq_of_toString_eq {m n : Int} (h : toString m = toString n) : m = n := by
  rw [Int.toString_eq_repr, Int.toString_eq_repr, Int.repr_eq_if, Int.repr_eq_if] at h
  split at h <;> split at h
  · have hnat := nat_eq_of_repr_eq h
    omega
  · exact absurd h.symm (minus_append_ne_repr _ _)
  · exact absurd h (minus_append_ne_repr _ _)
  · rw [String.append_right_inj] at h
    have hnat := nat_eq_of_repr_eq h
    omega

theorem takeWhile_line {line rest : List Char} (h : '\n' ∉ line) :
    (line ++ '\n' :: rest).takeWhile (· ≠ '\n') = line := by
  rw [List.takeWhile_append_of_pos fun c hc => decide_eq_true (ne_of_mem_of_not_mem hc h),
    List.takeWhile_cons_of_neg (by simp), List.append_nil]

theorem number_append_eq_iff {m n : Int} {rest rest' : List Char} :
    (toString m).toList ++ '\n' :: rest = (toString n).toList ++ '\n' :: rest' ↔
      m = n ∧ rest = rest' := by
  constructor
  · intro h
    have hline := congrArg (List.takeWhile (· ≠ '\n')) h
    rw [takeWhile_line (newline_notMem_toString m), takeWhile_line (newline_notMem_toString n),
      String.toList_inj] at hline
    obtain rfl := eq_of_toString_eq hline
    exact ⟨rfl, List.tail_eq_of_cons_eq (List.append_cancel_left h)⟩
  · rintro ⟨rfl, rfl⟩
    rfl

theorem entry_append_eq_iff {siblings : List EnumValue} {v : EnumValue} {m n : Int}
    {rest rest' : List Char} :
    chars (entryLines siblings (v, m)) ++ rest = chars (entryLines siblings (v, n)) ++ rest' ↔
      (isNamed v = true → m = n) ∧ rest = rest' := by
  cases hname : v.name with
  | none => simp [entryLines, isNamed, hname]
  | some name =>
    by_cases hempty : name = ""
    · simp [entryLines, isNamed, hname, hempty]
    · simp only [entryLines, isNamed, hname, hempty, if_false, chars_cons, String.toList_append,
        List.append_assoc, List.cons_append, List.append_cancel_left_eq, number_append_eq_iff]
      simp [hempty]

theorem entries_append_eq_iff {siblings values : List EnumValue} {ms ns : List Int}
    {rest rest' : List Char} (hms : ms.length = values.length) (hns : ns.length = values.length) :
    chars ((values.zip ms).flatMap (entryLines siblings)) ++ rest =
        chars ((values.zip ns).flatMap (entryLines siblings)) ++ rest' ↔
      SameNumbers values ms ns ∧ rest = rest' := by
  induction values generalizing ms ns with
  | nil => simp [SameNumbers]
  | cons v values ih =>
    obtain ⟨m, ms, rfl⟩ := List.exists_cons_of_length_eq_add_one hms
    obtain ⟨n, ns, rfl⟩ := List.exists_cons_of_length_eq_add_one hns
    rw [List.zip_cons_cons, List.zip_cons_cons, List.flatMap_cons, List.flatMap_cons, chars_append,
      chars_append, List.append_assoc, List.append_assoc, entry_append_eq_iff,
      ih (Nat.succ.inj hms) (Nat.succ.inj hns), SameNumbers, and_assoc]

theorem class_append_eq_iff {d : EnumDefinition} {ms ns : List Int} {rest rest' : List Char}
    (hms : ms.length = d.values.length) (hns : ns.length = d.values.length) :
    chars (enumClass ms d) ++ rest = chars (enumClass ns d) ++ rest' ↔
      SameNumbers d.values ms ns ∧ rest = rest' := by
  simp only [enumClass, chars_append, List.append_assoc, List.append_cancel_left_eq]
  rw [entries_append_eq_iff hms hns, List.append_cancel_left_eq]

variable {first second : List EnumValue → List Int}

theorem classes_eq_iff {definitions : List EnumDefinition}
    (hfirst : ∀ values, (first values).length = values.length)
    (hsecond : ∀ values, (second values).length = values.length) :
    chars (definitions.flatMap fun d => enumClass (first d.values) d) =
        chars (definitions.flatMap fun d => enumClass (second d.values) d) ↔
      ∀ d ∈ definitions, SameNumbers d.values (first d.values) (second d.values) := by
  induction definitions with
  | nil => simp
  | cons d rest ih =>
    rw [List.flatMap_cons, List.flatMap_cons, chars_append, chars_append,
      class_append_eq_iff (hfirst d.values) (hsecond d.values), ih, List.forall_mem_cons]

/-- The text of a module determines the numbers of its enumerators. -/
theorem enumModule_eq_iff (definitions : List EnumDefinition) (inputs : Renderer.Inputs)
    (hfirst : ∀ values, (first values).length = values.length)
    (hsecond : ∀ values, (second values).length = values.length) :
    enumModule first definitions inputs = enumModule second definitions inputs ↔
      ∀ d ∈ definitions, SameNumbers d.values (first d.values) (second d.values) := by
  rw [← classes_eq_iff hfirst hsecond, enumModule, enumModule, ← ofList_chars, ← ofList_chars,
    String.ofList_inj, chars_append, chars_append, List.append_cancel_left_eq]

/-! ## Documents -/

theorem render_enums_eq_iff {numbering : List EnumValue → List Int}
    (hlength : ∀ values, (numbering values).length = values.length)
    {definitions : List EnumDefinition} (h : (Document.enums definitions).KeysApart)
    (inputs : Renderer.Inputs) :
    Renderer.render (.enums definitions) (text .enums) inputs =
        .ok (enumModule numbering definitions inputs) ↔
      ∀ d ∈ definitions, SameNumbers d.values (numbersFrom 0 d.values) (numbering d.values) := by
  rw [← enumModule_eq_iff definitions inputs (length_numbersFrom 0) hlength,
    Renderer.render_shows (ofText_text .enums) (yields_enums inputs h), ofList_chars,
    Except.ok.injEq]
  rfl

/-- **The template writes the declared numbers exactly where they are positions.** This leaves out
the enumerators after a value that jumps, and those after a comment that stands on its own. -/
theorem render_enums_declared_iff (definitions : List EnumDefinition) (inputs : Renderer.Inputs)
    (h : (Document.enums definitions).KeysApart) :
    Renderer.render (.enums definitions) (text .enums) inputs =
        .ok (enumModule declaredNumbers definitions inputs) ↔
      ∀ d ∈ definitions, NumberedByPosition d.values := by
  rw [render_enums_eq_iff length_declaredNumbers h]
  simp only [numberedByPosition_iff]

/-- Values that jump, but are all written. -/
def writtenSample : EnumDefinition :=
  ⟨"Mode", [⟨some "ON", none, none, []⟩, ⟨none, none, some "/* old */", []⟩,
    ⟨some "OFF", some (-3), none, []⟩, ⟨some "LAST", some 9, none, []⟩], []⟩

theorem render_enums_declared_sample :
    (Document.enums [writtenSample]).KeysApart ∧
      Renderer.render (.enums [writtenSample]) (text .enums) ⟨"srcdata/defs.json", 2024⟩ =
        .ok (enumModule declaredNumbers [writtenSample] ⟨"srcdata/defs.json", 2024⟩) := by
  have h : (Document.enums [writtenSample]).KeysApart := by decide
  refine ⟨h, (render_enums_declared_iff [writtenSample] ⟨"srcdata/defs.json", 2024⟩ h).mpr ?_⟩
  intro d hd
  obtain rfl := List.mem_singleton.mp hd
  rintro (_ | _ | _ | _ | i) v hv <;> cases hv <;> simp [isNamed, nextNumber]

/-- The second enumerator is two, and the template makes it an alias of the first. -/
def aliasedSample : EnumDefinition :=
  ⟨"LockMode", [⟨some "LOCK_SHARE", some 1, none, []⟩, ⟨some "LOCK_WAIT", none, none, []⟩], []⟩

theorem render_enums_aliased :
    declaredNumbers aliasedSample.values = [1, 2] ∧
      Renderer.render (.enums [aliasedSample]) (text .enums) ⟨"srcdata/defs.json", 2024⟩ =
        .ok (ofLines
          ["# Generated from defs.json (srcdata).",
            "# Do not edit by hand; rerun `postgres-parser-codegen enums` instead.",
            "#",
            "# Copyright (c) 2024 postgres-parser contributors",
            "\"\"\"Enumerations declared by the PostgreSQL parser.\"\"\"",
            "",
            "import enum",
            "",
            "",
            "class LockMode(enum.IntEnum):",
            "    SHARE = 1",
            "    WAIT = 1",
            ""]) ∧
      Renderer.render (.enums [aliasedSample]) (text .enums) ⟨"srcdata/defs.json", 2024⟩ ≠
        .ok (enumModule declaredNumbers [aliasedSample] ⟨"srcdata/defs.json", 2024⟩) := by
  have h : (Document.enums [aliasedSample]).KeysApart := by decide
  refine ⟨rfl, ?_, ?_⟩
  · have hrender := (render_enums_eq_iff (length_numbersFrom 0) h ⟨"srcdata/defs.json", 2024⟩).mpr
      fun d hd => by
        obtain rfl := List.mem_singleton.mp hd
        exact ⟨fun _ => rfl, fun _ => rfl, trivial⟩
    rw [hrender]
    exact congrArg Except.ok (by decide +kernel)
  · rw [ne_eq, render_enums_eq_iff length_declaredNumbers h]
    intro hsame
    have hsecond := (hsame aliasedSample List.mem_cons_self).2.1 rfl
    exact absurd hsecond (by decide)

end BindingGen.ShippedTemplate
