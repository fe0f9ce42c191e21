import BindingGen.Proofs.Json.Nesting
import BindingGen.Proofs.Schema.Apart
import BindingGen.Schema.Decode

/-!
# Decoded documents

Whatever text a document was read from, none of its records keeps a member under a key of its own,
and what it keeps besides is in order and nested no deeper than the text was.
-/

namespace BindingGen.Schema

open Json

/-! ## Steps -/

section Steps

variable {ε α β σ : Type}

theorem holds_of_foldlM {P : σ → Prop} {step : σ → α → Except ε σ} {values : List α}
    {start last : σ} (hstart : P start)
    (hstep : ∀ held, ∀ value ∈ values, ∀ next, P held → step held value = .ok next → P next)
    (h : values.foldlM step start = .ok last) : P last := by
  induction values generalizing start with
  | nil =>
    cases h
    exact hstart
  | cons value rest ih =>
    rw [List.foldlM_cons] at h
    obtain ⟨next, hnext, h⟩ := bind_eq_ok_iff.mp h
    have hfirst := hstep start value List.mem_cons_self next hstart hnext
    exact ih hfirst (fun held value hvalue => hstep held value (List.mem_cons_of_mem _ hvalue)) h

theorem exists_of_mem_mapM {f : α → Except ε β} {values : List α} {results : List β} {result : β}
    (h : values.mapM f = .ok results) (hmem : result ∈ results) :
    ∃ value ∈ values, f value = .ok result := by
  induction values generalizing results with
  | nil =>
    cases h
    cases hmem
  | cons value rest ih =>
    rw [List.mapM_cons] at h
    obtain ⟨first, hfirst, h⟩ := bind_eq_ok_iff.mp h
    obtain ⟨others, hothers, h⟩ := bind_eq_ok_iff.mp h
    cases h
    rcases List.mem_cons.mp hmem with rfl | hmem
    · exact ⟨value, List.mem_cons_self, hfirst⟩
    · obtain ⟨value, hvalue, h⟩ := ih hothers hmem
      exact ⟨value, List.mem_cons_of_mem _ hvalue, h⟩

end Steps

section

variable {α σ : Type} {depth : Nat} {read : Reading}

theorem mismatch_ne_ok {expected : String} {result : α} : mismatch expected read ≠ .ok result := by
  unfold mismatch
  split <;> exact fun h => nomatch h

theorem expectList_ok {expect : Reading → Except ReadError α} {results : List α}
    (hread : read.Within (depth + 2)) (h : expectList expect read = .ok results) :
    ∀ result ∈ results, ∃ item, item.Within (depth + 1) ∧ expect item = .ok result := by
  intro result hmem
  unfold expectList at h
  split at h
  · cases hread with
    | array hitems =>
      obtain ⟨item, hitem, h⟩ := exists_of_mem_mapM h hmem
      exact ⟨item, hitems item hitem, h⟩
  · exact absurd h mismatch_ne_ok

theorem expectRecord_ok {P : σ → Prop} {expected : String} {start : σ}
    {step : σ → String → Mark → Reading → Except ReadError σ}
    {finish : σ → Mark → Except ReadError α} {record : α} (hstart : P start)
    (hstep : ∀ held key mark value next, value.Within (depth + 1) → P held →
      step held key mark value = .ok next → P next)
    (hread : read.Within (depth + 2))
    (h : expectRecord expected start step finish read = .ok record) :
    ∃ held stop, P held ∧ finish held stop = .ok record := by
  unfold expectRecord at h
  split at h
  · obtain ⟨held, hheld, h⟩ := bind_eq_ok_iff.mp h
    obtain ⟨stop, _, h⟩ := bind_eq_ok_iff.mp h
    cases hread with
    | object hmembers =>
      exact ⟨held, stop, holds_of_foldlM hstart
        (fun held member hmember next => hstep held _ _ _ next (hmembers member hmember)) hheld, h⟩
  · exact absurd h mismatch_ne_ok

theorem claim_ok {key : String} {mark : Mark} {held next : Option α} {read : Except ReadError α}
    (h : claim key mark held read = .ok next) : ∃ value, read = .ok value ∧ next = some value := by
  unfold claim at h
  split at h
  · cases h
  · cases read with
    | error e => cases h
    | ok value =>
      cases h
      exact ⟨value, rfl, rfl⟩

theorem require_ok {key : String} {stop : Mark} {held : Option α} {value : α}
    (h : require key stop held = .ok value) : held = some value := by
  unfold require at h
  split at h
  · cases h
    rfl
  · cases h

theorem expectOptional_ok {expect : Reading → Except ReadError α} {value : α}
    (h : expectOptional expect read = .ok (some value)) : expect read = .ok value := by
  unfold expectOptional at h
  split at h
  · cases h
  · obtain ⟨result, hresult, h⟩ := bind_eq_ok_iff.mp h
    cases h
    exact hresult

def IsSigned (n : Int) : Prop := -Int.pow 2 63 ≤ n ∧ n < Int.pow 2 63

theorem expectInteger_ok {n : Int} (hread : read.Within depth) (h : expectInteger read = .ok n) :
    IsSigned n := by
  unfold expectInteger at h
  split at h
  · split at h
    · rename_i hlimit
      cases h
      cases hread with
      | scalar hfits => exact ⟨(hfits _ rfl).1, hlimit⟩
    · cases h
  · exact absurd h mismatch_ne_ok

end

/-! ## Members that are kept -/

/-- Members kept besides: none is under a key of the record, and they are as they were read. -/
structure Kept (keys : List String) (depth : Nat) (extra : Members) : Prop where
  apart : Apart keys extra
  sorted : KeyOrder.Sorted extra
  regular : ∀ member ∈ extra, Regular depth member.2

section

variable {keys : List String} {depth : Nat} {extra next : Members} {key : String} {read : Reading}

theorem kept_nil (keys : List String) (depth : Nat) : Kept keys depth [] :=
  ⟨fun _ _ => rfl, KeyOrder.sorted_nil, List.forall_mem_nil _⟩

/-- A member is only kept under a key that is not one of the record's own. -/
theorem keep_ok (hread : read.Within depth) (hextra : Kept keys depth extra) (hkey : key ∉ keys)
    (h : keep extra key read = .ok next) : Kept keys depth next := by
  obtain ⟨value, hvalue, h⟩ := bind_eq_ok_iff.mp h
  cases h
  refine ⟨fun own hown => ?_, KeyOrder.sorted_insert hextra.sorted key value,
    fun member hmember => ?_⟩
  · have hne : own ≠ key := fun heq => hkey (heq ▸ hown)
    rw [Members.insert, KeyOrder.lookup_insert, if_neg hne]
    exact hextra.apart own hown
  · rcases KeyOrder.mem_insert hmember with rfl | hmember
    · exact regular_ofReading hread hvalue
    · exact hextra.regular member hmember

end

/-! ## Records -/

def EnumValue.keys : List String := ["name", "value", "comment"]

def EnumDefinition.keys : List String := ["name", "values"]

def StructField.keys : List String := ["name", "c_type", "comment"]

def StructDefinition.keys : List String := ["name", "fields"]

/-- What holds of an entry of an enumeration that was read. -/
structure EnumValue.Regular (depth : Nat) (v : EnumValue) : Prop where
  value : ∀ n, v.value = some n → IsSigned n
  extra : Kept EnumValue.keys depth v.extra

structure EnumDefinition.Regular (depth : Nat) (d : EnumDefinition) : Prop where
  values : ∀ v ∈ d.values, v.Regular depth
  extra : Kept EnumDefinition.keys (depth + 2) d.extra

def StructField.Regular (depth : Nat) (f : StructField) : Prop :=
  Kept StructField.keys depth f.extra

structure StructDefinition.Regular (depth : Nat) (d : StructDefinition) : Prop where
  fields : ∀ f ∈ d.fields, f.Regular depth
  extra : Kept StructDefinition.keys (depth + 2) d.extra

def Document.Regular (depth : Nat) : Document → Prop
  | enums definitions => ∀ d ∈ definitions, d.Regular depth
  | structs definitions => ∀ d ∈ definitions, d.Regular depth

section

variable {depth : Nat} {key : String} {mark : Mark} {read : Reading}

/-! ## Entries of enumerations -/

/-- What holds of the parts of an entry while its members are read. -/
structure EnumValueParts.Regular (depth : Nat) (held : EnumValueParts) : Prop where
  value : ∀ n, held.value = some (some n) → IsSigned n
  extra : Kept EnumValue.keys depth held.extra

theorem EnumValueParts.add_ok {held next : EnumValueParts} (hread : read.Within depth)
    (hheld : held.Regular depth) (h : held.add key mark read = .ok next) : next.Regular depth := by
  unfold EnumValueParts.add at h
  split at h <;> obtain ⟨_, hpart, h⟩ := bind_eq_ok_iff.mp h <;> cases h
  · exact ⟨hheld.value, hheld.extra⟩
  · obtain ⟨part, hvalue, rfl⟩ := claim_ok hpart
    refine ⟨fun n hn => ?_, hheld.extra⟩
    cases hn
    exact expectInteger_ok hread (expectOptional_ok hvalue)
  · exact ⟨hheld.value, hheld.extra⟩
  · exact ⟨hheld.value, keep_ok hread hheld.extra (by simp_all [EnumValue.keys]) hpart⟩

theorem EnumValue.regular_of_ofReading {v : EnumValue} (hread : read.Within (depth + 2))
    (h : EnumValue.ofReading read = .ok v) : v.Regular (depth + 1) := by
  obtain ⟨held, _, hheld, hfinish⟩ := expectRecord_ok
    (P := EnumValueParts.Regular (depth + 1)) ⟨(fun _ h => by cases h), kept_nil _ _⟩
    (fun _ _ _ _ _ => EnumValueParts.add_ok) hread h
  cases hfinish
  exact ⟨fun n hn => hheld.value n (Option.join_eq_some_iff.mp hn), hheld.extra⟩

/-! ## Enumerations -/

structure EnumParts.Regular (depth : Nat) (held : EnumParts) : Prop where
  values : ∀ values, held.values = some values → ∀ v ∈ values, v.Regular depth
  extra : Kept EnumDefinition.keys (depth + 2) held.extra

theorem EnumParts.add_ok {held next : EnumParts} (hread : read.Within (depth + 3))
    (hheld : held.Regular (depth + 1)) (h : held.add key mark read = .ok next) :
    next.Regular (depth + 1) := by
  unfold EnumParts.add at h
  split at h <;> obtain ⟨_, hpart, h⟩ := bind_eq_ok_iff.mp h <;> cases h
  · exact ⟨hheld.values, hheld.extra⟩
  · obtain ⟨values, hvalues, rfl⟩ := claim_ok hpart
    refine ⟨fun _ hsome v hv => ?_, hheld.extra⟩
    cases hsome
    obtain ⟨item, hitem, h⟩ := expectList_ok hread hvalues v hv
    exact EnumValue.regular_of_ofReading hitem h
  · exact ⟨hheld.values, keep_ok hread hheld.extra (by simp_all [EnumDefinition.keys]) hpart⟩

theorem EnumDefinition.regular_of_ofReading {d : EnumDefinition} (hread : read.Within (depth + 4))
    (h : EnumDefinition.ofReading read = .ok d) : d.Regular (depth + 1) := by
  obtain ⟨held, stop, hheld, hfinish⟩ := expectRecord_ok (P := EnumParts.Regular (depth + 1))
    ⟨(fun _ h => by cases h), kept_nil _ _⟩ (fun _ _ _ _ _ => EnumParts.add_ok) hread h
  obtain ⟨name, _, hfinish⟩ := bind_eq_ok_iff.mp hfinish
  obtain ⟨values, hvalues, hfinish⟩ := bind_eq_ok_iff.mp hfinish
  cases hfinish
  exact ⟨hheld.values values (require_ok hvalues), hheld.extra⟩

/-! ## Fields -/

theorem FieldParts.add_ok {held next : FieldParts} (hread : read.Within depth)
    (hheld : Kept StructField.keys depth held.extra) (h : held.add key mark read = .ok next) :
    Kept StructField.keys depth next.extra := by
  unfold FieldParts.add at h
  split at h <;> obtain ⟨_, hpart, h⟩ := bind_eq_ok_iff.mp h <;> cases h
  · exact hheld
  · exact hheld
  · exact hheld
  · exact keep_ok hread hheld (by simp_all [StructField.keys]) hpart

theorem StructField.regular_of_ofReading {f : StructField} (hread : read.Within (depth + 2))
    (h : StructField.ofReading read = .ok f) : f.Regular (depth + 1) := by
  obtain ⟨held, stop, hheld, hfinish⟩ := expectRecord_ok
    (P := fun held : FieldParts => Kept StructField.keys (depth + 1) held.extra) (kept_nil _ _)
    (fun _ _ _ _ _ => FieldParts.add_ok) hread h
  obtain ⟨name, _, hfinish⟩ := bind_eq_ok_iff.mp hfinish
  obtain ⟨cType, _, hfinish⟩ := bind_eq_ok_iff.mp hfinish
  cases hfinish
  exact hheld

/-! ## Structures -/

structure StructParts.Regular (depth : Nat) (held : StructParts) : Prop where
  fields : ∀ fields, held.fields = some fields → ∀ f ∈ fields, f.Regular depth
  extra : Kept StructDefinition.keys (depth + 2) held.extra

theorem StructParts.add_ok {held next : StructParts} (hread : read.Within (depth + 3))
    (hheld : held.Regular (depth + 1)) (h : held.add key mark read = .ok next) :
    next.Regular (depth + 1) := by
  unfold StructParts.add at h
  split at h <;> obtain ⟨_, hpart, h⟩ := bind_eq_ok_iff.mp h <;> cases h
  · exact ⟨hheld.fields, hheld.extra⟩
  · obtain ⟨fields, hfields, rfl⟩ := claim_ok hpart
    refine ⟨fun _ hsome f hf => ?_, hheld.extra⟩
    cases hsome
    obtain ⟨item, hitem, h⟩ := expectList_ok hread hfields f hf
    exact StructField.regular_of_ofReading hitem h
  · exact ⟨hheld.fields, keep_ok hread hheld.extra (by simp_all [StructDefinition.keys]) hpart⟩

theorem StructDefinition.regular_of_ofReading {d : StructDefinition}
    (hread : read.Within (depth + 4)) (h : StructDefinition.ofReading read = .ok d) :
    d.Regular (depth + 1) := by
  obtain ⟨held, stop, hheld, hfinish⟩ := expectRecord_ok (P := StructParts.Regular (depth + 1))
    ⟨(fun _ h => by cases h), kept_nil _ _⟩ (fun _ _ _ _ _ => StructParts.add_ok) hread h
  obtain ⟨name, _, hfinish⟩ := bind_eq_ok_iff.mp hfinish
  obtain ⟨fields, hfields, hfinish⟩ := bind_eq_ok_iff.mp hfinish
  cases hfinish
  exact ⟨hheld.fields fields (require_ok hfields), hheld.extra⟩

end

/-! ## Documents -/

namespace Document

theorem regular_of_ofReading {kind : Kind} {depth : Nat} {read : Reading} {document : Document}
    (hread : read.Within (depth + 5)) (h : ofReading kind read = .ok document) :
    document.Regular (depth + 1) := by
  cases kind with
  | enums =>
    obtain ⟨definitions, hdefinitions, h⟩ := bind_eq_ok_iff.mp h
    cases h
    intro d hd
    obtain ⟨item, hitem, h⟩ := expectList_ok hread hdefinitions d hd
    exact EnumDefinition.regular_of_ofReading hitem h
  | structs =>
    obtain ⟨definitions, hdefinitions, h⟩ := bind_eq_ok_iff.mp h
    cases h
    intro d hd
    obtain ⟨item, hitem, h⟩ := expectList_ok hread hdefinitions d hd
    exact StructDefinition.regular_of_ofReading hitem h

theorem Regular.keysApart {depth : Nat} {document : Document} (h : document.Regular depth) :
    document.KeysApart := by
  cases document with
  | enums definitions =>
    exact fun d hd => ⟨(h d hd).extra.apart, fun v hv => ((h d hd).values v hv).extra.apart⟩
  | structs definitions =>
    exact fun d hd => ⟨(h d hd).extra.apart, fun f hf => ((h d hd).fields f hf).apart⟩

theorem ofText_eq_error {kind : Kind} {text source : String} {failure : Failure}
    (h : ofText kind text source = .error failure) :
    ∃ reason, failure = .schemaLoad source reason := by
  unfold ofText at h
  split at h
  · cases h
  · cases h
    exact ⟨_, rfl⟩

/-- What the members of a document that was read keep besides is nested no deeper than is left of the
limit behind the document, a definition, the list of its members and a member. -/
theorem regular_of_ofText {kind : Kind} {text source : String} {document : Document}
    (h : ofText kind text source = .ok document) : document.Regular 124 := by
  unfold ofText at h
  split at h
  · rename_i read hread
    cases h
    obtain ⟨value, hvalue, hrest⟩ := bind_eq_ok_iff.mp hread
    split at hrest
    · cases hrest
      exact regular_of_ofReading (Reading.within_readValue Reading.depthLimit _) hvalue
    · cases hrest
  · cases h

/-- No record of a document that was read keeps a member under a key of its own. -/
theorem keysApart_of_ofText {kind : Kind} {text source : String} {document : Document}
    (h : ofText kind text source = .ok document) : document.KeysApart :=
  (regular_of_ofText h).keysApart

end Document

end BindingGen.Schema
