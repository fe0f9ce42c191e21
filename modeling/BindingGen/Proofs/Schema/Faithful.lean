import BindingGen.Proofs.Json.Range
import BindingGen.Proofs.Schema.Decode
import BindingGen.Proofs.Schema.Form

/-!
# Faithful decoding

A decoder that reads exactly the values of a form, and keeps all that they say. What the parts of a
value are decoded by is faithful, and so is what is put together from them.
-/

namespace BindingGen.Schema

open Json

/-! ## Decoders -/

/-- A decoder accepts exactly the readings of a form, and its result is the completed value. -/
structure Faithful {α : Type} (expect : Reading → Except ReadError α) (form : Form)
    (out : α → Json) : Prop where
  sound : ∀ {read result}, read.InRange → expect read = .ok result →
    ∃ value, ofReading read = .ok value ∧ form.Accepts read value ∧ out result = form.complete value
  total : ∀ {read value}, read.InRange → ofReading read = .ok value → form.Accepts read value →
    ∃ result, expect read = .ok result

section

variable {α : Type} {expect : Reading → Except ReadError α} {form : Form} {out : α → Json}
  {read : Reading}

/-- A reading with a value is read through to its end. -/
theorem ofReading_cases {value : Json} (h : ofReading read = .ok value) :
    (∃ scalar behind, read = .scalar scalar behind ∧ value = scalar.toJson) ∨
      (∃ start items values, read = .array start items ∧ ofReadings items = .ok values ∧
        value = .array values) ∨
      ∃ start readings stop pairs, read = .object start readings (.ok stop) ∧
        ofMemberReadings readings = .ok pairs ∧ value = ofMembers pairs := by
  cases read with
  | scalar scalar behind =>
    rw [ofReading] at h
    cases h
    exact Or.inl ⟨scalar, behind, rfl, rfl⟩
  | array start items =>
    rw [ofReading] at h
    obtain ⟨values, hvalues, h⟩ := bind_eq_ok_iff.mp h
    cases h
    exact Or.inr (Or.inl ⟨start, items, values, rfl, hvalues, rfl⟩)
  | object start readings ending =>
    rw [ofReading] at h
    obtain ⟨pairs, hpairs, h⟩ := bind_eq_ok_iff.mp h
    obtain ⟨stop, rfl, h⟩ := bind_eq_ok_iff.mp h
    cases h
    exact Or.inr (Or.inr ⟨start, readings, stop, pairs, rfl, hpairs, rfl⟩)
  | fault e =>
    rw [ofReading] at h
    cases h

theorem exists_scalar_of_ofReading {scalar : Scalar} (h : ofReading read = .ok scalar.toJson) :
    ∃ behind, read = .scalar scalar behind := by
  rcases ofReading_cases h with ⟨other, behind, rfl, heq⟩ | ⟨_, _, _, _, _, heq⟩ |
    ⟨_, _, _, _, _, _, heq⟩
  · cases scalar <;> cases other <;> cases heq <;> exact ⟨behind, rfl⟩
  · cases scalar <;> cases heq
  · cases scalar <;> cases heq

theorem exists_array_of_ofReading {values : List Json} (h : ofReading read = .ok (.array values)) :
    ∃ start items, read = .array start items ∧ ofReadings items = .ok values := by
  rcases ofReading_cases h with ⟨scalar, _, _, heq⟩ | ⟨start, items, _, rfl, hvalues, heq⟩ |
    ⟨_, _, _, _, _, _, heq⟩
  · cases scalar <;> cases heq
  · cases heq
    exact ⟨start, items, rfl, hvalues⟩
  · cases heq

theorem exists_object_of_ofReading {members : Members} (h : ofReading read = .ok (.object members)) :
    ∃ start readings stop pairs, read = .object start readings (.ok stop) ∧
      ofMemberReadings readings = .ok pairs ∧ members = Members.sort pairs := by
  rcases ofReading_cases h with ⟨scalar, _, _, heq⟩ | ⟨_, _, _, _, _, heq⟩ |
    ⟨start, readings, stop, pairs, rfl, hpairs, heq⟩
  · cases scalar <;> cases heq
  · cases heq
  · cases heq
    exact ⟨start, readings, stop, pairs, rfl, hpairs, rfl⟩

theorem faithful_text : Faithful expectString .text .string where
  sound := by
    intro read result _ h
    unfold expectString at h
    split at h
    · cases h
      exact ⟨.string result, by rw [ofReading]; rfl, ⟨rfl, rfl⟩, rfl⟩
    · exact absurd h mismatch_ne_ok
  total := by
    intro read value _ hvalue haccepts
    have hfits := haccepts.fits
    unfold Form.text at hfits
    dsimp only at hfits
    split at hfits
    · rename_i s
      obtain ⟨behind, rfl⟩ : ∃ behind, read = .scalar (.string s) behind :=
        exists_scalar_of_ofReading hvalue
      exact ⟨s, rfl⟩
    · cases hfits

theorem faithful_integer : Faithful expectInteger .integer int where
  sound := by
    intro read result hrange h
    unfold expectInteger at h
    split at h
    · rename_i n behind
      split at h
      · rename_i hlimit
        cases h
        have hlow : -Int.pow 2 63 ≤ result := by
          cases hrange with
          | scalar h => exact h _ rfl
        exact ⟨int result, by rw [ofReading]; rfl,
          ⟨decide_eq_true ⟨hlow, hlimit⟩, rfl⟩, rfl⟩
      · cases h
    · exact absurd h mismatch_ne_ok
  total := by
    intro read value _ hvalue haccepts
    have hfits := haccepts.fits
    unfold Form.integer at hfits
    dsimp only at hfits
    split at hfits
    · rename_i n
      obtain ⟨behind, rfl⟩ : ∃ behind, read = .scalar (.number (.integer n)) behind :=
        exists_scalar_of_ofReading hvalue
      exact ⟨n, if_pos (of_decide_eq_true hfits).2⟩
    · cases hfits

theorem ne_null_of_ofReading {value : Json} (hread : ∀ behind, read ≠ .scalar .null behind)
    (h : ofReading read = .ok value) : value ≠ .null := by
  rintro rfl
  obtain ⟨behind, rfl⟩ : ∃ behind, read = .scalar .null behind := exists_scalar_of_ofReading h
  exact hread behind rfl

theorem accepts_orNull_iff {value : Json} (hread : ∀ behind, read ≠ .scalar .null behind)
    (hvalue : value ≠ .null) : form.orNull.Accepts read value ↔ form.Accepts read value := by
  have hfits : form.orNull.fits value = form.fits value := by
    cases value <;> first | rfl | exact absurd rfl hvalue
  have honce : form.orNull.once read = form.once read := by
    unfold Form.orNull
    dsimp only
    split
    · rename_i behind
      exact absurd rfl (hread behind)
    · rfl
  exact ⟨fun h => ⟨hfits ▸ h.fits, honce ▸ h.once⟩, fun h => ⟨hfits ▸ h.fits, honce ▸ h.once⟩⟩

theorem expectOptional_of_ne_null (hread : ∀ behind, read ≠ .scalar .null behind) :
    expectOptional expect read = some <$> expect read := by
  unfold expectOptional
  split
  · rename_i behind
    exact absurd rfl (hread behind)
  · rfl

theorem Faithful.orNull (h : Faithful expect form out) :
    Faithful (expectOptional expect) form.orNull (Json.orNull out) where
  sound := by
    intro read result hrange hresult
    by_cases hnull : ∃ behind, read = .scalar .null behind
    · obtain ⟨behind, rfl⟩ := hnull
      cases hresult
      exact ⟨.null, by rw [ofReading]; rfl, ⟨rfl, rfl⟩, rfl⟩
    · rw [not_exists] at hnull
      rw [expectOptional_of_ne_null hnull] at hresult
      obtain ⟨inner, hinner, hresult⟩ := bind_eq_ok_iff.mp hresult
      cases hresult
      obtain ⟨value, hvalue, haccepts, hout⟩ := h.sound hrange hinner
      have hne := ne_null_of_ofReading hnull hvalue
      refine ⟨value, hvalue, (accepts_orNull_iff hnull hne).mpr haccepts, hout.trans ?_⟩
      cases value <;> first | rfl | exact absurd rfl hne
  total := by
    intro read value hrange hvalue haccepts
    by_cases hnull : ∃ behind, read = .scalar .null behind
    · obtain ⟨behind, rfl⟩ := hnull
      exact ⟨none, rfl⟩
    · rw [not_exists] at hnull
      have hne := ne_null_of_ofReading hnull hvalue
      obtain ⟨inner, hinner⟩ := h.total hrange hvalue ((accepts_orNull_iff hnull hne).mp haccepts)
      exact ⟨some inner, by rw [expectOptional_of_ne_null hnull, hinner]; rfl⟩

/-! ## Lists -/

theorem Faithful.mapM_sound (h : Faithful expect form out) {items : List Reading}
    {results : List α} (hrange : ∀ item ∈ items, item.InRange)
    (hresults : items.mapM expect = .ok results) :
    ∃ values, ofReadings items = .ok values ∧ values.all form.fits = true ∧
      items.all form.once = true ∧ results.map out = values.map form.complete := by
  induction items generalizing results with
  | nil =>
    cases hresults
    exact ⟨[], by rw [ofReadings], rfl, rfl, rfl⟩
  | cons item items ih =>
    rw [List.mapM_cons] at hresults
    obtain ⟨result, hresult, hresults⟩ := bind_eq_ok_iff.mp hresults
    obtain ⟨others, hothers, hresults⟩ := bind_eq_ok_iff.mp hresults
    cases hresults
    obtain ⟨hitem, hitems⟩ := List.forall_mem_cons.mp hrange
    obtain ⟨value, hvalue, haccepts, hout⟩ := h.sound hitem hresult
    obtain ⟨values, hvalues, hfits, honce, houts⟩ := ih hitems hothers
    refine ⟨value :: values, by rw [ofReadings, hvalue, hvalues]; rfl, ?_, ?_, ?_⟩
    · rw [List.all_cons, haccepts.fits, hfits, Bool.true_and]
    · rw [List.all_cons, haccepts.once, honce, Bool.true_and]
    · rw [List.map_cons, List.map_cons, hout, houts]

theorem Faithful.mapM_total (h : Faithful expect form out) {items : List Reading}
    {values : List Json} (hrange : ∀ item ∈ items, item.InRange)
    (hvalues : ofReadings items = .ok values) (hfits : values.all form.fits = true)
    (honce : items.all form.once = true) : ∃ results, items.mapM expect = .ok results := by
  induction items generalizing values with
  | nil => exact ⟨[], rfl⟩
  | cons item items ih =>
    rw [ofReadings] at hvalues
    obtain ⟨value, hvalue, hvalues⟩ := bind_eq_ok_iff.mp hvalues
    obtain ⟨others, hothers, hvalues⟩ := bind_eq_ok_iff.mp hvalues
    cases hvalues
    rw [List.all_cons, Bool.and_eq_true] at hfits honce
    obtain ⟨hitem, hitems⟩ := List.forall_mem_cons.mp hrange
    obtain ⟨result, hresult⟩ := h.total hitem hvalue ⟨hfits.1, honce.1⟩
    obtain ⟨results, hresults⟩ := ih hitems hothers hfits.2 honce.2
    exact ⟨result :: results, by rw [List.mapM_cons, hresult, hresults]; rfl⟩

theorem exists_array_of_fits {value : Json} (h : form.list.fits value = true) :
    ∃ values, value = .array values ∧ values.all form.fits = true := by
  cases value <;> first | exact ⟨_, rfl, h⟩ | cases h

theorem Faithful.list (h : Faithful expect form out) :
    Faithful (expectList expect) form.list (fun results => .array (results.map out)) where
  sound := by
    intro read results hrange hresults
    unfold expectList at hresults
    split at hresults
    · rename_i start items
      cases hrange with
      | array hrange =>
        obtain ⟨values, hvalues, hfits, honce, houts⟩ := h.mapM_sound hrange hresults
        exact ⟨.array values, by rw [ofReading, hvalues]; rfl, ⟨hfits, honce⟩,
          congrArg Json.array houts⟩
    · exact absurd hresults mismatch_ne_ok
  total := by
    intro read value hrange hvalue haccepts
    obtain ⟨values, rfl, hfits⟩ := exists_array_of_fits haccepts.fits
    obtain ⟨start, items, rfl, hvalues⟩ := exists_array_of_ofReading hvalue
    cases hrange with
    | array hrange => exact h.mapM_total hrange hvalues hfits haccepts.once

end

end BindingGen.Schema
