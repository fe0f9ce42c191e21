import BindingGen.Proofs.Identifier.Letters
import Mathlib.Tactic.TFAE

/-!
# Normal forms

In ASCII the normalized names are the names without a capital, without two underscores in a row and
without an acronym that is written letter by letter. A name and its constant have the same normal
form, so either spelling can be had from the other.
-/

namespace BindingGen.Identifier

open Text

variable {name raw : List Char}

/-! ## Names that are normalized -/

structure IsNormalForm (name : List Char) : Prop where
  lower : ∀ c ∈ name, c.isUpper = false
  single : ¬ ['_', '_'] <:+: name
  sql : ¬ ['s', '_', 'q', '_', 'l', '_'] <:+: name
  cte : ¬ ['c', '_', 't', '_', 'e', '_'] <:+: name

theorem single_iff_not_infix : Single name ↔ ¬ ['_', '_'] <:+: name := by
  rw [Single, List.isChain_iff_forall_rel_of_append_cons_cons]
  constructor
  · rintro h ⟨front, behind, rfl⟩
    have hsplit : front ++ ['_', '_'] ++ behind = front ++ '_' :: '_' :: behind := by simp
    exact h hsplit ⟨rfl, rfl⟩
  · rintro h c d front behind rfl ⟨rfl, rfl⟩
    exact h ⟨front, behind, by simp⟩

theorem isNormalForm_iff (h : IsAscii name) : IsNormalForm name ↔ Lowered name ∧ IsTidy name := by
  have hlower := lowered_iff_of_ascii h
  constructor
  · intro hform
    have hplain : IsPlain name := ⟨h, hlower.mpr hform.lower⟩
    exact ⟨hplain.lowered, single_iff_not_infix.mpr hform.single,
      (whole_iff_of_plain isAcronym_sql hplain).mpr hform.sql,
      (whole_iff_of_plain isAcronym_cte hplain).mpr hform.cte⟩
  · rintro ⟨hlowered, htidy⟩
    have hplain : IsPlain name := ⟨h, hlowered⟩
    exact ⟨hlower.mp hlowered, single_iff_not_infix.mp htidy.single,
      (whole_iff_of_plain isAcronym_sql hplain).mp htidy.sql,
      (whole_iff_of_plain isAcronym_cte hplain).mp htidy.cte⟩

theorem lowered_normalizeChars (raw : List Char) : Lowered (normalizeChars raw) :=
  lowered_tidy (lowerWords_lowered raw)

theorem isTidy_normalizeChars (raw : List Char) : IsTidy (normalizeChars raw) :=
  isTidy_tidy (lowerWords raw)

theorem isPlain_normalizeChars (h : IsAscii raw) : IsPlain (normalizeChars raw) :=
  ((isPlain_lowerWords h).collapse.rejoin isAcronym_sql).rejoin isAcronym_cte

theorem normalizeChars_of_plain (h : IsPlain name) (htidy : IsTidy name) :
    normalizeChars name = name := by
  rw [normalizeChars_eq_self_iff h.lowered htidy]
  -- Without capitals no word starts.
  refine Or.inr (countCapitals_of_no_capitals fun c hc => ?_)
  rw [isUppercase_of_ascii (h.ascii c hc)]
  exact (lowered_iff_of_ascii h.ascii).mp h.lowered c hc

/-- The normalized names are the normal forms, and these are the names that stay as they are. -/
theorem normalized_tfae (name : String) (hname : IsAscii name.toList) :
    List.TFAE [∃ raw : String, IsAscii raw.toList ∧ normalize raw = name,
      normalize name = name, IsNormalForm name.toList] := by
  tfae_have 1 → 3 := by
    rintro ⟨raw, -, rfl⟩
    rw [isNormalForm_iff hname, normalize, String.toList_ofList]
    exact ⟨lowered_normalizeChars raw.toList, isTidy_normalizeChars raw.toList⟩
  tfae_have 3 → 2 := by
    intro hform
    obtain ⟨hlowered, htidy⟩ := (isNormalForm_iff hname).mp hform
    rw [normalize, normalizeChars_of_plain ⟨hname, hlowered⟩ htidy, String.ofList_toList]
  tfae_have 2 → 1 := fun hname' => ⟨name, hname, hname'⟩
  tfae_finish

/-- A joined acronym, and one that is still apart. -/
theorem normalized_tfae_samples :
    IsAscii "sql_2".toList ∧ IsNormalForm "sql_2".toList ∧
      IsAscii "s_q_l_2".toList ∧
      ¬ ∃ raw : String, IsAscii raw.toList ∧ normalize raw = "s_q_l_2" := by
  have hjoined : IsAscii "sql_2".toList := by decide
  have hapart : IsAscii "s_q_l_2".toList := by decide
  refine ⟨hjoined, ?_, hapart, ?_⟩
  · exact ((normalized_tfae "sql_2" hjoined).out 1 2).mp (by decide)
  · intro hnormalized
    have hfixed := ((normalized_tfae "s_q_l_2" hapart).out 0 1).mp hnormalized
    exact absurd hfixed (by decide)

/-! ## Constants -/

theorem lowerWords_uppercase (h : IsPlain name) : lowerWords (uppercase name) = name := by
  have hupper : ∀ c ∈ name, c.toUpper.toNat < 128 ∧ isLowercase c.toUpper = false ∧
      c.toUpper.toLower = c := by
    intro c hc
    have hlower := (lowered_iff_of_ascii h.ascii).mp h.lowered c hc
    exact of_ascii (P := fun c => c.isUpper = false → c.toUpper.toNat < 128 ∧
      isLowercase c.toUpper = false ∧ c.toUpper.toLower = c) (by decide) (h.ascii c hc) hlower
  have hascii : IsAscii (name.map Char.toUpper) := by
    intro d hd
    obtain ⟨c, hc, rfl⟩ := List.mem_map.mp hd
    exact (hupper c hc).1
  have hmixed : (name.map Char.toUpper).any isLowercase = false := by
    rw [List.any_map, List.any_eq_false]
    intro c hc
    simp [(hupper c hc).2.1]
  rw [uppercase, flatMap_toUpper_of_ascii h.ascii, lowerWords_of_ascii hascii, hmixed,
    spellWords_false, flatMap_toLower_of_ascii hascii, List.map_map]
  exact (List.map_congr_left fun c hc => (hupper c hc).2.2).trans (List.map_id name)

theorem normalizeChars_uppercase (h : IsPlain name) (htidy : IsTidy name) :
    normalizeChars (uppercase name) = name := by
  rw [normalizeChars, lowerWords_uppercase h]
  exact htidy.tidy_eq

theorem constant_eq (x : String) : constant x = String.ofList (uppercase (normalize x).toList) := by
  rw [constant, normalize, String.toList_ofList]

section

variable {x y : String}

theorem normalize_normalize_of_ascii (h : IsAscii x.toList) :
    normalize (normalize x) = normalize x := by
  rw [normalize, normalize, String.toList_ofList,
    normalizeChars_of_plain (isPlain_normalizeChars h) (isTidy_normalizeChars x.toList)]

theorem normalize_constant (h : IsAscii x.toList) : normalize (constant x) = normalize x := by
  rw [normalize, constant, String.toList_ofList,
    normalizeChars_uppercase (isPlain_normalizeChars h) (isTidy_normalizeChars x.toList), normalize]

theorem constant_eq_constant_iff (hx : IsAscii x.toList) (hy : IsAscii y.toList) :
    constant x = constant y ↔ normalize x = normalize y := by
  constructor
  · intro h
    rw [← normalize_constant hx, h, normalize_constant hy]
  · intro h
    rw [constant_eq, h, ← constant_eq]

end

/-- Either spelling of a name can be had from the other, and neither changes the second time. -/
theorem spellings_agree (x : String) (hx : IsAscii x.toList) :
    normalize (constant x) = normalize x ∧ constant (normalize x) = constant x ∧
      constant (constant x) = constant x := by
  refine ⟨normalize_constant hx, ?_, ?_⟩
  · rw [constant_eq, normalize_normalize_of_ascii hx, ← constant_eq]
  · rw [constant_eq, normalize_constant hx, ← constant_eq]

theorem spellings_agree_sample :
    IsAscii "Int4__S_Q_L_Range".toList ∧
      normalize (constant "Int4__S_Q_L_Range") = "int4_sql_range" ∧
      constant (normalize "Int4__S_Q_L_Range") = "INT4_SQL_RANGE" ∧
      constant (constant "Int4__S_Q_L_Range") = "INT4_SQL_RANGE" := by
  have hascii : IsAscii "Int4__S_Q_L_Range".toList := by decide
  obtain ⟨hnormalize, hconstant, htwice⟩ := spellings_agree "Int4__S_Q_L_Range" hascii
  exact ⟨hascii, hnormalize.trans (by decide), hconstant.trans (by decide),
    htwice.trans (by decide)⟩

end BindingGen.Identifier
