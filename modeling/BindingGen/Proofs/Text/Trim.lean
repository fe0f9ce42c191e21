import BindingGen.Text.Blank
import Mathlib.Data.List.DropRight

/-!
# Trimmed texts

Trimming leaves a text without blanks at its ends, and takes away nothing but blanks: what stands
between blanks and has none at its own ends is what is left.
-/

namespace BindingGen.Text

variable {text gap front behind : List Char} {c : Char}

/-! ## Fixed ends -/

theorem afterPrefix?_append (start rest : List Char) :
    afterPrefix? start (start ++ rest) = some rest := by
  induction start with
  | nil => rfl
  | cons c start ih => simp [afterPrefix?, ih]

theorem beforeSuffix?_append (front stop : List Char) :
    beforeSuffix? stop (front ++ stop) = some front := by
  simp [beforeSuffix?, afterPrefix?_append]

/-! ## The end of a text -/

theorem dropEndWhile_eq_rdropWhile (p : Char → Bool) (text : List Char) :
    dropEndWhile p text = text.rdropWhile p := by
  induction text with
  | nil => rfl
  | cons c text ih =>
    have hempty : (text.reverse.dropWhile p).isEmpty = (text.rdropWhile p).isEmpty := by
      simp [List.rdropWhile]
    have hcons : (c :: text).rdropWhile p =
        if (text.rdropWhile p).isEmpty then [c].dropWhile p else c :: text.rdropWhile p := by
      rw [List.rdropWhile, List.reverse_cons, List.dropWhile_append, hempty]
      split
      · by_cases hc : p c <;> simp [hc]
      · simp [List.rdropWhile]
    rw [dropEndWhile, ih, hcons]
    split
    · rename_i hnil
      by_cases hc : p c <;> simp [hnil, hc]
    · rename_i hkept
      rw [if_neg]
      simpa using hkept

theorem trimEnd_append_gap (hgap : ∀ c ∈ gap, isBlank c = true) :
    trimEnd (text ++ gap) = trimEnd text := by
  rw [trimEnd, trimEnd, dropEndWhile_eq_rdropWhile, dropEndWhile_eq_rdropWhile, List.rdropWhile,
    List.reverse_append, List.dropWhile_append_of_pos (by simpa using hgap), List.rdropWhile]

/-- Where something is left of the end, nothing is taken from the front. -/
theorem trimEnd_append (h : trimEnd text ≠ []) :
    trimEnd (front ++ text) = front ++ trimEnd text := by
  induction front with
  | nil => rfl
  | cons c front ih =>
    have hkept : front ++ trimEnd text ≠ [] := by simp [h]
    have hbehind : dropEndWhile isBlank (front ++ text) = front ++ trimEnd text := ih
    rw [List.cons_append, trimEnd, dropEndWhile, hbehind]
    split
    · rename_i hnil
      exact absurd hnil hkept
    · rfl

theorem trimEnd_ne_nil (hmem : c ∈ text) (hc : isBlank c = false) : trimEnd text ≠ [] := by
  rw [trimEnd, dropEndWhile_eq_rdropWhile]
  intro hnil
  have hblank := List.rdropWhile_eq_nil_iff.mp hnil c hmem
  rw [hc] at hblank
  cases hblank

theorem trimEnd_cons (hc : isBlank c = false) : trimEnd (c :: text) = c :: trimEnd text := by
  rw [trimEnd, dropEndWhile, trimEnd]
  split
  · rename_i hnil
    simp [hnil, hc]
  · rfl

theorem mem_of_mem_trimEnd (h : c ∈ trimEnd text) : c ∈ text := by
  rw [trimEnd, dropEndWhile_eq_rdropWhile] at h
  exact (List.rdropWhile_prefix isBlank text).subset h

/-! ## Both ends -/

theorem trimStart_gap_append (hgap : ∀ c ∈ gap, isBlank c = true) :
    trimStart (gap ++ text) = trimStart text :=
  List.dropWhile_append_of_pos hgap

theorem trimStart_cons (hc : isBlank c = false) : trimStart (c :: text) = c :: text := by
  simp [trimStart, hc]

theorem trimStart_trimEnd (text : List Char) :
    trimStart (trimEnd text) = trimEnd (trimStart text) := by
  induction text with
  | nil => rfl
  | cons c text ih =>
    by_cases hc : isBlank c = true
    · have hstart : trimStart (c :: text) = trimStart text := by simp [trimStart, hc]
      rw [hstart, ← ih, trimEnd, trimEnd, dropEndWhile]
      split
      · rename_i hnil
        simp [hnil, hc]
      · rename_i kept hkept
        simp [trimStart, hc]
    · rw [Bool.not_eq_true] at hc
      rw [trimStart_cons hc, trimEnd_cons hc, trimStart_cons hc]

theorem mem_of_mem_trim (h : c ∈ trim text) : c ∈ text :=
  (List.dropWhile_sublist isBlank).subset (mem_of_mem_trimEnd h)

theorem trim_trimEnd (text : List Char) : trim (trimEnd text) = trim text := by
  rw [trim, trimStart_trimEnd, trim, trimEnd, trimEnd, dropEndWhile_eq_rdropWhile,
    dropEndWhile_eq_rdropWhile, List.rdropWhile_idempotent]

/-! ## No blanks at the ends -/

/-- A text with no blank at its start and none at its end. -/
structure Unpadded (text : List Char) : Prop where
  start : ∀ c ∈ text.head?, isBlank c = false
  stop : ∀ c ∈ text.getLast?, isBlank c = false

theorem Unpadded.trimStart_append (h : Unpadded text) (hne : text ≠ []) :
    trimStart (text ++ behind) = text ++ behind := by
  obtain ⟨c, rest, rfl⟩ := List.exists_cons_of_ne_nil hne
  exact trimStart_cons (h.start c rfl)

theorem Unpadded.trimEnd_eq (h : Unpadded text) : trimEnd text = text := by
  rw [trimEnd, dropEndWhile_eq_rdropWhile, List.rdropWhile_eq_self_iff]
  intro hne hlast
  rw [h.stop _ (List.getLast?_eq_some_getLast hne)] at hlast
  cases hlast

theorem Unpadded.trim_eq (h : Unpadded text) : trim text = text := by
  by_cases hne : text = []
  · rw [hne]
    rfl
  · have hstart : trimStart (text ++ []) = text ++ [] := h.trimStart_append hne
    rw [List.append_nil] at hstart
    rw [trim, hstart, h.trimEnd_eq]

theorem Unpadded.trim_between (h : Unpadded text) {before behind : List Char}
    (hbefore : ∀ c ∈ before, isBlank c = true) (hbehind : ∀ c ∈ behind, isBlank c = true) :
    trim (before ++ text ++ behind) = text := by
  rw [← trim_trimEnd, trimEnd_append_gap hbehind, trim_trimEnd, trim, trimStart_gap_append hbefore]
  exact h.trim_eq

theorem unpadded_trim (text : List Char) : Unpadded (trim text) where
  start := by
    intro c hc
    rw [trim, ← trimStart_trimEnd, trimStart] at hc
    have hhead := List.head?_dropWhile_not isBlank (trimEnd text)
    rw [Option.mem_def.mp hc] at hhead
    simpa using hhead
  stop := by
    intro c hc
    rw [trim, trimEnd, dropEndWhile_eq_rdropWhile] at hc
    have hne : (trimStart text).rdropWhile isBlank ≠ [] := by
      intro hnil
      rw [hnil] at hc
      cases hc
    have hlast := List.rdropWhile_last_not isBlank (trimStart text) hne
    rw [Option.mem_def, List.getLast?_eq_some_getLast hne] at hc
    rw [Option.some.inj hc] at hlast
    simpa using hlast

/-! ## Joined texts -/

theorem intercalate_cons (separator : Char) (first : List Char) (texts : List (List Char)) :
    [separator].intercalate (first :: texts) = first ++ texts.flatMap (separator :: ·) := by
  induction texts generalizing first with
  | nil => simp
  | cons second texts ih => simp [List.intercalate_cons_cons, ih]

end BindingGen.Text
