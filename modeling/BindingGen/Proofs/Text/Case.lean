import BindingGen.Text.Case
import Mathlib.Algebra.Group.Nat.Defs

/-!
# Lowercasing

Lowercasing a character leaves nothing that would change once more, and the only capital it leaves is
one without a lowercase form. Both are read off the spans of the case tables, of which no two overlap
where it matters.
-/

namespace BindingGen.Text

/-! ## Sets of code points -/

/-- Code points as the bits of a number, so that two sets are compared at once. -/
def codeBits (codes : List Nat) : Nat := codes.foldr (fun code bits => 2 ^ code ||| bits) 0

theorem testBit_codeBits {codes : List Nat} {n : Nat} (h : n ∈ codes) :
    (codeBits codes).testBit n = true := by
  induction codes with
  | nil => cases h
  | cons code codes ih =>
    rw [codeBits, List.foldr_cons, Nat.testBit_or, Bool.or_eq_true]
    rcases List.mem_cons.mp h with rfl | h
    · exact Or.inl Nat.testBit_two_pow_self
    · exact Or.inr (ih h)

namespace CodeSpan

variable {span : CodeSpan} {spans others : List CodeSpan} {n : Nat}

def codes (span : CodeSpan) : List Nat :=
  List.range' span.first ((span.last - span.first) / span.step + 1) span.step

theorem contains_iff :
    span.contains n = true ↔
      span.first ≤ n ∧ n ≤ span.last ∧ (n - span.first) % span.step = 0 := by
  simp [contains, and_assoc]

theorem mem_codes (h : span.contains n = true) : n ∈ span.codes := by
  obtain ⟨hfirst, hlast, hstep⟩ := contains_iff.mp h
  rw [codes, List.mem_range']
  refine ⟨(n - span.first) / span.step, ?_, ?_⟩
  · have := Nat.div_le_div_right (c := span.step) (Nat.sub_le_sub_right hlast span.first)
    omega
  · have := Nat.mul_div_cancel' (Nat.dvd_of_mod_eq_zero hstep)
    omega

def bits (spans : List CodeSpan) : Nat :=
  spans.foldr (fun span bits => codeBits span.codes ||| bits) 0

theorem testBit_bits (h : anyContains spans n = true) : (bits spans).testBit n = true := by
  induction spans with
  | nil => cases h
  | cons span spans ih =>
    rw [anyContains, List.any_cons, Bool.or_eq_true] at h
    rw [bits, List.foldr_cons, Nat.testBit_or, Bool.or_eq_true]
    rcases h with h | h
    · exact Or.inl (testBit_codeBits (mem_codes h))
    · exact Or.inr (ih h)

/-- Spans whose bits have nothing in common have no code point in common. -/
theorem anyContains_eq_false (hbits : bits spans &&& bits others = 0)
    (h : anyContains spans n = true) : anyContains others n = false := by
  rw [← Bool.not_eq_true]
  intro hother
  have hbit := congrArg (Nat.testBit · n) hbits
  simp [Nat.testBit_and, testBit_bits h, testBit_bits hother] at hbit

theorem anyContains_append :
    anyContains (spans ++ others) n = (anyContains spans n || anyContains others n) :=
  List.any_append

def shift (span : CodeSpan) (distance : Int) : CodeSpan :=
  ⟨(span.first + distance).toNat, (span.last + distance).toNat, span.step⟩

theorem contains_shift {distance : Int} (hfirst : 0 ≤ span.first + distance)
    (h : span.contains n = true) :
    (span.shift distance).contains (n + distance).toNat = true := by
  obtain ⟨_, _, hstep⟩ := contains_iff.mp h
  have hsub : (n + distance).toNat - (span.first + distance).toNat = n - span.first := by omega
  rw [contains_iff, shift, hsub]
  exact ⟨by simp only; omega, by simp only; omega, hstep⟩

end CodeSpan

/-! ## Tables -/

def asciiCapitals : CodeSpan := ⟨0x41, 0x5A, 1⟩

def asciiSmall : CodeSpan := ⟨0x61, 0x7A, 1⟩

def loweredSpans : List CodeSpan :=
  asciiCapitals :: ⟨0x130, 0x130, 1⟩ :: lowerShifts.map (·.1)

/-- What lowercasing can make of them. The dot above is left of a capital i with a dot, and zero
stands for a code point that is no character. -/
def lowerFormSpans : List CodeSpan :=
  asciiSmall :: ⟨0x307, 0x307, 1⟩ :: ⟨0, 0, 1⟩ ::
    lowerShifts.map fun (span, distance) => span.shift distance

/-- All that is small or can come of lowercasing, beside all that is a capital or is lowered. -/
theorem small_apart_capital :
    CodeSpan.bits (lowerFormSpans ++ asciiSmall :: lowercaseSpans) &&&
      CodeSpan.bits (loweredSpans ++ asciiCapitals :: uppercaseSpans) = 0 := by
  decide +kernel

theorem not_capital_of_small {n : Nat}
    (h : CodeSpan.anyContains lowerFormSpans n = true ∨
      CodeSpan.anyContains (asciiSmall :: lowercaseSpans) n = true) :
    CodeSpan.anyContains loweredSpans n = false ∧
      CodeSpan.anyContains (asciiCapitals :: uppercaseSpans) n = false := by
  rw [← Bool.or_eq_true, ← CodeSpan.anyContains_append] at h
  rw [← Bool.or_eq_false_iff, ← CodeSpan.anyContains_append]
  exact CodeSpan.anyContains_eq_false small_apart_capital h

theorem lowerShifts_nonneg : ∀ entry ∈ lowerShifts, 0 ≤ (entry.1.first : Int) + entry.2 := by
  decide +kernel

/-! ## Characters -/

variable {c x : Char}

theorem of_ascii {P : Char → Prop} (h : ∀ n < 128, P (Char.ofNat n)) (hc : c.toNat < 128) : P c := by
  rw [← Char.ofNat_toNat c]
  exact h c.toNat hc

theorem ascii_of_small (h : asciiSmall.contains c.toNat = true) : c.toNat < 128 := by
  obtain ⟨-, hlast, -⟩ := CodeSpan.contains_iff.mp h
  simp only [asciiSmall] at hlast
  omega

theorem anyContains_of_ite {cased : Char → Bool} {span : CodeSpan} {spans : List CodeSpan}
    (hascii : ∀ n < 128, cased (Char.ofNat n) = true →
      span.contains (Char.ofNat n).toNat = true)
    (h : (if c.toNat < 128 then cased c else CodeSpan.anyContains spans c.toNat) = true) :
    CodeSpan.anyContains (span :: spans) c.toNat = true := by
  rw [CodeSpan.anyContains, List.any_cons, Bool.or_eq_true]
  split at h
  · exact Or.inl (of_ascii (P := fun c => cased c = true → span.contains c.toNat = true) hascii
      ‹_› h)
  · exact Or.inr h

theorem anyContains_of_isUppercase (h : isUppercase c = true) :
    CodeSpan.anyContains (asciiCapitals :: uppercaseSpans) c.toNat = true :=
  anyContains_of_ite (by decide) h

theorem anyContains_of_isLowercase (h : isLowercase c = true) :
    CodeSpan.anyContains (asciiSmall :: lowercaseSpans) c.toNat = true :=
  anyContains_of_ite (by decide) h

theorem toNat_ofNat (n : Nat) : (Char.ofNat n).toNat = n ∨ (Char.ofNat n).toNat = 0 := by
  by_cases h : n.isValidChar
  · have hchar : Char.ofNat n = Char.ofNatAux n h := dif_pos h
    rw [hchar]
    exact Or.inl rfl
  · have hchar : Char.ofNat n = '\x00' := dif_neg h
    rw [hchar]
    exact Or.inr rfl

theorem toLower_of_not_lowered (h : CodeSpan.anyContains loweredSpans c.toNat = false) :
    toLower c = [c] := by
  rw [CodeSpan.anyContains, List.any_eq_false] at h
  unfold toLower
  split
  · have hcapital : ¬ asciiCapitals.contains c.toNat = true := h _ List.mem_cons_self
    have hfixed := of_ascii (P := fun c => ¬ asciiCapitals.contains c.toNat = true → c.toLower = c)
      (by decide) ‹_› hcapital
    rw [hfixed]
  · have hdot : ¬ c.toNat = 0x130 := fun hc => h ⟨0x130, 0x130, 1⟩ (by simp [loweredSpans])
      (by rw [hc]; decide)
    have hshift : lowerShifts.find? (·.1.contains c.toNat) = none := by
      rw [List.find?_eq_none]
      intro entry hentry
      exact h entry.1 (List.mem_cons_of_mem _ (List.mem_cons_of_mem _ (List.mem_map_of_mem hentry)))
    have hexpansion : lowerExpansions.lookup c.toNat = none := by
      rw [lowerExpansions, List.lookup_eq_none_iff]
      simpa using hdot
    rw [mapCase, hexpansion, hshift]

/-- A character stays as it is or becomes one lowercase form, but for the capital i with a dot. -/
theorem toLower_cases (c : Char) :
    toLower c = [c] ∨
      (∃ x, toLower c = [x] ∧ CodeSpan.anyContains lowerFormSpans x.toNat = true) ∨
      toLower c = ['i', '\u0307'] := by
  unfold toLower
  split
  · have hcase := of_ascii (P := fun c => c.toLower = c ∨ asciiSmall.contains c.toLower.toNat = true)
      (by decide) ‹_›
    rcases hcase with hfixed | hsmall
    · exact Or.inl (by rw [hfixed])
    · exact Or.inr (Or.inl ⟨_, rfl, List.any_eq_true.mpr ⟨asciiSmall, List.mem_cons_self, hsmall⟩⟩)
  · unfold mapCase
    split
    · rename_i codes hlookup
      rw [lowerExpansions, List.lookup_cons] at hlookup
      split at hlookup
      · obtain rfl := Option.some.inj hlookup
        exact Or.inr (Or.inr rfl)
      · cases hlookup
    · split
      · rename_i span distance hfind
        refine Or.inr (Or.inl ⟨_, rfl, List.any_eq_true.mpr ?_⟩)
        -- The spans do not tell that a shift never leaves the characters, so zero is allowed for.
        rcases toNat_ofNat (c.toNat + distance).toNat with hnat | hnat <;> rw [hnat]
        · have hmem := List.mem_of_find?_eq_some hfind
          have hcontains := List.find?_some hfind
          refine ⟨span.shift distance, ?_,
            CodeSpan.contains_shift (lowerShifts_nonneg _ hmem) hcontains⟩
          simp only [lowerFormSpans, List.mem_cons, List.mem_map]
          exact Or.inr (Or.inr (Or.inr ⟨_, hmem, rfl⟩))
        · exact ⟨⟨0, 0, 1⟩, by simp [lowerFormSpans], by decide⟩
      · exact Or.inl rfl

theorem toLower_ne_nil (c : Char) : toLower c ≠ [] := by
  rcases toLower_cases c with h | ⟨x, h, _⟩ | h <;> rw [h] <;> exact List.cons_ne_nil _ _

theorem mem_toLower (h : x ∈ toLower c) :
    toLower c = [c] ∨ CodeSpan.anyContains lowerFormSpans x.toNat = true := by
  rcases toLower_cases c with hfixed | ⟨y, hy, hform⟩ | hdot
  · exact Or.inl hfixed
  · rw [hy, List.mem_singleton] at h
    exact Or.inr (h ▸ hform)
  · rw [hdot] at h
    refine Or.inr ?_
    rcases List.mem_cons.mp h with rfl | h
    · decide
    · rw [List.mem_singleton.mp h]
      decide

theorem toLower_of_mem (h : x ∈ toLower c) : toLower x = [x] := by
  rcases mem_toLower h with hfixed | hform
  · rw [hfixed, List.mem_singleton] at h
    rwa [h]
  · exact toLower_of_not_lowered (not_capital_of_small (Or.inl hform)).1

/-- A capital that lowercasing leaves was there before. -/
theorem toLower_of_isUppercase (h : x ∈ toLower c) (hx : isUppercase x = true) :
    toLower c = [c] := by
  refine (mem_toLower h).resolve_right fun hform => ?_
  have hnot := (not_capital_of_small (Or.inl hform)).2
  rw [anyContains_of_isUppercase hx] at hnot
  cases hnot

theorem toLower_of_isLowercase (h : isLowercase c = true) : toLower c = [c] :=
  toLower_of_not_lowered (not_capital_of_small (Or.inr (anyContains_of_isLowercase h))).1

theorem isUppercase_of_isLowercase (h : isLowercase c = true) : isUppercase c = false := by
  rw [← Bool.not_eq_true]
  intro hupper
  have hnot := (not_capital_of_small (Or.inr (anyContains_of_isLowercase h))).2
  rw [anyContains_of_isUppercase hupper] at hnot
  cases hnot

/-! ## Letters in either case -/

/-- Beyond ASCII, only single small letters have a letter of ASCII as their capital. -/
theorem upperShifts_ascii :
    ∀ entry ∈ upperShifts, 0x5A < (entry.1.first : Int) + entry.2 ∨
      entry.1.first = entry.1.last ∧
        CodeSpan.anyContains lowercaseSpans entry.1.first = true := by
  decide +kernel

theorem upperExpansions_length : ∀ entry ∈ upperExpansions, 2 ≤ entry.2.length := by
  decide

theorem isLowercase_of_toUpper {capital : Char} (hcapital : asciiCapitals.contains capital.toNat = true)
    (hx : 128 ≤ x.toNat) (h : toUpper x = [capital]) : isLowercase x = true := by
  obtain ⟨hfirst, hlast, _⟩ := CodeSpan.contains_iff.mp hcapital
  simp only [asciiCapitals] at hfirst hlast
  rw [toUpper, if_neg (by omega), mapCase] at h
  -- An expansion is too long, and a character that stays is beyond ASCII, so it is a shift.
  split at h
  · rename_i codes hlookup
    obtain ⟨front, behind, heq, -⟩ := List.lookup_eq_some_iff.mp hlookup
    have hlength := upperExpansions_length (x.toNat, codes) (by rw [heq]; simp)
    have hone := congrArg List.length h
    rw [List.length_map, List.length_singleton] at hone
    simp only at hlength
    omega
  · split at h
    · rename_i span distance hfind
      have hcode := congrArg Char.toNat (List.singleton_inj.mp h)
      have hfound := List.find?_some hfind
      have hcontains := CodeSpan.contains_iff.mp hfound
      rcases toNat_ofNat (x.toNat + distance).toNat with hnat | hnat
      · rcases upperShifts_ascii _ (List.mem_of_find?_eq_some hfind) with hbeyond | ⟨hone, hlower⟩
        · simp only at hbeyond hcontains
          omega
        · simp only at hone hlower hcontains
          rw [isLowercase, if_neg (by omega), ← hlower]
          congr 1
          omega
      · omega
    · have hcode := congrArg Char.toNat (List.singleton_inj.mp h)
      omega

/-- A letter that differs at most in case from a small letter of ASCII is small if it is
lowercased. -/
theorem isLowercase_of_sameLetter {a : Char} (ha : asciiSmall.contains a.toNat = true)
    (h : sameLetter a x = true) (hx : toLower x = [x]) : isLowercase x = true := by
  obtain ⟨hfirst, hlast, _⟩ := CodeSpan.contains_iff.mp ha
  simp only [asciiSmall] at hfirst hlast
  have hsmall : isLowercase a = true ∧ asciiCapitals.contains a.toUpper.toNat = true :=
    of_ascii (P := fun a => asciiSmall.contains a.toNat = true →
      isLowercase a = true ∧ asciiCapitals.contains a.toUpper.toNat = true) (by decide)
      (by omega) ha
  rw [sameLetter, Bool.or_eq_true, beq_iff_eq, beq_iff_eq] at h
  rcases h with h | h
  · rw [toUpper, if_pos (by omega)] at h
    by_cases hascii : x.toNat < 128
    · rw [toUpper, if_pos hascii, List.singleton_inj] at h
      rw [toLower, if_pos hascii, List.singleton_inj] at hx
      have hcase := of_ascii (P := fun x => asciiCapitals.contains x.toUpper.toNat = true →
        x.toLower = x → isLowercase x = true) (by decide) hascii
      exact hcase (h ▸ hsmall.2) hx
    · exact isLowercase_of_toUpper hsmall.2 (by omega) h.symm
  · rw [hx, toLower_of_isLowercase hsmall.1, List.singleton_inj] at h
    exact h ▸ hsmall.1

end BindingGen.Text
