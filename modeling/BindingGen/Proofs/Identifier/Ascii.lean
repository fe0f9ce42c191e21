import BindingGen.Proofs.Identifier.Stability

/-!
# Names in ASCII

In ASCII a name is lowercased character by character, each capital has a small form, and an acronym
that is written letter by letter is one particular text.
-/

namespace BindingGen.Identifier

open Text

def IsAscii (name : List Char) : Prop := ∀ c ∈ name, c.toNat < 128

instance : DecidablePred IsAscii := fun name =>
  decidable_of_iff (name.all (·.toNat < 128) = true) (by simp [IsAscii])

variable {c : Char} {name rest : List Char}

theorem IsAscii.head (h : IsAscii (c :: rest)) : c.toNat < 128 :=
  h c List.mem_cons_self

theorem IsAscii.tail (h : IsAscii (c :: rest)) : IsAscii rest :=
  fun d hd => h d (List.mem_cons_of_mem c hd)

/-! ## Characters -/

theorem isUpper_iff : c.isUpper = true ↔ 65 ≤ c.toNat ∧ c.toNat ≤ 90 :=
  decide_eq_true_iff

theorem isLower_iff : c.isLower = true ↔ 97 ≤ c.toNat ∧ c.toNat ≤ 122 :=
  Bool.and_eq_true_iff.trans (and_congr decide_eq_true_iff decide_eq_true_iff)

theorem isAlpha_iff : c.isAlpha = true ↔ c.isUpper = true ∨ c.isLower = true :=
  Bool.or_eq_true_iff

theorem isDigit_iff : c.isDigit = true ↔ 48 ≤ c.toNat ∧ c.toNat ≤ 57 :=
  Char.isDigit_iff_toNat

theorem ascii_of_isUpper (h : c.isUpper = true) : c.toNat < 128 := by
  rw [isUpper_iff] at h
  omega

theorem ascii_of_isLower (h : c.isLower = true) : c.toNat < 128 := by
  rw [isLower_iff] at h
  omega

theorem ascii_of_isDigit (h : c.isDigit = true) : c.toNat < 128 := by
  rw [isDigit_iff] at h
  omega

theorem toLower_of_ascii (h : c.toNat < 128) : toLower c = [c.toLower] := if_pos h

theorem toUpper_of_ascii (h : c.toNat < 128) : toUpper c = [c.toUpper] := if_pos h

theorem isLowercase_of_ascii (h : c.toNat < 128) : isLowercase c = c.isLower := if_pos h

theorem isUppercase_of_ascii (h : c.toNat < 128) : isUppercase c = c.isUpper := if_pos h

/-! ## Case -/

theorem flatMap_toLower_of_ascii (h : IsAscii name) :
    name.flatMap toLower = name.map Char.toLower := by
  rw [List.map_eq_flatMap]
  exact List.flatMap_congr fun c hc => toLower_of_ascii (h c hc)

theorem flatMap_toUpper_of_ascii (h : IsAscii name) :
    name.flatMap toUpper = name.map Char.toUpper := by
  rw [List.map_eq_flatMap]
  exact List.flatMap_congr fun c hc => toUpper_of_ascii (h c hc)

theorem lowercaseAfter_of_ascii (h : IsAscii name) (before : List Char) :
    lowercaseAfter before name = name.flatMap toLower := by
  induction name generalizing before with
  | nil => rfl
  | cons c rest ih =>
    have hsigma : c ≠ 'Σ' := by
      rintro rfl
      exact absurd h.head (by decide)
    rw [lowercaseAfter, if_neg hsigma, List.flatMap_cons, ih h.tail]

theorem lowerWords_of_ascii {raw : List Char} (h : IsAscii raw) :
    lowerWords raw = spellWords (raw.any isLowercase) none raw := by
  cases hmixed : raw.any isLowercase with
  | true => simp [lowerWords, hmixed, spellWords_true]
  | false => simp [lowerWords, hmixed, spellWords_false, lowercase, lowercaseAfter_of_ascii h]

theorem lowered_iff_of_ascii (h : IsAscii name) :
    Lowered name ↔ ∀ c ∈ name, c.isUpper = false := by
  refine forall₂_congr fun c hc => ?_
  rw [toLower_of_ascii (h c hc), List.singleton_inj]
  exact of_ascii (P := fun c => c.toLower = c ↔ c.isUpper = false) (by decide) (h c hc)

/-! ## Plain names -/

/-- A name in ASCII that lowercasing does not change. -/
structure IsPlain (name : List Char) : Prop where
  ascii : IsAscii name
  lowered : Lowered name

theorem IsPlain.tail (h : IsPlain (c :: rest)) : IsPlain rest :=
  ⟨h.ascii.tail, h.lowered.tail⟩

theorem IsPlain.collapse (h : IsPlain name) : IsPlain (collapseUnderscores name) :=
  ⟨fun c hc => h.ascii c (mem_of_mem_collapse hc), lowered_collapse h.lowered⟩

theorem IsPlain.rejoin {a b c : Char} (hacronym : IsAcronym a b c) (h : IsPlain name) :
    IsPlain (rejoinAcronym a b c name) := by
  refine ⟨fun d hd => ?_, lowered_rejoin hacronym h.lowered⟩
  rcases mem_of_mem_rejoin hd with hd | rfl | rfl | rfl
  · exact h.ascii d hd
  · exact ascii_of_small hacronym.first
  · exact ascii_of_small hacronym.second
  · exact ascii_of_small hacronym.third

theorem isPlain_lowerWords {raw : List Char} (h : IsAscii raw) : IsPlain (lowerWords raw) := by
  refine ⟨fun d hd => ?_, lowerWords_lowered raw⟩
  rcases mem_of_mem_lowerWords hd with rfl | ⟨-, hsigma⟩ | ⟨c, hc, hd⟩
  · decide
  · exact absurd (h _ hsigma) (by decide)
  · rw [toLower_of_ascii (h c hc), List.mem_singleton] at hd
    rw [hd]
    exact of_ascii (P := fun c => c.toLower.toNat < 128) (by decide) (h c hc)

theorem eq_of_sameLetter {letter x : Char} (hletter : asciiSmall.contains letter.toNat = true)
    (hx : x.toNat < 128) (hlower : toLower x = [x]) (h : sameLetter letter x = true) :
    x = letter := by
  have hsmall := isLowercase_of_small hletter
  have hxsmall := isLowercase_of_sameLetter hletter h hlower
  have hascii := ascii_of_small hletter
  have hback : ∀ {c : Char}, c.toNat < 128 → isLowercase c = true → c.toUpper.toLower = c := by
    intro c hc hlow
    rw [isLowercase_of_ascii hc] at hlow
    exact of_ascii (P := fun c => c.isLower = true → c.toUpper.toLower = c) (by decide) hc hlow
  rw [sameLetter, Bool.or_eq_true, beq_iff_eq, beq_iff_eq, toUpper_of_ascii hx,
    toUpper_of_ascii hascii, hlower, toLower_of_isLowercase hsmall, List.singleton_inj,
    List.singleton_inj] at h
  rcases h with h | h
  · rw [← hback hx hxsmall, ← hback hascii hsmall, h]
  · exact h.symm

/-- An acronym that is written letter by letter. -/
def letterByLetter (a b c : Char) : List Char := [a, '_', b, '_', c, '_']

theorem spelledOut_iff_of_plain {a b c : Char} (hacronym : IsAcronym a b c) (h : IsPlain name) :
    spelledOut a b c name = true ↔ letterByLetter a b c <+: name := by
  constructor
  · intro hspelled
    obtain ⟨x, y, z, rest, rfl, hx, hy, hz⟩ := exists_of_spelledOut hspelled
    have hletters : ∀ {letter x : Char}, asciiSmall.contains letter.toNat = true →
        sameLetter letter x = true → x ∈ _ → x = letter :=
      fun hletter hsame hmem => eq_of_sameLetter hletter (h.ascii _ hmem) (h.lowered _ hmem) hsame
    rw [hletters hacronym.first hx (by simp), hletters hacronym.second hy (by simp),
      hletters hacronym.third hz (by simp)]
    exact List.prefix_append _ rest
  · rintro ⟨rest, rfl⟩
    simp [letterByLetter, spelledOut, sameLetter]

theorem whole_iff_of_plain {a b c : Char} (hacronym : IsAcronym a b c) (h : IsPlain name) :
    Whole a b c name ↔ ¬ letterByLetter a b c <:+: name := by
  induction name with
  | nil => simp [whole_nil, letterByLetter]
  | cons x rest ih =>
    rw [whole_cons_iff, ih h.tail, List.infix_cons_iff, not_or, ← spelledOut_iff_of_plain hacronym h,
      Bool.not_eq_true]

end BindingGen.Identifier
