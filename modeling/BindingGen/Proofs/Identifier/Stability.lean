import BindingGen.Proofs.Identifier.Characters
import BindingGen.Proofs.Identifier.Lowered

/-!
# Names that are normalized already

A normalized name can be normalized once more. It stays as it is unless a word starts in it, and the
only letters that can start one are capitals without a lowercase form, since all others are
lowercased.
-/

namespace BindingGen.Identifier

open Text

/-! ## Splitting a lowercased name -/

theorem isUppercase_of_startsWord {previous next : Option Char} {c : Char}
    (h : startsWord previous c next = true) : isUppercase c = true := by
  unfold startsWord at h
  split at h
  · cases h
  · exact (Bool.and_eq_true_iff.mp h).1

theorem previous_ne_of_startsWord {previous next : Option Char} {c : Char}
    (h : startsWord previous c next = true) : (previous == some '_') = false := by
  rw [beq_eq_false_iff_ne]
  rintro rfl
  have hnone : (isLowercase '_' || '_'.isDigit || (isUppercase '_' && next.any isLowercase)) =
      false := by
    rw [show isLowercase '_' = false by decide, show isUppercase '_' = false by decide]
    rfl
  rw [startsWord, hnone, Bool.and_false] at h
  cases h

theorem splitWords_of_wordStarts {name : List Char} (h : Lowered name) {previous : Option Char}
    (hstarts : wordStarts previous name = 0) : splitWords previous name = name := by
  induction name generalizing previous with
  | nil => rfl
  | cons c rest ih =>
    rw [wordStarts, countCapitals] at hstarts
    have hc : startsWord previous c rest.head? = false := by
      rw [← Bool.not_eq_true]
      intro hstart
      rw [isUppercase_of_startsWord hstart, hstart] at hstarts
      simp at hstarts
    rw [splitWords, hc, h c List.mem_cons_self, ih h.tail (by rw [wordStarts]; omega)]
    rfl

/-- Every start of a word sets one more capital apart. -/
theorem setApart_splitWords {name : List Char} (h : Lowered name) (previous : Option Char) :
    setApart previous (splitWords previous name) =
      setApart previous name + wordStarts previous name := by
  induction name generalizing previous with
  | nil => rfl
  | cons c rest ih =>
    have hc : toLower c = [c] := h c List.mem_cons_self
    have hrest := ih h.tail (some c)
    rw [setApart, wordStarts] at hrest ⊢
    rw [splitWords, hc, countCapitals, countCapitals]
    cases hstart : startsWord previous c rest.head? with
    | false =>
      simp only [Bool.false_eq_true, if_false, List.singleton_append, countCapitals, hrest,
        Bool.and_false, Bool.toNat_false]
      omega
    | true =>
      have hunderscore : isUppercase '_' = false := by decide
      simp only [if_true, List.cons_append, List.nil_append, countCapitals, hrest, hunderscore,
        isUppercase_of_startsWord hstart, previous_ne_of_startsWord hstart, Bool.and_true,
        Bool.and_false, Bool.toNat_false, Bool.toNat_true, beq_self_eq_true]
      omega

theorem lowercaseAfter_of_lowered {name : List Char} (h : Lowered name) (before : List Char) :
    lowercaseAfter before name = name := by
  induction name generalizing before with
  | nil => rfl
  | cons c rest ih =>
    have hc : toLower c = [c] := h c List.mem_cons_self
    have hsigma : c ≠ 'Σ' := by
      rintro rfl
      revert hc
      decide
    rw [lowercaseAfter, if_neg hsigma, hc, ih h.tail]
    rfl

/-! ## The first pass -/

/-- A name in lower case, with an underscore before each of its words if case tells them apart. -/
def spellWords (mixed : Bool) (previous : Option Char) : List Char → List Char
  | [] => []
  | c :: rest =>
    (if mixed && startsWord previous c rest.head? then '_' :: toLower c else toLower c) ++
      spellWords mixed (some c) rest

theorem spellWords_true (previous : Option Char) (name : List Char) :
    spellWords true previous name = splitWords previous name := by
  induction name generalizing previous with
  | nil => rfl
  | cons c rest ih => rw [spellWords, splitWords, ih, Bool.true_and]

theorem spellWords_false (previous : Option Char) (name : List Char) :
    spellWords false previous name = name.flatMap toLower := by
  induction name generalizing previous with
  | nil => rfl
  | cons c rest ih =>
    rw [spellWords, ih, Bool.false_and, List.flatMap_cons]
    rfl

theorem any_isLowercase_spellWords (mixed : Bool) (previous : Option Char) (name : List Char) :
    (spellWords mixed previous name).any isLowercase = (name.flatMap toLower).any isLowercase := by
  induction name generalizing previous with
  | nil => rfl
  | cons c rest ih =>
    rw [spellWords, List.any_append, ih, List.flatMap_cons, List.any_append]
    split
    · rw [List.any_cons]
      rfl
    · rfl

/-- Two characters of one case, and both or neither a digit. -/
def Alike (c d : Char) : Prop :=
  isLowercase c = isLowercase d ∧ isUppercase c = isUppercase d ∧ c.isDigit = d.isDigit

theorem forall₂_alike_self (name : List Char) : List.Forall₂ Alike name name :=
  List.forall₂_same.mpr fun _ _ => ⟨rfl, rfl, rfl⟩

theorem toLower_sigma : toLower 'Σ' = ['σ'] := by decide

theorem alike_sigma : Alike 'ς' 'σ' := by
  refine ⟨?_, ?_, ?_⟩ <;> decide

/-- The two small forms of a sigma are alike, so it does not matter which one is written. -/
theorem alike_lowercaseAfter (before name : List Char) :
    List.Forall₂ Alike (lowercaseAfter before name) (name.flatMap toLower) := by
  induction name generalizing before with
  | nil => exact .nil
  | cons c rest ih =>
    rw [lowercaseAfter, List.flatMap_cons]
    refine List.rel_append ?_ (ih (c :: before))
    split
    · rename_i hsigma
      rw [hsigma, toLower_sigma]
      split
      · exact .cons alike_sigma .nil
      · exact forall₂_alike_self _
    · exact forall₂_alike_self _

theorem any_isLowercase_of_alike {name name' : List Char} (h : List.Forall₂ Alike name name') :
    name.any isLowercase = name'.any isLowercase := by
  induction h with
  | nil => rfl
  | cons hc _ ih => rw [List.any_cons, List.any_cons, hc.1, ih]

theorem any_isLowercase_head?_of_alike {name name' : List Char} (h : List.Forall₂ Alike name name') :
    name.head?.any isLowercase = name'.head?.any isLowercase := by
  cases h with
  | nil => rfl
  | cons hc => exact hc.1

theorem startsWord_of_alike {p p' c c' : Char} {next next' : Option Char} (hp : Alike p p')
    (hc : Alike c c') (hnext : next.any isLowercase = next'.any isLowercase) :
    startsWord (some p) c next = startsWord (some p') c' next' := by
  simp only [startsWord, hp.1, hp.2.1, hp.2.2, hc.2.1, hnext]

theorem wordStarts_some_of_alike {name name' : List Char} (h : List.Forall₂ Alike name name')
    {p p' : Char} (hp : Alike p p') : wordStarts (some p) name = wordStarts (some p') name' := by
  induction h generalizing p p' with
  | nil => rfl
  | cons hc hrest ih =>
    have hnext := any_isLowercase_head?_of_alike hrest
    have hmore := ih hc
    rw [wordStarts] at hmore ⊢
    rw [countCapitals, countCapitals, hc.2.1, startsWord_of_alike hp hc hnext, hmore]

theorem wordStarts_of_alike {name name' : List Char} (h : List.Forall₂ Alike name name') :
    wordStarts none name = wordStarts none name' := by
  cases h with
  | nil => rfl
  | cons hc hrest =>
    have hmore := wordStarts_some_of_alike hrest hc
    rw [wordStarts] at hmore ⊢
    rw [countCapitals, countCapitals, hmore]
    simp [startsWord]

theorem lowered_splitWords (previous : Option Char) (name : List Char) :
    Lowered (splitWords previous name) := by
  intro d hd
  rcases mem_of_mem_splitWords hd with rfl | ⟨c, -, hd⟩
  · decide
  · exact toLower_of_mem hd

theorem lowerWords_lowered (raw : List Char) : Lowered (lowerWords raw) := by
  intro d hd
  rcases mem_of_mem_lowerWords hd with rfl | ⟨rfl, -⟩ | ⟨c, -, hd⟩
  · decide
  · decide
  · exact toLower_of_mem hd

theorem any_isLowercase_lowerWords (raw : List Char) :
    (lowerWords raw).any isLowercase = (raw.flatMap toLower).any isLowercase := by
  unfold lowerWords
  split
  · rw [← spellWords_true, any_isLowercase_spellWords]
  · exact any_isLowercase_of_alike (alike_lowercaseAfter [] raw)

theorem wordStarts_lowerWords (raw : List Char) :
    wordStarts none (lowerWords raw) =
      wordStarts none (spellWords (raw.any isLowercase) none raw) := by
  unfold lowerWords
  split
  · rename_i hmixed
    rw [hmixed, spellWords_true]
  · rename_i hmixed
    rw [Bool.not_eq_true] at hmixed
    rw [hmixed, spellWords_false]
    exact wordStarts_of_alike (alike_lowercaseAfter [] raw)

/-! ## The second time -/

/-- A lowercased, tidy name stays as it is unless it has words to split. -/
theorem normalizeChars_eq_self_iff {name : List Char} (h : Lowered name) (htidy : IsTidy name) :
    normalizeChars name = name ↔ name.any isLowercase = false ∨ wordStarts none name = 0 := by
  have hnormalize : normalizeChars name = tidy (lowerWords name) := rfl
  rw [hnormalize, lowerWords]
  cases hmixed : name.any isLowercase with
  | false => simp [lowercase, lowercaseAfter_of_lowered h, htidy.tidy_eq]
  | true =>
    simp only [if_true, Bool.true_eq_false, false_or]
    constructor
    · intro heq
      -- Tidying takes back no capital that splitting has set apart.
      have hcount : setApart none (tidy (splitWords none name)) =
          setApart none (splitWords none name) :=
        countCapitals_tidy (fun _ _ _ _ _ => rfl) (lowered_splitWords none name) none
      rw [heq, setApart_splitWords h none] at hcount
      omega
    · intro hstarts
      rw [splitWords_of_wordStarts h hstarts, htidy.tidy_eq]

/-- The last character of what a character becomes in lower case. -/
def lastLowered (previous : Option Char) : Option Char :=
  previous.bind fun p => (toLower p).getLast?

/-- A capital without a lowercase form that the first pass leaves in one word with the character
before it, although it starts a word once its neighbours are in lower case. -/
def runsTogether (mixed : Bool) (previous : Option Char) (c : Char) (rest : List Char) : Bool :=
  isUppercase c && toLower c == [c] && !(mixed && startsWord previous c rest.head?) &&
    startsWord (lastLowered previous) c (spellWords mixed (some c) rest).head?

theorem wordStarts_append {lowered rest : List Char} (hne : lowered ≠ [])
    (h : ∀ c ∈ lowered, isUppercase c = false) (previous : Option Char) :
    wordStarts previous (lowered ++ rest) = wordStarts lowered.getLast? rest := by
  induction lowered generalizing previous with
  | nil => exact absurd rfl hne
  | cons c more ih =>
    rw [wordStarts, List.cons_append, countCapitals_cons (h c List.mem_cons_self)]
    cases more with
    | nil => rfl
    | cons d more =>
      have hmore := ih (List.cons_ne_nil d more) (fun x hx => h x (List.mem_cons_of_mem c hx)) (some c)
      rw [wordStarts] at hmore
      rw [hmore, List.getLast?_cons_cons]

/-- The first pass leaves a start of a word at each capital that runs together with the character
before it, and at no other place. -/
theorem wordStarts_spellWords (mixed : Bool) (previous : Option Char) (c : Char)
    (rest : List Char) :
    wordStarts (lastLowered previous) (spellWords mixed previous (c :: rest)) =
      (runsTogether mixed previous c rest).toNat +
        wordStarts (lastLowered (some c)) (spellWords mixed (some c) rest) := by
  have hlast : lastLowered (some c) = (toLower c).getLast? := rfl
  rw [spellWords, hlast]
  by_cases hfixed : isUppercase c = true ∧ toLower c = [c]
  · obtain ⟨hupper, hlower⟩ := hfixed
    rw [hlower, List.getLast?_singleton, runsTogether, hupper, hlower, beq_self_eq_true, wordStarts]
    cases hstart : mixed && startsWord previous c rest.head? with
    | false =>
      simp only [Bool.false_eq_true, if_false, List.singleton_append, countCapitals, hupper,
        Bool.true_and, Bool.not_false]
    | true =>
      -- The underscore before the word keeps the capital from starting another.
      have hunderscore : startsWord (some '_') c (spellWords mixed (some c) rest).head? = false := by
        rw [← Bool.not_eq_true]
        intro hstart
        cases previous_ne_of_startsWord hstart
      simp only [if_true, List.cons_append, List.nil_append, countCapitals, hupper, hunderscore,
        show isUppercase '_' = false by decide, Bool.true_and, Bool.false_and, Bool.not_true,
        Bool.toNat_false]
      omega
  -- What has a lowercase form leaves no capital, so no word starts within that.
  · have hnone : ∀ x ∈ toLower c, isUppercase x = false := by
      intro x hx
      rw [← Bool.not_eq_true]
      intro hupper
      have hlower := toLower_of_isUppercase hx hupper
      rw [hlower, List.mem_singleton] at hx
      exact hfixed ⟨hx ▸ hupper, hlower⟩
    have htogether : runsTogether mixed previous c rest = false := by
      rw [runsTogether, show (isUppercase c && toLower c == [c]) = false by simpa using hfixed]
      simp
    rw [htogether, Bool.toNat_false, Nat.zero_add]
    split
    · have hcapital : ∀ x ∈ '_' :: toLower c, isUppercase x = false :=
        List.forall_mem_cons.mpr ⟨by decide, hnone⟩
      rw [wordStarts_append (List.cons_ne_nil _ _) hcapital, List.getLast?_cons,
        List.getLast?_eq_some_getLast (toLower_ne_nil c), Option.getD_some]
    · exact wordStarts_append (toLower_ne_nil c) hnone _

theorem wordStarts_spellWords_eq_zero_iff {mixed : Bool} {previous : Option Char} {raw : List Char} :
    wordStarts (lastLowered previous) (spellWords mixed previous raw) = 0 ↔
      ∀ front c rest, raw = front ++ c :: rest →
        runsTogether mixed (front.getLast?.or previous) c rest = false := by
  induction raw generalizing previous with
  | nil => simp [spellWords, wordStarts, countCapitals]
  | cons d more ih =>
    rw [wordStarts_spellWords, Nat.add_eq_zero_iff, ih, Bool.toNat_eq_zero]
    constructor
    · rintro ⟨hhead, hmore⟩ front c rest heq
      cases front with
      | nil =>
        obtain ⟨rfl, rfl⟩ := List.cons.inj heq
        exact hhead
      | cons e front =>
        obtain ⟨rfl, rfl⟩ := List.cons.inj heq
        have hlast := hmore front c rest rfl
        rw [List.getLast?_cons]
        cases hfront : front.getLast? <;> rw [hfront] at hlast <;> exact hlast
    · intro h
      refine ⟨h [] d more rfl, fun front c rest heq => ?_⟩
      have hlast := h (d :: front) c rest (by rw [heq, List.cons_append])
      rw [List.getLast?_cons] at hlast
      cases hfront : front.getLast? <;> rw [hfront] at hlast <;> exact hlast

/-- A name that one pass over it settles: it has no lowercase letters even in lower case, so case
tells nothing about its words, or none of its capitals runs together with the character before it. -/
def Settled (raw : List Char) : Prop :=
  (raw.flatMap toLower).any isLowercase = false ∨
    ∀ front c rest, raw = front ++ c :: rest →
      runsTogether (raw.any isLowercase) front.getLast? c rest = false

theorem normalizeChars_normalizeChars_iff {raw : List Char} :
    normalizeChars (normalizeChars raw) = normalizeChars raw ↔ Settled raw := by
  have hlowered := lowerWords_lowered raw
  have htidy : normalizeChars raw = tidy (lowerWords raw) := rfl
  have hwords : wordStarts none (tidy (lowerWords raw)) =
      wordStarts (lastLowered none) (spellWords (raw.any isLowercase) none raw) :=
    (countCapitals_tidy looksAtCase_startsWord hlowered none).trans (wordStarts_lowerWords raw)
  rw [htidy, normalizeChars_eq_self_iff (lowered_tidy hlowered) (isTidy_tidy _),
    any_isLowercase_tidy hlowered, any_isLowercase_lowerWords, hwords,
    wordStarts_spellWords_eq_zero_iff, Settled]
  simp only [Option.or_none]

/-- A name whose capitals all have a lowercase form is settled. -/
theorem settled_of_lowercase_forms {raw : List Char}
    (h : ∀ c ∈ raw, isUppercase c = true → toLower c ≠ [c]) : Settled raw := by
  refine Or.inr ?_
  rintro front c rest rfl
  have hc := h c (by simp)
  rw [runsTogether]
  cases hupper : isUppercase c with
  | false => rfl
  | true => simp [hc hupper]

/-- Normalizing a name once more changes it only if a capital without a lowercase form runs together
with the character before it. -/
theorem normalize_normalize_iff (raw : String) :
    normalize (normalize raw) = normalize raw ↔ Settled raw.toList := by
  rw [← normalizeChars_normalizeChars_iff]
  simp [normalize, String.ofList_inj]

/-- The bold capital of mathematics has no lowercase form. It follows a capital at first, and a small
letter the second time. -/
theorem normalize_bold_capital :
    normalize "A𝐀" = "a𝐀" ∧ normalize (normalize "A𝐀") = "a_𝐀" := by
  decide

end BindingGen.Identifier
