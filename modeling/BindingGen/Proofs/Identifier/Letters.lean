import BindingGen.Proofs.Identifier.Ascii

/-!
# Letters and gaps

A name is its letters, that is all its characters but the underscores, with gaps between them. To
normalize a name changes the case of its letters and the width of its gaps, and nothing else.
-/

namespace BindingGen.Identifier

open Text

def letters (name : List Char) : List Char := name.filter (· ≠ '_')

/-- The number of underscores between the first letters of a name, as many as given, and the next. -/
def gap : Nat → List Char → Nat
  | _, [] => 0
  | 0, c :: rest => if c = '_' then gap 0 rest + 1 else 0
  | k + 1, c :: rest => if c = '_' then gap (k + 1) rest else gap k rest

section

variable {k : Nat} {c : Char} {name rest : List Char}

@[simp] theorem letters_nil : letters [] = [] := rfl

@[simp] theorem letters_underscore : letters ('_' :: rest) = letters rest := rfl

theorem letters_cons (h : c ≠ '_') : letters (c :: rest) = c :: letters rest := by
  simp [letters, h]

@[simp] theorem gap_nil : gap k [] = 0 := by
  unfold gap
  rfl

@[simp] theorem gap_zero_underscore : gap 0 ('_' :: rest) = gap 0 rest + 1 := by
  rw [gap, if_pos rfl]

@[simp] theorem gap_succ_underscore : gap (k + 1) ('_' :: rest) = gap (k + 1) rest := by
  rw [gap, if_pos rfl]

theorem gap_zero_cons (h : c ≠ '_') : gap 0 (c :: rest) = 0 := by
  rw [gap, if_neg h]

theorem gap_succ_cons (h : c ≠ '_') : gap (k + 1) (c :: rest) = gap k rest := by
  rw [gap, if_neg h]

theorem gap_zero_of_head? (h : name.head? ≠ some '_') : gap 0 name = 0 := by
  cases name with
  | nil => rfl
  | cons c rest => exact gap_zero_cons fun hc => h (by rw [hc, List.head?_cons])

theorem gap_zero_replicate (h : rest.head? ≠ some '_') (n : Nat) :
    gap 0 (List.replicate n '_' ++ rest) = n := by
  induction n with
  | zero => exact gap_zero_of_head? h
  | succ n ih => simp [List.replicate_succ, ih]

/-- The gap behind a letter is the run of underscores there. -/
theorem gap_run (front : List Char) (hc : c ≠ '_') (h : rest.head? ≠ some '_') (n : Nat) :
    gap ((letters front).length + 1) (front ++ c :: (List.replicate n '_' ++ rest)) = n := by
  induction front with
  | nil => rw [List.nil_append, letters_nil, List.length_nil, gap_succ_cons hc, gap_zero_replicate h]
  | cons d front ih =>
    by_cases hd : d = '_'
    · rw [hd, List.cons_append, letters_underscore, gap_succ_underscore, ih]
    · rw [List.cons_append, letters_cons hd, List.length_cons, gap_succ_cons hd, ih]

/-! ## Single underscores -/

theorem letters_collapse (name : List Char) : letters (collapseUnderscores name) = letters name := by
  induction name using collapse_induction with
  | nil => rfl
  | dropped rest ih =>
    rw [collapse_dropped, ih]
    rfl
  | kept c rest h ih =>
    simp only [collapse_kept h, letters, List.filter_cons] at ih ⊢
    rw [ih]

theorem gap_collapse (k : Nat) (name : List Char) :
    gap k (collapseUnderscores name) = min 1 (gap k name) := by
  induction name using collapse_induction generalizing k with
  | nil => simp [collapseUnderscores]
  | dropped rest ih =>
    rw [collapse_dropped]
    cases k <;> simp [ih]
  | kept c rest h ih =>
    rw [collapse_kept h]
    by_cases hc : c = '_'
    · subst hc
      have hnext : rest.head? ≠ some '_' := fun hnext => h ⟨rfl, hnext⟩
      cases k <;> simp [ih, gap_zero_of_head? hnext]
    · cases k <;> simp [ih, gap_zero_cons hc, gap_succ_cons hc]

/-! ## Words -/

theorem toLower_eq_underscore_iff (h : c.toNat < 128) : c.toLower = '_' ↔ c = '_' :=
  of_ascii (P := fun c => c.toLower = '_' ↔ c = '_') (by decide) h

theorem spellWords_underscore (mixed : Bool) (previous : Option Char) (rest : List Char) :
    spellWords mixed previous ('_' :: rest) = '_' :: spellWords mixed (some '_') rest := by
  have hstart : startsWord previous '_' rest.head? = false := by
    rw [← Bool.not_eq_true]
    intro hstart
    cases isUppercase_of_startsWord hstart
  rw [spellWords, hstart, Bool.and_false]
  rfl

/-- A letter is lowercased where it stands, perhaps with a new underscore before it. -/
theorem spellWords_ascii (h : c.toNat < 128) (mixed : Bool) (previous : Option Char)
    (rest : List Char) :
    spellWords mixed previous (c :: rest) = c.toLower :: spellWords mixed (some c) rest ∨
      spellWords mixed previous (c :: rest) = '_' :: c.toLower :: spellWords mixed (some c) rest := by
  rw [spellWords, toLower_of_ascii h]
  split
  · exact Or.inr rfl
  · exact Or.inl rfl

theorem letters_spellWords (h : IsAscii name) (mixed : Bool) (previous : Option Char) :
    letters (spellWords mixed previous name) = (letters name).map Char.toLower := by
  induction name generalizing previous with
  | nil => rfl
  | cons c rest ih =>
    have hrest := ih h.tail
    by_cases hc : c = '_'
    · rw [hc, spellWords_underscore, letters_underscore, letters_underscore, hrest]
    · have hlower : c.toLower ≠ '_' := mt (toLower_eq_underscore_iff h.head).mp hc
      rcases spellWords_ascii h.head mixed previous rest with hspell | hspell
      all_goals simp [hspell, letters_cons hlower, letters_cons hc, hrest]

/-- Splitting widens gaps only. -/
theorem gap_le_spellWords (h : IsAscii name) (mixed : Bool) (previous : Option Char) (k : Nat) :
    gap k name ≤ gap k (spellWords mixed previous name) := by
  induction name generalizing previous k with
  | nil => simp
  | cons c rest ih =>
    have hrest := ih h.tail
    by_cases hc : c = '_'
    · rw [hc, spellWords_underscore]
      cases k <;> simp [hrest]
    · have hlower : c.toLower ≠ '_' := mt (toLower_eq_underscore_iff h.head).mp hc
      cases k with
      | zero => simp [gap_zero_cons hc]
      | succ k =>
        rcases spellWords_ascii h.head mixed previous rest with hspell | hspell
        all_goals simp [hspell, gap_succ_cons hlower, gap_succ_cons hc, hrest]

end

/-! ## Acronyms -/

/-- A gap of a name lies between two letters of an acronym that is written letter by letter. -/
def Between (a b c : Char) (k : Nat) (name : List Char) : Prop :=
  ∃ front behind, name = front ++ letterByLetter a b c ++ behind ∧
    (k = (letters front).length + 1 ∨ k = (letters front).length + 2)

section

variable {a b c x : Char} {k : Nat} {name rest : List Char}

theorem between_nil : ¬ Between a b c k [] := by
  rintro ⟨front, behind, heq, -⟩
  simp [letterByLetter] at heq

theorem between_cons :
    Between a b c k (x :: rest) ↔
      letterByLetter a b c <+: x :: rest ∧ (k = 1 ∨ k = 2) ∨
        ∃ j, Between a b c j rest ∧ k = j + (letters [x]).length := by
  constructor
  · rintro ⟨front, behind, heq, hk⟩
    -- The acronym stands at the front, or behind the first character, which counts if it is a letter.
    cases front with
    | nil =>
      rw [heq]
      exact Or.inl ⟨List.prefix_append _ _, by simpa using hk⟩
    | cons y front =>
      obtain ⟨rfl, rfl⟩ := List.cons.inj heq
      have hlength : (letters (x :: front)).length = (letters front).length + (letters [x]).length := by
        by_cases hx : x = '_'
        · simp [hx]
        · simp [letters_cons hx]
      rw [hlength] at hk
      rcases hk with hk | hk
      · exact Or.inr ⟨_, ⟨front, behind, rfl, Or.inl rfl⟩, by omega⟩
      · exact Or.inr ⟨_, ⟨front, behind, rfl, Or.inr rfl⟩, by omega⟩
  · rintro (⟨⟨behind, heq⟩, hk⟩ | ⟨j, ⟨front, behind, rfl, hj⟩, rfl⟩)
    · exact ⟨[], behind, heq.symm, by simpa using hk⟩
    · refine ⟨x :: front, behind, rfl, ?_⟩
      by_cases hx : x = '_'
      · simpa [hx] using hj
      · simp only [letters_cons hx, letters_nil, List.length_cons, List.length_nil]
        omega

theorem between_underscore (ha : a ≠ '_') :
    Between a b c k ('_' :: rest) ↔ Between a b c k rest := by
  simp [between_cons, letterByLetter, ha]

theorem between_letter (hx : x ≠ '_') (h : ¬ letterByLetter a b c <+: x :: rest) :
    Between a b c k (x :: rest) ↔ ∃ j, Between a b c j rest ∧ k = j + 1 := by
  simp [between_cons, h, letters_cons hx]

@[simp] theorem not_between_zero : ¬ Between a b c 0 name := by
  rintro ⟨front, behind, -, h | h⟩ <;> omega

theorem letters_joined (hacronym : IsAcronym a b c) (rest : List Char) :
    letters (a :: b :: c :: '_' :: rest) = a :: b :: c :: letters rest := by
  simp [letters_cons (ne_underscore hacronym.first), letters_cons (ne_underscore hacronym.second),
    letters_cons (ne_underscore hacronym.third)]

theorem letters_apart (hacronym : IsAcronym a b c) (rest : List Char) :
    letters (letterByLetter a b c ++ rest) = a :: b :: c :: letters rest := by
  simp [letterByLetter, letters_cons (ne_underscore hacronym.first),
    letters_cons (ne_underscore hacronym.second), letters_cons (ne_underscore hacronym.third)]

/-- The letters of an acronym that is spelled out in a plain name. -/
theorem eq_of_spelledOut (hacronym : IsAcronym a b c) {x y z : Char}
    (h : IsPlain (x :: '_' :: y :: '_' :: z :: '_' :: rest))
    (hspelled : spelledOut a b c (x :: '_' :: y :: '_' :: z :: '_' :: rest) = true) :
    x = a ∧ y = b ∧ z = c := by
  obtain ⟨more, heq⟩ := (spelledOut_iff_of_plain hacronym h).mp hspelled
  simp only [letterByLetter, List.cons_append, List.cons.injEq] at heq
  exact ⟨heq.1.symm, heq.2.2.1.symm, heq.2.2.2.2.1.symm⟩

theorem letters_rejoin (hacronym : IsAcronym a b c) (h : IsPlain name) :
    letters (rejoinAcronym a b c name) = letters name := by
  induction name using rejoin_induction (a := a) (b := b) (c := c) with
  | nil => rw [rejoinAcronym]
  | joined x y z rest hspelled ih =>
    have hrest := ih h.tail.tail.tail.tail.tail.tail
    obtain ⟨rfl, rfl, rfl⟩ := eq_of_spelledOut hacronym h hspelled
    have hapart := letters_apart hacronym rest
    rw [rejoin_spelledOut hspelled, letters_joined hacronym, hrest]
    exact hapart.symm
  | kept x rest hspelled ih =>
    have hrest := ih h.tail
    rw [rejoin_cons hspelled]
    by_cases hx : x = '_'
    · rw [hx, letters_underscore, letters_underscore, hrest]
    · rw [letters_cons hx, letters_cons hx, hrest]

theorem between_apart (hacronym : IsAcronym a b c) (hab : a ≠ b) :
    Between a b c k (a :: '_' :: b :: '_' :: c :: '_' :: rest) ↔
      k = 1 ∨ k = 2 ∨ ∃ j, Between a b c j rest ∧ k = j + 3 := by
  have ha := ne_underscore hacronym.first
  have hb := ne_underscore hacronym.second
  have hc := ne_underscore hacronym.third
  have hac : a ≠ c := by
    rintro rfl
    simpa [sameLetter] using hacronym.ends
  have hnot : ∀ {y : Char} {more : List Char}, a ≠ y → ¬ letterByLetter a b c <+: y :: more := by
    intro y more hy hprefix
    exact hy (List.cons_prefix_cons.mp hprefix).1
  have hfront : letterByLetter a b c <+: a :: '_' :: b :: '_' :: c :: '_' :: rest :=
    List.prefix_append _ rest
  have hbehind : ∀ {j : Nat}, Between a b c j ('_' :: b :: '_' :: c :: '_' :: rest) ↔
      ∃ i, Between a b c i rest ∧ j = i + 2 := by
    simp [between_underscore ha, between_letter hb (hnot hab), between_letter hc (hnot hac)]
  simp only [between_cons (x := a), hfront, hbehind, letters_cons ha, true_and, letters_nil,
    List.length_singleton, or_assoc]
  simp

/-- Two gaps close where an acronym is put together, and the others stay as they are. -/
theorem gap_rejoin (hacronym : IsAcronym a b c) (hab : a ≠ b) (h : IsPlain name) (k : Nat) :
    Between a b c k name ∧ gap k (rejoinAcronym a b c name) = 0 ∨
      ¬ Between a b c k name ∧ gap k (rejoinAcronym a b c name) = gap k name := by
  induction name using rejoin_induction (a := a) (b := b) (c := c) generalizing k with
  | nil =>
    rw [rejoinAcronym]
    exact Or.inr ⟨between_nil, rfl⟩
  | joined x y z rest hspelled ih =>
    obtain ⟨rfl, rfl, rfl⟩ := eq_of_spelledOut hacronym h hspelled
    have ha := ne_underscore hacronym.first
    have hb := ne_underscore hacronym.second
    have hc := ne_underscore hacronym.third
    have hrest := ih h.tail.tail.tail.tail.tail.tail
    rw [rejoin_spelledOut hspelled, between_apart hacronym hab]
    -- Before the first letter, behind each of the three, and further on.
    rcases k with _ | _ | _ | _ | j
    · simp [gap_zero_cons ha]
    · simp [gap_succ_cons ha, gap_zero_cons hb]
    · simp [gap_succ_cons ha, gap_succ_cons hb, gap_zero_cons hc]
    · simpa [gap_succ_cons ha, gap_succ_cons hb, gap_succ_cons hc] using hrest 0
    · simpa [gap_succ_cons ha, gap_succ_cons hb, gap_succ_cons hc] using hrest (j + 1)
  | kept x rest hspelled ih =>
    have hnot : ¬ letterByLetter a b c <+: x :: rest := by
      rw [← spelledOut_iff_of_plain hacronym h, hspelled]
      exact Bool.false_ne_true
    have hrest := ih h.tail
    rw [rejoin_cons hspelled]
    by_cases hx : x = '_'
    · subst hx
      rw [between_underscore (ne_underscore hacronym.first)]
      cases k with
      | zero => simpa using hrest 0
      | succ k => simpa using hrest (k + 1)
    · rw [between_letter hx hnot]
      cases k with
      | zero => simp [gap_zero_cons hx]
      | succ k => simpa [gap_succ_cons hx] using hrest k

end

/-! ## Whole names -/

/-- The gap closes when one acronym after the other is put together in a name. -/
def Closes (k : Nat) (name : List Char) : Prop :=
  Between 's' 'q' 'l' k name ∨ Between 'c' 't' 'e' k (rejoinAcronym 's' 'q' 'l' name)

section

variable {name raw : List Char}

theorem letters_rejoinAcronyms (h : IsPlain name) : letters (rejoinAcronyms name) = letters name := by
  rw [rejoinAcronyms, letters_rejoin isAcronym_cte (h.rejoin isAcronym_sql),
    letters_rejoin isAcronym_sql h]

theorem gap_rejoinAcronyms (h : IsPlain name) (k : Nat) :
    Closes k name ∧ gap k (rejoinAcronyms name) = 0 ∨
      ¬ Closes k name ∧ gap k (rejoinAcronyms name) = gap k name := by
  rw [rejoinAcronyms, Closes]
  rcases gap_rejoin isAcronym_sql (by decide) h k with ⟨hsql, hgap⟩ | ⟨hsql, hgap⟩
  all_goals
    rcases gap_rejoin isAcronym_cte (by decide) (h.rejoin isAcronym_sql) k with
      ⟨hcte, hgap'⟩ | ⟨hcte, hgap'⟩
    all_goals simp [hsql, hcte, hgap, hgap']

theorem letters_normalizeChars (h : IsAscii raw) :
    letters (normalizeChars raw) = (letters raw).map Char.toLower := by
  rw [normalizeChars, letters_rejoinAcronyms (isPlain_lowerWords h).collapse, letters_collapse,
    lowerWords_of_ascii h, letters_spellWords h]

/-- A gap of the name that is not closed is one underscore wide. -/
theorem gap_normalizeChars (h : IsAscii raw) {k : Nat} (hk : 0 < gap k raw) :
    Closes k (collapseUnderscores (lowerWords raw)) ∧ gap k (normalizeChars raw) = 0 ∨
      ¬ Closes k (collapseUnderscores (lowerWords raw)) ∧ gap k (normalizeChars raw) = 1 := by
  have hwider : gap k raw ≤ gap k (lowerWords raw) := by
    rw [lowerWords_of_ascii h]
    exact gap_le_spellWords h _ none k
  have hone : gap k (collapseUnderscores (lowerWords raw)) = 1 := by
    rw [gap_collapse]
    omega
  rw [normalizeChars, ← hone]
  exact gap_rejoinAcronyms (isPlain_lowerWords h).collapse k

end

/-- Normalizing lowercases the letters of a name and keeps their order. Where there was a gap between
them there still is one, of a single underscore, unless an acronym is put together across it. -/
theorem normalize_letters_gaps (raw : String) (hraw : IsAscii raw.toList) :
    letters (normalize raw).toList = (letters raw.toList).map Char.toLower ∧
      ∀ k, 0 < gap k raw.toList →
        Closes k (collapseUnderscores (lowerWords raw.toList)) ∧ gap k (normalize raw).toList = 0 ∨
          ¬ Closes k (collapseUnderscores (lowerWords raw.toList)) ∧
            gap k (normalize raw).toList = 1 := by
  rw [normalize, String.toList_ofList]
  exact ⟨letters_normalizeChars hraw, fun k hk => gap_normalizeChars hraw hk⟩

theorem normalize_letters_gaps_sample :
    IsAscii "My__S_Q_L_Text".toList ∧
      letters (normalize "My__S_Q_L_Text").toList = "mysqltext".toList ∧
      ¬ Closes 2 (collapseUnderscores (lowerWords "My__S_Q_L_Text".toList)) ∧
      Closes 3 (collapseUnderscores (lowerWords "My__S_Q_L_Text".toList)) := by
  have hascii : IsAscii "My__S_Q_L_Text".toList := by decide
  obtain ⟨hletters, hgaps⟩ := normalize_letters_gaps "My__S_Q_L_Text" hascii
  refine ⟨hascii, hletters.trans (by decide), ?_, ?_⟩
  · rcases hgaps 2 (by decide) with ⟨-, hgap⟩ | ⟨hkept, -⟩
    · exact absurd hgap (by decide)
    · exact hkept
  · rcases hgaps 3 (by decide) with ⟨hclosed, -⟩ | ⟨-, hgap⟩
    · exact hclosed
    · exact absurd hgap (by decide)

end BindingGen.Identifier
