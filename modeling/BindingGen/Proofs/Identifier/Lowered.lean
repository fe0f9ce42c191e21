import BindingGen.Proofs.Identifier.Tidy

/-!
# Lowercased names

A lowercased name only has capitals that have no lowercase form. The last passes over a name leave it
lowercased, and take away none of its capitals, nor do they change what stands around them.
-/

namespace BindingGen.Identifier

open Text

/-! ## Counting capitals -/

/-- How many capitals of a name stand between neighbours as described, given the character before
the name. -/
def countCapitals (described : Option Char → Char → Option Char → Bool) (previous : Option Char) :
    List Char → Nat
  | [] => 0
  | c :: rest =>
    (isUppercase c && described previous c rest.head?).toNat +
      countCapitals described (some c) rest

/-- How many words start in a name. -/
def wordStarts : Option Char → List Char → Nat := countCapitals startsWord

/-- How many capitals directly follow an underscore. -/
def setApart : Option Char → List Char → Nat :=
  countCapitals fun previous _ _ => previous == some '_'

/-- A description that looks at the next character's case only. -/
def LooksAtCase (described : Option Char → Char → Option Char → Bool) : Prop :=
  ∀ previous c next next', next.any isLowercase = next'.any isLowercase →
    described previous c next = described previous c next'

theorem looksAtCase_startsWord : LooksAtCase startsWord := by
  intro previous c next next' h
  simp [startsWord, h]

section

variable {described : Option Char → Char → Option Char → Bool}

theorem countCapitals_cons {previous : Option Char} {c : Char} {rest : List Char}
    (h : isUppercase c = false) :
    countCapitals described previous (c :: rest) = countCapitals described (some c) rest := by
  rw [countCapitals, h, Bool.false_and, Bool.toNat_false, Nat.zero_add]

theorem countCapitals_of_no_capitals {previous : Option Char} {name : List Char}
    (h : ∀ c ∈ name, isUppercase c = false) : countCapitals described previous name = 0 := by
  induction name generalizing previous with
  | nil => rfl
  | cons c rest ih =>
    rw [countCapitals_cons (h c List.mem_cons_self),
      ih fun d hd => h d (List.mem_cons_of_mem c hd)]

/-- An underscore that is followed by another has no part in the count. -/
theorem countCapitals_collapse (previous : Option Char) (name : List Char) :
    countCapitals described previous (collapseUnderscores name) =
      countCapitals described previous name := by
  induction name using collapse_induction generalizing previous with
  | nil => rfl
  | dropped rest ih =>
    rw [collapse_dropped, ih, countCapitals_cons (by decide), countCapitals_cons (by decide),
      countCapitals_cons (by decide)]
  | kept c rest h ih => rw [collapse_kept h, countCapitals, countCapitals, ih, head?_collapse]

end

/-! ## Lowercased names -/

/-- Lowercasing changes nothing in a name. -/
def Lowered (name : List Char) : Prop := ∀ c ∈ name, toLower c = [c]

theorem Lowered.tail {c : Char} {rest : List Char} (h : Lowered (c :: rest)) : Lowered rest :=
  fun x hx => h x (List.mem_cons_of_mem c hx)

theorem lowered_collapse {name : List Char} (h : Lowered name) : Lowered (collapseUnderscores name) :=
  fun c hc => h c (mem_of_mem_collapse hc)

theorem any_isLowercase_collapse (name : List Char) :
    (collapseUnderscores name).any isLowercase = name.any isLowercase := by
  induction name using collapse_induction with
  | nil => rfl
  | dropped rest ih =>
    rw [collapse_dropped, ih]
    rfl
  | kept c rest h ih => rw [collapse_kept h, List.any_cons, List.any_cons, ih]

section

variable {a b c : Char}

theorem isLowercase_of_small {letter : Char} (h : asciiSmall.contains letter.toNat = true) :
    isLowercase letter = true :=
  of_ascii (P := fun a => asciiSmall.contains a.toNat = true → isLowercase a = true) (by decide)
    (ascii_of_small h) h

theorem IsAcronym.isLowercase (h : IsAcronym a b c) :
    isLowercase a = true ∧ isLowercase b = true ∧ isLowercase c = true :=
  ⟨isLowercase_of_small h.first, isLowercase_of_small h.second, isLowercase_of_small h.third⟩

theorem isLowercase_of_spelledOut (h : IsAcronym a b c) {x y z : Char} {rest : List Char}
    (hname : Lowered (x :: '_' :: y :: '_' :: z :: '_' :: rest))
    (hspelled : spelledOut a b c (x :: '_' :: y :: '_' :: z :: '_' :: rest) = true) :
    isLowercase x = true ∧ isLowercase y = true ∧ isLowercase z = true := by
  simp only [spelledOut, Bool.and_eq_true] at hspelled
  exact ⟨isLowercase_of_sameLetter h.first hspelled.1.1 (hname x (by simp)),
    isLowercase_of_sameLetter h.second hspelled.1.2 (hname y (by simp)),
    isLowercase_of_sameLetter h.third hspelled.2 (hname z (by simp))⟩

theorem lowered_rejoin (h : IsAcronym a b c) {name : List Char} (hname : Lowered name) :
    Lowered (rejoinAcronym a b c name) := by
  obtain ⟨ha, hb, hc⟩ := h.isLowercase
  intro d hd
  rcases mem_of_mem_rejoin hd with hd | rfl | rfl | rfl
  · exact hname d hd
  · exact toLower_of_isLowercase ha
  · exact toLower_of_isLowercase hb
  · exact toLower_of_isLowercase hc

theorem head?_rejoin (h : IsAcronym a b c) {name : List Char} (hname : Lowered name) :
    (rejoinAcronym a b c name).head?.any isLowercase = name.head?.any isLowercase := by
  cases name using rejoin_induction (a := a) (b := b) (c := c) with
  | nil => rw [rejoinAcronym]
  | joined x y z rest hspelled =>
    rw [rejoin_spelledOut hspelled]
    simp [h.isLowercase, isLowercase_of_spelledOut h hname hspelled]
  | kept x rest hspelled =>
    rw [rejoin_cons hspelled]
    rfl

theorem any_isLowercase_rejoin (h : IsAcronym a b c) {name : List Char} (hname : Lowered name) :
    (rejoinAcronym a b c name).any isLowercase = name.any isLowercase := by
  induction name using rejoin_induction (a := a) (b := b) (c := c) with
  | nil => rw [rejoinAcronym]
  | joined x y z rest hspelled =>
    rw [rejoin_spelledOut hspelled]
    simp [h.isLowercase, isLowercase_of_spelledOut h hname hspelled]
  | kept x rest hspelled ih =>
    rw [rejoin_cons hspelled, List.any_cons, List.any_cons, ih hname.tail]

/-- An acronym is written in small letters, apart or together, so it holds no capitals to count. -/
theorem countCapitals_rejoin (h : IsAcronym a b c)
    {described : Option Char → Char → Option Char → Bool} (hcase : LooksAtCase described)
    {name : List Char} (hname : Lowered name) (previous : Option Char) :
    countCapitals described previous (rejoinAcronym a b c name) =
      countCapitals described previous name := by
  induction name using rejoin_induction (a := a) (b := b) (c := c) generalizing previous with
  | nil => rw [rejoinAcronym]
  | joined x y z rest hspelled ih =>
    obtain ⟨ha, hb, hc⟩ := h.isLowercase
    obtain ⟨hx, hy, hz⟩ := isLowercase_of_spelledOut h hname hspelled
    rw [rejoin_spelledOut hspelled, countCapitals_cons (isUppercase_of_isLowercase ha),
      countCapitals_cons (isUppercase_of_isLowercase hb),
      countCapitals_cons (isUppercase_of_isLowercase hc), countCapitals_cons (by decide),
      ih hname.tail.tail.tail.tail.tail.tail,
      countCapitals_cons (isUppercase_of_isLowercase hx), countCapitals_cons (by decide),
      countCapitals_cons (isUppercase_of_isLowercase hy), countCapitals_cons (by decide),
      countCapitals_cons (isUppercase_of_isLowercase hz), countCapitals_cons (by decide)]
  | kept x rest hspelled ih =>
    rw [rejoin_cons hspelled, countCapitals, countCapitals, ih hname.tail,
      hcase _ _ _ _ (head?_rejoin h hname.tail)]

end

section

variable {name : List Char}

theorem lowered_tidy (h : Lowered name) : Lowered (tidy name) :=
  lowered_rejoin isAcronym_cte (lowered_rejoin isAcronym_sql (lowered_collapse h))

theorem any_isLowercase_tidy (h : Lowered name) :
    (tidy name).any isLowercase = name.any isLowercase := by
  rw [tidy, rejoinAcronyms,
    any_isLowercase_rejoin isAcronym_cte (lowered_rejoin isAcronym_sql (lowered_collapse h)),
    any_isLowercase_rejoin isAcronym_sql (lowered_collapse h), any_isLowercase_collapse]

theorem countCapitals_tidy {described : Option Char → Char → Option Char → Bool}
    (hcase : LooksAtCase described) (h : Lowered name) (previous : Option Char) :
    countCapitals described previous (tidy name) = countCapitals described previous name := by
  rw [tidy, rejoinAcronyms, countCapitals_rejoin isAcronym_cte hcase
      (lowered_rejoin isAcronym_sql (lowered_collapse h)),
    countCapitals_rejoin isAcronym_sql hcase (lowered_collapse h), countCapitals_collapse]

end

end BindingGen.Identifier
