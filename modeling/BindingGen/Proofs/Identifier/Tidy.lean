import BindingGen.Identifier
import BindingGen.Proofs.Text.Case
import Mathlib.Data.List.Chain

/-!
# Single underscores and whole acronyms

What the last passes over a name leave: no two underscores in a row, and no acronym written letter by
letter. Neither pass brings back what another one removed, so a name that has been through all of
them stays as it is.
-/

namespace BindingGen.Identifier

open Text

/-! ## Underscores -/

def Single (name : List Char) : Prop := name.IsChain fun a b => ¬ (a = '_' ∧ b = '_')

theorem collapse_dropped (rest : List Char) :
    collapseUnderscores ('_' :: '_' :: rest) = collapseUnderscores ('_' :: rest) := by
  rw [collapseUnderscores]
  exact if_pos rfl

theorem collapse_kept {c : Char} {rest : List Char} (h : ¬ (c = '_' ∧ rest.head? = some '_')) :
    collapseUnderscores (c :: rest) = c :: collapseUnderscores rest := by
  rw [collapseUnderscores]
  exact if_neg (by simpa using h)

/-- A name is read from the front: an underscore before another one, or else one character. -/
theorem collapse_induction {P : List Char → Prop} (nil : P [])
    (dropped : ∀ rest, P ('_' :: rest) → P ('_' :: '_' :: rest))
    (kept : ∀ c rest, ¬ (c = '_' ∧ rest.head? = some '_') → P rest → P (c :: rest))
    (name : List Char) : P name := by
  induction name with
  | nil => exact nil
  | cons c rest ih =>
    by_cases h : c = '_' ∧ rest.head? = some '_'
    · obtain ⟨rfl, hnext⟩ := h
      obtain ⟨more, rfl⟩ := List.head?_eq_some_iff.mp hnext
      exact dropped more ih
    · exact kept c rest h ih

theorem head?_collapse (name : List Char) : (collapseUnderscores name).head? = name.head? := by
  induction name using collapse_induction with
  | nil => rfl
  | dropped rest ih =>
    rw [collapse_dropped, ih]
    rfl
  | kept c rest h =>
    rw [collapse_kept h]
    rfl

theorem single_collapse (name : List Char) : Single (collapseUnderscores name) := by
  induction name using collapse_induction with
  | nil => exact List.isChain_nil
  | dropped rest ih => rwa [collapse_dropped]
  | kept c rest h ih =>
    rw [collapse_kept h]
    refine List.isChain_cons.mpr ⟨fun d hd => ?_, ih⟩
    rw [head?_collapse] at hd
    rintro ⟨rfl, rfl⟩
    exact h ⟨rfl, hd⟩

theorem collapse_of_single {name : List Char} (h : Single name) : collapseUnderscores name = name := by
  induction name with
  | nil => rfl
  | cons c rest ih =>
    obtain ⟨hhead, hrest⟩ := List.isChain_cons.mp h
    rw [collapse_kept fun ⟨hc, hnext⟩ => hhead '_' hnext ⟨hc, rfl⟩, ih hrest]

theorem mem_of_mem_collapse {c : Char} {name : List Char} (h : c ∈ collapseUnderscores name) :
    c ∈ name := by
  induction name using collapse_induction with
  | nil => exact h
  | dropped rest ih =>
    rw [collapse_dropped] at h
    exact List.mem_cons_of_mem '_' (ih h)
  | kept d rest hkept ih =>
    rw [collapse_kept hkept] at h
    rcases List.mem_cons.mp h with rfl | h
    · exact List.mem_cons_self
    · exact List.mem_cons_of_mem d (ih h)

/-! ## Acronyms -/

/-- Whether an acronym, written letter by letter, stands at the front of a name. -/
def spelledOut (a b c : Char) : List Char → Bool
  | x :: '_' :: y :: '_' :: z :: '_' :: _ =>
    sameLetter a x && sameLetter b y && sameLetter c z
  | _ => false

/-- Nowhere in a name is an acronym written letter by letter. -/
def Whole (a b c : Char) (name : List Char) : Prop :=
  ∀ rest, rest <:+ name → spelledOut a b c rest = false

section

variable {a b c : Char}

theorem rejoin_spelledOut {x y z : Char} {rest : List Char}
    (h : spelledOut a b c (x :: '_' :: y :: '_' :: z :: '_' :: rest) = true) :
    rejoinAcronym a b c (x :: '_' :: y :: '_' :: z :: '_' :: rest) =
      a :: b :: c :: '_' :: rejoinAcronym a b c rest := by
  rw [rejoinAcronym]
  exact if_pos h

theorem rejoin_cons {x : Char} {rest : List Char} (h : spelledOut a b c (x :: rest) = false) :
    rejoinAcronym a b c (x :: rest) = x :: rejoinAcronym a b c rest := by
  rw [rejoinAcronym.eq_def]
  split
  · rename_i heq
    cases heq
    exact if_neg (Bool.not_eq_true _ ▸ h)
  · rename_i heq
    cases heq
    rfl
  · rename_i heq
    cases heq

theorem exists_of_spelledOut {name : List Char} (h : spelledOut a b c name = true) :
    ∃ x y z rest, name = x :: '_' :: y :: '_' :: z :: '_' :: rest ∧ sameLetter a x = true ∧
      sameLetter b y = true ∧ sameLetter c z = true := by
  unfold spelledOut at h
  split at h
  · simp only [Bool.and_eq_true] at h
    exact ⟨_, _, _, _, rfl, h.1.1, h.1.2, h.2⟩
  · cases h

/-- A name is read from the front: an acronym written letter by letter, or else one character. -/
theorem rejoin_induction {P : List Char → Prop} (nil : P [])
    (joined : ∀ x y z rest, spelledOut a b c (x :: '_' :: y :: '_' :: z :: '_' :: rest) = true →
      P rest → P (x :: '_' :: y :: '_' :: z :: '_' :: rest))
    (kept : ∀ x rest, spelledOut a b c (x :: rest) = false → P rest → P (x :: rest)) :
    ∀ name, P name
  | [] => nil
  | x :: rest => by
    cases h : spelledOut a b c (x :: rest) with
    | false => exact kept x rest h (rejoin_induction nil joined kept rest)
    | true =>
      obtain ⟨_, y, z, more, heq, _⟩ := exists_of_spelledOut h
      obtain ⟨rfl, rfl⟩ := List.cons.inj heq
      exact joined x y z more h (rejoin_induction nil joined kept more)
termination_by name => name.length

end

theorem mem_of_mem_rejoin {a b c d : Char} {name : List Char} (h : d ∈ rejoinAcronym a b c name) :
    d ∈ name ∨ d = a ∨ d = b ∨ d = c := by
  induction name using rejoin_induction (a := a) (b := b) (c := c) with
  | nil => simp [rejoinAcronym] at h
  | joined x y z rest hspelled ih =>
    rw [rejoin_spelledOut hspelled] at h
    simp only [List.mem_cons] at h ⊢
    grind
  | kept x rest hspelled ih =>
    rw [rejoin_cons hspelled, List.mem_cons] at h
    rcases h with rfl | h
    · exact Or.inl List.mem_cons_self
    · exact (ih h).imp_left (List.mem_cons_of_mem x)

/-- What the letters of an acronym have to be for it to be put together only once. -/
structure IsAcronym (a b c : Char) : Prop where
  first : asciiSmall.contains a.toNat = true
  second : asciiSmall.contains b.toNat = true
  third : asciiSmall.contains c.toNat = true
  ends : sameLetter a c = false

theorem isAcronym_sql : IsAcronym 's' 'q' 'l' := by constructor <;> decide

theorem isAcronym_cte : IsAcronym 'c' 't' 'e' := by constructor <;> decide

section

variable {a b c : Char}

theorem ne_underscore {letter : Char} (h : asciiSmall.contains letter.toNat = true) :
    letter ≠ '_' := by
  rintro rfl
  revert h
  decide

theorem not_sameLetter_underscore {letter : Char} (h : asciiSmall.contains letter.toNat = true) :
    sameLetter letter '_' = false := by
  rw [← Bool.not_eq_true]
  intro hsame
  have hlower := isLowercase_of_sameLetter h hsame (by decide)
  revert hlower
  decide

theorem rejoin_eq_underscore (h : IsAcronym a b c) {name more : List Char}
    (hname : rejoinAcronym a b c name = '_' :: more) :
    ∃ rest, name = '_' :: rest ∧ rejoinAcronym a b c rest = more := by
  cases name using rejoin_induction (a := a) (b := b) (c := c) with
  | nil => simp [rejoinAcronym] at hname
  | joined x y z rest hspelled =>
    rw [rejoin_spelledOut hspelled] at hname
    exact absurd (List.cons.inj hname).1 (ne_underscore h.first)
  | kept x rest hspelled =>
    rw [rejoin_cons hspelled] at hname
    obtain ⟨rfl, hrest⟩ := List.cons.inj hname
    exact ⟨rest, rfl, hrest⟩

/-- A letter with an underscore behind it was there before: a joined acronym has none behind its
first letter. -/
theorem rejoin_eq_letter (h : IsAcronym a b c) {name more : List Char} {x : Char}
    (hname : rejoinAcronym a b c name = x :: '_' :: more) :
    ∃ rest, name = x :: '_' :: rest ∧ rejoinAcronym a b c rest = more := by
  cases name using rejoin_induction (a := a) (b := b) (c := c) with
  | nil => simp [rejoinAcronym] at hname
  | joined x y z rest hspelled =>
    rw [rejoin_spelledOut hspelled] at hname
    exact absurd (List.cons.inj (List.cons.inj hname).2).1 (ne_underscore h.second)
  | kept x rest hspelled =>
    rw [rejoin_cons hspelled] at hname
    obtain ⟨rfl, hrest⟩ := List.cons.inj hname
    obtain ⟨others, rfl, hmore⟩ := rejoin_eq_underscore h hrest
    exact ⟨others, rfl, hmore⟩

theorem single_rejoin (h : IsAcronym a b c) {name : List Char} (hname : Single name) :
    Single (rejoinAcronym a b c name) := by
  induction name using rejoin_induction (a := a) (b := b) (c := c) with
  | nil => exact hname
  | joined x y z rest hspelled ih =>
    simp only [Single, List.isChain_cons_cons] at hname
    obtain ⟨hbehind, hrest⟩ := List.isChain_cons.mp hname.2.2.2.2.2
    rw [rejoin_spelledOut hspelled]
    refine List.isChain_cons_cons.mpr ⟨fun hab => ne_underscore h.first hab.1,
      List.isChain_cons_cons.mpr ⟨fun hbc => ne_underscore h.second hbc.1,
        List.isChain_cons_cons.mpr ⟨fun hc => ne_underscore h.third hc.1,
          List.isChain_cons.mpr ⟨?_, ih hrest⟩⟩⟩⟩
    -- An underscore in front of the rest was there before, and then there were two.
    rintro d hd ⟨_, rfl⟩
    obtain ⟨more, hmore⟩ := List.head?_eq_some_iff.mp hd
    obtain ⟨others, rfl, _⟩ := rejoin_eq_underscore h hmore
    exact hbehind '_' rfl ⟨rfl, rfl⟩
  | kept x rest hspelled ih =>
    obtain ⟨hbehind, hrest⟩ := List.isChain_cons.mp hname
    rw [rejoin_cons hspelled]
    refine List.isChain_cons.mpr ⟨?_, ih hrest⟩
    rintro d hd ⟨rfl, rfl⟩
    obtain ⟨more, hmore⟩ := List.head?_eq_some_iff.mp hd
    obtain ⟨others, rfl, _⟩ := rejoin_eq_underscore h hmore
    exact hbehind '_' rfl ⟨rfl, rfl⟩

theorem whole_cons_iff {x : Char} {rest : List Char} :
    Whole a b c (x :: rest) ↔ spelledOut a b c (x :: rest) = false ∧ Whole a b c rest := by
  simp only [Whole, List.suffix_cons_iff]
  constructor
  · intro h
    exact ⟨h _ (Or.inl rfl), fun suffix hsuffix => h suffix (Or.inr hsuffix)⟩
  · rintro ⟨hhead, hrest⟩ suffix (rfl | hsuffix)
    · exact hhead
    · exact hrest suffix hsuffix

theorem whole_nil : Whole a b c [] := by
  intro rest hrest
  rw [List.suffix_nil.mp hrest]
  rfl

theorem rejoin_of_whole {name : List Char} (h : Whole a b c name) :
    rejoinAcronym a b c name = name := by
  induction name with
  | nil => rw [rejoinAcronym]
  | cons x rest ih =>
    obtain ⟨hhead, hrest⟩ := whole_cons_iff.mp h
    rw [rejoin_cons hhead, ih hrest]

variable {a' b' c' : Char}

/-- Putting one acronym together does not spell out another. -/
theorem spelledOut_of_rejoin (h : IsAcronym a b c) {name : List Char}
    (hname : spelledOut a' b' c' (rejoinAcronym a b c name) = true) :
    spelledOut a' b' c' name = true := by
  obtain ⟨x, y, z, rest, heq, hx, hy, hz⟩ := exists_of_spelledOut hname
  obtain ⟨rest₁, rfl, h₁⟩ := rejoin_eq_letter h heq
  obtain ⟨rest₂, rfl, h₂⟩ := rejoin_eq_letter h h₁
  obtain ⟨rest₃, rfl, _⟩ := rejoin_eq_letter h h₂
  simp [spelledOut, hx, hy, hz]

theorem not_spelledOut_of_ne {x y : Char} {rest : List Char} (hy : y ≠ '_') :
    spelledOut a b c (x :: y :: rest) = false := by
  rw [← Bool.not_eq_true]
  intro h
  obtain ⟨_, _, _, _, heq, _⟩ := exists_of_spelledOut h
  exact hy (List.cons.inj (List.cons.inj heq).2).1

theorem not_spelledOut_of_first {x : Char} {rest : List Char} (hx : sameLetter a x = false) :
    spelledOut a b c (x :: rest) = false := by
  rw [← Bool.not_eq_true]
  intro h
  obtain ⟨_, _, _, _, heq, hsame, _⟩ := exists_of_spelledOut h
  rw [← (List.cons.inj heq).1, hx] at hsame
  cases hsame

/-- A joined acronym does not help to spell out another. -/
theorem whole_joined (h : IsAcronym a b c) (h' : IsAcronym a' b' c') (hends : sameLetter a' c = false)
    {rest : List Char} (hrest : Whole a' b' c' rest) :
    Whole a' b' c' (a :: b :: c :: '_' :: rest) :=
  whole_cons_iff.mpr ⟨not_spelledOut_of_ne (ne_underscore h.second),
    whole_cons_iff.mpr ⟨not_spelledOut_of_ne (ne_underscore h.third),
      whole_cons_iff.mpr ⟨not_spelledOut_of_first hends,
        whole_cons_iff.mpr ⟨not_spelledOut_of_first (not_sameLetter_underscore h'.first), hrest⟩⟩⟩⟩

theorem whole_rejoin (h : IsAcronym a b c) (name : List Char) :
    Whole a b c (rejoinAcronym a b c name) := by
  induction name using rejoin_induction (a := a) (b := b) (c := c) with
  | nil =>
    rw [rejoinAcronym]
    exact whole_nil
  | joined x y z rest hspelled ih =>
    rw [rejoin_spelledOut hspelled]
    exact whole_joined h h h.ends ih
  | kept x rest hspelled ih =>
    have hkept := mt (spelledOut_of_rejoin h) (Bool.not_eq_true _ ▸ hspelled)
    rw [rejoin_cons hspelled, Bool.not_eq_true] at hkept
    rw [rejoin_cons hspelled]
    exact whole_cons_iff.mpr ⟨hkept, ih⟩

theorem Whole.rejoin (h : IsAcronym a b c) (h' : IsAcronym a' b' c')
    (hends : sameLetter a' c = false) {name : List Char} (hname : Whole a' b' c' name) :
    Whole a' b' c' (rejoinAcronym a b c name) := by
  induction name using rejoin_induction (a := a) (b := b) (c := c) with
  | nil =>
    rw [rejoinAcronym]
    exact whole_nil
  | joined x y z rest hspelled ih =>
    simp only [whole_cons_iff] at hname
    rw [rejoin_spelledOut hspelled]
    exact whole_joined h h' hends (ih hname.2.2.2.2.2.2)
  | kept x rest hspelled ih =>
    obtain ⟨hhead, hrest⟩ := whole_cons_iff.mp hname
    have hkept := mt (spelledOut_of_rejoin h) (Bool.not_eq_true _ ▸ hhead)
    rw [rejoin_cons hspelled, Bool.not_eq_true] at hkept
    rw [rejoin_cons hspelled]
    exact whole_cons_iff.mpr ⟨hkept, ih hrest⟩

end

/-! ## Both passes -/

/-- What the last passes leave of a name. -/
structure IsTidy (name : List Char) : Prop where
  single : Single name
  sql : Whole 's' 'q' 'l' name
  cte : Whole 'c' 't' 'e' name

def tidy (name : List Char) : List Char := rejoinAcronyms (collapseUnderscores name)

theorem isTidy_tidy (name : List Char) : IsTidy (tidy name) where
  single := single_rejoin isAcronym_cte (single_rejoin isAcronym_sql (single_collapse name))
  sql := (whole_rejoin isAcronym_sql _).rejoin isAcronym_cte isAcronym_sql (by decide)
  cte := whole_rejoin isAcronym_cte _

theorem IsTidy.tidy_eq {name : List Char} (h : IsTidy name) : tidy name = name := by
  rw [tidy, collapse_of_single h.single, rejoinAcronyms, rejoin_of_whole h.sql,
    rejoin_of_whole h.cte]

end BindingGen.Identifier
