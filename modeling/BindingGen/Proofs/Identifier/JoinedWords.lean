import BindingGen.Proofs.Identifier.Tidy
import BindingGen.Proofs.Text.Trim

/-!
# Joined words

A name whose words are joined by single underscores is tidy already. Only words of one letter could
spell out an acronym, and it takes two of them in a row.
-/

namespace BindingGen.Identifier

/-- Words that are not empty and hold no underscore. -/
def AreWords (words : List (List Char)) : Prop := ∀ word ∈ words, word ≠ [] ∧ '_' ∉ word

/-- Of two words in a row one is longer than a letter. -/
def LettersApart (words : List (List Char)) : Prop :=
  words.IsChain fun v w => ¬ (v.length = 1 ∧ w.length = 1)

variable {word rest : List Char} {words : List (List Char)}

theorem AreWords.head (h : AreWords (word :: words)) : word ≠ [] ∧ '_' ∉ word :=
  h word List.mem_cons_self

theorem AreWords.tail (h : AreWords (word :: words)) : AreWords words :=
  fun w hw => h w (List.mem_cons_of_mem word hw)

theorem LettersApart.tail (h : LettersApart (word :: words)) : LettersApart words :=
  (List.isChain_cons.mp h).2

/-! ## Underscores -/

theorem single_word (hword : '_' ∉ word) (hrest : Single rest) : Single (word ++ rest) := by
  induction word with
  | nil => exact hrest
  | cons x tail ih =>
    refine List.isChain_cons.mpr ⟨?_, ih (List.not_mem_of_not_mem_cons hword)⟩
    rintro d - ⟨rfl, -⟩
    exact hword List.mem_cons_self

theorem single_joined (h : AreWords words) : Single (words.flatMap ('_' :: ·)) := by
  induction words with
  | nil => exact List.isChain_nil
  | cons word words ih =>
    obtain ⟨hne, hword⟩ := h.head
    refine List.isChain_cons.mpr ⟨?_, single_word hword (ih h.tail)⟩
    rintro d hd ⟨-, rfl⟩
    cases word with
    | nil => exact hne rfl
    | cons x tail =>
      obtain rfl := Option.some.inj hd
      exact hword List.mem_cons_self

/-! ## Acronyms -/

section

variable {a b c x y : Char} {behind more : List Char}

theorem eq_of_append_eq (hne : word ≠ []) (hword : '_' ∉ word)
    (h : word ++ behind = y :: '_' :: more) : word = [y] ∧ behind = '_' :: more := by
  match word with
  | [] => exact absurd rfl hne
  | [z] =>
    obtain ⟨rfl, rfl⟩ := List.cons.inj h
    exact ⟨rfl, rfl⟩
  | z :: d :: word =>
    obtain ⟨rfl, -⟩ := List.cons.inj (List.cons.inj h).2
    simp at hword

/-- Behind a letter, an acronym would take two words of one letter each. -/
theorem not_spelledOut_joined (hwords : AreWords words) (hletters : LettersApart words) :
    spelledOut a b c (x :: words.flatMap ('_' :: ·)) = false := by
  rw [← Bool.not_eq_true]
  intro hspelled
  obtain ⟨x', y, z, rest, heq, -⟩ := exists_of_spelledOut hspelled
  have htail := (List.cons.inj heq).2
  cases words with
  | nil => cases htail
  | cons v words =>
    obtain ⟨hv, hunderscore⟩ := hwords v List.mem_cons_self
    obtain ⟨rfl, hnext⟩ := eq_of_append_eq hv hunderscore (List.cons.inj htail).2
    cases words with
    | nil => cases hnext
    | cons w words =>
      obtain ⟨hw, hunderscore⟩ := hwords w (by simp)
      obtain ⟨rfl, -⟩ := eq_of_append_eq hw hunderscore (List.cons.inj hnext).2
      exact (List.isChain_cons_cons.mp hletters).1 ⟨rfl, rfl⟩

theorem whole_word (hword : '_' ∉ word) (hfirst : ∀ x, spelledOut a b c (x :: rest) = false)
    (hrest : Whole a b c rest) : Whole a b c (word ++ rest) := by
  induction word with
  | nil => exact hrest
  | cons x tail ih =>
    have htail := List.not_mem_of_not_mem_cons hword
    refine whole_cons_iff.mpr ⟨?_, ih htail⟩
    cases tail with
    | nil => exact hfirst x
    | cons y tail => exact not_spelledOut_of_ne (List.ne_of_not_mem_cons htail).symm

theorem whole_joined_of_apart (hacronym : IsAcronym a b c) (hwords : AreWords words)
    (hletters : LettersApart words) : Whole a b c (words.flatMap ('_' :: ·)) := by
  induction words with
  | nil => exact whole_nil
  | cons word words ih =>
    have hrest := ih hwords.tail hletters.tail
    refine whole_cons_iff.mpr ⟨not_spelledOut_of_first (not_sameLetter_underscore hacronym.first), ?_⟩
    exact whole_word hwords.head.2 (fun x => not_spelledOut_joined hwords.tail hletters.tail) hrest

end

/-- Joined words are tidy unless single letters are joined. -/
theorem isTidy_intercalate (hwords : AreWords words) (hletters : LettersApart words) :
    IsTidy (['_'].intercalate words) := by
  cases words with
  | nil => exact ⟨List.isChain_nil, whole_nil, whole_nil⟩
  | cons word words =>
    have hfirst : ∀ {a b c : Char} x, spelledOut a b c (x :: words.flatMap ('_' :: ·)) = false :=
      fun x => not_spelledOut_joined hwords.tail hletters.tail
    rw [Text.intercalate_cons]
    exact ⟨single_word hwords.head.2 (single_joined hwords.tail),
      whole_word hwords.head.2 hfirst
        (whole_joined_of_apart isAcronym_sql hwords.tail hletters.tail),
      whole_word hwords.head.2 hfirst
        (whole_joined_of_apart isAcronym_cte hwords.tail hletters.tail)⟩

end BindingGen.Identifier
