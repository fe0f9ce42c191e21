import BindingGen.Proofs.Identifier.Tidy

/-!
# The characters of a name

No pass over a name makes up characters of its own. A character that is there in the end was
lowercased, was put between two words, or is a letter of an acronym.
-/

namespace BindingGen.Identifier

open Text

variable {d : Char} {name raw : List Char}

theorem mem_of_mem_splitWords {previous : Option Char} (h : d ∈ splitWords previous raw) :
    d = '_' ∨ ∃ c ∈ raw, d ∈ toLower c := by
  induction raw generalizing previous with
  | nil => simp [splitWords] at h
  | cons c rest ih =>
    rw [splitWords, List.mem_append] at h
    rcases h with h | h
    · have hc : d = '_' ∨ d ∈ toLower c := by
        split at h
        · exact List.mem_cons.mp h
        · exact Or.inr h
      exact hc.imp_right fun hc => ⟨c, List.mem_cons_self, hc⟩
    · refine (ih h).imp_right ?_
      rintro ⟨c', hc', hd⟩
      exact ⟨c', List.mem_cons_of_mem c hc', hd⟩

/-- Only a sigma has a form that the single character is not lowercased to. -/
theorem mem_of_mem_lowercaseAfter {before : List Char} (h : d ∈ lowercaseAfter before raw) :
    d = 'ς' ∧ 'Σ' ∈ raw ∨ ∃ c ∈ raw, d ∈ toLower c := by
  induction raw generalizing before with
  | nil => simp [lowercaseAfter] at h
  | cons c rest ih =>
    rw [lowercaseAfter, List.mem_append] at h
    rcases h with h | h
    · split at h
      · rename_i hsigma
        subst hsigma
        split at h
        · exact Or.inl ⟨List.mem_singleton.mp h, List.mem_cons_self⟩
        · rw [List.mem_singleton.mp h]
          exact Or.inr ⟨'Σ', List.mem_cons_self, by decide⟩
      · exact Or.inr ⟨c, List.mem_cons_self, h⟩
    · rcases ih h with ⟨hd, hsigma⟩ | ⟨c', hc', hd⟩
      · exact Or.inl ⟨hd, List.mem_cons_of_mem c hsigma⟩
      · exact Or.inr ⟨c', List.mem_cons_of_mem c hc', hd⟩

theorem mem_of_mem_lowerWords (h : d ∈ lowerWords raw) :
    d = '_' ∨ d = 'ς' ∧ 'Σ' ∈ raw ∨ ∃ c ∈ raw, d ∈ toLower c := by
  unfold lowerWords at h
  split at h
  · exact (mem_of_mem_splitWords h).imp_right Or.inr
  · exact Or.inr (mem_of_mem_lowercaseAfter h)

theorem mem_of_mem_tidy (h : d ∈ tidy name) :
    d ∈ name ∨ asciiSmall.contains d.toNat = true := by
  rcases mem_of_mem_rejoin h with h | rfl | rfl | rfl
  · rcases mem_of_mem_rejoin h with h | rfl | rfl | rfl
    · exact Or.inl (mem_of_mem_collapse h)
    all_goals exact Or.inr (by decide)
  all_goals exact Or.inr (by decide)

end BindingGen.Identifier
