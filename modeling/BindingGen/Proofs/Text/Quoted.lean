import BindingGen.Text.Quoted

/-!
# Quoted texts

A quoted text takes a single line, whatever stands in it.
-/

namespace BindingGen.Text

theorem digitChar_ne_newline : ∀ n < 16, n.digitChar ≠ '\n' := by decide

theorem newline_notMem_toDigits (n : Nat) : '\n' ∉ Nat.toDigits 16 n := by
  induction n using Nat.strongRecOn with
  | ind n ih =>
    rw [Nat.toDigits_eq_if (by decide)]
    split
    · rename_i hsmall
      rw [List.mem_singleton]
      exact (digitChar_ne_newline n hsmall).symm
    · have hdigit := digitChar_ne_newline (n % 16) (Nat.mod_lt n (by decide))
      rw [List.mem_append, List.mem_singleton, not_or]
      exact ⟨ih (n / 16) (by omega), hdigit.symm⟩

theorem newline_notMem_codeEscape (c : Char) : '\n' ∉ codeEscape c := by
  simp [codeEscape, newline_notMem_toDigits]

theorem newline_notMem_quoteChar (c : Char) : '\n' ∉ quoteChar c := by
  unfold quoteChar
  split
  · decide
  split
  · decide
  split
  · decide
  split
  · decide
  rename_i hnewline
  split
  · rename_i hescaped
    simp only [List.mem_cons, List.not_mem_nil, or_false, not_or]
    exact ⟨by decide, fun h => hnewline h.symm⟩
  split
  · exact newline_notMem_codeEscape c
  · rw [List.mem_singleton]
    exact fun h => hnewline h.symm

theorem newline_notMem_quoted (text : String) : '\n' ∉ (quoted text).toList := by
  rw [quoted, String.toList_ofList, List.mem_cons, List.mem_append, List.mem_flatMap]
  rintro (h | ⟨c, _, h⟩ | h)
  · exact absurd h (by decide)
  · exact newline_notMem_quoteChar c h
  · exact absurd h (by decide)

end BindingGen.Text
