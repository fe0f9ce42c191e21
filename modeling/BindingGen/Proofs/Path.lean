import BindingGen.Path

/-!
# Files in a directory

The path of a file in a directory ends in the name of the file, and what stands in front of it does
not depend on the name.
-/

namespace BindingGen.Path

/-! ## Segments -/

theorem splitSeparators_ne_nil (text : List Char) : splitSeparators text ≠ [] := by
  cases text with
  | nil => simp [splitSeparators]
  | cons c rest =>
    rw [splitSeparators]
    split
    · simp
    · split <;> simp

theorem splitSeparators_append (before behind : List Char) :
    splitSeparators (before ++ '/' :: behind) =
      splitSeparators before ++ splitSeparators behind := by
  induction before with
  | nil => simp [splitSeparators]
  | cons c before ih =>
    rw [List.cons_append, splitSeparators, splitSeparators, ih]
    obtain ⟨first, rest, hsplit⟩ := List.exists_cons_of_ne_nil (splitSeparators_ne_nil before)
    by_cases hc : c = '/' <;> simp [hc, hsplit]

theorem splitSeparators_of_notMem {segment : List Char} (h : '/' ∉ segment) :
    splitSeparators segment = [segment] := by
  induction segment with
  | nil => rfl
  | cons c segment ih =>
    have hc : c ≠ '/' := fun hc => h (by simp [hc])
    rw [splitSeparators, if_neg hc, ih (fun hmem => h (List.mem_cons_of_mem c hmem))]

/-! ## The name of a file -/

/-- A name of one segment. -/
def IsSegment (name : String) : Prop := '/' ∉ name.toList ∧ name ≠ ""

variable {root : Path} {name : String}

theorem isAbsolute_of_isSegment (h : IsSegment name) : isAbsolute ⟨name⟩ = false := by
  obtain ⟨hname, _⟩ := h
  rw [isAbsolute, decide_eq_false_iff_not]
  intro hhead
  exact hname (List.mem_of_head? hhead)

theorem toList_join (h : IsSegment name) :
    (root.join ⟨name⟩).text.toList = appendChars root.text.toList name.toList := by
  rw [join, if_neg (by simp [isAbsolute_of_isSegment h]), String.toList_ofList]

theorem isAbsolute_join (h : IsSegment name) : (root.join ⟨name⟩).isAbsolute = root.isAbsolute := by
  have hname := isAbsolute_of_isSegment h
  simp only [isAbsolute, toList_join h, appendChars] at hname ⊢
  cases root.text.toList with
  | nil => exact hname
  | cons c rest =>
    split
    · rename_i hempty
      simp at hempty
    · simp
    · simp

/-- The segments of a file's path: those of its directory, and its name. -/
theorem exists_front (root : Path) :
    ∃ front, ∀ name, IsSegment name →
      splitSeparators (root.join ⟨name⟩).text.toList = front ++ [name.toList] := by
  cases hlast : root.text.toList.getLast? with
  | none =>
    refine ⟨[], fun name h => ?_⟩
    rw [toList_join h, appendChars, hlast]
    exact splitSeparators_of_notMem h.1
  | some last =>
    by_cases hslash : last = '/'
    · subst hslash
      obtain ⟨before, hbefore⟩ := List.getLast?_eq_some_iff.mp hlast
      refine ⟨splitSeparators before, fun name h => ?_⟩
      rw [toList_join h, appendChars, hlast, hbefore]
      simp only [List.append_assoc, List.singleton_append]
      rw [splitSeparators_append, splitSeparators_of_notMem h.1]
    · refine ⟨splitSeparators root.text.toList, fun name h => ?_⟩
      rw [toList_join h, appendChars, hlast]
      split
      · contradiction
      · rename_i hsome
        exact absurd (Option.some.inj hsome) hslash
      · rw [splitSeparators_append, splitSeparators_of_notMem h.1]

end BindingGen.Path
