import BindingGen.Namespace
import BindingGen.Proofs.Text.Trim
import Mathlib.Data.List.Nodup

/-!
# Names without their namespace

The namespace is the front of every sibling, so what is left behind it tells the siblings apart. The
one exception is a name that is nothing else: it keeps the namespace, and so looks like what is left
of the namespace written twice.
-/

namespace BindingGen.Namespace

open Text

/-! ## The shared part -/

theorem sharedPart_prefix_both (a b : List Char) : sharedPart a b <+: a ∧ sharedPart a b <+: b := by
  fun_induction sharedPart a b with
  | case1 as c bs ih =>
    exact ⟨(List.prefix_cons_inj c).mpr ih.1, (List.prefix_cons_inj c).mpr ih.2⟩
  | case2 => exact ⟨List.nil_prefix, List.nil_prefix⟩
  | case3 => exact ⟨List.nil_prefix, List.nil_prefix⟩

theorem foldl_sharedPart_prefix (first : List Char) (names : List (List Char)) :
    ∀ name ∈ first :: names, names.foldl sharedPart first <+: name := by
  induction names generalizing first with
  | nil =>
    intro name hname
    rw [List.mem_singleton.mp hname]
    exact List.prefix_refl first
  | cons second rest ih =>
    intro name hname
    have hfold := ih (sharedPart first second)
    rcases List.mem_cons.mp hname with rfl | hname
    · exact (hfold _ List.mem_cons_self).trans (sharedPart_prefix_both name second).1
    rcases List.mem_cons.mp hname with rfl | hname
    · exact (hfold _ List.mem_cons_self).trans (sharedPart_prefix_both first name).2
    · exact hfold name (List.mem_cons_of_mem _ hname)

theorem sharedByAll_prefix {names : List (List Char)} {name : List Char} (h : name ∈ names) :
    sharedByAll names <+: name := by
  cases names with
  | nil => cases h
  | cons first rest => exact foldl_sharedPart_prefix first rest name h

theorem commonPrefixChars_prefix {names : List (List Char)} {name : List Char} (h : name ∈ names) :
    commonPrefixChars names <+: name := by
  rw [commonPrefixChars]
  split
  · exact sharedByAll_prefix h
  · exact List.nil_prefix

theorem toList_commonPrefix (names : List String) :
    (commonPrefix (names.map some)).toList = commonPrefixChars (names.map String.toList) := by
  simp [commonPrefix, List.filterMap_map]

/-- Every sibling is the namespace with something behind it. -/
theorem exists_rest {names : List String} {name : String} (h : name ∈ names) :
    ∃ rest, name = commonPrefix (names.map some) ++ rest := by
  obtain ⟨rest, hrest⟩ := commonPrefixChars_prefix (List.mem_map_of_mem (f := String.toList) h)
  refine ⟨String.ofList rest, String.toList_inj.mp ?_⟩
  rw [String.toList_append, toList_commonPrefix, String.toList_ofList, hrest]

/-! ## What is left of a name -/

theorem stripPrefix_append (start rest : String) :
    stripPrefix (start ++ rest) start = if rest = "" then start else rest := by
  rw [stripPrefix, stripPrefixChars, String.toList_append, afterPrefix?_append]
  split
  · rename_i c more hmore
    have hrest : rest ≠ "" := by
      rintro rfl
      cases hmore
    rw [if_neg hrest, ← Option.some.inj hmore, String.ofList_toList]
  · rename_i hempty
    have hrest : rest = "" := by
      cases hlist : rest.toList with
      | nil => exact String.toList_eq_nil_iff.mp hlist
      | cons c more => exact absurd (congrArg some hlist) (hempty c more)
    simp [hrest]

/-- Only the namespace and the namespace written twice leave the same. -/
theorem stripPrefix_append_eq_iff {start rest other : String} :
    stripPrefix (start ++ rest) start = stripPrefix (start ++ other) start ↔
      rest = other ∨ (rest = "" ∧ other = start) ∨ (rest = start ∧ other = "") := by
  rw [stripPrefix_append, stripPrefix_append]
  by_cases hrest : rest = "" <;> by_cases hother : other = ""
  · simp [hrest, hother]
  · simp [hrest, hother, eq_comm]
  · simp [hrest, hother]
  · simp [hrest, hother]

/-- **Siblings stay apart without their namespace**, unless one is the namespace and another one is
the namespace written twice. -/
theorem nodup_stripped_iff (names : List String) :
    (names.map fun name => stripPrefix name (commonPrefix (names.map some))).Nodup ↔
      names.Nodup ∧
        ¬ (commonPrefix (names.map some) ≠ "" ∧ commonPrefix (names.map some) ∈ names ∧
          commonPrefix (names.map some) ++ commonPrefix (names.map some) ∈ names) := by
  generalize hstart : commonPrefix (names.map some) = start
  constructor
  · intro h
    refine ⟨h.of_map, ?_⟩
    rintro ⟨hne, honce, htwice⟩
    -- The lone namespace stays, as nothing would be left of it, and so both leave the same.
    have hsame : stripPrefix start start = stripPrefix (start ++ start) start := by
      have hlone := stripPrefix_append start ""
      rw [String.append_empty] at hlone
      rw [hlone, stripPrefix_append, if_pos rfl, if_neg hne]
    have htwo := List.inj_on_of_nodup_map h honce htwice hsame
    have hlist : start.toList = start.toList ++ start.toList := by
      rw [← String.toList_append, ← htwo]
    exact hne (String.toList_eq_nil_iff.mp (List.self_eq_append_right.mp hlist))
  · rintro ⟨hnames, hnot⟩
    refine hnames.map_on ?_
    intro x hx y hy hsame
    obtain ⟨rest, rfl⟩ := hstart ▸ exists_rest hx
    obtain ⟨other, rfl⟩ := hstart ▸ exists_rest hy
    rcases stripPrefix_append_eq_iff.mp hsame with rfl | ⟨rfl, rfl⟩ | ⟨rfl, rfl⟩
    · rfl
    · rw [String.append_empty] at hx ⊢
      by_cases hempty : other = ""
      · rw [hempty, String.append_empty]
      · exact absurd ⟨hempty, hx, hy⟩ hnot
    · rw [String.append_empty] at hy ⊢
      by_cases hempty : rest = ""
      · rw [hempty, String.append_empty]
      · exact absurd ⟨hempty, hy, hx⟩ hnot

/-- Both names are left as the namespace. -/
theorem stripped_twice :
    ["A_", "A_A_"].Nodup ∧
      ¬ (["A_", "A_A_"].map fun name =>
        stripPrefix name (commonPrefix (["A_", "A_A_"].map some))).Nodup := by
  decide

end BindingGen.Namespace
