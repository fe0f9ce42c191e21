import BindingGen.Namespace
import BindingGen.Proofs.Identifier.Characters

/-!
# Identifiers on one line

Neither case mapping makes a line feed, and no pass over a name adds one. So a name without a line
feed is spelled without one.
-/

namespace BindingGen.Text

/-! ## Case -/

section

variable {expansions : List (Nat × List Nat)} {shifts : List (CodeSpan × Int)} {c : Char}

theorem eq_of_newline_mem_mapCase (hexpansions : ∀ entry ∈ expansions, 10 ∉ entry.2)
    (hshifts : ∀ entry ∈ shifts, 10 < (entry.1.first : Int) + entry.2)
    (h : '\n' ∈ mapCase expansions shifts c) : c = '\n' := by
  have hcode : ∀ code, Char.ofNat code = '\n' → code = 10 := by
    intro code hnewline
    have hnat := congrArg Char.toNat hnewline
    rcases toNat_ofNat code with hcode | hcode
    · exact hcode.symm.trans hnat
    · cases hcode.symm.trans hnat
  unfold mapCase at h
  split at h
  · rename_i codes hlookup
    obtain ⟨front, behind, heq, -⟩ := List.lookup_eq_some_iff.mp hlookup
    obtain ⟨code, hmem, hnewline⟩ := List.mem_map.mp h
    rw [hcode code hnewline] at hmem
    exact absurd hmem (hexpansions (c.toNat, codes) (by rw [heq]; simp))
  · split at h
    · rename_i span distance hfind
      have hfirst := hshifts _ (List.mem_of_find?_eq_some hfind)
      have hfound := List.find?_some hfind
      have hcontains := CodeSpan.contains_iff.mp hfound
      have hten := hcode _ (List.mem_singleton.mp h).symm
      simp only at hfirst hcontains
      omega
    · exact (List.mem_singleton.mp h).symm

theorem eq_of_newline_mem_ite {mapped : Char → Char}
    (hascii : ∀ n < 128, '\n' = mapped (Char.ofNat n) → Char.ofNat n = '\n')
    (hexpansions : ∀ entry ∈ expansions, 10 ∉ entry.2)
    (hshifts : ∀ entry ∈ shifts, 10 < (entry.1.first : Int) + entry.2)
    (h : '\n' ∈ if c.toNat < 128 then [mapped c] else mapCase expansions shifts c) :
    c = '\n' := by
  split at h
  · exact of_ascii (P := fun c => '\n' = mapped c → c = '\n') hascii ‹_›
      (List.mem_singleton.mp h)
  · exact eq_of_newline_mem_mapCase hexpansions hshifts h

theorem eq_of_newline_mem_toLower (h : '\n' ∈ toLower c) : c = '\n' :=
  eq_of_newline_mem_ite (by decide) (by decide) (by decide +kernel) h

theorem eq_of_newline_mem_toUpper (h : '\n' ∈ toUpper c) : c = '\n' :=
  eq_of_newline_mem_ite (by decide) (by decide) (by decide +kernel) h

end

end BindingGen.Text

namespace BindingGen.Identifier

open Text

/-! ## Passes -/

theorem newline_notMem_normalizeChars {raw : List Char} (h : '\n' ∉ raw) :
    '\n' ∉ normalizeChars raw := by
  intro hmem
  have hwords := (mem_of_mem_tidy hmem).resolve_right (by decide)
  rcases mem_of_mem_lowerWords hwords with hunderscore | ⟨hsigma, -⟩ | ⟨c, hc, hlower⟩
  · exact absurd hunderscore (by decide)
  · exact absurd hsigma (by decide)
  · exact h (eq_of_newline_mem_toLower hlower ▸ hc)

/-! ## Spellings -/

theorem newline_notMem_normalize {raw : String} (h : '\n' ∉ raw.toList) :
    '\n' ∉ (normalize raw).toList := by
  rw [normalize, String.toList_ofList]
  exact newline_notMem_normalizeChars h

theorem newline_notMem_constant {raw : String} (h : '\n' ∉ raw.toList) :
    '\n' ∉ (constant raw).toList := by
  rw [constant, String.toList_ofList, uppercase, List.mem_flatMap]
  rintro ⟨c, hc, hmem⟩
  rw [eq_of_newline_mem_toUpper hmem] at hc
  exact newline_notMem_normalizeChars h hc

end BindingGen.Identifier

namespace BindingGen.Namespace

open Text

theorem mem_of_afterPrefix? {start text rest : List Char} (h : afterPrefix? start text = some rest)
    {c : Char} (hc : c ∈ rest) : c ∈ text := by
  fun_induction afterPrefix? start text with
  | case1 text =>
    obtain rfl := Option.some.inj h
    exact hc
  | case2 => cases h
  | case3 start d text ih => exact List.mem_cons_of_mem d (ih h)
  | case4 => cases h

theorem mem_of_mem_stripPrefix {raw start : String} {c : Char}
    (h : c ∈ (stripPrefix raw start).toList) : c ∈ raw.toList := by
  rw [stripPrefix, String.toList_ofList, stripPrefixChars] at h
  split at h
  · exact mem_of_afterPrefix? ‹_› h
  · exact h

end BindingGen.Namespace
