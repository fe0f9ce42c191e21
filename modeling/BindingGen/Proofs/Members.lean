import BindingGen.Json.Basic

/-!
# Looking up members

What a list in the order of its keys answers for a key: the last value that was put under it. Its
answers determine the list. A record that keeps further members still answers for its own keys.
-/

namespace BindingGen.KeyOrder

variable {α : Type}

theorem lookup_cons_pair (key k : String) (value : α) (rest : List (String × α)) :
    ((k, value) :: rest).lookup key = if key = k then some value else rest.lookup key := by
  rw [List.lookup_cons]
  by_cases h : key = k
  · rw [if_pos h, beq_iff_eq.mpr h]
  · rw [if_neg h, beq_eq_false_iff_ne.mpr h]

theorem mem_of_lookup {key : String} {value : α} {values : List (String × α)}
    (h : values.lookup key = some value) : (key, value) ∈ values := by
  obtain ⟨front, behind, rfl, _⟩ := List.lookup_eq_some_iff.mp h
  simp

theorem lookup_insert (key other : String) (value : α) (values : List (String × α)) :
    (insert key value values).lookup other =
      if other = key then some value else values.lookup other := by
  induction values with
  | nil => rw [insert, lookup_cons_pair]
  | cons head rest ih =>
    obtain ⟨k, v⟩ := head
    rw [insert]
    by_cases hk : key = k
    · rw [if_pos hk, lookup_cons_pair, lookup_cons_pair, hk]
      by_cases h : other = k <;> simp [h]
    · by_cases hlt : key < k
      · rw [if_neg hk, if_pos hlt, lookup_cons_pair]
      · rw [if_neg hk, if_neg hlt, lookup_cons_pair, lookup_cons_pair, ih]
        -- Only one of the two keys can be the one that is asked for.
        by_cases h : other = k
        · simp [h, Ne.symm hk]
        · simp [h]

theorem lookup_foldl_insert (key : String) (values sorted : List (String × α)) :
    (values.foldl (fun sorted (key, value) => insert key value sorted) sorted).lookup key =
      (values.reverse.lookup key).or (sorted.lookup key) := by
  induction values generalizing sorted with
  | nil => rfl
  | cons head rest ih =>
    obtain ⟨k, v⟩ := head
    rw [List.foldl_cons, ih, lookup_insert, List.reverse_cons, List.lookup_append, Option.or_assoc,
      lookup_cons_pair]
    by_cases h : key = k <;> simp [h]

theorem lookup_ofList (key : String) (values : List (String × α)) :
    (ofList values).lookup key = values.reverse.lookup key := by
  rw [ofList, lookup_foldl_insert]
  exact Option.or_none

/-! ## Single keys -/

theorem lookup_eq_none_of_notMem {key : String} {values : List (String × α)}
    (h : key ∉ values.map (·.1)) : values.lookup key = none := by
  rw [List.lookup_eq_none_iff]
  intro entry hentry
  rw [bne_iff_ne]
  rintro rfl
  exact h (List.mem_map_of_mem hentry)

/-- Where each key stands once, it does not matter from which end it is looked up. -/
theorem lookup_reverse {values : List (String × α)} (h : (values.map (·.1)).Nodup) (key : String) :
    values.reverse.lookup key = values.lookup key := by
  induction values with
  | nil => rfl
  | cons head rest ih =>
    rw [List.map_cons, List.nodup_cons] at h
    rw [List.reverse_cons, List.lookup_append, ih h.2, lookup_cons_pair, lookup_cons_pair]
    by_cases hkey : key = head.1
    · rw [hkey, lookup_eq_none_of_notMem h.1]
      rfl
    · rw [if_neg hkey, if_neg hkey]
      exact Option.or_none

section

variable {keys : List String} {values : List α} {i : Nat} {key : String} {value : α}

theorem lookup_zip_eq_none (h : key ∉ keys) : (keys.zip values).lookup key = none := by
  refine lookup_eq_none_of_notMem fun hmem => h ?_
  obtain ⟨entry, hentry, rfl⟩ := List.mem_map.mp hmem
  exact (List.of_mem_zip hentry).1

theorem lookup_zip (hkeys : keys.Nodup) (hkey : keys[i]? = some key)
    (hvalue : values[i]? = some value) : (keys.zip values).lookup key = some value := by
  induction keys generalizing i values with
  | nil => cases hkey
  | cons k keys ih =>
    rw [List.nodup_cons] at hkeys
    cases values with
    | nil => cases hvalue
    | cons v values =>
      rw [List.zip_cons_cons, lookup_cons_pair]
      cases i with
      | zero =>
        cases hkey
        cases hvalue
        exact if_pos rfl
      | succ i =>
        have hne : key ≠ k := by
          rintro rfl
          exact hkeys.1 (List.mem_of_getElem? hkey)
        rw [if_neg hne]
        exact ih hkeys.2 hkey hvalue

theorem lookup_zip_set (hkeys : keys.Nodup) (hlength : values.length = keys.length)
    (hkey : keys[i]? = some key) (other : String) :
    (keys.zip (values.set i value)).lookup other =
      if other = key then some value else (keys.zip values).lookup other := by
  induction keys generalizing i values with
  | nil => cases hkey
  | cons k keys ih =>
    rw [List.nodup_cons] at hkeys
    cases values with
    | nil => cases hlength
    | cons v values =>
      cases i with
      | zero =>
        cases hkey
        rw [List.set_cons_zero, List.zip_cons_cons, List.zip_cons_cons, lookup_cons_pair,
          lookup_cons_pair]
        by_cases h : other = key <;> simp [h]
      | succ i =>
        have hne : k ≠ key := by
          rintro rfl
          exact hkeys.1 (List.mem_of_getElem? hkey)
        rw [List.set_cons_succ, List.zip_cons_cons, List.zip_cons_cons, lookup_cons_pair,
          lookup_cons_pair, ih hkeys.2 (Nat.succ.inj hlength) hkey]
        by_cases h : other = k
        · simp [h, hne]
        · simp [h]

theorem lookup_zip_map {β : Type} (f : α → β) :
    (keys.zip (values.map f)).lookup key = ((keys.zip values).lookup key).map f := by
  induction keys generalizing values with
  | nil => rfl
  | cons k keys ih =>
    cases values with
    | nil => rfl
    | cons v values =>
      rw [List.map_cons, List.zip_cons_cons, List.zip_cons_cons, lookup_cons_pair,
        lookup_cons_pair, ih]
      by_cases h : key = k <;> simp [h]

end

/-! ## Order -/

/-- Each key stands once, the smaller keys first. -/
def Sorted (values : List (String × α)) : Prop := values.Pairwise fun a b => a.1 < b.1

theorem sorted_nil : Sorted ([] : List (String × α)) := List.Pairwise.nil

theorem lt_of_not_lt {key k : String} (hne : key ≠ k) (h : ¬ key < k) : k < key := by
  rw [← String.not_le]
  exact fun hle => hne (String.le_antisymm hle (String.not_lt.mp h))

theorem mem_insert {key : String} {value : α} {values : List (String × α)} {entry : String × α}
    (h : entry ∈ insert key value values) : entry = (key, value) ∨ entry ∈ values := by
  induction values with
  | nil => exact Or.inl (List.mem_singleton.mp h)
  | cons head rest ih =>
    rw [insert] at h
    split at h
    · exact (List.mem_cons.mp h).imp_right (List.mem_cons_of_mem head)
    · split at h
      · exact List.mem_cons.mp h
      · rcases List.mem_cons.mp h with rfl | h
        · exact Or.inr List.mem_cons_self
        · exact (ih h).imp_right (List.mem_cons_of_mem head)

theorem sorted_insert {values : List (String × α)} (h : Sorted values) (key : String) (value : α) :
    Sorted (insert key value values) := by
  induction values with
  | nil => exact List.pairwise_singleton _ _
  | cons head rest ih =>
    obtain ⟨hhead, hrest⟩ := List.pairwise_cons.mp h
    rw [insert]
    split
    · rename_i heq
      exact List.pairwise_cons.mpr ⟨fun entry hentry => heq ▸ hhead entry hentry, hrest⟩
    · split
      · rename_i hlt
        refine List.pairwise_cons.mpr ⟨fun entry hentry => ?_, h⟩
        rcases List.mem_cons.mp hentry with rfl | hentry
        · exact hlt
        · exact String.lt_trans hlt (hhead entry hentry)
      · rename_i hne hlt
        refine List.pairwise_cons.mpr ⟨fun entry hentry => ?_, ih hrest⟩
        rcases mem_insert hentry with rfl | hentry
        · exact lt_of_not_lt hne hlt
        · exact hhead entry hentry

theorem sorted_ofList (values : List (String × α)) : Sorted (ofList values) := by
  suffices hfold : ∀ sorted : List (String × α), Sorted sorted →
      Sorted (values.foldl (fun sorted (key, value) => insert key value sorted) sorted) from
    hfold [] sorted_nil
  induction values with
  | nil => exact fun _ h => h
  | cons head rest ih => exact fun sorted h => ih _ (sorted_insert h head.1 head.2)

theorem mem_ofList {values : List (String × α)} {entry : String × α} (h : entry ∈ ofList values) :
    entry ∈ values := by
  suffices hfold : ∀ sorted : List (String × α),
      entry ∈ values.foldl (fun sorted (key, value) => insert key value sorted) sorted →
        entry ∈ sorted ∨ entry ∈ values from
    (hfold [] h).resolve_left List.not_mem_nil
  clear h
  induction values with
  | nil => exact fun _ => Or.inl
  | cons head rest ih =>
    intro sorted h
    rcases ih _ h with h | h
    · rcases mem_insert h with rfl | h
      · exact Or.inr List.mem_cons_self
      · exact Or.inl h
    · exact Or.inr (List.mem_cons_of_mem head h)

theorem Sorted.nodup {values : List (String × α)} (h : Sorted values) :
    (values.map (·.1)).Nodup := by
  refine List.pairwise_map.mpr (h.imp fun hlt heq => ?_)
  rw [heq] at hlt
  exact String.lt_irrefl _ hlt

theorem lookup_eq_none_of_lt {key : String} {values : List (String × α)}
    (h : ∀ entry ∈ values, key < entry.1) : values.lookup key = none := by
  refine lookup_eq_none_of_notMem fun hmem => ?_
  obtain ⟨entry, hentry, rfl⟩ := List.mem_map.mp hmem
  exact String.lt_irrefl _ (h entry hentry)

/-- The head of one list is the head of the other, since neither key can stand behind the other. -/
theorem head_le_of_lookup {k l : String} {v w : α} {rest more : List (String × α)}
    (hfirst : Sorted ((k, v) :: rest))
    (h : ∀ key, ((k, v) :: rest).lookup key = ((l, w) :: more).lookup key) : ¬ l < k := by
  intro hlt
  have hnone : ((k, v) :: rest).lookup l = none := by
    refine lookup_eq_none_of_lt fun entry hentry => ?_
    rcases List.mem_cons.mp hentry with rfl | hentry
    · exact hlt
    · exact String.lt_trans hlt ((List.pairwise_cons.mp hfirst).1 entry hentry)
  rw [h, lookup_cons_pair, if_pos rfl] at hnone
  cases hnone

/-- Lists in the order of their keys are the same if they answer every look-up alike. -/
theorem sorted_ext {first second : List (String × α)} (hfirst : Sorted first)
    (hsecond : Sorted second) (h : ∀ key, first.lookup key = second.lookup key) :
    first = second := by
  induction first generalizing second with
  | nil =>
    cases second with
    | nil => rfl
    | cons head rest => simpa [lookup_cons_pair head.1 head.1 head.2] using h head.1
  | cons head rest ih =>
    obtain ⟨k, v⟩ := head
    cases second with
    | nil => simpa [lookup_cons_pair k k v] using h k
    | cons other more =>
      obtain ⟨l, w⟩ := other
      -- A smaller head would be found in one list and stand before all keys of the other.
      have hkey : k = l := String.le_antisymm
        (String.not_lt.mp (head_le_of_lookup hfirst h))
        (String.not_lt.mp (head_le_of_lookup hsecond fun key => (h key).symm))
      subst hkey
      obtain ⟨hk, hrest⟩ := List.pairwise_cons.mp hfirst
      obtain ⟨hl, hmore⟩ := List.pairwise_cons.mp hsecond
      have hvalue := h k
      rw [lookup_cons_pair, lookup_cons_pair, if_pos rfl, if_pos rfl, Option.some_inj] at hvalue
      rw [hvalue, ih hrest hmore fun key => ?_]
      have htail := h key
      rw [lookup_cons_pair, lookup_cons_pair] at htail
      by_cases hkey : key = k
      · rw [hkey, lookup_eq_none_of_lt hk, lookup_eq_none_of_lt hl]
      · rwa [if_neg hkey, if_neg hkey] at htail

theorem ofList_of_sorted {values : List (String × α)} (h : Sorted values) :
    ofList values = values :=
  sorted_ext (sorted_ofList values) h fun key => by
    rw [lookup_ofList, lookup_reverse h.nodup]

end BindingGen.KeyOrder

namespace BindingGen.Json

theorem lookup_reverse_eq_none {members : Members} {key : String} (h : members.lookup key = none) :
    members.reverse.lookup key = none := by
  rw [List.lookup_eq_none_iff] at h ⊢
  intro member hm
  exact h member (List.mem_reverse.mp hm)

/-- Members that are kept besides do not hide a record's own. -/
theorem lookup_sort_append {own extra : Members} {key : String} (h : extra.lookup key = none) :
    (Members.sort (own ++ extra)).lookup key = own.reverse.lookup key := by
  rw [Members.sort, KeyOrder.lookup_ofList, List.reverse_append, List.lookup_append,
    lookup_reverse_eq_none h, Option.none_or]

end BindingGen.Json
