import BindingGen.Proofs.Path

/-!
# Components of joined paths

A path behind a base has the components of the base and then its own, so it depends on how the base
reads and not on how it is spelled. The parent of a file in a directory reads like the directory.
-/

namespace BindingGen.Path

variable {first : Bool} {before text base tail here : List Char}
  {segments : List (List Char)} {component : Component}

/-! ## Segments -/

theorem notMem_of_mem_splitSeparators {segment : List Char}
    (h : segment ∈ splitSeparators text) : '/' ∉ segment := by
  induction text generalizing segment with
  | nil =>
    simp only [splitSeparators, List.mem_singleton] at h
    simp [h]
  | cons c rest ih =>
    unfold splitSeparators at h
    obtain ⟨head, others, hsplit⟩ := List.exists_cons_of_ne_nil (splitSeparators_ne_nil rest)
    simp only [hsplit] at h ih
    by_cases hc : c = '/'
    · rw [if_pos hc] at h
      rcases List.mem_cons.mp h with rfl | h
      · simp
      · exact ih h
    · rw [if_neg hc] at h
      rcases List.mem_cons.mp h with rfl | h
      · simp only [List.mem_cons, not_or]
        exact ⟨fun heq => hc heq.symm, ih List.mem_cons_self⟩
      · exact ih (List.mem_cons_of_mem head h)

/-- Segments, each with a separator behind it. -/
def closed (segments : List (List Char)) : List Char := segments.flatMap (· ++ ['/'])

theorem closed_splitSeparators (text : List Char) :
    closed (splitSeparators text) = text ++ ['/'] := by
  induction text with
  | nil => rfl
  | cons c rest ih =>
    unfold splitSeparators
    by_cases hc : c = '/'
    · simp only [hc, closed] at ih ⊢
      simp [ih]
    · obtain ⟨head, others, hsplit⟩ := List.exists_cons_of_ne_nil (splitSeparators_ne_nil rest)
      simp only [if_neg hc, hsplit, closed, List.flatMap_cons] at ih ⊢
      simp [← ih]

/-! ## Components of segments -/

theorem componentsFrom_append (first : Bool) (before : List Char)
    (segments more : List (List Char)) :
    componentsFrom first before (segments ++ more) = componentsFrom first before segments ++
      componentsFrom (first && segments.isEmpty) (before ++ closed segments) more := by
  induction segments generalizing first before with
  | nil => simp [componentsFrom, closed]
  | cons segment rest ih =>
    have htail : before ++ segment ++ ['/'] ++ closed rest =
        before ++ closed (segment :: rest) := by
      simp [closed]
    simp only [List.cons_append, componentsFrom, ih, Bool.false_and, htail, List.isEmpty_cons,
      Bool.and_false]
    split
    · rfl
    · split
      · cases first <;> rfl
      · split <;> rfl

theorem componentsFrom_blank (first : Bool) (before : List Char) :
    componentsFrom first before [[]] = [] := by
  simp [componentsFrom]

theorem map_componentsFrom (first : Bool) (before other : List Char)
    (segments : List (List Char)) :
    (componentsFrom first before segments).map Prod.fst =
      (componentsFrom first other segments).map Prod.fst := by
  induction segments generalizing first before other with
  | nil => rfl
  | cons segment rest ih =>
    have hrest := ih false (before ++ segment ++ ['/']) (other ++ segment ++ ['/'])
    simp only [componentsFrom]
    split
    · exact hrest
    · split
      · cases first
        · exact hrest
        · exact congrArg (Component.current :: ·) hrest
      · split <;> simp only [List.map_cons, hrest]

theorem componentsFrom_single (first : Bool) (before segment : List Char) :
    componentsFrom first before [segment] = [] ∨
      ∃ component, componentsFrom first before [segment] = [(component, before ++ segment)] := by
  simp only [componentsFrom]
  split
  · exact Or.inl rfl
  · split
    · cases first
      · exact Or.inl rfl
      · exact Or.inr ⟨_, rfl⟩
    · split <;> exact Or.inr ⟨_, rfl⟩

/-- A text that ends in the last component of some segments has the components of all of them. -/
theorem exists_of_getLast? (hsegments : ∀ segment ∈ segments, '/' ∉ segment)
    (h : (componentsFrom first before segments).getLast? = some (component, here)) :
    ∃ more, here = before ++ more ∧ more <+: closed segments ∧
      componentsFrom first before (splitSeparators more) =
        componentsFrom first before segments := by
  induction segments generalizing first before with
  | nil => simp [componentsFrom] at h
  | cons segment rest ih =>
    have hfirst := splitSeparators_of_notMem (hsegments segment List.mem_cons_self)
    have hsplit := fun more => componentsFrom_append first before [segment] more
    simp only [List.singleton_append, List.isEmpty_cons, Bool.and_false] at hsplit
    rw [hsplit rest]
    rw [hsplit rest, List.getLast?_append] at h
    -- Where the rest has no component, the last one is that of the first segment.
    cases hlast : (componentsFrom false (before ++ closed [segment]) rest).getLast? with
    | none =>
      rw [hlast, Option.none_or] at h
      rw [List.getLast?_eq_none_iff.mp hlast, List.append_nil]
      refine ⟨segment, ?_, by simp [closed], by rw [hfirst]⟩
      rcases componentsFrom_single first before segment with hnone | ⟨found, hone⟩
      · rw [hnone] at h
        cases h
      · rw [hone] at h
        cases h
        rfl
    | some last =>
      rw [hlast, Option.some_or, ← hlast] at h
      have hrest := fun other hother => hsegments other (List.mem_cons_of_mem segment hother)
      obtain ⟨more, rfl, hprefix, hmore⟩ := ih hrest h
      refine ⟨segment ++ '/' :: more, by simp [closed], ?_, ?_⟩
      · obtain ⟨behind, hbehind⟩ := hprefix
        exact ⟨behind, by simpa [closed] using hbehind⟩
      · rw [splitSeparators_append, hfirst, List.singleton_append, hsplit, hmore]

/-! ## Components of a text -/

theorem locatedComponents_of_ne {c : Char} (hc : c ≠ '/') (rest : List Char) :
    locatedComponents (c :: rest) = componentsFrom true [] (splitSeparators (c :: rest)) := by
  unfold locatedComponents
  split
  · rename_i heq
    exact absurd (List.cons.inj heq).1 hc
  · rfl

/-- Behind a separator there is no step to the same directory. -/
theorem locatedComponents_separator (text tail : List Char) :
    locatedComponents (text ++ '/' :: tail) = locatedComponents (text ++ ['/']) ++
      componentsFrom false (text ++ ['/']) (splitSeparators tail) := by
  cases text with
  | nil => simp [locatedComponents, splitSeparators, componentsFrom_blank]
  | cons c rest =>
    have hblank := componentsFrom_blank false
    by_cases hc : c = '/'
    · subst hc
      have hclosed := closed_splitSeparators rest
      simp only [List.cons_append, locatedComponents, splitSeparators_append,
        componentsFrom_append, hclosed]
      simp [splitSeparators, hblank]
    · have hclosed := closed_splitSeparators (c :: rest)
      have hempty : (splitSeparators (c :: rest)).isEmpty = false := by
        simp [splitSeparators_ne_nil]
      simp only [List.cons_append, locatedComponents_of_ne hc]
      simp only [← List.cons_append, splitSeparators_append, componentsFrom_append, hclosed, hempty]
      simp [splitSeparators, hblank]

/-- A separator at the end adds no component, unless it is the root. -/
theorem locatedComponents_closed (h : text ≠ []) :
    locatedComponents (text ++ ['/']) = locatedComponents text := by
  cases text with
  | nil => exact absurd rfl h
  | cons c rest =>
    by_cases hc : c = '/'
    · subst hc
      simp only [List.cons_append, locatedComponents, splitSeparators_append,
        componentsFrom_append]
      simp [splitSeparators, componentsFrom_blank]
    · simp only [List.cons_append, locatedComponents_of_ne hc]
      simp only [← List.cons_append, splitSeparators_append, componentsFrom_append]
      simp [splitSeparators, componentsFrom_blank]

theorem exists_component (h : text ≠ []) : locatedComponents text ≠ [] := by
  cases text with
  | nil => exact absurd rfl h
  | cons c rest =>
    by_cases hc : c = '/'
    · subst hc
      simp [locatedComponents]
    · rw [locatedComponents_of_ne hc, splitSeparators, if_neg hc]
      obtain ⟨head, others, hsplit⟩ := List.exists_cons_of_ne_nil (splitSeparators_ne_nil rest)
      rw [hsplit]
      simp only [componentsFrom]
      split
      · contradiction
      · split
        · simp
        · split <;> simp

theorem locatedComponents_of_getLast? (h : (locatedComponents text).getLast? =
      some (component, here)) : locatedComponents here = locatedComponents text := by
  cases text with
  | nil => simp [locatedComponents, splitSeparators, componentsFrom] at h
  | cons c rest =>
    by_cases hc : c = '/'
    · subst hc
      rw [locatedComponents, List.getLast?_cons] at h
      cases hlast : (componentsFrom false ['/'] (splitSeparators rest)).getLast? with
      | none =>
        rw [hlast] at h
        cases h
        rw [List.getLast?_eq_none_iff] at hlast
        simp [locatedComponents, hlast, splitSeparators, componentsFrom_blank]
      | some last =>
        rw [hlast] at h
        cases h
        obtain ⟨more, rfl, _, hmore⟩ :=
          exists_of_getLast? (fun _ => notMem_of_mem_splitSeparators) hlast
        simp only [List.singleton_append, locatedComponents, hmore]
    · rw [locatedComponents_of_ne hc] at h ⊢
      obtain ⟨_, rfl, hprefix, hmore⟩ :=
        exists_of_getLast? (fun _ => notMem_of_mem_splitSeparators) h
      rw [closed_splitSeparators] at hprefix
      rw [← hmore]
      cases here with
      | nil => rfl
      | cons d more =>
        have hd : d ≠ '/' := (List.cons_prefix_cons.mp hprefix).1 ▸ hc
        exact locatedComponents_of_ne hd more

/-! ## Joined paths -/

/-- A base with a separator at its end. -/
def opening (base : List Char) : List Char :=
  if base.getLast? = some '/' then base else base ++ ['/']

theorem appendChars_of_ne_nil (h : base ≠ []) (tail : List Char) :
    appendChars base tail = opening base ++ tail := by
  unfold appendChars opening
  split
  · rename_i hnone
    exact absurd (List.getLast?_eq_none_iff.mp hnone) h
  · rename_i hlast
    rw [if_pos hlast]
  · rename_i last hne hlast
    rw [if_neg (by rw [hlast]; exact fun heq => hne (Option.some.inj heq)), List.append_assoc]
    rfl

/-- Where each component of a path behind a base ends. -/
theorem locatedComponents_appendChars (h : base ≠ []) (tail : List Char) :
    locatedComponents (appendChars base tail) = locatedComponents base ++
      componentsFrom false (opening base) (splitSeparators tail) := by
  rw [appendChars_of_ne_nil h]
  unfold opening
  split
  · rename_i hlast
    obtain ⟨front, rfl⟩ := List.getLast?_eq_some_iff.mp hlast
    rw [List.append_assoc]
    exact locatedComponents_separator front tail
  · rw [List.append_assoc, ← locatedComponents_closed h]
    exact locatedComponents_separator base tail

variable {a b root path : Path} {name : String}

theorem components_join (hbase : a.text ≠ "") (hpath : path.isAbsolute = false) :
    (a.join path).components = a.components ++
      (componentsFrom false [] (splitSeparators path.text.toList)).map Prod.fst := by
  have hchars : a.text.toList ≠ [] := fun h => hbase (String.toList_eq_nil_iff.mp h)
  rw [join, if_neg (by simp [hpath])]
  simp only [components, String.toList_ofList, locatedComponents_appendChars hchars,
    List.map_append]
  rw [map_componentsFrom]

theorem components_eq_nil_iff : a.components = [] ↔ a.text = "" := by
  constructor
  · intro h
    refine Decidable.byContradiction fun hne => ?_
    have hchars : a.text.toList ≠ [] := fun hnil => hne (String.toList_eq_nil_iff.mp hnil)
    exact exists_component hchars (List.map_eq_nil_iff.mp h)
  · intro h
    simp [components, h, locatedComponents, splitSeparators, componentsFrom_blank]

/-- **How a base is spelled makes no difference** to what a path behind it reads like. -/
theorem components_join_congr (h : a.components = b.components) (path : Path) :
    (a.join path).components = (b.join path).components := by
  by_cases hpath : path.isAbsolute = true
  · simp [join, hpath]
  · rw [Bool.not_eq_true] at hpath
    by_cases hempty : a.text = ""
    · have hboth : b.text = "" := by
        rw [← components_eq_nil_iff, ← h, components_eq_nil_iff]
        exact hempty
      simp [join, hempty, hboth]
    · have hboth : b.text ≠ "" := by
        rw [ne_eq, ← components_eq_nil_iff, ← h, components_eq_nil_iff]
        exact hempty
      rw [components_join hempty hpath, components_join hboth hpath, h]

theorem isAbsolute_join_of_base (h : a.isAbsolute = true) (path : Path) :
    (a.join path).isAbsolute = true := by
  unfold join
  split
  · assumption
  · unfold isAbsolute at h ⊢
    rw [decide_eq_true_eq] at h
    have hchars : a.text.toList ≠ [] := by
      intro hnil
      rw [hnil] at h
      cases h
    rw [String.toList_ofList, appendChars_of_ne_nil hchars]
    unfold opening
    split <;> simp [h]

/-! ## Directories and names -/

/-- A name of one segment that is no step to another directory. -/
structure IsName (name : String) : Prop where
  segment : IsSegment name
  not_current : name ≠ "."
  not_up : name ≠ ".."

theorem locatedComponents_join (root : Path) (h : IsName name) :
    ∃ whole, locatedComponents (root.join ⟨name⟩).text.toList =
      locatedComponents root.text.toList ++ [(.name name.toList, whole)] := by
  have hnil : name.toList ≠ [] := fun hnil => h.segment.2 (String.toList_eq_nil_iff.mp hnil)
  have hcurrent : name.toList ≠ ['.'] := fun hdot => h.not_current (String.toList_inj.mp hdot)
  have hup : name.toList ≠ ['.', '.'] := fun hdots => h.not_up (String.toList_inj.mp hdots)
  have hsplit := splitSeparators_of_notMem h.segment.1
  have hsingle : ∀ first before, componentsFrom first before [name.toList] =
      [(.name name.toList, before ++ name.toList)] := by
    intro first before
    simp [componentsFrom, hnil, hcurrent, hup]
  rw [toList_join h.segment]
  by_cases hroot : root.text.toList = []
  · obtain ⟨c, rest, hname⟩ := List.exists_cons_of_ne_nil hnil
    have hc : c ≠ '/' := by
      rintro rfl
      exact h.segment.1 (hname ▸ List.mem_cons_self)
    refine ⟨name.toList, ?_⟩
    rw [hroot, appendChars, List.getLast?_nil]
    simp only [hname, locatedComponents_of_ne hc]
    rw [← hname, hsplit, hsingle]
    rfl
  · exact ⟨_, by rw [locatedComponents_appendChars hroot, hsplit, hsingle]⟩

/-- **The parent of a file in a directory reads like the directory.** -/
theorem components_parent? (root : Path) (h : IsName name) :
    ∃ parent, (root.join ⟨name⟩).parent? = some parent ∧
      parent.components = root.components := by
  obtain ⟨whole, hlocated⟩ := locatedComponents_join root h
  unfold parent? parentChars?
  rw [hlocated, List.reverse_append, List.reverse_singleton, List.singleton_append]
  cases hroot : (locatedComponents root.text.toList).reverse with
  | nil =>
    refine ⟨⟨""⟩, rfl, ?_⟩
    rw [List.reverse_eq_nil_iff] at hroot
    simp only [components, hroot]
    rfl
  | cons last others =>
    obtain ⟨component, here⟩ := last
    refine ⟨⟨String.ofList here⟩, rfl, ?_⟩
    have hlast : (locatedComponents root.text.toList).getLast? = some (component, here) := by
      rw [← List.head?_reverse, hroot]
      rfl
    simp only [components, String.toList_ofList, locatedComponents_of_getLast? hlast]

theorem fileName?_join (root : Path) (h : IsName name) :
    (root.join ⟨name⟩).fileName? = some name := by
  obtain ⟨whole, hlocated⟩ := locatedComponents_join root h
  unfold fileName?
  simp only [components, hlocated, List.map_append, List.map_cons, List.map_nil,
    List.getLast?_append, List.getLast?_singleton, Option.some_or, String.ofList_toList]

end BindingGen.Path
