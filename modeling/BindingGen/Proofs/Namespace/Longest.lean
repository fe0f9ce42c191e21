import BindingGen.Proofs.Namespace
import Mathlib.Data.List.ReduceOption

/-!
# The longest shared part

The namespace is the longest text that every name starts with, if that ends in an underscore. It
depends on nothing but which names there are. Counting the bytes that the first name shares with
each other one, and cutting it behind the fewest of them, never cuts a character and gives the same.
-/

namespace BindingGen.Namespace

open Text

/-! ## What the names share -/

def SharedBy (names : List String) (start : String) : Prop :=
  ∀ name ∈ names, start.toList <+: name.toList

/-- A text that every name starts with, and no longer one is. -/
structure LongestShared (names : List String) (start : String) : Prop where
  shared : SharedBy names start
  longest : ∀ other, SharedBy names other → other.length ≤ start.length

theorem prefix_sharedPart_iff {start a b : List Char} :
    start <+: sharedPart a b ↔ start <+: a ∧ start <+: b := by
  have hboth := sharedPart_prefix_both a b
  refine ⟨fun h => ⟨h.trans hboth.1, h.trans hboth.2⟩, ?_⟩
  clear hboth
  rintro ⟨ha, hb⟩
  -- Along both texts: a character that both have goes over, and the first other one ends all three.
  fun_induction sharedPart a b generalizing start with
  | case1 as c bs ih =>
    cases start with
    | nil => exact List.nil_prefix
    | cons d start =>
      simp only [List.cons_prefix_cons] at ha hb ⊢
      exact ⟨ha.1, ih ha.2 hb.2⟩
  | case2 x as y bs hne =>
    cases start with
    | nil => exact List.nil_prefix
    | cons d start =>
      simp only [List.cons_prefix_cons] at ha hb
      exact absurd (ha.1.symm.trans hb.1) hne
  | case3 a b hcons =>
    have hnil : start = [] := by
      cases start with
      | nil => rfl
      | cons d start =>
        obtain ⟨as, rfl⟩ := ha
        obtain ⟨bs, rfl⟩ := hb
        exact (hcons d (start ++ as) d (start ++ bs) rfl rfl).elim
    simp [hnil]

theorem prefix_foldl_sharedPart_iff {start first : List Char} {names : List (List Char)} :
    start <+: names.foldl sharedPart first ↔ ∀ name ∈ first :: names, start <+: name := by
  induction names generalizing first with
  | nil => simp
  | cons second rest ih => simp [ih, prefix_sharedPart_iff, and_assoc]

theorem prefix_sharedByAll_iff {start : List Char} {names : List (List Char)} (h : names ≠ []) :
    start <+: sharedByAll names ↔ ∀ name ∈ names, start <+: name := by
  cases names with
  | nil => exact absurd rfl h
  | cons first rest => exact prefix_foldl_sharedPart_iff

theorem eq_of_prefix_iff {a b : List Char} (h : ∀ start, start <+: a ↔ start <+: b) : a = b := by
  have hab := (h a).mp (List.prefix_refl a)
  have hba := (h b).mpr (List.prefix_refl b)
  exact hab.eq_of_length_le hba.length_le

/-- Only which names there are decides what they share. -/
theorem sharedByAll_congr {names others : List (List Char)}
    (h : ∀ name, name ∈ names ↔ name ∈ others) : sharedByAll names = sharedByAll others := by
  by_cases hnames : names = []
  · have hothers : others = [] := by
      apply List.eq_nil_iff_forall_not_mem.mpr
      intro name
      rw [← h, hnames]
      exact List.not_mem_nil
    rw [hnames, hothers]
  · have hothers : others ≠ [] := by
      rintro rfl
      exact hnames (List.eq_nil_iff_forall_not_mem.mpr fun name hname =>
        absurd ((h name).mp hname) List.not_mem_nil)
    apply eq_of_prefix_iff
    intro start
    rw [prefix_sharedByAll_iff hnames, prefix_sharedByAll_iff hothers]
    exact forall_congr' fun name => by rw [h]

theorem longestShared_iff {names : List String} (h : names ≠ []) {start : String} :
    LongestShared names start ↔ start = String.ofList (sharedByAll (names.map String.toList)) := by
  have hshared : ∀ start : String, SharedBy names start ↔
      start.toList <+: sharedByAll (names.map String.toList) := by
    intro start
    rw [prefix_sharedByAll_iff (by simpa using h)]
    simp [SharedBy]
  constructor
  · intro hlong
    have hstart := (hshared start).mp hlong.shared
    have hwhole : SharedBy names (String.ofList (sharedByAll (names.map String.toList))) :=
      (hshared _).mpr (by simp)
    have hlength := hlong.longest _ hwhole
    rw [String.length_ofList, ← String.length_toList] at hlength
    rw [← hstart.eq_of_length_le hlength, String.ofList_toList]
  · rintro rfl
    refine ⟨(hshared _).mpr (by simp), fun other hother => ?_⟩
    have hlength := ((hshared other).mp hother).length_le
    rwa [String.length_ofList, ← String.length_toList]

/-! ## The names that are there -/

variable {names : List (Option String)}

theorem filterMap_toList (names : List (Option String)) :
    names.filterMap (·.map String.toList) = names.reduceOption.map String.toList := by
  rw [← List.reduceOption_map, List.reduceOption, List.filterMap_map]
  rfl

theorem commonPrefix_eq (names : List (Option String)) :
    commonPrefix names =
      String.ofList (commonPrefixChars (names.reduceOption.map String.toList)) := by
  rw [commonPrefix, filterMap_toList]

theorem commonPrefix_reduceOption (names : List (Option String)) :
    commonPrefix (names.reduceOption.map some) = commonPrefix names := by
  rw [commonPrefix_eq, commonPrefix_eq, List.reduceOption, List.filterMap_map]
  simp [List.filterMap_some]

theorem commonPrefix_of_shared :
    commonPrefix names =
      let shared := String.ofList (sharedByAll (names.reduceOption.map String.toList))
      if shared.toList.getLast? = some '_' then shared else "" := by
  rw [commonPrefix_eq, commonPrefixChars]
  simp only [String.toList_ofList]
  split <;> rfl

theorem commonPrefix_congr {others : List (Option String)}
    (h : ∀ name, some name ∈ others ↔ some name ∈ names) :
    commonPrefix others = commonPrefix names := by
  have hshared : sharedByAll (others.reduceOption.map String.toList) =
      sharedByAll (names.reduceOption.map String.toList) := by
    apply sharedByAll_congr
    intro name
    simp [List.reduceOption_mem_iff, h]
  rw [commonPrefix_of_shared, commonPrefix_of_shared, hshared]

theorem eq_append_stripPrefix {name : String} (hname : some name ∈ names)
    (hne : name ≠ commonPrefix names) :
    name = commonPrefix names ++ stripPrefix name (commonPrefix names) := by
  have hmem := List.reduceOption_mem_iff.mpr hname
  obtain ⟨rest, hrest⟩ := exists_rest hmem
  rw [commonPrefix_reduceOption] at hrest
  have hrestne : rest ≠ "" := by
    rintro rfl
    exact hne (by rw [hrest, String.append_empty])
  have hstripped := stripPrefix_append (commonPrefix names) rest
  rw [← hrest, if_neg hrestne] at hstripped
  rwa [hstripped]

theorem stripPrefix_ne_empty {raw : String} (start : String) (h : raw ≠ "") :
    stripPrefix raw start ≠ "" := by
  have hraw : raw.toList ≠ [] := fun hnil => h (String.toList_eq_nil_iff.mp hnil)
  unfold stripPrefix stripPrefixChars
  split <;> simp [*]

/-! ## By counting bytes -/

/-- The bytes of the characters that two texts share at their front. -/
def sharedBytes : List Char → List Char → Nat
  | a :: as, b :: bs => if a = b then a.utf8Size + sharedBytes as bs else 0
  | _, _ => 0

/-- The first bytes of a text, unless the last of them is within a character. -/
def cut? (text : String) (bytes : Nat) : Option String :=
  if h : (⟨bytes⟩ : String.Pos.Raw).IsValid text then
    some (text.sliceTo (text.pos ⟨bytes⟩ h)).copy
  else none

/-- The fewest bytes that the first name shares with any other. -/
def fewestBytes (first : String) (others : List String) : Nat :=
  others.foldl (fun bytes name => min (sharedBytes first.toList name.toList) bytes)
    first.utf8ByteSize

/-- The namespace, cut from the first name. -/
def cutPrefix? (names : List (Option String)) : Option String :=
  match names.reduceOption with
  | [] => some ""
  | first :: others => do
    let shared ← cut? first (fewestBytes first others)
    return if shared.toList.getLast? = some '_' then shared else ""

theorem cut?_append (front behind : String) :
    cut? (front ++ behind) front.utf8ByteSize = some front := by
  have hvalid : (⟨front.utf8ByteSize⟩ : String.Pos.Raw).IsValid (front ++ behind) :=
    String.Pos.Raw.isValid_iff_exists_append.mpr ⟨front, behind, rfl, rfl⟩
  unfold cut?
  rw [dif_pos hvalid]
  have hsplits : ((front ++ behind).pos _ hvalid).Splits front behind := ⟨rfl, by simp; rfl⟩
  rw [(String.Pos.splits _).eq_left hsplits]

theorem utf8ByteSize_ofList_cons (c : Char) (text : List Char) :
    (String.ofList (c :: text)).utf8ByteSize = c.utf8Size + (String.ofList text).utf8ByteSize := by
  rw [String.ofList_cons, String.utf8ByteSize_append, String.utf8ByteSize_singleton]

/-- What is already known to be shared only gets shorter, to what the next name shares. -/
theorem min_sharedBytes {first name shared : List Char} (h : shared <+: first) :
    min (sharedBytes first name) (String.ofList shared).utf8ByteSize =
      (String.ofList (sharedPart shared name)).utf8ByteSize := by
  induction shared generalizing first name with
  | nil => cases name <;> simp [sharedPart]
  | cons c shared ih =>
    obtain ⟨rest, rfl⟩ := h
    cases name with
    | nil => simp [sharedPart, sharedBytes]
    | cons d name =>
      by_cases hcd : c = d
      · subst hcd
        have hrest : min (sharedBytes (shared ++ rest) name) (String.ofList shared).utf8ByteSize =
            (String.ofList (sharedPart shared name)).utf8ByteSize :=
          ih (List.prefix_append shared rest)
        simp only [List.cons_append, sharedBytes, sharedPart, if_true, utf8ByteSize_ofList_cons]
        omega
      · simp [sharedPart, sharedBytes, hcd]

theorem foldl_sharedBytes {first shared : List Char} (h : shared <+: first) (others : List String) :
    others.foldl (fun bytes name => min (sharedBytes first name.toList) bytes)
        (String.ofList shared).utf8ByteSize =
      (String.ofList ((others.map String.toList).foldl sharedPart shared)).utf8ByteSize := by
  induction others generalizing shared with
  | nil => rfl
  | cons name others ih =>
    simp only [List.foldl_cons, List.map_cons, min_sharedBytes h]
    exact ih ((sharedPart_prefix_both shared name.toList).1.trans h)

/-- The cut is never within a character. -/
theorem cut?_fewestBytes (first : String) (others : List String) :
    cut? first (fewestBytes first others) =
      some (String.ofList (sharedByAll ((first :: others).map String.toList))) := by
  have hbytes := foldl_sharedBytes (List.prefix_refl first.toList) others
  rw [String.ofList_toList] at hbytes
  obtain ⟨rest, hrest⟩ := foldl_sharedPart_prefix first.toList (others.map String.toList) _
    List.mem_cons_self
  have hfirst : first = String.ofList ((others.map String.toList).foldl sharedPart first.toList) ++
      String.ofList rest := by
    rw [← String.ofList_append, hrest, String.ofList_toList]
  have hcut := cut?_append
    (String.ofList ((others.map String.toList).foldl sharedPart first.toList)) (String.ofList rest)
  rw [← hfirst, ← hbytes] at hcut
  exact hcut

theorem cutPrefix?_eq (names : List (Option String)) :
    cutPrefix? names = some (commonPrefix names) := by
  rw [commonPrefix_of_shared]
  unfold cutPrefix?
  split
  · rename_i hnone
    rw [hnone]
    rfl
  · rename_i first others hnames
    rw [hnames, cut?_fewestBytes]
    rfl

/-! ## The namespace -/

/-- **The namespace is the longest text that all names start with, if it ends in an underscore.** It
is found by cutting the first name at a character's end, does not depend on order, repetition or
missing names, and is the front of every name, with what the name is stripped to behind it. -/
theorem commonPrefix_longest (names : List (Option String)) :
    (names.reduceOption = [] → commonPrefix names = "") ∧
    (names.reduceOption ≠ [] → ∃ shared, (∀ start,
        LongestShared names.reduceOption start ↔ start = shared) ∧
      commonPrefix names = if shared.toList.getLast? = some '_' then shared else "") ∧
    cutPrefix? names = some (commonPrefix names) ∧
    (∀ others : List (Option String), (∀ name, some name ∈ others ↔ some name ∈ names) →
      commonPrefix others = commonPrefix names) ∧
    ∀ name, some name ∈ names →
      (name ≠ commonPrefix names →
        name = commonPrefix names ++ stripPrefix name (commonPrefix names)) ∧
      (name ≠ "" → stripPrefix name (commonPrefix names) ≠ "") := by
  refine ⟨fun hnone => ?_,
    fun hsome => ⟨_, fun _ => longestShared_iff hsome, commonPrefix_of_shared⟩,
    cutPrefix?_eq names, fun _ => commonPrefix_congr,
    fun name hname => ⟨eq_append_stripPrefix hname, stripPrefix_ne_empty _⟩⟩
  rw [commonPrefix_of_shared, hnone]
  rfl

/-- Characters of several bytes, a missing name, and a name that is nothing but the namespace. -/
theorem commonPrefix_longest_sample :
    commonPrefix [some "Ä_ΩB", none, some "Ä_Ω", some "Ä_"] = "Ä_" ∧
      "Ä_ΩB" = "Ä_" ++ stripPrefix "Ä_ΩB" "Ä_" ∧ stripPrefix "Ä_" "Ä_" ≠ "" ∧
      cutPrefix? [some "Ä_ΩB", none, some "Ä_Ω", some "Ä_"] = some "Ä_" := by
  have hshared : commonPrefix [some "Ä_ΩB", none, some "Ä_Ω", some "Ä_"] = "Ä_" := by decide
  have h := commonPrefix_longest [some "Ä_ΩB", none, some "Ä_Ω", some "Ä_"]
  rw [hshared] at h
  exact ⟨hshared, (h.2.2.2.2 "Ä_ΩB" (by decide)).1 (by decide),
    (h.2.2.2.2 "Ä_" (by decide)).2 (by decide), h.2.2.1⟩

end BindingGen.Namespace
