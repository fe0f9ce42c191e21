import BindingGen.Proofs.Schema.Faithful

/-!
# Faithful decoding of records

A record holds what its members say, each under its key, and keeps the members that it does not
model. It is read faithfully if every part of it is, every key of its own is read once, and nothing
that has to be there is missing.
-/

namespace BindingGen.Schema

open Json

/-! ## Members that suit -/

section

variable {slot : Slot} {held held' : String → Option Json} {key : String} {mark : Mark}
  {read : Reading} {value : Json} {readings : List (String × Mark × Reading)} {pairs : Members}

/-- A member is fit for a slot if that has another key, or holds nothing yet. -/
def Suits (slot : Slot) (held : String → Option Json) (key : String) (read : Reading)
    (value : Json) : Prop :=
  key = slot.key → held key = none ∧ slot.form.Accepts read value

/-- Members are fit for a slot, and write its key once, counting what is held. -/
structure AllSuit (slot : Slot) (held : String → Option Json)
    (readings : List (String × Mark × Reading)) (pairs : Members) : Prop where
  count : (held slot.key).isSome.toNat + readings.countP (·.1 == slot.key) ≤ 1
  once : readings.all (fun member => member.1 != slot.key || slot.form.once member.2.2) = true
  fits : ∀ pair ∈ pairs, pair.1 = slot.key → slot.form.fits pair.2 = true

theorem allSuit_nil : AllSuit slot held [] [] where
  count := Bool.toNat_le _
  once := rfl
  fits := List.forall_mem_nil _

/-- Members suit if the first does, and the others do once it is held. -/
theorem allSuit_cons_iff (completed : Json)
    (hheld : ∀ k, held' k = if k = key then some completed else held k) :
    AllSuit slot held ((key, mark, read) :: readings) ((key, value) :: pairs) ↔
      Suits slot held key read value ∧ AllSuit slot held' readings pairs := by
  have hcount : ((key, mark, read) :: readings).countP (·.1 == slot.key) =
      readings.countP (·.1 == slot.key) + if key == slot.key then 1 else 0 := List.countP_cons
  have honce : ((key, mark, read) :: readings).all
        (fun member => member.1 != slot.key || slot.form.once member.2.2) =
      ((key != slot.key || slot.form.once read) &&
        readings.all fun member => member.1 != slot.key || slot.form.once member.2.2) :=
    List.all_cons
  by_cases hkey : key = slot.key
  -- The slot's own key: the member takes the only place that the count leaves.
  · subst hkey
    have hsome : held' slot.key = some completed := (hheld slot.key).trans (if_pos rfl)
    rw [beq_self_eq_true, if_pos rfl] at hcount
    rw [bne_self_eq_false, Bool.false_or] at honce
    constructor
    · intro h
      have hone := h.count
      have hall := h.once
      rw [hcount] at hone
      rw [honce, Bool.and_eq_true] at hall
      obtain ⟨hvalue, hpairs⟩ := List.forall_mem_cons.mp h.fits
      have hnone : held slot.key = none := by
        rw [← Option.not_isSome_iff_eq_none]
        intro hheld
        rw [hheld, Bool.toNat_true] at hone
        omega
      refine ⟨fun _ => ⟨hnone, hvalue rfl, hall.1⟩, ?_, hall.2, hpairs⟩
      rw [hsome, Option.isSome_some, Bool.toNat_true]
      omega
    · rintro ⟨hfirst, h⟩
      obtain ⟨hnone, haccepts⟩ := hfirst rfl
      have hone := h.count
      rw [hsome, Option.isSome_some, Bool.toNat_true] at hone
      refine ⟨?_, ?_, List.forall_mem_cons.mpr ⟨fun _ => haccepts.fits, h.fits⟩⟩
      · rw [hcount, hnone, Option.isSome_none, Bool.toNat_false]
        omega
      · rw [honce, haccepts.once, h.once, Bool.true_and]
  -- Another key: the slot does not notice the member.
  · have hsame : held' slot.key = held slot.key := (hheld slot.key).trans (if_neg (Ne.symm hkey))
    rw [beq_eq_false_iff_ne.mpr hkey, if_neg Bool.false_ne_true, Nat.add_zero] at hcount
    rw [bne_iff_ne.mpr hkey, Bool.true_or, Bool.true_and] at honce
    constructor
    · intro h
      exact ⟨fun heq => absurd heq hkey, hsame ▸ hcount ▸ h.count, honce ▸ h.once,
        (List.forall_mem_cons.mp h.fits).2⟩
    · rintro ⟨-, h⟩
      exact ⟨hcount ▸ hsame ▸ h.count, honce ▸ h.once,
        List.forall_mem_cons.mpr ⟨fun heq => absurd heq hkey, h.fits⟩⟩

/-- A written key stands once, so it is found wherever it stands. -/
theorem lookup_of_countP (hcount : pairs.countP (·.1 == key) ≤ 1) (hmem : (key, value) ∈ pairs) :
    pairs.lookup key = some value := by
  induction pairs with
  | nil => cases hmem
  | cons head rest ih =>
    obtain ⟨k, first⟩ := head
    rw [List.countP_cons] at hcount
    rw [KeyOrder.lookup_cons_pair]
    rcases List.mem_cons.mp hmem with heq | hmem
    · cases heq
      exact if_pos rfl
    · have hrest : 0 < rest.countP (·.1 == key) :=
        List.countP_pos_iff.mpr ⟨(key, value), hmem, beq_self_eq_true key⟩
      by_cases hkey : k = key
      · rw [if_pos (beq_iff_eq.mpr hkey)] at hcount
        omega
      · rw [if_neg (Ne.symm hkey)]
        exact ih (by omega) hmem

theorem keys_of_ofMemberReadings (h : ofMemberReadings readings = .ok pairs) :
    pairs.map (·.1) = readings.map (·.1) := by
  induction readings generalizing pairs with
  | nil =>
    rw [ofMemberReadings] at h
    cases h
    rfl
  | cons head rest ih =>
    obtain ⟨key, mark, read⟩ := head
    rw [ofMemberReadings] at h
    obtain ⟨value, _, h⟩ := bind_eq_ok_iff.mp h
    obtain ⟨others, hothers, h⟩ := bind_eq_ok_iff.mp h
    cases h
    rw [List.map_cons, List.map_cons, ih hothers]

/-- Members whose object fits a slot, and write its key once, suit it. -/
theorem allSuit_of_fits (h : ofMemberReadings readings = .ok pairs)
    (hfits : slot.fits (Members.sort pairs) = true) (honce : slot.once readings = true) :
    AllSuit slot (fun _ => none) readings pairs := by
  simp only [Slot.once, Bool.and_eq_true, decide_eq_true_eq] at honce
  have hcount : pairs.countP (·.1 == slot.key) = readings.countP (·.1 == slot.key) := by
    have hkeys := congrArg (List.countP (· == slot.key)) (keys_of_ofMemberReadings h)
    rwa [List.countP_map, List.countP_map] at hkeys
  refine ⟨by simpa using honce.1, honce.2, ?_⟩
  rintro ⟨key, value⟩ hmem rfl
  have hlookup : (Members.sort pairs).lookup slot.key = some value := by
    rw [Members.sort, KeyOrder.lookup_ofList]
    refine lookup_of_countP ?_ (List.mem_reverse.mpr hmem)
    rw [List.countP_reverse, hcount]
    exact honce.1
  rwa [Slot.fits, hlookup] at hfits

end

theorem exists_object_of_fits {slots : List Slot} {value : Json}
    (h : (Form.record slots).fits value = true) :
    ∃ members, value = .object members ∧ ∀ slot ∈ slots, slot.fits members = true := by
  cases value <;> first | exact ⟨_, rfl, List.all_eq_true.mp h⟩ | cases h

/-! ## What a record holds -/

/-- The values of the slots of a record, in their order, and the members that it keeps besides. -/
structure Held where
  own : List (Option Json)
  extra : Members

/-- One member is put in its slot, which holds nothing yet, or is kept besides. -/
inductive Stepped (slots : List Slot) (before : Held) (key : String) (read : Reading) : Held → Prop
  | claimed {i : Nat} {slot : Slot} {value : Json} (hslot : slots[i]? = some slot)
      (hkey : slot.key = key) (hfree : before.own[i]? = some none)
      (hvalue : ofReading read = .ok value) (haccepts : slot.form.Accepts read value) :
      Stepped slots before key read
        ⟨before.own.set i (some (slot.form.complete value)), before.extra⟩
  | kept {value : Json} (hkey : key ∉ slots.map Slot.key) (hvalue : ofReading read = .ok value) :
      Stepped slots before key read ⟨before.own, before.extra.insert key value⟩

namespace Held

def shown (slots : List Slot) (held : Held) (key : String) : Option Json :=
  (((slots.map Slot.key).zip held.own).lookup key).getD (held.extra.lookup key)

def filled (slots : List Slot) (held : Held) : Bool :=
  (slots.zip held.own).all fun (slot, value) => !slot.needed || value.isSome

def members (slots : List Slot) (held : Held) : Members :=
  (slots.map Slot.key).zip (held.own.map (·.getD .null)) ++ held.extra

/-- Every slot has its place, and none of the members besides is one of a slot. -/
structure Fits (slots : List Slot) (held : Held) : Prop where
  length : held.own.length = (slots.map Slot.key).length
  apart : Apart (slots.map Slot.key) held.extra
  sorted : KeyOrder.Sorted held.extra

end Held

section

variable {slots : List Slot} {slot : Slot} {before after held : Held} {key : String}
  {read : Reading} {value : Json} {i : Nat}

theorem getElem?_key (hslot : slots[i]? = some slot) :
    (slots.map Slot.key)[i]? = some slot.key := by
  rw [List.getElem?_map, hslot, Option.map_some]

theorem shown_of_slot (hkeys : (slots.map Slot.key).Nodup) (hslot : slots[i]? = some slot)
    {own : Option Json} (hown : held.own[i]? = some own) : held.shown slots slot.key = own := by
  rw [Held.shown, KeyOrder.lookup_zip hkeys (getElem?_key hslot) hown, Option.getD_some]

theorem shown_of_notMem (hkey : key ∉ slots.map Slot.key) :
    held.shown slots key = held.extra.lookup key := by
  rw [Held.shown, KeyOrder.lookup_zip_eq_none hkey, Option.getD_none]

/-- What a step does to what is held. -/
theorem Stepped.sound (hkeys : (slots.map Slot.key).Nodup) (hheld : before.Fits slots)
    (h : Stepped slots before key read after) :
    after.Fits slots ∧ ∃ value, ofReading read = .ok value ∧
      (∀ slot ∈ slots, Suits slot (before.shown slots) key read value) ∧
      ∀ k, after.shown slots k =
        if k = key then some (completeAt slots key value) else before.shown slots k := by
  cases h with
  | @claimed i slot value hslot hkey hfree hvalue haccepts =>
    subst hkey
    have hmem := List.mem_of_getElem? hslot
    -- No other slot has the key, so what a slot of the key asks for is what the claimed one does.
    refine ⟨⟨?_, hheld.apart, hheld.sorted⟩, value, hvalue, fun other hother heq => ?_, fun k => ?_⟩
    · rw [List.length_set, hheld.length]
    · have hsame := find?_slot hkeys hother
      rw [← heq, find?_slot hkeys hmem, Option.some_inj] at hsame
      exact ⟨shown_of_slot hkeys hslot hfree, hsame ▸ haccepts⟩
    · rw [Held.shown, KeyOrder.lookup_zip_set hkeys hheld.length (getElem?_key hslot), completeAt,
        find?_slot hkeys hmem]
      by_cases hk : k = slot.key
      · rw [if_pos hk, if_pos hk]
        rfl
      · rw [if_neg hk, if_neg hk]
        rfl
  | @kept value hkey hvalue =>
    refine ⟨⟨hheld.length, fun own hown => ?_, KeyOrder.sorted_insert hheld.sorted key value⟩, value,
      hvalue, fun slot hslot heq => absurd (List.mem_map.mpr ⟨slot, hslot, heq.symm⟩) hkey,
      fun k => ?_⟩
    · have hne : own ≠ key := fun heq => hkey (heq ▸ hown)
      rw [Members.insert, KeyOrder.lookup_insert, if_neg hne]
      exact hheld.apart own hown
    · rw [completeAt, find?_slot_eq_none hkey]
      by_cases hk : k = key
      · rw [hk, shown_of_notMem hkey, if_pos rfl]
        exact (KeyOrder.lookup_insert ..).trans (if_pos rfl)
      · rw [Held.shown, Held.shown, Members.insert, KeyOrder.lookup_insert, if_neg hk, if_neg hk]

theorem exists_own_at (hheld : held.Fits slots) (hslot : slots[i]? = some slot) :
    ∃ own, held.own[i]? = some own := by
  have hlength := (List.getElem?_eq_some_iff.mp hslot).1
  rw [← List.length_map (f := Slot.key), ← hheld.length] at hlength
  exact ⟨held.own[i], List.getElem?_eq_getElem hlength⟩

theorem exists_own (hheld : held.Fits slots) (hslot : slot ∈ slots) :
    ∃ (i : Nat) (own : Option Json), slots[i]? = some slot ∧ held.own[i]? = some own := by
  obtain ⟨i, hi⟩ := List.getElem?_of_mem hslot
  obtain ⟨own, hown⟩ := exists_own_at hheld hi
  exact ⟨i, own, hi, hown⟩

theorem isSome_of_filled (hkeys : (slots.map Slot.key).Nodup) (hheld : held.Fits slots)
    (hfilled : held.filled slots = true) (hslot : slot ∈ slots) (hneeded : slot.needed = true) :
    (held.shown slots slot.key).isSome = true := by
  obtain ⟨i, own, hi, hown⟩ := exists_own hheld hslot
  have hmem : (slot, own) ∈ slots.zip held.own :=
    List.mem_of_getElem? (List.getElem?_zip_eq_some.mpr ⟨hi, hown⟩)
  have hsome := List.all_eq_true.mp hfilled _ hmem
  simp only [hneeded, Bool.not_true, Bool.false_or] at hsome
  rwa [shown_of_slot hkeys hi hown]

theorem filled_of_isSome (hkeys : (slots.map Slot.key).Nodup)
    (h : ∀ slot ∈ slots, slot.needed = true → (held.shown slots slot.key).isSome = true) :
    held.filled slots = true := by
  refine List.all_eq_true.mpr ?_
  rintro ⟨slot, own⟩ hmem
  obtain ⟨i, hi⟩ := List.getElem?_of_mem hmem
  obtain ⟨hslot, hown⟩ := List.getElem?_zip_eq_some.mp hi
  have hsome := h slot (List.mem_of_getElem? hslot)
  rw [shown_of_slot hkeys hslot hown] at hsome
  change (!slot.needed || own.isSome) = true
  cases hneeded : slot.needed with
  | false => rfl
  | true => exact hsome hneeded

/-- What a record is written as holds what the record does, and null where nothing has to be. -/
theorem lookup_members (hkeys : (slots.map Slot.key).Nodup) (hheld : held.Fits slots)
    (hfilled : held.filled slots = true) (key : String) :
    (Members.sort (held.members slots)).lookup key =
      (held.shown slots key).or (absentAt slots key) := by
  have hown : (((slots.map Slot.key).zip (held.own.map (·.getD .null))).map (·.1)).Nodup := by
    rw [List.map_fst_zip (Nat.le_of_eq (by rw [← hheld.length, List.length_map]))]
    exact hkeys
  rw [Members.sort, KeyOrder.lookup_ofList, Held.members, List.reverse_append, List.lookup_append,
    KeyOrder.lookup_reverse hheld.sorted.nodup, KeyOrder.lookup_reverse hown,
    KeyOrder.lookup_zip_map]
  by_cases hkey : key ∈ slots.map Slot.key
  · obtain ⟨slot, hslot, rfl⟩ := List.mem_map.mp hkey
    obtain ⟨i, own, hi, hplace⟩ := exists_own hheld hslot
    have hneeded := isSome_of_filled hkeys hheld hfilled hslot
    rw [shown_of_slot hkeys hi hplace] at hneeded ⊢
    rw [hheld.apart slot.key hkey, Option.none_or,
      KeyOrder.lookup_zip hkeys (getElem?_key hi) hplace, absentAt, find?_slot hkeys hslot]
    cases own with
    | some value => rfl
    | none =>
      have hoptional : slot.needed = false := by
        rw [← Bool.not_eq_true]
        exact fun htrue => Bool.false_ne_true (hneeded htrue)
      simp [hoptional]
  · rw [shown_of_notMem hkey, KeyOrder.lookup_zip_eq_none hkey, absentAt, find?_slot_eq_none hkey]
    rfl

end

/-! ## Reading a record -/

/-- How a record is read when nothing of it is lost: `view` is what its parts hold. -/
structure ReadsRecord {σ α : Type} (slots : List Slot) (view : σ → Held) (start : σ)
    (step : σ → String → Mark → Reading → Except ReadError σ)
    (finish : σ → Mark → Except ReadError α) (out : α → Json) : Prop where
  keys : (slots.map Slot.key).Nodup
  view_start : view start = ⟨slots.map fun _ => none, []⟩
  step_sound : ∀ {before key mark read after}, read.InRange →
    step before key mark read = .ok after → Stepped slots (view before) key read (view after)
  step_total : ∀ {before key mark read value}, read.InRange → ofReading read = .ok value →
    (∀ (i : Nat) (slot : Slot), slots[i]? = some slot → slot.key = key →
      (view before).own[i]? = some none ∧ slot.form.Accepts read value) →
    ∃ after, step before key mark read = .ok after
  finish_sound : ∀ {held stop result}, finish held stop = .ok result →
    (view held).filled slots = true ∧ out result = ofMembers ((view held).members slots)
  finish_total : ∀ {held stop}, (view held).filled slots = true →
    ∃ result, finish held stop = .ok result

namespace ReadsRecord

variable {σ α : Type} {slots : List Slot} {view : σ → Held} {start : σ}
  {step : σ → String → Mark → Reading → Except ReadError σ}
  {finish : σ → Mark → Except ReadError α} {out : α → Json}
  {readings : List (String × Mark × Reading)} {pairs : Members} {first last : σ}

theorem fits_start (h : ReadsRecord slots view start step finish out) :
    (view start).Fits slots := by
  rw [h.view_start]
  exact ⟨by rw [List.length_map, List.length_map], fun _ _ => rfl, KeyOrder.sorted_nil⟩

theorem shown_start (h : ReadsRecord slots view start step finish out) :
    (view start).shown slots = fun _ => none := by
  funext key
  by_cases hkey : key ∈ slots.map Slot.key
  · obtain ⟨slot, hslot, rfl⟩ := List.mem_map.mp hkey
    obtain ⟨i, own, hi, hown⟩ := exists_own h.fits_start hslot
    have hnone : own = none := by
      rw [h.view_start, List.getElem?_map, hi] at hown
      exact (Option.some.inj hown).symm
    rw [shown_of_slot h.keys hi hown, hnone]
  · rw [shown_of_notMem hkey, h.view_start]
    rfl

/-- The run of the steps: what is held last is what the members say, the later ones first. -/
theorem foldlM_sound (h : ReadsRecord slots view start step finish out)
    (hrange : ∀ member ∈ readings, member.2.2.InRange) (hfits : (view first).Fits slots)
    (hlast : readings.foldlM (fun held (key, mark, read) => step held key mark read) first =
      .ok last) :
    (view last).Fits slots ∧ ∃ pairs, ofMemberReadings readings = .ok pairs ∧
      (∀ slot ∈ slots, AllSuit slot ((view first).shown slots) readings pairs) ∧
      ∀ k, (view last).shown slots k =
        ((pairs.reverse.lookup k).map (completeAt slots k)).or ((view first).shown slots k) := by
  induction readings generalizing first with
  | nil =>
    cases hlast
    exact ⟨hfits, [], by rw [ofMemberReadings], fun _ _ => allSuit_nil, fun _ => rfl⟩
  | cons head rest ih =>
    obtain ⟨key, mark, read⟩ := head
    obtain ⟨hread, hrest⟩ := List.forall_mem_cons.mp hrange
    rw [List.foldlM_cons] at hlast
    obtain ⟨next, hnext, hlast⟩ := bind_eq_ok_iff.mp hlast
    obtain ⟨hfits, value, hvalue, hsuits, hshown⟩ := (h.step_sound hread hnext).sound h.keys hfits
    obtain ⟨hfits, pairs, hpairs, hall, hlookup⟩ := ih hrest hfits hlast
    refine ⟨hfits, (key, value) :: pairs, by rw [ofMemberReadings, hvalue, hpairs]; rfl,
      fun slot hslot => (allSuit_cons_iff _ hshown).mpr ⟨hsuits slot hslot, hall slot hslot⟩,
      fun k => ?_⟩
    rw [hlookup, hshown, List.reverse_cons, List.lookup_append, KeyOrder.lookup_cons_pair]
    -- A later member under the same key goes before this one.
    by_cases hk : k = key
    · subst hk
      cases pairs.reverse.lookup k <;> simp
    · simp [hk]

theorem foldlM_total (h : ReadsRecord slots view start step finish out)
    (hrange : ∀ member ∈ readings, member.2.2.InRange) (hfits : (view first).Fits slots)
    (hpairs : ofMemberReadings readings = .ok pairs)
    (hall : ∀ slot ∈ slots, AllSuit slot ((view first).shown slots) readings pairs) :
    ∃ last, readings.foldlM (fun held (key, mark, read) => step held key mark read) first =
      .ok last := by
  induction readings generalizing first pairs with
  | nil => exact ⟨first, rfl⟩
  | cons head rest ih =>
    obtain ⟨key, mark, read⟩ := head
    obtain ⟨hread, hrest⟩ := List.forall_mem_cons.mp hrange
    rw [ofMemberReadings] at hpairs
    obtain ⟨value, hvalue, hpairs⟩ := bind_eq_ok_iff.mp hpairs
    obtain ⟨others, hothers, hpairs⟩ := bind_eq_ok_iff.mp hpairs
    cases hpairs
    have hfirst : ∀ (i : Nat) (slot : Slot), slots[i]? = some slot → slot.key = key →
        (view first).own[i]? = some none ∧ slot.form.Accepts read value := by
      rintro i slot hi rfl
      have hsuits := ((allSuit_cons_iff value fun _ => rfl).mp
        (hall slot (List.mem_of_getElem? hi))).1
      obtain ⟨hfree, haccepts⟩ := hsuits rfl
      obtain ⟨own, hown⟩ := exists_own_at hfits hi
      rw [shown_of_slot h.keys hi hown] at hfree
      exact ⟨hfree ▸ hown, haccepts⟩
    obtain ⟨next, hnext⟩ : ∃ next, step first key mark read = .ok next :=
      h.step_total hread hvalue hfirst
    -- That the other members still suit is read off what this step holds.
    obtain ⟨hfits, value', hvalue', _, hshown⟩ := (h.step_sound hread hnext).sound h.keys hfits
    obtain rfl : value = value' := Except.ok.inj (hvalue.symm.trans hvalue')
    obtain ⟨last, hlast⟩ := ih hrest hfits hothers fun slot hslot =>
      ((allSuit_cons_iff _ hshown).mp (hall slot hslot)).2
    refine ⟨last, ?_⟩
    rw [List.foldlM_cons]
    exact bind_eq_ok_iff.mpr ⟨next, hnext, hlast⟩

theorem run_sound (h : ReadsRecord slots view start step finish out)
    (hrange : ∀ member ∈ readings, member.2.2.InRange)
    (hlast : readings.foldlM (fun held (key, mark, read) => step held key mark read) start =
      .ok last) :
    (view last).Fits slots ∧ ∃ pairs, ofMemberReadings readings = .ok pairs ∧
      (∀ slot ∈ slots, AllSuit slot (fun _ => none) readings pairs) ∧
      ∀ k, (view last).shown slots k =
        ((Members.sort pairs).lookup k).map (completeAt slots k) := by
  obtain ⟨hfits, pairs, hpairs, hall, hshown⟩ := h.foldlM_sound hrange h.fits_start hlast
  rw [h.shown_start] at hall
  refine ⟨hfits, pairs, hpairs, hall, fun k => ?_⟩
  rw [hshown, h.shown_start, Option.or_none, Members.sort, KeyOrder.lookup_ofList]

/-- An object fits a slot if its members suit the slot and what is needed is held. -/
theorem slotFits_of_run {slot : Slot} {held : Held}
    (hsuit : AllSuit slot (fun _ => none) readings pairs)
    (hshown : held.shown slots slot.key =
      ((Members.sort pairs).lookup slot.key).map (completeAt slots slot.key))
    (hneeded : slot.needed = true → (held.shown slots slot.key).isSome = true) :
    slot.fits (Members.sort pairs) = true := by
  rw [hshown, Option.isSome_map] at hneeded
  unfold Slot.fits
  split
  · rename_i value hvalue
    rw [Members.sort, KeyOrder.lookup_ofList] at hvalue
    exact hsuit.fits _ (List.mem_reverse.mp (KeyOrder.mem_of_lookup hvalue)) rfl
  · rename_i hnone
    rw [hnone] at hneeded
    simpa using hneeded

theorem faithful (view : σ → Held) (h : ReadsRecord slots view start step finish out)
    (expected : String) :
    Faithful (expectRecord expected start step finish) (.record slots) out where
  sound := by
    intro read result hrange hresult
    unfold expectRecord at hresult
    split at hresult
    · rename_i begin readings ending
      obtain ⟨last, hlast, hresult⟩ := bind_eq_ok_iff.mp hresult
      obtain ⟨stop, rfl, hresult⟩ := bind_eq_ok_iff.mp hresult
      cases hrange with
      | object hrange =>
        obtain ⟨hfits, pairs, hpairs, hall, hshown⟩ := h.run_sound hrange hlast
        obtain ⟨hfilled, hout⟩ := h.finish_sound hresult
        -- Each slot fits by what is held of it, and both sides of the equation are in key order.
        refine ⟨ofMembers pairs, by rw [ofReading, hpairs]; rfl, ⟨?_, ?_⟩, hout.trans ?_⟩
        · exact List.all_eq_true.mpr fun slot hslot => slotFits_of_run (hall slot hslot)
            (hshown slot.key) (isSome_of_filled h.keys hfits hfilled hslot)
        · refine List.all_eq_true.mpr fun slot hslot => ?_
          have hcount := (hall slot hslot).count
          rw [Option.isSome_none, Bool.toNat_false, Nat.zero_add] at hcount
          exact Bool.and_eq_true_iff.mpr ⟨decide_eq_true hcount, (hall slot hslot).once⟩
        · refine congrArg Json.object (KeyOrder.sorted_ext (KeyOrder.sorted_ofList _)
            (sorted_complete (KeyOrder.sorted_ofList pairs)) fun k => ?_)
          have hmembers := lookup_members h.keys hfits hfilled k
          rw [hshown] at hmembers
          exact hmembers.trans (lookup_complete h.keys k).symm
    · exact absurd hresult mismatch_ne_ok
  total := by
    intro read value hrange hvalue haccepts
    obtain ⟨members, rfl, hslots⟩ := exists_object_of_fits haccepts.fits
    obtain ⟨begin, readings, stop, pairs, rfl, hpairs, rfl⟩ := exists_object_of_ofReading hvalue
    have honce := List.all_eq_true.mp haccepts.once
    cases hrange with
    | object hrange =>
      obtain ⟨last, hlast⟩ := h.foldlM_total hrange h.fits_start hpairs fun slot hslot => by
        rw [h.shown_start]
        exact allSuit_of_fits hpairs (hslots slot hslot) (honce slot hslot)
      -- The run that was found is sound, so what it holds can be read off the members.
      obtain ⟨_, pairs', hpairs', _, hshown⟩ := h.run_sound hrange hlast
      obtain rfl : pairs = pairs' := Except.ok.inj (hpairs.symm.trans hpairs')
      have hfilled : (view last).filled slots = true := by
        refine filled_of_isSome h.keys fun slot hslot hneeded => ?_
        have hslotfits := hslots slot hslot
        rw [hshown, Option.isSome_map]
        cases hlookup : (Members.sort pairs).lookup slot.key with
        | some value => rfl
        | none =>
          rw [Slot.fits, hlookup, hneeded] at hslotfits
          cases hslotfits
      obtain ⟨result, hresult⟩ : ∃ result, finish last stop = .ok result := h.finish_total hfilled
      exact ⟨result, by rw [expectRecord, hlast]; exact hresult⟩

end ReadsRecord

end BindingGen.Schema
