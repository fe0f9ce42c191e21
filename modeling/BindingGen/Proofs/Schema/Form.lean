import BindingGen.Json.Reading
import BindingGen.Proofs.Members
import BindingGen.Schema.Kind

/-!
# Forms of schema documents

The form of a document says which values are documents of a kind, which readings write the keys of
their records only once, and what is added to a value for the keys that may be absent.
-/

namespace BindingGen.Schema

open Json

/-! ## Forms -/

/-- A form: the values that have it, the readings that write no key of it twice, and what a value of
the form is completed to. -/
structure Form where
  fits : Json → Bool
  once : Reading → Bool
  complete : Json → Json

/-- A key of a record, which may have to be there, and the form of its value. -/
structure Slot where
  key : String
  needed : Bool
  form : Form

namespace Form

/-- What a reading and its value have to be for a document of the form. -/
structure Accepts (form : Form) (read : Reading) (value : Json) : Prop where
  fits : form.fits value = true
  once : form.once read = true

def text : Form where
  fits
    | .string _ => true
    | _ => false
  once _ := true
  complete value := value

def integer : Form where
  fits
    | .number (.integer n) => -Int.pow 2 63 ≤ n ∧ n < Int.pow 2 63
    | _ => false
  once _ := true
  complete value := value

def orNull (form : Form) : Form where
  fits
    | .null => true
    | value => form.fits value
  once
    | .scalar .null _ => true
    | read => form.once read
  complete
    | .null => .null
    | value => form.complete value

def list (form : Form) : Form where
  fits
    | .array items => items.all form.fits
    | _ => false
  once
    | .array _ items => items.all form.once
    | _ => true
  complete
    | .array items => .array (items.map form.complete)
    | value => value

end Form

/-! ## Records -/

namespace Slot

def given (key : String) (form : Form) : Slot := ⟨key, true, form⟩

/-- A key that may be absent, which is as if its value was null. -/
def optional (key : String) (form : Form) : Slot := ⟨key, false, form.orNull⟩

def fits (slot : Slot) (members : Members) : Bool :=
  match members.lookup slot.key with
  | some value => slot.form.fits value
  | none => !slot.needed

/-- Whether members write the key of a slot at most once, and its value no key twice. -/
def once (slot : Slot) (members : List (String × Mark × Reading)) : Bool :=
  members.countP (·.1 == slot.key) ≤ 1 &&
    members.all fun member => member.1 != slot.key || slot.form.once member.2.2

def complete (members : Members) (slot : Slot) : Members :=
  match members.lookup slot.key with
  | some value => members.insert slot.key (slot.form.complete value)
  | none => if slot.needed then members else members.insert slot.key .null

end Slot

/-- An object with some keys of its own, among any others. -/
def Form.record (slots : List Slot) : Form where
  fits
    | .object members => slots.all fun slot => slot.fits members
    | _ => false
  once
    | .object _ members _ => slots.all fun slot => slot.once members
    | _ => true
  complete
    | .object members => .object (slots.foldl Slot.complete members)
    | value => value

/-! ## Documents -/

namespace Kind

def memberSlots : Kind → List Slot
  | enums =>
    [.optional "name" .text, .optional "value" .integer, .optional "comment" .text]
  | structs => [.given "name" .text, .given "c_type" .text, .optional "comment" .text]

def membersKey : Kind → String
  | enums => "values"
  | structs => "fields"

def definitionSlots (kind : Kind) : List Slot :=
  [.given "name" .text, .given kind.membersKey (.list (.record kind.memberSlots))]

def form (kind : Kind) : Form := .list (.record kind.definitionSlots)

end Kind

/-! ## Completed members -/

/-- What becomes of the value of a key. -/
def completeAt (slots : List Slot) (key : String) : Json → Json :=
  match slots.find? (·.key == key) with
  | some slot => slot.form.complete
  | none => fun value => value

/-- What is added for a key that is absent. -/
def absentAt (slots : List Slot) (key : String) : Option Json :=
  match slots.find? (·.key == key) with
  | some slot => if slot.needed then none else some .null
  | none => none

section

variable {slots : List Slot} {members : Members}

theorem find?_slot {slot : Slot} (hkeys : (slots.map Slot.key).Nodup) (hslot : slot ∈ slots) :
    slots.find? (·.key == slot.key) = some slot := by
  induction slots with
  | nil => cases hslot
  | cons head rest ih =>
    rw [List.map_cons, List.nodup_cons] at hkeys
    rcases List.mem_cons.mp hslot with rfl | hslot
    · exact List.find?_cons_of_pos (beq_self_eq_true slot.key)
    · have hne : head.key ≠ slot.key := fun heq => hkeys.1 (heq ▸ List.mem_map_of_mem hslot)
      rw [List.find?_cons, beq_eq_false_iff_ne.mpr hne]
      exact ih hkeys.2 hslot

theorem find?_slot_eq_none {key : String} (hkey : key ∉ slots.map Slot.key) :
    slots.find? (·.key == key) = none := by
  rw [List.find?_eq_none]
  exact fun slot hslot heq => hkey (List.mem_map.mpr ⟨slot, hslot, beq_iff_eq.mp heq⟩)

theorem sorted_complete (h : KeyOrder.Sorted members) :
    KeyOrder.Sorted (slots.foldl Slot.complete members) := by
  induction slots generalizing members with
  | nil => exact h
  | cons slot slots ih =>
    refine ih ?_
    unfold Slot.complete
    split
    · exact KeyOrder.sorted_insert h _ _
    · split
      · exact h
      · exact KeyOrder.sorted_insert h _ _

theorem lookup_slotComplete (slot : Slot) (key : String) :
    (Slot.complete members slot).lookup key =
      if key = slot.key then
        ((members.lookup key).map slot.form.complete).or (if slot.needed then none else some .null)
      else members.lookup key := by
  unfold Slot.complete
  by_cases h : key = slot.key
  · rw [if_pos h, h]
    cases hlookup : members.lookup slot.key with
    | some value => exact (KeyOrder.lookup_insert ..).trans (if_pos rfl)
    | none =>
      cases slot.needed with
      | true => exact hlookup
      | false => exact (KeyOrder.lookup_insert ..).trans (if_pos rfl)
  · rw [if_neg h]
    split
    · exact (KeyOrder.lookup_insert ..).trans (if_neg h)
    · split
      · rfl
      · exact (KeyOrder.lookup_insert ..).trans (if_neg h)

/-- Completion changes each value by the form of its key, and adds what is absent. -/
theorem lookup_complete (hkeys : (slots.map Slot.key).Nodup) (key : String) :
    (slots.foldl Slot.complete members).lookup key =
      ((members.lookup key).map (completeAt slots key)).or (absentAt slots key) := by
  induction slots generalizing members with
  | nil => simp [absentAt, completeAt, Option.map_id']
  | cons slot slots ih =>
    have hown := find?_slot hkeys List.mem_cons_self
    rw [List.map_cons, List.nodup_cons] at hkeys
    rw [List.foldl_cons, ih hkeys.2, lookup_slotComplete]
    by_cases h : key = slot.key
    · subst h
      simp [completeAt, absentAt, find?_slot_eq_none hkeys.1, hown]
    · have hfind : (slot :: slots).find? (·.key == key) = slots.find? (·.key == key) :=
        List.find?_cons_of_neg (by simpa using Ne.symm h)
      rw [if_neg h, absentAt, absentAt, completeAt, completeAt, hfind]

end

end BindingGen.Schema
