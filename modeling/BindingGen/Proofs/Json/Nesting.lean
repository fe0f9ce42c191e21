import BindingGen.Proofs.Json.Range
import BindingGen.Proofs.Members
import BindingGen.Proofs.Outcome

/-!
# The nesting of values

A value that was read is nested no deeper than its reading, and the keys of its objects are in
order. Its numbers are those of all values in it.
-/

namespace BindingGen.Json

/-- A value nested at most so deep, whose integers fit 64 bits. -/
inductive Within : Nat → Json → Prop
  | scalar {depth : Nat} (value : Scalar) (h : ∀ n, value = .number n → n.Fits) :
      Within (depth + 1) value.toJson
  | array {depth : Nat} {items : List Json} (h : ∀ item ∈ items, Within (depth + 1) item) :
      Within (depth + 2) (.array items)
  | object {depth : Nat} {members : Members}
      (h : ∀ member ∈ members, Within (depth + 1) member.2) : Within (depth + 2) (.object members)

/-- A value whose objects hold each key once, the smaller keys first. -/
inductive Ordered : Json → Prop
  | scalar (value : Scalar) : Ordered value.toJson
  | array {items : List Json} (h : ∀ item ∈ items, Ordered item) : Ordered (.array items)
  | object {members : Members} (hsorted : KeyOrder.Sorted members)
      (h : ∀ member ∈ members, Ordered member.2) : Ordered (.object members)

/-! ## Values of readings -/

/-- What a reading within a depth says is within it, and in order. -/
structure Regular (depth : Nat) (value : Json) : Prop where
  within : value.Within depth
  ordered : value.Ordered

section

variable {depth : Nat} {readings : List (String × Mark × Reading)} {items : List Reading}
  {read : Reading} {value : Json}

theorem regular_ofReadings {values : List Json}
    (h : ∀ item ∈ items, ∀ value, ofReading item = .ok value → Regular depth value)
    (hvalues : ofReadings items = .ok values) : ∀ value ∈ values, Regular depth value := by
  induction items generalizing values with
  | nil =>
    rw [ofReadings] at hvalues
    cases hvalues
    exact List.forall_mem_nil _
  | cons item items ih =>
    obtain ⟨hitem, hitems⟩ := List.forall_mem_cons.mp h
    rw [ofReadings] at hvalues
    obtain ⟨value, hvalue, hvalues⟩ := bind_eq_ok_iff.mp hvalues
    obtain ⟨others, hothers, hvalues⟩ := bind_eq_ok_iff.mp hvalues
    cases hvalues
    exact List.forall_mem_cons.mpr ⟨hitem value hvalue, ih hitems hothers⟩

theorem regular_ofMemberReadings {pairs : Members}
    (h : ∀ member ∈ readings, ∀ value, ofReading member.2.2 = .ok value → Regular depth value)
    (hpairs : ofMemberReadings readings = .ok pairs) :
    ∀ member ∈ pairs, Regular depth member.2 := by
  induction readings generalizing pairs with
  | nil =>
    rw [ofMemberReadings] at hpairs
    cases hpairs
    exact List.forall_mem_nil _
  | cons head rest ih =>
    obtain ⟨key, mark, read⟩ := head
    obtain ⟨hread, hrest⟩ := List.forall_mem_cons.mp h
    rw [ofMemberReadings] at hpairs
    obtain ⟨value, hvalue, hpairs⟩ := bind_eq_ok_iff.mp hpairs
    obtain ⟨others, hothers, hpairs⟩ := bind_eq_ok_iff.mp hpairs
    cases hpairs
    exact List.forall_mem_cons.mpr ⟨hread value hvalue, ih hrest hothers⟩

theorem regular_ofReading (hread : read.Within depth) (h : ofReading read = .ok value) :
    Regular depth value := by
  induction hread generalizing value with
  | @scalar depth scalar behind hfits =>
    rw [ofReading] at h
    cases h
    exact ⟨.scalar scalar hfits, .scalar scalar⟩
  | array _ ih =>
    rw [ofReading] at h
    obtain ⟨values, hvalues, h⟩ := bind_eq_ok_iff.mp h
    cases h
    have hall := regular_ofReadings (fun item hitem value => ih item hitem) hvalues
    exact ⟨.array fun item hitem => (hall item hitem).within,
      .array fun item hitem => (hall item hitem).ordered⟩
  | object _ ih =>
    rw [ofReading] at h
    obtain ⟨pairs, hpairs, h⟩ := bind_eq_ok_iff.mp h
    obtain ⟨stop, _, h⟩ := bind_eq_ok_iff.mp h
    cases h
    have hall := regular_ofMemberReadings (fun member hmember value => ih member hmember) hpairs
    have hsorted : ∀ member ∈ Members.sort pairs, Regular _ member.2 := fun member hmember =>
      hall member (KeyOrder.mem_ofList hmember)
    exact ⟨.object fun member hmember => (hsorted member hmember).within,
      .object (KeyOrder.sorted_ofList pairs) fun member hmember => (hsorted member hmember).ordered⟩
  | fault =>
    rw [ofReading] at h
    cases h
  -- What was cut off at its bracket has a fault in place of its first item.
  | cutArray =>
    rw [ofReading, ofReadings, ofReading] at h
    cases h
  | cutObject =>
    rw [ofReading, ofMemberReadings] at h
    cases h

end

/-! ## Numbers -/

mutual

def numbers : Json → List Number
  | number n => [n]
  | array items => itemNumbers items
  | object members => memberNumbers members
  | _ => []

def itemNumbers : List Json → List Number
  | [] => []
  | item :: rest => item.numbers ++ itemNumbers rest

def memberNumbers : List (String × Json) → List Number
  | [] => []
  | (_, value) :: rest => value.numbers ++ memberNumbers rest

end

def Number.isInteger : Number → Bool
  | integer _ => true
  | double _ => false

def Integral (value : Json) : Prop := ∀ n ∈ value.numbers, n.isInteger = true

instance (value : Json) : Decidable value.Integral :=
  inferInstanceAs (Decidable (∀ n ∈ value.numbers, n.isInteger = true))

theorem integral_array_iff {items : List Json} :
    (Json.array items).Integral ↔ ∀ item ∈ items, item.Integral := by
  induction items with
  | nil => simp [Integral, numbers, itemNumbers]
  | cons item rest ih =>
    rw [List.forall_mem_cons, ← ih, Integral, numbers, itemNumbers, List.forall_mem_append,
      Integral, Integral, numbers]

theorem integral_object_iff {members : Members} :
    (Json.object members).Integral ↔ ∀ member ∈ members, member.2.Integral := by
  induction members with
  | nil => simp [Integral, numbers, memberNumbers]
  | cons member rest ih =>
    rw [List.forall_mem_cons, ← ih, Integral, numbers, memberNumbers, List.forall_mem_append,
      Integral, Integral, numbers]

/-- A value that can be read back exactly: nested at most so deep, with integers only. -/
structure Plain (depth : Nat) (value : Json) : Prop where
  within : value.Within depth
  integral : value.Integral

theorem plain_array {depth : Nat} {items : List Json} (h : ∀ item ∈ items, Plain (depth + 1) item) :
    Plain (depth + 2) (.array items) :=
  ⟨.array fun item hitem => (h item hitem).within,
    integral_array_iff.mpr fun item hitem => (h item hitem).integral⟩

theorem plain_object {depth : Nat} {members : Members}
    (h : ∀ member ∈ members, Plain (depth + 1) member.2) : Plain (depth + 2) (.object members) :=
  ⟨.object fun member hmember => (h member hmember).within,
    integral_object_iff.mpr fun member hmember => (h member hmember).integral⟩

end BindingGen.Json
