import BindingGen.Json.Reading

/-!
# The extent of a reading

No reading is nested deeper than it may be, and none of its integers is beyond 64 bits: a number
that is too large or too small for that is read as a `Double`.
-/

namespace BindingGen.Json

/-! ## Numbers -/

/-- Not below the integers of 64 bits with a sign. -/
def Number.InRange : Number → Prop
  | .integer n => -Int.pow 2 63 ≤ n
  | .double _ => True

/-- An integer fits 64 bits, with a sign or without. -/
def Number.Fits : Number → Prop
  | .integer n => -Int.pow 2 63 ≤ n ∧ n < Int.pow 2 64
  | .double _ => True

theorem Number.Fits.inRange {n : Number} (h : n.Fits) : n.InRange := by
  cases n with
  | integer n => exact h.1
  | double x => trivial

theorem addWhole_lt {s : Significand} (h : s.value < Nat.pow 2 64) (digits : List Char) :
    (s.addWhole digits).value < Nat.pow 2 64 := by
  induction digits generalizing s with
  | nil => exact h
  | cons d ds ih =>
    rw [Significand.addWhole]
    split
    · rename_i hgrown
      exact ih hgrown
    · exact h

variable {negative : Bool} {s : Significand} {text behind : List Char} {n : Number}

theorem fits_withExponent (h : withExponent negative s text = .ok (n, behind)) : n.Fits := by
  unfold withExponent at h
  split at h
  split at h
  · cases h
  · split at h
    · cases h
    · dsimp only at h
      split at h
      · split at h
        · cases h
        · cases h
          trivial
      · split at h
        · cases h
          trivial
        · cases h

theorem fits_finishNumber (hs : s.value < Nat.pow 2 64)
    (h : finishNumber negative s text = .ok (n, behind)) : n.Fits := by
  unfold finishNumber at h
  split at h
  · dsimp only at h
    split at h
    · cases h
    · split at h
      · exact fits_withExponent h
      · exact fits_withExponent h
      · split at h
        · cases h
          trivial
        · cases h
  · exact fits_withExponent h
  · exact fits_withExponent h
  · dsimp only at h
    split at h
    -- Only here is an integer left: its digits fit, and so does its negative if there is a sign.
    · rename_i hfits
      cases h
      simp only [Bool.and_eq_true, Bool.not_eq_true', Bool.and_eq_false_imp, Bool.or_eq_false_iff,
        decide_eq_false_iff_not] at hfits
      have hlow : Int.pow 2 63 = Nat.pow 2 63 := rfl
      have hhigh : Int.pow 2 64 = Nat.pow 2 64 := rfl
      have hzero : (0 : Int) ≤ Nat.pow 2 63 := Int.natCast_nonneg _
      rw [Number.Fits, hlow, hhigh]
      split
      · rename_i hnegative
        have hlimit := (hfits.2 hnegative).2
        omega
      · omega
    · split at h
      · cases h
        trivial
      · cases h

theorem fits_readUnsigned (h : readUnsigned negative text = .ok (n, behind)) : n.Fits := by
  unfold readUnsigned at h
  split at h
  · cases h
  · split at h
    · cases h
    · exact fits_finishNumber (by decide) h
  · split at h
    · exact fits_finishNumber (addWhole_lt (by decide) _) h
    · cases h

theorem fits_readNumber (h : readNumber text = .ok (n, behind)) : n.Fits := by
  unfold readNumber at h
  split at h <;> exact fits_readUnsigned h

/-! ## Readings -/

namespace Reading

/-- A reading none of whose integers is below the range. -/
inductive InRange : Reading → Prop
  | scalar {value : Scalar} {behind : List Char}
      (h : ∀ n, value = .number n → n.InRange) : InRange (.scalar value behind)
  | array {start : List Char} {items : List Reading} (h : ∀ item ∈ items, InRange item) :
      InRange (.array start items)
  | object {start : List Char} {members : List (String × Mark × Reading)}
      {ending : Except ReadError Mark} (h : ∀ member ∈ members, InRange member.2.2) :
      InRange (.object start members ending)
  | fault {error : ReadError} : InRange (.fault error)

/-- A reading nested at most so deep, whose integers fit 64 bits. An array or object that is too
deep is cut off at its bracket. -/
inductive Within : Nat → Reading → Prop
  | scalar {depth : Nat} {value : Scalar} {behind : List Char}
      (h : ∀ n, value = .number n → n.Fits) : Within (depth + 1) (.scalar value behind)
  | array {depth : Nat} {start : List Char} {items : List Reading}
      (h : ∀ item ∈ items, Within (depth + 1) item) : Within (depth + 2) (.array start items)
  | object {depth : Nat} {start : List Char} {members : List (String × Mark × Reading)}
      {ending : Except ReadError Mark} (h : ∀ member ∈ members, Within (depth + 1) member.2.2) :
      Within (depth + 2) (.object start members ending)
  | fault {depth : Nat} {error : ReadError} : Within depth (.fault error)
  | cutArray {start : List Char} {error : ReadError} : Within 1 (.array start [.fault error])
  | cutObject {start : List Char} {error : ReadError} :
      Within 1 (.object start [] (.error error))

theorem Within.inRange {depth : Nat} {read : Reading} (h : read.Within depth) : read.InRange := by
  induction h with
  | scalar h => exact .scalar fun n hn => (h n hn).inRange
  | array _ ih => exact .array ih
  | object _ ih => exact .object ih
  | fault => exact .fault
  | cutArray => exact .array fun _ hitem => List.mem_singleton.mp hitem ▸ .fault
  | cutObject => exact .object (List.forall_mem_nil _)

theorem within_word {depth : Nat} {letters rest : List Char} {value : Scalar}
    (h : ∀ n, value = .number n → n.Fits) :
    (readScalar.word letters value rest).1.Within (depth + 1) := by
  unfold readScalar.word
  split
  · exact .scalar h
  · exact .fault

theorem within_readScalar (depth : Nat) (text : List Char) :
    (readScalar text).1.Within (depth + 1) := by
  unfold readScalar
  split
  · exact .fault
  · exact within_word (fun _ h => nomatch h)
  · exact within_word (fun _ h => nomatch h)
  · exact within_word (fun _ h => nomatch h)
  · split
    · exact .scalar fun _ h => nomatch h
    · exact .fault
  · split
    · split
      · rename_i hread
        refine .scalar fun n h => ?_
        cases h
        exact fits_readNumber hread
      · exact .fault
    · exact .fault

section

variable {depth : Nat} {element : List Char → Step Reading}

theorem within_found (helement : ∀ text, (element text).1.Within depth) {text : List Char}
    {found : Reading} {behind : Option (List Char)} (h : element text = (found, behind)) :
    found.Within depth := by
  have hfound := helement text
  rwa [h] at hfound

theorem within_readItems (helement : ∀ text, (element text).1.Within depth) (fuel : Nat)
    (first : Bool) (text : List Char) :
    ∀ item ∈ (readItems element fuel first text).1, item.Within depth := by
  induction fuel generalizing first text with
  | zero => exact List.forall_mem_nil _
  | succ fuel ih =>
    unfold readItems
    dsimp only
    -- Reading ends without an item, in a fault, in a last item, or goes on behind an item.
    repeat' split
    all_goals first
      | exact List.forall_mem_nil _
      | exact List.forall_mem_singleton.mpr .fault
      | exact List.forall_mem_singleton.mpr (within_found helement (by assumption))
      | exact List.forall_mem_cons.mpr ⟨within_found helement (by assumption), ih false _⟩

theorem within_readMembers (helement : ∀ text, (element text).1.Within depth) (fuel : Nat)
    (first : Bool) (text : List Char) :
    ∀ member ∈ (readMembers element fuel first text).members, member.2.2.Within depth := by
  induction fuel generalizing first text with
  | zero => exact List.forall_mem_nil _
  | succ fuel ih =>
    unfold readMembers
    dsimp only
    repeat' split
    all_goals first
      | exact List.forall_mem_nil _
      | exact List.forall_mem_singleton.mpr .fault
      | exact List.forall_mem_singleton.mpr (within_found helement (by assumption))
      | exact List.forall_mem_cons.mpr ⟨within_found helement (by assumption), ih false _⟩

end

/-- Whatever a text is, its reading is nested no deeper than it may be. -/
theorem within_readValue (depth : Nat) (text : List Char) :
    (readValue depth text).1.Within depth := by
  induction depth generalizing text with
  | zero => exact .fault
  | succ depth ih =>
    unfold readValue
    split
    · split
      · rename_i hdepth
        exact hdepth ▸ .cutArray
      · obtain ⟨inner, rfl⟩ := Nat.exists_eq_succ_of_ne_zero ‹depth ≠ 0›
        exact .array (within_readItems ih _ true _)
    · split
      · rename_i hdepth
        exact hdepth ▸ .cutObject
      · obtain ⟨inner, rfl⟩ := Nat.exists_eq_succ_of_ne_zero ‹depth ≠ 0›
        exact .object (within_readMembers ih _ true _)
    · exact within_readScalar depth text

/-- Whatever a text is, no integer in its reading is below the range. -/
theorem inRange_readValue (depth : Nat) (text : List Char) : (readValue depth text).1.InRange :=
  (within_readValue depth text).inRange

end Reading

end BindingGen.Json
