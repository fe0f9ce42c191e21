import BindingGen.Proofs.Json.Nesting
import BindingGen.Proofs.Json.Words

/-!
# Written values

What is read of the text that a value is written as: the value again, if it is nested no deeper than
may be read and has only integers that fit 64 bits.
-/

namespace BindingGen.Json

/-! ## Readings of written values -/

/-- The text from behind an item, with the items that follow it. -/
def itemsBehind : List Json → List Char → List Char
  | [], behind => behind
  | item :: rest, behind => ',' :: (item.textChars ++ itemsBehind rest behind)

def valueText (value : Json) (behind : List Char) : List Char := ':' :: (value.textChars ++ behind)

def membersBehind : Members → List Char → List Char
  | [], behind => behind
  | (key, value) :: rest, behind =>
    ',' :: (stringText key ++ valueText value (membersBehind rest behind))

mutual

/-- The reading of a value where it is written before some text. -/
def reading : Json → List Char → Reading
  | null, behind => .scalar .null behind
  | bool b, behind => .scalar (.bool b) behind
  | number n, behind => .scalar (.number n) behind
  | string s, behind => .scalar (.string s) behind
  | array items, behind =>
    .array ('[' :: (itemChars items ++ ']' :: behind)) (itemReadings items (']' :: behind))
  | object members, behind =>
    .object ('\x7b' :: (memberChars members ++ '\x7d' :: behind))
      (memberReadings members ('\x7d' :: behind)) (.ok (.before behind))

def itemReadings : List Json → List Char → List Reading
  | [], _ => []
  | item :: rest, behind => item.reading (itemsBehind rest behind) :: itemReadings rest behind

def memberReadings : List (String × Json) → List Char → List (String × Mark × Reading)
  | [], _ => []
  | (key, value) :: rest, behind =>
    (key, .before (valueText value (membersBehind rest behind)),
      value.reading (membersBehind rest behind)) :: memberReadings rest behind

end

theorem reading_scalar (value : Scalar) (behind : List Char) :
    value.toJson.reading behind = .scalar value behind := by
  cases value <;> simp [Scalar.toJson, reading]

theorem membersBehind_append (first second : Members) (behind : List Char) :
    membersBehind (first ++ second) behind =
      membersBehind first (membersBehind second behind) := by
  induction first with
  | nil => rfl
  | cons member rest ih => rw [List.cons_append, membersBehind, membersBehind, ih]

theorem memberReadings_append (first second : Members) (behind : List Char) :
    memberReadings (first ++ second) behind =
      memberReadings first (membersBehind second behind) ++ memberReadings second behind := by
  induction first with
  | nil => simp [memberReadings]
  | cons member rest ih =>
    rw [List.cons_append, memberReadings, memberReadings, membersBehind_append, ih,
      List.cons_append]

/-! ## Values of readings -/

section

variable {value : Json}

theorem ofReadings_itemReadings {items : List Json}
    (h : ∀ item ∈ items, ∀ behind, ofReading (item.reading behind) = .ok item)
    (behind : List Char) : ofReadings (itemReadings items behind) = .ok items := by
  induction items with
  | nil => rw [itemReadings, ofReadings]
  | cons item rest ih =>
    obtain ⟨hitem, hrest⟩ := List.forall_mem_cons.mp h
    rw [itemReadings, ofReadings, hitem, ih hrest]
    rfl

theorem ofMemberReadings_memberReadings {members : Members}
    (h : ∀ member ∈ members, ∀ behind, ofReading (member.2.reading behind) = .ok member.2)
    (behind : List Char) : ofMemberReadings (memberReadings members behind) = .ok members := by
  induction members with
  | nil => rw [memberReadings, ofMemberReadings]
  | cons member rest ih =>
    obtain ⟨hmember, hrest⟩ := List.forall_mem_cons.mp h
    rw [memberReadings, ofMemberReadings, hmember, ih hrest]
    rfl

theorem Ordered.ofReading_reading (h : value.Ordered) (behind : List Char) :
    ofReading (value.reading behind) = .ok value := by
  induction h generalizing behind with
  | scalar value => rw [reading_scalar, ofReading]
  | array _ ih =>
    rw [reading, ofReading, ofReadings_itemReadings ih]
    rfl
  | object hsorted _ ih =>
    rw [reading, ofReading, ofMemberReadings_memberReadings ih]
    exact congrArg (fun members => Except.ok (Json.object members))
      (KeyOrder.ofList_of_sorted hsorted)

end

/-! ## Values between others -/

section

variable {element : List Char → Reading.Step Reading} {items : List Json} {members : Members}
  {value : Json} {fuel : Nat} {behind : List Char}

/-- A value that is read from its text, in front of any text that closes it. -/
structure ReadBack (element : List Char → Reading.Step Reading) (value : Json) : Prop where
  opens : ∃ c rest, value.textChars = c :: rest ∧ isSpace c = false ∧ c ≠ ']'
  read : ∀ behind, Closes behind →
    element (value.textChars ++ behind) = (value.reading behind, some behind)

theorem skipSpace_cons {c : Char} (h : isSpace c = false) (rest : List Char) :
    skipSpace (c :: rest) = c :: rest := List.dropWhile_cons_of_neg (by simp [h])

theorem ReadBack.skipSpace_eq (h : ReadBack element value) (behind : List Char) :
    skipSpace (value.textChars ++ behind) = value.textChars ++ behind := by
  obtain ⟨c, rest, htext, hspace, _⟩ := h.opens
  rw [htext]
  exact skipSpace_cons hspace _

theorem closes_itemsBehind (items : List Json) (behind : List Char) :
    Closes (itemsBehind items (']' :: behind)) := by
  cases items with
  | nil => exact closes_cons (by decide) behind
  | cons item rest => exact closes_cons (by decide) _

theorem closes_membersBehind (members : Members) (behind : List Char) :
    Closes (membersBehind members ('\x7d' :: behind)) := by
  cases members with
  | nil => exact closes_cons (by decide) behind
  | cons member rest => exact closes_cons (by decide) _

/-! ## Items -/

theorem itemChars_append (item : Json) (rest : List Json) (behind : List Char) :
    itemChars (item :: rest) ++ behind = item.textChars ++ itemsBehind rest behind := by
  induction rest generalizing item with
  | nil => rw [itemChars, itemsBehind]
  | cons next rest ih => rw [itemChars, List.append_assoc, List.cons_append, ih, itemsBehind]

theorem length_lt_itemsBehind (items : List Json) (behind : List Char) :
    items.length < (itemsBehind items (']' :: behind)).length := by
  induction items with
  | nil => exact Nat.zero_lt_succ _
  | cons item rest ih =>
    rw [itemsBehind, List.length_cons, List.length_cons, List.length_append]
    omega

/-- There is fuel for every item, since each takes a character. -/
theorem length_lt_itemChars (items : List Json) (behind : List Char) :
    items.length < (itemChars items ++ ']' :: behind).length + 1 := by
  cases items with
  | nil => exact Nat.zero_lt_succ _
  | cons item rest =>
    have hrest := length_lt_itemsBehind rest behind
    rw [itemChars_append, List.length_append, List.length_cons]
    omega

/-- Reading goes on behind an item that closes, whether it is the first one or follows a comma. -/
theorem readItems_item (h : ReadBack element value) (hbehind : Closes behind) {items : List Reading}
    {rest : Option (List Char)}
    (hmore : Reading.readItems element fuel false behind = (items, rest)) :
    Reading.readItems element (fuel + 1) true (value.textChars ++ behind) =
        (value.reading behind :: items, rest) ∧
      Reading.readItems element (fuel + 1) false (',' :: (value.textChars ++ behind)) =
        (value.reading behind :: items, rest) := by
  obtain ⟨c, text, htext, hspace, hbracket⟩ := h.opens
  have hread := h.read behind hbehind
  rw [htext, List.cons_append] at hread ⊢
  constructor
  · rw [Reading.readItems, skipSpace_cons hspace]
    simp [hread, hmore]
  · rw [Reading.readItems, skipSpace_cons (by decide)]
    simp only [↓Char.isValue, Char.reduceEq, imp_self, Bool.false_eq_true, ↓reduceIte,
      skipSpace_cons hspace]
    split
    · rename_i heq
      cases heq
    · rename_i heq
      cases heq
      exact absurd rfl hbracket
    · rw [hread]
      dsimp only
      rw [hmore]

theorem readItems_close (first : Bool) (behind : List Char) :
    Reading.readItems element (fuel + 1) first (']' :: behind) = ([], some behind) := by
  rw [Reading.readItems, skipSpace_cons (by decide)]
  rfl

theorem readItems_itemsBehind (hitems : ∀ item ∈ items, ReadBack element item)
    (hfuel : items.length < fuel) (behind : List Char) :
    Reading.readItems element fuel false (itemsBehind items (']' :: behind)) =
      (itemReadings items (']' :: behind), some behind) := by
  induction items generalizing fuel with
  | nil =>
    obtain ⟨fuel, rfl⟩ := Nat.exists_eq_succ_of_ne_zero (Nat.ne_of_gt hfuel)
    rw [itemsBehind, readItems_close, itemReadings]
  | cons item rest ih =>
    obtain ⟨fuel, rfl⟩ := Nat.exists_eq_succ_of_ne_zero (Nat.ne_of_gt (Nat.zero_lt_of_lt hfuel))
    obtain ⟨hitem, hrest⟩ := List.forall_mem_cons.mp hitems
    have hmore := ih hrest (Nat.lt_of_succ_lt_succ hfuel)
    rw [itemsBehind, itemReadings]
    exact (readItems_item hitem (closes_itemsBehind rest behind) hmore).2

theorem readItems_itemChars (hitems : ∀ item ∈ items, ReadBack element item)
    (hfuel : items.length < fuel) (behind : List Char) :
    Reading.readItems element fuel true (itemChars items ++ ']' :: behind) =
      (itemReadings items (']' :: behind), some behind) := by
  obtain ⟨fuel, rfl⟩ := Nat.exists_eq_succ_of_ne_zero (Nat.ne_of_gt (Nat.zero_lt_of_lt hfuel))
  cases items with
  | nil => rw [itemChars, List.nil_append, readItems_close, itemReadings]
  | cons item rest =>
    obtain ⟨hitem, hrest⟩ := List.forall_mem_cons.mp hitems
    have hmore := readItems_itemsBehind hrest (Nat.lt_of_succ_lt_succ hfuel) behind
    rw [itemChars_append, itemReadings]
    exact (readItems_item hitem (closes_itemsBehind rest behind) hmore).1

/-! ## Members -/

theorem memberChars_append (key : String) (value : Json) (rest : Members) (behind : List Char) :
    memberChars ((key, value) :: rest) ++ behind =
      stringText key ++ valueText value (membersBehind rest behind) := by
  induction rest generalizing key value with
  | nil => rw [memberChars, membersBehind, List.append_assoc, List.cons_append, valueText]
  | cons next rest ih =>
    rw [memberChars, List.append_assoc, List.cons_append, List.append_assoc, List.cons_append, ih,
      membersBehind]
    rfl

theorem length_lt_membersBehind (members : Members) (behind : List Char) :
    members.length < (membersBehind members ('\x7d' :: behind)).length := by
  induction members with
  | nil => exact Nat.zero_lt_succ _
  | cons member rest ih =>
    rw [membersBehind, valueText, List.length_cons, List.length_cons, List.length_append,
      List.length_cons, List.length_append]
    omega

theorem length_lt_memberChars (members : Members) (behind : List Char) :
    members.length < (memberChars members ++ '\x7d' :: behind).length + 1 := by
  cases members with
  | nil => exact Nat.zero_lt_succ _
  | cons member rest =>
    have hrest := length_lt_membersBehind rest behind
    rw [memberChars_append, valueText, List.length_append, List.length_cons, List.length_cons,
      List.length_append]
    omega

theorem readString_stringText (key : String) (rest : List Char) :
    ∃ text, stringText key ++ rest = '"' :: text ∧ readString text = .ok (key.toList, rest) := by
  refine ⟨key.toList.flatMap escapeChar ++ '"' :: rest, ?_, readString_written key.toList rest⟩
  rw [stringText, List.cons_append, List.append_assoc, List.singleton_append]

theorem readColon_valueText (value : Json) (behind : List Char) :
    Reading.readColon (valueText value behind) = .ok (value.textChars ++ behind) := by
  rw [valueText, Reading.readColon, skipSpace_cons (by decide)]
  rfl

theorem keyMark_valueText (value : Json) (behind : List Char) :
    Reading.keyMark (valueText value behind) = .before (valueText value behind) := by
  rw [valueText, Reading.keyMark, skipSpace_cons (by decide)]
  rfl

theorem readMembers_member (h : ReadBack element value) (hbehind : Closes behind) (key : String)
    {others : Reading.ObjectReading}
    (hmore : Reading.readMembers element fuel false behind = others) :
    Reading.readMembers element (fuel + 1) true (stringText key ++ valueText value behind) =
        { others with
          members := (key, .before (valueText value behind), value.reading behind) ::
            others.members } ∧
      Reading.readMembers element (fuel + 1) false
          (',' :: (stringText key ++ valueText value behind)) =
        { others with
          members := (key, .before (valueText value behind), value.reading behind) ::
            others.members } := by
  obtain ⟨text, htext, hkey⟩ := readString_stringText key (valueText value behind)
  rw [htext]
  constructor
  · rw [Reading.readMembers, skipSpace_cons (by decide)]
    simp [hkey, readColon_valueText, keyMark_valueText, h.skipSpace_eq, h.read behind hbehind,
      hmore]
  · rw [Reading.readMembers, skipSpace_cons (by decide)]
    simp [skipSpace_cons (show isSpace '"' = false by decide), hkey, readColon_valueText,
      keyMark_valueText, h.skipSpace_eq, h.read behind hbehind, hmore]

theorem readMembers_close (first : Bool) (behind : List Char) :
    Reading.readMembers element (fuel + 1) first ('\x7d' :: behind) =
      ⟨[], .ok (.before behind), some behind⟩ := by
  rw [Reading.readMembers, skipSpace_cons (by decide)]
  rfl

theorem readMembers_membersBehind (hmembers : ∀ member ∈ members, ReadBack element member.2)
    (hfuel : members.length < fuel) (behind : List Char) :
    Reading.readMembers element fuel false (membersBehind members ('\x7d' :: behind)) =
      ⟨memberReadings members ('\x7d' :: behind), .ok (.before behind), some behind⟩ := by
  induction members generalizing fuel with
  | nil =>
    obtain ⟨fuel, rfl⟩ := Nat.exists_eq_succ_of_ne_zero (Nat.ne_of_gt hfuel)
    rw [membersBehind, readMembers_close, memberReadings]
  | cons member rest ih =>
    obtain ⟨fuel, rfl⟩ := Nat.exists_eq_succ_of_ne_zero (Nat.ne_of_gt (Nat.zero_lt_of_lt hfuel))
    obtain ⟨hmember, hrest⟩ := List.forall_mem_cons.mp hmembers
    have hmore := ih hrest (Nat.lt_of_succ_lt_succ hfuel)
    rw [membersBehind, memberReadings]
    exact (readMembers_member hmember (closes_membersBehind rest behind) member.1 hmore).2

theorem readMembers_memberChars (hmembers : ∀ member ∈ members, ReadBack element member.2)
    (hfuel : members.length < fuel) (behind : List Char) :
    Reading.readMembers element fuel true (memberChars members ++ '\x7d' :: behind) =
      ⟨memberReadings members ('\x7d' :: behind), .ok (.before behind), some behind⟩ := by
  obtain ⟨fuel, rfl⟩ := Nat.exists_eq_succ_of_ne_zero (Nat.ne_of_gt (Nat.zero_lt_of_lt hfuel))
  cases members with
  | nil => rw [memberChars, List.nil_append, readMembers_close, memberReadings]
  | cons member rest =>
    obtain ⟨hmember, hrest⟩ := List.forall_mem_cons.mp hmembers
    have hmore := readMembers_membersBehind hrest (Nat.lt_of_succ_lt_succ hfuel) behind
    rw [memberChars_append, memberReadings]
    exact (readMembers_member hmember (closes_membersBehind rest behind) member.1 hmore).1

end

/-! ## Reading values -/

section

variable {depth : Nat} {value : Json}

theorem exists_first (n : Int) :
    ∃ c rest, (toString n).toList = c :: rest ∧ (c.isDigit = true ∨ c = '-') := by
  cases n with
  | ofNat n =>
    obtain ⟨c, rest, hdigits, hdigit⟩ := exists_digit n
    exact ⟨c, rest, by rw [toList_toString_ofNat, hdigits], Or.inl hdigit⟩
  | negSucc n => exact ⟨'-', _, toList_toString_negSucc n, Or.inr rfl⟩

theorem readValue_number {c : Char} {rest behind : List Char} {n : Number}
    (hc : c.isDigit = true ∨ c = '-') (h : readNumber (c :: rest) = .ok (n, behind)) :
    Reading.readValue (depth + 1) (c :: rest) = (.scalar (.number n) behind, some behind) := by
  unfold Reading.readValue
  split
  case h_3 =>
    unfold Reading.readScalar
    split
    case h_6 heq =>
      cases heq
      rw [if_pos (by simpa using hc), h]
    all_goals rename_i heq; cases heq
    all_goals exact absurd hc (by decide)
  all_goals rename_i heq; cases heq
  all_goals exact absurd hc (by decide)

theorem readValue_string (s : String) (behind : List Char) :
    Reading.readValue (depth + 1) (stringText s ++ behind) =
      (.scalar (.string s) behind, some behind) := by
  obtain ⟨text, htext, hread⟩ := readString_stringText s behind
  rw [htext]
  change Reading.readScalar ('"' :: text) = _
  rw [Reading.readScalar, hread]
  dsimp only
  rw [String.ofList_toList]

theorem readBack_scalar (value : Scalar) (h : ∀ n, value = .number n → n.Fits)
    (hintegral : value.toJson.Integral) :
    ReadBack (Reading.readValue (depth + 1)) value.toJson := by
  cases value with
  | null => exact ⟨⟨'n', ['u', 'l', 'l'], rfl, by decide, by decide⟩, fun _ _ => rfl⟩
  | bool b =>
    cases b with
    | true => exact ⟨⟨'t', ['r', 'u', 'e'], rfl, by decide, by decide⟩, fun _ _ => rfl⟩
    | false => exact ⟨⟨'f', ['a', 'l', 's', 'e'], rfl, by decide, by decide⟩, fun _ _ => rfl⟩
  | number n =>
    cases n with
    | double x => exact absurd (hintegral (.double x) List.mem_cons_self) Bool.false_ne_true
    | integer n =>
      obtain ⟨c, rest, htext, hc⟩ := exists_first n
      have hspace : isSpace c = false := by
        simp only [isSpace, Bool.or_eq_false_iff, decide_eq_false_iff_not]
        refine ⟨⟨⟨?_, ?_⟩, ?_⟩, ?_⟩ <;> rintro rfl <;> exact absurd hc (by decide)
      refine ⟨⟨c, rest, htext, hspace, ?_⟩, fun behind hbehind => ?_⟩
      · rintro rfl
        exact absurd hc (by decide)
      · have hread := readNumber_written (h _ rfl) hbehind
        change Reading.readValue (depth + 1) ((toString n).toList ++ behind) = _
        rw [htext] at hread ⊢
        exact readValue_number hc hread
  | string s =>
    exact ⟨⟨'"', _, rfl, by decide, by decide⟩, fun behind _ => readValue_string s behind⟩

theorem Plain.readBack (h : Plain depth value) : ReadBack (Reading.readValue depth) value := by
  obtain ⟨hwithin, hintegral⟩ := h
  induction hwithin with
  | scalar value h => exact readBack_scalar value h hintegral
  | @array depth items _ ih =>
    have hitems : ∀ item ∈ items, ReadBack (Reading.readValue (depth + 1)) item :=
      fun item hitem => ih item hitem (integral_array_iff.mp hintegral item hitem)
    refine ⟨⟨'[', itemChars items ++ [']'], by rw [textChars], by decide, by decide⟩,
      fun behind hbehind => ?_⟩
    rw [textChars, List.cons_append, List.append_assoc, List.singleton_append, Reading.readValue,
      if_neg (Nat.succ_ne_zero depth),
      readItems_itemChars hitems (length_lt_itemChars items behind) behind]
    rfl
  | @object depth members _ ih =>
    have hmembers : ∀ member ∈ members, ReadBack (Reading.readValue (depth + 1)) member.2 :=
      fun member hmember => ih member hmember (integral_object_iff.mp hintegral member hmember)
    refine ⟨⟨'\x7b', memberChars members ++ ['\x7d'], by rw [textChars], by decide, by decide⟩,
      fun behind hbehind => ?_⟩
    rw [textChars, List.cons_append, List.append_assoc, List.singleton_append, Reading.readValue,
      if_neg (Nat.succ_ne_zero depth),
      readMembers_memberChars hmembers (length_lt_memberChars members behind) behind]
    rfl

theorem ofText_textChars (h : ReadBack (Reading.readValue Reading.depthLimit) value)
    (hordered : value.Ordered) : ofText value.textChars = .ok value := by
  have hread := h.read [] closes_nil
  have hskip := h.skipSpace_eq []
  rw [List.append_nil] at hread hskip
  rw [ofText, decodeText, hskip, hread]
  dsimp only
  rw [hordered.ofReading_reading]
  rfl

end

end BindingGen.Json
