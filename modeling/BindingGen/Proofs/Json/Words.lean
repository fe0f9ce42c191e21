import BindingGen.Proofs.Json.Range

/-!
# Written words

A string and an integer are read back from the text that they are written as, with what follows
them left.
-/

namespace BindingGen.Json

/-! ## Strings -/

section

variable {c : Char} {text behind content rest : List Char}

theorem hexValue?_hexDigit {n : Nat} (h : n < 16) : hexValue? (hexDigit n) = some n := by
  have hall : ∀ n < 16, hexValue? (hexDigit n) = some n := by decide
  exact hall n h

theorem readHex_control (h : c.toNat < 32) (rest : List Char) :
    readHex ('0' :: '0' :: hexDigit (c.toNat / 16) :: hexDigit (c.toNat % 16) :: rest) =
      .ok (c.toNat, rest) := by
  have hzero : hexValue? '0' = some 0 := by decide
  have hhigh : hexValue? (hexDigit (c.toNat / 16)) = some (c.toNat / 16) :=
    hexValue?_hexDigit (by omega)
  have hlow : hexValue? (hexDigit (c.toNat % 16)) = some (c.toNat % 16) :=
    hexValue?_hexDigit (by omega)
  have hvalue : ((0 * 16 + 0) * 16 + c.toNat / 16) * 16 + c.toNat % 16 = c.toNat := by omega
  rw [readHex, hzero, hhigh, hlow]
  dsimp only
  rw [hvalue]

theorem readEscape_control (h : c.toNat < 32) (rest : List Char) :
    readEscape ('u' :: '0' :: '0' :: hexDigit (c.toNat / 16) :: hexDigit (c.toNat % 16) :: rest) =
      .ok (c, rest) := by
  have hlow : ¬ 0xDC00 ≤ c.toNat := by omega
  have hhigh : ¬ 0xD800 ≤ c.toNat := by omega
  simp [readEscape, readHex_control h, hlow, hhigh, Char.ofNat_toNat]

theorem readString_escape (hescape : readEscape text = .ok (c, behind))
    (h : readString behind = .ok (content, rest)) :
    readString ('\\' :: text) = .ok (c :: content, rest) := by
  rw [readString]
  split
  · rename_i hread
    rw [hescape] at hread
    cases hread
  · rename_i hread
    rw [hescape] at hread
    cases hread
    rw [h]

theorem readString_plain (hquote : c ≠ '"') (hslash : c ≠ '\\') (hprinted : ¬ c.toNat < 32)
    (h : readString text = .ok (content, rest)) :
    readString (c :: text) = .ok (c :: content, rest) := by
  rw [readString.eq_def]
  split
  · rename_i heq
    cases heq
  · rename_i heq
    cases heq
    exact absurd rfl hquote
  · rename_i heq
    cases heq
    exact absurd rfl hslash
  · rename_i heq
    cases heq
    rw [if_neg hprinted, h]

theorem readString_escapeChar (c : Char) (h : readString text = .ok (content, rest)) :
    readString (escapeChar c ++ text) = .ok (c :: content, rest) := by
  unfold escapeChar
  -- The short escapes, then the other control characters, then what stands for itself.
  repeat' split
  all_goals first
    | subst c; exact readString_escape rfl h
    | exact readString_escape (readEscape_control (by assumption) text) h
    | exact readString_plain (by assumption) (by assumption) (by assumption) h

/-- Whatever the characters of a string are, they are read back up to its closing quote. -/
theorem readString_written (content rest : List Char) :
    readString (content.flatMap escapeChar ++ '"' :: rest) = .ok (content, rest) := by
  induction content with
  | nil => simp [readString]
  | cons c content ih =>
    rw [List.flatMap_cons, List.append_assoc]
    exact readString_escapeChar c ih

end

/-! ## Integers -/

/-- A text behind a value: it ends, or goes on with what stands between values. -/
def Closes (behind : List Char) : Prop := ∀ c ∈ behind.head?, c = ',' ∨ c = ']' ∨ c = '\x7d'

theorem closes_nil : Closes [] := fun _ h => nomatch h

theorem closes_cons {c : Char} (h : c = ',' ∨ c = ']' ∨ c = '\x7d') (rest : List Char) :
    Closes (c :: rest) := by
  intro d hd
  cases hd
  exact h

section

variable {c : Char} {digits behind : List Char} {n : Nat}

theorem digitValue_le (c : Char) (digits : List Char) (init : Nat) :
    init * 10 + digitValue c ≤ Nat.ofDigitChars 10 (c :: digits) init := by
  rw [Nat.ofDigitChars_cons, Nat.ofDigitChars_eq_ofDigitChars_zero]
  have hpower : 1 ≤ 10 ^ digits.length := Nat.one_le_pow _ _ (by decide)
  have hgrown : 1 * (10 * init + (c.toNat - '0'.toNat)) ≤
      10 ^ digits.length * (10 * init + (c.toNat - '0'.toNat)) := Nat.mul_le_mul_right _ hpower
  have hzero : '0'.toNat = 48 := rfl
  unfold digitValue
  omega

theorem addWhole_eq (digits : List Char) (init : Nat)
    (h : Nat.ofDigitChars 10 digits init < Nat.pow 2 64) :
    Significand.addWhole ⟨init, 0⟩ digits = ⟨Nat.ofDigitChars 10 digits init, 0⟩ := by
  induction digits generalizing init with
  | nil => rfl
  | cons c digits ih =>
    have hgrown := Nat.lt_of_le_of_lt (digitValue_le c digits init) h
    have hvalue : init * 10 + digitValue c = 10 * init + (c.toNat - '0'.toNat) := by
      rw [Nat.mul_comm]
      rfl
    rw [Nat.ofDigitChars_cons, ← hvalue] at h ⊢
    rw [Significand.addWhole, if_pos hgrown]
    exact ih _ h

theorem Closes.not_isDigit (h : Closes behind) : ∀ c ∈ behind.head?, ¬ c.isDigit = true := by
  intro c hc
  rcases h c hc with rfl | rfl | rfl <;> decide

theorem head?_toDigits_ne_zero (h : 0 < n) : (Nat.toDigits 10 n).head? ≠ some '0' := by
  induction n using Nat.strongRecOn with
  | ind n ih =>
    rw [Nat.toDigits_eq_if (by decide)]
    split
    · rw [List.head?_cons, ne_eq, Option.some_inj, Nat.digitChar_eq_zero]
      omega
    · rw [List.head?_append, Option.or_of_isSome (by simp [Nat.toDigits_ne_nil])]
      exact ih (n / 10) (by omega) (by omega)

theorem takeWhile_digits (hdigits : ∀ c ∈ digits, c.isDigit = true) (hbehind : Closes behind) :
    (digits ++ behind).takeWhile Char.isDigit = digits := by
  rw [List.takeWhile_append_of_pos hdigits]
  cases behind with
  | nil => rw [List.takeWhile_nil, List.append_nil]
  | cons c rest =>
    rw [List.takeWhile_cons_of_neg (hbehind.not_isDigit c rfl), List.append_nil]

theorem finishNumber_whole (negative : Bool)
    (hsign : negative = true → 0 < n ∧ n ≤ Nat.pow 2 63) (hbehind : Closes behind) :
    finishNumber negative ⟨n, 0⟩ behind =
      .ok (.integer (if negative then -n else n), behind) := by
  unfold finishNumber
  split
  · exact absurd (hbehind _ rfl) (by decide)
  · exact absurd (hbehind _ rfl) (by decide)
  · exact absurd (hbehind _ rfl) (by decide)
  · dsimp only
    rw [if_pos]
    cases negative with
    | false => rfl
    | true =>
      obtain ⟨hpositive, hlimit⟩ := hsign rfl
      simp only [Bool.and_eq_true, Bool.not_eq_true', Bool.and_eq_false_imp,
        Bool.or_eq_false_iff, decide_eq_false_iff_not, decide_eq_true_eq]
      exact ⟨trivial, fun _ => ⟨Nat.pos_iff_ne_zero.mp hpositive, Nat.not_lt.mpr hlimit⟩⟩

theorem exists_digit (n : Nat) :
    ∃ c rest, Nat.toDigits 10 n = c :: rest ∧ c.isDigit = true := by
  obtain ⟨c, rest, hcons⟩ := List.exists_cons_of_ne_nil (Nat.toDigits_ne_nil (n := n) (b := 10))
  refine ⟨c, rest, hcons, Nat.isDigit_of_mem_toDigits (n := n) (b := 10) (by decide) (by decide) ?_⟩
  rw [hcons]
  exact List.mem_cons_self

/-- The digits of a number are read back behind either sign, if it fits 64 bits with that sign. -/
theorem readUnsigned_digits (negative : Bool) (hn : n < Nat.pow 2 64)
    (hsign : negative = true → 0 < n ∧ n ≤ Nat.pow 2 63) (hbehind : Closes behind) :
    readUnsigned negative (Nat.toDigits 10 n ++ behind) =
      .ok (.integer (if negative then -n else n), behind) := by
  -- Zero is read by a rule of its own, since no other number may begin with its digit.
  rcases Nat.eq_zero_or_pos n with rfl | hpositive
  · have hhead : behind.head?.any Char.isDigit = false := by
      rw [← Bool.not_eq_true, Option.any_eq_true]
      rintro ⟨c, hc, hdigit⟩
      exact hbehind.not_isDigit c hc hdigit
    rw [Nat.toDigits_zero, List.singleton_append, readUnsigned, hhead]
    exact finishNumber_whole negative hsign hbehind
  · have hdigits : ∀ c ∈ Nat.toDigits 10 n, c.isDigit = true := fun c hc =>
      Nat.isDigit_of_mem_toDigits (by decide) (by decide) hc
    have htake := takeWhile_digits hdigits hbehind
    have hzero := head?_toDigits_ne_zero hpositive
    have hcollected := addWhole_eq (Nat.toDigits 10 n) 0 (by rwa [Nat.ofDigitChars_ten_toDigits])
    rw [Nat.ofDigitChars_ten_toDigits] at hcollected
    obtain ⟨c, rest, hcons, hdigit⟩ := exists_digit n
    rw [hcons] at htake hzero hcollected ⊢
    rw [List.cons_append] at htake ⊢
    unfold readUnsigned
    split
    · rename_i heq
      cases heq
    · rename_i heq
      cases heq
      exact absurd rfl hzero
    · rename_i heq
      cases heq
      rw [if_pos hdigit, htake]
      dsimp only
      rw [hcollected, ← List.cons_append, List.drop_left]
      exact finishNumber_whole negative hsign hbehind

theorem toList_toString_ofNat (n : Nat) :
    (toString (Int.ofNat n)).toList = Nat.toDigits 10 n := Nat.toList_repr

theorem toList_toString_negSucc (n : Nat) :
    (toString (Int.negSucc n)).toList = '-' :: Nat.toDigits 10 (n + 1) := by
  change ("-" ++ Nat.repr (n + 1)).toList = _
  rw [String.toList_append, Nat.toList_repr]
  rfl

theorem readNumber_digits (h : c.isDigit = true) (rest : List Char) :
    readNumber (c :: rest) = readUnsigned false (c :: rest) := by
  unfold readNumber
  split
  · rename_i heq
    cases heq
    cases h
  · rfl

/-- Every integer of 64 bits, with a sign or without, is read back. -/
theorem readNumber_written {number : Int} (h : (Number.integer number).Fits)
    (hbehind : Closes behind) :
    readNumber ((toString number).toList ++ behind) = .ok (.integer number, behind) := by
  obtain ⟨hlow, hhigh⟩ := h
  have hleast : Int.pow 2 63 = Nat.pow 2 63 := rfl
  have hmost : Int.pow 2 64 = Nat.pow 2 64 := rfl
  have hless : Nat.pow 2 63 < Nat.pow 2 64 := by decide
  rw [hleast] at hlow
  rw [hmost] at hhigh
  cases number with
  | ofNat n =>
    obtain ⟨c, rest, hdigits, hdigit⟩ := exists_digit n
    rw [toList_toString_ofNat, hdigits, List.cons_append, readNumber_digits hdigit,
      ← List.cons_append, ← hdigits]
    exact readUnsigned_digits false (Int.ofNat_lt.mp hhigh) (fun h => nomatch h) hbehind
  | negSucc n =>
    rw [toList_toString_negSucc, List.cons_append, readNumber,
      readUnsigned_digits true (by omega) (fun _ => by omega) hbehind]
    rfl

end

end BindingGen.Json
