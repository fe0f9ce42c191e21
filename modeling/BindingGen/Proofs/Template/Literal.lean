import BindingGen.Proofs.Json.Written
import BindingGen.Proofs.Template.Argument

/-!
# Written literals

Scalars in the form of JSON are literals: every string, every integer of 64 bits, and the three
words.
-/

namespace BindingGen.Template

open Grammar Text.Scan

variable {text rest : List Char} {c : Char}

/-! ## Literals -/

theorem reserved_of_ne (ha : 'a' ≠ c) (he : 'e' ≠ c) (text : List Char) :
    reserved (c :: text) = none := by
  apply bind_of_none
  rw [orElse_of_none (exactly_of_ne ha _ _)]
  exact exactly_of_ne he _ _

theorem param_of_literal (ha : 'a' ≠ c) (he : 'e' ≠ c) (text rest : List Char)
    (hextent : ∀ depth, literalExtent (depth + 1) (c :: (text ++ rest)) = some ((), rest)) :
    param (c :: text ++ rest) = some (literalValue (c :: text), rest) := by
  have hwritten : written (fun text => literalExtent (text.length + 1) text) (c :: text ++ rest) =
      some (((), c :: text), rest) := written_append (hextent _)
  have hreserved : reserved (c :: text ++ rest) = none := reserved_of_ne ha he (text ++ rest)
  rw [param, paramWithin, bind_of_some (notAhead_of_none hreserved)]
  apply orElse_of_some
  rw [literal, bind_of_some hwritten]
  rfl

theorem literalValue_of_ne {value : Json} (hquote : c ≠ '\'')
    (h : Json.ofText (c :: text) = .ok value) : literalValue (c :: text) = .literal value := by
  unfold literalValue
  split
  · rename_i heq
    cases heq
    exact absurd rfl hquote
  · dsimp only
    rw [h]

/-! ## Strings -/

variable {found behind : List Char}

theorem quotedPart_escape (hc : isEscapable '"' c = true)
    (h : quotedPart '"' text = some (found, behind)) :
    quotedPart '"' ('\\' :: c :: text) = some ('\\' :: c :: found, behind) := by
  rw [quotedPart.eq_def]
  split
  · rename_i heq
    cases heq
  · rename_i heq
    cases heq
    exact absurd hc (by decide)
  · rename_i heq
    cases heq
    rw [if_pos hc, h]
    rfl
  · rename_i hother heq
    cases heq
    exact absurd rfl (hother c text rfl)

theorem quotedPart_control (n m : Nat) (hn : n < 16) (hm : m < 16)
    (h : quotedPart '"' text = some (found, behind)) :
    quotedPart '"' ('\\' :: 'u' :: '0' :: '0' :: Json.hexDigit n :: Json.hexDigit m :: text) =
      some ('\\' :: 'u' :: '0' :: '0' :: Json.hexDigit n :: Json.hexDigit m :: found, behind) := by
  have hhex : ∀ n < 16, isHexDigit (Json.hexDigit n) = true := by decide
  have hall : ['0', '0', Json.hexDigit n, Json.hexDigit m].all isHexDigit = true := by
    simp [hhex n hn, hhex m hm, show isHexDigit '0' = true by decide]
  rw [quotedPart, if_pos hall, h]
  rfl

theorem quotedPart_plain (hquote : c ≠ '"') (hslash : c ≠ '\\')
    (h : quotedPart '"' text = some (found, behind)) :
    quotedPart '"' (c :: text) = some (c :: found, behind) := by
  rw [quotedPart.eq_def]
  split
  all_goals rename_i heq; cases heq
  · exact absurd rfl hslash
  · exact absurd rfl hslash
  · rw [if_neg hquote, if_neg hslash, h]
    rfl

theorem quotedPart_escapeChar (c : Char) (h : quotedPart '"' text = some (found, behind)) :
    quotedPart '"' (Json.escapeChar c ++ text) = some (Json.escapeChar c ++ found, behind) := by
  unfold Json.escapeChar
  -- The short escapes, then the other control characters, then what stands for itself.
  repeat' split
  all_goals first
    | exact quotedPart_plain (by assumption) (by assumption) h
    | exact quotedPart_control _ _ (by omega) (by omega) h
    | exact quotedPart_escape rfl h

theorem quotedPart_written (content rest : List Char) :
    quotedPart '"' (content.flatMap Json.escapeChar ++ '"' :: rest) =
      some (content.flatMap Json.escapeChar, rest) := by
  induction content with
  | nil => rfl
  | cons c content ih =>
    rw [List.flatMap_cons, List.append_assoc]
    exact quotedPart_escapeChar c ih

theorem literalExtent_stringText (s : String) (rest : List Char) (depth : Nat) :
    literalExtent (depth + 1) (Json.stringText s ++ rest) = some ((), rest) := by
  have hquoted : quotedString '"' (Json.stringText s ++ rest) = some ((), rest) := by
    rw [Json.stringText, List.cons_append, List.append_assoc, List.singleton_append, quotedString,
      bind_of_some (exactly_cons '"' _), bind_of_some (quotedPart_written s.toList rest)]
    rfl
  rw [literalExtent]
  exact orElse_of_some (orElse_of_some hquoted)

/-! ## Numbers -/

theorem isSymbol_of_isDigit (h : c.isDigit = true) : isSymbol c = true := by
  simp [isSymbol, isWordChar, Char.isAlphanum, h]

theorem Grammar.Ends.leaves_digit (h : Ends rest) : Leaves Char.isDigit rest := by
  intro c hc
  have hsymbol := h.leaves_symbol c hc
  cases hdigit : c.isDigit with
  | false => rfl
  | true => rw [isSymbol_of_isDigit hdigit] at hsymbol; cases hsymbol

theorem digits_append {word : List Char} (hne : word ≠ []) (hword : word.all Char.isDigit = true)
    (hrest : Ends rest) : digits (word ++ rest) = some ((), rest) := by
  rw [digits, bind_of_some (someRun_append hne hword hrest.leaves_digit)]
  rfl

theorem number_of_digits {word : List Char} {sign : Bool}
    (hsign : flag ['-'] text = some (sign, word ++ rest)) (hne : word ≠ [])
    (hword : word.all Char.isDigit = true) (hrest : Ends rest) :
    number text = some ((), rest) := by
  have hpoint : exactly ['.'] rest = none := by cases hrest <;> rfl
  have hexponent : (do exactly ['E']; let _ ← flag ['-']; digits : Text.Scan Unit) rest = none := by
    apply bind_of_none
    cases hrest <;> rfl
  rw [number, bind_of_some hsign, bind_of_some (digits_append hne hword hrest),
    bind_of_some (flag_of_none hpoint), bind_of_some (run_of_leaves hrest.leaves_digit),
    bind_of_some (optional?_of_none hexponent)]
  exact endOfWord_of_leaves hrest.leaves_symbol

theorem all_isDigit_toDigits (n : Nat) : (Nat.toDigits 10 n).all Char.isDigit = true :=
  List.all_eq_true.mpr fun _ hc => Nat.isDigit_of_mem_toDigits (by decide) (by decide) hc

theorem isIdentifier_toString (n : Int) : isIdentifier (toString n).toList = true := by
  have hall : ∀ k, (Nat.toDigits 10 k).all isSymbol = true := fun k =>
    List.all_eq_true.mpr fun c hc =>
      isSymbol_of_isDigit (List.all_eq_true.mp (all_isDigit_toDigits k) c hc)
  cases n with
  | ofNat k =>
    rw [Json.toList_toString_ofNat, isIdentifier, hall k]
    simp
  | negSucc k =>
    rw [Json.toList_toString_negSucc, isIdentifier, List.all_cons, hall (k + 1)]
    rfl

theorem number_written (n : Int) (hrest : Ends rest) :
    number ((toString n).toList ++ rest) = some ((), rest) := by
  cases n with
  | ofNat k =>
    rw [Json.toList_toString_ofNat]
    obtain ⟨c, tail, hdigits, hc⟩ := Json.exists_digit k
    have hminus : '-' ≠ c := by
      rintro rfl
      cases hc
    refine number_of_digits (flag_of_none ?_) Nat.toDigits_ne_nil (all_isDigit_toDigits k) hrest
    rw [hdigits]
    exact exactly_of_ne hminus _ _
  | negSucc k =>
    rw [Json.toList_toString_negSucc]
    have hsign : flag ['-'] ('-' :: Nat.toDigits 10 (k + 1) ++ rest) =
        some (true, Nat.toDigits 10 (k + 1) ++ rest) :=
      orElse_of_some (bind_of_some (exactly_cons '-' _))
    exact number_of_digits hsign Nat.toDigits_ne_nil (all_isDigit_toDigits (k + 1)) hrest

theorem literalExtent_number (n : Int) (hrest : Ends rest) (depth : Nat) :
    literalExtent (depth + 1) ((toString n).toList ++ rest) = some ((), rest) := by
  have hnumber := number_written n hrest
  obtain ⟨c, tail, htext, hc⟩ := Json.exists_first n
  rw [htext, List.cons_append] at hnumber ⊢
  have hne : ∀ d : Char, d.isDigit = false → d ≠ '-' → d ≠ c := by
    rintro d hdigit hminus rfl
    rcases hc with hc | hc
    · rw [hc] at hdigit
      cases hdigit
    · exact hminus hc
  have hsign : ∀ d : Char, d.isDigit = false → d ≠ '-' → ∀ signs,
      exactly (d :: signs) (c :: (tail ++ rest)) = none := fun d hdigit hminus _ =>
    exactly_of_ne (hne d hdigit hminus) _ _
  have hstring : anyString (c :: (tail ++ rest)) = none :=
    (orElse_of_none (bind_of_none (hsign '"' rfl (by decide) []))).trans
      (bind_of_none (hsign '\'' rfl (by decide) []))
  have harray : literalExtent.array (literalExtent depth) (c :: (tail ++ rest)) = none :=
    bind_of_none (hsign '[' rfl (by decide) [])
  have hobject : literalExtent.object (literalExtent depth) (c :: (tail ++ rest)) = none :=
    bind_of_none (hsign '\x7b' rfl (by decide) [])
  rw [literalExtent, orElse_of_none hstring, orElse_of_none harray, orElse_of_none hobject]
  exact orElse_of_some hnumber

/-! ## Scalars -/

variable {value : Json.Scalar}

theorem exists_first (value : Json.Scalar) (hintegral : value.toJson.Integral) :
    ∃ c tail, value.toJson.textChars = c :: tail ∧ 'a' ≠ c ∧ 'e' ≠ c ∧ c ≠ '\'' ∧
      (isIdentifier (c :: tail) = true ∨ (c :: tail).head? = some '"') := by
  cases value with
  | null => exact ⟨'n', ['u', 'l', 'l'], rfl, by decide⟩
  | bool b =>
    cases b with
    | true => exact ⟨'t', ['r', 'u', 'e'], rfl, by decide⟩
    | false => exact ⟨'f', ['a', 'l', 's', 'e'], rfl, by decide⟩
  | string s => exact ⟨'"', _, rfl, by decide, by decide, by decide, .inr rfl⟩
  | number n =>
    cases n with
    | double x => exact absurd (hintegral (.double x) List.mem_cons_self) Bool.false_ne_true
    | integer n =>
      obtain ⟨c, tail, htext, hc⟩ := Json.exists_first n
      have hword := isIdentifier_toString n
      rw [htext] at hword
      refine ⟨c, tail, htext, ?_, ?_, ?_, .inl hword⟩ <;> rintro rfl <;> exact absurd hc (by decide)

theorem literalExtent_scalar (hintegral : value.toJson.Integral) (hrest : Ends rest) (depth : Nat) :
    literalExtent (depth + 1) (value.toJson.textChars ++ rest) = some ((), rest) := by
  cases value with
  | null => cases hrest <;> rfl
  | bool b => cases b <;> cases hrest <;> rfl
  | string s => exact literalExtent_stringText s rest depth
  | number n =>
    cases n with
    | double x => exact absurd (hintegral (.double x) List.mem_cons_self) Bool.false_ne_true
    | integer n => exact literalExtent_number n hrest depth

/-- **A scalar is a literal in its form in JSON.** -/
theorem param_scalar (hfits : ∀ n, value = .number n → n.Fits) (hintegral : value.toJson.Integral)
    (hrest : Ends rest) :
    param (value.toJson.textChars ++ rest) = some (.literal value.toJson, rest) := by
  have hvalue := Json.ofText_textChars (Json.readBack_scalar value hfits hintegral) (.scalar value)
  have hextent := fun depth => literalExtent_scalar hintegral hrest depth
  obtain ⟨c, tail, htext, ha, he, hquote, _⟩ := exists_first value hintegral
  rw [htext] at hvalue hextent ⊢
  rw [param_of_literal ha he tail rest hextent, literalValue_of_ne hquote hvalue]

def Literal.ofScalar (value : Json.Scalar) (hfits : ∀ n, value = .number n → n.Fits)
    (hintegral : value.toJson.Integral) : Literal where
  word := .ofParam value.toJson.textChars (.literal value.toJson)
    (by
      obtain ⟨c, tail, htext, _, _, _, hkey⟩ := exists_first value hintegral
      rw [htext]
      exact hkey)
    fun _ hrest => param_scalar hfits hintegral hrest
  value := value.toJson
  param_eq := rfl

end BindingGen.Template
