import BindingGen.Proofs.Text.Scan
import BindingGen.Proofs.Template.Place
import BindingGen.Template.Grammar

/-!
# Keys in tags

A key is written like a word, and is none of the words that the grammar keeps for itself. In a tag
it is read as the path to the member of that name, and as nothing else.
-/

namespace BindingGen.Template.Grammar

open Text.Scan

/-! ## Words -/

/-- The words that a tag reads as something other than a path, or a path as no name. -/
def keptWords : List String := ["this", "true", "false", "null", "as", "else"]

/-- A name that tags can look up: no number begins like it, and it is no word of the grammar. -/
structure IsKey (key : String) : Prop where
  symbols : isIdentifier key.toList = true
  first : ∀ c ∈ key.toList.head?, c.isDigit = false ∧ c ≠ '-'
  free : key ∉ keptWords

theorem all_head?_iff {key : List Char} :
    key.head?.all (fun c => !c.isDigit && c != '-') = true ↔
      ∀ c ∈ key.head?, c.isDigit = false ∧ c ≠ '-' := by
  simp [Option.all_eq_true]

instance (key : String) : Decidable (IsKey key) :=
  decidable_of_iff (isIdentifier key.toList = true ∧
      key.toList.head?.all (fun c => !c.isDigit && c != '-') = true ∧ key ∉ keptWords)
    ⟨fun h => ⟨h.1, all_head?_iff.mp h.2.1, h.2.2⟩,
      fun h => ⟨h.symbols, all_head?_iff.mpr h.first, h.free⟩⟩

/-- What may stand behind a word of a tag: the end of the tag, or a blank and another argument. -/
inductive Ends : List Char → Prop where
  | tag (rest : List Char) : Ends ('\x7d' :: '\x7d' :: rest)
  | blank {c : Char} (hspace : isSpace c = false) (hequals : c ≠ '=') (rest : List Char) :
      Ends (' ' :: c :: rest)

variable {c d : Char} {word text rest : List Char}

theorem skip_of_leaves (h : Leaves isSpace text) : skip text = some ((), text) := by
  cases text with
  | nil => rfl
  | cons c text => simp [skip, h c rfl]

theorem skip_cons (h : isSpace c = false) (text : List Char) :
    skip (c :: text) = some ((), c :: text) := skip_of_leaves (leaves_cons h text)

theorem skip_blank (h : isSpace c = false) (text : List Char) :
    skip (' ' :: c :: text) = some ((), c :: text) := by
  rw [← skip_cons h]
  rfl

theorem ne_of_isSymbol (h : isSymbol c = true) (hd : isSymbol d = false) : d ≠ c := by
  rintro rfl
  rw [h] at hd
  cases hd

theorem isSpace_of_isSymbol (h : isSymbol c = true) : isSpace c = false := by
  have hne : ∀ d, isSymbol d = false → c ≠ d := fun d hd => (ne_of_isSymbol h hd).symm
  simp only [isSpace, Bool.or_eq_false_iff, decide_eq_false_iff_not]
  exact ⟨⟨⟨hne ' ' (by decide), hne '\t' (by decide)⟩, hne '\n' (by decide)⟩, hne '\r' (by decide)⟩

namespace Ends

theorem leaves_symbol (h : Ends rest) : Leaves isSymbol rest := by
  cases h with
  | tag rest => exact leaves_cons (by decide) _
  | blank _ _ rest => exact leaves_cons (by decide) _

theorem separator_none (h : Ends rest) : separator rest = none := by
  cases h with
  | tag rest => rfl
  | blank _ _ rest => rfl

theorem exists_skip (h : Ends rest) :
    ∃ behind, skip rest = some ((), behind) ∧ exactly ['='] behind = none := by
  cases h with
  | tag rest => exact ⟨_, skip_cons (by decide) _, rfl⟩
  | blank hspace hequals rest => exact ⟨_, skip_blank hspace rest, exactly_of_ne hequals.symm _ _⟩

end Ends

theorem exists_symbol (h : isIdentifier word = true) :
    ∃ c tail, word = c :: tail ∧ isSymbol c = true := by
  cases word with
  | nil => cases h
  | cons c tail =>
    rw [isIdentifier, List.all_cons, Bool.and_eq_true, Bool.and_eq_true] at h
    exact ⟨c, tail, rfl, h.2.1⟩

theorem identifier_append (h : isIdentifier word = true) (hrest : Leaves isSymbol rest) :
    identifier (word ++ rest) = some (String.ofList word, rest) := by
  rw [isIdentifier, Bool.and_eq_true] at h
  have hne : word ≠ [] := by simpa using h.1
  exact map_of_some (someRun_append hne h.2 hrest)

theorem identifier_of_leaves (h : Leaves isSymbol text) : identifier text = none :=
  map_of_none (someRun_of_leaves h)

theorem endOfWord_of_leaves (h : Leaves isSymbol rest) : endOfWord rest = some ((), rest) :=
  notAhead_of_none (someRun_of_leaves h)

theorem endOfWord_of_isSymbol (h : isSymbol c = true) (rest : List Char) :
    endOfWord (c :: rest) = none := by
  have hrun : someRun isSymbol (c :: rest) =
      some ((c :: rest).takeWhile isSymbol, (c :: rest).dropWhile isSymbol) := by
    have hne : ((c :: rest).takeWhile isSymbol).isEmpty = false := by simp [h]
    rw [someRun, bind_of_some (show run isSymbol (c :: rest) = some _ from rfl), hne]
    rfl
  exact notAhead_of_some hrun

/-! ## Words that are no keys -/

/-- A fixed word is found in front of a word only if that word begins with it. -/
theorem exactly_word {kept behind : List Char} (hkept : kept.all isSymbol = true)
    (hrest : Leaves isSymbol rest) (h : exactly kept (word ++ rest) = some ((), behind)) :
    ∃ tail, word = kept ++ tail ∧ behind = tail ++ rest := by
  induction kept generalizing word with
  | nil =>
    cases h
    exact ⟨word, rfl, rfl⟩
  | cons k kept ih =>
    rw [List.all_cons, Bool.and_eq_true] at hkept
    cases word with
    | nil =>
      cases rest with
      | nil => cases h
      | cons c rest =>
        rw [List.nil_append, exactly_of_ne (ne_of_isSymbol hkept.1 (hrest c rfl)).symm] at h
        cases h
    | cons c word =>
      rw [List.cons_append] at h
      by_cases hc : k = c
      · subst hc
        rw [exactly, Text.afterPrefix?, if_pos rfl] at h
        obtain ⟨tail, rfl, rfl⟩ := ih hkept.2 h
        exact ⟨tail, rfl, rfl⟩
      · rw [exactly_of_ne hc] at h
        cases h

theorem exactly_bind_none {α : Type} (kept : List Char) (next : Unit → Text.Scan α)
    (hkept : kept.all isSymbol = true) (hword : word.all isSymbol = true)
    (hrest : Leaves isSymbol rest) (hne : word ≠ kept)
    (hnext : ∀ c text, isSymbol c = true → next () (c :: text) = none) :
    (exactly kept >>= next) (word ++ rest) = none := by
  cases h : exactly kept (word ++ rest) with
  | none => exact bind_of_none h
  | some read =>
    obtain ⟨tail, rfl, hbehind⟩ := exactly_word hkept hrest h
    rw [bind_of_some h, hbehind]
    cases tail with
    | nil => exact absurd (List.append_nil kept) hne
    | cons c tail =>
      rw [List.all_append, List.all_cons, Bool.and_eq_true, Bool.and_eq_true] at hword
      exact hnext c _ hword.2.1

theorem keyword_none {letters : List Char} (hletters : letters.all isSymbol = true)
    (hword : word.all isSymbol = true) (hrest : Leaves isSymbol rest) (hne : word ≠ letters) :
    keyword letters (word ++ rest) = none :=
  exactly_bind_none letters _ hletters hword hrest hne fun _ text h => endOfWord_of_isSymbol h text

/-! ## Keys -/

namespace IsKey

variable {key : String}

theorem all_isSymbol (h : IsKey key) : key.toList.all isSymbol = true :=
  (Bool.and_eq_true _ _ ▸ h.symbols).2

theorem ne (h : IsKey key) (kept : String) (hkept : kept ∈ keptWords) :
    key.toList ≠ kept.toList := by
  intro heq
  rw [String.toList_inj.mp heq] at h
  exact h.free hkept

theorem exists_first (h : IsKey key) :
    ∃ c tail, key.toList = c :: tail ∧ isSymbol c = true ∧ c.isDigit = false ∧ c ≠ '-' := by
  obtain ⟨c, tail, hchars, hc⟩ := exists_symbol h.symbols
  exact ⟨c, tail, hchars, hc, h.first c (by rw [hchars]; rfl)⟩

theorem exactly_sign (h : IsKey key) (sign : Char) (hsign : isSymbol sign = false)
    (signs rest : List Char) : exactly (sign :: signs) (key.toList ++ rest) = none := by
  obtain ⟨c, tail, hchars, hc, _⟩ := h.exists_first
  rw [hchars, List.cons_append]
  exact exactly_of_ne (ne_of_isSymbol hc hsign) _ _

theorem reserved_none (h : IsKey key) (hrest : Ends rest) :
    reserved (key.toList ++ rest) = none := by
  have hbehind : ∀ c text, isSymbol c = true →
      (do skip; endOfWord : Text.Scan Unit) (c :: text) = none := by
    intro c text hc
    rw [bind_of_some (skip_cons (isSpace_of_isSymbol hc) text)]
    exact endOfWord_of_isSymbol hc text
  apply orElse_bind_none
  · exact exactly_bind_none _ _ (by decide) h.all_isSymbol hrest.leaves_symbol
      (h.ne "as" (by decide)) hbehind
  · exact exactly_bind_none _ _ (by decide) h.all_isSymbol hrest.leaves_symbol
      (h.ne "else" (by decide)) hbehind

theorem number_none (h : IsKey key) (rest : List Char) : number (key.toList ++ rest) = none := by
  obtain ⟨c, tail, hchars, _, hdigit, hminus⟩ := h.exists_first
  rw [hchars, List.cons_append, number,
    bind_of_some (flag_of_none (exactly_of_ne hminus.symm [] (tail ++ rest)))]
  exact bind_of_none (bind_of_none (someRun_of_leaves (leaves_cons hdigit (tail ++ rest))))

theorem literalExtent_none (h : IsKey key) (hrest : Ends rest) (depth : Nat) :
    literalExtent (depth + 1) (key.toList ++ rest) = none := by
  have hquoted : ∀ quote, isSymbol quote = false →
      quotedString quote (key.toList ++ rest) = none := fun quote hquote =>
    bind_of_none (h.exactly_sign quote hquote _ _)
  have hstring : anyString (key.toList ++ rest) = none :=
    (orElse_of_none (hquoted '"' (by decide))).trans (hquoted '\'' (by decide))
  have harray : literalExtent.array (literalExtent depth) (key.toList ++ rest) = none :=
    bind_of_none (h.exactly_sign '[' (by decide) _ _)
  have hobject : literalExtent.object (literalExtent depth) (key.toList ++ rest) = none :=
    bind_of_none (h.exactly_sign '\x7b' (by decide) _ _)
  have hkeyword : ∀ kept ∈ keptWords, kept.toList.all isSymbol = true →
      keyword kept.toList (key.toList ++ rest) = none := fun kept hkept hsymbols =>
    keyword_none hsymbols h.all_isSymbol hrest.leaves_symbol (h.ne kept hkept)
  have hnull : keyword ['n', 'u', 'l', 'l'] (key.toList ++ rest) = none :=
    hkeyword "null" (by decide) (by decide)
  have htrue : keyword ['t', 'r', 'u', 'e'] (key.toList ++ rest) = none :=
    hkeyword "true" (by decide) (by decide)
  rw [literalExtent, orElse_of_none hstring, orElse_of_none harray, orElse_of_none hobject,
    orElse_of_none (h.number_none rest), orElse_of_none hnull, orElse_of_none htrue]
  exact hkeyword "false" (by decide) (by decide)

theorem literal_none (h : IsKey key) (hrest : Ends rest) :
    literal (key.toList ++ rest) = none := by
  rw [literal]
  apply bind_of_none
  rw [written, h.literalExtent_none hrest]
  rfl

theorem pathStep_eq (h : IsKey key) (hrest : Ends rest) :
    pathStep (key.toList ++ rest) = some (some key, rest) := by
  obtain ⟨c, tail, hchars, _⟩ := h.exists_first
  have hne : key.toList ≠ [] := by rw [hchars]; exact List.cons_ne_nil _ _
  have hrun := someRun_append hne h.all_isSymbol hrest.leaves_symbol
  have hbracketed : pathStep.bracketed (key.toList ++ rest) = none :=
    bind_of_none (h.exactly_sign '[' (by decide) _ _)
  have hthis : key.toList ≠ ['t', 'h', 'i', 's'] := h.ne "this" (by decide)
  rw [pathStep, bind_of_some ((orElse_of_none hbracketed).trans hrun), if_neg hthis,
    String.ofList_toList]
  rfl

theorem steps_eq (h : IsKey key) (hrest : Ends rest) :
    path.steps (key.toList ++ rest) = some ((false, false, 0, [some key]), rest) := by
  have hthis : (do exactly ['t', 'h', 'i', 's']; separator : Text.Scan Unit)
      (key.toList ++ rest) = none := by
    refine exactly_bind_none _ _ (by decide) h.all_isSymbol hrest.leaves_symbol
      (h.ne "this" (by decide)) fun c text hc => ?_
    rw [separator, orElse_of_none (exactly_of_ne (ne_of_isSymbol hc (by decide)) _ _)]
    exact exactly_of_ne (ne_of_isSymbol hc (by decide)) _ _
  have hhere := (orElse_of_none hthis).trans (h.exactly_sign '.' (by decide) ['/'] rest)
  have hroot : (do exactly ['@', 'r', 'o', 'o', 't']; separator : Text.Scan Unit)
      (key.toList ++ rest) = none := bind_of_none (h.exactly_sign '@' (by decide) _ _)
  have hup : (do exactly ['.', '.']; separator : Text.Scan Unit) (key.toList ++ rest) = none :=
    bind_of_none (h.exactly_sign '.' (by decide) _ _)
  have hmore : (do separator; pathStep : Text.Scan (Option String)) rest = none :=
    bind_of_none hrest.separator_none
  rw [path.steps, bind_of_some (optional?_of_none hhere), bind_of_some (optional?_of_none hroot),
    bind_of_some (flag_of_none (h.exactly_sign '@' (by decide) [] rest)),
    bind_of_some (many_of_none hup), bind_of_some (h.pathStep_eq hrest),
    bind_of_some (many_of_none hmore)]
  rfl

/-- **A key is the path to the member of its name.** -/
theorem path_eq (h : IsKey key) (hrest : Ends rest) :
    path (key.toList ++ rest) = some (Scopes.fieldPath key 0 key, rest) := by
  rw [path, bind_of_some (written_append (h.steps_eq hrest))]
  dsimp only
  rw [String.ofList_toList]
  rfl

theorem param_eq (h : IsKey key) (hrest : Ends rest) :
    param (key.toList ++ rest) = some (.path (Scopes.fieldPath key 0 key), rest) := by
  rw [param, paramWithin, bind_of_some (notAhead_of_none (h.reserved_none hrest)),
    orElse_of_none (h.literal_none hrest)]
  exact orElse_of_some (map_of_some (h.path_eq hrest))

end IsKey

end BindingGen.Template.Grammar
