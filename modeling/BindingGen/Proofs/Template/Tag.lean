import BindingGen.Proofs.Template.Argument
import BindingGen.Template.Tree

/-!
# Written tags

Tags as they are written between double braces, and what they are read as. A text of nothing but
such tags is read as these tags, one after another, and none of them takes a blank of its line.
-/

namespace BindingGen.Template

open Grammar Text.Scan

/-! ## Braces -/

section

variable {α : Type} {inside : Text.Scan α} {text rest : List Char}

/-- A text behind opening braces that starts with neither a blank nor a mark that trims. -/
structure Inside (text : List Char) : Prop where
  unspaced : Leaves isSpace text
  untrimmed : exactly ['~'] text = none

def tagStart (text : List Char) : List Char := '\x7b' :: '\x7b' :: text

theorem braced_eq {a : α} (htext : Inside text) (h : inside text = some (a, tagEnd rest)) :
    Tag.braced inside (tagStart text) = some ((⟨false, false⟩, a), rest) := by
  have hopen : exactly Tag.openBraces (tagStart text) = some ((), text) := exactly_append _ text
  have hskip := skip_of_leaves htext.unspaced
  have hclose : exactly Tag.closeBraces (tagEnd rest) = some ((), rest) := exactly_append _ rest
  have hbehind : skip (tagEnd rest) = some ((), tagEnd rest) := rfl
  have htrim : flag ['~'] (tagEnd rest) = some (false, tagEnd rest) := rfl
  rw [Tag.braced, Tag.delimited, bind_of_some hopen, bind_of_some hskip,
    bind_of_some (flag_of_none htext.untrimmed), bind_of_some hskip, bind_of_some h,
    bind_of_some hbehind, bind_of_some htrim, bind_of_some hbehind, bind_of_some hclose]
  rfl

theorem braced_none (htext : Inside text) (h : inside text = none) :
    Tag.braced inside (tagStart text) = none := by
  have hopen : exactly Tag.openBraces (tagStart text) = some ((), text) := exactly_append _ text
  have hskip := skip_of_leaves htext.unspaced
  rw [Tag.braced, Tag.delimited, bind_of_some hopen, bind_of_some hskip,
    bind_of_some (flag_of_none htext.untrimmed), bind_of_some hskip]
  exact bind_of_none h

theorem inside_sign {c : Char} (hspace : isSpace c = false) (htilde : '~' ≠ c)
    (text : List Char) : Inside (c :: text) :=
  ⟨leaves_cons hspace text, exactly_of_ne htilde [] text⟩

theorem inside_name {name : String} (hname : isIdentifier name.toList = true) (rest : List Char) :
    Inside (name.toList ++ rest) := by
  obtain ⟨c, tail, hchars, hc⟩ := exists_symbol hname
  rw [hchars]
  exact inside_sign (isSpace_of_isSymbol hc) (ne_of_isSymbol hc (by decide)) _

end

/-! ## Tags -/

/-- A tag as it is written, which is read whole, whatever is behind it. -/
structure WrittenTag where
  inside : List Char
  tag : Tag
  opensText : ∀ call, tag ≠ .rawOpening call
  reads : ∀ rest, Tag.scan (tagStart (inside ++ tagEnd rest)) = some ((⟨false, false⟩, tag), rest)

def WrittenTag.text (written : WrittenTag) : List Char := tagStart (written.inside ++ tagEnd [])

theorem WrittenTag.text_append (written : WrittenTag) (rest : List Char) :
    written.text ++ rest = tagStart (written.inside ++ tagEnd rest) := by
  simp [text, tagStart, tagEnd]

variable {name key : String}

/-- A tag is a continuation if its first word begins with the word for it. -/
def isContinuation (name : String) : Bool := ['e', 'l', 's', 'e'].isPrefixOf name.toList

theorem scanContinuation_none (hname : isIdentifier name.toList = true)
    (helse : isContinuation name = false) {rest : List Char} (hrest : Leaves isSymbol rest) :
    Tag.scanContinuation (tagStart (name.toList ++ rest)) = none := by
  refine braced_none (inside_name hname rest) (bind_of_none ?_)
  have hword : exactly ['e', 'l', 's', 'e'] (name.toList ++ rest) = none := by
    cases h : exactly ['e', 'l', 's', 'e'] (name.toList ++ rest) with
    | none => rfl
    | some read =>
      obtain ⟨tail, htail, _⟩ := exactly_word (by decide) hrest h
      rw [isContinuation, htail] at helse
      simp at helse
  obtain ⟨c, tail, hchars, hc⟩ := exists_symbol hname
  rw [orElse_of_none hword, hchars]
  exact exactly_of_ne (ne_of_isSymbol hc (by decide)) _ _

/-- The tag of a helper with arguments. -/
def callTag (name : String) (words : List Word) (hname : isIdentifier name.toList = true)
    (helse : isContinuation name = false) (hwords : words ≠ []) : WrittenTag where
  inside := name.toList ++ argText words
  tag := .call ⟨name, readArgs words, []⟩
  opensText _ h := nomatch h
  reads rest := by
    have hcontinuation := scanContinuation_none hname helse (ends_argText words rest).leaves_symbol
    have houtput : Tag.scanOutput (name.toList ++ (argText words ++ tagEnd rest)) =
        some (.call ⟨name, readArgs words, []⟩, tagEnd rest) :=
      bind_of_some (output_call_eq hname hwords rest)
    rw [List.append_assoc, Tag.scan, orElse_of_none hcontinuation]
    exact orElse_of_some (braced_eq (inside_name hname _) houtput)

def keyTag (key : String) (h : IsKey key) (helse : isContinuation key = false) : WrittenTag where
  inside := key.toList
  tag := .value (.path (Scopes.fieldPath key 0 key))
  opensText _ h := nomatch h
  reads rest := by
    have hcontinuation := scanContinuation_none h.symbols helse (Ends.tag rest).leaves_symbol
    have houtput : Tag.scanOutput (key.toList ++ tagEnd rest) =
        some (.value (.path (Scopes.fieldPath key 0 key)), tagEnd rest) :=
      bind_of_some (output_key_eq h rest)
    rw [Tag.scan]
    exact (orElse_of_none hcontinuation).trans
      (orElse_of_some (braced_eq (inside_name h.symbols _) houtput))

/-- The tag that opens the block of a helper. -/
def openingTag (name : String) (words : List Word) (hname : isIdentifier name.toList = true) :
    WrittenTag where
  inside := '#' :: (name.toList ++ argText words)
  tag := .opening ⟨name, readArgs words, []⟩
  opensText _ h := nomatch h
  reads rest := by
    rw [List.cons_append, List.append_assoc]
    have hinside : ∀ text, Inside ('#' :: text) := inside_sign (by decide) (by decide)
    have hcall : Tag.signed '#' (Tag.opening <$> call)
        ('#' :: (name.toList ++ (argText words ++ tagEnd rest))) =
        some (.opening ⟨name, readArgs words, []⟩, tagEnd rest) := by
      rw [Tag.signed, bind_of_some (exactly_cons '#' _),
        bind_of_some (skip_of_leaves (inside_name hname _).unspaced)]
      exact map_of_some (call_eq hname words rest)
    have hcontinuation : ∀ text, Tag.scanContinuation (tagStart ('#' :: text)) = none := fun text =>
      braced_none (hinside text) rfl
    have houtput : ∀ text, Tag.braced Tag.scanOutput (tagStart ('#' :: text)) = none := fun text =>
      braced_none (hinside text) rfl
    have hverbatim : ∀ text, Tag.scanVerbatimOutput (tagStart ('#' :: text)) = none :=
      fun _ => rfl
    rw [Tag.scan, orElse_of_none (hcontinuation _), orElse_of_none (houtput _),
      orElse_of_none (hverbatim _)]
    exact orElse_of_some (braced_eq (hinside _) hcall)

def closingTag : WrittenTag where
  inside := ['/', 'e', 'a', 'c', 'h']
  tag := .closing "each"
  opensText _ h := nomatch h
  reads _ := rfl

/-! ## Texts of tags -/

/-- The token of a tag with no text in front of it. -/
def plainToken (placed : Place × Tag) : Token := ⟨[], placed.1, ⟨false, false⟩, placed.2⟩

theorem readText_tagStart (text : List Char) :
    readText Tag.openBraces false (tagStart text) = ([], tagStart text) := rfl

theorem readFrom?_tag (written : WrittenTag) (fuel : Nat) (place : Place) (rest : List Char) :
    ∃ here there, Tokens.readFrom? (fuel + 1) place (written.text ++ rest) = (do
      let tokens ← Tokens.readFrom? fuel there rest
      return tokens.push (plainToken (here, written.tag))) := by
  let text := tagStart (written.inside ++ tagEnd rest)
  refine ⟨place.upTo text text, (place.upTo text text).upTo text rest, ?_⟩
  have hread := written.reads rest
  have hopens := written.opensText
  rw [written.text_append, Tokens.readFrom?, readText_tagStart]
  change (Tag.scan text >>= _) = _
  rw [hread]
  cases htag : written.tag with
  | rawOpening call => exact absurd htag (hopens call)
  | _ => rfl

/-- **A text of tags is read as its tags.** -/
theorem readFrom?_tags (tags : List WrittenTag) {fuel : Nat} (hfuel : tags.length < fuel)
    (place : Place) :
    ∃ placed : List (Place × Tag), placed.map (·.2) = tags.map (·.tag) ∧
      Tokens.readFrom? fuel place (tags.flatMap WrittenTag.text) =
        some ⟨placed.map plainToken, []⟩ := by
  induction tags generalizing fuel place with
  | nil =>
    obtain ⟨fuel, rfl⟩ := Nat.exists_eq_add_one_of_ne_zero (Nat.ne_of_gt hfuel)
    exact ⟨[], rfl, rfl⟩
  | cons written tags ih =>
    obtain ⟨fuel, rfl⟩ := Nat.exists_eq_add_one_of_ne_zero (Nat.ne_zero_of_lt hfuel)
    obtain ⟨here, there, hfirst⟩ := readFrom?_tag written fuel place (tags.flatMap WrittenTag.text)
    obtain ⟨placed, hplaced, hrest⟩ := ih (Nat.lt_of_succ_lt_succ hfuel) there
    refine ⟨(here, written.tag) :: placed, ?_, ?_⟩
    · rw [List.map_cons, List.map_cons, hplaced]
    · rw [List.flatMap_cons, hfirst, hrest]
      rfl

theorem length_lt_tags (tags : List WrittenTag) :
    tags.length < (tags.flatMap WrittenTag.text).length + 1 := by
  induction tags with
  | nil => exact Nat.zero_lt_one
  | cons written tags ih =>
    have hlength : 0 < written.text.length := Nat.zero_lt_succ _
    rw [List.flatMap_cons, List.length_append, List.length_cons]
    omega

theorem ofText?_tags (tags : List WrittenTag) :
    ∃ placed : List (Place × Tag), placed.map (·.2) = tags.map (·.tag) ∧
      Tokens.ofText? (tags.flatMap WrittenTag.text) = some ⟨placed.map plainToken, []⟩ :=
  readFrom?_tags tags (length_lt_tags tags) .start

/-! ## Blanks -/

/-- The step of a tag around which no blank is dropped. -/
def plainStep (placed : Place × Tag) : Step := ⟨[], placed.1, placed.2, false, []⟩

/-- A tag with another one directly before or behind it does not stand alone on its line. -/
theorem ofTokensFrom_cons {atStart : Bool} {placed : Place × Tag} {rest : List (Place × Tag)}
    (hraw : ∀ call, placed.2 ≠ .rawOpening call) (halone : atStart = true → rest ≠ []) :
    Steps.ofTokensFrom [] atStart false .none (plainToken placed :: rest.map plainToken) =
      ⟨plainStep placed :: (Steps.ofTokensFrom [] false false .none (rest.map plainToken)).tagged,
        (Steps.ofTokensFrom [] false false .none (rest.map plainToken)).final⟩ := by
  obtain ⟨place, tag⟩ := placed
  cases rest with
  | nil =>
    cases atStart with
    | true => exact absurd rfl (halone rfl)
    | false =>
      cases tag with
      | rawOpening call => exact absurd rfl (hraw call)
      | _ => rfl
  | cons next rest =>
    cases tag with
    | rawOpening call => exact absurd rfl (hraw call)
    | _ => cases atStart <;> rfl

theorem ofTokensFrom_plain {atStart : Bool} {placed : List (Place × Tag)}
    (hraw : ∀ entry ∈ placed, ∀ call, entry.2 ≠ .rawOpening call)
    (halone : atStart = true → placed.length ≠ 1) :
    Steps.ofTokensFrom [] atStart false .none (placed.map plainToken) =
      ⟨placed.map plainStep, []⟩ := by
  induction placed generalizing atStart with
  | nil => rfl
  | cons entry rest ih =>
    have hrest := @ih false (fun other hother => hraw other (List.mem_cons_of_mem _ hother))
      (fun h => nomatch h)
    have hnext : atStart = true → rest ≠ [] := by
      rintro hstart rfl
      exact halone hstart rfl
    rw [List.map_cons, ofTokensFrom_cons (hraw entry List.mem_cons_self) hnext, hrest]
    rfl

theorem steps_tags (tags : List WrittenTag) (halone : tags.length ≠ 1) :
    ∃ (tokens : Tokens) (placed : List (Place × Tag)),
      Tokens.ofText? (tags.flatMap WrittenTag.text) = some tokens ∧
      placed.map (·.2) = tags.map (·.tag) ∧ tokens.tagged.map (·.tag) = tags.map (·.tag) ∧
      Steps.ofTokens tokens = ⟨placed.map plainStep, []⟩ := by
  obtain ⟨placed, hplaced, hread⟩ := ofText?_tags tags
  have hlength : placed.length = tags.length := by simpa using congrArg List.length hplaced
  have hraw : ∀ entry ∈ placed, ∀ call, entry.2 ≠ .rawOpening call := by
    intro entry hentry
    have hmem : entry.2 ∈ tags.map (·.tag) := hplaced ▸ List.mem_map_of_mem hentry
    obtain ⟨written, _, htag⟩ := List.mem_map.mp hmem
    exact htag ▸ written.opensText
  refine ⟨_, placed, hread, hplaced, ?_, ofTokensFrom_plain hraw fun _ => hlength ▸ halone⟩
  rw [List.map_map, ← hplaced]
  rfl

end BindingGen.Template
