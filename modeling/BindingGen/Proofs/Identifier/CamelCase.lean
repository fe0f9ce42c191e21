import BindingGen.Proofs.Identifier.JoinedWords
import BindingGen.Proofs.Identifier.Letters

/-!
# Camel case

A camel-case name is its words in a row, each with a capital in front, or in capitals throughout if it
is an acronym. Normalizing the name finds all of its words again, unless two acronyms stand side by
side.
-/

namespace BindingGen.Identifier

open Text

/-! ## Words -/

def isLowerOrDigit (c : Char) : Bool := c.isLower || c.isDigit

def isCapitalizedWord : List Char → Bool
  | c :: d :: rest => c.isUpper && d.isLower && rest.all isLowerOrDigit
  | _ => false

def isAcronymWord : List Char → Bool
  | c :: rest => c.isUpper && (rest.dropWhile Char.isUpper).all Char.isDigit
  | [] => false

def isCamelWord (word : List Char) : Bool := isCapitalizedWord word || isAcronymWord word

/-- Words of which no two acronyms stand side by side, since nothing would tell them apart. -/
structure IsCamelCase (words : List (List Char)) : Prop where
  camel : ∀ word ∈ words, isCamelWord word = true
  apart : words.IsChain fun v w => ¬ (isAcronymWord v = true ∧ isAcronymWord w = true)

variable {acronym : Bool} {c p : Char} {word rest : List Char} {words : List (List Char)}

theorem exists_of_capitalized (h : isCapitalizedWord word = true) :
    ∃ first second more, word = first :: second :: more ∧ first.isUpper = true ∧
      second.isLower = true ∧ ∀ c ∈ more, isLowerOrDigit c = true := by
  match word, h with
  | first :: second :: more, h =>
    simp only [isCapitalizedWord, Bool.and_eq_true, List.all_eq_true] at h
    exact ⟨first, second, more, rfl, h.1.1, h.1.2, h.2⟩

theorem exists_of_acronym (h : isAcronymWord word = true) :
    ∃ first capitals digits, word = first :: (capitals ++ digits) ∧ first.isUpper = true ∧
      (∀ c ∈ capitals, c.isUpper = true) ∧ ∀ c ∈ digits, c.isDigit = true := by
  cases word with
  | nil => cases h
  | cons first tail =>
    simp only [isAcronymWord, Bool.and_eq_true, List.all_eq_true] at h
    exact ⟨first, tail.takeWhile Char.isUpper, tail.dropWhile Char.isUpper,
      by rw [List.takeWhile_append_dropWhile], h.1, List.all_eq_true.mp List.all_takeWhile, h.2⟩

theorem exists_first (h : isCamelWord word = true) :
    ∃ first tail, word = first :: tail ∧ first.isUpper = true := by
  rcases Bool.or_eq_true_iff.mp h with hcapitalized | hacronym
  · obtain ⟨first, second, more, rfl, hfirst, -⟩ := exists_of_capitalized hcapitalized
    exact ⟨first, second :: more, rfl, hfirst⟩
  · obtain ⟨first, capitals, digits, rfl, hfirst, -⟩ := exists_of_acronym hacronym
    exact ⟨first, capitals ++ digits, rfl, hfirst⟩

theorem case_of_isUpper (h : c.isUpper = true) :
    isUppercase c = true ∧ isLowercase c = false ∧ c.isDigit = false :=
  of_ascii (P := fun c => c.isUpper = true →
    isUppercase c = true ∧ isLowercase c = false ∧ c.isDigit = false) (by decide)
    (ascii_of_isUpper h) h

theorem case_of_isLower (h : c.isLower = true) : isUppercase c = false ∧ isLowercase c = true :=
  of_ascii (P := fun c => c.isLower = true → isUppercase c = false ∧ isLowercase c = true)
    (by decide) (ascii_of_isLower h) h

theorem case_of_isDigit (h : c.isDigit = true) : isUppercase c = false ∧ isLowercase c = false :=
  of_ascii (P := fun c => c.isDigit = true → isUppercase c = false ∧ isLowercase c = false)
    (by decide) (ascii_of_isDigit h) h

theorem isUppercase_of_lowerOrDigit (h : isLowerOrDigit c = true) : isUppercase c = false :=
  (Bool.or_eq_true_iff.mp h).elim (fun h => (case_of_isLower h).1) fun h => (case_of_isDigit h).1

/-! ## Splitting -/

/-- The last character of a word. -/
def Ends (acronym : Bool) (c : Char) : Prop :=
  isLowerOrDigit c = true ∨ acronym = true ∧ c.isUpper = true

theorem splitWords_cons_of_not (h : startsWord (some p) c rest.head? = false) :
    splitWords (some p) (c :: rest) = toLower c ++ splitWords (some c) rest := by
  rw [splitWords, h]
  rfl

/-- No word starts at a small letter or a digit. -/
theorem splitWords_small {small : List Char}
    (hsmall : ∀ c ∈ small, isLowerOrDigit c = true) (hp : Ends acronym p) (rest : List Char) :
    ∃ q, Ends acronym q ∧
      splitWords (some p) (small ++ rest) = small.flatMap toLower ++ splitWords (some q) rest := by
  induction small generalizing p with
  | nil => exact ⟨p, hp, rfl⟩
  | cons c small ih =>
    have hc := hsmall c List.mem_cons_self
    obtain ⟨q, hq, hsplit⟩ := ih (fun d hd => hsmall d (List.mem_cons_of_mem c hd)) (Or.inl hc)
    have hstart : startsWord (some p) c (small ++ rest).head? = false := by
      rw [startsWord, isUppercase_of_lowerOrDigit hc, Bool.false_and]
    refine ⟨q, hq, ?_⟩
    rw [List.cons_append, splitWords_cons_of_not hstart, hsplit, List.flatMap_cons,
      List.append_assoc]

/-- No word starts inside an acronym, as long as no small letter follows it. -/
theorem splitWords_capitals {capitals : List Char} (hcapitals : ∀ c ∈ capitals, c.isUpper = true)
    (hp : p.isUpper = true) (hrest : rest.head?.any isLowercase = false) :
    ∃ q, q.isUpper = true ∧ splitWords (some p) (capitals ++ rest) =
      capitals.flatMap toLower ++ splitWords (some q) rest := by
  induction capitals generalizing p with
  | nil => exact ⟨p, hp, rfl⟩
  | cons c capitals ih =>
    have hbehind : ∀ d ∈ capitals, d.isUpper = true :=
      fun d hd => hcapitals d (List.mem_cons_of_mem c hd)
    obtain ⟨q, hq, hsplit⟩ := ih hbehind (hcapitals c List.mem_cons_self)
    have hnext : (capitals ++ rest).head?.any isLowercase = false := by
      cases capitals with
      | nil => exact hrest
      | cons d capitals => exact (case_of_isUpper (hbehind d List.mem_cons_self)).2.1
    have hstart : startsWord (some p) c (capitals ++ rest).head? = false := by
      obtain ⟨-, hlower, hdigit⟩ := case_of_isUpper hp
      rw [startsWord, hnext, hlower, hdigit, Bool.and_false, Bool.or_false, Bool.or_false,
        Bool.and_false]
    refine ⟨q, hq, ?_⟩
    rw [List.cons_append, splitWords_cons_of_not hstart, hsplit, List.flatMap_cons,
      List.append_assoc]

theorem splitWords_word (hword : isCamelWord word = true)
    (hrest : rest.head?.any isLowercase = false) :
    ∃ first tail q, word = first :: tail ∧ first.isUpper = true ∧
      (isAcronymWord word = false → tail.head?.any isLowercase = true) ∧
      Ends (isAcronymWord word) q ∧
      splitWords (some first) (tail ++ rest) = tail.flatMap toLower ++ splitWords (some q) rest := by
  rw [isCamelWord, Bool.or_eq_true] at hword
  rcases hword with hcapitalized | hacronym
  · obtain ⟨first, second, more, rfl, hfirst, hsecond, hmore⟩ := exists_of_capitalized hcapitalized
    obtain ⟨hupper, hlower⟩ := case_of_isLower hsecond
    have hstart : startsWord (some first) second (more ++ rest).head? = false := by
      rw [startsWord, hupper, Bool.false_and]
    have hends : Ends (isAcronymWord (first :: second :: more)) second :=
      Or.inl (Bool.or_eq_true_iff.mpr (Or.inl hsecond))
    obtain ⟨q, hq, hsplit⟩ := splitWords_small hmore hends rest
    refine ⟨first, second :: more, q, rfl, hfirst, fun _ => hlower, hq, ?_⟩
    rw [List.cons_append, splitWords_cons_of_not hstart, hsplit, List.flatMap_cons,
      List.append_assoc]
  · rw [hacronym]
    obtain ⟨first, capitals, digits, rfl, hfirst, hcapitals, hdigits⟩ := exists_of_acronym hacronym
    have hnext : (digits ++ rest).head?.any isLowercase = false := by
      cases digits with
      | nil => exact hrest
      | cons d digits => exact (case_of_isDigit (hdigits d List.mem_cons_self)).2
    obtain ⟨p, hp, hfront⟩ := splitWords_capitals hcapitals hfirst hnext
    obtain ⟨q, hq, hsplit⟩ := splitWords_small
      (fun c hc => Bool.or_eq_true_iff.mpr (Or.inr (hdigits c hc))) (Or.inr ⟨rfl, hp⟩) rest
    refine ⟨first, capitals ++ digits, q, rfl, hfirst, fun h => absurd h (by decide), hq, ?_⟩
    rw [List.append_assoc, hfront, hsplit, List.flatMap_append, List.append_assoc]

/-! ## Names -/

theorem isLowercase_head?_flatten (h : ∀ word ∈ words, isCamelWord word = true) :
    words.flatten.head?.any isLowercase = false := by
  cases words with
  | nil => rfl
  | cons word words =>
    obtain ⟨first, tail, rfl, hfirst⟩ := exists_first (h word List.mem_cons_self)
    exact (case_of_isUpper hfirst).2.1

theorem IsCamelCase.tail (h : IsCamelCase (word :: words)) : IsCamelCase words :=
  ⟨fun w hw => h.camel w (List.mem_cons_of_mem word hw), (List.isChain_cons.mp h.apart).2⟩

/-- A word starts where the last one ends. -/
theorem startsWord_of_ends {next : Option Char} (hp : Ends acronym p) (hc : c.isUpper = true)
    (hnext : acronym = true → next.any isLowercase = true) : startsWord (some p) c next = true := by
  rw [startsWord, (case_of_isUpper hc).1, Bool.true_and]
  rcases hp with hsmall | ⟨hacronym, hupper⟩
  · rcases Bool.or_eq_true_iff.mp hsmall with hlower | hdigit
    · simp [(case_of_isLower hlower).2]
    · simp [hdigit]
  · simp [(case_of_isUpper hupper).1, hnext hacronym]

/-- Every word is found behind another. -/
theorem splitWords_flatten (h : IsCamelCase (word :: words)) (hp : Ends (isAcronymWord word) p) :
    splitWords (some p) words.flatten = words.flatMap fun w => '_' :: w.flatMap toLower := by
  induction words generalizing word p with
  | nil => rfl
  | cons next words ih =>
    have hnext := h.tail
    obtain ⟨first, tail, q, rfl, hfirst, hsecond, hq, hsplit⟩ :=
      splitWords_word (hnext.camel next List.mem_cons_self)
        (isLowercase_head?_flatten hnext.tail.camel)
    have hapart := (List.isChain_cons_cons.mp h.apart).1
    have hstart : startsWord (some p) first (tail ++ words.flatten).head? = true := by
      refine startsWord_of_ends hp hfirst fun hacronym => ?_
      have htail := hsecond (Bool.not_eq_true _ ▸ fun hnext => hapart ⟨hacronym, hnext⟩)
      cases tail with
      | nil => cases htail
      | cons d more => exact htail
    rw [List.flatten_cons, List.cons_append, splitWords, hstart, hsplit, ih hnext hq]
    simp

/-! ## Camel-case names -/

theorem char_of_camelWord (h : isCamelWord word = true) :
    ∀ c ∈ word, c.isUpper = true ∨ c.isLower = true ∨ c.isDigit = true := by
  rw [isCamelWord, Bool.or_eq_true] at h
  rcases h with hcapitalized | hacronym
  · obtain ⟨first, second, more, rfl, hfirst, hsecond, hmore⟩ := exists_of_capitalized hcapitalized
    refine List.forall_mem_cons.mpr ⟨Or.inl hfirst,
      List.forall_mem_cons.mpr ⟨Or.inr (Or.inl hsecond), fun c hc => Or.inr ?_⟩⟩
    exact Bool.or_eq_true_iff.mp (hmore c hc)
  · obtain ⟨first, capitals, digits, rfl, hfirst, hcapitals, hdigits⟩ := exists_of_acronym hacronym
    refine List.forall_mem_cons.mpr ⟨Or.inl hfirst, fun c hc => ?_⟩
    rcases List.mem_append.mp hc with hc | hc
    · exact Or.inl (hcapitals c hc)
    · exact Or.inr (Or.inr (hdigits c hc))

theorem isAscii_of_camelWord (h : isCamelWord word = true) : IsAscii word := by
  intro c hc
  rcases char_of_camelWord h c hc with hupper | hlower | hdigit
  · exact ascii_of_isUpper hupper
  · exact ascii_of_isLower hlower
  · exact ascii_of_isDigit hdigit

theorem IsCamelCase.isAscii_flatten (h : IsCamelCase words) : IsAscii words.flatten := by
  intro c hc
  obtain ⟨word, hword, hc⟩ := List.mem_flatten.mp hc
  exact isAscii_of_camelWord (h.camel word hword) c hc

theorem IsCamelCase.areWords (h : IsCamelCase words) :
    AreWords (words.map (·.map Char.toLower)) := by
  intro word hword
  obtain ⟨word, hmem, rfl⟩ := List.mem_map.mp hword
  have hcamel := h.camel word hmem
  refine ⟨?_, fun hunderscore => ?_⟩
  · obtain ⟨first, tail, rfl, -⟩ := exists_first hcamel
    exact List.cons_ne_nil _ _
  · obtain ⟨c, hc, hlower⟩ := List.mem_map.mp hunderscore
    rw [toLower_eq_underscore_iff (isAscii_of_camelWord hcamel c hc)] at hlower
    subst hlower
    rcases char_of_camelWord hcamel '_' hc with h | h | h <;> cases h

theorem length_of_capitalized (h : isCapitalizedWord word = true) : word.length ≠ 1 := by
  obtain ⟨first, second, more, rfl, -⟩ := exists_of_capitalized h
  simp

theorem any_isLowercase_of_capitalized (h : isCapitalizedWord word = true) :
    word.any isLowercase = true := by
  obtain ⟨first, second, more, rfl, -, hsecond, -⟩ := exists_of_capitalized h
  simp [(case_of_isLower hsecond).2]

theorem IsCamelCase.capitalized {v w : List Char} (h : IsCamelCase (v :: w :: words)) :
    isCapitalizedWord v = true ∨ isCapitalizedWord w = true := by
  have hv := Bool.or_eq_true_iff.mp (h.camel v (by simp))
  have hw := Bool.or_eq_true_iff.mp (h.camel w (by simp))
  have hapart := (List.isChain_cons_cons.mp h.apart).1
  rcases hv with hv | hv
  · exact Or.inl hv
  · exact Or.inr (hw.resolve_right fun hw => hapart ⟨hv, hw⟩)

theorem IsCamelCase.lettersApart (h : IsCamelCase words) :
    LettersApart (words.map (·.map Char.toLower)) := by
  induction words with
  | nil => exact List.isChain_nil
  | cons v words ih =>
    cases words with
    | nil => exact List.isChain_singleton _
    | cons w words =>
      refine List.isChain_cons_cons.mpr ⟨?_, ih h.tail⟩
      rw [List.length_map, List.length_map]
      rintro ⟨hv, hw⟩
      rcases h.capitalized with hcapitalized | hcapitalized
      · exact length_of_capitalized hcapitalized hv
      · exact length_of_capitalized hcapitalized hw

/-- Without small letters there is at most one word. -/
theorem IsCamelCase.eq_of_not_mixed (h : IsCamelCase (word :: words))
    (hmixed : (word :: words).flatten.any isLowercase = false) : words = [] := by
  cases words with
  | nil => rfl
  | cons next words =>
    rw [List.flatten_cons, List.flatten_cons, List.any_append, List.any_append,
      Bool.or_eq_false_iff, Bool.or_eq_false_iff] at hmixed
    rcases h.capitalized with hcapitalized | hcapitalized
    · rw [any_isLowercase_of_capitalized hcapitalized] at hmixed
      cases hmixed.1
    · rw [any_isLowercase_of_capitalized hcapitalized] at hmixed
      cases hmixed.2.1

theorem splitWords_camelCase (h : IsCamelCase (word :: words)) :
    splitWords none (word :: words).flatten =
      word.flatMap toLower ++ words.flatMap fun w => '_' :: w.flatMap toLower := by
  obtain ⟨first, tail, q, rfl, -, -, hq, hsplit⟩ :=
    splitWords_word (h.camel _ List.mem_cons_self) (isLowercase_head?_flatten h.tail.camel)
  rw [List.flatten_cons, List.cons_append, splitWords, hsplit, splitWords_flatten h hq]
  simp [startsWord]

theorem lowerWords_camelCase (h : IsCamelCase words) :
    lowerWords words.flatten = ['_'].intercalate (words.map (·.map Char.toLower)) := by
  cases words with
  | nil => rfl
  | cons word words =>
    have hlower : ∀ w ∈ word :: words, w.flatMap toLower = w.map Char.toLower :=
      fun w hw => flatMap_toLower_of_ascii (isAscii_of_camelWord (h.camel w hw))
    have htext : word.flatMap toLower ++ (words.flatMap fun w => '_' :: w.flatMap toLower) =
        ['_'].intercalate ((word :: words).map (·.map Char.toLower)) := by
      rw [List.map_cons, intercalate_cons, hlower word List.mem_cons_self, List.flatMap_map]
      refine congrArg _ (List.flatMap_congr fun w hw => ?_)
      rw [hlower w (List.mem_cons_of_mem word hw)]
    rw [← htext, lowerWords_of_ascii h.isAscii_flatten]
    cases hmixed : (word :: words).flatten.any isLowercase with
    | true => rw [spellWords_true, splitWords_camelCase h]
    | false =>
      rw [h.eq_of_not_mixed hmixed, spellWords_false]
      simp

/-- The words of a camel-case name are found again by case alone. They are joined by single
underscores, and no acronym is put together across them. -/
theorem normalize_camelCase (words : List String) (h : IsCamelCase (words.map String.toList)) :
    let name := "_".intercalate (words.map String.toLower)
    normalize (String.join words) = name ∧
      lowerWords (String.join words).toList = name.toList ∧ IsTidy name.toList := by
  intro name
  have hname : name.toList =
      ['_'].intercalate ((words.map String.toList).map (·.map Char.toLower)) := by
    rw [String.toList_intercalate, List.map_map, List.map_map]
    exact congrArg _ (List.map_congr_left fun word _ => String.toList_map)
  have hwords : lowerWords (String.join words).toList = name.toList := by
    rw [hname, ← lowerWords_camelCase h, String.toList_join, List.flatMap]
  have htidy : IsTidy name.toList := by
    rw [hname]
    exact isTidy_intercalate h.areWords h.lettersApart
  refine ⟨?_, hwords, htidy⟩
  have hnormalize : normalizeChars (String.join words).toList = tidy name.toList := by
    rw [← hwords]
    rfl
  rw [normalize, hnormalize, htidy.tidy_eq, String.ofList_toList]

/-- Single letters, digits, and an acronym before a capital. -/
def camelSample : List String := ["S", "Query", "L", "Int4", "XML2", "Text"]

theorem normalize_camelCase_sample :
    IsCamelCase (camelSample.map String.toList) ∧
      normalize "SQueryLInt4XML2Text" = "s_query_l_int4_xml2_text" := by
  have hcamel : IsCamelCase (camelSample.map String.toList) := ⟨by decide, by decide⟩
  have hjoin : String.join camelSample = "SQueryLInt4XML2Text" := by decide
  have hname : "_".intercalate (camelSample.map String.toLower) = "s_query_l_int4_xml2_text" := by
    decide +kernel
  have hnormalize := (normalize_camelCase camelSample hcamel).1
  rw [hjoin, hname] at hnormalize
  exact ⟨hcamel, hnormalize⟩

end BindingGen.Identifier
