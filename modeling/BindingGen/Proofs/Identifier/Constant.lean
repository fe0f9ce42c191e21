import BindingGen.Proofs.Identifier.Ascii
import BindingGen.Proofs.Namespace

/-!
# Constants as names

A constant is written in capital letters, digits and underscores only, and begins with a digit if
what it is made of does. So the constant of a sibling is the name of a member unless a digit follows
the namespace.
-/

namespace BindingGen.Identifier

open Text Namespace

/-! ## Names -/

def isWordChar (letter : Char → Bool) (c : Char) : Bool := letter c || c.isDigit || c == '_'

def isName (letter : Char → Bool) : List Char → Bool
  | [] => false
  | c :: rest => (letter c || c == '_') && rest.all (isWordChar letter)

/-- A word like a name, of which it is known whether it begins with a digit. -/
structure IsWord (letter : Char → Bool) (digit : Bool) (name : List Char) : Prop where
  nonempty : name ≠ []
  chars : ∀ c ∈ name, isWordChar letter c = true
  first : name.head?.any Char.isDigit = digit

def NoDigit (letter : Char → Bool) : Prop := ∀ c, letter c = true → c.isDigit = false

variable {c : Char}

theorem noDigit_isAlpha : NoDigit Char.isAlpha := by
  intro c h
  rw [← Bool.not_eq_true, isDigit_iff]
  rw [isAlpha_iff, isUpper_iff, isLower_iff] at h
  omega

theorem noDigit_isUpper : NoDigit Char.isUpper :=
  fun c h => noDigit_isAlpha c (isAlpha_iff.mpr (Or.inl h))

variable {letter : Char → Bool} {digit : Bool} {name : List Char}

theorem IsWord.isName_iff (hletter : NoDigit letter) (h : IsWord letter digit name) :
    isName letter name = true ↔ digit = false := by
  obtain ⟨hne, hchars, hfirst⟩ := h
  cases name with
  | nil => exact absurd rfl hne
  | cons c rest =>
    have hc := hchars c List.mem_cons_self
    have hrest : rest.all (isWordChar letter) = true :=
      List.all_eq_true.mpr fun d hd => hchars d (List.mem_cons_of_mem c hd)
    rw [List.head?_cons, Option.any_some] at hfirst
    rw [isName, hrest, Bool.and_true, ← hfirst]
    constructor
    · intro hname
      rcases Bool.or_eq_true_iff.mp hname with hletter' | hunderscore
      · exact hletter c hletter'
      · rw [beq_iff_eq.mp hunderscore]
        rfl
    · intro hdigit
      rw [isWordChar, hdigit, Bool.or_false] at hc
      exact hc

theorem isWord_of_isName (hletter : NoDigit letter) (h : isName letter name = true) :
    IsWord letter false name := by
  cases name with
  | nil => cases h
  | cons c rest =>
    rw [isName, Bool.and_eq_true] at h
    obtain ⟨hc, hrest⟩ := h
    refine ⟨List.cons_ne_nil c rest, ?_, ?_⟩
    · intro d hd
      rcases List.mem_cons.mp hd with rfl | hd
      · rw [isWordChar, Bool.or_right_comm, hc, Bool.true_or]
      · exact List.all_eq_true.mp hrest d hd
    · rw [List.head?_cons, Option.any_some]
      rcases Bool.or_eq_true_iff.mp hc with hc | hc
      · exact hletter c hc
      · rw [beq_iff_eq.mp hc]
        rfl

/-! ## Characters -/

theorem isWordChar_iff :
    isWordChar letter c = true ↔ letter c = true ∨ c.isDigit = true ∨ c = '_' := by
  rw [isWordChar, Bool.or_eq_true, Bool.or_eq_true, beq_iff_eq, or_assoc]

theorem isAscii_of_isWordChar (h : isWordChar Char.isAlpha c = true) : c.toNat < 128 := by
  rw [isWordChar_iff, isAlpha_iff, isUpper_iff, isLower_iff, isDigit_iff] at h
  rcases h with h | h | rfl
  · omega
  · omega
  · decide

theorem isAscii_of_isLower (h : isWordChar Char.isLower c = true) : c.toNat < 128 := by
  apply isAscii_of_isWordChar
  rw [isWordChar_iff] at h ⊢
  exact h.imp_left fun hlower => isAlpha_iff.mpr (Or.inr hlower)

theorem toLower_of_isWordChar (h : isWordChar Char.isAlpha c = true) :
    ∃ d, toLower c = [d] ∧ isWordChar Char.isLower d = true ∧ d.isDigit = c.isDigit := by
  have hascii := isAscii_of_isWordChar h
  refine ⟨c.toLower, by rw [toLower, if_pos hascii], ?_⟩
  apply of_ascii (P := fun c => isWordChar Char.isAlpha c = true →
    isWordChar Char.isLower c.toLower = true ∧ c.toLower.isDigit = c.isDigit) _ hascii h
  decide

theorem toUpper_of_isWordChar (h : isWordChar Char.isLower c = true) :
    ∃ d, toUpper c = [d] ∧ isWordChar Char.isUpper d = true ∧ d.isDigit = c.isDigit := by
  have hascii := isAscii_of_isLower h
  refine ⟨c.toUpper, by rw [toUpper, if_pos hascii], ?_⟩
  apply of_ascii (P := fun c => isWordChar Char.isLower c = true →
    isWordChar Char.isUpper c.toUpper = true ∧ c.toUpper.isDigit = c.isDigit) _ hascii h
  decide

/-! ## Passes -/

/-- A mapping that keeps apart what is a digit and what is none keeps words. -/
theorem IsWord.flatMap {letter' : Char → Bool} {mapping : Char → List Char}
    (hmapping : ∀ c, isWordChar letter c = true →
      ∃ d, mapping c = [d] ∧ isWordChar letter' d = true ∧ d.isDigit = c.isDigit)
    (h : IsWord letter digit name) : IsWord letter' digit (name.flatMap mapping) := by
  obtain ⟨hne, hchars, hfirst⟩ := h
  cases name with
  | nil => exact absurd rfl hne
  | cons c rest =>
    obtain ⟨d, hd, _, hdigit⟩ := hmapping c (hchars c List.mem_cons_self)
    refine ⟨by simp [hd], ?_, ?_⟩
    · intro x hx
      obtain ⟨y, hy, hx⟩ := List.mem_flatMap.mp hx
      obtain ⟨z, hz, hword, _⟩ := hmapping y (hchars y hy)
      rw [hz, List.mem_singleton] at hx
      rwa [hx]
    · rw [← hfirst, List.flatMap_cons, hd]
      simp [hdigit]

theorem splitWords_chars (h : ∀ c ∈ name, isWordChar Char.isAlpha c = true)
    (previous : Option Char) :
    ∀ d ∈ splitWords previous name, isWordChar Char.isLower d = true := by
  intro d hd
  rcases mem_of_mem_splitWords hd with rfl | ⟨c, hc, hd⟩
  · rfl
  · obtain ⟨lower, hlower, hword, _⟩ := toLower_of_isWordChar (h c hc)
    rw [hlower, List.mem_singleton] at hd
    rwa [hd]

theorem isAscii_of_wordChars (h : ∀ c ∈ name, isWordChar Char.isAlpha c = true) : IsAscii name :=
  fun c hc => isAscii_of_isWordChar (h c hc)

theorem IsWord.lowerWords (h : IsWord Char.isAlpha digit name) :
    IsWord Char.isLower digit (lowerWords name) := by
  unfold Identifier.lowerWords
  split
  · obtain ⟨hne, hchars, hfirst⟩ := h
    have hsplit := splitWords_chars hchars none
    cases name with
    | nil => exact absurd rfl hne
    | cons c rest =>
      obtain ⟨d, hd, _, hdigit⟩ := toLower_of_isWordChar (hchars c List.mem_cons_self)
      have hcons : splitWords none (c :: rest) = d :: splitWords (some c) rest := by
        simp [splitWords, startsWord, hd]
      refine ⟨by simp [hcons], hsplit, ?_⟩
      rw [← hfirst, hcons]
      simp [hdigit]
  · rw [lowercase, lowercaseAfter_of_ascii (isAscii_of_wordChars h.chars)]
    exact h.flatMap fun c hc => toLower_of_isWordChar hc

theorem IsWord.collapse (h : IsWord letter digit name) :
    IsWord letter digit (collapseUnderscores name) := by
  obtain ⟨hne, hchars, hfirst⟩ := h
  refine ⟨?_, fun c hc => hchars c (mem_of_mem_collapse hc), by rw [head?_collapse, hfirst]⟩
  intro hnil
  have hhead := head?_collapse name
  rw [hnil, List.head?_nil] at hhead
  exact hne (List.head?_eq_none_iff.mp hhead.symm)

theorem isLower_of_small (h : asciiSmall.contains c.toNat = true) : c.isLower = true := by
  rw [← isLowercase_of_ascii (ascii_of_small h)]
  exact isLowercase_of_small h

theorem isDigit_of_sameLetter {a : Char} (ha : asciiSmall.contains a.toNat = true)
    (h : sameLetter a c = true) (hc : isWordChar Char.isLower c = true) : c.isDigit = false := by
  have hascii := isAscii_of_isLower hc
  rw [← Bool.not_eq_true]
  intro hdigit
  have hfixed : toLower c = [c] ∧ isLowercase c = false := by
    rw [toLower, if_pos hascii, isLowercase, if_pos hascii]
    apply of_ascii (P := fun c => c.isDigit = true → [c.toLower] = [c] ∧ c.isLower = false) _
      hascii hdigit
    decide
  rw [isLowercase_of_sameLetter ha h hfixed.1] at hfixed
  cases hfixed.2

theorem rejoin_chars {x y z : Char} (hacronym : IsAcronym x y z)
    (h : ∀ c ∈ name, isWordChar Char.isLower c = true) :
    ∀ c ∈ rejoinAcronym x y z name, isWordChar Char.isLower c = true := by
  have hletter : ∀ letter : Char, asciiSmall.contains letter.toNat = true →
      isWordChar Char.isLower letter = true := by
    intro letter hsmall
    rw [isWordChar, isLower_of_small hsmall, Bool.true_or, Bool.true_or]
  intro c hc
  rcases mem_of_mem_rejoin hc with hc | rfl | rfl | rfl
  · exact h c hc
  · exact hletter c hacronym.first
  · exact hletter c hacronym.second
  · exact hletter c hacronym.third

/-- An acronym has letters only, together or apart. -/
theorem IsWord.rejoin {x y z : Char} (hacronym : IsAcronym x y z)
    (h : IsWord Char.isLower digit name) :
    IsWord Char.isLower digit (rejoinAcronym x y z name) := by
  have hchars := rejoin_chars hacronym h.chars
  obtain ⟨hne, hold, hfirst⟩ := h
  cases name using rejoin_induction (a := x) (b := y) (c := z) with
  | nil => exact absurd rfl hne
  | joined first _ _ rest hspelled =>
    obtain ⟨_, _, _, _, heq, hsame, _⟩ := exists_of_spelledOut hspelled
    rw [← (List.cons.inj heq).1] at hsame
    have hdigit := isDigit_of_sameLetter hacronym.first hsame (hold first List.mem_cons_self)
    have hx : x.isDigit = false :=
      noDigit_isAlpha x (isAlpha_iff.mpr (Or.inr (isLower_of_small hacronym.first)))
    rw [rejoin_spelledOut hspelled] at hchars ⊢
    refine ⟨List.cons_ne_nil _ _, hchars, ?_⟩
    rw [← hfirst]
    simp [hdigit, hx]
  | kept first rest hspelled =>
    rw [rejoin_cons hspelled] at hchars ⊢
    exact ⟨List.cons_ne_nil _ _, hchars, hfirst⟩

theorem IsWord.constant {raw : String} (h : IsWord Char.isAlpha digit raw.toList) :
    IsWord Char.isUpper digit (constant raw).toList := by
  have hlower : IsWord Char.isLower digit (normalizeChars raw.toList) :=
    (h.lowerWords.collapse.rejoin isAcronym_sql).rejoin isAcronym_cte
  rw [Identifier.constant, String.toList_ofList]
  exact hlower.flatMap fun c hc => toUpper_of_isWordChar hc

/-! ## Members -/

/-- Behind the namespace, only the first character of a name can be a digit where none may stand. -/
theorem isWord_stripPrefix {start rest : String}
    (h : IsWord Char.isAlpha false (start ++ rest).toList) :
    IsWord Char.isAlpha (rest.toList.head?.any Char.isDigit)
      (stripPrefix (start ++ rest) start).toList := by
  rw [stripPrefix_append]
  split
  · rename_i hrest
    subst hrest
    rwa [String.append_empty] at h
  · rename_i hrest
    refine ⟨fun hnil => hrest (String.toList_eq_nil_iff.mp hnil), fun c hc => ?_, rfl⟩
    apply h.chars
    rw [String.toList_append]
    exact List.mem_append_right _ hc

/-- The constant of a sibling is never empty and holds nothing but capitals, digits and underscores.
It is the name of a member exactly if no digit follows the namespace. -/
theorem constant_stripped_iff (names : List String)
    (hnames : ∀ name ∈ names, isName Char.isAlpha name.toList = true) (name : String)
    (hname : name ∈ names) :
    let start := commonPrefix (names.map some)
    let member := (constant (stripPrefix name start)).toList
    member ≠ [] ∧ (∀ c ∈ member, isWordChar Char.isUpper c = true) ∧
      (isName Char.isUpper member = true ↔
        ¬ ∃ d rest, d.isDigit = true ∧ name.toList = start.toList ++ d :: rest) := by
  intro start member
  obtain ⟨rest, hrest⟩ := exists_rest hname
  have hword := isWord_of_isName noDigit_isAlpha (hnames name hname)
  have hmember : IsWord Char.isUpper (rest.toList.head?.any Char.isDigit) member := by
    apply IsWord.constant
    rw [hrest] at hword ⊢
    exact isWord_stripPrefix hword
  refine ⟨hmember.nonempty, hmember.chars, ?_⟩
  rw [hmember.isName_iff noDigit_isUpper, ← Bool.not_eq_true, not_iff_not, hrest,
    String.toList_append]
  constructor
  · intro hdigit
    obtain ⟨d, hd, hdigit⟩ := (Option.any_eq_true _ _).mp hdigit
    obtain ⟨more, hmore⟩ := List.head?_eq_some_iff.mp hd
    exact ⟨d, more, hdigit, by rw [hmore]⟩
  · rintro ⟨d, more, hdigit, heq⟩
    rw [List.append_cancel_left heq]
    simp [hdigit]

/-- The namespace itself, a name with an acronym in it, and one that goes on with a digit. -/
def siblingSample : List String := ["XML_", "XML_S_Q_L_Text", "XML_2D"]

theorem constant_stripped_samples :
    (∀ name ∈ siblingSample, isName Char.isAlpha name.toList = true) ∧
      isName Char.isUpper (constant (stripPrefix "XML_S_Q_L_Text"
        (commonPrefix (siblingSample.map some)))).toList = true ∧
      isName Char.isUpper (constant (stripPrefix "XML_2D"
        (commonPrefix (siblingSample.map some)))).toList = false := by
  have hnames : ∀ name ∈ siblingSample, isName Char.isAlpha name.toList = true := by decide
  have hstart : (commonPrefix (siblingSample.map some)).toList = ['X', 'M', 'L', '_'] := by decide
  have hacronym := constant_stripped_iff siblingSample hnames "XML_S_Q_L_Text" (by decide)
  have hdigit := constant_stripped_iff siblingSample hnames "XML_2D" (by decide)
  refine ⟨hnames, hacronym.2.2.mpr ?_, eq_false_of_ne_true fun h => hdigit.2.2.mp h ?_⟩
  · rintro ⟨d, rest, hd, heq⟩
    have hlist : "XML_S_Q_L_Text".toList = ['X', 'M', 'L', '_'] ++ 'S' :: "_Q_L_Text".toList := by
      decide
    rw [hstart, hlist] at heq
    obtain ⟨rfl, _⟩ := List.cons.inj (List.append_cancel_left heq)
    cases hd
  · exact ⟨'2', ['D'], rfl, by rw [hstart]; rfl⟩

/-- What follows the namespace is only a number. -/
theorem constant_of_number :
    (∀ name ∈ ["V_1", "V_2"], isName Char.isAlpha name.toList = true) ∧
      constant (stripPrefix "V_1" (commonPrefix (["V_1", "V_2"].map some))) = "1" ∧
      isName Char.isUpper "1".toList = false := by
  decide

end BindingGen.Identifier
