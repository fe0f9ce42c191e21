import BindingGen.Comment

/-!
# Documentation between quotes

Generated code puts a documentation text between three quotes, and a reader of that code ends the
literal at the first three quotes that no backslash takes. The two agree exactly when no line of the
comment has three such quotes, and a comment of one line does not end in a backslash that would take
a closing quote.
-/

namespace BindingGen.Docstring

open Comment

/-! ## Reading a literal -/

def quotes : List Char := ['"', '"', '"']

/-- Reads a literal behind its opening quotes: its content, and what stands behind its closing ones.
A backslash takes the next character with it. -/
def read : List Char → Option (List Char × List Char)
  | '\\' :: c :: rest => (read rest).map fun (content, behind) => ('\\' :: c :: content, behind)
  | '"' :: '"' :: '"' :: rest => some ([], rest)
  | c :: rest => (read rest).map fun (content, behind) => (c :: content, behind)
  | [] => none

/-- Whether three quotes in a row end a literal within a text. -/
def hasQuotes : List Char → Bool
  | '\\' :: _ :: rest => hasQuotes rest
  | '"' :: '"' :: '"' :: _ => true
  | _ :: rest => hasQuotes rest
  | [] => false

/-- Whether a text ends in a backslash that takes the character behind the text. -/
def endsOpen : List Char → Bool
  | '\\' :: _ :: rest => endsOpen rest
  | ['\\'] => true
  | _ :: rest => endsOpen rest
  | [] => false

/-! ## One character -/

theorem getLast?_tail_ne {c d : Char} {text : List Char} (h : (c :: text).getLast? ≠ some d) :
    text.getLast? ≠ some d := by
  cases text with
  | nil => simp
  | cons e text => rwa [List.getLast?_cons_cons] at h

theorem read_cons {c : Char} {text : List Char} (hc : c ≠ '\\')
    (hquotes : ∀ more, c = '"' → text = '"' :: '"' :: more → False) :
    read (c :: text) = (read text).map fun (content, behind) => (c :: content, behind) := by
  rw [read]
  · intro d more hbackslash
    exact absurd hbackslash hc
  · exact hquotes

/-- Behind a quote, the closing quotes do not complete three of them too early. -/
theorem not_quotes_append {c : Char} {text rest : List Char} (h : (c :: text).getLast? ≠ some '"')
    (hquotes : ∀ more, c = '"' → text = '"' :: '"' :: more → False) :
    ∀ more, c = '"' → text ++ quotes ++ rest = '"' :: '"' :: more → False := by
  rintro more rfl heq
  match text with
  | [] => simp at h
  | [d] =>
    simp only [quotes, List.cons_append, List.cons.injEq] at heq
    simp [heq.1] at h
  | d :: e :: others =>
    simp only [List.cons_append, List.cons.injEq] at heq
    exact hquotes others rfl (by rw [heq.1, heq.2.1])

/-- A text that does not end in a quote is the content of the literal around it exactly if nothing
in it ends the literal and nothing in it takes the closing quotes. -/
theorem read_append_eq_iff {text rest : List Char} (h : text.getLast? ≠ some '"') :
    read (text ++ quotes ++ rest) = some (text, rest) ↔
      hasQuotes text = false ∧ endsOpen text = false := by
  fun_induction hasQuotes text with
  | case1 c more ih =>
    rw [endsOpen, ← ih (getLast?_tail_ne (getLast?_tail_ne h))]
    simp [read]
  | case2 more => simp [read]
  | case3 c more hescape hquotes ih =>
    by_cases hc : c = '\\'
    · -- The backslash stands alone: it takes the first closing quote.
      obtain rfl : more = [] := by
        cases more with
        | nil => rfl
        | cons d more => exact (hescape d more hc rfl).elim
      subst hc
      simp [read, quotes, endsOpen]
    · have hopen : endsOpen (c :: more) = endsOpen more := by
        rw [endsOpen]
        · exact hescape
        · exact fun hbackslash _ => hc hbackslash
      rw [hopen, ← ih (getLast?_tail_ne h), List.cons_append, List.cons_append,
        read_cons hc (not_quotes_append h hquotes)]
      simp
  | case4 => simp [read, quotes, endsOpen]

/-! ## Lines -/

theorem hasQuotes_cons {c : Char} (hquote : c ≠ '"') (hbackslash : c ≠ '\\') (more : List Char) :
    hasQuotes (c :: more) = hasQuotes more := by
  rw [hasQuotes]
  · exact fun _ _ h _ => hbackslash h
  · exact fun _ h _ => hquote h

theorem hasQuotes_append {c : Char} (hquote : c ≠ '"') (hbackslash : c ≠ '\\')
    (line more : List Char) :
    hasQuotes (line ++ c :: more) = (hasQuotes line || hasQuotes more) := by
  -- Where the line ends, a backslash takes `c`, and `c` does not complete one or two quotes.
  fun_induction hasQuotes line with
  | case1 d rest ih =>
    rw [← ih]
    rfl
  | case2 rest => rfl
  | case3 d rest hescape hquotes ih =>
    cases rest with
    | nil =>
      by_cases hd : d = '\\'
      · subst hd
        rfl
      · rw [List.singleton_append, hasQuotes, hasQuotes_cons hquote hbackslash]
        · rfl
        · exact fun _ _ h _ => hd h
        · exact fun _ _ h => hquote (List.cons.inj h).1
    | cons e rest =>
      rw [← ih, List.cons_append, hasQuotes]
      · exact fun x xs h heq => hescape e rest h rfl
      · rintro xs rfl heq
        match rest with
        | [] => simp_all
        | f :: rest =>
          simp only [List.cons_append, List.cons.injEq] at heq
          exact hquotes rest rfl (by rw [heq.1, heq.2.1])
  | case4 => rw [List.nil_append, hasQuotes_cons hquote hbackslash, Bool.false_or]

theorem endsOpen_append {c : Char} (hbackslash : c ≠ '\\') (line more : List Char) :
    endsOpen (line ++ c :: more) = endsOpen more := by
  have hcons : endsOpen (c :: more) = endsOpen more := by
    rw [endsOpen]
    · exact fun _ _ h _ => hbackslash h
    · exact fun h _ => hbackslash h
  fun_induction endsOpen line with
  | case1 d rest ih => rwa [List.cons_append, List.cons_append, endsOpen]
  | case2 => rfl
  | case3 d rest hescape halone ih =>
    rw [List.cons_append, endsOpen, ih]
    · rintro e others hd heq
      cases rest with
      | nil => exact halone hd rfl
      | cons f rest => exact hescape f rest hd rfl
    · intro _ heq
      simp at heq
  | case4 => exact hcons

theorem hasQuotes_replicate (n : Nat) (line : List Char) :
    hasQuotes (List.replicate n ' ' ++ line) = hasQuotes line := by
  induction n with
  | zero => rfl
  | succ n ih => rw [List.replicate_succ, List.cons_append, hasQuotes_cons (by decide) (by decide), ih]

/-! ## Layout -/

theorem hasQuotes_indentLine (depth : BitVec 64) (line more : List Char) :
    hasQuotes (indentLine depth line ++ more) = (hasQuotes line || hasQuotes more) := by
  unfold indentLine
  split
  · rename_i hempty
    rw [List.isEmpty_iff.mp hempty]
    exact hasQuotes_append (by decide) (by decide) [] more
  · rw [List.append_assoc, List.singleton_append, hasQuotes_append (by decide) (by decide),
      hasQuotes_replicate]

theorem endsOpen_indentLine (depth : BitVec 64) (line more : List Char) :
    endsOpen (indentLine depth line ++ more) = endsOpen more := by
  unfold indentLine
  split
  · exact endsOpen_append (by decide) [] more
  · rw [List.append_assoc]
    exact endsOpen_append (by decide) _ more

theorem hasQuotes_indentLines (depth : BitVec 64) (lines : List (List Char)) :
    hasQuotes (lines.flatMap (indentLine depth)) = lines.any hasQuotes := by
  induction lines with
  | nil => rfl
  | cons line lines ih => rw [List.flatMap_cons, hasQuotes_indentLine, ih, List.any_cons]

theorem endsOpen_indentLines (depth : BitVec 64) (lines : List (List Char)) :
    endsOpen (lines.flatMap (indentLine depth)) = false := by
  induction lines with
  | nil => rfl
  | cons line lines ih => rw [List.flatMap_cons, endsOpen_indentLine, ih]

theorem layOut_cons_cons (depth : BitVec 64) (first second : List Char) (rest : List (List Char)) :
    layOut depth (first :: second :: rest) =
      first ++ '\n' :: (second :: rest).flatMap (indentLine depth) := rfl

theorem hasQuotes_layOut (depth : BitVec 64) (lines : List (List Char)) :
    hasQuotes (layOut depth lines) = lines.any hasQuotes := by
  match lines with
  | [] => rfl
  | [only] => simp [layOut]
  | first :: second :: rest =>
    rw [layOut_cons_cons, hasQuotes_append (by decide) (by decide), hasQuotes_indentLines]
    rfl

theorem endsOpen_layOut (depth : BitVec 64) (lines : List (List Char)) :
    endsOpen (layOut depth lines) = false ↔ ∀ line, lines = [line] → endsOpen line = false := by
  match lines with
  | [] => simp [layOut, endsOpen]
  | [only] => simp [layOut]
  | first :: second :: rest =>
    rw [layOut_cons_cons, endsOpen_append (by decide), endsOpen_indentLines]
    simp

/-! ## Final quotes -/

theorem getLast?_guardQuote (text : List Char) : (guardQuote text).getLast? ≠ some '"' := by
  unfold guardQuote
  split
  · simp
  · assumption

theorem hasQuotes_guardQuote (text : List Char) : hasQuotes (guardQuote text) = hasQuotes text := by
  unfold guardQuote
  split
  · rw [hasQuotes_append (by decide) (by decide), hasQuotes, Bool.or_false]
  · rfl

theorem endsOpen_of_getLast? {text : List Char} {c : Char} (h : text.getLast? = some c)
    (hc : c ≠ '\\') : endsOpen text = false := by
  fun_induction endsOpen text with
  | case1 d rest ih =>
    cases rest with
    | nil => rfl
    | cons e rest => exact ih (by rwa [List.getLast?_cons_cons, List.getLast?_cons_cons] at h)
  | case2 => exact absurd (Option.some.inj h).symm hc
  | case3 d rest hescape halone ih =>
    cases rest with
    | nil => rfl
    | cons e rest => exact ih (by rwa [List.getLast?_cons_cons] at h)
  | case4 => rfl

theorem endsOpen_guardQuote (text : List Char) : endsOpen (guardQuote text) = endsOpen text := by
  unfold guardQuote
  split
  · rename_i hlast
    rw [endsOpen_append (by decide), endsOpen_of_getLast? hlast (by decide), endsOpen]
  · rfl

/-! ## Documentation texts -/

/-- **A documentation text fills its literal exactly if no line of the comment has three quotes that
no backslash takes, and its only line does not end in a backslash that takes a closing quote.** -/
theorem read_docText_iff (comment : String) (depth : BitVec 64) (rest : List Char) :
    read ((docText (some comment) depth).toList ++ quotes ++ rest) =
        some ((docText (some comment) depth).toList, rest) ↔
      (∀ line ∈ contentLines comment.toList, hasQuotes line = false) ∧
        ∀ line, contentLines comment.toList = [line] → endsOpen line = false := by
  rw [docText, String.toList_ofList, docTextChars,
    read_append_eq_iff (getLast?_guardQuote _), hasQuotes_guardQuote, endsOpen_guardQuote,
    hasQuotes_layOut, endsOpen_layOut, List.any_eq_false]
  simp only [Bool.not_eq_true]

/-- The backslash takes the first closing quote, and the literal goes on behind the others. -/
theorem read_docText_backslash :
    docText (some "/* the escape is \\ */") 1 = "the escape is \\" ∧
      read ((docText (some "/* the escape is \\ */") 1).toList ++ quotes ++ ['\n']) = none := by
  decide

end BindingGen.Docstring
