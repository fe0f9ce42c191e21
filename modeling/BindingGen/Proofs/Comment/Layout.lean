import BindingGen.Proofs.Comment.Shape

/-!
# Layouts of block comments

The content lines of a block comment are written behind stars, with gaps where layout leaves them
free. A comment in either layout has the text that its content lines say.
-/

namespace BindingGen.Comment

open Text

/-! ## Content and gaps -/

/-- Blanks that stay within a line, such as spaces and tabs. -/
structure Gap where
  chars : List Char
  blank : ∀ c ∈ chars, isBlank c = true
  single : '\n' ∉ chars

/-- A content line with a gap on both sides. -/
structure Line where
  before : Gap
  content : List Char
  behind : Gap
  isContent : IsContent content

def Line.chars (line : Line) : List Char :=
  line.before.chars ++ line.content ++ line.behind.chars

/-- A content line behind its star, which has a margin. -/
structure StarLine extends Line where
  margin : Gap

def StarLine.chars (line : StarLine) : List Char :=
  line.margin.chars ++ '*' :: line.toLine.chars

def starLines (lines : List StarLine) : List Char := lines.flatMap fun line => '\n' :: line.chars

/-! ## Comments -/

/-- A block comment, in one of two layouts: the first content line stands behind the opening marker
and the last one before the closing marker, or both markers have lines of their own. -/
inductive BlockComment
  | compact (first : Line) (others : List StarLine) (nonempty : first.content ≠ [])
      (plain : first.content.head? ≠ some '*')
  | spread (behind : Gap) (first : StarLine) (others : List StarLine) (margin : Gap)

namespace BlockComment

def inner : BlockComment → List Char
  | compact first others _ _ => first.chars ++ starLines others
  | spread behind first others margin =>
    behind.chars ++ starLines (first :: others) ++ '\n' :: margin.chars

def contents : BlockComment → List (List Char)
  | compact first others _ _ => first.content :: others.map (·.content)
  | spread _ first others _ => (first :: others).map (·.content)

def text (before : Gap) (comment : BlockComment) (behind : Gap) : String :=
  String.ofList (before.chars ++ ('/' :: '*' :: comment.inner ++ ['*', '/']) ++ behind.chars)

end BlockComment

/-- What content lines say behind spaces. A single line that ends in a quote gets a period. Of
several lines each ends in a line end, and those after the first are indented unless they are
empty. -/
def described (width : Nat) : List (List Char) → List Char
  | [] => []
  | [only] => if only.getLast? = some '"' then only ++ ['.'] else only
  | first :: second :: rest =>
    first ++ '\n' :: (second :: rest).flatMap fun line =>
      (if line = [] then [] else List.replicate width ' ' ++ line) ++ ['\n']

theorem described_eq (depth : BitVec 64) (lines : List (List Char)) :
    described (spaces depth) lines = guardQuote (layOut depth lines) := by
  match lines with
  | [] => rfl
  | [only] => rfl
  | first :: second :: rest =>
    rw [guardQuote, getLast?_layOut, if_neg (by decide), described, Docstring.layOut_cons_cons,
      funext (indentLine_eq depth)]
    rfl

/-! ## Decoration -/

theorem stripDecoration_cons_star (line : List Char) :
    stripDecoration ('*' :: line) = trim line := by
  rw [stripDecoration, trimStart_cons (by decide)]
  rfl

theorem stripDecoration_of_plain {line : List Char} (h : (trimStart line).head? ≠ some '*') :
    stripDecoration line = trim (trimStart line) := by
  unfold stripDecoration
  split
  · rename_i rest hrest
    rw [hrest] at h
    exact absurd rfl h
  · rfl

theorem stripDecoration_trimStart (line : List Char) :
    stripDecoration (trimStart line) = stripDecoration line := by
  have htwice : trimStart (trimStart line) = trimStart line := List.dropWhile_idempotent ..
  rw [stripDecoration, htwice, stripDecoration]

theorem stripDecoration_trimEnd (line : List Char) :
    stripDecoration (trimEnd line) = stripDecoration line := by
  rw [← stripDecoration_trimStart, trimStart_trimEnd, ← stripDecoration_trimStart line]
  cases hstart : trimStart line with
  | nil => rfl
  | cons c rest =>
    have hc : isBlank c = false := by
      have hhead := List.head?_dropWhile_not isBlank line
      rw [← trimStart, hstart] at hhead
      simpa using hhead
    rw [trimEnd_cons hc]
    by_cases hstar : c = '*'
    · rw [hstar, stripDecoration_cons_star, stripDecoration_cons_star, trim_trimEnd]
    · have hplain : ∀ rest, stripDecoration (c :: rest) = trim (c :: rest) := by
        intro rest
        have hkept : trimStart (c :: rest) = c :: rest := trimStart_cons hc
        rw [stripDecoration_of_plain (by simpa [hkept] using hstar), hkept]
      rw [hplain, hplain, ← trimEnd_cons hc, trim_trimEnd]

/-! ## Lines between stars -/

theorem Line.newline_notMem (line : Line) : '\n' ∉ line.chars := by
  simp [Line.chars, line.before.single, line.isContent.single, line.behind.single]

theorem StarLine.newline_notMem (line : StarLine) : '\n' ∉ line.chars := by
  simp [StarLine.chars, line.margin.single, line.toLine.newline_notMem]

theorem Line.stripDecoration_star (line : Line) :
    stripDecoration ('*' :: line.chars) = line.content := by
  rw [stripDecoration_cons_star]
  exact line.isContent.unpadded.trim_between line.before.blank line.behind.blank

theorem StarLine.stripDecoration_chars (line : StarLine) :
    stripDecoration line.chars = line.content := by
  rw [← stripDecoration_trimStart, StarLine.chars, trimStart_gap_append line.margin.blank,
    trimStart_cons (by decide), line.toLine.stripDecoration_star]

theorem splitLines_single {line : List Char} (h : '\n' ∉ line) (hne : line ≠ []) :
    splitLines line = [line] := by
  induction line with
  | nil => exact absurd rfl hne
  | cons c line ih =>
    rw [List.mem_cons, not_or] at h
    by_cases hline : line = []
    · simp [hline, splitLines, Ne.symm h.1]
    · simp [splitLines, Ne.symm h.1, ih h.2 hline]

theorem splitLines_line {line : List Char} (h : '\n' ∉ line) (rest : List Char) :
    splitLines (line ++ '\n' :: rest) = line :: splitLines rest := by
  induction line with
  | nil => simp [splitLines]
  | cons c line ih =>
    rw [List.mem_cons, not_or] at h
    simp [splitLines, Ne.symm h.1, ih h.2]

/-- The lines of a text that goes on with starred lines, whatever follows the content of the last
one is trimmed away. -/
theorem contents_of_starLines {head : List Char} (hsingle : '\n' ∉ head)
    (hshown : ∃ c ∈ head, isBlank c = false) (others : List StarLine) :
    (splitLines (trimEnd (head ++ starLines others))).map stripDecoration =
      stripDecoration head :: others.map (·.content) := by
  induction others generalizing head with
  | nil =>
    obtain ⟨c, hmem, hc⟩ := hshown
    have hend : '\n' ∉ trimEnd head := fun hmem => hsingle (mem_of_mem_trimEnd hmem)
    rw [starLines, List.flatMap_nil, List.append_nil,
      splitLines_single hend (trimEnd_ne_nil hmem hc)]
    simp [stripDecoration_trimEnd]
  | cons line others ih =>
    have hstar : '*' ∈ line.chars := by simp [StarLine.chars]
    have hrest := ih line.newline_notMem ⟨'*', hstar, by decide⟩
    have hkept : trimEnd (line.chars ++ starLines others) ≠ [] :=
      trimEnd_ne_nil (List.mem_append_left _ hstar) (by decide)
    have htrim : trimEnd (head ++ ['\n'] ++ (line.chars ++ starLines others)) =
        head ++ ['\n'] ++ trimEnd (line.chars ++ starLines others) := trimEnd_append hkept
    have hlines : head ++ starLines (line :: others) =
        head ++ ['\n'] ++ (line.chars ++ starLines others) := by
      simp [starLines]
    rw [hlines, htrim, List.append_assoc, List.singleton_append, splitLines_line hsingle,
      List.map_cons, hrest, List.map_cons, line.stripDecoration_chars]

/-! ## Comments -/

namespace BlockComment

theorem body_text (before : Gap) (comment : BlockComment) (behind : Gap) :
    body (comment.text before behind).toList = trim comment.inner := by
  have hlast : ('/' :: '*' :: comment.inner ++ ['*', '/']).getLast? = some '/' :=
    List.getLast?_append_of_ne_nil _ (List.cons_ne_nil _ _)
  have hunpadded : Unpadded ('/' :: '*' :: comment.inner ++ ['*', '/']) :=
    ⟨by simp [isBlank], by rw [hlast]; simp [isBlank]⟩
  have hclosing : stripClosing (comment.inner ++ ['*', '/']) = comment.inner := by
    rw [stripClosing, beforeSuffix?_append, Option.getD_some]
  rw [body, text, String.toList_ofList, hunpadded.trim_between before.blank behind.blank]
  exact congrArg trim hclosing

theorem map_stripDecoration_inner (comment : BlockComment) :
    (splitLines (trim comment.inner)).map stripDecoration = comment.contents := by
  cases comment with
  | compact first others nonempty plain =>
    -- The gap before the first line goes with the marker, and its own stripping takes the other one.
    have hstart : trimStart (first.chars ++ starLines others) =
        first.content ++ first.behind.chars ++ starLines others := by
      rw [Line.chars, List.append_assoc, List.append_assoc, trimStart_gap_append first.before.blank,
        first.isContent.unpadded.trimStart_append nonempty, List.append_assoc]
    have hfirst : stripDecoration (first.content ++ first.behind.chars) = first.content := by
      have hkept : trimStart (first.content ++ first.behind.chars) =
          first.content ++ first.behind.chars :=
        first.isContent.unpadded.trimStart_append nonempty
      rw [stripDecoration_of_plain, hkept]
      · exact first.isContent.unpadded.trim_between (List.forall_mem_nil _) first.behind.blank
      · rwa [hkept, List.head?_append_of_ne_nil _ nonempty]
    obtain ⟨c, rest, hcontent⟩ := List.exists_cons_of_ne_nil nonempty
    have hshown : isBlank c = false := first.isContent.unpadded.start c (by rw [hcontent]; rfl)
    have hsingle : '\n' ∉ first.content ++ first.behind.chars := by
      simp [first.isContent.single, first.behind.single]
    rw [inner, trim, hstart, contents_of_starLines hsingle ⟨c, by simp [hcontent], hshown⟩, hfirst]
    rfl
  | spread behind first others margin =>
    -- Up to the first star and behind the last line there are blanks only, line ends among them.
    have hgap : ∀ c ∈ behind.chars ++ '\n' :: first.margin.chars, isBlank c = true := by
      simp only [List.forall_mem_append, List.forall_mem_cons]
      exact ⟨behind.blank, by decide, first.margin.blank⟩
    have hlast : ∀ c ∈ '\n' :: margin.chars, isBlank c = true := by
      simp only [List.forall_mem_cons]
      exact ⟨by decide, margin.blank⟩
    have hinner : inner (spread behind first others margin) =
        (behind.chars ++ '\n' :: first.margin.chars) ++
          ('*' :: first.toLine.chars ++ starLines others ++ '\n' :: margin.chars) := by
      simp [inner, starLines, StarLine.chars]
    have hsingle : '\n' ∉ '*' :: first.toLine.chars := by simp [first.toLine.newline_notMem]
    rw [hinner, trim, trimStart_gap_append hgap, List.cons_append, List.cons_append,
      trimStart_cons (by decide), ← List.cons_append, ← List.cons_append, trimEnd_append_gap hlast,
      contents_of_starLines hsingle ⟨'*', by simp, by decide⟩, first.toLine.stripDecoration_star]
    rfl

/-- **The text of a block comment is what its content lines say**, in whichever layout and with
whatever gaps they are written, behind four spaces for each level. -/
theorem docText_text (before : Gap) (comment : BlockComment) (behind : Gap) (depth : BitVec 64) :
    docText (some (comment.text before behind)) depth =
        String.ofList (described (spaces depth) comment.contents) ∧
      (4 * depth.toNat < 2 ^ 64 →
        docText (some (comment.text before behind)) depth =
          String.ofList (described (4 * depth.toNat) comment.contents)) := by
  have htext : docText (some (comment.text before behind)) depth =
      String.ofList (described (spaces depth) comment.contents) := by
    rw [docText, docTextChars, described_eq, contentLines, body_text, map_stripDecoration_inner]
  refine ⟨htext, fun hrange => ?_⟩
  rw [htext, spaces_eq hrange]

/-- Three content lines: one that starts with a star, and an empty one at the end. -/
def sample : BlockComment :=
  let none : Gap := ⟨[], by simp, by simp⟩
  let space : Gap := ⟨[' '], by simp [isBlank], by simp⟩
  let tab : Gap := ⟨['\t'], by simp [isBlank], by simp⟩
  compact ⟨space, ['o', 'n', 'e'], none, ⟨by simp, by simp [isBlank], by simp [isBlank]⟩⟩
    [⟨⟨space, ['*', 't', 'w', 'o'], none, ⟨by simp, by simp [isBlank], by simp [isBlank]⟩⟩, tab⟩,
      ⟨⟨none, [], space, ⟨by simp, by simp, by simp⟩⟩, space⟩]
    (List.cons_ne_nil _ _) (by simp)

theorem docText_text_sample :
    4 * (1 : BitVec 64).toNat < 2 ^ 64 ∧
      docText (some "/* one\n\t* *two\n * */") 1 = "one\n    *two\n\n" := by
  have hrange : 4 * (1 : BitVec 64).toNat < 2 ^ 64 := by decide
  have htext : sample.text ⟨[], by simp, by simp⟩ ⟨[], by simp, by simp⟩ =
      "/* one\n\t* *two\n * */" := by decide
  have hlines : String.ofList (described 4 sample.contents) = "one\n    *two\n\n" := by decide
  refine ⟨hrange, ?_⟩
  rw [← htext, ← hlines]
  exact (docText_text _ sample _ 1).2 hrange

end BlockComment

end BindingGen.Comment
