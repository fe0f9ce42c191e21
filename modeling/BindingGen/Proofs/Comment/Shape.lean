import BindingGen.Proofs.Docstring
import BindingGen.Proofs.Text.Trim
import Mathlib.Algebra.Group.Nat.Defs

/-!
# The shape of documentation texts

Whatever a comment is, no line of its text has blanks at its ends, a text of several lines ends its
last one, and a depth only indents the lines after the first that are not empty.
-/

namespace BindingGen.Comment

open Text

/-! ## Lines of a comment -/

/-- What a line of a comment says: one line, without blanks at its ends. -/
structure IsContent (line : List Char) : Prop where
  single : '\n' ∉ line
  unpadded : Unpadded line

theorem newline_notMem_splitLines (text : List Char) : ∀ line ∈ splitLines text, '\n' ∉ line := by
  fun_induction splitLines text with
  | case1 => simp
  | case2 rest ih => simpa using ih
  | case3 c rest hc hnil ih => simpa using Ne.symm hc
  | case4 c rest hc line lines hlines ih =>
    rw [hlines, List.forall_mem_cons] at ih
    rw [List.forall_mem_cons]
    exact ⟨by simp [Ne.symm hc, ih.1], ih.2⟩

theorem mem_of_mem_stripDecoration {c : Char} {line : List Char} (h : c ∈ stripDecoration line) :
    c ∈ line := by
  have hstart : ∀ c ∈ trimStart line, c ∈ line := fun c hc =>
    (List.dropWhile_sublist isBlank).subset hc
  unfold stripDecoration at h
  split at h
  · rename_i rest hrest
    apply hstart
    rw [hrest]
    exact List.mem_cons_of_mem _ (mem_of_mem_trim h)
  · exact hstart c (mem_of_mem_trim h)

theorem isContent_stripDecoration {line : List Char} (h : '\n' ∉ line) :
    IsContent (stripDecoration line) where
  single := fun hmem => h (mem_of_mem_stripDecoration hmem)
  unpadded := by
    unfold stripDecoration
    split <;> exact unpadded_trim _

theorem isContent_of_mem {line comment : List Char} (h : line ∈ contentLines comment) :
    IsContent line := by
  obtain ⟨raw, hraw, rfl⟩ := List.mem_map.mp h
  exact isContent_stripDecoration (newline_notMem_splitLines _ raw hraw)

/-! ## Lines of a documentation text -/

def indented (width : Nat) (line : List Char) : List Char :=
  if line = [] then [] else List.replicate width ' ' ++ line

def indentRest (width : Nat) : List (List Char) → List (List Char)
  | [] => []
  | first :: rest => first :: rest.map (indented width)

/-- Puts spaces in front of every line after the first that is not empty. -/
def indentText (width : Nat) (text : List Char) : List Char :=
  ['\n'].intercalate (indentRest width (text.splitOn '\n'))

/-- The lines that the lines of a comment become. Several of them are followed by an empty one, so
that the last one ends. -/
def docLines (width : Nat) : List (List Char) → List (List Char)
  | [] => [[]]
  | [only] => [guardQuote only]
  | first :: second :: rest => indentRest width (first :: second :: (rest ++ [[]]))

@[simp] theorem indented_nil (width : Nat) : indented width [] = [] := rfl

@[simp] theorem indented_zero (line : List Char) : indented 0 line = line := by
  unfold indented
  split <;> simp [*]

theorem indentRest_zero (lines : List (List Char)) : indentRest 0 lines = lines := by
  cases lines with
  | nil => rfl
  | cons first rest => simp [indentRest, funext indented_zero]

theorem docLines_eq (width : Nat) (lines : List (List Char)) :
    docLines width lines = indentRest width (docLines 0 lines) := by
  match lines with
  | [] => rfl
  | [only] => rfl
  | first :: second :: rest => rw [docLines, docLines, indentRest_zero]

theorem newline_notMem_indented {width : Nat} {line : List Char} (h : '\n' ∉ line) :
    '\n' ∉ indented width line := by
  unfold indented
  split <;> simp [h]

theorem newline_notMem_guardQuote {line : List Char} (h : '\n' ∉ line) :
    '\n' ∉ guardQuote line := by
  unfold guardQuote
  split <;> simp [h]

theorem newline_notMem_docLines (width : Nat) {lines : List (List Char)}
    (h : ∀ line ∈ lines, IsContent line) : ∀ line ∈ docLines width lines, '\n' ∉ line := by
  match lines with
  | [] => simp [docLines]
  | [only] =>
    simp only [List.mem_singleton, forall_eq] at h
    simpa [docLines] using newline_notMem_guardQuote h.single
  | first :: second :: rest =>
    simp only [docLines, indentRest, List.forall_mem_cons, List.forall_mem_map] at h ⊢
    refine ⟨h.1.single, newline_notMem_indented h.2.1.single, fun line hline => ?_⟩
    rcases List.mem_append.mp hline with hline | hline
    · exact newline_notMem_indented (h.2.2 line hline).single
    · simp [List.mem_singleton.mp hline]

/-! ## Layout -/

@[simp] theorem spaces_zero : spaces 0 = 0 := rfl

/-- Where the product of words does not wrap around, each level has four spaces. -/
theorem spaces_eq {depth : BitVec 64} (h : 4 * depth.toNat < 2 ^ 64) :
    spaces depth = 4 * depth.toNat :=
  BitVec.toNat_mul_of_lt h

-- The least depth whose product wraps around.
example : spaces 0x4000000000000000 = 0 := by decide

theorem indentLine_eq (depth : BitVec 64) (line : List Char) :
    indentLine depth line = indented (spaces depth) line ++ ['\n'] := by
  unfold indentLine indented
  cases line <;> simp

theorem flatMap_indentLine (depth : BitVec 64) (lines : List (List Char)) :
    '\n' :: lines.flatMap (indentLine depth) =
      lines.flatMap (fun line => '\n' :: indented (spaces depth) line) ++ ['\n'] := by
  induction lines with
  | nil => rfl
  | cons line lines ih =>
    simp only [List.flatMap_cons, indentLine_eq, List.append_assoc, List.cons_append,
      List.nil_append, ih]

theorem getLast?_layOut (depth : BitVec 64) (first second : List Char) (rest : List (List Char)) :
    (layOut depth (first :: second :: rest)).getLast? = some '\n' := by
  rw [Docstring.layOut_cons_cons, flatMap_indentLine, ← List.append_assoc, List.getLast?_concat]

theorem guardQuote_layOut (depth : BitVec 64) (lines : List (List Char)) :
    guardQuote (layOut depth lines) = ['\n'].intercalate (docLines (spaces depth) lines) := by
  match lines with
  | [] => rfl
  | [only] => simp [docLines, layOut]
  | first :: second :: rest =>
    rw [guardQuote, getLast?_layOut, if_neg (by decide), Docstring.layOut_cons_cons,
      flatMap_indentLine, docLines, indentRest, intercalate_cons]
    simp [List.flatMap_map]

theorem splitOn_docText (comment : String) (depth : BitVec 64) :
    (docText (some comment) depth).toList.splitOn '\n' =
      docLines (spaces depth) (contentLines comment.toList) := by
  rw [docText, String.toList_ofList, docTextChars, guardQuote_layOut]
  apply List.splitOn_intercalate
  · exact newline_notMem_docLines _ fun _ => isContent_of_mem
  · unfold docLines
    split <;> simp [indentRest]

/-! ## Documentation texts -/

theorem unpadded_guardQuote {line : List Char} (h : Unpadded line) :
    Unpadded (guardQuote line) := by
  unfold guardQuote
  split
  · refine ⟨?_, by simp [isBlank]⟩
    cases line with
    | nil => simp [isBlank]
    | cons c rest => exact h.start
  · exact h

theorem unpadded_docLines {lines : List (List Char)} (h : ∀ line ∈ lines, IsContent line) :
    ∀ line ∈ docLines 0 lines, Unpadded line := by
  have hnil : Unpadded [] := ⟨by simp, by simp⟩
  match lines with
  | [] => simpa [docLines] using hnil
  | [only] => simpa [docLines] using unpadded_guardQuote (h only List.mem_cons_self).unpadded
  | first :: second :: rest =>
    simp only [List.forall_mem_cons] at h
    rw [docLines, indentRest_zero, List.forall_mem_cons, List.forall_mem_cons,
      List.forall_mem_append]
    exact ⟨h.1.unpadded, h.2.1.unpadded, fun line hline => (h.2.2 line hline).unpadded,
      by simpa using hnil⟩

/-- Only a text of several lines has a line end, and that ends in one. -/
theorem newline_mem_guardQuote_layOut_iff (depth : BitVec 64) {lines : List (List Char)}
    (h : ∀ line ∈ lines, IsContent line) :
    '\n' ∈ guardQuote (layOut depth lines) ↔
      (guardQuote (layOut depth lines)).getLast? = some '\n' := by
  refine ⟨fun hmem => ?_, List.mem_of_getLast?⟩
  match lines with
  | [] => simp [layOut, guardQuote] at hmem
  | [only] =>
    exact absurd hmem (newline_notMem_guardQuote (h only List.mem_cons_self).single)
  | first :: second :: rest =>
    rw [guardQuote, getLast?_layOut, if_neg (by decide), getLast?_layOut]

theorem docText_none (depth : BitVec 64) : docText none depth = docText (some "") depth := rfl

theorem getLast?_indented (width : Nat) (line : List Char) :
    (indented width line).getLast? = line.getLast? := by
  unfold indented
  split
  · simp [*]
  · rename_i hne
    rw [List.getLast?_append_of_ne_nil _ hne]

theorem getLast?_indentRest {width : Nat} {lines : List (List Char)} {P : Char → Prop}
    (h : ∀ line ∈ lines, ∀ c ∈ line.getLast?, P c) :
    ∀ line ∈ indentRest width lines, ∀ c ∈ line.getLast?, P c := by
  cases lines with
  | nil => exact h
  | cons first rest =>
    rw [List.forall_mem_cons] at h
    refine List.forall_mem_cons.mpr ⟨h.1, List.forall_mem_map.mpr fun line hline => ?_⟩
    rw [getLast?_indented]
    exact h.2 line hline

/-- **The shape of a documentation text.** No line of it has blanks at its ends, it ends in a line
end if it has any and never in a quote, and a depth indents it behind the first line, by four spaces
for each level, and changes nothing else: neither a text of one line nor an empty line. -/
theorem docText_shape (comment : Option String) (depth : BitVec 64) :
    (∀ line ∈ (docText comment 0).toList.splitOn '\n', Unpadded line) ∧
    ('\n' ∈ (docText comment depth).toList ↔
      (docText comment depth).toList.getLast? = some '\n') ∧
    (docText comment depth).toList.getLast? ≠ some '"' ∧
    (docText comment depth).toList = indentText (spaces depth) (docText comment 0).toList ∧
    (4 * depth.toNat < 2 ^ 64 →
      (docText comment depth).toList = indentText (4 * depth.toNat) (docText comment 0).toList) ∧
    ('\n' ∉ (docText comment 0).toList → docText comment depth = docText comment 0) ∧
    ∀ line ∈ (docText comment depth).toList.splitOn '\n', ∀ c ∈ line.getLast?,
      isBlank c = false := by
  -- An absent comment has the text of an empty one.
  obtain ⟨text, hall⟩ : ∃ text, ∀ depth, docText comment depth = docText (some text) depth := by
    cases comment with
    | none => exact ⟨"", docText_none⟩
    | some text => exact ⟨text, fun _ => rfl⟩
  simp only [hall]
  have hcontent : ∀ line ∈ contentLines text.toList, IsContent line := fun _ => isContent_of_mem
  have hunpadded := unpadded_docLines hcontent
  have hindent : (docText (some text) depth).toList =
      indentText (spaces depth) (docText (some text) 0).toList := by
    rw [indentText, splitOn_docText, spaces_zero, ← docLines_eq, ← splitOn_docText,
      List.intercalate_splitOn]
  refine ⟨?_, ?_, ?_, hindent, ?_, ?_, ?_⟩
  · rwa [splitOn_docText]
  · rw [docText, String.toList_ofList]
    exact newline_mem_guardQuote_layOut_iff depth hcontent
  · rw [docText, String.toList_ofList]
    exact Docstring.getLast?_guardQuote _
  · intro hrange
    rwa [← spaces_eq hrange]
  · intro hsingle
    rw [← String.toList_inj, hindent, indentText, List.splitOn_eq_singleton hsingle]
    simp [indentRest]
  · rw [splitOn_docText, docLines_eq]
    exact getLast?_indentRest fun line hline => (hunpadded line hline).stop

/-- A single line that ends in a quote, and two lines at a depth of two. -/
theorem docText_shape_sample :
    ('\n' ∉ (docText (some "/* so \"called\" */") 0).toList ∧
      docText (some "/* so \"called\" */") 3 = docText (some "/* so \"called\" */") 0) ∧
    4 * (2 : BitVec 64).toNat < 2 ^ 64 ∧
      (docText (some "/* one\n * two */") 2).toList = indentText 8 "one\ntwo\n".toList := by
  have hsingle : '\n' ∉ (docText (some "/* so \"called\" */") 0).toList := by decide
  have hrange : 4 * (2 : BitVec 64).toNat < 2 ^ 64 := by decide
  have htext : docText (some "/* one\n * two */") 0 = "one\ntwo\n" := by decide
  refine ⟨⟨hsingle, (docText_shape _ 3).2.2.2.2.2.1 hsingle⟩, hrange, ?_⟩
  rw [← htext]
  exact (docText_shape (some "/* one\n * two */") 2).2.2.2.2.1 hrange

end BindingGen.Comment
