import BindingGen.Template.Layout

/-!
# Text without inclusions

Fragments in which no part was included are laid out as they stand: without an indentation the
layout only joins their texts.
-/

namespace BindingGen.Template

mutual

/-- The text of a fragment in which nothing was included and no body is held. -/
def Fragment.flat? : Fragment → Option (List Char)
  | .text content => some content
  | .verbatim content => some content
  | .group _ inside => Fragment.flatAll? inside
  | .indented .. => none
  | .holding .. => none
  | .held => none

def Fragment.flatAll? : List Fragment → Option (List Char)
  | [] => some []
  | fragment :: rest => do return (← fragment.flat?) ++ (← Fragment.flatAll? rest)

end

namespace Fragment

theorem flatAll?_append {first second : List Fragment} {a b : List Char}
    (ha : flatAll? first = some a) (hb : flatAll? second = some b) :
    flatAll? (first ++ second) = some (a ++ b) := by
  induction first generalizing a with
  | nil =>
    obtain rfl : [] = a := Option.some.inj ha
    exact hb
  | cons fragment rest ih =>
    rw [flatAll?] at ha
    obtain ⟨head, hhead, ha⟩ := Option.bind_eq_some_iff.mp ha
    obtain ⟨tail, htail, ha⟩ := Option.bind_eq_some_iff.mp ha
    obtain rfl : head ++ tail = a := Option.some.inj ha
    rw [List.cons_append, flatAll?, hhead, ih htail, List.append_assoc]
    rfl

theorem flatAll?_group {fromLineStart : Bool} {inside : List Fragment} {content : List Char}
    (h : flatAll? inside = some content) :
    flatAll? [.group fromLineStart inside] = some content := by
  rw [flatAll?, flat?, h, flatAll?]
  exact congrArg some (List.append_nil content)

end Fragment

namespace Layout

theorem indentLines_nil (content : List Char) : indentLines [] content = content := by
  induction content with
  | nil => rfl
  | cons c rest ih =>
    cases rest with
    | nil => rfl
    | cons d others => rw [indentLines, ih, List.nil_append, ite_self]

theorem write_nil (state : State) (content : List Char) : (write [] state content).1 = content := by
  cases content with
  | nil => rfl
  | cons c rest => simp [write, indentLines_nil]

mutual

theorem layOutFragment_flat {fragment : Fragment} {content : List Char} (held : List Char)
    (state : State) (h : fragment.flat? = some content) :
    (layOutFragment [] held state fragment).1 = content := by
  cases fragment with
  | text other =>
    obtain rfl : other = content := Option.some.inj h
    rw [layOutFragment, write_nil]
  | verbatim other =>
    obtain rfl : other = content := Option.some.inj h
    rw [layOutFragment]
  | group fromLineStart inside =>
    rw [layOutFragment]
    exact layOutFragments_flat held _ h
  | indented | holding | held => cases h

theorem layOutFragments_flat {fragments : List Fragment} {content : List Char}
    (held : List Char) (state : State) (h : Fragment.flatAll? fragments = some content) :
    (layOutFragments [] held state fragments).1 = content := by
  cases fragments with
  | nil =>
    obtain rfl : [] = content := Option.some.inj h
    rw [layOutFragments]
  | cons fragment rest =>
    rw [Fragment.flatAll?] at h
    obtain ⟨head, hhead, h⟩ := Option.bind_eq_some_iff.mp h
    obtain ⟨tail, htail, h⟩ := Option.bind_eq_some_iff.mp h
    obtain rfl : head ++ tail = content := Option.some.inj h
    rw [layOutFragments]
    change (layOutFragment [] held state fragment).1 ++ _ = _
    rw [layOutFragment_flat held state hhead, layOutFragments_flat held _ htail]

end

theorem text_of_flat {fragments : List Fragment} {content : List Char}
    (h : Fragment.flatAll? fragments = some content) : text fragments = content :=
  layOutFragments_flat [] .start h

end Layout

end BindingGen.Template
