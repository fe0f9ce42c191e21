import BindingGen.Template.Spacing

/-!
# Layout of what was rendered

An included part takes over the indentation of its tag: it is put in front of every line that the
part's text begins. What helpers write themselves is left as it is, and so is the text that a part
shows of the body it was included with.
-/

namespace BindingGen.Template

/-- A piece of rendered text. `group` is what a helper rendered, `indented` what an inclusion did;
both remember whether their tag stood alone on its line. `holding` sets the text of a body aside,
which each `held` inside shows. -/
inductive Fragment where
  | text (content : List Char)
  | verbatim (content : List Char)
  | group (fromLineStart : Bool) (inside : List Fragment)
  | indented (fromLineStart : Bool) (indent : List Char) (inside : List Fragment)
  | holding (body inside : List Fragment)
  | held
  deriving Repr

namespace Layout

/-- Whether the next text needs indentation, whether anything was written, and whether that ended
its line. -/
structure State where
  due : Bool
  written : Bool
  endsLine : Bool
  deriving DecidableEq, Repr

def State.start : State := ⟨false, false, false⟩

/-- Indents every line but the first. -/
def indentLines (indent : List Char) : List Char → List Char
  | [] => []
  | [c] => [c]
  | c :: d :: rest =>
    if c = '\n' then c :: (indent ++ indentLines indent (d :: rest))
    else c :: indentLines indent (d :: rest)

def write (indent : List Char) (state : State) (content : List Char) : List Char × State :=
  match content with
  | [] => ([], state)
  | c :: _ =>
    let front := if state.due && !Spacing.isNewline c then indent else []
    let endsLine := content.getLast?.any Spacing.isNewline
    (front ++ indentLines indent content, ⟨endsLine, true, endsLine⟩)

/-- The state behind a group: what the group wrote counts, and if it wrote nothing, what was due
before it still is. -/
def leave (outer inner : State) : State :=
  if inner.written then { inner with due := inner.endsLine }
  else { inner with written := outer.written, due := outer.due }

mutual

def layOutFragment (indent held : List Char) (state : State) : Fragment → List Char × State
  | .text content => write indent state content
  | .verbatim content => (content, state)
  | .group fromLineStart inside =>
    let entry := ⟨state.due || (fromLineStart && state.endsLine), false, state.endsLine⟩
    let (found, left) := layOutFragments indent held entry inside
    (found, leave state left)
  | .indented fromLineStart more inside =>
    let entry := ⟨fromLineStart && (state.endsLine || !more.isEmpty), false, state.endsLine⟩
    let (found, left) := layOutFragments (indent ++ more) held entry inside
    (found, leave state left)
  | .holding body inside =>
    let (content, left) := layOutFragments indent held state body
    layOutFragments indent content left inside
  | .held => (held, state)

def layOutFragments (indent held : List Char) (state : State) :
    List Fragment → List Char × State
  | [] => ([], state)
  | fragment :: rest =>
    let (found, left) := layOutFragment indent held state fragment
    let (others, final) := layOutFragments indent held left rest
    (found ++ others, final)

end

/-- The text of what was rendered. -/
def text (fragments : List Fragment) : List Char := (layOutFragments [] [] .start fragments).1

end Layout

end BindingGen.Template
