import BindingGen.Template.Defect
import BindingGen.Template.Spacing

/-!
# Templates from tags

Blocks are paired tags. A block of helpers may go on at `else` tags, each of which opens a block of
its own in the inverse of the one before. Badly nested tags are reported before anything else; other
defects in the order of the text.
-/

namespace BindingGen.Template

/-! ## Nesting -/

/-- What is open. Behind a last `else` a helper takes no further one. -/
inductive Nesting where
  | helper
  | inverse
  | raw
  | decorator
  | inclusion
  deriving DecidableEq, Repr

/-- A closing tag has no name or one of the kind that it closes. -/
def Nesting.mayClose (name : String) : Nesting → Bool
  | inclusion => name = "" || Grammar.isPartIdentifier name.toList
  | raw => false
  | _ => name = "" || Grammar.isIdentifier name.toList

/-- What is open behind a tag, innermost first, if the tag may stand there. -/
def Tag.nest? : Tag → List Nesting → Option (List Nesting)
  | opening _, stack => some (.helper :: stack)
  | continuation (some _), .helper :: stack => some (.helper :: stack)
  | continuation none, .helper :: stack => some (.inverse :: stack)
  | continuation _, _ => none
  | closing name, top :: stack => if top.mayClose name then some stack else none
  | closing _, [] => none
  | rawOpening _, stack => some (.raw :: stack)
  | rawClosing _, .raw :: stack => some stack
  | rawClosing _, _ => none
  | decoratorOpening _, stack => some (.decorator :: stack)
  | inclusionOpening _ _, stack => some (.inclusion :: stack)
  | _, stack => some stack

def wellNested (tags : List Tag) : Bool :=
  tags.foldlM (fun stack tag => tag.nest? stack) ([] : List Nesting) == some []

/-! ## Invalid parameters -/

def refuse : Option String → Except Defect Unit
  | some written => .error (.invalidParameter written)
  | none => .ok ()

def checkCall (call : Call) : Except Defect Unit := refuse (firstInvalidArg call.args)

def checkPart (name : PartName) (args : Args) : Except Defect Unit :=
  refuse (name.firstInvalid.or (firstInvalidArg args))

/-! ## Elements -/

def textElement : List Char → List Element
  | [] => []
  | text => [.text text]

/-- The name that a closing tag repeats. -/
def closedName? : Tag → Option String
  | .closing name => some name
  | .rawClosing name => some name
  | _ => none

def PartName.shown : PartName → String
  | fixed name => name
  | computed _ => ""

/-- Decorators and inclusions may be closed without their name. -/
def Pairing.closes (pairing : Pairing) (opened closed : String) : Bool :=
  closed = opened || (closed = "" && pairing = .decorator)

def expectClosing (pairing : Pairing) (opened : String) :
    List Step → Except Defect (List Step)
  | step :: rest =>
    match closedName? step.tag with
    | some closed =>
      if pairing.closes opened closed then .ok rest
      else .error (.mismatch pairing opened closed step.place)
    | none => .error .malformed
  | [] => .error .malformed

mutual

/-- The elements in front of the next tag that closes or continues a block, and the steps from
that tag on. -/
def elementsFrom : Nat → List Step → Except Defect (List Element × List Step)
  | 0, _ => .error .malformed
  | _ + 1, [] => .ok ([], [])
  | fuel + 1, step :: rest =>
    let followedBy (found : List Element) (rest : List Step) :
        Except Defect (List Element × List Step) := do
      let (others, left) ← elementsFrom fuel rest
      return (textElement step.text ++ found ++ others, left)
    let block (call : Call) : Except Defect (List Element × List Step) := do
      checkCall call
      let (body, inverse, left) ← blockFrom fuel call.name rest
      followedBy [.block (some step.place) call step.fromLineStart body inverse] left
    match step.tag with
    | .comment => followedBy [] rest
    | .call call => do
      checkCall call
      followedBy [.call step.place call] rest
    | .value source => do
      refuse source.firstInvalid
      followedBy [.value step.place source] rest
    | .opening call => block call
    | .rawOpening call => block call
    | .decorator call => do
      checkCall call
      followedBy [.decorator step.place call none] rest
    | .decoratorOpening call => do
      checkCall call
      let (body, left) ← elementsFrom fuel rest
      let left ← expectClosing .decorator call.name left
      followedBy [.decorator step.place call (some body)] left
    | .inclusion name args => do
      checkPart name args
      followedBy [.inclusion step.place name args step.fromLineStart step.indent none] rest
    | .inclusionOpening name args => do
      checkPart name args
      let (body, left) ← elementsFrom fuel rest
      let left ← expectClosing .decorator name.shown left
      followedBy [.inclusion step.place name args step.fromLineStart [] (some body)] left
    | .continuation _ => .ok (textElement step.text, step :: rest)
    | .closing _ => .ok (textElement step.text, step :: rest)
    | .rawClosing _ => .ok (textElement step.text, step :: rest)

/-- The body and the inverse of a block, and the steps behind its closing tag. -/
def blockFrom : Nat → String → List Step →
    Except Defect (List Element × Option (List Element) × List Step)
  | 0, _, _ => .error .malformed
  | fuel + 1, opened, steps => do
    let (body, left) ← elementsFrom fuel steps
    match left with
    | [] => .error .malformed
    | step :: rest =>
      match step.tag with
      | .continuation none =>
        let (inverse, left) ← elementsFrom fuel rest
        return (body, some inverse, ← expectClosing .helper opened left)
      | .continuation (some chained) =>
        checkCall chained
        let (chainedBody, inverse, left) ← blockFrom fuel opened rest
        return (body, some [.block none chained step.fromLineStart chainedBody inverse], left)
      | _ => return (body, none, ← expectClosing .helper opened (step :: rest))

end

/-! ## Templates -/

/-- The elements of a whole text. Each tag takes part in at most two steps of the recursion. -/
def ofSteps (steps : Steps) : Except Defect (List Element) := do
  let (elements, left) ← elementsFrom (2 * steps.tagged.length + 2) steps.tagged
  match left with
  | [] => return elements ++ textElement steps.final
  | _ => .error .malformed

/-- Reads a template. -/
def ofText (text : List Char) : Except Defect (List Element) :=
  match Tokens.ofText? text with
  | none => .error .malformed
  | some tokens =>
    if wellNested (tokens.tagged.map (·.tag)) then ofSteps (.ofTokens tokens)
    else .error .malformed

end BindingGen.Template
