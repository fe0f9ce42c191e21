import BindingGen.Template.Helper
import BindingGen.Template.Tree

/-!
# Rendering

What the elements of a template show for some data. Nothing is shown for what does not resolve: it
is an error, in the innermost element around it.
-/

namespace BindingGen.Template

/-- The helpers that are there, by name, and the data. `expand` renders a part that is included. -/
structure Env where
  helpers : List (String × Helper)
  data : Json
  expand : List Element → Body

namespace Env

/-! ## Outcomes -/

/-- What an outcome is worth as a parameter. Helpers that render give their text. -/
def outcomeValue : Outcome → Json
  | .value value => value
  | .verdict holds => .bool holds
  | .written content => .string (String.ofList content)
  | .rendered fragments => .string (String.ofList (Layout.text fragments))

/-- What an outcome shows. A decision shows itself, unless it chooses between the bodies of a
block. -/
def outcomeFragments (application : Application) : Outcome → Eval (List Fragment)
  | .value value => return [.text (shown value)]
  | .verdict holds =>
    if application.isBlock then application.choose holds
    else return [.verbatim (shown (.bool holds))]
  | .written content => return [.verbatim content]
  | .rendered fragments => return fragments

def applyHelper (env : Env) (name : String) (application : Application) : Eval Outcome :=
  match env.helpers.lookup name with
  | some helper => helper application
  | none => Eval.fail (.unknownHelper name)

/-! ## Parameters -/

/-- Evaluated arguments: those without a key, and the options. -/
structure Arguments where
  params : List Argument
  options : List (String × Argument)

/-- Evaluates the arguments without a key, and then the options in the order of their keys. Of
options with the same key the last one counts. -/
def collect (actions : List (Option String × Eval Argument)) : Eval Arguments := do
  let params := actions.filterMap fun (key, action) => if key.isNone then some action else none
  let options := KeyOrder.ofList (actions.filterMap fun (key, action) => key.map (·, action))
  return ⟨← params.mapM id, ← options.mapM fun (key, action) => do return (key, ← action)⟩

/-- What is given to a helper, apart from the bodies of its block. -/
def application (given : Arguments) (names : List String) (scopes : Scopes) : Application where
  params := given.params
  options := given.options
  names := names
  scopes := scopes
  isBlock := false
  body := none
  inverse := none

mutual

def evalParam (env : Env) (scopes : Scopes) : Param → Eval Argument
  | .path path => Eval.lift (scopes.resolve env.data path)
  | .literal value => return .computed value
  | .invalid written => Eval.fail (.invalidParameter written)
  | .call name args => do
    let given ← collect (argActions env scopes args)
    let outcome ← env.applyHelper name (application given [] scopes)
    return .computed (outcomeValue outcome)

def argActions (env : Env) (scopes : Scopes) :
    List (Option String × Param) → List (Option String × Eval Argument)
  | [] => []
  | (key, p) :: rest => (key, evalParam env scopes p) :: argActions env scopes rest

end

def evalArgs (env : Env) (scopes : Scopes) (args : Args) : Eval Arguments :=
  collect (env.argActions scopes args)

/-! ## Output -/

def showValue (argument : Argument) : Eval (List Fragment) :=
  match argument.value with
  | some value => return [.text (shown value)]
  | none => Eval.fail (.missingVariable argument.written)

/-- What a tag without arguments goes by: a path by its text, a subexpression by its value. -/
def loneName (env : Env) (scopes : Scopes) : Param → Eval String
  | .path path => return path.written
  | source => do return String.ofList (shown (← evalParam env scopes source).content)

/-- A lone path or subexpression calls the helper of its name. If there is none, its value is
shown. -/
def renderValue (env : Env) (scopes : Scopes) (source : Param) : Eval (List Fragment) := do
  let name ← env.loneName scopes source
  match env.helpers.lookup name with
  | some helper =>
    let application := application ⟨[], []⟩ [] scopes
    outcomeFragments application (← helper application)
  | none => showValue (← evalParam env scopes source)

/-- A helper with the bodies of its block. Its arguments are evaluated before it is looked up. -/
def renderCall (env : Env) (scopes : Scopes) (call : Call) (isBlock : Bool)
    (body inverse : Option Body) : Eval (List Fragment) := do
  let given ← env.evalArgs scopes call.args
  let application := { application given call.names scopes with isBlock, body, inverse }
  outcomeFragments application (← env.applyHelper call.name application)

/-! ## Parts -/

def define (name : String) (part : List Element) : Eval Unit :=
  modify fun progress =>
    { progress with definitions :=
      { progress.definitions with parts := (name, part) :: progress.definitions.parts } }

/-- The only decorator names a part. -/
def decorate (env : Env) (scopes : Scopes) (call : Call) (body : Option (List Element)) :
    Eval Unit := do
  let given ← env.evalArgs scopes call.args
  if call.name = "inline" then
    let argument ← (application given [] scopes).param "inline" 0
    match argument.content, body with
    | .string name, some part => define name part
    | .string _, none => Eval.fail .missingBody
    | _, _ => Eval.fail .partNameKind
  else Eval.fail (.unknownDecorator call.name)

/-- The members of a value as an object. Items and characters go by their positions. -/
def membersOf : Json → Json.Members
  | .object members => members
  | .array items => Json.Members.sort (items.zipIdx.map fun (value, i) => (toString i, value))
  | .string s =>
    Json.Members.sort (s.toList.zipIdx.map fun (c, i) => (toString i, .string (String.singleton c)))
  | _ => []

/-- The block of a part: that of its first argument, or else another one for the value around the
inclusion. Options are added to the value, and are given as names too. -/
def partBlock (env : Env) (scopes : Scopes) (given : Arguments) : Eval Block := do
  let block := match given.params.head? with
    | some argument => argument.block
    | none => { scopes.innermost with given := [], locals := [] }
  if given.options.isEmpty then return block
  else
    let current ← Eval.lift (Scopes.inBlock env.data "this" block [])
    let options := given.options.map fun (key, argument) => (key, argument.content)
    let members := options.foldl (fun members (key, value) => members.insert key value)
      (membersOf current.content)
    return { block with
      computed := some (.object members)
      given := options.map fun (key, value) => (key, .value value) }

/-- The name under which a part shows the body of its inclusion. -/
def bodyName : String := "@partial-block"

/-- What an inclusion shows, behind its own body, if it has one. A part is looked for once the body
is rendered, so a body may define it; without a part, the body itself is shown. -/
def showPart (env : Env) (scopes : Scopes) (name : String) (body : Option (List Fragment)) :
    Eval (List Fragment) := do
  let definitions := (← get).definitions
  if name = bodyName then
    match definitions.hasBody, body with
    | true, none => return [.held]
    | true, some body => return [.holding body [], .held]
    | false, some body => return [.holding body [.held]]
    | false, none => Eval.fail .noPartBody
  else
    match definitions.parts.lookup name, body with
    | some part, none =>
      modify fun progress => { progress with definitions := { definitions with hasBody := false } }
      env.expand part scopes
    | some part, some body =>
      modify fun progress => { progress with definitions := { definitions with hasBody := true } }
      return [.holding body (← env.expand part scopes)]
    | none, some body => return [.holding body [.held]]
    | none, none => Eval.fail (.unknownPart name)

def renderInclusion (env : Env) (scopes : Scopes) (name : PartName) (args : Args)
    (body : Option Body) : Eval (List Fragment) := do
  let name ← match name with
    | .fixed name => pure name
    | .computed source => env.loneName scopes source
  let given ← env.evalArgs scopes args
  let inner := (← env.partBlock scopes given) :: scopes
  Eval.enclosed do
    let body ← body.mapM fun render => render inner
    env.showPart inner name body

/-! ## Elements -/

mutual

def renderElement (env : Env) (scopes : Scopes) : Element → Eval (List Fragment)
  | .text content => return [.text content]
  | .value place source =>
    Eval.within place do return [.group false (← env.renderValue scopes source)]
  | .call place call =>
    Eval.within place do return [.group false (← env.renderCall scopes call false none none)]
  | .block place call fromLineStart body inverse =>
    Eval.within place do
      let inverseBody : Option Body :=
        match inverse with
        | some elements => some fun scopes => renderElements env scopes elements
        | none => none
      let found ← env.renderCall scopes call true
        (some fun scopes => renderElements env scopes body) inverseBody
      return [.group fromLineStart found]
  | .decorator place call body =>
    Eval.within place do
      env.decorate scopes call body
      return []
  | .inclusion place name args fromLineStart indent body =>
    Eval.within place do
      let ownBody : Option Body :=
        match body with
        | some elements => some fun scopes => renderElements env scopes elements
        | none => none
      return [.indented fromLineStart indent (← env.renderInclusion scopes name args ownBody)]

def renderElements (env : Env) (scopes : Scopes) : List Element → Eval (List Fragment)
  | [] => return []
  | element :: rest => do
    let found ← renderElement env scopes element
    return found ++ (← renderElements env scopes rest)

end

end Env

/-! ## Templates -/

/-- Renders elements with inclusions nested at most `depth` deep. -/
def renderWithin (helpers : List (String × Helper)) (data : Json) :
    Nat → List Element → Body
  | 0, _, _ => Eval.fail .endlessInclusion
  | depth + 1, elements, scopes =>
    Env.renderElements ⟨helpers, data, renderWithin helpers data depth⟩ scopes elements

/-- How deep inclusions may nest. -/
def inclusionLimit : Nat := 10000

/-- What elements show, with what was noted on the way. -/
def renderElements (helpers : List (String × Helper)) (data : Json) (elements : List Element) :
    Except RenderError (List Char) × List Journal.Entry :=
  let (result, progress) :=
    (renderWithin helpers data inclusionLimit elements .root).run.run .start
  (result.map Layout.text, progress.notes)

end BindingGen.Template
