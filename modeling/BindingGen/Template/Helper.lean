import BindingGen.Journal.Entry
import BindingGen.Template.Layout
import BindingGen.Template.Scope

/-!
# Helpers

What a helper is given and what it gives back, and the helpers that every template has.
-/

namespace BindingGen.Template

/-! ## Evaluation -/

/-- What templates define for the elements that follow: named parts, the latest first, and whether
the part around an element was included with a body. -/
structure Definitions where
  parts : List (String × List Element)
  hasBody : Bool
  deriving Repr

structure Progress where
  definitions : Definitions
  notes : List Journal.Entry
  deriving Repr

def Progress.start : Progress := ⟨⟨[], false⟩, []⟩

/-- Evaluation may fail, and what was noted stays noted. -/
abbrev Eval := ExceptT RenderError (StateM Progress)

namespace Eval

variable {α : Type}

def fail (fault : Fault) : Eval α := throw ⟨fault, none⟩

def lift (result : Except Fault α) : Eval α :=
  match result with
  | .ok value => pure value
  | .error fault => fail fault

/-- Places the errors of an element. -/
def within (place : Option Place) (action : Eval α) : Eval α :=
  tryCatch action fun e => throw (e.within place)

/-- What is defined inside ends with it. -/
def enclosed (action : Eval α) : Eval α := do
  let before := (← get).definitions
  let result ← action
  modify fun progress => { progress with definitions := before }
  return result

def note (level : Journal.Level) (text : String) : Eval Unit :=
  modify fun progress =>
    { progress with notes := progress.notes ++ [⟨level, .template, text, []⟩] }

end Eval

/-! ## Applications -/

/-- The elements inside a block, ready to be rendered in a scope. -/
abbrev Body := Scopes → Eval (List Fragment)

structure Application where
  params : List Argument
  options : List (String × Argument)
  names : List String
  scopes : Scopes
  isBlock : Bool
  body : Option Body
  inverse : Option Body

/-- A helper gives a value, decides between the two bodies of its block, writes text, or renders
what it likes. -/
inductive Outcome where
  | value (value : Json)
  | verdict (holds : Bool)
  | written (content : List Char)
  | rendered (fragments : List Fragment)

abbrev Helper := Application → Eval Outcome

namespace Application

def option? (application : Application) (key : String) : Option Argument :=
  application.options.lookup key

/-- A parameter that has to be written. -/
def param (application : Application) (helper : String) (index : Nat) : Eval Argument :=
  match application.params[index]? with
  | some argument => return argument
  | none => Eval.fail (.missingParam helper index)

/-- A parameter that has to lead to a value. -/
def operand (application : Application) (helper : String) (index : Nat) : Eval Json :=
  match application.params[index]?.bind (·.value) with
  | some value => return value
  | none => Eval.fail (.missingParam helper index)

def runBody (body : Option Body) (scopes : Scopes) : Eval (List Fragment) :=
  match body with
  | some render => render scopes
  | none => return []

/-- Renders one of the bodies in the scope around the block. -/
def choose (application : Application) (holds : Bool) : Eval (List Fragment) :=
  runBody (if holds then application.body else application.inverse) application.scopes

/-- Renders the inverse for an argument that cannot be used. Without one the argument counts as
missing. -/
def otherwise (application : Application) (argument : Argument) : Eval Outcome :=
  match application.inverse with
  | some render => return .rendered (← render application.scopes)
  | none => Eval.fail (.missingVariable argument.written)

end Application

/-! ## Conditions and scopes -/

namespace Helper

/-- Zero counts as true for a condition that includes it. -/
def condition (positive : Bool) : Helper := fun application => do
  let argument ← application.param "if" 0
  let includeZero := match (application.option? "includeZero").map Argument.content with
    | some (.bool b) => b
    | _ => false
  return .rendered (← application.choose (holds includeZero argument.content == positive))

/-- A value under the name that a block gives it. -/
def giveValue (argument : Argument) (item : Json) : Given :=
  if argument.origin.isSome then .own else .value item

def withValue : Helper := fun application => do
  let argument ← application.param "with" 0
  if holds false argument.content then
    let given := match application.names with
      | [name] => [(name, giveValue argument argument.content)]
      | _ => []
    let block := { argument.block with given }
    .rendered <$> Eval.enclosed (Application.runBody application.body (block :: application.scopes))
  else application.otherwise argument

/-- What the items of a collection are called by a block. A name for the key hides one for the
item. -/
def giveItem (names : List String) (argument : Argument) (key item : Json) :
    List (String × Given) :=
  match names with
  | [name] => [(name, giveValue argument item)]
  | [name, keyName] => [(keyName, .value key), (name, giveValue argument item)]
  | _ => []

/-- An item of a collection, with its key and the step of a path that leads to it. -/
structure Item where
  key : Json
  step : String
  value : Json
  named : Bool

def itemsOf : Json → Option (List Item)
  | .array items => some (items.zipIdx.map fun (value, i) =>
      ⟨Json.int i, toString i, value, false⟩)
  | .object members => some (members.map fun (key, value) => ⟨.string key, key, value, true⟩)
  | _ => none

/-- The block of one item among `total`. -/
def itemBlock (argument : Argument) (names : List String) (total : Nat) (item : Item)
    (index : Nat) : Block where
  origin := (argument.origin.map (· ++ [item.step])).getD []
  computed := if argument.origin.isSome then none else some item.value
  given := giveItem names argument item.key item.value
  locals :=
    [("first", .bool (index == 0)), ("last", .bool (index + 1 == total)),
      ("index", Json.int index)] ++ if item.named then [("key", item.key)] else []

def renderItems (argument : Argument) (names : List String) (scopes : Scopes) (body : Body)
    (total : Nat) : Nat → List Item → Eval (List Fragment)
  | _, [] => return []
  | index, item :: rest => do
    let found ← body (itemBlock argument names total item index :: scopes)
    return found ++ (← renderItems argument names scopes body total (index + 1) rest)

def each : Helper := fun application => do
  let argument ← application.param "each" 0
  match application.body with
  | none => return .rendered []
  | some body =>
    match itemsOf argument.content with
    | some items =>
      if items.isEmpty && application.inverse.isSome then application.otherwise argument
      else .rendered <$>
        (renderItems argument application.names application.scopes body items.length 0
          items).enclosed
    | none => application.otherwise argument

/-- A block whose body is only shown. -/
def raw : Helper := fun application => do
  return .rendered (← Application.runBody application.body application.scopes)

/-! ## Values -/

def lookupPart (collection index : Json) : Option Json :=
  match collection with
  | .array items => (count? index).bind fun i => items[i.toNat]?
  | .object members =>
    match index with
    | .string key => members.lookup key
    | _ => none
  | _ => none

def lookup : Helper := fun application => do
  let collection ← application.param "lookup" 0
  let index ← application.param "lookup" 1
  match lookupPart collection.content index.content with
  | some value => return .value value
  | none => Eval.fail (.missingVariable none)

def len : Helper := fun application =>
  match application.params.head?.bind (·.value) with
  | some value => return .value (Json.int (size value))
  | none => Eval.fail (.missingNamedParam "len" "x")

/-! ## Comparisons -/

def binary (name : String) (test : Json → Json → Bool) : Helper := fun application => do
  let a ← application.operand name 0
  let b ← application.operand name 1
  return .verdict (test a b)

def ordered (accepted : List Ordering) (a b : Json) : Bool :=
  (compareValues? a b).any (accepted.contains ·)

def negation : Helper := fun application => do
  return .verdict (!holds false (← application.operand "not" 0))

def all : Helper := fun application =>
  return .verdict (application.params.all fun p => holds false p.content)

def any : Helper := fun application =>
  return .verdict (application.params.any fun p => holds false p.content)

/-! ## Notes -/

/-- An argument as it is noted, behind its path if it has one. -/
def noted (argument : Argument) : String :=
  let value := String.ofList (shown argument.content)
  match argument.written with
  | some written => written ++ ": " ++ value
  | none => value

def log : Helper := fun application => do
  let name := match (application.option? "level").map Argument.content with
    | some (.string name) => name
    | _ => "info"
  match Journal.Level.ofName? name with
  | some level =>
    Eval.note level (", ".intercalate (application.params.map noted))
    return .rendered []
  | none => Eval.fail (.unknownLevel name)

/-! ## Names -/

def standard : List (String × Helper) :=
  [("if", condition true), ("unless", condition false), ("each", each), ("with", withValue),
    ("lookup", lookup), ("raw", raw), ("log", log), ("len", len),
    ("eq", binary "eq" Json.same), ("ne", binary "ne" fun a b => !Json.same a b),
    ("gt", binary "gt" (ordered [.gt])), ("gte", binary "gte" (ordered [.gt, .eq])),
    ("lt", binary "lt" (ordered [.lt])), ("lte", binary "lte" (ordered [.lt, .eq])),
    ("and", all), ("or", any), ("not", negation)]

end Helper

end BindingGen.Template
