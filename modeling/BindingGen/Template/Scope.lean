import BindingGen.Template.Fault
import BindingGen.Template.Value

/-!
# Scopes

Every block has a value of its own, which paths start from: a place in the data, or a value that
was computed. A path may leave blocks, start at the root, or name what a block provides.
-/

namespace BindingGen.Template

/-! ## Walking -/

/-- The item that a step names by its position. A number beyond a 64-bit word is no position where
no item stands. -/
def item? (items : List Json) (step : String) : Except Fault (Option Json) :=
  match position? step with
  | some i =>
    if i < items.length || i < Nat.pow 2 64 then .ok items[i]? else .error (.namedItem step)
  | none => .error (.namedItem step)

/-- The part of a value that a step names. Arrays have no named parts. -/
def part? (value : Option Json) (step : String) : Except Fault (Option Json) :=
  match value with
  | some (.array items) => item? items step
  | some (.object members) => .ok (members.lookup step)
  | _ => .ok none

def walk (value : Option Json) (steps : List String) : Except Fault (Option Json) :=
  steps.foldlM part? value

/-! ## Blocks -/

/-- What a block hands to its body under a name: its own value, or another. -/
inductive Given where
  | own
  | value (value : Json)
  deriving Repr

/-- A computed value takes the place of the one in the data. -/
structure Block where
  origin : List String
  computed : Option Json
  given : List (String × Given)
  locals : Json.Members
  deriving Repr

/-- The blocks around an element, innermost first. -/
abbrev Scopes := List Block

def Block.root : Block := ⟨[], none, [], []⟩

def Scopes.root : Scopes := [.root]

/-! ## Evaluated parameters -/

/-- What a parameter is worth: nothing, if its path leads nowhere. It remembers its path as it is
written, and its place in the data if it has one. -/
structure Argument where
  written : Option String
  value : Option Json
  origin : Option (List String)
  deriving Repr

namespace Argument

def computed (value : Json) : Argument := ⟨none, some value, none⟩

/-- The value, with null for a missing one. -/
def content (argument : Argument) : Json := argument.value.getD .null

/-- The block whose value is the argument. -/
def block (argument : Argument) : Block :=
  match argument.origin with
  | some origin => { Block.root with origin }
  | none => { Block.root with computed := some argument.content }

end Argument

namespace Scopes

/-! ## Looking up paths -/

/-- The value and place of the part of the data at some steps. -/
def inData (data : Json) (written : String) (steps : List String) : Except Fault Argument := do
  let value ← walk (some data) steps
  return ⟨some written, value, if value.isSome then some steps else none⟩

def inValue (value : Json) (written : String) (steps : List String) : Except Fault Argument := do
  return ⟨some written, ← walk (some value) steps, none⟩

/-- A lookup that starts from a block's own value. -/
def inBlock (data : Json) (written : String) (block : Block) (steps : List String) :
    Except Fault Argument :=
  match block.computed with
  | some value => inValue value written steps
  | none => inData data written (block.origin ++ steps)

/-- What a name stands for, in the innermost block that gives it. -/
def given? (scopes : Scopes) (name : String) : Option (Block × Given) :=
  scopes.findSome? fun block => (block.given.lookup name).map (block, ·)

/-- What the first block that provides anything does, from `level` blocks outward on. -/
def local? (scopes : Scopes) (level : Nat) (name : String) : Option Json :=
  ((scopes.drop level).find? (!·.locals.isEmpty)).bind (·.locals.lookup name)

def innermost (scopes : Scopes) : Block := scopes.head?.getD .root

/-- A block by the number of blocks to leave. There is none beyond the root: such a path stays. -/
def enclosing (scopes : Scopes) (level : Nat) : Block :=
  scopes[level]?.getD scopes.innermost

/-- The names of a path below the blocks, the first of which a block may have given. -/
def below (data : Json) (scopes : Scopes) (path : Path) : Except Fault Argument :=
  match path.names.head?.bind scopes.given? with
  | some (_, .value value) => inValue value path.written path.names.tail
  | some (block, .own) => inData data path.written (block.origin ++ path.names.tail)
  | none => inBlock data path.written (scopes.enclosing path.ups) path.names

def resolve (data : Json) (scopes : Scopes) (path : Path) : Except Fault Argument :=
  if path.fromRoot then inData data path.written path.names
  else if path.isLocal then
    match path.names with
    | name :: _ => .ok ⟨some path.written, scopes.local? path.ups name, none⟩
    | [] => inBlock data path.written scopes.innermost []
  else scopes.below data path

end Scopes

end BindingGen.Template
