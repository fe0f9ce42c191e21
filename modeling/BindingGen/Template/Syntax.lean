import BindingGen.Json.Basic

/-!
# Template syntax

A template is a sequence of elements: literal text, output, blocks, and the definition and inclusion
of named parts. Blank control is done by the time an element exists.
-/

namespace BindingGen.Template

/-- A position in a template. Lines and columns count from one. -/
structure Place where
  line : Nat
  column : Nat
  deriving DecidableEq, Repr

/-! ## Parameters -/

/-- A path into the data. `ups` counts the blocks to leave first; a local path names what the
block itself provides, such as the index of an item. -/
structure Path where
  written : String
  fromRoot : Bool
  isLocal : Bool
  ups : Nat
  names : List String
  deriving DecidableEq, Repr

/-- Arguments keep the order in which they are written. An option carries its key. A literal that
is no value keeps its text. -/
inductive Param where
  | path (path : Path)
  | literal (value : Json)
  | invalid (written : String)
  | call (name : String) (args : List (Option String × Param))
  deriving Repr

abbrev Args := List (Option String × Param)

/-- A helper and what it is given. A block may name the value and the key that it passes to its
body. -/
structure Call where
  name : String
  args : Args
  names : List String
  deriving Repr

/-- The name of a part is fixed or computed. -/
inductive PartName where
  | fixed (name : String)
  | computed (source : Param)
  deriving Repr

/-! ## Elements -/

/-- `fromLineStart` marks an element whose tag stood alone on its line. Continuations of a block
have no place of their own. -/
inductive Element where
  | text (content : List Char)
  | value (place : Place) (source : Param)
  | call (place : Place) (call : Call)
  | block (place : Option Place) (call : Call) (fromLineStart : Bool) (body : List Element)
      (inverse : Option (List Element))
  | decorator (place : Place) (call : Call) (body : Option (List Element))
  | inclusion (place : Place) (name : PartName) (args : Args) (fromLineStart : Bool)
      (indent : List Char) (body : Option (List Element))
  deriving Repr

/-! ## Literals that are no values -/

mutual

/-- The first literal, in the order of the text, that is no value. -/
def Param.firstInvalid : Param → Option String
  | .path _ => none
  | .literal _ => none
  | .invalid written => some written
  | .call _ args => firstInvalidArg args

def firstInvalidArg : List (Option String × Param) → Option String
  | [] => none
  | (_, p) :: rest => p.firstInvalid.or (firstInvalidArg rest)

end

def PartName.firstInvalid : PartName → Option String
  | fixed _ => none
  | computed source => source.firstInvalid

end BindingGen.Template
