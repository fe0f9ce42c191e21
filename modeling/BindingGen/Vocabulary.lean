import BindingGen.Comment
import BindingGen.Identifier
import BindingGen.Namespace
import BindingGen.NativeType
import BindingGen.Path
import BindingGen.Template.Helper

/-!
# The vocabulary of templates

The helpers that put names, comments, types and paths into templates. Every argument has to be
there and has to be of the kind that the helper works on.
-/

namespace BindingGen.Vocabulary

open Template

/-! ## Arguments -/

def given (application : Application) (helper : String) (index : Nat) : Eval Json :=
  match application.params[index]? with
  | none => Eval.fail (.missingArgument helper index)
  | some argument =>
    match argument.value with
    | some value => return value
    | none =>
      Eval.fail (.missingVariable
        (argument.written.getD (helper ++ " argument " ++ toString index)))

def text (application : Application) (helper : String) (index : Nat) : Eval String := do
  match ← given application helper index with
  | .string s => return s
  | _ => Eval.fail (.argumentKind helper index "a string")

/-- A helper that maps a string to a string. -/
def mapText (name : String) (f : String → String) : Helper := fun application => do
  return .written (f (← text application name 0)).toList

/-! ## Names -/

/-- The name of a member of an enumeration, or of a plain name. What has none is a placeholder. -/
def memberName? : Json → Option String
  | .string name => some name
  | .object members =>
    match members.lookup "name" with
    | some (.string name) => some name
    | _ => none
  | _ => none

def sharedPrefix : Helper := fun application => do
  match ← given application "common_prefix" 0 with
  | .array members =>
    return .written (Namespace.commonPrefix (members.map memberName?)).toList
  | _ => Eval.fail (.argumentKind "common_prefix" 0 "an array")

def stripped : Helper := fun application => do
  let raw ← text application "strip_prefix" 0
  let start ← text application "strip_prefix" 1
  return .written (Namespace.stripPrefix raw start).toList

/-! ## Comments -/

def comment (application : Application) : Eval (Option String) := do
  match ← given application "to_doc_text" 0 with
  | .null => return none
  | .string s => return some s
  | _ => Eval.fail (.argumentKind "to_doc_text" 0 "a string or null")

/-- The nesting depth, zero if it is not given. -/
def depth (application : Application) : Eval (BitVec 64) := do
  if application.params.length ≤ 1 then return 0
  else
    match count? (← given application "to_doc_text" 1) with
    | some n => return n
    | none => Eval.fail (.argumentKind "to_doc_text" 1 "a non-negative integer")

def docText : Helper := fun application => do
  let comment ← comment application
  let depth ← depth application
  return .written (Comment.docText comment depth).toList

/-! ## Types and paths -/

def mappedType : Helper := fun application => do
  let spelling ← text application "map_type" 0
  match NativeType.ofAnnotation? spelling with
  | some type => return .written type.target.toList
  | none => Eval.fail (.unsupportedType spelling)

def dirName (path : String) : String := ((Path.mk path).parent?.map Path.text).getD ""

def baseName (path : String) : String := (Path.mk path).fileName?.getD ""

/-! ## Names of helpers -/

def helpers : List (String × Helper) :=
  [("normalize", mapText "normalize" Identifier.normalize),
    ("to_upper_snake", mapText "to_upper_snake" Identifier.constant),
    ("common_prefix", sharedPrefix), ("strip_prefix", stripped), ("to_doc_text", docText),
    ("map_type", mappedType), ("path_dirname", mapText "path_dirname" dirName),
    ("path_basename", mapText "path_basename" baseName)]

/-- All helpers that generators' templates may use. -/
def all : List (String × Helper) := helpers ++ Helper.standard

end BindingGen.Vocabulary
