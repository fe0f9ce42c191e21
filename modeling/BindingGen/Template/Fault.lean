import BindingGen.Template.Syntax

/-!
# Faults of a rendering

Why a template cannot be shown for its data, and where.
-/

namespace BindingGen.Template

inductive Fault where
  | missingVariable (written : Option String)
  | unknownHelper (name : String)
  | unsupportedType (spelling : String)
  | namedItem (step : String)
  | missingParam (helper : String) (index : Nat)
  | missingNamedParam (helper name : String)
  | missingArgument (helper : String) (index : Nat)
  | argumentKind (helper : String) (index : Nat) (expected : String)
  | unknownPart (name : String)
  | noPartBody
  | unknownDecorator (name : String)
  | unknownLevel (name : String)
  | partNameKind
  | missingBody
  | invalidParameter (written : String)
  | endlessInclusion
  deriving DecidableEq, Repr

def Fault.message : Fault → String
  | missingVariable written => "missing variable " ++ written.getD "<unnamed>"
  | unknownHelper name => "Helper not found " ++ name
  | unsupportedType spelling => "unsupported type " ++ spelling
  | namedItem step => "Cannot access array/vector with string index, " ++ step
  | missingParam helper index =>
    "Helper/Decorator " ++ helper ++ " param at index " ++ toString index ++
      " required but not found"
  | missingNamedParam helper name =>
    "Helper/Decorator " ++ helper ++ " param with name " ++ name ++ " required but not found"
  | missingArgument helper index => helper ++ ": missing argument " ++ toString index
  | argumentKind helper index expected =>
    helper ++ ": argument " ++ toString index ++ " must be " ++ expected
  | unknownPart name => "Partial not found " ++ name
  | noPartBody => "Partial block cound not be found"
  | unknownDecorator name => "Decorator not found " ++ name
  | unknownLevel name => "Invalid logging level: " ++ name
  | partNameKind => "Invalid param type, String expected"
  | missingBody => "Block content required"
  | invalidParameter written => "invalid parameter " ++ written
  | endlessInclusion => "inclusions are nested too deep"

/-- A fault in the innermost element that has a place. -/
structure RenderError where
  fault : Fault
  place : Option Place
  deriving DecidableEq, Repr

namespace RenderError

/-- Gives the error a place, if it has none yet. -/
def within (place : Option Place) (e : RenderError) : RenderError :=
  { e with place := e.place.or place }

def message (e : RenderError) : String :=
  match e.place with
  | some place =>
    "Error rendering \"Unnamed template\" line " ++ toString place.line ++ ", col " ++
      toString place.column ++ ": " ++ e.fault.message
  | none => e.fault.message

end RenderError

end BindingGen.Template
