import BindingGen.Text.Quoted
import BindingGen.NativeType
import BindingGen.Generator

/-!
# Failures

Every way in which a generation can fail, and the one message of each. Every failure ends the run;
only an unknown generator is the caller's own mistake.
-/

namespace BindingGen

/-- A failure to read or write a file. -/
inductive FileFault where
  | notFound
  | isDirectory
  | notDirectory
  | nameTooLong
  | invalidPath
  | invalidText
  | other (text : String)
  deriving DecidableEq, Repr

def FileFault.message : FileFault → String
  | notFound => "No such file or directory (os error 2)"
  | isDirectory => "Is a directory (os error 21)"
  | notDirectory => "Not a directory (os error 20)"
  | nameTooLong => "File name too long (os error 36)"
  | invalidPath => "file name contained an unexpected NUL byte"
  | invalidText => "stream did not contain valid UTF-8"
  | other text => text

inductive Failure where
  | schemaLoad (path reason : String)
  | unsupportedType (spelling : String)
  | undefinedReference (name : String)
  | unknownGenerator (name expected : String)
  | template (reason : String)
  | config (reason : String)
  | file (path : String) (fault : FileFault)
  deriving DecidableEq, Repr

namespace Failure

def message : Failure → String
  | schemaLoad path reason => "failed to load schema " ++ path ++ ": " ++ reason
  | unsupportedType spelling =>
    "unsupported native type annotation: " ++ Text.quoted spelling
  | undefinedReference name => "undefined reference in template: " ++ name
  | unknownGenerator name expected =>
    "Undefined generator: '" ++ name ++ "' (expected one of: " ++ expected ++ ")"
  | template reason => "template error: " ++ reason
  | config reason => "configuration error: " ++ reason
  | file path fault => "I/O error on " ++ path ++ ": " ++ fault.message

def isUserError : Failure → Bool
  | unknownGenerator .. => true
  | _ => false

/-- The cause below a failure, if it has one of its own. -/
def cause? : Failure → Option String
  | file _ fault => some fault.message
  | _ => none

end Failure

def NativeType.ofAnnotation (spelling : String) : Except Failure NativeType :=
  match ofAnnotation? spelling with
  | some type => .ok type
  | none => .error (.unsupportedType spelling)

def Generator.ofName (text : String) : Except Failure Generator :=
  match ofName? text with
  | some generator => .ok generator
  | none => .error (.unknownGenerator text expectedNames)

end BindingGen
