import BindingGen.Failure
import BindingGen.Schema.Document
import BindingGen.Template.Render
import BindingGen.Vocabulary

/-!
# The renderer

Renders a template for a schema document. A template sees the definitions under the name of their
kind, the path that they came from and the year of generation. The same document, template and
inputs always give the same text.
-/

namespace BindingGen.Renderer

/-- What a template sees besides the definitions. -/
structure Inputs where
  sourcePath : String
  year : Int
  deriving DecidableEq, Repr

def context (document : Schema.Document) (inputs : Inputs) : Json :=
  Json.ofMembers
    [(document.kind.dataName, document.toJson), ("source_file_path", .string inputs.sourcePath),
      ("current_year", Json.int inputs.year)]

/-- A fault as a failure of the run. What is not there is told apart from other faults. -/
def failure (e : Template.RenderError) : Failure :=
  match e.fault with
  | .missingVariable written => .undefinedReference (written.getD "<unnamed>")
  | .unknownHelper name => .undefinedReference name
  | .unsupportedType spelling => .unsupportedType spelling
  | _ => .template e.message

/-- What is reported about a finished rendering. -/
def finished (document : Schema.Document) (text : String) : Journal.Entry :=
  ⟨.debug, .rendering, "Rendered template",
    [("kind", document.kind.display), ("definitions", toString document.size),
      ("bytes", toString text.utf8ByteSize)]⟩

/-- Renders a template, with what it reports on the way. -/
def renderWithNotes (document : Schema.Document) (template : String) (inputs : Inputs) :
    Except Failure String × List Journal.Entry :=
  match Template.ofText template.toList with
  | .error defect => (.error (.template (defect.message template)), [])
  | .ok elements =>
    let (result, notes) :=
      Template.renderElements Vocabulary.all (context document inputs) elements
    match result with
    | .error e => (.error (failure e), notes)
    | .ok chars =>
      let text := String.ofList chars
      (.ok text, notes ++ [finished document text])

def render (document : Schema.Document) (template : String) (inputs : Inputs) :
    Except Failure String :=
  (renderWithNotes document template inputs).1

end BindingGen.Renderer
