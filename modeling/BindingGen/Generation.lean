import BindingGen.FileStore
import BindingGen.Renderer
import BindingGen.Schema.Decode
import BindingGen.Settings

/-!
# Generation

Finds the inputs of a generator, renders them and writes the result. The output is only touched once
rendering has succeeded, so a run that fails leaves no output behind.
-/

namespace BindingGen

/-- A task over a store. What it reports is kept when it fails. -/
abbrev Task (m : Type → Type) := ExceptT Failure (StateT (List Journal.Entry) m)

namespace Task

variable {m : Type → Type} [Monad m] {α : Type}

def report (level : Journal.Level) (origin : Journal.Origin) (message : String)
    (fields : List (String × String)) : Task m Unit :=
  modify (· ++ [⟨level, origin, message, fields⟩])

def ofExcept (result : Except Failure α) : Task m α := ExceptT.mk (pure result)

/-- A step on a store, whose fault is a failure on the path. -/
def onFile (path : Path) (step : m (Except FileFault α)) : Task m α :=
  ExceptT.mk do
    let result ← step
    return result.mapError (.file path.text)

variable [FileStore m]

def readText (path : Path) : Task m String := onFile path (FileStore.readText path)

def writeText (path : Path) (text : String) : Task m Unit :=
  onFile path (FileStore.writeText path text)

/-- Does a task and gives what came of it, with its reports. -/
def perform (task : Task m α) : m (Except Failure α × List Journal.Entry) := task.run.run []

end Task

variable {m : Type → Type} [Monad m] [FileStore m]

/-! ## Settings -/

namespace Settings

def fileName : String := "codegen.toml"

def readFile (path : Path) (text : String) : Except Failure Settings :=
  (ofText text).mapError fun
    | .config reason => .config (path.text ++ ": " ++ reason)
    | other => other

/-- The settings in a file, seen from its directory. -/
def load (path : Path) : Task m Settings := do
  let text ← Task.readText path
  let settings ← Task.ofExcept (readFile path text)
  return settings.relativeTo (path.parent?.getD ⟨""⟩)

/-- The settings of a directory: those of its settings file, or else the default ones. -/
def discover (root : Path) : Task m Settings := do
  let path := root.join ⟨fileName⟩
  let found ← (FileStore.isFile path : m Bool)
  if found then load path else return defaults.relativeTo root

end Settings

/-! ## Documents -/

/-- The schema document in a file. -/
def Schema.Document.load (kind : Schema.Kind) (path : Path) : Task m Schema.Document := do
  let text ← Task.readText path
  let document ← Task.ofExcept (Document.ofText kind text path.text)
  Task.report .debug .schema "Loaded schema document"
    [("path", path.text), ("kind", kind.display), ("definitions", toString document.size)]
  return document

/-! ## Runs -/

namespace Generation

/-- Renders a template for a document. -/
def renderDocument (document : Schema.Document) (template : String) (inputs : Renderer.Inputs) :
    Task m String := do
  let (result, notes) := Renderer.renderWithNotes document template inputs
  modify (· ++ notes)
  Task.ofExcept result

/-- The text that a generator makes of its inputs in a year. -/
def render (settings : Settings) (now : Int) (generator : Generator) : Task m String := do
  let schemaPath := settings.schemaPath generator
  let templatePath := settings.templatePath generator
  Task.report .debug .generation "Resolved generator inputs"
    [("generator", Text.quoted generator.name), ("schema", schemaPath.text),
      ("template", templatePath.text)]
  let document ← Schema.Document.load generator.kind schemaPath
  let template ← Task.readText templatePath
  renderDocument document template ⟨schemaPath.text, settings.yearIn now⟩

/-- Runs the generator of a name and writes what it makes. -/
def run (settings : Settings) (now : Int) (name : String) (output : Path) : Task m Unit := do
  let generator ← Task.ofExcept (Generator.ofName name)
  let target := [("generator", generator.name), ("output", output.text)]
  Task.report .info .generation "Generating" target
  -- Only behind this step are files touched.
  let text ← render settings now generator
  Task.writeText output text
  Task.report .info .generation "Wrote generated file"
    (target ++ [("bytes", toString text.utf8ByteSize)])

end Generation

end BindingGen
