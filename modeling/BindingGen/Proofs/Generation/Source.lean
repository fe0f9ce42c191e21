import BindingGen.Proofs.Generation.Tasks
import BindingGen.Proofs.Path.Components
import BindingGen.Proofs.Vocabulary

/-!
# The source that a generated file names

A generator hands the path of its schema document to the template as a text, and the template takes
the text apart again. What it finds is the name of the document's file, and a directory that reads
like the one in the settings.
-/

namespace BindingGen.Generation

open FileTree Template

variable {settings : Settings} {now : Int} {generator : Generator} {view : View}

theorem isName_schemaFile (generator : Generator) : Path.IsName generator.schemaFile := by
  cases generator <;> exact ⟨⟨by decide, by decide⟩, by decide, by decide⟩

theorem doneIn_render {document : Schema.Document} {template : String}
    (hdocument : view.document generator.kind (settings.schemaPath generator) = .ok document)
    (htemplate : view.read (settings.templatePath generator) = .ok template) :
    (render settings now generator).doneIn view = (Renderer.render document template
      ⟨(settings.schemaPath generator).text, settings.yearIn now⟩, view) := by
  rw [(gives_render settings now generator).doneIn]
  unfold rendered
  rw [hdocument, htemplate]
  rfl

theorem baseName_schemaPath (settings : Settings) (generator : Generator) :
    Vocabulary.baseName (settings.schemaPath generator).text = generator.schemaFile := by
  unfold Vocabulary.baseName Settings.schemaPath
  rw [Path.fileName?_join _ (isName_schemaFile generator)]
  rfl

theorem same_dirName_schemaPath (settings : Settings) (generator : Generator) :
    Path.same ⟨Vocabulary.dirName (settings.schemaPath generator).text⟩ settings.schemaRoot =
      true := by
  obtain ⟨parent, hparent, hsame⟩ := Path.components_parent? settings.schemaRoot
    (isName_schemaFile generator)
  unfold Vocabulary.dirName Settings.schemaPath
  rw [hparent]
  exact beq_iff_eq.mpr hsame

/-- **The source that a template sees is the one of the settings.** From the path that a rendering
hands over, the helpers for paths get the name of the schema file and the root it was found in, for
every spelling of the root. -/
theorem source_named (settings : Settings) (now : Int) (generator : Generator) :
    (∀ view document template,
      view.document generator.kind (settings.schemaPath generator) = .ok document →
      view.read (settings.templatePath generator) = .ok template →
      (render settings now generator).doneIn view = (Renderer.render document template
        ⟨(settings.schemaPath generator).text, settings.yearIn now⟩, view)) ∧
    ∃ directory, Path.same ⟨directory⟩ settings.schemaRoot = true ∧
      ∀ application, Vocabulary.value? application 0 =
          some (.string (settings.schemaPath generator).text) →
        (Vocabulary.all.lookup "path_basename").map (· application) =
            some (pure (.written generator.schemaFile.toList)) ∧
          (Vocabulary.all.lookup "path_dirname").map (· application) =
            some (pure (.written directory.toList)) := by
  refine ⟨fun _ _ _ => doneIn_render, _, same_dirName_schemaPath settings generator, ?_⟩
  intro application hsource
  constructor
  · have hbase := Vocabulary.mapText_eq "path_basename" Vocabulary.baseName hsource
    rw [baseName_schemaPath] at hbase
    exact congrArg some hbase
  · exact congrArg some (Vocabulary.mapText_eq "path_dirname" Vocabulary.dirName hsource)

/-- A root with an empty step, which ends in a step to itself. -/
def scatteredSettings : Settings :=
  { Settings.defaults with schemaRoot := ⟨"data//./"⟩, templateRoot := ⟨""⟩ }

def scatteredView : View :=
  ⟨⟨[(["data"], .directory), (["data", "enum_defs.json"], .file (.text "[]")),
    (["enums.py.hbs"], .file (.text "\x7b\x7bpath_dirname source_file_path\x7d\x7d"))]⟩, []⟩

/-- A helper applied to the path of the schema. -/
def sourceApplication : Application :=
  ⟨[.computed (.string (scatteredSettings.schemaPath .enums).text)], [], [], [], false, none, none⟩

theorem source_named_sample :
    (∃ document template, (render scatteredSettings 2024 .enums).doneIn scatteredView =
      (Renderer.render document template
        ⟨(scatteredSettings.schemaPath .enums).text, scatteredSettings.yearIn 2024⟩,
        scatteredView)) ∧
    ∃ directory, Path.same ⟨directory⟩ ⟨"data//./"⟩ = true ∧
      (Vocabulary.all.lookup "path_basename").map (· sourceApplication) =
        some (pure (.written "enum_defs.json".toList)) ∧
      (Vocabulary.all.lookup "path_dirname").map (· sourceApplication) =
        some (pure (.written directory.toList)) := by
  obtain ⟨hrender, directory, hsame, happlied⟩ := source_named scatteredSettings 2024 .enums
  obtain ⟨hbase, hdir⟩ := happlied sourceApplication rfl
  have hschema :
      fault? (scatteredView.document .enums (scatteredSettings.schemaPath .enums)) = none := by
    decide +kernel
  have hread : fault? (scatteredView.read (scatteredSettings.templatePath .enums)) = none := by
    decide +kernel
  obtain ⟨document, hdocument⟩ := fault?_eq_none_iff.mp hschema
  obtain ⟨template, htemplate⟩ := fault?_eq_none_iff.mp hread
  exact ⟨⟨document, template, hrender _ _ _ hdocument htemplate⟩, directory, hsame, hbase, hdir⟩

-- A root that ends in a step to itself is named without it.
example : Vocabulary.dirName (Settings.schemaPath
    { Settings.defaults with schemaRoot := ⟨"data//./"⟩ } .enums).text = "data" := by
  decide +kernel

end BindingGen.Generation
