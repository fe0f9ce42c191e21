import BindingGen.Proofs.FileTree
import BindingGen.Proofs.Generation.Tasks
import BindingGen.Proofs.Schema.Decode

/-!
# Runs

A run fails for the first of six causes that applies, and then changes nothing. Otherwise it
changes the file of its output, which then holds what the generator renders.
-/

namespace BindingGen.Generation

open FileTree

/-! ## Causes -/

/-- Where a run can fail, in the order in which it is told. -/
inductive Stage where
  | name
  | schemaFile
  | schema
  | templateFile
  | rendering
  | output
  deriving DecidableEq, Repr

def Stage.all : List Stage := [name, schemaFile, schema, templateFile, rendering, output]

variable (settings : Settings) (now : Int) (name : String) (output : Path) (view : View)

def placeOf : Except Failure Location :=
  (view.tree.findNew view.cwd output).mapError (.file output.text)

/-- The failure at one stage, by the files that are there and nothing else. A stage whose inputs are
missing has none of its own. -/
def failureAt : Stage → Option Failure
  | .name => fault? (Generator.ofName name)
  | .schemaFile => do
    let generator ← Generator.ofName? name
    fault? (view.read (settings.schemaPath generator))
  | .schema => do
    let generator ← Generator.ofName? name
    let text ← (view.read (settings.schemaPath generator)).toOption
    fault? (Schema.Document.ofText generator.kind text (settings.schemaPath generator).text)
  | .templateFile => do
    let generator ← Generator.ofName? name
    fault? (view.read (settings.templatePath generator))
  | .rendering => do
    let generator ← Generator.ofName? name
    let document ← (view.document generator.kind (settings.schemaPath generator)).toOption
    let template ← (view.read (settings.templatePath generator)).toOption
    fault? (Renderer.render document template
      ⟨(settings.schemaPath generator).text, settings.yearIn now⟩)
  | .output => fault? (placeOf output view)

def firstFailure : Option Failure :=
  Stage.all.findSome? (failureAt settings now name output view)

inductive Stage.Reports : Stage → Failure → Prop
  | name : Reports .name (.unknownGenerator name Generator.expectedNames)
  | schemaFile (generator : Generator) (fault : FileFault) :
    Reports .schemaFile (.file (settings.schemaPath generator).text fault)
  | schema (generator : Generator) (reason : String) :
    Reports .schema (.schemaLoad (settings.schemaPath generator).text reason)
  | templateFile (generator : Generator) (fault : FileFault) :
    Reports .templateFile (.file (settings.templatePath generator).text fault)
  | unsupported (spelling : String) : Reports .rendering (.unsupportedType spelling)
  | undefined (name : String) : Reports .rendering (.undefinedReference name)
  | template (reason : String) : Reports .rendering (.template reason)
  | output (fault : FileFault) : Reports .output (.file output.text fault)

variable {settings now name output view}

theorem ofName_eq_error_iff {failure : Failure} :
    Generator.ofName name = .error failure ↔
      Generator.ofName? name = none ∧
        failure = .unknownGenerator name Generator.expectedNames := by
  unfold Generator.ofName
  cases Generator.ofName? name <;> simp [eq_comm]

theorem ofName?_eq_none_iff :
    Generator.ofName? name = none ↔ name ∉ Generator.all.map (·.name) := by
  rw [Generator.ofName?, List.find?_eq_none]
  simp

theorem ofName?_eq_some {generator : Generator} (h : Generator.ofName? name = some generator) :
    generator.name = name := by
  have hname := List.find?_some h
  exact beq_iff_eq.mp hname

theorem ofName?_eq_some_iff {generator : Generator} :
    Generator.ofName? name = some generator ↔
      generator ∈ Generator.all ∧ generator.name = name := by
  constructor
  · intro h
    exact ⟨List.mem_of_find?_eq_some h, ofName?_eq_some h⟩
  · rintro ⟨_, rfl⟩
    cases generator <;> decide

theorem read_eq_error {path : Path} {failure : Failure} (h : view.read path = .error failure) :
    ∃ fault, failure = .file path.text fault := by
  obtain ⟨fault, _, hfailure⟩ := mapError_eq_error_iff.mp h
  exact ⟨fault, hfailure⟩

theorem placeOf_eq_error {failure : Failure} (h : placeOf output view = .error failure) :
    ∃ fault, view.tree.findNew view.cwd output = .error fault ∧
      failure = .file output.text fault :=
  mapError_eq_error_iff.mp h

theorem render_eq_error {document : Schema.Document} {template : String}
    {inputs : Renderer.Inputs} {failure : Failure}
    (h : Renderer.render document template inputs = .error failure) :
    Stage.Reports settings name output .rendering failure := by
  unfold Renderer.render Renderer.renderWithNotes at h
  split at h
  · cases h
    exact .template _
  · dsimp only at h
    split at h
    · cases h
      unfold Renderer.failure
      split
      · exact .undefined _
      · exact .undefined _
      · exact .unsupported _
      · exact .template _
    · cases h

theorem reports_of_failureAt {stage : Stage} {failure : Failure}
    (h : failureAt settings now name output view stage = some failure) :
    stage.Reports settings name output failure := by
  cases stage with
  | name =>
    obtain ⟨_, rfl⟩ := ofName_eq_error_iff.mp (fault?_eq_some_iff.mp h)
    exact .name
  | schemaFile =>
    obtain ⟨generator, _, h⟩ := Option.bind_eq_some_iff.mp h
    obtain ⟨fault, rfl⟩ := read_eq_error (fault?_eq_some_iff.mp h)
    exact .schemaFile generator fault
  | schema =>
    obtain ⟨generator, _, h⟩ := Option.bind_eq_some_iff.mp h
    obtain ⟨text, _, h⟩ := Option.bind_eq_some_iff.mp h
    obtain ⟨reason, rfl⟩ := Schema.Document.ofText_eq_error (fault?_eq_some_iff.mp h)
    exact .schema generator reason
  | templateFile =>
    obtain ⟨generator, _, h⟩ := Option.bind_eq_some_iff.mp h
    obtain ⟨fault, rfl⟩ := read_eq_error (fault?_eq_some_iff.mp h)
    exact .templateFile generator fault
  | rendering =>
    obtain ⟨generator, _, h⟩ := Option.bind_eq_some_iff.mp h
    obtain ⟨document, _, h⟩ := Option.bind_eq_some_iff.mp h
    obtain ⟨template, _, h⟩ := Option.bind_eq_some_iff.mp h
    exact render_eq_error (fault?_eq_some_iff.mp h)
  | output =>
    obtain ⟨fault, _, rfl⟩ := placeOf_eq_error (fault?_eq_some_iff.mp h)
    exact .output fault

/-! ## The first failure -/

theorem firstFailure_of_unknown (h : Generator.ofName? name = none) :
    firstFailure settings now name output view =
      some (.unknownGenerator name Generator.expectedNames) := by
  simp [firstFailure, Stage.all, failureAt, Generator.ofName, h]

theorem firstFailure_of_known {generator : Generator}
    (h : Generator.ofName? name = some generator) :
    firstFailure settings now name output view =
      (fault? (rendered settings now generator view)).or (fault? (placeOf output view)) := by
  have hname : fault? (Generator.ofName name) = none := by rw [Generator.ofName, h]; rfl
  simp only [rendered, View.document, firstFailure, Stage.all, List.findSome?_cons,
    List.findSome?_nil, failureAt, hname, h, Option.bind_eq_bind, Option.bind_some]
  cases view.read (settings.schemaPath generator) with
  | error failure => rfl
  | ok text =>
    simp only [Except.toOption, Option.bind_some, fault?_ok, bind, Except.bind]
    cases Schema.Document.ofText generator.kind text (settings.schemaPath generator).text with
    | error failure => rfl
    | ok document =>
      cases view.read (settings.templatePath generator) with
      | error failure => rfl
      | ok template =>
        simp only [Option.bind_some, fault?_ok]
        cases fault? (placeOf output view) <;>
          cases Renderer.render document template
            ⟨(settings.schemaPath generator).text, settings.yearIn now⟩ <;> rfl

/-! ## What a run does -/

variable {generator : Generator}

theorem run_of_unknown (h : Generator.ofName? name = none) :
    Task.Gives (run settings now name output) view
      (.error (.unknownGenerator name Generator.expectedNames)) := by
  refine Task.Ends.bind_error ?_
  rw [ofName_eq_error_iff.mpr ⟨h, rfl⟩]
  exact Task.gives_ofExcept _

theorem gives_generator (h : Generator.ofName? name = some generator) :
    Task.Gives (Task.ofExcept (Generator.ofName name)) view (.ok generator) := by
  rw [Generator.ofName, h]
  exact Task.gives_ofExcept _

theorem gives_render_of_eq {outcome : Except Failure String}
    (h : rendered settings now generator view = outcome) :
    Task.Gives (render settings now generator) view outcome :=
  h ▸ gives_render settings now generator

theorem run_of_not_rendered {failure : Failure} (hname : Generator.ofName? name = some generator)
    (hrender : rendered settings now generator view = .error failure) :
    Task.Gives (run settings now name output) view (.error failure) :=
  Task.Ends.bind (gives_generator hname) <| Task.Ends.bind (Task.gives_report _ _ _ _) <|
    Task.Ends.bind_error (gives_render_of_eq hrender)

theorem run_of_not_writable {text : String} {fault : FileFault}
    (hname : Generator.ofName? name = some generator)
    (hrender : rendered settings now generator view = .ok text)
    (hfind : view.tree.findNew view.cwd output = .error fault) :
    Task.Gives (run settings now name output) view (.error (.file output.text fault)) :=
  Task.Ends.bind (gives_generator hname) <| Task.Ends.bind (Task.gives_report _ _ _ _) <|
    Task.Ends.bind (gives_render_of_eq hrender) <|
      Task.Ends.bind_error (Task.gives_writeText_of_error text hfind)

theorem run_of_writable {text : String} {place : Location}
    (hname : Generator.ofName? name = some generator)
    (hrender : rendered settings now generator view = .ok text)
    (hfind : view.tree.findNew view.cwd output = .ok place) :
    Task.Ends (run settings now name output) view (.ok ())
      { view with tree := view.tree.set place (.file (.text text)) } :=
  Task.Ends.bind (gives_generator hname) <| Task.Ends.bind (Task.gives_report _ _ _ _) <|
    Task.Ends.bind (gives_render_of_eq hrender) <|
      Task.Ends.bind (Task.ends_writeText text hfind) (Task.gives_report _ _ _ _)

theorem run_of_failure {failure : Failure}
    (h : firstFailure settings now name output view = some failure) :
    Task.Gives (run settings now name output) view (.error failure) := by
  cases hname : Generator.ofName? name with
  | none =>
    rw [firstFailure_of_unknown hname, Option.some.injEq] at h
    exact h ▸ run_of_unknown hname
  | some generator =>
    rw [firstFailure_of_known hname] at h
    cases hrender : rendered settings now generator view with
    | error rendering =>
      rw [hrender, fault?_error, Option.some_or, Option.some.injEq] at h
      exact h ▸ run_of_not_rendered hname hrender
    | ok text =>
      rw [hrender, fault?_ok, Option.none_or] at h
      obtain ⟨fault, hfind, rfl⟩ := placeOf_eq_error (fault?_eq_some_iff.mp h)
      exact run_of_not_writable hname hrender hfind

theorem run_of_no_failure (h : firstFailure settings now name output view = none) :
    ∃ generator text place, Generator.ofName? name = some generator ∧
      rendered settings now generator view = .ok text ∧
      view.tree.findNew view.cwd output = .ok place ∧
      Task.Ends (run settings now name output) view (.ok ())
        { view with tree := view.tree.set place (.file (.text text)) } := by
  cases hname : Generator.ofName? name with
  | none =>
    rw [firstFailure_of_unknown hname] at h
    cases h
  | some generator =>
    rw [firstFailure_of_known hname, Option.or_eq_none_iff] at h
    obtain ⟨text, hrender⟩ := fault?_eq_none_iff.mp h.1
    obtain ⟨place, hplace⟩ := fault?_eq_none_iff.mp h.2
    have hfind := mapError_eq_ok_iff.mp hplace
    exact ⟨generator, text, place, rfl, hrender, hfind, run_of_writable hname hrender hfind⟩

theorem firstFailure_eq_unknown_iff :
    (∃ text expected,
      firstFailure settings now name output view = some (.unknownGenerator text expected)) ↔
        name ∉ Generator.all.map (·.name) := by
  rw [← ofName?_eq_none_iff]
  constructor
  · rintro ⟨text, expected, h⟩
    obtain ⟨stage, _, hstage⟩ := List.exists_of_findSome?_eq_some h
    cases reports_of_failureAt hstage with
    | name => exact (ofName_eq_error_iff.mp (fault?_eq_some_iff.mp hstage)).1
  · intro h
    exact ⟨_, _, firstFailure_of_unknown h⟩

/-- **A run is all or nothing.** It fails for the first stage that does, and then leaves the files
as they were. Otherwise it only changes the file of its output, which then holds what the generator
renders of the files before the run. -/
theorem run_all_or_nothing (settings : Settings) (now : Int) (name : String) (output : Path)
    (view : View) :
    (match firstFailure settings now name output view with
      | some failure =>
        (run settings now name output).doneIn view = (.error failure, view)
      | none => ∃ generator text after,
        generator ∈ Generator.all ∧ generator.name = name ∧
        (render settings now generator).doneIn view = (.ok text, view) ∧
        (run settings now name output).doneIn view = (.ok (), after) ∧
        Written view output text after) ∧
    (∀ stage failure, failureAt settings now name output view stage = some failure →
      stage.Reports settings name output failure) ∧
    ((∃ text expected,
      firstFailure settings now name output view = some (.unknownGenerator text expected)) ↔
        name ∉ Generator.all.map (·.name)) := by
  refine ⟨?_, fun _ _ => reports_of_failureAt, firstFailure_eq_unknown_iff⟩
  cases hfirst : firstFailure settings now name output view with
  | some failure => exact (run_of_failure hfirst).doneIn
  | none =>
    obtain ⟨generator, text, place, hname, hrender, hfind, hrun⟩ := run_of_no_failure hfirst
    exact ⟨generator, text, _, List.mem_of_find?_eq_some hname, ofName?_eq_some hname,
      (gives_render_of_eq hrender).doneIn, hrun.doneIn, written_set text hfind⟩

/-- The inputs of the enumerations, and none of the structures. -/
def sampleView : View :=
  ⟨⟨[(["work"], .directory), (["work", "enum_defs.json"], .file (.text "[]")),
    (["work", "enums.py.hbs"], .file (.text "import enum\n"))]⟩, ["work"]⟩

def sampleSettings : Settings :=
  { Settings.defaults with schemaRoot := ⟨""⟩, templateRoot := ⟨"."⟩ }

/-- A run may write over its own schema. Of an output that has no directory, a run only tells once
there is a text for it. -/
theorem run_all_or_nothing_samples :
    (∃ text after, (render sampleSettings 2024 .enums).doneIn sampleView = (.ok text, sampleView) ∧
      (run sampleSettings 2024 "enums" ⟨"./enum_defs.json"⟩).doneIn sampleView = (.ok (), after) ∧
      Written sampleView ⟨"./enum_defs.json"⟩ text after) ∧
    (run sampleSettings 2024 "structs" ⟨"lost/out.py"⟩).doneIn sampleView =
      (.error (.file "struct_defs.json" .notFound), sampleView) ∧
    Stage.output.Reports sampleSettings "structs" ⟨"lost/out.py"⟩ (.file "lost/out.py" .notFound) := by
  have hnone : firstFailure sampleSettings 2024 "enums" ⟨"./enum_defs.json"⟩ sampleView = none := by
    decide +kernel
  have hsome : firstFailure sampleSettings 2024 "structs" ⟨"lost/out.py"⟩ sampleView =
      some (.file "struct_defs.json" .notFound) := by decide +kernel
  -- The output is at fault as well, but behind the schema.
  have houtput : failureAt sampleSettings 2024 "structs" ⟨"lost/out.py"⟩ sampleView .output =
      some (.file "lost/out.py" .notFound) := by decide +kernel
  have hover := run_all_or_nothing sampleSettings 2024 "enums" ⟨"./enum_defs.json"⟩ sampleView
  have hlost := run_all_or_nothing sampleSettings 2024 "structs" ⟨"lost/out.py"⟩ sampleView
  rw [hnone] at hover
  rw [hsome] at hlost
  obtain ⟨⟨generator, text, after, _, hname, hrender, hrun, hwritten⟩, -⟩ := hover
  refine ⟨⟨text, after, ?_, hrun, hwritten⟩, hlost.1, hlost.2.1 _ _ houtput⟩
  cases generator with
  | enums => exact hrender
  | structs => exact absurd hname (by decide)

end BindingGen.Generation
