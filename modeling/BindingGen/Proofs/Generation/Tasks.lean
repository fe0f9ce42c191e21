import BindingGen.FileTree
import BindingGen.Generation
import BindingGen.Proofs.Outcome

/-!
# What tasks do to files

A task comes to an outcome by the files that are there, and leaves them in some state. Loading and
rendering leave them as they are, and only a write that succeeds changes them.
-/

namespace BindingGen

def FileTree.View.read (view : FileTree.View) (path : Path) : Except Failure String :=
  (view.tree.readText view.cwd path).mapError (.file path.text)

namespace Task

variable {α β : Type} {view : FileTree.View} {task : Task (StateM FileTree.View) α}
  {next : α → Task (StateM FileTree.View) β}

/-- The task comes to an outcome and leaves the files in some state. It only adds to what was
reported. -/
def Ends (task : Task (StateM FileTree.View) α) (before : FileTree.View)
    (outcome : Except Failure α) (after : FileTree.View) : Prop :=
  ∀ notes, ∃ reported, (task.run.run notes).run before = ((outcome, notes ++ reported), after)

/-- The task comes to an outcome without a change to the files. -/
abbrev Gives (task : Task (StateM FileTree.View) α) (view : FileTree.View)
    (outcome : Except Failure α) : Prop :=
  task.Ends view outcome view

/-- What comes of a task in some state of the files: its outcome, and the files after it. -/
def doneIn (task : Task (StateM FileTree.View) α) (view : FileTree.View) :
    Except Failure α × FileTree.View :=
  let ((outcome, _), after) := task.perform.run view
  (outcome, after)

theorem Ends.doneIn {before after : FileTree.View} {outcome : Except Failure α}
    (h : task.Ends before outcome after) : task.doneIn before = (outcome, after) := by
  obtain ⟨reported, hrun⟩ := h []
  change task.perform.run before = _ at hrun
  rw [Task.doneIn, hrun]

theorem Gives.doneIn_eq_iff {outcome : Except Failure α} (h : task.Gives view outcome)
    {value : α} : task.doneIn view = (.ok value, view) ↔ outcome = .ok value := by
  rw [Ends.doneIn h, Prod.mk.injEq]
  exact and_iff_left rfl

theorem run_bind (notes : List Journal.Entry) :
    ((task >>= next).run.run notes).run view =
      match (task.run.run notes).run view with
      | ((.ok value, reported), after) => ((next value).run.run reported).run after
      | ((.error failure, reported), after) => ((.error failure, reported), after) := by
  change StateT.run (StateT.run (ExceptT.run task >>= ExceptT.bindCont next) notes) view = _
  rw [StateT.run_bind, StateT.run_bind]
  rcases StateT.run (StateT.run task.run notes) view with ⟨⟨_ | _, _⟩, _⟩ <;> rfl

theorem Ends.bind {before middle after : FileTree.View} {value : α} {outcome : Except Failure β}
    (h : task.Ends before (.ok value) middle) (hnext : (next value).Ends middle outcome after) :
    (task >>= next).Ends before outcome after := by
  intro notes
  obtain ⟨first, hfirst⟩ := h notes
  obtain ⟨second, hsecond⟩ := hnext (notes ++ first)
  refine ⟨first ++ second, ?_⟩
  rw [run_bind, hfirst, ← List.append_assoc]
  exact hsecond

theorem Ends.bind_error {before after : FileTree.View} {failure : Failure}
    (h : task.Ends before (.error failure) after) :
    (task >>= next).Ends before (.error failure) after := by
  intro notes
  obtain ⟨reported, hrun⟩ := h notes
  refine ⟨reported, ?_⟩
  rw [run_bind, hrun]

theorem Gives.bind {outcome : Except Failure α} {after : α → Except Failure β}
    (h : task.Gives view outcome) (hnext : ∀ value, (next value).Gives view (after value)) :
    (task >>= next).Gives view (outcome >>= after) := by
  cases outcome with
  | error failure => exact Ends.bind_error h
  | ok value => exact Ends.bind h (hnext value)

/-! ## Steps -/

theorem gives_pure (value : α) : Gives (pure value) view (.ok value) :=
  fun notes => ⟨[], by rw [List.append_nil]; rfl⟩

theorem run_report (level : Journal.Level) (origin : Journal.Origin) (message : String)
    (fields : List (String × String)) (notes : List Journal.Entry) :
    ((report level origin message fields : Task (StateM FileTree.View) Unit).run.run notes).run
        view =
      ((.ok (), notes ++ [⟨level, origin, message, fields⟩]), view) := rfl

theorem gives_report (level : Journal.Level) (origin : Journal.Origin) (message : String)
    (fields : List (String × String)) :
    Gives (report level origin message fields) view (.ok ()) :=
  fun _ => ⟨_, rfl⟩

theorem gives_ofExcept (outcome : Except Failure α) : Gives (ofExcept outcome) view outcome :=
  fun notes => ⟨[], by rw [List.append_nil]; rfl⟩

theorem gives_readText (path : Path) : Gives (readText path) view (view.read path) :=
  fun notes => ⟨[], by rw [List.append_nil]; rfl⟩

theorem gives_isFile (path : Path) :
    Gives (FileStore.isFile path : StateM FileTree.View Bool) view
      (.ok (view.tree.isFile view.cwd path)) :=
  fun notes => ⟨[], by rw [List.append_nil]; rfl⟩

theorem run_onFile {γ : Type} (path : Path) (step : StateM FileTree.View (Except FileFault γ))
    (notes : List Journal.Entry) :
    ((onFile path step).run.run notes).run view =
      (((step.run view).1.mapError (.file path.text), notes), (step.run view).2) := rfl

theorem run_writeText (path : Path) (text : String) (notes : List Journal.Entry) :
    ((writeText path text : Task (StateM FileTree.View) Unit).run.run notes).run view =
      match view.tree.write view.cwd path (.text text) with
      | .ok tree => ((.ok (), notes), { view with tree })
      | .error fault => ((.error (.file path.text fault), notes), view) := by
  have hstore : (FileStore.writeText path text : StateM FileTree.View _).run view =
      match view.tree.write view.cwd path (.text text) with
      | .ok tree => (.ok (), { view with tree })
      | .error fault => (.error fault, view) := by
    change StateT.run (get >>= _) view = _
    rw [StateT.run_bind]
    change StateT.run (match view.tree.write view.cwd path (.text text) with
      | .ok tree => _
      | .error fault => _) view = _
    cases view.tree.write view.cwd path (.text text) <;> rfl
  rw [writeText, run_onFile, hstore]
  cases view.tree.write view.cwd path (.text text) <;> rfl

theorem ends_writeText {path : Path} {place : Location} (text : String)
    (h : view.tree.findNew view.cwd path = .ok place) :
    Ends (writeText path text) view (.ok ())
      { view with tree := view.tree.set place (.file (.text text)) } := by
  intro notes
  refine ⟨[], ?_⟩
  rw [run_writeText, FileTree.write, h, List.append_nil]
  rfl

theorem gives_writeText_of_error {path : Path} {fault : FileFault} (text : String)
    (h : view.tree.findNew view.cwd path = .error fault) :
    Gives (writeText path text) view (.error (.file path.text fault)) := by
  intro notes
  refine ⟨[], ?_⟩
  rw [run_writeText, FileTree.write, h, List.append_nil]
  rfl

end Task

variable {view : FileTree.View}

/-! ## Settings -/

namespace Settings

/-- The settings of a directory, by the files that are there. -/
def discovered (root : Path) (view : FileTree.View) : Except Failure Settings :=
  let path := root.join ⟨fileName⟩
  if view.tree.isFile view.cwd path then do
    let text ← view.read path
    let settings ← readFile path text
    return settings.relativeTo (path.parent?.getD ⟨""⟩)
  else .ok (defaults.relativeTo root)

theorem gives_load (path : Path) :
    Task.Gives (load path) view (do
      let text ← view.read path
      let settings ← readFile path text
      return settings.relativeTo (path.parent?.getD ⟨""⟩)) :=
  (Task.gives_readText path).bind fun text =>
    (Task.gives_ofExcept (readFile path text)).bind fun _ => Task.gives_pure _

theorem gives_discover (root : Path) : Task.Gives (discover root) view (discovered root view) := by
  refine Task.Ends.bind (Task.gives_isFile _) ?_
  unfold discovered
  dsimp only
  cases view.tree.isFile view.cwd (root.join ⟨fileName⟩) with
  | true => exact gives_load _
  | false => exact Task.gives_pure _

end Settings

/-! ## Documents -/

def FileTree.View.document (view : FileTree.View) (kind : Schema.Kind) (path : Path) :
    Except Failure Schema.Document := do
  Schema.Document.ofText kind (← view.read path) path.text

theorem Schema.Document.gives_load (kind : Schema.Kind) (path : Path) :
    Task.Gives (Document.load kind path) view (view.document kind path) := by
  have h : Task.Gives (Document.load kind path) view
      (view.read path >>= fun text => Document.ofText kind text path.text >>= pure) :=
    (Task.gives_readText path).bind fun text =>
      (Task.gives_ofExcept (Document.ofText kind text path.text)).bind fun document =>
        (Task.gives_report _ _ _ _).bind fun _ => Task.gives_pure document
  simp only [bind_pure] at h
  exact h

/-! ## Renderings -/

namespace Generation

theorem gives_renderDocument (document : Schema.Document) (template : String)
    (inputs : Renderer.Inputs) :
    Task.Gives (renderDocument document template inputs) view
      (Renderer.render document template inputs) :=
  fun _ => ⟨_, rfl⟩

/-- The text that a generator makes of the files that are there. -/
def rendered (settings : Settings) (now : Int) (generator : Generator) (view : FileTree.View) :
    Except Failure String := do
  let document ← view.document generator.kind (settings.schemaPath generator)
  let template ← view.read (settings.templatePath generator)
  Renderer.render document template
    ⟨(settings.schemaPath generator).text, settings.yearIn now⟩

theorem gives_render (settings : Settings) (now : Int) (generator : Generator) :
    Task.Gives (render settings now generator) view (rendered settings now generator view) :=
  (Task.gives_report _ _ _ _).bind fun _ =>
    (Schema.Document.gives_load _ _).bind fun document =>
      (Task.gives_readText _).bind fun template => gives_renderDocument document template _

end Generation

end BindingGen
