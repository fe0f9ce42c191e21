import BindingGen.Proofs.FileTree.Directories
import BindingGen.Proofs.Generation.Run
import Mathlib.Data.List.Pairwise

/-!
# Runs in a series

Runs that spare the inputs of the generators do not disturb each other. Before every run each
generator renders the same, and in the end a file holds what the last run that wrote it renders of
the files before the first one.
-/

namespace BindingGen

def Settings.inputs (settings : Settings) : List Path :=
  Generator.all.flatMap fun generator =>
    [settings.schemaPath generator, settings.templatePath generator]

/-- Whether two paths name the same file, which need not be there yet. -/
def FileTree.View.sameFile (view : FileTree.View) (a b : Path) : Bool :=
  match view.tree.findNew view.cwd a, view.tree.findNew view.cwd b with
  | .ok place, .ok other => place == other
  | _, _ => false

/-- Every place has the same node, and relative paths start in the same directory. -/
structure FileTree.SameFiles (before after : FileTree.View) : Prop where
  cwd : after.cwd = before.cwd
  node? : ∀ place, after.tree.node? place = before.tree.node? place

namespace Generation

open FileTree

/-! ## Calls -/

structure Call where
  name : String
  output : Path
  deriving DecidableEq, Repr

variable (settings : Settings) (now : Int)

def Call.doneIn (view : View) (call : Call) : Except Failure Unit × View :=
  (run settings now call.name call.output).doneIn view

/-- The place that a call writes, if it succeeds. -/
def Call.target? (view : View) (call : Call) : Option Location :=
  match (call.doneIn settings now view).1, view.tree.findNew view.cwd call.output with
  | .ok (), .ok place => some place
  | _, _ => none

/-- The files after a series of calls, of which each is made whatever came of those before it. -/
def viewAfter (view : View) (calls : List Call) : View :=
  calls.foldl (fun view call => (call.doneIn settings now view).2) view

/-- The last call of a series that writes a place. -/
def lastWriter? (place : Location) (view : View) : List Call → Option Call
  | [] => none
  | call :: rest =>
    (lastWriter? place (call.doneIn settings now view).2 rest).or
      (if call.target? settings now view = some place then some call else none)

/-- No output of a series is a file that the generators read. -/
def Spares (view : View) (calls : List Call) : Prop :=
  ∀ call ∈ calls, ∀ input ∈ settings.inputs, view.sameFile call.output input = false

instance (view : View) (calls : List Call) : Decidable (Spares settings view calls) :=
  inferInstanceAs (Decidable (∀ call ∈ calls, ∀ input ∈ settings.inputs,
    view.sameFile call.output input = false))

variable {settings now} {view : View} {call : Call} {place : Location}

theorem doneIn_of_rendered {generator : Generator} {text : String}
    (hname : Generator.ofName? call.name = some generator)
    (hrender : rendered settings now generator view = .ok text)
    (hfind : view.tree.findNew view.cwd call.output = .ok place) :
    call.doneIn settings now view =
      (.ok (), { view with tree := view.tree.set place (.file (.text text)) }) :=
  (run_of_writable hname hrender hfind).doneIn

def Call.Renders (settings : Settings) (now : Int) (view : View) (call : Call) (text : String) :
    Prop :=
  ∃ generator, Generator.ofName? call.name = some generator ∧
    rendered settings now generator view = .ok text

theorem target?_eq_some_iff :
    call.target? settings now view = some place ↔
      (∃ text, call.Renders settings now view text) ∧
        view.tree.findNew view.cwd call.output = .ok place := by
  constructor
  · intro h
    unfold Call.target? at h
    split at h
    · rename_i found hdone hfind
      cases h
      cases hfirst : firstFailure settings now call.name call.output view with
      | some failure =>
        rw [Call.doneIn, (run_of_failure hfirst).doneIn] at hdone
        cases hdone
      | none =>
        obtain ⟨generator, text, _, hname, hrender, _, _⟩ := run_of_no_failure hfirst
        exact ⟨⟨text, generator, hname, hrender⟩, hfind⟩
    · cases h
  · rintro ⟨⟨text, generator, hname, hrender⟩, hfind⟩
    rw [Call.target?, doneIn_of_rendered hname hrender hfind, hfind]

theorem doneIn_of_target {text : String} (h : call.target? settings now view = some place)
    (htext : call.Renders settings now view text) :
    call.doneIn settings now view =
      (.ok (), { view with tree := view.tree.set place (.file (.text text)) }) := by
  obtain ⟨generator, hname, hrender⟩ := htext
  exact doneIn_of_rendered hname hrender (target?_eq_some_iff.mp h).2

theorem doneIn_of_no_target (h : call.target? settings now view = none) :
    (call.doneIn settings now view).2 = view := by
  cases hfirst : firstFailure settings now call.name call.output view with
  | some failure => rw [Call.doneIn, (run_of_failure hfirst).doneIn]
  | none =>
    obtain ⟨generator, text, place, hname, hrender, hfind, _⟩ := run_of_no_failure hfirst
    have hwrites := target?_eq_some_iff.mpr ⟨⟨text, generator, hname, hrender⟩, hfind⟩
    rw [h] at hwrites
    cases hwrites

theorem free_of_target (h : call.target? settings now view = some place) :
    view.tree.isDirectory place = false := by
  obtain ⟨parent, name, rfl, hwritable⟩ := writable_of_findNew (target?_eq_some_iff.mp h).2
  exact hwritable.free

theorem node?_doneIn_of_ne (h : call.target? settings now view ≠ some place) :
    (call.doneIn settings now view).2.tree.node? place = view.tree.node? place := by
  cases htarget : call.target? settings now view with
  | none => rw [doneIn_of_no_target htarget]
  | some written =>
    obtain ⟨⟨text, htext⟩, _⟩ := target?_eq_some_iff.mp htarget
    rw [doneIn_of_target htarget htext]
    apply node?_set_of_ne
    rintro rfl
    exact h htarget

theorem node?_doneIn_self {text : String} (h : call.target? settings now view = some place)
    (htext : call.Renders settings now view text) :
    (call.doneIn settings now view).2.tree.node? place = some (.file (.text text)) := by
  rw [doneIn_of_target h htext]
  exact node?_set_self (ne_root_of_free (free_of_target h))

/-! ## Inputs -/

theorem mem_inputs {input : Path} :
    input ∈ settings.inputs ↔
      ∃ generator, input = settings.schemaPath generator ∨
        input = settings.templatePath generator := by
  simp only [Settings.inputs, List.mem_flatMap, List.mem_cons, List.not_mem_nil, or_false]
  constructor
  · rintro ⟨generator, _, hinput⟩
    exact ⟨generator, hinput⟩
  · rintro ⟨generator, hinput⟩
    refine ⟨generator, ?_, hinput⟩
    cases generator <;> decide

theorem isFileName_schemaFile (generator : Generator) : IsFileName generator.schemaFile := by
  cases generator <;> exact ⟨⟨by decide, by decide⟩, by decide, by decide, by decide⟩

theorem isFileName_templateFile (generator : Generator) : IsFileName generator.templateFile := by
  cases generator <;> exact ⟨⟨by decide, by decide⟩, by decide, by decide, by decide⟩

/-- Once a generator has rendered, both directories of inputs are there. -/
theorem opened_of_rendered {generator : Generator} {text : String}
    (h : rendered settings now generator view = .ok text) :
    view.tree.Opened view.cwd settings.schemaRoot ∧
      view.tree.Opened view.cwd settings.templateRoot := by
  rw [rendered] at h
  obtain ⟨document, hdocument, h⟩ := bind_eq_ok_iff.mp h
  obtain ⟨template, htemplate, _⟩ := bind_eq_ok_iff.mp h
  obtain ⟨schema, hschema, _⟩ := bind_eq_ok_iff.mp hdocument
  exact ⟨opened_of_readText (isFileName_schemaFile generator) (mapError_eq_ok_iff.mp hschema),
    opened_of_readText (isFileName_templateFile generator) (mapError_eq_ok_iff.mp htemplate)⟩

theorem sameFile_iff {a b : Path} :
    view.sameFile a b = true ↔
      ∃ place, view.tree.findNew view.cwd a = .ok place ∧
        view.tree.findNew view.cwd b = .ok place := by
  unfold View.sameFile
  split
  · rename_i place other ha hb
    rw [beq_iff_eq, ha, hb]
    constructor
    · rintro rfl
      exact ⟨place, rfl, rfl⟩
    · rintro ⟨_, ⟨⟩, ⟨⟩⟩
      rfl
  · rename_i hnone
    simp only [Bool.false_eq_true, false_iff]
    rintro ⟨place, ha, hb⟩
    exact hnone place place ha hb

/-! ## One call -/

/-- Files that differ in no directory and in no input. -/
structure Steady (settings : Settings) (before after : View) : Prop where
  cwd : after.cwd = before.cwd
  directories : SameDirectories before.tree after.tree
  inputs : ∀ input ∈ settings.inputs, after.read input = before.read input

theorem Steady.refl (view : View) : Steady settings view view :=
  ⟨rfl, fun _ => Iff.rfl, fun _ _ => rfl⟩

variable {before middle after : View}

theorem Steady.trans (h : Steady settings before middle) (h' : Steady settings middle after) :
    Steady settings before after :=
  ⟨h'.cwd.trans h.cwd, fun place => (h.directories place).trans (h'.directories place),
    fun input hinput => (h'.inputs input hinput).trans (h.inputs input hinput)⟩

theorem Steady.rendered_eq (h : Steady settings before after) (generator : Generator) :
    rendered settings now generator after = rendered settings now generator before := by
  have hschema := h.inputs _ (mem_inputs.mpr ⟨generator, Or.inl rfl⟩)
  have htemplate := h.inputs _ (mem_inputs.mpr ⟨generator, Or.inr rfl⟩)
  simp only [rendered, View.document, hschema, htemplate]

theorem Steady.findNew_iff (h : Steady settings before after) (path : Path) :
    after.tree.findNew after.cwd path = .ok place ↔
      before.tree.findNew before.cwd path = .ok place := by
  rw [h.cwd]
  exact (findNew_eq_ok_iff h.directories).symm

theorem Steady.renders_iff (h : Steady settings before after) {text : String} :
    call.Renders settings now after text ↔ call.Renders settings now before text := by
  simp only [Call.Renders, h.rendered_eq]

theorem Steady.target?_eq (h : Steady settings before after) (call : Call) :
    call.target? settings now after = call.target? settings now before := by
  apply Option.ext
  intro place
  simp only [target?_eq_some_iff, h.renders_iff, h.findNew_iff]

theorem Steady.sameFile_eq (h : Steady settings before after) (a b : Path) :
    after.sameFile a b = before.sameFile a b := by
  rw [Bool.eq_iff_iff]
  simp only [sameFile_iff, h.findNew_iff]

theorem Steady.spares (h : Steady settings before after) {calls : List Call}
    (hspares : Spares settings before calls) : Spares settings after calls := by
  intro call hcall input hinput
  rw [h.sameFile_eq]
  exact hspares call hcall input hinput

variable (now) in
theorem steady_call (h : ∀ input ∈ settings.inputs, view.sameFile call.output input = false) :
    Steady settings view (call.doneIn settings now view).2 := by
  cases htarget : call.target? settings now view with
  | none =>
    rw [doneIn_of_no_target htarget]
    exact Steady.refl view
  | some place =>
    obtain ⟨⟨text, htext⟩, hfind⟩ := target?_eq_some_iff.mp htarget
    have hfree := free_of_target htarget
    rw [doneIn_of_target htarget htext]
    obtain ⟨_, _, hrender⟩ := htext
    obtain ⟨hschemas, htemplates⟩ := opened_of_rendered hrender
    refine ⟨rfl, sameDirectories_set hfree, ?_⟩
    intro input hinput
    have hne : view.tree.findNew view.cwd input ≠ .ok place := by
      intro hsame
      have hspared := h input hinput
      rw [sameFile_iff.mpr ⟨place, hfind, hsame⟩] at hspared
      cases hspared
    have hsame : (view.tree.set place (.file (.text text))).readText view.cwd input =
        view.tree.readText view.cwd input := by
      obtain ⟨generator, rfl | rfl⟩ := mem_inputs.mp hinput
      · exact hschemas.readText_set (isFileName_schemaFile generator) hfree hne
      · exact htemplates.readText_set (isFileName_templateFile generator) hfree hne
    exact congrArg (Except.mapError _) hsame

/-! ## A series of calls -/

variable {calls others : List Call}

theorem viewAfter_cons (call : Call) (calls : List Call) :
    viewAfter settings now view (call :: calls) =
      viewAfter settings now (call.doneIn settings now view).2 calls := rfl

variable (now) in
theorem Spares.head (h : Spares settings view (call :: calls)) :
    Steady settings view (call.doneIn settings now view).2 :=
  steady_call now fun input hinput => h call List.mem_cons_self input hinput

variable (now) in
theorem Spares.tail (h : Spares settings view (call :: calls)) :
    Spares settings (call.doneIn settings now view).2 calls :=
  (h.head now).spares fun later hlater => h later (List.mem_cons_of_mem call hlater)

variable (now) in
theorem steady_viewAfter (h : Spares settings view calls) :
    Steady settings view (viewAfter settings now view calls) := by
  induction calls generalizing view with
  | nil => exact Steady.refl view
  | cons call rest ih => exact (h.head now).trans (ih (h.tail now))

theorem lastWriter?_some (h : Spares settings view calls)
    (hlast : lastWriter? settings now place view calls = some call) :
    call ∈ calls ∧ call.target? settings now view = some place := by
  induction calls generalizing view with
  | nil => cases hlast
  | cons first rest ih =>
    rw [lastWriter?, Option.or_eq_some_iff] at hlast
    rcases hlast with hlast | ⟨_, hfirst⟩
    · obtain ⟨hmem, htarget⟩ := ih (h.tail now) hlast
      rw [(h.head now).target?_eq] at htarget
      exact ⟨List.mem_cons_of_mem first hmem, htarget⟩
    · split at hfirst
      · cases hfirst
        exact ⟨List.mem_cons_self, ‹_›⟩
      · cases hfirst

theorem lastWriter?_none (h : Spares settings view calls)
    (hlast : lastWriter? settings now place view calls = none) :
    ∀ call ∈ calls, call.target? settings now view ≠ some place := by
  induction calls generalizing view with
  | nil => simp
  | cons first rest ih =>
    rw [lastWriter?, Option.or_eq_none_iff] at hlast
    intro call hcall htarget
    rcases List.mem_cons.mp hcall with rfl | hcall
    · rw [if_pos htarget] at hlast
      cases hlast.2
    · rw [← (h.head now).target?_eq] at htarget
      exact ih (h.tail now) hlast.1 call hcall htarget

theorem node?_of_no_writer (h : Spares settings view calls)
    (hlast : lastWriter? settings now place view calls = none) :
    (viewAfter settings now view calls).tree.node? place = view.tree.node? place := by
  induction calls generalizing view with
  | nil => rfl
  | cons call rest ih =>
    have hcall := lastWriter?_none h hlast call List.mem_cons_self
    rw [lastWriter?, Option.or_eq_none_iff] at hlast
    rw [viewAfter_cons, ih (h.tail now) hlast.1, node?_doneIn_of_ne hcall]

/-- A place holds what the last call that wrote it makes of the first files. -/
theorem node?_of_writer (h : Spares settings view calls)
    (hlast : lastWriter? settings now place view calls = some call) :
    ∃ text, call.Renders settings now view text ∧
      (viewAfter settings now view calls).tree.node? place = some (.file (.text text)) := by
  induction calls generalizing view with
  | nil => cases hlast
  | cons first rest ih =>
    rw [lastWriter?, Option.or_eq_some_iff] at hlast
    rw [viewAfter_cons]
    rcases hlast with hlast | ⟨hrest, hfirst⟩
    · obtain ⟨text, htext, hnode⟩ := ih (h.tail now) hlast
      exact ⟨text, (h.head now).renders_iff.mp htext, hnode⟩
    · split at hfirst
      · rename_i htarget
        cases hfirst
        obtain ⟨⟨text, htext⟩, _⟩ := target?_eq_some_iff.mp htarget
        refine ⟨text, htext, ?_⟩
        rw [node?_of_no_writer (h.tail now) hrest, node?_doneIn_self htarget htext]
      · cases hfirst

theorem Call.Renders.unique {text other : String} (h : call.Renders settings now view text)
    (hother : call.Renders settings now view other) : other = text := by
  obtain ⟨generator, hname, hrender⟩ := h
  obtain ⟨found, hfound, hrendered⟩ := hother
  rw [hname] at hfound
  cases hfound
  rw [hrender] at hrendered
  exact (Except.ok.inj hrendered).symm

/-- Doing the last call on a place once more succeeds and changes nothing. -/
theorem sameFiles_doneIn (h : Spares settings view calls)
    (hlast : lastWriter? settings now place view calls = some call) :
    (call.doneIn settings now (viewAfter settings now view calls)).1 = .ok () ∧
      SameFiles (viewAfter settings now view calls)
        (call.doneIn settings now (viewAfter settings now view calls)).2 := by
  obtain ⟨_, htarget⟩ := lastWriter?_some h hlast
  obtain ⟨text, htext, hnode⟩ := node?_of_writer h hlast
  have hsteady := steady_viewAfter now h
  rw [← hsteady.target?_eq] at htarget
  rw [← hsteady.renders_iff] at htext
  rw [doneIn_of_target htarget htext]
  refine ⟨rfl, rfl, ?_⟩
  intro other
  by_cases hother : other = place
  · subst hother
    rw [node?_set_self (ne_root_of_free (free_of_target htarget)), hnode]
  · exact node?_set_of_ne hother

/-- Two calls write different places, or one of them none. -/
def Apart (settings : Settings) (now : Int) (view : View) (call other : Call) : Prop :=
  ∀ place ∈ call.target? settings now view, other.target? settings now view ≠ some place

instance (call other : Call) : Decidable (Apart settings now view call other) :=
  inferInstanceAs (Decidable (∀ place ∈ call.target? settings now view,
    other.target? settings now view ≠ some place))

instance : Std.Symm (Apart settings now view) where
  symm _ _ h place hother hcall := h place hcall hother

theorem lastWriter?_perm (h : Spares settings view calls) (horder : others.Perm calls)
    (hapart : calls.Pairwise (Apart settings now view)) (place : Location) :
    lastWriter? settings now place view others = lastWriter? settings now place view calls := by
  have hothers : Spares settings view others :=
    fun call hcall => h call (horder.mem_iff.mp hcall)
  cases hlast : lastWriter? settings now place view calls with
  | none =>
    cases hother : lastWriter? settings now place view others with
    | none => rfl
    | some other =>
      obtain ⟨hmem, htarget⟩ := lastWriter?_some hothers hother
      exact absurd htarget (lastWriter?_none h hlast other (horder.mem_iff.mp hmem))
  | some call =>
    obtain ⟨hmem, htarget⟩ := lastWriter?_some h hlast
    cases hother : lastWriter? settings now place view others with
    | none =>
      exact absurd htarget (lastWriter?_none hothers hother call (horder.mem_iff.mpr hmem))
    | some other =>
      obtain ⟨hfound, hwrites⟩ := lastWriter?_some hothers hother
      -- Two different calls with the same place are not apart.
      by_cases heq : other = call
      · rw [heq]
      · exact absurd htarget (hapart.forall (horder.mem_iff.mp hfound) hmem heq place hwrites)

theorem sameFiles_perm (h : Spares settings view calls) (horder : others.Perm calls)
    (hapart : calls.Pairwise (Apart settings now view)) :
    SameFiles (viewAfter settings now view calls) (viewAfter settings now view others) := by
  have hothers : Spares settings view others :=
    fun call hcall => h call (horder.mem_iff.mp hcall)
  refine ⟨(steady_viewAfter now hothers).cwd.trans (steady_viewAfter now h).cwd.symm, ?_⟩
  intro place
  have hsame := lastWriter?_perm h horder hapart place
  cases hlast : lastWriter? settings now place view calls with
  | none => rw [node?_of_no_writer h hlast, node?_of_no_writer hothers (hsame.trans hlast)]
  | some call =>
    obtain ⟨text, htext, hnode⟩ := node?_of_writer h hlast
    obtain ⟨other, hother, hnode'⟩ := node?_of_writer hothers (hsame.trans hlast)
    rw [hnode, hnode', htext.unique hother]

/-- **Runs are reproducible and independent of their order.** Before each of a series of runs that
spare the inputs, and after the last one, every generator renders what it renders of the first
files. In the end a place is as it was before the first run, or holds what the last run that wrote
it renders of the first files, and doing that run once more changes nothing. Runs that write
different places can be made in any order. -/
theorem series_reproducible (settings : Settings) (now : Int) (view : View) (calls : List Call)
    (h : Spares settings view calls) :
    (∀ front rest, calls = front ++ rest → ∀ generator,
      ((render settings now generator).doneIn (viewAfter settings now view front)).1 =
        ((render settings now generator).doneIn view).1) ∧
    (∀ place, lastWriter? settings now place view calls = none →
      (viewAfter settings now view calls).tree.node? place = view.tree.node? place) ∧
    (∀ place call, lastWriter? settings now place view calls = some call →
      ∃ generator ∈ Generator.all, generator.name = call.name ∧
        ∃ text, (render settings now generator).doneIn view = (.ok text, view) ∧
          (viewAfter settings now view calls).tree.node? place = some (.file (.text text)) ∧
          (call.doneIn settings now (viewAfter settings now view calls)).1 = .ok () ∧
          SameFiles (viewAfter settings now view calls)
            (call.doneIn settings now (viewAfter settings now view calls)).2) ∧
    (∀ others : List Call, others.Perm calls → calls.Pairwise (Apart settings now view) →
      SameFiles (viewAfter settings now view calls) (viewAfter settings now view others)) := by
  refine ⟨?_, fun place => node?_of_no_writer h, ?_, fun others => sameFiles_perm h⟩
  · intro front rest hfront generator
    have hspares : Spares settings view front :=
      fun call hcall => h call (hfront ▸ List.mem_append_left rest hcall)
    rw [(gives_render settings now generator).doneIn, (gives_render settings now generator).doneIn,
      (steady_viewAfter now hspares).rendered_eq]
  · intro place call hlast
    obtain ⟨text, ⟨generator, hname, hrender⟩, hnode⟩ := node?_of_writer h hlast
    exact ⟨generator, List.mem_of_find?_eq_some hname, ofName?_eq_some hname, text,
      (gives_render_of_eq hrender).doneIn, hnode, sameFiles_doneIn h hlast⟩

/-- Two files from one generator, and a run in between whose schema is missing. -/
def sampleCalls : List Call :=
  [⟨"enums", ⟨"out.py"⟩⟩, ⟨"structs", ⟨"out.py"⟩⟩, ⟨"enums", ⟨"./other.py"⟩⟩]

theorem sampleCalls_reproducible :
    Spares sampleSettings sampleView sampleCalls ∧
    (∃ text, (render sampleSettings 2024 .enums).doneIn sampleView = (.ok text, sampleView) ∧
      (viewAfter sampleSettings 2024 sampleView sampleCalls).tree.node? ["work", "out.py"] =
        some (.file (.text text))) ∧
    SameFiles (viewAfter sampleSettings 2024 sampleView sampleCalls)
      (viewAfter sampleSettings 2024 sampleView sampleCalls.reverse) := by
  have hspares : Spares sampleSettings sampleView sampleCalls := by decide +kernel
  obtain ⟨_, _, hwritten, hordered⟩ := series_reproducible sampleSettings 2024 sampleView
    sampleCalls hspares
  have hapart : sampleCalls.Pairwise (Apart sampleSettings 2024 sampleView) := by decide +kernel
  refine ⟨hspares, ?_, hordered _ (List.reverse_perm _) hapart⟩
  have hlast : lastWriter? sampleSettings 2024 ["work", "out.py"] sampleView sampleCalls =
      some ⟨"enums", ⟨"out.py"⟩⟩ := by decide +kernel
  obtain ⟨generator, _, hname, text, hrender, hnode, _⟩ := hwritten _ _ hlast
  cases generator with
  | enums => exact ⟨text, hrender, hnode⟩
  | structs => exact absurd hname (by decide)

end Generation

end BindingGen
