import BindingGen.CommandLine
import BindingGen.Proofs.Settings
import BindingGen.Proofs.ShippedTemplate.Numbering
import BindingGen.Proofs.Text.Quoted
import Mathlib.Control.Monad.Basic

/-!
# The command line

What a caller sees of a run: how the program exits, which of the two streams tells what went wrong,
and which file has changed.
-/

namespace BindingGen

open FileTree

variable {root : Path} {view : View} {failure : Failure}

/-! ## Failures -/

namespace Failure

theorem isUserError_eq_true_iff :
    failure.isUserError = true ↔ ∃ text expected, failure = .unknownGenerator text expected := by
  cases failure <;> simp [isUserError]

theorem message_unknownGenerator (name expected : String) :
    (unknownGenerator name expected).message ++ "\n" =
      "Undefined generator: '" ++ name ++ "' (expected one of: " ++ expected ++ ")\n" := by
  have hend : ")" ++ "\n" = ")\n" := by decide
  change "Undefined generator: '" ++ name ++ "' (expected one of: " ++ expected ++ ")" ++ "\n" = _
  rw [String.append_assoc, hend]

end Failure

namespace CommandLine

/-! ## Arguments -/

section Arguments

variable {name output argument : String} {held rest : List String}

theorem parseFrom_value (hheld : held.length < 2) (h : argument.toList.head? ≠ some '-') :
    parseFrom held false (argument :: rest) = parseFrom (held ++ [argument]) false rest := by
  have hoption : ∀ option, argument.toList ≠ '-' :: option := by
    intro option hdash
    rw [hdash] at h
    exact h rfl
  rw [parseFrom]
  simp only [Bool.false_eq_true, if_false, if_pos hheld]
  split
  · exact absurd ‹_› (hoption _)
  · exact absurd ‹_› (hoption _)
  · exact absurd ‹_› (hoption _)
  · rfl

theorem parse_pair (hname : name.toList.head? ≠ some '-')
    (houtput : output.toList.head? ≠ some '-') (hempty : output ≠ "") :
    parse [name, output] = .generate name ⟨output⟩ := by
  rw [parse, parseFrom_value (by decide) hname, parseFrom_value (by simp) houtput, parseFrom]
  have haccepted : refusal? [name, output] = none := by
    unfold refusal?
    split
    · rename_i hlast
      cases hlast
      exact absurd rfl hempty
    · rfl
  simp only [List.nil_append, List.cons_append, ofPositionals, haccepted]

end Arguments

/-! ## Journals -/

def EndsLine (text : String) : Prop := text = "" ∨ ∃ line, text = line ++ "\n"

theorem endsLine_journalText (filter : Journal.Filter) (entries : List Journal.Entry) :
    EndsLine (journalText filter entries) := by
  rw [journalText]
  induction entries.filter filter.passes with
  | nil => exact Or.inl rfl
  | cons entry rest ih =>
    rw [List.map_cons, String.join_cons]
    rcases ih with hrest | ⟨line, hrest⟩
    · rw [hrest, String.append_empty]
      exact Or.inr ⟨_, rfl⟩
    · rw [hrest, ← String.append_assoc]
      exact Or.inr ⟨_, rfl⟩

/-- A line of standard error reports an error in this way. -/
def ReportsError (stderr report : String) : Prop :=
  ∃ front behind, EndsLine front ∧ stderr = front ++ "error: " ++ report ++ behind

theorem reportsError_errorLine {journal : String} (h : EndsLine journal) (failure : Failure) :
    ReportsError (journal ++ errorLine failure) failure.message := by
  obtain ⟨behind, hline⟩ : ∃ behind, errorLine failure = "error: " ++ failure.message ++ behind :=
    ⟨_, String.append_assoc⟩
  refine ⟨journal, behind, h, ?_⟩
  rw [hline]
  simp only [String.append_assoc]

theorem not_reportsError_empty (report : String) : ¬ReportsError "" report := by
  rintro ⟨front, behind, _, heq⟩
  have hchars := congrArg String.toList heq
  simp at hchars

theorem nil_of_single_line {line before rest : List Char} (hline : '\n' ∉ line)
    (h : line ++ ['\n'] = before ++ '\n' :: rest) : rest = [] := by
  induction before generalizing line with
  | nil =>
    cases line with
    | nil => exact (List.cons.inj h).2.symm
    | cons c line =>
      obtain ⟨rfl, _⟩ := List.cons.inj h
      exact absurd List.mem_cons_self hline
  | cons c before ih =>
    cases line with
    | nil => simp at h
    | cons first line =>
      exact ih (fun hmem => hline (List.mem_cons_of_mem first hmem)) (List.cons.inj h).2

theorem not_reportsError_line {line : String} {c : Char} (hline : '\n' ∉ line.toList)
    (hstart : line.toList.head? = some c) (hc : c ≠ 'e') (report : String) :
    ¬ReportsError (line ++ "\n") report := by
  rintro ⟨front, behind, hfront, heq⟩
  have hchars := congrArg String.toList heq
  rcases hfront with rfl | ⟨before, rfl⟩
  · have hhead := congrArg List.head? hchars
    simp [hstart] at hhead
    exact hc hhead
  · -- Behind the only newline nothing is left for a report.
    simp only [String.toList_append, List.append_assoc] at hchars
    have hnothing := nil_of_single_line hline hchars
    simp at hnothing

/-! ## Outcomes -/

/-- The first entry of every run that has settings. -/
def settingsEntry (settings : Settings) (now : Int) : Journal.Entry :=
  ⟨.debug, .program, "Resolved generator config", [("config", settingsText settings now)]⟩

theorem newline_notMem_settingsText (settings : Settings) (now : Int) :
    '\n' ∉ (settingsText settings now).toList := by
  unfold settingsText
  simp only [String.toList_append, List.mem_append, not_or, Text.newline_notMem_quoted,
    ShippedTemplate.newline_notMem_toString, not_false_eq_true, and_true]
  decide

theorem line_settingsEntry (settings : Settings) (now : Int) :
    (settingsEntry settings now).line =
      "DEBUG Resolved generator config config=" ++ settingsText settings now := by
  have hlevel : Journal.Level.debug.label = "DEBUG" := by decide
  have hmessage : String.ofList ("Resolved generator config".toList.flatMap Journal.visibleChar) =
      "Resolved generator config" := by decide
  simp only [Journal.Entry.line, settingsEntry, hlevel, hmessage, List.map_cons, List.map_nil,
    String.join_cons, String.join_nil, String.append_empty, ← String.append_assoc,
    String.reduceAppend]

theorem not_reportsError_settingsEntry (filter : Journal.Filter) (settings : Settings) (now : Int)
    (report : String) : ¬ReportsError (journalText filter [settingsEntry settings now]) report := by
  unfold journalText
  by_cases hpasses : filter.passes (settingsEntry settings now) = true
  · have hline : '\n' ∉ (settingsEntry settings now).line.toList := by
      rw [line_settingsEntry, String.toList_append, List.mem_append, not_or]
      exact ⟨by decide, newline_notMem_settingsText settings now⟩
    have hstart : (settingsEntry settings now).line.toList.head? = some 'D' := by
      rw [line_settingsEntry, String.toList_append]
      rfl
    rw [List.filter_cons_of_pos hpasses]
    simpa using not_reportsError_line hline hstart (by decide) report
  · rw [List.filter_cons_of_neg hpasses]
    exact not_reportsError_empty report

/-! ## Runs -/

/-- What the program does once it has settings. -/
def runWith (settings : Settings) (now : Int) (name : String) (output : Path) :
    Task (StateM View) Unit := do
  Task.report .debug .program "Resolved generator config" [("config", settingsText settings now)]
  Generation.run settings now name output

variable {now : Int} {name : String} {output : Path} {settings : Settings}

theorem run_generate :
    (generate root now name output : StateM View Report).run view =
      match (Settings.discover root : Task (StateM View) Settings).doneIn view with
      | (.error failure, after) => (conclude "" (.error failure), after)
      | (.ok settings, middle) =>
        let ((outcome, entries), after) := (runWith settings now name output).perform.run middle
        (conclude (journalText (.ofText settings.logFilter) entries) outcome, after) := by
  rw [generate, StateT.run_bind, Task.doneIn]
  rcases StateT.run (Task.perform (Settings.discover root)) view with ⟨⟨_ | settings, _⟩, middle⟩
  · rfl
  · rfl

theorem run_generate_of_ends {outcome : Except Failure Unit} {after : View}
    (hsettings : Settings.discovered root view = .ok settings)
    (hrun : (Generation.run settings now name output).Ends view outcome after) :
    ∃ journal, EndsLine journal ∧
      (generate root now name output : StateM View Report).run view =
        (conclude journal outcome, after) := by
  have hends : (runWith settings now name output).Ends view outcome after :=
    Task.Ends.bind (Task.gives_report _ _ _ _) hrun
  obtain ⟨entries, hperform⟩ := hends []
  change (runWith settings now name output).perform.run view = _ at hperform
  refine ⟨journalText (.ofText settings.logFilter) ([] ++ entries), endsLine_journalText _ _, ?_⟩
  rw [run_generate, (Settings.gives_discover root).doneIn, hsettings]
  dsimp only
  rw [hperform]

/-- An unknown generator is told before anything else is reported. -/
theorem run_generate_of_unknown (hsettings : Settings.discovered root view = .ok settings)
    (hname : Generator.ofName? name = none) :
    (generate root now name output : StateM View Report).run view =
      (⟨1, (Failure.unknownGenerator name Generator.expectedNames).message ++ "\n",
        journalText (.ofText settings.logFilter) [settingsEntry settings now]⟩, view) := by
  have hunknown := Generation.ofName_eq_error_iff.mpr ⟨hname, rfl⟩
  have hperform : (runWith settings now name output).perform.run view =
      ((.error (.unknownGenerator name Generator.expectedNames), [settingsEntry settings now]),
        view) := by
    rw [runWith, Task.perform, Task.run_bind, Task.run_report]
    dsimp only
    rw [Generation.run, Task.run_bind, hunknown]
    rfl
  rw [run_generate, (Settings.gives_discover root).doneIn, hsettings]
  dsimp only
  rw [hperform]
  rfl

/-! ## What a run needs -/

/-- The settings are found and the generator of the name is run. -/
def attempt (root : Path) (now : Int) (name : String) (output : Path) :
    Task (StateM View) Unit := do
  Generation.run (← Settings.discover root) now name output

/-- All that a run needs: settings, a generator of the name, a text and a place for it. -/
def Ready (root : Path) (now : Int) (name : String) (output : Path) (view : View) (text : String) :
    Prop :=
  ∃ settings, (Settings.discover root).doneIn view = (.ok settings, view) ∧
    ∃ generator ∈ Generator.all, generator.name = name ∧
      (Generation.render settings now generator).doneIn view = (.ok text, view) ∧
      ∃ place, view.tree.findNew view.cwd output = .ok place

/-- There are settings, but no generator has the name. -/
def Misnamed (root : Path) (name : String) (view : View) : Prop :=
  (∃ settings, (Settings.discover root).doneIn view = (.ok settings, view)) ∧
    name ∉ Generator.all.map (·.name)

theorem ready_iff {text : String} :
    Ready root now name output view text ↔
      ∃ settings, Settings.discovered root view = .ok settings ∧
        ∃ generator, Generator.ofName? name = some generator ∧
          Generation.rendered settings now generator view = .ok text ∧
          ∃ place, view.tree.findNew view.cwd output = .ok place := by
  simp only [Ready, (Settings.gives_discover root).doneIn_eq_iff,
    (Generation.gives_render _ now _).doneIn_eq_iff, Generation.ofName?_eq_some_iff, and_assoc]

/-! ## What comes of a run -/

theorem generate_of_ready {text : String} (h : Ready root now name output view text) :
    ∃ journal after, Written view output text after ∧
      (generate root now name output : StateM View Report).run view =
        (⟨0, "", journal⟩, after) := by
  obtain ⟨settings, hsettings, generator, hname, hrender, place, hfind⟩ := ready_iff.mp h
  have hrun := Generation.run_of_writable hname hrender hfind
  obtain ⟨journal, _, hreport⟩ := run_generate_of_ends hsettings hrun
  exact ⟨journal, _, written_set text hfind, hreport⟩

theorem generate_of_misnamed (h : Misnamed root name view) :
    ∃ journal, (∀ report, ¬ReportsError journal report) ∧
      (generate root now name output : StateM View Report).run view =
        (⟨1, "Undefined generator: '" ++ name ++ "' (expected one of: " ++
          Generator.expectedNames ++ ")\n", journal⟩, view) := by
  obtain ⟨⟨settings, hdone⟩, hname⟩ := h
  have hsettings := (Settings.gives_discover root).doneIn_eq_iff.mp hdone
  refine ⟨_, not_reportsError_settingsEntry (.ofText settings.logFilter) settings now, ?_⟩
  rw [run_generate_of_unknown hsettings (Generation.ofName?_eq_none_iff.mpr hname),
    Failure.message_unknownGenerator]

theorem conclude_of_fault (journal : String) (h : failure.isUserError = false) :
    conclude journal (.error failure) = ⟨1, "", journal ++ errorLine failure⟩ := by
  simp [conclude, h]

/-- The program reports a failure as an error and has no answer. -/
def EndsInError (root : Path) (now : Int) (name : String) (output : Path) (view : View)
    (failure : Failure) : Prop :=
  (attempt root now name output).doneIn view = (.error failure, view) ∧
    ∃ stderr, ReportsError stderr failure.message ∧
      (generate root now name output : StateM View Report).run view = (⟨1, "", stderr⟩, view)

theorem endsInError_of_no_settings (h : Settings.discovered root view = .error failure) :
    EndsInError root now name output view failure := by
  have hdiscover : Task.Gives (Settings.discover root) view (.error failure) :=
    h ▸ Settings.gives_discover root
  have hfault : failure.isUserError = false := by
    rcases Settings.discovered_eq_error h with ⟨path, fault, rfl⟩ | ⟨reason, rfl⟩
    · rfl
    · rfl
  refine ⟨(Task.Ends.bind_error hdiscover).doneIn, _, reportsError_errorLine (Or.inl rfl) failure,
    ?_⟩
  rw [run_generate, hdiscover.doneIn]
  dsimp only
  rw [conclude_of_fault "" hfault]

theorem endsInError_of_run (hsettings : Settings.discovered root view = .ok settings)
    (hrun : (Generation.run settings now name output).Gives view (.error failure))
    (hfault : failure.isUserError = false) : EndsInError root now name output view failure := by
  have hdiscover : Task.Gives (Settings.discover root) view (.ok settings) :=
    hsettings ▸ Settings.gives_discover root
  obtain ⟨journal, hjournal, hgenerate⟩ := run_generate_of_ends hsettings hrun
  rw [conclude_of_fault journal hfault] at hgenerate
  exact ⟨(Task.Ends.bind hdiscover hrun).doneIn, _, reportsError_errorLine hjournal failure,
    hgenerate⟩

theorem endsInError_of_failure (hready : ∀ text, ¬Ready root now name output view text)
    (hnamed : ¬Misnamed root name view) :
    ∃ failure, EndsInError root now name output view failure := by
  cases hsettings : Settings.discovered root view with
  | error failure => exact ⟨failure, endsInError_of_no_settings hsettings⟩
  | ok settings =>
    cases hfirst : Generation.firstFailure settings now name output view with
    | none =>
      obtain ⟨generator, text, place, hname, hrender, hfind, _⟩ :=
        Generation.run_of_no_failure hfirst
      have htext := ready_iff.mpr ⟨settings, hsettings, generator, hname, hrender, place, hfind⟩
      exact absurd htext (hready text)
    | some failure =>
      refine ⟨failure, endsInError_of_run hsettings (Generation.run_of_failure hfirst) ?_⟩
      -- The only failure that is answered is that of the name, which is ruled out.
      apply eq_false_of_ne_true
      intro huser
      obtain ⟨text, expected, rfl⟩ := Failure.isUserError_eq_true_iff.mp huser
      have hdone := (Settings.gives_discover root).doneIn_eq_iff.mpr hsettings
      have hname := Generation.firstFailure_eq_unknown_iff.mp ⟨text, expected, hfirst⟩
      exact hnamed ⟨⟨settings, hdone⟩, hname⟩

/-- **The contract of the command line.** For a name and an output that are no options, the program
exits with 0 exactly if there is all that the run needs. Then it prints no answer, and has changed
the output alone, which holds the text. Otherwise it exits with 1 and has changed no file. A name
that no generator has is then answered in one line and reported as no error; any other failure has
no answer and its message is reported as an error. -/
theorem execute_pair (root : Path) (now : Int) (name output : String) (view : View)
    (hname : name.toList.head? ≠ some '-') (houtput : output.toList.head? ≠ some '-')
    (hempty : output ≠ "") :
    ∃ report after, (execute root now [name, output] : StateM View Report).run view =
        (report, after) ∧
      (report.exitCode = 0 ↔ ∃ text, Ready root now name ⟨output⟩ view text) ∧
      (∀ text, Ready root now name ⟨output⟩ view text →
        report.stdout = "" ∧ Written view ⟨output⟩ text after) ∧
      ((∀ text, ¬Ready root now name ⟨output⟩ view text) →
        report.exitCode = 1 ∧ after = view ∧
        (Misnamed root name view →
          report.stdout = "Undefined generator: '" ++ name ++ "' (expected one of: " ++
            Generator.expectedNames ++ ")\n" ∧
          ∀ message, ¬ReportsError report.stderr message) ∧
        (¬Misnamed root name view →
          report.stdout = "" ∧ ∃ failure,
            (attempt root now name ⟨output⟩).doneIn view = (.error failure, view) ∧
            ReportsError report.stderr failure.message)) := by
  have hexecute : (execute root now [name, output] : StateM View Report) =
      generate root now name ⟨output⟩ := by
    rw [execute, parse_pair hname houtput hempty]
  rw [hexecute]
  by_cases hready : ∃ text, Ready root now name ⟨output⟩ view text
  · obtain ⟨text, htext⟩ := hready
    obtain ⟨journal, after, hwritten, hrun⟩ := generate_of_ready htext
    refine ⟨_, _, hrun, iff_of_true rfl ⟨text, htext⟩, ?_, fun hnone => absurd htext (hnone text)⟩
    intro other hother
    obtain ⟨_, _, hsame, hrunOther⟩ := generate_of_ready hother
    rw [hrun] at hrunOther
    cases hrunOther
    exact ⟨rfl, hsame⟩
  · have hnone : ∀ text, ¬Ready root now name ⟨output⟩ view text := not_exists.mp hready
    by_cases hnamed : Misnamed root name view
    · obtain ⟨journal, hsilent, hrun⟩ := generate_of_misnamed hnamed
      refine ⟨_, _, hrun, iff_of_false Nat.one_ne_zero hready, ?_, ?_⟩
      · intro text htext
        exact absurd htext (hnone text)
      · intro _
        exact ⟨rfl, rfl, fun _ => ⟨rfl, hsilent⟩, fun h => absurd hnamed h⟩
    · obtain ⟨failure, hdone, stderr, hreports, hrun⟩ := endsInError_of_failure hnone hnamed
      refine ⟨_, _, hrun, iff_of_false Nat.one_ne_zero hready, ?_, ?_⟩
      · intro text htext
        exact absurd htext (hnone text)
      · intro _
        exact ⟨rfl, rfl, fun h => absurd h hnamed, fun _ => ⟨rfl, failure, hdone, hreports⟩⟩

/-- The usual layout with the enumerations alone. -/
def sampleLayout : View :=
  ⟨⟨[(["work"], .directory), (["work", "templates"], .directory),
    (["work", "templates", "enums.py.hbs"], .file (.text "import enum\n")),
    (["work", "extern"], .directory), (["work", "extern", "libpg_query"], .directory),
    (["work", "extern", "libpg_query", "srcdata"], .directory),
    (["work", "extern", "libpg_query", "srcdata", "enum_defs.json"], .file (.text "[]"))]⟩,
    ["work"]⟩

theorem settings_sampleLayout : Settings.discovered ⟨"/work"⟩ sampleLayout =
    .ok (Settings.defaults.relativeTo ⟨"/work"⟩) := by
  rfl

theorem ready_sampleLayout :
    Ready ⟨"/work"⟩ 2024 "enums" ⟨"out.py"⟩ sampleLayout "import enum\n" := by
  refine ready_iff.mpr ⟨_, settings_sampleLayout, .enums, ?_, ?_, ["work", "out.py"], ?_⟩
  all_goals decide +kernel

theorem execute_pair_samples :
    (∃ report after, (execute ⟨"/work"⟩ 2024 ["enums", "out.py"] : StateM View Report).run
        sampleLayout = (report, after) ∧
      report.exitCode = 0 ∧ Written sampleLayout ⟨"out.py"⟩ "import enum\n" after) ∧
    (∃ report, (execute ⟨"/work"⟩ 2024 ["nodes", "lost/out.py"] : StateM View Report).run
        sampleLayout = (report, sampleLayout) ∧
      report.exitCode = 1 ∧
      report.stdout = "Undefined generator: 'nodes' (expected one of: enums, structs)\n") := by
  constructor
  · obtain ⟨report, after, hrun, hcode, hready, _⟩ := execute_pair ⟨"/work"⟩ 2024 "enums" "out.py"
      sampleLayout (by decide) (by decide) (by decide)
    exact ⟨report, after, hrun, hcode.mpr ⟨_, ready_sampleLayout⟩, (hready _ ready_sampleLayout).2⟩
  · obtain ⟨report, after, hrun, _, _, hfailed⟩ := execute_pair ⟨"/work"⟩ 2024 "nodes"
      "lost/out.py" sampleLayout (by decide) (by decide) (by decide)
    have hnone : ∀ text, ¬Ready ⟨"/work"⟩ 2024 "nodes" ⟨"lost/out.py"⟩ sampleLayout text := by
      intro text h
      obtain ⟨_, _, generator, hname, _⟩ := ready_iff.mp h
      exact absurd hname (by cases generator <;> decide)
    have hnamed : Misnamed ⟨"/work"⟩ "nodes" sampleLayout :=
      ⟨⟨_, (Settings.gives_discover ⟨"/work"⟩).doneIn_eq_iff.mpr settings_sampleLayout⟩, by decide⟩
    obtain ⟨hcode, rfl, hanswer, _⟩ := hfailed hnone
    refine ⟨report, hrun, hcode, (hanswer hnamed).1.trans ?_⟩
    decide +kernel

end CommandLine

end BindingGen
