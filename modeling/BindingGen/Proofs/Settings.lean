import BindingGen.Proofs.Generation.Run
import BindingGen.Proofs.Path.Components

/-!
# Settings of a directory

The settings of a directory are seen from that directory, whether they stand in its settings file or
are the default ones. The file is found from the directory and the directory again from the file,
and that round trip may only change how the directory is spelled.
-/

namespace BindingGen.Settings

open FileTree

variable {root base a b : Path} {view : View} {failure : Failure} {text : String}
  {settings : Settings}

/-! ## Failures -/

theorem ofText_eq_error {text : String} (h : ofText text = .error failure) :
    ∃ reason, failure = .config reason := by
  unfold ofText at h
  split at h
  · cases h
    exact ⟨_, rfl⟩
  · split at h
    · cases h
    · cases h
      exact ⟨_, rfl⟩

theorem readFile_eq_error {path : Path} {text : String}
    (h : readFile path text = .error failure) : ∃ reason, failure = .config reason := by
  obtain ⟨fault, hparse, rfl⟩ := mapError_eq_error_iff.mp h
  obtain ⟨reason, rfl⟩ := ofText_eq_error hparse
  exact ⟨_, rfl⟩

/-- A directory has no settings for a fault of its settings file or of what is written there. -/
theorem discovered_eq_error (h : discovered root view = .error failure) :
    (∃ path fault, failure = .file path fault) ∨ ∃ reason, failure = .config reason := by
  unfold discovered at h
  dsimp only at h
  split at h
  · cases hread : view.read (root.join ⟨fileName⟩) with
    | error fault =>
      obtain ⟨cause, rfl⟩ := Generation.read_eq_error hread
      rw [hread] at h
      cases h
      exact Or.inl ⟨_, _, rfl⟩
    | ok text =>
      rw [hread] at h
      cases hparse : readFile (root.join ⟨fileName⟩) text with
      | error fault =>
        obtain ⟨reason, rfl⟩ := readFile_eq_error hparse
        simp only [bind, Except.bind, hparse] at h
        cases h
        exact Or.inr ⟨_, rfl⟩
      | ok settings =>
        simp only [bind, Except.bind, hparse] at h
        cases h
  · cases h

/-! ## Roots seen from a base -/

/-- The same settings, but for the spelling of their roots. -/
structure Alike (a b : Settings) : Prop where
  schemaRoot : a.schemaRoot.same b.schemaRoot = true
  templateRoot : a.templateRoot.same b.templateRoot = true
  year : a.year = b.year
  logFilter : a.logFilter = b.logFilter

/-- Settings that are only moved: what is no root stays, and so does a root that stands on its
own. -/
structure Moved (settings other : Settings) : Prop where
  schemaRoot : settings.schemaRoot.isAbsolute = true → other.schemaRoot = settings.schemaRoot
  templateRoot : settings.templateRoot.isAbsolute = true →
    other.templateRoot = settings.templateRoot
  year : other.year = settings.year
  logFilter : other.logFilter = settings.logFilter

theorem moved_relativeTo (settings : Settings) (base : Path) :
    settings.Moved (settings.relativeTo base) where
  schemaRoot h := by simp [relativeTo, Path.join, h]
  templateRoot h := by simp [relativeTo, Path.join, h]
  year := rfl
  logFilter := rfl

theorem alike_relativeTo (settings : Settings) (h : a.same b = true) :
    (settings.relativeTo a).Alike (settings.relativeTo b) := by
  have hbase : a.components = b.components := beq_iff_eq.mp h
  refine ⟨?_, ?_, rfl, rfl⟩
  · exact beq_iff_eq.mpr (Path.components_join_congr hbase settings.schemaRoot)
  · exact beq_iff_eq.mpr (Path.components_join_congr hbase settings.templateRoot)

/-- From a base that stands on its own, no root is left to be moved. -/
theorem relativeTo_relativeTo (settings : Settings) (h : base.isAbsolute = true) (other : Path) :
    (settings.relativeTo base).relativeTo other = settings.relativeTo base := by
  have hroot (path : Path) : other.join (base.join path) = base.join path := by
    rw [Path.join, if_pos (Path.isAbsolute_join_of_base h path)]
  simp only [relativeTo, hroot]

/-! ## The settings file -/

theorem ofText_empty : ofText "" = .ok defaults := eq_ok_of_toOption (by decide +kernel)

theorem isName_fileName : Path.IsName fileName := by
  exact ⟨⟨by decide, by decide⟩, by decide, by decide⟩

theorem isFile_of_read {path : Path} (h : view.read path = .ok text) :
    view.tree.isFile view.cwd path = true := by
  unfold View.read at h
  rw [mapError_eq_ok_iff] at h
  unfold readText at h
  obtain ⟨place, hplace, hnode⟩ := bind_eq_ok_iff.mp h
  unfold isFile
  rw [hplace]
  dsimp only
  split at hnode
  · rename_i hfile
    rw [hfile]
  all_goals cases hnode

/-- The directory that settings are seen from, as its settings file finds it. -/
def origin (root : Path) : Path := (root.join ⟨fileName⟩).parent?.getD ⟨""⟩

theorem same_origin (root : Path) : (origin root).same root = true := by
  obtain ⟨parent, hparent, hsame⟩ := Path.components_parent? root isName_fileName
  unfold origin
  rw [hparent]
  exact beq_iff_eq.mpr hsame

theorem discovered_of_isFile (h : view.tree.isFile view.cwd (root.join ⟨fileName⟩) = true) :
    discovered root view = .ok settings ↔ ∃ text read,
      view.read (root.join ⟨fileName⟩) = .ok text ∧ ofText text = .ok read ∧
        settings = read.relativeTo (origin root) := by
  unfold discovered readFile
  simp only [h, if_true, bind_eq_ok_iff, mapError_eq_ok_iff]
  constructor
  · rintro ⟨text, htext, read, hread, hsettings⟩
    cases hsettings
    exact ⟨text, read, htext, hread, rfl⟩
  · rintro ⟨text, read, htext, hread, rfl⟩
    exact ⟨text, htext, read, hread, rfl⟩

theorem doneIn_discover (h : discovered root view = .ok settings) :
    (discover root).doneIn view = (.ok settings, view) :=
  (gives_discover root).doneIn_eq_iff.mpr h

theorem discover_of_file (htext : view.read (root.join ⟨fileName⟩) = .ok text)
    (hsettings : ofText text = .ok settings) :
    (discover root).doneIn view = (.ok (settings.relativeTo (origin root)), view) :=
  doneIn_discover
    ((discovered_of_isFile (isFile_of_read htext)).mpr ⟨text, settings, htext, hsettings, rfl⟩)

theorem discover_of_no_file (h : view.tree.isFile view.cwd (root.join ⟨fileName⟩) = false) :
    (discover root).doneIn view = (.ok (defaults.relativeTo root), view) := by
  refine doneIn_discover ?_
  unfold discovered
  simp [h]

/-- **Both ways to settings start from the same directory.** Settings in a file are seen from the
directory of the file, as the default ones are without a file, and an empty file stands for these.
A file that cannot be read or makes no sense is never passed over. -/
theorem discover_same_root (root : Path) (view : View) :
    (∀ text settings, view.read (root.join ⟨fileName⟩) = .ok text → ofText text = .ok settings →
      ∃ base, base.same root = true ∧
        (discover root).doneIn view = (.ok (settings.relativeTo base), view) ∧
        (settings.relativeTo base).Alike (settings.relativeTo root)) ∧
    (view.tree.isFile view.cwd (root.join ⟨fileName⟩) = false →
      (discover root).doneIn view = (.ok (defaults.relativeTo root), view)) ∧
    (∀ bare : View, view.read (root.join ⟨fileName⟩) = .ok "" →
      bare.tree.isFile bare.cwd (root.join ⟨fileName⟩) = false →
      ∃ found other, (discover root).doneIn view = (.ok found, view) ∧
        (discover root).doneIn bare = (.ok other, bare) ∧ found.Alike other) ∧
    (view.tree.isFile view.cwd (root.join ⟨fileName⟩) = true →
      (¬∃ text settings, view.read (root.join ⟨fileName⟩) = .ok text ∧
        ofText text = .ok settings) →
      ∃ failure, (discover root).doneIn view = (.error failure, view) ∧
        ((∃ path fault, failure = .file path fault) ∨ ∃ reason, failure = .config reason)) ∧
    (∀ (settings : Settings) base, settings.Moved (settings.relativeTo base)) ∧
    ∀ (settings : Settings) (base other : Path), base.isAbsolute = true →
      (settings.relativeTo base).relativeTo other = settings.relativeTo base := by
  refine ⟨?_, discover_of_no_file, ?_, ?_, moved_relativeTo, ?_⟩
  · intro text settings htext hsettings
    exact ⟨origin root, same_origin root, discover_of_file htext hsettings,
      alike_relativeTo settings (same_origin root)⟩
  · intro bare hempty hbare
    exact ⟨_, _, discover_of_file hempty ofText_empty, discover_of_no_file hbare,
      alike_relativeTo defaults (same_origin root)⟩
  · intro hfile hnone
    cases hfound : discovered root view with
    | ok settings =>
      obtain ⟨text, read, htext, hread, _⟩ := (discovered_of_isFile hfile).mp hfound
      exact absurd ⟨text, read, htext, hread⟩ hnone
    | error failure =>
      have hdone := (@gives_discover view root).doneIn
      rw [hfound] at hdone
      exact ⟨failure, hdone, discovered_eq_error hfound⟩
  · intro settings base other hbase
    exact relativeTo_relativeTo settings hbase other

/-- Settings in an oddly spelled directory, one root of which stands on its own. -/
def sampleRoots : View :=
  ⟨⟨[(["work"], .directory), (["work", "codegen.toml"],
    .file (.text "template_root = \"/srv/templates\"\n"))]⟩, []⟩

theorem discover_same_root_sample :
    ∃ base, base.same ⟨".//work/./"⟩ = true ∧
      (discover ⟨".//work/./"⟩).doneIn sampleRoots =
        (.ok (relativeTo { defaults with templateRoot := ⟨"/srv/templates"⟩ } base),
          sampleRoots) ∧
      (relativeTo { defaults with templateRoot := ⟨"/srv/templates"⟩ } base).Alike
        { defaults with
          schemaRoot := ⟨".//work/./extern/libpg_query/srcdata"⟩
          templateRoot := ⟨"/srv/templates"⟩ } := by
  have htext : sampleRoots.read (Path.join ⟨".//work/./"⟩ ⟨fileName⟩) =
      .ok "template_root = \"/srv/templates\"\n" := by rfl
  have hsettings : ofText "template_root = \"/srv/templates\"\n" =
      .ok { defaults with templateRoot := ⟨"/srv/templates"⟩ } :=
    eq_ok_of_toOption (by decide +kernel)
  have hroots : relativeTo { defaults with templateRoot := ⟨"/srv/templates"⟩ } ⟨".//work/./"⟩ =
      { defaults with
        schemaRoot := ⟨".//work/./extern/libpg_query/srcdata"⟩
        templateRoot := ⟨"/srv/templates"⟩ } := by decide
  obtain ⟨base, hbase, hdone, halike⟩ :=
    (discover_same_root ⟨".//work/./"⟩ sampleRoots).1 _ _ htext hsettings
  exact ⟨base, hbase, hdone, hroots ▸ halike⟩

end BindingGen.Settings
