import BindingGen.Proofs.FileTree
import BindingGen.Proofs.Path

/-!
# Trees with the same directories

Where a path leads to is decided by the directories on its way, and a write leaves these as they
are. So a file is still found after other files were written, and reads as before.
-/

namespace BindingGen.FileTree

variable {tree other : FileTree} {cwd here found place parent : Location} {path : Path}
  {name : String}

/-! ## Directories -/

def SameDirectories (tree other : FileTree) : Prop :=
  ∀ place, tree.node? place = some .directory ↔ other.node? place = some .directory

theorem SameDirectories.isDirectory_eq (h : SameDirectories tree other) (place : Location) :
    tree.isDirectory place = other.isDirectory place := by
  rw [Bool.eq_iff_iff, isDirectory_iff, isDirectory_iff]
  exact h place

theorem ne_root_of_free (h : tree.isDirectory place = false) : place ≠ [] := by
  rintro rfl
  cases h

theorem sameDirectories_set {content : Content} (h : tree.isDirectory place = false) :
    SameDirectories tree (tree.set place (.file content)) := by
  intro elsewhere
  by_cases hplace : elsewhere = place
  · subst hplace
    rw [node?_set_self (ne_root_of_free h), ← isDirectory_iff, h]
    simp
  · rw [node?_set_of_ne hplace]

/-- Steps to a directory only go through directories. -/
theorem Leads.congr {steps : List String} (hsame : SameDirectories tree other)
    (hfound : tree.node? found = some .directory) (h : tree.Leads here steps found) :
    other.Leads here steps found := by
  induction h with
  | done => exact .done
  | stay hhere hstep _ ih => exact .stay ((hsame _).mp hhere) hstep (ih hfound)
  | up hhere _ ih => exact .up ((hsame _).mp hhere) (ih hfound)
  | @enter here found step rest hhere hstep hup hlimit _ hrest ih =>
    have hnext : tree.node? (here ++ [step]) = some .directory := by
      cases hrest with
      | done => exact hfound
      | stay hnext _ _ => exact hnext
      | up hnext _ => exact hnext
      | enter hnext _ _ _ _ _ => exact hnext
    refine .enter ((hsame _).mp hhere) hstep hup hlimit ?_ (ih hfound)
    rw [(hsame _).mp hnext]
    rfl

/-! ## Places of files -/

/-- A path whose steps end in the name of an entry, there or not, in a directory that is there. -/
structure Located (tree : FileTree) (cwd : Location) (path : Path) (parent : Location)
    (name : String) : Prop where
  valid : checkPath path = .ok ()
  leads : tree.Leads (origin cwd path) (stepsOf path).dropLast parent
  last : (stepsOf path).getLast? = some name
  directory : tree.node? parent = some .directory
  named : ¬(name = "" ∨ name = ".")
  not_up : name ≠ ".."
  limit : name.utf8ByteSize ≤ nameLimit

theorem Writable.located (h : tree.Writable cwd path parent name) :
    tree.Located cwd path parent name :=
  ⟨h.valid, h.leads, h.last, h.directory, h.named, h.not_up, h.limit⟩

theorem Located.congr (hsame : SameDirectories tree other) (h : tree.Located cwd path parent name) :
    other.Located cwd path parent name :=
  { h with
    leads := h.leads.congr hsame h.directory
    directory := (hsame parent).mp h.directory }

theorem Located.findNew (h : tree.Located cwd path parent name)
    (hfree : tree.isDirectory (parent ++ [name]) = false) :
    tree.findNew cwd path = .ok (parent ++ [name]) := by
  obtain ⟨front, hfront⟩ := List.getLast?_eq_some_iff.mp h.last
  have hname : name ≠ "" := fun hname => h.named (.inl hname)
  have hsplit : splitEnd (stepsOf path) = (stepsOf path, false) := by
    rw [splitEnd, hfront, List.reverse_concat, List.dropWhile_cons_of_neg (by simpa using hname)]
    simp
  have hdots : ¬(name = "." ∨ name = "..") :=
    fun hdots => hdots.elim (fun hdot => h.named (.inr hdot)) h.not_up
  have hdirectory := isDirectory_iff.mpr h.directory
  have hlimit := Nat.not_lt_of_le h.limit
  simp only [FileTree.findNew, h.valid, hsplit, h.last, hdots, h.leads.follow, hdirectory, hlimit,
    hfree, bind, Except.bind, if_false, Bool.not_true, Bool.false_eq_true]

theorem findNew_congr (hsame : SameDirectories tree other)
    (h : tree.findNew cwd path = .ok place) : other.findNew cwd path = .ok place := by
  obtain ⟨parent, name, rfl, hwritable⟩ := writable_of_findNew h
  refine (hwritable.located.congr hsame).findNew ?_
  rw [← hsame.isDirectory_eq, hwritable.free]

theorem findNew_eq_ok_iff (hsame : SameDirectories tree other) :
    tree.findNew cwd path = .ok place ↔ other.findNew cwd path = .ok place :=
  ⟨findNew_congr hsame, findNew_congr fun place => (hsame place).symm⟩

/-! ## Reading -/

def readNode (tree : FileTree) (place : Location) : Except FileFault String :=
  match tree.node? place with
  | some (.file (.text text)) => .ok text
  | some (.file (.binary _)) => .error .invalidText
  | some .directory => .error .isDirectory
  | none => .error .notFound

theorem Located.readText_eq (h : tree.Located cwd path parent name) :
    tree.readText cwd path = tree.readNode (parent ++ [name]) := by
  obtain ⟨front, hfront⟩ := List.getLast?_eq_some_iff.mp h.last
  have hleads := h.leads
  rw [hfront, List.dropLast_concat] at hleads
  have hfind : tree.find cwd path = tree.follow parent [name] := by
    rw [find, h.valid, hfront]
    exact hleads.follow_append
  have hlimit := Nat.not_lt_of_le h.limit
  rw [readText, hfind, readNode]
  simp only [FileTree.follow, h.directory, h.named, h.not_up, hlimit, if_false]
  cases hnode : tree.node? (parent ++ [name]) with
  | none => rfl
  | some node =>
    rcases node with _ | _ | _ <;> simp only [bind, Except.bind, hnode]

theorem Located.readText_set {content : Content} (h : tree.Located cwd path parent name)
    (hfree : tree.isDirectory place = false) (hne : parent ++ [name] ≠ place) :
    (tree.set place (.file content)).readText cwd path = tree.readText cwd path := by
  rw [(h.congr (sameDirectories_set hfree)).readText_eq, h.readText_eq, readNode, readNode,
    node?_set_of_ne hne]

theorem Leads.split {first second : List String}
    (h : tree.Leads here (first ++ second) found) :
    ∃ middle, tree.Leads here first middle ∧ tree.Leads middle second found := by
  induction first generalizing here with
  | nil => exact ⟨here, .done, h⟩
  | cons step first ih =>
    cases h with
    | stay hhere hstep hrest =>
      obtain ⟨middle, hfirst, hsecond⟩ := ih hrest
      exact ⟨middle, .stay hhere hstep hfirst, hsecond⟩
    | up hhere hrest =>
      obtain ⟨middle, hfirst, hsecond⟩ := ih hrest
      exact ⟨middle, .up hhere hfirst, hsecond⟩
    | enter hhere hstep hup hlimit hnext hrest =>
      obtain ⟨middle, hfirst, hsecond⟩ := ih hrest
      exact ⟨middle, .enter hhere hstep hup hlimit hnext hfirst, hsecond⟩

theorem exists_directory_of_readText {front : List String} {text : String}
    (hsteps : stepsOf path = front ++ [name]) (hnamed : ¬(name = "" ∨ name = "."))
    (hup : name ≠ "..")
    (h : tree.readText cwd path = .ok text) :
    ∃ parent, tree.Leads (origin cwd path) front parent ∧ tree.node? parent = some .directory := by
  rw [readText] at h
  obtain ⟨found, hfind, _⟩ := bind_eq_ok_iff.mp h
  rw [find, hsteps] at hfind
  obtain ⟨_, _, hfollow⟩ := bind_eq_ok_iff.mp hfind
  obtain ⟨parent, hfront, hname⟩ := (leads_of_follow hfollow).split
  refine ⟨parent, hfront, ?_⟩
  cases hname with
  | stay _ hstep _ => exact absurd hstep hnamed
  | up _ _ => exact absurd rfl hup
  | enter hhere _ _ _ _ _ => exact hhere

/-! ## Files of one directory -/

structure IsFileName (name : String) : Prop where
  segment : Path.IsSegment name
  named : ¬(name = "" ∨ name = ".")
  not_up : name ≠ ".."
  limit : name.utf8ByteSize ≤ nameLimit

/-- The path of a directory leads to one that is there. -/
def Opened (tree : FileTree) (cwd : Location) (root : Path) : Prop :=
  ∃ front parent, (∀ name, IsFileName name → stepsOf (root.join ⟨name⟩) = front ++ [name]) ∧
    tree.Leads (origin cwd root) front parent ∧ tree.node? parent = some .directory

variable {root : Path}

theorem exists_steps (root : Path) :
    ∃ front, ∀ name, IsFileName name → stepsOf (root.join ⟨name⟩) = front ++ [name] := by
  obtain ⟨front, hfront⟩ := Path.exists_front root
  refine ⟨front.map String.ofList, fun name hname => ?_⟩
  rw [stepsOf, hfront name hname.segment]
  simp

theorem origin_join (hname : IsFileName name) :
    origin cwd (root.join ⟨name⟩) = origin cwd root := by
  rw [origin, origin, Path.isAbsolute_join hname.segment]

/-- Once one file of a directory was read, the directory is there for all of them. -/
theorem opened_of_readText {text : String} (hname : IsFileName name)
    (h : tree.readText cwd (root.join ⟨name⟩) = .ok text) : tree.Opened cwd root := by
  obtain ⟨front, hsteps⟩ := exists_steps root
  obtain ⟨parent, hleads, hdirectory⟩ :=
    exists_directory_of_readText (hsteps name hname) hname.named hname.not_up h
  rw [origin_join hname] at hleads
  exact ⟨front, parent, hsteps, hleads, hdirectory⟩

theorem Opened.located (h : tree.Opened cwd root) (hname : IsFileName name)
    (hvalid : checkPath (root.join ⟨name⟩) = .ok ()) :
    ∃ parent, tree.Located cwd (root.join ⟨name⟩) parent name := by
  obtain ⟨front, parent, hsteps, hleads, hdirectory⟩ := h
  have hlast := hsteps name hname
  refine ⟨parent, hvalid, ?_, ?_, hdirectory, hname.named, hname.not_up, hname.limit⟩
  · rwa [hlast, List.dropLast_concat, origin_join hname]
  · rw [hlast, List.getLast?_concat]

theorem readText_of_checkPath {fault : FileFault} (h : checkPath path = .error fault) :
    tree.readText cwd path = .error fault := by
  rw [readText, find, h]
  rfl

theorem Opened.readText_set {content : Content} (h : tree.Opened cwd root) (hname : IsFileName name)
    (hfree : tree.isDirectory place = false)
    (hne : tree.findNew cwd (root.join ⟨name⟩) ≠ .ok place) :
    (tree.set place (.file content)).readText cwd (root.join ⟨name⟩) =
      tree.readText cwd (root.join ⟨name⟩) := by
  cases hvalid : checkPath (root.join ⟨name⟩) with
  | error fault => rw [readText_of_checkPath hvalid, readText_of_checkPath hvalid]
  | ok =>
    obtain ⟨parent, hlocated⟩ := h.located hname hvalid
    apply hlocated.readText_set hfree
    rintro rfl
    exact hne (hlocated.findNew hfree)

end BindingGen.FileTree
