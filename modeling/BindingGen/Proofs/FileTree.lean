import BindingGen.FileTree
import BindingGen.Proofs.Outcome

/-!
# What a write does to a tree

A write changes the one place that its path finds. No other place changes, and the path then reads
as what was written.
-/

namespace BindingGen.FileTree

variable {tree : FileTree} {cwd here place other : Location} {node : FileNode} {path : Path}

/-! ## Nodes -/

theorem lookup_filter_ne (h : other ≠ place) (nodes : List (Location × FileNode)) :
    (nodes.filter (·.1 != place)).lookup other = nodes.lookup other := by
  induction nodes with
  | nil => rfl
  | cons head rest ih =>
    obtain ⟨at', node⟩ := head
    rw [List.filter_cons]
    by_cases hat : at' = place
    · have hother : (other == at') = false := beq_eq_false_iff_ne.mpr (hat ▸ h)
      rw [if_neg (by simp [hat]), ih, List.lookup_cons, hother]
    · rw [if_pos (by simp [hat]), List.lookup_cons, List.lookup_cons, ih]

theorem node?_set_self (h : place ≠ []) : (tree.set place node).node? place = some node := by
  cases place with
  | nil => exact absurd rfl h
  | cons name rest => exact List.lookup_cons_self

theorem node?_set_of_ne (h : other ≠ place) :
    (tree.set place node).node? other = tree.node? other := by
  cases other with
  | nil => rfl
  | cons name rest =>
    have hne : (name :: rest == place) = false := beq_eq_false_iff_ne.mpr h
    change ((place, node) :: tree.nodes.filter (·.1 != place)).lookup (name :: rest) =
      tree.nodes.lookup (name :: rest)
    rw [List.lookup_cons, hne]
    exact lookup_filter_ne h tree.nodes

theorem isDirectory_iff : tree.isDirectory place = true ↔ tree.node? place = some .directory := by
  unfold isDirectory
  split <;> simp_all

theorem isSome_node?_set (h : (tree.node? other).isSome = true) :
    ((tree.set place node).node? other).isSome = true := by
  by_cases hother : other = place
  · subst hother
    cases other with
    | nil => rfl
    | cons name rest => rw [node?_set_self (List.cons_ne_nil name rest)]; rfl
  · rw [node?_set_of_ne hother]
    exact h

/-! ## Steps -/

/-- Steps that lead from a place to another one. Each starts at a directory, and one to a name ends
at a node. -/
inductive Leads (tree : FileTree) : Location → List String → Location → Prop
  | done {here : Location} : Leads tree here [] here
  | stay {here found : Location} {step : String} {rest : List String}
      (hhere : tree.node? here = some .directory) (hstep : step = "" ∨ step = ".")
      (hrest : Leads tree here rest found) : Leads tree here (step :: rest) found
  | up {here found : Location} {rest : List String} (hhere : tree.node? here = some .directory)
      (hrest : Leads tree here.dropLast rest found) : Leads tree here (".." :: rest) found
  | enter {here found : Location} {step : String} {rest : List String}
      (hhere : tree.node? here = some .directory) (hstep : ¬(step = "" ∨ step = "."))
      (hup : step ≠ "..") (hlimit : step.utf8ByteSize ≤ nameLimit)
      (hnext : (tree.node? (here ++ [step])).isSome = true)
      (hrest : Leads tree (here ++ [step]) rest found) : Leads tree here (step :: rest) found

theorem Leads.follow_append {found : Location} {steps more : List String}
    (h : tree.Leads here steps found) :
    tree.follow here (steps ++ more) = tree.follow found more := by
  induction h with
  | done => rfl
  | stay hhere hstep _ ih =>
    rw [List.cons_append, FileTree.follow, hhere, ← ih]
    exact if_pos hstep
  | up hhere _ ih =>
    rw [List.cons_append, FileTree.follow, hhere, ← ih]
    exact (if_neg (by decide)).trans (if_pos rfl)
  | @enter here _ step _ hhere hstep hup hlimit hnext _ ih =>
    obtain ⟨next, hnext⟩ := Option.isSome_iff_exists.mp hnext
    simp only [List.cons_append, FileTree.follow, hhere, hstep, hup, Nat.not_lt_of_le hlimit, hnext,
      if_false]
    exact ih

theorem Leads.follow {found : Location} {steps : List String} (h : tree.Leads here steps found) :
    tree.follow here steps = .ok found := by
  rw [← List.append_nil steps, h.follow_append]
  rfl

theorem leads_of_follow {found : Location} {steps : List String}
    (h : tree.follow here steps = .ok found) : tree.Leads here steps found := by
  induction steps generalizing here with
  | nil =>
    cases h
    exact .done
  | cons step rest ih =>
    rw [follow] at h
    split at h
    · cases h
    · cases h
    · rename_i hhere
      by_cases hstep : step = "" ∨ step = "."
      · rw [if_pos hstep] at h
        exact .stay hhere hstep (ih h)
      rw [if_neg hstep] at h
      by_cases hup : step = ".."
      · subst hup
        exact .up hhere (ih h)
      rw [if_neg hup] at h
      by_cases hlong : nameLimit < step.utf8ByteSize
      · rw [if_pos hlong] at h
        cases h
      rw [if_neg hlong] at h
      split at h
      · cases h
      · rename_i hnext
        exact .enter hhere hstep hup (Nat.le_of_not_lt hlong) (by rw [hnext]; rfl) (ih h)

theorem Leads.append {middle found : Location} {first second : List String}
    (hfirst : tree.Leads here first middle) (hsecond : tree.Leads middle second found) :
    tree.Leads here (first ++ second) found := by
  induction hfirst with
  | done => exact hsecond
  | stay hhere hstep _ ih => exact .stay hhere hstep (ih hsecond)
  | up hhere _ ih => exact .up hhere (ih hsecond)
  | enter hhere hstep hup hlimit hnext _ ih =>
    exact .enter hhere hstep hup hlimit hnext (ih hsecond)

theorem Leads.set {found : Location} {content : Content} {steps : List String}
    (hplace : tree.isDirectory place = false) (h : tree.Leads here steps found) :
    (tree.set place (.file content)).Leads here steps found := by
  have hkept {here : Location} (hhere : tree.node? here = some .directory) :
      (tree.set place (.file content)).node? here = some .directory := by
    rw [node?_set_of_ne, hhere]
    rintro rfl
    rw [isDirectory_iff.mpr hhere] at hplace
    cases hplace
  induction h with
  | done => exact .done
  | stay hhere hstep _ ih => exact .stay (hkept hhere) hstep ih
  | up hhere _ ih => exact .up (hkept hhere) ih
  | enter hhere hstep hup hlimit hnext _ ih =>
    exact .enter (hkept hhere) hstep hup hlimit (isSome_node?_set hnext) ih

/-! ## The place of a new file -/

theorem splitEnd_of_not_slash {steps : List String} (h : (splitEnd steps).2 = false) :
    (splitEnd steps).1 = steps := by
  have hsuffix : steps.reverse.dropWhile (· = "") <:+ steps.reverse := List.dropWhile_suffix _
  have hlength : (steps.reverse.dropWhile (· = "")).length = steps.reverse.length := by
    have hle := hsuffix.length_le
    simp only [splitEnd, List.length_reverse, decide_eq_false_iff_not, Nat.not_lt] at h hle ⊢
    omega
  rw [splitEnd, hsuffix.eq_of_length hlength, List.reverse_reverse]

theorem getLast?_splitEnd {steps : List String} {name : String}
    (h : (splitEnd steps).1.getLast? = some name) : name ≠ "" := by
  rw [splitEnd, List.getLast?_reverse] at h
  have hhead := List.head?_dropWhile_not (fun step : String => decide (step = "")) steps.reverse
  rw [h] at hhead
  exact of_decide_eq_false hhead

/-- A path whose steps end in the name of a file, in a directory that is there. -/
structure Writable (tree : FileTree) (cwd : Location) (path : Path) (parent : Location)
    (name : String) : Prop where
  valid : checkPath path = .ok ()
  leads : tree.Leads (origin cwd path) (stepsOf path).dropLast parent
  last : (stepsOf path).getLast? = some name
  directory : tree.node? parent = some .directory
  named : ¬(name = "" ∨ name = ".")
  not_up : name ≠ ".."
  limit : name.utf8ByteSize ≤ nameLimit
  free : tree.isDirectory (parent ++ [name]) = false

theorem writable_of_findNew (h : tree.findNew cwd path = .ok place) :
    ∃ parent name, place = parent ++ [name] ∧ tree.Writable cwd path parent name := by
  rw [findNew] at h
  obtain ⟨_, hvalid, h⟩ := bind_eq_ok_iff.mp h
  generalize hsplit : splitEnd (stepsOf path) = split at h
  obtain ⟨kept, slash⟩ := split
  dsimp only at h
  -- One check after the other, each of which stops the search where it fails.
  split at h
  · cases h
  rename_i name hlast
  by_cases hdots : name = "." ∨ name = ".."
  · rw [if_pos hdots] at h
    obtain ⟨_, _, h⟩ := bind_eq_ok_iff.mp h
    cases h
  rw [if_neg hdots] at h
  obtain ⟨parent, hparent, h⟩ := bind_eq_ok_iff.mp h
  split at h
  · cases h
  rename_i hdirectory
  split at h
  · cases h
  rename_i hslash
  split at h
  · cases h
  rename_i hlimit
  split at h
  · cases h
  rename_i hfree
  cases h
  have hname : name ≠ "" := getLast?_splitEnd (by rw [hsplit]; exact hlast)
  -- A path that ends in a separator was refused, so none of its steps were dropped.
  have hkept : kept = stepsOf path := by
    have hwhole := @splitEnd_of_not_slash (stepsOf path) (by rw [hsplit]; simpa using hslash)
    rw [← hwhole, hsplit]
  subst hkept
  exact ⟨parent, name, rfl, {
    valid := hvalid
    leads := leads_of_follow hparent
    last := hlast
    directory := isDirectory_iff.mp (by simpa using hdirectory)
    named := fun h => h.elim hname fun h => hdots (.inl h)
    not_up := fun h => hdots (.inr h)
    limit := Nat.le_of_not_lt hlimit
    free := eq_false_of_ne_true hfree }⟩

theorem readText_of_find {text : String} (hfind : tree.find cwd path = .ok place)
    (hnode : tree.node? place = some (.file (.text text))) :
    tree.readText cwd path = .ok text := by
  simp only [readText, hfind, bind, Except.bind, hnode]

theorem Writable.readText_set {parent : Location} {name text : String}
    (h : tree.Writable cwd path parent name) :
    (tree.set (parent ++ [name]) (.file (.text text))).readText cwd path = .ok text := by
  have hnode : (tree.set (parent ++ [name]) (.file (.text text))).node? (parent ++ [name]) =
      some (.file (.text text)) :=
    node?_set_self (List.append_ne_nil_of_right_ne_nil parent (List.cons_ne_nil name []))
  have hlast : (tree.set (parent ++ [name]) (.file (.text text))).Leads parent [name]
      (parent ++ [name]) :=
    .enter (by rw [node?_set_of_ne (by simp), h.directory]) h.named h.not_up h.limit
      (by rw [hnode]; rfl) .done
  refine readText_of_find ?_ hnode
  obtain ⟨steps, hsteps⟩ := List.getLast?_eq_some_iff.mp h.last
  have hleads := h.leads
  rw [hsteps, List.dropLast_concat] at hleads
  rw [find, h.valid, hsteps]
  exact ((hleads.set h.free).append hlast).follow

/-- Another state of the files, in which a path reads as a text and no other place has changed. -/
structure Written (before : View) (path : Path) (text : String) (after : View) : Prop where
  cwd : after.cwd = before.cwd
  reads : after.tree.readText after.cwd path = .ok text
  only : ∃ place, before.tree.findNew before.cwd path = .ok place ∧
    after.tree.node? place = some (.file (.text text)) ∧
    ∀ other, other ≠ place → after.tree.node? other = before.tree.node? other

theorem written_set {view : View} (text : String)
    (h : view.tree.findNew view.cwd path = .ok place) :
    Written view path text { view with tree := view.tree.set place (.file (.text text)) } := by
  obtain ⟨parent, name, rfl, hwritable⟩ := writable_of_findNew h
  exact {
    cwd := rfl
    reads := hwritable.readText_set
    only := ⟨parent ++ [name], h, node?_set_self (by simp), fun _ hother =>
      node?_set_of_ne hother⟩ }

end BindingGen.FileTree
