import BindingGen.Proofs.Template.Literal
import BindingGen.Proofs.Template.Lookup
import BindingGen.Proofs.Vocabulary.Signature
import Mathlib.Data.List.Forall2

/-!
# Uses of a key

A tag that shows the member under a key, or gives it to a helper in any of its places, with literals
in the others. What it meets in an element depends on that element only: a missing key is a missing
name, and a value that is there is only refused for its kind.
-/

namespace BindingGen.Reference

open Template Template.Grammar Vocabulary

/-! ## Uses -/

/-- Literals that a helper takes for some kinds of arguments. -/
abbrev Typed (literals : List Literal) (kinds : List ArgKind) : Prop :=
  List.Forall₂ (fun literal kind => kind.accepts literal.value = true) literals kinds

/-- A place for a key among the arguments of a helper. The other arguments are literals of the kinds
that the helper wants there. -/
structure Slot where
  helper : String
  front : List Literal
  kind : ArgKind
  behind : List Literal
  frontKinds : List ArgKind
  behindKinds : List ArgKind
  signature : (helper, frontKinds ++ kind :: behindKinds) ∈ signatures
  frontTyped : Typed front frontKinds
  behindTyped : Typed behind behindKinds

/-- A key is shown, or given to a helper. -/
inductive Use where
  | shown
  | argument (slot : Slot)

def literalText (literals : List Literal) : List Char :=
  literals.flatMap fun literal => ' ' :: literal.word.text

def Use.text (key : String) : Use → List Char
  | shown => key.toList
  | argument slot =>
    slot.helper.toList ++ literalText slot.front ++ ' ' :: key.toList ++ literalText slot.behind

/-- What is wrong with an element for a use of a key. -/
def Use.fault? (key : String) (use : Use) (element : Json.Members) : Option Fault :=
  match element.sort.lookup key with
  | none => some (.missingVariable key)
  | some value =>
    match use with
    | shown => none
    | argument slot =>
      if slot.kind.accepts value then none
      else some (slot.kind.refusal slot.helper slot.front.length value)

/-- Whether an element has the key, with a value of the kind that a helper wants. -/
def Use.Works (key : String) (use : Use) (element : Json.Members) : Prop :=
  match use with
  | shown => key ∈ element.map (·.1)
  | argument slot =>
    ∃ value, element.sort.lookup key = some value ∧ slot.kind.accepts value = true

variable {key : String} {element : Json.Members}

theorem lookup_sort_eq_none_iff (key : String) (element : Json.Members) :
    element.sort.lookup key = none ↔ key ∉ element.map (·.1) := by
  rw [Json.Members.sort, KeyOrder.lookup_ofList, List.lookup_eq_none_iff, List.mem_map, not_exists]
  simp only [List.mem_reverse, bne_iff_ne, not_and]
  exact forall_congr' fun entry => forall_congr' fun _ => ne_comm

theorem fault?_missing (use : Use) (h : key ∉ element.map (·.1)) :
    use.fault? key element = some (.missingVariable key) := by
  rw [Use.fault?, (lookup_sort_eq_none_iff key element).mpr h]

theorem fault?_eq_none_iff (use : Use) : use.fault? key element = none ↔ use.Works key element := by
  cases hvalue : element.sort.lookup key with
  | none =>
    have hmissing := (lookup_sort_eq_none_iff key element).mp hvalue
    cases use with
    | shown => simp [Use.fault?, Use.Works, hvalue, hmissing]
    | argument slot => simp [Use.fault?, Use.Works, hvalue]
  | some value =>
    have hpresent : key ∈ element.map (·.1) := Decidable.byContradiction fun hmissing => by
      rw [(lookup_sort_eq_none_iff key element).mpr hmissing] at hvalue
      cases hvalue
    cases use with
    | shown => simp [Use.fault?, Use.Works, hvalue, hpresent]
    | argument slot => simp [Use.fault?, Use.Works, hvalue]

/-! ## Arguments -/

/-- What an argument is worth, where every argument but the literals is worth `found`. -/
def evaluate (found : Argument) : Param → Argument
  | .literal value => .computed value
  | _ => found

theorem map_evaluate (found : Argument) (literals : List Literal) :
    literals.map (fun literal => evaluate found literal.word.param) =
      literals.map fun literal => .computed literal.value := by
  refine List.map_congr_left fun literal _ => ?_
  rw [literal.param_eq]
  rfl

theorem firstFault?_literals (helper : String) {literals : List Literal} {kinds : List ArgKind}
    (h : Typed literals kinds) (index : Nat) (more : List ArgKind) (others : List Argument) :
    firstFault? helper index (kinds ++ more)
        (literals.map (fun literal => Argument.computed literal.value) ++ others) =
      firstFault? helper (index + literals.length) more others := by
  induction h generalizing index with
  | nil => rfl
  | @cons literal kind literals kinds haccepts _ ih =>
    have hfault : kind.fault? helper index (.computed literal.value) = none :=
      ArgKind.fault?_eq_none_iff.mpr ⟨literal.value, rfl, haccepts⟩
    simp only [List.map_cons, List.cons_append, firstFault?, hfault, Option.none_or, ih,
      List.length_cons]
    congr 1
    omega

namespace Slot

variable (slot : Slot)

def words (h : IsKey key) : List Word :=
  slot.front.map (·.word) ++ .ofKey key h :: slot.behind.map (·.word)

def kinds : List ArgKind := slot.frontKinds ++ slot.kind :: slot.behindKinds

def arguments (h : IsKey key) (found : Argument) : List Argument :=
  (slot.words h).map fun word => evaluate found word.param

theorem text_eq (h : IsKey key) :
    (Use.argument slot).text key = slot.helper.toList ++ argText (slot.words h) := by
  simp [Use.text, literalText, argText, words, Word.ofKey, Word.ofParam, List.flatMap_map]

theorem arguments_eq (h : IsKey key) (found : Argument) :
    slot.arguments h found =
      slot.front.map (fun literal => .computed literal.value) ++
        found :: slot.behind.map fun literal => .computed literal.value := by
  rw [arguments, words, List.map_append, List.map_cons, List.map_map, List.map_map]
  exact congr (congrArg _ (map_evaluate found slot.front))
    (congrArg (List.cons found) (map_evaluate found slot.behind))

/-- Only the key can be wrong. -/
theorem firstFault?_eq (h : IsKey key) (found : Argument) :
    firstFault? slot.helper 0 slot.kinds (slot.arguments h found) =
      slot.kind.fault? slot.helper slot.front.length found := by
  have hbehind :=
    firstFault?_literals slot.helper slot.behindTyped (0 + slot.front.length + 1) [] []
  rw [List.append_nil, List.append_nil] at hbehind
  rw [slot.arguments_eq h, kinds, firstFault?_literals slot.helper slot.frontTyped, firstFault?,
    hbehind, firstFault?, Option.or_none, Nat.zero_add]

theorem length_arguments (h : IsKey key) (found : Argument) :
    (slot.arguments h found).length = slot.kinds.length := by
  rw [slot.arguments_eq h, kinds, List.length_append, List.length_cons, List.length_map,
    List.length_map, List.length_append, List.length_cons, slot.frontTyped.length_eq,
    slot.behindTyped.length_eq]

theorem mem_words (h : IsKey key) {word : Word} (hword : word ∈ slot.words h) :
    (∃ value, word.param = .literal value) ∨
      word.param = .path (Scopes.fieldPath key 0 key) := by
  have hliteral : ∀ literals : List Literal, word ∈ literals.map (·.word) →
      ∃ value, word.param = .literal value := by
    intro literals hmem
    obtain ⟨literal, _, rfl⟩ := List.mem_map.mp hmem
    exact ⟨literal.value, literal.param_eq⟩
  rcases List.mem_append.mp hword with hfront | hrest
  · exact .inl (hliteral slot.front hfront)
  · rcases List.mem_cons.mp hrest with rfl | hbehind
    · exact .inr rfl
    · exact .inl (hliteral slot.behind hbehind)

theorem firstInvalidArg_words (h : IsKey key) :
    firstInvalidArg (readArgs (slot.words h)) = none := by
  refine firstInvalidArg_readArgs fun word hword => ?_
  rcases slot.mem_words h hword with ⟨value, hparam⟩ | hparam <;> rw [hparam] <;> rfl

theorem evalArgs_words {env : Env} {scopes : Scopes} {found : Argument} (h : IsKey key)
    (hpath : scopes.resolve env.data (Scopes.fieldPath key 0 key) = .ok found) :
    env.evalArgs scopes (readArgs (slot.words h)) = pure ⟨slot.arguments h found, []⟩ := by
  refine Env.evalArgs_readArgs (evaluate found) fun word hword => ?_
  rcases slot.mem_words h hword with ⟨value, hparam⟩ | hparam
  · rw [hparam]
    rfl
  · rw [hparam]
    exact Env.evalParam_path hpath

end Slot

/-! ## Rendering a use -/

theorem meets_call {env : Env} {scopes : Scopes} {place : Place} {call : Call}
    {given : Env.Arguments} {helper : Helper} {fault : Option Fault}
    (hargs : env.evalArgs scopes call.args = pure given)
    (hhelper : env.helpers.lookup call.name = some helper)
    (h : Checks fault IsWritten (helper (Env.application given call.names scopes))) :
    Meets (env.renderElement scopes (.call place call)) fault := by
  cases h with
  | stops hfault haction =>
    exact ⟨.error _, hfault.symm, Env.yields_call hargs hhelper haction⟩
  | passes hform hfault haction =>
    obtain ⟨content, rfl⟩ := hform
    exact ⟨.ok content, hfault.symm, Env.yields_call hargs hhelper haction⟩

/-- An element of a template that meets the fault of a use, in whatever element of the data. -/
def Shows (use : Use) (key : String) (element : Place → Element) : Prop :=
  ∀ (env : Env) (scopes : Scopes) (block : Block) (members : Json.Members) (place : Place),
    env.helpers = Vocabulary.all → scopes.GiveNothing →
      block.StandsAt env.data (Json.ofMembers members) →
        Meets (env.renderElement (block :: scopes) (element place)) (use.fault? key members)

theorem shows_path (hfree : Vocabulary.all.lookup key = none) :
    Shows .shown key fun place => .value place (.path (Scopes.fieldPath key 0 key)) := by
  intro env scopes block members place hhelpers hscopes hblock
  obtain ⟨argument, hpath, hwritten, hvalue⟩ := Scopes.resolve_key hscopes hblock key
  have hname : env.helpers.lookup (Scopes.fieldPath key 0 key).written = none := by
    rw [hhelpers]
    exact hfree
  have hfault : (if argument.value.isSome then none else some (.missingVariable argument.written)) =
      Use.shown.fault? key members := by
    rw [Use.fault?, hwritten, hvalue]
    cases members.sort.lookup key <;> rfl
  rw [← hfault]
  exact Env.meets_path hname hpath

theorem shows_call (slot : Slot) (h : IsKey key) :
    Shows (.argument slot) key fun place =>
      .call place ⟨slot.helper, readArgs (slot.words h), []⟩ := by
  intro env scopes block members place hhelpers hscopes hblock
  obtain ⟨found, hpath, hwritten, hvalue⟩ := Scopes.resolve_key hscopes hblock key
  obtain ⟨helper, hhelper, hobeys⟩ := obeys_of_mem slot.signature
  have hlookup : env.helpers.lookup slot.helper = some helper := by rw [hhelpers, hhelper]
  have hargs := slot.evalArgs_words h hpath
  have hchecks := hobeys (Env.application ⟨slot.arguments h found, []⟩ [] (block :: scopes))
    (slot.length_arguments h found)
  have hfault : slot.kind.fault? slot.helper slot.front.length found =
      (Use.argument slot).fault? key members := by
    rw [ArgKind.fault?, Use.fault?, hvalue, hwritten]
    rfl
  rw [← hfault, ← slot.firstFault?_eq h found]
  exact meets_call hargs hlookup hchecks

theorem exists_tag (use : Use) (h : IsKey key) (hfree : Vocabulary.all.lookup key = none)
    (hshown : use = .shown → isContinuation key = false) :
    ∃ (tag : WrittenTag) (element : Place → Element),
      tag.inside = use.text key ∧ ShownAs tag.tag element ∧ Shows use key element := by
  cases use with
  | shown => exact ⟨keyTag key h (hshown rfl), _, rfl, shownAs_path _, shows_path hfree⟩
  | argument slot =>
    have hnames : ∀ entry ∈ signatures,
        isIdentifier entry.1.toList = true ∧ isContinuation entry.1 = false := by decide
    obtain ⟨hname, helse⟩ := hnames _ slot.signature
    have hwords : slot.words h ≠ [] := List.append_ne_nil_of_right_ne_nil _ (List.cons_ne_nil _ _)
    exact ⟨callTag slot.helper (slot.words h) hname helse hwords, _, (slot.text_eq h).symm,
      shownAs_call (slot.firstInvalidArg_words h), shows_call slot h⟩

end BindingGen.Reference
