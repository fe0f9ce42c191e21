import BindingGen.Proofs.Vocabulary

/-!
# Signatures of the vocabulary

What each helper of the vocabulary wants of its arguments. Every helper looks at its arguments in
their order and stops at the first that does not lead to a value of its kind. One that leads nowhere
is a missing name, whatever kind the helper wants, and only a null that is there counts as null.
-/

namespace BindingGen.Vocabulary

open Template

/-! ## Kinds of arguments -/

inductive ArgKind where
  | text
  | list
  | comment
  | count
  | nativeType
  deriving DecidableEq, Repr

namespace ArgKind

def accepts : ArgKind → Json → Bool
  | text, .string _ => true
  | list, .array _ => true
  | comment, .null => true
  | comment, .string _ => true
  | count, value => (count? value).isSome
  | nativeType, .string spelling => (NativeType.ofAnnotation? spelling).isSome
  | _, _ => false

/-- The kind of value that a message asks for. -/
def expected : ArgKind → String
  | text => "a string"
  | list => "an array"
  | comment => "a string or null"
  | count => "a non-negative integer"
  | nativeType => "a string"

/-- The fault of a value that is not accepted. -/
def refusal (kind : ArgKind) (helper : String) (index : Nat) (value : Json) : Fault :=
  match kind, value with
  | nativeType, .string spelling => .unsupportedType spelling
  | _, _ => .argumentKind helper index kind.expected

/-- What is wrong with an argument, if anything is. -/
def fault? (kind : ArgKind) (helper : String) (index : Nat) (argument : Argument) : Option Fault :=
  match argument.value with
  | none =>
    some (.missingVariable (argument.written.getD (helper ++ " argument " ++ toString index)))
  | some value => if kind.accepts value then none else some (kind.refusal helper index value)

theorem fault?_missing {argument : Argument} {written : String} (kind : ArgKind) (helper : String)
    (index : Nat) (hwritten : argument.written = some written) (hvalue : argument.value = none) :
    kind.fault? helper index argument = some (.missingVariable written) := by
  rw [fault?, hvalue, hwritten]
  rfl

theorem fault?_eq_none_iff {kind : ArgKind} {helper : String} {index : Nat} {argument : Argument} :
    kind.fault? helper index argument = none ↔
      ∃ value, argument.value = some value ∧ kind.accepts value = true := by
  unfold fault?
  cases argument.value with
  | none => simp
  | some value => simp

end ArgKind

/-- The first fault of some arguments, which count from `index`. -/
def firstFault? (helper : String) : Nat → List ArgKind → List Argument → Option Fault
  | _, [], _ => none
  | _, _ :: _, [] => none
  | index, kind :: kinds, argument :: arguments =>
    (kind.fault? helper index argument).or (firstFault? helper (index + 1) kinds arguments)

/-! ## Checks -/

/-- An action that stops at a fault, if there is one, and else gives a value of some form. -/
inductive Checks {α : Type} (fault : Option Fault) (form : α → Prop) (action : Eval α) : Prop where
  | passes {value : α} (hform : form value) (hfault : fault = none) (haction : action = pure value)
  | stops {found : Fault} (hfault : fault = some found) (haction : action = Eval.fail found)

section

variable {α β : Type} {fault more : Option Fault} {form : α → Prop} {other : β → Prop}

theorem Checks.bind {action : Eval α} {next : α → Eval β} (h : Checks fault form action)
    (hnext : ∀ value, form value → Checks more other (next value)) :
    Checks (fault.or more) other (action >>= next) := by
  cases h with
  | stops hfault haction =>
    subst hfault haction
    exact .stops rfl rfl
  | passes hform hfault haction =>
    subst hfault haction
    rw [Option.none_or, pure_bind]
    exact hnext _ hform

theorem Checks.map {action : Eval α} {next : α → β} (h : Checks fault form action)
    (hnext : ∀ value, form value → other (next value)) :
    Checks fault other (do return next (← action)) := by
  cases h with
  | stops hfault haction => exact .stops hfault (by rw [haction]; rfl)
  | passes hform hfault haction =>
    exact .passes (hnext _ hform) hfault (by rw [haction]; rfl)

end

variable {application : Application} {argument : Argument} {helper : String} {index : Nat}

theorem given_missing (h : application.params[index]? = some argument)
    (hvalue : argument.value = none) :
    given application helper index =
      Eval.fail (.missingVariable
        (argument.written.getD (helper ++ " argument " ++ toString index))) := by
  simp only [given, h, hvalue]

theorem checks_given {α : Type} {form : α → Prop} {next : Json → Eval α} (kind : ArgKind)
    (h : application.params[index]? = some argument)
    (hnext : ∀ value, argument.value = some value →
      Checks (if kind.accepts value then none else some (kind.refusal helper index value)) form
        (next value)) :
    Checks (kind.fault? helper index argument) form (given application helper index >>= next) := by
  unfold ArgKind.fault?
  cases hvalue : argument.value with
  | none =>
    rw [given_missing h hvalue]
    exact .stops rfl rfl
  | some value =>
    have hgiven : value? application index = some value := by
      rw [value?, h, Option.bind_some, hvalue]
    rw [given_eq hgiven, pure_bind]
    exact hnext value hvalue

theorem checks_text (h : application.params[index]? = some argument) :
    Checks (ArgKind.text.fault? helper index argument) (fun _ => True)
      (text application helper index) := by
  refine checks_given .text h fun value _ => ?_
  cases value with
  | string s => exact .passes trivial rfl rfl
  | _ => exact .stops rfl rfl

theorem checks_comment (h : application.params[0]? = some argument) :
    Checks (ArgKind.comment.fault? "to_doc_text" 0 argument) (fun _ => True)
      (comment application) := by
  refine checks_given .comment h fun value _ => ?_
  cases value with
  | null => exact .passes trivial rfl rfl
  | string s => exact .passes trivial rfl rfl
  | _ => exact .stops rfl rfl

theorem checks_depth (h : application.params[1]? = some argument) :
    Checks (ArgKind.count.fault? "to_doc_text" 1 argument) (fun _ => True) (depth application) := by
  have hlength : ¬ application.params.length ≤ 1 :=
    Nat.not_le.mpr (List.getElem?_eq_some_iff.mp h).1
  rw [depth, if_neg hlength]
  refine checks_given .count h fun value _ => ?_
  rw [ArgKind.accepts]
  cases count? value with
  | none => exact .stops rfl rfl
  | some n => exact .passes trivial rfl rfl

/-! ## Helpers -/

def IsWritten (outcome : Outcome) : Prop := ∃ content, outcome = .written content

/-- A helper that checks arguments of some kinds, and writes a text if nothing is wrong. -/
def Obeys (run : Helper) (name : String) (kinds : List ArgKind) : Prop :=
  ∀ application : Application, application.params.length = kinds.length →
    Checks (firstFault? name 0 kinds application.params) IsWritten (run application)

theorem obeys_one {run : Helper} {name : String} {kind : ArgKind}
    (h : ∀ (application : Application) (argument : Argument),
      application.params[0]? = some argument →
        Checks (kind.fault? name 0 argument) IsWritten (run application)) :
    Obeys run name [kind] := by
  intro application hlength
  obtain ⟨argument, hparams⟩ := List.length_eq_one_iff.mp hlength
  have hcheck := h application argument (by rw [hparams]; rfl)
  rw [hparams, firstFault?, firstFault?, Option.or_none]
  exact hcheck

theorem obeys_two {run : Helper} {name : String} {first second : ArgKind}
    (h : ∀ (application : Application) (argument other : Argument),
      application.params[0]? = some argument → application.params[1]? = some other →
        Checks ((first.fault? name 0 argument).or (second.fault? name 1 other)) IsWritten
          (run application)) :
    Obeys run name [first, second] := by
  intro application hlength
  match hparams : application.params, hlength with
  | [argument, other], _ =>
    have hcheck := h application argument other (by rw [hparams]; rfl) (by rw [hparams]; rfl)
    rw [firstFault?, firstFault?, firstFault?, Option.or_none]
    exact hcheck

theorem obeys_mapText (name : String) (f : String → String) :
    Obeys (mapText name f) name [.text] :=
  obeys_one fun _ _ h => (checks_text h).map fun _ _ => ⟨_, rfl⟩

theorem obeys_sharedPrefix : Obeys sharedPrefix "common_prefix" [.list] :=
  obeys_one fun _ _ h => checks_given .list h fun value _ => by
    cases value with
    | array members => exact .passes ⟨_, rfl⟩ rfl rfl
    | _ => exact .stops rfl rfl

theorem obeys_stripped : Obeys stripped "strip_prefix" [.text, .text] :=
  obeys_two fun _ _ _ h hother =>
    (checks_text h).bind fun _ _ => (checks_text hother).map fun _ _ => ⟨_, rfl⟩

theorem obeys_docText_comment : Obeys docText "to_doc_text" [.comment] := by
  intro application hlength
  have hone : application.params.length ≤ 1 := Nat.le_of_eq hlength
  have hdepth : depth application = pure 0 := by
    rw [depth, if_pos hone]
  obtain ⟨argument, hparams⟩ := List.length_eq_one_iff.mp hlength
  have hfirst : application.params[0]? = some argument := by rw [hparams]; rfl
  rw [docText, hdepth, hparams, firstFault?, firstFault?, Option.or_none]
  exact (checks_comment hfirst).map fun _ _ => ⟨_, rfl⟩

theorem obeys_docText : Obeys docText "to_doc_text" [.comment, .count] :=
  obeys_two fun _ _ _ h hother =>
    (checks_comment h).bind fun _ _ => (checks_depth hother).map fun _ _ => ⟨_, rfl⟩

theorem obeys_mappedType : Obeys mappedType "map_type" [.nativeType] :=
  obeys_one fun application argument h => by
    rw [mappedType, text, bind_assoc]
    refine checks_given .nativeType h fun value _ => ?_
    cases value with
    | string spelling =>
      rw [ArgKind.accepts, pure_bind]
      cases NativeType.ofAnnotation? spelling with
      | none => exact .stops rfl rfl
      | some type => exact .passes ⟨_, rfl⟩ rfl rfl
    | _ => exact .stops rfl rfl

/-- The helpers of the vocabulary, with the kinds of their arguments. -/
def signatures : List (String × List ArgKind) :=
  [("normalize", [.text]), ("to_upper_snake", [.text]), ("common_prefix", [.list]),
    ("strip_prefix", [.text, .text]), ("to_doc_text", [.comment]),
    ("to_doc_text", [.comment, .count]), ("map_type", [.nativeType]), ("path_dirname", [.text]),
    ("path_basename", [.text])]

example : (signatures.map (·.1)).eraseDups = helpers.map (·.1) := by decide

/-- **Every helper obeys its signature.** -/
theorem obeys_of_mem {name : String} {kinds : List ArgKind} (h : (name, kinds) ∈ signatures) :
    ∃ run, all.lookup name = some run ∧ Obeys run name kinds := by
  simp only [signatures, List.mem_cons, List.not_mem_nil, or_false, Prod.mk.injEq] at h
  rcases h with ⟨rfl, rfl⟩ | ⟨rfl, rfl⟩ | ⟨rfl, rfl⟩ | ⟨rfl, rfl⟩ | ⟨rfl, rfl⟩ | ⟨rfl, rfl⟩ |
    ⟨rfl, rfl⟩ | ⟨rfl, rfl⟩ | ⟨rfl, rfl⟩
  · exact ⟨_, rfl, obeys_mapText _ _⟩
  · exact ⟨_, rfl, obeys_mapText _ _⟩
  · exact ⟨_, rfl, obeys_sharedPrefix⟩
  · exact ⟨_, rfl, obeys_stripped⟩
  · exact ⟨_, rfl, obeys_docText_comment⟩
  · exact ⟨_, rfl, obeys_docText⟩
  · exact ⟨_, rfl, obeys_mappedType⟩
  · exact ⟨_, rfl, obeys_mapText _ _⟩
  · exact ⟨_, rfl, obeys_mapText _ _⟩

end BindingGen.Vocabulary
