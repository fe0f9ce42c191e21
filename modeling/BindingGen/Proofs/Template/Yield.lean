import BindingGen.Proofs.Members
import BindingGen.Proofs.Template.Flat
import BindingGen.Proofs.Template.Place
import BindingGen.Template.Render

/-!
# What elements yield

Elements that define no part and note nothing show one text or meet one fault, whatever went on
before them. One rule for each form of element says which, from what its parts yield.
-/

namespace BindingGen.Template

/-! ## Evaluation -/

namespace Eval

variable {α β : Type}

theorem throw_bind (e : RenderError) (next : α → Eval β) :
    (throw e >>= next : Eval β) = throw e := rfl

theorem within_pure (place : Option Place) (a : α) : within place (pure a) = pure a := rfl

theorem within_throw (place : Option Place) (e : RenderError) :
    (within place (throw e) : Eval α) = throw (e.within place) := rfl

theorem enclosed_pure (a : α) : enclosed (pure a) = pure a := rfl

theorem enclosed_throw (e : RenderError) : (enclosed (throw e) : Eval α) = throw e := rfl

end Eval

/-- What an action shows, or the fault that it meets. -/
inductive Yields (action : Eval (List Fragment)) : Except Fault (List Char) → Prop where
  | shows {fragments : List Fragment} {content : List Char} (hpure : action = pure fragments)
      (hflat : Fragment.flatAll? fragments = some content) : Yields action (.ok content)
  | fails {e : RenderError} {fault : Fault} (hthrow : action = throw e) (hfault : e.fault = fault) :
      Yields action (.error fault)

/-! ## Composition -/

namespace Yields

variable {action next : Eval (List Fragment)} {result other : Except Fault (List Char)}

theorem congr {content text : List Char} (h : Yields action (.ok content)) (heq : content = text) :
    Yields action (.ok text) := heq ▸ h

theorem empty : Yields (return []) (.ok []) := .shows rfl rfl

theorem append (h : Yields action result) (hnext : Yields next other) :
    Yields (do let found ← action; return found ++ (← next))
      (do return (← result) ++ (← other)) := by
  cases h with
  | fails hthrow hfault =>
    rw [hthrow]
    exact .fails rfl hfault
  | shows hpure hflat =>
    cases hnext with
    | fails hthrow hfault =>
      rw [hpure, hthrow, pure_bind]
      exact .fails rfl hfault
    | shows hpure' hflat' =>
      rw [hpure, hpure', pure_bind, pure_bind]
      exact .shows rfl (Fragment.flatAll?_append hflat hflat')

theorem within (place : Option Place) (h : Yields action result) :
    Yields (Eval.within place action) result := by
  cases h with
  | fails hthrow hfault =>
    rw [hthrow, Eval.within_throw]
    exact .fails rfl hfault
  | shows hpure hflat =>
    rw [hpure, Eval.within_pure]
    exact .shows rfl hflat

theorem group (fromLineStart : Bool) (h : Yields action result) :
    Yields (do return [.group fromLineStart (← action)]) result := by
  cases h with
  | fails hthrow hfault =>
    rw [hthrow, Eval.throw_bind]
    exact .fails rfl hfault
  | shows hpure hflat =>
    rw [hpure, pure_bind]
    exact .shows rfl (Fragment.flatAll?_group hflat)

theorem enclosed (h : Yields action result) : Yields action.enclosed result := by
  cases h with
  | fails hthrow hfault =>
    rw [hthrow, Eval.enclosed_throw]
    exact .fails rfl hfault
  | shows hpure hflat =>
    rw [hpure, Eval.enclosed_pure]
    exact .shows rfl hflat

end Yields

/-! ## Helpers -/

/-- Whether a condition is told to take zero for true. -/
def includesZero (options : List (String × Argument)) : Bool :=
  match (options.lookup "includeZero").map Argument.content with
  | some (.bool b) => b
  | _ => false

theorem condition_eq {application : Application} {argument : Argument} (positive : Bool)
    (hfirst : application.params[0]? = some argument) :
    Helper.condition positive application = (do
      return .rendered (← application.choose
        (holds (includesZero application.options) argument.content == positive))) := by
  rw [Helper.condition, Application.param, hfirst]
  rfl

/-- The item of a loop at a position of an array. -/
def positioned (entry : Json × Nat) : Helper.Item :=
  ⟨Json.int entry.2, toString entry.2, entry.1, false⟩

theorem each_eq {application : Application} {argument : Argument} {items : List Json} {body : Body}
    (hfirst : application.params[0]? = some argument) (hitems : argument.content = .array items)
    (hbody : application.body = some body) (hinverse : application.inverse = none) :
    Helper.each application = .rendered <$>
      (Helper.renderItems argument application.names application.scopes body
        (items.zipIdx.map positioned).length 0 (items.zipIdx.map positioned)).enclosed := by
  have hitemsOf : Helper.itemsOf argument.content = some (items.zipIdx.map positioned) := by
    rw [hitems]
    rfl
  simp only [Helper.each, Application.param, hfirst, hbody, hinverse, hitemsOf, pure_bind,
    Option.isSome_none, Bool.and_false]
  rfl

theorem Env.applyHelper_of_lookup {env : Env} {name : String} {helper : Helper}
    {application : Application} (h : env.helpers.lookup name = some helper) :
    env.applyHelper name application = helper application := by
  unfold Env.applyHelper
  rw [h]

/-! ## Arguments -/

namespace Env

variable {env : Env} {scopes : Scopes} {place : Place}

theorem evalParam_path {path : Path} {argument : Argument}
    (h : scopes.resolve env.data path = .ok argument) :
    env.evalParam scopes (.path path) = pure argument := by
  rw [evalParam, h]
  rfl

theorem evalParam_call {name : String} {args : Args} {given : Arguments} {helper : Helper}
    {content : List Char} (hargs : env.evalArgs scopes args = pure given)
    (hhelper : env.helpers.lookup name = some helper)
    (happly : helper (application given [] scopes) = pure (.written content)) :
    env.evalParam scopes (.call name args) =
      pure (.computed (.string (String.ofList content))) := by
  rw [evalParam]
  change (do
    let given ← env.evalArgs scopes args
    let outcome ← env.applyHelper name (application given [] scopes)
    return Argument.computed (outcomeValue outcome)) = _
  rw [hargs, pure_bind, applyHelper_of_lookup hhelper, happly]
  rfl

theorem evalArgs_one {param : Param} {argument : Argument}
    (h : env.evalParam scopes param = pure argument) :
    env.evalArgs scopes [(none, param)] = pure ⟨[argument], []⟩ := by
  rw [evalArgs, argActions, argActions, h]
  rfl

theorem evalArgs_two {param second : Param} {argument other : Argument}
    (h : env.evalParam scopes param = pure argument)
    (hsecond : env.evalParam scopes second = pure other) :
    env.evalArgs scopes [(none, param), (none, second)] = pure ⟨[argument, other], []⟩ := by
  rw [evalArgs, argActions, argActions, argActions, h, hsecond]
  rfl

theorem evalArgs_option {param option : Param} {key : String} {argument other : Argument}
    (h : env.evalParam scopes param = pure argument)
    (hoption : env.evalParam scopes option = pure other) :
    env.evalArgs scopes [(none, param), (some key, option)] =
      pure ⟨[argument], [(key, other)]⟩ := by
  rw [evalArgs, argActions, argActions, argActions, h, hoption]
  rfl

/-! ## Elements -/

theorem renderElements_nil : env.renderElements scopes [] = pure [] := rfl

theorem renderElements_cons (element : Element) (rest : List Element) :
    env.renderElements scopes (element :: rest) = (do
      let found ← env.renderElement scopes element
      return found ++ (← env.renderElements scopes rest)) := rfl

theorem renderElement_text (content : List Char) :
    env.renderElement scopes (.text content) = pure [.text content] := rfl

theorem renderElement_value (place : Place) (source : Param) :
    env.renderElement scopes (.value place source) =
      Eval.within place do return [.group false (← env.renderValue scopes source)] := rfl

theorem renderElement_call (place : Place) (call : Call) :
    env.renderElement scopes (.call place call) =
      Eval.within place do
        return [.group false (← env.renderCall scopes call false none none)] := rfl

theorem renderElement_block (place : Option Place) (call : Call) (fromLineStart : Bool)
    (body : List Element) (inverse : Option (List Element)) :
    env.renderElement scopes (.block place call fromLineStart body inverse) =
      Eval.within place do
        return [.group fromLineStart (← env.renderCall scopes call true
          (some fun scopes => env.renderElements scopes body)
          (inverse.map fun elements scopes => env.renderElements scopes elements))] := by
  cases inverse <;> rfl

theorem yields_nil : Yields (env.renderElements scopes []) (.ok []) := by
  rw [renderElements_nil]
  exact .empty

theorem yields_cons {element : Element} {rest : List Element}
    {head tail : Except Fault (List Char)} (hhead : Yields (env.renderElement scopes element) head)
    (htail : Yields (env.renderElements scopes rest) tail) :
    Yields (env.renderElements scopes (element :: rest)) (do return (← head) ++ (← tail)) := by
  rw [renderElements_cons]
  exact hhead.append htail

theorem shows_cons {element : Element} {rest : List Element} {head tail : List Char}
    (hhead : Yields (env.renderElement scopes element) (.ok head))
    (htail : Yields (env.renderElements scopes rest) (.ok tail)) :
    Yields (env.renderElements scopes (element :: rest)) (.ok (head ++ tail)) :=
  yields_cons hhead htail

theorem renderElements_append (first second : List Element) :
    env.renderElements scopes (first ++ second) = (do
      let found ← env.renderElements scopes first
      return found ++ (← env.renderElements scopes second)) := by
  induction first with
  | nil =>
    rw [List.nil_append, renderElements_nil, pure_bind]
    simp only [List.nil_append, bind_pure]
  | cons element rest ih =>
    rw [List.cons_append, renderElements_cons, renderElements_cons, ih]
    simp only [bind_assoc, pure_bind, List.append_assoc]

theorem yields_append {first second : List Element} {head tail : Except Fault (List Char)}
    (hfirst : Yields (env.renderElements scopes first) head)
    (hsecond : Yields (env.renderElements scopes second) tail) :
    Yields (env.renderElements scopes (first ++ second)) (do return (← head) ++ (← tail)) := by
  rw [renderElements_append]
  exact hfirst.append hsecond

theorem yields_text (content : List Char) :
    Yields (env.renderElement scopes (.text content)) (.ok content) := by
  rw [renderElement_text]
  exact .shows rfl (congrArg some (List.append_nil content))

/-- What an argument shows, or that it leads nowhere. -/
def shownArgument (argument : Argument) : Except Fault (List Char) :=
  match argument.value with
  | some value => .ok (shown value)
  | none => .error (.missingVariable argument.written)

theorem yields_path {path : Path} {argument : Argument}
    (hname : env.helpers.lookup path.written = none)
    (hpath : scopes.resolve env.data path = .ok argument) :
    Yields (env.renderElement scopes (.value place (.path path))) (shownArgument argument) := by
  have hshown : env.renderValue scopes (.path path) = showValue argument := by
    rw [renderValue, loneName, pure_bind, hname]
    change evalParam env scopes (.path path) >>= showValue = _
    rw [evalParam_path hpath, pure_bind]
  rw [renderElement_value]
  apply Yields.within
  apply Yields.group
  rw [hshown, showValue, shownArgument]
  cases argument.value with
  | none => exact .fails rfl rfl
  | some value => exact .shows rfl (congrArg some (List.append_nil _))

theorem yields_value {path : Path} {argument : Argument} {value : Json}
    (hname : env.helpers.lookup path.written = none)
    (hpath : scopes.resolve env.data path = .ok argument) (hvalue : argument.value = some value) :
    Yields (env.renderElement scopes (.value place (.path path))) (.ok (shown value)) := by
  have hshown : shownArgument argument = .ok (shown value) := by rw [shownArgument, hvalue]
  rw [← hshown]
  exact yields_path hname hpath

theorem yields_call {call : Call} {given : Arguments} {helper : Helper}
    {result : Except Fault (List Char)} (hargs : env.evalArgs scopes call.args = pure given)
    (hhelper : env.helpers.lookup call.name = some helper)
    (happly : helper (application given call.names scopes) = Eval.lift (result.map .written)) :
    Yields (env.renderElement scopes (.call place call)) result := by
  rw [renderElement_call]
  apply Yields.within
  apply Yields.group
  rw [renderCall, hargs, pure_bind]
  change Yields (applyHelper env call.name (application given call.names scopes) >>= _) result
  rw [applyHelper_of_lookup hhelper, happly]
  cases result with
  | error fault => exact .fails rfl rfl
  | ok content => exact .shows rfl (congrArg some (List.append_nil content))

theorem shows_call {call : Call} {given : Arguments} {helper : Helper} {content : List Char}
    (hargs : env.evalArgs scopes call.args = pure given)
    (hhelper : env.helpers.lookup call.name = some helper)
    (happly : helper (application given call.names scopes) = pure (.written content)) :
    Yields (env.renderElement scopes (.call place call)) (.ok content) :=
  yields_call hargs hhelper happly

/-- What a condition decides, and which of its bodies that chooses. -/
def Decides (scopes : Scopes) (env : Env) (args : Args) (verdict : Bool) : Prop :=
  ∃ given argument, env.evalArgs scopes args = pure given ∧ given.params[0]? = some argument ∧
    holds (includesZero given.options) argument.content = verdict

/-- A condition renders one of its bodies in the scope around it. -/
theorem yields_condition {place : Option Place} {name : String} {args : Args}
    {positive verdict fromLineStart : Bool} {body : List Element} {inverse : Option (List Element)}
    {result : Except Fault (List Char)} (hdecides : Decides scopes env args verdict)
    (hhelper : env.helpers.lookup name = some (Helper.condition positive))
    (hchosen : Yields (env.renderElements scopes
      (if verdict == positive then body else inverse.getD [])) result) :
    Yields (env.renderElement scopes (.block place ⟨name, args, []⟩ fromLineStart body inverse))
      result := by
  obtain ⟨given, argument, hargs, hfirst, hverdict⟩ := hdecides
  rw [renderElement_block]
  apply Yields.within
  apply Yields.group
  rw [renderCall, hargs, pure_bind]
  change Yields (applyHelper env name _ >>= _) result
  rw [applyHelper_of_lookup hhelper, condition_eq positive hfirst, bind_assoc]
  simp only [pure_bind, outcomeFragments, bind_pure, Application.choose, application, hverdict]
  -- The body that is chosen is rendered in the scope of the block itself.
  by_cases h : (verdict == positive) = true
  · rw [if_pos h] at hchosen
    rw [if_pos h, Application.runBody]
    exact hchosen
  · rw [if_neg h] at hchosen
    rw [if_neg h]
    cases inverse with
    | some elements => exact hchosen
    | none =>
      rw [Option.getD_none, renderElements] at hchosen
      exact hchosen

/-! ## Loops -/

/-- What the rounds of a loop show one after another, up to the first fault. -/
def roundsFrom {α : Type} (round : Nat → α → Except Fault (List Char)) :
    Nat → List α → Except Fault (List Char)
  | _, [] => .ok []
  | i, x :: rest => do return (← round i x) ++ (← roundsFrom round (i + 1) rest)

theorem roundsFrom_ok {α : Type} (shown : Nat → α → List Char) (n : Nat) (values : List α) :
    roundsFrom (fun i value => .ok (shown i value)) n values =
      .ok ((values.zipIdx n).flatMap fun entry => shown entry.2 entry.1) := by
  induction values generalizing n with
  | nil => rfl
  | cons value rest ih =>
    rw [roundsFrom, ih, List.zipIdx_cons, List.flatMap_cons]
    rfl

/-- The block of the item at `i` of an array that stands somewhere in the data. -/
structure ItemAt (data : Json) (i : Nat) (value : Json) (block : Block) : Prop where
  standsAt : block.StandsAt data value
  index : block.locals.lookup "index" = some (Json.int i)

theorem itemAt_itemBlock {data : Json} {argument : Argument} {origin : List String}
    {items : List Json} {value : Json} {i total : Nat} (horigin : argument.origin = some origin)
    (hwalk : walk (some data) origin = .ok (some (.array items))) (hi : items[i]? = some value) :
    ItemAt data i value
      (Helper.itemBlock argument [] total ⟨Json.int i, toString i, value, false⟩ i) where
  standsAt := by
    refine ⟨by simp [Helper.itemBlock, horigin], rfl, ?_⟩
    have hblock : (Helper.itemBlock argument [] total ⟨Json.int i, toString i, value, false⟩
        i).origin = origin ++ [toString i] := by
      simp [Helper.itemBlock, horigin]
    rw [hblock, walk_append, hwalk]
    change item? items (toString i) >>= (walk · []) = _
    rw [item?_toString hi]
    rfl
  index := by simp [Helper.itemBlock, KeyOrder.lookup_cons_pair]

/-- The rounds for what is left of an array from position `n` on. -/
theorem yields_renderItems {α : Type} {make : α → Json} {argument : Argument} {body : Body}
    {total : Nat} {round : Nat → α → Except Fault (List Char)} (rest : List α) (n : Nat)
    (hround : ∀ i value, rest[i]? = some value →
      Yields (body (Helper.itemBlock argument [] total (positioned (make value, n + i)) (n + i) ::
        scopes)) (round (n + i) value)) :
    Yields (Helper.renderItems argument [] scopes body total n
      (((rest.map make).zipIdx n).map positioned)) (roundsFrom round n rest) := by
  induction rest generalizing n with
  | nil => exact .empty
  | cons value rest ih =>
    have hfirst := hround 0 value rfl
    have hrest := ih (n + 1) fun i other hi => by
      have h := hround (i + 1) other hi
      rwa [show n + (i + 1) = n + 1 + i by omega] at h
    exact hfirst.append hrest

/-- A loop over an array of the data yields what its items do. -/
theorem yields_items {place : Option Place} {items : List Json} {path : Path}
    {argument : Argument} {fromLineStart : Bool} {body : List Element}
    {result : Except Fault (List Char)} (hhelper : env.helpers.lookup "each" = some Helper.each)
    (hpath : scopes.resolve env.data path = .ok argument)
    (hitems : argument.content = .array items)
    (h : Yields (Helper.renderItems argument [] scopes
      (fun scopes => env.renderElements scopes body) (items.zipIdx.map positioned).length 0
      (items.zipIdx.map positioned)) result) :
    Yields (env.renderElement scopes
      (.block place ⟨"each", [(none, .path path)], []⟩ fromLineStart body none)) result := by
  rw [renderElement_block]
  apply Yields.within
  apply Yields.group
  rw [renderCall, evalArgs_one (evalParam_path hpath), pure_bind]
  change Yields (applyHelper env "each" _ >>= _) _
  rw [applyHelper_of_lookup hhelper, each_eq rfl hitems rfl rfl, map_eq_pure_bind, bind_assoc]
  simp only [pure_bind, outcomeFragments, bind_pure]
  apply Yields.enclosed
  exact h

theorem yields_each {α : Type} {place : Option Place} {make : α → Json} {values : List α}
    {path : Path} {written : Option String} {origin : List String} {fromLineStart : Bool}
    {body : List Element} {round : Nat → α → Except Fault (List Char)}
    (hhelper : env.helpers.lookup "each" = some Helper.each)
    (hpath : scopes.resolve env.data path =
      .ok ⟨written, some (.array (values.map make)), some origin⟩)
    (hwalk : walk (some env.data) origin = .ok (some (.array (values.map make))))
    (hround : ∀ i value, values[i]? = some value →
      ∀ block, ItemAt env.data i (make value) block →
        Yields (env.renderElements (block :: scopes) body) (round i value)) :
    Yields (env.renderElement scopes
      (.block place ⟨"each", [(none, .path path)], []⟩ fromLineStart body none))
      (roundsFrom round 0 values) := by
  apply yields_items hhelper hpath rfl
  apply yields_renderItems values 0
  intro i value hi
  rw [Nat.zero_add]
  apply hround i value hi
  exact itemAt_itemBlock rfl hwalk (by rw [List.getElem?_map, hi]; rfl)

theorem shows_each {α : Type} {place : Option Place} {make : α → Json} {values : List α}
    {path : Path} {written : Option String} {origin : List String} {fromLineStart : Bool}
    {body : List Element} {shown : Nat → α → List Char}
    (hhelper : env.helpers.lookup "each" = some Helper.each)
    (hpath : scopes.resolve env.data path =
      .ok ⟨written, some (.array (values.map make)), some origin⟩)
    (hwalk : walk (some env.data) origin = .ok (some (.array (values.map make))))
    (hround : ∀ i value, values[i]? = some value →
      ∀ block, ItemAt env.data i (make value) block →
        Yields (env.renderElements (block :: scopes) body) (.ok (shown i value))) :
    Yields (env.renderElement scopes
      (.block place ⟨"each", [(none, .path path)], []⟩ fromLineStart body none))
      (.ok (values.zipIdx.flatMap fun entry => shown entry.2 entry.1)) := by
  rw [← roundsFrom_ok]
  exact yields_each hhelper hpath hwalk hround

end Env

end BindingGen.Template
