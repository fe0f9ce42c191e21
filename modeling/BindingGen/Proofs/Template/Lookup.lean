import BindingGen.Proofs.Outcome
import BindingGen.Proofs.Template.Loop
import BindingGen.Proofs.Template.Yield

/-!
# Looking up members

What a key leads to in the object that the innermost block stands at: the member of its name, and
nothing if there is none, whatever the blocks around it hold. A loop meets the first fault that its
items do, in their order.
-/

namespace BindingGen.Template

/-! ## Keys -/

/-- No block but the innermost is asked for a key. -/
theorem Scopes.resolve_key {data : Json} {scopes : Scopes} {block : Block} {members : Json.Members}
    (hscopes : scopes.GiveNothing) (hblock : block.StandsAt data (.object members)) (key : String) :
    ∃ argument, Scopes.resolve data (block :: scopes) (fieldPath key 0 key) = .ok argument ∧
      argument.written = some key ∧ argument.value = members.lookup key := by
  have hwalk : walk (some data) (block.origin ++ [key]) = .ok (members.lookup key) := by
    rw [walk_append, hblock.found]
    rfl
  have hgiven := given?_eq_none (hscopes.cons hblock) key
  let argument : Argument := ⟨some key, members.lookup key,
    if (members.lookup key).isSome then some (block.origin ++ [key]) else none⟩
  have hown : inBlock data key block [key] = .ok argument := by
    rw [inBlock, hblock.computed]
    dsimp only
    rw [inData, hwalk]
    rfl
  refine ⟨argument, ?_, rfl, rfl⟩
  rw [← hown]
  simp only [resolve, below, fieldPath, List.head?_cons, Option.bind_some, hgiven]
  rfl

namespace Env

variable {env : Env} {scopes : Scopes}

theorem collect_pure (arguments : List Argument) :
    collect (arguments.map fun argument => (none, pure argument)) = pure ⟨arguments, []⟩ := by
  have hvalues : (arguments.map fun argument => (pure argument : Eval Argument)).mapM id =
      pure arguments := by
    rw [List.mapM_map, Function.id_comp, List.mapM_pure, List.map_id']
  simp only [collect, List.filterMap_map, Function.comp_def, Option.isNone_none, if_true,
    Option.map_none, List.filterMap_eq_map', List.filterMap_none, hvalues, pure_bind]
  rfl

theorem evalArgs_readArgs {words : List Word} (evaluate : Param → Argument)
    (h : ∀ word ∈ words, env.evalParam scopes word.param = pure (evaluate word.param)) :
    env.evalArgs scopes (readArgs words) =
      pure ⟨words.map fun word => evaluate word.param, []⟩ := by
  have hactions : env.argActions scopes (readArgs words) =
      (words.map fun word => evaluate word.param).map fun argument => (none, pure argument) := by
    induction words with
    | nil => rfl
    | cons word words ih =>
      change (none, env.evalParam scopes word.param) :: env.argActions scopes (readArgs words) = _
      rw [h word List.mem_cons_self, ih fun other hother => h other (List.mem_cons_of_mem _ hother)]
      rfl
  rw [evalArgs, hactions, collect_pure]

end Env

/-! ## Faults -/

/-- An action that meets a fault, or shows a text without meeting one. -/
def Meets (action : Eval (List Fragment)) (fault : Option Fault) : Prop :=
  ∃ result, fault? result = fault ∧ Yields action result

theorem Meets.append {action next : Eval (List Fragment)} {fault more : Option Fault}
    (h : Meets action fault) (hnext : Meets next more) :
    Meets (do let found ← action; return found ++ (← next)) (fault.or more) := by
  obtain ⟨result, rfl, hresult⟩ := h
  obtain ⟨other, rfl, hother⟩ := hnext
  refine ⟨_, ?_, hresult.append hother⟩
  cases result with
  | error fault => rfl
  | ok content => cases other <;> rfl

namespace Env

variable {env : Env} {scopes : Scopes} {place : Place}

theorem meets_single {element : Element} {fault : Option Fault}
    (h : Meets (env.renderElement scopes element) fault) :
    Meets (env.renderElements scopes [element]) fault := by
  have hnil : Meets (env.renderElements scopes []) none := ⟨_, rfl, yields_nil⟩
  rw [renderElements_cons, ← Option.or_none (o := fault)]
  exact h.append hnil

theorem meets_path {path : Path} {argument : Argument}
    (hname : env.helpers.lookup path.written = none)
    (hpath : scopes.resolve env.data path = .ok argument) :
    Meets (env.renderElement scopes (.value place (.path path)))
      (if argument.value.isSome then none else some (.missingVariable argument.written)) := by
  refine ⟨_, ?_, yields_path hname hpath⟩
  rw [shownArgument]
  cases argument.value <;> rfl

theorem meets_renderItems {α : Type} {make : α → Json} {fault : α → Option Fault}
    (argument : Argument) (body : Body) (total : Nat) (rest : List α) (n : Nat)
    (hround : ∀ i value, rest[i]? = some value →
      Meets (body (Helper.itemBlock argument [] total (positioned (make value, n + i)) (n + i) ::
        scopes)) (fault value)) :
    Meets (Helper.renderItems argument [] scopes body total n
      (((rest.map make).zipIdx n).map positioned)) (rest.findSome? fault) := by
  induction rest generalizing n with
  | nil => exact ⟨_, rfl, .empty⟩
  | cons value rest ih =>
    have hfirst := hround 0 value rfl
    have hrest := ih (n + 1) fun i other hi => by
      have h := hround (i + 1) other hi
      rwa [show n + (i + 1) = n + 1 + i by omega] at h
    have hor : (value :: rest).findSome? fault = (fault value).or (rest.findSome? fault) := by
      rw [List.findSome?_cons]
      cases fault value <;> rfl
    rw [hor]
    exact hfirst.append hrest

/-- A loop over a member meets the first fault of its items. -/
theorem meets_loop {α : Type} {make : α → Json} {fault : α → Option Fault} {values : List α}
    {block : Block} {members : Json.Members} {name : String} {body : List Element}
    (hhelper : env.helpers.lookup "each" = some Helper.each) (hscopes : scopes.GiveNothing)
    (hblock : block.StandsAt env.data (.object members))
    (hmember : members.lookup name = some (.array (values.map make)))
    (hround : ∀ value ∈ values, ∀ item, Block.StandsAt env.data item (make value) →
      Meets (env.renderElements (item :: block :: scopes) body) (fault value)) :
    Meets (env.renderElement (block :: scopes) (loop place name body))
      (values.findSome? fault) := by
  have hpath := Scopes.resolve_own hscopes hblock hmember
  have hwalk := hblock.walk_member hmember
  obtain ⟨result, hfault, hresult⟩ := meets_renderItems
    ⟨some name, some (.array (values.map make)), some (block.origin ++ [name])⟩
    (fun scopes => env.renderElements scopes body)
    ((values.map make).zipIdx.map positioned).length values 0 fun i value hi => by
      have hitem : (values.map make)[i]? = some (make value) := by rw [List.getElem?_map, hi]; rfl
      rw [Nat.zero_add]
      exact hround value (List.mem_of_getElem? hi) _ (itemAt_itemBlock rfl hwalk hitem).standsAt
  exact ⟨result, hfault, yields_items hhelper hpath rfl hresult⟩

end Env

end BindingGen.Template
