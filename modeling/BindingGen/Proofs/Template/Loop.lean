import BindingGen.Proofs.Template.Tag

/-!
# Written loops

What a template is read as that loops over a member of its data, or over a member of each of its
items, around one tag that shows something.
-/

namespace BindingGen.Template

open Grammar

/-! ## Elements -/

/-- A tag that is an element of its own wherever it stands. -/
structure ShownAs (tag : Tag) (element : Place → Element) : Prop where
  nests : ∀ stack, tag.nest? stack = some stack
  elements : ∀ fuel place rest, elementsFrom (fuel + 1) (plainStep (place, tag) :: rest) = (do
    let (others, left) ← elementsFrom fuel rest
    return (element place :: others, left))

theorem shownAs_call {call : Call} (h : firstInvalidArg call.args = none) :
    ShownAs (.call call) fun place => .call place call where
  nests _ := rfl
  elements fuel place rest := by
    have hcheck : checkCall call = .ok () := by rw [checkCall, h]; rfl
    rw [elementsFrom]
    dsimp only [plainStep]
    rw [hcheck]
    rfl

theorem shownAs_path (path : Path) :
    ShownAs (.value (.path path)) fun place => .value place (.path path) where
  nests _ := rfl
  elements _ _ _ := rfl

/-- The call that loops over a member. -/
def loopCall (name : String) : Call := ⟨"each", [(none, .path (Scopes.fieldPath name 0 name))], []⟩

def loop (place : Place) (name : String) (body : List Element) : Element :=
  .block (some place) (loopCall name) false body none

theorem elementsFrom_loop {fuel : Nat} {place there : Place} {name : String}
    {inner rest : List Step} {body : List Element}
    (h : elementsFrom fuel inner = .ok (body, plainStep (there, .closing "each") :: rest)) :
    elementsFrom (fuel + 2) (plainStep (place, .opening (loopCall name)) :: inner) = (do
      let (others, left) ← elementsFrom (fuel + 1) rest
      return (loop place name body :: others, left)) := by
  have hblock : blockFrom (fuel + 1) "each" inner = .ok (body, none, rest) := by
    rw [blockFrom, h]
    rfl
  rw [elementsFrom]
  change blockFrom (fuel + 1) "each" inner >>= _ = _
  rw [hblock]
  rfl

/-! ## Texts -/

def loopTag (name : String) (h : IsKey name) : WrittenTag :=
  openingTag "each" [.ofKey name h] (by decide)

/-- The tags of loops in each other around one tag. -/
def loopTags (body : WrittenTag) : List { name : String // IsKey name } → List WrittenTag
  | [] => [body]
  | name :: inner => loopTag name.1 name.2 :: (loopTags body inner ++ [closingTag])

/-- An element inside loops over members of some names. -/
inductive Looped (element : Place → Element) : List String → Element → Prop where
  | body (place : Place) : Looped element [] (element place)
  | loop {names : List String} {inner : Element} (place : Place) (name : String)
      (h : Looped element names inner) : Looped element (name :: names) (loop place name [inner])

variable {body : WrittenTag} {element : Place → Element}

theorem elementsFrom_loopTags (hbody : ShownAs body.tag element)
    (names : List { name : String // IsKey name }) {fuel : Nat} (hfuel : 2 * names.length < fuel)
    {placed : List (Place × Tag)}
    (hplaced : placed.map (·.2) = (loopTags body names).map (·.tag)) (rest : List Step) :
    ∃ found, Looped element (names.map (·.1)) found ∧
      elementsFrom (fuel + 1) (placed.map plainStep ++ rest) = (do
        let (others, left) ← elementsFrom fuel rest
        return (found :: others, left)) := by
  induction names generalizing fuel placed rest with
  | nil =>
    obtain ⟨⟨place, tag⟩, others, rfl, htag, hothers⟩ := List.map_eq_cons_iff.mp hplaced
    obtain rfl := List.map_eq_nil_iff.mp hothers
    cases htag
    exact ⟨element place, .body place, hbody.elements fuel place rest⟩
  | cons name names ih =>
    -- The opening tag takes one unit of the fuel, and its block another.
    obtain ⟨fuel, rfl⟩ : ∃ inner, fuel = inner + 2 :=
      ⟨fuel - 2, by rw [List.length_cons] at hfuel; omega⟩
    rw [List.length_cons] at hfuel
    obtain ⟨⟨place, opening⟩, others, rfl, hopening, hothers⟩ := List.map_eq_cons_iff.mp hplaced
    rw [List.map_append] at hothers
    obtain ⟨inner, last, rfl, hinner, hlast⟩ := List.map_eq_append_iff.mp hothers
    obtain ⟨⟨there, closing⟩, nothing, rfl, hclosing, hnothing⟩ := List.map_eq_cons_iff.mp hlast
    obtain rfl := List.map_eq_nil_iff.mp hnothing
    cases hopening
    cases hclosing
    have hinnerFuel : 2 * names.length < fuel := by omega
    obtain ⟨found, hfound, hread⟩ :=
      ih hinnerFuel hinner (plainStep (there, .closing "each") :: rest)
    have hend : elementsFrom fuel (plainStep (there, .closing "each") :: rest) =
        .ok ([], plainStep (there, .closing "each") :: rest) := by
      cases fuel with
      | zero => omega
      | succ => rfl
    rw [hend] at hread
    refine ⟨_, .loop place name.1 hfound, ?_⟩
    rw [List.map_cons, List.map_append, List.cons_append, List.append_assoc]
    exact elementsFrom_loop hread

/-! ## Templates -/

theorem nests_loopTags (hbody : ShownAs body.tag element)
    (names : List { name : String // IsKey name }) (stack : List Nesting) :
    ((loopTags body names).map (·.tag)).foldlM (fun stack tag => tag.nest? stack) stack =
      some stack := by
  induction names generalizing stack with
  | nil =>
    change (body.tag.nest? stack >>= some) = _
    rw [hbody.nests]
    rfl
  | cons name names ih =>
    change ((loopTags body names ++ [closingTag]).map (·.tag)).foldlM
      (fun stack tag => tag.nest? stack) (Nesting.helper :: stack) = some stack
    rw [List.map_append, List.foldlM_append, ih]
    rfl

theorem length_loopTags (body : WrittenTag) (names : List { name : String // IsKey name }) :
    (loopTags body names).length = 2 * names.length + 1 := by
  induction names with
  | nil => rfl
  | cons name names ih =>
    simp only [loopTags, List.length_cons, List.length_append, ih, List.length_nil]
    omega

/-- **Loops are read as they are written.** -/
theorem ofText_loopTags (hbody : ShownAs body.tag element)
    (name : { name : String // IsKey name }) (names : List { name : String // IsKey name }) :
    ∃ found, Looped element ((name :: names).map (·.1)) found ∧
      ofText ((loopTags body (name :: names)).flatMap WrittenTag.text) = .ok [found] := by
  have hlength := length_loopTags body (name :: names)
  obtain ⟨tokens, placed, htokens, hplaced, htags, hsteps⟩ :=
    steps_tags (loopTags body (name :: names)) (by rw [hlength, List.length_cons]; omega)
  have hcount : placed.length = (loopTags body (name :: names)).length := by
    simpa using congrArg List.length hplaced
  have hfuel : 2 * (name :: names).length < 2 * placed.length + 1 := by omega
  obtain ⟨found, hfound, hread⟩ := elementsFrom_loopTags hbody (name :: names) hfuel hplaced []
  refine ⟨found, hfound, ?_⟩
  have hnested : wellNested (tokens.tagged.map (·.tag)) = true := by
    rw [wellNested, htags, nests_loopTags hbody]
    rfl
  have hall : elementsFrom (2 * (placed.map plainStep).length + 2) (placed.map plainStep) =
      .ok ([found], []) := by
    rw [List.append_nil] at hread
    rw [List.length_map, hread]
    rfl
  rw [ofText, htokens]
  dsimp only
  rw [if_pos hnested, hsteps, ofSteps, hall]
  rfl

end BindingGen.Template
