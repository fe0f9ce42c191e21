import BindingGen.Proofs.Reference.Use
import BindingGen.Proofs.Renderer
import BindingGen.Proofs.Schema.Apart

/-!
# Missing members

Templates that loop over the definitions of a document, or over all their members, and use one key
in each. An element without the key is always a fault, and the first fault of an element is the
failure of the rendering.
-/

namespace BindingGen.Reference

open Template Template.Grammar Schema Vocabulary

/-! ## Elements of a document -/

inductive Level where
  | definitions
  | members
  deriving DecidableEq, Repr

def memberName : Kind → String
  | .enums => "values"
  | .structs => "fields"

/-- The definitions of a document, each with its members. -/
def outline : Document → List (Json.Members × List Json.Members)
  | .enums definitions =>
    definitions.map fun d => (d.members Json.ofMembers, d.values.map EnumValue.members)
  | .structs definitions =>
    definitions.map fun d => (d.members Json.ofMembers, d.fields.map StructField.members)

/-- The elements that a loop visits, in the order of the document. Each has the keys of its record,
absent values included, and those that are kept besides. -/
def visited (document : Document) : Level → List Json.Members
  | .definitions => (outline document).map (·.1)
  | .members => (outline document).flatMap (·.2)

variable {document : Document} {key : String}

theorem toJson_eq (document : Document) :
    document.toJson = .array ((outline document).map fun entry => Json.ofMembers entry.1) := by
  cases document <;> simp [Document.toJson, Document.toJsonWith, outline]

theorem lookup_memberName (h : document.KeysApart) {entry : Json.Members × List Json.Members}
    (hentry : entry ∈ outline document) :
    entry.1.sort.lookup (memberName document.kind) =
      some (.array (entry.2.map Json.ofMembers)) := by
  cases document with
  | enums definitions =>
    obtain ⟨d, hd, rfl⟩ := List.mem_map.mp hentry
    refine (d.lookup_values (h d hd)).trans ?_
    rw [List.map_map]
    rfl
  | structs definitions =>
    obtain ⟨d, hd, rfl⟩ := List.mem_map.mp hentry
    refine (d.lookup_fields (h d hd)).trans ?_
    rw [List.map_map]
    rfl

/-! ## Templates -/

def tagText (inside : List Char) : List Char := "\x7b\x7b".toList ++ inside ++ "\x7d\x7d".toList

def loopText (name : String) (body : List Char) : List Char :=
  tagText ("#each ".toList ++ name.toList) ++ body ++ tagText "/each".toList

/-- The template that uses a key in each element that it visits. -/
def template (kind : Kind) (use : Use) (key : String) : Level → String
  | .definitions => String.ofList (loopText kind.dataName (tagText (use.text key)))
  | .members =>
    String.ofList (loopText kind.dataName (loopText (memberName kind) (tagText (use.text key))))

theorem flatMap_loopTags (tag : WrittenTag) (name : { name : String // IsKey name })
    (names : List { name : String // IsKey name }) :
    (loopTags tag (name :: names)).flatMap WrittenTag.text =
      loopText name.1 ((loopTags tag names).flatMap WrittenTag.text) := by
  simp [loopTags, loopText, tagText, loopTag, openingTag, closingTag, WrittenTag.text, tagStart,
    tagEnd, argText, Word.ofKey, Word.ofParam]

theorem isKey_dataName (kind : Kind) : IsKey kind.dataName := by cases kind <;> decide

theorem isKey_memberName (kind : Kind) : IsKey (memberName kind) := by cases kind <;> decide

/-- The names that the loops of a template go over. -/
def loopNames (kind : Kind) : Level → List { name : String // IsKey name }
  | .definitions => [⟨_, isKey_dataName kind⟩]
  | .members => [⟨_, isKey_dataName kind⟩, ⟨_, isKey_memberName kind⟩]

theorem ofText_template (kind : Kind) (use : Use) (level : Level) (h : IsKey key)
    (hfree : Vocabulary.all.lookup key = none)
    (hshown : use = .shown → isContinuation key = false) :
    ∃ element found, Shows use key element ∧
      Looped element ((loopNames kind level).map (·.1)) found ∧
      Template.ofText (template kind use key level).toList = .ok [found] := by
  obtain ⟨tag, element, hinside, hshownAs, hshows⟩ := exists_tag use h hfree hshown
  have htag : (loopTags tag []).flatMap WrittenTag.text = tagText (use.text key) := by
    simp [loopTags, tagText, WrittenTag.text, hinside, tagStart, tagEnd]
  cases level with
  | definitions =>
    obtain ⟨found, hfound, hread⟩ := ofText_loopTags hshownAs ⟨_, isKey_dataName kind⟩ []
    refine ⟨element, found, hshows, hfound, ?_⟩
    rw [flatMap_loopTags, htag] at hread
    rw [template, String.toList_ofList, hread]
  | members =>
    obtain ⟨found, hfound, hread⟩ := ofText_loopTags hshownAs ⟨_, isKey_dataName kind⟩
      [⟨_, isKey_memberName kind⟩]
    refine ⟨element, found, hshows, hfound, ?_⟩
    rw [flatMap_loopTags, flatMap_loopTags, htag] at hread
    rw [template, String.toList_ofList, hread]

/-! ## Documents -/

theorem meets_definitions {fault : Json.Members × List Json.Members → Option Fault}
    {place : Place} {body : List Element} (inputs : Renderer.Inputs)
    (hround : ∀ entry ∈ outline document, ∀ item,
      Block.StandsAt (Renderer.context document inputs) item (Json.ofMembers entry.1) →
        Meets ((Renderer.rootEnv document inputs).renderElements (item :: Scopes.root) body)
          (fault entry)) :
    Meets ((Renderer.rootEnv document inputs).renderElements .root
      [loop place document.kind.dataName body]) ((outline document).findSome? fault) := by
  have hroot : Block.root.StandsAt (Renderer.context document inputs)
      (.object (Renderer.contextMembers document inputs)) := Block.root_standsAt _
  have hdefinitions := Renderer.lookup_definitions document inputs
  rw [toJson_eq] at hdefinitions
  exact Env.meets_single (Env.meets_loop rfl Scopes.nil_giveNothing hroot hdefinitions hround)

theorem root_giveNothing : Scopes.GiveNothing Scopes.root :=
  Scopes.nil_giveNothing.cons (Block.root_standsAt .null)

theorem findSome?_flatMap {α β γ : Type} (parts : α → List β) (find : β → Option γ)
    (values : List α) :
    (values.flatMap parts).findSome? find =
      values.findSome? fun value => (parts value).findSome? find := by
  induction values with
  | nil => rfl
  | cons value rest ih =>
    rw [List.flatMap_cons, List.findSome?_append, List.findSome?_cons, ih]
    cases (parts value).findSome? find <;> rfl

/-- **A rendering meets the first fault of the elements that it visits.** -/
theorem meets_visited {use : Use} {element : Place → Element} {found : Element}
    (h : document.KeysApart) (inputs : Renderer.Inputs) (hshows : Shows use key element)
    (level : Level) (hfound : Looped element ((loopNames document.kind level).map (·.1)) found) :
    Meets ((Renderer.rootEnv document inputs).renderElements .root [found])
      ((visited document level).findSome? (use.fault? key)) := by
  cases level with
  | definitions =>
    cases hfound with
    | loop place _ hinner =>
      cases hinner with
      | body there =>
        rw [visited, List.findSome?_map]
        exact meets_definitions inputs fun entry _ item hitem =>
          Env.meets_single (hshows _ _ _ _ _ rfl root_giveNothing hitem)
  | members =>
    cases hfound with
    | loop place _ hinner =>
      cases hinner with
      | loop there _ hinnermost =>
        cases hinnermost with
        | body here =>
          rw [visited, findSome?_flatMap]
          refine meets_definitions inputs fun entry hentry item hitem => Env.meets_single ?_
          refine Env.meets_loop rfl root_giveNothing hitem (lookup_memberName h hentry) ?_
          exact fun members _ inner hinner =>
            Env.meets_single (hshows _ _ _ _ _ rfl (root_giveNothing.cons hitem) hinner)

theorem render_template (use : Use) (level : Level) (inputs : Renderer.Inputs)
    (h : document.KeysApart) (hkey : IsKey key) (hfree : Vocabulary.all.lookup key = none)
    (hshown : use = .shown → isContinuation key = false) :
    match (visited document level).findSome? (use.fault? key) with
    | none => ∃ text, Renderer.render document (template document.kind use key level) inputs =
        .ok text
    | some fault => ∃ e : RenderError, e.fault = fault ∧
        Renderer.render document (template document.kind use key level) inputs =
          .error (Renderer.failure e) := by
  obtain ⟨element, found, hshows, hfound, hread⟩ :=
    ofText_template document.kind use level hkey hfree hshown
  obtain ⟨result, hfault, hyields⟩ := meets_visited h inputs hshows level hfound
  rw [← hfault]
  cases result with
  | ok content => exact ⟨_, Renderer.render_shows hread hyields⟩
  | error fault => exact Renderer.render_fails hread hyields

/-- **An element without the key is always a fault.** A rendering succeeds exactly if every element
that it visits has the key, with a value of the kind that is wanted, and it fails with the name of
the key where that is missing from the first element that does not work. -/
theorem render_lookup (use : Use) (level : Level) (inputs : Renderer.Inputs)
    (h : document.KeysApart) (hkey : IsKey key) (hfree : Vocabulary.all.lookup key = none)
    (hshown : use = .shown → isContinuation key = false) :
    ((∃ text, Renderer.render document (template document.kind use key level) inputs = .ok text) ↔
      ∀ element ∈ visited document level, use.Works key element) ∧
    (∀ element ∈ visited document level, key ∉ element.map (·.1) →
      ∃ failure, Renderer.render document (template document.kind use key level) inputs =
        .error failure) ∧
    ∀ front element behind, visited document level = front ++ element :: behind →
      (∀ other ∈ front, use.Works key other) → key ∉ element.map (·.1) →
        Renderer.render document (template document.kind use key level) inputs =
          .error (.undefinedReference key) := by
  have hrender := render_template use level inputs h hkey hfree hshown
  -- The first fault among the visited elements decides; the three parts ask where it can be.
  have hworks : (visited document level).findSome? (use.fault? key) = none ↔
      ∀ element ∈ visited document level, use.Works key element := by
    simp only [List.findSome?_eq_none_iff, fault?_eq_none_iff]
  refine ⟨?_, ?_, ?_⟩
  · rw [← hworks]
    cases hfirst : (visited document level).findSome? (use.fault? key) with
    | none =>
      rw [hfirst] at hrender
      exact iff_of_true hrender rfl
    | some fault =>
      rw [hfirst] at hrender
      obtain ⟨e, _, hfailed⟩ := hrender
      refine iff_of_false ?_ (Option.some_ne_none fault)
      rintro ⟨text, hok⟩
      rw [hfailed] at hok
      cases hok
  · intro element helement hmissing
    cases hfirst : (visited document level).findSome? (use.fault? key) with
    | none =>
      have hfault := List.findSome?_eq_none_iff.mp hfirst element helement
      rw [fault?_missing use hmissing] at hfault
      cases hfault
    | some fault =>
      rw [hfirst] at hrender
      obtain ⟨e, _, hfailed⟩ := hrender
      exact ⟨_, hfailed⟩
  · intro front element behind hvisited hfront hmissing
    have hnone : front.findSome? (use.fault? key) = none :=
      List.findSome?_eq_none_iff.mpr fun other hother =>
        (fault?_eq_none_iff use).mpr (hfront other hother)
    rw [hvisited, List.findSome?_append, hnone, List.findSome?_cons,
      fault?_missing use hmissing] at hrender
    obtain ⟨e, hfault, hfailed⟩ := hrender
    rw [hfailed, Renderer.failure, hfault]
    rfl

/-- A depth behind a comment that is written out. -/
def depthSlot : Slot where
  helper := "to_doc_text"
  front := [.ofScalar (.string "/* a \"b\" */") (fun _ h => nomatch h) (by decide)]
  kind := .count
  behind := []
  frontKinds := [.comment]
  behindKinds := []
  signature := by decide
  frontTyped := .cons rfl .nil
  behindTyped := .nil

/-- A definition that has a key which its second member lacks. -/
def depthSample : Document :=
  .enums [⟨"Lock", [⟨some "LOCK_A", none, none, [("depth", Json.int 2)]⟩, ⟨none, none, none, []⟩],
    [("depth", Json.int 1)]⟩]

example : template .enums (.argument depthSlot) "depth" .members =
    "\x7b\x7b#each all_enums\x7d\x7d\x7b\x7b#each values\x7d\x7d" ++
      "\x7b\x7bto_doc_text \"/* a \\\"b\\\" */\" depth\x7d\x7d" ++
      "\x7b\x7b/each\x7d\x7d\x7b\x7b/each\x7d\x7d" := by decide +kernel

/-- All definitions of the sample have the key, and the second member does not. -/
theorem render_lookup_sample :
    depthSample.KeysApart ∧ IsKey "depth" ∧ Vocabulary.all.lookup "depth" = none ∧
      isContinuation "depth" = false ∧
      (∃ text, Renderer.render depthSample (template .enums .shown "depth" .definitions)
        ⟨"srcdata/defs.json", 2024⟩ = .ok text) ∧
      Renderer.render depthSample (template .enums (.argument depthSlot) "depth" .members)
        ⟨"srcdata/defs.json", 2024⟩ = .error (.undefinedReference "depth") := by
  have h : depthSample.KeysApart := by decide
  have hkey : IsKey "depth" := by decide
  have hfree : Vocabulary.all.lookup "depth" = none := rfl
  have hstart : isContinuation "depth" = false := by decide
  have hshown := render_lookup .shown .definitions ⟨"srcdata/defs.json", 2024⟩ h hkey hfree
    fun _ => hstart
  have hgiven := render_lookup (.argument depthSlot) .members ⟨"srcdata/defs.json", 2024⟩ h hkey
    hfree fun h => nomatch h
  refine ⟨h, hkey, hfree, hstart, hshown.1.mpr ?_, hgiven.2.2 [_] _ [] rfl ?_ (by decide)⟩
  · intro element helement
    obtain rfl := List.mem_singleton.mp helement
    exact List.mem_cons_of_mem _ (List.mem_cons_of_mem _ List.mem_cons_self)
  · intro other hother
    obtain rfl := List.mem_singleton.mp hother
    exact ⟨Json.int 2, rfl, rfl⟩

/-- A name that begins with the word for a continuation is never looked up, even where it is
missing. -/
theorem render_continuation :
    IsKey "elsewhere" ∧ Vocabulary.all.lookup "elsewhere" = none ∧
      visited (.enums [⟨"Lock", [], []⟩]) .definitions =
        [[("name", .string "Lock"), ("values", .array [])]] ∧
      Renderer.render (.enums [⟨"Lock", [], []⟩]) (template .enums .shown "elsewhere" .definitions)
        ⟨"srcdata/defs.json", 2024⟩ = .ok "" := by
  refine ⟨by decide, rfl, rfl, ?_⟩
  decide +kernel

end BindingGen.Reference
