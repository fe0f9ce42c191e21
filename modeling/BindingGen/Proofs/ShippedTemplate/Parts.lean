import BindingGen.Proofs.Emission
import BindingGen.Proofs.Renderer
import BindingGen.Proofs.ShippedTemplate.Elements
import BindingGen.Proofs.Vocabulary

/-!
# Parts of the shipped templates

What the header shows, and what the documentation of a member does: the lines that are written
directly.
-/

namespace BindingGen.ShippedTemplate

open Template Env

/-! ## Lines -/

/-- The characters of lines, each with its end. -/
def chars (lines : List String) : List Char := lines.flatMap fun line => line.toList ++ ['\n']

theorem chars_append (first second : List String) :
    chars (first ++ second) = chars first ++ chars second := List.flatMap_append

theorem chars_cons (line : String) (rest : List String) :
    chars (line :: rest) = line.toList ++ '\n' :: chars rest := by
  rw [chars, List.flatMap_cons, List.append_assoc]
  rfl

theorem chars_flatMap {α : Type} (lines : α → List String) (values : List α) :
    chars (values.flatMap lines) = values.flatMap fun value => chars (lines value) :=
  List.flatMap_assoc

theorem ofList_chars (lines : List String) : String.ofList (chars lines) = ofLines lines := by
  rw [chars, ← toList_ofLines, String.ofList_toList]

theorem flatMap_zipIdx {α β : Type} (f : α → List β) (values : List α) :
    (values.zipIdx.flatMap fun entry => f entry.1) = values.flatMap f := by
  rw [← List.flatMap_map Prod.fst, List.zipIdx_map_fst]

/-! ## Header -/

theorem yields_header (document : Schema.Document) (inputs : Renderer.Inputs)
    (generator title imported : String) :
    Yields ((Renderer.rootEnv document inputs).renderElements .root
        (headerElements generator title imported))
      (.ok (chars (Emission.headerLines generator title imported inputs))) := by
  have hroot : Block.root.StandsAt (Renderer.context document inputs)
      (.object (Renderer.contextMembers document inputs)) := Block.root_standsAt _
  have hsource : (Renderer.rootEnv document inputs).evalArgs .root
      [(none, field "source_file_path")] =
        pure ⟨[⟨_, some (.string inputs.sourcePath), _⟩], []⟩ :=
    evalArgs_one (evalParam_path
      (Scopes.resolve_own Scopes.nil_giveNothing hroot Renderer.lookup_sourcePath))
  have hyear := Scopes.resolve_own Scopes.nil_giveNothing hroot Renderer.lookup_year
  refine Yields.congr (shows_cons (yields_text _)
    (shows_cons (shows_call hsource rfl (Vocabulary.mapText_eq _ _ rfl))
    (shows_cons (yields_text _)
    (shows_cons (shows_call hsource rfl (Vocabulary.mapText_eq _ _ rfl))
    (shows_cons (yields_text _)
    (shows_cons (yields_value rfl hyear rfl)
    (shows_cons (yields_text _) yields_nil))))))) ?_
  simp only [Emission.headerLines, chars_cons, String.toList_append, String.reduceToList,
    List.append_assoc, List.cons_append, List.nil_append]
  rfl

/-! ## Documentation -/

theorem yields_documentation {env : Env} {block : Block} {scopes : Scopes}
    {members : Json.Members} {comment : Option String} (line : Nat)
    (hhelpers : env.helpers = Vocabulary.all) (hscopes : scopes.GiveNothing)
    (hblock : block.StandsAt env.data (.object members))
    (hcomment : members.lookup "comment" = some (Json.orNull .string comment)) :
    Yields (env.renderElements (block :: scopes) (documentationElements line))
      (.ok (chars (Emission.documentationLines comment))) := by
  have hfield := evalParam_path (Scopes.resolve_own hscopes hblock hcomment)
  have hdepth : env.evalParam (block :: scopes) (.literal (Json.int 1)) =
      pure (.computed (Json.int 1)) := by rw [evalParam]
  have hif : env.helpers.lookup "if" = some (Helper.condition true) := by rw [hhelpers]; rfl
  have hdoc : env.helpers.lookup "to_doc_text" = some Vocabulary.docText := by rw [hhelpers]; rfl
  refine Yields.congr (shows_cons (yields_condition
    ⟨_, _, evalArgs_one hfield, rfl, rfl⟩ hif ?_) yields_nil) (List.append_nil _)
  cases comment with
  | none => exact yields_nil
  | some text =>
    by_cases hempty : text = ""
    · rw [hempty]
      exact yields_nil
    · have hlines : Emission.documentationLines (some text) =
          ["    \"\"\"" ++ Comment.docText (some text) 1 ++ "\"\"\""] := if_neg hempty
      have hholds : holds (includesZero []) (.string text) = true := by simp [holds, hempty]
      change Yields (env.renderElements _ (if holds (includesZero []) (.string text) == true then _
        else _)) _
      rw [hholds, hlines]
      refine Yields.congr (shows_cons (yields_text _)
        (shows_cons (shows_call (evalArgs_two hfield hdepth) hdoc (Vocabulary.docText_eq rfl rfl rfl))
        (shows_cons (yields_text _) yields_nil))) ?_
      simp only [chars_cons, String.toList_append, String.reduceToList, List.append_assoc,
        List.cons_append, List.nil_append]
      rfl

end BindingGen.ShippedTemplate
