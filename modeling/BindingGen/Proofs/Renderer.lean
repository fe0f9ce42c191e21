import BindingGen.Proofs.Template.Yield
import BindingGen.Renderer

/-!
# Rendering by what elements yield

A template whose elements show a text renders to it, and one whose elements meet a fault fails with
that fault. The data of a rendering answers for the document, its path and the year.
-/

namespace BindingGen.Renderer

open Template

variable {document : Schema.Document} {inputs : Inputs}

/-! ## The data -/

def contextMembers (document : Schema.Document) (inputs : Inputs) : Json.Members :=
  Json.Members.sort
    [(document.kind.dataName, document.toJson), ("source_file_path", .string inputs.sourcePath),
      ("current_year", Json.int inputs.year)]

theorem lookup_definitions (document : Schema.Document) (inputs : Inputs) :
    (contextMembers document inputs).lookup document.kind.dataName = some document.toJson := by
  rw [contextMembers, Json.Members.sort, KeyOrder.lookup_ofList]
  cases document <;> rfl

theorem lookup_sourcePath :
    (contextMembers document inputs).lookup "source_file_path" =
      some (.string inputs.sourcePath) := by
  rw [contextMembers, Json.Members.sort, KeyOrder.lookup_ofList]
  rfl

theorem lookup_year :
    (contextMembers document inputs).lookup "current_year" = some (Json.int inputs.year) := by
  rw [contextMembers, Json.Members.sort, KeyOrder.lookup_ofList]
  rfl

/-! ## Rendering -/

def rootEnv (document : Schema.Document) (inputs : Inputs) : Env :=
  ⟨Vocabulary.all, context document inputs,
    renderWithin Vocabulary.all (context document inputs) (inclusionLimit - 1)⟩

theorem renderElements_eq (elements : List Element) :
    Template.renderElements Vocabulary.all (context document inputs) elements =
      ((((rootEnv document inputs).renderElements .root elements).run.run .start).1.map Layout.text,
        (((rootEnv document inputs).renderElements .root elements).run.run .start).2.notes) :=
  rfl

theorem renderElements_shows {elements : List Element} {content : List Char}
    (h : Yields ((rootEnv document inputs).renderElements .root elements) (.ok content)) :
    Template.renderElements Vocabulary.all (context document inputs) elements =
      (.ok content, []) := by
  cases h with
  | shows hpure hflat =>
    rw [renderElements_eq, hpure, ← Layout.text_of_flat hflat]
    rfl

theorem renderElements_fails {elements : List Element} {fault : Fault}
    (h : Yields ((rootEnv document inputs).renderElements .root elements) (.error fault)) :
    ∃ e : RenderError, e.fault = fault ∧
      Template.renderElements Vocabulary.all (context document inputs) elements =
        (.error e, []) := by
  cases h with
  | fails hthrow hfault =>
    refine ⟨_, hfault, ?_⟩
    rw [renderElements_eq, hthrow]
    rfl

variable {template : String} {elements : List Element}

theorem render_shows {content : List Char}
    (hread : Template.ofText template.toList = .ok elements)
    (h : Yields ((rootEnv document inputs).renderElements .root elements) (.ok content)) :
    render document template inputs = .ok (String.ofList content) := by
  rw [render, renderWithNotes, hread]
  simp only [renderElements_shows h]

theorem render_fails {fault : Fault} (hread : Template.ofText template.toList = .ok elements)
    (h : Yields ((rootEnv document inputs).renderElements .root elements) (.error fault)) :
    ∃ e : RenderError, e.fault = fault ∧ render document template inputs = .error (failure e) := by
  obtain ⟨e, hfault, hrender⟩ := renderElements_fails h
  refine ⟨e, hfault, ?_⟩
  rw [render, renderWithNotes, hread]
  simp only [hrender]

end BindingGen.Renderer
