import BindingGen.Proofs.Template.Yield
import BindingGen.Vocabulary

/-!
# What the vocabulary writes

Each helper of the vocabulary, given values of the kind that it works on.
-/

namespace BindingGen.Vocabulary

open Template

variable {application : Application} {helper : String} {index : Nat}

/-! ## Arguments -/

def value? (application : Application) (index : Nat) : Option Json :=
  application.params[index]?.bind (·.value)

theorem given_eq {value : Json} (h : value? application index = some value) :
    given application helper index = pure value := by
  obtain ⟨argument, hargument, hvalue⟩ := Option.bind_eq_some_iff.mp h
  simp only [given, hargument, hvalue]

theorem text_eq {s : String} (h : value? application index = some (.string s)) :
    text application helper index = pure s := by
  rw [text, given_eq h]
  rfl

/-! ## Helpers -/

theorem mapText_eq {s : String} (name : String) (f : String → String)
    (h : value? application 0 = some (.string s)) :
    mapText name f application = pure (.written (f s).toList) := by
  rw [mapText, text_eq h]
  rfl

theorem sharedPrefix_eq {members : List Json} (h : value? application 0 = some (.array members)) :
    sharedPrefix application =
      pure (.written (Namespace.commonPrefix (members.map memberName?)).toList) := by
  rw [sharedPrefix, given_eq h]
  rfl

theorem stripped_eq {raw start : String} (hraw : value? application 0 = some (.string raw))
    (hstart : value? application 1 = some (.string start)) :
    stripped application = pure (.written (Namespace.stripPrefix raw start).toList) := by
  rw [stripped, text_eq hraw, text_eq hstart]
  rfl

theorem docText_eq {s : String} {level : Json} {depth : BitVec 64}
    (hcomment : value? application 0 = some (.string s))
    (hlevel : value? application 1 = some level) (hdepth : count? level = some depth) :
    docText application = pure (.written (Comment.docText (some s) depth).toList) := by
  have hlength : ¬ application.params.length ≤ 1 := by
    intro h
    rw [value?, List.getElem?_eq_none h] at hlevel
    cases hlevel
  rw [docText, comment, given_eq hcomment, Vocabulary.depth, if_neg hlength, given_eq hlevel]
  simp only [pure_bind, hdepth]

theorem mappedType_eq {spelling : String} (h : value? application 0 = some (.string spelling)) :
    mappedType application =
      Eval.lift (match NativeType.ofAnnotation? spelling with
        | some type => .ok (.written type.target.toList)
        | none => .error (.unsupportedType spelling)) := by
  rw [mappedType, text_eq h, pure_bind]
  cases NativeType.ofAnnotation? spelling <;> rfl

end BindingGen.Vocabulary
