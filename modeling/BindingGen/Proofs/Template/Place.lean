import BindingGen.Template.Scope

/-!
# Places in the data

Where a block stands in the data, and what a path finds from there. The item of an array is found
under its position, however long the array is.
-/

namespace BindingGen.Template

/-! ## Positions -/

theorem position?_toString (i : Nat) : position? (toString i) = some i := by
  have hchars : (toString i).toList = Nat.toDigits 10 i := by
    rw [Nat.toString_eq_ofList_toDigits, String.toList_ofList]
  have hdigits : (Nat.toDigits 10 i).all Char.isDigit = true := by
    rw [List.all_eq_true]
    intro c hc
    exact Nat.isDigit_of_mem_toDigits (by decide) (by decide) hc
  have hvalue : Numeral.digitsValue (Nat.toDigits 10 i) = i := by
    have h := Nat.ofDigitChars_ten_toDigits (n := i)
    rw [Nat.ofDigitChars_eq_foldl] at h
    exact h
  unfold position?
  rw [hchars]
  -- The digits of a number do not begin with a sign.
  cases hcase : Nat.toDigits 10 i with
  | nil => exact absurd hcase Nat.toDigits_ne_nil
  | cons c rest =>
    have hplus : c ≠ '+' := by
      rintro rfl
      rw [hcase, List.all_cons] at hdigits
      simp at hdigits
    rw [hcase] at hdigits hvalue
    simp [hplus, hdigits, hvalue]

theorem item?_toString {items : List Json} {i : Nat} {value : Json} (h : items[i]? = some value) :
    item? items (toString i) = .ok (some value) := by
  have hi : i < items.length := (List.getElem?_eq_some_iff.mp h).1
  rw [item?, position?_toString]
  simp [hi, ← h]

theorem walk_append (value : Option Json) (steps more : List String) :
    walk value (steps ++ more) = walk value steps >>= (walk · more) :=
  List.foldlM_append

/-! ## Blocks -/

/-- A block at a place of the data, which gives no names to its body. -/
structure Block.StandsAt (data : Json) (block : Block) (value : Json) : Prop where
  computed : block.computed = none
  given : block.given = []
  found : walk (some data) block.origin = .ok (some value)

theorem Block.root_standsAt (data : Json) : Block.root.StandsAt data data := ⟨rfl, rfl, rfl⟩

theorem Block.StandsAt.walk_member {data : Json} {block : Block} {members : Json.Members}
    {name : String} {value : Json} (hblock : block.StandsAt data (.object members))
    (hmember : members.lookup name = some value) :
    walk (some data) (block.origin ++ [name]) = .ok (some value) := by
  rw [walk_append, hblock.found]
  change walk (members.lookup name) [] = _
  rw [hmember]
  rfl

/-- Every block passes names on to the ones around it. -/
def Scopes.GiveNothing (scopes : Scopes) : Prop := ∀ block ∈ scopes, block.given = []

namespace Scopes

variable {data : Json} {scopes : Scopes}

theorem nil_giveNothing : Scopes.GiveNothing [] := by
  intro block hb
  cases hb

theorem GiveNothing.cons {block : Block} {value : Json} (hscopes : scopes.GiveNothing)
    (hblock : block.StandsAt data value) : Scopes.GiveNothing (block :: scopes) := by
  intro other hother
  rcases List.mem_cons.mp hother with rfl | hother
  · exact hblock.given
  · exact hscopes other hother

theorem given?_eq_none (hscopes : scopes.GiveNothing) (name : String) :
    scopes.given? name = none := by
  rw [given?, List.findSome?_eq_none_iff]
  intro block hb
  rw [hscopes block hb]
  rfl

/-- A name that is looked up some blocks outward. -/
def fieldPath (written : String) (ups : Nat) (name : String) : Path :=
  ⟨written, false, false, ups, [name]⟩

theorem resolve_fieldPath {written name : String} {ups : Nat} {members : Json.Members}
    {value : Json} (hscopes : scopes.GiveNothing)
    (hblock : (scopes.enclosing ups).StandsAt data (.object members))
    (hmember : members.lookup name = some value) :
    scopes.resolve data (fieldPath written ups name) =
      .ok ⟨some written, some value, some ((scopes.enclosing ups).origin ++ [name])⟩ := by
  simp only [resolve, below, fieldPath, List.head?_cons, Option.bind_some,
    given?_eq_none hscopes, inBlock, hblock.computed, inData, hblock.walk_member hmember]
  rfl

theorem resolve_own {block : Block} {name : String} {members : Json.Members} {value : Json}
    (hscopes : scopes.GiveNothing) (hblock : block.StandsAt data (.object members))
    (hmember : members.lookup name = some value) :
    Scopes.resolve data (block :: scopes) (fieldPath name 0 name) =
      .ok ⟨some name, some value, some (block.origin ++ [name])⟩ :=
  resolve_fieldPath (hscopes.cons hblock) hblock hmember

/-- What the innermost block provides itself. -/
def localPath (written name : String) : Path := ⟨written, false, true, 0, [name]⟩

theorem resolve_localPath (data : Json) (scopes : Scopes) (written : String) {block : Block}
    {name : String} {value : Json} (hlocal : block.locals.lookup name = some value) :
    Scopes.resolve data (block :: scopes) (localPath written name) =
      .ok ⟨some written, some value, none⟩ := by
  have hprovides : block.locals.isEmpty = false := by
    cases h : block.locals with
    | nil => simp [h] at hlocal
    | cons => rfl
  simp [resolve, localPath, local?, hprovides, hlocal]

end Scopes

end BindingGen.Template
