import BindingGen.Proofs.Members
import BindingGen.Schema.Document

/-!
# Keys that a record keeps

A record keeps the members that it does not model. Where none of them uses one of its own keys, its
object answers for those with the record's own values.
-/

namespace BindingGen.Schema

/-- Members that use none of some keys. -/
def Apart (keys : List String) (extra : Json.Members) : Prop :=
  ∀ key ∈ keys, extra.lookup key = none

instance (keys : List String) (extra : Json.Members) : Decidable (Apart keys extra) :=
  inferInstanceAs (Decidable (∀ key ∈ keys, extra.lookup key = none))

/-! ## Records -/

def EnumValue.KeysApart (v : EnumValue) : Prop := Apart ["name", "value", "comment"] v.extra

structure EnumDefinition.KeysApart (d : EnumDefinition) : Prop where
  own : Apart ["name", "values"] d.extra
  values : ∀ v ∈ d.values, v.KeysApart

def StructField.KeysApart (f : StructField) : Prop := Apart ["name", "c_type", "comment"] f.extra

structure StructDefinition.KeysApart (d : StructDefinition) : Prop where
  own : Apart ["name", "fields"] d.extra
  fields : ∀ f ∈ d.fields, f.KeysApart

/-- A document in which no record keeps a member under a key of its own. -/
def Document.KeysApart : Document → Prop
  | enums definitions => ∀ d ∈ definitions, d.KeysApart
  | structs definitions => ∀ d ∈ definitions, d.KeysApart

instance (v : EnumValue) : Decidable v.KeysApart := inferInstanceAs (Decidable (Apart _ v.extra))

instance (f : StructField) : Decidable f.KeysApart := inferInstanceAs (Decidable (Apart _ f.extra))

instance (d : EnumDefinition) : Decidable d.KeysApart :=
  decidable_of_iff (Apart ["name", "values"] d.extra ∧ ∀ v ∈ d.values, v.KeysApart)
    ⟨fun h => ⟨h.1, h.2⟩, fun h => ⟨h.own, h.values⟩⟩

instance (d : StructDefinition) : Decidable d.KeysApart :=
  decidable_of_iff (Apart ["name", "fields"] d.extra ∧ ∀ f ∈ d.fields, f.KeysApart)
    ⟨fun h => ⟨h.1, h.2⟩, fun h => ⟨h.own, h.fields⟩⟩

instance : (document : Document) → Decidable document.KeysApart
  | .enums definitions => inferInstanceAs (Decidable (∀ d ∈ definitions, d.KeysApart))
  | .structs definitions => inferInstanceAs (Decidable (∀ d ∈ definitions, d.KeysApart))

/-! ## Look-ups -/

theorem lookup_own {own extra : Json.Members} {keys : List String} {key : String}
    (h : Apart keys extra) (hkey : key ∈ keys) :
    (Json.Members.sort (own ++ extra)).lookup key = own.reverse.lookup key :=
  Json.lookup_sort_append (h key hkey)

namespace EnumValue

variable {v : EnumValue}

theorem lookup_name (h : v.KeysApart) :
    v.members.sort.lookup "name" = some (Json.orNull .string v.name) :=
  lookup_own h (by decide)

theorem lookup_value (h : v.KeysApart) :
    v.members.sort.lookup "value" = some (Json.orNull Json.int v.value) :=
  lookup_own h (by decide)

theorem lookup_comment (h : v.KeysApart) :
    v.members.sort.lookup "comment" = some (Json.orNull .string v.comment) :=
  lookup_own h (by decide)

end EnumValue

namespace StructField

variable {f : StructField}

theorem lookup_name (h : f.KeysApart) : f.members.sort.lookup "name" = some (.string f.name) :=
  lookup_own h (by decide)

theorem lookup_cType (h : f.KeysApart) : f.members.sort.lookup "c_type" = some (.string f.cType) :=
  lookup_own h (by decide)

theorem lookup_comment (h : f.KeysApart) :
    f.members.sort.lookup "comment" = some (Json.orNull .string f.comment) :=
  lookup_own h (by decide)

end StructField

variable {make : Json.Members → Json}

theorem EnumDefinition.lookup_name {d : EnumDefinition} (h : d.KeysApart) :
    (d.members make).sort.lookup "name" = some (.string d.name) :=
  lookup_own h.own (by decide)

theorem EnumDefinition.lookup_values {d : EnumDefinition} (h : d.KeysApart) :
    (d.members make).sort.lookup "values" =
      some (.array (d.values.map fun v => make v.members)) :=
  lookup_own h.own (by decide)

theorem StructDefinition.lookup_name {d : StructDefinition} (h : d.KeysApart) :
    (d.members make).sort.lookup "name" = some (.string d.name) :=
  lookup_own h.own (by decide)

theorem StructDefinition.lookup_fields {d : StructDefinition} (h : d.KeysApart) :
    (d.members make).sort.lookup "fields" =
      some (.array (d.fields.map fun f => make f.members)) :=
  lookup_own h.own (by decide)

end BindingGen.Schema
