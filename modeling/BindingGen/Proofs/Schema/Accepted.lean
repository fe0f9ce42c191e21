import BindingGen.Proofs.Schema.Record

/-!
# Accepted documents

A text is decoded as a document exactly if its value has the form of one and none of its records
writes a key of its own twice. The document is the value, with null for what may be absent.
-/

namespace BindingGen.Schema

open Json

/-! ## Steps -/

section

variable {α : Type} {expect : Reading → Except ReadError α} {form : Form} {out : α → Json}
  {slots : List Slot} {slot : Slot} {key : String} {mark : Mark} {read : Reading} {value : Json}
  {held part : Option α} {before after : Held} {extra : Members}

/-- A member that is claimed goes into its slot. -/
theorem Faithful.stepped (h : Faithful expect form out) (i : Nat) (hslot : slots[i]? = some slot)
    (hform : slot.form = form) (hkey : slot.key = key)
    (hbefore : before.own[i]? = some (held.map out))
    (hafter : after = ⟨before.own.set i (part.map out), before.extra⟩) (hrange : read.InRange)
    (hpart : claim key mark held (expect read) = .ok part) : Stepped slots before key read after := by
  subst hform hafter
  unfold claim at hpart
  split at hpart
  · cases hpart
  · obtain ⟨result, hresult, hpart⟩ := bind_eq_ok_iff.mp hpart
    cases hpart
    obtain ⟨value, hvalue, haccepts, hout⟩ := h.sound hrange hresult
    rw [Option.map_some, hout]
    exact .claimed hslot hkey hbefore hvalue haccepts

/-- A member can be claimed if its slot is free and its value has the form. -/
theorem Faithful.exists_step {σ : Type} {put : Option α → σ} (h : Faithful expect form out)
    (hrange : read.InRange) (hvalue : ofReading read = .ok value)
    (hfree : ∀ (i : Nat) (slot : Slot), slots[i]? = some slot → slot.key = key →
      before.own[i]? = some none ∧ slot.form.Accepts read value)
    (i : Nat) (hslot : slots[i]? = some slot) (hform : slot.form = form) (hkey : slot.key = key)
    (hbefore : before.own[i]? = some (held.map out)) :
    ∃ after, (do return put (← claim key mark held (expect read))) =
      (.ok after : Except ReadError σ) := by
  obtain ⟨hnone, haccepts⟩ := hfree i slot hslot hkey
  rw [hbefore, Option.some_inj, Option.map_eq_none_iff] at hnone
  obtain ⟨result, hresult⟩ := h.total hrange hvalue (hform ▸ haccepts)
  exact ⟨put (some result), by rw [hnone, hresult]; rfl⟩

theorem stepped_keep (before : Held) (hkey : key ∉ slots.map Slot.key)
    (hextra : keep before.extra key read = .ok extra) :
    Stepped slots before key read ⟨before.own, extra⟩ := by
  obtain ⟨value, hvalue, hextra⟩ := bind_eq_ok_iff.mp hextra
  cases hextra
  exact .kept hkey hvalue

theorem exists_keep {σ : Type} {put : Members → σ} (hvalue : ofReading read = .ok value) :
    ∃ after, (do return put (← keep extra key read)) = (.ok after : Except ReadError σ) :=
  ⟨put (extra.insert key value), by rw [keep, hvalue]; rfl⟩

theorem orNull_join (f : α → Json) (given : Option (Option α)) :
    Json.orNull f given.join = (given.map (Json.orNull f)).getD .null := by
  cases given <;> rfl

end

/-! ## Enumerators -/

def EnumValueParts.view (held : EnumValueParts) : Held :=
  ⟨[held.name.map (Json.orNull .string), held.value.map (Json.orNull int),
    held.comment.map (Json.orNull .string)], held.extra⟩

def EnumValue.toJson (v : EnumValue) : Json := ofMembers v.members

theorem EnumValue.faithful :
    Faithful EnumValue.ofReading (.record Kind.enums.memberSlots) EnumValue.toJson := by
  refine ReadsRecord.faithful EnumValueParts.view
    { keys := by decide, view_start := rfl, step_sound := ?sound, step_total := ?total,
      finish_sound := ?finished, finish_total := ?complete } "struct EnumValue"
  case sound =>
    intro before key mark read after hrange h
    unfold EnumValueParts.add at h
    split at h <;> obtain ⟨part, hpart, h⟩ := bind_eq_ok_iff.mp h <;> cases h
    · exact faithful_text.orNull.stepped 0 rfl rfl rfl rfl rfl hrange hpart
    · exact faithful_integer.orNull.stepped 1 rfl rfl rfl rfl rfl hrange hpart
    · exact faithful_text.orNull.stepped 2 rfl rfl rfl rfl rfl hrange hpart
    · exact stepped_keep before.view (by simp_all [Kind.memberSlots, Slot.optional]) hpart
  case total =>
    intro before key mark read value hrange hvalue hfree
    unfold EnumValueParts.add
    split
    · exact faithful_text.orNull.exists_step hrange hvalue hfree 0 rfl rfl rfl rfl
    · exact faithful_integer.orNull.exists_step hrange hvalue hfree 1 rfl rfl rfl rfl
    · exact faithful_text.orNull.exists_step hrange hvalue hfree 2 rfl rfl rfl rfl
    · exact exists_keep hvalue
  case finished =>
    intro held stop result h
    cases h
    refine ⟨rfl, ?_⟩
    rw [EnumValue.toJson, EnumValue.members, orNull_join, orNull_join, orNull_join]
    rfl
  case complete => exact fun _ => ⟨_, rfl⟩

/-! ## Enumerations -/

def EnumParts.view (held : EnumParts) : Held :=
  ⟨[held.name.map .string, held.values.map fun values => .array (values.map EnumValue.toJson)],
    held.extra⟩

def EnumDefinition.toJson (d : EnumDefinition) : Json := ofMembers (d.members ofMembers)

theorem EnumDefinition.faithful :
    Faithful EnumDefinition.ofReading (.record Kind.enums.definitionSlots) EnumDefinition.toJson := by
  refine ReadsRecord.faithful EnumParts.view
    { keys := by decide, view_start := rfl, step_sound := ?sound, step_total := ?total,
      finish_sound := ?finished, finish_total := ?complete } "struct EnumDefinition"
  case sound =>
    intro before key mark read after hrange h
    unfold EnumParts.add at h
    split at h <;> obtain ⟨part, hpart, h⟩ := bind_eq_ok_iff.mp h <;> cases h
    · exact faithful_text.stepped 0 rfl rfl rfl rfl rfl hrange hpart
    · exact EnumValue.faithful.list.stepped 1 rfl rfl rfl rfl rfl hrange hpart
    · exact stepped_keep before.view
        (by simp_all [Kind.definitionSlots, Kind.membersKey, Slot.given]) hpart
  case total =>
    intro before key mark read value hrange hvalue hfree
    unfold EnumParts.add
    split
    · exact faithful_text.exists_step hrange hvalue hfree 0 rfl rfl rfl rfl
    · exact EnumValue.faithful.list.exists_step hrange hvalue hfree 1 rfl rfl rfl rfl
    · exact exists_keep hvalue
  case finished =>
    intro held stop result h
    obtain ⟨name, hname, h⟩ := bind_eq_ok_iff.mp h
    obtain ⟨values, hvalues, h⟩ := bind_eq_ok_iff.mp h
    cases h
    rw [EnumParts.view, require_ok hname, require_ok hvalues]
    exact ⟨rfl, rfl⟩
  case complete =>
    intro held stop hfilled
    obtain ⟨name, values, extra⟩ := held
    cases name <;> cases values <;> first | exact ⟨_, rfl⟩ | cases hfilled

/-! ## Fields -/

def FieldParts.view (held : FieldParts) : Held :=
  ⟨[held.name.map .string, held.cType.map .string, held.comment.map (Json.orNull .string)],
    held.extra⟩

def StructField.toJson (f : StructField) : Json := ofMembers f.members

theorem StructField.faithful :
    Faithful StructField.ofReading (.record Kind.structs.memberSlots) StructField.toJson := by
  refine ReadsRecord.faithful FieldParts.view
    { keys := by decide, view_start := rfl, step_sound := ?sound, step_total := ?total,
      finish_sound := ?finished, finish_total := ?complete } "struct StructField"
  case sound =>
    intro before key mark read after hrange h
    unfold FieldParts.add at h
    split at h <;> obtain ⟨part, hpart, h⟩ := bind_eq_ok_iff.mp h <;> cases h
    · exact faithful_text.stepped 0 rfl rfl rfl rfl rfl hrange hpart
    · exact faithful_text.stepped 1 rfl rfl rfl rfl rfl hrange hpart
    · exact faithful_text.orNull.stepped 2 rfl rfl rfl rfl rfl hrange hpart
    · exact stepped_keep before.view
        (by simp_all [Kind.memberSlots, Slot.given, Slot.optional]) hpart
  case total =>
    intro before key mark read value hrange hvalue hfree
    unfold FieldParts.add
    split
    · exact faithful_text.exists_step hrange hvalue hfree 0 rfl rfl rfl rfl
    · exact faithful_text.exists_step hrange hvalue hfree 1 rfl rfl rfl rfl
    · exact faithful_text.orNull.exists_step hrange hvalue hfree 2 rfl rfl rfl rfl
    · exact exists_keep hvalue
  case finished =>
    intro held stop result h
    obtain ⟨name, hname, h⟩ := bind_eq_ok_iff.mp h
    obtain ⟨cType, hcType, h⟩ := bind_eq_ok_iff.mp h
    cases h
    rw [FieldParts.view, require_ok hname, require_ok hcType]
    refine ⟨rfl, ?_⟩
    rw [StructField.toJson, StructField.members, orNull_join]
    rfl
  case complete =>
    intro held stop hfilled
    obtain ⟨name, cType, comment, extra⟩ := held
    cases name <;> cases cType <;> first | exact ⟨_, rfl⟩ | cases hfilled

/-! ## Structures -/

def StructParts.view (held : StructParts) : Held :=
  ⟨[held.name.map .string, held.fields.map fun fields => .array (fields.map StructField.toJson)],
    held.extra⟩

def StructDefinition.toJson (d : StructDefinition) : Json := ofMembers (d.members ofMembers)

theorem StructDefinition.faithful :
    Faithful StructDefinition.ofReading (.record Kind.structs.definitionSlots)
      StructDefinition.toJson := by
  refine ReadsRecord.faithful StructParts.view
    { keys := by decide, view_start := rfl, step_sound := ?sound, step_total := ?total,
      finish_sound := ?finished, finish_total := ?complete } "struct StructDefinition"
  case sound =>
    intro before key mark read after hrange h
    unfold StructParts.add at h
    split at h <;> obtain ⟨part, hpart, h⟩ := bind_eq_ok_iff.mp h <;> cases h
    · exact faithful_text.stepped 0 rfl rfl rfl rfl rfl hrange hpart
    · exact StructField.faithful.list.stepped 1 rfl rfl rfl rfl rfl hrange hpart
    · exact stepped_keep before.view
        (by simp_all [Kind.definitionSlots, Kind.membersKey, Slot.given]) hpart
  case total =>
    intro before key mark read value hrange hvalue hfree
    unfold StructParts.add
    split
    · exact faithful_text.exists_step hrange hvalue hfree 0 rfl rfl rfl rfl
    · exact StructField.faithful.list.exists_step hrange hvalue hfree 1 rfl rfl rfl rfl
    · exact exists_keep hvalue
  case finished =>
    intro held stop result h
    obtain ⟨name, hname, h⟩ := bind_eq_ok_iff.mp h
    obtain ⟨fields, hfields, h⟩ := bind_eq_ok_iff.mp h
    cases h
    rw [StructParts.view, require_ok hname, require_ok hfields]
    exact ⟨rfl, rfl⟩
  case complete =>
    intro held stop hfilled
    obtain ⟨name, fields, extra⟩ := held
    cases name <;> cases fields <;> first | exact ⟨_, rfl⟩ | cases hfilled

/-! ## Documents -/

theorem Faithful.wrap {α β : Type} {expect : Reading → Except ReadError α} {form : Form}
    {out : α → Json} {wrapped : β → Json} {wrap : α → β} (h : Faithful expect form out)
    (hwrap : ∀ result, wrapped (wrap result) = out result) :
    Faithful (fun read => wrap <$> expect read) form wrapped where
  sound := by
    intro read result hrange hresult
    obtain ⟨inner, hinner, hresult⟩ := bind_eq_ok_iff.mp hresult
    cases hresult
    obtain ⟨value, hvalue, haccepts, hout⟩ := h.sound hrange hinner
    exact ⟨value, hvalue, haccepts, (hwrap inner).trans hout⟩
  total := by
    intro read value hrange hvalue haccepts
    obtain ⟨inner, hinner⟩ := h.total hrange hvalue haccepts
    exact ⟨wrap inner, by rw [hinner]; rfl⟩

namespace Document

theorem faithful (kind : Kind) : Faithful (ofReading kind) kind.form Document.toJson := by
  cases kind with
  | enums => exact EnumDefinition.faithful.list.wrap fun _ => rfl
  | structs => exact StructDefinition.faithful.list.wrap fun _ => rfl

def readingOf (text : String) : Reading :=
  (Reading.readValue Reading.depthLimit (skipSpace text.toList)).1

/-- A text whose value has the form of a document, and whose records write their keys once. -/
def Accepted (kind : Kind) (text : String) (value : Json) : Prop :=
  Json.ofText text.toList = .ok value ∧ kind.form.Accepts (readingOf text) value

theorem exists_accepted_iff {kind : Kind} {text : String} :
    (∃ value, Accepted kind text value) ↔
      (Json.ofText text.toList).toOption.any kind.form.fits = true ∧
        kind.form.once (readingOf text) = true := by
  unfold Accepted
  cases Json.ofText text.toList with
  | error fault => simp [Except.toOption]
  | ok value =>
    constructor
    · rintro ⟨_, ⟨⟩, haccepts⟩
      exact ⟨haccepts.fits, haccepts.once⟩
    · rintro ⟨hfits, honce⟩
      exact ⟨value, rfl, hfits, honce⟩

instance (kind : Kind) (text : String) : Decidable (∃ value, Accepted kind text value) :=
  decidable_of_iff' _ exists_accepted_iff

/-- A whole text is decoded as its reading is, if nothing but blanks follows. -/
theorem decodeText_eq_ok_iff {α : Type} {decode : Reading → Except ReadError α} {text : String}
    {result : α} :
    decodeText decode text.toList = .ok result ↔
      decode (readingOf text) = .ok result ∧
        skipSpace ((Reading.readValue Reading.depthLimit (skipSpace text.toList)).2.getD []) = [] := by
  rw [decodeText, bind_eq_ok_iff]
  constructor
  · rintro ⟨value, hvalue, hresult⟩
    split at hresult
    · rename_i hbehind
      cases hresult
      exact ⟨hvalue, hbehind⟩
    · cases hresult
  · rintro ⟨hresult, hbehind⟩
    exact ⟨result, hresult, by rw [hbehind]; rfl⟩

theorem accepted_of_ofText {kind : Kind} {text source : String} {document : Document}
    (h : ofText kind text source = .ok document) :
    ∃ value, Accepted kind text value ∧ document.toJson = kind.form.complete value := by
  unfold ofText at h
  split at h
  · rename_i decoded hdecoded
    cases h
    obtain ⟨hread, hbehind⟩ := decodeText_eq_ok_iff.mp hdecoded
    obtain ⟨value, hvalue, haccepts, hout⟩ :=
      (faithful kind).sound (Reading.inRange_readValue _ _) hread
    exact ⟨value, ⟨decodeText_eq_ok_iff.mpr ⟨hvalue, hbehind⟩, haccepts⟩, hout⟩
  · cases h

theorem exists_of_accepted {kind : Kind} {text : String} {value : Json}
    (h : Accepted kind text value) (source : String) :
    ∃ document, ofText kind text source = .ok document := by
  obtain ⟨hvalue, hbehind⟩ := decodeText_eq_ok_iff.mp h.1
  obtain ⟨document, hdocument⟩ :=
    (faithful kind).total (Reading.inRange_readValue _ _) hvalue h.2
  exact ⟨document, by rw [ofText, decodeText_eq_ok_iff.mpr ⟨hdocument, hbehind⟩]⟩

/-- **Exactly the accepted texts are decoded, and nothing is lost of them.** Any other fails with the
source that it was given as. -/
theorem ofText_faithful (kind : Kind) (text source : String) :
    (∀ document, ofText kind text source = .ok document →
      ∃ value, Accepted kind text value ∧ document.toJson = kind.form.complete value) ∧
    ((∃ value, Accepted kind text value) → ∃ document, ofText kind text source = .ok document) ∧
    ((¬ ∃ value, Accepted kind text value) →
      ∃ reason, ofText kind text source = .error (.schemaLoad source reason)) := by
  refine ⟨fun _ h => accepted_of_ofText h, fun ⟨_, h⟩ => exists_of_accepted h source, fun hnone => ?_⟩
  cases hread : ofText kind text source with
  | ok document =>
    obtain ⟨value, haccepted, _⟩ := accepted_of_ofText hread
    exact absurd ⟨value, haccepted⟩ hnone
  | error failure =>
    obtain ⟨reason, rfl⟩ := ofText_eq_error hread
    exact ⟨reason, rfl⟩

/-- Optional keys are absent, and there is a key besides. -/
def acceptedText : String := "[\x7b\"values\": [\x7b\"n\": 1\x7d], \"name\": \"A\"\x7d]"

/-- The value is one of the form, but an optional key is written twice. -/
def refusedText : String :=
  "[\x7b\"values\": [\x7b\"value\": 1, \"value\": 1\x7d], \"name\": \"A\"\x7d]"

theorem ofText_faithful_samples :
    (∃ document value, ofText .enums acceptedText "first.json" = .ok document ∧
      Accepted .enums acceptedText value ∧ document.toJson = Kind.enums.form.complete value) ∧
    (Json.ofText refusedText.toList).toOption.any Kind.enums.form.fits = true ∧
    ∃ reason, ofText .enums refusedText "second.json" =
      .error (.schemaLoad "second.json" reason) := by
  obtain ⟨hvalue, htotal, -⟩ := ofText_faithful .enums acceptedText "first.json"
  obtain ⟨-, -, hrefused⟩ := ofText_faithful .enums refusedText "second.json"
  obtain ⟨document, hdocument⟩ := htotal (by decide +kernel)
  obtain ⟨value, haccepted, hcomplete⟩ := hvalue document hdocument
  exact ⟨⟨document, value, hdocument, haccepted, hcomplete⟩, by decide +kernel,
    hrefused (by decide +kernel)⟩

end Document

end BindingGen.Schema
