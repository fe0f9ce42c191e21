import BindingGen.Proofs.Json.Written
import BindingGen.Proofs.Schema.Accepted

/-!
# Written documents

A document that was read is read again from the text that it is written as, if what its records keep
besides has no floating-point numbers.
-/

namespace BindingGen.Schema

open Json

/-! ## Parts of records -/

section

variable {α : Type} {depth : Nat}

theorem expectString_reading (s : String) (behind : List Char) :
    expectString ((Json.string s).reading behind) = .ok s := by
  rw [reading]
  rfl

theorem expectText_reading (s : Option String) (behind : List Char) :
    expectOptional expectString ((Json.orNull .string s).reading behind) = .ok s := by
  cases s with
  | none =>
    rw [orNull, reading]
    rfl
  | some s =>
    rw [orNull, reading]
    rfl

theorem expectInteger_reading {value : Option Int} (h : ∀ n, value = some n → IsSigned n)
    (behind : List Char) :
    expectOptional expectInteger ((Json.orNull int value).reading behind) = .ok value := by
  cases value with
  | none =>
    rw [orNull, reading]
    rfl
  | some n =>
    have hread : expectInteger (.scalar (.number (.integer n)) behind) = .ok n :=
      if_pos (h n rfl).2
    rw [orNull, int, reading]
    change some <$> expectInteger (.scalar (.number (.integer n)) behind) = _
    rw [hread]
    rfl

theorem expectList_reading {expect : Reading → Except ReadError α} (written : α → Json)
    {values : List α}
    (h : ∀ value ∈ values, ∀ behind, expect ((written value).reading behind) = .ok value)
    (behind : List Char) :
    expectList expect ((Json.array (values.map written)).reading behind) = .ok values := by
  rw [reading]
  change (itemReadings (values.map written) (']' :: behind)).mapM expect = .ok values
  induction values with
  | nil =>
    rw [List.map_nil, itemReadings]
    rfl
  | cons value rest ih =>
    obtain ⟨hvalue, hrest⟩ := List.forall_mem_cons.mp h
    rw [List.map_cons, itemReadings, List.mapM_cons, hvalue, ih hrest]
    rfl

theorem plain_null : Plain (depth + 1) .null :=
  ⟨.scalar .null (fun _ h => nomatch h), (fun _ h => nomatch h)⟩

theorem plain_string (s : String) : Plain (depth + 1) (.string s) :=
  ⟨.scalar (.string s) (fun _ h => nomatch h), (fun _ h => nomatch h)⟩

theorem plain_text (s : Option String) : Plain (depth + 1) (Json.orNull .string s) := by
  cases s with
  | none => exact plain_null
  | some s => exact plain_string s

theorem plain_integer {value : Option Int} (h : ∀ n, value = some n → IsSigned n) :
    Plain (depth + 1) (Json.orNull int value) := by
  cases value with
  | none => exact plain_null
  | some n =>
    refine ⟨.scalar (.number (.integer n)) fun number hnumber => ?_,
      fun number hnumber => List.mem_singleton.mp hnumber ▸ rfl⟩
    cases hnumber
    have hless : Int.pow 2 63 < Int.pow 2 64 := by decide
    exact ⟨(h n rfl).1, Int.lt_trans (h n rfl).2 hless⟩

end

/-! ## Records -/

section

variable {σ α : Type} {keys : List String} {depth : Nat} {own extra : Members}
  {step : σ → String → Mark → Reading → Except ReadError σ}

theorem foldlM_keep (put : Members → σ)
    (hstep : ∀ held key mark read, key ∉ keys →
      step (put held) key mark read = put <$> keep held key read)
    (hkeys : ∀ member ∈ extra, member.1 ∉ keys)
    (hregular : ∀ member ∈ extra, Regular depth member.2) (held : Members) (behind : List Char) :
    (memberReadings extra behind).foldlM (fun held (key, mark, read) => step held key mark read)
      (put held) = .ok (put (extra.foldl
        (fun sorted (key, value) => KeyOrder.insert key value sorted) held)) := by
  induction extra generalizing held with
  | nil =>
    rw [memberReadings]
    rfl
  | cons member rest ih =>
    obtain ⟨hkey, hkeys⟩ := List.forall_mem_cons.mp hkeys
    obtain ⟨hmember, hregular⟩ := List.forall_mem_cons.mp hregular
    rw [memberReadings, List.foldlM_cons]
    dsimp only
    rw [hstep _ _ _ _ hkey, keep, hmember.ordered.ofReading_reading]
    exact ih hkeys hregular _

theorem Kept.notMem_keys (h : Kept keys depth extra) : ∀ member ∈ extra, member.1 ∉ keys := by
  intro member hmember hkey
  have hnone := List.lookup_eq_none_iff.mp (h.apart member.1 hkey) member hmember
  simp at hnone

/-- A record is decoded from its own members in their written order, and those besides. -/
theorem expectRecord_reading {start : σ} {finish : σ → Mark → Except ReadError α} {record : α}
    (put : Members → σ)
    (hstep : ∀ held key mark read, key ∉ keys →
      step (put held) key mark read = put <$> keep held key read)
    (hextra : Kept keys depth extra)
    (hown : ∀ behind, (memberReadings own behind).foldlM
      (fun held (key, mark, read) => step held key mark read) start = .ok (put []))
    (hfinish : ∀ stop, finish (put extra) stop = .ok record) (expected : String)
    (behind : List Char) :
    expectRecord expected start step finish ((Json.object (own ++ extra)).reading behind) =
      .ok record := by
  rw [reading, expectRecord, memberReadings_append, List.foldlM_append, hown]
  change (memberReadings extra _).foldlM _ (put []) >>= (fun held => finish held _) = _
  rw [foldlM_keep put hstep hextra.notMem_keys hextra.regular]
  change finish (put (KeyOrder.ofList extra)) _ = _
  rw [KeyOrder.ofList_of_sorted hextra.sorted]
  exact hfinish _

theorem plain_members (hown : ∀ member ∈ own, Plain (depth + 1) member.2)
    (hextra : Kept keys (depth + 1) extra) (hintegral : ∀ member ∈ extra, member.2.Integral) :
    Plain (depth + 2) (.object (own ++ extra)) :=
  plain_object (List.forall_mem_append.mpr ⟨hown, fun member hmember =>
    ⟨(hextra.regular member hmember).within, hintegral member hmember⟩⟩)

end

/-! ## Enumerations -/

section

variable {depth : Nat}

theorem EnumValue.ofReading_reading {v : EnumValue} (h : v.Regular depth) (behind : List Char) :
    EnumValue.ofReading ((Json.object v.members).reading behind) = .ok v := by
  refine expectRecord_reading (fun extra => ⟨some v.name, some v.value, some v.comment, extra⟩)
    (fun held key mark read hkey => ?_) h.extra (fun behind => ?_) (fun _ => rfl) _ behind
  · unfold EnumValueParts.add
    split
    · exact absurd (by decide) hkey
    · exact absurd (by decide) hkey
    · exact absurd (by decide) hkey
    · rfl
  · simp only [memberReadings, List.foldlM_cons, List.foldlM_nil, EnumValueParts.add, claim,
      expectText_reading, expectInteger_reading h.value]
    rfl

theorem EnumValue.plain {v : EnumValue} (h : v.Regular (depth + 1))
    (hextra : ∀ member ∈ v.extra, member.2.Integral) :
    Plain (depth + 2) (.object v.members) := by
  refine plain_members ?_ h.extra hextra
  simp only [List.forall_mem_cons]
  exact ⟨plain_text _, plain_integer h.value, plain_text _, List.forall_mem_nil _⟩

theorem EnumDefinition.ofReading_reading {d : EnumDefinition} (h : d.Regular depth)
    (behind : List Char) :
    EnumDefinition.ofReading ((Json.object (d.members .object)).reading behind) = .ok d := by
  have hvalues := expectList_reading (fun v => Json.object v.members)
    fun v hv => EnumValue.ofReading_reading (h.values v hv)
  refine expectRecord_reading (fun extra => ⟨some d.name, some d.values, extra⟩)
    (fun held key mark read hkey => ?_) h.extra (fun behind => ?_) (fun _ => rfl) _ behind
  · unfold EnumParts.add
    split
    · exact absurd (by decide) hkey
    · exact absurd (by decide) hkey
    · rfl
  · simp only [memberReadings, List.foldlM_cons, List.foldlM_nil, EnumParts.add, claim,
      expectString_reading, hvalues]
    rfl

theorem EnumDefinition.plain {d : EnumDefinition} (h : d.Regular (depth + 1))
    (hextras : ∀ extra ∈ d.extra :: d.values.map (·.extra), ∀ member ∈ extra, member.2.Integral) :
    Plain (depth + 4) (.object (d.members .object)) := by
  obtain ⟨hextra, hvalues⟩ := List.forall_mem_cons.mp hextras
  refine plain_members ?_ h.extra hextra
  simp only [List.forall_mem_cons]
  refine ⟨plain_string _, plain_array ?_, List.forall_mem_nil _⟩
  exact List.forall_mem_map.mpr fun v hv =>
    EnumValue.plain (h.values v hv) (List.forall_mem_map.mp hvalues v hv)

/-! ## Structures -/

theorem StructField.ofReading_reading {f : StructField} (h : f.Regular depth)
    (behind : List Char) :
    StructField.ofReading ((Json.object f.members).reading behind) = .ok f := by
  refine expectRecord_reading (fun extra => ⟨some f.name, some f.cType, some f.comment, extra⟩)
    (fun held key mark read hkey => ?_) h (fun behind => ?_) (fun _ => rfl) _ behind
  · unfold FieldParts.add
    split
    · exact absurd (by decide) hkey
    · exact absurd (by decide) hkey
    · exact absurd (by decide) hkey
    · rfl
  · simp only [memberReadings, List.foldlM_cons, List.foldlM_nil, FieldParts.add, claim,
      expectString_reading, expectText_reading]
    rfl

theorem StructField.plain {f : StructField} (h : f.Regular (depth + 1))
    (hextra : ∀ member ∈ f.extra, member.2.Integral) :
    Plain (depth + 2) (.object f.members) := by
  refine plain_members ?_ h hextra
  simp only [List.forall_mem_cons]
  exact ⟨plain_string _, plain_string _, plain_text _, List.forall_mem_nil _⟩

theorem StructDefinition.ofReading_reading {d : StructDefinition} (h : d.Regular depth)
    (behind : List Char) :
    StructDefinition.ofReading ((Json.object (d.members .object)).reading behind) = .ok d := by
  have hfields := expectList_reading (fun f => Json.object f.members)
    fun f hf => StructField.ofReading_reading (h.fields f hf)
  refine expectRecord_reading (fun extra => ⟨some d.name, some d.fields, extra⟩)
    (fun held key mark read hkey => ?_) h.extra (fun behind => ?_) (fun _ => rfl) _ behind
  · unfold StructParts.add
    split
    · exact absurd (by decide) hkey
    · exact absurd (by decide) hkey
    · rfl
  · simp only [memberReadings, List.foldlM_cons, List.foldlM_nil, StructParts.add, claim,
      expectString_reading, hfields]
    rfl

theorem StructDefinition.plain {d : StructDefinition} (h : d.Regular (depth + 1))
    (hextras : ∀ extra ∈ d.extra :: d.fields.map (·.extra), ∀ member ∈ extra, member.2.Integral) :
    Plain (depth + 4) (.object (d.members .object)) := by
  obtain ⟨hextra, hfields⟩ := List.forall_mem_cons.mp hextras
  refine plain_members ?_ h.extra hextra
  simp only [List.forall_mem_cons]
  refine ⟨plain_string _, plain_array ?_, List.forall_mem_nil _⟩
  exact List.forall_mem_map.mpr fun f hf =>
    StructField.plain (h.fields f hf) (List.forall_mem_map.mp hfields f hf)

end

/-! ## Documents -/

namespace Document

/-- What the records of a document keep besides their own keys. -/
def extras : Document → List Members
  | enums definitions => definitions.flatMap fun d => d.extra :: d.values.map (·.extra)
  | structs definitions => definitions.flatMap fun d => d.extra :: d.fields.map (·.extra)

variable {depth : Nat} {document : Document}

theorem ofReading_reading (h : document.Regular depth) (behind : List Char) :
    ofReading document.kind ((document.toJsonWith .object).reading behind) = .ok document := by
  cases document with
  | enums definitions =>
    have hdefinitions := expectList_reading (fun d => Json.object (d.members .object))
      (fun d hd => EnumDefinition.ofReading_reading (h d hd)) behind
    exact congrArg (enums <$> ·) hdefinitions
  | structs definitions =>
    have hdefinitions := expectList_reading (fun d => Json.object (d.members .object))
      (fun d hd => StructDefinition.ofReading_reading (h d hd)) behind
    exact congrArg (structs <$> ·) hdefinitions

theorem plain (h : document.Regular (depth + 1))
    (hextras : ∀ extra ∈ document.extras, ∀ member ∈ extra, member.2.Integral) :
    Plain (depth + 5) (document.toJsonWith .object) := by
  cases document with
  | enums definitions =>
    refine plain_array (List.forall_mem_map.mpr fun d hd => ?_)
    exact EnumDefinition.plain (h d hd) fun extra hextra =>
      hextras extra (List.mem_flatMap.mpr ⟨d, hd, hextra⟩)
  | structs definitions =>
    refine plain_array (List.forall_mem_map.mpr fun d hd => ?_)
    exact StructDefinition.plain (h d hd) fun extra hextra =>
      hextras extra (List.mem_flatMap.mpr ⟨d, hd, hextra⟩)

theorem kind_of_ofText {kind : Kind} {text source : String}
    (h : ofText kind text source = .ok document) : document.kind = kind := by
  unfold ofText at h
  split at h
  · rename_i decoded hdecoded
    cases h
    have hread := (decodeText_eq_ok_iff.mp hdecoded).1
    cases kind <;> obtain ⟨definitions, _, h⟩ := bind_eq_ok_iff.mp hread <;> cases h <;> rfl
  · cases h

/-- **A document is read back from its text**, whatever text it was read from, if nothing that it
keeps besides has a floating-point number. So writing it again gives the same text. -/
theorem ofText_written {kind : Kind} {text source : String}
    (h : ofText kind text source = .ok document)
    (hextras : ∀ extra ∈ document.extras, ∀ member ∈ extra, member.2.Integral) (path : String) :
    ofText kind document.text path = .ok document ∧ document.kind = kind ∧
      ∀ again, ofText kind document.text path = .ok again →
        again.text = document.text ∧ again.kind = document.kind ∧ again.size = document.size ∧
          again.definitionNames = document.definitionNames := by
  have hkind := kind_of_ofText h
  have hregular := regular_of_ofText h
  have hback := (plain hregular hextras).readBack
  have hspace := hback.skipSpace_eq []
  have hread := hback.read [] closes_nil
  rw [List.append_nil] at hspace hread
  have htext : document.text.toList = (document.toJsonWith .object).textChars :=
    String.toList_ofList
  have hvalue : Reading.readValue Reading.depthLimit (skipSpace document.text.toList) =
      ((document.toJsonWith .object).reading [], some []) := by
    rw [htext, hspace]
    exact hread
  have hdecoded : decodeText (ofReading kind) document.text.toList = .ok document := by
    rw [decodeText_eq_ok_iff, readingOf, hvalue]
    exact ⟨hkind ▸ ofReading_reading hregular [], rfl⟩
  have hagain : ofText kind document.text path = .ok document := by
    rw [ofText, hdecoded]
  refine ⟨hagain, hkind, fun again h => ?_⟩
  rw [hagain] at h
  cases h
  exact ⟨rfl, rfl, rfl, rfl⟩

/-- Blanks, keys out of order and one of them twice, absent keys, escapes, integers at the limits. -/
def sampleText : String :=
  "[ \x7b\"values\": [\x7b\"value\": -9223372036854775808, \"z\": \x7b\"b\": \"\\ud83d\\ude00\", " ++
    "\"a\": 18446744073709551615, \"b\": [true, \"\\u0001\"]\x7d\x7d, \x7b\x7d], " ++
    "\"name\": \"\\u00c4\\\"\"\x7d ]"

def sampleWritten : String :=
  "[\x7b\"name\":\"Ä\\\"\",\"values\":[\x7b\"name\":null,\"value\":-9223372036854775808," ++
    "\"comment\":null,\"z\":\x7b\"a\":18446744073709551615,\"b\":[true,\"\\u0001\"]\x7d\x7d," ++
    "\x7b\"name\":null,\"value\":null,\"comment\":null\x7d]\x7d]"

theorem ofText_written_sample :
    ∃ document, ofText .enums sampleText "first.json" = .ok document ∧
      document.text = sampleWritten ∧ ofText .enums sampleWritten "second.json" = .ok document := by
  have hsample : (match ofText .enums sampleText "first.json" with
      | .ok document => decide (document.text = sampleWritten ∧
        ∀ extra ∈ document.extras, ∀ member ∈ extra, member.2.Integral)
      | .error _ => false) = true := by decide +kernel
  cases hread : ofText .enums sampleText "first.json" with
  | error failure =>
    rw [hread] at hsample
    cases hsample
  | ok document =>
    rw [hread] at hsample
    obtain ⟨htext, hextras⟩ := of_decide_eq_true hsample
    exact ⟨document, rfl, htext, htext ▸ (ofText_written hread hextras "second.json").1⟩

end Document

end BindingGen.Schema
