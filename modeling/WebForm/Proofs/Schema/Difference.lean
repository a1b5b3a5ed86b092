/-
The exported schema beside the gate. Where the search for defects comes to its end, a value without defects in
which no attribute is null is the same as a value that is valid under the schema and has what no schema of this
kind can say: ids that differ, bounds in order and patterns that can be read. The two part at nulls, which the gate
takes for what is not there; at placeholders on types that take none, which the gate does not look at; and at limits
on types that have none, which the schema does not look at.
-/
import WebForm.Proofs.Document.Canonical
import WebForm.Proofs.Document.Halt
import WebForm.Proofs.Schema.Exported

namespace WebForm

/-- What is written entry by entry without a null has none. -/
theorem Value.get?_record_ne_null {entries : List (String × Value)} (h : ∀ e ∈ entries, e.2 ≠ .null) (key : String) :
    (record entries).get? key ≠ some .null := by
  intro hnull
  obtain ⟨e, he, hsnd⟩ := Option.map_eq_some_iff.1 hnull
  obtain ⟨e, hmem, rfl⟩ := List.mem_map.1 (List.mem_of_find?_eq_some he)
  exact h e hmem hsnd

/-- The keys of the limits that fields of a family carry. -/
def FieldType.Family.limitKeys : FieldType.Family → List String
  | written => ["min", "max", "message"]
  | formatted => ["pattern", "message"]
  | number | range => ["min", "max", "step", "message"]
  | choice | toggle => []

namespace Schema

open Grammar

/-! ## What the schema leaves out -/

/-- What limits have to satisfy beyond the schema: their bounds are in order, or their pattern can be read. -/
def LimitsCohere [CharacterNames] (limits : Value) : FieldType.Family → Prop
  | .written | .number | .range => InOrder (limits.get "min") (limits.get "max")
  | .formatted => ∀ s, limits.get "pattern" = .text s → ∃ e, Pattern.compile s = .ok e
  | .choice | .toggle => True

/-- What is under `fields`, where that is a list. -/
def fieldsOf (v : Value) : List Value :=
  match v.get "fields" with
  | .list fields => fields
  | _ => []

/-- What a document has to satisfy beyond the schema. -/
structure Coheres [CharacterNames] (v : Value) : Prop where
  ids : (fieldsOf v).Pairwise fun a b => a.get "id" ≠ b.get "id"
  limits : ∀ f ∈ fieldsOf v, ∀ type : FieldType, f.get "type" = .text type.name →
    LimitsCohere (f.get "validation") type.family

/-! ## What the schema does not let pass -/

/-- The limits of a field are not null, and none of them is. -/
def LimitsExplicit (field : Value) (family : FieldType.Family) : Prop :=
  family.limitKeys ≠ [] → field.get? "validation" ≠ some .null ∧
    ∀ key ∈ family.limitKeys, (field.get "validation").get? key ≠ some .null

/-- No attribute of a field that the schema speaks of is null, and its placeholder is a text whether or not its type
takes one. -/
structure FieldExplicit (field : Value) : Prop where
  required : field.get? "required" ≠ some .null
  placeholder : AtKey IsText field "placeholder"
  limits : ∀ type : FieldType, field.get "type" = .text type.name → LimitsExplicit field type.family

/-! ## Limits -/

theorem isFinite_of_not_tooLarge {q : Quantity} (h : ¬(Value.quantity q).TooLarge) : q.IsFinite := by
  cases q with
  | whole n =>
    by_contra hn
    exact h ⟨n, rfl, by simpa [Quantity.IsFinite] using hn⟩
  | binary x => trivial

variable {v : Value} {key : String}

/-- The numbers of the schema are the numbers of the grammar, but for those that are too large. -/
theorem exists_quantity_iff {p : Quantity → Prop} (h : ¬v.TooLarge) :
    (∃ q, v = .quantity q ∧ p q) ↔ ∃ q, v = .quantity q ∧ q.IsFinite ∧ p q := by
  refine exists_congr fun q => and_congr_right ?_
  rintro rfl
  exact (and_iff_right (isFinite_of_not_tooLarge h)).symm

theorem atKey_natural_iff (h : ¬(v.get key).TooLarge) :
    AtKey (Valid natural) v key ↔ Optional IsLength (v.get key) ∧ v.get? key ≠ some .null := by
  refine atKey_iff ?_ (valid_natural_iff.trans (exists_quantity_iff h))
  rw [valid_natural_iff]
  exact fun ⟨q, hq, _⟩ => Value.quantity_ne_null q hq.symm

theorem atKey_number_iff (h : ¬(v.get key).TooLarge) :
    AtKey (fun w => ∃ q, w = .quantity q) v key ↔ Optional IsNumber (v.get key) ∧ v.get? key ≠ some .null := by
  refine atKey_iff (fun ⟨q, hq⟩ => Value.quantity_ne_null q hq.symm) ?_
  simpa [IsNumber] using exists_quantity_iff (p := fun _ => True) h

theorem atKey_step_iff (h : ¬(v.get key).TooLarge) :
    AtKey (fun w => ∃ q, w = .quantity q ∧ 0 < q.value) v key ↔ Optional IsStep (v.get key) ∧ v.get? key ≠ some .null :=
  atKey_iff (fun ⟨q, hq, _⟩ => Value.quantity_ne_null q hq.symm) (exists_quantity_iff h)

variable {l : Value}

theorem lengthLimits_iff [CharacterNames] (hobject : IsObject l) (hmin : ¬(l.get "min").TooLarge)
    (hmax : ¬(l.get "max").TooLarge) :
    Valid lengthLimits l ∧ LimitsCohere l .written ↔
      IsLengthLimits l ∧ ∀ key ∈ FieldType.Family.written.limitKeys, l.get? key ≠ some .null := by
  rw [valid_lengthLimits_iff, atKey_natural_iff hmin, atKey_natural_iff hmax, atKey_isText_iff]
  simp only [LimitsCohere, FieldType.Family.limitKeys, List.forall_mem_cons]
  constructor
  · rintro ⟨⟨-, ⟨hmin, hminGiven⟩, ⟨hmax, hmaxGiven⟩, hmessage, hmessageGiven⟩, horder⟩
    exact ⟨⟨hmin, hmax, horder, hmessage⟩, hminGiven, hmaxGiven, hmessageGiven, List.forall_mem_nil _⟩
  · rintro ⟨⟨hmin, hmax, horder, hmessage⟩, hminGiven, hmaxGiven, hmessageGiven, -⟩
    exact ⟨⟨hobject, ⟨hmin, hminGiven⟩, ⟨hmax, hmaxGiven⟩, hmessage, hmessageGiven⟩, horder⟩

theorem formatLimits_iff [CharacterNames] (hobject : IsObject l) : Valid formatLimits l ∧ LimitsCohere l .formatted ↔
    IsFormatLimits l ∧ ∀ key ∈ FieldType.Family.formatted.limitKeys, l.get? key ≠ some .null := by
  rw [valid_formatLimits_iff, atKey_isText_iff, atKey_isText_iff]
  simp only [LimitsCohere, FieldType.Family.limitKeys, List.forall_mem_cons]
  constructor
  · rintro ⟨⟨-, ⟨hpattern, hpatternGiven⟩, hmessage, hmessageGiven⟩, hreads⟩
    refine ⟨⟨hpattern.imp_right ?_, hmessage⟩, hpatternGiven, hmessageGiven, List.forall_mem_nil _⟩
    rintro ⟨s, hs⟩
    obtain ⟨e, he⟩ := hreads s hs
    exact ⟨s, e, hs, he⟩
  · rintro ⟨⟨hpattern, hmessage⟩, hpatternGiven, hmessageGiven, -⟩
    refine ⟨⟨hobject, ⟨hpattern.imp_right fun ⟨s, _, hs, _⟩ => ⟨s, hs⟩, hpatternGiven⟩, hmessage, hmessageGiven⟩, ?_⟩
    intro s hs
    rcases hpattern with hnull | ⟨t, e, ht, he⟩
    · rw [hs] at hnull
      cases hnull
    · rw [hs] at ht
      cases ht
      exact ⟨e, he⟩

theorem numberLimits_iff [CharacterNames] (hobject : IsObject l) (hmin : ¬(l.get "min").TooLarge)
    (hmax : ¬(l.get "max").TooLarge) (hstep : ¬(l.get "step").TooLarge) : NumberLimitsValid l ∧ LimitsCohere l .number ↔
      IsNumberLimits l ∧ ∀ key ∈ FieldType.Family.number.limitKeys, l.get? key ≠ some .null := by
  simp only [LimitsCohere, FieldType.Family.limitKeys, List.forall_mem_cons]
  constructor
  · rintro ⟨h, horder⟩
    obtain ⟨hmin, hminGiven⟩ := (atKey_number_iff hmin).1 h.min
    obtain ⟨hmax, hmaxGiven⟩ := (atKey_number_iff hmax).1 h.max
    obtain ⟨hstep, hstepGiven⟩ := (atKey_step_iff hstep).1 h.step
    obtain ⟨hmessage, hmessageGiven⟩ := atKey_isText_iff.1 h.message
    exact ⟨⟨hmin, hmax, hstep, horder, hmessage⟩, hminGiven, hmaxGiven, hstepGiven, hmessageGiven, List.forall_mem_nil _⟩
  · rintro ⟨h, hminGiven, hmaxGiven, hstepGiven, hmessageGiven, -⟩
    exact ⟨⟨hobject, (atKey_number_iff hmin).2 ⟨h.min, hminGiven⟩, (atKey_number_iff hmax).2 ⟨h.max, hmaxGiven⟩,
      (atKey_step_iff hstep).2 ⟨h.step, hstepGiven⟩, atKey_isText_iff.2 ⟨h.message, hmessageGiven⟩⟩, h.order⟩

theorem rangeLimits_iff [CharacterNames] (hobject : IsObject l) (hmin : ¬(l.get "min").TooLarge)
    (hmax : ¬(l.get "max").TooLarge) (hstep : ¬(l.get "step").TooLarge) : Valid rangeLimits l ∧ LimitsCohere l .range ↔
      IsRangeLimits l ∧ ∀ key ∈ FieldType.Family.range.limitKeys, l.get? key ≠ some .null := by
  have hnumber := numberLimits_iff hobject hmin hmax hstep
  rw [valid_rangeLimits_iff]
  constructor
  · rintro ⟨⟨h, hminGiven, hmaxGiven⟩, horder⟩
    obtain ⟨hlimits, hkeys⟩ := hnumber.1 ⟨h, horder⟩
    exact ⟨⟨hlimits, hminGiven, hmaxGiven⟩, hkeys⟩
  · rintro ⟨h, hkeys⟩
    obtain ⟨hvalid, horder⟩ := hnumber.2 ⟨h.toIsNumberLimits, hkeys⟩
    exact ⟨⟨hvalid, h.min_given, h.max_given⟩, horder⟩

/-! ## Fields -/

variable {f : Value}

theorem limitsCohere_null [CharacterNames] (family : FieldType.Family) : LimitsCohere .null family := by
  have horder : InOrder .null .null := fun q _ h => absurd h.symm (Value.quantity_ne_null q)
  cases family with
  | written | number | range => exact horder
  | formatted => intro s h; cases h
  | choice | toggle => trivial

/-- Limits that may be missing: the schema and the grammar agree on those that are there. -/
theorem validation_iff [CharacterNames] {valid grammar : Value → Prop} {family : FieldType.Family}
    (hkeys : family.limitKeys ≠ []) (hvalid : ∀ l, valid l → IsObject l) (hgrammar : grammar .null)
    (hobject : Optional IsObject (f.get "validation"))
    (h : ∀ l, f.get "validation" = l → IsObject l → (valid l ∧ LimitsCohere l family ↔
      grammar l ∧ ∀ key ∈ family.limitKeys, l.get? key ≠ some .null)) :
    AtKey valid f "validation" ∧ LimitsCohere (f.get "validation") family ↔
      grammar (f.get "validation") ∧ LimitsExplicit f family := by
  unfold AtKey LimitsExplicit
  unfold Value.get at hobject h ⊢
  rw [forall_prop_of_true hkeys]
  cases hl : f.get? "validation" with
  | none => simpa [limitsCohere_null, hgrammar] using fun _ _ => nofun
  | some l =>
    rw [hl, Option.getD_some] at hobject h
    simp only [Option.some.injEq, forall_eq', Option.getD_some]
    rcases hobject with rfl | hobject
    · exact iff_of_false (fun hnull => by obtain ⟨_, ⟨⟩⟩ := hvalid _ hnull.1) fun hnull => hnull.2.1 rfl
    · have hne : l ≠ .null := by
        rintro rfl
        obtain ⟨_, ⟨⟩⟩ := hobject
      rw [h l rfl hobject, ne_eq, Option.some.injEq, and_iff_right hne]

theorem writtenAttributes_iff [CharacterNames] (hgoes : ∀ halt, ¬Gate.LimitsHalt (f.get "validation") .written halt)
    (hobject : Optional IsObject (f.get "validation")) :
    AttributesValid f .written ∧ LimitsCohere (f.get "validation") .written ↔
      IsLengthLimits (f.get "validation") ∧ LimitsExplicit f .written := by
  refine validation_iff (by decide) (fun l h => (valid_lengthLimits_iff.1 h).1) isLengthLimits_null hobject ?_
  rintro l rfl hl
  refine lengthLimits_iff hl ?_ ?_
  · exact fun h => hgoes _ (.length (.inl rfl) h)
  · exact fun h => hgoes _ (.length (.inr rfl) h)

theorem formattedAttributes_iff [CharacterNames] (hobject : Optional IsObject (f.get "validation")) :
    AttributesValid f .formatted ∧ LimitsCohere (f.get "validation") .formatted ↔
      IsFormatLimits (f.get "validation") ∧ LimitsExplicit f .formatted := by
  refine validation_iff (by decide) (fun l h => (valid_formatLimits_iff.1 h).1) isFormatLimits_null hobject ?_
  exact fun l _ hl => formatLimits_iff hl

theorem numberAttributes_iff [CharacterNames] (hgoes : ∀ halt, ¬Gate.LimitsHalt (f.get "validation") .number halt)
    (hobject : Optional IsObject (f.get "validation")) :
    AttributesValid f .number ∧ LimitsCohere (f.get "validation") .number ↔
      IsNumberLimits (f.get "validation") ∧ LimitsExplicit f .number := by
  refine validation_iff (by decide) (fun l h => (valid_numberLimits_iff.1 h).object) isNumberLimits_null hobject ?_
  rintro l rfl hl
  rw [valid_numberLimits_iff]
  refine numberLimits_iff hl ?_ ?_ ?_
  · exact fun h => hgoes _ (.number (.inl rfl) (.inl rfl) h)
  · exact fun h => hgoes _ (.number (.inl rfl) (.inr (.inl rfl)) h)
  · exact fun h => hgoes _ (.number (.inl rfl) (.inr (.inr rfl)) h)

/-- The limits of a slider have to be there, on both sides. -/
theorem rangeAttributes_iff [CharacterNames] (hgoes : ∀ halt, ¬Gate.LimitsHalt (f.get "validation") .range halt) :
    AttributesValid f .range ∧ LimitsCohere (f.get "validation") .range ↔
      IsRangeLimits (f.get "validation") ∧ LimitsExplicit f .range := by
  by_cases hobject : IsObject (f.get "validation")
  · have hgiven : f.get? "validation" ≠ some .null := by
      intro h
      obtain ⟨_, hentries⟩ := hobject
      rw [Value.get, h] at hentries
      cases hentries
    have hexplicit : LimitsExplicit f .range ↔
        ∀ key ∈ FieldType.Family.range.limitKeys, (f.get "validation").get? key ≠ some .null := by
      unfold LimitsExplicit
      rw [forall_prop_of_true (by decide), and_iff_right hgiven]
    rw [hexplicit]
    refine rangeLimits_iff hobject ?_ ?_ ?_
    · exact fun h => hgoes _ (.number (.inr rfl) (.inl rfl) h)
    · exact fun h => hgoes _ (.number (.inr rfl) (.inr (.inl rfl)) h)
    · exact fun h => hgoes _ (.number (.inr rfl) (.inr (.inr rfl)) h)
  · refine iff_of_false (fun h => hobject (valid_rangeLimits_iff.1 h.1).1.object) fun h => hobject ?_
    exact Value.isObject_iff.1 (Value.isObject_of_get_ne_null h.1.min_given)

/-- The attributes that belong to the type of a field. -/
theorem attributes_iff [CharacterNames] {type : FieldType}
    (hgoes : ∀ halt, ¬Gate.LimitsHalt (f.get "validation") type.family halt)
    (hplaceholder : Optional IsText (f.get "placeholder")) (hobject : Optional IsObject (f.get "validation")) :
    AttributesValid f type.family ∧ LimitsCohere (f.get "validation") type.family ↔
      HasAttributes f type ∧ LimitsExplicit f type.family := by
  cases type with
  | text | textarea => exact (writtenAttributes_iff hgoes hobject).trans (and_congr_left' (and_iff_right hplaceholder).symm)
  | email | tel | password => exact (formattedAttributes_iff hobject).trans (and_congr_left' (and_iff_right hplaceholder).symm)
  | number => exact (numberAttributes_iff hgoes hobject).trans (and_congr_left' (and_iff_right hplaceholder).symm)
  | range => exact rangeAttributes_iff hgoes
  | select =>
    exact ⟨fun h => ⟨⟨hplaceholder, h.1⟩, fun hkeys => absurd rfl hkeys⟩, fun h => ⟨h.1.2, trivial⟩⟩
  | radio | checkboxGroup => exact ⟨fun h => ⟨h.1, fun hkeys => absurd rfl hkeys⟩, fun h => ⟨h.1, trivial⟩⟩
  | checkbox | switch => exact ⟨fun _ => ⟨trivial, fun hkeys => absurd rfl hkeys⟩, fun _ => ⟨trivial, trivial⟩⟩

theorem type_unique {a b : FieldType} (ha : f.get "type" = .text a.name) (hb : f.get "type" = .text b.name) : a = b :=
  name_inj (by simpa [ha] using hb)

/-- What sets a field of the grammar apart from a field of the schema. -/
theorem field_iff [CharacterNames] (hgoes : ∀ halt, ¬Gate.FieldHalts f halt) :
    FieldValid f ∧ (∀ type : FieldType, f.get "type" = .text type.name → LimitsCohere (f.get "validation") type.family) ∧
      Optional IsObject (f.get "validation") ↔ IsField f ∧ FieldExplicit f := by
  have hattributes : ∀ type : FieldType, f.get "type" = .text type.name → Optional IsText (f.get "placeholder") →
      Optional IsObject (f.get "validation") → (AttributesValid f type.family ∧
        LimitsCohere (f.get "validation") type.family ↔ HasAttributes f type ∧ LimitsExplicit f type.family) :=
    fun type htype => attributes_iff fun halt hhalts => hgoes halt ⟨type, Gate.typeOf?_eq_some_iff.2 htype, hhalts⟩
  constructor
  · rintro ⟨⟨hobject, hid, hlabel, hrequired, hplaceholder, type, htype, hvalid⟩, hcoheres, hvalidation⟩
    obtain ⟨hrequired, hrequiredGiven⟩ := atKey_isBool_iff.1 hrequired
    obtain ⟨hattr, hexplicit⟩ := (hattributes type htype (atKey_isText_iff.1 hplaceholder).1 hvalidation).1
      ⟨hvalid, hcoheres type htype⟩
    refine ⟨⟨hobject, hid, hlabel, hrequired, hvalidation, type, htype, hattr⟩, hrequiredGiven, hplaceholder, ?_⟩
    exact fun other hother => type_unique htype hother ▸ hexplicit
  · rintro ⟨⟨hobject, hid, hlabel, hrequired, hvalidation, type, htype, hattr⟩, hrequiredGiven, hplaceholder, hexplicit⟩
    obtain ⟨hvalid, hcoheres⟩ := (hattributes type htype (atKey_isText_iff.1 hplaceholder).1 hvalidation).2
      ⟨hattr, hexplicit type htype⟩
    refine ⟨⟨hobject, hid, hlabel, atKey_isBool_iff.2 ⟨hrequired, hrequiredGiven⟩, hplaceholder, type, htype, hvalid⟩,
      ?_, hvalidation⟩
    exact fun other hother => type_unique htype hother ▸ hcoheres

/-! ## Documents -/

theorem fieldsOf_eq {fields : List Value} (h : v.get "fields" = .list fields) : fieldsOf v = fields := by
  rw [fieldsOf, h]

/-- What sets a document of the grammar apart from a document of the schema, where the search for defects comes to
its end. -/
theorem document_iff [CharacterNames] {found : List Defect} (h : Gate.defects v = .ok found) :
    Valid document v ∧ Coheres v ∧ (∀ f ∈ fieldsOf v, Optional IsObject (f.get "validation")) ↔
      IsDocument v ∧ ∀ f ∈ fieldsOf v, FieldExplicit f := by
  rw [valid_document_iff]
  constructor
  · rintro ⟨⟨hobject, htitle, hdescription, fields, hfields, hne, hvalid⟩, ⟨hids, hlimits⟩, hvalidation⟩
    rw [fieldsOf_eq hfields] at hids hlimits hvalidation ⊢
    have hall : ∀ f ∈ fields, IsField f ∧ FieldExplicit f := fun f hf =>
      (field_iff (Gate.not_fieldHalts_of_defects h hfields f hf)).1 ⟨hvalid f hf, hlimits f hf, hvalidation f hf⟩
    exact ⟨⟨hobject, htitle, hdescription, fields, hfields, hne, fun f hf => (hall f hf).1, hids⟩,
      fun f hf => (hall f hf).2⟩
  · rintro ⟨⟨hobject, htitle, hdescription, fields, hfields, hne, hgrammar, hids⟩, hexplicit⟩
    rw [fieldsOf_eq hfields] at hexplicit ⊢
    have hall : ∀ f ∈ fields, FieldValid f ∧ (∀ type : FieldType, f.get "type" = .text type.name →
        LimitsCohere (f.get "validation") type.family) ∧ Optional IsObject (f.get "validation") := fun f hf =>
      (field_iff (Gate.not_fieldHalts_of_defects h hfields f hf)).2 ⟨hgrammar f hf, hexplicit f hf⟩
    refine ⟨⟨hobject, htitle, hdescription, fields, hfields, hne, fun f hf => (hall f hf).1⟩, ⟨?_, ?_⟩,
      fun f hf => (hall f hf).2.2⟩
    · rw [fieldsOf_eq hfields]
      exact hids
    · rw [fieldsOf_eq hfields]
      exact fun f hf => (hall f hf).2.1

/-! ## Where the two part -/

theorem fieldExplicit_record {entries : List (String × Value)} (h : ∀ e ∈ entries, e.2 ≠ .null)
    (hplaceholder : Optional IsText ((Value.record entries).get "placeholder"))
    (hlimits : ∀ key, ((Value.record entries).get "validation").get? key ≠ some .null) :
    FieldExplicit (.record entries) where
  required := Value.get?_record_ne_null h _
  placeholder := atKey_isText_iff.2 ⟨hplaceholder, Value.get?_record_ne_null h _⟩
  limits := fun _ _ _ => ⟨Value.get?_record_ne_null h _, fun key _ => hlimits key⟩

/-- Where the search for defects comes to its end, it finds none in a value without nulls exactly if the value is
valid under the schema, has what the schema cannot say, and has limits that are objects on fields of every type. -/
theorem accepted_explicit_iff_valid [CharacterNames] {v : Value} {found : List Defect}
    (h : Gate.defects v = .ok found) :
    found = [] ∧ (∀ f ∈ fieldsOf v, FieldExplicit f) ↔
      Valid document v ∧ Coheres v ∧ ∀ f ∈ fieldsOf v, Optional IsObject (f.get "validation") := by
  rw [document_iff h, ← Gate.defects_eq_ok_nil_iff, h, Except.ok.injEq]

section

attribute [local instance] CharacterNames.ascii

/-- A number field with bounds and a step. -/
theorem accepted_explicit_iff_valid_of_bounds :
    let v : Value := .record [("formTitle", .text "Order"), ("formDescription", .text "Lamps"), ("fields", .list [.record
      [("id", .text "count"), ("type", .text "number"), ("label", .text "Count"), ("required", .bool true),
      ("validation", .record [("min", .int 2), ("max", .int 12), ("step", .int 2)])]])]
    Gate.defects v = .ok [] ∧ Valid document v ∧ Coheres v := by
  intro v
  have h : Gate.defects v = .ok [] := by decide +kernel
  have hexplicit : ∀ f ∈ fieldsOf v, FieldExplicit f := by
    refine List.forall_mem_singleton.2 (fieldExplicit_record (by simp [Value.record]) (.inl rfl) fun key => ?_)
    exact Value.get?_record_ne_null (by simp) key
  obtain ⟨hvalid, hcoheres, -⟩ := (accepted_explicit_iff_valid h).1 ⟨rfl, hexplicit⟩
  exact ⟨h, hvalid, hcoheres⟩

/-- Limits that are no object on a checkbox are a defect, and the schema lets them pass. A null where a truth value
may stand, and a number as the placeholder of a checkbox, are no defects, and the schema refuses them. -/
theorem accepted_parts_from_valid :
    let ofField (entries : List (String × Value)) : Value := .record [("formTitle", .text "T"),
      ("formDescription", .text "D"), ("fields", .list [.record ([("id", .text "a"), ("label", .text "A")] ++ entries)])]
    let limited := ofField [("type", .text "checkbox"), ("validation", .int 5)]
    let unset := ofField [("type", .text "text"), ("required", .null)]
    let hinted := ofField [("type", .text "checkbox"), ("placeholder", .int 5)]
    (Gate.defects limited = .ok [.field (.id "a") .validationNotObject] ∧ Valid document limited ∧ Coheres limited) ∧
      (Gate.defects unset = .ok [] ∧ ¬Valid document unset) ∧ Gate.defects hinted = .ok [] ∧ ¬Valid document hinted := by
  intro ofField limited unset hinted
  refine ⟨⟨by decide +kernel, ?_, ?_, ?_⟩, ⟨by decide +kernel, ?_⟩, by decide +kernel, ?_⟩
  · rw [valid_document_iff]
    refine ⟨⟨_, rfl⟩, ⟨"T", rfl, by decide⟩, ⟨"D", rfl, by decide⟩, _, rfl, by simp, List.forall_mem_singleton.2 ?_⟩
    exact ⟨⟨_, rfl⟩, ⟨"a", rfl, by decide⟩, ⟨"A", rfl, by decide⟩, nofun, nofun, .checkbox, rfl, trivial⟩
  · exact List.pairwise_singleton _ _
  · refine List.forall_mem_singleton.2 fun type htype => ?_
    obtain rfl : type = .checkbox := name_inj (Scalar.text.inj (Value.scalar.inj htype)).symm
    trivial
  · intro h
    obtain ⟨b, hb⟩ := (fieldValid_of_mem h rfl List.mem_cons_self).required .null rfl
    cases hb
  · intro h
    obtain ⟨s, hs⟩ := (fieldValid_of_mem h rfl List.mem_cons_self).placeholder (.int 5) rfl
    cases hs

end

end Schema

end WebForm
