/-
What the exported schema asks of a value, in the terms of the grammar of documents: one equivalence for each part
of the schema, up to the schema of a whole document. Where the grammar lets an attribute be null, the schema does
not: what is at a key has the property, and only what is not there is excused.
-/
import WebForm.Proofs.Document.Grammar
import WebForm.Proofs.Schema.Validity

namespace WebForm.Schema

open Grammar

variable {v : Value}

/-! ## Keys -/

/-- A key that has to be there has the property, as null has not. -/
theorem atKey_isSome_iff {p : Value → Prop} {key : String} (hp : ¬p .null) :
    AtKey p v key ∧ (v.get? key).isSome = true ↔ p (v.get key) := by
  unfold AtKey Value.get
  cases v.get? key with
  | none => simpa using hp
  | some w => simp

theorem isSome_iff_of_atKey {p : Value → Prop} {key : String} (hp : ¬p .null) (h : AtKey p v key) :
    (v.get? key).isSome = true ↔ v.get key ≠ .null := by
  unfold Value.get
  cases hw : v.get? key with
  | none => simp
  | some w =>
    have hne : w ≠ .null := by
      rintro rfl
      exact hp (h _ hw)
    simpa using hne

/-- A key that may be missing has the property or is null, and the schema rules out the second. -/
theorem atKey_iff {p q : Value → Prop} {key : String} (hp : ¬p .null) (h : p (v.get key) ↔ q (v.get key)) :
    AtKey p v key ↔ Optional q (v.get key) ∧ v.get? key ≠ some .null := by
  unfold AtKey Optional
  unfold Value.get at h ⊢
  cases hw : v.get? key with
  | none => simp
  | some w =>
    rw [hw, Option.getD_some] at h
    simp only [Option.some.injEq, forall_eq', Option.getD_some, ne_eq, ← h]
    constructor
    · intro hpw
      refine ⟨.inr hpw, ?_⟩
      rintro rfl
      exact hp hpw
    · rintro ⟨hnull | hpw, hne⟩
      · exact absurd hnull hne
      · exact hpw

theorem atKey_isText_iff {key : String} :
    AtKey IsText v key ↔ Optional IsText (v.get key) ∧ v.get? key ≠ some .null :=
  atKey_iff (by rintro ⟨s, ⟨⟩⟩) Iff.rfl

theorem atKey_isBool_iff {key : String} :
    AtKey IsBool v key ↔ Optional IsBool (v.get key) ∧ v.get? key ≠ some .null :=
  atKey_iff (by rintro ⟨b, ⟨⟩⟩) Iff.rfl

/-! ## Leaves -/

/-- A type and what is asked of all values of that type. -/
theorem exists_and_forall_iff {α : Type} {f : α → Value} (hf : ∀ a b, f a = f b → a = b) {p : α → Prop} :
    ((∃ a, v = f a) ∧ ∀ a, v = f a → p a) ↔ ∃ a, v = f a ∧ p a := by
  constructor
  · rintro ⟨⟨a, ha⟩, h⟩
    exact ⟨a, ha, h a ha⟩
  · rintro ⟨a, rfl, hp⟩
    refine ⟨⟨a, rfl⟩, fun b hb => ?_⟩
    rw [← hf a b hb]
    exact hp

theorem valid_ofType_iff {type : String} {more : List (String × Value)} :
    Valid (ofType type more) v ↔ HasType type v ∧ AllHold (more.map fun (key, k) => (.text key, k))
      (Condition (more.map fun (key, k) => (.text key, k)) v) v := by
  simp [ofType]

theorem valid_text_iff : Valid text v ↔ IsText v := by
  simp [text, valid_ofType_iff, IsText]

theorem valid_pattern_iff : Valid (ofType "string" [("format", .text "regex")]) v ↔ IsText v := by
  simp [valid_ofType_iff, IsText]

theorem valid_nonEmptyText_iff : Valid nonEmptyText v ↔ IsFullText v := by
  simp only [nonEmptyText, valid_ofType_iff, List.map_cons, List.map_nil, hasType_string, allHold_minLength, allHold_nil,
    and_true]
  rw [exists_and_forall_iff (by simp)]
  refine exists_congr fun s => and_congr_right fun _ => ?_
  rw [ne_eq, ← String.length_eq_zero_iff]
  omega

theorem valid_boolean_iff {d : Value} : Valid (ofType "boolean" [("default", d)]) v ↔ IsBool v := by
  simp [valid_ofType_iff, IsBool]

theorem valid_number_iff : Valid (ofType "number" []) v ↔ ∃ q, v = .quantity q := by
  simp [valid_ofType_iff]

theorem valid_step_iff :
    Valid (ofType "number" [("exclusiveMinimum", .int 0)]) v ↔ ∃ q, v = .quantity q ∧ 0 < q.value := by
  rw [← exists_and_forall_iff fun _ _ => Value.quantity_inj]
  simp [valid_ofType_iff]

theorem valid_natural_iff : Valid natural v ↔ ∃ q, v = .quantity q ∧ ∃ n : Nat, q.value = n := by
  simp only [natural, valid_ofType_iff, List.map_cons, List.map_nil, hasType_integer, allHold_minimum, allHold_nil, and_true]
  constructor
  · rintro ⟨⟨q, hq, n, hn⟩, h⟩
    have hle : (0 : ℚ) ≤ n := by simpa [hn] using h q hq
    refine ⟨q, hq, n.toNat, ?_⟩
    rw [hn]
    exact_mod_cast (Int.toNat_of_nonneg (by exact_mod_cast hle)).symm
  · rintro ⟨q, rfl, n, hn⟩
    refine ⟨⟨q, rfl, n, by exact_mod_cast hn⟩, fun r hr => ?_⟩
    rw [← Value.quantity_inj hr, hn]
    exact_mod_cast n.zero_le

/-! ## Objects -/

/-- The schema of an object whose keys are listed with the schemas of what they hold. The keys that have to be there
come first. -/
theorem allHold_object_iff {condition : Prop} {rest : Entries} (required optional : List (String × Value))
    (h : ∀ p ∈ required, ¬Valid p.2 .null) :
    AllHold ((.text "type", .text "object") :: (.text "required", .texts (required.map (·.1))) ::
        (.text "properties", .record (required ++ optional)) :: rest) condition v ↔
      IsObject v ∧ (∀ p ∈ required, Valid p.2 (v.get p.1)) ∧ (∀ p ∈ optional, AtKey (Valid p.2) v p.1) ∧
        AllHold rest condition v := by
  rw [allHold_type, allHold_required, allHold_properties, List.forall_mem_append]
  refine and_congr_right fun hobject => ?_
  rw [forall_prop_of_true (Value.isObject_iff.2 hobject), List.forall_mem_map, and_assoc, ← and_assoc]
  refine and_congr_left fun _ => ?_
  rw [← forall₂_and]
  exact forall₂_congr fun p hp => and_comm.trans (atKey_isSome_iff (h p hp))

/-! ## Limits and choices -/

theorem valid_lengthLimits_iff : Valid lengthLimits v ↔
    IsObject v ∧ AtKey (Valid natural) v "min" ∧ AtKey (Valid natural) v "max" ∧ AtKey IsText v "message" := by
  simp [lengthLimits, valid_ofType_iff, IsObject, AtKey, valid_text_iff]

theorem valid_formatLimits_iff :
    Valid formatLimits v ↔ IsObject v ∧ AtKey IsText v "pattern" ∧ AtKey IsText v "message" := by
  rw [formatLimits, valid_ofType_iff]
  simp [IsObject, AtKey, valid_pattern_iff, valid_text_iff]

/-- What the schema asks of numeric limits. -/
structure NumberLimitsValid (v : Value) : Prop where
  object : IsObject v
  min : AtKey (fun w => ∃ q, w = .quantity q) v "min"
  max : AtKey (fun w => ∃ q, w = .quantity q) v "max"
  step : AtKey (fun w => ∃ q, w = .quantity q ∧ 0 < q.value) v "step"
  message : AtKey IsText v "message"

theorem valid_numberLimits_iff : Valid numberLimits v ↔ NumberLimitsValid v := by
  rw [numberLimits, valid_ofType_iff]
  simp only [hasType_object, numberProperties, List.map_cons, List.map_nil, allHold_properties, allHold_nil, and_true,
    List.forall_mem_cons, AtKey, valid_number_iff, valid_step_iff, valid_text_iff]
  constructor
  · rintro ⟨hobject, hmin, hmax, hstep, hmessage, -⟩
    exact ⟨hobject, hmin, hmax, hstep, hmessage⟩
  · rintro ⟨hobject, hmin, hmax, hstep, hmessage⟩
    exact ⟨hobject, hmin, hmax, hstep, hmessage, List.forall_mem_nil _⟩

theorem valid_rangeLimits_iff :
    Valid rangeLimits v ↔ NumberLimitsValid v ∧ v.get "min" ≠ .null ∧ v.get "max" ≠ .null := by
  have hsplit : Valid rangeLimits v ↔ Valid numberLimits v ∧
      (v.isObject = true → (v.get? "min").isSome = true ∧ (v.get? "max").isSome = true) := by
    rw [rangeLimits, numberLimits, valid_ofType_iff, valid_ofType_iff]
    simp [numberProperties, and_assoc]
  rw [hsplit, valid_numberLimits_iff]
  refine and_congr_right fun h => ?_
  have hnull : ¬∃ q, Value.null = .quantity q := fun ⟨q, hq⟩ => Value.quantity_ne_null q hq.symm
  rw [isSome_iff_of_atKey hnull h.min, isSome_iff_of_atKey hnull h.max]
  exact ⟨fun hgiven => hgiven (Value.isObject_iff.2 h.object), fun hgiven _ => hgiven⟩

theorem valid_nonEmptyList_iff {item : Value} :
    Valid (nonEmptyList item) v ↔ ∃ items, v = .list items ∧ items ≠ [] ∧ ∀ i ∈ items, Valid item i := by
  simp only [nonEmptyList, valid_ofType_iff, List.map_cons, List.map_nil, hasType_array, allHold_minItems, allHold_items,
    allHold_nil, and_true, ← forall_and]
  rw [exists_and_forall_iff (by simp)]
  refine exists_congr fun items => and_congr_right fun _ => and_congr_left fun _ => ?_
  rw [ne_eq, ← List.length_eq_zero_iff]
  omega

theorem valid_choice_iff : Valid (ofType "object" [("required", .texts ["value", "label"]),
    ("properties", .record [("value", text), ("label", text)])]) v ↔ IsChoice v := by
  rw [ofType, valid_record_iff]
  refine (allHold_object_iff [("value", text), ("label", text)] [] ?_).trans ?_
  · simp [valid_text_iff, IsText]
  · simp only [List.forall_mem_cons, valid_text_iff]
    constructor
    · rintro ⟨hobject, ⟨hvalue, hlabel, -⟩, -⟩
      exact ⟨hobject, hvalue, hlabel⟩
    · rintro ⟨hobject, hvalue, hlabel⟩
      exact ⟨hobject, ⟨hvalue, hlabel, List.forall_mem_nil _⟩, List.forall_mem_nil _, allHold_nil⟩

theorem valid_choices_iff : Valid choices v ↔ IsChoices v := by
  simp only [choices, valid_nonEmptyList_iff, valid_choice_iff, IsChoices]

/-! ## Fields -/

theorem name_inj {a b : FieldType} (h : a.name = b.name) : a = b :=
  Option.some.inj ((Gate.ofName?_eq_some_iff.2 rfl).symm.trans (Gate.ofName?_eq_some_iff.2 h))

/-- A text is among the names of some types exactly if it is the name of one of them. -/
theorem mem_names_iff {types : List FieldType} {type : FieldType} :
    (∃ s ∈ types.map (·.name), Value.text s = .text type.name) ↔ type ∈ types := by
  constructor
  · rintro ⟨s, hs, h⟩
    obtain ⟨t, ht, rfl⟩ := List.mem_map.1 hs
    have : t.name = type.name := by simpa using h
    exact name_inj this ▸ ht
  · intro h
    exact ⟨type.name, List.mem_map_of_mem h, rfl⟩

theorem valid_type_iff : Valid (ofType "string" [("enum", .texts (FieldType.all.map (·.name)))]) v ↔
    ∃ type : FieldType, v = .text type.name := by
  simp only [valid_ofType_iff, hasType_string, List.map_cons, List.map_nil, allHold_enum, allHold_nil, and_true]
  constructor
  · rintro ⟨-, s, hs, rfl⟩
    obtain ⟨type, -, rfl⟩ := List.mem_map.1 hs
    exact ⟨type, rfl⟩
  · rintro ⟨type, rfl⟩
    exact ⟨⟨_, rfl⟩, mem_names_iff.2 (by cases type <;> decide)⟩

theorem valid_clause_iff {types : List FieldType} {key : String} {schema : Value} {required : Bool} {type : FieldType}
    (hobject : v.isObject = true) (htype : v.get "type" = .text type.name) :
    Valid (clause types key schema required) v ↔
      (type ∈ types → AtKey (Valid schema) v key ∧ (required = true → (v.get? key).isSome = true)) := by
  have hif : AtKey (fun w => ∃ s ∈ types.map (·.name), .text s = w) v "type" ∧ (v.get? "type").isSome = true ↔
      type ∈ types := by
    rw [atKey_isSome_iff (by simp), htype, mem_names_iff]
  rw [← hif]
  cases required <;> simp [clause, AtKey, -Value.isObject_iff, hobject]

/-- What the schema asks of the attributes that belong to a type. -/
def AttributesValid (field : Value) : FieldType.Family → Prop
  | .written => AtKey (Valid lengthLimits) field "validation"
  | .formatted => AtKey (Valid formatLimits) field "validation"
  | .number => AtKey (Valid numberLimits) field "validation"
  | .range => Valid rangeLimits (field.get "validation")
  | .choice => IsChoices (field.get "options")
  | .toggle => True

theorem attributesValid_iff {type : FieldType} (hobject : v.isObject = true) (htype : v.get "type" = .text type.name) :
    (∀ c ∈ [clause [.text, .textarea] "validation" lengthLimits false,
        clause [.email, .tel, .password] "validation" formatLimits false, clause [.number] "validation" numberLimits false,
        clause [.range] "validation" rangeLimits true, clause [.select, .radio, .checkboxGroup] "options" choices true],
      Valid c v) ↔ AttributesValid v type.family := by
  have hrange : AtKey (Valid rangeLimits) v "validation" ∧ (v.get? "validation").isSome = true ↔
      Valid rangeLimits (v.get "validation") := by
    refine atKey_isSome_iff ?_
    rw [valid_rangeLimits_iff]
    exact fun h => h.2.1 rfl
  have hchoices : AtKey (Valid choices) v "options" ∧ (v.get? "options").isSome = true ↔ IsChoices (v.get "options") := by
    rw [← valid_choices_iff]
    refine atKey_isSome_iff ?_
    rw [valid_choices_iff]
    rintro ⟨items, h, -⟩
    cases h
  simp only [List.forall_mem_cons, valid_clause_iff hobject htype]
  cases type <;> simp [AttributesValid, FieldType.family, hrange, hchoices]

/-- What the schema asks of a field. -/
structure FieldValid (v : Value) : Prop where
  object : IsObject v
  id : IsFullText (v.get "id")
  label : IsFullText (v.get "label")
  required : AtKey IsBool v "required"
  placeholder : AtKey IsText v "placeholder"
  type : ∃ type : FieldType, v.get "type" = .text type.name ∧ AttributesValid v type.family

theorem valid_field_iff : Valid field v ↔ FieldValid v := by
  rw [field, ofType, valid_record_iff]
  refine (allHold_object_iff [("id", nonEmptyText), ("type", ofType "string" [("enum", .texts (FieldType.all.map (·.name)))]),
    ("label", nonEmptyText)] [("required", ofType "boolean" [("default", .bool false)]), ("placeholder", text)] ?_).trans ?_
  · simp [valid_nonEmptyText_iff, valid_type_iff, IsFullText]
  · simp only [List.map_cons, List.map_nil, allHold_allOf, allHold_nil, and_true]
    constructor
    · rintro ⟨hobject, hkeys, hoptional, hclauses⟩
      simp only [List.forall_mem_cons, AtKey, valid_nonEmptyText_iff, valid_type_iff, valid_boolean_iff, valid_text_iff]
        at hkeys hoptional
      obtain ⟨hid, ⟨type, htype⟩, hlabel, -⟩ := hkeys
      obtain ⟨hrequired, hplaceholder, -⟩ := hoptional
      exact ⟨hobject, hid, hlabel, hrequired, hplaceholder, type, htype,
        (attributesValid_iff (Value.isObject_iff.2 hobject) htype).1 hclauses⟩
    · rintro ⟨hobject, hid, hlabel, hrequired, hplaceholder, type, htype, hattributes⟩
      refine ⟨hobject, ?_, ?_, (attributesValid_iff (Value.isObject_iff.2 hobject) htype).2 hattributes⟩
      · simp only [List.forall_mem_cons, valid_nonEmptyText_iff, valid_type_iff]
        exact ⟨hid, ⟨type, htype⟩, hlabel, List.forall_mem_nil _⟩
      · simp only [List.forall_mem_cons, AtKey, valid_boolean_iff, valid_text_iff]
        exact ⟨hrequired, hplaceholder, List.forall_mem_nil _⟩

/-! ## Documents -/

/-- What the schema asks of a document. -/
structure DocumentValid (v : Value) : Prop where
  object : IsObject v
  title : IsFullText (v.get "formTitle")
  description : IsFullText (v.get "formDescription")
  fields : ∃ fields, v.get "fields" = .list fields ∧ fields ≠ [] ∧ ∀ f ∈ fields, FieldValid f

theorem valid_document_iff : Valid document v ↔ DocumentValid v := by
  rw [document, valid_record_iff]
  simp only [List.map_cons, List.map_nil]
  rw [allHold_note (by decide), allHold_note (by decide), allHold_note (by decide), allHold_note (by decide)]
  refine (allHold_object_iff [("formTitle", nonEmptyText), ("formDescription", nonEmptyText),
    ("fields", nonEmptyList field)] [] ?_).trans ?_
  · simp [valid_nonEmptyText_iff, valid_nonEmptyList_iff, IsFullText]
  · simp only [List.forall_mem_cons, valid_nonEmptyText_iff, valid_nonEmptyList_iff, valid_field_iff]
    constructor
    · rintro ⟨hobject, ⟨htitle, hdescription, hfields, -⟩, -⟩
      exact ⟨hobject, htitle, hdescription, hfields⟩
    · rintro ⟨hobject, htitle, hdescription, hfields⟩
      exact ⟨hobject, ⟨htitle, hdescription, hfields, List.forall_mem_nil _⟩, List.forall_mem_nil _, allHold_nil⟩

theorem fieldValid_of_mem (h : Valid document v) {fields : List Value} (hfields : v.get "fields" = .list fields)
    {f : Value} (hf : f ∈ fields) : FieldValid f := by
  obtain ⟨-, -, -, found, hfound, -, hvalid⟩ := valid_document_iff.1 h
  rw [hfields] at hfound
  exact hvalid f (Value.list.inj hfound ▸ hf)

end WebForm.Schema
