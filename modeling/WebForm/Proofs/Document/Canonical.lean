/-
The canonical form of a document. What is written of a document that was read is the value it was read
from, reduced to the keys that the grammar gives to each type: null entries go, `required` is filled
in, and bounds on a length that are whole doubles become integers. The canonical form is of the
grammar again, and reading it gives the document back.
-/
import WebForm.Proofs.Document.Sound

namespace WebForm

/-! ## Canonical form of raw values -/

namespace Canonical

/-- The entry of a key, rewritten; a null one is dropped. -/
def kept (rewrite : Value → Value) (v : Value) (key : String) : List (String × Value) :=
  if (v.get key).isNull then [] else [(key, rewrite (v.get key))]

/-- A bound on a length: a double that is whole becomes the integer that it equals. -/
def bound : Value → Value
  | .double (.finite x) => match x.toInt? with
    | some n => .int n
    | none => .double (.finite x)
  | v => v

/-- Bounds on a length. -/
def lengthLimits (v : Value) : Value := .record (kept bound v "min" ++ kept bound v "max" ++ kept id v "message")

/-- A pattern limit. -/
def formatLimits (v : Value) : Value := .record (kept id v "pattern" ++ kept id v "message")

/-- Numeric limits. -/
def numberLimits (v : Value) : Value :=
  .record (kept id v "min" ++ kept id v "max" ++ kept id v "step" ++ kept id v "message")

/-- A choice. -/
def choice (v : Value) : Value := .record [("value", v.get "value"), ("label", v.get "label")]

/-- A list of choices, in order. -/
def choices : Value → Value
  | .list items => .list (items.map choice)
  | v => v

/-- The entries of the attributes that belong to a type. -/
def attributes (field : Value) : FieldType → List (String × Value)
  | .text | .textarea => kept id field "placeholder" ++ kept lengthLimits field "validation"
  | .email | .tel | .password => kept id field "placeholder" ++ kept formatLimits field "validation"
  | .number => kept id field "placeholder" ++ kept numberLimits field "validation"
  | .range => kept numberLimits field "validation"
  | .select => kept id field "placeholder" ++ [("options", choices (field.get "options"))]
  | .radio | .checkboxGroup => [("options", choices (field.get "options"))]
  | .checkbox | .switch => []

/-- Whether a field is required; it is not where that is not said. -/
def required : Value → Value
  | .null => .bool false
  | v => v

/-- A field. -/
def field (v : Value) : Value :=
  .record ([("id", v.get "id"), ("type", v.get "type"), ("label", v.get "label"),
    ("required", required (v.get "required"))] ++ ((Gate.typeOf? v).map (attributes v)).getD [])

/-- The fields of a document, in order. -/
def fields : Value → Value
  | .list items => .list (items.map field)
  | v => v

/-- A document. -/
def document (v : Value) : Value :=
  .record [("formTitle", v.get "formTitle"), ("formDescription", v.get "formDescription"),
    ("fields", fields (v.get "fields"))]

end Canonical

/-! ## What is written of what was read -/

namespace Gate

open Canonical

theorem optionalEntry_of_optional? {α : Type} {read? : Value → Option α} {write : α → Value} {rewrite : Value → Value}
    {v : Value} {key : String} {o : Option α} (h : optional? read? (v.get key) = some o)
    (hw : ∀ a, read? (v.get key) = some a → write a = rewrite (v.get key)) :
    optionalEntry key write o = kept rewrite v key := by
  unfold kept
  rcases optional?_eq_some_iff.1 h with ⟨hnull, rfl⟩ | ⟨hne, a, ha, rfl⟩
  · rw [if_pos (Value.isNull_iff.2 hnull)]
    rfl
  · rw [if_neg (by simpa using hne), optionalEntry, hw a ha]

theorem text_of_text? {v : Value} (s : String) (h : text? v = some s) : Value.text s = id v :=
  (text?_eq_some_iff.1 h).symm

theorem quantity_of_quantity? {v : Value} (q : Quantity) (h : v.quantity? = some q) : Value.quantity q = id v :=
  (Value.quantity?_eq_some_iff.1 h).symm

theorem natural_of_natural? {v : Value} (n : Nat) (h : natural? v = some n) : Value.natural n = bound v := by
  obtain ⟨q, rfl, hn⟩ := natural?_eq_some_iff.1 h
  cases q with
  | whole m =>
    have hm : (m : ℚ) = ((n : Int) : ℚ) := hn
    rw [Int.cast_injective hm]
    rfl
  | binary x =>
    have hx : x.toInt? = some (n : Int) := (x.toInt?_eq_some_iff n).2 (by exact_mod_cast hn)
    simp only [Value.quantity, bound, hx]
    rfl

theorem toValue_of_lengthLimits? {v : Value} (l : LengthLimits) (h : lengthLimits? v = some l) :
    l.toValue = lengthLimits v := by
  unfold lengthLimits? at h
  split at h
  · simp only [Option.bind_eq_bind, Option.bind_eq_some_iff, Option.pure_def, Option.some.injEq] at h
    obtain ⟨lo, hlo, hi, hhi, m, hm, rfl⟩ := h
    rw [LengthLimits.toValue, optionalEntry_of_optional? hlo natural_of_natural?,
      optionalEntry_of_optional? hhi natural_of_natural?, optionalEntry_of_optional? hm text_of_text?]
    rfl
  · cases h

theorem toValue_of_formatLimits? {v : Value} (l : FormatLimits) (h : formatLimits? v = some l) :
    l.toValue = formatLimits v := by
  unfold formatLimits? at h
  split at h
  · simp only [Option.bind_eq_bind, Option.bind_eq_some_iff, Option.pure_def, Option.some.injEq] at h
    obtain ⟨p, hp, m, hm, rfl⟩ := h
    rw [FormatLimits.toValue, optionalEntry_of_optional? hp text_of_text?, optionalEntry_of_optional? hm text_of_text?]
    rfl
  · cases h

theorem toValue_of_numberLimits? {v : Value} (l : NumberLimits) (h : numberLimits? v = some l) :
    l.toValue = numberLimits v := by
  unfold numberLimits? at h
  split at h
  · simp only [Option.bind_eq_bind, Option.bind_eq_some_iff, Option.pure_def, Option.some.injEq] at h
    obtain ⟨lo, hlo, hi, hhi, st, hst, m, hm, rfl⟩ := h
    rw [NumberLimits.toValue, optionalEntry_of_optional? hlo quantity_of_quantity?,
      optionalEntry_of_optional? hhi quantity_of_quantity?, optionalEntry_of_optional? hst quantity_of_quantity?,
      optionalEntry_of_optional? hm text_of_text?]
    rfl
  · cases h

/-- The bounds of a slider are given if its limits can be read. -/
theorem bounds_given_of_rangeLimits? {v : Value} {l : RangeLimits} (h : rangeLimits? v = some l) :
    v.get "min" ≠ .null ∧ v.get "max" ≠ .null := by
  unfold rangeLimits? at h
  split at h
  · simp only [Option.bind_eq_bind, Option.bind_eq_some_iff, Value.quantity?_eq_some_iff] at h
    obtain ⟨lo, hlo, hi, hhi, -⟩ := h
    rw [hlo, hhi]
    exact ⟨Value.quantity_ne_null lo, Value.quantity_ne_null hi⟩
  · cases h

theorem toValue_of_rangeLimits? {v : Value} {l : RangeLimits} (h : rangeLimits? v = some l) :
    l.toNumberLimits.toValue = numberLimits v := by
  obtain ⟨hmin, hmax⟩ := bounds_given_of_rangeLimits? h
  refine toValue_of_numberLimits? _ ?_
  rw [← rangeLimits?_toNumberLimits hmin hmax, h, Option.map_some]

theorem toValue_of_choice? {v : Value} {c : Choice} (h : choice? v = some c) : c.toValue = choice v := by
  obtain ⟨hv, hl⟩ := choice?_eq_some_iff.1 h
  rw [Choice.toValue, choice, hv, hl]

/-- Lists are written item by item. -/
theorem map_write_eq {α : Type} {read? : Value → Option α} {write : α → Value} {rewrite : Value → Value}
    {items : List Value} {as : List α} (h : List.Forall₂ (fun v a => read? v = some a) items as)
    (hw : ∀ v a, read? v = some a → write a = rewrite v) : as.map write = items.map rewrite := by
  induction h with
  | nil => rfl
  | cons hv _ ih => rw [List.map_cons, List.map_cons, hw _ _ hv, ih]

theorem toValue_of_choices? {v : Value} {cs : List Choice} (h : choices? v = some cs) :
    .list (cs.map Choice.toValue) = choices v := by
  unfold choices? at h
  split at h
  · rw [mapM_eq_some_iff] at h
    rw [map_write_eq h fun _ _ => toValue_of_choice?]
    rfl
  · cases h

/-- A placeholder and limits are written as they were read. -/
theorem exists_limited {α : Type} {read? : Value → Option α} {write : α → Value} {rewrite : Value → Value}
    {make : Option String → Option α → Body} {field : Value} {b : Body}
    (h : (do return make (← optional? text? (field.get "placeholder")) (← optional? read? (field.get "validation"))) =
      some b) (hw : ∀ l, read? (field.get "validation") = some l → write l = rewrite (field.get "validation")) :
    ∃ p l, b = make p l ∧ optionalEntry "placeholder" .text p ++ optionalEntry "validation" write l =
      kept id field "placeholder" ++ kept rewrite field "validation" := by
  simp only [Option.bind_eq_bind, Option.bind_eq_some_iff, Option.pure_def, Option.some.injEq] at h
  obtain ⟨p, hp, l, hl, rfl⟩ := h
  exact ⟨p, l, rfl, by rw [optionalEntry_of_optional? hp text_of_text?, optionalEntry_of_optional? hl hw]⟩

/-- What a field holds is of its type and writes the attributes of that type. -/
theorem entries_of_body? {type : FieldType} {field : Value} {b : Body} (h : body? type field = some b) :
    b.type = type ∧ b.entries = attributes field type := by
  cases type with
  | text | textarea =>
    obtain ⟨p, l, rfl, hentries⟩ := exists_limited h toValue_of_lengthLimits?
    exact ⟨rfl, hentries⟩
  | email | tel | password =>
    obtain ⟨p, l, rfl, hentries⟩ := exists_limited h toValue_of_formatLimits?
    exact ⟨rfl, hentries⟩
  | number =>
    obtain ⟨p, l, rfl, hentries⟩ := exists_limited h toValue_of_numberLimits?
    exact ⟨rfl, hentries⟩
  | range =>
    simp only [body?, Option.bind_eq_bind, Option.bind_eq_some_iff, Option.pure_def, Option.some.injEq] at h
    obtain ⟨l, hl, rfl⟩ := h
    refine ⟨rfl, ?_⟩
    -- a slider has its bounds, so its limits are given
    obtain ⟨hmin, -⟩ := bounds_given_of_rangeLimits? hl
    have hne : (field.get "validation").isNull = false := by
      cases hv : field.get "validation" with
      | scalar s => rw [hv] at hmin; exact absurd rfl hmin
      | list _ => rfl
      | object _ => rfl
    rw [Body.entries, toValue_of_rangeLimits? hl]
    simp [attributes, kept, hne]
  | select =>
    simp only [body?, Option.bind_eq_bind, Option.bind_eq_some_iff, Option.pure_def, Option.some.injEq] at h
    obtain ⟨p, hp, cs, hcs, rfl⟩ := h
    refine ⟨rfl, ?_⟩
    rw [Body.entries, optionalEntry_of_optional? hp text_of_text?, toValue_of_choices? hcs]
    rfl
  | radio | checkboxGroup =>
    simp only [body?, Option.bind_eq_bind, Option.bind_eq_some_iff, Option.pure_def, Option.some.injEq] at h
    obtain ⟨cs, hcs, rfl⟩ := h
    refine ⟨rfl, ?_⟩
    rw [Body.entries, toValue_of_choices? hcs]
    rfl
  | checkbox | switch =>
    cases h
    exact ⟨rfl, rfl⟩

theorem bool_of_flag? {v : Value} {b : Bool} (h : flag? v = some b) : Value.bool b = required v := by
  unfold flag? at h
  split at h <;> cases h <;> rfl

theorem toValue_of_field? {v : Value} {f : Field} (h : field? v = some f) : f.toValue = Canonical.field v := by
  obtain ⟨type, ht, hid, hlabel, hreq, hbody⟩ := field?_eq_some_iff.1 h
  obtain ⟨hbt, hentries⟩ := entries_of_body? hbody
  rw [Field.toValue, Canonical.field, ← bool_of_flag? hreq, typeOf?_eq_some_iff.2 ht, hid, ht, hlabel, hentries,
    Field.type, hbt]
  rfl

theorem toValue_of_document? {v : Value} {d : Document} (h : document? v = some d) :
    d.toValue = Canonical.document v := by
  obtain ⟨ht, hd, items, hf, hall⟩ := document?_eq_some_iff.1 h
  rw [Document.toValue, map_write_eq hall fun _ _ => toValue_of_field?, Canonical.document, ht, hd, hf]
  rfl

end Gate

/-! ## Looking into what was written -/

/-- An attribute that may be absent, as a value. -/
def Value.given {α : Type} (write : α → Value) (o : Option α) : Value := (o.map write).getD .null

theorem Value.given_eq_quantity {α : Type} {write : α → Value} {o : Option α} {q : Quantity}
    (h : Value.given write o = .quantity q) : ∃ a, o = some a ∧ write a = .quantity q := by
  cases o with
  | none => exact absurd h.symm (Value.quantity_ne_null q)
  | some a => exact ⟨a, rfl, h⟩

namespace LengthLimits

theorem get_min (l : LengthLimits) : l.toValue.get "min" = .given .natural l.min := by
  simp [toValue, Value.given]

theorem get_max (l : LengthLimits) : l.toValue.get "max" = .given .natural l.max := by
  simp [toValue, Value.given]

theorem get_message (l : LengthLimits) : l.toValue.get "message" = .given .text l.message := by
  simp [toValue, Value.given]

end LengthLimits

namespace FormatLimits

theorem get_pattern (l : FormatLimits) : l.toValue.get "pattern" = .given .text l.pattern := by
  simp [toValue, Value.given]

theorem get_message (l : FormatLimits) : l.toValue.get "message" = .given .text l.message := by
  simp [toValue, Value.given]

end FormatLimits

namespace NumberLimits

theorem get_min (l : NumberLimits) : l.toValue.get "min" = .given .quantity l.min := by
  simp [toValue, Value.given]

theorem get_max (l : NumberLimits) : l.toValue.get "max" = .given .quantity l.max := by
  simp [toValue, Value.given]

theorem get_step (l : NumberLimits) : l.toValue.get "step" = .given .quantity l.step := by
  simp [toValue, Value.given]

theorem get_message (l : NumberLimits) : l.toValue.get "message" = .given .text l.message := by
  simp [toValue, Value.given]

end NumberLimits

/-- The limits of what a field holds, as a value. -/
def Body.validation : Body → Value
  | .written _ _ l => .given LengthLimits.toValue l
  | .formatted _ _ l => .given FormatLimits.toValue l
  | .number _ l => .given NumberLimits.toValue l
  | .range l => l.toNumberLimits.toValue
  | _ => .null

/-- The choices of what a field holds, as a value. -/
def Body.options : Body → Value
  | .select _ cs | .radio cs | .checkboxGroup cs => .list (cs.map Choice.toValue)
  | _ => .null

namespace Field

theorem get_id (f : Field) : f.toValue.get "id" = .text f.id := by simp [toValue]

theorem get_type (f : Field) : f.toValue.get "type" = .text f.type.name := by simp [toValue]

theorem get_label (f : Field) : f.toValue.get "label" = .text f.label := by simp [toValue]

theorem get_required (f : Field) : f.toValue.get "required" = .bool f.required := by simp [toValue]

theorem get_placeholder (f : Field) : f.toValue.get "placeholder" = .given .text f.body.placeholder := by
  cases hb : f.body <;> simp [toValue, hb, Body.entries, Body.placeholder, Value.given]

theorem get_validation (f : Field) : f.toValue.get "validation" = f.body.validation := by
  cases hb : f.body <;> simp [toValue, hb, Body.entries, Body.validation, Value.given]

theorem get_options (f : Field) : f.toValue.get "options" = f.body.options := by
  cases hb : f.body <;> simp [toValue, hb, Body.entries, Body.options]

end Field

/-! ## What was written is read again -/

namespace Gate

theorem optional?_given {α : Type} {read? : Value → Option α} {write : α → Value} (hread : ∀ a, read? (write a) = some a)
    (hne : ∀ a, write a ≠ .null) (o : Option α) : optional? read? (.given write o) = some o := by
  rw [optional?_eq_some_iff]
  cases o with
  | none => exact .inl ⟨rfl, rfl⟩
  | some a => exact .inr ⟨hne a, a, hread a, rfl⟩

theorem optional?_given_text (o : Option String) : optional? text? (.given .text o) = some o := by
  refine optional?_given ?_ ?_ o
  · exact fun _ => rfl
  · exact fun _ => nofun

theorem optional?_given_natural (o : Option Nat) : optional? natural? (.given .natural o) = some o := by
  refine optional?_given ?_ ?_ o
  · exact fun _ => rfl
  · exact fun _ => nofun

theorem optional?_given_quantity (o : Option Quantity) : optional? Value.quantity? (.given .quantity o) = some o :=
  optional?_given Value.quantity?_quantity Value.quantity_ne_null o

theorem lengthLimits?_toValue (l : LengthLimits) : lengthLimits? l.toValue = some l := by
  unfold lengthLimits?
  rw [l.get_min, l.get_max, l.get_message, optional?_given_natural, optional?_given_natural, optional?_given_text]
  rfl

theorem formatLimits?_toValue (l : FormatLimits) : formatLimits? l.toValue = some l := by
  unfold formatLimits?
  rw [l.get_pattern, l.get_message, optional?_given_text, optional?_given_text]
  rfl

theorem numberLimits?_toValue (l : NumberLimits) : numberLimits? l.toValue = some l := by
  unfold numberLimits?
  rw [l.get_min, l.get_max, l.get_step, l.get_message, optional?_given_quantity, optional?_given_quantity,
    optional?_given_quantity, optional?_given_text]
  rfl

theorem rangeLimits?_toValue (l : RangeLimits) : rangeLimits? l.toNumberLimits.toValue = some l := by
  unfold rangeLimits?
  rw [NumberLimits.get_min, NumberLimits.get_max, NumberLimits.get_step, NumberLimits.get_message,
    optional?_given_quantity, optional?_given_text]
  show (do return ⟨← (Value.quantity l.min).quantity?, ← (Value.quantity l.max).quantity?, _, _⟩) = some l
  rw [Value.quantity?_quantity, Value.quantity?_quantity]
  rfl

theorem forall₂_map_write {α : Type} {read? : Value → Option α} {write : α → Value} (h : ∀ a, read? (write a) = some a)
    (as : List α) : List.Forall₂ (fun v a => read? v = some a) (as.map write) as := by
  rw [List.forall₂_map_left_iff, List.forall₂_same]
  exact fun a _ => h a

theorem choices?_toValue (cs : List Choice) : choices? (.list (cs.map Choice.toValue)) = some cs :=
  mapM_eq_some_iff.2 (forall₂_map_write (fun c => choice?_eq_some_iff.2 (by simp [Choice.toValue])) cs)

theorem body?_toValue (f : Field) : body? f.type f.toValue = some f.body := by
  unfold body? Field.type
  rw [f.get_placeholder, f.get_validation, f.get_options]
  cases f.body with
  | written t p l =>
    have hl : optional? lengthLimits? (.given LengthLimits.toValue l) = some l :=
      optional?_given lengthLimits?_toValue (fun _ => nofun) l
    cases t <;> simp [Body.type, Body.placeholder, Body.validation, optional?_given_text, hl]
  | formatted t p l =>
    have hl : optional? formatLimits? (.given FormatLimits.toValue l) = some l :=
      optional?_given formatLimits?_toValue (fun _ => nofun) l
    cases t <;> simp [Body.type, Body.placeholder, Body.validation, optional?_given_text, hl]
  | number p l =>
    have hl : optional? numberLimits? (.given NumberLimits.toValue l) = some l :=
      optional?_given numberLimits?_toValue (fun _ => nofun) l
    simp [Body.type, Body.placeholder, Body.validation, optional?_given_text, hl]
  | range l => simp [Body.type, Body.validation, rangeLimits?_toValue]
  | select p cs => simp [Body.type, Body.placeholder, Body.options, optional?_given_text, choices?_toValue]
  | radio cs => simp [Body.type, Body.options, choices?_toValue]
  | checkboxGroup cs => simp [Body.type, Body.options, choices?_toValue]
  | toggle t => cases t <;> rfl

theorem field?_toValue (f : Field) : field? f.toValue = some f := by
  rw [field?_eq_some_iff]
  exact ⟨f.type, f.get_type, f.get_id, f.get_label, by rw [f.get_required]; rfl, body?_toValue f⟩

theorem document?_toValue (d : Document) : document? d.toValue = some d := by
  rw [document?_eq_some_iff]
  exact ⟨by simp [Document.toValue], by simp [Document.toValue], d.fields.map Field.toValue,
    by simp [Document.toValue], forall₂_map_write field?_toValue d.fields⟩

end Gate

/-! ## What is written of a sound document is of the grammar -/

open Grammar

theorem optional_given {α : Type} {p : Value → Prop} {write : α → Value} {o : Option α}
    (h : ∀ a, o = some a → p (write a)) : Optional p (.given write o) := by
  cases o with
  | none => exact .inl rfl
  | some a => exact .inr (h a rfl)

theorem optional_given_text (o : Option String) : Optional IsText (.given .text o) :=
  optional_given fun s _ => ⟨s, rfl⟩

theorem LengthLimits.Sound.isLengthLimits {l : LengthLimits} (h : l.Sound) : IsLengthLimits l.toValue := by
  refine ⟨?_, ?_, ?_, ?_⟩
  · rw [l.get_min]
    exact optional_given fun n hn => ⟨.whole n, rfl, h.min n hn, n, by simp [Quantity.value]⟩
  · rw [l.get_max]
    exact optional_given fun n hn => ⟨.whole n, rfl, h.max n hn, n, by simp [Quantity.value]⟩
  · intro p q hp hq
    rw [l.get_min] at hp
    rw [l.get_max] at hq
    obtain ⟨a, ha, hap⟩ := Value.given_eq_quantity hp
    obtain ⟨b, hb, hbq⟩ := Value.given_eq_quantity hq
    obtain rfl : Quantity.whole a = p := Value.quantity_inj hap
    obtain rfl : Quantity.whole b = q := Value.quantity_inj hbq
    have := h.order a b ha hb
    simp only [Quantity.value, Int.cast_natCast]
    exact_mod_cast this
  · rw [l.get_message]
    exact optional_given_text _

theorem FormatLimits.Sound.isFormatLimits [CharacterNames] {l : FormatLimits} (h : l.Sound) :
    IsFormatLimits l.toValue := by
  refine ⟨?_, ?_⟩
  · rw [l.get_pattern]
    refine optional_given fun s hs => ?_
    obtain ⟨e, he⟩ := h.pattern s hs
    exact ⟨s, e, rfl, he⟩
  · rw [l.get_message]
    exact optional_given_text _

theorem NumberLimits.Sound.isNumberLimits {l : NumberLimits} (h : l.Sound) : IsNumberLimits l.toValue := by
  refine ⟨?_, ?_, ?_, ?_, ?_⟩
  · rw [l.get_min]
    exact optional_given fun q hq => ⟨q, rfl, h.min q hq⟩
  · rw [l.get_max]
    exact optional_given fun q hq => ⟨q, rfl, h.max q hq⟩
  · rw [l.get_step]
    exact optional_given fun q hq => ⟨q, rfl, h.step q hq⟩
  · intro p q hp hq
    rw [l.get_min] at hp
    rw [l.get_max] at hq
    obtain ⟨a, ha, hap⟩ := Value.given_eq_quantity hp
    obtain ⟨b, hb, hbq⟩ := Value.given_eq_quantity hq
    rw [← Value.quantity_inj hap, ← Value.quantity_inj hbq]
    exact h.order a b ha hb
  · rw [l.get_message]
    exact optional_given_text _

theorem isChoices_toValue {cs : List Choice} (h : cs ≠ []) : IsChoices (.list (cs.map Choice.toValue)) := by
  refine ⟨_, rfl, by simpa using h, fun item hitem => ?_⟩
  obtain ⟨c, -, rfl⟩ := List.mem_map.1 hitem
  exact ⟨⟨_, rfl⟩, ⟨c.value, by simp [Choice.toValue]⟩, ⟨c.label, by simp [Choice.toValue]⟩⟩

/-- Limits that are not given count as limits without entries. -/
theorem isLengthLimits_null : IsLengthLimits .null :=
  ⟨.inl rfl, .inl rfl, fun q _ h => absurd h.symm (Value.quantity_ne_null q), .inl rfl⟩

theorem isFormatLimits_null [CharacterNames] : IsFormatLimits .null := ⟨.inl rfl, .inl rfl⟩

theorem isNumberLimits_null : IsNumberLimits .null :=
  ⟨.inl rfl, .inl rfl, .inl rfl, fun q _ h => absurd h.symm (Value.quantity_ne_null q), .inl rfl⟩

theorem given_limits {α : Type} {p : Value → Prop} {write : α → Value} {o : Option α} (hnull : p .null)
    (h : ∀ a, o = some a → p (write a)) : p (.given write o) := by
  cases o with
  | none => exact hnull
  | some a => exact h a rfl

theorem Field.Sound.hasAttributes [CharacterNames] {f : Field} (h : f.Sound) : HasAttributes f.toValue f.type := by
  have hbody := h.body
  unfold HasAttributes Field.type
  rw [f.get_placeholder, f.get_validation, f.get_options]
  cases hb : f.body with
  | written t p l =>
    rw [hb] at hbody
    have hl := given_limits isLengthLimits_null fun l hl => (hbody l hl).isLengthLimits
    cases t <;> exact ⟨optional_given_text p, hl⟩
  | formatted t p l =>
    rw [hb] at hbody
    have hl := given_limits isFormatLimits_null fun l hl => (hbody l hl).isFormatLimits
    cases t <;> exact ⟨optional_given_text p, hl⟩
  | number p l =>
    rw [hb] at hbody
    exact ⟨optional_given_text p, given_limits isNumberLimits_null fun l hl => (hbody l hl).isNumberLimits⟩
  | range l =>
    rw [hb] at hbody
    refine ⟨hbody.isNumberLimits, ?_, ?_⟩
    · rw [Body.validation, NumberLimits.get_min]
      exact Value.quantity_ne_null l.min
    · rw [Body.validation, NumberLimits.get_max]
      exact Value.quantity_ne_null l.max
  | select p cs =>
    rw [hb] at hbody
    exact ⟨optional_given_text p, isChoices_toValue hbody⟩
  | radio cs =>
    rw [hb] at hbody
    exact isChoices_toValue hbody
  | checkboxGroup cs =>
    rw [hb] at hbody
    exact isChoices_toValue hbody
  | toggle t => cases t <;> trivial

theorem optional_isObject_validation (b : Body) : Optional IsObject b.validation := by
  cases b with
  | written _ _ l => exact optional_given fun _ _ => ⟨_, rfl⟩
  | formatted _ _ l => exact optional_given fun _ _ => ⟨_, rfl⟩
  | number _ l => exact optional_given fun _ _ => ⟨_, rfl⟩
  | range l => exact .inr ⟨_, rfl⟩
  | _ => exact .inl rfl

theorem Field.Sound.isField [CharacterNames] {f : Field} (h : f.Sound) : IsField f.toValue where
  object := ⟨_, rfl⟩
  id := ⟨f.id, f.get_id, h.id⟩
  label := ⟨f.label, f.get_label, h.label⟩
  required := .inr ⟨f.required, f.get_required⟩
  validation := f.get_validation ▸ optional_isObject_validation f.body
  type := ⟨f.type, f.get_type, h.hasAttributes⟩

theorem Document.Sound.isDocument [CharacterNames] {d : Document} (h : d.Sound) : IsDocument d.toValue where
  object := ⟨_, rfl⟩
  title := ⟨d.title, by simp [Document.toValue], h.title⟩
  description := ⟨d.description, by simp [Document.toValue], h.description⟩
  fields := by
    refine ⟨d.fields.map Field.toValue, by simp [Document.toValue], by simpa using h.nonempty, ?_, ?_⟩
    · intro v hv
      obtain ⟨f, hf, rfl⟩ := List.mem_map.1 hv
      exact (h.fields f hf).isField
    · have hids : d.fields.Pairwise fun a b => a.id ≠ b.id := List.pairwise_map.1 h.ids
      refine List.pairwise_map.2 (hids.imp fun {a b} hab => ?_)
      rw [a.get_id, b.get_id]
      simpa using hab

/-! ## The canonical form -/

namespace Document

theorem read_toValue [CharacterNames] {d : Document} (h : d.Sound) : Document.read d.toValue = .ok d :=
  read_eq_ok_iff.2 ⟨h.isDocument, Gate.document?_toValue d⟩

/-- A field is found by its id. -/
theorem field?_of_mem [CharacterNames] {d : Document} (h : d.Sound) {f : Field} (hf : f ∈ d.fields) :
    d.field? f.id = some f := by
  unfold field?
  cases hg : d.fields.find? (·.id == f.id) with
  | none => simpa using List.find?_eq_none.1 hg f hf
  | some g =>
    -- the first field with the id is this one, because no two ids agree
    have hid : g.id = f.id := by simpa using List.find?_some hg
    rw [List.inj_on_of_nodup_map h.ids (List.mem_of_find?_eq_some hg) hf hid]

/-- A document that was read is written in canonical form, reading that form gives the document back, and
the document finds each of its fields by id. -/
theorem canonical_form [CharacterNames] {v : Value} {d : Document} (h : Document.read v = .ok d) :
    d.toValue = Canonical.document v ∧ Gate.defects d.toValue = .ok [] ∧ Document.read d.toValue = .ok d ∧
      ∀ f ∈ d.fields, d.field? f.id = some f := by
  have hsound := read_sound h
  refine ⟨Gate.toValue_of_document? (read_eq_ok_iff.1 h).2, ?_, read_toValue hsound, fun f hf => field?_of_mem hsound hf⟩
  exact Gate.defects_eq_ok_nil_iff.2 hsound.isDocument

section

attribute [local instance] CharacterNames.ascii

/-- A bound that is the double two, a null entry and an entry that belongs to no text field: the canonical
form has the integer two and neither entry. -/
theorem canonical_form_of_double_bound :
    let v : Value := .record [("formTitle", .text "Form"), ("fields", .list [.record [("label", .text "Name"),
      ("id", .text "name"), ("type", .text "text"), ("required", .null), ("options", .list []),
      ("validation", .record [("max", .quantity (.binary ⟨false, 2 ^ 52, -51, by decide⟩)), ("min", .null)])]]),
      ("formDescription", .text "Names")]
    let d : Document := ⟨"Form", "Names", [⟨"name", "Name", false, .written .text none (some ⟨none, some 2, none⟩)⟩]⟩
    Document.read v = .ok d ∧ d.toValue = Canonical.document v ∧ Document.read d.toValue = .ok d := by
  intro v d
  have h : Document.read v = .ok d :=
    read_eq_ok_iff.2 ⟨Gate.defects_eq_ok_nil_iff.1 (by decide +kernel), by decide +kernel⟩
  obtain ⟨hform, -, hread, -⟩ := canonical_form h
  exact ⟨h, hform, hread⟩

end

end Document

end WebForm
