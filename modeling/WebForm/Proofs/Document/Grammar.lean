/-
The grammar of form documents, said of raw values: what each key holds, for every type of field. The
gate finds no defect in a value exactly if it is of the grammar. The one part of the grammar that is
not local to a field is that ids differ; the gate keeps the ids of the fields before, and the proof
carries them along.
-/
import WebForm.Document.Gate
import WebForm.Document.Sample
import WebForm.Proofs.Number.Exact
import WebForm.Proofs.Value

namespace WebForm

/-- Whether a quantity is finite as a double. -/
def Quantity.IsFinite : Quantity → Prop
  | .whole n => (Double.ofInt n).isFinite = true
  | .binary _ => True

namespace Grammar

/-! ## Parts of values -/

/-- A value that is absent or null, or has a property. -/
def Optional (p : Value → Prop) (v : Value) : Prop := v = .null ∨ p v

/-- A text. -/
def IsText (v : Value) : Prop := ∃ s, v = .text s

/-- A text that is not empty. -/
def IsFullText (v : Value) : Prop := ∃ s, v = .text s ∧ s ≠ ""

/-- A truth value. -/
def IsBool (v : Value) : Prop := ∃ b, v = .bool b

/-- An object. -/
def IsObject (v : Value) : Prop := ∃ entries, v = .object entries

/-- A finite number; truth values are none. -/
def IsNumber (v : Value) : Prop := ∃ q, v = .quantity q ∧ q.IsFinite

/-- A finite number that is whole and not negative. -/
def IsLength (v : Value) : Prop := ∃ q, v = .quantity q ∧ q.IsFinite ∧ ∃ n : Nat, q.value = n

/-- A finite number above zero. -/
def IsStep (v : Value) : Prop := ∃ q, v = .quantity q ∧ q.IsFinite ∧ 0 < q.value

/-- A text that can be read as a pattern. -/
def IsPattern [CharacterNames] (v : Value) : Prop := ∃ s e, v = .text s ∧ Pattern.compile s = .ok e

/-- Two bounds of which the lower is not above the upper, where both are given. -/
def InOrder (lo hi : Value) : Prop := ∀ a b, lo = .quantity a → hi = .quantity b → a.value ≤ b.value

/-! ## Attributes -/

/-- Bounds on a length. -/
structure IsLengthLimits (v : Value) : Prop where
  min : Optional IsLength (v.get "min")
  max : Optional IsLength (v.get "max")
  order : InOrder (v.get "min") (v.get "max")
  message : Optional IsText (v.get "message")

/-- A pattern limit. -/
structure IsFormatLimits [CharacterNames] (v : Value) : Prop where
  pattern : Optional IsPattern (v.get "pattern")
  message : Optional IsText (v.get "message")

/-- Numeric limits. -/
structure IsNumberLimits (v : Value) : Prop where
  min : Optional IsNumber (v.get "min")
  max : Optional IsNumber (v.get "max")
  step : Optional IsStep (v.get "step")
  order : InOrder (v.get "min") (v.get "max")
  message : Optional IsText (v.get "message")

/-- The limits of a slider, whose bounds are given. -/
structure IsRangeLimits (v : Value) : Prop extends IsNumberLimits v where
  min_given : v.get "min" ≠ .null
  max_given : v.get "max" ≠ .null

/-- A choice. -/
structure IsChoice (v : Value) : Prop where
  object : IsObject v
  value : IsText (v.get "value")
  label : IsText (v.get "label")

/-- A list of choices that is not empty. -/
def IsChoices (v : Value) : Prop := ∃ items, v = .list items ∧ items ≠ [] ∧ ∀ item ∈ items, IsChoice item

/-- The attributes that belong to a type of field. -/
def HasAttributes [CharacterNames] (field : Value) : FieldType → Prop
  | .text | .textarea => Optional IsText (field.get "placeholder") ∧ IsLengthLimits (field.get "validation")
  | .email | .tel | .password =>
    Optional IsText (field.get "placeholder") ∧ IsFormatLimits (field.get "validation")
  | .number => Optional IsText (field.get "placeholder") ∧ IsNumberLimits (field.get "validation")
  | .range => IsRangeLimits (field.get "validation")
  | .select => Optional IsText (field.get "placeholder") ∧ IsChoices (field.get "options")
  | .radio | .checkboxGroup => IsChoices (field.get "options")
  | .checkbox | .switch => True

/-! ## Fields and documents -/

/-- A field. -/
structure IsField [CharacterNames] (v : Value) : Prop where
  object : IsObject v
  id : IsFullText (v.get "id")
  label : IsFullText (v.get "label")
  required : Optional IsBool (v.get "required")
  validation : Optional IsObject (v.get "validation")
  type : ∃ type : FieldType, v.get "type" = .text type.name ∧ HasAttributes v type

/-- A form document. -/
structure IsDocument [CharacterNames] (v : Value) : Prop where
  object : IsObject v
  title : IsFullText (v.get "formTitle")
  description : IsFullText (v.get "formDescription")
  fields : ∃ fields, v.get "fields" = .list fields ∧ fields ≠ [] ∧ (∀ f ∈ fields, IsField f) ∧
    fields.Pairwise fun a b => a.get "id" ≠ b.get "id"

end Grammar

namespace Gate

open Grammar

/-! ## Leaves -/

@[simp] theorem require_eq_nil_iff {α : Type} {ok : Bool} {d : α} : require ok d = [] ↔ ok = true := by
  cases ok <;> simp [require]

@[simp] theorem isTextOrNull_iff {v : Value} : isTextOrNull v = true ↔ Optional IsText v := by
  unfold isTextOrNull
  split
  · exact ⟨fun _ => .inl rfl, fun _ => rfl⟩
  · rename_i s; exact ⟨fun _ => .inr ⟨s, rfl⟩, fun _ => rfl⟩
  · rename_i h1 h2
    refine ⟨nofun, fun h => ?_⟩
    rcases h with h | ⟨s, h⟩
    · exact absurd h h1
    · exact absurd h (h2 s)

@[simp] theorem isBoolOrNull_iff {v : Value} : isBoolOrNull v = true ↔ Optional IsBool v := by
  unfold isBoolOrNull
  split
  · exact ⟨fun _ => .inl rfl, fun _ => rfl⟩
  · rename_i b; exact ⟨fun _ => .inr ⟨b, rfl⟩, fun _ => rfl⟩
  · rename_i h1 h2
    refine ⟨nofun, fun h => ?_⟩
    rcases h with h | ⟨b, h⟩
    · exact absurd h h1
    · exact absurd h (h2 b)

theorem finite?_eq_some_iff {v : Value} {q : Quantity} : finite? v = .ok (some q) ↔ v = .quantity q ∧ q.IsFinite := by
  unfold finite?
  split
  · rename_i n
    rw [← Value.quantity?_eq_some_iff]
    simp only [Value.quantity?, Option.some.injEq]
    by_cases hn : roundsToFinite n = true
    · rw [if_pos hn]
      simp only [Except.ok.injEq, Option.some.injEq]
      exact ⟨fun h => ⟨h, h ▸ (roundsToFinite_iff n).1 hn⟩, fun h => h.1⟩
    · rw [if_neg hn]
      refine ⟨nofun, ?_⟩
      rintro ⟨rfl, h⟩
      exact absurd ((roundsToFinite_iff n).2 h) hn
  · rename_i hint
    rw [Except.ok.injEq, Value.quantity?_eq_some_iff]
    refine ⟨fun h => ⟨h, ?_⟩, fun h => h.1⟩
    cases q with
    | whole n => exact absurd h (hint n)
    | binary x => trivial

theorem length?_eq_some_iff {q : Quantity} {n : Nat} : length? q = some n ↔ q.value = n := by
  unfold length?
  rw [Option.bind_eq_some_iff]
  constructor
  · rintro ⟨i, hi, hn⟩
    rw [q.toInt?_eq_some_iff] at hi
    rw [hi]
    cases i with
    | ofNat k => cases hn; rfl
    | negSucc k => cases hn
  · intro h
    exact ⟨n, (q.toInt?_eq_some_iff n).2 (by exact_mod_cast h), rfl⟩

theorem length?_isSome_iff {q : Quantity} : (length? q).isSome = true ↔ ∃ n : Nat, q.value = n := by
  rw [Option.isSome_iff_exists]
  simp only [length?_eq_some_iff]

theorem ofName?_eq_some_iff {s : String} {type : FieldType} : FieldType.ofName? s = some type ↔ s = type.name := by
  constructor
  · intro h
    have := List.find?_some h
    exact (beq_iff_eq.1 this).symm
  · rintro rfl
    cases type <;> decide

theorem typeOf?_eq_some_iff {v : Value} {type : FieldType} :
    typeOf? v = some type ↔ v.get "type" = .text type.name := by
  unfold typeOf?
  split
  · rename_i s hs
    rw [hs, ofName?_eq_some_iff]
    simp
  · rename_i h
    exact ⟨nofun, fun he => absurd he (h _)⟩

theorem idOf?_eq_some_iff {v : Value} {s : String} : idOf? v = some s ↔ v.get "id" = .text s ∧ s ≠ "" := by
  unfold idOf?
  split
  · rename_i t ht
    rw [ht]
    by_cases h : t = ""
    · simp only [if_pos h, Value.scalar.injEq, Scalar.text.injEq]
      exact ⟨nofun, fun ⟨h1, h2⟩ => absurd (h1 ▸ h) h2⟩
    · simp only [if_neg h, Option.some.injEq, Value.scalar.injEq, Scalar.text.injEq]
      exact ⟨fun he => ⟨he, he ▸ h⟩, fun he => he.1⟩
  · rename_i h
    exact ⟨nofun, fun he => absurd he.1 (h _)⟩

/-! ## Limits -/

/-- A limit that may be absent passes if it is not given, or is a finite number that passes; it takes
part in the comparison of bounds exactly if it is a number. -/
theorem given_eq_ok_nil_iff {v : Value} {o : Option Quantity}
    {f : Option Quantity → Except Halt (Option Quantity × List FieldDefect)} (hnone : ∀ o, f none ≠ .ok (o, []))
    (hsome : ∀ q o, f (some q) = .ok (o, []) → some q = o) :
    (if v.isNull = true then .ok (none, []) else finite? v >>= f) = .ok (o, []) ↔
      Optional (fun v => ∃ q, v = .quantity q ∧ q.IsFinite ∧ f (some q) = .ok (some q, [])) v ∧ v.quantity? = o := by
  by_cases hv : v = .null
  · subst hv
    rw [if_pos (Value.isNull_iff.2 rfl)]
    constructor
    · intro h; cases h; exact ⟨.inl rfl, rfl⟩
    · rintro ⟨-, rfl⟩; rfl
  · rw [if_neg (by simpa using hv), bind_eq_ok_iff]
    constructor
    · rintro ⟨r, hr, h⟩
      cases r with
      | none => exact absurd h (hnone o) -- what is no number has a defect
      | some q =>
        obtain ⟨hq, hfin⟩ := finite?_eq_some_iff.1 hr
        obtain rfl := hsome q o h
        exact ⟨.inr ⟨q, hq, hfin, h⟩, Value.quantity?_eq_some_iff.2 hq⟩
    · rintro ⟨h | ⟨q, hq, hfin, h⟩, rfl⟩
      · exact absurd h hv
      · rw [Value.quantity?_eq_some_iff.2 hq]
        exact ⟨some q, finite?_eq_some_iff.2 ⟨hq, hfin⟩, h⟩

theorem lengthBound_eq_ok_nil_iff {limit : Limit} {v : Value} {o : Option Quantity} :
    lengthBound limit v = .ok (o, []) ↔ Optional IsLength v ∧ v.quantity? = o := by
  unfold lengthBound
  rw [given_eq_ok_nil_iff (fun _ h => by cases h)]
  · simp only [pure_eq_ok_iff, ite_eq_iff, length?_isSome_iff]
    simp [Optional, IsLength]
  · intro q o h
    simp only [pure_eq_ok_iff] at h
    split at h <;> simp_all

theorem numberLimit_eq_ok_nil_iff {limit : Limit} {v : Value} {o : Option Quantity} :
    numberLimit limit v = .ok (o, []) ↔
      Optional (fun v => ∃ q, v = .quantity q ∧ q.IsFinite ∧ (limit = .step → 0 < q.value)) v ∧ v.quantity? = o := by
  unfold numberLimit
  rw [given_eq_ok_nil_iff (fun _ h => by cases h)]
  · simp only [pure_eq_ok_iff, ite_eq_iff, Quantity.isPositive_iff]
    simp
  · intro q o h
    simp only [pure_eq_ok_iff] at h
    split at h <;> simp_all

theorem boundsOrder_eq_nil_iff {lo hi : Value} : boundsOrder lo.quantity? hi.quantity? = [] ↔ InOrder lo hi := by
  unfold InOrder
  simp only [← Value.quantity?_eq_some_iff]
  cases lo.quantity? with
  | none => simp [boundsOrder]
  | some a =>
    cases hi.quantity? with
    | none => simp [boundsOrder]
    | some b => simp [boundsOrder, Quantity.le_iff]

theorem messageDefects_eq_nil_iff {limits : Value} :
    messageDefects limits = [] ↔ Optional IsText (limits.get "message") := by
  simp [messageDefects]

theorem lengthDefects_eq_ok_nil_iff {v : Value} : lengthDefects v = .ok [] ↔ IsLengthLimits v := by
  unfold lengthDefects
  simp only [bind_eq_ok_iff, pure_eq_ok_iff, Prod.exists, List.append_eq_nil_iff, messageDefects_eq_nil_iff]
  constructor
  · rintro ⟨lo, _, hlo, hi, _, hhi, ⟨⟨rfl, rfl⟩, hord⟩, hmsg⟩
    obtain ⟨hmin, rfl⟩ := lengthBound_eq_ok_nil_iff.1 hlo
    obtain ⟨hmax, rfl⟩ := lengthBound_eq_ok_nil_iff.1 hhi
    exact ⟨hmin, hmax, boundsOrder_eq_nil_iff.1 hord, hmsg⟩
  · rintro ⟨hmin, hmax, hord, hmsg⟩
    exact ⟨_, [], lengthBound_eq_ok_nil_iff.2 ⟨hmin, rfl⟩, _, [], lengthBound_eq_ok_nil_iff.2 ⟨hmax, rfl⟩,
      ⟨⟨rfl, rfl⟩, boundsOrder_eq_nil_iff.2 hord⟩, hmsg⟩

theorem numberDefects_eq_ok_nil_iff {v : Value} : numberDefects v = .ok [] ↔ IsNumberLimits v := by
  unfold numberDefects
  simp only [bind_eq_ok_iff, pure_eq_ok_iff, Prod.exists, List.append_eq_nil_iff, messageDefects_eq_nil_iff]
  constructor
  · rintro ⟨lo, _, hlo, hi, _, hhi, _, _, hstep, ⟨⟨⟨rfl, rfl⟩, rfl⟩, hord⟩, hmsg⟩
    obtain ⟨hmin, rfl⟩ := numberLimit_eq_ok_nil_iff.1 hlo
    obtain ⟨hmax, rfl⟩ := numberLimit_eq_ok_nil_iff.1 hhi
    obtain ⟨hstep, -⟩ := numberLimit_eq_ok_nil_iff.1 hstep
    refine ⟨?_, ?_, ?_, boundsOrder_eq_nil_iff.1 hord, hmsg⟩
    · simpa [Optional, IsNumber] using hmin
    · simpa [Optional, IsNumber] using hmax
    · simpa [Optional, IsStep] using hstep
  · rintro ⟨hmin, hmax, hstep, hord, hmsg⟩
    refine ⟨_, [], numberLimit_eq_ok_nil_iff.2 ⟨?_, rfl⟩, _, [], numberLimit_eq_ok_nil_iff.2 ⟨?_, rfl⟩,
      _, [], numberLimit_eq_ok_nil_iff.2 ⟨?_, rfl⟩, ⟨⟨⟨rfl, rfl⟩, rfl⟩, boundsOrder_eq_nil_iff.2 hord⟩, hmsg⟩
    · simpa [Optional, IsNumber] using hmin
    · simpa [Optional, IsNumber] using hmax
    · simpa [Optional, IsStep] using hstep

theorem rangeDefects_eq_ok_nil_iff {v : Value} : rangeDefects v = .ok [] ↔ IsRangeLimits v := by
  unfold rangeDefects
  simp only [bind_eq_ok_iff, pure_eq_ok_iff, List.append_eq_nil_iff, require_eq_nil_iff, Bool.and_eq_true,
    Bool.not_eq_true', ← Bool.not_eq_true, Value.isNull_iff]
  constructor
  · rintro ⟨_, h, rfl, hmin, hmax⟩
    exact ⟨numberDefects_eq_ok_nil_iff.1 h, hmin, hmax⟩
  · rintro ⟨h, hmin, hmax⟩
    exact ⟨[], numberDefects_eq_ok_nil_iff.2 h, rfl, hmin, hmax⟩

theorem patternDefects_eq_ok_nil_iff [CharacterNames] {v : Value} :
    patternDefects v = .ok [] ↔ Optional IsPattern v := by
  unfold patternDefects
  split
  · exact ⟨fun _ => .inl rfl, fun _ => rfl⟩
  · rename_i s
    cases hs : Pattern.compile s with
    | ok e => exact ⟨fun _ => .inr ⟨s, e, rfl, hs⟩, fun _ => rfl⟩
    | error e =>
      have hno : ¬ Optional IsPattern (.text s) := by
        rintro (h | ⟨_, e', h, he⟩)
        · cases h
        · cases h
          rw [hs] at he
          cases he
      cases e <;> exact ⟨nofun, fun h => absurd h hno⟩
  · rename_i h1 h2
    refine ⟨nofun, ?_⟩
    rintro (h | ⟨s, _, h, _⟩)
    · exact absurd h h1
    · exact absurd h (h2 s)

theorem formatDefects_eq_ok_nil_iff [CharacterNames] {v : Value} : formatDefects v = .ok [] ↔ IsFormatLimits v := by
  unfold formatDefects
  simp only [bind_eq_ok_iff, pure_eq_ok_iff, List.append_eq_nil_iff, messageDefects_eq_nil_iff]
  constructor
  · rintro ⟨_, h, rfl, hmsg⟩
    exact ⟨patternDefects_eq_ok_nil_iff.1 h, hmsg⟩
  · rintro ⟨h, hmsg⟩
    exact ⟨[], patternDefects_eq_ok_nil_iff.2 h, rfl, hmsg⟩

/-! ## Choices -/

theorem choice?_eq_some_iff {v : Value} {c : Choice} :
    choice? v = some c ↔ v.get "value" = .text c.value ∧ v.get "label" = .text c.label := by
  unfold choice?
  split
  · rename_i value label hv hl
    rw [hv, hl]
    simp only [Option.some.injEq, Value.scalar.injEq, Scalar.text.injEq]
    exact ⟨fun h => h ▸ ⟨rfl, rfl⟩, fun ⟨h1, h2⟩ => by rw [h1, h2]⟩
  · rename_i h
    exact ⟨nofun, fun ⟨hv, hl⟩ => absurd hl (h _ _ hv)⟩

theorem choice?_isSome_iff {v : Value} : (choice? v).isSome = true ↔ IsChoice v := by
  rw [Option.isSome_iff_exists]
  simp only [choice?_eq_some_iff]
  constructor
  · rintro ⟨c, hv, hl⟩
    have hne : v.get "value" ≠ .null := by rw [hv]; nofun
    exact ⟨Value.isObject_iff.1 (Value.isObject_of_get_ne_null hne), ⟨_, hv⟩, ⟨_, hl⟩⟩
  · rintro ⟨-, ⟨value, hv⟩, ⟨label, hl⟩⟩
    exact ⟨⟨value, label⟩, hv, hl⟩

theorem choiceDefects_eq_nil_iff {v : Value} : choiceDefects v = [] ↔ IsChoices v := by
  unfold choiceDefects IsChoices
  split
  · simp
  · rename_i items hne
    rw [List.flatten_eq_nil_iff, List.forall_mem_iff_getElem]
    simp only [List.length_mapIdx, List.getElem_mapIdx, require_eq_nil_iff, choice?_isSome_iff]
    constructor
    · intro h
      exact ⟨items, rfl, hne, List.forall_mem_iff_getElem.2 h⟩
    · rintro ⟨_, h, -, hall⟩
      cases h
      exact List.forall_mem_iff_getElem.1 hall
  · rename_i h
    exact ⟨nofun, fun ⟨items, hv, _⟩ => absurd hv (h items)⟩

/-! ## Fields -/

theorem placeholder_attributes_iff [CharacterNames] {type : FieldType} {field : Value} :
    ((type.takesPlaceholder = true → Optional IsText (field.get "placeholder")) ∧
      attributeDefects type field = .ok []) ↔ HasAttributes field type := by
  cases type <;>
    simp [attributeDefects, HasAttributes, FieldType.family, FieldType.takesPlaceholder,
      lengthDefects_eq_ok_nil_iff, formatDefects_eq_ok_nil_iff, numberDefects_eq_ok_nil_iff,
      rangeDefects_eq_ok_nil_iff, choiceDefects_eq_nil_iff]

theorem variantDefects_eq_ok_nil_iff [CharacterNames] {field : Value} {type : FieldType}
    (h : typeOf? field = some type) :
    variantDefects field = .ok [] ↔ HasAttributes field type := by
  unfold variantDefects
  rw [h, ← placeholder_attributes_iff]
  simp only [bind_eq_ok_iff, pure_eq_ok_iff, List.append_eq_nil_iff, require_eq_nil_iff, Bool.or_eq_true,
    Bool.not_eq_true', ← Bool.not_eq_true, isTextOrNull_iff, ← imp_iff_not_or]
  exact ⟨fun ⟨_, h1, h2, h3⟩ => ⟨h2, h3 ▸ h1⟩, fun ⟨h1, h2⟩ => ⟨[], h2, h1, rfl⟩⟩

theorem typeDefects_eq_nil_iff {field : Value} : typeDefects field = [] ↔ ∃ type, typeOf? field = some type := by
  unfold typeDefects
  simp only
  rw [← Option.isSome_iff_exists]
  split
  · rename_i h
    rw [Value.isNull_iff] at h
    simp [typeOf?, h]
  · exact require_eq_nil_iff

theorem commonDefects_eq_nil_iff {field : Value} : commonDefects field = [] ↔
    (∃ type, typeOf? field = some type) ∧ IsFullText (field.get "label") ∧
      Optional IsBool (field.get "required") ∧ Optional IsObject (field.get "validation") := by
  simp [commonDefects, typeDefects_eq_nil_iff, IsFullText, Optional, IsObject]

theorem idDefects_eq_nil_iff {raw : Value} {index : Nat} {earlier : List String} :
    idDefects raw index earlier = [] ↔ ∃ s, raw.get "id" = .text s ∧ s ≠ "" ∧ s ∉ earlier := by
  unfold idDefects
  cases hid : idOf? raw with
  | none =>
    refine ⟨nofun, fun ⟨s, hs, hne, _⟩ => ?_⟩
    rw [idOf?_eq_some_iff.2 ⟨hs, hne⟩] at hid
    cases hid
  | some id =>
    obtain ⟨hget, hne⟩ := idOf?_eq_some_iff.1 hid
    rw [hget]
    simp [hne]

/-- A field has no defects if it is of the grammar and its id is none of the ids before it. -/
theorem fieldDefects_eq_ok_nil_iff [CharacterNames] {raw : Value} {index : Nat} {earlier : List String} :
    fieldDefects raw index earlier = .ok [] ↔ IsField raw ∧ ∀ s ∈ earlier, raw.get "id" ≠ .text s := by
  unfold fieldDefects
  split
  · rename_i hobj
    simp only [bind_eq_ok_iff, pure_eq_ok_iff, List.append_eq_nil_iff, List.map_eq_nil_iff,
      idDefects_eq_nil_iff, commonDefects_eq_nil_iff]
    constructor
    · rintro ⟨_, hvar, ⟨s, hs, hne, hmem⟩, ⟨⟨type, ht⟩, hlabel, hreq, hval⟩, rfl⟩
      refine ⟨⟨Value.isObject_iff.1 hobj, ⟨s, hs, hne⟩, hlabel, hreq, hval, type, typeOf?_eq_some_iff.1 ht,
        (variantDefects_eq_ok_nil_iff ht).1 hvar⟩, fun t ht he => ?_⟩
      rw [hs] at he
      cases he
      exact hmem ht
    · rintro ⟨⟨-, ⟨s, hs, hne⟩, hlabel, hreq, hval, type, ht, hattr⟩, hnew⟩
      rw [← typeOf?_eq_some_iff] at ht
      exact ⟨[], (variantDefects_eq_ok_nil_iff ht).2 hattr, ⟨s, hs, hne, fun hm => hnew s hm hs⟩,
        ⟨⟨type, ht⟩, hlabel, hreq, hval⟩, rfl⟩
  · rename_i hobj
    exact ⟨nofun, fun h => absurd (Value.isObject_iff.2 h.1.object) hobj⟩

/-- The ids of the fields before are carried along: a list of fields has no defects if each field is of
the grammar, no two of their ids agree, and none is an id from before. -/
theorem fieldsDefects_eq_ok_nil_iff [CharacterNames] (fields : List Value) (index : Nat) (earlier : List String) :
    fieldsDefects fields index earlier = .ok [] ↔
      (∀ f ∈ fields, IsField f) ∧ (fields.Pairwise fun a b => a.get "id" ≠ b.get "id") ∧
        ∀ f ∈ fields, ∀ s ∈ earlier, f.get "id" ≠ .text s := by
  induction fields generalizing index earlier with
  | nil => simp [fieldsDefects]
  | cons raw rest ih =>
    unfold fieldsDefects
    simp only [bind_eq_ok_iff, pure_eq_ok_iff, List.append_eq_nil_iff, List.forall_mem_cons, List.pairwise_cons]
    constructor
    · rintro ⟨_, hhere, _, hlater, rfl, rfl⟩
      obtain ⟨hfield, hnew⟩ := fieldDefects_eq_ok_nil_iff.1 hhere
      obtain ⟨hrest, hpair, hids⟩ := (ih _ _).1 hlater
      -- the id of this field is one of those that the rest must not have
      obtain ⟨s, hs, hne⟩ := hfield.id
      rw [idOf?_eq_some_iff.2 ⟨hs, hne⟩] at hids
      refine ⟨⟨hfield, hrest⟩, ⟨fun f hf => ?_, hpair⟩, hnew, fun f hf t ht => hids f hf t (by simp [ht])⟩
      rw [hs]
      exact (hids f hf s (by simp)).symm
    · rintro ⟨⟨hfield, hrest⟩, ⟨hfirst, hpair⟩, hnew, hids⟩
      obtain ⟨s, hs, hne⟩ := hfield.id
      refine ⟨[], fieldDefects_eq_ok_nil_iff.2 ⟨hfield, hnew⟩, [], (ih _ _).2 ⟨hrest, hpair, ?_⟩, rfl, rfl⟩
      rw [idOf?_eq_some_iff.2 ⟨hs, hne⟩]
      intro f hf t ht
      rcases List.mem_append.1 ht with ht | ht
      · exact hids f hf t ht
      · obtain rfl : t = s := by simpa using ht
        rw [← hs]
        exact (hfirst f hf).symm

/-! ## Documents -/

theorem headerDefects_eq_nil_iff {v : Value} :
    headerDefects v = [] ↔ IsFullText (v.get "formTitle") ∧ IsFullText (v.get "formDescription") := by
  simp [headerDefects, IsFullText]

theorem defects_eq_ok_nil_iff [CharacterNames] {v : Value} : defects v = .ok [] ↔ IsDocument v := by
  unfold defects
  split
  · rename_i hobj
    split
    · rename_i hf
      refine ⟨nofun, fun h => ?_⟩
      obtain ⟨fields, hf', hne, -⟩ := h.fields
      rw [hf] at hf'
      cases hf'
      exact absurd rfl hne
    · rename_i fields hne hf
      simp only [bind_eq_ok_iff, pure_eq_ok_iff, List.append_eq_nil_iff, headerDefects_eq_nil_iff]
      constructor
      · rintro ⟨_, hfound, ⟨ht, hd⟩, rfl⟩
        obtain ⟨hall, hpair, -⟩ := (fieldsDefects_eq_ok_nil_iff _ _ _).1 hfound
        exact ⟨Value.isObject_iff.1 hobj, ht, hd, fields, hf, hne, hall, hpair⟩
      · rintro ⟨-, ht, hd, _, hf', -, hall, hpair⟩
        rw [hf] at hf'
        cases hf'
        exact ⟨[], (fieldsDefects_eq_ok_nil_iff _ _ _).2 ⟨hall, hpair, by simp⟩, ⟨ht, hd⟩, rfl⟩
    · rename_i hlist
      refine ⟨nofun, fun h => ?_⟩
      obtain ⟨fields, hf, -⟩ := h.fields
      exact absurd hf (hlist fields)
  · rename_i hobj
    exact ⟨nofun, fun h => absurd (Value.isObject_iff.2 h.object) hobj⟩

/-- Where the search for defects comes to its end, it finds none exactly in the values of the grammar. -/
theorem accepts_exactly_the_grammar [CharacterNames] {v : Value} {found : List Defect} (h : defects v = .ok found) :
    found = [] ↔ IsDocument v := by
  rw [← defects_eq_ok_nil_iff, h, Except.ok.injEq]

section

attribute [local instance] CharacterNames.ascii

/-- The sample document is of the grammar. -/
theorem sample_is_of_the_grammar : defects Sample.document = .ok [] ∧ IsDocument Sample.document := by
  have h : defects Sample.document = .ok [] := by decide +kernel
  exact ⟨h, (accepts_exactly_the_grammar h).1 rfl⟩

end

end Gate

end WebForm
