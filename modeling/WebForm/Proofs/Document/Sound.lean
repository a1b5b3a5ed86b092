/-
What the gate establishes of a typed document beyond its types. A value of the grammar gives a
document, and that document is sound: bounds are finite and in order, steps lie above zero, patterns
can be read, choices are there, and ids differ. Whatever is done with a document later relies on
nothing else.
-/
import WebForm.Proofs.Document.Grammar

namespace WebForm

/-! ## Sound documents -/

/-- Bounds on a length that are finite as doubles and in order. -/
structure LengthLimits.Sound (l : LengthLimits) : Prop where
  min : ∀ n, l.min = some n → (Quantity.whole n).IsFinite
  max : ∀ n, l.max = some n → (Quantity.whole n).IsFinite
  order : ∀ a b, l.min = some a → l.max = some b → a ≤ b

/-- A pattern limit whose pattern can be read. -/
structure FormatLimits.Sound [CharacterNames] (l : FormatLimits) : Prop where
  pattern : ∀ s, l.pattern = some s → ∃ e, Pattern.compile s = .ok e

/-- Numeric limits that are finite as doubles, with bounds in order and a step above zero. -/
structure NumberLimits.Sound (l : NumberLimits) : Prop where
  min : ∀ q, l.min = some q → q.IsFinite
  max : ∀ q, l.max = some q → q.IsFinite
  step : ∀ q, l.step = some q → q.IsFinite ∧ 0 < q.value
  order : ∀ a b, l.min = some a → l.max = some b → a.value ≤ b.value

/-- What a field holds, with sound limits or at least one choice. -/
def Body.Sound [CharacterNames] : Body → Prop
  | .written _ _ limits => ∀ l, limits = some l → l.Sound
  | .formatted _ _ limits => ∀ l, limits = some l → l.Sound
  | .number _ limits => ∀ l, limits = some l → l.Sound
  | .range limits => limits.toNumberLimits.Sound
  | .select _ choices | .radio choices | .checkboxGroup choices => choices ≠ []
  | .toggle _ => True

/-- A field with an id, a label and a sound body. -/
structure Field.Sound [CharacterNames] (f : Field) : Prop where
  id : f.id ≠ ""
  label : f.label ≠ ""
  body : f.body.Sound

/-- A document with a title, a description and fields, which are sound and whose ids differ. -/
structure Document.Sound [CharacterNames] (d : Document) : Prop where
  title : d.title ≠ ""
  description : d.description ≠ ""
  nonempty : d.fields ≠ []
  fields : ∀ f ∈ d.fields, f.Sound
  ids : d.fieldIds.Nodup

theorem Quantity.isFinite_whole {q : Quantity} {n : Int} (hq : q.IsFinite) (hn : q.value = n) :
    (Quantity.whole n).IsFinite := by
  cases q with
  | whole m =>
    obtain rfl : m = n := Int.cast_injective hn
    exact hq
  | binary x =>
    rw [IsFinite, ← roundsToFinite_iff]
    exact FiniteDouble.roundsToFinite_of_toInt? ((x.toInt?_eq_some_iff n).2 hn)

namespace Gate

open Grammar

/-! ## Attributes that may be absent -/

theorem optional?_eq_some_iff {α : Type} {read? : Value → Option α} {v : Value} {o : Option α} :
    optional? read? v = some o ↔ v = .null ∧ o = none ∨ v ≠ .null ∧ ∃ a, read? v = some a ∧ o = some a := by
  unfold optional?
  by_cases hv : v = .null
  · subst hv
    rw [if_pos (Value.isNull_iff.2 rfl)]
    simp [eq_comm]
  · rw [if_neg (by simpa using hv), Option.map_eq_some_iff]
    simp only [hv, false_and, false_or, ne_eq, not_false_eq_true, true_and]
    exact ⟨fun ⟨a, h1, h2⟩ => ⟨a, h1, h2.symm⟩, fun ⟨a, h1, h2⟩ => ⟨a, h1, h2.symm⟩⟩

/-- What may be absent is read if it is read where it is given. -/
theorem exists_optional? {α : Type} {p : Value → Prop} {q : α → Prop} {read? : Value → Option α} {v : Value}
    (h : Optional p v) (hread : p v → ∃ a, read? v = some a ∧ q a) :
    ∃ o, optional? read? v = some o ∧ ∀ a, o = some a → read? v = some a ∧ q a := by
  by_cases hv : v = .null
  · exact ⟨none, optional?_eq_some_iff.2 (.inl ⟨hv, rfl⟩), nofun⟩
  · obtain ⟨a, ha, hq⟩ := hread (h.resolve_left hv)
    refine ⟨some a, optional?_eq_some_iff.2 (.inr ⟨hv, a, ha, rfl⟩), ?_⟩
    rintro _ ⟨⟩
    exact ⟨ha, hq⟩

theorem text?_eq_some_iff {v : Value} {s : String} : text? v = some s ↔ v = .text s := by
  unfold text?
  split
  · simp
  · rename_i h; exact ⟨nofun, fun he => absurd he (h s)⟩

theorem exists_optional_text? {v : Value} (h : Optional IsText v) : ∃ o, optional? text? v = some o := by
  obtain ⟨o, ho, -⟩ := exists_optional? (q := fun _ => True) h fun ⟨s, hs⟩ => ⟨s, text?_eq_some_iff.2 hs, trivial⟩
  exact ⟨o, ho⟩

theorem natural?_eq_some_iff {v : Value} {n : Nat} : natural? v = some n ↔ ∃ q, v = .quantity q ∧ q.value = n := by
  unfold natural?
  simp only [Option.bind_eq_some_iff, Value.quantity?_eq_some_iff, length?_eq_some_iff]

/-! ## Limits -/

theorem exists_optional_natural? {v : Value} (h : Optional IsLength v) :
    ∃ o, optional? natural? v = some o ∧ ∀ n, o = some n → natural? v = some n ∧ (Quantity.whole n).IsFinite := by
  refine exists_optional? h ?_
  rintro ⟨q, hq, hfin, n, hn⟩
  exact ⟨n, natural?_eq_some_iff.2 ⟨q, hq, hn⟩, Quantity.isFinite_whole hfin (by exact_mod_cast hn)⟩

theorem exists_lengthLimits? {v : Value} (hobj : v.isObject = true) (h : IsLengthLimits v) :
    ∃ l, lengthLimits? v = some l ∧ l.Sound := by
  obtain ⟨lo, hlo, hmin⟩ := exists_optional_natural? h.min
  obtain ⟨hi, hhi, hmax⟩ := exists_optional_natural? h.max
  obtain ⟨m, hm⟩ := exists_optional_text? h.message
  refine ⟨⟨lo, hi, m⟩, by simp [lengthLimits?, hobj, hlo, hhi, hm], fun n hn => (hmin n hn).2,
    fun n hn => (hmax n hn).2, fun a b ha hb => ?_⟩
  -- the bounds that were read are equal to the bounds of the value, whatever they are written as
  obtain ⟨p, hp, hpa⟩ := natural?_eq_some_iff.1 (hmin a ha).1
  obtain ⟨q, hq, hqb⟩ := natural?_eq_some_iff.1 (hmax b hb).1
  have := h.order p q hp hq
  rw [hpa, hqb] at this
  exact_mod_cast this

theorem exists_formatLimits? [CharacterNames] {v : Value} (hobj : v.isObject = true) (h : IsFormatLimits v) :
    ∃ l, formatLimits? v = some l ∧ l.Sound := by
  have hpattern : IsPattern (v.get "pattern") → ∃ s, text? (v.get "pattern") = some s ∧
      ∃ e, Pattern.compile s = .ok e := fun ⟨s, e, hs, he⟩ => ⟨s, text?_eq_some_iff.2 hs, e, he⟩
  obtain ⟨p, hp, hread⟩ := exists_optional? h.pattern hpattern
  obtain ⟨m, hm⟩ := exists_optional_text? h.message
  exact ⟨⟨p, m⟩, by simp [formatLimits?, hobj, hp, hm], ⟨fun s hs => (hread s hs).2⟩⟩

theorem exists_optional_quantity? {p : Quantity → Prop} {v : Value}
    (h : Optional (fun v => ∃ q, v = .quantity q ∧ p q) v) :
    ∃ o, optional? Value.quantity? v = some o ∧ ∀ q, o = some q → v = .quantity q ∧ p q := by
  obtain ⟨o, ho, hread⟩ := exists_optional? (q := p) h fun ⟨q, hq, hp⟩ => ⟨q, Value.quantity?_eq_some_iff.2 hq, hp⟩
  exact ⟨o, ho, fun q hq => ⟨Value.quantity?_eq_some_iff.1 (hread q hq).1, (hread q hq).2⟩⟩

theorem exists_numberLimits? {v : Value} (hobj : v.isObject = true) (h : IsNumberLimits v) :
    ∃ l, numberLimits? v = some l ∧ l.Sound := by
  obtain ⟨lo, hlo, hmin⟩ := exists_optional_quantity? h.min
  obtain ⟨hi, hhi, hmax⟩ := exists_optional_quantity? h.max
  obtain ⟨st, hst, hstep⟩ := exists_optional_quantity? h.step
  obtain ⟨m, hm⟩ := exists_optional_text? h.message
  exact ⟨⟨lo, hi, st, m⟩, by simp [numberLimits?, hobj, hlo, hhi, hst, hm], fun q hq => (hmin q hq).2,
    fun q hq => (hmax q hq).2, fun q hq => (hstep q hq).2, fun a b ha hb => h.order a b (hmin a ha).1 (hmax b hb).1⟩

/-- The limits of a slider are numeric limits whose bounds are given. -/
theorem rangeLimits?_toNumberLimits {v : Value} (hmin : v.get "min" ≠ .null) (hmax : v.get "max" ≠ .null) :
    (rangeLimits? v).map RangeLimits.toNumberLimits = numberLimits? v := by
  have hgiven : ∀ w : Value, w ≠ .null → optional? Value.quantity? w = w.quantity?.map some := fun w hw =>
    if_neg (by simpa using hw)
  unfold rangeLimits? numberLimits?
  rw [if_pos (Value.isObject_of_get_ne_null hmin), if_pos (Value.isObject_of_get_ne_null hmin), hgiven _ hmin,
    hgiven _ hmax]
  cases (v.get "min").quantity? with
  | none => rfl
  | some lo =>
    cases (v.get "max").quantity? with
    | none => rfl
    | some hi =>
      cases optional? Value.quantity? (v.get "step") with
      | none => rfl
      | some step =>
        cases optional? text? (v.get "message") with
        | none => rfl
        | some message => rfl

theorem exists_rangeLimits? {v : Value} (h : IsRangeLimits v) :
    ∃ l, rangeLimits? v = some l ∧ l.toNumberLimits.Sound := by
  have hobj := Value.isObject_of_get_ne_null h.min_given
  obtain ⟨_, hl, hsound⟩ := exists_numberLimits? hobj h.toIsNumberLimits
  rw [← rangeLimits?_toNumberLimits h.min_given h.max_given, Option.map_eq_some_iff] at hl
  obtain ⟨l, hl, rfl⟩ := hl
  exact ⟨l, hl, hsound⟩

/-! ## Choices -/

theorem exists_choices? {v : Value} (h : IsChoices v) : ∃ choices, choices? v = some choices ∧ choices ≠ [] := by
  obtain ⟨items, rfl, hne, hall⟩ := h
  have hread : ∀ item ∈ items, ∃ c, choice? item = some c ∧ True := fun item hitem =>
    (Option.isSome_iff_exists.1 (choice?_isSome_iff.2 (hall item hitem))).imp fun _ hc => ⟨hc, trivial⟩
  obtain ⟨choices, hc, -⟩ := exists_mapM_eq_some hread
  refine ⟨choices, hc, ?_⟩
  rintro rfl
  exact hne (List.forall₂_nil_right_iff.1 (mapM_eq_some_iff.1 hc))

/-! ## Fields -/

/-- Limits may be absent as a whole; where they are given they are an object. -/
theorem exists_optional_limits? {α : Type} {p : Value → Prop} {q : α → Prop} {read? : Value → Option α} {v : Value}
    (hobj : Optional IsObject v) (h : p v) (hread : v.isObject = true → p v → ∃ l, read? v = some l ∧ q l) :
    ∃ o, optional? read? v = some o ∧ ∀ l, o = some l → q l := by
  obtain ⟨o, ho, hq⟩ := exists_optional? hobj fun hv => hread (Value.isObject_iff.2 hv) h
  exact ⟨o, ho, fun l hl => (hq l hl).2⟩

theorem exists_body? [CharacterNames] {type : FieldType} {field : Value}
    (hval : Optional IsObject (field.get "validation")) (h : HasAttributes field type) :
    ∃ b, body? type field = some b ∧ b.Sound := by
  cases type with
  | text | textarea =>
    obtain ⟨p, hp⟩ := exists_optional_text? h.1
    obtain ⟨l, hl, hsound⟩ := exists_optional_limits? hval h.2 exists_lengthLimits?
    refine ⟨_, by rw [body?, hp, hl]; rfl, ?_⟩
    exact hsound
  | email | tel | password =>
    obtain ⟨p, hp⟩ := exists_optional_text? h.1
    obtain ⟨l, hl, hsound⟩ := exists_optional_limits? hval h.2 exists_formatLimits?
    refine ⟨_, by rw [body?, hp, hl]; rfl, ?_⟩
    exact hsound
  | number =>
    obtain ⟨p, hp⟩ := exists_optional_text? h.1
    obtain ⟨l, hl, hsound⟩ := exists_optional_limits? hval h.2 exists_numberLimits?
    exact ⟨.number p l, by rw [body?, hp, hl]; rfl, hsound⟩
  | range =>
    obtain ⟨l, hl, hsound⟩ := exists_rangeLimits? h
    exact ⟨.range l, by rw [body?, hl]; rfl, hsound⟩
  | select =>
    obtain ⟨p, hp⟩ := exists_optional_text? h.1
    obtain ⟨cs, hcs, hne⟩ := exists_choices? h.2
    exact ⟨.select p cs, by rw [body?, hp, hcs]; rfl, hne⟩
  | radio =>
    obtain ⟨cs, hcs, hne⟩ := exists_choices? h
    exact ⟨.radio cs, by rw [body?, hcs]; rfl, hne⟩
  | checkboxGroup =>
    obtain ⟨cs, hcs, hne⟩ := exists_choices? h
    exact ⟨.checkboxGroup cs, by rw [body?, hcs]; rfl, hne⟩
  | checkbox => exact ⟨.toggle .checkbox, rfl, trivial⟩
  | switch => exact ⟨.toggle .switch, rfl, trivial⟩

theorem exists_flag? {v : Value} (h : Optional IsBool v) : ∃ b, flag? v = some b := by
  rcases h with rfl | ⟨b, rfl⟩
  · exact ⟨false, rfl⟩
  · exact ⟨b, rfl⟩

theorem exists_field? [CharacterNames] {v : Value} (h : IsField v) : ∃ f, field? v = some f ∧ f.Sound := by
  obtain ⟨type, ht, hattr⟩ := h.type
  obtain ⟨id, hid, hid'⟩ := h.id
  obtain ⟨label, hlabel, hlabel'⟩ := h.label
  obtain ⟨required, hreq⟩ := exists_flag? h.required
  obtain ⟨body, hbody, hsound⟩ := exists_body? h.validation hattr
  exact ⟨⟨id, label, required, body⟩, by simp [field?, typeOf?_eq_some_iff.2 ht, text?, hid, hlabel, hreq, hbody],
    hid', hlabel', hsound⟩

/-- The parts of a value from which a field is read. -/
theorem field?_eq_some_iff {v : Value} {f : Field} : field? v = some f ↔
    ∃ type, v.get "type" = .text type.name ∧ v.get "id" = .text f.id ∧ v.get "label" = .text f.label ∧
      flag? (v.get "required") = some f.required ∧ body? type v = some f.body := by
  unfold field?
  simp only [Option.bind_eq_bind, Option.bind_eq_some_iff, typeOf?_eq_some_iff, text?_eq_some_iff, Option.pure_def,
    Option.some.injEq]
  constructor
  · rintro ⟨type, ht, id, hid, label, hlabel, required, hreq, body, hbody, rfl⟩
    exact ⟨type, ht, hid, hlabel, hreq, hbody⟩
  · rintro ⟨type, ht, hid, hlabel, hreq, hbody⟩
    exact ⟨type, ht, _, hid, _, hlabel, _, hreq, _, hbody, rfl⟩

/-! ## Documents -/

/-- The parts of a value from which a document is read. -/
theorem document?_eq_some_iff {v : Value} {d : Document} : document? v = some d ↔
    v.get "formTitle" = .text d.title ∧ v.get "formDescription" = .text d.description ∧
      ∃ fields, v.get "fields" = .list fields ∧ List.Forall₂ (fun w f => field? w = some f) fields d.fields := by
  unfold document?
  split
  · rename_i fields hf
    rw [hf]
    simp only [Option.bind_eq_bind, Option.bind_eq_some_iff, text?_eq_some_iff, Option.pure_def,
      Option.some.injEq, mapM_eq_some_iff, Value.list.injEq]
    constructor
    · rintro ⟨title, ht, description, hd, fields', hfields, rfl⟩
      exact ⟨ht, hd, _, rfl, hfields⟩
    · rintro ⟨ht, hd, _, rfl, hfields⟩
      exact ⟨_, ht, _, hd, _, hfields, rfl⟩
  · rename_i hf
    exact ⟨nofun, fun ⟨_, _, fields, h, _⟩ => absurd h (hf fields)⟩

/-- The ids of fields are those of the values from which they are read. -/
theorem ids_eq {raws : List Value} {fields : List Field} (h : List.Forall₂ (fun w f => field? w = some f) raws fields) :
    raws.map (·.get "id") = fields.map (fun f => Value.text f.id) := by
  rw [← List.forall₂_eq_eq_eq, List.forall₂_map_left_iff, List.forall₂_map_right_iff]
  refine h.imp fun w f hf => ?_
  obtain ⟨_, -, hid, -⟩ := field?_eq_some_iff.1 hf
  exact hid

theorem exists_document? [CharacterNames] {v : Value} (h : IsDocument v) : ∃ d, document? v = some d ∧ d.Sound := by
  obtain ⟨title, ht, ht'⟩ := h.title
  obtain ⟨description, hd, hd'⟩ := h.description
  obtain ⟨raws, hf, hne, hall, hpair⟩ := h.fields
  obtain ⟨fields, hread, hsound⟩ := exists_mapM_eq_some fun raw hraw => exists_field? (hall raw hraw)
  rw [mapM_eq_some_iff] at hread
  refine ⟨⟨title, description, fields⟩, document?_eq_some_iff.2 ⟨ht, hd, raws, hf, hread⟩, ht', hd', ?_, hsound, ?_⟩
  · rintro rfl
    exact hne (List.forall₂_nil_right_iff.1 hread)
  · -- the ids differ as values, so they differ as texts
    rw [← List.pairwise_map, ids_eq hread] at hpair
    have hids : (fields.map fun f => Value.text f.id) = (fields.map (·.id)).map Value.text := by
      rw [List.map_map]; rfl
    rw [hids] at hpair
    exact List.Nodup.of_map Value.text hpair

end Gate

/-! ## Reading -/

/-- Reading a value succeeds exactly in the values of the grammar, and what is read is sound. -/
theorem Document.read_eq_ok_iff [CharacterNames] {v : Value} {d : Document} :
    Document.read v = .ok d ↔ Grammar.IsDocument v ∧ Gate.document? v = some d := by
  unfold Document.read
  rw [← Gate.defects_eq_ok_nil_iff]
  split
  · rename_i h; rw [h]; exact ⟨nofun, fun hd => nomatch hd.1⟩
  · rename_i h
    rw [h]
    cases Gate.document? v with
    | none => exact ⟨nofun, fun hd => nomatch hd.2⟩
    | some d' => simp
  · rename_i found hne h
    rw [h]
    refine ⟨nofun, fun hd => ?_⟩
    exact absurd (Except.ok.inj hd.1) hne

theorem Document.read_sound [CharacterNames] {v : Value} {d : Document} (h : Document.read v = .ok d) : d.Sound := by
  obtain ⟨hv, hd⟩ := read_eq_ok_iff.1 h
  obtain ⟨d', hd', hsound⟩ := Gate.exists_document? hv
  obtain rfl : d' = d := Option.some.inj (hd'.symm.trans hd)
  exact hsound

theorem Document.exists_read [CharacterNames] {v : Value} (h : Grammar.IsDocument v) :
    ∃ d, Document.read v = .ok d := by
  obtain ⟨d, hd, -⟩ := Gate.exists_document? h
  exact ⟨d, read_eq_ok_iff.2 ⟨h, hd⟩⟩

end WebForm
