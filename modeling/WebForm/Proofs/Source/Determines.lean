/-
The source of a check determines the check: sound documents whose sources are the same text give the same
outcome for every submission. The text gives the fields' ids and expressions, and an expression gives all
that the check of a field looks at, though not the type of the field.
-/
import WebForm.Form
import WebForm.Proofs.Rules
import WebForm.Proofs.Source.Zod

namespace WebForm

namespace Zod

/-! ## Calls of rules -/

/-- The rule that a call checks. An excuse for empty text leaves the rule as it is. -/
def Call.rule? : Call → Option Rule
  | .minLength n m => some ⟨.minLength n, m⟩
  | .maxLength n m => some ⟨.maxLength n, m⟩
  | .pattern p m => some ⟨.pattern p, m⟩
  | .minimum q m => some ⟨.minimum q, m⟩
  | .maximum q m => some ⟨.maximum q, m⟩
  | .multipleOf q m => some ⟨.multipleOf q, m⟩
  | .oneOf vs m | .emptyOrOneOf vs m => some ⟨.oneOf vs, m⟩
  | .allOf vs m => some ⟨.allOf vs, m⟩
  | .isTrue m => some ⟨.isTrue, m⟩
  | .finite | .orEmpty | .optional | .nullable => none

@[simp] theorem Call.rule?_ofRule (rule : Rule) : (Call.ofRule rule).rule? = some rule := by
  obtain ⟨c, m⟩ := rule
  cases c <;> rfl

@[simp] theorem Call.rule?_comp_ofRule : Call.rule? ∘ Call.ofRule = some := funext rule?_ofRule

/-- How many calls say that text or a list is required; they come first. -/
def Call.requiring (kind : ValueKind) (required : Bool) : Nat :=
  match kind, required with
  | .text, true | .texts, true => 1
  | _, _ => 0

/-- The rules of a sound description are those of its calls after the first that say that it is required. -/
theorem Call.rules_eq [CharacterNames] {r : FieldRules} (hr : r.Sound) :
    r.rules = ((Call.ofRules r).drop (requiring r.kind r.required)).filterMap Call.rule? := by
  unfold Call.ofRules requiring
  cases hk : r.kind with
  | number => cases hq : r.required <;> simp [List.filterMap_cons, rule?]
  | boolean =>
    cases hq : r.required with
    | true => simp
    | false => simp [List.filterMap_cons, rule?, hr.toggle hk hq]
  | texts => cases hq : r.required <;> simp [List.filterMap_cons, rule?]
  | text =>
    cases hq : r.required with
    | true => simp
    | false =>
      simp only [List.drop_zero]
      by_cases hf : r.folded = true
      · -- an optional choice has one rule, and its call excuses empty text
        obtain ⟨vs, m, hrules⟩ := hr.choice hk hf
        rw [if_pos hf, hrules]
        rfl
      · rw [if_neg hf]
        by_cases hrules : r.rules = []
        · simp [List.filterMap_cons, rule?, hrules]
        · rw [if_neg (by simpa using hrules)]
          simp [List.filterMap_cons, rule?]

/-- With its kind and whether it is required, the calls of a sound description give its rules. -/
theorem Call.ofRules_inj [CharacterNames] {r s : FieldRules} (hr : r.Sound) (hs : s.Sound) (hkind : r.kind = s.kind)
    (hreq : r.required = s.required) (h : Call.ofRules r = Call.ofRules s) : r.rules = s.rules := by
  rw [rules_eq hr, rules_eq hs, h, hkind, hreq]

/-- A call may stand on the base of a kind if its rule, where it has one, looks at content of that kind. -/
theorem Call.fits_ofKind {c : Call} {kind : ValueKind} (h : ∀ rule, c.rule? = some rule → rule.constraint.kind = kind) :
    c.Fits (.ofKind kind) := by
  cases c with
  | minLength n m =>
    obtain rfl : ValueKind.text = kind := h ⟨.minLength n, m⟩ rfl
    exact nofun
  | maxLength n m =>
    obtain rfl : ValueKind.text = kind := h ⟨.maxLength n, m⟩ rfl
    exact nofun
  | minimum q m =>
    obtain rfl : ValueKind.number = kind := h ⟨.minimum q, m⟩ rfl
    rfl
  | maximum q m =>
    obtain rfl : ValueKind.number = kind := h ⟨.maximum q, m⟩ rfl
    rfl
  | _ => trivial

/-- The call that says that text or a list is required asks for one character or item. -/
theorem Call.mem_take_requiring {r : FieldRules} {c : Call}
    (hc : c ∈ (Call.ofRules r).take (requiring r.kind r.required)) :
    c = .minLength 1 r.requiredMessage ∧ r.kind ≠ .number := by
  unfold Call.ofRules requiring at hc
  cases hq : r.required with
  | false => cases hk : r.kind <;> simp [hk, hq] at hc
  | true =>
    cases hk : r.kind with
    | number | boolean => simp [hk, hq] at hc
    | text | texts => exact ⟨by simpa [hk, hq] using hc, nofun⟩

/-- The calls of a sound description may stand on its base. -/
theorem Expression.ofRules_fits [CharacterNames] {r : FieldRules} (h : r.Sound) : (Expression.ofRules r).Fits := by
  intro c hc
  show c.Fits (.ofKind r.kind)
  have hc : c ∈ Call.ofRules r := hc
  rw [← List.take_append_drop (Call.requiring r.kind r.required) (Call.ofRules r)] at hc
  rcases List.mem_append.1 hc with hc | hc
  · obtain ⟨rfl, hk⟩ := Call.mem_take_requiring hc
    cases hkind : r.kind with
    | number => exact absurd hkind hk
    | text | boolean | texts => exact nofun
  · refine Call.fits_ofKind fun rule hrule => h.kinds rule ?_
    rw [Call.rules_eq h]
    exact List.mem_filterMap.2 ⟨c, hc, hrule⟩

theorem Base.ofKind_inj {a b : ValueKind} (h : Base.ofKind a = Base.ofKind b) : a = b := by
  cases a <;> cases b <;> first | rfl | cases h

/-- Sound descriptions with the same expression check alike. -/
theorem Expression.check_eq [CharacterNames] {r s : FieldRules} (hr : r.Sound) (hs : s.Sound)
    (h : Expression.ofRules r = Expression.ofRules s) (v : Value) : r.check v = s.check v := by
  have hkind : r.kind = s.kind := Base.ofKind_inj (congrArg Expression.base h)
  have htype : r.typeMessage = s.typeMessage := congrArg Expression.typeMessage h
  have hmessage : (if r.required = true then some r.requiredMessage else none) =
      if s.required = true then some s.requiredMessage else none := congrArg Expression.requiredMessage h
  have hreq : r.required = s.required := by
    cases hq : r.required <;> cases hq' : s.required <;> simp [hq, hq'] at hmessage <;> rfl
  have hrules := Call.ofRules_inj hr hs hkind hreq (congrArg Expression.calls h)
  -- of the message for a missing value, only that of a required field is written, and only that is used
  have hcontent : ∀ w, r.checkContent w = s.checkContent w := by
    intro w
    unfold FieldRules.checkContent
    rw [hkind, htype, hrules]
  unfold FieldRules.check
  rw [hcontent, hcontent, hkind]
  cases hq : s.required with
  | true =>
    rw [hreq, hq, if_pos rfl, if_pos rfl, Option.some.injEq] at hmessage
    rw [hreq, hq, hmessage]
  | false => rw [hreq, hq]; rfl

/-! ## Modules -/

open Source

/-- A field of an object, from the end of the line before on. -/
def fieldChars (f : Field) : List Char :=
  '\n' :: ' ' :: ' ' :: ((Quoted.encode f.id).toList ++ ':' :: ' ' :: (chars (fieldSource f) ++ [',']))

theorem chars_objectSource (d : Document) :
    chars (objectSource "" d) = "z.object(\x7b".toList ++ (d.fields.flatMap fieldChars ++ "\n\x7d)".toList) := by
  have hfields : ∀ fields : List Field,
      (fields.map fun f => [.code "", .code "  ", .literal f.id, .code ": "] ++ fieldSource f ++ [.code ","]).flatMap
        (fun t => "\n".toList ++ chars t) = fields.flatMap fieldChars := by
    intro fields
    induction fields with
    | nil => rfl
    | cons f fields ih =>
      rw [List.map_cons, List.flatMap_cons, List.flatMap_cons, ih]
      simp [fieldChars]
  unfold objectSource objectLines Line.join
  rw [List.cons_append, chars_join, List.flatMap_append, hfields]
  simp

/-- The fields of an object are told apart, each with its id and its check. -/
theorem fieldChars_inj [CharacterNames] {fields fields' : List Field} (h : ∀ f ∈ fields, f.Sound)
    (h' : ∀ f ∈ fields', f.Sound) {r r' : List Char}
    (heq : fields.flatMap fieldChars ++ ("\n\x7d)".toList ++ r) = fields'.flatMap fieldChars ++ ("\n\x7d)".toList ++ r')) :
    List.Forall₂ (fun f g => f.id = g.id ∧ ∀ v, f.check v = g.check v) fields fields' := by
  have hstop : ∀ (f : Field) (s s' : List Char), fieldChars f ++ s ≠ "\n\x7d)".toList ++ s' := by
    intro f s s' hf
    simp [fieldChars] at hf
  have hfield : ∀ f ∈ fields, ∀ g ∈ fields', ∀ s s', fieldChars f ++ s = fieldChars g ++ s' →
      (f.id = g.id ∧ ∀ v, f.check v = g.check v) ∧ s = s' := by
    intro f hf g hg s s' hfg
    simp only [fieldChars, List.cons_append, List.append_assoc, List.cons.injEq, true_and, List.nil_append] at hfg
    obtain ⟨hid, hrest⟩ := Json.encode_append_inj hfg
    simp only [List.cons.injEq, true_and] at hrest
    have hsound := (h f hf).describe
    have hsound' := (h' g hg).describe
    obtain ⟨hexpr, hs⟩ := Expression.source_inj (Expression.ofRules_fits hsound) (Expression.ofRules_fits hsound') hrest
    exact ⟨⟨hid, fun v => Expression.check_eq hsound hsound' hexpr v⟩, hs⟩
  exact (forall₂_of_flatMap_eq _ hstop hfield heq).1

/-- A conversion to numbers starts otherwise than the export after it. -/
theorem helperLines_head {d : Document} (h : usesNumbers d = true) :
    ∃ tail, ((helperLines d).flatMap fun t => "\n".toList ++ chars t) = '\n' :: 'c' :: tail := by
  unfold helperLines
  rw [if_pos h]
  exact ⟨_, rfl⟩

theorem helperLines_of_not {d : Document} (h : usesNumbers d = false) : helperLines d = [] := by
  unfold helperLines
  rw [if_neg (by simp [h])]

/-- Modules with the same characters have the same fields, up to where the object ends. -/
theorem fieldChars_of_moduleSource {name : String} {d d' : Document}
    (h : chars (moduleSource name d) = chars (moduleSource name d')) : ∃ r : List Char,
      d.fields.flatMap fieldChars ++ ("\n\x7d)".toList ++ r) = d'.fields.flatMap fieldChars ++ ("\n\x7d)".toList ++ r) := by
  unfold moduleSource Line.join at h
  simp only [List.cons_append, List.nil_append, List.append_assoc, chars_join, List.flatMap_cons, List.flatMap_append,
    List.append_cancel_left_eq, chars_append, chars_code, chars_objectSource] at h
  -- after the import either the conversion to numbers or the export follows
  have hhelper : helperLines d = helperLines d' := by
    cases hd : usesNumbers d with
    | true =>
      cases hd' : usesNumbers d' with
      | true => rw [helperLines, helperLines, if_pos hd, if_pos hd']
      | false =>
        obtain ⟨tail, htail⟩ := helperLines_head hd
        rw [htail, helperLines_of_not hd'] at h
        simp at h
    | false =>
      cases hd' : usesNumbers d' with
      | true =>
        obtain ⟨tail, htail⟩ := helperLines_head hd'
        rw [htail, helperLines_of_not hd] at h
        simp at h
      | false => rw [helperLines_of_not hd, helperLines_of_not hd']
  rw [hhelper] at h
  simp only [List.append_cancel_left_eq] at h
  exact ⟨_, h⟩

end Zod

/-! ## Checks -/

theorem checkFields_congr [CharacterNames] {fields fields' : List Field}
    (h : List.Forall₂ (fun f g => f.id = g.id ∧ ∀ v, f.check v = g.check v) fields fields') (data : Value) :
    checkFields data fields = checkFields data fields' := by
  induction h with
  | nil => rfl
  | cons hfg _ ih =>
    obtain ⟨hid, hcheck⟩ := hfg
    unfold checkFields
    rw [hcheck, hid, ih]

namespace Document

theorem check_eq_of_code [CharacterNames] {d d' : Document} (hd : d.Sound) (hd' : d'.Sound)
    (h : d.code .zod = d'.code .zod) (data : Value) : d.check data = d'.check data := by
  have hchars : Source.chars (Zod.moduleSource Zod.defaultName d) = Source.chars (Zod.moduleSource Zod.defaultName d') := by
    rw [← Source.toList_text, ← Source.toList_text]
    exact congrArg String.toList h
  obtain ⟨r, hfields⟩ := Zod.fieldChars_of_moduleSource hchars
  unfold check
  rw [checkFields_congr (Zod.fieldChars_inj hd.fields hd'.fields hfields)]

/-- Documents that were read and whose sources are the same text check every submission alike. -/
theorem source_determines_check [CharacterNames] {v v' : Value} {d d' : Document} (hd : Document.read v = .ok d)
    (hd' : Document.read v' = .ok d') (h : d.code .zod = d'.code .zod) (data : Value) : d.check data = d'.check data :=
  check_eq_of_code (read_sound hd) (read_sound hd') h data

section

attribute [local instance] CharacterNames.ascii

/-- A password and a text of at least eight characters with the message of passwords have the same source,
so they check alike. -/
theorem source_determines_check_of_password :
    let document := fun field : Value => Value.record [("formTitle", .text "Form"), ("formDescription", .text "Pins"),
      ("fields", .list [field])]
    let v := document (.record [("id", .text "pin"), ("type", .text "password"), ("label", .text "Pin")])
    let v' := document (.record [("id", .text "pin"), ("type", .text "text"), ("label", .text "Pin"),
      ("validation", .record [("min", .int 8), ("message", .text "Password must be at least 8 characters long")])])
    ∃ d d', d ≠ d' ∧ Document.read v = .ok d ∧ Document.read v' = .ok d' ∧ d.code .zod = d'.code .zod ∧
      ∀ data, d.check data = d'.check data := by
  intro document v v'
  have hd : Document.read v = .ok ⟨"Form", "Pins", [⟨"pin", "Pin", false, .formatted .password none none⟩]⟩ :=
    read_eq_ok_iff.2 ⟨Gate.defects_eq_ok_nil_iff.1 (by decide +kernel), by decide +kernel⟩
  have hd' : Document.read v' = .ok ⟨"Form", "Pins", [⟨"pin", "Pin", false, .written .text none
      (some ⟨some 8, none, some "Password must be at least 8 characters long"⟩)⟩]⟩ :=
    read_eq_ok_iff.2 ⟨Gate.defects_eq_ok_nil_iff.1 (by decide +kernel), by decide +kernel⟩
  refine ⟨_, _, by decide, hd, hd', by decide +kernel, fun data => ?_⟩
  exact source_determines_check hd hd' (by decide +kernel) data

end

end Document

end WebForm
