/-
What it means that a field is required. There are two ways to it: most fields look at it before anything else, when a
value counts as not given, and a toggle has it among its rules. Either way it only matters where nothing was given;
of a toggle, also where it is off.
-/
import WebForm.Proofs.Number.Reading
import WebForm.Proofs.Submission.Verdict

namespace WebForm

/-! ## Values by the type of field -/

/-- The values that count as not given. An entry that is absent is looked up as null. -/
def NotGiven : FieldType → Value → Prop
  | .text, v | .textarea, v | .email, v | .password, v | .tel, v | .select, v | .radio, v => v = .null ∨ v = .text ""
  | .number, v | .range, v => v = .null ∨ ∃ s : String, v = .text s ∧ ∀ c ∈ s.toList, c ∈ numberBlanks
  | .checkboxGroup, v => v = .null ∨ v = .list []
  | .checkbox, v | .switch, v => v = .null

/-- The values that are not of the kind that a field holds. -/
def Mistyped : FieldType → Value → Prop
  | .text, v | .textarea, v | .email, v | .password, v | .tel, v | .select, v | .radio, v => ∀ s, v ≠ .text s
  | .number, v | .range, v => (∀ q, v ≠ .quantity q) ∧ ∀ s, v = .text s → Quantity.ofText? s = none
  | .checkboxGroup, v => ∀ items, v ≠ .texts items
  | .checkbox, v | .switch, v => ∀ b, v ≠ .bool b

/-- The value of an optional field that was not given. -/
def valueOfNotGiven : FieldType → Value → Value
  | .checkboxGroup, _ => .list []
  | .checkbox, _ | .switch, _ => .bool false
  | _, v => v

theorem isEmpty_number_iff {v : Value} :
    isEmpty .number v = true ↔ v = .null ∨ ∃ s : String, v = .text s ∧ ∀ c ∈ s.toList, c ∈ numberBlanks := by
  have htrim : ∀ s : String, trimBlank s.toList = [] ↔ ∀ c ∈ s.toList, c ∈ numberBlanks := by
    intro s
    constructor
    · intro h
      obtain ⟨before, after, hs, hbefore, hafter⟩ := exists_trimBlank s.toList
      rw [h, List.nil_append] at hs
      intro c hc
      rw [hs] at hc
      rcases List.mem_append.1 hc with hc | hc
      · exact isTrimmable_iff.1 (hbefore c hc)
      · exact isTrimmable_iff.1 (hafter c hc)
    · intro h
      have hpad := trimBlank_pad (fun c hc => isTrimmable_iff.2 (h c hc)) (List.forall_mem_nil _) []
      rwa [List.nil_append, List.append_nil] at hpad
  unfold isEmpty
  split <;> simp_all

theorem number?_eq_ok_none_iff {v : Value} :
    number? v = .ok none ↔ (∀ q, v ≠ .quantity q) ∧ ∀ s, v = .text s → Quantity.ofText? s = none := by
  unfold number?
  split
  · rename_i n
    refine iff_of_false ?_ fun h => h.1 (.whole n) rfl
    split <;> exact nofun
  · rename_i s
    have hquantity : ∀ q, Value.text s ≠ .quantity q := fun q => by cases q <;> exact nofun
    simp [hquantity]
  · rename_i htext
    have hquantity : v.quantity? = none ↔ ∀ q, v ≠ .quantity q := by
      simp only [Option.eq_none_iff_forall_ne_some, ne_eq, Value.quantity?_eq_some_iff]
    rw [Except.ok.injEq, hquantity, and_iff_left]
    intro s hs
    exact absurd hs (htext s)

/-- Content is missing only where no content is returned as the value. -/
theorem Content.ofValue?_eq_ok_none_iff {kind : ValueKind} (hkind : kind ≠ .number) {v : Value} :
    ofValue? kind v = .ok none ↔ ∀ content : Content, content.kind = kind → v ≠ content.toValue := by
  obtain ⟨o, ho⟩ := exists_ofValue? (v := v) fun h => absurd h hkind
  have hsome : ∀ content, o = some content ↔ content.kind = kind ∧ v = content.toValue := fun content => by
    rw [← ofValue?_eq_some_iff hkind, ho, Except.ok.injEq]
  rw [ho, Except.ok.injEq, Option.eq_none_iff_forall_ne_some]
  simp only [ne_eq, hsome, not_and]

namespace Field

variable {f f' : Field} {v : Value}

theorem isEmpty_iff (hkind : f.kind ≠ .boolean) : isEmpty f.kind v = true ↔ NotGiven f.type v := by
  unfold kind at hkind ⊢
  unfold Field.type
  cases hb : f.body with
  | written t p l => cases t <;> exact isEmpty_text_iff
  | formatted t p l => cases t <;> exact isEmpty_text_iff
  | number p l => exact isEmpty_number_iff
  | range l => exact isEmpty_number_iff
  | select p cs => exact isEmpty_text_iff
  | radio cs => exact isEmpty_text_iff
  | checkboxGroup cs => exact isEmpty_texts_iff
  | toggle t => simp [hb] at hkind

theorem kind_eq_boolean_iff : f.kind = .boolean ↔ f.type = .checkbox ∨ f.type = .switch := by
  unfold kind Field.type
  cases f.body with
  | written t p l => cases t <;> simp [Body.type]
  | formatted t p l => cases t <;> simp [Body.type]
  | toggle t => cases t <;> simp [Body.type]
  | _ => simp [Body.type]

theorem notGiven_iff_of_boolean (hkind : f.kind = .boolean) : NotGiven f.type v ↔ v = .null := by
  rcases kind_eq_boolean_iff.1 hkind with h | h <;> rw [h] <;> exact Iff.rfl

theorem mistyped_iff : Mistyped f.type v ↔ Content.ofValue? f.kind v = .ok none := by
  -- content of a kind other than numbers is made by one constructor, and comes from the value that it is returned as
  have htext : Content.ofValue? .text v = .ok none ↔ ∀ s, v ≠ .text s := by
    rw [Content.ofValue?_eq_ok_none_iff (by decide)]
    refine ⟨fun h s => h (.text s) rfl, fun h content hkind => ?_⟩
    cases content with
    | text s => exact h s
    | _ => cases hkind
  have htexts : Content.ofValue? .texts v = .ok none ↔ ∀ items, v ≠ .texts items := by
    rw [Content.ofValue?_eq_ok_none_iff (by decide)]
    refine ⟨fun h items => h (.texts items) rfl, fun h content hkind => ?_⟩
    cases content with
    | texts items => exact h items
    | _ => cases hkind
  have hboolean : Content.ofValue? .boolean v = .ok none ↔ ∀ b, v ≠ .bool b := by
    rw [Content.ofValue?_eq_ok_none_iff (by decide)]
    refine ⟨fun h b => h (.boolean b) rfl, fun h content hkind => ?_⟩
    cases content with
    | boolean b => exact h b
    | _ => cases hkind
  have hnumber : Content.ofValue? .number v = .ok none ↔
      (∀ q, v ≠ .quantity q) ∧ ∀ s, v = .text s → Quantity.ofText? s = none := by
    rw [← number?_eq_ok_none_iff]
    show (number? v).map (Option.map Content.number) = _ ↔ _
    rcases number? v with halt | _ | q <;> simp [Except.map]
  unfold kind Field.type
  cases f.body with
  | written t p l => cases t <;> exact htext.symm
  | formatted t p l => cases t <;> exact htext.symm
  | number p l => exact hnumber.symm
  | range l => exact hnumber.symm
  | select p cs => exact htext.symm
  | radio cs => exact htext.symm
  | checkboxGroup cs => exact htexts.symm
  | toggle t => cases t <;> exact hboolean.symm

/-! ## Toggles -/

/-- A toggle that is off is only found wanting where it is required. -/
theorem check_bool [CharacterNames] (hkind : f.kind = .boolean) (b : Bool) :
    f.check (.bool b) = .ok ⟨.bool b, if f.required = true ∧ b = false then [f.describe.requiredMessage] else []⟩ := by
  obtain ⟨id, label, required, body⟩ := f
  cases body with
  | toggle t => cases required <;> cases b <;> rfl
  | _ => cases hkind

theorem check_null [CharacterNames] (hkind : f.kind = .boolean) : f.check .null = f.check (.bool false) := by
  have hdescribe : f.describe.kind = .boolean := hkind
  rw [check, FieldRules.check, if_pos hdescribe, check, FieldRules.check, if_pos hdescribe]
  rfl

/-! ## The two ways of being required -/

theorem valueOfNotGiven_eq (hkind : f.kind ≠ .boolean) (v : Value) : valueOfNotGiven f.type v = emptyValue f.kind v := by
  unfold kind at hkind ⊢
  unfold Field.type
  cases hb : f.body with
  | written t p l => cases t <;> rfl
  | formatted t p l => cases t <;> rfl
  | toggle t => simp [hb] at hkind
  | _ => rfl

theorem check_of_notGiven [CharacterNames] (h : NotGiven f.type v) :
    (f.required = false → f.check v = .ok ⟨valueOfNotGiven f.type v, []⟩) ∧
    (f.required = true → ∃ w, f.check v = .ok ⟨w, [f.describe.requiredMessage]⟩) := by
  by_cases hkind : f.kind = .boolean
  · obtain rfl := (notGiven_iff_of_boolean hkind).1 h
    have hvalue : valueOfNotGiven f.type .null = .bool false := by
      rcases kind_eq_boolean_iff.1 hkind with ht | ht <;> rw [ht] <;> rfl
    rw [check_null hkind, check_bool hkind, hvalue]
    constructor
    · intro hrequired
      rw [if_neg (by simp [hrequired])]
    · intro hrequired
      exact ⟨_, by rw [if_pos ⟨hrequired, rfl⟩]⟩
  · have hempty : isEmpty f.describe.kind v = true := (isEmpty_iff hkind).2 h
    have hdescribe : ¬f.describe.kind = .boolean := hkind
    rw [check, FieldRules.check, if_neg hdescribe, if_pos hempty, valueOfNotGiven_eq hkind]
    constructor
    · intro hrequired
      exact congrArg Except.ok (if_neg (by simp [describe, hrequired]))
    · intro hrequired
      exact ⟨v, congrArg Except.ok (if_pos hrequired)⟩

/-- A value that was given is checked as content. -/
theorem check_of_given [CharacterNames] (h : ¬NotGiven f.type v) : f.check v = f.describe.checkContent v := by
  rw [check, FieldRules.check]
  by_cases hkind : f.kind = .boolean
  · have hnull : v.isNull = false := by
      rw [notGiven_iff_of_boolean hkind, ← Value.isNull_iff] at h
      exact Bool.not_eq_true _ ▸ h
    rw [if_pos (show f.describe.kind = .boolean from hkind), hnull]
    rfl
  · have hfull : ¬isEmpty f.describe.kind v = true := mt (isEmpty_iff hkind).1 h
    rw [if_neg (show ¬f.describe.kind = .boolean from hkind), if_neg hfull]

theorem check_of_mistyped [CharacterNames] (h : ¬NotGiven f.type v) (hv : Mistyped f.type v) :
    f.check v = .ok ⟨v, [f.describe.typeMessage]⟩ := by
  rw [check_of_given h]
  exact FieldRules.checkContent_eq_ok_iff.2 (.inr ⟨mistyped_iff.1 hv, rfl⟩)

/-- Of the fields that are no toggles, the rules do not say whether the field is required. -/
theorem rules_eq_of_body (hkind : f.kind ≠ .boolean) (hlabel : f'.label = f.label) (hbody : f'.body = f.body) :
    f'.rules = f.rules := by
  unfold kind at hkind
  unfold rules
  rw [hlabel, hbody]
  cases hb : f.body with
  | toggle t => simp [hb] at hkind
  | _ => rfl

theorem kind_eq_of_body (hbody : f'.body = f.body) : f'.kind = f.kind := by
  unfold kind
  rw [hbody]

theorem checkContent_eq_of_body [CharacterNames] (hkind : f.kind ≠ .boolean) (hlabel : f'.label = f.label)
    (hbody : f'.body = f.body) :
    f'.describe.checkContent v = f.describe.checkContent v := by
  unfold FieldRules.checkContent describe
  simp only [kind_eq_of_body hbody, rules_eq_of_body hkind hlabel hbody, hlabel]

/-- Where nothing is given an optional field is accepted and a required one has its one message. Where something is
given, two fields that differ in nothing else reject a value of another kind alike and have the same outcome
throughout, but for a toggle that is off. -/
theorem required_matters_only_where_nothing_is_given [CharacterNames] (f : Field) (v : Value) :
    (NotGiven f.type v → (f.required = false → f.check v = .ok ⟨valueOfNotGiven f.type v, []⟩) ∧
      (f.required = true → ∃ w, f.check v = .ok ⟨w, [f.describe.requiredMessage]⟩)) ∧
    (¬NotGiven f.type v → ∀ f' : Field, f'.id = f.id → f'.label = f.label → f'.body = f.body →
      (Mistyped f.type v →
        f.check v = .ok ⟨v, [f.describe.typeMessage]⟩ ∧ f'.check v = .ok ⟨v, [f'.describe.typeMessage]⟩) ∧
      (f.type ≠ .checkbox ∧ f.type ≠ .switch → f.check v = f'.check v) ∧
      (f.type = .checkbox ∨ f.type = .switch →
        (f.check v = f'.check v ↔ (v = .bool false → f.required = f'.required)))) := by
  refine ⟨check_of_notGiven, fun hgiven f' _ hlabel hbody => ?_⟩
  have htype : f'.type = f.type := congrArg Body.type hbody
  have hgiven' : ¬NotGiven f'.type v := htype ▸ hgiven
  refine ⟨fun hv => ⟨check_of_mistyped hgiven hv, check_of_mistyped hgiven' (htype ▸ hv)⟩, ?_, ?_⟩
  · intro hother
    have hkind : f.kind ≠ .boolean := fun h => (kind_eq_boolean_iff.1 h).elim hother.1 hother.2
    rw [check_of_given hgiven, check_of_given hgiven', checkContent_eq_of_body hkind hlabel hbody]
  · intro htoggle
    have hkind : f.kind = .boolean := kind_eq_boolean_iff.2 htoggle
    have hkind' : f'.kind = .boolean := (kind_eq_of_body hbody).trans hkind
    by_cases hbool : ∃ b, v = .bool b
    · obtain ⟨b, rfl⟩ := hbool
      have hmessage : f'.describe.requiredMessage = f.describe.requiredMessage := by
        unfold describe requiredMessage
        simp only [hlabel, hbody]
      rw [check_bool hkind, check_bool hkind', hmessage]
      cases b <;> cases f.required <;> cases f'.required <;> simp
    · have hv : Mistyped f.type v := by
        rw [not_exists] at hbool
        rcases htoggle with h | h <;> rw [h] <;> exact hbool
      have hmessage : f'.describe.typeMessage = f.describe.typeMessage := by
        unfold describe
        simp only [kind_eq_of_body hbody, hlabel]
      rw [check_of_mistyped hgiven hv, check_of_mistyped hgiven' (htype ▸ hv), hmessage]
      exact iff_of_true rfl fun h => absurd ⟨false, h⟩ hbool

section

attribute [local instance] CharacterNames.ascii

/-- A blank age is missed where it is required, and a truth value is no age either way. -/
theorem required_matters_only_where_nothing_is_given_of_age :
    let v := Value.record [("formTitle", .text "Form"), ("formDescription", .text "D"), ("fields", .list [
      .record [("id", .text "age"), ("type", .text "number"), ("label", .text "Age"), ("required", .bool true)]])]
    let f : Field := ⟨"age", "Age", true, .number none none⟩
    let f' : Field := ⟨"age", "Age", false, .number none none⟩
    Document.read v = .ok ⟨"Form", "D", [f]⟩ ∧
      NotGiven f.type (.text " ") ∧ (∃ w, f.check (.text " ") = .ok ⟨w, ["Age is required"]⟩) ∧
      f'.check (.text " ") = .ok ⟨.text " ", []⟩ ∧
      ¬NotGiven f.type (.bool true) ∧ Mistyped f.type (.bool true) ∧
      f.check (.bool true) = .ok ⟨.bool true, ["Age must be a number"]⟩ ∧ f.check (.bool true) = f'.check (.bool true) := by
  intro v f f'
  have hblank : NotGiven .number (.text " ") := .inr ⟨" ", rfl, by simp [numberBlanks]⟩
  have hgiven : ¬NotGiven .number (.bool true) := by simp [NotGiven]
  have hnumber : ∀ q, Value.bool true ≠ .quantity q := fun q => by cases q <;> simp [Value.quantity]
  have hmistyped : Mistyped .number (.bool true) := ⟨hnumber, by simp⟩
  obtain ⟨hmessage, -⟩ := required_matters_only_where_nothing_is_given f (.text " ")
  obtain ⟨haccepted, -⟩ := required_matters_only_where_nothing_is_given f' (.text " ")
  obtain ⟨-, htwo⟩ := required_matters_only_where_nothing_is_given f (.bool true)
  obtain ⟨hreject, hsame, -⟩ := htwo hgiven f' rfl rfl rfl
  exact ⟨Document.read_eq_ok_iff.2 ⟨Gate.defects_eq_ok_nil_iff.1 (by decide +kernel), by decide +kernel⟩, hblank,
    (hmessage hblank).2 rfl, (haccepted hblank).1 rfl, hgiven, hmistyped, (hreject hmistyped).1,
    hsame ⟨by decide, by decide⟩⟩

end

end Field

end WebForm
