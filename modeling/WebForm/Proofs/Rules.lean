/-
The rules of a sound field: each looks at content of the field's kind, and what it is checked with can be
used. A choice between texts has one rule, and a toggle that need not be on has none.
-/
import Mathlib
import WebForm.Pattern.Dialect
import WebForm.Proofs.Document.Sound
import WebForm.Proofs.Number.Shortest
import WebForm.Rules

namespace WebForm

/-! ## Steps -/

/-- A step above zero is not printed as zero. -/
theorem Quantity.decimalFraction_ne_zero {q : Quantity} (h : 0 < q.value) : q.decimalFraction.1 ≠ 0 := by
  cases q with
  | whole n =>
    intro hn
    have hzero : n = 0 := hn
    rw [hzero] at h
    simp [value] at h
  | binary x =>
    have hm : x.mantissa ≠ 0 := by
      intro hm
      have hsigned : x.signed = 0 := by simp [FiniteDouble.signed, hm]
      simp [value, FiniteDouble.value, hsigned] at h
    have hpos := FiniteDouble.shortest_value_pos hm
    have hnum : x.shortest.fraction.1 ≠ 0 := by
      intro hnum
      rw [Decimal.value_eq_fraction, hnum] at hpos
      simp at hpos
    unfold decimalFraction
    dsimp only
    split <;> omega

/-! ## Sound rules -/

/-- The kind of content that a constraint looks at. -/
def Constraint.kind : Constraint → ValueKind
  | .minLength _ | .maxLength _ | .pattern _ | .oneOf _ => .text
  | .minimum _ | .maximum _ | .multipleOf _ => .number
  | .allOf _ => .texts
  | .isTrue => .boolean

/-- Whether a constraint can be checked: its pattern can be read, and its step is no zero divisor. -/
def Constraint.Usable [CharacterNames] : Constraint → Prop
  | .pattern source => ∃ e, Pattern.compile source = .ok e
  | .multipleOf step => step.decimalFraction.1 ≠ 0
  | _ => True

/-- A description of which every rule fits the kind of value and can be checked. -/
structure FieldRules.Sound [CharacterNames] (r : FieldRules) : Prop where
  kinds : ∀ rule ∈ r.rules, rule.constraint.kind = r.kind
  usable : ∀ rule ∈ r.rules, rule.constraint.Usable
  choice : r.kind = .text → r.folded = true → ∃ values message, r.rules = [⟨.oneOf values, message⟩]
  toggle : r.kind = .boolean → r.required = false → r.rules = []

theorem mem_limitRule {α : Type} {make : α → Rule} {o : Option α} {rule : Rule} :
    rule ∈ limitRule make o ↔ ∃ a, o = some a ∧ rule = make a := by
  cases o with
  | none => simp [limitRule]
  | some a => simp [limitRule]

theorem lengthRules_sound [CharacterNames] (label : String) (l : LengthLimits) :
    ∀ rule ∈ lengthRules label l, rule.constraint.kind = .text ∧ rule.constraint.Usable := by
  intro rule hrule
  rcases List.mem_append.1 hrule with h | h
  · obtain ⟨n, -, rfl⟩ := mem_limitRule.1 h
    exact ⟨rfl, trivial⟩
  · obtain ⟨n, -, rfl⟩ := mem_limitRule.1 h
    exact ⟨rfl, trivial⟩

theorem numberRules_sound [CharacterNames] {l : NumberLimits} (hl : l.Sound) :
    ∀ rule ∈ numberRules l, rule.constraint.kind = .number ∧ rule.constraint.Usable := by
  intro rule hrule
  rcases List.mem_append.1 hrule with h | h
  · rcases List.mem_append.1 h with h | h
    · obtain ⟨q, -, rfl⟩ := mem_limitRule.1 h
      exact ⟨rfl, trivial⟩
    · obtain ⟨q, -, rfl⟩ := mem_limitRule.1 h
      exact ⟨rfl, trivial⟩
  · obtain ⟨q, hq, rfl⟩ := mem_limitRule.1 h
    exact ⟨rfl, Quantity.decimalFraction_ne_zero (hl.step q hq).2⟩

theorem exists_compile [CharacterNames] {source : String} (h : (Pattern.compile source).isOk = true) :
    ∃ e, Pattern.compile source = .ok e := by
  cases hc : Pattern.compile source with
  | ok e => exact ⟨e, rfl⟩
  | error e => rw [hc] at h; cases h

theorem compile_emailPattern [CharacterNames] : ∃ e, Pattern.compile emailPattern = .ok e := exists_compile (by cbv)

theorem compile_telPattern [CharacterNames] : ∃ e, Pattern.compile telPattern = .ok e := exists_compile (by cbv)

theorem compile_custom? [CharacterNames] {limits : Option FormatLimits} (hl : ∀ l, limits = some l → l.Sound)
    {p : String} (hp : limits.bind (·.custom?) = some p) : ∃ e, Pattern.compile p = .ok e := by
  obtain ⟨l, hlim, hcustom⟩ := Option.bind_eq_some_iff.1 hp
  exact (hl l hlim).pattern p (Option.filter_eq_some_iff.1 hcustom).1

theorem formatRules_sound [CharacterNames] (type : FormattedType) {limits : Option FormatLimits}
    (hl : ∀ l, limits = some l → l.Sound) :
    ∀ rule ∈ formatRules type limits, rule.constraint.kind = .text ∧ rule.constraint.Usable := by
  intro rule hrule
  unfold formatRules at hrule
  cases hp : limits.bind (·.custom?) with
  | none =>
    cases type with
    | email =>
      simp only [hp, List.mem_singleton] at hrule
      exact hrule ▸ ⟨rfl, compile_emailPattern⟩
    | tel =>
      simp only [hp, List.mem_singleton] at hrule
      exact hrule ▸ ⟨rfl, compile_telPattern⟩
    | password =>
      simp only [hp, List.mem_singleton] at hrule
      exact hrule ▸ ⟨rfl, trivial⟩
  | some p =>
    have hcompile := compile_custom? hl hp
    cases type with
    | email =>
      simp only [hp, List.mem_cons, List.not_mem_nil, or_false] at hrule
      rcases hrule with rfl | rfl
      · exact ⟨rfl, compile_emailPattern⟩
      · exact ⟨rfl, hcompile⟩
    | tel | password =>
      simp only [hp, List.mem_singleton] at hrule
      exact hrule ▸ ⟨rfl, hcompile⟩

/-- What text of a certain form has to satisfy, given the author's pattern if there is one. -/
def FormattedType.constraints : FormattedType → Option String → List Constraint
  | .email, none => [.pattern emailPattern]
  | .email, some p => [.pattern emailPattern, .pattern p]
  | .tel, none => [.pattern telPattern]
  | .password, none => [.minLength passwordLength]
  | .tel, some p | .password, some p => [.pattern p]

theorem constraints_formatRules (type : FormattedType) (limits : Option FormatLimits) :
    (formatRules type limits).map (·.constraint) = type.constraints (limits.bind (·.custom?)) := by
  unfold formatRules
  cases type <;> cases limits.bind (·.custom?) <;> rfl

namespace Field

/-- The rules of what a field holds fit its kind and can be checked. -/
theorem rules_sound [CharacterNames] {f : Field} (h : f.body.Sound) :
    ∀ rule ∈ f.rules, rule.constraint.kind = f.kind ∧ rule.constraint.Usable := by
  intro rule hrule
  unfold rules at hrule
  unfold kind
  cases hb : f.body with
  | written t p l =>
    rw [hb] at hrule
    cases l with
    | none => simp at hrule
    | some l => exact lengthRules_sound f.label l rule hrule
  | formatted t p l =>
    rw [hb] at hrule h
    exact formatRules_sound t h rule hrule
  | number p l =>
    rw [hb] at hrule h
    cases l with
    | none => simp at hrule
    | some l => exact numberRules_sound (h l rfl) rule hrule
  | range l =>
    rw [hb] at hrule h
    exact numberRules_sound h rule hrule
  | select p cs | radio cs | checkboxGroup cs =>
    rw [hb] at hrule
    obtain rfl := List.mem_singleton.1 hrule
    exact ⟨rfl, trivial⟩
  | toggle t =>
    rw [hb] at hrule
    dsimp only at hrule
    split at hrule
    · obtain rfl := List.mem_singleton.1 hrule
      exact ⟨rfl, trivial⟩
    · simp at hrule

theorem Sound.describe [CharacterNames] {f : Field} (h : f.Sound) : f.describe.Sound where
  kinds rule hrule := (rules_sound h.body rule hrule).1
  usable rule hrule := (rules_sound h.body rule hrule).2
  choice := by
    intro hkind hfolded
    unfold Field.describe Field.kind at hkind
    unfold FieldRules.folded Field.describe Field.type at hfolded
    unfold Field.describe rules
    cases hb : f.body with
    | select p cs | radio cs => exact ⟨_, _, rfl⟩
    -- other text fields are not folded, and other bodies hold no text
    | written t p l =>
      rw [hb] at hfolded
      cases t <;> simp [Body.type, FieldType.family] at hfolded
    | formatted t p l =>
      rw [hb] at hfolded
      cases t <;> simp [Body.type, FieldType.family] at hfolded
    | _ => simp [hb] at hkind
  toggle := by
    intro hkind hreq
    unfold Field.describe Field.kind at hkind
    unfold Field.describe at hreq
    unfold Field.describe rules
    cases hb : f.body with
    | toggle t => simp only at hreq ⊢; rw [hreq]; rfl
    | _ => simp [hb] at hkind

/-- The fields that hold a number are those of the two numeric types. -/
theorem kind_eq_number_iff (f : Field) : f.kind = .number ↔ f.type = .number ∨ f.type = .range := by
  unfold kind Field.type
  cases hb : f.body with
  | written t p l => cases t <;> simp [Body.type]
  | formatted t p l => cases t <;> simp [Body.type]
  | toggle t => cases t <;> simp [Body.type]
  | _ => simp [Body.type]

end Field

end WebForm
