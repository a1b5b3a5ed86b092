/-
What a numeric field finds wrong with a number. Each of the author's limits that the number breaks has its message, the
lower bound before the upper one and the step last, and nothing else is found. Bounds are compared by exact value,
steps by the decimals that are printed. The bounds of a slider are always those of the author.
-/
import WebForm.Proofs.Document.Canonical
import WebForm.Proofs.Submission.Messages
import WebForm.Proofs.Submission.NumberText

namespace WebForm

/-! ## Multiples -/

/-- The number that a decimal numeral denotes. -/
def DecimalNumeral.value (d : DecimalNumeral) : ℚ := if d.negative then -d.magnitude else d.magnitude

/-- A text that is a decimal numeral of a number. -/
def DecimalText (s : String) (r : ℚ) : Prop := ∃ N, DecimalNumeral.ofText? s.toList = some N ∧ N.value = r

namespace Quantity

/-- The text of a number denotes its decimal. -/
theorem decimalText_text (q : Quantity) : DecimalText q.text q.decimal := by
  cases q with
  | whole n =>
    refine ⟨_, ofText?_toString n, ?_⟩
    rw [decimal_whole, DecimalNumeral.value, DecimalNumeral.magnitude]
    simp only [List.append_nil, ofDigits_toDigits, List.length_nil, Nat.cast_zero, sub_zero, zpow_zero, mul_one,
      decide_eq_true_eq]
    rw [Nat.cast_natAbs, Int.cast_abs]
    split
    · rename_i hn
      rw [abs_of_neg (by exact_mod_cast hn), neg_neg]
    · rename_i hn
      rw [abs_of_nonneg (by exact_mod_cast not_lt.1 hn)]
  | binary x =>
    obtain ⟨N, hN⟩ := x.denotes_text
    refine ⟨N, hN.read, ?_⟩
    rw [decimal_binary, DecimalNumeral.value, hN.negative, hN.magnitude]

/-- Being a multiple is to have an integer quotient of the decimals. -/
theorem isMultipleOf_iff {a step : Quantity} : a.isMultipleOf step = true ↔ ∃ k : ℤ, a.decimal = k * step.decimal := by
  have ha : (a.decimalFraction.2 : ℚ) ≠ 0 := by exact_mod_cast a.decimalFraction_den_pos.ne'
  have hstep : (step.decimalFraction.2 : ℚ) ≠ 0 := by exact_mod_cast step.decimalFraction_den_pos.ne'
  have hcross : ∀ k : ℤ, a.decimal = k * step.decimal ↔
      a.decimalFraction.1 * step.decimalFraction.2 = a.decimalFraction.2 * step.decimalFraction.1 * k := by
    intro k
    unfold decimal
    rw [← mul_div_assoc, div_eq_div_iff ha hstep]
    constructor
    · intro h
      have : a.decimalFraction.1 * (step.decimalFraction.2 : Int) = k * step.decimalFraction.1 * a.decimalFraction.2 := by
        exact_mod_cast h
      rw [this]
      ring
    · intro h
      have : (a.decimalFraction.1 * step.decimalFraction.2 : ℚ) = a.decimalFraction.2 * step.decimalFraction.1 * k := by
        exact_mod_cast h
      rw [this]
      ring
  simp only [hcross]
  show decide (_ = _) = true ↔ _
  rw [decide_eq_true_eq, ← Int.dvd_iff_emod_eq_zero]
  exact Iff.rfl

/-- A text denotes one number at most. -/
theorem decimalText_text_iff {q : Quantity} {r : ℚ} : DecimalText q.text r ↔ r = q.decimal := by
  obtain ⟨N, hN, hvalue⟩ := q.decimalText_text
  constructor
  · rintro ⟨M, hM, rfl⟩
    rw [hM] at hN
    cases hN
    exact hvalue
  · rintro rfl
    exact ⟨N, hN, hvalue⟩

end Quantity

/-! ## Limits one after another -/

/-- The messages about one limit: its message if it is given and broken, else none. -/
def Reports (text : String) (limit : Option Quantity) (broken : Quantity → Prop) (messages : List String) : Prop :=
  (∃ q, limit = some q ∧ broken q ∧ messages = [text ++ q.text]) ∨ (∀ q, limit = some q → ¬broken q) ∧ messages = []

theorem Reports.eq_singleton {text : String} {limit : Option Quantity} {broken : Quantity → Prop} {messages : List String}
    (h : Reports text limit broken messages) {q : Quantity} (hq : limit = some q) (hbroken : broken q) :
    messages = [text ++ q.text] := by
  rcases h with ⟨p, hp, -, rfl⟩ | ⟨hnot, -⟩
  · rw [hq] at hp
    cases hp
    rfl
  · exact absurd hbroken (hnot q hq)

theorem Reports.eq_nil {text : String} {broken : Quantity → Prop} {messages : List String}
    (h : Reports text none broken messages) : messages = [] := by
  rcases h with ⟨p, hp, -⟩ | ⟨-, rfl⟩
  · cases hp
  · rfl

/-- The rule that an optional limit gives is broken where the limit is. -/
theorem reports_broken_limitRule [CharacterNames] (limit : Option Quantity) {text : String} {broken : Quantity → Prop}
    {constraint : Quantity → Constraint} {content : Content}
    (hholds : ∀ q, (constraint q).holds content = .ok false ↔ broken q) :
    Reports text limit broken
      ((Rule.broken content (limitRule (fun q => ⟨constraint q, text ++ q.text⟩) limit)).map (·.message)) := by
  cases limit with
  | none => exact .inr ⟨by simp, rfl⟩
  | some q =>
    by_cases hq : broken q
    · exact .inl ⟨q, rfl, hq, by simp [limitRule, Rule.broken, (hholds q).2 hq]⟩
    · exact .inr ⟨by simpa using hq, by simp [limitRule, Rule.broken, hholds, hq]⟩

/-- The messages of numeric limits without a message of the author. -/
theorem messages_numberRules [CharacterNames] {l : NumberLimits} (hmessage : ∀ s, l.message = some s → s = "")
    (x : Quantity) :
    ∃ low high off, Rule.messages (.number x) (numberRules l) [] = .ok (low ++ high ++ off) ∧
      Reports "Minimum value is " l.min (fun q => x.value < q.value) low ∧
      Reports "Maximum value is " l.max (fun q => q.value < x.value) high ∧
      Reports "Value must be a multiple of " l.step (fun q => ¬∃ k : ℤ, x.decimal = k * q.decimal) off := by
  have hholds : ∀ rule ∈ numberRules l, ∃ b, rule.constraint.holds (.number x) = .ok b := by
    intro rule hrule
    simp only [numberRules, List.mem_append, mem_limitRule] at hrule
    rcases hrule with (⟨q, -, rfl⟩ | ⟨q, -, rfl⟩) | ⟨q, -, rfl⟩ <;> exact ⟨_, rfl⟩
  have hlower : ∀ q, (Constraint.minimum q).holds (.number x) = .ok false ↔ x.value < q.value := by
    intro q
    rw [Constraint.holds, Except.ok.injEq, ← Bool.not_eq_true, Quantity.le_iff, not_le]
  have hupper : ∀ q, (Constraint.maximum q).holds (.number x) = .ok false ↔ q.value < x.value := by
    intro q
    rw [Constraint.holds, Except.ok.injEq, ← Bool.not_eq_true, Quantity.le_iff, not_le]
  have hstep : ∀ q, (Constraint.multipleOf q).holds (.number x) = .ok false ↔ ¬∃ k : ℤ, x.decimal = k * q.decimal := by
    intro q
    rw [Constraint.holds, Except.ok.injEq, ← Bool.not_eq_true, Quantity.isMultipleOf_iff]
  refine ⟨_, _, _, ?_, reports_broken_limitRule l.min hlower, reports_broken_limitRule l.max hupper,
    reports_broken_limitRule l.step hstep⟩
  rw [Rule.messages_of_nodup hholds (nodup_messages_numberRules hmessage)]
  simp only [numberRules, messageOr_of_empty hmessage, Rule.broken, List.filter_append, List.map_append]

/-! ## The author's limits -/

/-- A number that the author wrote among the limits of a field. -/
def authorLimit (field : Value) (key : String) : Option Quantity := ((field.get "validation").get key).quantity?

/-- Limits that are the author's, with no message where the author wrote none. -/
structure NumberLimits.OfAuthor (field : Value) (l : NumberLimits) : Prop where
  min : l.min = authorLimit field "min"
  max : l.max = authorLimit field "max"
  step : l.step = authorLimit field "step"
  message : ∀ s, l.message = some s → (field.get "validation").get "message" = .text s

namespace Gate

theorem eq_quantity?_of_optional? {v : Value} {o : Option Quantity} (h : optional? Value.quantity? v = some o) :
    o = v.quantity? := by
  rcases optional?_eq_some_iff.1 h with ⟨rfl, rfl⟩ | ⟨-, q, hq, rfl⟩
  · rfl
  · exact hq.symm

theorem ofAuthor_of_numberLimits? {field : Value} {l : NumberLimits}
    (h : numberLimits? (field.get "validation") = some l) :
    l.OfAuthor field := by
  unfold numberLimits? at h
  split at h
  · simp only [Option.bind_eq_bind, Option.bind_eq_some_iff, Option.pure_def, Option.some.injEq] at h
    obtain ⟨lo, hlo, hi, hhi, step, hstep, message, hmessage, rfl⟩ := h
    refine ⟨eq_quantity?_of_optional? hlo, eq_quantity?_of_optional? hhi, eq_quantity?_of_optional? hstep, ?_⟩
    rintro s rfl
    rcases optional?_eq_some_iff.1 hmessage with ⟨-, hnone⟩ | ⟨-, t, ht, hsome⟩
    · cases hnone
    · cases hsome
      exact text?_eq_some_iff.1 ht
  · cases h

/-- The rules of a numeric field are those of the limits that the author wrote, and a slider has both bounds. -/
theorem rules_of_field? {w : Value} {f : Field} (hf : field? w = some f) (htype : f.type = .number ∨ f.type = .range) :
    ∃ l : NumberLimits, f.rules = numberRules l ∧ l.OfAuthor w ∧
      (f.type = .range → l.min.isSome = true ∧ l.max.isSome = true) := by
  obtain ⟨type, -, -, -, -, hbody⟩ := field?_eq_some_iff.1 hf
  have hsame : f.type = type := (entries_of_body? hbody).1
  unfold Field.rules
  rcases htype with ht | ht
  · rw [← hsame, ht] at hbody
    simp only [body?, Option.bind_eq_bind, Option.bind_eq_some_iff, Option.pure_def, Option.some.injEq] at hbody
    obtain ⟨p, -, limits, hlimits, hbody⟩ := hbody
    have hrange : f.type = .range → False := fun h => by rw [ht] at h; cases h
    rw [← hbody]
    rcases optional?_eq_some_iff.1 hlimits with ⟨hnull, rfl⟩ | ⟨-, l, hl, rfl⟩
    · -- where no limits are written there are none of the single ones either
      have hnone : ∀ key, authorLimit w key = none := fun key => by rw [authorLimit, hnull]; rfl
      exact ⟨⟨none, none, none, none⟩, rfl, ⟨(hnone _).symm, (hnone _).symm, (hnone _).symm, by simp⟩,
        fun h => (hrange h).elim⟩
    · exact ⟨l, rfl, ofAuthor_of_numberLimits? hl, fun h => (hrange h).elim⟩
  · rw [← hsame, ht] at hbody
    simp only [body?, Option.bind_eq_bind, Option.bind_eq_some_iff, Option.pure_def, Option.some.injEq] at hbody
    obtain ⟨l, hl, hbody⟩ := hbody
    obtain ⟨hmin, hmax⟩ := bounds_given_of_rangeLimits? hl
    rw [← hbody]
    refine ⟨l.toNumberLimits, rfl, ofAuthor_of_numberLimits? ?_, fun _ => ⟨rfl, rfl⟩⟩
    rw [← rangeLimits?_toNumberLimits hmin hmax, hl, Option.map_some]

end Gate

/-! ## Verdicts -/

/-- The values that are read as a number: the number itself, if it is finite, or its text. -/
def ReadsNumber (v : Value) (q : Quantity) : Prop :=
  (v = .quantity q ∧ q.IsFinite) ∨ ∃ s, v = .text s ∧ Quantity.ofText? s = some q

theorem ReadsNumber.number? {v : Value} {q : Quantity} (h : ReadsNumber v q) : number? v = .ok (some q) := by
  rcases h with ⟨rfl, hfinite⟩ | ⟨s, rfl, hs⟩
  · cases q with
    | whole n => exact number?_int (by rw [roundsToFinite_iff]; exact hfinite)
    | binary x => rfl
  · exact congrArg Except.ok hs

/-- A value that is read as a number is not empty. -/
theorem ReadsNumber.isEmpty {v : Value} {q : Quantity} (h : ReadsNumber v q) : isEmpty .number v = false := by
  rcases h with ⟨rfl, -⟩ | ⟨s, rfl, hs⟩
  · cases q <;> rfl
  · refine decide_eq_false fun hblank => ?_
    unfold Quantity.ofText? at hs
    rw [hblank] at hs
    cases hs

namespace Document

/-- The author's value for a field of a document is told by the id. -/
theorem field?_of_id [CharacterNames] {v : Value} {d : Document} (hd : read v = .ok d) {raws : List Value}
    (hraws : v.get "fields" = .list raws) {w : Value} (hw : w ∈ raws) {f : Field} (hf : f ∈ d.fields)
    (hid : w.get "id" = .text f.id) :
    Gate.field? w = some f := by
  obtain ⟨-, -, raws', hraws', hfields⟩ := Gate.document?_eq_some_iff.1 (read_eq_ok_iff.1 hd).2
  obtain rfl : raws' = raws := by rw [hraws] at hraws'; cases hraws'; rfl
  obtain ⟨i, hi, rfl⟩ := List.getElem_of_mem hw
  obtain ⟨hlen, hread⟩ := List.forall₂_iff_get.1 hfields
  have hg := hread i hi (hlen ▸ hi)
  obtain ⟨-, -, hgid, -⟩ := Gate.field?_eq_some_iff.1 hg
  have hsame : (d.fields.get ⟨i, hlen ▸ hi⟩).id = f.id := by simpa using hgid.symm.trans hid
  rw [← List.inj_on_of_nodup_map (read_sound hd).ids (List.get_mem _ _) hf hsame]
  exact hg

/-- The messages about a number that is submitted to a numeric field without a message of its own: one for each of the
author's limits that the number breaks. The bounds are compared by value; the number misses the step, which is not
printed as zero, if the decimal texts of the two have no integer quotient. A slider has both bounds. -/
theorem numeric_verdicts_are_exact [CharacterNames] {v : Value} {d : Document} (hd : read v = .ok d) {raws : List Value}
    (hraws : v.get "fields" = .list raws) {w : Value} (hw : w ∈ raws) {f : Field} (hf : f ∈ d.fields)
    (hid : w.get "id" = .text f.id) (htype : f.type = .number ∨ f.type = .range)
    (hmessage : ∀ s, (w.get "validation").get "message" = .text s → s = "") {u : Value} {x : Quantity}
    (hx : ReadsNumber u x) : ∃ low high off,
      f.check u = .ok ⟨.quantity x, low ++ high ++ off⟩ ∧
      Reports "Minimum value is " (authorLimit w "min") (fun lo => x.value < lo.value) low ∧
      Reports "Maximum value is " (authorLimit w "max") (fun hi => hi.value < x.value) high ∧
      Reports "Value must be a multiple of " (authorLimit w "step")
        (fun step => ∃ a b, DecimalText x.text a ∧ DecimalText step.text b ∧ ¬∃ k : ℤ, a = k * b) off ∧
      (∀ step, authorLimit w "step" = some step → ¬DecimalText step.text 0) ∧
      (f.type = .range → (authorLimit w "min").isSome = true ∧ (authorLimit w "max").isSome = true) := by
  obtain ⟨l, hrules, hauthor, hrange⟩ := Gate.rules_of_field? (field?_of_id hd hraws hw hf hid) htype
  obtain ⟨low, high, off, hmessages, hlow, hhigh, hoff⟩ :=
    messages_numberRules (fun s hs => hmessage s (hauthor.message s hs)) x
  have hcheck := Field.check_of_number (f.kind_eq_number_iff.2 htype) hx.isEmpty hx.number? (hrules ▸ hmessages)
  have hstep : ∀ step, l.step = some step → ¬DecimalText step.text 0 := by
    intro step hstep hzero
    have hmem : ⟨.multipleOf step, messageOr l.message ("Value must be a multiple of " ++ step.text)⟩ ∈ f.rules :=
      hrules ▸ List.mem_append_right _ (mem_limitRule.2 ⟨step, hstep, rfl⟩)
    have hnum : step.decimalFraction.1 ≠ 0 := ((read_sound hd).fields f hf).describe.usable _ hmem
    have hdecimal := Quantity.decimalText_text_iff.1 hzero
    have hden := step.decimalFraction_den_pos.ne'
    exact div_ne_zero (by exact_mod_cast hnum) (by exact_mod_cast hden) hdecimal.symm
  rw [hauthor.min] at hlow hrange
  rw [hauthor.max] at hhigh hrange
  rw [hauthor.step] at hoff hstep
  simp only [Quantity.decimalText_text_iff, exists_and_left, exists_eq_left] at hstep ⊢
  exact ⟨low, high, off, hcheck, hlow, hhigh, hoff, hstep, hrange⟩

section

attribute [local instance] CharacterNames.ascii

/-- Ten, written with an exponent, is above nine and no multiple of four. -/
theorem numeric_verdicts_are_exact_of_ten :
    let w : Value := .record [("id", .text "age"), ("type", .text "number"), ("label", .text "Age"),
      ("validation", .record [("max", .int 9), ("step", .int 4), ("message", .text "")])]
    let v := Value.record [("formTitle", .text "Form"), ("formDescription", .text "D"), ("fields", .list [w])]
    let f : Field := ⟨"age", "Age", false, .number none (some ⟨none, some (.whole 9), some (.whole 4), some ""⟩)⟩
    Document.read v = .ok ⟨"Form", "D", [f]⟩ ∧ v.get "fields" = .list [w] ∧
      (∀ s, (w.get "validation").get "message" = .text s → s = "") ∧ ReadsNumber (.text " 1e1") (.whole 10) ∧
      f.check (.text " 1e1") = .ok ⟨.int 10, ["Maximum value is 9", "Value must be a multiple of 4"]⟩ := by
  intro w v f
  have hd : Document.read v = .ok ⟨"Form", "D", [f]⟩ :=
    read_eq_ok_iff.2 ⟨Gate.defects_eq_ok_nil_iff.1 (by decide +kernel), by decide +kernel⟩
  have hmessage : ∀ s, (w.get "validation").get "message" = .text s → s = "" := by
    intro s hs
    have hempty : (w.get "validation").get "message" = .text "" := rfl
    rw [hempty] at hs
    cases hs
    rfl
  have hx : ReadsNumber (.text " 1e1") (.whole 10) := .inr ⟨_, rfl, by decide +kernel⟩
  obtain ⟨low, high, off, hcheck, hlow, hhigh, hoff, -⟩ :=
    numeric_verdicts_are_exact hd rfl List.mem_cons_self List.mem_cons_self rfl (.inl rfl) hmessage hx
  have hstep : ¬∃ k : ℤ, (10 : ℚ) = k * 4 := by
    rintro ⟨k, hk⟩
    have : (10 : ℤ) = k * 4 := by exact_mod_cast hk
    omega
  obtain rfl := hlow.eq_nil
  obtain rfl := hhigh.eq_singleton rfl (by norm_num [Quantity.value])
  obtain rfl := hoff.eq_singleton rfl
    ⟨_, _, Quantity.decimalText_text _, Quantity.decimalText_text _, by simpa [Quantity.decimal_whole] using hstep⟩
  exact ⟨hd, rfl, hmessage, hx, hcheck⟩

end

end Document

end WebForm
