/-
A numeric field sees the same number in a text and in the double that the text stands for. The two go different
ways: a literal in another base becomes the integer that it denotes, a decimal becomes the nearest double, as an
integer where it is one, and the double itself is printed before it is compared with a step. Below `2 ^ 53` all
of these are the same number. From there on a literal in another base need not be a double, and the decimal that
is printed for a double need not be exact.
-/
import WebForm.Proofs.Number.Literal
import WebForm.Proofs.Number.Whole
import WebForm.Proofs.Submission.FieldWise
import WebForm.Proofs.Submission.Total

namespace WebForm

/-! ## The number that a text is read as -/

theorem FiniteDouble.toQuantity_value (x : FiniteDouble) : x.toQuantity.value = x.value := by
  unfold toQuantity
  split
  · rename_i n hn
    exact ((x.toInt?_eq_some_iff n).1 hn).symm
  · rfl

/-- What a literal is read as equals its double, if that is small or the literal denotes it exactly. -/
theorem NumberLiteral.quantity_value {l : NumberLiteral} {x : FiniteDouble} (hx : l.toDouble = .finite x)
    (h : |x.value| < 2 ^ 53 ∨ ∀ r, l = .radix r → (r.value : ℚ) = x.value) : (l.quantity x).value = x.value := by
  cases l with
  | radix r =>
    have hvalue : (r.value : ℚ) = x.value := by
      rcases h with hsmall | hexact
      · rw [FiniteDouble.value_of_negative (Double.negative_of_ofInt hx)]
        rw [FiniteDouble.abs_value] at hsmall
        exact (Double.magnitude_of_ofInt hx hsmall).symm
      · exact hexact r rfl
    rw [← hvalue]
    simp [quantity, Quantity.value]
  | decimal r => exact x.toQuantity_value

/-- A number that is read is the double itself, or an integer. -/
theorem NumberLiteral.quantity_cases (l : NumberLiteral) (x : FiniteDouble) :
    l.quantity x = .binary x ∨ ∃ n, l.quantity x = .whole n := by
  cases l with
  | radix r => exact .inr ⟨_, rfl⟩
  | decimal r =>
    show x.toQuantity = .binary x ∨ ∃ n, x.toQuantity = .whole n
    unfold FiniteDouble.toQuantity
    split
    · exact .inr ⟨_, rfl⟩
    · exact .inl rfl

/-! ## The number that a step sees -/

namespace Quantity

/-- The value that the decimal text of a number denotes. -/
def decimal (q : Quantity) : ℚ := q.decimalFraction.1 / q.decimalFraction.2

theorem decimalFraction_den_pos (q : Quantity) : 0 < q.decimalFraction.2 := by
  cases q with
  | whole n => exact Nat.one_pos
  | binary x => exact x.shortest.fraction_den_pos

theorem decimal_whole (n : Int) : (whole n).decimal = n := by simp [decimal, decimalFraction]

theorem decimal_binary (x : FiniteDouble) :
    (binary x).decimal = if x.negative then -x.shortest.value else x.shortest.value := by
  rw [Decimal.value_eq_fraction]
  show (((if x.negative then -(x.shortest.fraction.1 : Int) else x.shortest.fraction.1 : Int) : ℚ) / x.shortest.fraction.2) = _
  split
  · simp [neg_div]
  · simp

theorem emod_congr {n n' d d' : Int} (hd : d ≠ 0) (hd' : d' ≠ 0) (h : n * d' = n' * d) (p q : Int) :
    n * q % (d * p) = 0 ↔ n' * q % (d' * p) = 0 := by
  have hleft : d' * (d * p) = d * (d' * p) := by ring
  have hright : d' * (n * q) = d * (n' * q) := by rw [← mul_assoc, ← mul_assoc, mul_comm d' n, h, mul_comm n' d]
  rw [← Int.dvd_iff_emod_eq_zero, ← Int.dvd_iff_emod_eq_zero, ← mul_dvd_mul_iff_left hd', hleft, hright,
    mul_dvd_mul_iff_left hd]

/-- Multiples are told by the decimals alone. -/
theorem isMultipleOf_congr {a b : Quantity} (h : a.decimal = b.decimal) (step : Quantity) :
    a.isMultipleOf step = b.isMultipleOf step := by
  have ha : (a.decimalFraction.2 : Int) ≠ 0 := by have := a.decimalFraction_den_pos; omega
  have hb : (b.decimalFraction.2 : Int) ≠ 0 := by have := b.decimalFraction_den_pos; omega
  have hcross : a.decimalFraction.1 * b.decimalFraction.2 = b.decimalFraction.1 * a.decimalFraction.2 := by
    unfold decimal at h
    rw [div_eq_div_iff (by exact_mod_cast ha) (by exact_mod_cast hb)] at h
    exact_mod_cast h
  exact decide_eq_decide.2 (emod_congr ha hb hcross _ _)

end Quantity

/-- The decimal of a double is exact where it is an integer below `2 ^ 53`. -/
theorem FiniteDouble.shortest_value_of_whole {x : FiniteDouble} {n : Int} (hn : x.value = n) (hx : |x.value| < 2 ^ 53) :
    x.shortest.value = |x.value| := by
  have hmagnitude : x.magnitude = (n.natAbs : ℚ) := by
    rw [← x.abs_value, hn, Nat.cast_natAbs, Int.cast_abs]
  have hlt : n.natAbs < 2 ^ 53 := by
    rw [x.abs_value, hmagnitude] at hx
    exact_mod_cast hx
  rw [x.abs_value, shortest_value_of_natural hmagnitude hlt, hmagnitude]

theorem NumberLiteral.quantity_decimal {l : NumberLiteral} {x : FiniteDouble} (hvalue : (l.quantity x).value = x.value)
    (h : |x.value| < 2 ^ 53 ∨ x.shortest.value = |x.value|) : (l.quantity x).decimal = (Quantity.binary x).decimal := by
  rcases l.quantity_cases x with hq | ⟨n, hq⟩
  · rw [hq]
  · rw [hq] at hvalue ⊢
    have hn : x.value = n := hvalue.symm
    have hexact : x.shortest.value = |x.value| := h.elim (FiniteDouble.shortest_value_of_whole hn) id
    rw [Quantity.decimal_whole, Quantity.decimal_binary, hexact, ← hn, x.abs_value]
    unfold FiniteDouble.value FiniteDouble.magnitude FiniteDouble.signed
    split
    · push_cast
      ring
    · rfl

/-! ## Constraints -/

theorem Quantity.le_congr {a b c d : Quantity} (hac : a.value = c.value) (hbd : b.value = d.value) : a.le b = c.le d := by
  rw [Bool.eq_iff_iff, le_iff, le_iff, hac, hbd]

/-- A constraint holds of both numbers or of neither if they have the same value, and the same decimal where the
constraint is a step. -/
theorem Constraint.holds_congr [CharacterNames] {a b : Quantity} (hvalue : a.value = b.value) {c : Constraint}
    (hstep : ∀ step, c = .multipleOf step → a.decimal = b.decimal) : c.holds (.number a) = c.holds (.number b) := by
  cases c with
  | minimum q => exact congrArg Except.ok (Quantity.le_congr rfl hvalue)
  | maximum q => exact congrArg Except.ok (Quantity.le_congr hvalue rfl)
  | multipleOf step => exact congrArg Except.ok (Quantity.isMultipleOf_congr (hstep step rfl) step)
  | _ => rfl

theorem Rule.messages_congr [CharacterNames] {a b : Content} {rules : List Rule}
    (h : ∀ rule ∈ rules, rule.constraint.holds a = rule.constraint.holds b) (found : List String) :
    Rule.messages a rules found = Rule.messages b rules found := by
  induction rules generalizing found with
  | nil => rfl
  | cons rule rest ih =>
    obtain ⟨hrule, hrest⟩ := List.forall_mem_cons.1 h
    unfold Rule.messages
    rw [hrule]
    refine congrArg _ (funext fun b => ?_)
    rw [ih hrest, ih hrest]

/-- The step of a numeric field. -/
def Field.step? (f : Field) : Option Quantity := f.body.numberLimits.bind (·.step)

theorem step_of_mem_numberRules {l : NumberLimits} {rule : Rule} (h : rule ∈ numberRules l) {step : Quantity}
    (hstep : rule.constraint = .multipleOf step) : l.step = some step := by
  rcases List.mem_append.1 h with h | h
  · rcases List.mem_append.1 h with h | h
    · obtain ⟨q, -, rfl⟩ := mem_limitRule.1 h
      cases hstep
    · obtain ⟨q, -, rfl⟩ := mem_limitRule.1 h
      cases hstep
  · obtain ⟨q, hq, rfl⟩ := mem_limitRule.1 h
    cases hstep
    exact hq

theorem Field.step_of_mem_rules {f : Field} (hf : f.kind = .number) {rule : Rule} (h : rule ∈ f.rules) {step : Quantity}
    (hstep : rule.constraint = .multipleOf step) : f.step? = some step := by
  unfold rules at h
  unfold kind at hf
  unfold step?
  cases hb : f.body with
  | number p l =>
    rw [hb] at h
    cases l with
    | none => simp at h
    | some l => exact step_of_mem_numberRules h hstep
  | range l =>
    rw [hb] at h
    exact step_of_mem_numberRules h hstep
  | _ => simp [hb] at hf

/-! ## Checks -/

/-- A field cannot tell a literal from the double that it stands for: the double is small, or the literal denotes
it exactly and its own decimal does too, which only a step asks for. -/
def Field.SeesAlike (f : Field) (l : NumberLiteral) (x : FiniteDouble) : Prop :=
  |x.value| < 2 ^ 53 ∨
    (∀ r, l = .radix r → (r.value : ℚ) = x.value) ∧ (f.step? = none ∨ x.shortest.value = |x.value|)

/-- What the rules of a numeric field find in a literal is what they find in its double. -/
theorem Field.messages_numberText [CharacterNames] {f : Field} (hf : f.kind = .number) {l : NumberLiteral}
    {x : FiniteDouble} (hx : l.toDouble = .finite x) (hsafe : f.SeesAlike l x) :
    Rule.messages (.number (l.quantity x)) f.rules [] = Rule.messages (.number (.binary x)) f.rules [] := by
  have hvalue : (l.quantity x).value = (Quantity.binary x).value := l.quantity_value hx (hsafe.imp_right And.left)
  refine Rule.messages_congr (fun rule hrule => Constraint.holds_congr hvalue fun step hstep => ?_) []
  have hgiven := f.step_of_mem_rules hf hrule hstep
  refine l.quantity_decimal hvalue (hsafe.imp_right fun h => h.2.resolve_left fun hnone => ?_)
  rw [hnone] at hgiven
  cases hgiven

/-- A numeric field runs its rules on the number that a value is read as. -/
theorem Field.check_of_number [CharacterNames] {f : Field} (hf : f.kind = .number) {v : Value} {q : Quantity}
    {messages : List String} (hempty : isEmpty .number v = false) (hq : number? v = .ok (some q))
    (hmessages : Rule.messages (.number q) f.rules [] = .ok messages) : f.check v = .ok ⟨.quantity q, messages⟩ := by
  have hkind : f.describe.kind = .number := hf
  rw [check, FieldRules.check, hkind, if_neg (by decide), hempty]
  refine FieldRules.checkContent_eq_ok_iff.2 (.inl ⟨.number q, messages, ?_, hmessages, rfl⟩)
  rw [hkind]
  show (number? v).map (Option.map Content.number) = _
  rw [hq]
  rfl

theorem isEmpty_numberText {s : String} {l : NumberLiteral} (h : IsNumberText s l) : isEmpty .number (.text s) = false :=
  decide_eq_false (NumberLiteral.trimBlank_text h ▸ l.text_ne_nil)

namespace Document

/-- A text is checked to the same messages as the double that it stands for, in every numeric field that cannot
tell them apart. -/
theorem check_numberText [CharacterNames] {v : Value} {d : Document} (hd : read v = .ok d) {f : Field}
    (hf : f ∈ d.fields) (htype : f.type = .number ∨ f.type = .range) {s : String} {l : NumberLiteral}
    (hs : IsNumberText s l) {x : FiniteDouble} (hx : l.toDouble = .finite x) (hsafe : f.SeesAlike l x) :
    ∃ o o', f.check (.text s) = .ok o ∧ f.check (.double (.finite x)) = .ok o' ∧ o.messages = o'.messages := by
  have hkind : f.kind = .number := f.kind_eq_number_iff.2 htype
  have hsound := ((read_sound hd).fields f hf).describe
  obtain ⟨messages, hdouble⟩ := Rule.exists_messages hsound.usable (.number (.binary x)) []
  have htext := (Field.messages_numberText hkind hx hsafe).trans hdouble
  have hread : number? (.text s) = .ok (some (l.quantity x)) := congrArg Except.ok (NumberLiteral.ofText?_text hs hx)
  exact ⟨_, _, Field.check_of_number hkind (isEmpty_numberText hs) hread htext,
    Field.check_of_number hkind rfl rfl hdouble, rfl⟩

section

attribute [local instance] CharacterNames.ascii

/-- The same message is found for a hexadecimal text between blanks and for its double. -/
theorem check_numberText_of_hexadecimal :
    let v := Value.record [("formTitle", .text "Form"), ("formDescription", .text "D"), ("fields", .list [
      .record [("id", .text "age"), ("type", .text "number"), ("label", .text "Age"),
        ("validation", .record [("min", .int 18), ("step", .int 3)])]])]
    let f : Field := ⟨"age", "Age", false, .number none (some ⟨some (.whole 18), none, some (.whole 3), none⟩)⟩
    let x : FiniteDouble := ⟨false, 2 ^ 52, -48, by decide⟩
    Document.read v = .ok ⟨"Form", "D", [f]⟩ ∧
      (∃ l, IsNumberText " 0x10 " l ∧ l.toDouble = .finite x ∧ f.SeesAlike l x) ∧
      ∃ o o', f.check (.text " 0x10 ") = .ok o ∧ f.check (.double (.finite x)) = .ok o' ∧ o.messages = o'.messages := by
  intro v f x
  let l := NumberLiteral.radix ⟨'x', 16, ['1', '0'], rfl, List.all_eq_true.1 rfl, by simp⟩
  have hd : Document.read v = .ok ⟨"Form", "D", [f]⟩ :=
    read_eq_ok_iff.2 ⟨Gate.defects_eq_ok_nil_iff.1 (by decide +kernel), by decide +kernel⟩
  have hs : IsNumberText " 0x10 " l := ⟨[' '], [' '], rfl, List.all_eq_true.1 rfl, List.all_eq_true.1 rfl⟩
  have hx : l.toDouble = .finite x := by decide +kernel
  have hsmall : |x.value| < 2 ^ 53 := by
    rw [x.abs_value, FiniteDouble.magnitude]
    norm_num [x]
  exact ⟨hd, ⟨l, hs, hx, .inl hsmall⟩, check_numberText hd List.mem_cons_self (.inl rfl) hs hx (.inl hsmall)⟩

/-- A large hexadecimal integer that is no double is above a bound which its double meets. -/
theorem check_numberText_of_large_hexadecimal :
    let v := Value.record [("formTitle", .text "Form"), ("formDescription", .text "D"), ("fields", .list [
      .record [("id", .text "age"), ("type", .text "number"), ("label", .text "Age"),
        ("validation", .record [("max", .int 9007199254740992)])]])]
    let f : Field := ⟨"age", "Age", false, .number none (some ⟨none, some (.whole 9007199254740992), none, none⟩)⟩
    let x : FiniteDouble := ⟨false, 2 ^ 52, 1, by decide⟩
    Document.read v = .ok ⟨"Form", "D", [f]⟩ ∧
      (∃ l, IsNumberText "0x20000000000001" l ∧ l.toDouble = .finite x) ∧
      f.check (.text "0x20000000000001") = .ok ⟨.int 9007199254740993, ["Maximum value is 9007199254740992"]⟩ ∧
      f.check (.double (.finite x)) = .ok ⟨.double (.finite x), []⟩ := by
  intro v f x
  let l := NumberLiteral.radix ⟨'x', 16, '2' :: (List.replicate 12 '0' ++ ['1']), rfl, List.all_eq_true.1 rfl, by simp⟩
  have hs : IsNumberText "0x20000000000001" l := ⟨[], [], rfl, by simp, by simp⟩
  have hx : l.toDouble = .finite x := by decide +kernel
  have hread : number? (.text "0x20000000000001") = .ok (some (.whole 9007199254740993)) :=
    congrArg Except.ok (NumberLiteral.ofText?_text hs hx)
  have hle : (Quantity.binary x).le (.whole 9007199254740992) = true := by decide +kernel
  have hmessages : Rule.messages (.number (.binary x)) f.rules [] = .ok [] := by
    have hrules : f.rules = [⟨.maximum (.whole 9007199254740992), "Maximum value is 9007199254740992"⟩] := by
      decide +kernel
    simp only [hrules, Rule.messages, Constraint.holds, hle]
    rfl
  exact ⟨read_eq_ok_iff.2 ⟨Gate.defects_eq_ok_nil_iff.1 (by decide +kernel), by decide +kernel⟩, ⟨l, hs, hx⟩,
    Field.check_of_number rfl (isEmpty_numberText hs) hread (by rfl),
    Field.check_of_number (q := .binary x) rfl rfl rfl hmessages⟩

end

end Document

end WebForm
