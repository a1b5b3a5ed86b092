/-
The check of a field and its source agree. A choice, a group of boxes and a toggle pass the check exactly if the
expression in the source accepts what was submitted, whatever that is. A bound on the length of a text is the one place
where the two part: the check counts characters and the engine counts units, so they disagree on the texts of which
the bounds admit one length and not the other, and on no others.
-/
import WebForm.Proofs.Source.Acceptance
import WebForm.Proofs.Submission.Verdict

namespace WebForm

/-! ## Submitted values -/

theorem getD_null_eq_null {w : Option Value} : w.getD .null = .null ↔ w = none ∨ w = some .null := by
  cases w <;> simp

theorem getD_null_eq {w : Option Value} {v : Value} (hv : v ≠ .null) : w.getD .null = v ↔ w = some v := by
  cases w with
  | none => simpa using hv.symm
  | some u => simp

/-! ## Rules and their calls -/

/-- Whether a rule holds of just the content whose value its call lets pass. -/
def Rule.Agrees [CharacterNames] (g : Zod.Engine) (rule : Rule) : Prop :=
  ∀ content : Content, content.kind = rule.constraint.kind →
    (rule.constraint.holds content = .ok true ↔ (Zod.Call.ofRule rule).Demands g content.toValue)

variable {g : Zod.Engine}

theorem Rule.agrees_oneOf [CharacterNames] (values : List String) (m : String) : Rule.Agrees g ⟨.oneOf values, m⟩ := by
  intro content hkind
  cases content with
  | text s => simp [Constraint.holds, Zod.Call.ofRule, Zod.Call.Demands, Content.toValue]
  | _ => cases hkind

theorem Rule.agrees_allOf [CharacterNames] (values : List String) (m : String) : Rule.Agrees g ⟨.allOf values, m⟩ := by
  intro content hkind
  cases content with
  | texts items => simp [Constraint.holds, Zod.Call.ofRule, Zod.Call.Demands, Content.toValue, Value.texts]
  | _ => cases hkind

theorem Rule.agrees_isTrue [CharacterNames] (m : String) : Rule.Agrees g ⟨.isTrue, m⟩ := by
  intro content hkind
  cases content with
  | boolean b => simp [Constraint.holds, Zod.Call.ofRule, Zod.Call.Demands, Content.toValue]
  | _ => cases hkind

namespace FieldRules

variable {r : FieldRules} {w : Option Value} {o : Outcome}

theorem passes_iff_accepts_of_text [CharacterNames] (hr : r.Sound) (hkind : r.kind = .text)
    (hagree : ∀ rule ∈ r.rules, rule.Agrees g) (h : r.check (w.getD .null) = .ok o) :
    o.messages = [] ↔ (Zod.Expression.ofRules r).Accepts g w := by
  rw [check_passes_of_text hkind h, Zod.Expression.accepts_text_iff hr hkind, getD_null_eq_null,
    getD_null_eq (v := .text "") (by simp), or_assoc]
  refine or_congr_right (exists_congr fun s => and_congr_right fun _ => ?_)
  rw [getD_null_eq (v := .text s) (by simp)]
  refine and_congr_right fun _ => forall₂_congr fun rule hrule => ?_
  exact hagree rule hrule (.text s) (by rw [hr.kinds rule hrule, hkind]; rfl)

theorem passes_iff_accepts_of_texts [CharacterNames] (hr : r.Sound) (hkind : r.kind = .texts)
    (hagree : ∀ rule ∈ r.rules, rule.Agrees g) (h : r.check (w.getD .null) = .ok o) :
    o.messages = [] ↔ (Zod.Expression.ofRules r).Accepts g w := by
  rw [check_passes_of_texts hkind h, Zod.Expression.accepts_texts_iff hr hkind, getD_null_eq_null,
    getD_null_eq (v := .list []) (by simp), or_assoc]
  refine or_congr_right (exists_congr fun items => and_congr_right fun _ => ?_)
  rw [getD_null_eq (v := .texts items) (by simp [Value.texts])]
  refine and_congr_right fun _ => forall₂_congr fun rule hrule => ?_
  exact hagree rule hrule (.texts items) (by rw [hr.kinds rule hrule, hkind]; rfl)

/-- An absent truth value counts as false, so the rules of a toggle that has to be on must not hold of false. -/
theorem passes_iff_accepts_of_boolean [CharacterNames] (hr : r.Sound) (hkind : r.kind = .boolean)
    (hfalse : r.required = true → ¬∀ rule ∈ r.rules, rule.constraint.holds (.boolean false) = .ok true)
    (hagree : ∀ rule ∈ r.rules, rule.Agrees g) (h : r.check (w.getD .null) = .ok o) :
    o.messages = [] ↔ (Zod.Expression.ofRules r).Accepts g w := by
  have hrules : ∀ b, (∀ rule ∈ r.rules, rule.constraint.holds (.boolean b) = .ok true) ↔
      ∀ rule ∈ r.rules, (Zod.Call.ofRule rule).Demands g (.bool b) := fun b =>
    forall₂_congr fun rule hrule => hagree rule hrule (.boolean b) (by rw [hr.kinds rule hrule, hkind]; rfl)
  rw [check_passes_of_boolean hkind h, Zod.Expression.accepts_boolean_iff hr hkind, getD_null_eq_null]
  constructor
  · rintro ⟨b, hb | ⟨hnull, rfl⟩, hholds⟩
    · exact .inr ⟨b, (getD_null_eq (v := .bool b) (by simp)).1 hb, (hrules b).1 hholds⟩
    · refine .inl ⟨hnull, ?_⟩
      rw [← Bool.not_eq_true]
      exact fun hrequired => hfalse hrequired hholds
  · rintro (⟨hnull, hrequired⟩ | ⟨b, rfl, hdemands⟩)
    · exact ⟨false, .inr ⟨hnull, rfl⟩, by simp [hr.toggle hkind hrequired]⟩
    · exact ⟨b, .inl rfl, (hrules b).2 hdemands⟩

end FieldRules

/-! ## Choices and toggles -/

/-- The check of a choice or a toggle passes just what its expression accepts. -/
theorem Field.passes_iff_accepts [CharacterNames] {f : Field} (hf : f.Sound)
    (hfamily : f.type.family = .choice ∨ f.type.family = .toggle) {w : Option Value} {o : Outcome}
    (h : f.check (w.getD .null) = .ok o) : o.messages = [] ↔ (Zod.Expression.ofRules f.describe).Accepts g w := by
  have hsound := hf.describe
  unfold Field.type at hfamily
  cases hb : f.body with
  | select p cs | radio cs =>
    have hrules : f.describe.rules = [⟨.oneOf (cs.map (·.value)), "Invalid selection"⟩] := by
      simp [Field.describe, Field.rules, hb]
    refine FieldRules.passes_iff_accepts_of_text hsound (by simp [Field.describe, Field.kind, hb]) ?_ h
    rw [hrules, List.forall_mem_singleton]
    exact Rule.agrees_oneOf _ _
  | checkboxGroup cs =>
    have hrules : f.describe.rules = [⟨.allOf (cs.map (·.value)), "Invalid selection"⟩] := by
      simp [Field.describe, Field.rules, hb]
    refine FieldRules.passes_iff_accepts_of_texts hsound (by simp [Field.describe, Field.kind, hb]) ?_ h
    rw [hrules, List.forall_mem_singleton]
    exact Rule.agrees_allOf _ _
  | toggle t =>
    have hrules : f.describe.rules = if f.required then [⟨.isTrue, t.message f.label⟩] else [] := by
      simp [Field.describe, Field.rules, hb]
    refine FieldRules.passes_iff_accepts_of_boolean hsound (by simp [Field.describe, Field.kind, hb]) ?_ ?_ h
    · intro hrequired
      have hrequired : f.required = true := hrequired
      rw [hrules, if_pos hrequired, List.forall_mem_singleton]
      simp [Constraint.holds]
    · intro rule hrule
      rw [hrules] at hrule
      split_ifs at hrule
      · obtain rfl := List.mem_singleton.1 hrule
        exact Rule.agrees_isTrue _
      · cases hrule
  | written t p l | formatted t p l =>
    rw [hb] at hfamily
    cases t <;> simp [Body.type, FieldType.family] at hfamily
  | number p l | range l =>
    rw [hb] at hfamily
    simp [Body.type, FieldType.family] at hfamily

/-! ## Lengths of text -/

/-- Whether bounds admit a length. -/
structure LengthLimits.Admits (l : LengthLimits) (length : Nat) : Prop where
  min : ∀ n, l.min = some n → n ≤ length
  max : ∀ n, l.max = some n → length ≤ n

theorem forall_lengthRules {label : String} {l : LengthLimits} {p : Rule → Prop} {length : Nat}
    (hmin : ∀ n m, p ⟨.minLength n, m⟩ ↔ n ≤ length) (hmax : ∀ n m, p ⟨.maxLength n, m⟩ ↔ length ≤ n) :
    (∀ rule ∈ lengthRules label l, p rule) ↔ l.Admits length := by
  simp only [lengthRules, List.mem_append, mem_limitRule, or_imp, forall_and, forall_exists_index, and_imp]
  constructor
  · rintro ⟨hlo, hhi⟩
    exact ⟨fun n hn => (hmin _ _).1 (hlo _ n hn rfl), fun n hn => (hmax _ _).1 (hhi _ n hn rfl)⟩
  · intro h
    refine ⟨?_, ?_⟩
    · rintro _ n hn rfl
      exact (hmin _ _).2 (h.min n hn)
    · rintro _ n hn rfl
      exact (hmax _ _).2 (h.max n hn)

namespace Field

variable {f : Field} {t : WrittenType} {p : Option String} {limits : Option LengthLimits}

/-- What all rules of a text field have in common with its bounds. -/
theorem forall_rules_of_written (hb : f.body = .written t p limits) {q : Rule → Prop} {length : Nat}
    (hmin : ∀ n m, q ⟨.minLength n, m⟩ ↔ n ≤ length) (hmax : ∀ n m, q ⟨.maxLength n, m⟩ ↔ length ≤ n) :
    (∀ rule ∈ f.describe.rules, q rule) ↔ ∀ l, limits = some l → l.Admits length := by
  have hrules : f.describe.rules = (limits.map (lengthRules f.label)).getD [] := by
    simp [describe, rules, hb]
  rw [hrules]
  cases limits with
  | none => simp
  | some l => simpa using forall_lengthRules hmin hmax

variable {w : Option Value} {o : Outcome}

/-- The check and the expression of a text field agree on a submitted value exactly if, where it is text, its bounds
admit both of its lengths or neither. -/
theorem agrees_iff_of_written [CharacterNames] (hf : f.Sound) (hb : f.body = .written t p limits)
    (h : f.check (w.getD .null) = .ok o) :
    (o.messages = [] ↔ (Zod.Expression.ofRules f.describe).Accepts g w) ↔
      ∀ s l, w = some (.text s) → limits = some l → (l.Admits s.length ↔ l.Admits (utf16Length s)) := by
  have hkind : f.describe.kind = .text := by simp [describe, kind, hb]
  have hholds : ∀ s, (∀ rule ∈ f.describe.rules, rule.constraint.holds (.text s) = .ok true) ↔
      ∀ l, limits = some l → l.Admits s.length := fun s =>
    forall_rules_of_written hb (by simp [Constraint.holds]) (by simp [Constraint.holds])
  have hdemands : ∀ s, (∀ rule ∈ f.describe.rules, (Zod.Call.ofRule rule).Demands g (.text s)) ↔
      ∀ l, limits = some l → l.Admits (utf16Length s) := fun s =>
    forall_rules_of_written hb (by simp [Zod.Call.ofRule, Zod.Call.Demands, Zod.size?])
      (by simp [Zod.Call.ofRule, Zod.Call.Demands, Zod.size?])
  rw [FieldRules.check_passes_of_text hkind h, Zod.Expression.accepts_text_iff hf.describe hkind, getD_null_eq_null,
    getD_null_eq (v := .text "") (by simp), or_assoc]
  simp only [hholds, hdemands]
  by_cases hfull : ∃ s, s ≠ "" ∧ w = some (.text s)
  · obtain ⟨s, hs, rfl⟩ := hfull
    cases limits <;> simp [hs]
  · -- whatever is settled before the bounds are looked at is settled alike, and empty text has one length
    refine iff_of_true (or_congr_right (iff_of_false ?_ ?_)) ?_
    · rintro ⟨s, hs, hw, -⟩
      exact hfull ⟨s, hs, (getD_null_eq (v := .text s) (by simp)).1 hw⟩
    · rintro ⟨s, hs, hw, -⟩
      exact hfull ⟨s, hs, hw⟩
    · intro s l hw _
      obtain rfl : s = "" := by
        by_contra hs
        exact hfull ⟨s, hs, hw⟩
      exact Iff.rfl

/-- On text in the basic plane they agree, whatever the bounds. -/
theorem agrees_of_basic_plane [CharacterNames] (hf : f.Sound) (hb : f.body = .written t p limits) {s : String}
    (hs : ∀ c ∈ s.toList, c.toNat ≤ 0xFFFF) (h : f.check (.text s) = .ok o) :
    o.messages = [] ↔ (Zod.Expression.ofRules f.describe).Accepts g (some (.text s)) := by
  refine (agrees_iff_of_written (w := some (.text s)) hf hb h).2 ?_
  rintro _ l ⟨⟩ -
  rw [utf16Length_eq_length_iff.2 hs]

end Field

/-! ## Documents -/

namespace Document

/-- The fields of a document that was read are checked for every value, but for numbers that are too large. -/
theorem exists_field_check [CharacterNames] {v : Value} {d : Document} (hd : Document.read v = .ok d) {f : Field}
    (hf : f ∈ d.fields) (hkind : f.kind ≠ .number) (u : Value) : ∃ o, f.check u = .ok o :=
  FieldRules.exists_check ((read_sound hd).fields f hf).describe fun h => absurd h hkind

/-- Every choice, group of boxes and toggle has a verdict on every submitted value, which is that of the expression in
its source. -/
theorem folded_check_iff_accepts [CharacterNames] {v : Value} {d : Document} (hd : Document.read v = .ok d) {f : Field}
    (hf : f ∈ d.fields) (hfamily : f.type.family = .choice ∨ f.type.family = .toggle) {e : Zod.Expression}
    (he : e.Fits) (hsource : Source.text e.source = Source.text (Zod.fieldSource f)) (g : Zod.Engine)
    (w : Option Value) : ∃ o, f.check (w.getD .null) = .ok o ∧ (o.messages = [] ↔ e.Accepts g w) := by
  have hsound := (read_sound hd).fields f hf
  have hkind : f.kind ≠ .number := by
    rw [Ne, f.kind_eq_number_iff]
    rintro (h | h) <;> simp [h, FieldType.family] at hfamily
  obtain ⟨o, ho⟩ := exists_field_check hd hf hkind (w.getD .null)
  obtain rfl := Zod.Expression.eq_of_text hsound.describe he hsource
  exact ⟨o, ho, Field.passes_iff_accepts hsound hfamily ho⟩

section

attribute [local instance] CharacterNames.ascii

/-- An option that is the empty text cannot be chosen where a choice has to be made, neither in the check nor in the
source. -/
theorem folded_check_iff_accepts_of_empty_option :
    let v := Value.record [("formTitle", .text "Form"), ("formDescription", .text "D"), ("fields", .list [
      .record [("id", .text "size"), ("type", .text "select"), ("label", .text "Size"), ("required", .bool true),
        ("options", .list [.record [("value", .text ""), ("label", .text "Any")],
          .record [("value", .text "S"), ("label", .text "Small")],
          .record [("value", .text "S"), ("label", .text "Slim")]])]])]
    let f : Field := ⟨"size", "Size", true, .select none [⟨"", "Any"⟩, ⟨"S", "Small"⟩, ⟨"S", "Slim"⟩]⟩
    let e := Zod.Expression.ofRules f.describe
    let g : Zod.Engine := ⟨id, fun v => v.quantity?.isSome, fun _ _ => True⟩
    Document.read v = .ok ⟨"Form", "D", [f]⟩ ∧ f.type.family = .choice ∧ e.Fits ∧
      Source.text e.source = Source.text (Zod.fieldSource f) ∧
      f.check (.text "") = .ok ⟨.text "", ["Size is required"]⟩ ∧ ¬e.Accepts g (some (.text "")) := by
  intro v f e g
  have hd : Document.read v = .ok ⟨"Form", "D", [f]⟩ :=
    read_eq_ok_iff.2 ⟨Gate.defects_eq_ok_nil_iff.1 (by decide +kernel), by decide +kernel⟩
  have hf : f ∈ [f] := List.mem_singleton_self f
  have he : e.Fits := Zod.Expression.ofRules_fits ((read_sound hd).fields f hf).describe
  have hcheck : f.check (.text "") = .ok ⟨.text "", ["Size is required"]⟩ := rfl
  refine ⟨hd, rfl, he, rfl, hcheck, ?_⟩
  obtain ⟨o, ho, hiff⟩ := folded_check_iff_accepts hd hf (.inl rfl) he rfl g (some (.text ""))
  obtain rfl := Except.ok.inj (ho.symm.trans hcheck)
  rw [← hiff]
  simp

end

/-- The verdict on a text field is that of the expression in its source exactly where the field's bounds admit both
lengths of the submitted text or neither; whatever is no text has one verdict. -/
theorem length_check_agrees_iff [CharacterNames] {v : Value} {d : Document} (hd : Document.read v = .ok d) {f : Field}
    (hf : f ∈ d.fields) {t : WrittenType} {p : Option String} {limits : Option LengthLimits}
    (hb : f.body = .written t p limits) {e : Zod.Expression} (he : e.Fits)
    (hsource : Source.text e.source = Source.text (Zod.fieldSource f)) (g : Zod.Engine) (w : Option Value) :
    ∃ o, f.check (w.getD .null) = .ok o ∧ ((o.messages = [] ↔ e.Accepts g w) ↔
      ∀ s l, w = some (.text s) → limits = some l → (l.Admits s.length ↔ l.Admits (utf16Length s))) := by
  have hsound := (read_sound hd).fields f hf
  obtain ⟨o, ho⟩ := exists_field_check hd hf (by simp [Field.kind, hb]) (w.getD .null)
  obtain rfl := Zod.Expression.eq_of_text hsound.describe he hsource
  exact ⟨o, ho, Field.agrees_iff_of_written hsound hb ho⟩

section

attribute [local instance] CharacterNames.ascii

/-- Two characters, of which one counts for two units: bounds of two and three admit both lengths. -/
theorem length_check_agrees_within_bounds :
    let v := Value.record [("formTitle", .text "Form"), ("formDescription", .text "D"), ("fields", .list [
      .record [("id", .text "a"), ("type", .text "text"), ("label", .text "A"),
        ("validation", .record [("min", .int 2), ("max", .int 3)])]])]
    let f : Field := ⟨"a", "A", false, .written .text none (some ⟨some 2, some 3, none⟩)⟩
    let e := Zod.Expression.ofRules f.describe
    let g : Zod.Engine := ⟨id, fun v => v.quantity?.isSome, fun _ _ => True⟩
    Document.read v = .ok ⟨"Form", "D", [f]⟩ ∧ e.Fits ∧ Source.text e.source = Source.text (Zod.fieldSource f) ∧
      f.check (.text "😀!") = .ok ⟨.text "😀!", []⟩ ∧ e.Accepts g (some (.text "😀!")) := by
  intro v f e g
  have hd : Document.read v = .ok ⟨"Form", "D", [f]⟩ :=
    read_eq_ok_iff.2 ⟨Gate.defects_eq_ok_nil_iff.1 (by decide +kernel), by decide +kernel⟩
  have hf : f ∈ [f] := List.mem_singleton_self f
  have he : e.Fits := Zod.Expression.ofRules_fits ((read_sound hd).fields f hf).describe
  have hcheck : f.check (.text "😀!") = .ok ⟨.text "😀!", []⟩ := rfl
  refine ⟨hd, he, rfl, hcheck, ?_⟩
  obtain ⟨o, ho, hiff⟩ := length_check_agrees_iff hd hf rfl he rfl g (some (.text "😀!"))
  obtain rfl := Except.ok.inj (ho.symm.trans hcheck)
  refine (hiff.2 ?_).1 rfl
  rintro s l hs hl
  cases hs
  cases hl
  have hlength : "😀!".length = 2 := rfl
  have hunits : utf16Length "😀!" = 3 := rfl
  rw [hlength, hunits]
  exact iff_of_true ⟨by simp, by simp⟩ ⟨by simp, by simp⟩

/-- One character that counts for two units passes a bound of one, and the source refuses it. -/
theorem length_check_parts_at_bound :
    let v := Value.record [("formTitle", .text "Form"), ("formDescription", .text "D"), ("fields", .list [
      .record [("id", .text "a"), ("type", .text "text"), ("label", .text "A"),
        ("validation", .record [("max", .int 1)])]])]
    let f : Field := ⟨"a", "A", false, .written .text none (some ⟨none, some 1, none⟩)⟩
    Document.read v = .ok ⟨"Form", "D", [f]⟩ ∧ f.check (.text "😀") = .ok ⟨.text "😀", []⟩ ∧
      ∀ g, ¬(Zod.Expression.ofRules f.describe).Accepts g (some (.text "😀")) := by
  intro v f
  have hd : Document.read v = .ok ⟨"Form", "D", [f]⟩ :=
    read_eq_ok_iff.2 ⟨Gate.defects_eq_ok_nil_iff.1 (by decide +kernel), by decide +kernel⟩
  have hcheck : f.check (.text "😀") = .ok ⟨.text "😀", []⟩ := rfl
  refine ⟨hd, hcheck, fun g haccepts => ?_⟩
  have hsound := (read_sound hd).fields f (List.mem_singleton_self f)
  have hlengths := (Field.agrees_iff_of_written (w := some (.text "😀")) hsound rfl hcheck).1 (iff_of_true rfl haccepts)
  have hlength : "😀".length = 1 := rfl
  have hunits : utf16Length "😀" = 2 := rfl
  have hmax := ((hlengths "😀" _ rfl rfl).1 ⟨by simp, by simp [hlength]⟩).max 1 rfl
  omega

end

end Document

end WebForm
