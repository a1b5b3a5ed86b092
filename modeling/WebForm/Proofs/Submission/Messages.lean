/-
No broken rule is hidden behind the message of another one. The messages of a field without one of the author are all
different, so each broken rule has its own; the author's message stands for all rules of its field, but for nothing
that is settled before them.
-/
import WebForm.Proofs.Submission.Requiredness

namespace WebForm

/-! ## The messages of a field's rules -/

theorem messageOr_of_empty {custom : Option String} (h : ∀ s, custom = some s → s = "") (default : String) :
    messageOr custom default = default := by
  cases custom with
  | none => rfl
  | some s => exact if_pos (h s rfl)

theorem messageOr_of_ne_empty {m : String} (h : m ≠ "") (default : String) : messageOr (some m) default = m := if_neg h

/-- The message that the author gave to what a field holds. -/
def Body.message? : Body → Option String
  | .written _ _ limits => limits.bind (·.message)
  | .formatted _ _ limits => limits.bind (·.message)
  | .number _ limits => limits.bind (·.message)
  | .range limits => limits.message
  | _ => none

theorem nodup_messages_lengthRules {label : String} {l : LengthLimits} (h : ∀ m, l.message = some m → m = "") :
    ((lengthRules label l).map (·.message)).Nodup := by
  obtain ⟨lo, hi, message⟩ := l
  have hdistinct : ∀ a b : String, label ++ " must be at least " ++ a ++ " characters" ≠
      label ++ " must be at most " ++ b ++ " characters" := by
    intro a b heq
    simpa using congrArg String.toList heq
  simp only [lengthRules, messageOr_of_empty h]
  cases lo with
  | none => cases hi <;> simp [limitRule]
  | some lo => cases hi <;> simp [limitRule, hdistinct]

theorem nodup_messages_numberRules {l : NumberLimits} (h : ∀ m, l.message = some m → m = "") :
    ((numberRules l).map (·.message)).Nodup := by
  obtain ⟨lo, hi, step, message⟩ := l
  have hlowHigh : ∀ a b : String, "Minimum value is " ++ a ≠ "Maximum value is " ++ b := by
    intro a b heq
    simpa using congrArg String.toList heq
  have hlowStep : ∀ a b : String, "Minimum value is " ++ a ≠ "Value must be a multiple of " ++ b := by
    intro a b heq
    simpa using congrArg String.toList heq
  have hhighStep : ∀ a b : String, "Maximum value is " ++ a ≠ "Value must be a multiple of " ++ b := by
    intro a b heq
    simpa using congrArg String.toList heq
  simp only [numberRules, messageOr_of_empty h]
  cases lo <;> cases hi <;> cases step <;> simp [limitRule, hlowHigh, hlowStep, hhighStep]

theorem nodup_messages_formatRules {type : FormattedType} {limits : Option FormatLimits}
    (h : ∀ m, limits.bind (·.message) = some m → m = "") : ((formatRules type limits).map (·.message)).Nodup := by
  unfold formatRules
  simp only [messageOr_of_empty h]
  cases type <;> cases limits.bind (·.custom?) <;> simp

theorem message_of_mem_lengthRules {label : String} {l : LengthLimits} {m : String} (hm : l.message = some m)
    (hne : m ≠ "") : ∀ rule ∈ lengthRules label l, rule.message = m := by
  intro rule hrule
  simp only [lengthRules, List.mem_append, mem_limitRule, hm, messageOr_of_ne_empty hne] at hrule
  rcases hrule with ⟨n, -, rfl⟩ | ⟨n, -, rfl⟩ <;> rfl

theorem message_of_mem_numberRules {l : NumberLimits} {m : String} (hm : l.message = some m) (hne : m ≠ "") :
    ∀ rule ∈ numberRules l, rule.message = m := by
  intro rule hrule
  simp only [numberRules, List.mem_append, mem_limitRule, hm, messageOr_of_ne_empty hne] at hrule
  rcases hrule with (⟨q, -, rfl⟩ | ⟨q, -, rfl⟩) | ⟨q, -, rfl⟩ <;> rfl

theorem message_of_mem_formatRules {type : FormattedType} {limits : Option FormatLimits} {m : String}
    (hm : limits.bind (·.message) = some m) (hne : m ≠ "") : ∀ rule ∈ formatRules type limits, rule.message = m := by
  unfold formatRules
  simp only [hm, messageOr_of_ne_empty hne]
  cases type <;> cases limits.bind (·.custom?) <;> simp

namespace Field

variable {f : Field} {u : Value} {content : Content}

/-- Without a message of the author, no two rules of a field have the same one. -/
theorem nodup_messages_rules (h : ∀ m, f.body.message? = some m → m = "") : (f.rules.map (·.message)).Nodup := by
  unfold rules
  cases hb : f.body with
  | written t p l =>
    rw [hb] at h
    cases l with
    | none => simp
    | some l => exact nodup_messages_lengthRules h
  | formatted t p l =>
    rw [hb] at h
    exact nodup_messages_formatRules h
  | number p l =>
    rw [hb] at h
    cases l with
    | none => simp
    | some l => exact nodup_messages_numberRules h
  | range l =>
    rw [hb] at h
    exact nodup_messages_numberRules h
  | select p cs | radio cs | checkboxGroup cs => simp
  | toggle t => cases f.required <;> simp

/-- The author's message is that of every rule. -/
theorem message_of_mem_rules {m : String} (hm : f.body.message? = some m) (hne : m ≠ "") :
    ∀ rule ∈ f.rules, rule.message = m := by
  unfold rules
  cases hb : f.body with
  | written t p l =>
    rw [hb] at hm
    obtain ⟨l, rfl, hl⟩ := Option.bind_eq_some_iff.1 hm
    exact message_of_mem_lengthRules hl hne
  | formatted t p l =>
    rw [hb] at hm
    exact message_of_mem_formatRules hm hne
  | number p l =>
    rw [hb] at hm
    obtain ⟨l, rfl, hl⟩ := Option.bind_eq_some_iff.1 hm
    exact message_of_mem_numberRules hl hne
  | range l =>
    rw [hb] at hm
    exact message_of_mem_numberRules hm hne
  | _ => rw [hb] at hm; cases hm

/-! ## What a check collects -/

/-- How a submitted value is understood that is given and of the field's kind. An absent truth value counts as false. -/
def UnderstoodAs (f : Field) (u : Value) (content : Content) : Prop :=
  (f.kind = .boolean ∧ u = .null ∧ content = .boolean false) ∨
    (¬NotGiven f.type u ∧ Content.ofValue? f.kind u = .ok (some content))

/-- The check of a value that is understood collects the messages of the rules. -/
theorem check_of_understood [CharacterNames] (h : f.UnderstoodAs u content) {messages : List String}
    (hmessages : Rule.messages content f.rules [] = .ok messages) : f.check u = .ok ⟨content.toValue, messages⟩ := by
  have hgiven : ∀ w, ¬NotGiven f.type w → Content.ofValue? f.kind w = .ok (some content) →
      f.check w = .ok ⟨content.toValue, messages⟩ := by
    intro w hw hcontent
    rw [check_of_given hw]
    exact FieldRules.checkContent_eq_ok_iff.2 (.inl ⟨content, messages, hcontent, hmessages, rfl⟩)
  rcases h with ⟨hkind, rfl, rfl⟩ | ⟨hw, hcontent⟩
  · have hfalse : ¬NotGiven f.type (.bool false) := by simp [notGiven_iff_of_boolean hkind]
    rw [check_null hkind]
    exact hgiven _ hfalse (by rw [hkind]; rfl)
  · exact hgiven u hw hcontent

/-- The messages about what is missing or of another kind are the field's own, also where the author gave one. -/
theorem check_before_rules [CharacterNames] {m : String} (hm : f.body.message? = some m) (u : Value) :
    (NotGiven f.type u → f.required = true → f.check u = .ok ⟨u, [f.label ++ " is required"]⟩) ∧
      (¬NotGiven f.type u → Mistyped f.type u → f.check u = .ok ⟨u, [f.kind.message f.label]⟩) := by
  have hkind : f.kind ≠ .boolean := by
    unfold kind
    cases hb : f.body with
    | toggle t => rw [hb] at hm; cases hm
    | _ => simp
  have hrequiredMessage : f.requiredMessage = f.label ++ " is required" := by
    unfold requiredMessage
    cases hb : f.body with
    | checkboxGroup cs | toggle t => rw [hb] at hm; cases hm
    | _ => rfl
  refine ⟨fun hempty hrequired => ?_, check_of_mistyped⟩
  rw [check, FieldRules.check, if_neg (show ¬f.describe.kind = .boolean from hkind),
    if_pos (show isEmpty f.describe.kind u = true from (isEmpty_iff hkind).2 hempty),
    if_pos (show f.describe.required = true from hrequired), ← hrequiredMessage]
  rfl

end Field

/-! ## Documents -/

namespace Document

/-- No broken rule is hidden. Of a value that is given and understood, the messages of a field without a message of the
author are those of the rules that the value breaks, in order and all different; with one, it is the only message
wherever a rule is broken. What is missing or of another kind has the field's own message either way. -/
theorem every_broken_rule_is_reported [CharacterNames] {v : Value} {d : Document} (hd : read v = .ok d) {f : Field}
    (hf : f ∈ d.fields) :
    (∀ u content, f.UnderstoodAs u content → ∃ messages,
      f.check u = .ok ⟨content.toValue, messages⟩ ∧
      (∀ rule ∈ f.describe.rules, ∃ b, rule.constraint.holds content = .ok b) ∧
      ((∀ m, f.body.message? = some m → m = "") →
        messages = (Rule.broken content f.describe.rules).map (·.message) ∧ messages.Nodup) ∧
      ∀ m, f.body.message? = some m → m ≠ "" →
        messages = if Rule.broken content f.describe.rules = [] then [] else [m]) ∧
    ∀ m, f.body.message? = some m → m ≠ "" → ∀ u,
      (NotGiven f.type u → f.required = true → f.check u = .ok ⟨u, [f.label ++ " is required"]⟩) ∧
      (¬NotGiven f.type u → Mistyped f.type u → f.check u = .ok ⟨u, [f.kind.message f.label]⟩) := by
  refine ⟨fun u content hu => ?_, fun m hm _ u => Field.check_before_rules hm u⟩
  have hsound := ((read_sound hd).fields f hf).describe
  have hholds : ∀ rule ∈ f.rules, ∃ b, rule.constraint.holds content = .ok b := fun rule hrule =>
    Constraint.exists_holds (hsound.usable rule hrule) content
  by_cases hauthor : ∀ m, f.body.message? = some m → m = ""
  · have hnodup := Field.nodup_messages_rules hauthor
    refine ⟨_, Field.check_of_understood hu (Rule.messages_of_nodup hholds hnodup), hholds, fun _ => ⟨rfl, ?_⟩, ?_⟩
    · exact hnodup.sublist (List.filter_sublist.map _)
    · intro m hm hne
      exact absurd (hauthor m hm) hne
  · obtain ⟨m, hm, hne⟩ : ∃ m, f.body.message? = some m ∧ m ≠ "" := by simpa using hauthor
    have hsame := Field.message_of_mem_rules hm hne
    refine ⟨_, Field.check_of_understood hu (Rule.messages_of_same hholds hsame), hholds, fun h => absurd (h m hm) hne, ?_⟩
    intro m' hm' _
    obtain rfl : m = m' := Option.some.inj (hm.symm.trans hm')
    rfl

section

attribute [local instance] CharacterNames.ascii

/-- Three is below ten and no multiple of four: two messages, or the author's one. -/
theorem every_broken_rule_is_reported_of_three :
    let entries := fun (id : String) (message : List (String × Value)) => Value.record [("id", .text id),
      ("type", .text "number"), ("label", .text "Age"), ("required", .bool true),
      ("validation", .record ([("min", .int 10), ("step", .int 4)] ++ message))]
    let v := Value.record [("formTitle", .text "Form"), ("formDescription", .text "D"),
      ("fields", .list [entries "a" [], entries "b" [("message", .text "No.")]])]
    let limits := fun message => NumberLimits.mk (some (.whole 10)) none (some (.whole 4)) message
    let f : Field := ⟨"a", "Age", true, .number none (some (limits none))⟩
    let f' : Field := ⟨"b", "Age", true, .number none (some (limits (some "No.")))⟩
    Document.read v = .ok ⟨"Form", "D", [f, f']⟩ ∧ f.UnderstoodAs (.int 3) (.number (.whole 3)) ∧
      f'.UnderstoodAs (.int 3) (.number (.whole 3)) ∧
      f.check (.int 3) = .ok ⟨.int 3, ["Minimum value is 10", "Value must be a multiple of 4"]⟩ ∧
      f'.check (.int 3) = .ok ⟨.int 3, ["No."]⟩ ∧
      f'.check .null = .ok ⟨.null, ["Age is required"]⟩ := by
  intro entries v limits f f'
  have hd : Document.read v = .ok ⟨"Form", "D", [f, f']⟩ :=
    read_eq_ok_iff.2 ⟨Gate.defects_eq_ok_nil_iff.1 (by decide +kernel), by decide +kernel⟩
  have hgiven : ¬NotGiven .number (.int 3) := by simp [NotGiven]
  have hnumber : Content.ofValue? .number (.int 3) = .ok (some (.number (.whole 3))) := by
    have hthree : number? (.int 3) = .ok (some (.whole 3)) := number?_int (by decide +kernel)
    rw [Content.ofValue?, hthree]
    rfl
  have hu : f.UnderstoodAs (.int 3) (.number (.whole 3)) := .inr ⟨hgiven, hnumber⟩
  have hu' : f'.UnderstoodAs (.int 3) (.number (.whole 3)) := .inr ⟨hgiven, hnumber⟩
  obtain ⟨hrules, -⟩ := every_broken_rule_is_reported hd List.mem_cons_self
  obtain ⟨hrules', hbefore⟩ := every_broken_rule_is_reported (f := f') hd (List.mem_cons_of_mem _ List.mem_cons_self)
  obtain ⟨messages, hcheck, -, hall, -⟩ := hrules _ _ hu
  obtain ⟨messages', hcheck', -, -, hone⟩ := hrules' _ _ hu'
  obtain ⟨rfl, -⟩ := hall fun m hm => by cases hm
  obtain rfl := hone "No." rfl (by decide)
  exact ⟨hd, hu, hu', hcheck, hcheck', (hbefore "No." rfl (by decide) .null).1 (.inl rfl) rfl⟩

end

end Document

end WebForm
