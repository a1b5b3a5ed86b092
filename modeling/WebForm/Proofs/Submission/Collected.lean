/-
Which messages are collected from rules. Every rule that content breaks has its message among them: the messages of the
broken rules are kept in the order of the rules, and each of them once.
-/
import WebForm.Proofs.Value
import WebForm.Submission.FieldCheck

namespace WebForm

/-! ## Texts kept once -/

theorem eraseDups_eq_self {l : List String} (h : l.Nodup) : l.eraseDups = l := by
  induction l with
  | nil => rfl
  | cons a l ih =>
    obtain ⟨ha, hl⟩ := List.nodup_cons.1 h
    have hother : l.filter (fun b => !b == a) = l :=
      List.filter_eq_self.2 fun b hb => by simpa using fun hba : b = a => ha (hba ▸ hb)
    rw [List.eraseDups_cons, hother, ih hl]

theorem eraseDups_of_same {l : List String} {m : String} (h : ∀ a ∈ l, a = m) :
    l.eraseDups = if l = [] then [] else [m] := by
  cases l with
  | nil => rfl
  | cons a l =>
    obtain ⟨rfl, hl⟩ := List.forall_mem_cons.1 h
    have hother : l.filter (fun b => !b == a) = [] := List.filter_eq_nil_iff.2 fun b hb => by simp [hl b hb]
    rw [List.eraseDups_cons, hother]
    rfl

theorem eraseDups_eq_nil_iff {l : List String} : l.eraseDups = [] ↔ l = [] := by
  cases l with
  | nil => simp
  | cons a l => simp [List.eraseDups_cons]

/-! ## Broken rules -/

namespace Rule

/-- The rules that content does not satisfy, in order. -/
def broken [CharacterNames] (content : Content) (rules : List Rule) : List Rule :=
  rules.filter fun rule => rule.constraint.holds content = .ok false

variable {content : Content} {rules : List Rule}

/-- Messages are collected if every rule can be checked: those of the broken ones join the messages that were found
before, in order and each once. -/
theorem messages_eq_ok_iff [CharacterNames] {found collected : List String} :
    messages content rules found = .ok collected ↔
    (∀ rule ∈ rules, ∃ b, rule.constraint.holds content = .ok b) ∧
      collected = found ++ (((broken content rules).map (·.message)).filter (!found.contains ·)).eraseDups := by
  induction rules generalizing found with
  | nil => simp [messages, broken, eq_comm]
  | cons rule rest ih =>
    rw [messages, bind_eq_ok_iff, List.forall_mem_cons]
    cases hb : rule.constraint.holds content with
    | error halt => simp
    | ok b =>
      simp only [Except.ok.injEq, exists_eq_left', exists_eq', true_and]
      cases b with
      | true => rw [Bool.true_or, if_pos rfl, ih, broken, broken, List.filter_cons_of_neg (by simp [hb])]
      | false =>
        have hbroken : broken content (rule :: rest) = rule :: broken content rest :=
          List.filter_cons_of_pos (by simp [hb])
        rw [hbroken, List.map_cons, Bool.false_or]
        by_cases hseen : found.contains rule.message = true
        · rw [if_pos hseen, ih, List.filter_cons_of_neg (by simpa using hseen)]
        · -- from here on the message is one of those that were found before
          have hnew : ∀ m, (!(found ++ [rule.message]).contains m) = ((!m == rule.message) && !found.contains m) := by
            intro m
            rw [List.contains_append, Bool.not_or, Bool.and_comm, List.contains_cons, List.contains_nil, Bool.or_false]
          rw [if_neg hseen, ih, List.filter_cons_of_pos (by simpa using hseen), List.eraseDups_cons, List.append_assoc,
            List.filter_filter]
          simp only [hnew]
          rfl

theorem broken_eq_nil_iff [CharacterNames] (h : ∀ rule ∈ rules, ∃ b, rule.constraint.holds content = .ok b) :
    broken content rules = [] ↔ ∀ rule ∈ rules, rule.constraint.holds content = .ok true := by
  rw [broken, List.filter_eq_nil_iff]
  refine forall₂_congr fun rule hrule => ?_
  obtain ⟨b, hb⟩ := h rule hrule
  cases b <;> simp [hb]

/-- No message is collected exactly if there was none before and every rule holds. -/
theorem messages_eq_nil_iff [CharacterNames] {found collected : List String}
    (h : messages content rules found = .ok collected) :
    collected = [] ↔ found = [] ∧ ∀ rule ∈ rules, rule.constraint.holds content = .ok true := by
  obtain ⟨hholds, rfl⟩ := messages_eq_ok_iff.1 h
  rw [List.append_eq_nil_iff, eraseDups_eq_nil_iff, ← broken_eq_nil_iff hholds]
  refine and_congr_right ?_
  rintro rfl
  simp

theorem messages_of_forall_holds [CharacterNames] (h : ∀ rule ∈ rules, rule.constraint.holds content = .ok true) :
    messages content rules [] = .ok [] := by
  have hholds : ∀ rule ∈ rules, ∃ b, rule.constraint.holds content = .ok b := fun rule hrule => ⟨true, h rule hrule⟩
  refine messages_eq_ok_iff.2 ⟨hholds, ?_⟩
  rw [(broken_eq_nil_iff hholds).2 h]
  rfl

theorem messages_nil_eq [CharacterNames] (h : ∀ rule ∈ rules, ∃ b, rule.constraint.holds content = .ok b) :
    messages content rules [] = .ok ((broken content rules).map (·.message)).eraseDups := by
  refine messages_eq_ok_iff.2 ⟨h, ?_⟩
  rw [List.nil_append, List.filter_eq_self.2 (by simp)]

/-- Different messages are all kept. -/
theorem messages_of_nodup [CharacterNames] (h : ∀ rule ∈ rules, ∃ b, rule.constraint.holds content = .ok b)
    (hnodup : (rules.map (·.message)).Nodup) :
    messages content rules [] = .ok ((broken content rules).map (·.message)) := by
  rw [messages_nil_eq h, eraseDups_eq_self]
  exact hnodup.sublist (List.filter_sublist.map _)

/-- One message for all rules is kept once. -/
theorem messages_of_same [CharacterNames] (h : ∀ rule ∈ rules, ∃ b, rule.constraint.holds content = .ok b) {m : String}
    (hsame : ∀ rule ∈ rules, rule.message = m) :
    messages content rules [] = .ok (if broken content rules = [] then [] else [m]) := by
  rw [messages_nil_eq h, eraseDups_of_same (m := m)]
  · simp
  · simp only [List.mem_map, broken, List.mem_filter]
    rintro _ ⟨rule, ⟨hrule, -⟩, rfl⟩
    exact hsame rule hrule

end Rule

end WebForm
