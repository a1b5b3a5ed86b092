/-
When the check of one value finds nothing to say. A value that counts as not given passes where the field need not
be filled in; any other passes if it is content of the field's kind and every rule holds of it.
-/
import WebForm.Proofs.Submission.Idempotent
import WebForm.Proofs.Submission.Total

namespace WebForm

/-! ## Values -/

theorem isEmpty_text_iff {v : Value} : isEmpty .text v = true ↔ v = .null ∨ v = .text "" := by
  unfold isEmpty
  split <;> simp_all

theorem isEmpty_texts_iff {v : Value} : isEmpty .texts v = true ↔ v = .null ∨ v = .list [] := by
  unfold isEmpty
  split <;> simp_all

@[simp] theorem textItems?_texts (items : List String) : textItems? (.texts items) = some items := by
  unfold Value.texts textItems?
  rw [mapM_eq_some_iff, List.forall₂_map_left_iff, List.forall₂_same]
  exact fun s _ => rfl

/-- Content of a kind other than numbers stands for one value only. -/
theorem Content.ofValue?_eq_some_iff {kind : ValueKind} (hkind : kind ≠ .number) {v : Value} {content : Content} :
    ofValue? kind v = .ok (some content) ↔ content.kind = kind ∧ v = content.toValue := by
  constructor
  · intro h
    refine ⟨kind_of_ofValue? h, ?_⟩
    rcases toValue_of_ofValue? h with hv | ⟨q, hnumber, -⟩
    · exact hv.symm
    · exact absurd hnumber hkind
  · rintro ⟨rfl, rfl⟩
    cases content with
    | text s => rfl
    | boolean b => rfl
    | number q => exact absurd rfl hkind
    | texts items =>
      show Except.ok ((textItems? (.texts items)).map Content.texts) = _
      rw [textItems?_texts]
      rfl

/-! ## Checks -/

namespace FieldRules

variable {r : FieldRules} {v : Value} {o : Outcome}

theorem checkContent_passes_iff [CharacterNames] (h : r.checkContent v = .ok o) : o.messages = [] ↔
    ∃ content, Content.ofValue? r.kind v = .ok (some content) ∧
      ∀ rule ∈ r.rules, rule.constraint.holds content = .ok true := by
  rcases checkContent_eq_ok_iff.1 h with ⟨content, messages, hcontent, hmessages, rfl⟩ | ⟨hcontent, rfl⟩
  · rw [Rule.messages_eq_nil_iff hmessages, hcontent]
    simp
  · simp [hcontent]

/-- A truth value that is absent is checked as false. -/
theorem check_passes_of_boolean [CharacterNames] (hkind : r.kind = .boolean) (h : r.check v = .ok o) : o.messages = [] ↔
    ∃ b, (v = .bool b ∨ v = .null ∧ b = false) ∧ ∀ rule ∈ r.rules, rule.constraint.holds (.boolean b) = .ok true := by
  rw [check, if_pos hkind] at h
  rw [checkContent_passes_iff h, hkind]
  simp only [Content.ofValue?_eq_some_iff (show ValueKind.boolean ≠ .number by decide)]
  have hread : ∀ b, (if v.isNull then Value.bool false else v) = .bool b ↔ v = .bool b ∨ v = .null ∧ b = false := by
    intro b
    by_cases hnull : v = .null
    · subst hnull
      simp [Value.isNull, eq_comm]
    · rw [if_neg (by simpa using hnull)]
      simp [hnull]
  constructor
  · rintro ⟨content, ⟨hcontent, hv⟩, hrules⟩
    cases content with
    | boolean b => exact ⟨b, (hread b).1 hv, hrules⟩
    | _ => cases hcontent
  · rintro ⟨b, hv, hrules⟩
    exact ⟨.boolean b, ⟨rfl, (hread b).2 hv⟩, hrules⟩

/-- Of the other kinds, empty values are settled before the rules are looked at. -/
theorem check_passes_of_ne_boolean [CharacterNames] (hkind : r.kind ≠ .boolean) (h : r.check v = .ok o) :
    o.messages = [] ↔
    isEmpty r.kind v = true ∧ r.required = false ∨ ¬isEmpty r.kind v = true ∧
      ∃ content, Content.ofValue? r.kind v = .ok (some content) ∧
        ∀ rule ∈ r.rules, rule.constraint.holds content = .ok true := by
  rw [check, if_neg hkind] at h
  by_cases hempty : isEmpty r.kind v = true
  · rw [if_pos hempty] at h
    cases hrequired : r.required <;> rw [hrequired] at h <;> cases h <;> simp [hempty]
  · rw [if_neg hempty] at h
    rw [checkContent_passes_iff h]
    simp [hempty]

theorem check_passes_of_text [CharacterNames] (hkind : r.kind = .text) (h : r.check v = .ok o) : o.messages = [] ↔
    (v = .null ∨ v = .text "") ∧ r.required = false ∨
      ∃ s, s ≠ "" ∧ v = .text s ∧ ∀ rule ∈ r.rules, rule.constraint.holds (.text s) = .ok true := by
  rw [check_passes_of_ne_boolean (by rw [hkind]; decide) h, hkind, isEmpty_text_iff]
  simp only [Content.ofValue?_eq_some_iff (show ValueKind.text ≠ .number by decide)]
  refine or_congr_right ⟨?_, ?_⟩
  · rintro ⟨hfull, content, ⟨hcontent, rfl⟩, hrules⟩
    cases content with
    | text s => exact ⟨s, fun hs => hfull (.inr (hs ▸ rfl)), rfl, hrules⟩
    | _ => cases hcontent
  · rintro ⟨s, hs, rfl, hrules⟩
    exact ⟨by simpa using hs, .text s, ⟨rfl, rfl⟩, hrules⟩

theorem check_passes_of_texts [CharacterNames] (hkind : r.kind = .texts) (h : r.check v = .ok o) : o.messages = [] ↔
    (v = .null ∨ v = .list []) ∧ r.required = false ∨
      ∃ items, items ≠ [] ∧ v = .texts items ∧ ∀ rule ∈ r.rules, rule.constraint.holds (.texts items) = .ok true := by
  rw [check_passes_of_ne_boolean (by rw [hkind]; decide) h, hkind, isEmpty_texts_iff]
  simp only [Content.ofValue?_eq_some_iff (show ValueKind.texts ≠ .number by decide)]
  refine or_congr_right ⟨?_, ?_⟩
  · rintro ⟨hfull, content, ⟨hcontent, rfl⟩, hrules⟩
    cases content with
    | texts items => exact ⟨items, fun hitems => hfull (.inr (hitems ▸ rfl)), rfl, hrules⟩
    | _ => cases hcontent
  · rintro ⟨items, hitems, rfl, hrules⟩
    exact ⟨by simpa [Value.texts] using hitems, .texts items, ⟨rfl, rfl⟩, hrules⟩

end FieldRules

end WebForm
