/-
A check settles what it returns: the values that it understood are understood the same way again, with the same
messages. Numeric text becomes a number that is no less finite, what was empty stays empty, and a value of
another kind stays one.
-/
import WebForm.Proofs.Submission.FieldWise

namespace WebForm

/-! ## Numbers -/

/-- An integer that was read from text rounds to a finite double. -/
theorem Quantity.roundsToFinite_of_ofText? {s : String} {n : Int} (h : Quantity.ofText? s = some (.whole n)) :
    roundsToFinite n = true := by
  unfold ofText? at h
  dsimp only at h
  split at h
  · split_ifs at h with hfinite
    cases h
    exact hfinite
  · split at h
    · rename_i x _
      -- of a decimal the nearest double is taken, which is an integer only if it equals one
      have hx : x.toQuantity = .whole n := Option.some.inj h
      unfold FiniteDouble.toQuantity at hx
      split at hx
      · cases hx
        rename_i hint
        exact FiniteDouble.roundsToFinite_of_toInt? hint
      · cases hx
    · cases h

theorem number?_int {n : Int} (h : roundsToFinite n = true) : number? (.int n) = .ok (some (.whole n)) := by
  simp only [number?, h, if_true]

/-- A number is read again from its value. -/
theorem number?_quantity {v : Value} {q : Quantity} (h : number? v = .ok (some q)) :
    number? (.quantity q) = .ok (some q) := by
  unfold number? at h
  split at h
  · split_ifs at h with hfinite
    cases h
    exact number?_int hfinite
  · have hread := Except.ok.inj h
    cases q with
    | whole n => exact number?_int (Quantity.roundsToFinite_of_ofText? hread)
    | binary x => rfl
  · rename_i hint _
    obtain rfl := Value.quantity?_eq_some_iff.1 (Except.ok.inj h)
    cases q with
    | whole n => exact absurd rfl (hint n)
    | binary x => rfl

/-! ## Content -/

theorem texts_of_textItems? {v : Value} {items : List String} (h : textItems? v = some items) : v = .texts items := by
  unfold textItems? at h
  split at h
  · rename_i values
    have hitems := mapM_eq_some_iff.1 h
    have hvalues : List.Forall₂ (fun v s => v = Value.text s) values items := hitems.imp fun v s hs => by
      split at hs
      · cases hs
        rfl
      · cases hs
    rw [← List.forall₂_map_right_iff, List.forall₂_eq_eq_eq] at hvalues
    rw [hvalues, Value.texts]
  · cases h

namespace Content

/-- Content is returned as the value that it was read from, except for a number that was read from text. -/
theorem toValue_of_ofValue? {kind : ValueKind} {v : Value} {content : Content}
    (h : ofValue? kind v = .ok (some content)) :
    content.toValue = v ∨ ∃ q, kind = .number ∧ content = .number q ∧ number? v = .ok (some q) := by
  unfold ofValue? at h
  split at h
  · cases h
    exact .inl rfl
  · cases h
  · cases h
    exact .inl rfl
  · cases h
  · obtain ⟨items, hitems, rfl⟩ := Option.map_eq_some_iff.1 (Except.ok.inj h)
    exact .inl (texts_of_textItems? hitems).symm
  · cases hn : number? v with
    | error halt =>
      rw [hn] at h
      cases h
    | ok o =>
      rw [hn] at h
      obtain ⟨q, rfl, rfl⟩ := Option.map_eq_some_iff.1 (Except.ok.inj h)
      exact .inr ⟨q, rfl, rfl, rfl⟩

theorem ofValue?_toValue {kind : ValueKind} {v : Value} {content : Content} (h : ofValue? kind v = .ok (some content)) :
    ofValue? kind content.toValue = .ok (some content) := by
  rcases toValue_of_ofValue? h with hsame | ⟨q, rfl, rfl, hn⟩
  · rw [hsame, h]
  · show (number? (.quantity q)).map _ = _
    rw [number?_quantity hn]
    rfl

theorem isEmpty_toValue {kind : ValueKind} {v : Value} {content : Content} (h : ofValue? kind v = .ok (some content))
    (hv : isEmpty kind v = false) : isEmpty kind content.toValue = false := by
  rcases toValue_of_ofValue? h with hsame | ⟨q, rfl, rfl, -⟩
  · rw [hsame, hv]
  · cases q <;> rfl

end Content

/-! ## Checks -/

namespace FieldRules

variable {r : FieldRules} {v : Value} {o : Outcome}

/-- What content was returned as is checked to the same outcome. -/
theorem checkContent_value [CharacterNames] (h : r.checkContent v = .ok o) : r.checkContent o.value = .ok o := by
  rcases checkContent_eq_ok_iff.1 h with ⟨content, messages, hcontent, hmessages, rfl⟩ | ⟨-, rfl⟩
  · exact checkContent_eq_ok_iff.2 (.inl ⟨content, messages, Content.ofValue?_toValue hcontent, hmessages, rfl⟩)
  · exact h

/-- A value that counts as given is returned as one. -/
theorem isEmpty_of_checkContent [CharacterNames] (h : r.checkContent v = .ok o) (hv : isEmpty r.kind v = false) :
    isEmpty r.kind o.value = false := by
  rcases checkContent_eq_ok_iff.1 h with ⟨content, messages, hcontent, -, rfl⟩ | ⟨-, rfl⟩
  · exact Content.isEmpty_toValue hcontent hv
  · exact hv

/-- A value that is there is not returned as null. -/
theorem isNull_of_checkContent [CharacterNames] (h : r.checkContent v = .ok o) (hv : v.isNull = false) :
    o.value.isNull = false := by
  rcases checkContent_eq_ok_iff.1 h with ⟨content, messages, -, -, rfl⟩ | ⟨-, rfl⟩
  · cases content with
    | number q => cases q <;> rfl
    | _ => rfl
  · exact hv

theorem isEmpty_emptyValue {kind : ValueKind} (h : isEmpty kind v = true) : isEmpty kind (emptyValue kind v) = true := by
  unfold emptyValue
  split_ifs with hk
  · subst hk
    rfl
  · exact h

theorem emptyValue_emptyValue (kind : ValueKind) (v : Value) :
    emptyValue kind (emptyValue kind v) = emptyValue kind v := by
  unfold emptyValue
  split_ifs <;> rfl

/-- A value that was returned is checked to the same outcome. -/
theorem check_value [CharacterNames] (h : r.check v = .ok o) : r.check o.value = .ok o := by
  by_cases hboolean : r.kind = .boolean
  · have hgiven : (if v.isNull then Value.bool false else v).isNull = false := by
      split_ifs with hnull
      · rfl
      · exact Bool.not_eq_true _ ▸ hnull
    rw [check, if_pos hboolean] at h ⊢
    rw [isNull_of_checkContent h hgiven]
    exact checkContent_value h
  · rw [check, if_neg hboolean] at h ⊢
    cases hempty : isEmpty r.kind v with
    | false =>
      rw [if_neg (by rw [hempty]; exact Bool.false_ne_true)] at h
      rw [isEmpty_of_checkContent h hempty]
      exact checkContent_value h
    | true =>
      rw [if_pos hempty] at h
      by_cases hrequired : r.required = true
      · rw [if_pos hrequired] at h
        cases h
        dsimp only
        rw [if_pos hempty, if_pos hrequired]
      · rw [if_neg hrequired] at h
        cases h
        dsimp only
        rw [isEmpty_emptyValue hempty, if_pos rfl, if_neg hrequired, emptyValue_emptyValue]

end FieldRules

/-! ## Submissions -/

namespace Document

/-- The report of a submission is also the report of the data in it, whether or not it has issues. -/
theorem check_dataValue [CharacterNames] {v : Value} {d : Document} (hd : Document.read v = .ok d) {data : Value}
    {r : Report} (h : d.check data = .ok r) : d.check r.dataValue = .ok r := by
  obtain ⟨-, found, hfields, hfound, rfl⟩ := check_eq_ok_iff.1 h
  have hids : (found.map fun p => p.1.id).Nodup := ids_of_found hfields ▸ (read_sound hd).ids
  refine check_eq_ok_iff.2 ⟨rfl, found, hfields, fun p hp => ?_, rfl⟩
  rw [Report.get_dataValue_of_mem hids hp]
  exact FieldRules.check_value (hfound p hp)

section

attribute [local instance] CharacterNames.ascii

/-- A hexadecimal age, a missing switch and a missing group of boxes are settled by the first check. -/
theorem check_dataValue_of_hexadecimal :
    let v := Value.record [("formTitle", .text "Form"), ("formDescription", .text "D"), ("fields", .list [
      .record [("id", .text "age"), ("type", .text "number"), ("label", .text "Age"),
        ("validation", .record [("max", .int 9)])],
      .record [("id", .text "on"), ("type", .text "switch"), ("label", .text "On")],
      .record [("id", .text "of"), ("type", .text "checkbox-group"), ("label", .text "Of"),
        ("options", .list [.record [("value", .text "a"), ("label", .text "A")]])]])]
    ∃ d r, Document.read v = .ok d ∧ d.check (.record [("age", .text " 0x10 ")]) = .ok r ∧
      r.data = [("age", .int 16), ("on", .bool false), ("of", .list [])] ∧
      r.issues = [⟨"age", "Maximum value is 9"⟩] ∧ d.check r.dataValue = .ok r := by
  intro v
  let age : Field := ⟨"age", "Age", false, .number none (some ⟨none, some (.whole 9), none, none⟩)⟩
  let on : Field := ⟨"on", "On", false, .toggle .switch⟩
  let group : Field := ⟨"of", "Of", false, .checkboxGroup [⟨"a", "A"⟩]⟩
  have hd : Document.read v = .ok ⟨"Form", "D", [age, on, group]⟩ :=
    read_eq_ok_iff.2 ⟨Gate.defects_eq_ok_nil_iff.1 (by decide +kernel), by decide +kernel⟩
  have hage : age.check (.text " 0x10 ") = .ok ⟨.int 16, ["Maximum value is 9"]⟩ := by
    have hnumber : number? (.text " 0x10 ") = .ok (some (.whole 16)) := congrArg Except.ok (by decide +kernel)
    have hempty : isEmpty .number (.text " 0x10 ") = false := by decide +kernel
    have hkind : age.describe.kind = .number := rfl
    rw [Field.check, FieldRules.check, hkind, if_neg (by decide), hempty]
    refine FieldRules.checkContent_eq_ok_iff.2 (.inl ⟨.number (.whole 16), _, ?_, rfl, rfl⟩)
    show (number? (.text " 0x10 ")).map (Option.map Content.number) = _
    rw [hnumber]
    rfl
  have h : check ⟨"Form", "D", [age, on, group]⟩ (.record [("age", .text " 0x10 ")]) =
      .ok ⟨[("age", .int 16), ("on", .bool false), ("of", .list [])], [⟨"age", "Maximum value is 9"⟩]⟩ :=
    check_eq_ok_iff.2 ⟨rfl, [(age, ⟨.int 16, ["Maximum value is 9"]⟩), (on, ⟨.bool false, []⟩), (group, ⟨.list [], []⟩)],
      rfl, by simpa using ⟨hage, rfl, rfl⟩, rfl⟩
  exact ⟨_, _, hd, h, rfl, rfl, check_dataValue hd h⟩

end

end Document

end WebForm
