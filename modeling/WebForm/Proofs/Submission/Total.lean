/-
Nothing fails after the gate. A value without defects gives a document, the document gives source in
every flavor, and its check gives a report for every submission, with one exception: an integer that
rounds to no finite double stops the check of a numeric field. What could fail otherwise is kept out by
the rules being sound: a pattern that cannot be read, a step of zero, a rule for another kind of content.
-/
import WebForm.Form
import WebForm.Proofs.Rules
import WebForm.Proofs.Submission.Collected

namespace WebForm

/-! ## Numbers that are too large -/

/-- An integer that rounds to no finite double. -/
def Value.TooLarge (v : Value) : Prop := ∃ n, v = .int n ∧ (Double.ofInt n).isFinite = false

theorem number?_of_tooLarge {v : Value} (h : v.TooLarge) : number? v = .error .integerTooLarge := by
  obtain ⟨n, rfl, hn⟩ := h
  have hlarge : roundsToFinite n = false := by
    rw [← Bool.not_eq_true, roundsToFinite_iff, hn]
    exact Bool.false_ne_true
  simp only [number?, hlarge, Bool.false_eq_true, if_false]

theorem exists_number? {v : Value} (h : ¬v.TooLarge) : ∃ o, number? v = .ok o := by
  unfold number?
  split
  · rename_i n
    by_cases hn : roundsToFinite n = true
    · exact ⟨_, if_pos hn⟩
    · rw [roundsToFinite_iff, Bool.not_eq_true] at hn
      exact absurd ⟨n, rfl, hn⟩ h
  · exact ⟨_, rfl⟩
  · exact ⟨_, rfl⟩

/-! ## Content -/

/-- The kind of content. -/
def Content.kind : Content → ValueKind
  | .text _ => .text
  | .number _ => .number
  | .boolean _ => .boolean
  | .texts _ => .texts

/-- Content is of the kind it was read as. -/
theorem Content.kind_of_ofValue? {kind : ValueKind} {v : Value} {content : Content}
    (h : Content.ofValue? kind v = .ok (some content)) : content.kind = kind := by
  unfold Content.ofValue? at h
  split at h
  · cases h; rfl
  · cases h
  · cases h; rfl
  · cases h
  · rw [Except.ok.injEq, Option.map_eq_some_iff] at h
    obtain ⟨items, -, rfl⟩ := h
    rfl
  · cases hn : number? v with
    | error halt => rw [hn] at h; cases h
    | ok o =>
      rw [hn] at h
      have hmap : o.map Content.number = some content := Except.ok.inj h
      obtain ⟨q, -, rfl⟩ := Option.map_eq_some_iff.1 hmap
      rfl

theorem Content.exists_ofValue? {kind : ValueKind} {v : Value} (h : kind = .number → ¬v.TooLarge) :
    ∃ o, Content.ofValue? kind v = .ok o := by
  unfold Content.ofValue?
  split
  · exact ⟨_, rfl⟩
  · exact ⟨_, rfl⟩
  · exact ⟨_, rfl⟩
  · exact ⟨_, rfl⟩
  · exact ⟨_, rfl⟩
  · obtain ⟨o, ho⟩ := exists_number? (h rfl)
    rw [ho]
    exact ⟨_, rfl⟩

/-! ## Rules -/

theorem Constraint.exists_holds [CharacterNames] {constraint : Constraint} (h : constraint.Usable) (content : Content) :
    ∃ b, constraint.holds content = .ok b := by
  cases constraint with
  | pattern source =>
    obtain ⟨e, he⟩ := h
    cases content with
    | text s =>
      refine ⟨e.matchesIn s, ?_⟩
      rw [holds, Pattern.matchesIn, he]
      rfl
    | _ => exact ⟨_, rfl⟩
  | _ => cases content <;> exact ⟨_, rfl⟩

/-- Checking goes on from rule to rule if every rule can be checked. -/
theorem Rule.exists_messages [CharacterNames] {rules : List Rule} (h : ∀ rule ∈ rules, rule.constraint.Usable)
    (content : Content) (found : List String) : ∃ messages, Rule.messages content rules found = .ok messages := by
  have hholds : ∀ rule ∈ rules, ∃ b, rule.constraint.holds content = .ok b := fun rule hrule =>
    Constraint.exists_holds (h rule hrule) content
  exact ⟨_, Rule.messages_eq_ok_iff.2 ⟨hholds, rfl⟩⟩

namespace FieldRules

theorem exists_checkContent [CharacterNames] {r : FieldRules} (hr : r.Sound) {v : Value}
    (hv : r.kind = .number → ¬v.TooLarge) :
    ∃ outcome, r.checkContent v = .ok outcome := by
  obtain ⟨o, ho⟩ := Content.exists_ofValue? hv
  unfold checkContent
  rw [ho]
  cases o with
  | none => exact ⟨_, rfl⟩
  | some content =>
    obtain ⟨messages, hm⟩ := Rule.exists_messages hr.usable content []
    refine ⟨⟨content.toValue, messages⟩, ?_⟩
    show (Rule.messages content r.rules [] >>= fun messages => pure (Outcome.mk content.toValue messages)) = .ok _
    rw [hm]
    rfl

theorem exists_check [CharacterNames] {r : FieldRules} (hr : r.Sound) {v : Value}
    (hv : r.kind = .number → ¬v.TooLarge) :
    ∃ outcome, r.check v = .ok outcome := by
  unfold check
  split
  · rename_i hk
    refine exists_checkContent hr fun hn => ?_
    rw [hk] at hn
    cases hn
  · split
    · exact ⟨_, rfl⟩
    · exact exists_checkContent hr hv

theorem check_of_tooLarge [CharacterNames] {r : FieldRules} (hk : r.kind = .number) {v : Value} (hv : v.TooLarge) :
    r.check v = .error .integerTooLarge := by
  have hread : Content.ofValue? .number v = .error .integerTooLarge := by
    show (number? v).map (·.map Content.number) = _
    rw [number?_of_tooLarge hv]
    rfl
  -- an integer is never empty, so its content is looked at
  obtain ⟨n, rfl, -⟩ := hv
  unfold check checkContent
  rw [hk, if_neg (by decide), if_neg (by simp [isEmpty]), hread]
  rfl

end FieldRules

/-! ## Submissions -/

/-- Whether a numeric field is given an integer that rounds to no finite double. -/
def GivenTooLarge (fields : List Field) (data : Value) : Prop :=
  ∃ f ∈ fields, (f.type = .number ∨ f.type = .range) ∧ (data.get f.id).TooLarge

theorem exists_checkFields [CharacterNames] {fields : List Field} (hf : ∀ f ∈ fields, f.Sound) {data : Value}
    (h : ¬GivenTooLarge fields data) : ∃ report, checkFields data fields = .ok report := by
  induction fields with
  | nil => exact ⟨_, rfl⟩
  | cons f rest ih =>
    obtain ⟨later, hlater⟩ := ih (fun g hg => hf g (List.mem_cons_of_mem _ hg))
      fun ⟨g, hg, hlarge⟩ => h ⟨g, List.mem_cons_of_mem _ hg, hlarge⟩
    obtain ⟨outcome, hout⟩ : ∃ outcome, f.check (data.get f.id) = .ok outcome :=
      FieldRules.exists_check (hf f List.mem_cons_self).describe fun hk hlarge =>
        h ⟨f, List.mem_cons_self, f.kind_eq_number_iff.1 hk, hlarge⟩
    unfold checkFields
    simp only [bind_eq_ok_iff, pure_eq_ok_iff]
    exact ⟨_, outcome, hout, later, hlater, rfl⟩

/-- The first number that is too large stops the check of the submission. -/
theorem checkFields_of_tooLarge [CharacterNames] {fields : List Field} (hf : ∀ f ∈ fields, f.Sound) {data : Value}
    (h : GivenTooLarge fields data) : checkFields data fields = .error .integerTooLarge := by
  induction fields with
  | nil =>
    obtain ⟨f, hmem, -⟩ := h
    cases hmem
  | cons f rest ih =>
    unfold checkFields
    by_cases hlarge : (f.type = .number ∨ f.type = .range) ∧ (data.get f.id).TooLarge
    · have hcheck : f.check (data.get f.id) = .error .integerTooLarge :=
        FieldRules.check_of_tooLarge (f.kind_eq_number_iff.2 hlarge.1) hlarge.2
      rw [hcheck]
      rfl
    · -- this field is checked, and a later one stops the check
      obtain ⟨outcome, hout⟩ : ∃ outcome, f.check (data.get f.id) = .ok outcome :=
        FieldRules.exists_check (hf f List.mem_cons_self).describe fun hk hv =>
          hlarge ⟨f.kind_eq_number_iff.1 hk, hv⟩
      obtain ⟨g, hg, hlater⟩ := h
      have hrest : g ∈ rest := by
        rcases List.mem_cons.1 hg with rfl | hg
        · exact absurd hlater hlarge
        · exact hg
      rw [hout, ih (fun g hg => hf g (List.mem_cons_of_mem _ hg)) ⟨g, hrest, hlater⟩]
      rfl

namespace Document

theorem check_of_tooLarge [CharacterNames] {d : Document} (hd : d.Sound) {data : Value} (hdata : data.isObject = true)
    (h : GivenTooLarge d.fields data) : d.check data = .error (.halted .integerTooLarge) := by
  unfold check
  rw [if_pos hdata, checkFields_of_tooLarge hd.fields h]
  rfl

theorem exists_check [CharacterNames] {d : Document} (hd : d.Sound) {data : Value} (hdata : data.isObject = true)
    (h : ¬GivenTooLarge d.fields data) : ∃ report, d.check data = .ok report := by
  obtain ⟨report, hr⟩ := exists_checkFields hd.fields h
  unfold check
  rw [if_pos hdata, hr]
  exact ⟨report, rfl⟩

theorem code_ne_empty (d : Document) (flavor : Flavor) : d.code flavor ≠ "" := by
  have hpiece : ∀ (p : Piece) (rest : Source), p.text ≠ "" → Source.text (p :: rest) ≠ "" := by
    intro p rest hp he
    rw [Source.text, List.map_cons, String.join_cons, String.append_eq_empty_iff] at he
    exact hp he.1
  cases flavor with
  | zod => exact hpiece _ _ (by decide)
  | component flavor =>
    refine hpiece (.comment _) _ ?_
    simp [Piece.text, String.append_eq_empty_iff]

/-- Of a value without defects a document is made, the description of each of its fields is sound and met by
content of its kind, it has source in every flavor, and the check of a submission gives a report unless a
numeric field is given an integer that rounds to no finite double. -/
theorem nothing_fails_after_the_gate [CharacterNames] {v : Value} (h : Gate.defects v = .ok []) :
    ∃ d, Document.read v = .ok d ∧
      (∀ f ∈ d.fields, f.describe.Sound ∧
        ∀ w content, Content.ofValue? f.kind w = .ok (some content) → content.kind = f.kind) ∧
      (∀ name ∈ ["zod", "html", "shadcn"], ∃ flavor, Flavor.ofName? name = some flavor ∧ d.code flavor ≠ "") ∧
      ∀ data : Value, data.isObject = true →
        (d.check data = .error (.halted .integerTooLarge) ↔ GivenTooLarge d.fields data) ∧
          (¬GivenTooLarge d.fields data → ∃ report, d.check data = .ok report) := by
  obtain ⟨d, hd⟩ := exists_read (Gate.defects_eq_ok_nil_iff.1 h)
  have hsound := read_sound hd
  refine ⟨d, hd, fun f hf => ⟨(hsound.fields f hf).describe, fun w content => Content.kind_of_ofValue?⟩, ?_, ?_⟩
  · intro name hname
    obtain ⟨flavor, hflavor⟩ : ∃ flavor, Flavor.ofName? name = some flavor := by
      simp only [List.mem_cons, List.not_mem_nil, or_false] at hname
      rcases hname with rfl | rfl | rfl
      · exact ⟨.zod, by decide⟩
      · exact ⟨.component .html, by decide⟩
      · exact ⟨.component .shadcn, by decide⟩
    exact ⟨flavor, hflavor, code_ne_empty d flavor⟩
  · intro data hdata
    refine ⟨⟨fun herror => ?_, check_of_tooLarge hsound hdata⟩, exists_check hsound hdata⟩
    by_contra hnot
    obtain ⟨report, hreport⟩ := exists_check hsound hdata hnot
    rw [hreport] at herror
    cases herror

section

attribute [local instance] CharacterNames.ascii

/-- A form that asks for an age is checked, unless the age is two to the power 1024. -/
theorem nothing_fails_but_a_large_age :
    let v : Value := .record [("formTitle", .text "Form"), ("formDescription", .text "Ages"),
      ("fields", .list [.record [("id", .text "age"), ("type", .text "number"), ("label", .text "Age")]])]
    Gate.defects v = .ok [] ∧ ∃ d, Document.read v = .ok d ∧
      d.check (.record [("age", .int (2 ^ 1024))]) = .error (.halted .integerTooLarge) ∧
      ∃ report, d.check (.record [("age", .int 30)]) = .ok report := by
  intro v
  have h : Gate.defects v = .ok [] := by decide +kernel
  obtain ⟨d, hd, -, -, hcheck⟩ := nothing_fails_after_the_gate h
  have hfields : Gate.document? v = some ⟨"Form", "Ages", [⟨"age", "Age", false, .number none none⟩]⟩ := by
    decide +kernel
  obtain rfl := Option.some.inj (hfields.symm.trans (read_eq_ok_iff.1 hd).2)
  refine ⟨h, _, hd, (hcheck _ rfl).1.2 ?_, (hcheck _ rfl).2 ?_⟩
  · exact ⟨_, List.mem_singleton_self _, .inl rfl, 2 ^ 1024, rfl, by decide +kernel⟩
  · rintro ⟨f, hf, -, n, hn, hfinite⟩
    obtain rfl := List.mem_singleton.1 hf
    obtain rfl : 30 = n := by
      have hget : (Value.record [("age", .int 30)]).get "age" = .int 30 := by simp
      simpa using hget.symm.trans hn
    exact absurd hfinite (by decide +kernel)

end

end Document

end WebForm
