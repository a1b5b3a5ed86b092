/-
A form that asks for less. Where every limit of a form is kept, moved outwards or dropped, choices are only added, and
no field becomes required, each rule of the new form follows from a rule of the old one, so a submission that passed
still passes with the same data. A field that is added at the end and need not be filled in changes neither.
-/
import WebForm.Proofs.Submission.Messages

namespace WebForm

/-! ## Constraints -/

/-- A constraint that holds wherever another one does. -/
def Constraint.Implies [CharacterNames] (c c' : Constraint) : Prop :=
  ∀ content, c.holds content = .ok true → c'.holds content = .ok true

namespace Constraint

theorem Implies.rfl [CharacterNames] {c : Constraint} : c.Implies c := fun _ h => h

theorem minLength_implies [CharacterNames] {m n : Nat} (h : n ≤ m) : (minLength m).Implies (minLength n) := by
  intro content hm
  cases content with
  | text s =>
    have hlength : m ≤ s.length := by simpa [holds] using hm
    simpa [holds] using h.trans hlength
  | _ => cases hm

theorem maxLength_implies [CharacterNames] {m n : Nat} (h : m ≤ n) : (maxLength m).Implies (maxLength n) := by
  intro content hm
  cases content with
  | text s =>
    have hlength : s.length ≤ m := by simpa [holds] using hm
    simpa [holds] using hlength.trans h
  | _ => cases hm

theorem minimum_implies [CharacterNames] {p q : Quantity} (h : q.value ≤ p.value) :
    (minimum p).Implies (minimum q) := by
  intro content hp
  cases content with
  | number x =>
    have hvalue : p.value ≤ x.value := by simpa [holds, Quantity.le_iff] using hp
    simpa [holds, Quantity.le_iff] using h.trans hvalue
  | _ => cases hp

theorem maximum_implies [CharacterNames] {p q : Quantity} (h : p.value ≤ q.value) :
    (maximum p).Implies (maximum q) := by
  intro content hp
  cases content with
  | number x =>
    have hvalue : x.value ≤ p.value := by simpa [holds, Quantity.le_iff] using hp
    simpa [holds, Quantity.le_iff] using hvalue.trans h
  | _ => cases hp

theorem oneOf_implies [CharacterNames] {old new : List String} (h : old ⊆ new) : (oneOf old).Implies (oneOf new) := by
  intro content hold
  cases content with
  | text s =>
    have hmem : s ∈ old := by simpa [holds] using hold
    simpa [holds] using h hmem
  | _ => cases hold

theorem allOf_implies [CharacterNames] {old new : List String} (h : old ⊆ new) : (allOf old).Implies (allOf new) := by
  intro content hold
  cases content with
  | texts items =>
    have hmem : ∀ s ∈ items, s ∈ old := by simpa [holds] using hold
    simpa [holds] using fun s hs => h (hmem s hs)
  | _ => cases hold

end Constraint

/-! ## Relaxed fields -/

/-- A limit that is looser than before: there was one before if there is one now, and it moved in the given direction. -/
def Loosened {α : Type} (moved : α → α → Prop) (old new : Option α) : Prop :=
  ∀ b, new = some b → ∃ a, old = some a ∧ moved a b

/-- What a field holds, asking for less than before. Placeholders, messages and the labels of choices do not matter.
The author's pattern of an e-mail address may be dropped, since it adds to the form of an address; of the other types
it takes the place of the default. -/
inductive Body.Relaxes : Body → Body → Prop
  | written {type : WrittenType} {p p' : Option String} {l l' : Option LengthLimits}
      (min : Loosened (· ≥ ·) (l.bind (·.min)) (l'.bind (·.min)))
      (max : Loosened (· ≤ ·) (l.bind (·.max)) (l'.bind (·.max))) : Relaxes (.written type p l) (.written type p' l')
  | email {p p' : Option String} {l l' : Option FormatLimits}
      (pattern : Loosened Eq (l.bind (·.custom?)) (l'.bind (·.custom?))) :
      Relaxes (.formatted .email p l) (.formatted .email p' l')
  | formatted {type : FormattedType} {p p' : Option String} {l l' : Option FormatLimits}
      (pattern : l.bind (·.custom?) = l'.bind (·.custom?)) : Relaxes (.formatted type p l) (.formatted type p' l')
  | number {p p' : Option String} {l l' : Option NumberLimits}
      (min : Loosened (·.value ≥ ·.value) (l.bind (·.min)) (l'.bind (·.min)))
      (max : Loosened (·.value ≤ ·.value) (l.bind (·.max)) (l'.bind (·.max)))
      (step : Loosened Eq (l.bind (·.step)) (l'.bind (·.step))) : Relaxes (.number p l) (.number p' l')
  | range {l l' : RangeLimits} (min : l'.min.value ≤ l.min.value) (max : l.max.value ≤ l'.max.value)
      (step : Loosened Eq l.step l'.step) : Relaxes (.range l) (.range l')
  | select {p p' : Option String} {cs cs' : List Choice} (choices : cs.map (·.value) ⊆ cs'.map (·.value)) :
      Relaxes (.select p cs) (.select p' cs')
  | radio {cs cs' : List Choice} (choices : cs.map (·.value) ⊆ cs'.map (·.value)) : Relaxes (.radio cs) (.radio cs')
  | checkboxGroup {cs cs' : List Choice} (choices : cs.map (·.value) ⊆ cs'.map (·.value)) :
      Relaxes (.checkboxGroup cs) (.checkboxGroup cs')
  | toggle {type : ToggleType} : Relaxes (.toggle type) (.toggle type)

/-- A field under the same id that asks for less than before. Its label does not matter. -/
structure Field.Relaxes (f f' : Field) : Prop where
  id : f'.id = f.id
  required : f'.required = true → f.required = true
  body : f.body.Relaxes f'.body

theorem Body.Relaxes.type_eq {b b' : Body} (h : b.Relaxes b') : b'.type = b.type := by
  cases h with
  | @written type => cases type <;> rfl
  | @formatted type => cases type <;> rfl
  | @toggle type => cases type <;> rfl
  | _ => rfl

/-! ## Rules that follow -/

/-- Rules of which each follows from one of the rules before. -/
def FollowFrom [CharacterNames] (old new : List Rule) : Prop :=
  ∀ rule' ∈ new, ∃ rule ∈ old, rule.constraint.Implies rule'.constraint

theorem FollowFrom.append [CharacterNames] {old₁ old₂ new₁ new₂ : List Rule} (h₁ : FollowFrom old₁ new₁)
    (h₂ : FollowFrom old₂ new₂) :
    FollowFrom (old₁ ++ old₂) (new₁ ++ new₂) := by
  intro rule' hrule'
  rcases List.mem_append.1 hrule' with hrule' | hrule'
  · obtain ⟨rule, hrule, himplies⟩ := h₁ rule' hrule'
    exact ⟨rule, List.mem_append_left _ hrule, himplies⟩
  · obtain ⟨rule, hrule, himplies⟩ := h₂ rule' hrule'
    exact ⟨rule, List.mem_append_right _ hrule, himplies⟩

theorem FollowFrom.of_constraints_subset [CharacterNames] {old new : List Rule}
    (h : new.map (·.constraint) ⊆ old.map (·.constraint)) : FollowFrom old new := by
  intro rule' hrule'
  obtain ⟨rule, hrule, hsame⟩ := List.mem_map.1 (h (List.mem_map_of_mem hrule'))
  exact ⟨rule, hrule, hsame ▸ .rfl⟩

theorem FollowFrom.singleton [CharacterNames] {c c' : Constraint} (h : c.Implies c') (m m' : String) :
    FollowFrom [⟨c, m⟩] [⟨c', m'⟩] := by
  intro rule' hrule'
  obtain rfl := List.mem_singleton.1 hrule'
  exact ⟨_, List.mem_singleton_self _, h⟩

/-- A rule of a limit follows from that of the limit that was moved. -/
theorem FollowFrom.limitRule [CharacterNames] {α : Type} {make make' : α → Rule} {moved : α → α → Prop}
    {old new : Option α} (h : Loosened moved old new)
    (himplies : ∀ {a b}, moved a b → (make a).constraint.Implies (make' b).constraint) :
    FollowFrom (limitRule make old) (limitRule make' new) := by
  intro rule' hrule'
  obtain ⟨b, hb, rfl⟩ := mem_limitRule.1 hrule'
  obtain ⟨a, ha, hmoved⟩ := h b hb
  exact ⟨make a, mem_limitRule.2 ⟨a, ha, rfl⟩, himplies hmoved⟩

/-- Without limits there are the rules of limits of which none is given. -/
theorem lengthRules_getD (label : String) (l : Option LengthLimits) :
    (l.map (lengthRules label)).getD [] = lengthRules label (l.getD ⟨none, none, none⟩) := by
  cases l <;> rfl

theorem numberRules_getD (l : Option NumberLimits) :
    (l.map numberRules).getD [] = numberRules (l.getD ⟨none, none, none, none⟩) := by
  cases l <;> rfl

theorem lengthRules_followFrom [CharacterNames] {label label' : String} {l l' : LengthLimits}
    (hmin : Loosened (· ≥ ·) l.min l'.min) (hmax : Loosened (· ≤ ·) l.max l'.max) :
    FollowFrom (lengthRules label l) (lengthRules label' l') :=
  .append (.limitRule hmin Constraint.minLength_implies) (.limitRule hmax Constraint.maxLength_implies)

theorem numberRules_followFrom [CharacterNames] {l l' : NumberLimits} (hmin : Loosened (·.value ≥ ·.value) l.min l'.min)
    (hmax : Loosened (·.value ≤ ·.value) l.max l'.max) (hstep : Loosened Eq l.step l'.step) :
    FollowFrom (numberRules l) (numberRules l') := by
  refine .append (.append (.limitRule hmin Constraint.minimum_implies) (.limitRule hmax Constraint.maximum_implies)) ?_
  refine .limitRule hstep ?_
  rintro a b rfl
  exact .rfl

/-- Text of a certain form still has it where the author's pattern is kept, or dropped from an e-mail address. -/
theorem formatRules_followFrom [CharacterNames] {t : FormattedType} {l l' : Option FormatLimits}
    (h : l'.bind (·.custom?) = l.bind (·.custom?) ∨ t = .email ∧ l'.bind (·.custom?) = none) :
    FollowFrom (formatRules t l) (formatRules t l') := by
  refine .of_constraints_subset ?_
  rw [constraints_formatRules, constraints_formatRules]
  rcases h with hsame | ⟨rfl, hnone⟩
  · rw [hsame]
    exact List.Subset.refl _
  · rw [hnone]
    cases l.bind (·.custom?) <;> simp [FormattedType.constraints]

namespace Field.Relaxes

variable {f f' : Field}

theorem type_eq (h : f.Relaxes f') : f'.type = f.type := h.body.type_eq

/-- Each rule of a relaxed field follows from a rule that it had before. -/
theorem rules_followFrom [CharacterNames] (h : f.Relaxes f') : FollowFrom f.rules f'.rules := by
  obtain ⟨id, label, required, body⟩ := f
  obtain ⟨id', label', required', body'⟩ := f'
  obtain ⟨-, hrequired, hbody⟩ := h
  cases hbody with
  | @written t p p' l l' hmin hmax =>
    show FollowFrom ((l.map _).getD []) ((l'.map _).getD [])
    rw [lengthRules_getD, lengthRules_getD]
    exact lengthRules_followFrom (by cases l <;> cases l' <;> exact hmin) (by cases l <;> cases l' <;> exact hmax)
  | @number p p' l l' hmin hmax hstep =>
    show FollowFrom ((l.map _).getD []) ((l'.map _).getD [])
    rw [numberRules_getD, numberRules_getD]
    exact numberRules_followFrom (by cases l <;> cases l' <;> exact hmin) (by cases l <;> cases l' <;> exact hmax)
      (by cases l <;> cases l' <;> exact hstep)
  | @email p p' l l' hpattern =>
    refine formatRules_followFrom ?_
    cases hnew : l'.bind (·.custom?) with
    | none => exact .inr ⟨rfl, rfl⟩
    | some q =>
      obtain ⟨_, hold, rfl⟩ := hpattern q hnew
      exact .inl hold.symm
  | formatted hpattern => exact formatRules_followFrom (.inl hpattern.symm)
  | range hmin hmax hstep =>
    refine numberRules_followFrom ?_ ?_ hstep
    all_goals
      rintro _ ⟨⟩
      exact ⟨_, rfl, ‹_›⟩
  | select hchoices | radio hchoices => exact .singleton (Constraint.oneOf_implies hchoices) _ _
  | checkboxGroup hchoices => exact .singleton (Constraint.allOf_implies hchoices) _ _
  | @toggle t =>
    show FollowFrom (if required = true then _ else _) (if required' = true then _ else _)
    by_cases hnew : required' = true
    · rw [if_pos hnew, if_pos (hrequired hnew)]
      exact .singleton .rfl _ _
    · rw [if_neg hnew]
      exact List.forall_mem_nil _

theorem kind_eq (h : f.Relaxes f') : f'.kind = f.kind := by
  obtain ⟨id, label, required, body⟩ := f
  obtain ⟨id', label', required', body'⟩ := f'
  obtain ⟨-, -, hbody⟩ := h
  cases hbody <;> rfl

/-- A value that passed a field passes the relaxed one and is understood alike. -/
theorem check_eq [CharacterNames] (h : f.Relaxes f') {u : Value} {o : Outcome} (hu : f.check u = .ok o)
    (ho : o.messages = []) :
    f'.check u = .ok o := by
  by_cases hempty : NotGiven f.type u
  · obtain ⟨hoptional, hmissing⟩ := check_of_notGiven hempty
    cases hrequired : f.required with
    | true =>
      obtain ⟨w, hw⟩ := hmissing hrequired
      rw [hw] at hu
      cases hu
      cases ho
    | false =>
      have hrequired' : f'.required = false := by
        rw [← Bool.not_eq_true] at hrequired ⊢
        exact mt h.required hrequired
      have hempty' : NotGiven f'.type u := h.type_eq ▸ hempty
      rw [(check_of_notGiven hempty').1 hrequired', h.type_eq, ← hoptional hrequired, hu]
  · have hgiven' : ¬NotGiven f'.type u := h.type_eq ▸ hempty
    rw [check_of_given hempty] at hu
    rw [check_of_given hgiven']
    rcases FieldRules.checkContent_eq_ok_iff.1 hu with ⟨content, messages, hcontent, hmessages, rfl⟩ | ⟨-, rfl⟩
    · obtain rfl : messages = [] := ho
      obtain ⟨-, hholds⟩ := (Rule.messages_eq_nil_iff hmessages).1 rfl
      have hholds' : ∀ rule ∈ f'.rules, rule.constraint.holds content = .ok true := by
        intro rule' hrule'
        obtain ⟨rule, hrule, himplies⟩ := h.rules_followFrom rule' hrule'
        exact himplies content (hholds rule hrule)
      have hcontent' : Content.ofValue? f'.kind u = .ok (some content) := h.kind_eq ▸ hcontent
      exact FieldRules.checkContent_eq_ok_iff.2
        (.inl ⟨content, [], hcontent', Rule.messages_of_forall_holds hholds', rfl⟩)
    · cases ho

end Field.Relaxes

/-! ## Submissions -/

/-- Field by field, a submission that passed has the same report where the fields are relaxed. -/
theorem checkFields_of_relaxes [CharacterNames] {fields fields' : List Field}
    (h : List.Forall₂ Field.Relaxes fields fields') {data : Value} {r : Report} (hr : checkFields data fields = .ok r)
    (hpassed : r.issues = []) :
    checkFields data fields' = .ok r := by
  induction h generalizing r with
  | nil => exact hr
  | @cons f f' rest rest' hf _ ih =>
    unfold checkFields at hr ⊢
    simp only [bind_eq_ok_iff, pure_eq_ok_iff] at hr ⊢
    obtain ⟨o, ho, later, hlater, rfl⟩ := hr
    obtain ⟨hmessages, hissues⟩ := List.append_eq_nil_iff.1 hpassed
    have ho' : f'.check (data.get f'.id) = .ok o := by
      rw [hf.id]
      exact hf.check_eq ho (List.map_eq_nil_iff.1 hmessages)
    exact ⟨o, ho', later, ih hlater hissues, by rw [hf.id]⟩

theorem notGiven_null (t : FieldType) : NotGiven t .null := by
  cases t <;> simp [NotGiven]

namespace Document

/-- A field at the end that need not be filled in, and of which the submission says nothing, only adds its value. -/
theorem check_append [CharacterNames] {d d' : Document} {g : Field} (hfields : d'.fields = d.fields ++ [g])
    (hrequired : g.required = false) {data : Value} (hdata : data.get? g.id = none) {r : Report}
    (hr : d.check data = .ok r) :
    d'.check data = .ok ⟨r.data ++ [(g.id, valueOfNotGiven g.type .null)], r.issues⟩ := by
  obtain ⟨hobject, found, hfound, hchecks, rfl⟩ := check_eq_ok_iff.1 hr
  have hg : g.check (data.get g.id) = .ok ⟨valueOfNotGiven g.type .null, []⟩ := by
    rw [Value.get, hdata]
    exact (Field.check_of_notGiven (notGiven_null g.type)).1 hrequired
  refine check_eq_ok_iff.2 ⟨hobject, found ++ [(g, ⟨valueOfNotGiven g.type .null, []⟩)], ?_, ?_, ?_⟩
  · rw [List.map_append, hfound, hfields]
    rfl
  · exact List.forall_mem_append.2 ⟨hchecks, List.forall_mem_singleton.2 hg⟩
  · simp [Report.ofOutcomes]

/-- A submission that passed a form passes every form that asks for less, field by field, with the same data. It still
passes where a field is added at the end that need not be filled in and of which it says nothing. -/
theorem relaxing_keeps_what_passed [CharacterNames] {d d' : Document}
    (hrelax : List.Forall₂ Field.Relaxes d.fields d'.fields) {data : Value} {r : Report} (hr : d.check data = .ok r)
    (hpassed : r.passed = true) :
    d'.check data = .ok r ∧
    ∀ (d'' : Document) (g : Field), d''.fields = d'.fields ++ [g] → g.required = false → data.get? g.id = none →
      ∃ r', d''.check data = .ok r' ∧ r'.passed = true ∧
        r'.data = r.data ++ [(g.id, valueOfNotGiven g.type .null)] := by
  have hissues : r.issues = [] := List.isEmpty_iff.1 hpassed
  have hr' : d'.check data = .ok r := by
    unfold check at hr ⊢
    split_ifs at hr ⊢ with hobject
    rw [mapError_eq_ok_iff] at hr ⊢
    exact checkFields_of_relaxes hrelax hr hissues
  exact ⟨hr', fun d'' g hfields hrequired hdata => ⟨_, check_append hfields hrequired hdata hr', hpassed, rfl⟩⟩

section

attribute [local instance] CharacterNames.ascii

/-- A name may be shorter or missing, there is one size more, and nothing has to be agreed to; a telephone number is
asked for at the end. -/
theorem relaxing_keeps_what_passed_of_ada :
    let form := fun (fields : List Value) => Value.record [("formTitle", .text "Form"), ("formDescription", .text "D"),
      ("fields", .list fields)]
    let choice := fun (s : String) => Value.record [("value", .text s), ("label", .text s)]
    let v := form [
      .record [("id", .text "name"), ("type", .text "text"), ("label", .text "Name"), ("required", .bool true),
        ("validation", .record [("min", .int 3), ("max", .int 9)])],
      .record [("id", .text "size"), ("type", .text "select"), ("label", .text "Size"),
        ("options", .list [choice "S"])],
      .record [("id", .text "ok"), ("type", .text "checkbox"), ("label", .text "OK"), ("required", .bool true)]]
    let v' := form [
      .record [("id", .text "name"), ("type", .text "text"), ("label", .text "First name"),
        ("validation", .record [("min", .int 2), ("message", .text "Too short.")])],
      .record [("id", .text "size"), ("type", .text "select"), ("label", .text "Size"),
        ("options", .list [choice "XS", choice "S"])],
      .record [("id", .text "ok"), ("type", .text "checkbox"), ("label", .text "OK")]]
    let d : Document := ⟨"Form", "D", [⟨"name", "Name", true, .written .text none (some ⟨some 3, some 9, none⟩)⟩,
      ⟨"size", "Size", false, .select none [⟨"S", "S"⟩]⟩, ⟨"ok", "OK", true, .toggle .checkbox⟩]⟩
    let d' : Document := ⟨"Form", "D", [
      ⟨"name", "First name", false, .written .text none (some ⟨some 2, none, some "Too short."⟩)⟩,
      ⟨"size", "Size", false, .select none [⟨"XS", "XS"⟩, ⟨"S", "S"⟩]⟩, ⟨"ok", "OK", false, .toggle .checkbox⟩]⟩
    let g : Field := ⟨"phone", "Phone", false, .formatted .tel none none⟩
    let entries := [("name", Value.text "Ada"), ("size", .text "S"), ("ok", .bool true)]
    Document.read v = .ok d ∧ Document.read v' = .ok d' ∧ List.Forall₂ Field.Relaxes d.fields d'.fields ∧
      d.check (.record entries) = .ok ⟨entries, []⟩ ∧ d'.check (.record entries) = .ok ⟨entries, []⟩ ∧
      ∃ r', Document.check ⟨"Form", "D", d'.fields ++ [g]⟩ (.record entries) = .ok r' ∧ r'.passed = true ∧
        r'.data = entries ++ [("phone", .null)] := by
  intro form choice v v' d d' g entries
  have hrelax : List.Forall₂ Field.Relaxes d.fields d'.fields := by
    refine .cons ⟨rfl, fun _ => rfl, .written ?_ ?_⟩ (.cons ⟨rfl, id, .select ?_⟩ (.cons ⟨rfl, fun _ => rfl, .toggle⟩ .nil))
    · rintro _ ⟨⟩
      exact ⟨3, rfl, by decide⟩
    · rintro _ ⟨⟩
    · simp
  have hr : d.check (.record entries) = .ok ⟨entries, []⟩ := rfl
  obtain ⟨hr', happend⟩ := relaxing_keeps_what_passed hrelax hr rfl
  exact ⟨read_eq_ok_iff.2 ⟨Gate.defects_eq_ok_nil_iff.1 (by decide +kernel), by decide +kernel⟩,
    read_eq_ok_iff.2 ⟨Gate.defects_eq_ok_nil_iff.1 (by decide +kernel), by decide +kernel⟩, hrelax, hr, hr',
    happend ⟨"Form", "D", d'.fields ++ [g]⟩ g rfl rfl rfl⟩

end

end Document

end WebForm
