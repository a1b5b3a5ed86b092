/-
A submission is checked field by field. A report is put together from what the check of each field found of
the value at its id, in the order of the fields, so no field sees another one's value, no entry at another key
is looked at, and the issues fall into one group for each field that has any. The ids of a document that was
read are distinct, so nothing that was found of one field is lost to another.
-/
import WebForm.Submission.Basic
import WebForm.Proofs.Document.Sound

namespace WebForm

/-! ## What the check of one value found -/

namespace FieldRules

theorem checkContent_eq_ok_iff [CharacterNames] {r : FieldRules} {v : Value} {o : Outcome} : r.checkContent v = .ok o ↔
    (∃ content messages, Content.ofValue? r.kind v = .ok (some content) ∧
      Rule.messages content r.rules [] = .ok messages ∧ o = ⟨content.toValue, messages⟩) ∨
    (Content.ofValue? r.kind v = .ok none ∧ o = ⟨v, [r.typeMessage]⟩) := by
  unfold checkContent
  rw [bind_eq_ok_iff]
  constructor
  · rintro ⟨_ | content, hcontent, h⟩
    · exact .inr ⟨hcontent, (pure_eq_ok_iff.1 h).symm⟩
    · obtain ⟨messages, hmessages, h⟩ := bind_eq_ok_iff.1 h
      exact .inl ⟨content, messages, hcontent, hmessages, (pure_eq_ok_iff.1 h).symm⟩
  · rintro (⟨content, messages, hcontent, hmessages, rfl⟩ | ⟨hcontent, rfl⟩)
    · exact ⟨some content, hcontent, bind_eq_ok_iff.2 ⟨messages, hmessages, rfl⟩⟩
    · exact ⟨none, hcontent, rfl⟩

end FieldRules

/-- A message that was already found is not added again. -/
theorem Rule.nodup_messages [CharacterNames] {content : Content} {rules : List Rule} {found messages : List String}
    (hfound : found.Nodup) (h : Rule.messages content rules found = .ok messages) : messages.Nodup := by
  induction rules generalizing found with
  | nil => exact Except.ok.inj h ▸ hfound
  | cons rule rest ih =>
    obtain ⟨b, -, h⟩ := bind_eq_ok_iff.1 h
    split_ifs at h with hskip
    · exact ih hfound h
    · rw [Bool.or_eq_true, not_or, List.contains_iff_mem] at hskip
      exact ih (List.nodup_append_comm.1 (List.nodup_cons.2 ⟨hskip.2, hfound⟩)) h

namespace FieldRules

theorem nodup_messages_of_checkContent [CharacterNames] {r : FieldRules} {v : Value} {o : Outcome}
    (h : r.checkContent v = .ok o) :
    o.messages.Nodup := by
  rcases checkContent_eq_ok_iff.1 h with ⟨content, messages, -, hmessages, rfl⟩ | ⟨-, rfl⟩
  · exact Rule.nodup_messages List.nodup_nil hmessages
  · exact List.nodup_singleton _

/-- The messages about one value are distinct. -/
theorem nodup_messages [CharacterNames] {r : FieldRules} {v : Value} {o : Outcome} (h : r.check v = .ok o) :
    o.messages.Nodup := by
  unfold check at h
  split_ifs at h
  · exact nodup_messages_of_checkContent h
  · exact nodup_messages_of_checkContent h
  · cases h
    exact List.nodup_singleton _
  · cases h
    exact List.nodup_nil
  · exact nodup_messages_of_checkContent h

end FieldRules

/-! ## Reports of outcomes -/

/-- Where keys are distinct, only one member of a list has the key of a member. -/
theorem filter_key_eq_singleton {α β : Type} [DecidableEq β] {key : α → β} {l : List α} (h : (l.map key).Nodup) {a : α}
    (ha : a ∈ l) : (l.filter fun b => key b = key a) = [a] := by
  induction l with
  | nil => cases ha
  | cons b l ih =>
    rw [List.map_cons, List.nodup_cons] at h
    rcases List.mem_cons.1 ha with rfl | ha
    · have hrest : (l.filter fun b => key b = key a) = [] := by
        rw [List.filter_eq_nil_iff]
        intro b hb he
        exact h.1 (List.mem_map.2 ⟨b, hb, of_decide_eq_true he⟩)
      rw [List.filter_cons_of_pos (by simp), hrest]
    · have hne : ¬key b = key a := fun he => h.1 (List.mem_map.2 ⟨a, ha, he.symm⟩)
      rw [List.filter_cons_of_neg (by simpa using hne), ih h.2 ha]

namespace Report

/-- The report of fields, each with what was found of it. -/
def ofOutcomes (found : List (Field × Outcome)) : Report :=
  ⟨found.map fun p => (p.1.id, p.2.value), found.flatMap fun p => p.2.messages.map (Issue.mk p.1.id)⟩

/-- What a report says about the ids that satisfy a condition. -/
def restrict (keep : String → Bool) (r : Report) : Report :=
  ⟨r.data.filter fun e => keep e.1, r.issues.filter fun i => keep i.id⟩

end Report

/-- A submission has a report if each field's check has an outcome, and the report is that of the outcomes. -/
theorem checkFields_eq_ok_iff [CharacterNames] {data : Value} {fields : List Field} {r : Report} :
    checkFields data fields = .ok r ↔
    ∃ found, found.map Prod.fst = fields ∧ (∀ p ∈ found, p.1.check (data.get p.1.id) = .ok p.2) ∧
      r = Report.ofOutcomes found := by
  induction fields generalizing r with
  | nil =>
    constructor
    · intro h
      cases h
      exact ⟨[], rfl, List.forall_mem_nil _, rfl⟩
    · rintro ⟨found, hfields, -, rfl⟩
      obtain rfl := List.map_eq_nil_iff.1 hfields
      rfl
  | cons f rest ih =>
    unfold checkFields
    simp only [bind_eq_ok_iff, pure_eq_ok_iff, ih]
    constructor
    · rintro ⟨o, ho, _, ⟨found, rfl, hfound, rfl⟩, rfl⟩
      exact ⟨(f, o) :: found, rfl, List.forall_mem_cons.2 ⟨ho, hfound⟩, rfl⟩
    · rintro ⟨found, hfields, hfound, rfl⟩
      obtain ⟨⟨g, o⟩, found, rfl, rfl, rfl⟩ := List.map_eq_cons_iff.1 hfields
      obtain ⟨ho, hfound⟩ := List.forall_mem_cons.1 hfound
      exact ⟨o, ho, _, ⟨found, rfl, hfound, rfl⟩, rfl⟩

namespace Report

theorem restrict_ofOutcomes (keep : String → Bool) (found : List (Field × Outcome)) :
    (ofOutcomes found).restrict keep = ofOutcomes (found.filter fun p => keep p.1.id) := by
  have hblock : ∀ (f : Field) (o : Outcome), (o.messages.map (Issue.mk f.id)).filter (fun i => keep i.id) =
      if keep f.id then o.messages.map (Issue.mk f.id) else [] := by
    intro f o
    cases hk : keep f.id <;> simp [List.filter_map, Function.comp_def, hk]
  have hissues : (ofOutcomes found).issues.filter (fun i => keep i.id) =
      (ofOutcomes (found.filter fun p => keep p.1.id)).issues := by
    induction found with
    | nil => rfl
    | cons p found ih =>
      simp only [ofOutcomes, List.flatMap_cons, List.filter_append, hblock, List.filter_cons] at ih ⊢
      rw [ih]
      split_ifs <;> rfl
  have hdata : (ofOutcomes found).data.filter (fun e => keep e.1) =
      (ofOutcomes (found.filter fun p => keep p.1.id)).data := List.filter_map
  rw [restrict, hissues, hdata]

variable {found : List (Field × Outcome)}

/-- With distinct ids, what a report says about one id is what was found of the one field with it. -/
theorem restrict_of_mem (hids : (found.map fun p => p.1.id).Nodup) {p : Field × Outcome} (hp : p ∈ found) :
    (ofOutcomes found).restrict (· = p.1.id) = ofOutcomes [p] := by
  rw [restrict_ofOutcomes, filter_key_eq_singleton hids hp]

theorem errorsOf_eq (r : Report) (id : String) : r.errorsOf id = (r.restrict (· = id)).issues.map (·.message) := rfl

theorem get_dataValue (r : Report) (id : String) : r.dataValue.get id = (r.restrict (· = id)).dataValue.get id := by
  obtain ⟨data, issues⟩ := r
  show (Value.record data).get id = (Value.record (data.filter fun e => e.1 = id)).get id
  induction data with
  | nil => rfl
  | cons e data ih =>
    obtain ⟨k, v⟩ := e
    by_cases hk : k = id <;> simp [hk, ih]

theorem errorsOf_of_mem (hids : (found.map fun p => p.1.id).Nodup) {p : Field × Outcome} (hp : p ∈ found) :
    (ofOutcomes found).errorsOf p.1.id = p.2.messages := by
  rw [errorsOf_eq, restrict_of_mem hids hp]
  simp [ofOutcomes, Function.comp_def]

theorem get_dataValue_of_mem (hids : (found.map fun p => p.1.id).Nodup) {p : Field × Outcome} (hp : p ∈ found) :
    (ofOutcomes found).dataValue.get p.1.id = p.2.value := by
  rw [get_dataValue, restrict_of_mem hids hp]
  simp [ofOutcomes, dataValue]

/-! ## Groups of issues -/

/-- A message whose field has no group yet starts one at the end. -/
theorem note_of_not_mem {groups : List (String × List String)} {i : Issue} (h : ∀ g ∈ groups, g.1 ≠ i.id) :
    note i groups = groups ++ [(i.id, [i.message])] := by
  induction groups with
  | nil => rfl
  | cons g groups ih =>
    obtain ⟨hg, hgroups⟩ := List.forall_mem_cons.1 h
    rw [note, if_neg hg, ih hgroups, List.cons_append]

/-- A message whose field has the last group is added to it. -/
theorem note_of_last {groups : List (String × List String)} {id : String} (h : ∀ g ∈ groups, g.1 ≠ id)
    (messages : List String) (m : String) :
    note ⟨id, m⟩ (groups ++ [(id, messages)]) = groups ++ [(id, messages ++ [m])] := by
  induction groups with
  | nil => simp [note]
  | cons g groups ih =>
    obtain ⟨hg, hgroups⟩ := List.forall_mem_cons.1 h
    rw [List.cons_append, note, if_neg hg, ih hgroups, List.cons_append]

/-- All the messages of one field go into one group, which is there only if there are any. -/
theorem foldl_note_block {groups : List (String × List String)} {id : String} (h : ∀ g ∈ groups, g.1 ≠ id)
    (messages : List String) : (messages.map (Issue.mk id)).foldl (fun groups i => note i groups) groups =
      groups ++ if messages = [] then [] else [(id, messages)] := by
  have hlast : ∀ later earlier : List String, (later.map (Issue.mk id)).foldl (fun groups i => note i groups)
      (groups ++ [(id, earlier)]) = groups ++ [(id, earlier ++ later)] := by
    intro later
    induction later with
    | nil => simp
    | cons m later ih =>
      intro earlier
      rw [List.map_cons, List.foldl_cons, note_of_last h, ih, List.append_assoc, List.singleton_append]
  cases messages with
  | nil => simp
  | cons m messages =>
    rw [List.map_cons, List.foldl_cons, note_of_not_mem h, hlast]
    rfl

/-- With distinct ids there is one group for each field that has a message, in the order of the fields. -/
theorem errorsByField_ofOutcomes (hids : (found.map fun p => p.1.id).Nodup) : (ofOutcomes found).errorsByField =
    (found.filter fun p => p.2.messages ≠ []).map fun p => (p.1.id, p.2.messages) := by
  have hfold : ∀ groups : List (String × List String), (∀ g ∈ groups, ∀ p ∈ found, g.1 ≠ p.1.id) →
      (ofOutcomes found).issues.foldl (fun groups i => note i groups) groups =
        groups ++ (found.filter fun p => p.2.messages ≠ []).map fun p => (p.1.id, p.2.messages) := by
    induction found with
    | nil => simp [ofOutcomes]
    | cons p found ih =>
      intro groups hgroups
      rw [List.map_cons, List.nodup_cons] at hids
      have hblock := foldl_note_block (fun g hg => hgroups g hg p List.mem_cons_self) p.2.messages
      have hnew : ∀ g ∈ groups ++ (if p.2.messages = [] then [] else [(p.1.id, p.2.messages)]), ∀ q ∈ found,
          g.1 ≠ q.1.id := by
        intro g hg q hq
        rcases List.mem_append.1 hg with hg | hg
        · exact hgroups g hg q (List.mem_cons_of_mem _ hq)
        · split_ifs at hg
          · cases hg
          · obtain rfl := List.mem_singleton.1 hg
            exact fun he => hids.1 (List.mem_map.2 ⟨q, hq, he.symm⟩)
      show List.foldl _ groups (p.2.messages.map (Issue.mk p.1.id) ++ (ofOutcomes found).issues) = _
      rw [List.foldl_append, hblock, ih hids.2 _ hnew, List.filter_cons]
      by_cases hm : p.2.messages = [] <;> simp [hm]
  exact hfold [] (List.forall_mem_nil _)

/-- There are as many groups as fields with a message. -/
theorem length_errorsByField (hids : (found.map fun p => p.1.id).Nodup) : (ofOutcomes found).errorsByField.length =
    (found.map Prod.fst).countP fun f => (ofOutcomes found).errorsOf f.id ≠ [] := by
  rw [errorsByField_ofOutcomes hids, List.length_map, List.countP_map, ← List.countP_eq_length_filter]
  refine List.countP_congr fun p hp => ?_
  rw [Function.comp_apply, errorsOf_of_mem hids hp]

/-- The groups one after another are the issues. -/
theorem flatten_errorsByField (hids : (found.map fun p => p.1.id).Nodup) :
    ((ofOutcomes found).errorsByField.flatMap fun g => g.2.map (Issue.mk g.1)) = (ofOutcomes found).issues := by
  rw [errorsByField_ofOutcomes hids, List.flatMap_map]
  show _ = found.flatMap _
  induction found with
  | nil => rfl
  | cons p found ih =>
    rw [List.map_cons, List.nodup_cons] at hids
    rw [List.filter_cons, List.flatMap_cons]
    by_cases hm : p.2.messages = []
    · simp [hm, ← ih hids.2]
    · simp [hm, ← ih hids.2]

end Report

/-! ## Entries that no field asks for -/

namespace Entries

theorem find?_eq_some_iff {entries : Entries} (h : (entries.map Prod.fst).Nodup) {key : String} {v : Value} :
    Entries.find? entries key = some v ↔ (Scalar.text key, v) ∈ entries := by
  unfold find?
  rw [Option.map_eq_some_iff]
  constructor
  · rintro ⟨⟨k, _⟩, he, rfl⟩
    obtain rfl : k = .text key := by simpa using List.find?_some he
    exact List.mem_of_find?_eq_some he
  · intro hv
    obtain ⟨e, he⟩ : ∃ e, List.find? (fun e => e.1 == Scalar.text key) entries = some e := by
      rw [← Option.isSome_iff_exists, List.find?_isSome]
      exact ⟨_, hv, by simp⟩
    have hkey : e.1 = Scalar.text key := by simpa using List.find?_some he
    obtain rfl := List.inj_on_of_nodup_map h (List.mem_of_find?_eq_some he) hv hkey
    exact ⟨_, he, rfl⟩

theorem find?_perm {entries entries' : Entries} (h : entries.Perm entries') (hnodup : (entries.map Prod.fst).Nodup)
    (key : String) : Entries.find? entries key = Entries.find? entries' key := by
  refine Option.ext fun v => ?_
  rw [find?_eq_some_iff hnodup, find?_eq_some_iff ((h.map Prod.fst).nodup_iff.1 hnodup), h.mem_iff]

theorem find?_filter {keep : Scalar × Value → Bool} {key : String} (h : ∀ v, keep (.text key, v) = true)
    (entries : Entries) : Entries.find? (entries.filter keep) key = Entries.find? entries key := by
  have hkeep : ∀ e : Scalar × Value, e.1 = .text key → keep e = true := by
    rintro ⟨_, v⟩ rfl
    exact h v
  unfold find?
  rw [List.find?_filter]
  congr 2
  funext e
  by_cases he : e.1 = .text key <;> simp [he, hkeep]

end Entries

namespace Document

/-- Whether an entry of a submission is at the id of a field. -/
def asksFor (d : Document) (e : Scalar × Value) : Bool := d.fieldIds.any fun id => e.1 = .text id

/-- Entries that are the same at the ids of the fields, in whatever order, hold the same value at each of them. -/
theorem get_eq_of_perm {d : Document} {entries entries' : Entries} (hkeys : (entries.map Prod.fst).Nodup)
    (h : (entries.filter d.asksFor).Perm (entries'.filter d.asksFor)) {f : Field} (hf : f ∈ d.fields) :
    (Value.object entries').get f.id = (Value.object entries).get f.id := by
  have hasks : ∀ v, d.asksFor (.text f.id, v) = true := fun v =>
    List.any_eq_true.2 ⟨f.id, List.mem_map_of_mem hf, decide_eq_true rfl⟩
  have hnodup : ((entries.filter d.asksFor).map Prod.fst).Nodup := hkeys.sublist (List.filter_sublist.map Prod.fst)
  have hfind : Entries.find? entries' f.id = Entries.find? entries f.id := by
    rw [← Entries.find?_filter hasks entries, ← Entries.find?_filter hasks entries', Entries.find?_perm h hnodup]
  exact congrArg (Option.getD · Value.null) hfind

/-! ## Whole submissions -/

theorem check_eq_ok_iff [CharacterNames] {d : Document} {data : Value} {r : Report} : d.check data = .ok r ↔
    data.isObject = true ∧ ∃ found, found.map Prod.fst = d.fields ∧
      (∀ p ∈ found, p.1.check (data.get p.1.id) = .ok p.2) ∧ r = Report.ofOutcomes found := by
  rw [← checkFields_eq_ok_iff]
  unfold check
  cases data.isObject with
  | false => simp
  | true =>
    cases checkFields data d.fields <;> simp [Except.mapError]

theorem ids_of_found {d : Document} {found : List (Field × Outcome)} (h : found.map Prod.fst = d.fields) :
    (found.map fun p => p.1.id) = d.fieldIds := by
  rw [fieldIds, ← h, List.map_map]
  rfl

/-- The report of a submission, told field by field. -/
structure FieldWise [CharacterNames] (d : Document) (data : Value) (r : Report) : Prop where
  /-- The understood data has the ids of the fields as its keys, in order, and they differ. -/
  keys : r.data.map Prod.fst = d.fieldIds
  distinct : d.fieldIds.Nodup
  /-- At each id stands what the check of the field made of the value there, and its messages, all different. -/
  outcomes : ∀ f ∈ d.fields, ∃ o, f.check (data.get f.id) = .ok o ∧ o.messages.Nodup ∧
    r.dataValue.get f.id = o.value ∧ r.errorsOf f.id = o.messages
  /-- The issues are the messages of one field after those of another, in the order of the fields. -/
  ordered : r.issues = d.fieldIds.flatMap fun id => (r.errorsOf id).map (Issue.mk id)
  grouped : (r.errorsByField.flatMap fun g => g.2.map (Issue.mk g.1)) = r.issues
  counted : r.summary = (if r.issues = [] then "[PASS] " else "[FAIL] ") ++ toString d.fields.length ++ " field(s), "
    ++ toString (d.fields.countP fun f => r.errorsOf f.id ≠ []) ++ " invalid, " ++ toString r.issues.length ++ " error(s)"
  parsed : r.parse = if r.issues = [] then .ok r.dataValue else .error r.issues

theorem fieldWise_of_check [CharacterNames] {d : Document} (hd : d.Sound) {data : Value} {r : Report}
    (h : d.check data = .ok r) :
    d.FieldWise data r := by
  obtain ⟨-, found, hfields, hfound, rfl⟩ := check_eq_ok_iff.1 h
  have hkeys := ids_of_found hfields
  have hids : (found.map fun p => p.1.id).Nodup := hkeys ▸ hd.ids
  have hpassed : ∀ r : Report, r.passed = decide (r.issues = []) := by
    intro r
    rw [Report.passed, Bool.eq_iff_iff, List.isEmpty_iff, decide_eq_true_iff]
  refine ⟨?_, hd.ids, ?_, ?_, Report.flatten_errorsByField hids, ?_, ?_⟩
  · rw [← hkeys, Report.ofOutcomes, List.map_map]
    rfl
  · intro f hf
    obtain ⟨p, hp, rfl⟩ := List.mem_map.1 (hfields ▸ hf)
    exact ⟨p.2, hfound p hp, FieldRules.nodup_messages (hfound p hp), Report.get_dataValue_of_mem hids hp,
      Report.errorsOf_of_mem hids hp⟩
  · rw [← hkeys, List.flatMap_map]
    exact List.flatMap_congr fun p hp => by rw [Report.errorsOf_of_mem hids hp]
  · have hlength : (Report.ofOutcomes found).data.length = d.fields.length := by
      rw [← hfields, Report.ofOutcomes, List.length_map, List.length_map]
    rw [Report.summary, hpassed, Report.length_errorsByField hids, hfields, hlength]
    simp only [decide_eq_true_eq]
  · rw [Report.parse, hpassed]
    simp only [decide_eq_true_eq]

/-- What is found of a list of fields is determined by the values at their ids. -/
theorem found_unique [CharacterNames] {data : Value} {found found' : List (Field × Outcome)}
    (hfields : found'.map Prod.fst = found.map Prod.fst) (h : ∀ p ∈ found, p.1.check (data.get p.1.id) = .ok p.2)
    (h' : ∀ p ∈ found', p.1.check (data.get p.1.id) = .ok p.2) : found' = found := by
  induction found generalizing found' with
  | nil => exact List.map_eq_nil_iff.1 hfields
  | cons p found ih =>
    obtain ⟨q, found', rfl, hfst, hrest⟩ := List.map_eq_cons_iff.1 hfields
    obtain ⟨hp, hfound⟩ := List.forall_mem_cons.1 h
    obtain ⟨hq, hfound'⟩ := List.forall_mem_cons.1 h'
    rw [hfst] at hq
    have hsnd : q.2 = p.2 := Except.ok.inj (hq.symm.trans hp)
    rw [ih hrest hfound hfound', Prod.ext hfst hsnd]

/-- What two submissions' reports say about some ids is the same if the documents have the same fields with these
ids and the submissions the same values there. -/
theorem restrict_eq_of_agree [CharacterNames] {d d' : Document} {data data' : Value} {r r' : Report}
    {keep : String → Bool} (h : d.check data = .ok r) (h' : d'.check data' = .ok r')
    (hfields : (d'.fields.filter fun f => keep f.id) = d.fields.filter fun f => keep f.id)
    (hdata : ∀ f ∈ d.fields, keep f.id = true → data'.get f.id = data.get f.id) :
    r'.restrict keep = r.restrict keep := by
  obtain ⟨-, found, hfst, hfound, rfl⟩ := check_eq_ok_iff.1 h
  obtain ⟨-, found', hfst', hfound', rfl⟩ := check_eq_ok_iff.1 h'
  have hkept : ∀ found : List (Field × Outcome), (found.filter fun p => keep p.1.id).map Prod.fst =
      (found.map Prod.fst).filter fun f => keep f.id := by
    intro found
    rw [List.filter_map]
    rfl
  rw [Report.restrict_ofOutcomes, Report.restrict_ofOutcomes]
  congr 1
  refine found_unique ?_ (fun p hp => hfound p (List.mem_filter.1 hp).1) fun p hp => ?_
  · rw [hkept, hkept, hfst, hfst', hfields]
  · obtain ⟨hp, hk⟩ := List.mem_filter.1 hp
    have hmem : p.1 ∈ d.fields := by
      have hfiltered : p.1 ∈ d'.fields.filter fun f => keep f.id :=
        List.mem_filter.2 ⟨hfst' ▸ List.mem_map_of_mem hp, hk⟩
      rw [hfields] at hfiltered
      exact (List.mem_filter.1 hfiltered).1
    rw [← hdata p.1 hmem hk]
    exact hfound' p hp

/-- A report of a document that was read is told field by field. Entries at keys that are no ids and the order of
the entries do not count, a change at one id changes nothing of what is said about the others, and about a field
the same is said in every document with it. -/
theorem check_field_by_field [CharacterNames] {v : Value} {d : Document} (hd : Document.read v = .ok d) {data : Value}
    {r : Report} (h : d.check data = .ok r) :
    d.FieldWise data r ∧
      (∀ entries entries' : Entries, data = .object entries → (entries.map Prod.fst).Nodup →
        (entries.filter d.asksFor).Perm (entries'.filter d.asksFor) → d.check (.object entries') = .ok r) ∧
      (∀ id data' r', (∀ f ∈ d.fields, f.id ≠ id → data'.get f.id = data.get f.id) → d.check data' = .ok r' →
        r'.restrict (· ≠ id) = r.restrict (· ≠ id)) ∧
      ∀ v' d' r', Document.read v' = .ok d' → d'.check data = .ok r' → ∀ f ∈ d.fields, f ∈ d'.fields →
        r'.restrict (· = f.id) = r.restrict (· = f.id) := by
  have hsound := read_sound hd
  refine ⟨fieldWise_of_check hsound h, ?_, ?_, ?_⟩
  · rintro entries entries' rfl hkeys hperm
    obtain ⟨-, found, hfields, hfound, rfl⟩ := check_eq_ok_iff.1 h
    refine check_eq_ok_iff.2 ⟨rfl, found, hfields, fun p hp => ?_, rfl⟩
    rw [get_eq_of_perm hkeys hperm (hfields ▸ List.mem_map_of_mem hp)]
    exact hfound p hp
  · intro id data' r' hdata h'
    exact restrict_eq_of_agree h h' rfl fun f hf hne => hdata f hf (of_decide_eq_true hne)
  · intro v' d' r' hd' h' f hf hf'
    refine restrict_eq_of_agree h h' ?_ fun _ _ _ => rfl
    rw [filter_key_eq_singleton hsound.ids hf, filter_key_eq_singleton (read_sound hd').ids hf']

section

attribute [local instance] CharacterNames.ascii

/-- Two invalid fields, and an entry that no field asks for: without it and the other way round the report is
the same. -/
theorem check_field_by_field_of_two :
    let v := Value.record [("formTitle", .text "Form"), ("formDescription", .text "D"), ("fields", .list [
      .record [("id", .text "age"), ("type", .text "number"), ("label", .text "Age"), ("required", .bool true)],
      .record [("id", .text "on"), ("type", .text "switch"), ("label", .text "On"), ("required", .bool true)]])]
    let data := Value.record [("age", .text ""), ("extra", .int 1), ("on", .bool false)]
    ∃ d r, Document.read v = .ok d ∧ d.check data = .ok r ∧
      r.summary = "[FAIL] 2 field(s), 2 invalid, 2 error(s)" ∧ d.FieldWise data r ∧
      d.check (.record [("on", .bool false), ("age", .text "")]) = .ok r := by
  intro v data
  let d : Document := ⟨"Form", "D", [⟨"age", "Age", true, .number none none⟩, ⟨"on", "On", true, .toggle .switch⟩]⟩
  let r : Report := ⟨[("age", .text ""), ("on", .bool false)], [⟨"age", "Age is required"⟩, ⟨"on", "On must be turned on"⟩]⟩
  have hd : Document.read v = .ok d :=
    read_eq_ok_iff.2 ⟨Gate.defects_eq_ok_nil_iff.1 (by decide +kernel), by decide +kernel⟩
  have h : d.check data = .ok r := rfl
  obtain ⟨hwise, hentries, -, -⟩ := check_field_by_field hd h
  exact ⟨d, r, hd, h, by decide +kernel, hwise, hentries _ _ rfl (by decide +kernel) (List.Perm.swap _ _ [])⟩

end

end Document

end WebForm
