/-
Which part each field has in the list of defects. The list is that of the header followed by one part for each field,
in order, and a part depends only on its field, on the position and on which ids the fields before use. So nothing that
comes later changes what was found, and an id that is used again is reported once for each time after the first.
-/
import WebForm.Proofs.Document.Grammar

namespace WebForm

/-! ## Wording -/

theorem head?_toList_append {s : String} {c : Char} (h : s.toList.head? = some c) (t : String) :
    (s ++ t).toList.head? = some c := by
  rw [String.toList_append, List.head?_append, h]
  rfl

theorem FieldDefect.head?_message (name : String) (defect : FieldDefect) :
    (defect.message name).toList.head? = some 'F' ∨ (defect.message name).toList.head? = some 'I' := by
  cases defect with
  | typeMissing | labelMissing | requiredNotBoolean | validationNotObject | placeholderNotText | stepNotPositive
    | boundsOutOfOrder | rangeBoundsMissing | messageNotText | patternNotText | optionsMissing =>
    exact .inl (head?_toList_append (head?_toList_append rfl _) _)
  | lengthInvalid limit | numberInvalid limit =>
    exact .inl (head?_toList_append (head?_toList_append (head?_toList_append (head?_toList_append rfl _) _) _) _)
  | patternInvalid error => exact .inl (head?_toList_append (head?_toList_append (head?_toList_append rfl _) _) _)
  | typeUnknown shown | optionInvalid index =>
    exact .inr (head?_toList_append (head?_toList_append (head?_toList_append rfl _) _) _)

namespace Defect

/-- Only a repeated id is reported in the words for it, whatever the texts of an author in other messages are. -/
theorem message_eq_idRepeated_iff {d : Defect} {id : String} :
    d.message = (idRepeated id).message ↔ d = .idRepeated id := by
  constructor
  · intro h
    have hfirst : d.message.toList.head? = some 'D' := by
      rw [h]
      exact head?_toList_append (head?_toList_append rfl id) "\""
    cases d with
    | idRepeated id' =>
      unfold message at h
      have hid : id' = id := by simpa using h
      rw [hid]
    | headerMissing key =>
      -- the key may be any text, but the messages end differently
      have hlast := congrArg (fun s : String => s.toList.getLast?) h
      unfold message at hlast
      simp only [String.toList_append, List.getLast?_append] at hlast
      cases hlast
    | notObject | fieldsNotList | fieldsEmpty => cases hfirst
    | fieldNotObject index | idMissing index =>
      cases hfirst.symm.trans (head?_toList_append (head?_toList_append rfl (toString index)) _)
    | field name defect =>
      rcases FieldDefect.head?_message name.text defect with h | h <;> cases hfirst.symm.trans h
  · rintro rfl
    rfl

theorem count_message_idRepeated (found : List Defect) (id : String) :
    (found.map message).count (idRepeated id).message = found.count (.idRepeated id) := by
  rw [List.count, List.countP_map, List.count]
  refine List.countP_congr fun d _ => ?_
  rw [Function.comp_apply, beq_iff_eq, beq_iff_eq, message_eq_idRepeated_iff]

end Defect

namespace Gate

/-! ## One field -/

/-- Whether a list holds the ids that fields use, in whatever order and however often each. -/
def HoldsIds (ids : List String) (fields : List Value) : Prop := ∀ id, id ∈ ids ↔ ∃ f ∈ fields, idOf? f = some id

theorem HoldsIds.concat {ids : List String} {fields : List Value} (h : HoldsIds ids fields) (raw : Value) :
    HoldsIds (ids ++ (idOf? raw).toList) (fields ++ [raw]) := by
  intro id
  rw [List.mem_append, h id]
  simp [or_and_right, exists_or]

/-- What is found in a field depends on the ids before it only by which ids they are. -/
theorem fieldDefects_congr [CharacterNames] (raw : Value) (index : Nat) {ids ids' : List String}
    (h : ∀ id, id ∈ ids ↔ id ∈ ids') :
    fieldDefects raw index ids = fieldDefects raw index ids' := by
  have hid : idDefects raw index ids = idDefects raw index ids' := by
    unfold idDefects
    cases idOf? raw with
    | none => rfl
    | some id =>
      have hcontains : ids.contains id = ids'.contains id := by
        rw [Bool.eq_iff_iff, List.contains_iff_mem, List.contains_iff_mem, h id]
      simp only [hcontains]
  unfold fieldDefects
  rw [hid]

theorem count_idRepeated_idDefects (raw : Value) (index : Nat) (ids : List String) (id : String) :
    (idDefects raw index ids).count (.idRepeated id) = if idOf? raw = some id ∧ id ∈ ids then 1 else 0 := by
  unfold idDefects
  cases hraw : idOf? raw with
  | none => simp
  | some used =>
    by_cases hused : used = id
    · subst hused
      by_cases hmem : used ∈ ids <;> simp [require, hmem]
    · by_cases hmem : used ∈ ids <;> simp [require, hmem, hused]

/-- A field reports an id as repeated once if it uses it and an earlier one does, and else not at all. -/
theorem count_idRepeated_fieldDefects [CharacterNames] {raw : Value} {index : Nat} {ids : List String}
    {part : List Defect} (h : fieldDefects raw index ids = .ok part) (id : String) :
    part.count (.idRepeated id) = if idOf? raw = some id ∧ id ∈ ids then 1 else 0 := by
  unfold fieldDefects at h
  split at h
  · obtain ⟨found, -, hpart⟩ := bind_eq_ok_iff.1 h
    obtain rfl := pure_eq_ok_iff.1 hpart
    -- what stands behind the defects of the id is told of the field, so none of it is a repeated id
    have hothers : ((commonDefects raw ++ found).map (Defect.field (nameOf raw index))).count (.idRepeated id) = 0 :=
      List.count_eq_zero.2 (by simp)
    rw [List.count_append, hothers, Nat.add_zero, count_idRepeated_idDefects]
  · rename_i hobject
    obtain rfl := Except.ok.inj h
    have hnone : idOf? raw = none := by
      rw [idOf?, Value.get_of_not_isObject (Bool.not_eq_true _ ▸ hobject)]
    simp [hnone]

/-! ## All fields -/

/-- The parts of what is found in fields, one for each: what is found in the field at its position, in whatever way the
ids that the fields before it use are listed. -/
structure PartsOf [CharacterNames] (fields : List Value) (parts : List (List Defect)) : Prop where
  length : parts.length = fields.length
  part : ∀ i raw, fields[i]? = some raw → ∀ ids, HoldsIds ids (fields.take i) →
    ∃ part, parts[i]? = some part ∧ fieldDefects raw i ids = .ok part

theorem fieldsDefects_cons_eq_ok_iff [CharacterNames] {raw : Value} {rest : List Value} {index : Nat}
    {earlier : List String} {found : List Defect} : fieldsDefects (raw :: rest) index earlier = .ok found ↔
      ∃ here later, fieldDefects raw index earlier = .ok here ∧
        fieldsDefects rest (index + 1) (earlier ++ (idOf? raw).toList) = .ok later ∧ found = here ++ later := by
  simp only [fieldsDefects, bind_eq_ok_iff, pure_eq_ok_iff, exists_and_left, @eq_comm _ found]

/-- What is found from a position on falls into parts. The ids that are carried along are those of the fields before. -/
theorem exists_parts [CharacterNames] {before fields : List Value} {earlier : List String} {found : List Defect}
    (hearlier : HoldsIds earlier before) (h : fieldsDefects fields before.length earlier = .ok found) :
    ∃ parts : List (List Defect), found = parts.flatten ∧ parts.length = fields.length ∧
      ∀ i raw, fields[i]? = some raw → ∀ ids, HoldsIds ids (before ++ fields.take i) →
        ∃ part, parts[i]? = some part ∧ fieldDefects raw (before.length + i) ids = .ok part := by
  induction fields generalizing before earlier found with
  | nil =>
    obtain rfl := Except.ok.inj h
    exact ⟨[], rfl, rfl, by simp⟩
  | cons first rest ih =>
    obtain ⟨here, later, hhere, hlater, rfl⟩ := fieldsDefects_cons_eq_ok_iff.1 h
    have hnext := hearlier.concat first
    obtain ⟨parts, rfl, hlength, hparts⟩ := ih hnext (by simpa using hlater)
    refine ⟨here :: parts, by simp, by simp [hlength], fun i raw hraw ids hids => ?_⟩
    cases i with
    | zero =>
      obtain rfl : first = raw := by simpa using hraw
      have hsame : ∀ id, id ∈ ids ↔ id ∈ earlier := fun id => by rw [hids id, hearlier id]; simp
      exact ⟨here, rfl, (fieldDefects_congr first _ hsame).trans hhere⟩
    | succ i =>
      obtain ⟨part, hpart, hfound⟩ := hparts i raw (by simpa using hraw) ids (by simpa using hids)
      refine ⟨part, by simpa using hpart, ?_⟩
      rwa [List.length_append, List.length_singleton, Nat.add_assoc, Nat.add_comm 1 i] at hfound

/-- Fields that follow add to what was found and leave it as it was. -/
theorem fieldsDefects_extends [CharacterNames] {fields more : List Value} {index : Nat} {earlier : List String}
    {found foundAll : List Defect} (h : fieldsDefects fields index earlier = .ok found)
    (hall : fieldsDefects (fields ++ more) index earlier = .ok foundAll) : found <+: foundAll := by
  induction fields generalizing index earlier found foundAll with
  | nil =>
    obtain rfl := Except.ok.inj h
    exact List.nil_prefix
  | cons first rest ih =>
    obtain ⟨here, later, hhere, hlater, rfl⟩ := fieldsDefects_cons_eq_ok_iff.1 h
    obtain ⟨here', laterAll, hhere', hlaterAll, rfl⟩ := fieldsDefects_cons_eq_ok_iff.1 hall
    obtain rfl := Except.ok.inj (hhere.symm.trans hhere')
    exact (List.prefix_append_right_inj here).2 (ih hlater hlaterAll)

/-- An id is reported as repeated once for each field that uses it after another one does. -/
theorem count_idRepeated_fieldsDefects [CharacterNames] {fields : List Value} {index : Nat} {earlier : List String}
    {found : List Defect} (h : fieldsDefects fields index earlier = .ok found) (id : String) :
    found.count (.idRepeated id) =
      fields.countP (fun f => idOf? f = some id) + (if id ∈ earlier then 1 else 0) - 1 := by
  induction fields generalizing index earlier found with
  | nil =>
    obtain rfl := Except.ok.inj h
    by_cases hmem : id ∈ earlier <;> simp [hmem]
  | cons first rest ih =>
    obtain ⟨here, later, hhere, hlater, rfl⟩ := fieldsDefects_cons_eq_ok_iff.1 h
    rw [List.count_append, count_idRepeated_fieldDefects hhere, ih hlater, List.countP_cons]
    simp only [List.mem_append, Option.mem_toList, decide_eq_true_eq]
    by_cases hfirst : idOf? first = some id
    · by_cases hmem : id ∈ earlier
      · simp [hfirst, hmem]
        omega
      · simp [hfirst, hmem]
    · simp [hfirst]

/-! ## Documents -/

theorem defects_of_fields [CharacterNames] {v : Value} {fields : List Value} (hfields : v.get "fields" = .list fields)
    (hne : fields ≠ []) : defects v = do
      let found ← fieldsDefects fields 0 []
      return headerDefects v ++ found := by
  have hobject : v.isObject = true := Value.isObject_of_get_ne_null (by rw [hfields]; nofun)
  obtain ⟨first, more, rfl⟩ := List.exists_cons_of_ne_nil hne
  unfold defects
  rw [if_pos hobject, hfields]

theorem defects_eq_ok_iff_of_fields [CharacterNames] {v : Value} {fields : List Value}
    (hfields : v.get "fields" = .list fields) (hne : fields ≠ []) {found : List Defect} :
    defects v = .ok found ↔ ∃ rest, fieldsDefects fields 0 [] = .ok rest ∧ found = headerDefects v ++ rest := by
  simp only [defects_of_fields hfields hne, bind_eq_ok_iff, pure_eq_ok_iff, @eq_comm _ found]

theorem headerDefects_congr {v w : Value} (htitle : w.get "formTitle" = v.get "formTitle")
    (hdescription : w.get "formDescription" = v.get "formDescription") : headerDefects w = headerDefects v := by
  simp only [headerDefects, List.flatMap_cons, List.flatMap_nil, htitle, hdescription]

/-- Where the search for defects comes to its end, it has found those of the header and then a part for each field, which
depends on the field, its position and the set of ids before it. Fields that are appended keep all this at the front. The
message of a repeated id stands there once for each field that uses the id after the first one, in the part of that
field. -/
theorem defects_field_by_field [CharacterNames] {v : Value} {fields : List Value} {found : List Defect}
    (hfields : v.get "fields" = .list fields) (hne : fields ≠ []) (h : defects v = .ok found) :
    (∃ parts, found = headerDefects v ++ parts.flatten ∧ PartsOf fields parts ∧
      ∀ id i raw part, fields[i]? = some raw → parts[i]? = some part →
        (part.map Defect.message).count ("Duplicate field ID found: \"" ++ id ++ "\"") =
          if idOf? raw = some id ∧ ∃ f ∈ fields.take i, idOf? f = some id then 1 else 0) ∧
    (∀ w more foundAll, w.get "formTitle" = v.get "formTitle" → w.get "formDescription" = v.get "formDescription" →
      w.get "fields" = .list (fields ++ more) → defects w = .ok foundAll → found <+: foundAll) ∧
    ∀ id, (found.map Defect.message).count ("Duplicate field ID found: \"" ++ id ++ "\"") =
      fields.countP (fun f => idOf? f = some id) - 1 := by
  obtain ⟨rest, hrest, rfl⟩ := (defects_eq_ok_iff_of_fields hfields hne).1 h
  refine ⟨?_, ?_, ?_⟩
  · have hnone : HoldsIds [] [] := fun id => by simp
    obtain ⟨parts, rfl, hlength, hparts⟩ := exists_parts hnone hrest
    have hparts : PartsOf fields parts := ⟨hlength, by simpa using hparts⟩
    refine ⟨parts, rfl, hparts, fun id i raw part hraw hpart => ?_⟩
    have hids : HoldsIds ((fields.take i).filterMap idOf?) (fields.take i) := fun id => List.mem_filterMap
    obtain ⟨part', hpart', hfound⟩ := hparts.part i raw hraw _ hids
    obtain rfl := Option.some.inj (hpart.symm.trans hpart')
    refine (Defect.count_message_idRepeated part id).trans ?_
    rw [count_idRepeated_fieldDefects hfound]
    exact if_congr (and_congr_right' (hids id)) rfl rfl
  · intro w more foundAll htitle hdescription hall hfoundAll
    obtain ⟨restAll, hrestAll, rfl⟩ := (defects_eq_ok_iff_of_fields hall (by simp [hne])).1 hfoundAll
    rw [headerDefects_congr htitle hdescription]
    exact (List.prefix_append_right_inj _).2 (fieldsDefects_extends hrest hrestAll)
  · intro id
    refine (Defect.count_message_idRepeated _ id).trans ?_
    have hheader : (headerDefects v).count (.idRepeated id) = 0 := List.count_eq_zero.2 (by simp [headerDefects, require])
    rw [List.count_append, hheader, count_idRepeated_fieldsDefects hrest]
    simp

section

attribute [local instance] CharacterNames.ascii

/-- Three fields of one id, the second without type and label and a number behind it. -/
theorem defects_field_by_field_of_three_uses :
    let sound : Value := .record [("id", .text "a"), ("type", .text "text"), ("label", .text "A")]
    let broken : Value := .record [("id", .text "a")]
    let v : Value := .record [("formTitle", .text ""), ("formDescription", .text "D"),
      ("fields", .list [sound, broken, .int 5, sound])]
    let found : List Defect := [.headerMissing "formTitle", .idRepeated "a", .field (.id "a") .typeMissing,
      .field (.id "a") .labelMissing, .fieldNotObject 2, .idRepeated "a"]
    defects v = .ok found ∧
      (found.map Defect.message).count ("Duplicate field ID found: \"" ++ "a" ++ "\"") = 2 := by
  intro sound broken v found
  have h : defects v = .ok found := by decide +kernel
  have huses : [sound, broken, .int 5, sound].countP (fun f => idOf? f = some "a") = 3 := by decide +kernel
  obtain ⟨-, -, hcount⟩ := defects_field_by_field rfl (List.cons_ne_nil _ _) h
  exact ⟨h, by rw [hcount "a", huses]⟩

end

end Gate

end WebForm
