/-
Tables by id and lists of fields are the same where the ids differ. An entry under a new key comes to the
end of a table, so the rules of a document and what is found of a submission stay in the order of the
fields, one entry for each; and the ids of every document that was read differ.
-/
import WebForm.Form
import WebForm.Proofs.Document.Sound

namespace WebForm

/-! ## Tables -/

theorem enterKey_of_new {α : Type} {key : String} {table : List (String × α)} (h : key ∉ table.map Prod.fst) (value : α) :
    enterKey key value table = table ++ [(key, value)] := by
  induction table with
  | nil => rfl
  | cons e table ih =>
    rw [List.map_cons, List.mem_cons, not_or] at h
    show (if e.1 = key then _ else _) = _
    rw [if_neg (Ne.symm h.1), ih h.2]
    rfl

/-- Entries under different keys, none of which the table has, come to its end in their order. -/
theorem foldl_enterKey {α β : Type} {key : β → String} (value : β → α) {l : List β} {table : List (String × α)}
    (h : (table.map Prod.fst ++ l.map key).Nodup) :
    l.foldl (fun table b => enterKey (key b) (value b) table) table = table ++ l.map fun b => (key b, value b) := by
  induction l generalizing table with
  | nil => rw [List.map_nil, List.append_nil, List.foldl_nil]
  | cons b l ih =>
    have hnew : key b ∉ table.map Prod.fst := fun hmem => (List.nodup_append.1 h).2.2 _ hmem _ List.mem_cons_self rfl
    have hrest : ((table ++ [(key b, value b)]).map Prod.fst ++ l.map key).Nodup := by
      rwa [List.map_append, List.append_assoc]
    rw [List.foldl_cons, enterKey_of_new hnew, ih hrest, List.append_assoc]
    rfl

/-! ## Documents -/

namespace Document

variable {d : Document}

theorem assemble_eq (hids : d.fieldIds.Nodup) : d.assemble = d.fields.map fun f => (f.id, f.describe) :=
  foldl_enterKey Field.describe hids

theorem ids_assemble (hids : d.fieldIds.Nodup) : d.assemble.ids = d.fieldIds := by
  rw [Validator.ids, assemble_eq hids, List.map_map]
  rfl

/-- Checking on behind what was found of other ids adds what is found of the fields. -/
theorem checkFrom_eq_checkFields [CharacterNames] (data : Value) {fields : List Field} {found : Report}
    (h : (found.data.map Prod.fst ++ fields.map Field.id).Nodup) :
    Validator.checkFrom data (fields.map fun f => (f.id, f.describe)) found =
      (checkFields data fields).map fun r => ⟨found.data ++ r.data, found.issues ++ r.issues⟩ := by
  induction fields generalizing found with
  | nil => simp [Validator.checkFrom, checkFields, Except.map]
  | cons f rest ih =>
    have hnew : f.id ∉ found.data.map Prod.fst := fun hmem => (List.nodup_append.1 h).2.2 _ hmem _ List.mem_cons_self rfl
    rw [List.map_cons, Validator.checkFrom, checkFields, ← Field.check]
    cases hf : f.check (data.get f.id) with
    | error halt => rfl
    | ok outcome =>
      have hrest : ((enterKey f.id outcome.value found.data).map Prod.fst ++ rest.map Field.id).Nodup := by
        rwa [enterKey_of_new hnew, List.map_append, List.append_assoc]
      show Validator.checkFrom data (rest.map fun f => (f.id, f.describe)) _ = _
      rw [ih hrest, enterKey_of_new hnew]
      cases checkFields data rest with
      | error halt => rfl
      | ok later => simp [Except.map, bind, Except.bind, pure, Except.pure]

/-- The check by tables is the check field by field, if the ids differ. -/
theorem check_assemble [CharacterNames] (hids : d.fieldIds.Nodup) (data : Value) :
    d.assemble.check data = d.check data := by
  unfold Validator.check check
  have hnew : (([] : List (String × Value)).map Prod.fst ++ d.fields.map Field.id).Nodup := hids
  rw [assemble_eq hids, checkFrom_eq_checkFields data hnew]
  cases checkFields data d.fields with
  | error halt => rfl
  | ok r => rfl

/-- And so it is for every document that was read. -/
theorem check_assemble_of_read [CharacterNames] {v : Value} (hd : read v = .ok d) (data : Value) :
    d.assemble.check data = d.check data :=
  check_assemble (read_sound hd).ids data

/-- A submission that was checked without running out of anything was checked field by field. -/
theorem submit_eq_of_read [CharacterNames] {p : Platform} {v : Value} (hd : read v = .ok d) {data : Value}
    (hruns : p.checking v data = none) : d.submit p v data = (d.check data).mapError .interrupted := by
  unfold submit
  rw [hruns, check_assemble_of_read hd]
  unfold check
  cases data.isObject with
  | true => rfl
  | false => rfl

end Document

end WebForm
