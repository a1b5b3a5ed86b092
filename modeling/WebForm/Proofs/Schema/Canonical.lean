/-
The canonical form of a document under the exported schema. What is written of a document is of the grammar and has
no null in it, and where there is no null the schema asks for nothing that the grammar does not.
-/
import WebForm.Proofs.Schema.Difference

namespace WebForm

/-! ## Nothing that is written is null -/

theorem optionalEntry_ne_null {α : Type} {key : String} {write : α → Value} {o : Option α} (h : ∀ a, write a ≠ .null) :
    ∀ e ∈ optionalEntry key write o, e.2 ≠ .null := by
  cases o with
  | none => simp [optionalEntry]
  | some a => simpa [optionalEntry] using h a

theorem optionalEntries_ne_null {entries : List (String × Value)} {α : Type} {key : String} {write : α → Value}
    {o : Option α} (hentries : ∀ e ∈ entries, e.2 ≠ .null) (h : ∀ a, write a ≠ .null) :
    ∀ e ∈ entries ++ optionalEntry key write o, e.2 ≠ .null :=
  List.forall_mem_append.2 ⟨hentries, optionalEntry_ne_null h⟩

theorem LengthLimits.get?_ne_null (l : LengthLimits) (key : String) : l.toValue.get? key ≠ some .null := by
  refine Value.get?_record_ne_null (optionalEntries_ne_null (optionalEntries_ne_null ?_ ?_) ?_) key
  · exact optionalEntry_ne_null fun _ => nofun
  · exact fun _ => nofun
  · exact fun _ => nofun

theorem FormatLimits.get?_ne_null (l : FormatLimits) (key : String) : l.toValue.get? key ≠ some .null := by
  refine Value.get?_record_ne_null (optionalEntries_ne_null ?_ ?_) key
  · exact optionalEntry_ne_null fun _ => nofun
  · exact fun _ => nofun

theorem NumberLimits.get?_ne_null (l : NumberLimits) (key : String) : l.toValue.get? key ≠ some .null := by
  refine Value.get?_record_ne_null (optionalEntries_ne_null (optionalEntries_ne_null (optionalEntries_ne_null ?_ ?_) ?_) ?_) key
  · exact optionalEntry_ne_null Value.quantity_ne_null
  · exact Value.quantity_ne_null
  · exact Value.quantity_ne_null
  · exact fun _ => nofun

theorem get?_given_ne_null {α : Type} {write : α → Value} {o : Option α} {key : String}
    (h : ∀ a, (write a).get? key ≠ some .null) : (Value.given write o).get? key ≠ some .null := by
  cases o with
  | none => nofun
  | some a => exact h a

theorem Body.get?_validation_ne_null (b : Body) (key : String) : b.validation.get? key ≠ some .null := by
  cases b with
  | written _ _ l => exact get?_given_ne_null fun l => l.get?_ne_null key
  | formatted _ _ l => exact get?_given_ne_null fun l => l.get?_ne_null key
  | number _ l => exact get?_given_ne_null fun l => l.get?_ne_null key
  | range l => exact l.toNumberLimits.get?_ne_null key
  | select | radio | checkboxGroup | toggle => nofun

theorem Body.entries_ne_null (b : Body) : ∀ e ∈ b.entries, e.2 ≠ .null := by
  cases b with
  | written _ p l => exact optionalEntries_ne_null (optionalEntry_ne_null fun _ => nofun) fun _ => nofun
  | formatted _ p l => exact optionalEntries_ne_null (optionalEntry_ne_null fun _ => nofun) fun _ => nofun
  | number p l => exact optionalEntries_ne_null (optionalEntry_ne_null fun _ => nofun) fun _ => nofun
  | range l => exact List.forall_mem_singleton.2 nofun
  | select p cs => exact List.forall_mem_append.2 ⟨optionalEntry_ne_null fun _ => nofun, List.forall_mem_singleton.2 nofun⟩
  | radio cs | checkboxGroup cs => exact List.forall_mem_singleton.2 nofun
  | toggle t => nofun

/-- Nothing in a field that was written is null. -/
theorem Field.explicit_toValue (f : Field) : Schema.FieldExplicit f.toValue := by
  refine Schema.fieldExplicit_record ?_ ?_ ?_
  · exact List.forall_mem_append.2 ⟨by simp, f.body.entries_ne_null⟩
  · exact f.get_placeholder ▸ optional_given_text f.body.placeholder
  · exact fun key => f.get_validation ▸ f.body.get?_validation_ne_null key

/-! ## The canonical form -/

namespace Document

/-- The canonical form of a document that was read is valid under the exported schema. -/
theorem canonical_form_conforms [CharacterNames] {v : Value} {d : Document} (h : Document.read v = .ok d) :
    Schema.Valid Schema.document d.toValue := by
  have hgrammar := (read_sound h).isDocument
  have hfields : Schema.fieldsOf d.toValue = d.fields.map Field.toValue := Schema.fieldsOf_eq (by simp [toValue])
  refine ((Schema.document_iff (Gate.defects_eq_ok_nil_iff.2 hgrammar)).2 ⟨hgrammar, ?_⟩).1
  rw [hfields]
  exact List.forall_mem_map.2 fun f _ => f.explicit_toValue

section

attribute [local instance] CharacterNames.ascii

/-- A text whose `required` is null, and a slider with a bound that is a double: the value is not valid, and its
canonical form is. -/
theorem canonical_form_conforms_of_null :
    let v : Value := .record [("formTitle", .text "Form"), ("formDescription", .text "Levels"), ("fields", .list [
      .record [("id", .text "note"), ("type", .text "text"), ("label", .text "Note"), ("required", .null)],
      .record [("id", .text "level"), ("type", .text "range"), ("label", .text "Level"), ("validation", .record
        [("min", .int 0), ("max", .quantity (.binary ⟨false, 2 ^ 52, -52, by decide⟩)), ("step", .null)])]])]
    let d : Document := ⟨"Form", "Levels", [⟨"note", "Note", false, .written .text none none⟩,
      ⟨"level", "Level", false, .range ⟨.whole 0, .binary ⟨false, 2 ^ 52, -52, by decide⟩, none, none⟩⟩]⟩
    Document.read v = .ok d ∧ ¬Schema.Valid Schema.document v ∧ Schema.Valid Schema.document d.toValue := by
  intro v d
  have h : Document.read v = .ok d :=
    read_eq_ok_iff.2 ⟨Gate.defects_eq_ok_nil_iff.1 (by decide +kernel), by decide +kernel⟩
  refine ⟨h, fun hvalid => ?_, canonical_form_conforms h⟩
  obtain ⟨b, hb⟩ := (Schema.fieldValid_of_mem hvalid rfl List.mem_cons_self).required .null rfl
  cases hb

end

end Document

end WebForm
