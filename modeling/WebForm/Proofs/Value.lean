/-
Looking into values: what the tests on a value say of its form, and what is found at a key of an
object that was written entry by entry. Also the inversion of steps that may stop.
-/
import Mathlib.Data.List.Forall2
import WebForm.Document.Field

namespace WebForm

/-! ## Steps that may stop -/

theorem bind_eq_ok_iff {ε α β : Type} {x : Except ε α} {f : α → Except ε β} {b : β} :
    (x >>= f) = .ok b ↔ ∃ a, x = .ok a ∧ f a = .ok b := by
  cases x with
  | error e => exact ⟨nofun, fun ⟨_, h, _⟩ => nomatch h⟩
  | ok a => exact ⟨fun h => ⟨a, rfl, h⟩, fun ⟨_, h, h'⟩ => by cases h; exact h'⟩

theorem pure_eq_ok_iff {ε α : Type} {a b : α} : (pure a : Except ε α) = .ok b ↔ a = b :=
  ⟨fun h => Except.ok.inj h, fun h => h ▸ rfl⟩

theorem mapError_eq_ok_iff {ε δ α : Type} {x : Except ε α} {f : ε → δ} {a : α} : x.mapError f = .ok a ↔ x = .ok a := by
  cases x <;> simp [Except.mapError]

theorem mapError_eq_error_iff {ε δ α : Type} {x : Except ε α} {f : ε → δ} {d : δ} :
    x.mapError f = .error d ↔ ∃ e, x = .error e ∧ f e = d := by
  cases x <;> simp [Except.mapError]

theorem bind_eq_error_iff {ε α β : Type} {x : Except ε α} {f : α → Except ε β} {e : ε} :
    (x >>= f) = .error e ↔ x = .error e ∨ ∃ a, x = .ok a ∧ f a = .error e := by
  cases x <;> simp [bind, Except.bind]

theorem bind_pure_eq_error_iff {ε α β : Type} {x : Except ε α} {f : α → β} {e : ε} :
    (x >>= fun a => pure (f a)) = .error e ↔ x = .error e := by
  rw [bind_eq_error_iff]
  exact or_iff_left nofun

theorem mapM_eq_some_iff {α β : Type} {f : α → Option β} {l : List α} {r : List β} :
    l.mapM f = some r ↔ List.Forall₂ (fun a b => f a = some b) l r := by
  induction l generalizing r with
  | nil =>
    rw [List.mapM_nil, List.forall₂_nil_left_iff]
    exact ⟨fun h => (Option.some.inj h).symm, fun h => h ▸ rfl⟩
  | cons a l ih =>
    rw [List.mapM_cons, List.forall₂_cons_left_iff]
    simp only [Option.bind_eq_bind, Option.bind_eq_some_iff, Option.pure_def, Option.some.injEq, ih]
    constructor
    · rintro ⟨b, hb, bs, hbs, rfl⟩
      exact ⟨b, bs, hb, hbs, rfl⟩
    · rintro ⟨b, bs, hb, hbs, rfl⟩
      exact ⟨b, hb, bs, hbs, rfl⟩

theorem exists_mapM_eq_some {α β : Type} {f : α → Option β} {q : β → Prop} {l : List α}
    (h : ∀ a ∈ l, ∃ b, f a = some b ∧ q b) : ∃ r, l.mapM f = some r ∧ ∀ b ∈ r, q b := by
  induction l with
  | nil => exact ⟨[], rfl, by simp⟩
  | cons a l ih =>
    obtain ⟨b, hb, hq⟩ := h a List.mem_cons_self
    obtain ⟨bs, hbs, hqs⟩ := ih fun a' ha' => h a' (List.mem_cons_of_mem _ ha')
    exact ⟨b :: bs, by rw [List.mapM_cons, hb, hbs]; rfl, List.forall_mem_cons.2 ⟨hq, hqs⟩⟩

namespace Value

/-! ## Tests -/

@[simp] theorem isNull_iff {v : Value} : v.isNull = true ↔ v = .null := by
  unfold isNull
  split
  · exact ⟨fun _ => rfl, fun _ => rfl⟩
  · rename_i h; exact ⟨nofun, fun he => absurd he h⟩

@[simp] theorem isObject_iff {v : Value} : v.isObject = true ↔ ∃ entries, v = .object entries := by
  cases v <;> simp [isObject]

@[simp] theorem isNonEmptyText_iff {v : Value} : v.isNonEmptyText = true ↔ ∃ s, v = .text s ∧ s ≠ "" := by
  unfold isNonEmptyText
  split
  · simp
  · rename_i h; exact ⟨nofun, fun ⟨s, he, _⟩ => absurd he (h s)⟩

@[simp] theorem quantity?_quantity : ∀ q : Quantity, (quantity q).quantity? = some q
  | .whole _ => rfl
  | .binary _ => rfl

theorem quantity?_eq_some_iff {v : Value} {q : Quantity} : v.quantity? = some q ↔ v = quantity q := by
  constructor
  · unfold quantity?
    split <;> intro h <;> cases h <;> rfl
  · rintro rfl; exact quantity?_quantity q

theorem quantity_ne_null : ∀ q : Quantity, quantity q ≠ .null
  | .whole _ => nofun
  | .binary _ => nofun

theorem quantity_inj {a b : Quantity} (h : quantity a = quantity b) : a = b := by
  have := congrArg quantity? h
  simpa using this

/-! ## Keys -/

theorem get_of_not_isObject {v : Value} (h : v.isObject = false) (key : String) : v.get key = .null := by
  cases v with
  | object _ => cases h
  | scalar _ => rfl
  | list _ => rfl

theorem isObject_of_get_ne_null {v : Value} {key : String} (h : v.get key ≠ .null) : v.isObject = true := by
  cases hv : v.isObject with
  | true => rfl
  | false => exact absurd (get_of_not_isObject hv key) h

@[simp] theorem isObject_record (entries : List (String × Value)) : (record entries).isObject = true := rfl

@[simp] theorem get_null (key : String) : Value.null.get key = .null := rfl

@[simp] theorem get_record_nil (key : String) : (record []).get key = .null := rfl

@[simp] theorem get_record_cons (k : String) (v : Value) (rest : List (String × Value)) (key : String) :
    (record ((k, v) :: rest)).get key = if k = key then v else (record rest).get key := by
  unfold get get? record Entries.find?
  by_cases h : k = key <;> simp [h]

/-- An attribute that is written only where it is given is found exactly there. -/
@[simp] theorem get_record_optionalEntry {α : Type} (k : String) (write : α → Value) (o : Option α)
    (rest : List (String × Value)) (key : String) :
    (record (optionalEntry k write o ++ rest)).get key =
      if k = key then (o.map write).getD ((record rest).get key) else (record rest).get key := by
  cases o with
  | none => simp [optionalEntry]
  | some a => simp [optionalEntry]

@[simp] theorem get_record_optionalEntry_nil {α : Type} (k : String) (write : α → Value) (o : Option α)
    (key : String) : (record (optionalEntry k write o)).get key = if k = key then (o.map write).getD .null else .null := by
  rw [← List.append_nil (optionalEntry k write o), get_record_optionalEntry]
  rfl

end Value

end WebForm
