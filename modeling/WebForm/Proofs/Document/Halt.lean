/-
Where the search for defects stops without a verdict. Only two things stop it: an integer limit that rounds to no
finite double, and a pattern whose reader gives up although it finds no fault in its form. The fields are looked at in
order, so it is the first field with one of them that stops the search, whatever defects stand before it.
-/
import WebForm.Proofs.Document.Grammar
import WebForm.Proofs.Submission.Total

namespace WebForm

/-! ## What stops the search -/

namespace Gate

/-- A pattern at which the reader gives up. -/
def GivesUp [CharacterNames] (v : Value) (e : Pattern.Error) : Prop :=
  (e = .repetitionTooLarge ∨ e = .conflictingFlags) ∧ ∃ s, v = .text s ∧ Pattern.compile s = .error e

/-- What stops the look at the limits of a field, by the family of its type. -/
inductive LimitsHalt [CharacterNames] (limits : Value) : FieldType.Family → Halt → Prop
  | length {key : String} (hkey : key = "min" ∨ key = "max") (h : (limits.get key).TooLarge) :
      LimitsHalt limits .written .integerTooLarge
  | number {family : FieldType.Family} (hfamily : family = .number ∨ family = .range) {key : String}
      (hkey : key = "min" ∨ key = "max" ∨ key = "step") (h : (limits.get key).TooLarge) :
      LimitsHalt limits family .integerTooLarge
  | pattern {e : Pattern.Error} (h : GivesUp (limits.get "pattern") e) : LimitsHalt limits .formatted (.pattern e)

/-- What stops the look at a field. Without a known type none of its limits is looked at. -/
def FieldHalts [CharacterNames] (field : Value) (halt : Halt) : Prop :=
  ∃ type, typeOf? field = some type ∧ LimitsHalt (field.get "validation") type.family halt

/-- What stops the search in a value: the first field that can be stopped at. -/
def Halts [CharacterNames] (v : Value) (halt : Halt) : Prop :=
  ∃ before field after, v.get "fields" = .list (before ++ field :: after) ∧ (∀ f ∈ before, ∀ h, ¬FieldHalts f h) ∧
    FieldHalts field halt

/-! ## Steps that stop for one reason -/

/-- A step that stops exactly if `p` holds, and then always in the same way. -/
def StopsIf {α : Type} (p : Prop) (halt : Halt) (x : Except Halt α) : Prop := ∀ h, x = .error h ↔ p ∧ h = halt

theorem StopsIf.pure {α : Type} {halt : Halt} (a : α) : StopsIf False halt (.ok a) := by
  intro h
  simp

theorem StopsIf.bind {α β : Type} {p q : Prop} {halt : Halt} {x : Except Halt α} {f : α → Except Halt β}
    (hx : StopsIf p halt x) (hf : ∀ a, StopsIf q halt (f a)) : StopsIf (p ∨ q) halt (x >>= f) := by
  intro h
  cases x with
  | error e =>
    obtain ⟨hp, rfl⟩ := (hx e).1 rfl
    show Except.error e = .error h ↔ _
    rw [Except.error.injEq, eq_comm]
    exact ⟨fun he => ⟨.inl hp, he⟩, And.right⟩
  | ok a =>
    have hp : ¬p := fun hp => nomatch (hx halt).2 ⟨hp, rfl⟩
    show f a = .error h ↔ _
    rw [hf a h, or_iff_right hp]

theorem StopsIf.congr {α : Type} {p q : Prop} {halt : Halt} {x : Except Halt α} (h : StopsIf p halt x) (hpq : p ↔ q) :
    StopsIf q halt x := by
  intro e
  rw [h e, hpq]

/-! ## Limits -/

theorem finite?_stops (v : Value) : StopsIf v.TooLarge .integerTooLarge (finite? v) := by
  intro h
  unfold finite?
  split
  · rename_i n
    have hlarge : (Value.int n).TooLarge ↔ ¬roundsToFinite n = true := by
      rw [roundsToFinite_iff, Bool.not_eq_true]
      refine ⟨?_, fun hn => ⟨n, rfl, hn⟩⟩
      rintro ⟨m, hm, hn⟩
      cases hm
      exact hn
    by_cases hn : roundsToFinite n = true
    · simp [hlarge, hn]
    · simp [hlarge, hn, eq_comm]
  · rename_i hint
    refine ⟨nofun, ?_⟩
    rintro ⟨⟨n, hn, -⟩, -⟩
    exact absurd hn (hint n)

theorem not_tooLarge_null : ¬Value.null.TooLarge := by
  rintro ⟨n, hn, -⟩
  cases hn

/-- The look at a limit stops at its number or not at all. -/
theorem limit_stops {α : Type} {v : Value} (a : α) {f : Option Quantity → Except Halt α}
    (hf : ∀ o, StopsIf False .integerTooLarge (f o)) :
    StopsIf v.TooLarge .integerTooLarge (if v.isNull then .ok a else finite? v >>= f) := by
  split
  · rename_i hnull
    rw [Value.isNull_iff] at hnull
    subst hnull
    exact (StopsIf.pure _).congr (iff_of_false id not_tooLarge_null)
  · exact ((finite?_stops v).bind hf).congr (or_iff_left id)

theorem lengthBound_stops (limit : Limit) (v : Value) : StopsIf v.TooLarge .integerTooLarge (lengthBound limit v) := by
  refine limit_stops _ fun o => ?_
  cases o with
  | none | some => exact StopsIf.pure _

theorem numberLimit_stops (limit : Limit) (v : Value) : StopsIf v.TooLarge .integerTooLarge (numberLimit limit v) := by
  refine limit_stops _ fun o => ?_
  cases o with
  | none | some => exact StopsIf.pure _

theorem lengthDefects_stops (limits : Value) :
    StopsIf ((limits.get "min").TooLarge ∨ (limits.get "max").TooLarge) .integerTooLarge (lengthDefects limits) := by
  refine ((lengthBound_stops _ _).bind ?_).congr (or_congr_right (or_iff_left id))
  rintro ⟨lo, loDefects⟩
  refine (lengthBound_stops _ _).bind ?_
  rintro ⟨hi, hiDefects⟩
  exact StopsIf.pure _

theorem numberDefects_stops (limits : Value) :
    StopsIf ((limits.get "min").TooLarge ∨ (limits.get "max").TooLarge ∨ (limits.get "step").TooLarge)
      .integerTooLarge (numberDefects limits) := by
  refine ((numberLimit_stops _ _).bind ?_).congr (or_congr_right (or_congr_right (or_iff_left id)))
  rintro ⟨lo, loDefects⟩
  refine (numberLimit_stops _ _).bind ?_
  rintro ⟨hi, hiDefects⟩
  refine (numberLimit_stops _ _).bind ?_
  rintro ⟨step, stepDefects⟩
  exact StopsIf.pure _

theorem rangeDefects_stops (limits : Value) :
    StopsIf ((limits.get "min").TooLarge ∨ (limits.get "max").TooLarge ∨ (limits.get "step").TooLarge)
      .integerTooLarge (rangeDefects limits) :=
  ((numberDefects_stops limits).bind fun _ => StopsIf.pure _).congr (or_iff_left id)

theorem patternDefects_eq_error_iff [CharacterNames] {v : Value} {halt : Halt} :
    patternDefects v = .error halt ↔ ∃ e, GivesUp v e ∧ halt = .pattern e := by
  unfold patternDefects
  split
  · refine ⟨nofun, ?_⟩
    rintro ⟨e, ⟨-, s, hs, -⟩, -⟩
    cases hs
  · rename_i s
    -- what is of no valid form is a defect, so two errors are left
    have hgives : ∀ e, GivesUp (.text s) e ↔ (e = .repetitionTooLarge ∨ e = .conflictingFlags) ∧ Pattern.compile s = .error e := by
      intro e
      refine and_congr_right fun _ => ⟨?_, fun h => ⟨s, rfl, h⟩⟩
      rintro ⟨t, ht, h⟩
      cases ht
      exact h
    simp only [hgives]
    cases hs : Pattern.compile s with
    | ok expression => simp
    | error e =>
      cases e with
      | invalid cause place => simp
      | repetitionTooLarge => simp [eq_comm]
      | conflictingFlags => simp [eq_comm]
  · rename_i hnull htext
    refine ⟨nofun, ?_⟩
    rintro ⟨e, ⟨-, s, hs, -⟩, -⟩
    exact absurd hs (htext s)

/-! ## Fields -/

theorem limitsHalt_numeric_iff [CharacterNames] {limits : Value} {family : FieldType.Family}
    (hfamily : family = .number ∨ family = .range) {halt : Halt} : LimitsHalt limits family halt ↔
      ((limits.get "min").TooLarge ∨ (limits.get "max").TooLarge ∨ (limits.get "step").TooLarge) ∧ halt = .integerTooLarge := by
  constructor
  · rintro (_ | ⟨-, rfl | rfl | rfl, h⟩ | _)
    · rcases hfamily with h | h <;> cases h
    · exact ⟨.inl h, rfl⟩
    · exact ⟨.inr (.inl h), rfl⟩
    · exact ⟨.inr (.inr h), rfl⟩
    · rcases hfamily with h | h <;> cases h
  · rintro ⟨h | h | h, rfl⟩
    · exact .number hfamily (.inl rfl) h
    · exact .number hfamily (.inr (.inl rfl)) h
    · exact .number hfamily (.inr (.inr rfl)) h

theorem attributeDefects_eq_error_iff [CharacterNames] {type : FieldType} {field : Value} {halt : Halt} :
    attributeDefects type field = .error halt ↔ LimitsHalt (field.get "validation") type.family halt := by
  unfold attributeDefects
  cases type.family with
  | written =>
    rw [lengthDefects_stops _ halt]
    constructor
    · rintro ⟨h | h, rfl⟩
      · exact .length (.inl rfl) h
      · exact .length (.inr rfl) h
    · rintro (⟨rfl | rfl, h⟩ | ⟨hfamily | hfamily, -, -⟩)
      · exact ⟨.inl h, rfl⟩
      · exact ⟨.inr h, rfl⟩
      · cases hfamily
      · cases hfamily
  | formatted =>
    show formatDefects _ = _ ↔ _
    unfold formatDefects
    rw [bind_pure_eq_error_iff, patternDefects_eq_error_iff]
    constructor
    · rintro ⟨e, h, rfl⟩
      exact .pattern h
    · rintro (_ | ⟨hfamily | hfamily, -, -⟩ | h)
      · cases hfamily
      · cases hfamily
      · exact ⟨_, h, rfl⟩
  | number => rw [limitsHalt_numeric_iff (.inl rfl), numberDefects_stops _ halt]
  | range => rw [limitsHalt_numeric_iff (.inr rfl), rangeDefects_stops _ halt]
  | choice | toggle =>
    refine ⟨nofun, ?_⟩
    rintro (_ | ⟨hfamily | hfamily, -, -⟩ | _) <;> cases hfamily

theorem variantDefects_eq_error_iff [CharacterNames] {field : Value} {halt : Halt} :
    variantDefects field = .error halt ↔ FieldHalts field halt := by
  unfold variantDefects FieldHalts
  cases typeOf? field with
  | none => exact ⟨nofun, nofun⟩
  | some type =>
    show (attributeDefects type field >>= fun found => pure _) = _ ↔ _
    rw [bind_pure_eq_error_iff, attributeDefects_eq_error_iff]
    simp

theorem fieldDefects_eq_error_iff [CharacterNames] {raw : Value} {index : Nat} {earlier : List String} {halt : Halt} :
    fieldDefects raw index earlier = .error halt ↔ FieldHalts raw halt := by
  unfold fieldDefects
  split
  · rw [bind_pure_eq_error_iff, variantDefects_eq_error_iff]
  · rename_i hobject
    refine ⟨nofun, ?_⟩
    rintro ⟨type, htype, -⟩
    rw [typeOf?_eq_some_iff, Value.get_of_not_isObject (Bool.not_eq_true _ ▸ hobject)] at htype
    cases htype

/-- The first field that can be stopped at stops the search. -/
theorem fieldsDefects_eq_error_iff [CharacterNames] {fields : List Value} {index : Nat} {earlier : List String}
    {halt : Halt} :
    fieldsDefects fields index earlier = .error halt ↔
      ∃ before field after, fields = before ++ field :: after ∧ (∀ f ∈ before, ∀ h, ¬FieldHalts f h) ∧ FieldHalts field halt := by
  induction fields generalizing index earlier with
  | nil =>
    refine ⟨nofun, ?_⟩
    rintro ⟨before, field, after, h, -⟩
    simp at h
  | cons raw rest ih =>
    unfold fieldsDefects
    cases hraw : fieldDefects raw index earlier with
    | error e =>
      -- this field is the first one, since nothing before it was stopped at
      have hhalts := fieldDefects_eq_error_iff.1 hraw
      show Except.error e = .error halt ↔ _
      rw [Except.error.injEq]
      constructor
      · rintro rfl
        exact ⟨[], raw, rest, rfl, by simp, hhalts⟩
      · rintro ⟨before, field, after, h, hbefore, hfield⟩
        cases before with
        | nil =>
          obtain ⟨rfl, -⟩ := List.cons.inj h
          exact Except.error.inj (hraw.symm.trans (fieldDefects_eq_error_iff.2 hfield))
        | cons first more =>
          obtain ⟨rfl, -⟩ := List.cons.inj h
          exact absurd hhalts (hbefore _ List.mem_cons_self _)
    | ok here =>
      have hgoes : ∀ h, ¬FieldHalts raw h := by
        intro h hhalts
        rw [fieldDefects_eq_error_iff.2 hhalts] at hraw
        cases hraw
      show (fieldsDefects rest _ _ >>= fun later => pure (here ++ later)) = _ ↔ _
      rw [bind_pure_eq_error_iff, ih]
      constructor
      · rintro ⟨before, field, after, rfl, hbefore, hfield⟩
        exact ⟨raw :: before, field, after, rfl, List.forall_mem_cons.2 ⟨hgoes, hbefore⟩, hfield⟩
      · rintro ⟨before, field, after, h, hbefore, hfield⟩
        cases before with
        | nil =>
          obtain ⟨rfl, -⟩ := List.cons.inj h
          exact absurd hfield (hgoes _)
        | cons first more =>
          obtain ⟨rfl, rfl⟩ := List.cons.inj h
          exact ⟨more, field, after, rfl, (List.forall_mem_cons.1 hbefore).2, hfield⟩

/-! ## Values -/

theorem defects_eq_error_iff [CharacterNames] {v : Value} {halt : Halt} : defects v = .error halt ↔ Halts v halt := by
  unfold defects Halts
  split
  · split
    · rename_i hfields
      rw [hfields]
      refine ⟨nofun, ?_⟩
      rintro ⟨before, field, after, h, -⟩
      simp at h
    · rename_i fields hne hfields
      rw [bind_pure_eq_error_iff, fieldsDefects_eq_error_iff, hfields]
      simp only [Value.list.injEq]
    · rename_i hlist
      refine ⟨nofun, ?_⟩
      rintro ⟨before, field, after, h, -⟩
      exact absurd h (hlist _)
  · rename_i hobject
    refine ⟨nofun, ?_⟩
    rintro ⟨before, field, after, h, -⟩
    rw [Value.get_of_not_isObject (Bool.not_eq_true _ ▸ hobject)] at h
    cases h

/-- The search comes to its end exactly if nothing stops it. -/
theorem exists_defects_iff [CharacterNames] {v : Value} : (∃ found, defects v = .ok found) ↔ ∀ halt, ¬Halts v halt := by
  constructor
  · rintro ⟨found, h⟩ halt hhalts
    rw [defects_eq_error_iff.2 hhalts] at h
    cases h
  · intro h
    cases hv : defects v with
    | error halt => exact absurd (defects_eq_error_iff.1 hv) (h halt)
    | ok found => exact ⟨found, rfl⟩

/-- Where the search comes to its end, no field stops it. -/
theorem not_fieldHalts_of_defects [CharacterNames] {v : Value} {found : List Defect} (h : defects v = .ok found)
    {fields : List Value} (hfields : v.get "fields" = .list fields) : ∀ f ∈ fields, ∀ halt, ¬FieldHalts f halt := by
  have hgoes := exists_defects_iff.1 ⟨found, h⟩
  -- the fields before are carried along, since only the first that can be stopped at stops the search
  have hrest : ∀ after before, fields = before ++ after → (∀ f ∈ before, ∀ halt, ¬FieldHalts f halt) →
      ∀ f ∈ after, ∀ halt, ¬FieldHalts f halt := by
    intro after
    induction after with
    | nil => intro _ _ _ f hf; cases hf
    | cons first rest ih =>
      intro before hsplit hbefore
      have hfirst : ∀ halt, ¬FieldHalts first halt := fun halt hhalts =>
        hgoes halt ⟨before, first, rest, hsplit ▸ hfields, hbefore, hhalts⟩
      refine List.forall_mem_cons.2 ⟨hfirst, ih (before ++ [first]) (by simp [hsplit]) ?_⟩
      exact List.forall_mem_append.2 ⟨hbefore, by simpa using hfirst⟩
  exact hrest fields [] rfl (by simp)

end Gate

end WebForm
