/-
What an expression of the source accepts. The base accepts the values of one type, and each call narrows or widens
what is accepted before it; a value that is not there is `none`. What numbers and patterns mean is left to the engine
that runs the source. For text, lists and truth values, acceptance is then said once for each kind of value, in terms
of what the calls of the rules demand.
-/
import WebForm.Proofs.Source.Determines

namespace WebForm

/-! ## Length in the engine -/

/-- The length of a text in the engine that runs the source: one unit for each character, and one more for each
character beyond the basic plane. -/
def utf16Length (s : String) : Nat := s.length + s.toList.countP fun c => 0xFFFF < c.toNat

theorem utf16Length_pos_iff {s : String} : 1 ≤ utf16Length s ↔ s ≠ "" := by
  unfold utf16Length
  constructor
  · rintro h rfl
    simp at h
  · intro h
    have : s.length ≠ 0 := by simpa using h
    omega

/-- The two lengths of a text are the same exactly if all its characters are in the basic plane. -/
theorem utf16Length_eq_length_iff {s : String} : utf16Length s = s.length ↔ ∀ c ∈ s.toList, c.toNat ≤ 0xFFFF := by
  unfold utf16Length
  rw [Nat.add_eq_left, List.countP_eq_zero]
  simp

namespace Zod

/-! ## Acceptance -/

/-- What the engine that runs the source makes of numbers and patterns, of which nothing is said here: how a
submitted value is converted to a number, which values are numbers, and what calls on numbers and calls with a pattern
demand. -/
structure Engine where
  toNumber : Option Value → Option Value
  isNumber : Value → Prop
  demands : Call → Value → Prop

/-- What a base accepts: the values of one type, which have to be there. -/
def Base.Accepts (g : Engine) : Base → Option Value → Prop
  | .string, w => ∃ s, w = some (.text s)
  | .number, w => ∃ v, w = some v ∧ g.isNumber v
  | .boolean, w => ∃ b, w = some (.bool b)
  | .stringArray, w => ∃ items, w = some (.texts items)

/-- What the bounds on a length are compared with: the length of a text, or the number of items of a list. -/
def size? : Value → Option Nat
  | .text s => some (utf16Length s)
  | .list items => some items.length
  | _ => none

/-- What a call that narrows demands of a value. -/
def Call.Demands (g : Engine) : Call → Value → Prop
  | .minLength n _, v => ∃ k, size? v = some k ∧ n ≤ k
  | .maxLength n _, v => ∃ k, size? v = some k ∧ k ≤ n
  | .oneOf values _, v => ∃ s ∈ values, v = .text s
  | .emptyOrOneOf values _, v => v = .text "" ∨ ∃ s ∈ values, v = .text s
  | .allOf values _, v => ∃ items, v = .list items ∧ ∀ item ∈ items, ∃ s ∈ values, item = .text s
  | .isTrue _, v => v = .bool true
  | call, v => g.demands call v

/-- What a call that widens accepts in addition; other calls narrow. -/
def Call.added? : Call → Option (Option Value)
  | .orEmpty => some (some (.text ""))
  | .optional => some none
  | .nullable => some (some .null)
  | _ => none

/-- What is accepted after a call, given what is accepted before it. -/
def Call.Accepts (g : Engine) (before : Option Value → Prop) (call : Call) (w : Option Value) : Prop :=
  match call.added? with
  | some added => before w ∨ w = added
  | none => before w ∧ ∃ v, w = some v ∧ call.Demands g v

/-- What is accepted after calls, given what is accepted before them. -/
def Call.AllAccept (g : Engine) (before : Option Value → Prop) (calls : List Call) : Option Value → Prop :=
  calls.foldl (fun accepted call => call.Accepts g accepted) before

/-- Whether an expression accepts a submitted value, `none` being one that is not there. -/
def Expression.Accepts (g : Engine) (e : Expression) (w : Option Value) : Prop :=
  Call.AllAccept g (e.base.Accepts g) e.calls (if e.base = .number then g.toNumber w else w)

variable {g : Engine} {before : Option Value → Prop} {w : Option Value}

/-! ## Calls one after another -/

@[simp] theorem Call.allAccept_nil : AllAccept g before [] w ↔ before w := Iff.rfl

@[simp] theorem Call.allAccept_cons (call : Call) (calls : List Call) :
    AllAccept g before (call :: calls) w ↔ AllAccept g (call.Accepts g before) calls w := Iff.rfl

@[simp] theorem Call.allAccept_append (calls more : List Call) :
    AllAccept g before (calls ++ more) w ↔ AllAccept g (AllAccept g before calls) more w := by
  unfold AllAccept
  rw [List.foldl_append]

@[simp] theorem Call.accepts_orEmpty : orEmpty.Accepts g before w ↔ before w ∨ w = some (.text "") := Iff.rfl

@[simp] theorem Call.accepts_optional : optional.Accepts g before w ↔ before w ∨ w = none := Iff.rfl

@[simp] theorem Call.accepts_nullable : nullable.Accepts g before w ↔ before w ∨ w = some .null := Iff.rfl

@[simp] theorem Call.accepts_minLength (n : Nat) (m : String) :
    (minLength n m).Accepts g before w ↔ before w ∧ ∃ v, w = some v ∧ (minLength n m).Demands g v := Iff.rfl

@[simp] theorem Call.accepts_emptyOrOneOf (values : List String) (m : String) :
    (emptyOrOneOf values m).Accepts g before w ↔
      before w ∧ ∃ v, w = some v ∧ (emptyOrOneOf values m).Demands g v := Iff.rfl

theorem Call.accepts_ofRule (rule : Rule) :
    (ofRule rule).Accepts g before w ↔ before w ∧ ∃ v, w = some v ∧ (ofRule rule).Demands g v := by
  obtain ⟨constraint, m⟩ := rule
  cases constraint <;> exact Iff.rfl

/-- The calls of rules narrow only. -/
@[simp] theorem Call.allAccept_ofRule (rules : List Rule) : AllAccept g before (rules.map ofRule) w ↔
    before w ∧ ∀ rule ∈ rules, ∃ v, w = some v ∧ (ofRule rule).Demands g v := by
  induction rules generalizing before with
  | nil => simp
  | cons rule rest ih =>
    rw [List.map_cons, allAccept_cons, ih, accepts_ofRule, List.forall_mem_cons, and_assoc]

/-- The two calls that end an optional field's expression accept what is not given. -/
theorem Call.allAccept_optional_nullable (calls : List Call) : AllAccept g before (calls ++ [optional, nullable]) w ↔
    AllAccept g before calls w ∨ w = none ∨ w = some .null := by
  rw [allAccept_append, allAccept_cons, allAccept_cons, allAccept_nil, accepts_nullable, accepts_optional, or_assoc]

/-! ## Kinds of values -/

namespace Call

theorem demands_one_text {m : String} {s : String} : (minLength 1 m).Demands g (.text s) ↔ s ≠ "" := by
  rw [← utf16Length_pos_iff]
  simp [Demands, size?]

theorem demands_one_texts {m : String} {items : List String} :
    (minLength 1 m).Demands g (.texts items) ↔ items ≠ [] := by
  simp [Demands, size?, Value.texts, Nat.one_le_iff_ne_zero]

variable {r : FieldRules}

/-- The calls of an optional text field before the two that end it: empty text is excused from the rules, by the one
rule of a choice itself, or by a call of its own where there are rules. -/
theorem exists_excusing [CharacterNames] (hr : r.Sound) (hkind : r.kind = .text) (hrequired : r.required = false) :
    ∃ calls, ofRules r = calls ++ [optional, nullable] ∧ ∀ w, (AllAccept g (Base.Accepts g .string) calls w ↔
      ∃ s, w = some (.text s) ∧ (s = "" ∨ ∀ rule ∈ r.rules, (ofRule rule).Demands g (.text s))) := by
  rw [ofRules, hkind, hrequired]
  dsimp only
  by_cases hfolded : r.folded = true
  · obtain ⟨values, m, hrules⟩ := hr.choice hkind hfolded
    rw [if_pos hfolded, hrules]
    refine ⟨[emptyOrOneOf values m], rfl, fun w => ?_⟩
    rw [allAccept_cons, allAccept_nil, accepts_emptyOrOneOf]
    constructor
    · rintro ⟨⟨s, rfl⟩, v, hv, hdemands⟩
      cases hv
      exact ⟨s, rfl, by simpa [Demands, ofRule] using hdemands⟩
    · rintro ⟨s, rfl, hrules⟩
      exact ⟨⟨s, rfl⟩, _, rfl, by simpa [Demands, ofRule] using hrules⟩
  · rw [if_neg hfolded]
    by_cases hrules : r.rules = []
    · rw [hrules]
      refine ⟨[], rfl, fun w => ?_⟩
      simp [Base.Accepts]
    · rw [if_neg (by simpa using hrules)]
      refine ⟨r.rules.map ofRule ++ [orEmpty], by simp, fun w => ?_⟩
      rw [allAccept_append, allAccept_cons, allAccept_nil, accepts_orEmpty, allAccept_ofRule]
      constructor
      · rintro (⟨⟨s, rfl⟩, hdemands⟩ | rfl)
        · exact ⟨s, rfl, .inr (by simpa using hdemands)⟩
        · exact ⟨"", rfl, .inl rfl⟩
      · rintro ⟨s, rfl, rfl | hdemands⟩
        · exact .inr rfl
        · exact .inl ⟨⟨s, rfl⟩, by simpa using hdemands⟩

/-- An empty list meets the demands of every rule on lists. -/
theorem demands_nil {rule : Rule} (h : rule.constraint.kind = .texts) : (ofRule rule).Demands g (.texts []) := by
  obtain ⟨constraint, m⟩ := rule
  cases constraint with
  | allOf values => exact ⟨[], rfl, by simp⟩
  | _ => cases h

end Call

namespace Expression

variable {r : FieldRules}

/-- Text is accepted if it meets the demands of the rules; an optional field accepts empty text whatever they are. -/
theorem accepts_text_iff [CharacterNames] (hr : r.Sound) (hkind : r.kind = .text) : (ofRules r).Accepts g w ↔
    (w = none ∨ w = some .null ∨ w = some (.text "")) ∧ r.required = false ∨
      ∃ s, s ≠ "" ∧ w = some (.text s) ∧ ∀ rule ∈ r.rules, (Call.ofRule rule).Demands g (.text s) := by
  have hstart : (ofRules r).Accepts g w ↔ Call.AllAccept g (Base.Accepts g .string) (Call.ofRules r) w := by
    simp [Accepts, ofRules, Base.ofKind, hkind]
  rw [hstart]
  cases hrequired : r.required with
  | true =>
    rw [Call.ofRules, hkind, hrequired, Call.allAccept_cons, Call.allAccept_ofRule, Call.accepts_minLength]
    constructor
    · rintro ⟨⟨⟨s, rfl⟩, v, hv, hone⟩, hrules⟩
      cases hv
      exact .inr ⟨s, Call.demands_one_text.1 hone, rfl, by simpa using hrules⟩
    · rintro (⟨-, h⟩ | ⟨s, hs, rfl, hrules⟩)
      · cases h
      · exact ⟨⟨⟨s, rfl⟩, _, rfl, Call.demands_one_text.2 hs⟩, by simpa using hrules⟩
  | false =>
    obtain ⟨calls, hcalls, hgiven⟩ := Call.exists_excusing (g := g) hr hkind hrequired
    rw [hcalls, Call.allAccept_optional_nullable, hgiven]
    constructor
    · rintro (⟨s, rfl, hs⟩ | h | h)
      · by_cases hempty : s = ""
        · exact .inl ⟨.inr (.inr (hempty ▸ rfl)), rfl⟩
        · exact .inr ⟨s, hempty, rfl, hs.resolve_left hempty⟩
      · exact .inl ⟨.inl h, rfl⟩
      · exact .inl ⟨.inr (.inl h), rfl⟩
    · rintro (⟨h | h | rfl, -⟩ | ⟨s, -, rfl, hs⟩)
      · exact .inr (.inl h)
      · exact .inr (.inr h)
      · exact .inl ⟨"", rfl, .inl rfl⟩
      · exact .inl ⟨s, rfl, .inr hs⟩

/-- A list of texts is accepted if it meets the demands of the rules, which the empty list always does. -/
theorem accepts_texts_iff [CharacterNames] (hr : r.Sound) (hkind : r.kind = .texts) : (ofRules r).Accepts g w ↔
    (w = none ∨ w = some .null ∨ w = some (.list [])) ∧ r.required = false ∨
      ∃ items, items ≠ [] ∧ w = some (.texts items) ∧ ∀ rule ∈ r.rules, (Call.ofRule rule).Demands g (.texts items) := by
  have hstart : (ofRules r).Accepts g w ↔ Call.AllAccept g (Base.Accepts g .stringArray) (Call.ofRules r) w := by
    simp [Accepts, ofRules, Base.ofKind, hkind]
  rw [hstart, Call.ofRules, hkind]
  cases hrequired : r.required with
  | true =>
    rw [Call.allAccept_cons, Call.allAccept_ofRule, Call.accepts_minLength]
    constructor
    · rintro ⟨⟨⟨items, rfl⟩, v, hv, hone⟩, hrules⟩
      cases hv
      exact .inr ⟨items, Call.demands_one_texts.1 hone, rfl, by simpa using hrules⟩
    · rintro (⟨-, h⟩ | ⟨items, hitems, rfl, hrules⟩)
      · cases h
      · exact ⟨⟨⟨items, rfl⟩, _, rfl, Call.demands_one_texts.2 hitems⟩, by simpa using hrules⟩
  | false =>
    rw [Call.allAccept_optional_nullable, Call.allAccept_ofRule]
    constructor
    · rintro (⟨⟨items, rfl⟩, hrules⟩ | h | h)
      · by_cases hempty : items = []
        · exact .inl ⟨.inr (.inr (hempty ▸ rfl)), rfl⟩
        · exact .inr ⟨items, hempty, rfl, by simpa using hrules⟩
      · exact .inl ⟨.inl h, rfl⟩
      · exact .inl ⟨.inr (.inl h), rfl⟩
    · rintro (⟨h | h | rfl, -⟩ | ⟨items, -, rfl, hrules⟩)
      · exact .inr (.inl h)
      · exact .inr (.inr h)
      · refine .inl ⟨⟨[], rfl⟩, fun rule hrule => ⟨_, rfl, Call.demands_nil ?_⟩⟩
        rw [hr.kinds rule hrule, hkind]
      · exact .inl ⟨⟨items, rfl⟩, by simpa using hrules⟩

/-- A truth value is accepted if it meets the demands of the rules; those of an optional field are none. -/
theorem accepts_boolean_iff [CharacterNames] (hr : r.Sound) (hkind : r.kind = .boolean) : (ofRules r).Accepts g w ↔
    (w = none ∨ w = some .null) ∧ r.required = false ∨
      ∃ b, w = some (.bool b) ∧ ∀ rule ∈ r.rules, (Call.ofRule rule).Demands g (.bool b) := by
  have hstart : (ofRules r).Accepts g w ↔ Call.AllAccept g (Base.Accepts g .boolean) (Call.ofRules r) w := by
    simp [Accepts, ofRules, Base.ofKind, hkind]
  rw [hstart, Call.ofRules, hkind]
  cases hrequired : r.required with
  | true =>
    rw [Call.allAccept_ofRule]
    constructor
    · rintro ⟨⟨b, rfl⟩, hrules⟩
      exact .inr ⟨b, rfl, by simpa using hrules⟩
    · rintro (⟨-, h⟩ | ⟨b, rfl, hrules⟩)
      · cases h
      · exact ⟨⟨b, rfl⟩, by simpa using hrules⟩
  | false =>
    rw [← List.nil_append [Call.optional, Call.nullable], Call.allAccept_optional_nullable, hr.toggle hkind hrequired]
    simp [Base.Accepts, or_comm]

/-- The source of a sound description, as text, is that of no other expression whose calls may stand on its base. -/
theorem eq_of_text [CharacterNames] {e : Expression} (hr : r.Sound) (he : e.Fits)
    (h : Source.text e.source = Source.text (ofRules r).source) : e = ofRules r := by
  have hchars := congrArg String.toList h
  rw [Source.toList_text, Source.toList_text] at hchars
  have hcomma : Source.chars e.source ++ [','] = Source.chars (ofRules r).source ++ [','] := by rw [hchars]
  exact (source_inj he (ofRules_fits hr) hcomma).1

end Expression

end Zod

end WebForm
