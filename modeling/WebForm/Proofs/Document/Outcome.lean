/-
What comes of a text that should describe a document. Each outcome has exactly the texts that come to it: a document,
the defects of the value that was read, a failure to read one, a search for defects that stops, and one for which the
interpreter runs out of something. The last two are neither of the two kinds of failure that are meant to reach anyone
before data is checked; and nor is a failure to read a text that is not for its form. The library for YAML and the
bounds of the interpreter may be any.
-/
import WebForm.Form
import WebForm.Proofs.Document.Halt
import WebForm.Proofs.Json.Refusals

namespace WebForm

/-- What a text fails for that is none of its form: in JSON what goes beyond a bound, or half of a pair, with what there
has to be in the text; in YAML what the library raises besides, or a value of none of the kinds here. -/
inductive FailsOtherwise (p : Platform) (text : String) : Format → InputFailure → Prop where
  | exceeded {e : Excess} (h : Json.ShowsExcess p.bounds.digits p.bounds.readLevels text.toList e) :
      FailsOtherwise p text .json (.exceeded e)
  | halfPair (h : Json.ShowsHalf text.toList) : FailsOtherwise p text .json .foreign
  | raised {kind message : String} (h : p.yaml text = .error (.raised kind message)) :
      FailsOtherwise p text .yaml (.raised kind message)
  | foreign (h : p.yaml text = .error .foreign) : FailsOtherwise p text .yaml .foreign

namespace Document

/-- The outcomes of a text in a format. -/
structure Outcomes [CharacterNames] (p : Platform) (format : Format) (text : String) : Prop where
  document : ∀ d, ofText p format text = .ok d ↔
    ∃ v, format.read p text = .ok v ∧ p.searching v = none ∧ Grammar.IsDocument v ∧ Gate.document? v = some d
  defective : ∀ found, ofText p format text = .error (.refused (.defective found)) ↔
    found ≠ [] ∧ ∃ v, format.read p text = .ok v ∧ p.searching v = none ∧ Gate.defects v = .ok found
  unreadable : ∀ f, ofText p format text = .error (.unreadable f) ↔ format.read p text = .error f
  halted : ∀ halt, ofText p format text = .error (.refused (.halted halt)) ↔
    ∃ v, format.read p text = .ok v ∧ p.searching v = none ∧ Gate.Halts v halt
  exceeded : ∀ e, ofText p format text = .error (.exceeded e) ↔ ∃ v, format.read p text = .ok v ∧ p.searching v = some e
  /-- A text fails for its form, which is a failure of the input, or for a reason of another kind. -/
  form : ∀ f, format.read p text = .error f → f.isOfInput = true ∨ FailsOtherwise p text format f
  /-- The defects of a value are found, and the value is inspected, unless the search stops or runs out of something. -/
  inspected : ∀ v, format.read p text = .ok v → p.searching v = none → (∀ halt, ¬Gate.Halts v halt) →
    ∃ i, inspect p v = .ok i ∧ Gate.defects v = .ok i.defects ∧ (i.defects = [] ↔ Grammar.IsDocument v)

theorem read_eq_defective_iff [CharacterNames] {v : Value} {found : List Defect} :
    read v = .error (.defective found) ↔ found ≠ [] ∧ Gate.defects v = .ok found := by
  unfold read
  split
  · rename_i halt h
    rw [h]
    exact ⟨nofun, fun hd => nomatch hd.2⟩
  · rename_i h
    -- a value without defects is of the grammar, so it gives a document
    obtain ⟨d, hd, -⟩ := Gate.exists_document? (Gate.defects_eq_ok_nil_iff.1 h)
    rw [h, hd]
    refine ⟨nofun, ?_⟩
    rintro ⟨hne, hfound⟩
    exact absurd (Except.ok.inj hfound).symm hne
  · rename_i found' hne h
    rw [h]
    constructor
    · intro hd
      cases hd
      exact ⟨hne, rfl⟩
    · rintro ⟨-, hfound⟩
      cases hfound
      rfl

theorem read_eq_halted_iff [CharacterNames] {v : Value} {halt : Halt} :
    read v = .error (.halted halt) ↔ Gate.Halts v halt := by
  rw [← Gate.defects_eq_error_iff]
  unfold read
  split
  · rename_i h
    rw [h]
    simp
  · rename_i h
    rw [h]
    cases Gate.document? v <;> simp
  · rename_i h
    rw [h]
    simp

/-! ## Running out -/

section

variable {ε α : Type} {excess? : Option Excess} {exceeded : Excess → ε} {step : Except ε α}

theorem unlessExceeded_eq_ok_iff {a : α} :
    unlessExceeded excess? exceeded step = .ok a ↔ excess? = none ∧ step = .ok a := by
  cases excess? <;> simp [unlessExceeded]

theorem unlessExceeded_eq_error_iff {e : ε} : unlessExceeded excess? exceeded step = .error e ↔
    (∃ x, excess? = some x ∧ exceeded x = e) ∨ excess? = none ∧ step = .error e := by
  cases excess? <;> simp [unlessExceeded]

end

section

variable [CharacterNames] {p : Platform} {v : Value}

theorem ofValue_eq_ok_iff {d : Document} : ofValue p v = .ok d ↔ p.searching v = none ∧ read v = .ok d := by
  rw [ofValue, unlessExceeded_eq_ok_iff, mapError_eq_ok_iff]

theorem ofValue_eq_refused_iff {r : Refusal} :
    ofValue p v = .error (.refused r) ↔ p.searching v = none ∧ read v = .error r := by
  simp [ofValue, unlessExceeded_eq_error_iff, mapError_eq_error_iff]

theorem ofValue_eq_exceeded_iff {e : Excess} : ofValue p v = .error (.exceeded e) ↔ p.searching v = some e := by
  simp [ofValue, unlessExceeded_eq_error_iff, mapError_eq_error_iff]

theorem ofValue_ne_unreadable {f : InputFailure} : ofValue p v ≠ .error (.unreadable f) := by
  simp [ofValue, unlessExceeded_eq_error_iff, mapError_eq_error_iff]

theorem exists_inspect (hruns : p.searching v = none) (h : ∀ halt, ¬Gate.Halts v halt) :
    ∃ i, inspect p v = .ok i ∧ Gate.defects v = .ok i.defects ∧ (i.defects = [] ↔ Grammar.IsDocument v) := by
  obtain ⟨found, hfound⟩ := Gate.exists_defects_iff.2 h
  refine ⟨⟨Inspection.titleOf v, Inspection.countOf v, found⟩, ?_, hfound, Gate.accepts_exactly_the_grammar hfound⟩
  rw [inspect, unlessExceeded_eq_ok_iff, hfound]
  exact ⟨hruns, rfl⟩

end

/-! ## From text to document -/

section

variable [CharacterNames] {p : Platform} {format : Format} {text : String}

theorem ofText_eq_ok_iff {d : Document} :
    ofText p format text = .ok d ↔ ∃ v, format.read p text = .ok v ∧ p.searching v = none ∧ read v = .ok d := by
  unfold ofText
  simp only [bind_eq_ok_iff, mapError_eq_ok_iff, ofValue_eq_ok_iff]

theorem ofText_eq_unreadable_iff {f : InputFailure} :
    ofText p format text = .error (.unreadable f) ↔ format.read p text = .error f := by
  unfold ofText
  simp [bind_eq_error_iff, mapError_eq_error_iff, ofValue_ne_unreadable]

/-- A text is refused for what its value is refused for. -/
theorem ofText_eq_refused_iff {r : Refusal} : ofText p format text = .error (.refused r) ↔
    ∃ v, format.read p text = .ok v ∧ p.searching v = none ∧ read v = .error r := by
  unfold ofText
  simp [bind_eq_error_iff, mapError_eq_error_iff, mapError_eq_ok_iff, ofValue_eq_refused_iff]

theorem ofText_eq_exceeded_iff {e : Excess} :
    ofText p format text = .error (.exceeded e) ↔ ∃ v, format.read p text = .ok v ∧ p.searching v = some e := by
  unfold ofText
  simp [bind_eq_error_iff, mapError_eq_error_iff, mapError_eq_ok_iff, ofValue_eq_exceeded_iff]

end

/-- A text that fails is not of the right form, or fails for what is said of it. -/
theorem form_of_failure {p : Platform} {format : Format} {text : String} {f : InputFailure}
    (h : format.read p text = .error f) : f.isOfInput = true ∨ FailsOtherwise p text format f := by
  cases format with
  | json =>
    obtain ⟨refusal, hread, rfl⟩ := mapError_eq_error_iff.1 h
    cases refusal with
    | malformed g => exact .inl rfl
    | exceeded e => exact .inr (.exceeded (Json.showsExcess_of_read hread))
    | halfPair => exact .inr (.halfPair (Json.showsHalf_of_read hread))
  | yaml =>
    obtain ⟨failure, hread, rfl⟩ := mapError_eq_error_iff.1 h
    cases failure with
    | malformed wording => exact .inl rfl
    | raised kind message => exact .inr (.raised hread)
    | foreign => exact .inr (.foreign hread)

theorem outcomes [CharacterNames] (p : Platform) (format : Format) (text : String) : Outcomes p format text where
  document d := by simp only [ofText_eq_ok_iff, read_eq_ok_iff]
  defective found := by
    rw [ofText_eq_refused_iff]
    simp only [read_eq_defective_iff]
    constructor
    · rintro ⟨v, hv, hruns, hne, hfound⟩
      exact ⟨hne, v, hv, hruns, hfound⟩
    · rintro ⟨hne, v, hv, hruns, hfound⟩
      exact ⟨v, hv, hruns, hne, hfound⟩
  unreadable f := ofText_eq_unreadable_iff
  halted halt := by simp only [ofText_eq_refused_iff, read_eq_halted_iff]
  exceeded e := ofText_eq_exceeded_iff
  form f := form_of_failure
  inspected v _ := exists_inspect

theorem ofText_of_halt [CharacterNames] {p : Platform} (hruns : ∀ v, p.searching v = none) {format : Format}
    {text : String} {halt : Halt} (h : (format.read p text).toOption.map Gate.defects = some (.error halt)) :
    ofText p format text = .error (.refused (.halted halt)) := by
  refine ofText_eq_refused_iff.2 ?_
  cases hread : format.read p text with
  | error f =>
    rw [hread] at h
    cases h
  | ok v =>
    rw [hread] at h
    exact ⟨v, rfl, hruns v, read_eq_halted_iff.2 (Gate.defects_eq_error_iff.1 (Option.some.inj h))⟩

section

attribute [local instance] CharacterNames.ascii

/-- A date that no calendar has, for which the library for YAML raises an error of values, a repetition that cannot be
counted, and a bound that no double comes near. -/
theorem outcomes_of_strays :
    let p : Platform := ⟨⟨4300, 990, 990⟩,
      fun text => .error (if text = "2020-13-45" then .raised "ValueError" "month must be in 1..12" else .foreign),
      fun _ => none, fun _ _ => none⟩
    ofText p .yaml "2020-13-45" = .error (.unreadable (.raised "ValueError" "month must be in 1..12")) ∧
    ofText p .json ("\x7b\"formTitle\":\"T\",\"formDescription\":\"D\",\"fields\":[\x7b\"id\":\"a\",\"type\":\"tel\",\"label\":\"A\","
        ++ "\"validation\":\x7b\"pattern\":\"a\x7b4294967295\x7d\"\x7d\x7d]\x7d") =
      .error (.refused (.halted (.pattern .repetitionTooLarge))) ∧
    inspect p (.record [("fields", .list [.record [("type", .text "number"),
        ("validation", .record [("max", .int (10 ^ (309 : Nat)))])]])]) = .error (.halted .integerTooLarge) := by
  intro p
  refine ⟨ofText_eq_unreadable_iff.2 rfl, ofText_of_halt (fun _ => rfl) (by decide +kernel), ?_⟩
  have hlarge : Gate.defects (.record [("fields", .list [.record [("type", .text "number"),
      ("validation", .record [("max", .int (10 ^ (309 : Nat)))])]])]) = .error .integerTooLarge := by decide +kernel
  rw [inspect, hlarge]
  rfl

end

end Document

end WebForm
