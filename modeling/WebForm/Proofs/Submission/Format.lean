/-
Which texts are of the form that a field asks for. Without a pattern of the author a telephone number is ten digits, an
e-mail address has the form of one, and a password is long enough; a pattern of the author adds to the form of an
address and takes the place of the other two. The source asks for addresses with the same pattern as the check, but its
engine has other blanks, so the two verdicts part at the texts that hold a blank of one kind only.
-/
import WebForm.Proofs.Pattern.Address
import WebForm.Proofs.Submission.Agreement

namespace WebForm

open Pattern (IsAddress IsPhoneNumber IsSharedBlank readerBlanks)

/-! ## Text of a certain form -/

/-- The texts of a certain form, given the author's pattern if there is one. -/
def FormattedType.Accepts [CharacterNames] : FormattedType → Option String → String → Prop
  | .email, none, s => IsAddress (isSpace · = true) s
  | .email, some p, s => IsAddress (isSpace · = true) s ∧ Pattern.matchesIn p s = .ok true
  | .tel, none, s => IsPhoneNumber s
  | .password, none, s => 8 ≤ s.length
  | .tel, some p, s | .password, some p, s => Pattern.matchesIn p s = .ok true

theorem Constraint.holds_pattern_iff [CharacterNames] {p s : String} :
    (Constraint.pattern p).holds (.text s) = .ok true ↔ Pattern.matchesIn p s = .ok true := mapError_eq_ok_iff

theorem Constraint.holds_minLength_iff [CharacterNames] {n : Nat} {s : String} :
    (Constraint.minLength n).holds (.text s) = .ok true ↔ n ≤ s.length := by
  simp [holds]

/-- The constraints of a form hold of the texts of that form. -/
theorem FormattedType.forall_constraints_iff [CharacterNames] {t : FormattedType} {custom : Option String}
    {s : String} :
    (∀ c ∈ t.constraints custom, c.holds (.text s) = .ok true) ↔ t.Accepts custom s := by
  have hemail := Pattern.matchesIn_emailPattern_iff s
  have htel := Pattern.matchesIn_telPattern_iff s
  cases t <;> cases custom <;>
    simp [constraints, Accepts, Constraint.holds_pattern_iff, Constraint.holds_minLength_iff, hemail, htel,
      passwordLength]

namespace Field

variable {f : Field} {t : FormattedType} {p : Option String} {limits : Option FormatLimits} {s : String} {o : Outcome}

/-- A text passes if it is of the form that is asked for, and an empty one if nothing is asked for. -/
theorem passes_iff_of_formatted [CharacterNames] (hb : f.body = .formatted t p limits) (h : f.check (.text s) = .ok o) :
    o.messages = [] ↔ s = "" ∧ f.required = false ∨ s ≠ "" ∧ t.Accepts (limits.bind (·.custom?)) s := by
  have hkind : f.describe.kind = .text := by simp [describe, kind, hb]
  have hrules : f.describe.rules = formatRules t limits := by simp [describe, rules, hb]
  rw [FieldRules.check_passes_of_text hkind h, hrules, ← FormattedType.forall_constraints_iff,
    ← constraints_formatRules, List.forall_mem_map]
  refine or_congr (and_congr_left' (by simp)) ?_
  constructor
  · rintro ⟨_, hs, hsame, hholds⟩
    cases hsame
    exact ⟨hs, hholds⟩
  · rintro ⟨hs, hholds⟩
    exact ⟨s, hs, rfl, hholds⟩

end Field

/-! ## Addresses in the source -/

/-- An engine that takes the default pattern of an e-mail address as the tree with its own blanks. -/
def Zod.Engine.KnowsAddresses (g : Zod.Engine) : Prop :=
  ∀ m s, g.demands (.pattern emailPattern m) (.text s) ↔ Pattern.Authored.addressTree.MatchesIn s

namespace Field

variable {f : Field} {p : Option String} {limits : Option FormatLimits} {g : Zod.Engine} {s : String} {o : Outcome}

/-- The expression of a required address accepts the texts that are one for the engine. -/
theorem accepts_iff_of_email [CharacterNames] (hf : f.Sound) (hb : f.body = .formatted .email p limits)
    (hdefault : limits.bind (·.custom?) = none) (hrequired : f.required = true) (hg : g.KnowsAddresses) :
    (Zod.Expression.ofRules f.describe).Accepts g (some (.text s)) ↔ IsAddress (· ∈ numberBlanks) s := by
  have hkind : f.describe.kind = .text := by simp [describe, kind, hb]
  have hrules : f.describe.rules =
      [⟨.pattern emailPattern, messageOr (limits.bind (·.message)) "Invalid email address"⟩] := by
    simp [describe, rules, hb, formatRules, hdefault]
  have hdemands : (∀ rule ∈ f.describe.rules, (Zod.Call.ofRule rule).Demands g (.text s)) ↔
      IsAddress (· ∈ numberBlanks) s := by
    rw [hrules, List.forall_mem_singleton, ← Pattern.Authored.matchesIn_addressTree_iff]
    exact hg _ s
  rw [Zod.Expression.accepts_text_iff hf.describe hkind, show f.describe.required = true from hrequired]
  constructor
  · rintro (⟨-, h⟩ | ⟨_, -, hsame, hrules⟩)
    · cases h
    · cases hsame
      exact hdemands.1 hrules
  · intro haddress
    exact .inr ⟨s, haddress.ne_empty, rfl, hdemands.2 haddress⟩

theorem passes_iff_of_email [CharacterNames] (hb : f.body = .formatted .email p limits)
    (hdefault : limits.bind (·.custom?) = none) (hrequired : f.required = true) (h : f.check (.text s) = .ok o) :
    o.messages = [] ↔ IsAddress (isSpace · = true) s := by
  rw [passes_iff_of_formatted hb h, hdefault, hrequired]
  constructor
  · rintro (⟨-, h⟩ | ⟨-, haddress⟩)
    · cases h
    · exact haddress
  · exact fun haddress => .inr ⟨haddress.ne_empty, haddress⟩

end Field

namespace Document

/-- Of the texts that are given, a field accepts exactly those of its form. -/
theorem format_accepts_exactly [CharacterNames] {v : Value} {d : Document} (hd : read v = .ok d) {f : Field}
    (hf : f ∈ d.fields) {t : FormattedType} {p : Option String} {limits : Option FormatLimits}
    (hb : f.body = .formatted t p limits) {s : String} (hs : s ≠ "") :
    ∃ o, f.check (.text s) = .ok o ∧ (o.messages = [] ↔ t.Accepts (limits.bind (·.custom?)) s) := by
  obtain ⟨o, ho⟩ := exists_field_check hd hf (by simp [Field.kind, hb]) (.text s)
  refine ⟨o, ho, ?_⟩
  simp [Field.passes_iff_of_formatted hb ho, hs]

section

attribute [local instance] CharacterNames.ascii

/-- An address may have dots on both sides of the one that counts, and the author may ask for its end. -/
theorem format_accepts_exactly_of_dots :
    let v := Value.record [("formTitle", .text "Form"), ("formDescription", .text "D"), ("fields", .list [
      .record [("id", .text "mail"), ("type", .text "email"), ("label", .text "Mail"), ("required", .bool true),
        ("validation", .record [("pattern", .text "\\.org$")])]])]
    let f : Field := ⟨"mail", "Mail", true, .formatted .email none (some ⟨some "\\.org$", none⟩)⟩
    let s := "ada.l@calc.engine.org"
    Document.read v = .ok ⟨"Form", "D", [f]⟩ ∧ s ≠ "" ∧ FormattedType.email.Accepts (some "\\.org$") s ∧
      ∃ o, f.check (.text s) = .ok o ∧ o.messages = [] := by
  intro v f s
  have hd : Document.read v = .ok ⟨"Form", "D", [f]⟩ :=
    read_eq_ok_iff.2 ⟨Gate.defects_eq_ok_nil_iff.1 (by decide +kernel), by decide +kernel⟩
  have haccepts : FormattedType.email.Accepts (some "\\.org$") s := by
    refine ⟨⟨"ada.l".toList, "calc.engine".toList, "org".toList, by simp [s], ?_⟩, by decide +kernel⟩
    simp [isSpace]
  obtain ⟨o, ho, hiff⟩ := format_accepts_exactly hd (List.mem_singleton_self f) rfl (by decide : s ≠ "")
  exact ⟨hd, by decide, haccepts, o, ho, hiff.2 haccepts⟩

end

/-- The check of a required address and the expression in its source agree on a text exactly if, where it is an address
but for the blanks that only one side has, it holds one of the reader's or none, just as it holds the engine's or not. -/
theorem address_check_agrees_iff [CharacterNames] {v : Value} {d : Document} (hd : read v = .ok d) {f : Field}
    (hf : f ∈ d.fields) {p : Option String} {limits : Option FormatLimits} (hb : f.body = .formatted .email p limits)
    (hdefault : limits.bind (·.custom?) = none) (hrequired : f.required = true) {e : Zod.Expression} (he : e.Fits)
    (hsource : Source.text e.source = Source.text (Zod.fieldSource f)) {g : Zod.Engine} (hg : g.KnowsAddresses)
    (s : String) : ∃ o, f.check (.text s) = .ok o ∧
      (o.messages = [] ↔ IsAddress (isSpace · = true) s) ∧
      (e.Accepts g (some (.text s)) ↔ IsAddress (· ∈ numberBlanks) s) ∧
      ((o.messages = [] ↔ e.Accepts g (some (.text s))) ↔
        (IsAddress IsSharedBlank s → ((∃ c ∈ s.toList, c ∈ readerBlanks) ↔ '\ufeff' ∈ s.toList))) := by
  have hsound := (read_sound hd).fields f hf
  obtain ⟨o, ho⟩ := exists_field_check hd hf (by simp [Field.kind, hb]) (.text s)
  obtain rfl := Zod.Expression.eq_of_text hsound.describe he hsource
  have hpasses := Field.passes_iff_of_email hb hdefault hrequired ho
  have haccepts := Field.accepts_iff_of_email (s := s) hsound hb hdefault hrequired hg
  refine ⟨o, ho, hpasses, haccepts, ?_⟩
  rw [hpasses, haccepts, Pattern.isAddress_isSpace_iff, Pattern.isAddress_numberBlanks_iff]
  have hnone : (∀ c ∈ s.toList, c ∉ readerBlanks) ↔ ¬∃ c ∈ s.toList, c ∈ readerBlanks := by simp
  rw [hnone, and_congr_right_iff, not_iff_not]

section

attribute [local instance] CharacterNames.ascii

/-- The two sides agree on an ordinary address. -/
theorem address_check_agrees_of_ada :
    let v := Value.record [("formTitle", .text "Form"), ("formDescription", .text "D"), ("fields", .list [
      .record [("id", .text "mail"), ("type", .text "email"), ("label", .text "Mail"), ("required", .bool true)]])]
    let f : Field := ⟨"mail", "Mail", true, .formatted .email none none⟩
    let e := Zod.Expression.ofRules f.describe
    let g : Zod.Engine := ⟨id, fun v => v.quantity?.isSome, fun _ v => ∃ s, v = .text s ∧
      Pattern.Authored.addressTree.MatchesIn s⟩
    Document.read v = .ok ⟨"Form", "D", [f]⟩ ∧ e.Fits ∧ Source.text e.source = Source.text (Zod.fieldSource f) ∧
      g.KnowsAddresses ∧ IsAddress (isSpace · = true) "ada@x.org" ∧
      ∃ o, f.check (.text "ada@x.org") = .ok o ∧ o.messages = [] ∧ e.Accepts g (some (.text "ada@x.org")) := by
  intro v f e g
  have hd : Document.read v = .ok ⟨"Form", "D", [f]⟩ :=
    read_eq_ok_iff.2 ⟨Gate.defects_eq_ok_nil_iff.1 (by decide +kernel), by decide +kernel⟩
  have hf : f ∈ [f] := List.mem_singleton_self f
  have he : e.Fits := Zod.Expression.ofRules_fits ((read_sound hd).fields f hf).describe
  have hg : g.KnowsAddresses := fun m s => by simp [g]
  have haddress : IsAddress (isSpace · = true) "ada@x.org" :=
    ⟨"ada".toList, "x".toList, "org".toList, by simp, by simp [isSpace]⟩
  obtain ⟨o, ho, hpasses, -, hagree⟩ := address_check_agrees_iff hd hf rfl rfl rfl he rfl hg "ada@x.org"
  have hblanks : (∃ c ∈ "ada@x.org".toList, c ∈ readerBlanks) ↔ '\ufeff' ∈ "ada@x.org".toList := by
    simp [readerBlanks]
  have hmessages := hpasses.2 haddress
  exact ⟨hd, he, rfl, hg, haddress, o, ho, hmessages, (hagree.2 fun _ => hblanks).1 hmessages⟩

/-- An address that begins with a mark of the byte order passes, and the source refuses it; with a control character
that only the reader takes for a blank it is the other way round. -/
theorem address_check_parts_at_blanks :
    let v := Value.record [("formTitle", .text "Form"), ("formDescription", .text "D"), ("fields", .list [
      .record [("id", .text "a"), ("type", .text "email"), ("label", .text "A"), ("required", .bool true)]])]
    let f : Field := ⟨"a", "A", true, .formatted .email none none⟩
    Document.read v = .ok ⟨"Form", "D", [f]⟩ ∧
      (∃ o, f.check (.text "\ufeff@b.c") = .ok o ∧ o.messages = []) ∧ ¬IsAddress (· ∈ numberBlanks) "\ufeff@b.c" ∧
      (∃ o, f.check (.text "a\u0085@b.c") = .ok o ∧ o.messages ≠ []) ∧ IsAddress (· ∈ numberBlanks) "a\u0085@b.c" ∧
      ∀ g : Zod.Engine, g.KnowsAddresses → ¬(Zod.Expression.ofRules f.describe).Accepts g (some (.text "\ufeff@b.c")) ∧
        (Zod.Expression.ofRules f.describe).Accepts g (some (.text "a\u0085@b.c")) := by
  intro v f
  have hd : Document.read v = .ok ⟨"Form", "D", [f]⟩ :=
    read_eq_ok_iff.2 ⟨Gate.defects_eq_ok_nil_iff.1 (by decide +kernel), by decide +kernel⟩
  have hf : f ∈ [f] := List.mem_singleton_self f
  have hsound := (read_sound hd).fields f hf
  obtain ⟨o, ho⟩ := exists_field_check hd hf (by decide) (.text "\ufeff@b.c")
  obtain ⟨o', ho'⟩ := exists_field_check hd hf (by decide) (.text "a\u0085@b.c")
  have hmark : ¬IsAddress (· ∈ numberBlanks) "\ufeff@b.c" := fun h =>
    (Pattern.isAddress_numberBlanks_iff.1 h).2 (by simp)
  have hcontrol : IsAddress (· ∈ numberBlanks) "a\u0085@b.c" :=
    ⟨"a\u0085".toList, "b".toList, "c".toList, by simp, by simp [numberBlanks]⟩
  have hpasses : IsAddress (isSpace · = true) "\ufeff@b.c" :=
    ⟨"\ufeff".toList, "b".toList, "c".toList, by simp, by simp [isSpace]⟩
  have hfails : ¬IsAddress (isSpace · = true) "a\u0085@b.c" := fun h =>
    (Pattern.isAddress_isSpace_iff.1 h).2 '\u0085' (by simp) (by simp [readerBlanks])
  refine ⟨hd, ⟨o, ho, (Field.passes_iff_of_email rfl rfl rfl ho).2 hpasses⟩, hmark,
    ⟨o', ho', mt (Field.passes_iff_of_email rfl rfl rfl ho').1 hfails⟩, hcontrol, fun g hg => ⟨?_, ?_⟩⟩
  · exact mt (Field.accepts_iff_of_email hsound rfl rfl rfl hg).1 hmark
  · exact (Field.accepts_iff_of_email hsound rfl rfl rfl hg).2 hcontrol

end

end Document

end WebForm
