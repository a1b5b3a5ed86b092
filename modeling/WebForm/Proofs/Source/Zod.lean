/-
The source of a check can be read in one way only. Each part of it is told from what follows: literals by
their quotes, numbers by the comma after them, calls by their names, and the fields of an object by the
margin in front of them. The two calls that bound a length and a number are written alike; which of them
stands in an expression is told by its base.
-/
import WebForm.Proofs.Json.Literal
import WebForm.Proofs.Number.Numeral
import WebForm.Source.Zod

namespace WebForm

/-! ## Characters of a source -/

namespace Source

/-- The characters of a source. -/
def chars (s : Source) : List Char := s.flatMap fun p => p.text.toList

theorem toList_text (s : Source) : (Source.text s).toList = chars s := by
  induction s with
  | nil => rfl
  | cons p s ih =>
    rw [text, List.map_cons, String.join_cons, String.toList_append, chars, List.flatMap_cons, ← chars, ← ih]
    rfl

@[simp] theorem chars_nil : chars [] = [] := rfl

@[simp] theorem chars_append (s t : Source) : chars (s ++ t) = chars s ++ chars t := List.flatMap_append

@[simp] theorem chars_code (text : String) (s : Source) : chars (.code text :: s) = text.toList ++ chars s := rfl

@[simp] theorem chars_literal (text : String) (s : Source) :
    chars (.literal text :: s) = (Quoted.encode text).toList ++ chars s := rfl

@[simp] theorem chars_number (q : Quantity) (s : Source) : chars (number q :: s) = q.text.toList ++ chars s := rfl

/-- Sources after the first have the separator in front of them. -/
theorem chars_join (separator : String) (s : Source) (rest : List Source) :
    chars (join separator (s :: rest)) = chars s ++ rest.flatMap fun t => separator.toList ++ chars t := by
  induction rest generalizing s with
  | nil => simp [join]
  | cons t rest ih => simp [join, ih]

end Source

/-! ## Telling parts apart -/

/-- Parts that are written one after another are told apart if each is told from what follows, and none
starts like what stands after the last. -/
theorem forall₂_of_flatMap_eq {α : Type} {R : α → α → Prop} {write : α → List Char} (stop : List Char) {as bs : List α}
    (hstop : ∀ a r r', write a ++ r ≠ stop ++ r')
    (hwrite : ∀ a ∈ as, ∀ b ∈ bs, ∀ r r', write a ++ r = write b ++ r' → R a b ∧ r = r') {r r' : List Char}
    (h : as.flatMap write ++ (stop ++ r) = bs.flatMap write ++ (stop ++ r')) : List.Forall₂ R as bs ∧ r = r' := by
  induction as generalizing bs with
  | nil =>
    cases bs with
    | nil => exact ⟨.nil, List.append_cancel_left h⟩
    | cons b bs =>
      -- one of the lists has ended, but no part starts like the end
      rw [List.flatMap_cons, List.append_assoc] at h
      exact absurd h.symm (hstop b _ _)
  | cons a as ih =>
    cases bs with
    | nil =>
      rw [List.flatMap_cons, List.append_assoc] at h
      exact absurd h (hstop a _ _)
    | cons b bs =>
      rw [List.flatMap_cons, List.flatMap_cons, List.append_assoc, List.append_assoc] at h
      obtain ⟨hab, hrest⟩ := hwrite a List.mem_cons_self b List.mem_cons_self _ _ h
      obtain ⟨hall, hr⟩ := ih (fun a ha b hb => hwrite a (List.mem_cons_of_mem _ ha) b (List.mem_cons_of_mem _ hb)) hrest
      exact ⟨.cons hab hall, hr⟩

/-- A text without a comma is told from a comma after it. -/
theorem append_comma_inj {s t r r' : List Char} (hs : ',' ∉ s) (ht : ',' ∉ t) (h : s ++ ',' :: r = t ++ ',' :: r') :
    s = t ∧ r = r' := by
  have hnot : ∀ {u : List Char}, ',' ∉ u → ∀ c ∈ u, (c != ',') = true := fun hu c hc =>
    bne_iff_ne.2 (ne_of_mem_of_not_mem hc hu)
  -- each text is what stands before the first comma
  have htake := congrArg (List.takeWhile (· != ',')) h
  rw [List.takeWhile_append_of_pos (hnot hs), List.takeWhile_append_of_pos (hnot ht)] at htake
  obtain rfl : s = t := by simpa using htake
  exact ⟨rfl, (List.cons.inj (List.append_cancel_left h)).2⟩

theorem natural_comma_inj {m n : Nat} {r r' : List Char}
    (h : (toString m).toList ++ ',' :: r = (toString n).toList ++ ',' :: r') : m = n ∧ r = r' := by
  obtain ⟨htext, hr⟩ := append_comma_inj (Quantity.comma_not_mem_text (.whole m)) (Quantity.comma_not_mem_text (.whole n)) h
  have hmn : Quantity.whole m = .whole n := Quantity.text_inj (String.toList_inj.1 htext)
  simpa [hr] using hmn

theorem quantity_comma_inj {p q : Quantity} {r r' : List Char}
    (h : p.text.toList ++ ',' :: r = q.text.toList ++ ',' :: r') : p = q ∧ r = r' := by
  obtain ⟨htext, hr⟩ := append_comma_inj p.comma_not_mem_text q.comma_not_mem_text h
  exact ⟨Quantity.text_inj (String.toList_inj.1 htext), hr⟩

/-- The literals of a list, up to its closing bracket. -/
theorem listed_inj {as bs : List String} {r r' : List Char}
    (h : Source.chars (Source.join ", " (as.map fun s => [.literal s])) ++ ']' :: r =
      Source.chars (Source.join ", " (bs.map fun s => [.literal s])) ++ ']' :: r') : as = bs ∧ r = r' := by
  cases as with
  | nil =>
    cases bs with
    | nil => exact ⟨rfl, (List.cons.inj (List.append_cancel_left h)).2⟩
    | cons b bs =>
      rw [List.map_cons, Source.chars_join, Source.chars_literal, Json.toList_encode] at h
      simp [Source.join] at h
  | cons a as =>
    cases bs with
    | nil =>
      rw [List.map_cons, Source.chars_join, Source.chars_literal, Json.toList_encode] at h
      simp [Source.join] at h
    | cons b bs =>
      simp only [List.map_cons, Source.chars_join, Source.chars_literal, Source.chars_nil, List.append_nil,
        List.append_assoc, List.flatMap_map] at h
      obtain ⟨rfl, hrest⟩ := Json.encode_append_inj h
      have hwrite : ∀ s ∈ as, ∀ t ∈ bs, ∀ r r', ", ".toList ++ (Quoted.encode s).toList ++ r =
          ", ".toList ++ (Quoted.encode t).toList ++ r' → s = t ∧ r = r' := by
        intro s _ t _ r r' heq
        rw [List.append_assoc, List.append_assoc, List.append_cancel_left_eq] at heq
        exact Json.encode_append_inj heq
      obtain ⟨hall, hr⟩ := forall₂_of_flatMap_eq [']'] (by simp) hwrite hrest
      rw [List.forall₂_eq_eq_eq] at hall
      exact ⟨congrArg (a :: ·) hall, hr⟩

namespace Zod

open Source

/-! ## Calls -/

/-- Whether a call may stand on a base: bounds on a length and bounds on a number are written alike. -/
def Call.Fits (base : Base) : Call → Prop
  | .minLength _ _ | .maxLength _ _ => base ≠ .number
  | .minimum _ _ | .maximum _ _ => base = .number
  | _ => True

/-- What a call is known by. -/
def Call.opening : Call → String
  | .minLength _ _ | .minimum _ _ => ".min("
  | .maxLength _ _ | .maximum _ _ => ".max("
  | .pattern _ _ => ".regex(new RegExp("
  | .finite => ".finite()"
  | .multipleOf _ _ => ".multipleOf("
  | .oneOf _ _ => ".refine((value) => ["
  | .emptyOrOneOf _ _ => ".refine((value) => value === \"\" || ["
  | .allOf _ _ => ".refine((values) => values.every((value) => ["
  | .isTrue _ => ".refine((value) => value === true, "
  | .orEmpty => ".or(z.literal(\"\"))"
  | .optional => ".optional()"
  | .nullable => ".nullable()"

/-- What is written after the opening of a call. -/
def Call.arguments : Call → List Char
  | .minLength n m | .maxLength n m => (toString n).toList ++ ',' :: ' ' :: (chars (options m) ++ [')'])
  | .pattern p m => (Quoted.encode p).toList ++ ')' :: ',' :: ' ' :: (chars (options m) ++ [')'])
  | .minimum q m | .maximum q m | .multipleOf q m => q.text.toList ++ ',' :: ' ' :: (chars (options m) ++ [')'])
  | .oneOf vs m | .emptyOrOneOf vs m =>
    chars (join ", " (vs.map fun s => [.literal s])) ++ ']' :: (".includes(value), ".toList ++ chars (options m) ++ [')'])
  | .allOf vs m =>
    chars (join ", " (vs.map fun s => [.literal s])) ++ ']' :: (".includes(value)), ".toList ++ chars (options m) ++ [')'])
  | .isTrue m => chars (options m) ++ [')']
  | .finite | .orEmpty | .optional | .nullable => []

theorem Call.chars_source (c : Call) : chars c.source = c.opening.toList ++ c.arguments := by
  have hempty : (Quoted.encode "").toList = ['"', '"'] := by decide
  cases c <;> simp [Call.source, Call.opening, Call.arguments, literals, hempty]

/-- The openings of all calls. -/
def openings : List String :=
  [".min(", ".max(", ".regex(new RegExp(", ".finite()", ".multipleOf(", ".refine((value) => [",
    ".refine((value) => value === \"\" || [", ".refine((values) => values.every((value) => [",
    ".refine((value) => value === true, ", ".or(z.literal(\"\"))", ".optional()", ".nullable()"]

theorem Call.opening_mem (c : Call) : c.opening ∈ openings := by
  cases c <;> simp [Call.opening, openings]

/-- No opening is the start of another. -/
theorem openings_apart : ∀ a ∈ openings, ∀ b ∈ openings, a.toList <+: b.toList → a = b := by decide

theorem Call.opening_inj {a b : Call} {r r' : List Char} (h : a.opening.toList ++ r = b.opening.toList ++ r') :
    a.opening = b.opening ∧ r = r' := by
  have hopen : a.opening = b.opening := by
    rcases List.append_eq_append_iff.1 h with ⟨s, hs, -⟩ | ⟨s, hs, -⟩
    · exact openings_apart _ a.opening_mem _ b.opening_mem ⟨s, hs.symm⟩
    · exact (openings_apart _ b.opening_mem _ a.opening_mem ⟨s, hs.symm⟩).symm
  rw [hopen] at h
  exact ⟨hopen, List.append_cancel_left h⟩

theorem options_inj {m m' : String} {r r' : List Char} (h : chars (options m) ++ r = chars (options m') ++ r') :
    m = m' ∧ r = r' := by
  simp only [options, chars_code, chars_literal, chars_nil, List.append_assoc, List.append_cancel_left_eq] at h
  obtain ⟨hm, hr⟩ := Json.encode_append_inj h
  exact ⟨hm, List.append_cancel_left hr⟩

/-- The message that ends a call. -/
theorem message_inj {m m' : String} {r r' : List Char}
    (h : chars (options m) ++ ')' :: r = chars (options m') ++ ')' :: r') : m = m' ∧ r = r' := by
  obtain ⟨hm, hr⟩ := options_inj h
  exact ⟨hm, (List.cons.inj hr).2⟩

theorem number_message_inj {p q : Quantity} {m m' : String} {r r' : List Char}
    (h : p.text.toList ++ ',' :: ' ' :: (chars (options m) ++ ')' :: r) =
      q.text.toList ++ ',' :: ' ' :: (chars (options m') ++ ')' :: r')) : p = q ∧ m = m' ∧ r = r' := by
  obtain ⟨hpq, hrest⟩ := quantity_comma_inj h
  exact ⟨hpq, message_inj (List.cons.inj hrest).2⟩

theorem length_message_inj {n k : Nat} {m m' : String} {r r' : List Char}
    (h : (toString n).toList ++ ',' :: ' ' :: (chars (options m) ++ ')' :: r) =
      (toString k).toList ++ ',' :: ' ' :: (chars (options m') ++ ')' :: r')) : n = k ∧ m = m' ∧ r = r' := by
  obtain ⟨hnk, hrest⟩ := natural_comma_inj h
  exact ⟨hnk, message_inj (List.cons.inj hrest).2⟩

theorem listed_message_inj {vs ws : List String} {m m' : String} {separator r r' : List Char}
    (h : chars (join ", " (vs.map fun s => [.literal s])) ++ ']' :: (separator ++ (chars (options m) ++ ')' :: r)) =
      chars (join ", " (ws.map fun s => [.literal s])) ++ ']' :: (separator ++ (chars (options m') ++ ')' :: r'))) :
    vs = ws ∧ m = m' ∧ r = r' := by
  obtain ⟨hvs, hrest⟩ := listed_inj h
  exact ⟨hvs, message_inj (List.append_cancel_left hrest)⟩

/-- A call on a base can be told from what follows. -/
theorem Call.source_inj {base : Base} {a b : Call} (ha : a.Fits base) (hb : b.Fits base) {r r' : List Char}
    (h : chars a.source ++ r = chars b.source ++ r') : a = b ∧ r = r' := by
  rw [a.chars_source, b.chars_source, List.append_assoc, List.append_assoc] at h
  obtain ⟨hopen, hargs⟩ := opening_inj h
  cases a <;> cases b <;> first
    | (simp only [Call.opening, String.reduceEq] at hopen; done)
    | simp only [Call.arguments, List.append_assoc, List.cons_append, List.nil_append] at hargs
  case minLength.minLength n m k m' =>
    obtain ⟨rfl, rfl, hr⟩ := length_message_inj hargs
    exact ⟨rfl, hr⟩
  case maxLength.maxLength n m k m' =>
    obtain ⟨rfl, rfl, hr⟩ := length_message_inj hargs
    exact ⟨rfl, hr⟩
  case minimum.minimum p m q m' =>
    obtain ⟨rfl, rfl, hr⟩ := number_message_inj hargs
    exact ⟨rfl, hr⟩
  case maximum.maximum p m q m' =>
    obtain ⟨rfl, rfl, hr⟩ := number_message_inj hargs
    exact ⟨rfl, hr⟩
  case multipleOf.multipleOf p m q m' =>
    obtain ⟨rfl, rfl, hr⟩ := number_message_inj hargs
    exact ⟨rfl, hr⟩
  case pattern.pattern p m q m' =>
    obtain ⟨rfl, hrest⟩ := Json.encode_append_inj hargs
    simp only [List.cons.injEq, true_and] at hrest
    obtain ⟨rfl, hr⟩ := message_inj hrest
    exact ⟨rfl, hr⟩
  case oneOf.oneOf vs m ws m' =>
    obtain ⟨rfl, rfl, hr⟩ := listed_message_inj hargs
    exact ⟨rfl, hr⟩
  case emptyOrOneOf.emptyOrOneOf vs m ws m' =>
    obtain ⟨rfl, rfl, hr⟩ := listed_message_inj hargs
    exact ⟨rfl, hr⟩
  case allOf.allOf vs m ws m' =>
    obtain ⟨rfl, rfl, hr⟩ := listed_message_inj hargs
    exact ⟨rfl, hr⟩
  case isTrue.isTrue m m' =>
    obtain ⟨rfl, hr⟩ := message_inj hargs
    exact ⟨rfl, hr⟩
  -- bounds on a length and bounds on a number stand on different bases
  case minLength.minimum => exact absurd hb ha
  case minimum.minLength => exact absurd ha hb
  case maxLength.maximum => exact absurd hb ha
  case maximum.maxLength => exact absurd ha hb
  all_goals exact ⟨rfl, hargs⟩

theorem Call.source_head (c : Call) (r : List Char) : ∃ tail, chars c.source ++ r = '.' :: tail := by
  cases c <;> exact ⟨_, rfl⟩

/-- Calls on a base can be told from what follows them, if it is no call. -/
theorem calls_inj {base : Base} {as bs : List Call} (ha : ∀ c ∈ as, c.Fits base) (hb : ∀ c ∈ bs, c.Fits base) {t : Char}
    (ht : t ≠ '.') {r r' : List Char}
    (h : chars (as.flatMap Call.source) ++ t :: r = chars (bs.flatMap Call.source) ++ t :: r') : as = bs ∧ r = r' := by
  have hchars : ∀ cs : List Call, chars (cs.flatMap Call.source) = cs.flatMap fun c => chars c.source := by
    intro cs
    induction cs with
    | nil => rfl
    | cons c cs ih => rw [List.flatMap_cons, List.flatMap_cons, chars_append, ih]
  have hstop : ∀ (c : Call) (s s' : List Char), chars c.source ++ s ≠ [t] ++ s' := by
    intro c s s' heq
    obtain ⟨tail, htail⟩ := c.source_head s
    rw [htail] at heq
    exact ht (List.cons.inj heq).1.symm
  rw [hchars, hchars] at h
  obtain ⟨hall, hr⟩ := forall₂_of_flatMap_eq [t] hstop
    (fun a hmem b hmem' s s' heq => Call.source_inj (ha a hmem) (hb b hmem') heq) h
  rw [List.forall₂_eq_eq_eq] at hall
  exact ⟨hall, hr⟩

/-! ## Expressions -/

/-- Whether the calls of an expression may stand on its base. -/
def Expression.Fits (e : Expression) : Prop := ∀ c ∈ e.calls, c.Fits e.base

/-- The messages of a base, up to the brace that closes them. -/
theorem Expression.parameters_inj {e e' : Expression} {r r' : List Char}
    (h : chars e.parameters ++ r = chars e'.parameters ++ r') :
    e.typeMessage = e'.typeMessage ∧ e.requiredMessage = e'.requiredMessage ∧ r = r' := by
  simp only [parameters, chars_append, chars_code, chars_literal, chars_nil, List.append_assoc, List.nil_append,
    List.append_cancel_left_eq] at h
  obtain ⟨htype, h⟩ := Json.encode_append_inj h
  refine ⟨htype, ?_⟩
  -- a comma goes on to the second message, and a brace follows where there is none
  cases hq : e.requiredMessage with
  | none =>
    cases hq' : e'.requiredMessage with
    | none =>
      simp only [hq, hq', chars_nil, List.nil_append] at h
      exact ⟨rfl, List.append_cancel_left h⟩
    | some m' => simp [hq, hq'] at h
  | some m =>
    cases hq' : e'.requiredMessage with
    | none => simp [hq, hq'] at h
    | some m' =>
      simp only [hq, hq', chars_code, chars_literal, chars_nil, List.append_nil, List.append_assoc,
        List.append_cancel_left_eq] at h
      obtain ⟨rfl, hrest⟩ := Json.encode_append_inj h
      exact ⟨rfl, List.append_cancel_left hrest⟩

/-- What an expression starts with, which its base decides. -/
def Base.opening : Base → String
  | .string => "z.string("
  | .number => "z.preprocess(toNumber, z.number("
  | .boolean => "z.boolean("
  | .stringArray => "z.array(z.string(), "

/-- What stands between the calls of an expression and a comma after it. -/
def Base.closing : Base → List Char
  | .number => [')', ',']
  | _ => [',']

theorem Expression.chars_source (e : Expression) (r : List Char) :
    chars e.source ++ ',' :: r =
      e.base.opening.toList ++ (chars e.parameters ++ ')' :: (chars (e.calls.flatMap Call.source) ++ (e.base.closing ++ r))) := by
  cases hb : e.base <;> simp [source, direct, hb, Base.opening, Base.closing]

/-- An expression before a comma can be told from what follows. -/
theorem Expression.source_inj {e e' : Expression} (he : e.Fits) (he' : e'.Fits) {r r' : List Char}
    (h : chars e.source ++ ',' :: r = chars e'.source ++ ',' :: r') : e = e' ∧ r = r' := by
  rw [e.chars_source, e'.chars_source] at h
  have hbase : e.base = e'.base := by
    cases hb : e.base <;> cases hb' : e'.base <;> simp [hb, hb', Base.opening] at h <;> rfl
  rw [hbase] at h
  obtain ⟨htype, hreq, hrest⟩ := parameters_inj (List.append_cancel_left h)
  obtain ⟨t, ht, tail, hclosing⟩ : ∃ t : Char, t ≠ '.' ∧ ∃ tail, e'.base.closing = t :: tail := by
    cases e'.base <;> exact ⟨_, by decide, _, rfl⟩
  rw [hclosing, List.cons_append, List.cons_append] at hrest
  obtain ⟨hcalls, hr⟩ := calls_inj (hbase ▸ he) he' ht (List.cons.inj hrest).2
  obtain ⟨base, typeMessage, requiredMessage, calls⟩ := e
  obtain ⟨base', typeMessage', requiredMessage', calls'⟩ := e'
  simp only at hbase htype hreq hcalls
  subst hbase htype hreq hcalls
  exact ⟨rfl, List.append_cancel_left hr⟩

end Zod

end WebForm
