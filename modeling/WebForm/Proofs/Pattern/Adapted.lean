/-
Adapting the text of a tree gives the text of the same tree in the reader's words: classes for digits and words,
members spliced into a class where these stand in one, and an end of the text that no line feed follows.
-/
import WebForm.Proofs.Pattern.Authored

namespace WebForm.Pattern.Authored

/-! ## The reader's words -/

def Member.adapted : Member → List Char
  | char c _ => [c]
  | range lo hi _ => [lo, '-', hi]
  | digit => ['0', '-', '9']
  | word => ['A', '-', 'Z', 'a', '-', 'z', '0', '-', '9', '_']

def Single.adapted : Single → List Char
  | char c _ => [c]
  | escaped c _ => ['\\', c]
  | digit inside => bracketed inside Member.digit.adapted
  | word inside => bracketed inside Member.word.adapted
  | members inside [] => if inside then ['(', '?', '!', ')'] else ['[', '\\', 's', '\\', 'S', ']']
  | members inside (m :: ms) => bracketed inside ((m :: ms).flatMap Member.adapted)

/-- The words of the reader. -/
def adapted : Vocabulary := ⟨Single.adapted, endOfText⟩

/-! ## Characters of a class -/

/-- A character without a meaning in a class. -/
structure Inert (c : Char) : Prop where
  close : c ≠ ']'
  slash : c ≠ '\\'
  caret : c ≠ '^'
  dash : c ≠ '-'

theorem inert_of_not_mem {c : Char} (h : c ∉ [']', '\\', '^', '-', '[']) : Inert c := by
  simp only [List.mem_cons, List.not_mem_nil, or_false, not_or] at h
  exact ⟨h.1, h.2.1, h.2.2.1, h.2.2.2.1⟩

theorem inert_of_isAlphanum {c : Char} (h : c.isAlphanum) : Inert c := by
  constructor <;> (rintro rfl; exact absurd h (by decide))

/-! ## Adapting a tree -/

theorem adaptFrom_char {c : Char} (hc : c ≠ '\\' ∧ c ≠ '[' ∧ c ≠ '$') (r : List Char) :
    adaptFrom false (c :: r) = c :: adaptFrom false r := by
  obtain ⟨hslash, hopen, hdollar⟩ := hc
  rw [adaptFrom] <;> simp_all

theorem adaptFrom_chars {t : List Char} (ht : ∀ c ∈ t, c ≠ '\\' ∧ c ≠ '[' ∧ c ≠ '$') (r : List Char) :
    adaptFrom false (t ++ r) = t ++ adaptFrom false r := by
  induction t with
  | nil => rfl
  | cons c t ih =>
    obtain ⟨hc, ht⟩ := List.forall_mem_cons.1 ht
    rw [List.cons_append, adaptFrom_char hc, ih ht]
    rfl

theorem adaptFrom_inside {c : Char} (hc : c ≠ '\\' ∧ c ≠ ']') (r : List Char) :
    adaptFrom true (c :: r) = c :: adaptFrom true r := by
  obtain ⟨hslash, hclose⟩ := hc
  rw [adaptFrom] <;> simp_all

theorem Member.adaptFrom_text (m : Member) (r : List Char) :
    adaptFrom true (m.text ++ r) = m.adapted ++ adaptFrom true r := by
  cases m with
  | char c h =>
    have hc := inert_of_not_mem h
    exact adaptFrom_inside ⟨hc.slash, hc.close⟩ r
  | range lo hi h =>
    have hlo := inert_of_isAlphanum h.1
    have hhi := inert_of_isAlphanum h.2.1
    show adaptFrom true (lo :: '-' :: hi :: r) = lo :: '-' :: hi :: adaptFrom true r
    rw [adaptFrom_inside ⟨hlo.slash, hlo.close⟩, adaptFrom_inside (by decide), adaptFrom_inside ⟨hhi.slash, hhi.close⟩]
  | digit => rfl
  | word => rfl

theorem adaptFrom_flatMap {α : Type} {text adapted : α → List Char}
    (h : ∀ a r, adaptFrom true (text a ++ r) = adapted a ++ adaptFrom true r) (as : List α) (r : List Char) :
    adaptFrom true (as.flatMap text ++ r) = as.flatMap adapted ++ adaptFrom true r := by
  induction as with
  | nil => rfl
  | cons a as ih => rw [List.flatMap_cons, List.append_assoc, h, ih, List.flatMap_cons, List.append_assoc]

theorem Member.text_starts (m : Member) : ∃ c r, m.text = c :: r ∧ c ≠ ']' ∧ c ≠ '^' := by
  cases m with
  | char c h => exact ⟨c, [], rfl, (inert_of_not_mem h).close, (inert_of_not_mem h).caret⟩
  | range lo hi h => exact ⟨lo, ['-', hi], rfl, (inert_of_isAlphanum h.1).close, (inert_of_isAlphanum h.1).caret⟩
  | digit => exact ⟨'\\', ['d'], rfl, by decide, by decide⟩
  | word => exact ⟨'\\', ['w'], rfl, by decide, by decide⟩

theorem adaptFrom_bracketed (inside : Bool) {body : List Char} (hclose : body.head? ≠ some ']')
    (hcaret : body.head? ≠ some '^') (hne : body ≠ []) {body' : List Char}
    (h : ∀ r, adaptFrom true (body ++ r) = body' ++ adaptFrom true r) (r : List Char) :
    adaptFrom false (bracketed inside body ++ r) = bracketed inside body' ++ adaptFrom false r := by
  have hbody : ∀ r, adaptFrom true (body ++ ']' :: r) = body' ++ ']' :: adaptFrom false r := fun r => h (']' :: r)
  cases body with
  | nil => exact absurd rfl hne
  | cons c body =>
    -- `[]`, `[^]` and the sign of a complement are told by the first characters alone
    simp only [List.head?_cons, ne_eq, Option.some.injEq] at hclose hcaret
    simp only [bracketed, List.append_assoc, List.cons_append, List.nil_append, ← hbody]
    cases inside with
    | true =>
      show adaptFrom false ('[' :: c :: (body ++ ']' :: r)) = _
      rw [adaptFrom] <;> simp_all
    | false =>
      show adaptFrom false ('[' :: '^' :: c :: (body ++ ']' :: r)) = _
      rw [adaptFrom] <;> simp_all

theorem adaptEscape_metacharacter {c : Char} (hc : c ∈ metacharacters) : adaptEscape c = ['\\', c] := by
  have hd : c ≠ 'd' ∧ c ≠ 'D' ∧ c ≠ 'w' ∧ c ≠ 'W' := by
    refine ⟨?_, ?_, ?_, ?_⟩ <;> (rintro rfl; exact absurd hc (by decide))
  simp [adaptEscape, hd]

theorem Single.adaptFrom_text (u : Single) (r : List Char) :
    adaptFrom false (u.text ++ r) = u.adapted ++ adaptFrom false r := by
  cases u with
  | char c h =>
    refine adaptFrom_char ⟨?_, ?_, ?_⟩ r <;> (rintro rfl; exact h (by decide))
  | escaped c h =>
    show adaptEscape c ++ adaptFrom false r = _
    rw [adaptEscape_metacharacter h]
    rfl
  | digit inside | word inside => cases inside <;> rfl
  | members inside ms =>
    cases ms with
    | nil => cases inside <;> rfl
    | cons m ms =>
      obtain ⟨c, t, ht, hclose, hcaret⟩ := m.text_starts
      exact adaptFrom_bracketed inside (by simpa [ht] using hclose) (by simpa [ht] using hcaret) (by simp [ht])
        (adaptFrom_flatMap Member.adaptFrom_text (m :: ms)) r

theorem Quantifier.adaptFrom_text (q : Quantifier) (r : List Char) :
    adaptFrom false (q.text ++ r) = q.text ++ adaptFrom false r := by
  refine adaptFrom_chars (fun c hc => ?_) r
  have hdigit : ∀ n, c ∈ Nat.toDigits 10 n → c ≠ '\\' ∧ c ≠ '[' ∧ c ≠ '$' := by
    intro n hn
    have h := isDigits_toDigits n c hn
    exact ⟨isDecimalDigit_ne h rfl, isDecimalDigit_ne h rfl, isDecimalDigit_ne h rfl⟩
  cases q <;> simp only [Quantifier.text, List.mem_cons, List.mem_append, List.not_mem_nil, or_false] at hc
  case star | plus | optional => subst hc; decide
  case exactly n h => rcases hc with rfl | hc | rfl <;> first | decide | exact hdigit _ hc
  case atLeast n h => rcases hc with rfl | hc | rfl | rfl <;> first | decide | exact hdigit _ hc
  case between m n hle h => rcases hc with rfl | hc | rfl | hc | rfl <;> first | decide | exact hdigit _ hc

mutual

theorem Disjunction.adaptFrom_write (d : Disjunction) (r : List Char) :
    adaptFrom false (d.write authored ++ r) = d.write adapted ++ adaptFrom false r := by
  cases d with
  | one a => exact a.adaptFrom_write r
  | or a d =>
    simp only [Disjunction.write, List.append_assoc, List.cons_append]
    rw [a.adaptFrom_write, adaptFrom_char (by decide), d.adaptFrom_write]

theorem Alternative.adaptFrom_write (a : Alternative) (r : List Char) :
    adaptFrom false (a.write authored ++ r) = a.write adapted ++ adaptFrom false r := by
  cases a with
  | empty => rfl
  | cons t a =>
    simp only [Alternative.write, List.append_assoc]
    rw [t.adaptFrom_write, a.adaptFrom_write]

theorem Term.adaptFrom_write (t : Term) (r : List Char) :
    adaptFrom false (t.write authored ++ r) = t.write adapted ++ adaptFrom false r := by
  cases t with
  | start => exact adaptFrom_char (by decide) r
  | finish => rfl
  | once a => exact a.adaptFrom_write r
  | many a q =>
    simp only [Term.write, List.append_assoc]
    rw [a.adaptFrom_write, q.adaptFrom_text]

theorem Atom.adaptFrom_write (a : Atom) (r : List Char) :
    adaptFrom false (a.write authored ++ r) = a.write adapted ++ adaptFrom false r := by
  cases a with
  | single u => exact u.adaptFrom_text r
  | capture d =>
    simp only [Atom.write, List.append_assoc, List.cons_append, List.nil_append]
    rw [adaptFrom_char (by decide), d.adaptFrom_write, adaptFrom_char (by decide)]
  | group d =>
    simp only [Atom.write, List.append_assoc, List.cons_append, List.nil_append]
    rw [adaptFrom_char (by decide), adaptFrom_char (by decide), adaptFrom_char (by decide), d.adaptFrom_write,
      adaptFrom_char (by decide)]

end

theorem adapt_source (d : Disjunction) : (adapt d.source).toList = d.write adapted := by
  have h := d.adaptFrom_write []
  rw [List.append_nil, adaptFrom, List.append_nil] at h
  rw [adapt, String.toList_ofList, Disjunction.source, String.toList_ofList, h]

end WebForm.Pattern.Authored
