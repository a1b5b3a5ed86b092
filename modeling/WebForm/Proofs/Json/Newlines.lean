/-
How lines end does not matter to the reader of JSON. Line ends stand between phrases only: a string, a
number and a constant hold none, and a string with one is refused however it is written. So two texts
that are the same up to their line ends are read alike, phrase by phrase, and so are the text of a
file and the text that was put into it. A bound of the interpreter is met in both texts or in neither.
-/
import WebForm.Input
import WebForm.Proofs.Json.Refusals
import WebForm.Proofs.Text.Utf8

namespace WebForm

/-! ## Line ends -/

theorem unifyNewlines_cons {c : Char} (hc : c ≠ '\r') (cs : List Char) :
    unifyNewlines (c :: cs) = c :: unifyNewlines cs := by
  rw [unifyNewlines]
  · exact fun _ h _ => hc h
  · exact hc

theorem unifyNewlines_cr (cs : List Char) : ∃ r, unifyNewlines ('\r' :: cs) = '\n' :: r := by
  by_cases hcs : ∃ r, cs = '\n' :: r
  · obtain ⟨r, rfl⟩ := hcs
    exact ⟨unifyNewlines r, by rw [unifyNewlines]⟩
  · refine ⟨unifyNewlines cs, ?_⟩
    rw [unifyNewlines]
    exact fun r h => hcs ⟨r, h⟩

/-- A character of the result that ends no line stood there before. -/
theorem unifyNewlines_eq_cons {c : Char} (hc : c ≠ '\n') {cs r : List Char} (h : unifyNewlines cs = c :: r) :
    ∃ cs', cs = c :: cs' ∧ unifyNewlines cs' = r := by
  unfold unifyNewlines at h
  split at h
  · exact absurd (List.cons.inj h).1 hc.symm
  · exact absurd (List.cons.inj h).1 hc.symm
  · obtain ⟨rfl, rfl⟩ := List.cons.inj h
    exact ⟨_, rfl, rfl⟩
  · cases h

theorem unifyNewlines_eq_nil_iff {cs : List Char} : unifyNewlines cs = [] ↔ cs = [] := by
  constructor
  · intro h
    unfold unifyNewlines at h
    split at h
    · cases h
    · cases h
    · cases h
    · rfl
  · rintro rfl
    rfl

theorem unifyNewlines_idem (cs : List Char) : unifyNewlines (unifyNewlines cs) = unifyNewlines cs := by
  induction cs using unifyNewlines.induct with
  | case1 rest ih =>
    rw [unifyNewlines, unifyNewlines_cons (by decide), ih]
  | case2 rest hrest ih =>
    rw [unifyNewlines, unifyNewlines_cons (by decide), ih]
    exact hrest
  | case3 c rest hrest hc ih =>
    rw [unifyNewlines_cons hc, unifyNewlines_cons hc, ih]
  | case4 => rfl

/-- Texts that differ in nothing but how their lines end. -/
def SameLines (cs cs' : List Char) : Prop := unifyNewlines cs = unifyNewlines cs'

namespace SameLines

theorem symm {cs cs' : List Char} (h : SameLines cs cs') : SameLines cs' cs := Eq.symm h

theorem unify (cs : List Char) : SameLines cs (unifyNewlines cs) := (unifyNewlines_idem cs).symm

/-- A character that ends no line stands in both texts. -/
theorem of_cons {c : Char} (hc : c ≠ '\n' ∧ c ≠ '\r') {cs cs' : List Char} (h : SameLines (c :: cs) cs') :
    ∃ r, cs' = c :: r ∧ SameLines cs r := by
  rw [SameLines, unifyNewlines_cons hc.2] at h
  obtain ⟨r, rfl, hr⟩ := unifyNewlines_eq_cons hc.1 h.symm
  exact ⟨r, rfl, hr.symm⟩

theorem eq_nil {cs : List Char} (h : SameLines [] cs) : cs = [] := unifyNewlines_eq_nil_iff.1 (Eq.symm h)

end SameLines

namespace Json

/-! ## Steps -/

theorem skipBlanks_unifyNewlines (cs : List Char) : skipBlanks (unifyNewlines cs) = unifyNewlines (skipBlanks cs) := by
  induction cs using unifyNewlines.induct with
  | case1 rest ih =>
    rw [unifyNewlines]
    exact ih
  | case2 rest hrest ih =>
    rw [unifyNewlines]
    · exact ih
    · exact hrest
  | case3 c rest hrest hc ih =>
    rw [unifyNewlines_cons hc]
    unfold skipBlanks at ih ⊢
    rw [List.dropWhile_cons, List.dropWhile_cons]
    split
    · exact ih
    · rw [unifyNewlines_cons hc]
  | case4 => rfl

theorem digits_unifyNewlines (cs : List Char) :
    (unifyNewlines cs).takeWhile isDecimalDigit = cs.takeWhile isDecimalDigit ∧
      (unifyNewlines cs).dropWhile isDecimalDigit = unifyNewlines (cs.dropWhile isDecimalDigit) := by
  induction cs using unifyNewlines.induct with
  | case1 rest ih => exact ⟨rfl, rfl⟩
  | case2 rest hrest ih =>
    have hline : unifyNewlines ('\r' :: rest) = '\n' :: unifyNewlines rest := by
      rw [unifyNewlines]
      exact hrest
    rw [hline]
    exact ⟨rfl, hline.symm⟩
  | case3 c rest hrest hc ih =>
    rw [unifyNewlines_cons hc, List.takeWhile_cons, List.dropWhile_cons, List.takeWhile_cons, List.dropWhile_cons]
    split
    · exact ⟨by rw [ih.1], ih.2⟩
    · exact ⟨rfl, by rw [unifyNewlines_cons hc]⟩
  | case4 => exact ⟨rfl, rfl⟩

/-- A step finds the same in front of line ends that were unified, and leaves the same, or fails there as
well. -/
def FollowsLines {α : Type} (step : List Char → Option (α × List Char)) : Prop :=
  ∀ cs, step (unifyNewlines cs) = (step cs).map fun found => (found.1, unifyNewlines found.2)

section

variable {α : Type} {step : List Char → Option (α × List Char)} {cs cs' r : List Char} {a : α}

theorem FollowsLines.eq_some (hstep : FollowsLines step) (hsame : SameLines cs cs') (h : step cs = some (a, r)) :
    ∃ r', step cs' = some (a, r') ∧ SameLines r r' := by
  have hunified := hstep cs'
  rw [← hsame, hstep cs, h, Option.map_some] at hunified
  obtain ⟨⟨b, r'⟩, hfound, heq⟩ := Option.map_eq_some_iff.1 hunified.symm
  obtain ⟨rfl, hr⟩ := Prod.mk.inj heq
  exact ⟨r', hfound, hr.symm⟩

theorem FollowsLines.eq_none (hstep : FollowsLines step) (hsame : SameLines cs cs') (h : step cs = none) :
    step cs' = none := by
  have hunified := hstep cs'
  rw [← hsame, hstep cs, h, Option.map_none] at hunified
  exact Option.map_eq_none_iff.1 hunified.symm

end

/-! ## Constants -/

theorem after?_unifyNewlines {word : List Char} (hword : ∀ c ∈ word, c ≠ '\n' ∧ c ≠ '\r') (cs : List Char) :
    after? word (unifyNewlines cs) = (after? word cs).map unifyNewlines := by
  induction word generalizing cs with
  | nil => rfl
  | cons w word ih =>
    obtain ⟨⟨hn, hr⟩, hword⟩ := List.forall_mem_cons.1 hword
    by_cases hc : ∃ r, cs = w :: r
    · obtain ⟨r, rfl⟩ := hc
      rw [unifyNewlines_cons hr, after?, after?, if_pos rfl, if_pos rfl, ih hword]
    · have hnone : ∀ {cs : List Char}, (∀ r, cs ≠ w :: r) → after? (w :: word) cs = none := by
        intro cs hcs
        rw [Option.eq_none_iff_forall_ne_some]
        exact fun r h => hcs (word ++ r) (after?_eq_some_iff.1 h)
      rw [hnone fun r h => hc ⟨r, h⟩, hnone]
      · rfl
      · intro r h
        obtain ⟨cs', rfl, -⟩ := unifyNewlines_eq_cons hn h
        exact hc ⟨cs', rfl⟩

theorem constants_no_line {e : List Char × Value} (he : e ∈ constants) : ∀ c ∈ e.1, c ≠ '\n' ∧ c ≠ '\r' := by
  simp only [constants, List.mem_cons, List.not_mem_nil, or_false] at he
  rcases he with rfl | rfl | rfl | rfl | rfl | rfl <;> simp

theorem followsLines_readConstant? : FollowsLines readConstant? := by
  intro cs
  have hall : ∀ words : List (List Char × Value), (∀ e ∈ words, e ∈ constants) →
      (words.findSome? fun e => (after? e.1 (unifyNewlines cs)).map fun rest => (e.2, rest)) =
        (words.findSome? fun e => (after? e.1 cs).map fun rest => (e.2, rest)).map
          fun found => (found.1, unifyNewlines found.2) := by
    intro words
    induction words with
    | nil => exact fun _ => rfl
    | cons e words ih =>
      intro hmem
      obtain ⟨he, hmem⟩ := List.forall_mem_cons.1 hmem
      rw [List.findSome?_cons, List.findSome?_cons, after?_unifyNewlines (constants_no_line he)]
      cases after? e.1 cs with
      | some rest => rfl
      | none => exact ih hmem
  exact hall constants fun _ h => h

/-! ## Numbers -/

theorem readWhole?_other {c : Char} (hc : isDecimalDigit c = false) (r : List Char) : readWhole? (c :: r) = none := by
  unfold readWhole?
  split
  · rename_i heq
    rw [(List.cons.inj heq).1] at hc
    cases hc
  · simp [hc]

theorem followsLines_readWhole? : FollowsLines readWhole? := by
  intro cs
  cases cs with
  | nil => rfl
  | cons c r =>
    by_cases hc : c = '\r'
    · subst hc
      obtain ⟨t, ht⟩ := unifyNewlines_cr r
      rw [ht, readWhole?_other rfl, readWhole?_other rfl]
      rfl
    · rw [unifyNewlines_cons hc]
      by_cases hzero : c = '0'
      · subst hzero
        rfl
      · have hother : ∀ r, readWhole? (c :: r) =
            if (c :: r).takeWhile isDecimalDigit = [] then none
            else some ((c :: r).takeWhile isDecimalDigit, (c :: r).dropWhile isDecimalDigit) := by
          intro r
          unfold readWhole?
          split
          · rename_i heq
            exact absurd (List.cons.inj heq).1 hzero
          · rfl
        rw [hother, hother, ← unifyNewlines_cons hc, (digits_unifyNewlines _).1, (digits_unifyNewlines _).2]
        split
        · rfl
        · rfl

/-- A step that takes nothing unless it stands before a mark need only be looked at there. -/
theorem unifyNewlines_of_marks {α : Type} {step : List Char → α × List Char} {marks : List Char} {a : α}
    (hline : '\n' ∉ marks ∧ '\r' ∉ marks) (hnil : step [] = (a, []))
    (hother : ∀ c ∉ marks, ∀ r, step (c :: r) = (a, c :: r))
    (hmark : ∀ c ∈ marks, ∀ r, step (c :: unifyNewlines r) = ((step (c :: r)).1, unifyNewlines (step (c :: r)).2))
    (cs : List Char) : step (unifyNewlines cs) = ((step cs).1, unifyNewlines (step cs).2) := by
  cases cs with
  | nil =>
    rw [show unifyNewlines [] = [] from rfl, hnil]
    rfl
  | cons c r =>
    by_cases hc : c ∈ marks
    · rw [unifyNewlines_cons (fun h => hline.2 (h ▸ hc)), hmark c hc]
    · rw [hother c hc]
      by_cases hcr : c = '\r'
      · subst hcr
        obtain ⟨t, ht⟩ := unifyNewlines_cr r
        rw [ht, hother _ hline.1]
      · rw [unifyNewlines_cons hcr, hother c hc]

theorem readFraction_unifyNewlines (cs : List Char) :
    readFraction (unifyNewlines cs) = ((readFraction cs).1, unifyNewlines (readFraction cs).2) := by
  refine @unifyNewlines_of_marks _ readFraction ['.'] [] (by simp) rfl (fun c hc r => ?_) (fun c hc r => ?_) cs
  · unfold readFraction
    split
    · rename_i heq
      exact absurd (List.mem_singleton.2 (List.cons.inj heq).1) hc
    · rfl
  · obtain rfl := List.mem_singleton.1 hc
    simp only [readFraction, (digits_unifyNewlines r).1, (digits_unifyNewlines r).2]
    split
    · rw [unifyNewlines_cons (by decide)]
    · rfl

theorem sign_unifyNewlines (cs : List Char) :
    DecimalNumeral.sign (unifyNewlines cs) = ((DecimalNumeral.sign cs).1, unifyNewlines (DecimalNumeral.sign cs).2) := by
  refine @unifyNewlines_of_marks _ DecimalNumeral.sign ['-', '+'] false (by simp) rfl (fun c hc r => ?_)
    (fun c hc r => ?_) cs
  · unfold DecimalNumeral.sign
    split
    · rename_i heq
      exact absurd (by simp [(List.cons.inj heq).1]) hc
    · rename_i heq
      exact absurd (by simp [(List.cons.inj heq).1]) hc
    · rfl
  · simp only [List.mem_cons, List.not_mem_nil, or_false] at hc
    rcases hc with rfl | rfl
    · rfl
    · rfl

theorem splitMinus_unifyNewlines (cs : List Char) :
    splitMinus (unifyNewlines cs) = ((splitMinus cs).1, unifyNewlines (splitMinus cs).2) := by
  refine @unifyNewlines_of_marks _ splitMinus ['-'] false (by simp) rfl (fun c hc r => ?_) (fun c hc r => ?_) cs
  · unfold splitMinus
    split
    · rename_i heq
      exact absurd (List.mem_singleton.2 (List.cons.inj heq).1) hc
    · rfl
  · obtain rfl := List.mem_singleton.1 hc
    rfl

theorem readExponent_unifyNewlines (cs : List Char) :
    readExponent (unifyNewlines cs) = ((readExponent cs).1, unifyNewlines (readExponent cs).2) := by
  refine @unifyNewlines_of_marks _ readExponent ['e', 'E'] none (by simp) rfl (fun c hc r => ?_) (fun c hc r => ?_) cs
  · exact if_neg fun h => hc (by simpa using h.1)
  · simp only [readExponent, sign_unifyNewlines, (digits_unifyNewlines _).1, (digits_unifyNewlines _).2]
    split
    · rfl
    · rw [unifyNewlines_cons fun h => absurd (h ▸ hc) (by simp)]

theorem followsLines_readNumber? (digits : Nat) : FollowsLines (readNumber? digits) := by
  intro cs
  rw [readNumber?_eq, readNumber?_eq, splitMinus_unifyNewlines, followsLines_readWhole?, Option.map_map, Option.map_map]
  congr 1
  funext found
  simp only [Function.comp, readFraction_unifyNewlines, readExponent_unifyNewlines]

/-! ## Characters -/

theorem hexDigit?_no_line {c : Char} (hc : (hexDigit? c).isSome = true) : c ≠ '\n' ∧ c ≠ '\r' := by
  constructor
  · rintro rfl
    cases hc
  · rintro rfl
    cases hc

theorem readUnit?_sameLines {cs cs' r : List Char} {n : Nat} (hsame : SameLines cs cs') (h : readUnit? cs = some (n, r)) :
    ∃ r', readUnit? cs' = some (n, r') ∧ SameLines r r' := by
  obtain ⟨a, b, c, d, rfl, hr, hdigits, hn⟩ := readUnit?_eq_some_iff.1 h
  have hline : ∀ x ∈ [a, b, c, d], x ≠ '\n' ∧ x ≠ '\r' := fun x hx => hexDigit?_no_line (hdigits x hx)
  simp only [List.forall_mem_cons] at hline
  obtain ⟨ha, hb, hc, hd, -⟩ := hline
  obtain ⟨r₁, rfl, hsame₁⟩ := hsame.of_cons ha
  obtain ⟨r₂, rfl, hsame₂⟩ := hsame₁.of_cons hb
  obtain ⟨r₃, rfl, hsame₃⟩ := hsame₂.of_cons hc
  obtain ⟨r₄, rfl, hsame₄⟩ := hsame₃.of_cons hd
  refine ⟨r₄, readUnit?_eq_some_iff.2 ⟨a, b, c, d, rfl, ?_, hdigits, hn⟩, hsame₄⟩
  rintro rfl
  exact hr hsame₄.symm.eq_nil

theorem secondUnit?_sameLines {cs cs' r : List Char} {high low : Nat} (hsame : SameLines cs cs')
    (h : secondUnit? high cs = some (low, r)) : ∃ r', secondUnit? high cs' = some (low, r') ∧ SameLines r r' := by
  obtain ⟨r₀, rfl, hunit, hhigh, hlow⟩ := secondUnit?_eq_some h
  obtain ⟨r₁, rfl, hsame₁⟩ := hsame.of_cons (by decide)
  obtain ⟨r₂, rfl, hsame₂⟩ := hsame₁.of_cons (by decide)
  obtain ⟨r', hunit', hr⟩ := readUnit?_sameLines hsame₂ hunit
  exact ⟨r', by simp [secondUnit?, hunit', hhigh, hlow], hr⟩

/-- What no second unit follows is followed by none in the other text either. -/
theorem secondUnit?_eq_none {cs cs' : List Char} {high : Nat} (hsame : SameLines cs cs')
    (h : secondUnit? high cs = none) :
    secondUnit? high cs' = none := by
  rw [Option.eq_none_iff_forall_ne_some]
  rintro ⟨low, r⟩ hsome
  obtain ⟨r', hsome', -⟩ := secondUnit?_sameLines hsame.symm hsome
  rw [h] at hsome'
  cases hsome'

theorem simpleEscape?_no_line {c d : Char} (hc : simpleEscape? c = some d) : c ≠ '\n' ∧ c ≠ '\r' := by
  constructor
  · rintro rfl
    cases hc
  · rintro rfl
    cases hc

theorem ReadsChars.sameLines {cs r : List Char} {s : List (Option Char)} (h : ReadsChars cs s r) {cs' : List Char}
    (hsame : SameLines cs cs') : ∃ r', ReadsChars cs' s r' ∧ SameLines r r' := by
  induction h generalizing cs' with
  | close r =>
    obtain ⟨r', rfl, hr⟩ := hsame.of_cons (by decide)
    exact ⟨r', .close r', hr⟩
  | @plain c cs r s hquote hslash hc _ ih =>
    have hline : c ≠ '\n' ∧ c ≠ '\r' := by
      constructor
      · rintro rfl
        exact absurd hc (by decide)
      · rintro rfl
        exact absurd hc (by decide)
    obtain ⟨cs', rfl, hsame₁⟩ := hsame.of_cons hline
    obtain ⟨r', hs, hr⟩ := ih hsame₁
    exact ⟨r', .plain hquote hslash hc hs, hr⟩
  | simple hc _ ih =>
    obtain ⟨cs', rfl, hsame₁⟩ := hsame.of_cons (by decide)
    obtain ⟨cs', rfl, hsame₂⟩ := hsame₁.of_cons (simpleEscape?_no_line hc)
    obtain ⟨r', hs, hr⟩ := ih hsame₂
    exact ⟨r', .simple hc hs, hr⟩
  | unit hunit hsecond _ ih =>
    obtain ⟨cs', rfl, hsame₁⟩ := hsame.of_cons (by decide)
    obtain ⟨cs', rfl, hsame₂⟩ := hsame₁.of_cons (by decide)
    obtain ⟨cs₁, hunit', hsame₃⟩ := readUnit?_sameLines hsame₂ hunit
    obtain ⟨r', hs, hr⟩ := ih hsame₃
    exact ⟨r', .unit hunit' (secondUnit?_eq_none hsame₃ hsecond) hs, hr⟩
  | pair hunit hsecond _ ih =>
    obtain ⟨cs', rfl, hsame₁⟩ := hsame.of_cons (by decide)
    obtain ⟨cs', rfl, hsame₂⟩ := hsame₁.of_cons (by decide)
    obtain ⟨cs₁, hunit', hsame₃⟩ := readUnit?_sameLines hsame₂ hunit
    obtain ⟨cs₂, hsecond', hsame₄⟩ := secondUnit?_sameLines hsame₃ hsecond
    obtain ⟨r', hs, hr⟩ := ih hsame₄
    exact ⟨r', .pair hunit' hsecond' hs, hr⟩

/-! ## Phrases -/

theorem skipBlanks_sameLines {cs cs' : List Char} (hsame : SameLines cs cs') :
    SameLines (skipBlanks cs) (skipBlanks cs') := by
  rw [SameLines, ← skipBlanks_unifyNewlines, ← skipBlanks_unifyNewlines, hsame]

/-- A mark behind blanks stands in both texts. -/
theorem skipBlanks_eq_cons {cs cs' r : List Char} {c : Char} (hc : c ≠ '\n' ∧ c ≠ '\r') (hsame : SameLines cs cs')
    (h : skipBlanks cs = c :: r) : ∃ r', skipBlanks cs' = c :: r' ∧ SameLines r r' := by
  have hskip := skipBlanks_sameLines hsame
  rw [h] at hskip
  exact hskip.of_cons hc

/-- A phrase is read from both texts, and what it leaves is the same up to line ends again. -/
theorem Reads.sameLines {digits levels : Nat} {p : Phrase} {cs r : List Char} (h : Reads digits levels p cs r)
    {cs' : List Char} (hsame : SameLines cs cs') : ∃ r', Reads digits levels p cs' r' ∧ SameLines r r' := by
  -- each part is read from the other text too and hands on a rest with the same lines
  induction h generalizing cs' with
  | text h =>
    obtain ⟨cs', rfl, hsame₁⟩ := hsame.of_cons (by decide)
    obtain ⟨r', hs, hr⟩ := h.sameLines hsame₁
    exact ⟨r', .text hs, hr⟩
  | constant h =>
    obtain ⟨r', h', hr⟩ := followsLines_readConstant?.eq_some hsame h
    exact ⟨r', .constant h', hr⟩
  | number hconstant h =>
    obtain ⟨r', h', hr⟩ := (followsLines_readNumber? digits).eq_some hsame h
    exact ⟨r', .number (followsLines_readConstant?.eq_none hsame hconstant) h', hr⟩
  | emptyList hclose =>
    obtain ⟨cs', rfl, hsame₁⟩ := hsame.of_cons (by decide)
    obtain ⟨r', hclose', hr⟩ := skipBlanks_eq_cons (by decide) hsame₁ hclose
    exact ⟨r', .emptyList hclose', hr⟩
  | list _ ih =>
    obtain ⟨cs', rfl, hsame₁⟩ := hsame.of_cons (by decide)
    obtain ⟨r', hitems, hr⟩ := ih (skipBlanks_sameLines hsame₁)
    exact ⟨r', .list hitems, hr⟩
  | emptyObject hclose =>
    obtain ⟨cs', rfl, hsame₁⟩ := hsame.of_cons (by decide)
    obtain ⟨r', hclose', hr⟩ := skipBlanks_eq_cons (by decide) hsame₁ hclose
    exact ⟨r', .emptyObject hclose', hr⟩
  | object _ ih =>
    obtain ⟨cs', rfl, hsame₁⟩ := hsame.of_cons (by decide)
    obtain ⟨r', hentries, hr⟩ := ih (skipBlanks_sameLines hsame₁)
    exact ⟨r', .object hentries, hr⟩
  | lastItem _ hclose ih =>
    obtain ⟨r₁, hv, hsame₁⟩ := ih hsame
    obtain ⟨r', hclose', hr⟩ := skipBlanks_eq_cons (by decide) hsame₁ hclose
    exact ⟨r', .lastItem hv hclose', hr⟩
  | item _ hcomma _ ih ihs =>
    obtain ⟨r₁, hv, hsame₁⟩ := ih hsame
    obtain ⟨r₂, hcomma', hsame₂⟩ := skipBlanks_eq_cons (by decide) hsame₁ hcomma
    obtain ⟨r', hvs, hr⟩ := ihs (skipBlanks_sameLines hsame₂)
    exact ⟨r', .item hv hcomma' hvs, hr⟩
  | lastEntry hkey hcolon _ hclose ih =>
    obtain ⟨cs', rfl, hsame₁⟩ := hsame.of_cons (by decide)
    obtain ⟨r₁, hkey', hsame₂⟩ := hkey.sameLines hsame₁
    obtain ⟨r₂, hcolon', hsame₃⟩ := skipBlanks_eq_cons (by decide) hsame₂ hcolon
    obtain ⟨r₃, hv, hsame₄⟩ := ih (skipBlanks_sameLines hsame₃)
    obtain ⟨r', hclose', hr⟩ := skipBlanks_eq_cons (by decide) hsame₄ hclose
    exact ⟨r', .lastEntry hkey' hcolon' hv hclose', hr⟩
  | entry hkey hcolon _ hcomma _ ih ihs =>
    obtain ⟨cs', rfl, hsame₁⟩ := hsame.of_cons (by decide)
    obtain ⟨r₁, hkey', hsame₂⟩ := hkey.sameLines hsame₁
    obtain ⟨r₂, hcolon', hsame₃⟩ := skipBlanks_eq_cons (by decide) hsame₂ hcolon
    obtain ⟨r₃, hv, hsame₄⟩ := ih (skipBlanks_sameLines hsame₃)
    obtain ⟨r₄, hcomma', hsame₅⟩ := skipBlanks_eq_cons (by decide) hsame₄ hcomma
    obtain ⟨r', hes, hr⟩ := ihs (skipBlanks_sameLines hsame₅)
    exact ⟨r', .entry hkey' hcolon' hv hcomma' hes, hr⟩

/-- Where a bound is exceeded in one text it is exceeded in the other. -/
theorem Exceeds.sameLines {digits levels : Nat} {part : Part} {cs : List Char} {e : Excess}
    (h : Exceeds digits levels part cs e) {cs' : List Char} (hsame : SameLines cs cs') :
    Exceeds digits levels part cs' e := by
  -- what was read in front of the place is read from the other text too
  induction h generalizing cs' with
  | bracket =>
    obtain ⟨cs', rfl, -⟩ := hsame.of_cons (by decide)
    exact .bracket
  | brace =>
    obtain ⟨cs', rfl, -⟩ := hsame.of_cons (by decide)
    exact .brace
  | number hconstant h =>
    obtain ⟨r', h', -⟩ := (followsLines_readNumber? digits).eq_some hsame h
    exact .number (followsLines_readConstant?.eq_none hsame hconstant) h'
  | list _ ih =>
    obtain ⟨cs', rfl, hsame₁⟩ := hsame.of_cons (by decide)
    exact .list (ih (skipBlanks_sameLines hsame₁))
  | object _ ih =>
    obtain ⟨cs', rfl, hsame₁⟩ := hsame.of_cons (by decide)
    exact .object (ih (skipBlanks_sameLines hsame₁))
  | firstItem _ ih => exact .firstItem (ih hsame)
  | laterItem h hcomma _ ih =>
    obtain ⟨r₁, hv, hsame₁⟩ := h.sameLines hsame
    obtain ⟨r₂, hcomma', hsame₂⟩ := skipBlanks_eq_cons (by decide) hsame₁ hcomma
    exact .laterItem hv hcomma' (ih (skipBlanks_sameLines hsame₂))
  | firstEntry hkey hcolon _ ih =>
    obtain ⟨cs', rfl, hsame₁⟩ := hsame.of_cons (by decide)
    obtain ⟨r₁, hkey', hsame₂⟩ := hkey.sameLines hsame₁
    obtain ⟨r₂, hcolon', hsame₃⟩ := skipBlanks_eq_cons (by decide) hsame₂ hcolon
    exact .firstEntry hkey' hcolon' (ih (skipBlanks_sameLines hsame₃))
  | laterEntry hkey hcolon h hcomma _ ih =>
    obtain ⟨cs', rfl, hsame₁⟩ := hsame.of_cons (by decide)
    obtain ⟨r₁, hkey', hsame₂⟩ := hkey.sameLines hsame₁
    obtain ⟨r₂, hcolon', hsame₃⟩ := skipBlanks_eq_cons (by decide) hsame₂ hcolon
    obtain ⟨r₃, hv, hsame₄⟩ := h.sameLines (skipBlanks_sameLines hsame₃)
    obtain ⟨r₄, hcomma', hsame₅⟩ := skipBlanks_eq_cons (by decide) hsame₄ hcomma
    exact .laterEntry hkey' hcolon' hv hcomma' (ih (skipBlanks_sameLines hsame₅))

/-! ## Texts -/

section

variable {bounds : Bounds} {cs cs' : List Char}

theorem unmarked_of_sameLines (hsame : SameLines cs cs') (hmark : ∀ t, cs ≠ '\uFEFF' :: t) :
    ∀ t, cs' ≠ '\uFEFF' :: t := by
  rintro t rfl
  obtain ⟨t', rfl, -⟩ := hsame.symm.of_cons (by decide)
  exact hmark t' rfl

/-- The value of a text is that of every text with the same lines. -/
theorem readText_sameLines (hsame : SameLines cs cs') {v : Option Value} (h : readText bounds cs = .ok v) :
    readText bounds cs' = .ok v := by
  obtain ⟨hmark, r, hv, hend⟩ := readText_eq_ok_iff.1 h
  obtain ⟨r', hv', hr⟩ := hv.sameLines (skipBlanks_sameLines hsame)
  refine readText_eq_ok_iff.2 ⟨unmarked_of_sameLines hsame hmark, r', hv', ?_⟩
  have hskip := skipBlanks_sameLines hr
  rw [hend] at hskip
  exact hskip.eq_nil

/-- And so is the bound that it goes beyond. -/
theorem readText_exceeded_sameLines (hsame : SameLines cs cs') {e : Excess}
    (h : readText bounds cs = .error (.exceeded e)) : readText bounds cs' = .error (.exceeded e) := by
  obtain ⟨hmark, hexceeds⟩ := readText_eq_exceeded_iff.1 h
  exact readText_eq_exceeded_iff.2 ⟨unmarked_of_sameLines hsame hmark, hexceeds.sameLines (skipBlanks_sameLines hsame)⟩

/-- A text with the same lines as a malformed one is malformed, since any other outcome would be that of both. -/
theorem readText_malformed_sameLines (hsame : SameLines cs cs') {cause : Cause} {left : Nat}
    (h : readText bounds cs = .error (.malformed cause left)) :
    ∃ cause left, readText bounds cs' = .error (.malformed cause left) := by
  rcases h' : readText bounds cs' with (⟨cause', left'⟩ | e) | v
  · exact ⟨cause', left', rfl⟩
  · rw [readText_exceeded_sameLines hsame.symm h'] at h
    cases h
  · rw [readText_sameLines hsame.symm h'] at h
    cases h

end

end Json

/-- Readings that come to the same, wherever two malformed texts fail. -/
def SameButPlace (x y : Except InputFailure Value) : Prop :=
  x = y ∨ (∃ f, x = .error (.json f)) ∧ ∃ f, y = .error (.json f)

namespace SameButPlace

variable {x y : Except InputFailure Value}

theorem ok_iff (h : SameButPlace x y) (v : Value) : x = .ok v ↔ y = .ok v := by
  rcases h with rfl | ⟨⟨f, rfl⟩, g, rfl⟩
  · exact Iff.rfl
  · simp

theorem exists_json_iff (h : SameButPlace x y) : (∃ f, x = .error (.json f)) ↔ ∃ f, y = .error (.json f) := by
  rcases h with rfl | ⟨hx, hy⟩
  · exact Iff.rfl
  · exact iff_of_true hx hy

theorem error_iff (h : SameButPlace x y) {e : InputFailure} (he : ∀ f, e ≠ .json f) : x = .error e ↔ y = .error e := by
  rcases h with rfl | ⟨⟨f, rfl⟩, g, rfl⟩
  · exact Iff.rfl
  · simp [(he f).symm, (he g).symm]

end SameButPlace

theorem Format.read_json_of_sameLines (p : Platform) {text text' : String} (hsame : SameLines text.toList text'.toList) :
    SameButPlace (Format.json.read p text) (Format.json.read p text') := by
  show SameButPlace ((Json.read p.bounds text).mapError .ofJson) ((Json.read p.bounds text').mapError .ofJson)
  rcases h : Json.readText p.bounds text.toList with (⟨cause, left⟩ | e) | _ | v
  · obtain ⟨f, hf⟩ := Json.read_eq_malformed_iff.2 ⟨cause, left, h⟩
    obtain ⟨g, hg⟩ := Json.read_eq_malformed_iff.2 (Json.readText_malformed_sameLines hsame h)
    rw [hf, hg]
    exact .inr ⟨⟨f, rfl⟩, g, rfl⟩
  · rw [Json.read_eq_exceeded_iff.2 h, Json.read_eq_exceeded_iff.2 (Json.readText_exceeded_sameLines hsame h)]
    exact .inl rfl
  · rw [Json.read_eq_halfPair_iff.2 h, Json.read_eq_halfPair_iff.2 (Json.readText_sameLines hsame h)]
    exact .inl rfl
  · rw [Json.read_eq_ok_iff.2 h, Json.read_eq_ok_iff.2 (Json.readText_sameLines hsame h)]
    exact .inl rfl

/-! ## Files -/

/-- The suffix of the last name of a path. -/
def Path.suffix (p : Path) : List Char := suffixOf ((p.names.getLast?.getD "").toList)

theorem Path.format_eq_json {p : Path} (hsuffix : lower p.suffix ∉ [".yaml".toList, ".yml".toList]) :
    p.format = .json := by
  simp only [List.mem_cons, List.not_mem_nil, or_false] at hsuffix
  exact if_neg hsuffix

/-- A file of encoded text is read as the text with unified line ends. -/
theorem Files.readText_of_encoded {files : Files} {p : Path} {text : String}
    (hfile : files.get? p = some (.file text.toByteArray.data.toList)) :
    files.readText p = .ok (String.ofList (unifyNewlines text.toList)) := by
  unfold Files.readText
  rw [hfile, ← Utf8.encode_toList]
  simp only [Utf8.decode_encode]

/-- A file that is not named as YAML gives the value of the text that was put into it, and fails as JSON
where that text does, whatever its line ends are. Any other failure is the same as well. -/
theorem Files.load_agrees_with_read {p : Platform} {files : Files} {path text : String}
    (hfile : files.get? (Path.ofText path) = some (.file text.toByteArray.data.toList))
    (hsuffix : Path.lower (Path.ofText path).suffix ∉ [".yaml".toList, ".yml".toList]) :
    (∀ v, files.load p path = .ok v ↔ Format.json.read p text = .ok v) ∧
      ((∃ f, files.load p path = .error (.json f)) ↔ ∃ f, Format.json.read p text = .error (.json f)) ∧
        ∀ e, (∀ f, e ≠ .json f) → (files.load p path = .error e ↔ Format.json.read p text = .error e) := by
  have hload : files.load p path = Format.json.read p (String.ofList (unifyNewlines text.toList)) := by
    unfold Files.load
    dsimp only
    rw [Files.readText_of_encoded hfile, Path.format_eq_json hsuffix]
    rfl
  have hlines : SameLines (String.ofList (unifyNewlines text.toList)).toList text.toList := by
    rw [String.toList_ofList]
    exact (SameLines.unify text.toList).symm
  have hsame := Format.read_json_of_sameLines p hlines
  rw [hload]
  exact ⟨hsame.ok_iff, hsame.exists_json_iff, fun e he => hsame.error_iff he⟩

/-- A file whose lines end in all three ways, also behind a number. -/
theorem Files.load_agrees_with_read_of_mixed_lines :
    let p : Platform := ⟨⟨4300, 990, 990⟩, fun _ => .error .foreign, fun _ => none, fun _ _ => none⟩
    let text := "[1,\r\n2\r,\n\"a\"]\r"
    let files : Files := [("data/Form.JSON", .file text.toByteArray.data.toList)]
    unifyNewlines text.toList ≠ text.toList ∧
      files.get? (Path.ofText "data/Form.JSON") = some (.file text.toByteArray.data.toList) ∧
        Path.lower (Path.ofText "data/Form.JSON").suffix = ".json".toList ∧
          (∀ v, files.load p "data/Form.JSON" = .ok v ↔ Format.json.read p text = .ok v) ∧
            ∃ v, Format.json.read p text = .ok v := by
  intro p text files
  have hfile : files.get? (Path.ofText "data/Form.JSON") = some (.file text.toByteArray.data.toList) := rfl
  have hsuffix : Path.lower (Path.ofText "data/Form.JSON").suffix = ".json".toList := by decide +kernel
  obtain ⟨hok, -, -⟩ := Files.load_agrees_with_read (p := p) hfile (by rw [hsuffix]; decide)
  have hread : ∃ v, Format.json.read p text = .ok v := by
    have hgives : (Format.json.read p text).toBool = true := by decide +kernel
    cases hv : Format.json.read p text with
    | ok v => exact ⟨v, rfl⟩
    | error f =>
      rw [hv] at hgives
      cases hgives
  exact ⟨by decide +kernel, hfile, hsuffix, hok, hread⟩

end WebForm
