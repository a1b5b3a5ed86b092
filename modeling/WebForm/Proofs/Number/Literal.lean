/-
Numbers as they are written in text, in the language that runs the emitted source: an unsigned literal in base
two, eight or sixteen, or a decimal with an optional sign, point and exponent, and blanks around it. Each stands
for the double nearest to it. What the reader makes of it is the integer that it denotes in the first case, and
in the second that double, as an integer where it is one.
-/
import WebForm.Proofs.Number.Numeral

namespace WebForm

/-! ## Literals -/

/-- A sign as it is written. -/
inductive Sign where
  | none
  | plus
  | minus

namespace Sign

def text : Sign → List Char
  | none => []
  | plus => ['+']
  | minus => ['-']

def negative : Sign → Bool
  | minus => true
  | _ => false

end Sign

/-- The exponent of a decimal as it is written. -/
structure Power where
  mark : Char
  sign : Sign
  digits : List Char
  isMark : mark = 'e' ∨ mark = 'E'
  isDigits : IsDigits digits
  nonempty : digits ≠ []

namespace Power

def text (p : Power) : List Char := p.mark :: (p.sign.text ++ p.digits)

def value (p : Power) : Int := if p.sign.negative then -(ofDigits 10 p.digits : Int) else ofDigits 10 p.digits

end Power

/-- A literal in another base than ten. -/
structure RadixLiteral where
  letter : Char
  base : Nat
  digits : List Char
  isLetter : radixOf? letter = some base
  isDigits : ∀ d ∈ digits, (digit? base d).isSome
  nonempty : digits ≠ []

/-- A decimal literal; there are digits before or after the point. -/
structure DecimalLiteral where
  sign : Sign
  whole : List Char
  fraction : Option (List Char)
  power : Option Power
  isWhole : IsDigits whole
  isFraction : ∀ ds, fraction = some ds → IsDigits ds
  nonempty : whole ≠ [] ∨ fraction.getD [] ≠ []

/-- A literal of either kind. -/
inductive NumberLiteral where
  | radix (l : RadixLiteral)
  | decimal (l : DecimalLiteral)

namespace RadixLiteral

def text (l : RadixLiteral) : List Char := '0' :: l.letter :: l.digits

/-- The natural that the literal denotes. -/
def value (l : RadixLiteral) : Nat := ofDigits l.base l.digits

end RadixLiteral

namespace DecimalLiteral

/-- The point and the digits after it. -/
def fractionText (l : DecimalLiteral) : List Char :=
  match l.fraction with
  | some ds => '.' :: ds
  | none => []

def powerText (l : DecimalLiteral) : List Char := (l.power.map Power.text).getD []

def text (l : DecimalLiteral) : List Char := l.sign.text ++ (l.whole ++ (l.fractionText ++ l.powerText))

/-- The parts of the literal as the reader takes them. -/
def numeral (l : DecimalLiteral) : DecimalNumeral where
  negative := l.sign.negative
  whole := l.whole
  fractional := l.fraction.getD []
  exponent := (l.power.map Power.value).getD 0

end DecimalLiteral

namespace NumberLiteral

def text : NumberLiteral → List Char
  | radix l => l.text
  | decimal l => l.text

/-- The double that a literal stands for. -/
def toDouble : NumberLiteral → Double
  | radix l => .ofInt l.value
  | decimal l => l.numeral.toDouble

/-- What the reader makes of a literal that stands for a finite double. -/
def quantity (x : FiniteDouble) : NumberLiteral → Quantity
  | radix l => .whole l.value
  | decimal _ => x.toQuantity

end NumberLiteral

/-- A text that is a literal with blanks around it. -/
def IsNumberText (s : String) (l : NumberLiteral) : Prop :=
  ∃ before after, s.toList = before ++ (l.text ++ after) ∧ (∀ c ∈ before, isTrimmable c = true) ∧
    ∀ c ∈ after, isTrimmable c = true

/-! ## Reading decimals -/

theorem Sign.sign_text (σ : Sign) {r : List Char} (hminus : r.head? ≠ some '-') (hplus : r.head? ≠ some '+') :
    DecimalNumeral.sign (σ.text ++ r) = (σ.negative, r) := by
  cases σ with
  | none =>
    show DecimalNumeral.sign r = _
    unfold DecimalNumeral.sign
    split
    · exact absurd rfl hminus
    · exact absurd rfl hplus
    · rfl
  | plus => rfl
  | minus => rfl

theorem Power.exponent?_text (p : Power) : DecimalNumeral.exponent? p.text = some p.value := by
  have hsign : DecimalNumeral.sign (p.sign.text ++ p.digits) = (p.sign.negative, p.digits) := by
    have hhead : ∀ c, p.digits.head? = some c → isDecimalDigit c = true := fun c hc => p.isDigits c (List.mem_of_head? hc)
    refine p.sign.sign_text ?_ ?_ <;> (intro h; exact absurd (hhead _ h) (by decide))
  have hall : p.digits.all isDecimalDigit = true := List.all_eq_true.2 p.isDigits
  rw [text, DecimalNumeral.exponent?, hsign]
  exact if_pos ⟨p.isMark, p.nonempty, hall⟩

namespace DecimalLiteral

variable (l : DecimalLiteral)

theorem exponent?_powerText : DecimalNumeral.exponent? l.powerText = some ((l.power.map Power.value).getD 0) := by
  unfold powerText
  cases l.power with
  | none => rfl
  | some p => exact p.exponent?_text

/-- There is no exponent, or its mark comes first. -/
theorem powerText_starts : l.powerText = [] ∨ ∃ c r, l.powerText = c :: r ∧ (c = 'e' ∨ c = 'E') := by
  unfold powerText
  cases l.power with
  | none => exact .inl rfl
  | some p => exact .inr ⟨p.mark, _, rfl, p.isMark⟩

theorem takeWhile_powerText : l.powerText.takeWhile isDecimalDigit = [] := by
  rcases l.powerText_starts with h | ⟨c, r, h, rfl | rfl⟩ <;> rw [h] <;> rfl

theorem takeWhile_fractionText : (l.fractionText ++ l.powerText).takeWhile isDecimalDigit = [] := by
  unfold fractionText
  cases l.fraction with
  | none => exact l.takeWhile_powerText
  | some ds => rfl

theorem starts :
    ∀ c, (l.whole ++ (l.fractionText ++ l.powerText)).head? = some c → isDecimalDigit c = true ∨ c = '.' := by
  intro c hc
  by_cases hwhole : l.whole = []
  · obtain ⟨ds, hds⟩ : ∃ ds, l.fraction = some ds := by
      cases h : l.fraction with
      | none => exact absurd (l.nonempty.resolve_left (not_not.2 hwhole)) (by simp [h])
      | some ds => exact ⟨ds, rfl⟩
    rw [hwhole, fractionText, hds] at hc
    exact .inr (Option.some.inj hc).symm
  · obtain ⟨d, rest, hd⟩ := List.exists_cons_of_ne_nil hwhole
    rw [hd] at hc
    obtain rfl : d = c := Option.some.inj hc
    exact .inl (l.isWhole d (by rw [hd]; exact List.mem_cons_self))

/-- The reader takes a literal apart into its parts. -/
theorem ofText?_text : DecimalNumeral.ofText? l.text = some l.numeral := by
  have hsign : DecimalNumeral.sign l.text = (l.sign.negative, l.whole ++ (l.fractionText ++ l.powerText)) := by
    refine l.sign.sign_text ?_ ?_ <;>
      (intro h; rcases l.starts _ h with hc | hc <;> exact absurd hc (by decide))
  have hnonempty := l.nonempty
  unfold DecimalNumeral.ofText?
  rw [hsign]
  simp only [List.takeWhile_append_of_pos l.isWhole, List.dropWhile_append_of_pos l.isWhole, l.takeWhile_fractionText,
    DecimalNumeral.dropWhile_of_takeWhile l.takeWhile_fractionText, List.append_nil]
  unfold fractionText numeral
  cases hf : l.fraction with
  | none =>
    -- without a point the digits end at the mark of an exponent or at the end of the text
    have hwhole : l.whole ≠ [] := by simpa [hf] using hnonempty
    rcases l.powerText_starts with hp | ⟨c, r, hp, rfl | rfl⟩ <;>
      simp [hp, hwhole, ← l.exponent?_powerText]
  | some ds =>
    have hds : IsDigits ds := l.isFraction ds hf
    have hparts : ¬(l.whole = [] ∧ ds = []) := fun h => hnonempty.elim (· h.1) (· (by rw [hf]; exact h.2))
    simp only [List.cons_append, List.takeWhile_append_of_pos hds, List.dropWhile_append_of_pos hds, l.takeWhile_powerText,
      DecimalNumeral.dropWhile_of_takeWhile l.takeWhile_powerText, List.append_nil, Option.getD_some]
    rw [if_neg hparts, l.exponent?_powerText]
    rfl

end DecimalLiteral

/-! ## Reading literals -/

/-- The characters that stand in literals are no blanks. -/
theorem not_isTrimmable {c : Char} (h : 33 ≤ c.toNat ∧ c.toNat ≤ 126) : isTrimmable c = false := by
  simp [isTrimmable]
  omega

theorem trimBlank_append {before t after : List Char} (hbefore : ∀ c ∈ before, isTrimmable c = true)
    (hafter : ∀ c ∈ after, isTrimmable c = true) (hne : t ≠ []) (ht : ∀ c ∈ t, isTrimmable c = false) :
    trimBlank (before ++ (t ++ after)) = t := by
  have hstop : ∀ s r : List Char, s ≠ [] → (∀ c ∈ s, isTrimmable c = false) → (s ++ r).dropWhile isTrimmable = s ++ r := by
    intro s r hs hc
    obtain ⟨c, s, rfl⟩ := List.exists_cons_of_ne_nil hs
    rw [List.cons_append, List.dropWhile_cons_of_neg (by simp [hc c List.mem_cons_self])]
  unfold trimBlank
  rw [List.dropWhile_append_of_pos hbefore, hstop t after hne ht, List.reverse_append,
    List.dropWhile_append_of_pos (by simpa using hafter), ← List.append_nil t.reverse,
    hstop t.reverse [] (by simpa using hne) (by simpa using ht), List.append_nil, List.reverse_reverse]

theorem not_isTrimmable_of_isNumeralChar {c : Char} (h : DecimalNumeral.IsNumeralChar c) : isTrimmable c = false := by
  rcases h with h | h
  · simp only [isDecimalDigit, Bool.and_eq_true, decide_eq_true_eq] at h
    have hlo : 48 ≤ c.toNat := h.1
    have hhi : c.toNat ≤ 57 := h.2
    exact not_isTrimmable (by omega)
  · simp only [List.mem_cons, List.not_mem_nil, or_false] at h
    rcases h with rfl | rfl | rfl | rfl | rfl <;> rfl

theorem radixOf?_of_isNumeralChar {c : Char} (h : DecimalNumeral.IsNumeralChar c) : radixOf? c = none := by
  have hne : c ≠ 'x' ∧ c ≠ 'X' ∧ c ≠ 'o' ∧ c ≠ 'O' ∧ c ≠ 'b' ∧ c ≠ 'B' := by
    refine ⟨?_, ?_, ?_, ?_, ?_, ?_⟩ <;> (rintro rfl; rcases h with h | h <;> exact absurd h (by decide))
  simp [radixOf?, hne]

/-- No decimal is a literal in another base. -/
theorem DecimalLiteral.radixLiteral?_text (l : DecimalLiteral) : radixLiteral? l.text = none := by
  have hchars : ∀ c ∈ l.text, DecimalNumeral.IsNumeralChar c := fun c hc =>
    DecimalNumeral.isNumeralChar_of_ofText? l.ofText?_text hc
  generalize l.text = t at hchars
  unfold radixLiteral?
  split
  · rename_i c ds
    rw [radixOf?_of_isNumeralChar (hchars c (by simp))]
  · rfl

theorem RadixLiteral.radixLiteral?_text (l : RadixLiteral) : radixLiteral? l.text = some l.value := by
  have hall : l.digits.all (fun d => (digit? l.base d).isSome) = true := List.all_eq_true.2 l.isDigits
  rw [text, radixLiteral?, l.isLetter]
  exact if_pos ⟨l.nonempty, hall⟩

theorem hexDigit?_bounds {c : Char} (h : (hexDigit? c).isSome) : 33 ≤ c.toNat ∧ c.toNat ≤ 126 := by
  unfold hexDigit? at h
  split_ifs at h with h1 h2 h3
  · exact ⟨le_trans (by decide) (show 48 ≤ c.toNat from h1.1), le_trans (show c.toNat ≤ 57 from h1.2) (by decide)⟩
  · exact ⟨le_trans (by decide) (show 97 ≤ c.toNat from h2.1), le_trans (show c.toNat ≤ 102 from h2.2) (by decide)⟩
  · exact ⟨le_trans (by decide) (show 65 ≤ c.toNat from h3.1), le_trans (show c.toNat ≤ 70 from h3.2) (by decide)⟩
  · cases h

namespace NumberLiteral

theorem text_ne_nil (l : NumberLiteral) : l.text ≠ [] := by
  cases l with
  | radix l => exact List.cons_ne_nil _ _
  | decimal l =>
    intro h
    have hread := l.ofText?_text
    rw [show l.text = [] from h] at hread
    cases hread

theorem not_isTrimmable_text (l : NumberLiteral) : ∀ c ∈ l.text, isTrimmable c = false := by
  cases l with
  | radix l =>
    intro c hc
    rcases List.mem_cons.1 hc with rfl | hc
    · rfl
    rcases List.mem_cons.1 hc with rfl | hc
    · have hletter := l.isLetter
      unfold radixOf? at hletter
      split_ifs at hletter with h1 h2 h3
      · rcases h1 with h | h <;> rw [h] <;> rfl
      · rcases h2 with h | h <;> rw [h] <;> rfl
      · rcases h3 with h | h <;> rw [h] <;> rfl
    · refine not_isTrimmable (hexDigit?_bounds ?_)
      obtain ⟨n, hn⟩ := Option.isSome_iff_exists.1 (l.isDigits c hc)
      exact Option.isSome_iff_exists.2 ⟨n, (Option.filter_eq_some_iff.1 hn).1⟩
  | decimal l => exact fun c hc => not_isTrimmable_of_isNumeralChar (DecimalNumeral.isNumeralChar_of_ofText? l.ofText?_text hc)

/-- The reader finds the literal between the blanks. -/
theorem trimBlank_text {s : String} {l : NumberLiteral} (h : IsNumberText s l) : trimBlank s.toList = l.text := by
  obtain ⟨before, after, hs, hbefore, hafter⟩ := h
  rw [hs]
  exact trimBlank_append hbefore hafter l.text_ne_nil l.not_isTrimmable_text

/-- What the reader makes of a text whose literal stands for a finite double. -/
theorem ofText?_text {s : String} {l : NumberLiteral} (h : IsNumberText s l) {x : FiniteDouble}
    (hx : l.toDouble = .finite x) : Quantity.ofText? s = some (l.quantity x) := by
  unfold Quantity.ofText?
  rw [trimBlank_text h]
  cases l with
  | radix l =>
    have hfinite : roundsToFinite l.value = true := by
      rw [roundsToFinite_iff, show Double.ofInt l.value = .finite x from hx]
      rfl
    simp only [text, l.radixLiteral?_text, hfinite, if_true, quantity]
  | decimal l =>
    have hdouble : l.numeral.toDouble = .finite x := hx
    simp only [text, l.radixLiteral?_text, l.ofText?_text, Option.map_some, hdouble, quantity]

end NumberLiteral

end WebForm
