/-
Which texts are read as numbers. Between the blanks at its ends such a text is a literal, whole and nothing else:
every text that the reader takes apart was put together from the parts that it found. A literal in another base is
read as the integer that it denotes, provided that this rounds to a finite double; a decimal as the double nearest to
it, as an integer where it is one.
-/
import WebForm.Proofs.Number.Literal
import WebForm.Proofs.Number.Rounding

namespace WebForm

/-! ## Blanks -/

/-- The blanks that may stand around a number. -/
def numberBlanks : List Char :=
  ['\t', '\n', '\x0b', '\x0c', '\r', ' ', '\u00a0', '\u1680', '\u2000', '\u2001', '\u2002', '\u2003', '\u2004',
    '\u2005', '\u2006', '\u2007', '\u2008', '\u2009', '\u200a', '\u2028', '\u2029', '\u202f', '\u205f', '\u3000',
    '\ufeff']

theorem isTrimmable_iff {c : Char} : isTrimmable c = true ↔ c ∈ numberBlanks := by
  have hcode : ∀ d : Char, c = d ↔ c.toNat = d.toNat := fun d => ⟨congrArg _, fun h => Char.toNat_inj.1 h⟩
  simp only [isTrimmable, numberBlanks, List.mem_cons, List.not_mem_nil, or_false, hcode]
  simp
  omega

/-- What is left of a text is the text between two runs of blanks. -/
theorem exists_trimBlank (s : List Char) : ∃ before after, s = before ++ (trimBlank s ++ after) ∧
    (∀ c ∈ before, isTrimmable c = true) ∧ ∀ c ∈ after, isTrimmable c = true := by
  have hfront : s.takeWhile isTrimmable ++ s.dropWhile isTrimmable = s := List.takeWhile_append_dropWhile
  have hback : trimBlank s ++ ((s.dropWhile isTrimmable).reverse.takeWhile isTrimmable).reverse =
      s.dropWhile isTrimmable := by
    rw [trimBlank, ← List.reverse_append, List.takeWhile_append_dropWhile, List.reverse_reverse]
  refine ⟨s.takeWhile isTrimmable, ((s.dropWhile isTrimmable).reverse.takeWhile isTrimmable).reverse, ?_,
    fun c hc => List.mem_takeWhile_imp hc, fun c hc => List.mem_takeWhile_imp (List.mem_reverse.1 hc)⟩
  rw [hback, hfront]

/-- Blanks at the ends make no difference. -/
theorem trimBlank_pad {before after : List Char} (hbefore : ∀ c ∈ before, isTrimmable c = true)
    (hafter : ∀ c ∈ after, isTrimmable c = true) (s : List Char) : trimBlank (before ++ (s ++ after)) = trimBlank s := by
  have hrest : (s ++ after).dropWhile isTrimmable = s.dropWhile isTrimmable ++ after ∨
      s.dropWhile isTrimmable = [] ∧ (s ++ after).dropWhile isTrimmable = [] := by
    rw [List.dropWhile_append]
    split
    · rename_i h
      exact .inr ⟨List.isEmpty_iff.1 h, List.dropWhile_eq_nil_iff.2 hafter⟩
    · exact .inl rfl
  unfold trimBlank
  rw [List.dropWhile_append_of_pos hbefore]
  rcases hrest with h | ⟨hs, h⟩
  · rw [h, List.reverse_append, List.dropWhile_append_of_pos (by simpa using hafter)]
  · rw [h, hs]

/-! ## Literals from the text that was read -/

theorem exists_sign (s : List Char) : ∃ σ : Sign, s = σ.text ++ (DecimalNumeral.sign s).2 ∧
    (DecimalNumeral.sign s).1 = σ.negative := by
  unfold DecimalNumeral.sign
  split
  · exact ⟨.minus, rfl, rfl⟩
  · exact ⟨.plus, rfl, rfl⟩
  · exact ⟨.none, rfl, rfl⟩

theorem exists_power {s : List Char} {e : Int} (h : DecimalNumeral.exponent? s = some e) :
    ∃ p : Option Power, s = (p.map Power.text).getD [] ∧ e = (p.map Power.value).getD 0 := by
  unfold DecimalNumeral.exponent? at h
  split at h
  · cases h
    exact ⟨none, rfl, rfl⟩
  · rename_i c r
    obtain ⟨σ, hr, hneg⟩ := exists_sign r
    simp only at h
    split at h
    · rename_i hpower
      obtain ⟨hmark, hne, hdigits⟩ := hpower
      cases h
      refine ⟨some ⟨c, σ, _, hmark, List.all_eq_true.1 hdigits, hne⟩, ?_, ?_⟩
      · exact congrArg (c :: ·) hr
      · rw [hneg]
        rfl
    · cases h

/-- A text that is taken apart into the parts of a numeral is a decimal literal. -/
theorem exists_decimalLiteral {s : List Char} {N : DecimalNumeral} (h : DecimalNumeral.ofText? s = some N) :
    ∃ l : DecimalLiteral, l.text = s ∧ l.numeral = N := by
  obtain ⟨σ, hs, hneg⟩ := exists_sign s
  have hdigits : ∀ r : List Char, IsDigits (r.takeWhile isDecimalDigit) := fun r c hc => List.mem_takeWhile_imp hc
  have hsplit : ∀ r : List Char, r.takeWhile isDecimalDigit ++ r.dropWhile isDecimalDigit = r := fun r =>
    List.takeWhile_append_dropWhile
  unfold DecimalNumeral.ofText? at h
  simp only at h
  generalize (DecimalNumeral.sign s).1 = negative at *
  generalize (DecimalNumeral.sign s).2 = r at *
  have hr := hsplit r
  split at h
  · rename_i rest hrest
    -- the parts after the point
    simp only at h
    split at h
    · cases h
    rename_i hne
    obtain ⟨e, he, rfl⟩ := Option.map_eq_some_iff.1 h
    obtain ⟨p, hp, rfl⟩ := exists_power he
    refine ⟨⟨σ, r.takeWhile isDecimalDigit, some (rest.takeWhile isDecimalDigit), p, hdigits r, ?_, ?_⟩, ?_, ?_⟩
    · rintro _ ⟨⟩
      exact hdigits rest
    · exact not_and_or.1 hne
    · have hrest' : rest = rest.takeWhile isDecimalDigit ++ (p.map Power.text).getD [] := by rw [← hp, hsplit]
      show σ.text ++ (r.takeWhile isDecimalDigit ++ ('.' :: rest.takeWhile isDecimalDigit ++ (p.map Power.text).getD [])) = s
      rw [List.cons_append, ← hrest', ← hrest, hr, ← hs]
    · rw [hneg]
      rfl
  · rename_i hpoint
    simp only at h
    split at h
    · cases h
    rename_i hne
    obtain ⟨e, he, rfl⟩ := Option.map_eq_some_iff.1 h
    obtain ⟨p, hp, rfl⟩ := exists_power he
    refine ⟨⟨σ, r.takeWhile isDecimalDigit, none, p, hdigits r, nofun, ?_⟩, ?_, ?_⟩
    · exact .inl fun hw => hne ⟨hw, trivial⟩
    · show σ.text ++ (r.takeWhile isDecimalDigit ++ ([] ++ (p.map Power.text).getD [])) = s
      rw [List.nil_append, ← hp, hr, ← hs]
    · rw [hneg]
      rfl

theorem exists_radixLiteral {s : List Char} {n : Nat} (h : radixLiteral? s = some n) :
    ∃ l : RadixLiteral, l.text = s ∧ l.value = n := by
  unfold radixLiteral? at h
  split at h
  · rename_i c ds
    split at h
    · rename_i base hbase
      split at h
      · rename_i hdigits
        cases h
        exact ⟨⟨c, base, ds, hbase, List.all_eq_true.1 hdigits.2, hdigits.1⟩, rfl, rfl⟩
      · cases h
    · cases h
  · cases h

/-! ## Reading -/

theorem Double.exists_of_isFinite {d : Double} (h : d.isFinite = true) : ∃ x, d = .finite x := by
  cases d with
  | finite x => exact ⟨x, rfl⟩
  | nan => cases h
  | infinity => cases h

namespace NumberLiteral

/-- The exact magnitude that a literal denotes. -/
def magnitude : NumberLiteral → ℚ
  | radix l => l.value
  | decimal l => l.numeral.magnitude

/-- The number that a literal is read as: the integer that a literal in another base denotes, if it rounds to a
finite double; of a decimal the nearest double, or the integer that this double equals. -/
def ReadAs (q : Quantity) : NumberLiteral → Prop
  | radix l => (∃ x : FiniteDouble, x.Rounds (magnitude (radix l))) ∧ q = .whole l.value
  | decimal l => ∃ x : FiniteDouble, x.negative = l.sign.negative ∧ x.Rounds (magnitude (decimal l)) ∧
      ((∃ n : Int, x.value = n ∧ q = .whole n) ∨ (∀ n : Int, x.value ≠ n) ∧ q = .binary x)

theorem readAs_iff (l : NumberLiteral) (q : Quantity) :
    l.ReadAs q ↔ ∃ x, l.toDouble = .finite x ∧ q = l.quantity x := by
  cases l with
  | radix l =>
    have hdouble : ∀ x, toDouble (.radix l) = .finite x ↔ x.negative = false ∧ x.Rounds l.value :=
      Double.ofInt_natCast_eq_finite_iff l.value
    constructor
    · rintro ⟨⟨x, hx⟩, rfl⟩
      exact ⟨{ x with negative := false }, (hdouble _).2 ⟨rfl, hx⟩, rfl⟩
    · rintro ⟨x, hx, rfl⟩
      exact ⟨⟨x, ((hdouble x).1 hx).2⟩, rfl⟩
  | decimal l =>
    have hdouble : ∀ x, toDouble (.decimal l) = .finite x ↔ x.negative = l.sign.negative ∧ x.Rounds l.numeral.magnitude :=
      Double.ofDecimal_eq_finite_iff _ _ _
    have hquantity : ∀ x : FiniteDouble, q = x.toQuantity ↔
        (∃ n : Int, x.value = n ∧ q = .whole n) ∨ (∀ n : Int, x.value ≠ n) ∧ q = .binary x := by
      intro x
      unfold FiniteDouble.toQuantity
      split
      · rename_i n hn
        rw [FiniteDouble.toInt?_eq_some_iff] at hn
        rw [hn]
        simp
      · rename_i hnone
        have hne : ∀ n : Int, x.value ≠ n := fun n hn => by
          rw [← FiniteDouble.toInt?_eq_some_iff, hnone] at hn
          cases hn
        simp [hne]
    simp only [ReadAs, magnitude, hdouble, quantity, hquantity, and_assoc]

/-- A literal is read as some number exactly if its magnitude rounds to a finite double. -/
theorem exists_readAs_iff (l : NumberLiteral) : (∃ q, l.ReadAs q) ↔ ∃ x : FiniteDouble, x.Rounds l.magnitude := by
  cases l with
  | radix l =>
    constructor
    · rintro ⟨_, h, -⟩
      exact h
    · intro h
      exact ⟨_, h, rfl⟩
  | decimal l =>
    constructor
    · rintro ⟨_, x, -, hx, -⟩
      exact ⟨x, hx⟩
    · rintro ⟨x, hx⟩
      let y : FiniteDouble := { x with negative := l.sign.negative }
      by_cases hwhole : ∃ n : Int, y.value = n
      · obtain ⟨n, hn⟩ := hwhole
        exact ⟨.whole n, y, rfl, hx, .inl ⟨n, hn, rfl⟩⟩
      · exact ⟨.binary y, y, rfl, hx, .inr ⟨not_exists.1 hwhole, rfl⟩⟩

end NumberLiteral

namespace Quantity

/-- A text is read as a number exactly if it is a literal between blanks, and then as what the literal is read as. -/
theorem ofText?_eq_some_iff (s : String) (q : Quantity) :
    ofText? s = some q ↔ ∃ l, IsNumberText s l ∧ l.ReadAs q := by
  simp only [NumberLiteral.readAs_iff]
  constructor
  · intro h
    obtain ⟨before, after, hs, hbefore, hafter⟩ := exists_trimBlank s.toList
    unfold ofText? at h
    simp only at h
    split at h
    · rename_i n hn
      obtain ⟨l, hl, rfl⟩ := exists_radixLiteral hn
      split at h
      · rename_i hfinite
        cases h
        rw [roundsToFinite_iff] at hfinite
        obtain ⟨x, hx⟩ := Double.exists_of_isFinite hfinite
        exact ⟨.radix l, ⟨before, after, hs.trans (by rw [← hl]; rfl), hbefore, hafter⟩, x, hx, rfl⟩
      · cases h
    · split at h
      · rename_i x hx
        cases h
        obtain ⟨N, hN, hdouble⟩ := Option.map_eq_some_iff.1 hx
        obtain ⟨l, hl, rfl⟩ := exists_decimalLiteral hN
        exact ⟨.decimal l, ⟨before, after, hs.trans (by rw [← hl]; rfl), hbefore, hafter⟩, x, hdouble, rfl⟩
      · cases h
  · rintro ⟨l, hl, x, hx, rfl⟩
    exact NumberLiteral.ofText?_text hl hx

/-- The texts that are read as numbers are the literals between blanks whose magnitude rounds to a finite double. A
literal in another base is read as the integer that it denotes and a decimal as the double, as an integer where it is
one. More blanks around a text, of the twenty-five there are, change nothing. -/
theorem number_texts_are_literals (s : String) :
    ((ofText? s).isSome = true ↔ ∃ l, IsNumberText s l ∧ ∃ x : FiniteDouble, x.Rounds l.magnitude) ∧
      (∀ q, ofText? s = some q ↔ ∃ l, IsNumberText s l ∧ l.ReadAs q) ∧
      (∀ c, isTrimmable c = true ↔ c ∈ numberBlanks) ∧
      ∀ before after, (∀ c ∈ before, c ∈ numberBlanks) → (∀ c ∈ after, c ∈ numberBlanks) →
        ofText? (String.ofList (before ++ (s.toList ++ after))) = ofText? s := by
  refine ⟨?_, ofText?_eq_some_iff s, fun c => isTrimmable_iff, fun before after hbefore hafter => ?_⟩
  · simp only [Option.isSome_iff_exists, ofText?_eq_some_iff, ← NumberLiteral.exists_readAs_iff]
    rw [exists_comm]
    simp only [exists_and_left]
  · have htrim : trimBlank (before ++ (s.toList ++ after)) = trimBlank s.toList :=
      trimBlank_pad (fun c hc => isTrimmable_iff.2 (hbefore c hc)) (fun c hc => isTrimmable_iff.2 (hafter c hc)) _
    unfold ofText?
    rw [String.toList_ofList, htrim]

/-- A binary text between a tab and a byte order mark is read as the integer eleven. -/
theorem number_texts_are_literals_of_padded_binary :
    (∀ c ∈ ['\t'], c ∈ numberBlanks) ∧ (∀ c ∈ ['\ufeff'], c ∈ numberBlanks) ∧
      (∃ l, IsNumberText "0B1011" l ∧ l.ReadAs (.whole 11)) ∧ ofText? "\t0B1011\ufeff" = some (.whole 11) := by
  have hbefore : ∀ c ∈ ['\t'], c ∈ numberBlanks := by simp [numberBlanks]
  have hafter : ∀ c ∈ ['\ufeff'], c ∈ numberBlanks := by simp [numberBlanks]
  have hread : ofText? "0B1011" = some (.whole 11) := by decide +kernel
  obtain ⟨-, hliteral, -, hpad⟩ := number_texts_are_literals "0B1011"
  exact ⟨hbefore, hafter, (hliteral _).1 hread, (hpad ['\t'] ['\ufeff'] hbefore hafter).trans hread⟩

end Quantity

end WebForm
