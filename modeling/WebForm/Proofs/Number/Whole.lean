/-
Integers among the doubles. Below `2 ^ 53` every natural is a double, so that rounding one changes nothing, and
the decimal that is printed for such a double is exact.
-/
import WebForm.Proofs.Number.Exact
import WebForm.Proofs.Number.Shortest

namespace WebForm

namespace FiniteDouble

theorem abs_value (x : FiniteDouble) : |x.value| = x.magnitude := by
  have hpow : (0 : ℚ) < 2 ^ x.exponent := by positivity
  rw [value, magnitude, abs_mul, abs_signed, abs_of_pos hpow]

theorem value_of_negative {x : FiniteDouble} (h : x.negative = false) : x.value = x.magnitude := by
  rw [value, magnitude, signed, h]
  rfl

/-- A double with a positive exponent has a full mantissa, and is `2 ^ 53` or more. -/
theorem exponent_nonpos {x : FiniteDouble} (h : x.magnitude < 2 ^ 53) : x.exponent ≤ 0 := by
  by_contra hpos
  obtain ⟨-, -, -, hfull⟩ := x.canonical
  have hmantissa : (2 : ℚ) ^ 52 ≤ x.mantissa := by exact_mod_cast hfull.resolve_right (by omega)
  have hpow : (2 : ℚ) ^ (1 : Int) ≤ 2 ^ x.exponent := zpow_le_zpow_right₀ one_le_two (by omega)
  have : (2 : ℚ) ^ 52 * 2 ^ (1 : Int) ≤ x.magnitude := mul_le_mul hmantissa hpow (by positivity) (by positivity)
  norm_num at this h
  linarith

end FiniteDouble

/-! ## Rounding integers -/

namespace Double

theorem of_ofParts {negative : Bool} {m : Nat} {e : Int} {x : FiniteDouble} (h : ofParts negative m e = .finite x) :
    x.negative = negative ∧ x.mantissa = m ∧ x.exponent = e := by
  unfold ofParts at h
  split at h
  · cases h
    exact ⟨rfl, rfl, rfl⟩
  · cases h

/-- A natural is rounded to a multiple of a unit that its highest bit sets. -/
theorem round_magnitude {negative : Bool} {n : Nat} (hn : n ≠ 0) {x : FiniteDouble} (h : round negative n 1 = .finite x) :
    x.negative = negative ∧
      x.magnitude = roundedMantissa n 1 ((n.log2 : Int) - 52) * (2 : ℚ) ^ ((n.log2 : Int) - 52) := by
  unfold round at h
  rw [if_neg hn] at h
  simp only [gridExponent_one hn] at h
  split at h
  · rename_i hcarry
    obtain ⟨hneg, hm, he⟩ := of_ofParts h
    refine ⟨hneg, ?_⟩
    rw [FiniteDouble.magnitude, hm, he, hcarry, zpow_add₀ (by norm_num), zpow_one]
    push_cast
    ring
  · obtain ⟨hneg, hm, he⟩ := of_ofParts h
    exact ⟨hneg, by rw [FiniteDouble.magnitude, hm, he]⟩

/-- A natural that fits the mantissa is left as it is. -/
theorem roundedMantissa_exact {n : Nat} (hn : n < 2 ^ 53) (h0 : n ≠ 0) :
    roundedMantissa n 1 ((n.log2 : Int) - 52) * (2 : ℚ) ^ ((n.log2 : Int) - 52) = n := by
  have hlog : n.log2 < 53 := (Nat.log2_lt h0).2 hn
  by_cases he : (n.log2 : Int) - 52 < 0
  · rw [roundedMantissa_of_neg n he]
    obtain ⟨k, hk⟩ : ∃ k : Nat, (n.log2 : Int) - 52 = -(k : Int) := ⟨52 - n.log2, by omega⟩
    rw [hk, neg_neg, Int.toNat_natCast, zpow_neg, zpow_natCast]
    push_cast
    field_simp
  · have hzero : (n.log2 : Int) - 52 = 0 := by omega
    rw [hzero, roundedMantissa_of_nonneg n (le_refl 0)]
    simp [Nat.mod_one]

/-- Where the double that a natural rounds to is below `2 ^ 53`, it is that natural. -/
theorem magnitude_of_ofInt {n : Nat} {x : FiniteDouble} (h : ofInt n = .finite x) (hx : x.magnitude < 2 ^ 53) :
    x.magnitude = n := by
  have hround : round (decide ((n : Int) < 0)) n 1 = .finite x := h
  by_cases hn : n = 0
  · rw [round, if_pos hn] at hround
    cases hround
    simp [FiniteDouble.magnitude, FiniteDouble.zero, hn]
  · obtain ⟨-, hmagnitude⟩ := round_magnitude hn hround
    rw [hmagnitude] at hx ⊢
    refine roundedMantissa_exact ?_ hn
    by_contra hlarge
    have hlog : 53 ≤ n.log2 := (Nat.le_log2 hn).2 (not_lt.1 hlarge)
    have hmantissa : (2 : ℚ) ^ 52 ≤ roundedMantissa n 1 ((n.log2 : Int) - 52) := by
      exact_mod_cast (roundedMantissa_bounds hn).1
    have hpow : (2 : ℚ) ^ (1 : Int) ≤ 2 ^ ((n.log2 : Int) - 52) := zpow_le_zpow_right₀ one_le_two (by omega)
    have := mul_le_mul hmantissa hpow (by positivity) (by positivity)
    norm_num at this hx
    linarith

theorem negative_of_ofInt {n : Nat} {x : FiniteDouble} (h : ofInt n = .finite x) : x.negative = false := by
  have hround : round false n 1 = .finite x := h
  by_cases hn : n = 0
  · rw [round, if_pos hn] at hround
    cases hround
    rfl
  · exact (round_magnitude hn hround).1

end Double

/-! ## Printing integers -/

namespace FiniteDouble

theorem decimalOf?_exponent {x : FiniteDouble} {count : Nat} {d : Decimal} (h : x.decimalOf? count = some d) :
    d.exponent = decimalPoint (scaled x.mantissa x.exponent).1 (scaled x.mantissa x.exponent).2 - count := by
  have hchoice : ∀ (b : Bool) (p q : Decimal), p.exponent = q.exponent → (if b then p else q).exponent = q.exponent := by
    intro b p q hpq
    cases b
    · rfl
    · exact hpq
  unfold decimalOf? at h
  simp only at h
  split at h
  · cases h
    exact hchoice _ _ _ rfl
  · cases h
    rfl
  · cases h
    rfl
  · cases h

variable {x : FiniteDouble} {n : Nat} (hx : x.magnitude = n)
include hx

theorem scaled_of_natural : (scaled x.mantissa x.exponent).1 = n * (scaled x.mantissa x.exponent).2 := by
  have hden : ((scaled x.mantissa x.exponent).2 : ℚ) ≠ 0 := by exact_mod_cast (scaled_den_pos _ _).ne'
  have hval : ((scaled x.mantissa x.exponent).1 : ℚ) / (scaled x.mantissa x.exponent).2 = n :=
    (scaled_value _ _).trans hx
  rw [div_eq_iff hden] at hval
  exact_mod_cast hval

theorem decimalPoint_of_natural (hn : n ≠ 0) :
    decimalPoint (scaled x.mantissa x.exponent).1 (scaled x.mantissa x.exponent).2 = decimalLength n := by
  have hden := scaled_den_pos x.mantissa x.exponent
  rw [scaled_of_natural hx, decimalPoint, if_pos (Nat.le_mul_of_pos_left _ (Nat.pos_of_ne_zero hn)),
    Nat.mul_div_cancel _ hden]

theorem mantissa_ne_zero (hn : n ≠ 0) : x.mantissa ≠ 0 := by
  intro hm
  rw [magnitude, hm, Nat.cast_zero, zero_mul] at hx
  exact hn (by exact_mod_cast hx.symm)

/-- With all the digits of a natural, the search finds a decimal: the natural is one. -/
theorem decimalOf?_of_natural (hn : n ≠ 0) : x.decimalOf? (decimalLength n) ≠ none := by
  have hden := scaled_den_pos x.mantissa x.exponent
  have hself : x.contains ⟨n, 0⟩ = true := by
    rw [contains_iff]
    have hvalue : (⟨n, 0⟩ : Decimal).value = x.magnitude := by simp [Decimal.value, hx]
    rw [hvalue]
    exact .of_between (lower_lt_magnitude (mantissa_ne_zero hx hn)) x.magnitude_lt_upper
  unfold decimalOf?
  simp only [decimalPoint_of_natural hx hn, sub_self, lt_irrefl, if_false, Int.toNat_zero, pow_zero, mul_one]
  simp only [scaled_of_natural hx, Nat.mul_div_cancel _ hden, hself]
  cases x.contains ⟨n + 1, 0⟩ <;> simp

/-- The neighbours of a natural below `2 ^ 53` are no farther from it than one. -/
theorem near_of_rounds (hn : n ≠ 0) (hlt : n < 2 ^ 53) {v : ℚ} (h : x.Rounds v) : (n : ℚ) - 1 < v ∧ v < n + 1 := by
  obtain ⟨hlo, hhi⟩ := h.bounds
  have hunit : x.quarter ≤ 1 / 4 := by
    have hexponent := exponent_nonpos (x := x) (by rw [hx]; exact_mod_cast hlt)
    have hpow : (2 : ℚ) ^ x.exponent ≤ 2 ^ (0 : Int) := zpow_le_zpow_right₀ one_le_two hexponent
    rw [← four_mul_quarter] at hpow
    norm_num at hpow
    linarith
  have hquarters : (4 * x.mantissa : ℚ) - 2 ≤ x.lowerQuarters := by
    have hnat : 4 * x.mantissa ≤ x.lowerQuarters + 2 := by
      rcases lowerQuarters_add (mantissa_ne_zero hx hn) with ⟨h, -⟩ | ⟨h, -⟩
      · omega
      · omega
    have hcast : ((4 * x.mantissa : Nat) : ℚ) ≤ ((x.lowerQuarters + 2 : Nat) : ℚ) := by exact_mod_cast hnat
    push_cast at hcast
    linarith
  have hpos := x.quarter_pos
  rw [magnitude_eq] at hx
  constructor
  · have := mul_le_mul_of_nonneg_right hquarters hpos.le
    nlinarith
  · rw [upperQuarters] at hhi
    push_cast at hhi
    nlinarith

/-- A decimal with no more digits than a natural is a natural. -/
theorem exists_natural_of_decimalOf? (hn : n ≠ 0) {count : Nat} {d : Decimal} (hd : x.decimalOf? count = some d)
    (hcount : count ≤ decimalLength n) : ∃ k : Nat, d.value = k := by
  have hexp : d.exponent = ((decimalLength n - count : Nat) : Int) := by
    rw [decimalOf?_exponent hd, decimalPoint_of_natural hx hn]
    omega
  exact ⟨d.digits * 10 ^ (decimalLength n - count), by rw [Decimal.value, hexp, zpow_natCast]; push_cast; rfl⟩

/-- The decimal printed for a natural below `2 ^ 53` is exact. -/
theorem shortest_value_of_natural (hlt : n < 2 ^ 53) : x.shortest.value = n := by
  by_cases hn : n = 0
  · have hm : x.mantissa = 0 := by
      have hpow : (2 : ℚ) ^ x.exponent ≠ 0 := by positivity
      rw [magnitude, hn, Nat.cast_zero] at hx
      exact_mod_cast (mul_eq_zero.1 hx).resolve_right hpow
    rw [shortest_of_zero hm, hn, Nat.cast_zero]
  have hfound := decimalOf?_of_natural hx hn
  have hdigits : decimalLength n ≤ 16 := (Nat.length_toDigits_le_iff (by norm_num) (by norm_num)).2 (hlt.trans (by norm_num))
  have hdigits' : 1 ≤ decimalLength n := Nat.length_toDigits_pos
  unfold shortest
  rw [if_neg (mantissa_ne_zero hx hn)]
  split
  · rename_i d hd
    obtain ⟨before, count, after, hlist, hcount, hbefore⟩ := List.findSome?_eq_some_iff.1 hd
    -- the search has not gone beyond the digits of the natural, so it stays on the grid of the integers
    have hle : count ≤ decimalLength n := by
      have hmem : decimalLength n ∈ before ++ count :: after := by
        rw [← hlist, List.mem_range'_1]
        omega
      have hsorted : (before ++ count :: after).Pairwise (· < ·) := hlist ▸ List.pairwise_lt_range'
      rcases List.mem_append.1 hmem with hmem | hmem
      · exact absurd (hbefore _ hmem) hfound
      · rcases List.mem_cons.1 hmem with heq | hmem
        · exact heq.ge
        · exact ((List.pairwise_cons.1 (List.pairwise_append.1 hsorted).2.1).1 _ hmem).le
    obtain ⟨k, hk⟩ := exists_natural_of_decimalOf? hx hn hcount hle
    have hrounds : x.Rounds d.value := (contains_iff x d).1 (contains_of_decimalOf? hcount)
    obtain ⟨hbelow, habove⟩ := near_of_rounds hx hn hlt hrounds
    rw [hk] at hbelow habove
    have hkn : k = n := by
      have h1 : n < k + 1 := by exact_mod_cast (by linarith : (n : ℚ) < k + 1)
      have h2 : k < n + 1 := by exact_mod_cast habove
      omega
    rw [Decimal.trimmed_value, hk, hkn]
  · rename_i hnone
    rw [List.findSome?_eq_none_iff] at hnone
    exact absurd (hnone (decimalLength n) (by rw [List.mem_range'_1]; omega)) hfound

end FiniteDouble

end WebForm
