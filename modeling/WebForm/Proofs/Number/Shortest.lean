/-
The shortest decimal of a double rounds to it: seventeen digits always suffice, so the search never
falls through. The intervals that round to two doubles have no decimal in common, so the shortest
decimal of a double is that of no other.
-/
import WebForm.Proofs.Number.Exact

namespace WebForm

/-! ## Fractions -/

/-- A natural in units of a power of a base. -/
theorem power_fraction {b : Nat} (hb : 0 < b) (n : Nat) (e : Int) :
    0 < (if 0 ≤ e then (n * b ^ e.toNat, 1) else (n, b ^ (-e).toNat)).2 ∧
      (((if 0 ≤ e then (n * b ^ e.toNat, 1) else (n, b ^ (-e).toNat)).1 : ℚ) /
        (if 0 ≤ e then (n * b ^ e.toNat, 1) else (n, b ^ (-e).toNat)).2) = n * (b : ℚ) ^ e := by
  rw [zpow_eq_div]
  split
  · rename_i h
    refine ⟨Nat.one_pos, ?_⟩
    rw [Int.toNat_of_nonpos (neg_nonpos.2 h)]
    simp
  · rename_i h
    refine ⟨Nat.pow_pos hb, ?_⟩
    rw [Int.toNat_of_nonpos (not_le.1 h).le]
    simp [div_eq_mul_inv]

theorem mul_le_mul_iff_div_le {a b c d : Nat} (hb : 0 < b) (hd : 0 < d) :
    a * d ≤ c * b ↔ (a : ℚ) / b ≤ c / d := by
  rw [div_le_div_iff₀ (by exact_mod_cast hb) (by exact_mod_cast hd)]
  exact_mod_cast Iff.rfl

theorem mul_lt_mul_iff_div_lt {a b c d : Nat} (hb : 0 < b) (hd : 0 < d) :
    a * d < c * b ↔ (a : ℚ) / b < c / d := by
  rw [div_lt_div_iff₀ (by exact_mod_cast hb) (by exact_mod_cast hd)]
  exact_mod_cast Iff.rfl

/-- A fraction in units of a power of a base. -/
theorem grid_fraction {b : Nat} (hb : 0 < b) (num : Nat) {den : Nat} (hd : 0 < den) (g : Int) :
    0 < (if g < 0 then den else den * b ^ g.toNat) ∧
      ((if g < 0 then num * b ^ (-g).toNat else num : Nat) : ℚ) / (if g < 0 then den else den * b ^ g.toNat : Nat) *
        (b : ℚ) ^ g = (num : ℚ) / den := by
  have hd' : (den : ℚ) ≠ 0 := by exact_mod_cast hd.ne'
  have hb' : (b : ℚ) ≠ 0 := by exact_mod_cast hb.ne'
  rw [zpow_eq_div]
  split
  · rename_i h
    refine ⟨hd, ?_⟩
    rw [Int.toNat_of_nonpos h.le]
    push_cast
    field_simp
  · rename_i h
    refine ⟨Nat.mul_pos hd (Nat.pow_pos hb), ?_⟩
    rw [Int.toNat_of_nonpos (neg_nonpos.2 (not_lt.1 h))]
    push_cast
    field_simp

theorem div_bounds (n : Nat) {d : Nat} (hd : 0 < d) :
    ((n / d : Nat) : ℚ) ≤ (n : ℚ) / d ∧ (n : ℚ) / d < (n / d : Nat) + 1 := by
  have hd' : (0 : ℚ) < d := by exact_mod_cast hd
  rw [le_div_iff₀ hd', div_lt_iff₀ hd']
  constructor
  · exact_mod_cast Nat.div_mul_le_self n d
  · exact_mod_cast (Nat.div_lt_iff_lt_mul hd).1 (Nat.lt_succ_self (n / d))

/-! ## Decimals -/

namespace Decimal

/-- The exact value of a decimal. -/
def value (d : Decimal) : ℚ := d.digits * (10 : ℚ) ^ d.exponent

theorem fraction_den_pos (d : Decimal) : 0 < d.fraction.2 := (power_fraction (by norm_num) _ _).1

theorem value_eq_fraction (d : Decimal) : d.value = (d.fraction.1 : ℚ) / d.fraction.2 :=
  (power_fraction (by norm_num) _ _).2.symm

theorem trimmed_value (fuel : Nat) (d : Decimal) : (d.trimmed fuel).value = d.value := by
  induction fuel generalizing d with
  | zero => rfl
  | succ fuel ih =>
    unfold trimmed
    split
    · rename_i h
      rw [ih]
      have hdigits : (d.digits : ℚ) = ((d.digits / 10 : Nat) : ℚ) * 10 := by
        exact_mod_cast (Nat.div_mul_cancel (Nat.dvd_of_mod_eq_zero h.2)).symm
      rw [value, value, zpow_add₀ (by norm_num), zpow_one, hdigits]
      ring
    · rfl

end Decimal

/-! ## The place of the first digit -/

theorem lt_pow_decimalLength (n : Nat) : n < 10 ^ decimalLength n :=
  (Nat.length_toDigits_le_iff (by norm_num) Nat.length_toDigits_pos).1 le_rfl

theorem pow_decimalLength_le {n : Nat} (hn : n ≠ 0) : 10 ^ (decimalLength n - 1) ≤ n := by
  by_cases h : decimalLength n - 1 = 0
  · rw [h]
    omega
  · by_contra hlt
    have := (Nat.length_toDigits_le_iff (b := 10) (by norm_num) (by omega)).2 (not_le.1 hlt)
    unfold decimalLength at h this
    omega

/-- A positive fraction is at least one unit of the place of its first digit. -/
theorem pow_decimalPoint_le {num den : Nat} (hn : 0 < num) (hd : 0 < den) :
    (10 : ℚ) ^ (decimalPoint num den - 1) ≤ (num : ℚ) / den := by
  have hd' : (0 : ℚ) < den := by exact_mod_cast hd
  unfold decimalPoint
  split
  · rename_i h
    have hq : num / den ≠ 0 := (Nat.div_pos h hd).ne'
    have hlen : 1 ≤ decimalLength (num / den) := Nat.length_toDigits_pos
    rw [show (decimalLength (num / den) : Int) - 1 = ((decimalLength (num / den) - 1 : Nat) : Int) by omega,
      zpow_natCast, le_div_iff₀ hd']
    calc (10 : ℚ) ^ (decimalLength (num / den) - 1) * den ≤ ((num / den : Nat) : ℚ) * den := by
          gcongr
          exact_mod_cast pow_decimalLength_le hq
      _ ≤ num := by exact_mod_cast Nat.div_mul_le_self num den
  · rename_i h
    have hlt : (den - 1) / num < 10 ^ decimalLength ((den - 1) / num) := lt_pow_decimalLength _
    have hle : den ≤ num * 10 ^ decimalLength ((den - 1) / num) := by
      have := (Nat.div_lt_iff_lt_mul hn).1 hlt
      rw [mul_comm]
      omega
    rw [sub_sub_cancel_left, zpow_neg, zpow_natCast, le_div_iff₀ hd', inv_mul_le_iff₀ (by positivity), mul_comm]
    exact_mod_cast hle

namespace FiniteDouble

/-! ## The interval of a double -/

theorem scaled_den_pos (n : Nat) (e : Int) : 0 < (scaled n e).2 := (power_fraction (by norm_num) _ _).1

theorem scaled_value (n : Nat) (e : Int) : ((scaled n e).1 : ℚ) / (scaled n e).2 = n * (2 : ℚ) ^ e :=
  (power_fraction (by norm_num) _ _).2

/-- A quarter of a unit of the mantissa. -/
def quarter (x : FiniteDouble) : ℚ := (2 : ℚ) ^ (x.exponent - 2)

theorem four_mul_quarter (x : FiniteDouble) : 4 * x.quarter = (2 : ℚ) ^ x.exponent := by
  rw [quarter, zpow_sub₀ (by norm_num)]
  norm_num
  ring

theorem quarter_pos (x : FiniteDouble) : 0 < x.quarter := zpow_pos (by norm_num) _

/-- The numbers that round to the magnitude of `x`. -/
def Rounds (x : FiniteDouble) (q : ℚ) : Prop :=
  if x.mantissa % 2 = 0 then x.lowerQuarters * x.quarter ≤ q ∧ q ≤ x.upperQuarters * x.quarter
  else x.lowerQuarters * x.quarter < q ∧ q < x.upperQuarters * x.quarter

theorem contains_iff (x : FiniteDouble) (d : Decimal) : x.contains d = true ↔ x.Rounds d.value := by
  unfold contains Rounds quarter
  simp only
  rw [← scaled_value, ← scaled_value, d.value_eq_fraction]
  split
  · rw [decide_eq_true_eq, mul_le_mul_iff_div_le (scaled_den_pos _ _) d.fraction_den_pos,
      mul_le_mul_iff_div_le d.fraction_den_pos (scaled_den_pos _ _)]
  · rw [decide_eq_true_eq, mul_lt_mul_iff_div_lt (scaled_den_pos _ _) d.fraction_den_pos,
      mul_lt_mul_iff_div_lt d.fraction_den_pos (scaled_den_pos _ _)]

theorem Rounds.bounds {x : FiniteDouble} {q : ℚ} (h : x.Rounds q) :
    x.lowerQuarters * x.quarter ≤ q ∧ q ≤ x.upperQuarters * x.quarter := by
  unfold Rounds at h
  split at h
  · exact h
  · exact ⟨h.1.le, h.2.le⟩

theorem Rounds.of_between {x : FiniteDouble} {q : ℚ} (hlo : x.lowerQuarters * x.quarter < q)
    (hhi : q < x.upperQuarters * x.quarter) : x.Rounds q := by
  unfold Rounds
  split
  · exact ⟨hlo.le, hhi.le⟩
  · exact ⟨hlo, hhi⟩

/-- The lower end lies half a unit below, or a quarter where a new binade starts. -/
theorem lowerQuarters_add {x : FiniteDouble} (hm : x.mantissa ≠ 0) :
    (x.lowerQuarters + 1 = 4 * x.mantissa ∧ x.mantissa = 2 ^ 52 ∧ x.exponent ≠ -1074) ∨
      (x.lowerQuarters + 2 = 4 * x.mantissa ∧ ¬(x.mantissa = 2 ^ 52 ∧ x.exponent ≠ -1074)) := by
  unfold lowerQuarters
  split
  · rename_i h
    exact .inl ⟨by omega, h⟩
  · rename_i h
    exact .inr ⟨by omega, h⟩

theorem lowerQuarters_pos {x : FiniteDouble} (hm : x.mantissa ≠ 0) : 0 < x.lowerQuarters := by
  rcases lowerQuarters_add hm with ⟨h, -⟩ | ⟨h, -⟩ <;> omega

theorem Rounds.pos {x : FiniteDouble} {q : ℚ} (hm : x.mantissa ≠ 0) (h : x.Rounds q) : 0 < q := by
  refine lt_of_lt_of_le ?_ h.bounds.1
  have := lowerQuarters_pos hm
  have := x.quarter_pos
  positivity

/-! ## Seventeen digits suffice -/

/-- The exact magnitude of a double. -/
def magnitude (x : FiniteDouble) : ℚ := x.mantissa * (2 : ℚ) ^ x.exponent

theorem magnitude_eq (x : FiniteDouble) : x.magnitude = 4 * x.mantissa * x.quarter := by
  rw [magnitude, ← four_mul_quarter]
  ring

/-- The search looks at the two neighbours of the magnitude on a grid of so many digits, and takes one
of them unless both lie outside the interval. -/
theorem decimalOf?_neighbours (x : FiniteDouble) (count : Nat) (hm : x.mantissa ≠ 0) :
    ∃ (k : Nat) (g : Int), (k : ℚ) * (10 : ℚ) ^ g ≤ x.magnitude ∧ x.magnitude < (k + 1) * (10 : ℚ) ^ g ∧
      (10 : ℚ) ^ (g + count - 1) ≤ x.magnitude ∧
      (x.decimalOf? count = none → x.contains ⟨k, g⟩ = false ∧ x.contains ⟨k + 1, g⟩ = false) := by
  have hden := scaled_den_pos x.mantissa x.exponent
  have hval : ((scaled x.mantissa x.exponent).1 : ℚ) / (scaled x.mantissa x.exponent).2 = x.magnitude :=
    scaled_value _ _
  have hnum : 0 < (scaled x.mantissa x.exponent).1 := by
    unfold scaled
    split
    · exact Nat.mul_pos (Nat.pos_of_ne_zero hm) (Nat.two_pow_pos _)
    · exact Nat.pos_of_ne_zero hm
  unfold decimalOf?
  simp only
  -- from here on the magnitude is a fraction of naturals, and then one in units of the grid
  generalize (scaled x.mantissa x.exponent).1 = num at *
  generalize (scaled x.mantissa x.exponent).2 = den at *
  have hpoint := pow_decimalPoint_le hnum hden
  generalize hg : decimalPoint num den - (count : Int) = g
  obtain ⟨hd, hgrid⟩ := grid_fraction (b := 10) (by norm_num) num hden g
  rw [Nat.cast_ofNat] at hgrid
  generalize (if g < 0 then num * 10 ^ (-g).toNat else num) = n at *
  generalize (if g < 0 then den else den * 10 ^ g.toNat) = d at *
  obtain ⟨hlo, hhi⟩ := div_bounds n hd
  have hpow : (0 : ℚ) < (10 : ℚ) ^ g := zpow_pos (by norm_num) _
  rw [hval] at hgrid hpoint
  refine ⟨n / d, g, ?_, ?_, ?_, ?_⟩
  · rw [← hgrid]
    exact mul_le_mul_of_nonneg_right hlo hpow.le
  · rw [← hgrid]
    exact mul_lt_mul_of_pos_right hhi hpow
  · rwa [show g + count - 1 = decimalPoint num den - 1 by omega]
  · intro h
    split at h
    · cases h
    · cases h
    · cases h
    · rename_i h1 h2
      exact ⟨h1, h2⟩

theorem contains_of_decimalOf? {x : FiniteDouble} {count : Nat} {d : Decimal} (h : x.decimalOf? count = some d) :
    x.contains d = true := by
  have hchoice : ∀ (b : Bool) (p q : Decimal), x.contains p = true → x.contains q = true →
      x.contains (if b = true then p else q) = true := by
    intro b p q hp hq
    cases b
    · exact hq
    · exact hp
  unfold decimalOf? at h
  simp only at h
  split at h
  · rename_i h1 h2
    cases h
    exact hchoice _ _ _ h2 h1
  · rename_i h1 h2
    cases h
    exact h1
  · rename_i h1 h2
    cases h
    exact h2
  · cases h

/-- The magnitude is less than `10 ^ 16` times the width of the interval. -/
theorem magnitude_lt_width {x : FiniteDouble} (hm : x.mantissa ≠ 0) :
    x.magnitude < 10 ^ 16 * (x.upperQuarters * x.quarter - x.lowerQuarters * x.quarter) := by
  have hlt : 4 * x.mantissa + 10 ^ 16 * x.lowerQuarters < 10 ^ 16 * x.upperQuarters := by
    have hmant := x.canonical.1
    unfold upperQuarters
    -- where the interval has three quarters only, the mantissa is the least of its binade
    rcases lowerQuarters_add hm with ⟨hadd, hleast, -⟩ | ⟨hadd, -⟩
    · omega
    · omega
  have hcast : (4 * x.mantissa : ℚ) + 10 ^ 16 * x.lowerQuarters < 10 ^ 16 * x.upperQuarters := by exact_mod_cast hlt
  calc x.magnitude = 4 * x.mantissa * x.quarter := x.magnitude_eq
    _ < (10 ^ 16 * x.upperQuarters - 10 ^ 16 * x.lowerQuarters) * x.quarter :=
        mul_lt_mul_of_pos_right (by linarith) x.quarter_pos
    _ = 10 ^ 16 * (x.upperQuarters * x.quarter - x.lowerQuarters * x.quarter) := by ring

theorem lower_lt_magnitude {x : FiniteDouble} (hm : x.mantissa ≠ 0) : x.lowerQuarters * x.quarter < x.magnitude := by
  have hlt : x.lowerQuarters < 4 * x.mantissa := by
    rcases lowerQuarters_add hm with ⟨hadd, -⟩ | ⟨hadd, -⟩
    · omega
    · omega
  rw [magnitude_eq]
  exact mul_lt_mul_of_pos_right (by exact_mod_cast hlt) x.quarter_pos

theorem magnitude_lt_upper (x : FiniteDouble) : x.magnitude < x.upperQuarters * x.quarter := by
  rw [magnitude_eq, upperQuarters]
  push_cast
  exact mul_lt_mul_of_pos_right (by linarith) x.quarter_pos

/-- The interval is wider than the grid of seventeen digits. -/
theorem decimalOf?_seventeen {x : FiniteDouble} (hm : x.mantissa ≠ 0) : x.decimalOf? 17 ≠ none := by
  intro hnone
  obtain ⟨k, g, hbelow, habove, hplace, houtside⟩ := decimalOf?_neighbours x 17 hm
  obtain ⟨hk, hk1⟩ := houtside hnone
  rw [← Bool.not_eq_true, contains_iff] at hk hk1
  have hvalue : (⟨k + 1, g⟩ : Decimal).value = ((k : ℚ) + 1) * (10 : ℚ) ^ g := by simp [Decimal.value]
  rw [hvalue] at hk1
  -- both neighbours lie outside, so the interval lies between them
  have hlow : (k : ℚ) * (10 : ℚ) ^ g ≤ x.lowerQuarters * x.quarter := by
    by_contra hlt
    exact hk (Rounds.of_between (not_le.1 hlt) (hbelow.trans_lt x.magnitude_lt_upper))
  have hhigh : x.upperQuarters * x.quarter ≤ ((k : ℚ) + 1) * (10 : ℚ) ^ g := by
    by_contra hlt
    exact hk1 (Rounds.of_between ((lower_lt_magnitude hm).trans habove) (not_le.1 hlt))
  -- then it is no wider than the grid, of which the magnitude has at least `10 ^ 16` units
  have hwidth : x.upperQuarters * x.quarter - x.lowerQuarters * x.quarter ≤ (10 : ℚ) ^ g := by linarith
  have hunits : (10 : ℚ) ^ 16 * 10 ^ g ≤ x.magnitude := by
    rw [show g + ((17 : Nat) : Int) - 1 = (16 : Nat) + g by push_cast; ring, zpow_add₀ (by norm_num),
      zpow_natCast] at hplace
    exact hplace
  have := magnitude_lt_width hm
  linarith

theorem shortest_rounds {x : FiniteDouble} (hm : x.mantissa ≠ 0) : x.Rounds x.shortest.value := by
  unfold shortest
  rw [if_neg hm]
  split
  · rename_i d hd
    obtain ⟨count, -, hcount⟩ := List.exists_of_findSome?_eq_some hd
    rw [Decimal.trimmed_value, ← contains_iff]
    exact contains_of_decimalOf? hcount
  · rename_i hnone
    rw [List.findSome?_eq_none_iff] at hnone
    exact absurd (hnone 17 (by decide)) (decimalOf?_seventeen hm)

theorem shortest_value_pos {x : FiniteDouble} (hm : x.mantissa ≠ 0) : 0 < x.shortest.value :=
  (shortest_rounds hm).pos hm

theorem shortest_of_zero {x : FiniteDouble} (hm : x.mantissa = 0) : x.shortest.value = 0 := by
  unfold shortest
  rw [if_pos hm]
  simp [Decimal.value]

/-! ## Intervals of two doubles -/

/-- A number in both intervals lies between the lower end of the one and the upper end of the other; if
one of the mantissas is odd, then that mantissa's end is not reached. -/
theorem Rounds.ends_le {x y : FiniteDouble} {q : ℚ} {k : Nat} (he : y.exponent = x.exponent + k)
    (hx : x.Rounds q) (hy : y.Rounds q) : y.lowerQuarters * 2 ^ k ≤ x.upperQuarters ∧
      (x.mantissa % 2 = 1 ∨ y.mantissa % 2 = 1 → y.lowerQuarters * 2 ^ k < x.upperQuarters) := by
  have hw := x.quarter_pos
  have hquarter : y.quarter = 2 ^ k * x.quarter := by
    rw [quarter, quarter, he, show x.exponent + k - 2 = (k : Int) + (x.exponent - 2) by ring,
      zpow_add₀ (by norm_num), zpow_natCast]
  have hle : ∀ {a b : Nat}, (a : ℚ) * x.quarter ≤ b * x.quarter → a ≤ b := fun h => by
    exact_mod_cast le_of_mul_le_mul_right h hw
  have hlt : ∀ {a b : Nat}, (a : ℚ) * x.quarter < b * x.quarter → a < b := fun h => by
    exact_mod_cast lt_of_mul_lt_mul_right h hw.le
  have hlow : ((y.lowerQuarters * 2 ^ k : Nat) : ℚ) * x.quarter = y.lowerQuarters * y.quarter := by
    rw [hquarter]
    push_cast
    ring
  refine ⟨hle ?_, fun hodd => hlt ?_⟩
  · rw [hlow]
    exact hy.bounds.1.trans hx.bounds.2
  · rw [hlow]
    rcases hodd with hodd | hodd
    · unfold Rounds at hx
      rw [if_neg (by omega)] at hx
      exact lt_of_le_of_lt hy.bounds.1 hx.2
    · unfold Rounds at hy
      rw [if_neg (by omega)] at hy
      exact lt_of_lt_of_le hy.1 hx.bounds.2

theorem not_rounds_of_mantissa_lt {x y : FiniteDouble} {q : ℚ} (he : x.exponent = y.exponent)
    (hlt : x.mantissa < y.mantissa) (hx : x.Rounds q) (hy : y.Rounds q) : False := by
  obtain ⟨hle, hodd⟩ := Rounds.ends_le (k := 0) (by omega) hx hy
  rw [pow_zero, mul_one] at hle hodd
  unfold upperQuarters at hle hodd
  rcases lowerQuarters_add (x := y) (by omega) with ⟨hadd, -⟩ | ⟨hadd, -⟩ <;> omega

theorem not_rounds_of_exponent_lt {x y : FiniteDouble} {q : ℚ} (he : x.exponent < y.exponent)
    (hx : x.Rounds q) (hy : y.Rounds q) : False := by
  obtain ⟨hmx, hex, -, -⟩ := x.canonical
  obtain ⟨-, -, -, hmy⟩ := y.canonical
  have hmy : 2 ^ 52 ≤ y.mantissa := hmy.resolve_right (by omega)
  obtain ⟨k, hk⟩ : ∃ k : Nat, y.exponent = x.exponent + (k + 1 : Nat) := ⟨(y.exponent - x.exponent - 1).toNat, by omega⟩
  obtain ⟨hle, hodd⟩ := Rounds.ends_le hk hx hy
  have htwo : 2 ^ 1 ≤ 2 ^ (k + 1) := Nat.pow_le_pow_right Nat.two_pos (by omega)
  have hpow : y.lowerQuarters * 2 ≤ y.lowerQuarters * 2 ^ (k + 1) := Nat.mul_le_mul_left _ htwo
  unfold upperQuarters at hle hodd
  -- the ends can only meet where the binade of `y` starts, and there the mantissa of `x` is odd
  rcases lowerQuarters_add (x := y) (by omega) with ⟨hadd, -⟩ | ⟨hadd, hne⟩ <;> omega

theorem Rounds.eq {x y : FiniteDouble} {q : ℚ} (hx : x.Rounds q) (hy : y.Rounds q) :
    x.mantissa = y.mantissa ∧ x.exponent = y.exponent := by
  rcases lt_trichotomy x.exponent y.exponent with he | he | he
  · exact (not_rounds_of_exponent_lt he hx hy).elim
  · rcases lt_trichotomy x.mantissa y.mantissa with hm | hm | hm
    · exact (not_rounds_of_mantissa_lt he hm hx hy).elim
    · exact ⟨hm, he⟩
    · exact (not_rounds_of_mantissa_lt he.symm hm hy hx).elim
  · exact (not_rounds_of_exponent_lt he hy hx).elim

theorem eq_of_parts {x y : FiniteDouble} (hsign : x.negative = y.negative) (hm : x.mantissa = y.mantissa)
    (he : x.exponent = y.exponent) : x = y := by
  cases x
  cases y
  simp only at hsign hm he
  subst hsign hm he
  rfl

/-- A double is determined by its sign and the value of its shortest decimal. -/
theorem eq_of_shortest {x y : FiniteDouble} (hsign : x.negative = y.negative)
    (h : x.shortest.value = y.shortest.value) : x = y := by
  have hparts : x.mantissa = y.mantissa ∧ x.exponent = y.exponent := by
    by_cases hx : x.mantissa = 0 <;> by_cases hy : y.mantissa = 0
    · obtain ⟨-, -, -, hx'⟩ := x.canonical
      obtain ⟨-, -, -, hy'⟩ := y.canonical
      exact ⟨hx.trans hy.symm, (hx'.resolve_left (by omega)).trans (hy'.resolve_left (by omega)).symm⟩
    · exact absurd (h.symm.trans (shortest_of_zero hx)) (shortest_value_pos hy).ne'
    · exact absurd (h.trans (shortest_of_zero hy)) (shortest_value_pos hx).ne'
    · exact Rounds.eq (shortest_rounds hx) (h ▸ shortest_rounds hy)
  exact eq_of_parts hsign hparts.1 hparts.2

end FiniteDouble

end WebForm
