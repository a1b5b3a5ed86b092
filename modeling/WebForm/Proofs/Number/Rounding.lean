/-
Rounding to doubles. The binade of a positive fraction sets the grid on which it is rounded, and its mantissa there
is the nearest natural, a half going to the even one. So the double that a fraction is rounded to is the one whose
interval holds it, and only from half a unit above the largest double on there is none.
-/
import WebForm.Proofs.Number.Numeral
import WebForm.Proofs.Number.Whole

namespace WebForm

/-! ## Fractions on a binary grid -/

/-- A fraction in units of a power of two. -/
theorem binary_fraction (num : Nat) {den : Nat} (hd : 0 < den) (e : Int) :
    0 < (if e < 0 then den else den * 2 ^ e.toNat) ∧
      ((if e < 0 then num * 2 ^ (-e).toNat else num : Nat) : ℚ) / (if e < 0 then den else den * 2 ^ e.toNat : Nat) *
        (2 : ℚ) ^ e = (num : ℚ) / den := by
  have h := grid_fraction (b := 2) Nat.two_pos num hd e
  rwa [Nat.cast_ofNat] at h

/-- A fraction lies in the binade that the highest bits of its two sides leave open. -/
theorem binade_of_log2 {num den : Nat} (hn : 0 < num) (hd : 0 < den) :
    (2 : ℚ) ^ ((num.log2 : Int) - den.log2 - 1) ≤ (num : ℚ) / den ∧
      (num : ℚ) / den < (2 : ℚ) ^ ((num.log2 : Int) - den.log2 + 1) := by
  have hd' : (0 : ℚ) < den := by exact_mod_cast hd
  have hnlo : (2 : ℚ) ^ (num.log2 : Int) ≤ num := by exact_mod_cast Nat.log2_self_le hn.ne'
  have hnhi : (num : ℚ) < 2 ^ ((num.log2 : Int) + 1) := by exact_mod_cast Nat.lt_log2_self (n := num)
  have hdlo : (2 : ℚ) ^ (den.log2 : Int) ≤ den := by exact_mod_cast Nat.log2_self_le hd.ne'
  have hdhi : (den : ℚ) < 2 ^ ((den.log2 : Int) + 1) := by exact_mod_cast Nat.lt_log2_self (n := den)
  constructor
  · rw [le_div_iff₀ hd']
    calc (2 : ℚ) ^ ((num.log2 : Int) - den.log2 - 1) * den
        ≤ 2 ^ ((num.log2 : Int) - den.log2 - 1) * 2 ^ ((den.log2 : Int) + 1) := by gcongr
      _ = 2 ^ (num.log2 : Int) := by rw [← zpow_add₀ (by norm_num)]; congr 1; ring
      _ ≤ num := hnlo
  · rw [div_lt_iff₀ hd']
    calc (num : ℚ) < 2 ^ ((num.log2 : Int) + 1) := hnhi
      _ = 2 ^ ((num.log2 : Int) - den.log2 + 1) * 2 ^ (den.log2 : Int) := by
          rw [← zpow_add₀ (by norm_num)]; congr 1; ring
      _ ≤ 2 ^ ((num.log2 : Int) - den.log2 + 1) * den := by gcongr

namespace Double

/-- On its grid a fraction has at most 53 bits, and fewer only on the finest grid there is. -/
theorem gridExponent_spec {num den : Nat} (hn : 0 < num) (hd : 0 < den) :
    -1074 ≤ gridExponent num den ∧ (num : ℚ) / den < 2 ^ (53 + gridExponent num den) ∧
      ((2 : ℚ) ^ (52 + gridExponent num den) ≤ (num : ℚ) / den ∨ gridExponent num den = -1074) := by
  obtain ⟨hlo, hhi⟩ := binade_of_log2 hn hd
  unfold gridExponent
  simp only
  generalize hg : (num.log2 : Int) - den.log2 - 53 = g
  obtain ⟨hd', hscale⟩ := binary_fraction num hd g
  generalize (if g < 0 then num * 2 ^ (-g).toNat else num) = n at *
  generalize (if g < 0 then den else den * 2 ^ g.toNat) = d at *
  have hdq : (0 : ℚ) < d := by exact_mod_cast hd'
  have hpow : (0 : ℚ) < 2 ^ g := by positivity
  -- the bits of the quotient are counted exactly by one comparison
  have htest : 2 ^ 53 * d ≤ n ↔ (2 : ℚ) ^ (53 + g) ≤ (num : ℚ) / den := by
    rw [← hscale, zpow_add₀ (by norm_num), mul_le_mul_iff_left₀ hpow, le_div_iff₀ hdq]
    exact_mod_cast Iff.rfl
  have hexact : ∃ e, (if 2 ^ 53 * d ≤ n then g + 1 else g) = e ∧ (2 : ℚ) ^ (52 + e) ≤ (num : ℚ) / den ∧
      (num : ℚ) / den < 2 ^ (53 + e) := by
    split
    · rename_i h
      refine ⟨g + 1, rfl, ?_, ?_⟩
      · rw [show 52 + (g + 1) = 53 + g by ring]
        exact htest.1 h
      · rw [show 53 + (g + 1) = (num.log2 : Int) - den.log2 + 1 by omega]
        exact hhi
    · rename_i h
      refine ⟨g, rfl, ?_, not_le.1 (mt htest.2 h)⟩
      rw [show 52 + g = (num.log2 : Int) - den.log2 - 1 by omega]
      exact hlo
  obtain ⟨e, he, helo, hehi⟩ := hexact
  rw [he]
  refine ⟨le_max_right _ _, lt_of_lt_of_le hehi (zpow_le_zpow_right₀ one_le_two ?_), ?_⟩
  · have := le_max_left e (-1074)
    omega
  · rcases le_total e (-1074) with h | h
    · exact .inr (max_eq_right h)
    · exact .inl (by rwa [max_eq_left h])

/-! ## Ties to even -/

/-- A natural nearest to a number, and even if another one is as near. -/
def NearestEven (m : Nat) (w : ℚ) : Prop :=
  if m % 2 = 0 then 2 * (m : ℚ) - 1 ≤ 2 * w ∧ 2 * w ≤ 2 * m + 1 else 2 * (m : ℚ) - 1 < 2 * w ∧ 2 * w < 2 * m + 1

theorem NearestEven.bounds {m : Nat} {w : ℚ} (h : NearestEven m w) : 2 * (m : ℚ) - 1 ≤ 2 * w ∧ 2 * w ≤ 2 * m + 1 := by
  unfold NearestEven at h
  split at h
  · exact h
  · exact ⟨h.1.le, h.2.le⟩

theorem nearestEven_div (n : Nat) {d : Nat} (hd : 0 < d) :
    NearestEven (if d < 2 * (n % d) ∨ 2 * (n % d) = d ∧ n / d % 2 = 1 then n / d + 1 else n / d) ((n : ℚ) / d) := by
  have hdq : (0 : ℚ) < d := by exact_mod_cast hd
  have hdiv : (n : ℚ) = d * (n / d : Nat) + (n % d : Nat) := by exact_mod_cast (Nat.div_add_mod n d).symm
  have hr : ((n % d : Nat) : ℚ) < d := by exact_mod_cast Nat.mod_lt n hd
  have hr0 : (0 : ℚ) ≤ (n % d : Nat) := Nat.cast_nonneg _
  have hw : (n : ℚ) / d = (n / d : Nat) + (n % d : Nat) / (d : ℚ) := by
    rw [hdiv]
    field_simp
  rw [hw]
  generalize n / d = q at *
  generalize n % d = r at *
  -- the test on the remainder compares the fractional part with a half
  have habove : d < 2 * r ↔ 1 < 2 * ((r : ℚ) / d) := by
    rw [← mul_div_assoc, lt_div_iff₀ hdq, one_mul]
    exact_mod_cast Iff.rfl
  have htie : 2 * r = d ↔ 2 * ((r : ℚ) / d) = 1 := by
    rw [← mul_div_assoc, div_eq_iff hdq.ne', one_mul]
    exact_mod_cast Iff.rfl
  have hnonneg : 0 ≤ (r : ℚ) / d := by positivity
  have hlt : (r : ℚ) / d < 1 := (div_lt_one hdq).2 hr
  unfold NearestEven
  split
  · rename_i hup
    rw [habove, htie] at hup
    generalize (r : ℚ) / d = f at *
    have hhalf : 1 ≤ 2 * f := hup.elim le_of_lt fun h => h.1.ge
    split
    · push_cast
      constructor <;> linarith
    · rename_i hodd
      have hne : 1 < 2 * f := hup.resolve_right fun h => by omega
      push_cast
      constructor <;> linarith
  · rename_i hdown
    rw [habove, htie] at hdown
    generalize (r : ℚ) / d = f at *
    have hhalf : 2 * f ≤ 1 := not_lt.1 fun h => hdown (.inl h)
    split
    · constructor <;> linarith
    · rename_i hodd
      have hne : 2 * f ≠ 1 := fun h => hdown (.inr ⟨h, by omega⟩)
      have hlt : 2 * f < 1 := lt_of_le_of_ne hhalf hne
      constructor <;> linarith

/-- The mantissa of a fraction on a grid is the natural nearest to it in units of the grid. -/
theorem roundedMantissa_nearestEven (num : Nat) {den : Nat} (hd : 0 < den) (e : Int) :
    NearestEven (roundedMantissa num den e) ((num : ℚ) / den / 2 ^ e) := by
  obtain ⟨hd', hscale⟩ := binary_fraction num hd e
  have hpow : (2 : ℚ) ^ e ≠ 0 := by positivity
  rw [← hscale, mul_div_cancel_right₀ _ hpow]
  exact nearestEven_div _ hd'

end Double

namespace FiniteDouble

/-! ## The interval of a double -/

/-- The interval of a double in units of its mantissa. -/
theorem rounds_iff_units (x : FiniteDouble) (w : ℚ) : x.Rounds (w * 2 ^ x.exponent) ↔
    if x.mantissa % 2 = 0 then x.lowerQuarters ≤ 4 * w ∧ 4 * w ≤ x.upperQuarters
    else x.lowerQuarters < 4 * w ∧ 4 * w < x.upperQuarters := by
  have hq := x.quarter_pos
  have hw : w * 2 ^ x.exponent = 4 * w * x.quarter := by
    rw [← four_mul_quarter]
    ring
  unfold Rounds
  rw [hw, mul_le_mul_iff_left₀ hq, mul_le_mul_iff_left₀ hq, mul_lt_mul_iff_left₀ hq, mul_lt_mul_iff_left₀ hq]

/-- A number whose nearest natural is the mantissa of a double lies in the interval of the double. -/
theorem rounds_of_nearestEven {x : FiniteDouble} {w : ℚ} (h : Double.NearestEven x.mantissa w) (hw : 0 ≤ w)
    (hfull : 2 ^ 52 ≤ w ∨ x.exponent = -1074) : x.Rounds (w * 2 ^ x.exponent) := by
  rw [rounds_iff_units]
  have hupper : (x.upperQuarters : ℚ) = 4 * x.mantissa + 2 := by
    unfold upperQuarters
    push_cast
    ring
  unfold Double.NearestEven at h
  by_cases hm : x.mantissa = 0
  · have hlower : x.lowerQuarters = 0 := by
      unfold lowerQuarters
      omega
    rw [hm] at h hupper ⊢
    rw [if_pos (by norm_num)] at h ⊢
    rw [hupper, hlower, Nat.cast_zero]
    push_cast at h ⊢
    constructor <;> linarith
  · -- where a binade starts the interval is shorter below, but there the number lies above the mantissa
    have hlower : (x.lowerQuarters : ℚ) < 4 * w ∨ (x.lowerQuarters : ℚ) + 2 = 4 * x.mantissa := by
      rcases lowerQuarters_add hm with ⟨hadd, hmin, hexp⟩ | ⟨hadd, -⟩
      · have hcast : ((x.lowerQuarters + 1 : Nat) : ℚ) = (4 * x.mantissa : Nat) := by rw [hadd]
        have hw := hfull.resolve_right hexp
        rw [hmin] at hcast
        push_cast at hcast
        exact .inl (by linarith)
      · exact .inr (by exact_mod_cast hadd)
    rw [hupper]
    split at h
    · rename_i heven
      rw [if_pos heven]
      constructor
      · rcases hlower with h' | h' <;> linarith
      · linarith
    · rename_i hodd
      rw [if_neg hodd]
      constructor
      · rcases hlower with h' | h' <;> linarith
      · linarith

/-- A number that is rounded up to the next power of two lies in the interval of the double that starts there. -/
theorem rounds_of_carry {x : FiniteDouble} {e : Int} {w : ℚ} (hm : x.mantissa = 2 ^ 52) (he : x.exponent = e + 1)
    (hmin : -1074 ≤ e) (h : 2 * (2 ^ 53 : ℚ) - 1 ≤ 2 * w) (hw : w < 2 ^ 53) : x.Rounds (w * 2 ^ e) := by
  have hscale : w * 2 ^ e = w / 2 * 2 ^ x.exponent := by
    rw [he, zpow_add₀ (by norm_num)]
    ring
  have hlower : x.lowerQuarters = 4 * 2 ^ 52 - 1 := by
    unfold lowerQuarters
    rw [if_pos ⟨hm, by omega⟩, hm]
  have hupper : x.upperQuarters = 4 * 2 ^ 52 + 2 := by
    unfold upperQuarters
    rw [hm]
  rw [hscale, rounds_iff_units, if_pos (by rw [hm]; norm_num), hlower, hupper]
  norm_num at h hw ⊢
  constructor <;> linarith

/-- The intervals of the doubles end half a unit above the largest one, and that end belongs to none. -/
theorem Rounds.lt_limit {x : FiniteDouble} {v : ℚ} (h : x.Rounds v) : v < integerLimit := by
  obtain ⟨hm, -, he, -⟩ := x.canonical
  have hlimit : (integerLimit : ℚ) = (2 ^ 55 - 2) * 2 ^ (969 : Int) := by
    have : integerLimit = (2 ^ 55 - 2) * 2 ^ 969 := by decide +kernel
    rw [this, Nat.cast_mul, Nat.cast_pow, Nat.cast_ofNat, ← zpow_natCast]
    norm_num
  have hquarter : x.quarter ≤ 2 ^ (969 : Int) := zpow_le_zpow_right₀ one_le_two (by omega)
  have hpos := x.quarter_pos
  have htop : (x.upperQuarters : ℚ) ≤ 2 ^ 55 - 2 := by
    have : x.upperQuarters + 2 ≤ 2 ^ 55 := by unfold upperQuarters; omega
    have : ((x.upperQuarters + 2 : Nat) : ℚ) ≤ (2 ^ 55 : Nat) := by exact_mod_cast this
    push_cast at this
    linarith
  have hle : x.upperQuarters * x.quarter ≤ integerLimit := by
    rw [hlimit]
    exact mul_le_mul htop hquarter hpos.le (by norm_num)
  unfold Rounds at h
  split at h
  · rename_i heven
    -- an even mantissa is not the largest one
    have hless : x.upperQuarters * x.quarter < integerLimit := by
      have hupper : (x.upperQuarters : ℚ) < 2 ^ 55 - 2 := by
        have : x.upperQuarters + 2 < 2 ^ 55 := by unfold upperQuarters; omega
        have : ((x.upperQuarters + 2 : Nat) : ℚ) < (2 ^ 55 : Nat) := by exact_mod_cast this
        push_cast at this
        linarith
      rw [hlimit]
      calc x.upperQuarters * x.quarter < (2 ^ 55 - 2) * x.quarter := by gcongr
        _ ≤ (2 ^ 55 - 2) * 2 ^ (969 : Int) := mul_le_mul_of_nonneg_left hquarter (by norm_num)
    exact h.2.trans_lt hless
  · exact h.2.trans_le hle

/-- Two doubles of one sign are the same if one number lies in the intervals of both. -/
theorem Rounds.eq_of_sign {x y : FiniteDouble} {v : ℚ} (hx : x.Rounds v) (hy : y.Rounds v)
    (hsign : x.negative = y.negative) : x = y := by
  obtain ⟨hm, he⟩ := hx.eq hy
  exact eq_of_parts hsign hm he

/-! ## Neighbours -/

/-- The magnitude in units of the mantissa of a double with the same or a smaller exponent. -/
theorem magnitude_eq_shifted {x y : FiniteDouble} (h : x.exponent ≤ y.exponent) :
    ∃ k : Nat, y.magnitude = k * 2 ^ x.exponent := by
  obtain ⟨n, hn⟩ : ∃ n : Nat, y.exponent = (n : Int) + x.exponent := ⟨(y.exponent - x.exponent).toNat, by omega⟩
  refine ⟨y.mantissa * 2 ^ n, ?_⟩
  rw [magnitude, hn, zpow_add₀ (by norm_num), zpow_natCast]
  push_cast
  ring

/-- A double of a smaller exponent lies at least half a unit below the binade of the larger one. -/
theorem magnitude_le_of_exponent_lt {x y : FiniteDouble} (h : y.exponent < x.exponent) :
    y.magnitude + 2 * x.quarter ≤ 2 ^ 52 * 2 ^ x.exponent := by
  have hm : (y.mantissa : ℚ) ≤ 2 ^ 53 - 1 := by
    have : y.mantissa + 1 ≤ 2 ^ 53 := y.canonical.1
    have : ((y.mantissa + 1 : Nat) : ℚ) ≤ (2 ^ 53 : Nat) := by exact_mod_cast this
    push_cast at this
    linarith
  have hhalf : 2 * x.quarter = 2 ^ (x.exponent - 1) := by
    rw [quarter, show x.exponent - 1 = (x.exponent - 2) + 1 by ring, zpow_add_one₀ (by norm_num)]
    ring
  have hpow : (2 : ℚ) ^ y.exponent ≤ 2 * x.quarter := hhalf ▸ zpow_le_zpow_right₀ one_le_two (by omega)
  have hle : y.magnitude ≤ (2 ^ 53 - 1) * (2 * x.quarter) :=
    mul_le_mul hm hpow (by positivity) (by norm_num)
  rw [← four_mul_quarter]
  linarith

/-- The next double above lies a unit of the mantissa away. -/
theorem magnitude_add_le {x y : FiniteDouble} (h : x.magnitude < y.magnitude) :
    x.magnitude + 4 * x.quarter ≤ y.magnitude := by
  rcases le_or_gt x.exponent y.exponent with he | he
  · obtain ⟨k, hk⟩ := magnitude_eq_shifted he
    have hpow : (0 : ℚ) < 2 ^ x.exponent := by positivity
    rw [hk, magnitude] at h
    have hlt : x.mantissa + 1 ≤ k := by exact_mod_cast lt_of_mul_lt_mul_right h hpow.le
    rw [hk, magnitude, four_mul_quarter, ← add_one_mul]
    exact mul_le_mul_of_nonneg_right (by exact_mod_cast hlt) hpow.le
  · -- where `y` has a smaller exponent, it lies below the binade of `x`
    have hbelow := magnitude_le_of_exponent_lt he
    have hfull : (2 ^ 52 : ℚ) ≤ x.mantissa := by
      have := x.canonical.2.2.2.resolve_right (by have := y.canonical.2.1; omega)
      exact_mod_cast this
    have hle : 2 ^ 52 * 2 ^ x.exponent ≤ x.magnitude := mul_le_mul_of_nonneg_right hfull (by positivity)
    have := x.quarter_pos
    linarith

/-- The next double below lies twice as far away as the lower end of the interval. -/
theorem magnitude_le_sub {x y : FiniteDouble} (h : y.magnitude < x.magnitude) :
    y.magnitude + 2 * (x.magnitude - x.lowerQuarters * x.quarter) ≤ x.magnitude := by
  have hq := x.quarter_pos
  have hm : x.mantissa ≠ 0 := fun hm => by
    have hx : x.magnitude = 0 := by rw [magnitude, hm, Nat.cast_zero, zero_mul]
    have hy : 0 ≤ y.magnitude := by unfold magnitude; positivity
    linarith
  have hx := x.magnitude_eq
  rcases le_or_gt x.exponent y.exponent with he | he
  · obtain ⟨k, hk⟩ := magnitude_eq_shifted he
    rw [hk, magnitude] at h
    have hlt : k + 1 ≤ x.mantissa := by exact_mod_cast lt_of_mul_lt_mul_right h (by positivity)
    have hunits : 4 * ((k : ℚ) + 1) * x.quarter ≤ 4 * x.mantissa * x.quarter := by
      gcongr
      exact_mod_cast hlt
    have hlower : (4 * x.mantissa - 2 : ℚ) * x.quarter ≤ x.lowerQuarters * x.quarter := by
      refine mul_le_mul_of_nonneg_right ?_ hq.le
      have : 4 * x.mantissa ≤ x.lowerQuarters + 2 := by rcases lowerQuarters_add hm with ⟨hadd, -⟩ | ⟨hadd, -⟩ <;> omega
      have : ((4 * x.mantissa : Nat) : ℚ) ≤ (x.lowerQuarters + 2 : Nat) := by exact_mod_cast this
      push_cast at this
      linarith
    rw [hk, ← four_mul_quarter]
    linarith
  · have hbelow := magnitude_le_of_exponent_lt he
    rw [← four_mul_quarter] at hbelow
    have hfull := x.canonical.2.2.2.resolve_right (by have := y.canonical.2.1; omega)
    rcases lowerQuarters_add hm with ⟨hadd, hleast, -⟩ | ⟨hadd, hne⟩
    · have hlower : ((x.lowerQuarters + 1 : Nat) : ℚ) = (4 * x.mantissa : Nat) := by rw [hadd]
      push_cast at hlower
      rw [hx, show (x.lowerQuarters : ℚ) = 4 * x.mantissa - 1 by linarith, hleast]
      push_cast
      linarith
    · have hlower : ((x.lowerQuarters + 2 : Nat) : ℚ) = (4 * x.mantissa : Nat) := by rw [hadd]
      push_cast at hlower
      have hnext : (2 ^ 52 + 1 : ℚ) ≤ x.mantissa := by
        have : 2 ^ 52 + 1 ≤ x.mantissa := by
          have := y.canonical.2.1
          omega
        exact_mod_cast this
      have hscaled : (2 ^ 52 + 1 : ℚ) * x.quarter ≤ x.mantissa * x.quarter := mul_le_mul_of_nonneg_right hnext hq.le
      rw [hx, show (x.lowerQuarters : ℚ) = 4 * x.mantissa - 2 by linarith]
      linarith

theorem upper_eq (x : FiniteDouble) : x.upperQuarters * x.quarter = x.magnitude + 2 * x.quarter := by
  rw [magnitude_eq, upperQuarters]
  push_cast
  ring

/-- No double is nearer to a number than the one whose interval holds it. -/
theorem Rounds.nearest {x : FiniteDouble} {v : ℚ} (h : x.Rounds v) (y : FiniteDouble) :
    |v - x.magnitude| ≤ |v - y.magnitude| := by
  obtain ⟨hlo, hhi⟩ := h.bounds
  rw [upper_eq] at hhi
  have hq := x.quarter_pos
  rcases lt_trichotomy y.magnitude x.magnitude with hy | hy | hy
  · have := magnitude_le_sub hy
    exact (abs_le.2 ⟨by linarith, by linarith⟩ : _ ≤ v - y.magnitude).trans (le_abs_self _)
  · rw [hy]
  · have := magnitude_add_le hy
    exact (abs_le.2 ⟨by linarith, by linarith⟩ : _ ≤ -(v - y.magnitude)).trans (neg_le_abs _)

/-- Where another double is as near, the mantissa is even. -/
theorem Rounds.even_of_tie {x y : FiniteDouble} {v : ℚ} (h : x.Rounds v) (htie : |v - x.magnitude| = |v - y.magnitude|)
    (hne : y.magnitude ≠ x.magnitude) : x.mantissa % 2 = 0 := by
  by_contra hodd
  unfold Rounds at h
  rw [if_neg hodd, upper_eq] at h
  obtain ⟨hlo, hhi⟩ := h
  have hq := x.quarter_pos
  rcases lt_or_gt_of_ne hne with hy | hy
  · have := magnitude_le_sub hy
    have := (abs_lt.2 ⟨by linarith, by linarith⟩ : |v - x.magnitude| < v - y.magnitude).trans_le (le_abs_self _)
    exact this.ne htie
  · have := magnitude_add_le hy
    have := (abs_lt.2 ⟨by linarith, by linarith⟩ : |v - x.magnitude| < -(v - y.magnitude)).trans_le (neg_le_abs _)
    exact this.ne htie

end FiniteDouble

namespace Double

open FiniteDouble

/-! ## Rounding fractions -/

/-- Half a unit below `2 ^ 53` units the limit is reached in the highest binade. -/
theorem integerLimit_le {w : ℚ} {e : Int} (hw : 2 * (2 ^ 53 : ℚ) - 1 ≤ 2 * w) (he : 971 ≤ e) :
    (integerLimit : ℚ) ≤ w * 2 ^ e := by
  have hlimit : (integerLimit : ℚ) = (2 ^ 53 - 1 / 2) * 2 ^ (971 : Int) := by
    have : integerLimit = (2 ^ 54 - 1) * 2 ^ 970 := by decide +kernel
    rw [this, Nat.cast_mul, Nat.cast_pow 2 970, Nat.cast_ofNat, ← zpow_natCast, show (971 : Int) = (970 : Nat) + 1 by rfl,
      zpow_add_one₀ (by norm_num)]
    generalize (2 : ℚ) ^ ((970 : Nat) : Int) = p
    norm_num
    ring
  have hpow : (2 : ℚ) ^ (971 : Int) ≤ 2 ^ e := zpow_le_zpow_right₀ one_le_two he
  rw [hlimit]
  exact mul_le_mul (by linarith) hpow (by positivity) (by linarith)

/-- Rounding a positive fraction finds its grid and the nearest natural on it. -/
theorem exists_parts {num den : Nat} (hn : 0 < num) (hd : 0 < den) (negative : Bool) : ∃ (w : ℚ) (m : Nat) (e : Int),
    (num : ℚ) / den = w * 2 ^ e ∧ NearestEven m w ∧ (0 ≤ w ∧ w < 2 ^ 53) ∧ -1074 ≤ e ∧ (2 ^ 52 ≤ w ∨ e = -1074) ∧
      round negative num den = if m = 2 ^ 53 then ofParts negative (2 ^ 52) (e + 1) else ofParts negative m e := by
  obtain ⟨hlo, hhi, hfull⟩ := gridExponent_spec hn hd
  have hnear := roundedMantissa_nearestEven num hd (gridExponent num den)
  have hround : round negative num den = if roundedMantissa num den (gridExponent num den) = 2 ^ 53
      then ofParts negative (2 ^ 52) (gridExponent num den + 1)
      else ofParts negative (roundedMantissa num den (gridExponent num den)) (gridExponent num den) := if_neg hn.ne'
  generalize gridExponent num den = e at *
  have hpow : (0 : ℚ) < 2 ^ e := by positivity
  have hw : (num : ℚ) / den = (num : ℚ) / den / 2 ^ e * 2 ^ e := (div_mul_cancel₀ _ hpow.ne').symm
  refine ⟨_, _, e, hw, hnear, ⟨by positivity, ?_⟩, hlo, hfull.imp_left fun h => ?_, hround⟩
  · rw [div_lt_iff₀ hpow]
    rw [zpow_add₀ (by norm_num)] at hhi
    exact_mod_cast hhi
  · rw [le_div_iff₀ hpow]
    rw [zpow_add₀ (by norm_num)] at h
    exact_mod_cast h

/-- What a positive fraction is rounded to has the fraction in its interval. -/
theorem rounds_of_round {num den : Nat} (hn : 0 < num) (hd : 0 < den) {negative : Bool} {x : FiniteDouble}
    (h : round negative num den = .finite x) : x.negative = negative ∧ x.Rounds ((num : ℚ) / den) := by
  obtain ⟨w, m, e, hw, hnear, ⟨hw0, hw53⟩, hlo, hfull, hround⟩ := exists_parts hn hd negative
  rw [hround] at h
  rw [hw]
  split at h
  · rename_i hcarry
    obtain ⟨hsign, hm, he⟩ := of_ofParts h
    have hnlo := hnear.bounds.1
    rw [hcarry] at hnlo
    push_cast at hnlo
    exact ⟨hsign, rounds_of_carry hm he hlo hnlo hw53⟩
  · obtain ⟨hsign, rfl, rfl⟩ := of_ofParts h
    exact ⟨hsign, rounds_of_nearestEven hnear hw0 hfull⟩

/-- A positive fraction below the limit is not rounded to an infinity. -/
theorem exists_round {num den : Nat} (hn : 0 < num) (hd : 0 < den) (hlt : (num : ℚ) / den < integerLimit)
    (negative : Bool) :
    ∃ x, round negative num den = .finite x := by
  obtain ⟨w, m, e, hw, hnear, ⟨-, hw53⟩, hlo, hfull, hround⟩ := exists_parts hn hd negative
  rw [hw] at hlt
  obtain ⟨hnlo, hnhi⟩ := hnear.bounds
  rw [hround]
  split
  · rename_i hcarry
    have he : e + 1 ≤ 971 := by
      by_contra hbig
      rw [hcarry] at hnlo
      push_cast at hnlo
      exact absurd hlt (not_lt.2 (integerLimit_le hnlo (by omega)))
    exact ⟨_, dif_pos ⟨by norm_num, by omega, he, .inl le_rfl⟩⟩
  · rename_i hcarry
    have he : e ≤ 971 := by
      by_contra hbig
      have hw52 := hfull.resolve_right (by omega)
      have hscale : w * 2 ^ e = 2 * w * 2 ^ (e - 1) := by
        rw [zpow_sub_one₀ (by norm_num)]
        ring
      rw [hscale] at hlt
      exact absurd hlt (not_lt.2 (integerLimit_le (by linarith) (by omega)))
    have hm53 : m < 2 ^ 53 := by
      have : (2 * m : ℚ) < 2 * 2 ^ 53 + 1 := by linarith
      have : 2 * m < 2 * 2 ^ 53 + 1 := by exact_mod_cast this
      omega
    have hm52 : 2 ^ 52 ≤ m ∨ e = -1074 := by
      refine hfull.imp_left fun h => ?_
      have : (2 * 2 ^ 52 : ℚ) ≤ 2 * m + 1 := by linarith
      have : 2 * 2 ^ 52 ≤ 2 * m + 1 := by exact_mod_cast this
      omega
    exact ⟨_, dif_pos ⟨hm53, hlo, he, hm52⟩⟩

/-- A positive fraction is rounded to the double whose interval holds it. -/
theorem round_eq_finite_iff {num den : Nat} (hn : 0 < num) (hd : 0 < den) (negative : Bool) (x : FiniteDouble) :
    round negative num den = .finite x ↔ x.negative = negative ∧ x.Rounds ((num : ℚ) / den) := by
  refine ⟨rounds_of_round hn hd, ?_⟩
  rintro ⟨hsign, hrounds⟩
  obtain ⟨y, hy⟩ := exists_round hn hd hrounds.lt_limit negative
  obtain ⟨hsign', hrounds'⟩ := rounds_of_round hn hd hy
  rw [hy, hrounds'.eq_of_sign hrounds (hsign'.trans hsign.symm)]

/-! ## Rounding decimals -/

/-- What lies no farther from zero than half of the smallest double is rounded to zero. -/
theorem zero_eq_finite_iff {v : ℚ} (h0 : 0 ≤ v) (hv : v ≤ 2 ^ (-1075 : Int)) (negative : Bool) (x : FiniteDouble) :
    finite (.zero negative) = .finite x ↔ x.negative = negative ∧ x.Rounds v := by
  have hzero : (FiniteDouble.zero negative).Rounds v := by
    have hscale : v = v / 2 ^ (-1074 : Int) * 2 ^ (FiniteDouble.zero negative).exponent :=
      (div_mul_cancel₀ _ (by positivity)).symm
    have hhalf : v / 2 ^ (-1074 : Int) ≤ 1 / 2 := by
      rw [div_le_iff₀ (by positivity)]
      rw [show (-1075 : Int) = -1074 - 1 by norm_num, zpow_sub_one₀ (by norm_num)] at hv
      linarith
    have hpos : 0 ≤ v / 2 ^ (-1074 : Int) := div_nonneg h0 (zpow_nonneg (by norm_num) _)
    have hnear : NearestEven 0 (v / 2 ^ (-1074 : Int)) := by
      refine (if_pos rfl).mpr ⟨?_, ?_⟩ <;> rw [Nat.cast_zero] <;> linarith
    rw [hscale]
    exact rounds_of_nearestEven hnear hpos (.inr rfl)
  constructor
  · intro h
    cases h
    exact ⟨rfl, hzero⟩
  · rintro ⟨hsign, hrounds⟩
    rw [hzero.eq_of_sign hrounds hsign.symm]

theorem eight_zpow_le {e : Int} (he : 0 ≤ e) : (2 : ℚ) ^ (3 * e) ≤ 10 ^ e := by
  rw [zpow_mul]
  exact zpow_le_zpow_left₀ he (by norm_num) (by norm_num)

/-- A decimal is rounded to the double whose interval holds it. -/
theorem ofDecimal_eq_finite_iff (negative : Bool) (digits : Nat) (exponent : Int) (x : FiniteDouble) :
    ofDecimal negative digits exponent = .finite x ↔ x.negative = negative ∧ x.Rounds (digits * 10 ^ exponent) := by
  unfold ofDecimal
  split
  · rename_i hzero
    rw [hzero, Nat.cast_zero, zero_mul]
    exact zero_eq_finite_iff le_rfl (by positivity) negative x
  rename_i hdigits
  have hpos : (1 : ℚ) ≤ digits := by exact_mod_cast Nat.pos_of_ne_zero hdigits
  split
  · -- so large a decimal lies in the interval of no double
    rename_i hlarge
    refine iff_of_false (by simp) fun h => ?_
    have hlimit : (integerLimit : ℚ) ≤ 2 ^ (1024 : Int) := by
      have : integerLimit ≤ 2 ^ 1024 := by decide +kernel
      exact_mod_cast this
    have hpow : (2 : ℚ) ^ (1024 : Int) ≤ 2 ^ (3 * exponent) := zpow_le_zpow_right₀ one_le_two (by omega)
    have hten : (10 : ℚ) ^ exponent ≤ digits * 10 ^ exponent := le_mul_of_one_le_left (by positivity) hpos
    have := h.2.lt_limit
    have := eight_zpow_le (e := exponent) (by omega)
    linarith
  split
  · rename_i htiny
    obtain ⟨hneg, hlog⟩ := htiny
    refine zero_eq_finite_iff (by positivity) ?_ negative x
    have hdigits : (digits : ℚ) ≤ 2 ^ ((digits.log2 : Int) + 1) := by exact_mod_cast Nat.lt_log2_self.le
    have hten : (10 : ℚ) ^ exponent ≤ 2 ^ (3 * exponent) := by
      have := eight_zpow_le (e := -exponent) (by omega)
      rw [mul_neg, zpow_neg, zpow_neg] at this
      exact (inv_le_inv₀ (by positivity) (by positivity)).1 this
    calc (digits : ℚ) * 10 ^ exponent ≤ 2 ^ ((digits.log2 : Int) + 1) * 2 ^ (3 * exponent) := by gcongr
      _ = 2 ^ ((digits.log2 : Int) + 1 + 3 * exponent) := (zpow_add₀ (by norm_num) _ _).symm
      _ ≤ 2 ^ (-1075 : Int) := zpow_le_zpow_right₀ one_le_two (by omega)
  have hpower := zpow_eq_div 10 exponent
  rw [Nat.cast_ofNat] at hpower
  split
  · rename_i hnonneg
    rw [round_eq_finite_iff (Nat.mul_pos (Nat.pos_of_ne_zero hdigits) (by positivity)) one_pos, hpower,
      Int.toNat_of_nonpos (neg_nonpos.2 hnonneg)]
    simp
  · rename_i hneg
    rw [round_eq_finite_iff (Nat.pos_of_ne_zero hdigits) (by positivity), hpower,
      Int.toNat_of_nonpos (not_le.1 hneg).le]
    simp [div_eq_mul_inv]

/-- A natural is rounded to the double whose interval holds it. -/
theorem ofInt_natCast_eq_finite_iff (n : Nat) (x : FiniteDouble) :
    ofInt n = .finite x ↔ x.negative = false ∧ x.Rounds n := by
  show round false n 1 = .finite x ↔ _
  by_cases hn : n = 0
  · rw [hn, Nat.cast_zero]
    exact zero_eq_finite_iff le_rfl (by positivity) false x
  · rw [round_eq_finite_iff (Nat.pos_of_ne_zero hn) one_pos, Nat.cast_one, div_one]

end Double

/-- The numbers below the limit are those that round to a double. -/
theorem FiniteDouble.exists_rounds_iff {v : ℚ} (hv : 0 ≤ v) : (∃ x : FiniteDouble, x.Rounds v) ↔ v < integerLimit := by
  refine ⟨fun ⟨_, h⟩ => h.lt_limit, fun h => ?_⟩
  rcases hv.eq_or_lt with rfl | hpos
  · exact ⟨.zero false, (Double.zero_eq_finite_iff le_rfl (by positivity) false _).1 rfl |>.2⟩
  · have hnum : ((v.num.toNat : Nat) : ℚ) / v.den = v := by
      have : ((v.num.toNat : Nat) : ℚ) = v.num := by exact_mod_cast Int.toNat_of_nonneg (Rat.num_nonneg.2 hv)
      rw [this, Rat.num_div_den]
    have hn : 0 < v.num.toNat := by have := Rat.num_pos.2 hpos; omega
    obtain ⟨x, hx⟩ := Double.exists_round hn v.den_pos (hnum.symm ▸ h) false
    exact ⟨x, hnum ▸ (Double.rounds_of_round hn v.den_pos hx).2⟩

end WebForm
