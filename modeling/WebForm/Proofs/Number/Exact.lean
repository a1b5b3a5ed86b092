/-
The exact values of numbers, as rationals. Comparison, sign and wholeness of quantities are those of
their exact values, a finite double lies below the limit of the integers that round to one, and that
limit is the right one: an integer rounds to a finite double exactly if it lies below it.
-/
import Mathlib.Algebra.Order.Field.Power
import Mathlib.Data.Rat.Floor
import Mathlib.Tactic.FieldSimp
import Mathlib.Tactic.Linarith
import Mathlib.Tactic.NormNum
import Mathlib.Tactic.Positivity
import Mathlib.Tactic.Ring
import WebForm.Number.Quantity

namespace WebForm

/-! ## Powers -/

/-- A power of a natural as a fraction, of which one side is one. -/
theorem zpow_eq_div (b : Nat) (e : Int) : (b : ℚ) ^ e = (b ^ e.toNat : Nat) / (b ^ (-e).toNat : Nat) := by
  by_cases he : 0 ≤ e
  · obtain ⟨n, rfl⟩ := Int.eq_ofNat_of_zero_le he
    simp
  · obtain ⟨n, rfl⟩ : ∃ n : Nat, e = -(n : Int) := ⟨(-e).toNat, by omega⟩
    simp [zpow_neg]

/-! ## Finite doubles -/

namespace FiniteDouble

/-- The exact value of a finite double. -/
def value (x : FiniteDouble) : ℚ := x.signed * (2 : ℚ) ^ x.exponent

theorem fraction_den_pos (x : FiniteDouble) : 0 < x.fraction.2 := by
  unfold fraction
  split
  · exact Nat.one_pos
  · exact Nat.two_pow_pos _

theorem value_eq_fraction (x : FiniteDouble) : x.value = (x.fraction.1 : ℚ) / x.fraction.2 := by
  have hpow := zpow_eq_div 2 x.exponent
  rw [Nat.cast_ofNat] at hpow
  unfold value fraction
  rw [hpow]
  split
  · rename_i h
    rw [Int.toNat_of_nonpos (neg_nonpos.2 h)]
    simp
  · rename_i h
    rw [Int.toNat_of_nonpos (not_le.1 h).le]
    simp [div_eq_mul_inv]

theorem abs_signed (x : FiniteDouble) : |(x.signed : ℚ)| = x.mantissa := by
  unfold signed
  split <;> simp

/-- The largest finite double is `(2 ^ 53 - 1) · 2 ^ 971`. -/
theorem abs_value_le (x : FiniteDouble) : |x.value| ≤ (2 ^ 53 - 1) * (2 : ℚ) ^ (971 : Int) := by
  obtain ⟨hm, -, he, -⟩ := x.canonical
  have hm' : (x.mantissa : ℚ) ≤ 2 ^ 53 - 1 := by
    have : ((x.mantissa + 1 : Nat) : ℚ) ≤ (2 ^ 53 : Nat) := by exact_mod_cast hm
    push_cast at this
    linarith
  have he' : (2 : ℚ) ^ x.exponent ≤ 2 ^ (971 : Int) := zpow_le_zpow_right₀ one_le_two he
  have hp : (0 : ℚ) < 2 ^ x.exponent := by positivity
  unfold value
  rw [abs_mul, abs_signed, abs_of_pos hp]
  exact mul_le_mul hm' he' hp.le (by norm_num)

theorem toInt?_eq_some_iff (x : FiniteDouble) (n : Int) : x.toInt? = some n ↔ x.value = n := by
  have hd : (0 : ℚ) < x.fraction.2 := by exact_mod_cast x.fraction_den_pos
  have hd' : (x.fraction.2 : Int) ≠ 0 := by have := x.fraction_den_pos; omega
  rw [value_eq_fraction, div_eq_iff hd.ne']
  unfold toInt?
  simp only
  constructor
  · intro h
    split at h
    · rename_i h0
      cases h
      have := Int.ediv_mul_cancel (Int.dvd_of_emod_eq_zero h0)
      exact_mod_cast this.symm
    · cases h
  · intro h
    have h' : x.fraction.1 = n * (x.fraction.2 : Int) := by exact_mod_cast h
    rw [h', if_pos (Int.mul_emod_left _ _), Int.mul_ediv_cancel _ hd']

/-- An integer that is a finite double rounds to one. -/
theorem roundsToFinite_of_toInt? {x : FiniteDouble} {n : Int} (h : x.toInt? = some n) :
    roundsToFinite n = true := by
  have hv := x.abs_value_le
  have hn : |x.value| = n.natAbs := by rw [(x.toInt?_eq_some_iff n).1 h, Nat.cast_natAbs, Int.cast_abs]
  have hb : (2 ^ 53 - 1) * (2 : ℚ) ^ (971 : Int) = (((2 ^ 53 - 1) * 2 ^ 971 : Nat) : ℚ) := by
    rw [Nat.cast_mul, Nat.cast_pow, Nat.cast_ofNat, ← zpow_natCast]
    norm_num
  rw [hn, hb, Nat.cast_le] at hv
  have hlt : (2 ^ 53 - 1) * 2 ^ 971 < integerLimit := by decide +kernel
  exact decide_eq_true (lt_of_le_of_lt hv hlt)

end FiniteDouble

/-! ## Quantities -/

namespace Quantity

/-- The exact value of a quantity. -/
def value : Quantity → ℚ
  | whole n => n
  | binary x => x.value

theorem fraction_den_pos : ∀ q : Quantity, 0 < q.fraction.2
  | whole _ => Nat.one_pos
  | binary x => x.fraction_den_pos

theorem value_eq_fraction : ∀ q : Quantity, q.value = (q.fraction.1 : ℚ) / q.fraction.2
  | whole n => by simp [value, fraction]
  | binary x => x.value_eq_fraction

theorem le_iff (a b : Quantity) : a.le b = true ↔ a.value ≤ b.value := by
  have ha : (0 : ℚ) < a.fraction.2 := by exact_mod_cast a.fraction_den_pos
  have hb : (0 : ℚ) < b.fraction.2 := by exact_mod_cast b.fraction_den_pos
  rw [value_eq_fraction a, value_eq_fraction b, div_le_div_iff₀ ha hb]
  unfold le
  rw [decide_eq_true_eq]
  exact_mod_cast Iff.rfl

theorem isPositive_iff (q : Quantity) : q.isPositive = true ↔ 0 < q.value := by
  have hq : (0 : ℚ) < q.fraction.2 := by exact_mod_cast q.fraction_den_pos
  rw [value_eq_fraction, div_pos_iff_of_pos_right hq]
  unfold isPositive
  rw [decide_eq_true_eq]
  exact_mod_cast Iff.rfl

theorem toInt?_eq_some_iff : ∀ (q : Quantity) (n : Int), q.toInt? = some n ↔ q.value = n
  | whole m, n => by simp [toInt?, value]
  | binary x, n => x.toInt?_eq_some_iff n

end Quantity

/-! ## Integers as doubles -/

namespace Double

theorem ofParts_isFinite_iff (negative : Bool) (m : Nat) (e : Int) :
    (ofParts negative m e).isFinite = true ↔ CanonicalDouble m e := by
  unfold ofParts
  split
  · rename_i h; exact ⟨fun _ => h, fun _ => rfl⟩
  · rename_i h; exact ⟨nofun, fun hc => absurd hc h⟩

/-- The grid of an integer is set by its highest bit. -/
theorem gridExponent_one {n : Nat} (h : n ≠ 0) : gridExponent n 1 = (n.log2 : Int) - 52 := by
  have hlo := Nat.log2_self_le h
  unfold gridExponent
  simp only [show Nat.log2 1 = 0 from rfl, Nat.cast_zero, sub_zero, one_mul]
  rw [if_pos]
  · omega
  · split
    · rename_i he
      rw [mul_one]
      calc 2 ^ 53 = 2 ^ n.log2 * 2 ^ (-((n.log2 : Int) - 53)).toNat := by rw [← pow_add]; congr 1; omega
        _ ≤ n * 2 ^ (-((n.log2 : Int) - 53)).toNat := Nat.mul_le_mul_right _ hlo
    · rename_i he
      rw [← pow_add, show 53 + ((n.log2 : Int) - 53).toNat = n.log2 by omega]
      exact hlo

theorem roundedMantissa_of_neg {e : Int} (n : Nat) (he : e < 0) :
    roundedMantissa n 1 e = n * 2 ^ (-e).toNat := by
  unfold roundedMantissa
  simp only [if_pos he, Nat.div_one, Nat.mod_one]
  exact if_neg (by omega)

theorem roundedMantissa_of_nonneg {e : Int} (n : Nat) (he : 0 ≤ e) :
    roundedMantissa n 1 e =
      if 2 ^ e.toNat < 2 * (n % 2 ^ e.toNat) ∨ 2 * (n % 2 ^ e.toNat) = 2 ^ e.toNat ∧ n / 2 ^ e.toNat % 2 = 1
      then n / 2 ^ e.toNat + 1 else n / 2 ^ e.toNat := by
  unfold roundedMantissa
  simp only [if_neg (not_lt.2 he), one_mul]

/-- On its grid an integer has 53 bits, or it is rounded up to the next power of two. -/
theorem roundedMantissa_bounds {n : Nat} (h : n ≠ 0) :
    2 ^ 52 ≤ roundedMantissa n 1 ((n.log2 : Int) - 52) ∧ roundedMantissa n 1 ((n.log2 : Int) - 52) ≤ 2 ^ 53 := by
  have hlo := Nat.log2_self_le h
  have hhi := Nat.lt_log2_self (n := n)
  by_cases he : (n.log2 : Int) - 52 < 0
  · rw [roundedMantissa_of_neg n he]
    have hk : n.log2 + (-((n.log2 : Int) - 52)).toNat = 52 := by omega
    constructor
    · rw [← hk, pow_add]
      exact Nat.mul_le_mul_right _ hlo
    · rw [show 53 = n.log2 + 1 + (-((n.log2 : Int) - 52)).toNat by omega, pow_add]
      exact Nat.mul_le_mul_right _ hhi.le
  · rw [roundedMantissa_of_nonneg n (not_lt.1 he)]
    have hk : 52 + ((n.log2 : Int) - 52).toNat = n.log2 := by omega
    have hpos : 0 < 2 ^ ((n.log2 : Int) - 52).toNat := Nat.two_pow_pos _
    have h1 : 2 ^ 52 ≤ n / 2 ^ ((n.log2 : Int) - 52).toNat := by
      rw [Nat.le_div_iff_mul_le hpos, ← pow_add, hk]
      exact hlo
    have h2 : n / 2 ^ ((n.log2 : Int) - 52).toNat < 2 ^ 53 := by
      rw [Nat.div_lt_iff_lt_mul hpos, ← pow_add, show 53 + ((n.log2 : Int) - 52).toNat = n.log2 + 1 by omega]
      exact hhi
    split <;> omega

/-- Rounded to units of `d`, a number below the even count `k + 1` of units is rounded up to that count
from half a unit below it. -/
theorem halfEven_top {n d k limit : Nat} (hd : 0 < d) (hk : k % 2 = 1) (hn : n < k * d + d)
    (hl : 2 * limit = 2 * (k * d) + d) :
    (if d < 2 * (n % d) ∨ 2 * (n % d) = d ∧ n / d % 2 = 1 then n / d + 1 else n / d) = k + 1 ↔ limit ≤ n := by
  have hq : n / d < k + 1 := (Nat.div_lt_iff_lt_mul hd).2 (by rwa [Nat.succ_mul])
  have hdiv := Nat.div_add_mod' n d
  have hr := Nat.mod_lt n hd
  generalize n / d = q at *
  generalize n % d = r at *
  constructor
  · intro hm
    have hup : (d < 2 * r ∨ 2 * r = d ∧ q % 2 = 1) ∧ q = k := by
      split at hm
      · rename_i h; exact ⟨h, by omega⟩
      · omega
    obtain ⟨h, rfl⟩ := hup
    omega
  · intro hge
    -- with fewer whole units the number lies below the limit, whatever is left over
    have hkq : q = k := by
      by_contra hne
      have : (q + 1) * d ≤ k * d := Nat.mul_le_mul_right _ (by omega)
      rw [Nat.succ_mul] at this
      omega
    subst hkq
    rw [if_pos (by omega)]

/-- In the highest binade an integer is rounded out of the format from the limit on. -/
theorem roundedMantissa_top {n : Nat} (hl : n.log2 = 1023) : roundedMantissa n 1 971 = 2 ^ 53 ↔ integerLimit ≤ n := by
  have hhi : n < (2 ^ 53 - 1) * 2 ^ 971 + 2 ^ 971 := by
    rw [show (2 ^ 53 - 1) * 2 ^ 971 + 2 ^ 971 = 2 ^ (1023 + 1) by decide +kernel, ← hl]
    exact Nat.lt_log2_self
  have hlim : 2 * integerLimit = 2 * ((2 ^ 53 - 1) * 2 ^ 971) + 2 ^ 971 := by decide +kernel
  rw [roundedMantissa_of_nonneg n (by norm_num), show (971 : Int).toNat = 971 from rfl,
    show (2 ^ 53 : Nat) = 2 ^ 53 - 1 + 1 by norm_num]
  have hd : 0 < 2 ^ 971 := by positivity
  exact halfEven_top hd (by norm_num) hhi hlim

/-- A mantissa that is rounded up to the next power of two goes one binade up; that is an infinity exactly
in the highest binade. -/
theorem carried_isFinite_iff (negative : Bool) {m : Nat} {e : Int} (hlo : 2 ^ 52 ≤ m) (hhi : m ≤ 2 ^ 53)
    (he : -1074 ≤ e) :
    (if m = 2 ^ 53 then ofParts negative (2 ^ 52) (e + 1) else ofParts negative m e).isFinite = true ↔
      e < 971 ∨ e = 971 ∧ m ≠ 2 ^ 53 := by
  split
  · rename_i hm
    rw [ofParts_isFinite_iff]
    constructor
    · rintro ⟨-, -, htop, -⟩
      exact .inl (by omega)
    · intro h
      exact ⟨by norm_num, by omega, by omega, .inl le_rfl⟩
  · rename_i hm
    rw [ofParts_isFinite_iff]
    constructor
    · rintro ⟨-, -, htop, -⟩
      omega
    · intro h
      exact ⟨by omega, he, by omega, .inl hlo⟩

end Double

/-- The limit of the integers that round to a finite double is the one that rounding sets. -/
theorem roundsToFinite_iff (n : Int) : roundsToFinite n = true ↔ (Double.ofInt n).isFinite = true := by
  unfold roundsToFinite Double.ofInt Double.round
  rw [decide_eq_true_eq]
  generalize decide (n < 0) = negative
  generalize n.natAbs = k
  by_cases hk : k = 0
  · rw [if_pos hk, hk]
    exact ⟨fun _ => rfl, fun _ => by decide +kernel⟩
  rw [if_neg hk]
  simp only [Double.gridExponent_one hk]
  obtain ⟨hlo, hhi⟩ := Double.roundedMantissa_bounds hk
  rw [Double.carried_isFinite_iff negative hlo hhi (by omega)]
  have hself := Nat.log2_self_le hk
  have hlt := Nat.lt_log2_self (n := k)
  have hlim : 2 ^ 1023 ≤ integerLimit ∧ integerLimit ≤ 2 ^ 1024 := by decide +kernel
  -- the limit lies in the highest binade, so only there the mantissa decides
  rcases lt_trichotomy k.log2 1023 with hl | hl | hl
  · have hpow : 2 ^ (k.log2 + 1) ≤ 2 ^ 1023 := pow_le_pow_right₀ one_le_two hl
    exact ⟨fun _ => .inl (by omega), fun _ => by omega⟩
  · have htop := Double.roundedMantissa_top hl
    rw [hl, show ((1023 : Nat) : Int) - 52 = 971 by norm_num, ← not_le, ← htop]
    simp
  · have hpow : 2 ^ 1024 ≤ 2 ^ k.log2 := pow_le_pow_right₀ one_le_two hl
    exact ⟨fun h => by omega, fun h => by omega⟩

end WebForm
