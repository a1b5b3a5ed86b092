/-
Binary64 numbers by their exact value: not a number, an infinity, or `±m · 2^e` in the one
canonical form. `FiniteDouble.fraction` gives the exact fraction of a finite number,
`Double.round` the double nearest to a fraction of naturals.
-/

namespace WebForm

/-- Powers of naturals are those of the core library, whatever else is imported. -/
local instance naturalPower : Pow Nat Nat := instPowNat

/-- Powers of integers likewise. -/
local instance integerPower : Pow Int Nat := instPowNat

/-! ## Canonical form -/

/-- A finite double is written with a 53-bit mantissa and an exponent in the range of the format;
the mantissa uses its top bit unless the exponent is the smallest there is. -/
def CanonicalDouble (mantissa : Nat) (exponent : Int) : Prop :=
  mantissa < 2 ^ (53 : Nat) ∧ -1074 ≤ exponent ∧ exponent ≤ 971 ∧ (2 ^ (52 : Nat) ≤ mantissa ∨ exponent = -1074)

instance (mantissa : Nat) (exponent : Int) : Decidable (CanonicalDouble mantissa exponent) := by
  unfold CanonicalDouble; infer_instance

/-- A finite binary64 number, `±mantissa · 2^exponent`; both zeros are numbers of their own. -/
structure FiniteDouble where
  negative : Bool
  mantissa : Nat
  exponent : Int
  canonical : CanonicalDouble mantissa exponent
deriving DecidableEq

/-- A binary64 number. All the values that are not a number count as one. -/
inductive Double where
  | nan
  | infinity (negative : Bool)
  | finite (x : FiniteDouble)
deriving DecidableEq

instance : Inhabited FiniteDouble := ⟨⟨false, 0, -1074, by decide⟩⟩

namespace FiniteDouble

/-- Zero, with its sign. -/
def zero (negative : Bool) : FiniteDouble := ⟨negative, 0, -1074, by decide⟩

def signed (x : FiniteDouble) : Int := if x.negative then -(x.mantissa : Int) else x.mantissa

/-- The exact value as a numerator and a positive denominator. -/
def fraction (x : FiniteDouble) : Int × Nat :=
  if 0 ≤ x.exponent then (x.signed * 2 ^ x.exponent.toNat, 1) else (x.signed, 2 ^ (-x.exponent).toNat)

/-- The integer that a finite double equals, if it equals one. -/
def toInt? (x : FiniteDouble) : Option Int :=
  let (num, den) := x.fraction
  if num % (den : Int) = 0 then some (num / (den : Int)) else none

end FiniteDouble

/-! ## Rounding -/

namespace Double

/-- A mantissa and an exponent as a double; what does not fit the format is an infinity. -/
def ofParts (negative : Bool) (mantissa : Nat) (exponent : Int) : Double :=
  if h : CanonicalDouble mantissa exponent then .finite ⟨negative, mantissa, exponent, h⟩ else .infinity negative

/-- `num / den` in units of `2^exponent`, rounded to the nearest natural, a half to the even one. -/
def roundedMantissa (num den : Nat) (exponent : Int) : Nat :=
  let n := if exponent < 0 then num * 2 ^ (-exponent).toNat else num
  let d := if exponent < 0 then den else den * 2 ^ exponent.toNat
  let q := n / d
  let r := n % d
  if d < 2 * r ∨ (2 * r = d ∧ q % 2 = 1) then q + 1 else q

/-- The exponent at which the positive fraction `num / den` has a mantissa of 53 bits, or the
smallest exponent of the format if that is larger. -/
def gridExponent (num den : Nat) : Int :=
  let e : Int := (num.log2 : Int) - den.log2 - 53
  let n := if e < 0 then num * 2 ^ (-e).toNat else num
  let d := if e < 0 then den else den * 2 ^ e.toNat
  max (if 2 ^ (53 : Nat) * d ≤ n then e + 1 else e) (-1074)

/-- The double nearest to `±num / den` (for `den > 0`), a half going to the even neighbour and what
is too large to an infinity. -/
def round (negative : Bool) (num den : Nat) : Double :=
  if num = 0 then .finite (.zero negative)
  else
    let e := gridExponent num den
    let m := roundedMantissa num den e
    if m = 2 ^ (53 : Nat) then ofParts negative (2 ^ (52 : Nat)) (e + 1) else ofParts negative m e

/-- The double nearest to the decimal `±digits · 10^exponent`. Decimals that are far outside the
range of the format are settled without forming the power of ten. -/
def ofDecimal (negative : Bool) (digits : Nat) (exponent : Int) : Double :=
  if digits = 0 then .finite (.zero negative)
  else if 400 < exponent then .infinity negative
  else if exponent < 0 ∧ (digits.log2 : Int) + 1 + 3 * exponent < -1100 then .finite (.zero negative)
  else if 0 ≤ exponent then round negative (digits * 10 ^ exponent.toNat) 1
  else round negative digits (10 ^ (-exponent).toNat)

/-- Whether a number is neither an infinity nor not a number. -/
def isFinite : Double → Bool
  | .finite _ => true
  | _ => false

/-- The double nearest to an integer. -/
def ofInt (n : Int) : Double := round (n < 0) n.natAbs 1

end Double

/-- The integers of at least this size are rounded to an infinity: half a unit above the largest
finite double. -/
def integerLimit : Nat := 2 ^ (1024 : Nat) - 2 ^ (970 : Nat)

/-- Whether an integer rounds to a finite double. -/
def roundsToFinite (n : Int) : Bool := n.natAbs < integerLimit

end WebForm
