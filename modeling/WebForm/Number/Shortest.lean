/-
The shortest decimal of a double: the fewest digits that still round to it, and of those the
decimal nearest to its exact value. All comparisons are made between naturals.
-/
import WebForm.Number.Double

namespace WebForm

attribute [local instance] naturalPower

/-! ## The decimal -/

/-- A positive decimal `digits · 10^exponent`. -/
structure Decimal where
  digits : Nat
  exponent : Int
deriving DecidableEq, Repr

namespace Decimal

/-- `digits · 10^exponent` as a numerator and a positive denominator. -/
def fraction (d : Decimal) : Nat × Nat :=
  if 0 ≤ d.exponent then (d.digits * 10 ^ d.exponent.toNat, 1) else (d.digits, 10 ^ (-d.exponent).toNat)

/-- The same decimal without zeros at the end of its digits; `fuel` bounds their number. -/
def trimmed : Nat → Decimal → Decimal
  | 0, d => d
  | fuel + 1, d => if d.digits ≠ 0 ∧ d.digits % 10 = 0 then trimmed fuel ⟨d.digits / 10, d.exponent + 1⟩ else d

end Decimal

/-- The number of decimal digits of a natural; zero has one. -/
def decimalLength (n : Nat) : Nat := (Nat.toDigits 10 n).length

/-- The `p` with `10^(p-1) ≤ num / den < 10^p`, for a positive fraction. -/
def decimalPoint (num den : Nat) : Int :=
  if den ≤ num then decimalLength (num / den) else 1 - (decimalLength ((den - 1) / num) : Int)

namespace FiniteDouble

/-! ## The interval that rounds to a double -/

/-- `n · 2^exponent` as a numerator and a positive denominator. -/
def scaled (n : Nat) (exponent : Int) : Nat × Nat :=
  if 0 ≤ exponent then (n * 2 ^ exponent.toNat, 1) else (n, 2 ^ (-exponent).toNat)

/-- The lower end of the interval, in quarters of a unit of the mantissa: half a unit below, or a
quarter where the numbers below are twice as dense. -/
def lowerQuarters (x : FiniteDouble) : Nat :=
  4 * x.mantissa - (if x.mantissa = 2 ^ (52 : Nat) ∧ x.exponent ≠ -1074 then 1 else 2)

/-- The upper end of the interval, in quarters of a unit of the mantissa. -/
def upperQuarters (x : FiniteDouble) : Nat := 4 * x.mantissa + 2

/-- Whether a decimal lies in the interval that rounds to the magnitude of `x`; the ends belong to
it exactly if the mantissa is even. -/
def contains (x : FiniteDouble) (d : Decimal) : Bool :=
  let (num, den) := d.fraction
  let (lo, loDen) := scaled x.lowerQuarters (x.exponent - 2)
  let (hi, hiDen) := scaled x.upperQuarters (x.exponent - 2)
  if x.mantissa % 2 = 0 then lo * den ≤ num * loDen ∧ num * hiDen ≤ hi * den
  else lo * den < num * loDen ∧ num * hiDen < hi * den

/-! ## The search -/

/-- The decimal of `count` digits in the interval that is nearest to `x`, an exact tie going to the
even digit: one of the two neighbours of `x` on the grid of that many digits. -/
def decimalOf? (x : FiniteDouble) (count : Nat) : Option Decimal :=
  let (num, den) := scaled x.mantissa x.exponent
  let grid : Int := decimalPoint num den - count
  let n := if grid < 0 then num * 10 ^ (-grid).toNat else num
  let d := if grid < 0 then den else den * 10 ^ grid.toNat
  let below : Decimal := ⟨n / d, grid⟩
  let above : Decimal := ⟨n / d + 1, grid⟩
  let rest := n % d
  let aboveNearer : Bool := d < 2 * rest ∨ (2 * rest = d ∧ (n / d) % 2 = 1)
  match x.contains below, x.contains above with
  | true, true => some (if aboveNearer then above else below)
  | true, false => some below
  | false, true => some above
  | false, false => none

/-- The shortest decimal that rounds to the magnitude of `x`; seventeen digits are always enough. -/
def shortest (x : FiniteDouble) : Decimal :=
  if x.mantissa = 0 then ⟨0, 0⟩
  else
    match (List.range' 1 17).findSome? x.decimalOf? with
    | some d => d.trimmed 17
    | none => ⟨x.mantissa, x.exponent⟩

/-! ## Its text -/

/-- The text of the decimal with the given digits, of which `point` stand before the point: positional
from `0.0001` up to sixteen digits before the point, else with an exponent of at least two digits. -/
def layout (digits : String) (point : Int) : String :=
  let n : Int := digits.length
  if -4 < point ∧ point ≤ 16 then
    if point ≤ 0 then "0." ++ String.ofList (List.replicate (-point).toNat '0') ++ digits
    else if n ≤ point then digits ++ String.ofList (List.replicate (point - n).toNat '0') ++ ".0"
    else String.ofList (digits.toList.take point.toNat) ++ "." ++ String.ofList (digits.toList.drop point.toNat)
  else
    let e := point - 1
    let tail := if n ≤ 1 then "" else "." ++ String.ofList (digits.toList.drop 1)
    let size := toString e.natAbs
    String.ofList (digits.toList.take 1) ++ tail ++ (if e < 0 then "e-" else "e+")
      ++ (if size.length < 2 then "0" ++ size else size)

/-- The text of a finite double: its shortest decimal, with at least one digit after the point. -/
def text (x : FiniteDouble) : String :=
  let sign := if x.negative then "-" else ""
  if x.mantissa = 0 then sign ++ "0.0"
  else
    let d := x.shortest
    sign ++ layout (toString d.digits) (d.exponent + decimalLength d.digits)

end FiniteDouble

def Double.text : Double → String
  | .nan => "nan"
  | .infinity false => "inf"
  | .infinity true => "-inf"
  | .finite x => x.text

end WebForm
