/-
Finite numbers as authors and submitters write them: an integer of any size or a finite double.
The two kinds are told apart in what is printed and compared by their exact value.
-/
import WebForm.Number.Shortest

namespace WebForm

/-- A finite number: an integer, or a finite double. -/
inductive Quantity where
  | whole (n : Int)
  | binary (x : FiniteDouble)
deriving DecidableEq

namespace Quantity

/-- The exact value as a numerator and a positive denominator. -/
def fraction : Quantity → Int × Nat
  | whole n => (n, 1)
  | binary x => x.fraction

/-- Comparison of the exact values. -/
def le (a b : Quantity) : Bool := a.fraction.1 * b.fraction.2 ≤ b.fraction.1 * a.fraction.2

/-- Strict comparison of the exact values. -/
def lt (a b : Quantity) : Bool := a.fraction.1 * b.fraction.2 < b.fraction.1 * a.fraction.2

def text : Quantity → String
  | whole n => toString n
  | binary x => x.text

/-- The value denoted by the decimal text of a number, as a numerator and a positive denominator. -/
def decimalFraction : Quantity → Int × Nat
  | whole n => (n, 1)
  | binary x =>
    let (num, den) := x.shortest.fraction
    (if x.negative then -(num : Int) else num, den)

/-- Whether `a` is an integer multiple of `step`, both read as the decimals that are printed for
them, so that `0.3` is a multiple of `0.1`. -/
def isMultipleOf (a step : Quantity) : Bool :=
  let (n, d) := a.decimalFraction
  let (p, q) := step.decimalFraction
  (n * q) % (d * p) = 0

/-- Whether a number is zero, of either sign. -/
def isZero (a : Quantity) : Bool := a.fraction.1 = 0

/-- Whether a number lies above zero. -/
def isPositive (a : Quantity) : Bool := 0 < a.fraction.1

/-- Whether a number lies below zero. -/
def isNegative (a : Quantity) : Bool := a.fraction.1 < 0

/-- The integer that a number equals, if it equals one. -/
def toInt? : Quantity → Option Int
  | whole n => some n
  | binary x => x.toInt?

end Quantity

end WebForm
