/-
Numbers submitted as text. A numeral is an unsigned literal in base two, eight or sixteen, or an
optionally signed decimal with optional fraction and exponent; blanks around it do not count. Its
number is exact for the first kind and the nearest double for the second, an integer where that
double is one.
-/
import WebForm.Number.Quantity
import WebForm.Text.Blank

namespace WebForm

/-! ## Digits -/

/-- The value of a hexadecimal digit. -/
def hexDigit? (c : Char) : Option Nat :=
  if '0' ≤ c ∧ c ≤ '9' then some (c.toNat - 48)
  else if 'a' ≤ c ∧ c ≤ 'f' then some (c.toNat - 87)
  else if 'A' ≤ c ∧ c ≤ 'F' then some (c.toNat - 55)
  else none

/-- The value of a digit in a base of at most sixteen. -/
def digit? (base : Nat) (c : Char) : Option Nat := (hexDigit? c).filter (· < base)

/-- Whether a character is one of `0` to `9`. -/
def isDecimalDigit (c : Char) : Bool := '0' ≤ c && c ≤ '9'

/-- The natural that digits denote in a base; characters that are not digits count as zero. -/
def ofDigits (base : Nat) (ds : List Char) : Nat :=
  ds.foldl (fun n c => n * base + (digit? base c).getD 0) 0

/-! ## Numerals -/

/-- The parts of a decimal numeral: sign, digits before and after the point, exponent. -/
structure DecimalNumeral where
  negative : Bool
  whole : List Char
  fractional : List Char
  exponent : Int

namespace DecimalNumeral

/-- The double nearest to a decimal numeral. -/
def toDouble (d : DecimalNumeral) : Double :=
  .ofDecimal d.negative (ofDigits 10 (d.whole ++ d.fractional)) (d.exponent - d.fractional.length)

def sign : List Char → Bool × List Char
  | '-' :: r => (true, r)
  | '+' :: r => (false, r)
  | r => (false, r)

/-- Reads the exponent that may end a numeral: nothing, or `e` with an optional sign and digits. -/
def exponent? : List Char → Option Int
  | [] => some 0
  | c :: r =>
    let (neg, ds) := sign r
    if (c = 'e' ∨ c = 'E') ∧ ds ≠ [] ∧ ds.all isDecimalDigit then
      some (if neg then -(ofDigits 10 ds : Int) else ofDigits 10 ds)
    else none

/-- Reads a text as a decimal numeral: digits with an optional point among or after them, or a point
before them. -/
def ofText? (s : List Char) : Option DecimalNumeral :=
  let (negative, r) := sign s
  let whole := r.takeWhile isDecimalDigit
  let r := r.dropWhile isDecimalDigit
  let (fractional, r) := match r with
    | '.' :: r => (r.takeWhile isDecimalDigit, r.dropWhile isDecimalDigit)
    | r => ([], r)
  if whole = [] ∧ fractional = [] then none
  else (exponent? r).map fun e => ⟨negative, whole, fractional, e⟩

end DecimalNumeral

/-- The base that a letter after a leading zero announces. -/
def radixOf? (c : Char) : Option Nat :=
  if c = 'x' ∨ c = 'X' then some 16 else if c = 'o' ∨ c = 'O' then some 8
  else if c = 'b' ∨ c = 'B' then some 2 else none

/-- Reads a text as a literal in base two, eight or sixteen. -/
def radixLiteral? : List Char → Option Nat
  | '0' :: c :: ds =>
    match radixOf? c with
    | some base => if ds ≠ [] ∧ ds.all (fun d => (digit? base d).isSome) then some (ofDigits base ds) else none
    | none => none
  | _ => none

/-- A finite double as a quantity: the integer it equals, else itself. -/
def FiniteDouble.toQuantity (x : FiniteDouble) : Quantity :=
  match x.toInt? with
  | some n => .whole n
  | none => .binary x

/-- The number that a submitted text denotes; none if the text is no numeral or its number is not
finite as a double. -/
def Quantity.ofText? (s : String) : Option Quantity :=
  let t := trimBlank s.toList
  match radixLiteral? t with
  | some n => if roundsToFinite n then some (.whole n) else none
  | none =>
    match (DecimalNumeral.ofText? t).map DecimalNumeral.toDouble with
    | some (.finite x) => some x.toQuantity
    | _ => none

end WebForm
