/-
What scalars mean. A plain scalar has the type that its form says, or is a text; `Tag.valueOf` gives
the value of a scalar of a type, also where a tag and not the form says which.
-/
import WebForm.Value
import WebForm.Yaml.Failure
import WebForm.Number.Numeral
import WebForm.Text.Alphabet
import WebForm.Text.Blank

namespace WebForm.Yaml

/-! ## Types -/

/-- The types of nodes. -/
inductive Tag where
  | null
  | bool
  | int
  | float
  | timestamp
  | text
  | sequence
  | mapping
  | merge
  | default
  | other (name : String)
deriving DecidableEq

/-- What the names of the common types start with. -/
def Tag.namespace : String := "tag:yaml.org,2002:"

def Tag.ofName (name : String) : Tag :=
  let known := [("null", null), ("bool", bool), ("int", int), ("float", float), ("timestamp", timestamp),
    ("str", text), ("seq", sequence), ("map", mapping), ("merge", merge), ("value", default)]
  ((known.find? fun (short, _) => Tag.namespace ++ short == name).map (·.2)).getD (other name)

/-! ## Forms of plain scalars -/

/-- Text without a sign in front. -/
def unsigned : List Char → List Char
  | '+' :: rest => rest
  | '-' :: rest => rest
  | cs => cs

/-- Whether there is a character and all satisfy `p`. -/
def allOf (p : Char → Bool) (cs : List Char) : Bool := !cs.isEmpty && cs.all p

/-- A digit or a low line, which may stand among digits. -/
def isLooseDigit (c : Char) : Bool := isDecimalDigit c || c == '_'

/-- Digits, the first of which is none of the low lines that may stand among them. -/
def isLooseNatural (cs : List Char) : Bool := cs.head?.any isDecimalDigit && cs.all isLooseDigit

/-- The parts of a text between colons. -/
def splitColons : List Char → List (List Char)
  | [] => [[]]
  | c :: rest =>
    if c = ':' then [] :: splitColons rest
    else match splitColons rest with
      | part :: parts => (c :: part) :: parts
      | [] => [[c]]

/-- Whether a text is a number below sixty. -/
def isSixtieth : List Char → Bool
  | [a] => isDecimalDigit a
  | [a, b] => '0' ≤ a && a ≤ '5' && isDecimalDigit b
  | _ => false

/-- Whether a text has the form of an integer: in base two, eight, ten or sixteen, or in base sixty
with colons. -/
def isIntForm (cs : List Char) : Bool :=
  match unsigned cs with
  | '0' :: 'b' :: ds => allOf (fun c => c == '0' || c == '1' || c == '_') ds
  | '0' :: 'x' :: ds => allOf (fun c => (hexDigit? c).isSome || c == '_') ds
  | ['0'] => true
  | '0' :: ds => ds.all fun c => ('0' ≤ c && c ≤ '7') || c == '_'
  | ds =>
    match splitColons ds with
    | first :: more => isLooseNatural first && first.head? != some '0' && more.all isSixtieth
    | [] => false

/-- Whether a text is nothing or an exponent with a sign. -/
def isExponentForm : List Char → Bool
  | [] => true
  | e :: sign :: ds => (e == 'e' || e == 'E') && (sign == '+' || sign == '-') && allOf isDecimalDigit ds
  | _ => false

/-- Whether a text has the form of a number with a point, where colons separate digits in base sixty. -/
def isFloatForm (cs : List Char) : Bool :=
  let ds := unsigned cs
  let whole := ds.takeWhile fun c => c != '.'
  match ds.dropWhile fun c => c != '.' with
  | '.' :: rest =>
    let tail := rest.dropWhile isLooseDigit
    if whole = [] then
      ["inf", "Inf", "INF"].contains (String.ofList rest)
        || (cs.head? == some '.'
          && (["nan", "NaN", "NAN"].contains (String.ofList rest)
            || (rest.head?.any isDecimalDigit && isExponentForm tail)))
    else match splitColons whole with
      | [first] => isLooseNatural first && isExponentForm tail
      | first :: more => isLooseNatural first && more.all isSixtieth && tail = []
      | [] => false
  | _ => false

/-- The spellings of truth values. -/
def truths : List (String × Bool) :=
  [("yes", true), ("no", false), ("true", true), ("false", false), ("on", true), ("off", false)]

/-- A word in its three spellings: small, capitalized and in capitals. -/
def spellings (word : String) : List String := [word, word.capitalize, word.toUpper]

/-- Whether a text is one of the spellings of a truth value. -/
def isBoolForm (s : String) : Bool := truths.any fun (word, _) => (spellings word).contains s

/-- Whether a text is one of the spellings of nothing. -/
def isNullForm (s : String) : Bool := s == "" || s == "~" || (spellings "null").contains s

/-! ## Dates and times -/

/-- The parts of a date with an optional time. -/
structure Stamp where
  year : List Char
  month : List Char
  day : List Char
  /-- Hour, minute, second, digits of the fraction, and the sign, hour and minute of the zone. -/
  time : Option (List Char × List Char × List Char × List Char × Option (Char × List Char × List Char))

/-- Reads between `least` and `most` digits. -/
def takeDigits? (least most : Nat) (cs : List Char) : Option (List Char × List Char) :=
  let ds := (cs.take most).takeWhile isDecimalDigit
  if least ≤ ds.length then some (ds, cs.drop ds.length) else none

def after? (c : Char) : List Char → Option (List Char)
  | x :: rest => if x = c then some rest else none
  | [] => none

/-- Reads the zone at the end of a time: none, `Z`, or an offset. -/
def zone? (cs : List Char) : Option (Option (Char × List Char × List Char)) :=
  match cs, cs.dropWhile (fun c => c == ' ' || c == '\t') with
  | [], _ => some none
  | _, ['Z'] => some (some ('Z', [], []))
  | _, sign :: rest => do
    if sign ≠ '+' ∧ sign ≠ '-' then none
    let (hour, rest) ← takeDigits? 1 2 rest
    match rest with
    | [] => return some (sign, hour, [])
    | rest => do
      let (minute, rest) ← takeDigits? 2 2 (← after? ':' rest)
      if rest = [] then return some (sign, hour, minute) else none
  | _, [] => none

/-- Reads what follows a date: nothing, or a time. -/
def time? (cs : List Char) :
    Option (List Char × List Char × List Char × List Char × Option (Char × List Char × List Char)) := do
  let cs ← match cs with
    | 'T' :: rest => some rest
    | 't' :: rest => some rest
    | c :: rest =>
      if c = ' ' ∨ c = '\t' then some (rest.dropWhile fun c => c == ' ' || c == '\t') else none
    | [] => none
  let (hour, cs) ← takeDigits? 1 2 cs
  let (minute, cs) ← takeDigits? 2 2 (← after? ':' cs)
  let (second, cs) ← takeDigits? 2 2 (← after? ':' cs)
  let (fraction, cs) := match cs with
    | '.' :: rest => (rest.takeWhile isDecimalDigit, rest.dropWhile isDecimalDigit)
    | _ => ([], cs)
  return (hour, minute, second, fraction, ← zone? cs)

/-- Reads a date with an optional time. -/
def Stamp.ofText? (cs : List Char) : Option Stamp := do
  let (year, cs) ← takeDigits? 4 4 cs
  let (month, cs) ← takeDigits? 1 2 (← after? '-' cs)
  let (day, cs) ← takeDigits? 1 2 (← after? '-' cs)
  if cs = [] then return ⟨year, month, day, none⟩ else return ⟨year, month, day, some (← time? cs)⟩

/-- Whether a text has the form of a date: one without a time has two digits for month and day. -/
def isStampForm (cs : List Char) : Bool :=
  match Stamp.ofText? cs with
  | some s => s.time.isSome || (s.month.length = 2 && s.day.length = 2)
  | none => false

/-- The number of days of a month. -/
def daysIn (year month : Nat) : Nat :=
  if month = 2 then (if year % 4 = 0 ∧ (year % 100 ≠ 0 ∨ year % 400 = 0) then 29 else 28)
  else if month = 4 ∨ month = 6 ∨ month = 9 ∨ month = 11 then 30
  else 31

def zoneText : Option (Char × List Char × List Char) → String
  | none => ""
  | some ('Z', _, _) => "+00:00"
  | some (sign, hour, minute) =>
    let total := 60 * ofDigits 10 hour + ofDigits 10 minute
    (if sign = '-' ∧ 0 < total then "-" else "+") ++ padded 2 (total / 60) ++ ":" ++ padded 2 (total % 60)

/-- The text of a fraction of a second: six digits, or nothing if all are zero. -/
def fractionText (digits : List Char) : String :=
  let micro := ofDigits 10 ((digits ++ List.replicate 6 '0').take 6)
  if micro = 0 then "" else "." ++ padded 6 micro

/-- The value of a date or of an instant that the calendar has. -/
def Stamp.value (s : Stamp) : Except Failure Scalar := do
  let year := ofDigits 10 s.year
  let month := ofDigits 10 s.month
  let day := ofDigits 10 s.day
  if year = 0 then throw (.year year)
  if month = 0 ∨ 12 < month then throw .month
  if day = 0 ∨ daysIn year month < day then throw .day
  match s.time with
  | none => return .date year month day
  | some (h, m, sec, fraction, zone) =>
    let hour := ofDigits 10 h
    let minute := ofDigits 10 m
    let second := ofDigits 10 sec
    if 23 < hour then throw .hour
    if 59 < minute then throw .minute
    if 59 < second then throw .second
    return .instant (isoDate year month day ++ " " ++ padded 2 hour ++ ":" ++ padded 2 minute
      ++ ":" ++ padded 2 second ++ fractionText fraction ++ zoneText zone)

/-! ## Values -/

/-- The type that the form of a plain scalar says. -/
def Tag.ofForm (s : String) : Tag :=
  let cs := s.toList
  if isBoolForm s then .bool
  else if isFloatForm cs then .float
  else if isIntForm cs then .int
  else if s = "<<" then .merge
  else if isNullForm s then .null
  else if isStampForm cs then .timestamp
  else if s = "=" then .default
  else .text

def withoutLowLines (s : String) : List Char := s.toList.filter (· ≠ '_')

/-- Reads a sign: whether the number lies below zero, and its digits. -/
def signed (cs : List Char) : Bool × List Char := (cs.head? == some '-', unsigned cs)

/-- Reads a natural in a base, with blanks around it. -/
def natural (base : Nat) (cs : List Char) : Except Failure Int :=
  let trimmed := ((cs.dropWhile isSpace).reverse.dropWhile isSpace).reverse
  let (negative, ds) := signed trimmed
  if allOf (fun c => (digit? base c).isSome) ds then
    .ok (if negative then -(ofDigits base ds : Int) else ofDigits base ds)
  else .error (.integer (String.ofList cs) base)

/-- The number that parts in base sixty denote, the last part counting ones. -/
def sexagesimal (parts : List Int) : Int := parts.foldl (fun n part => 60 * n + part) 0

/-- The integer that a scalar denotes. -/
def integer (s : String) : Except Failure Int := do
  let cs := withoutLowLines s
  if cs = [] then throw .emptyNumber
  let (negative, ds) := signed cs
  let n ← match ds with
    | [] => throw .emptyNumber
    | ['0'] => pure 0
    | '0' :: 'b' :: ds => natural 2 ds
    | '0' :: 'x' :: ds => natural 16 ds
    | '0' :: ds => natural 8 ('0' :: ds)
    | ds => if ds.contains ':' then (splitColons ds).mapM (natural 10) |>.map sexagesimal else natural 10 ds
  return if negative then -n else n

/-- Reads a number with an optional point and exponent, with blanks around it. -/
def floating (cs : List Char) : Except Failure Double :=
  let trimmed := ((cs.dropWhile isSpace).reverse.dropWhile isSpace).reverse
  let (negative, word) := signed trimmed
  if ["inf", "infinity"].contains (String.ofList word) then .ok (.infinity negative)
  else if word = "nan".toList then .ok .nan
  else match DecimalNumeral.ofText? trimmed with
    | some d => .ok d.toDouble
    | none => .error (.float (String.ofList cs))

/-- The double nearest to a fraction. -/
def nearest (num : Int) (den : Nat) : Double := .round (num < 0) num.natAbs den

/-- The double nearest to the sum of a double and the double nearest to `factor` times another. -/
def addScaled (sum x : Double) (factor : Nat) : Double :=
  match x, sum with
  | .finite x, .finite y =>
    let (p, q) := x.fraction
    match nearest (p * factor) q with
    | .finite z =>
      let (a, b) := y.fraction
      let (c, d) := z.fraction
      nearest (a * d + c * b) (b * d)
    | w => w
  | .finite _, w => w
  | w, _ => w

/-- The number that parts in base sixty denote, summed from the last part on. -/
def sexagesimalDouble (parts : List Double) : Double :=
  (parts.reverse.foldl (fun (sum, base) x => (addScaled sum x base, base * 60)) (Double.finite (.zero false), 1)).1

/-- The number of the other sign. -/
def negated : Double → Double
  | .nan => .nan
  | .infinity s => .infinity !s
  | .finite x => .finite { x with negative := !x.negative }

/-- The double that a scalar denotes. -/
def double (s : String) : Except Failure Double := do
  let cs := (withoutLowLines s).map fun c => Char.ofNat (lowerCode c.toNat)
  if cs = [] then throw .emptyNumber
  let (negative, ds) := signed cs
  let x ← if ds = ".inf".toList then pure (Double.infinity false)
    else if ds = ".nan".toList then pure Double.nan
    else if ds.contains ':' then (splitColons ds).mapM floating |>.map sexagesimalDouble
    else floating ds
  return if negative then negated x else x

/-- The truth value that a scalar denotes, in any mixture of cases. -/
def truth (s : String) : Except Failure Bool :=
  let lower := String.ofList (s.toList.map fun c => Char.ofNat (lowerCode c.toNat))
  match truths.find? (·.1 == lower) with
  | some (_, b) => .ok b
  | none => .error (.truth lower)

/-- The value of a scalar of a type. -/
def Tag.valueOf (t : Tag) (s : String) : Except Failure Scalar :=
  match t with
  | .null => .ok .null
  | .bool => (truth s).map .bool
  | .int => (integer s).map .int
  | .float => (double s).map .double
  | .timestamp => match Stamp.ofText? s.toList with
    | some stamp => stamp.value
    | none => .error .timestamp
  | .text => .ok (.text s)
  | _ => .error .malformed

end WebForm.Yaml
