/-
Reading JSON text. The reader works on the characters that are left; a failure names its cause and
how many characters were left where it shows, from which `Failure.message` gives line and column.
Besides the grammar of JSON it takes the constants `NaN`, `Infinity` and `-Infinity`.

Three things end a reading apart from the grammar. An integer may have no more digits, and a list or an
object stand on no deeper level, than the bounds of the interpreter allow. And half of a surrogate pair,
which only an escape can bring in, is no character: the text it stands in is none of the texts of this
library. The reader goes on behind it, since what follows may still be malformed, but then gives no value.
-/
import WebForm.Json.Bounds
import WebForm.Value
import WebForm.Number.Numeral

namespace WebForm.Json

/-! ## Failures -/

/-- Why a text is not JSON. -/
inductive Cause where
  | value
  | propertyName
  | colon
  | comma
  | extraData
  | unterminatedString
  | controlCharacter
  | escape
  | unicodeEscape
  | byteOrderMark
deriving DecidableEq

def Cause.text : Cause → String
  | .value => "Expecting value"
  | .propertyName => "Expecting property name enclosed in double quotes"
  | .colon => "Expecting ':' delimiter"
  | .comma => "Expecting ',' delimiter"
  | .extraData => "Extra data"
  | .unterminatedString => "Unterminated string starting at"
  | .controlCharacter => "Invalid control character at"
  | .escape => "Invalid \\escape"
  | .unicodeEscape => "Invalid \\uXXXX escape"
  | .byteOrderMark => "Unexpected UTF-8 BOM (decode using utf-8-sig)"

/-- What ends a reading: a cause with the number of characters left where it shows, or a bound. -/
inductive Stop where
  | malformed (cause : Cause) (left : Nat)
  | exceeded (excess : Excess)
deriving DecidableEq

/-- A cause and the position where it shows. -/
structure Failure where
  cause : Cause
  line : Nat
  column : Nat
  position : Nat
deriving DecidableEq

/-- The failure at a position of a text; only a line feed ends a line. -/
def Failure.at (cause : Cause) (text : List Char) (position : Nat) : Failure :=
  let before := text.take position
  ⟨cause, before.count '\n' + 1, (before.reverse.takeWhile (· ≠ '\n')).length + 1, position⟩

def Failure.message (f : Failure) : String :=
  f.cause.text ++ ": line " ++ toString f.line ++ " column " ++ toString f.column
    ++ " (char " ++ toString f.position ++ ")"

/-! ## Blanks and constants -/

/-- The blanks between tokens. -/
def isBlank (c : Char) : Bool := c == ' ' || c == '\t' || c == '\n' || c == '\r'

def skipBlanks (cs : List Char) : List Char := cs.dropWhile isBlank

/-- The rest of `cs` after `word`, if it starts with it. -/
def after? : List Char → List Char → Option (List Char)
  | [], cs => some cs
  | _ :: _, [] => none
  | w :: ws, c :: cs => if w = c then after? ws cs else none

def constants : List (List Char × Value) :=
  [("null".toList, .null), ("true".toList, .bool true), ("false".toList, .bool false),
   ("NaN".toList, .double .nan), ("Infinity".toList, .double (.infinity false)),
   ("-Infinity".toList, .double (.infinity true))]

def readConstant? (cs : List Char) : Option (Value × List Char) :=
  constants.findSome? fun (word, v) => (after? word cs).map fun rest => (v, rest)

/-! ## Numbers -/

/-- Reads the digits before the point: a zero on its own, or digits that start with another. -/
def readWhole? : List Char → Option (List Char × List Char)
  | '0' :: r => some (['0'], r)
  | r =>
    let ds := r.takeWhile isDecimalDigit
    if ds = [] then none else some (ds, r.dropWhile isDecimalDigit)

/-- Reads a point with at least one digit after it, if one stands here. -/
def readFraction : List Char → List Char × List Char
  | '.' :: r =>
    let ds := r.takeWhile isDecimalDigit
    if ds = [] then ([], '.' :: r) else (ds, r.dropWhile isDecimalDigit)
  | r => ([], r)

/-- Reads an exponent with at least one digit, if one stands here. -/
def readExponent : List Char → Option Int × List Char
  | [] => (none, [])
  | c :: r =>
    let (negative, tail) := DecimalNumeral.sign r
    let ds := tail.takeWhile isDecimalDigit
    if (c = 'e' ∨ c = 'E') ∧ ds ≠ [] then
      (some (if negative then -(ofDigits 10 ds : Int) else ofDigits 10 ds), tail.dropWhile isDecimalDigit)
    else (none, c :: r)

/-- Reads a number: an integer, unless it has more than `digits` digits, or the nearest double if there is
a fraction or an exponent. -/
def readNumber? (digits : Nat) (cs : List Char) : Option (Except Excess Value × List Char) :=
  let (negative, r) := match cs with
    | '-' :: r => (true, r)
    | r => (false, r)
  match readWhole? r with
  | none => none
  | some (whole, r) =>
    let (fractional, r) := readFraction r
    let (exponent, r) := readExponent r
    if fractional = [] ∧ exponent = none then
      if digits < whole.length then some (.error (.digitsRead digits whole.length), r)
      else
        let n : Int := ofDigits 10 whole
        some (.ok (.int (if negative then -n else n)), r)
    else some (.ok (.double (DecimalNumeral.toDouble ⟨negative, whole, fractional, exponent.getD 0⟩)), r)

/-! ## Strings -/

/-- The character of an escape with one letter. -/
def simpleEscape? : Char → Option Char
  | '"' => some '"'
  | '\\' => some '\\'
  | '/' => some '/'
  | 'b' => some '\x08'
  | 'f' => some '\x0c'
  | 'n' => some '\n'
  | 'r' => some '\r'
  | 't' => some '\t'
  | _ => none

/-- Reads the four hexadecimal digits of an escaped UTF-16 unit; the text must go on after them. -/
def readUnit? : List Char → Option (Nat × List Char)
  | a :: b :: c :: d :: e :: r =>
    if [a, b, c, d].all fun x => (hexDigit? x).isSome then some (ofDigits 16 [a, b, c, d], e :: r) else none
  | _ => none

/-- Whether a UTF-16 unit is the first of a pair. -/
def isHighUnit (n : Nat) : Bool := 0xD800 ≤ n && n < 0xDC00

/-- Whether a UTF-16 unit is the second of a pair. -/
def isLowUnit (n : Nat) : Bool := 0xDC00 ≤ n && n < 0xE000

/-- The character of a UTF-16 unit; half of a pair on its own is none. -/
def unitChar? (n : Nat) : Option Char := if isHighUnit n || isLowUnit n then none else some (Char.ofNat n)

/-- Reads the unit after `\u`, together with the second unit of a pair if one follows. `left` is the
number of characters from the `u` on. -/
def readEscapedUnit (left : Nat) (r : List Char) : Except Stop (Option Char × List Char) :=
  match readUnit? r with
  | none => .error (.malformed .unicodeEscape left)
  | some (high, r) =>
    match isHighUnit high, r with
    | true, '\\' :: 'u' :: r' =>
      if r'.length < 5 then .ok (unitChar? high, r)
      else
        match readUnit? r' with
        | none => .error (.malformed .unicodeEscape (r'.length + 1))
        | some (low, rest) =>
          if isLowUnit low then .ok (some (Char.ofNat (0x10000 + (high - 0xD800) * 0x400 + (low - 0xDC00))), rest)
          else .ok (unitChar? high, r)
    | _, _ => .ok (unitChar? high, r)

/-- The text of characters, if all of them are there. -/
def textOf? (cs : List (Option Char)) : Option String := (cs.mapM id).map String.ofList

/-- Reads the characters of a string up to its closing quote. `body` is what follows the opening quote,
`read` holds the characters so far in reverse, and `fuel` bounds the steps. -/
def readString (body : List Char) : Nat → List (Option Char) → List Char → Except Stop (Option String × List Char)
  | 0, _, _ => .error (.malformed .unterminatedString (body.length + 1))
  | fuel + 1, read, cs =>
    match cs with
    | [] => .error (.malformed .unterminatedString (body.length + 1))
    | '"' :: r => .ok (textOf? read.reverse, r)
    | ['\\'] => .error (.malformed .unterminatedString (body.length + 1))
    | '\\' :: 'u' :: r =>
      match readEscapedUnit (r.length + 1) r with
      | .ok (c, r) => readString body fuel (c :: read) r
      | .error e => .error e
    | '\\' :: c :: r =>
      match simpleEscape? c with
      | some d => readString body fuel (some d :: read) r
      | none => .error (.malformed .escape (r.length + 2))
    | c :: r =>
      if c.toNat < 32 then .error (.malformed .controlCharacter (r.length + 1))
      else readString body fuel (some c :: read) r

/-! ## Values -/

/-- Reads a constant or a number. -/
def readScalar (digits : Nat) (cs : List Char) : Except Stop (Option Value × List Char) :=
  match readConstant? cs with
  | some (v, r) => .ok (some v, r)
  | none =>
    match readNumber? digits cs with
    | some (.ok v, r) => .ok (some v, r)
    | some (.error e, _) => .error (.exceeded e)
    | none => .error (.malformed .value cs.length)

/-- The levels that are left behind an opening bracket, or brace. -/
def enter (ofObject : Bool) : Nat → Except Stop Nat
  | 0 => .error (.exceeded (.levelsRead ofObject))
  | levels + 1 => .ok levels

mutual

/-- Reads a value; there is none if a text in it has half of a pair. `digits` bounds the digits of an
integer and `size` the characters of a string; `fuel` bounds the values and parts that may still be read,
and `levels` is the number of lists and objects inside one another that may still be entered. -/
def readValue (digits size : Nat) : Nat → Nat → List Char → Except Stop (Option Value × List Char)
  | 0, _, cs => .error (.malformed .value cs.length)
  | fuel + 1, levels, cs =>
    match cs with
    | '"' :: r => do
      let (s, r) ← readString r size [] r
      .ok (s.map .text, r)
    | '\x7b' :: r => do
      let levels ← enter true levels
      match skipBlanks r with
      | '\x7d' :: r => .ok (some (.object []), r)
      | r => do
        let (entries, r) ← readEntries digits size fuel levels r
        .ok (entries.map fun es => .object (Entries.ofPairs es), r)
    | '[' :: r => do
      let levels ← enter false levels
      match skipBlanks r with
      | ']' :: r => .ok (some (.list []), r)
      | r => do
        let (items, r) ← readItems digits size fuel levels r
        .ok (items.map .list, r)
    | cs => readScalar digits cs

/-- Reads the items of a list up to its closing bracket. -/
def readItems (digits size : Nat) : Nat → Nat → List Char → Except Stop (Option (List Value) × List Char)
  | 0, _, cs => .error (.malformed .value cs.length)
  | fuel + 1, levels, cs => do
    let (v, r) ← readValue digits size fuel levels cs
    match skipBlanks r with
    | ']' :: r => .ok (v.map ([·]), r)
    | ',' :: r => do
      let (vs, r) ← readItems digits size fuel levels (skipBlanks r)
      .ok (v.bind fun v => vs.map (v :: ·), r)
    | r => .error (.malformed .comma r.length)

/-- Reads the entries of an object up to its closing brace. -/
def readEntries (digits size : Nat) : Nat → Nat → List Char → Except Stop (Option (List (Scalar × Value)) × List Char)
  | 0, _, cs => .error (.malformed .value cs.length)
  | fuel + 1, levels, cs =>
    match cs with
    | '"' :: r => do
      let (k, r) ← readString r size [] r
      match skipBlanks r with
      | ':' :: r => do
        let (v, r) ← readValue digits size fuel levels (skipBlanks r)
        let entry := k.bind fun k => v.map (Scalar.text k, ·)
        match skipBlanks r with
        | '\x7d' :: r => .ok (entry.map ([·]), r)
        | ',' :: r => do
          let (rest, r) ← readEntries digits size fuel levels (skipBlanks r)
          .ok (entry.bind fun e => rest.map (e :: ·), r)
        | r => .error (.malformed .comma r.length)
      | r => .error (.malformed .colon r.length)
    | cs => .error (.malformed .propertyName cs.length)

end

/-- Reads a whole text as one value with blanks around it. -/
def readText (bounds : Bounds) (cs : List Char) : Except Stop (Option Value) :=
  match cs with
  | '\uFEFF' :: _ => .error (.malformed .byteOrderMark cs.length)
  | _ => do
    let (v, r) ← readValue bounds.digits (cs.length + 1) (2 * cs.length + 2) bounds.readLevels (skipBlanks cs)
    match skipBlanks r with
    | [] => .ok v
    | r => .error (.malformed .extraData r.length)

/-- Why a text gives no value: it is not JSON, it goes beyond a bound, or its value has a text with half
of a pair. -/
inductive Refusal where
  | malformed (failure : Failure)
  | exceeded (excess : Excess)
  | halfPair
deriving DecidableEq

/-- Reads a text as JSON. -/
def read (bounds : Bounds) (text : String) : Except Refusal Value :=
  let cs := text.toList
  match readText bounds cs with
  | .ok (some v) => .ok v
  | .ok none => .error .halfPair
  | .error (.malformed cause left) => .error (.malformed (.at cause cs (cs.length - left)))
  | .error (.exceeded e) => .error (.exceeded e)

end WebForm.Json
