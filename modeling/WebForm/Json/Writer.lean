/-
Values as JSON text, on one line with `, ` and `: ` between the parts, or indented by two spaces and
in ASCII alone. The three numbers that JSON lacks are written as the constants of the language that
runs the emitted source.

`write` and `writeIndented` give the text of every value, however deep. The interpreter writes none with
lists and objects on too deep a level or with an integer of too many digits: that is `literal`. What
sources and reports hold is flat, and their numbers round to finite doubles, so it makes no difference there.
-/
import WebForm.Json.Bounds
import WebForm.Value
import WebForm.Text.Quoted

namespace WebForm.Json

/-! ## Scalars -/

def doubleText : Double → String
  | .nan => "NaN"
  | .infinity false => "Infinity"
  | .infinity true => "-Infinity"
  | .finite x => x.text

def quantityText (q : Quantity) : String := q.text

/-- The text of a scalar; `quote` writes a text. -/
def scalarText (quote : String → String) : Scalar → String
  | .null => "null"
  | .bool true => "true"
  | .bool false => "false"
  | .int n => toString n
  | .double x => doubleText x
  | .text s => quote s
  | .date y m d => quote (isoDate y m d)
  | .instant written => quote written

/-- The text of a key: a scalar that is not a text is quoted as it is written. -/
def keyText (quote : String → String) : Scalar → String
  | .text s => quote s
  | s => quote (scalarText id s)

/-! ## One line -/

mutual

/-- A value on one line. -/
def write : Value → String
  | .scalar s => scalarText Quoted.encode s
  | .list items => "[" ++ ", ".intercalate (writeItems items) ++ "]"
  | .object entries => "\x7b" ++ ", ".intercalate (writeEntries entries) ++ "\x7d"

def writeItems : List Value → List String
  | [] => []
  | v :: rest => write v :: writeItems rest

def writeEntries : List (Scalar × Value) → List String
  | [] => []
  | (k, v) :: rest => (keyText Quoted.encode k ++ ": " ++ write v) :: writeEntries rest

end

/-! ## Within bounds -/

/-- What keeps a scalar from being written. -/
def scalarExcess? (digits : Nat) : Scalar → Option Excess
  | .int n => if digits < (Nat.toDigits 10 n.natAbs).length then some (.digitsWritten digits) else none
  | _ => none

mutual

/-- The first thing, in the order of the text, that keeps a value from being written, with the number of lists
and objects inside one another that may still be entered. -/
def excess? (digits : Nat) : Nat → Value → Option Excess
  | _, .scalar s => scalarExcess? digits s
  | 0, .list _ | 0, .object _ => some .levelsWritten
  | levels + 1, .list items => itemsExcess? digits levels items
  | levels + 1, .object entries => entriesExcess? digits levels entries

def itemsExcess? (digits levels : Nat) : List Value → Option Excess
  | [] => none
  | v :: rest => (excess? digits levels v).or (itemsExcess? digits levels rest)

def entriesExcess? (digits levels : Nat) : List (Scalar × Value) → Option Excess
  | [] => none
  | (k, v) :: rest =>
    ((scalarExcess? digits k).or (excess? digits levels v)).or (entriesExcess? digits levels rest)

end

/-- The literal of a value in the emitted source, unless it goes beyond a bound. -/
def literal (bounds : Bounds) (v : Value) : Except Excess String :=
  match excess? bounds.digits bounds.writtenLevels v with
  | some e => .error e
  | none => .ok (write v)

/-! ## Indented -/

/-- A line break followed by `depth` steps of indentation. -/
def newline (depth : Nat) : String := "\n" ++ String.ofList (List.replicate (2 * depth) ' ')

/-- Parts on lines of their own between two brackets; nothing stands between the brackets if there
are no parts. -/
def block (opening closing : String) (depth : Nat) (parts : List String) : String :=
  if parts.isEmpty then opening ++ closing
  else opening ++ newline (depth + 1) ++ ("," ++ newline (depth + 1)).intercalate parts ++ newline depth ++ closing

mutual

/-- A value over several lines, inside `depth` brackets. -/
def writeIndented (depth : Nat) : Value → String
  | .scalar s => scalarText Quoted.encodeAscii s
  | .list items => block "[" "]" depth (writeIndentedItems depth items)
  | .object entries => block "\x7b" "\x7d" depth (writeIndentedEntries depth entries)

def writeIndentedItems (depth : Nat) : List Value → List String
  | [] => []
  | v :: rest => writeIndented (depth + 1) v :: writeIndentedItems depth rest

def writeIndentedEntries (depth : Nat) : List (Scalar × Value) → List String
  | [] => []
  | (k, v) :: rest =>
    (keyText Quoted.encodeAscii k ++ ": " ++ writeIndented (depth + 1) v) :: writeIndentedEntries depth rest

end

end WebForm.Json
