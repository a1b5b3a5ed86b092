/-
The four ways to write a scalar: plain, between single or double quotes, and as an indented block.
Each reader gives the text that is meant and the position after it. Line ends inside a scalar are
folded: a single one counts as a blank, of more than one the first is dropped.
-/
import WebForm.Yaml.Cursor
import WebForm.Number.Numeral

namespace WebForm.Yaml

/-! ## Folding -/

/-- What a line end and the empty lines after it stand for. -/
def folded (first : Char) (more : List Char) : List Char :=
  if first ≠ '\n' then first :: more else if more = [] then [' '] else more

/-! ## Plain text -/

/-- The characters that end plain text inside brackets. -/
def isFlowIndicator (c : Char) : Bool := c == ',' || c == '[' || c == ']' || c == '\x7b' || c == '\x7d'

/-- The characters up to the end of a word of plain text. -/
def plainWord (flow : Bool) : List Char → List Char
  | [] => []
  | c :: rest =>
    if endsWord (some c)
        || (c == ':' && (endsWord rest.head? || (flow && rest.head?.any isFlowIndicator)))
        || (flow && (c == '?' || isFlowIndicator c)) then []
    else c :: plainWord flow rest

/-- The line ends after the first one between two words; stops where a document ends. -/
def plainBreaks : Nat → List Char → Cursor → List Char × Bool × Cursor
  | 0, found, c => (found, false, c)
  | fuel + 1, found, c =>
    if c.sees ' ' then plainBreaks fuel found c.step
    else match c.lineBreak? with
      | none => (found, false, c)
      | some (b, c) => if c.atMarker then (found ++ [b], true, c) else plainBreaks fuel (found ++ [b]) c

/-- What stands between two words of plain text: the text it means, whether it has a line end, and the
position after it. It means nothing if it is empty or if a document ends in it. -/
def plainGap (c : Cursor) : List Char × Bool × Cursor :=
  let (blanks, c) := c.span (· == ' ')
  match c.lineBreak? with
  | none => (blanks, false, c)
  | some (b, c) =>
    if c.atMarker then ([], true, c)
    else
      let (more, stopped, c) := plainBreaks c.rest.length [] c
      (if stopped then [] else folded b more, true, c)

/-- Text from its parts, the last one first. -/
def joined (parts : List (List Char)) : List Char := parts.reverse.flatten

/-- Plain text, word by word: its parts, the last one first, whether a line end follows the last word, and
the position after it. Outside brackets it ends at a line that is not indented. -/
def plainParts (flow : Bool) (indent : Int) :
    Nat → List Char → List (List Char) → Bool → Cursor → List (List Char) × Bool × Cursor
  | 0, _, parts, crossed, c => (parts, crossed, c)
  | fuel + 1, gap, parts, crossed, c =>
    let word := if c.sees '#' then [] else plainWord flow c.rest
    if word = [] then (parts, crossed, c)
    else
      let parts := word :: gap :: parts
      let (gap, crossed, c) := plainGap (c.forward word.length)
      if gap = [] ∨ c.sees '#' ∨ (¬flow ∧ (c.column : Int) < indent) then (parts, crossed, c)
      else plainParts flow indent fuel gap parts crossed c

/-- Plain text, whether a line end follows it, and the position after it. -/
def plainText (flow : Bool) (indent : Int) (c : Cursor) : List Char × Bool × Cursor :=
  let (parts, crossed, c) := plainParts flow indent (c.rest.length + 1) [] [] false c
  (joined parts, crossed, c)

/-! ## Quoted text -/

/-- The character of an escape with one letter. -/
def escapedChar? : Char → Option Char
  | '0' => some '\x00'
  | 'a' => some '\x07'
  | 'b' => some '\x08'
  | 't' => some '\t'
  | '\t' => some '\t'
  | 'n' => some '\n'
  | 'v' => some '\x0b'
  | 'f' => some '\x0c'
  | 'r' => some '\r'
  | 'e' => some '\x1b'
  | ' ' => some ' '
  | '"' => some '"'
  | '\\' => some '\\'
  | '/' => some '/'
  | 'N' => some '\x85'
  | '_' => some '\xa0'
  | 'L' => some '\u2028'
  | 'P' => some '\u2029'
  | _ => none

/-- The number of digits of an escape that gives a code point. -/
def escapeWidth? : Char → Option Nat
  | 'x' => some 2
  | 'u' => some 4
  | 'U' => some 8
  | _ => none

/-- The line ends after the first one inside quotes, and the blanks around them; a document may not
end there. -/
def quotedBreaks : Nat → List Char → Cursor → Except Failure (List Char × Cursor)
  | 0, found, c => .ok (found, c)
  | fuel + 1, found, c =>
    if c.atMarker then .error .malformed
    else
      let c := c.skip fun x => x == ' ' || x == '\t'
      match c.lineBreak? with
      | none => .ok (found, c)
      | some (b, c) => quotedBreaks fuel (found ++ [b]) c

/-- Blanks and line ends inside quotes. -/
def quotedGap (c : Cursor) : Except Failure (List Char × Cursor) :=
  let (blanks, c) := c.span fun x => x == ' ' || x == '\t'
  match c.lineBreak? with
  | none => .ok (blanks, c)
  | some (b, c) => (quotedBreaks (c.rest.length + 1) [] c).map fun (more, c) => (folded b more, c)

/-- An escape, from the character after the backslash on. -/
def quotedEscape (c : Cursor) : Except Failure (List Char × Cursor) :=
  match c.peek with
  | none => .error .malformed
  | some x =>
    match escapedChar? x, escapeWidth? x, c.lineBreak? with
    | some y, _, _ => .ok ([y], c.step)
    | none, some width, _ =>
      let digits := (c.rest.drop 1).take width
      if digits.length = width ∧ digits.all (fun d => (hexDigit? d).isSome) then
        let code := ofDigits 16 digits
        if code.isValidChar then .ok ([Char.ofNat code], c.forward (width + 1))
        else .error (if code < 0x110000 then .halfPair else .codePoint)
      else .error .malformed
    | none, none, some (_, c) => quotedBreaks (c.rest.length + 1) [] c
    | none, none, none => .error .malformed

/-- The parts of the text up to the closing quote, the last one first. -/
def quotedParts (quote : Char) : Nat → List (List Char) → Cursor → Except Failure (List (List Char) × Cursor)
  | 0, _, _ => .error .malformed
  | fuel + 1, parts, c =>
    match c.peek with
    | none => .error .malformed
    | some x =>
      if x = quote then
        if quote = '\'' ∧ c.peekAt 1 = some '\'' then quotedParts quote fuel (['\''] :: parts) (c.forward 2)
        else .ok (parts, c.step)
      else if x = '\\' ∧ quote = '"' then do
        let (part, c) ← quotedEscape c.step
        quotedParts quote fuel (part :: parts) c
      else if endsWord (some x) then do
        let (part, c) ← quotedGap c
        quotedParts quote fuel (part :: parts) c
      else quotedParts quote fuel ([x] :: parts) c.step

/-- The text up to the closing quote. -/
def quotedText (quote : Char) (c : Cursor) : Except Failure (List Char × Cursor) :=
  (quotedParts quote (c.rest.length + 1) [] c).map fun (parts, c) => (joined parts, c)

/-! ## Blocks -/

/-- What happens to the line ends at the end of a block. -/
inductive Chomping where
  | strip
  | clip
  | keep
deriving DecidableEq

/-- The sign that says what happens to the last line ends. -/
def chomping? : Option Char → Option Chomping
  | some '+' => some .keep
  | some '-' => some .strip
  | _ => none

/-- The digit from one to nine that gives the indentation of a block; a zero is refused. -/
def indentationDigit (c : Cursor) : Except Failure (Option Nat × Cursor) :=
  match c.peek with
  | some d =>
    if isDecimalDigit d then
      if d = '0' then .error .malformed else .ok (some (d.toNat - 48), c.step)
    else .ok (none, c)
  | none => .ok (none, c)

/-- The signs after the character that opens a block, in either order. -/
def blockHeader (c : Cursor) : Except Failure (Chomping × Option Nat × Cursor) := do
  let (chomping, increment, c) ← match chomping? c.peek with
    | some chomping => do
      let (increment, c) ← indentationDigit c.step
      pure (chomping, increment, c)
    | none => do
      let (increment, c) ← indentationDigit c
      match increment, chomping? c.peek with
      | some n, some chomping => pure (chomping, some n, c.step)
      | _, _ => pure (Chomping.clip, increment, c)
  if endsPart c.peek then return (chomping, increment, c) else .error .malformed

/-- The empty lines that open a block, and the deepest column that their blanks reach. -/
def blockIndentation : Nat → List Char → Nat → Cursor → List Char × Nat × Cursor
  | 0, found, deepest, c => (found, deepest, c)
  | fuel + 1, found, deepest, c =>
    if c.sees ' ' then blockIndentation fuel found (max deepest c.step.column) c.step
    else match c.lineBreak? with
      | some (b, c) => blockIndentation fuel (found ++ [b]) deepest c
      | none => (found, deepest, c)

/-- The position after blanks, at most up to a column. -/
def skipIndent (indent : Nat) : Nat → Cursor → Cursor
  | 0, c => c
  | fuel + 1, c => if c.column < indent ∧ c.sees ' ' then skipIndent indent fuel c.step else c

/-- The empty lines inside a block. -/
def blockBreaks (indent : Nat) : Nat → List Char → Cursor → List Char × Cursor
  | 0, found, c => (found, c)
  | fuel + 1, found, c =>
    let c := skipIndent indent indent c
    match c.lineBreak? with
    | some (b, c) => blockBreaks indent fuel (found ++ [b]) c
    | none => (found, c)

/-- The lines of a block: the parts of its text, the last one first, the last line end, and the empty
lines after it. -/
def blockLines (fold : Bool) (indent : Nat) :
    Nat → List (List Char) → List Char → Cursor → List (List Char) × List Char × List Char × Cursor
  | 0, parts, breaks, c => (parts, [], breaks, c)
  | fuel + 1, parts, breaks, c =>
    let solid := !c.seesOne fun x => x == ' ' || x == '\t'
    let (line, c) := c.span (!isBreak ·)
    let parts := line :: breaks :: parts
    let (ending, c) := match c.lineBreak? with
      | some (b, c) => ([b], c)
      | none => ([], c)
    let (breaks, c) := blockBreaks indent (c.rest.length + 1) [] c
    if c.column = indent ∧ c.peek.isSome then
      if fold ∧ ending = ['\n'] ∧ solid ∧ !c.seesOne (fun x => x == ' ' || x == '\t') then
        blockLines fold indent fuel (if breaks = [] then [' '] :: parts else parts) breaks c
      else blockLines fold indent fuel (ending :: parts) breaks c
    else (parts, ending, breaks, c)

/-- A block, from the character after the one that opens it on; `parent` is the column of the block
around it. -/
def blockText (fold : Bool) (parent : Int) (c : Cursor) : Except Failure (List Char × Cursor) := do
  let (chomping, increment, c) ← blockHeader c
  let c ← c.endLine
  let least := max (parent + 1).toNat 1
  let (breaks, indent, c) := match increment with
    | none =>
      let (breaks, deepest, c) := blockIndentation (c.rest.length + 1) [] 0 c
      (breaks, max least deepest, c)
    | some n =>
      let indent := least + n - 1
      let (breaks, c) := blockBreaks indent (c.rest.length + 1) [] c
      (breaks, indent, c)
  let (parts, ending, breaks, c) :=
    if c.column = indent ∧ c.peek.isSome then blockLines fold indent (c.rest.length + 1) [] breaks c
    else ([], [], breaks, c)
  let text := joined parts
  return (match chomping with
    | .strip => text
    | .clip => text ++ ending
    | .keep => text ++ ending ++ breaks, c)

end WebForm.Yaml
