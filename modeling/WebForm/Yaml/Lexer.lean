/-
Cutting YAML text into tokens. A colon turns what came before it into a key, so the place where a key
may have started is kept until the line ends or a colon comes; there is one such place for every open
bracket and one for the blocks around them. Columns outside brackets open and close blocks.
-/
import WebForm.Yaml.ScalarText
import WebForm.Yaml.Token
import WebForm.Text.Utf8

namespace WebForm.Yaml

/-! ## State -/

/-- A place where a key may have started: the number of tokens before it, its position, and whether it
has to turn out to be a key. -/
structure KeyPlace where
  tokens : Nat
  required : Bool
  index : Nat
  line : Nat
  column : Nat

/-- The tokens so far and what is needed to find the next. -/
structure Lexer where
  cursor : Cursor
  tokens : Array Token
  /-- The column of the innermost block, and those of the blocks around it. -/
  indent : Int
  outer : List Int
  /-- The place for a key in the innermost bracket, and those in the brackets around it. -/
  place : Option KeyPlace
  places : List (Option KeyPlace)
  /-- Whether a key may start here. -/
  keyAllowed : Bool

/-- A step of the lexer. -/
abbrev Lexing := StateT Lexer (Except Failure)

namespace Lexer

def start (text : List Char) : Lexer := ⟨.start text, #[], -1, [], none, [], true⟩

def inFlow (s : Lexer) : Bool := !s.places.isEmpty

def fail {α : Type} : Lexing α := throw .malformed

def emit (t : Token) : Lexing Unit := modify fun s => { s with tokens := s.tokens.push t }

/-- Goes over `n` characters. -/
def advance (n : Nat) : Lexing Unit := modify fun s => { s with cursor := s.cursor.forward n }

/-- Adds a token of `n` characters. -/
def emitOver (n : Nat) (t : Token) : Lexing Unit := do
  advance n
  emit t

/-- Says whether a key may start. -/
def allowKey (allowed : Bool) : Lexing Unit := modify fun s => { s with keyAllowed := allowed }

/-! ## Blocks and keys -/

/-- Closes the blocks that lie to the right of a column. -/
def unwindTo (column : Int) : Lexing Unit := modify fun s =>
  if s.inFlow then s
  else
    let blocks := s.indent :: s.outer
    let closed := blocks.takeWhile (column < ·)
    match blocks.drop closed.length with
    | indent :: outer =>
      { s with indent, outer, tokens := s.tokens ++ (closed.map fun _ => Token.blockEnd).toArray }
    | [] => s

/-- Opens a block at a column unless the innermost one is there, its token going to a place among the
tokens. -/
def openBlock (column : Int) (t : Token) (place : Nat) : Lexing Unit := modify fun s =>
  if s.indent < column then
    { s with
      indent := column
      outer := s.indent :: s.outer
      tokens := s.tokens.extract 0 place ++ #[t] ++ s.tokens.extract place s.tokens.size }
  else s

/-- Forgets the place for a key; fails if there has to be a key. -/
def dropPlace : Lexing Unit := do
  if (← get).place.any (·.required) then fail
  modify fun s => { s with place := none }

/-- Keeps this place for a key, if one may start here. -/
def savePlace : Lexing Unit := do
  let s ← get
  if s.keyAllowed then
    dropPlace
    let c := s.cursor
    set { s with place := some ⟨s.tokens.size, !s.inFlow && s.indent == c.column, c.index, c.line, c.column⟩ }

/-- Whether a place is too far back for a key: keys stand on one line and are not long. -/
def isStale (c : Cursor) (p : KeyPlace) : Bool := p.line != c.line || 1024 < c.index - p.index

/-- Forgets the places that are too far back; fails if there has to be a key at one. -/
def dropStale : Lexing Unit := do
  let s ← get
  let stale := (s.place :: s.places).filterMap fun p => p.filter (isStale s.cursor)
  if stale.any (·.required) then fail
  let keep (p : Option KeyPlace) : Option KeyPlace := p.filter (!isStale s.cursor ·)
  set { s with place := keep s.place, places := s.places.map keep }

/-! ## Blanks and directives -/

/-- Goes over blanks, comments and line ends. -/
def skipToToken : Nat → Lexing Unit
  | 0 => pure ()
  | fuel + 1 => do
    let s ← get
    let c := s.cursor.skipBlanks
    let c := if c.sees '#' then c.skipLine else c
    match c.lineBreak? with
    | some (_, c) =>
      set { s with cursor := c, keyAllowed := s.keyAllowed || !s.inFlow }
      skipToToken fuel
    | none => set { s with cursor := c }

/-- Reads characters that satisfy `p`. -/
def takeWhile (p : Char → Bool) : Lexing (List Char) := modifyGet fun s =>
  let (taken, c) := s.cursor.span p
  (taken, { s with cursor := c })

/-- Fails unless the next character satisfies `p`. -/
def expect (p : Option Char → Bool) : Lexing Unit := do
  if !p (← get).cursor.peek then fail

/-- Reads characters of which there has to be one. -/
def takeSome (p : Char → Bool) : Lexing (List Char) := do
  let taken ← takeWhile p
  if taken.isEmpty then fail else return taken

/-- The characters of the name of a tag. -/
def isUriChar (c : Char) : Bool := c.isAlphanum || "-;/?:@&=+$,_.!~*'()[]".toList.contains c

/-- Reads the bytes of escapes with a percent sign. -/
def readBytes : Nat → List UInt8 → Lexing (List UInt8)
  | 0, found => return found
  | fuel + 1, found => do
    match (← get).cursor.rest with
    | '%' :: a :: b :: _ =>
      match hexDigit? a, hexDigit? b with
      | some m, some n =>
        advance 3
        readBytes fuel (found ++ [UInt8.ofNat (16 * m + n)])
      | _, _ => fail
    | '%' :: _ => fail
    | _ => return found

/-- Reads the name of a tag, with its escapes. -/
def readUriFrom : Nat → List Char → Lexing (List Char)
  | 0, found => return found
  | fuel + 1, found => do
    let plain ← takeWhile isUriChar
    let s ← get
    if s.cursor.sees '%' then
      match Utf8.decode (← readBytes s.cursor.rest.length []) with
      | .ok text => readUriFrom fuel (found ++ plain ++ text)
      | .error _ => fail
    else return found ++ plain

/-- Reads the name of a tag, which is not empty. -/
def readUri : Lexing String := do
  let found ← readUriFrom ((← get).cursor.rest.length + 1) []
  if found.isEmpty then fail else return String.ofList found

/-- Reads a tag handle: an exclamation mark, or a name between two. -/
def readHandle : Lexing String := do
  expect (· == some '!')
  advance 1
  if (← get).cursor.sees ' ' then return "!"
  else
    let name ← takeWhile isNameChar
    if (← get).cursor.sees '!' then
      advance 1
      return String.ofList ('!' :: name ++ ['!'])
    else if name.isEmpty then return "!"
    else fail

def readNatural : Lexing Nat := do return ofDigits 10 (← takeSome isDecimalDigit)

/-- Reads what a directive with a name declares. -/
def readDeclaration (name : List Char) : Lexing Directive := do
  if name = "YAML".toList then
    let _ ← takeWhile (· == ' ')
    let major ← readNatural
    expect (· == some '.')
    advance 1
    let minor ← readNatural
    expect endsPart
    return .version major minor
  else if name = "TAG".toList then
    let _ ← takeWhile (· == ' ')
    let handle ← readHandle
    expect (· == some ' ')
    let _ ← takeWhile (· == ' ')
    let start ← readUri
    expect endsPart
    return .tag handle start
  else
    let _ ← takeWhile (!isBreak ·)
    return .other

/-- Reads a directive with the rest of its line. -/
def readDirective : Lexing Unit := do
  advance 1
  let name ← takeSome isNameChar
  expect endsPart
  let d ← readDeclaration name
  let c ← (← get).cursor.endLine
  modify fun s => { s with cursor := c }
  emit (.directive d)

/-! ## Tokens -/

/-- Reads the name of an anchor or an alias. -/
def readName (make : String → Token) : Lexing Unit := do
  savePlace
  allowKey false
  advance 1
  let name ← takeSome isNameChar
  expect fun c => endsWord c || c.any fun x => "?:,]\x7d%@`".toList.contains x
  emit (make (String.ofList name))

/-- Reads what follows the exclamation mark of a tag. -/
def readTagName : Lexing Token := do
  let c := (← get).cursor
  if c.peekAt 1 == some '<' then
    advance 2
    let suffix ← readUri
    expect (· == some '>')
    advance 1
    return .tag none suffix
  else if endsWord (c.peekAt 1) then
    advance 1
    return .tag none "!"
  else
    let word := (c.rest.drop 1).takeWhile fun x => !endsPart (some x)
    let handle ← if word.contains '!' then readHandle else do
      advance 1
      pure "!"
    return .tag (some handle) (← readUri)

def readTag : Lexing Unit := do
  savePlace
  allowKey false
  let t ← readTagName
  expect endsPart
  emit t

def readQuoted (quote : Char) : Lexing Unit := do
  savePlace
  allowKey false
  let c := (← get).cursor.step
  let (text, c) ← quotedText quote c
  modify fun s => { s with cursor := c }
  emit (.scalar (String.ofList text) false)

/-- Reads a plain scalar; a key may start after it if it ends with a line. -/
def readPlain : Lexing Unit := do
  savePlace
  let s ← get
  let (text, crossed, c) := plainText s.inFlow (s.indent + 1) s.cursor
  set { s with cursor := c, keyAllowed := crossed }
  emit (.scalar (String.ofList text) true)

/-- Reads a scalar that is written as a block. -/
def readBlock (fold : Bool) : Lexing Unit := do
  allowKey true
  dropPlace
  let s ← get
  let (text, c) ← blockText fold s.indent s.cursor.step
  set { s with cursor := c }
  emit (.scalar (String.ofList text) false)

def openFlow (t : Token) : Lexing Unit := do
  savePlace
  modify fun s => { s with place := none, places := s.place :: s.places, keyAllowed := true }
  emitOver 1 t

def closeFlow (t : Token) : Lexing Unit := do
  dropPlace
  match (← get).places with
  | [] => fail
  | place :: places =>
    modify fun s => { s with place, places, keyAllowed := false }
    emitOver 1 t

/-- Separates the items in a bracket. -/
def readFlowEntry : Lexing Unit := do
  allowKey true
  dropPlace
  emitOver 1 .flowEntry

/-- Opens a block for a sign that may only stand where a key may, unless a bracket is open. -/
def enterBlock (t : Token) : Lexing Unit := do
  let s ← get
  if !s.inFlow then
    if !s.keyAllowed then fail
    openBlock s.cursor.column t s.tokens.size

/-- Reads the sign of an item. -/
def readBlockEntry : Lexing Unit := do
  enterBlock .blockSequenceStart
  allowKey true
  dropPlace
  emitOver 1 .blockEntry

/-- Reads the sign of a key. -/
def readKey : Lexing Unit := do
  enterBlock .blockMappingStart
  allowKey !(← get).inFlow
  dropPlace
  emitOver 1 .key

/-- Reads the sign of a value. It makes a key of what stands at the place kept for one. -/
def readValue : Lexing Unit := do
  let s ← get
  match s.place with
  | some p =>
    set { s with
      place := none
      keyAllowed := false
      tokens := s.tokens.extract 0 p.tokens ++ #[Token.key] ++ s.tokens.extract p.tokens s.tokens.size }
    if !s.inFlow then openBlock p.column .blockMappingStart p.tokens
  | none =>
    enterBlock .blockMappingStart
    allowKey !s.inFlow
    dropPlace
  emitOver 1 .value

/-- Ends all blocks before a sign that stands between documents. -/
def leaveDocument : Lexing Unit := do
  unwindTo (-1)
  dropPlace
  allowKey false

/-- Whether plain text starts at a position. -/
def startsPlain (flow : Bool) (c : Cursor) : Bool :=
  match c.peek with
  | none => false
  | some x =>
    if x == '-' then !endsWord (c.peekAt 1)
    else if x == '?' || x == ':' then !flow && !endsWord (c.peekAt 1)
    else !endsWord (some x) && !",[]\x7b\x7d#&*!|>'\"%@`".toList.contains x

/-- Reads the tokens that start with a character. -/
def readToken (x : Char) : Lexing Unit := do
  let s ← get
  let c := s.cursor
  let alone := endsWord (c.peekAt 1)
  if x == '%' && c.column == 0 then
    leaveDocument
    readDirective
  else if c.column == 0 && c.atMarker then
    leaveDocument
    emitOver 3 (if x == '-' then .documentStart else .documentEnd)
  else if x == '[' then openFlow .flowSequenceStart
  else if x == '\x7b' then openFlow .flowMappingStart
  else if x == ']' then closeFlow .flowSequenceEnd
  else if x == '\x7d' then closeFlow .flowMappingEnd
  else if x == ',' then readFlowEntry
  else if x == '-' && alone then readBlockEntry
  else if x == '?' && (s.inFlow || alone) then readKey
  else if x == ':' && (s.inFlow || alone) then readValue
  else if x == '*' then readName .alias
  else if x == '&' then readName .anchor
  else if x == '!' then readTag
  else if x == '|' && !s.inFlow then readBlock false
  else if x == '>' && !s.inFlow then readBlock true
  else if x == '\'' || x == '"' then readQuoted x
  else if startsPlain s.inFlow c then readPlain
  else fail

/-- Reads tokens up to the end of the text. -/
def readAll : Nat → Lexing Unit
  | 0 => pure ()
  | fuel + 1 => do
    skipToToken ((← get).cursor.rest.length + 1)
    dropStale
    let s ← get
    unwindTo s.cursor.column
    match s.cursor.peek with
    | none => leaveDocument
    | some x => do
      readToken x
      readAll fuel

end Lexer

/-- The tokens of a text. A mark for the order of bytes may stand in front of it. -/
def tokens (text : List Char) : Except Failure (List Token) := do
  if !text.all isAllowed then throw .malformed
  let text := match text with
    | '\uFEFF' :: rest => rest
    | _ => text
  let (_, s) ← (Lexer.readAll (text.length + 2)).run (Lexer.start text)
  return s.tokens.toList

end WebForm.Yaml
