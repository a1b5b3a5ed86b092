/-
Reading the text of a regular expression as a tree. The text is taken apart into units, a character or
a backslash with the character after it; the reader keeps what is left of it, the groups opened so far
and the options set for the whole expression. `read` also makes the checks that need the whole tree.

A character may be written by its name; which names there are is given by `CharacterNames`. Groups may
stand inside each other to any depth and repetitions may be counted with any number of digits here. The
interpreter runs out of stack or digits for some such texts: that is left to `Platform.searching`.
-/
import WebForm.Number.Numeral
import WebForm.Text.Alphabet
import WebForm.Text.CharacterNames
import WebForm.Pattern.Error

namespace WebForm.Pattern

/-! ## Units -/

/-- A lexical unit: a character, or a character after a backslash. -/
inductive Token where
  | char (c : Char)
  | escape (c : Char)
deriving DecidableEq

def Token.text : Token → List Char
  | char c => [c]
  | escape c => ['\\', c]

/-- Repetition counts have to stay below this number. -/
def repetitionLimit : Nat := 0xFFFFFFFF

/-- Group numbers in a condition have to stay below this number. -/
def groupLimit : Nat := 0x7FFFFFFF

/-- What stops the reader: a cause with its position, or a count that is too large. -/
inductive Stop where
  | invalid (cause : Cause) (position : Nat)
  | repetitionTooLarge

/-- What the reader knows: the length of the text and what is left of it, the widths of the groups
opened so far (none while a group is open), their names, the number of groups that a look-behind around
here may refer to, the options of the whole expression, and the groups that conditions refer to with
the positions of the first reference. -/
structure State where
  size : Nat
  rest : List Char
  widths : List (Option Width)
  names : List (String × Nat)
  fence : Option Nat
  flags : List Flag
  pending : List (Nat × Nat)

/-- The position of the next unit. -/
def State.position (s : State) : Nat := s.size - s.rest.length

/-- The number of groups, the whole match counted as one. -/
def State.groups (s : State) : Nat := s.widths.length + 1

/-- The width of a group that is closed. -/
def State.width? (s : State) (number : Nat) : Option Width :=
  if number = 0 then none else (s.widths[number - 1]?).join

/-- A step of the reader. -/
abbrev Reading := StateT State (Except Stop)

namespace Reading

/-- Stops with a cause found `offset` characters before the next unit. -/
def fail {α : Type} (cause : Cause) (offset : Nat) : Reading α :=
  fun s => .error (.invalid cause (s.position - offset))

/-- Stops with a cause found at a position. -/
def failAt {α : Type} (cause : Cause) (position : Nat) : Reading α :=
  fun _ => .error (.invalid cause position)

/-- Stops because a count is too large. -/
def tooLarge {α : Type} : Reading α := fun _ => .error .repetitionTooLarge

/-- The next unit of a text. -/
def unit? : List Char → Option Token
  | '\\' :: c :: _ => some (.escape c)
  | c :: _ => some (.char c)
  | [] => none

/-- The text after its first unit. -/
def afterUnit : List Char → List Char
  | '\\' :: _ :: r => r
  | _ :: r => r
  | [] => []

/-- The next unit, which stays there. -/
def peek : Reading (Option Token) := fun s => .ok (unit? s.rest, s)

/-- The position of the next unit. -/
def position : Reading Nat := fun s => .ok (s.position, s)

/-- Goes on to a text that is left; a single backslash at its end is refused as soon as it comes next. -/
def moveTo (rest : List Char) : Reading Unit := fun s =>
  if rest = ['\\'] then .error (.invalid .endsInEscape (s.size - 1)) else .ok ((), { s with rest := rest })

/-- The next unit, which is taken. -/
def take : Reading (Option Token) := fun s => (do moveTo (afterUnit s.rest); return unit? s.rest : Reading _) s

/-- Takes the next unit if it is the given character. -/
def accept (c : Char) : Reading Bool := do
  if (← peek) = some (.char c) then
    let _ ← take
    return true
  else return false

/-- Takes at most `count` characters of a class. -/
def takeSome (p : Char → Bool) : Nat → Reading (List Char)
  | 0 => return []
  | count + 1 => do
    match ← peek with
    | some (.char c) =>
      if p c then
        let _ ← take
        return c :: (← takeSome p count)
      else return []
    | _ => return []

/-- Takes all characters of a class that come next. -/
def takeAll (p : Char → Bool) : Reading (List Char) := do takeSome p (← get).rest.length

/-- Takes the units up to a terminator and the terminator; `found` holds their text so far. -/
def takeUntil (terminator : Char) (what : String) : Nat → List Char → Reading (List Char)
  | 0, _ => fail (.missingName what) 0
  | fuel + 1, found => do
    match ← take with
    | none =>
      if found = [] then fail (.missingName what) 0
      else fail (.unterminatedName terminator) found.length
    | some t =>
      if t = .char terminator then
        if found = [] then fail (.missingName what) 1 else return found
      else takeUntil terminator what fuel (found ++ t.text)

/-- Takes a name up to a terminator and the terminator. -/
def takeName (terminator : Char) (what : String) : Reading (List Char) := do
  takeUntil terminator what ((← get).rest.length + 1) []

end Reading

open Reading

/-! ## Escapes -/

/-- Whether a character is a digit in base eight. -/
def isOctal (c : Char) : Bool := '0' ≤ c && c ≤ '7'

/-- The control characters with an escape letter. -/
def controlEscape? : Char → Option Nat
  | 'a' => some 7
  | 'b' => some 8
  | 'f' => some 12
  | 'n' => some 10
  | 'r' => some 13
  | 't' => some 9
  | 'v' => some 11
  | '\\' => some 92
  | _ => none

/-- The kinds of character with an escape letter. -/
def kindEscape? : Char → Option (Kind × Bool)
  | 'd' => some (.digit, true)
  | 'D' => some (.digit, false)
  | 's' => some (.space, true)
  | 'S' => some (.space, false)
  | 'w' => some (.word, true)
  | 'W' => some (.word, false)
  | _ => none

/-- The places with an escape letter. -/
def anchorEscape? : Char → Option Anchor
  | 'A' => some .textStart
  | 'b' => some .wordBoundary
  | 'B' => some .notWordBoundary
  | 'Z' => some .textEnd
  | _ => none

/-- Reads the digits of a hexadecimal escape of fixed length. -/
def readHex (letter : Char) (count : Nat) : Reading Nat := do
  let ds ← takeSome (fun c => (hexDigit? c).isSome) count
  let text := '\\' :: letter :: ds
  if ds.length ≠ count then fail (.incompleteEscape (String.ofList text)) text.length
  else
    let n := ofDigits 16 ds
    if 0x10FFFF < n then fail (.badEscape (String.ofList text)) text.length else return n

/-- Reads the name of an escape by name, and gives the code point of the character with this name. -/
def readCharacterName [CharacterNames] : Reading Nat := do
  if !(← accept '\x7b') then fail .missingBrace 0
  else
    let name ← takeName '\x7d' "character name"
    match CharacterNames.character? (String.ofList name) with
    | some c => return c.toNat
    | none => fail (.unknownCharacterName (String.ofList name)) (name.length + 4)

/-- The code point of an octal escape, which has to fit a byte. -/
def octalCode (digits : List Char) : Reading Nat := do
  let n := ofDigits 8 digits
  let text := '\\' :: digits
  if 0o377 < n then fail (.octalTooLarge (String.ofList text)) text.length else return n

/-- A character after a backslash that stands for itself; letters and digits do not. -/
def plainEscape (c : Char) : Reading Nat :=
  if c.isAlphanum then fail (.badEscape (String.ofList ['\\', c])) 2 else return c.toNat

/-- Reads an escape inside a character class. -/
def readClassEscape [CharacterNames] (c : Char) : Reading Item := do
  match controlEscape? c with
  | some n => return .code n
  | none =>
    match kindEscape? c with
    | some (k, inside) => return .kind k inside
    | none =>
      if c = 'x' then return .code (← readHex c 2)
      else if c = 'u' then return .code (← readHex c 4)
      else if c = 'U' then return .code (← readHex c 8)
      else if c = 'N' then return .code (← readCharacterName)
      else if isOctal c then
        let ds ← takeSome isOctal 2
        return .code (← octalCode (c :: ds))
      else return .code (← plainEscape c)

/-- Checks that a look-behind around here may refer to a group. -/
def checkFence (number : Nat) : Reading Unit := do
  let s ← get
  match s.fence with
  | none => return ()
  | some bound =>
    if (s.width? number).isNone then fail .openGroup 0
    else if bound ≤ number then fail .groupOfSameLookbehind 0
    else return ()

/-- A reference to a group by the digits of its number. -/
def readReference (digits : List Char) : Reading Node := do
  let s ← get
  let number := ofDigits 10 digits
  if s.groups ≤ number then fail (.unknownGroup number) digits.length
  else
    match s.width? number with
    | none => fail .openGroup (digits.length + 1)
    | some w =>
      checkFence number
      return .backref number w

/-- Reads an escape that starts with a digit other than zero: an octal code if three octal digits stand
here, else a reference to a group. -/
def readNumberEscape (c : Char) : Reading Node := do
  match ← peek with
  | some (.char d) =>
    if isDecimalDigit d then
      let _ ← take
      match ← peek with
      | some (.char e) =>
        if isOctal c && isOctal d && isOctal e then
          let _ ← take
          return .char (← octalCode [c, d, e]) true
        else readReference [c, d]
      | _ => readReference [c, d]
    else readReference [c]
  | _ => readReference [c]

/-- Reads an escape outside character classes. -/
def readEscape [CharacterNames] (c : Char) : Reading Node := do
  match anchorEscape? c with
  | some a => return .anchor a
  | none =>
    match kindEscape? c with
    | some (k, inside) => return .set [.kind k inside] true
    | none =>
      match controlEscape? c with
      | some n => return .char n true
      | none =>
        if c = 'x' then return .char (← readHex c 2) true
        else if c = 'u' then return .char (← readHex c 4) true
        else if c = 'U' then return .char (← readHex c 8) true
        else if c = 'N' then return .char (← readCharacterName) true
        else if c = '0' then
          let ds ← takeSome isOctal 2
          return .char (ofDigits 8 (c :: ds)) true
        else if isDecimalDigit c then readNumberEscape c
        else return .char (← plainEscape c) true

/-! ## Character classes -/

/-- Reads one member of a class that starts with the given unit. -/
def readItem [CharacterNames] (t : Token) : Reading Item :=
  match t with
  | .escape c => readClassEscape c
  | .char c => return .code c.toNat

/-- A range between two members, which have to be characters in order. -/
def makeRange (lo hi : Token) (a b : Item) : Reading Item :=
  let bad : Reading Item :=
    fail (.badRange (String.ofList lo.text) (String.ofList hi.text)) (lo.text.length + 1 + hi.text.length)
  match a, b with
  | .code m, .code n => if n < m then bad else return .range m n
  | _, _ => bad

/-- Reads the members of a class up to its closing bracket, which counts as a member where there is none
before it. `start` is the position of the opening bracket. -/
def readItems [CharacterNames] (start : Nat) : Nat → List Item → Reading (List Item)
  | 0, _ => failAt .unterminatedSet start
  | fuel + 1, found => do
    match ← take with
    | none => failAt .unterminatedSet start
    | some t =>
      if t = .char ']' ∧ found ≠ [] then return found
      else
        let a ← readItem t
        if ← accept '-' then
          match ← take with
          | none => failAt .unterminatedSet start
          | some u =>
            if u = .char ']' then return found ++ [a, .code 45]
            else
              let b ← readItem u
              readItems start fuel (found ++ [← makeRange t u a b])
        else readItems start fuel (found ++ [a])

/-- A class as a node; a class of one character is that character. -/
def classNode (items : List Item) (inside : Bool) : Node :=
  match items.eraseDups with
  | [.code n] => .char n inside
  | distinct => .set distinct inside

/-- Reads a class after its opening bracket. -/
def readClass [CharacterNames] : Reading Node := do
  let start := (← position) - 1
  let negated ← accept '^'
  let items ← readItems start ((← get).rest.length + 1) []
  return classNode items (!negated)

/-! ## Repetition -/

/-- A count written in digits; no digits stand for a default. -/
def readCount (digits : List Char) (default : Option Nat) : Reading (Option Nat) :=
  if digits = [] then return default
  else
    let n := ofDigits 10 digits
    if repetitionLimit ≤ n then tooLarge else return some n

/-- Reads bounds after an opening brace; none if what stands there are no bounds, and nothing is taken
then. -/
def readBounds : Reading (Option (Nat × Option Nat)) := do
  let s ← get
  if (← peek) = some (.char '\x7d') then return none
  else
    let lo ← takeAll isDecimalDigit
    let hi ← if ← accept ',' then takeAll isDecimalDigit else pure lo
    if !(← accept '\x7d') then
      moveTo s.rest
      return none
    else
      let least ← readCount lo (some 0)
      let most ← readCount hi none
      match least, most with
      | some m, some n => if n < m then failAt .boundsOutOfOrder s.position else return some (m, some n)
      | least, most => return some (least.getD 0, most)

/-- Reads the sign after a repetition that says how it chooses. -/
def readGreed : Reading Greed := do
  if ← accept '?' then return .lazy
  else if ← accept '+' then return .possessive
  else return .greedy

/-- Repeats the last of the nodes read so far, given in reverse. `start` is the position of the sign. -/
def repeatLast (start least : Nat) (most : Option Nat) : List Node → Reading (List Node)
  | [] => failAt .nothingToRepeat start
  | .anchor _ :: _ => failAt .nothingToRepeat start
  | .rep _ _ _ _ :: _ => failAt .multipleRepeat start
  | .withFlags [] [] body :: before => do return .rep (← readGreed) least most body :: before
  | node :: before => do return .rep (← readGreed) least most node :: before

/-- Reads a repetition that starts with the given sign; a brace without bounds stands for itself. -/
def readRepetition (sign : Char) (nodes : List Node) : Reading (List Node) := do
  let start := (← position) - 1
  if sign = '?' then repeatLast start 0 (some 1) nodes
  else if sign = '*' then repeatLast start 0 none nodes
  else if sign = '+' then repeatLast start 1 none nodes
  else
    match ← readBounds with
    | some (least, most) => repeatLast start least most nodes
    | none => return .char sign.toNat true :: nodes

/-! ## Flags -/

def flag? : Char → Option Flag
  | 'i' => some .ignoreCase
  | 'm' => some .multiline
  | 's' => some .dotAll
  | 'x' => some .verbose
  | 'a' => some .ascii
  | 'u' => some .unicode
  | 't' => some .bare
  | _ => none

/-- Whether a letter is a flag, known here or not. -/
def isFlagLetter (c : Char) : Bool := (flag? c).isSome || c == 'L'

/-- Whether a flag chooses the kinds of character. -/
def Flag.isKind (f : Flag) : Bool := f == .ascii || f == .unicode

/-- Whether a unit is a letter. -/
def Token.isLetter : Token → Bool
  | char c => isAlphanumeric c && nameStart.contains c.toNat
  | escape _ => false

/-- Reads the flags that are switched on, from the given letter; gives the sign after them too. -/
def readFlagsOn : Nat → Char → List Flag → Reading (List Flag × Char)
  | 0, _, _ => fail .missingFlagEnd 0
  | fuel + 1, c, on => do
    match flag? c with
    | none => fail .localeFlag 0
    | some f =>
      let on := on ++ [f]
      if f.isKind && on.any (fun g => g.isKind && g != f) then fail .incompatibleFlags 0
      else
        match ← take with
        | none => fail .missingFlagEnd 0
        | some (.escape d) => fail .missingFlagEnd (Token.text (.escape d)).length
        | some (.char d) =>
          if d = ')' ∨ d = '-' ∨ d = ':' then return (on, d)
          else if isFlagLetter d then readFlagsOn fuel d on
          else fail (if Token.isLetter (.char d) then .unknownFlag else .missingFlagEnd) 1

/-- Reads the flags that are switched off, from the given letter up to the colon. -/
def readFlagsOff : Nat → Char → List Flag → Reading (List Flag)
  | 0, _, _ => fail .missingColon 0
  | fuel + 1, c, off => do
    match (flag? c).filter (fun f => !f.isKind) with
    | none => fail .kindFlagOff 0
    | some f =>
      let off := off ++ [f]
      match ← take with
      | none => fail .missingColon 0
      | some (.escape d) => fail .missingColon (Token.text (.escape d)).length
      | some (.char d) =>
        if d = ':' then return off
        else if isFlagLetter d then readFlagsOff fuel d off
        else fail (if Token.isLetter (.char d) then .unknownFlag else .missingColon) 1

/-- Reads the first letter of the flags that are switched off. -/
def readFirstOff : Reading Char := do
  match ← take with
  | none => fail .missingFlag 0
  | some (.escape d) => fail .missingFlag (Token.text (.escape d)).length
  | some (.char d) =>
    if isFlagLetter d then return d
    else fail (if Token.isLetter (.char d) then .unknownFlag else .missingFlag) 1

/-- Reads flags from the given letter or minus sign: the ones switched on and off for a group, or none
if they were for the whole expression, in which case they are set. -/
def readFlags (c : Char) : Reading (Option (List Flag × List Flag)) := do
  let fuel := (← get).rest.length + 1
  let (on, sign) ← if c = '-' then pure ([], '-') else readFlagsOn fuel c []
  if sign = ')' then
    modify fun s => { s with flags := s.flags ++ on }
    return none
  else if on.contains .bare then fail .globalFlagOn 1
  else
    let off ← if sign = '-' then do readFlagsOff fuel (← readFirstOff) [] else pure []
    if off.contains .bare then fail .globalFlagOff 1
    else if on.any off.contains then fail .flagOnAndOff 1
    else return some (on, off)

/-! ## Groups -/

/-- Opens a group, under a name if it has one, and gives its number. -/
def openGroup (name : Option (List Char)) : Reading Nat := do
  let s ← get
  let number := s.groups
  match name with
  | none =>
    set { s with widths := s.widths ++ [none] }
    return number
  | some chars =>
    let name := String.ofList chars
    match s.names.lookup name with
    | some earlier => fail (.repeatedGroupName name number earlier) (chars.length + 1)
    | none =>
      set { s with widths := s.widths ++ [none], names := s.names ++ [(name, number)] }
      return number

/-- Closes a group with what it matches. -/
def closeGroup (number : Nat) (body : Node) : Reading Unit :=
  modify fun s => { s with widths := s.widths.set (number - 1) (some body.width) }

/-- Checks the name of a group just read with its terminator. -/
def checkName (name : List Char) : Reading Unit :=
  if isName name then return () else fail (.badGroupName (String.ofList name)) (name.length + 1)

def readNamedReference : Reading Node := do
  let name ← takeName ')' "group name"
  checkName name
  let s ← get
  match s.names.lookup (String.ofList name) with
  | none => fail (.unknownGroupName (String.ofList name)) (name.length + 1)
  | some number =>
    match s.width? number with
    | none => fail .openGroup (name.length + 1)
    | some w =>
      checkFence number
      return .backref number w

/-- Reads a natural number written with digits of any script, single underscores between them, a plus
sign before and blanks around them. -/
def readNatural? (text : List Char) : Option Nat :=
  let trimmed := ((text.dropWhile isSpace).reverse.dropWhile isSpace).reverse
  let (negative, ds) := DecimalNumeral.sign trimmed
  let step := fun (state : Option (Nat × Bool)) (c : Char) =>
    match state with
    | none => none
    | some (n, afterDigit) =>
      if c = '_' then (if afterDigit then some (n, false) else none)
      else (decimalValue? c).map fun d => (n * 10 + d, true)
  match ds.foldl step (some (0, false)) with
  | some (n, true) => if negative ∧ n ≠ 0 then none else some n
  | _ => none

/-- Reads the group that a condition refers to. -/
def readCondition : Reading Nat := do
  let name ← takeName ')' "group name"
  let s ← get
  if isName name then
    match s.names.lookup (String.ofList name) with
    | none => fail (.unknownGroupName (String.ofList name)) (name.length + 1)
    | some number =>
      checkFence number
      return number
  else
    match readNatural? name with
    | none => fail (.badGroupName (String.ofList name)) (name.length + 1)
    | some number =>
      if number = 0 then fail .badGroupNumber (name.length + 1)
      else if groupLimit ≤ number then fail (.unknownGroup number) (name.length + 1)
      else
        if (s.pending.lookup number).isNone then
          modify fun s => { s with pending := s.pending ++ [(number, s.position - name.length - 1)] }
        checkFence number
        return number

/-- What the parenthesis just opened introduces. -/
inductive Opening where
  | capture (name : Option (List Char))
  | plain (on off : List Flag)
  | atomic
  | look (ahead wanted : Bool)
  | condition (number : Nat)
  | done (node : Node)
  | comment
  | globalFlags

/-- Takes the rest of a comment; `start` is the position of its parenthesis. -/
def skipComment (start : Nat) : Nat → Reading Unit
  | 0 => failAt .unterminatedComment start
  | fuel + 1 => do
    match ← take with
    | none => failAt .unterminatedComment start
    | some t => if t = .char ')' then return () else skipComment start fuel

/-- Reads what follows `(?P`. -/
def readNamed : Reading Opening := do
  if ← accept '<' then
    let name ← takeName '>' "group name"
    checkName name
    return .capture (some name)
  else if ← accept '=' then return .done (← readNamedReference)
  else
    match ← take with
    | none => fail .unexpectedEnd 0
    | some t => fail (.unknownExtension (String.ofList ("?P".toList ++ t.text))) (t.text.length + 2)

/-- Reads what follows `(?<`. -/
def readBehind : Reading Opening := do
  match ← take with
  | none => fail .unexpectedEnd 0
  | some t =>
    if t = .char '=' then return .look false true
    else if t = .char '!' then return .look false false
    else fail (.unknownExtension (String.ofList ("?<".toList ++ t.text))) (t.text.length + 2)

/-- Reads what follows `(?`; `start` is the position of the parenthesis. -/
def readExtension (start : Nat) : Reading Opening := do
  match ← take with
  | none => fail .unexpectedEnd 0
  | some t =>
    let unknown : Reading Opening :=
      fail (.unknownExtension (String.ofList ('?' :: t.text))) (t.text.length + 1)
    match t with
    | .escape _ => unknown
    | .char c =>
      if c = 'P' then readNamed
      else if c = ':' then return .plain [] []
      else if c = '#' then
        skipComment start ((← get).rest.length + 1)
        return .comment
      else if c = '=' then return .look true true
      else if c = '!' then return .look true false
      else if c = '<' then readBehind
      else if c = '(' then return .condition (← readCondition)
      else if c = '>' then return .atomic
      else if isFlagLetter c || c == '-' then
        match ← readFlags c with
        | some (on, off) => return .plain on off
        | none => return .globalFlags
      else unknown

/-- Reads what a parenthesis just taken introduces; `start` is its position. -/
def readOpening (start : Nat) : Reading Opening := do
  if ← accept '?' then readExtension start else return .capture none

/-- Takes the closing parenthesis of the group that starts at a position. -/
def expectClose (start : Nat) : Reading Unit := do
  if ← accept ')' then return () else failAt .unterminatedGroup start

/-! ## Expressions -/

/-- Whether the options of the whole expression skip blanks and comments. -/
def State.isVerbose (s : State) : Bool := s.flags.contains .verbose

/-- Takes the rest of a line. -/
def skipLine : Nat → Reading Unit
  | 0 => return ()
  | fuel + 1 => do
    match ← take with
    | none => return ()
    | some t => if t = .char '\n' then return () else skipLine fuel

/-- The blanks that are skipped between units where the options ask for it. -/
def isSkippedBlank (c : Char) : Bool := c == ' ' || (9 ≤ c.toNat && c.toNat ≤ 13)

/-- The nodes that a node runs through one after another; a group without number and options is only
its contents. -/
def Node.parts : Node → List Node
  | .empty => []
  | .seq a b => a.parts ++ b.parts
  | .withFlags [] [] body => body.parts
  | n => [n]

/-- Whether a node has no parts, so that two of the kind can be the same. -/
def Node.isLeaf : Node → Bool
  | .char _ _ | .any | .set _ _ | .anchor _ | .backref _ _ => true
  | _ => false

/-- The number of leaves at the start of the first branch that all other branches start with too. -/
def sharedLength : List Node → List (List Node) → Nat
  | [], _ => 0
  | n :: first, others =>
    if n.isLeaf && others.all (fun o => o.head? == some n) then 1 + sharedLength first (others.map List.tail)
    else 0

/-- The members of a class that stands for a branch of one character. -/
def branchItems? : List Node → Option (List Item)
  | [.char n true] => some [.code n]
  | [.set items true] => some items
  | _ => none

/-- A branch as a node; a choice that is all of a branch is kept apart from the choice around it. -/
def branchNode (nodes : List Node) : Node :=
  match Node.ofList nodes with
  | .alt a b => .withFlags [] [] (.alt a b)
  | n => n

def choice : List (List Node) → Node
  | [] => .empty
  | [nodes] => branchNode nodes
  | nodes :: rest => .alt (branchNode nodes) (choice rest)

/-- Branches as one node: what they all start with comes first, and branches of one character each are
a class. -/
def ofBranches : List (List Node) → Node
  | [] => .empty
  | [nodes] => .ofList nodes
  | first :: others =>
    let shared := sharedLength first others
    let rests := (first :: others).map (List.drop shared)
    let last := match rests.mapM branchItems? with
      | some items => .set items.flatten.eraseDups true
      | none => choice rests
    .ofList (first.take shared ++ [last])

mutual

/-- Reads alternatives. On the outermost level each of them starts under the options set so far. -/
def readBranches [CharacterNames] (outermost : Bool) : Nat → Bool → Bool → Reading (List (List Node))
  | 0, _, _ => fail .unexpectedEnd 0
  | fuel + 1, verbose, first => do
    let nodes ← readSequence fuel verbose (outermost && first) []
    if ← accept '|' then
      let s ← get
      let verbose := if outermost then s.isVerbose else verbose
      let rest ← readBranches outermost fuel verbose false
      return nodes :: rest
    else return [nodes]

/-- Reads units up to the end of an alternative. `nodes` holds the nodes so far in reverse, and `first`
says whether options for the whole expression may still be set here. -/
def readSequence [CharacterNames] : Nat → Bool → Bool → List Node → Reading (List Node)
  | 0, _, _, _ => fail .unexpectedEnd 0
  | fuel + 1, verbose, first, nodes => do
    match ← peek with
    | none | some (.char '|') | some (.char ')') => return nodes.reverse.flatMap Node.parts
    | some t =>
      let start ← position
      let _ ← take
      match t with
      | .escape c =>
        let node ← readEscape c
        readSequence fuel verbose first (node :: nodes)
      | .char c =>
        if verbose && isSkippedBlank c then readSequence fuel verbose first nodes
        else if verbose && c == '#' then
          skipLine ((← get).rest.length + 1)
          readSequence fuel verbose first nodes
        else if c = '[' then
          let node ← readClass
          readSequence fuel verbose first (node :: nodes)
        else if c = '*' ∨ c = '+' ∨ c = '?' ∨ c = '\x7b' then
          let nodes ← readRepetition c nodes
          readSequence fuel verbose first nodes
        else if c = '.' then readSequence fuel verbose first (.any :: nodes)
        else if c = '^' then readSequence fuel verbose first (.anchor .lineStart :: nodes)
        else if c = '$' then readSequence fuel verbose first (.anchor .lineEnd :: nodes)
        else if c = '(' then
          match ← readOpening start with
          | .comment => readSequence fuel verbose first nodes
          | .globalFlags =>
            if !first || !nodes.isEmpty then failAt .lateFlags start
            else
              let verbose := (← get).isVerbose
              readSequence fuel verbose first nodes
          | .done node => readSequence fuel verbose first (node :: nodes)
          | opening =>
            let node ← readGroup fuel verbose start opening
            readSequence fuel verbose first (node :: nodes)
        else readSequence fuel verbose first (.char c.toNat true :: nodes)

/-- Reads the contents of a group and its closing parenthesis. -/
def readGroup [CharacterNames] : Nat → Bool → Nat → Opening → Reading Node
  | 0, _, _, _ => fail .unexpectedEnd 0
  | fuel + 1, verbose, start, opening => do
    match opening with
    | .capture name =>
      let number ← openGroup name
      let body := ofBranches (← readBranches false fuel verbose false)
      expectClose start
      closeGroup number body
      return .group number body
    | .plain on off =>
      let inner := (verbose || on.contains .verbose) && !off.contains .verbose
      let body := ofBranches (← readBranches false fuel inner false)
      expectClose start
      return .withFlags on off body
    | .atomic =>
      let body := ofBranches (← readBranches false fuel verbose false)
      expectClose start
      return .atomic body
    | .look true wanted =>
      let body := ofBranches (← readBranches false fuel verbose false)
      expectClose start
      return .lookahead body wanted
    | .look false wanted =>
      let fence := (← get).fence
      modify fun s => { s with fence := some (s.fence.getD s.groups) }
      let body := ofBranches (← readBranches false fuel verbose false)
      modify fun s => { s with fence := fence }
      expectClose start
      return .lookbehind body wanted
    | .condition number =>
      let yes ← readSequence fuel verbose false []
      if ← accept '|' then
        let no ← readSequence fuel verbose false []
        if (← peek) = some (.char '|') then fail .thirdBranch 0
        else
          expectClose start
          return .cond number (.ofList yes) (.ofList no)
      else
        expectClose start
        return .cond number (.ofList yes) .empty
    | .done node => return node
    | .comment | .globalFlags => return .empty

end

/-! ## Checks on the whole tree -/

/-- The first node, in the order of the text, that may not stand in the tree: a look-behind of no fixed
width, or a repetition where the options exclude it. -/
def Node.defect? (bare : Bool) : Node → Option Cause
  | .empty | .char _ _ | .any | .set _ _ | .anchor _ | .backref _ _ => none
  | .seq a b | .alt a b | .cond _ a b => (a.defect? bare).or (b.defect? bare)
  | .group _ b | .withFlags _ _ b | .atomic b | .lookahead b _ => b.defect? bare
  | .rep greed _ _ b => if bare then some (.repetitionWhenBare greed) else b.defect? bare
  | .lookbehind b _ =>
    if 0x100000000 ≤ b.width.least then some .longLookbehind
    else if b.width.least ≠ b.width.most then some .variableLookbehind
    else b.defect? bare

/-- An expression: its tree and the options set for the whole of it. -/
structure Expression where
  node : Node
  mode : Mode
deriving DecidableEq

def readWhole [CharacterNames] : Reading Node := do
  let s ← get
  moveTo s.rest
  let branches ← readBranches true (2 * s.size + 4) false true
  return ofBranches branches

/-- Reads a text as a regular expression. -/
def read [CharacterNames] (text : List Char) : Except Error Expression :=
  let located := fun cause position => Error.invalid cause (some (.of text position))
  match readWhole ⟨text.length, text, [], [], none, [], []⟩ with
  | .error .repetitionTooLarge => .error .repetitionTooLarge
  | .error (.invalid cause position) => .error (located cause position)
  | .ok (node, s) =>
    if s.flags.contains .ascii && s.flags.contains .unicode then .error .conflictingFlags
    else if s.rest ≠ [] then .error (located .unbalancedParenthesis s.position)
    else
      match s.pending.find? fun p => s.groups ≤ p.1 with
      | some (number, position) => .error (located (.unknownGroup number) position)
      | none =>
        match node.defect? (s.flags.contains .bare) with
        | some cause => .error (.invalid cause none)
        | none => .ok ⟨node, .ofFlags s.flags⟩

end WebForm.Pattern
