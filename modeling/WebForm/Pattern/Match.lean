/-
Matching a regular expression against a text. `Node.run` tries the ways in which a node can match in
order of preference and hands each outcome to a continuation, until one leads to success; a repetition
stops going round once a round took no characters.
-/
import WebForm.Text.Alphabet
import WebForm.Pattern.Node

namespace WebForm.Pattern

/-! ## Kinds of character -/

/-- Whether a character is of a kind, in ASCII alone or in every script. -/
def Kind.contains (ascii : Bool) (k : Kind) (c : Char) : Bool :=
  match k with
  | .digit => if ascii || c.toNat < 128 then isDecimalDigit c else decimalDigits.contains c.toNat
  | .space => if ascii then c == ' ' || (9 ≤ c.toNat && c.toNat ≤ 13) else isSpace c
  | .word => c == '_' || (if ascii then c.isAlphanum else isAlphanumeric c)

/-! ## Case -/

/-- How case is ignored: the form in which characters are compared, the other such forms with the same
upper case, and the characters with a given form. -/
structure Folding where
  fold : Nat → Nat
  variants : Nat → List Nat
  sources : Nat → List Nat
  isCased : Nat → Bool
  anyCased : Nat → Nat → Bool

namespace Folding

/-- Case is ignored among ASCII letters alone. -/
def ascii : Folding where
  fold n := if 65 ≤ n ∧ n ≤ 90 then n + 32 else n
  variants _ := []
  sources n := if 65 ≤ n ∧ n ≤ 90 then [] else if 97 ≤ n ∧ n ≤ 122 then [n, n - 32] else [n]
  isCased n := (65 ≤ n && n ≤ 90) || (97 ≤ n && n ≤ 122)
  anyCased lo hi := (lo ≤ 90 && 65 ≤ hi) || (lo ≤ 122 && 97 ≤ hi)

/-- Case is ignored among the letters of every script. -/
def full : Folding where
  fold := lowerCode
  variants := variantsOf
  sources n := (if lowerCode n = n then [n] else []) ++ lowerRuns.sources n
  isCased n := lowerCode n != n || upperCode n != n
  anyCased lo hi := lowerRuns.meets lo hi || upperRuns.meets lo hi

/-- Whether a character is the given one, case ignored. -/
def sameChar (f : Folding) (code : Nat) (c : Char) : Bool :=
  if f.isCased code then
    let lo := f.fold code
    f.fold c.toNat == lo || (f.variants lo).contains (f.fold c.toNat)
  else c.toNat == code

/-- Whether ignoring case makes a difference to a member of a class. Members beyond the basic plane
always count. -/
def touches (f : Folding) : Item → Bool
  | .code n => f.isCased n || 0x10000 ≤ f.fold n
  | .range lo hi => f.anyCased lo hi || 0x10000 ≤ hi
  | .kind _ _ => false

end Folding

/-! ## One character -/

/-- Whether a class member takes a character. -/
def Item.holds (ascii : Bool) (c : Char) : Item → Bool
  | .code n => c.toNat == n
  | .range lo hi => lo ≤ c.toNat && c.toNat ≤ hi
  | .kind k inside => k.contains ascii c == inside

/-- Whether a class member takes a character with the given folded form, case ignored. A member beyond
the basic plane is compared as it is written, a range there also by upper case. -/
def Item.holdsFolded (f : Folding) (ascii : Bool) (x : Nat) : Item → Bool
  | .code n =>
    if f.fold n < 0x10000 then x == f.fold n || (f.variants (f.fold n)).contains x else x == n
  | .range lo hi =>
    ((x :: f.variants x).any fun y => (f.sources y).any fun n => lo ≤ n && n ≤ min hi 0xFFFF)
      || (0x10000 ≤ hi && ((lo ≤ x && x ≤ hi) || (lo ≤ upperCode x && upperCode x ≤ hi)))
  | .kind k inside => k.contains ascii (Char.ofNat x) == inside

/-- Whether one of the class members takes a character. -/
def itemsHold (mode : Mode) (items : List Item) (c : Char) : Bool :=
  let f := if mode.ascii then Folding.ascii else Folding.full
  if mode.ignoreCase && items.any f.touches then items.any (·.holdsFolded f mode.ascii (f.fold c.toNat))
  else items.any (·.holds mode.ascii c)

/-- Whether a character is the given one. -/
def charHolds (mode : Mode) (code : Nat) (c : Char) : Bool :=
  if mode.ignoreCase then (if mode.ascii then Folding.ascii else Folding.full).sameChar code c
  else c.toNat == code

/-- Whether two characters of the text count as the same. -/
def sameInText (mode : Mode) (c d : Char) : Bool :=
  if mode.ignoreCase then
    let f := if mode.ascii then Folding.ascii else Folding.full
    f.fold c.toNat == f.fold d.toNat
  else c == d

/-! ## Places -/

/-- Whether a word character stands at a position. -/
def wordAt (mode : Mode) (text : Array Char) (position : Nat) : Bool :=
  match text[position]? with
  | some c => Kind.word.contains mode.ascii c
  | none => false

/-- Whether the words before and at a position differ. -/
def wordChanges (mode : Mode) (text : Array Char) (position : Nat) : Bool :=
  (0 < position && wordAt mode text (position - 1)) != wordAt mode text position

/-- Whether a position is a place. An empty text has neither word boundaries nor other positions. -/
def Anchor.holds (mode : Mode) (text : Array Char) (position : Nat) : Anchor → Bool
  | .lineStart => position == 0 || (mode.multiline && text[position - 1]? == some '\n')
  | .lineEnd =>
    position == text.size
      || (text[position]? == some '\n' && (mode.multiline || position + 1 == text.size))
  | .textStart => position == 0
  | .textEnd => position == text.size
  | .wordBoundary => text.size != 0 && wordChanges mode text position
  | .notWordBoundary => text.size != 0 && !wordChanges mode text position

/-! ## States -/

/-- How far a match got: its position, and where groups were last entered and left. -/
structure Match where
  position : Nat
  entered : List (Nat × Nat)
  left : List (Nat × Nat)
deriving DecidableEq

/-- Sets the place noted for a group. -/
def note (number place : Nat) : List (Nat × Nat) → List (Nat × Nat)
  | [] => [(number, place)]
  | (n, p) :: rest => if n = number then (n, place) :: rest else (n, p) :: note number place rest

namespace Match

/-- A match that starts at a position. -/
def start (position : Nat) : Match := ⟨position, [], []⟩

/-- The match after one more character. -/
def step (m : Match) : Match := { m with position := m.position + 1 }

/-- The match with a group entered. -/
def enter (m : Match) (number : Nat) : Match := { m with entered := note number m.position m.entered }

/-- The match with a group left. -/
def leave (m : Match) (number : Nat) : Match := { m with left := note number m.position m.left }

/-- The stretch that a group remembers, if it matched. -/
def stretch? (m : Match) (number : Nat) : Option (Nat × Nat) :=
  match m.entered.lookup number, m.left.lookup number with
  | some a, some b => if a ≤ b then some (a, b) else none
  | _, _ => none

end Match

/-- Whether `count` characters at two positions of the text count as the same. -/
def sameStretch (mode : Mode) (text : Array Char) (a b : Nat) : Nat → Bool
  | 0 => true
  | count + 1 =>
    match text[a]?, text[b]? with
    | some c, some d => sameInText mode c d && sameStretch mode text (a + 1) (b + 1) count
    | _, _ => false

/-! ## Outcomes -/

/-- How an attempt ends: with a match, or stuck. An attempt that got stuck leaves behind the position
that it noted last, where it had to choose or to look around. -/
inductive Outcome where
  | found (m : Match)
  | stuck (noted : Nat)
deriving DecidableEq

/-- What follows a match, given the position noted last. -/
abbrev Continuation := Match → Nat → Outcome

def Outcome.isFound : Outcome → Bool
  | found _ => true
  | stuck _ => false

/-! ## What comes next -/

/-- What the first step of a node asks of the next character, if that can be told before it is tried. -/
inductive Head where
  | char (code : Nat)
  | set (items : List Item) (inside : Bool)
  | other
deriving DecidableEq

namespace Head

/-- Whether a head leaves a chance at the next character of a text, or at its end. -/
def admits (mode : Mode) : Head → Option Char → Bool
  | char code, some c => c.toNat == code
  | set items inside, some c => itemsHold mode items c == inside
  | other, _ => true
  | _, none => false

/-- Whether a head names a character other than the next one of a text. -/
def excludes : Head → Option Char → Bool
  | char code, some c => c.toNat != code
  | char _, none => true
  | _, _ => false

end Head

namespace Mode

/-- How case is ignored under the options. -/
def folding (mode : Mode) : Folding := if mode.ascii then .ascii else .full

/-- Whether ignoring case changes the meaning of class members. -/
def touches (mode : Mode) (items : List Item) : Bool := mode.ignoreCase && items.any mode.folding.touches

end Mode

namespace Node

/-- The head of a node that is followed by something with head `after`. -/
def head : Node → Mode → Head → Head
  | empty, _, after => after
  | char code true, mode, _ => if mode.ignoreCase && mode.folding.isCased code then .other else .char code
  | set items inside, mode, _ => if mode.touches items then .other else .set items inside
  | seq a b, mode, after => a.head mode (b.head mode after)
  | withFlags on off body, mode, after => body.head (mode.change on off) after
  | _, _, _ => .other

/-- The test of a node that takes exactly one character. -/
def unit? : Node → Mode → Option (Char → Bool)
  | char code inside, mode => some fun c => charHolds mode code c == inside
  | any, mode => some fun c => mode.dotAll || c != '\n'
  | set items inside, mode => some fun c => itemsHold mode items c == inside
  | withFlags on off body, mode => body.unit? (mode.change on off)
  | _, _ => none

/-- Whether a node is a choice. -/
def isAlt : Node → Bool
  | alt _ _ => true
  | _ => false

end Node

/-! ## Repeating one character -/

/-- The number of characters from a position on that pass a test, at most `limit`. -/
def runLength (text : Array Char) (test : Char → Bool) : Nat → Nat → Nat
  | 0, _ => 0
  | limit + 1, position =>
    match text[position]? with
    | some c => if test c then 1 + runLength text test limit (position + 1) else 0
    | none => 0

/-- The match moved on by some characters. -/
def Match.advance (m : Match) (count : Nat) : Match := { m with position := m.position + count }

/-- Goes on after `least + extra` characters, and after fewer where that fails. Places at which the
character that has to follow does not stand are passed over. -/
def backOff (text : Array Char) (after : Head) (least : Nat) (m : Match) (next : Continuation) :
    Nat → Nat → Outcome
  | extra, noted =>
    let m' := m.advance (least + extra)
    let tried := if after.excludes text[m'.position]? then .stuck noted else next m' m'.position
    match extra, tried with
    | _, .found found => .found found
    | 0, .stuck noted => .stuck noted
    | extra + 1, .stuck noted => backOff text after least m next extra noted

/-- Goes on after `count` characters, and after more where that fails and there are more that pass the
test; `fuel` bounds how many more. -/
def moveOn (text : Array Char) (test : Char → Bool) (m : Match) (next : Continuation) : Nat → Nat → Outcome
  | fuel, count =>
    let m' := m.advance count
    match fuel, next m' m'.position with
    | _, .found found => .found found
    | 0, .stuck _ => .stuck m'.position
    | fuel + 1, .stuck _ =>
      match text[m'.position]? with
      | some c => if test c then moveOn text test m next fuel (count + 1) else .stuck m'.position
      | none => .stuck m'.position

/-- Repeats one character that passes a test. -/
def repeatUnit (text : Array Char) (test : Char → Bool) (greed : Greed) (least : Nat) (most : Option Nat)
    (after : Head) (m : Match) (noted : Nat) (next : Continuation) : Outcome :=
  let room := text.size - m.position
  let limit := match most with
    | some n => min n room
    | none => room
  if room < least then .stuck noted
  else
    let count := runLength text test limit m.position
    if count < least then .stuck m.position
    else
      match greed with
      | .greedy => backOff text after least m next (count - least) m.position
      | .lazy => moveOn text test m next (limit - least) least
      | .possessive => next (m.advance count) m.position

/-! ## Repeating -/

/-- Rounds of `body` as long as that works out, then `next`. `count` rounds are behind, and `last` is
the position where the last round past the least number began; no round begins there again. -/
def greedyRounds (body : Match → Nat → Continuation → Outcome) (least : Nat) (most : Option Nat)
    (next : Continuation) : Nat → Nat → Option Nat → Match → Outcome
  | 0, _, _, m => .stuck m.position
  | fuel + 1, count, last, m =>
    let another := if count < least then
        body m m.position fun m' _ => greedyRounds body least most next fuel (count + 1) last m'
      else if most.all (count < ·) && last != some m.position then
        body m m.position fun m' _ => greedyRounds body least most next fuel (count + 1) (some m.position) m'
      else .stuck m.position
    match another with
    | .found found => .found found
    | .stuck _ =>
      if count < least then .stuck m.position
      else
        match next m m.position with
        | .found found => .found found
        | .stuck _ => .stuck m.position

/-- `next` as soon as there were enough rounds of `body`, and another round where that fails. -/
def lazyRounds (body : Match → Nat → Continuation → Outcome) (least : Nat) (most : Option Nat)
    (next : Continuation) : Nat → Nat → Option Nat → Match → Outcome
  | 0, _, _, m => .stuck m.position
  | fuel + 1, count, last, m =>
    let settled := if count < least then .stuck m.position else next m m.position
    match settled with
    | .found found => .found found
    | .stuck _ =>
      let another := if count < least then
          body m m.position fun m' _ => lazyRounds body least most next fuel (count + 1) last m'
        else if most.all (count < ·) && last != some m.position then
          body m m.position fun m' _ => lazyRounds body least most next fuel (count + 1) (some m.position) m'
        else .stuck m.position
      match another with
      | .found found => .found found
      | .stuck _ => .stuck m.position

/-- As many rounds of `body` as there can be, each settled before the next. After the least number, a
round that gets stuck ends the repetition at the position that the round noted last. -/
def possessiveRounds (body : Match → Outcome) (least : Nat) (most : Option Nat) :
    Nat → Nat → Option Nat → Match → Option Match
  | 0, _, _, _ => none
  | fuel + 1, count, last, m =>
    if count < least then
      match body m with
      | .found m' => possessiveRounds body least most fuel (count + 1) last m'
      | .stuck _ => none
    else if most.all (count < ·) && last != some m.position then
      match body m with
      | .found m' => possessiveRounds body least most fuel (count + 1) (some m.position) m'
      | .stuck noted => some { m with position := noted }
    else some m

/-! ## Matching -/

/-- More rounds than a repetition from a position can take: beyond the least number every round but
the last takes a character. -/
def roundLimit (text : Array Char) (least position : Nat) : Nat := least + (text.size - position) + 2

/-- Takes one character that passes a test. -/
def takeChar (text : Array Char) (test : Char → Bool) (m : Match) (noted : Nat) (next : Continuation) :
    Outcome :=
  match text[m.position]? with
  | some c => if test c then next m.step noted else .stuck noted
  | none => .stuck noted

/-- The end of a match that stands on its own. -/
def settle : Continuation := fun m _ => .found m

/-- The first outcome of matching a node from `m` on with which `next` succeeds. `after` is the head of
what follows the node, and `noted` the position noted last. -/
def Node.run (text : Array Char) : Node → Mode → Head → Match → Nat → Continuation → Outcome
  | .empty, _, _, m, noted, next => next m noted
  | .char code inside, mode, _, m, noted, next =>
    takeChar text (fun c => charHolds mode code c == inside) m noted next
  | .any, mode, _, m, noted, next => takeChar text (fun c => mode.dotAll || c != '\n') m noted next
  | .set items inside, mode, _, m, noted, next =>
    takeChar text (fun c => itemsHold mode items c == inside) m noted next
  | .anchor a, mode, _, m, noted, next => if a.holds mode text m.position then next m noted else .stuck noted
  | .seq a b, mode, after, m, noted, next =>
    a.run text mode (b.head mode after) m noted fun m' noted' => b.run text mode after m' noted' next
  | .alt a b, mode, _, m, noted, next =>
    let first := if (a.head mode .other).admits mode text[m.position]? then
        a.run text mode .other m m.position next
      else .stuck noted
    match first with
    | .found found => .found found
    | .stuck noted =>
      if b.isAlt then b.run text mode .other m noted next
      else if (b.head mode .other).admits mode text[m.position]? then
        b.run text mode .other m m.position next
      else .stuck noted
  | .group number body, mode, _, m, noted, next =>
    body.run text mode .other (m.enter number) noted fun m' noted' => next (m'.leave number) noted'
  | .withFlags on off body, mode, after, m, noted, next =>
    body.run text (mode.change on off) after m noted next
  | .atomic body, mode, _, m, _, next =>
    match body.run text mode .other m m.position settle with
    | .found m' => next m' m'.position
    | .stuck _ => .stuck m.position
  | .rep greed least most body, mode, after, m, noted, next =>
    match body.unit? mode with
    | some test => repeatUnit text test greed least most after m noted next
    | none =>
      let fuel := roundLimit text least m.position
      match greed with
      | .greedy =>
        greedyRounds (fun m' noted' k => body.run text mode .other m' noted' k) least most next fuel 0 none m
      | .lazy =>
        lazyRounds (fun m' noted' k => body.run text mode .other m' noted' k) least most next fuel 0 none m
      | .possessive =>
        match possessiveRounds (fun m' => body.run text mode .other m' m'.position settle) least most
            fuel 0 none m with
        | some m' => next m' m'.position
        | none => .stuck m.position
  | .backref number _, mode, _, m, noted, next =>
    match m.stretch? number with
    | some (a, b) =>
      if sameStretch mode text a m.position (b - a) then next (m.advance (b - a)) noted else .stuck noted
    | none => .stuck noted
  | .cond number yes no, mode, after, m, noted, next =>
    if (m.stretch? number).isSome then
      yes.run text mode (if no = .empty then after else .other) m noted next
    else no.run text mode after m noted next
  | .lookahead body wanted, mode, _, m, _, next =>
    match body.run text mode .other m m.position settle, wanted with
    | .found m', true => next { m' with position := m.position } m'.position
    | .found m', false => .stuck m'.position
    | .stuck noted, true => .stuck noted
    | .stuck noted, false => next m noted
  | .lookbehind body wanted, mode, _, m, noted, next =>
    let width := body.width.least
    if width ≤ m.position then
      let back := m.position - width
      match body.run text mode .other { m with position := back } back settle, wanted with
      | .found m', true => next { m' with position := m.position } m'.position
      | .found m', false => .stuck m'.position
      | .stuck noted, true => .stuck noted
      | .stuck noted, false => next m noted
    else if wanted then .stuck noted
    else next m noted

/-- Whether a node matches somewhere in a text, at the first position from which that is possible. -/
def Node.search (node : Node) (mode : Mode) (text : Array Char) : Bool :=
  (List.range (text.size + 1)).any fun start => (node.run text mode .other (.start start) start settle).isFound

end WebForm.Pattern
