/-
Regular expressions as trees. A node says what it matches; `Node.width` says between how many
characters that can be, which look-behind needs.
-/

namespace WebForm.Pattern

/-! ## Options -/

/-- An option that a pattern may switch on inside itself. -/
inductive Flag where
  | ignoreCase
  | multiline
  | dotAll
  | verbose
  | ascii
  | unicode
  | bare
deriving DecidableEq

/-- The options under which a node is matched. -/
structure Mode where
  ignoreCase : Bool
  multiline : Bool
  dotAll : Bool
  ascii : Bool
deriving DecidableEq

/-- The options that a set of flags stands for. -/
def Mode.ofFlags (flags : List Flag) : Mode :=
  ⟨flags.contains .ignoreCase, flags.contains .multiline, flags.contains .dotAll, flags.contains .ascii⟩

/-- The options inside a group that switches some flags on and others off. -/
def Mode.change (m : Mode) (on off : List Flag) : Mode where
  ignoreCase := (m.ignoreCase || on.contains .ignoreCase) && !off.contains .ignoreCase
  multiline := (m.multiline || on.contains .multiline) && !off.contains .multiline
  dotAll := (m.dotAll || on.contains .dotAll) && !off.contains .dotAll
  ascii := if on.contains .ascii then true else if on.contains .unicode then false else m.ascii

/-! ## Parts of a node -/

/-- A kind of character that a pattern can name. -/
inductive Kind where
  | digit
  | space
  | word
deriving DecidableEq

/-- A member of a character class; `kind k false` stands for the characters not of that kind. -/
inductive Item where
  | code (n : Nat)
  | range (lo hi : Nat)
  | kind (k : Kind) (inside : Bool)
deriving DecidableEq

/-- A place in the text. -/
inductive Anchor where
  | lineStart
  | lineEnd
  | textStart
  | textEnd
  | wordBoundary
  | notWordBoundary
deriving DecidableEq

/-- How a repetition chooses the number of its rounds. -/
inductive Greed where
  | greedy
  | lazy
  | possessive
deriving DecidableEq

/-- The least and the greatest number of characters that a node matches. -/
structure Width where
  least : Nat
  most : Nat
deriving DecidableEq

/-- Widths are not told apart from here on. -/
def widthLimit : Nat := 0x10000000000000000

namespace Width

/-- The width of nothing. -/
def zero : Width := ⟨0, 0⟩

def one : Width := ⟨1, 1⟩

/-- A width cut off at the limit. -/
def clamp (w : Width) : Width := ⟨min w.least widthLimit, min w.most widthLimit⟩

/-- The width of one part after another. -/
def append (a b : Width) : Width := clamp ⟨a.least + b.least, a.most + b.most⟩

/-- The width of one part or another. -/
def either (a b : Width) : Width := ⟨min a.least b.least, max a.most b.most⟩

/-- The width of a part repeated. -/
def times (w : Width) (least : Nat) (most : Option Nat) : Width :=
  clamp ⟨w.least * least, match most with
    | some m => w.most * m
    | none => if w.most = 0 then 0 else widthLimit⟩

end Width

/-! ## Nodes -/

/-- A regular expression. -/
inductive Node where
  /-- The empty text. -/
  | empty
  /-- One given character, or one other than it. -/
  | char (code : Nat) (inside : Bool)
  /-- Any character, short of line ends unless the options say otherwise. -/
  | any
  /-- A character of a class, or one outside it. -/
  | set (items : List Item) (inside : Bool)
  /-- A place. -/
  | anchor (a : Anchor)
  /-- One node after the other. -/
  | seq (first second : Node)
  /-- One node or else the other. -/
  | alt (first second : Node)
  /-- A group with a number, which remembers what it matched. -/
  | group (number : Nat) (body : Node)
  /-- A group without a number, with some options switched on and others off. -/
  | withFlags (on off : List Flag) (body : Node)
  /-- A group that is not entered again once it matched. -/
  | atomic (body : Node)
  /-- A repetition; without a greatest number of rounds there is no limit. -/
  | rep (greed : Greed) (least : Nat) (most : Option Nat) (body : Node)
  /-- What a group remembers; `width` is the width of that group. -/
  | backref (number : Nat) (width : Width)
  /-- The first node if a group matched, else the second. -/
  | cond (number : Nat) (yes no : Node)
  /-- A node that has to match from here on, or may not. -/
  | lookahead (body : Node) (wanted : Bool)
  /-- A node that has to match just before here, or may not. -/
  | lookbehind (body : Node) (wanted : Bool)
deriving DecidableEq

namespace Node

/-- The width of what a node matches. -/
def width : Node → Width
  | empty | anchor _ | lookahead _ _ | lookbehind _ _ => .zero
  | char _ _ | any | set _ _ => .one
  | seq a b => a.width.append b.width
  | alt a b => a.width.either b.width
  | group _ b | withFlags _ _ b | atomic b => b.width
  | rep _ least most b => b.width.times least most
  | backref _ w => w
  | cond _ yes no => yes.width.either no.width

/-- Nodes one after another. -/
def ofList : List Node → Node
  | [] => empty
  | [n] => n
  | n :: rest => seq n (ofList rest)

end Node

end WebForm.Pattern
