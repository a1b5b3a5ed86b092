/-
The tree of a YAML document. Reading it from tokens goes down the grammar; anchors are kept with their
nodes, so that an alias gives the node that it names.
-/
import WebForm.Yaml.Lexer
import WebForm.Yaml.Scalar

namespace WebForm.Yaml

/-- A node: a scalar with its type, or a collection that may have been given one. -/
inductive Node where
  | scalar (tag : Tag) (text : String)
  | sequence (tag : Tag) (items : List Node)
  | mapping (tag : Tag) (pairs : List (Node × Node))

/-- The node that stands where nothing is written. -/
def Node.empty : Node := .scalar .null ""

instance : Inhabited Node := ⟨.empty⟩

namespace Node

/-! ## State -/

/-- The tokens that are left, what tag handles stand for, and the anchors so far; an anchor has no node
while its node is being read. -/
structure Source where
  tokens : List Token
  handles : List (String × String)
  anchors : List (String × Option Node)

/-- A step of reading nodes. -/
abbrev Reading := StateT Source (Except Failure)

def fail {α : Type} : Reading α := throw .malformed

def peek : Reading (Option Token) := do return (← get).tokens.head?

def advance : Reading Unit := modify fun s => { s with tokens := s.tokens.tail }

/-- Whether the next token is `t`; if so it is read. -/
def accept (t : Token) : Reading Bool := do
  if (← peek) = some t then
    advance
    return true
  else return false

/-- Reads the token `t`. -/
def expect (t : Token) : Reading Unit := do if !(← accept t) then fail

/-- Whether the next token is one of some; the end of the tokens counts as none of them. -/
def seesOne (ts : List Token) : Reading Bool := do return (← peek).any ts.contains

/-! ## Properties -/

/-- An anchor and a tag in front of a node. -/
structure Properties where
  anchor : Option String
  tag : Option (Option String × String)

/-- Reads an anchor, if one is next. -/
def readAnchor : Reading (Option String) := do
  match ← peek with
  | some (.anchor name) =>
    advance
    return some name
  | _ => return none

/-- Reads a tag, if one is next. -/
def readTag : Reading (Option (Option String × String)) := do
  match ← peek with
  | some (.tag handle suffix) =>
    advance
    return some (handle, suffix)
  | _ => return none

/-- Reads an anchor and a tag in either order. -/
def readProperties : Reading Properties := do
  match ← readAnchor with
  | some anchor => return ⟨some anchor, ← readTag⟩
  | none =>
    let tag ← readTag
    let anchor ← if tag.isSome then readAnchor else pure none
    return ⟨anchor, tag⟩

/-- The full name of a tag. -/
def tagName (tag : Option String × String) : Reading String :=
  match tag.1 with
  | none => return tag.2
  | some handle => do
    match (← get).handles.find? (·.1 == handle) with
    | some (_, start) => return start ++ tag.2
    | none => fail

/-- The type that a tag gives to a node; a lone exclamation mark gives none. -/
def typeOf (tag : Option (Option String × String)) : Reading (Option Tag) :=
  match tag with
  | none => return none
  | some tag => do
    let name ← tagName tag
    return if name = "!" then none else some (.ofName name)

/-- The type of a scalar. What is quoted is a text unless a tag says otherwise. -/
def scalarType (tagged : Bool) (given : Option Tag) (text : String) (plain : Bool) : Tag :=
  given.getD (if plain || tagged then .ofForm text else .text)

/-- Makes an anchor known, before its node is; no name may be given twice. -/
def openAnchor : Option String → Reading Unit
  | none => return ()
  | some name => do
    if (← get).anchors.any (·.1 == name) then fail
    modify fun s => { s with anchors := (name, none) :: s.anchors }

def closeAnchor (anchor : Option String) (n : Node) : Reading Node := do
  match anchor with
  | none => return n
  | some name =>
    modify fun s => { s with anchors := s.anchors.map fun a => if a.1 = name then (name, some n) else a }
    return n

def resolve (name : String) : Reading Node := do
  match (← get).anchors.find? (·.1 == name) with
  | some (_, some n) => return n
  | _ => fail

/-! ## Grammar -/

/-- Where a node stands: in brackets, in a block, or in a block where items may stand without being
indented. -/
inductive Position where
  | flow
  | block
  | loose
deriving DecidableEq

mutual

def readNode : Nat → Position → Reading Node
  | 0, _ => fail
  | fuel + 1, position => do
    match ← peek with
    | some (.alias name) =>
      advance
      resolve name
    | _ =>
      let properties ← readProperties
      let given ← typeOf properties.tag
      openAnchor properties.anchor
      let n ← readContent fuel position properties given
      closeAnchor properties.anchor n

def readContent : Nat → Position → Properties → Option Tag → Reading Node
  | 0, _, _, _ => fail
  | fuel + 1, position, properties, given => do
    let items := given.getD .sequence
    let pairs := given.getD .mapping
    match ← peek, position with
    | some .blockEntry, .loose => return .sequence items (← readLooseItems fuel)
    | some (.scalar text plain), _ =>
      advance
      return .scalar (scalarType properties.tag.isSome given text plain) text
    | some .flowSequenceStart, _ =>
      advance
      return .sequence items (← readFlowItems fuel true)
    | some .flowMappingStart, _ =>
      advance
      return .mapping pairs (← readFlowPairs fuel true)
    | some .blockSequenceStart, .block | some .blockSequenceStart, .loose =>
      advance
      return .sequence items (← readBlockItems fuel)
    | some .blockMappingStart, .block | some .blockMappingStart, .loose =>
      advance
      return .mapping pairs (← readBlockPairs fuel)
    | _, _ =>
      if properties.anchor.isSome || properties.tag.isSome then return .scalar (given.getD .null) ""
      else fail

/-- A node, or nothing where one of some tokens is next. -/
def readNodeOr : Nat → Position → List Token → Reading Node
  | 0, _, _ => fail
  | fuel + 1, position, ends => do
    if ← seesOne ends then return .empty else readNode fuel position

/-- The items of an indented sequence. -/
def readBlockItems : Nat → Reading (List Node)
  | 0 => fail
  | fuel + 1 => do
    if ← accept .blockEntry then
      let item ← readNodeOr fuel .block [.blockEntry, .blockEnd]
      return item :: (← readBlockItems fuel)
    else
      expect .blockEnd
      return []

/-- The items of a sequence that is not indented. -/
def readLooseItems : Nat → Reading (List Node)
  | 0 => fail
  | fuel + 1 => do
    if ← accept .blockEntry then
      let item ← readNodeOr fuel .block [.blockEntry, .key, .value, .blockEnd]
      return item :: (← readLooseItems fuel)
    else return []

def readBlockPairs : Nat → Reading (List (Node × Node))
  | 0 => fail
  | fuel + 1 => do
    if ← accept .key then
      let key ← readNodeOr fuel .loose [.key, .value, .blockEnd]
      let value ← if ← accept .value then readNodeOr fuel .loose [.key, .value, .blockEnd] else pure .empty
      return (key, value) :: (← readBlockPairs fuel)
    else
      expect .blockEnd
      return []

/-- A pair in brackets that are closed by `ending`, from its key on. -/
def readFlowPair : Nat → Token → Reading (Node × Node)
  | 0, _ => fail
  | fuel + 1, ending => do
    let key ← readNodeOr fuel .flow [.value, .flowEntry, ending]
    let value ← if ← accept .value then readNodeOr fuel .flow [.flowEntry, ending] else pure .empty
    return (key, value)

/-- The items of a sequence in brackets; all but the first come after a comma. -/
def readFlowItems : Nat → Bool → Reading (List Node)
  | 0, _ => fail
  | fuel + 1, first => do
    if ← accept .flowSequenceEnd then return []
    if !first then expect .flowEntry
    if ← accept .key then
      let pair ← readFlowPair fuel .flowSequenceEnd
      return .mapping .mapping [pair] :: (← readFlowItems fuel false)
    else if ← accept .flowSequenceEnd then return []
    else
      let item ← readNode fuel .flow
      return item :: (← readFlowItems fuel false)

/-- The pairs of a mapping in braces; all but the first come after a comma. -/
def readFlowPairs : Nat → Bool → Reading (List (Node × Node))
  | 0, _ => fail
  | fuel + 1, first => do
    if ← accept .flowMappingEnd then return []
    if !first then expect .flowEntry
    if ← accept .key then
      let pair ← readFlowPair fuel .flowMappingEnd
      return pair :: (← readFlowPairs fuel false)
    else if ← accept .flowMappingEnd then return []
    else
      let key ← readNode fuel .flow
      return (key, .empty) :: (← readFlowPairs fuel false)

end

/-! ## Documents -/

/-- What tag handles stand for unless they are declared. -/
def commonHandles : List (String × String) := [("!", "!"), ("!!", Tag.namespace)]

/-- Reads the directives in front of a document: the version may be given once, and a handle once. -/
def readDirectives : Nat → Bool → List (String × String) → Reading (List (String × String))
  | 0, _, _ => fail
  | fuel + 1, versioned, handles => do
    match ← peek with
    | some (.directive (.version major _)) =>
      advance
      if versioned || major != 1 then fail
      readDirectives fuel true handles
    | some (.directive (.tag handle start)) =>
      advance
      if handles.any (·.1 == handle) then fail
      readDirectives fuel versioned (handles ++ [(handle, start)])
    | some (.directive .other) =>
      advance
      readDirectives fuel versioned handles
    | _ => return handles ++ commonHandles

/-- Goes over the marks at the end of a document. -/
def skipEnds : Nat → Reading Unit
  | 0 => pure ()
  | fuel + 1 => do if ← accept .documentEnd then skipEnds fuel

/-- Whether a token starts a document that says so. -/
def startsDocument : Option Token → Bool
  | some (.directive _) | some .documentStart => true
  | _ => false

/-- Whether a document ends before a token. -/
def endsDocument : Option Token → Bool
  | none | some .documentEnd => true
  | t => startsDocument t

/-- Reads the node of the document that the tokens hold: no more than one document may be there. -/
def readDocument (size : Nat) : Reading Node := do
  if (← peek).isNone then return .empty
  let n ← if startsDocument (← peek) then do
      let handles ← readDirectives (size + 1) false []
      modify fun s => { s with handles }
      expect .documentStart
      if endsDocument (← peek) then pure .empty else readNode (6 * size + 6) .block
    else readNode (6 * size + 6) .block
  skipEnds (size + 1)
  if (← peek).isSome then fail
  return n

def ofTokens (ts : List Token) : Except Failure Node :=
  ((readDocument ts.length).run ⟨ts, commonHandles, []⟩).map (·.1)

end Node

end WebForm.Yaml
