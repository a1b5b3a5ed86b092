/-
Where values come from: text in one of two formats, and files whose format follows their name. Failures
here say that there is no value at all, and are apart from the defects of a value.

JSON is read here, within the bounds of the interpreter. What reads YAML is a library, and a parameter: it
gives a value, says that the text is malformed, or raises something else. Only malformed text is a failure
of the input; all else that is raised while a text is read goes on to whoever asked for the value.
-/
import WebForm.Json.Reader
import WebForm.Text.Shown
import WebForm.Text.Utf8

namespace WebForm

/-! ## The platform -/

/-- Why the library for YAML gives no value: the text is malformed, and how; something else is raised, of a
kind and with a message; or what it gives is none of the values here, such as bytes, a set, a value inside
itself, or a text with half of a surrogate pair. -/
inductive YamlFailure where
  | malformed (wording : String)
  | raised (kind message : String)
  | foreign
deriving DecidableEq

/-- What the program runs on: the bounds of the interpreter, the library for YAML, and what the interpreter
runs out of, if so, while a value is searched for defects, and while data are checked against the document
of a value. The last two stand for the stack and the digits that reading a pattern and wording a message
take; all that is said of a search or a check itself is said of one that does not run out. -/
structure Platform where
  bounds : Bounds
  yaml : String → Except YamlFailure Value
  searching : Value → Option Excess
  checking : Value → Value → Option Excess

/-! ## Text -/

/-- The formats of text. -/
inductive Format where
  | json
  | yaml
deriving DecidableEq

def Format.name : Format → String
  | json => "json"
  | yaml => "yaml"

def Format.ofName? (s : String) : Option Format := [json, yaml].find? (·.name == s)

/-- The message for a name that is none of a format. -/
def Format.unknownMessage (s : String) : String :=
  "Unknown document format '" ++ s ++ "'. Must be 'json' or 'yaml'"

/-- Why there is no value. The last three are no failures of the input: a bound of the interpreter, what
the library for YAML raises besides, and a value that is none of those here. -/
inductive InputFailure where
  | json (failure : Json.Failure)
  | yaml (wording : String)
  | notFound (path : String)
  | notText (path : String) (failure : Utf8.Failure)
  | directory (path : String)
  | exceeded (excess : Excess)
  | raised (kind message : String)
  | foreign
deriving DecidableEq

namespace InputFailure

def message : InputFailure → String
  | json f => "Invalid JSON: " ++ f.message
  | yaml wording => "Invalid YAML: " ++ wording
  | notFound path => "File not found: " ++ path
  | notText path f => "Could not read " ++ path ++ ": " ++ f.message
  | directory path => "Could not read " ++ path ++ ": [Errno 21] Is a directory: " ++ Shown.quoted path
  | exceeded e => e.message
  | raised _ message => message
  | foreign => "a value of no kind that is known here"

/-- Whether a failure is one of the input, which whoever asked for the value is ready for. -/
def isOfInput : InputFailure → Bool
  | json _ | yaml _ | notFound _ | notText _ _ | directory _ => true
  | exceeded _ | raised _ _ | foreign => false

def ofJson : Json.Refusal → InputFailure
  | .malformed f => json f
  | .exceeded e => exceeded e
  | .halfPair => foreign

def ofYaml : YamlFailure → InputFailure
  | .malformed wording => yaml wording
  | .raised kind message => raised kind message
  | .foreign => foreign

end InputFailure

/-- The value of a text in a format. -/
def Format.read (p : Platform) : Format → String → Except InputFailure Value
  | json, text => (Json.read p.bounds text).mapError .ofJson
  | yaml, text => (p.yaml text).mapError .ofYaml

/-! ## Paths -/

/-- A path by its names from a root; the root of a relative path is empty. -/
structure Path where
  root : String
  names : List String
deriving DecidableEq

namespace Path

/-- The parts of a text between slashes. -/
def splitSlashes : List Char → List (List Char)
  | [] => [[]]
  | c :: rest =>
    if c = '/' then [] :: splitSlashes rest
    else match splitSlashes rest with
      | part :: parts => (c :: part) :: parts
      | [] => [[c]]

/-- The slashes that a path starts with: two mean a root of their own, more than two mean one. -/
def rootOf (cs : List Char) : String :=
  match cs.takeWhile (· = '/') with
  | [] => ""
  | ['/', '/'] => "//"
  | _ => "/"

/-- The path of a text: empty names and single points do not count. -/
def ofText (s : String) : Path :=
  ⟨rootOf s.toList,
    ((splitSlashes s.toList).filter fun part => part ≠ [] ∧ part ≠ ['.']).map String.ofList⟩

def text (p : Path) : String :=
  if p.root = "" ∧ p.names = [] then "." else p.root ++ "/".intercalate p.names

/-- What a name has from its last point on, unless the point is its first or last character. -/
def suffixOf (name : List Char) : List Char :=
  let tail := name.reverse.takeWhile (· ≠ '.')
  if tail = [] ∨ name.length ≤ tail.length + 1 then [] else '.' :: tail.reverse

/-- A letter in its small form; only ASCII letters have one here. -/
def lower (cs : List Char) : List Char := cs.map Char.toLower

/-- The format of the file at a path. -/
def format (p : Path) : Format :=
  let suffix := lower (suffixOf ((p.names.getLast?.getD "").toList))
  if suffix = ".yaml".toList ∨ suffix = ".yml".toList then .yaml else .json

end Path

/-! ## Files -/

/-- What stands at a path. -/
inductive Node where
  | file (bytes : List UInt8)
  | directory

/-- Files and directories by the text of their paths. -/
abbrev Files := List (String × Node)

namespace Files

/-- Whether a path is that of a directory above one of the files. -/
def isAbove (files : Files) (p : Path) : Bool :=
  files.any fun (text, _) =>
    let other := Path.ofText text
    other.root = p.root && p.names.isPrefixOf other.names && other ≠ p

/-- What stands at a path without points. The directories in which paths start are always there. -/
def node? (files : Files) (p : Path) : Option Node :=
  match files.find? fun (text, _) => Path.ofText text = p with
  | some (_, n) => some n
  | none => if p.names = [] ∨ isAbove files p then some .directory else none

/-- The path that names lead to from a directory: two points go back out of it. -/
def walk? (files : Files) (place : Path) : List String → Option Path
  | [] => some place
  | name :: rest =>
    match node? files place with
    | some .directory =>
      if name = ".." then
        if place.names = [] then (if place.root = "" then none else walk? files place rest)
        else walk? files { place with names := place.names.dropLast } rest
      else walk? files { place with names := place.names ++ [name] } rest
    | _ => none

/-- What stands at a path. -/
def get? (files : Files) (p : Path) : Option Node :=
  match node? files p with
  | some n => some n
  | none => (walk? files ⟨p.root, []⟩ p.names).bind (node? files)

end Files

/-- Text with every kind of line end as a line feed. -/
def unifyNewlines : List Char → List Char
  | '\r' :: '\n' :: rest => '\n' :: unifyNewlines rest
  | '\r' :: rest => '\n' :: unifyNewlines rest
  | c :: rest => c :: unifyNewlines rest
  | [] => []

def Files.readText (files : Files) (p : Path) : Except InputFailure String :=
  match files.get? p with
  | none => .error (.notFound p.text)
  | some .directory => .error (.directory p.text)
  | some (.file bytes) =>
    match Utf8.decode bytes with
    | .ok text => .ok (String.ofList (unifyNewlines text))
    | .error f => .error (.notText p.text f)

/-- The value of the file at a path. -/
def Files.load (p : Platform) (files : Files) (path : String) : Except InputFailure Value := do
  let place := Path.ofText path
  place.format.read p (← files.readText place)

end WebForm
