/-
Generated source as pieces. A piece is code that stands as it is or a text that is written as a
literal, so that what an author wrote is told apart from what the generator wrote.
-/
import WebForm.Json.Writer

namespace WebForm

/-- A piece of source: code, a text written as a literal, or a text inside a block comment. -/
inductive Piece where
  | code (text : String)
  | literal (text : String)
  | comment (text : String)
deriving DecidableEq

/-- Source as pieces one after another. -/
abbrev Source := List Piece

def Piece.text : Piece → String
  | code s => s
  | literal s => Quoted.encode s
  | comment s => "/* " ++ s ++ " */"

namespace Source

def text (s : Source) : String := String.join (s.map Piece.text)

/-- Sources with a separator between them. -/
def join (separator : String) : List Source → Source
  | [] => []
  | [s] => s
  | s :: rest => s ++ .code separator :: join separator rest

def literals (items : List String) : Source :=
  [.code "["] ++ join ", " (items.map fun s => [.literal s]) ++ [.code "]"]

def number (q : Quantity) : Piece := .code (Json.quantityText q)

/-- A text as a literal between braces, as markup embeds it. -/
def embedded (s : String) : Source := [.code "\x7b", .literal s, .code "\x7d"]

end Source

/-! ## Lines -/

/-- A line of source. -/
abbrev Line := Source

namespace Line

def code (s : String) : Line := [.code s]

/-- Lines moved to the right by steps of two blanks. -/
def indent (depth : Nat) (lines : List Line) : List Line :=
  lines.map (.code (String.ofList (List.replicate (2 * depth) ' ')) :: ·)

/-- The text of lines, each but the last ended by a line feed. -/
def join (lines : List Line) : Source := Source.join "\n" lines

end Line

end WebForm
