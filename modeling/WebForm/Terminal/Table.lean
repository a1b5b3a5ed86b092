/-
Text laid out in columns on a terminal: wrapping between words, tables with a title, and frames. It is what
the program is run with for `Libraries.table?` and `Libraries.frame?`.
-/
import WebForm.Terminal.Width
import WebForm.Text.Blank

namespace WebForm.Terminal

/-! ## Wrapping -/

/-- `n` blanks. -/
def blanks (n : Nat) : List Char := List.replicate n ' '

/-- A line with blanks up to a width. -/
def padTo (w : Nat) (line : List Char) : List Char := line ++ blanks (w - width line)

/-- A line without blanks at its end. -/
def trimEnd (line : List Char) : List Char := (line.reverse.dropWhile isSpace).reverse

/-- A line with blanks in place of tabs, up to the next multiple of eight columns. -/
def expandTabs : Nat → List Char → List Char
  | _, [] => []
  | column, c :: rest =>
    if c = '\t' then
      let fill := 8 - column % 8
      blanks fill ++ expandTabs (column + fill) rest
    else c :: expandTabs (column + charWidth c) rest

/-- The lines of a text, cut at the characters that satisfy `p`. -/
def cutAt (p : Char → Bool) : List Char → List (List Char)
  | [] => [[]]
  | c :: rest =>
    if p c then [] :: cutAt p rest
    else match cutAt p rest with
      | line :: lines => (c :: line) :: lines
      | [] => [[c]]

/-- The characters at which the width of a text starts anew. -/
def isLineEnd (c : Char) : Bool :=
  let n := c.toNat
  (10 ≤ n && n ≤ 13) || (28 ≤ n && n ≤ 30) || n == 0x85 || n == 0x2028 || n == 0x2029

/-- The columns that the widest line of a text takes. -/
def textWidth (text : List Char) : Nat := ((cutAt isLineEnd text).map width).foldl max 0

/-- The words of a line, each with the blanks after it; the first has also those before it. -/
def words (fuel : Nat) (cs : List Char) : List (List Char) :=
  match fuel with
  | 0 => []
  | fuel + 1 =>
    let lead := cs.takeWhile isSpace
    let cs := cs.dropWhile isSpace
    let solid := cs.takeWhile (!isSpace ·)
    let cs := cs.dropWhile (!isSpace ·)
    if solid = [] then []
    else (lead ++ solid ++ cs.takeWhile isSpace) :: words fuel (cs.dropWhile isSpace)

/-- A word cut into pieces that fit a width. -/
def chop (w : Nat) : List Char → List Char → List (List Char)
  | piece, [] => [piece]
  | piece, c :: rest =>
    if w < width piece + charWidth c then piece :: chop w [c] rest else chop w (piece ++ [c]) rest

/-- Puts words on lines of a width, given the current line and the columns it takes. A word that fits
on no line is cut. -/
def fill (w : Nat) : List Char → Nat → List (List Char) → List (List Char)
  | line, _, [] => [line]
  | line, used, word :: rest =>
    let needed := width (trimEnd word)
    if needed + used ≤ w then fill w (line ++ word) (used + width word) rest
    else if w < needed then
      match (chop w [] word).reverse with
      | last :: before =>
        (if line = [] then [] else [line]) ++ before.reverse ++ fill w last (width last) rest
      | [] => fill w line used rest
    else if used = 0 ∨ line = [] then fill w (line ++ word) used rest
    else line :: fill w word (width word) rest

def wrap (w : Nat) (text : List Char) : List (List Char) :=
  (cutAt (· = '\n') text).flatMap fun line =>
    let line := expandTabs 0 line
    let found := words line.length line
    if found = [] then [line] else fill w [] 0 found

/-! ## Frames -/

/-- Cells side by side, between and around them a line. -/
def joinCells (edge : Char) (cells : List (List Char)) : List Char :=
  edge :: cells.flatMap fun cell => cell ++ [edge]

/-- A rule across columns: its two ends, what it is made of, and where columns meet. -/
def rule (left line cross right : Char) (widths : List Nat) : List Char :=
  left :: List.intercalate [cross] (widths.map fun w => List.replicate (w + 2) line) ++ [right]

/-- The lines of a row: the cells of a row are as tall as the tallest. -/
def rowLines (edge : Char) (widths : List Nat) (cells : List (List Char)) : List (List Char) :=
  let wrapped := (widths.zip cells).map fun (w, cell) => (w, wrap w cell)
  let height := (wrapped.map fun (_, lines) => lines.length).foldl max 0
  (List.range height).map fun i =>
    joinCells edge (wrapped.map fun (w, lines) => ' ' :: padTo w (lines[i]?.getD []) ++ [' '])

/-- The widths of columns: each takes what its widest cell takes. -/
def columnWidths (heads : List (List Char)) (rows : List (List (List Char))) : List Nat :=
  (List.range heads.length).map fun i =>
    ((heads :: rows).map fun row => textWidth (row[i]?.getD [])).foldl max 0

/-- A table under a title that is wrapped at the width of the table. -/
def table (title : List Char) (heads : List (List Char)) (rows : List (List (List Char))) : List (List Char) :=
  let widths := columnWidths heads rows
  let total := (widths.map (· + 3)).foldl (· + ·) 1
  (wrap total title).map (fun line =>
    let line := trimEnd line
    blanks ((total - width line) / 2) ++ line)
  ++ [rule '┏' '━' '┳' '┓' widths]
  ++ rowLines '┃' widths heads
  ++ [rule '┡' '━' '╇' '┩' widths]
  ++ rows.flatMap (rowLines '│' widths)
  ++ [rule '└' '─' '┴' '┘' widths]

/-- A text in a frame with a title. -/
def panel (title text : List Char) : List (List Char) :=
  let w := max (width text) (width title) + 2
  let side := w - (width title + 2)
  [['╭'] ++ List.replicate (side / 2) '─' ++ [' '] ++ title ++ [' ']
    ++ List.replicate (side - side / 2) '─' ++ ['╮'],
  ['│', ' '] ++ padTo (w - 2) text ++ [' ', '│'],
  ['╰'] ++ List.replicate w '─' ++ ['╯']]

end WebForm.Terminal
