/-
Text with style tags in brackets, as it is printed on a terminal. A tag names a style, a tag that starts
with a slash closes one, and a backslash before a bracket makes the bracket plain. `plain?` gives the
text without its tags; it fails where a tag closes what is not open.

The library for the terminal is a parameter of the commands (`Libraries.line?`); this is what the program is
run with. Styles are followed so far as to see whether a tag closes one that is open, but are not shown.
-/
import WebForm.Text.Blank

namespace WebForm.Terminal

/-! ## Parts -/

/-- A part of text with tags. -/
inductive Part where
  | plain (text : List Char)
  | tag (content : List Char)
deriving DecidableEq

/-- Whether a character may come first in a tag. -/
def startsTag (c : Char) : Bool := ('a' ≤ c && c ≤ 'z') || c == '#' || c == '/' || c == '@'

/-- Reads a tag from the character after its opening bracket on: the content and what follows the closing
bracket. There may be no other opening bracket before the closing one. -/
def tagAfter? : List Char → Option (List Char × List Char)
  | c :: rest =>
    let content := c :: rest.takeWhile fun x => x != '[' && x != ']'
    match rest.dropWhile fun x => x != '[' && x != ']' with
    | ']' :: rest => if startsTag c then some (content, rest) else none
    | _ => none
  | [] => none

/-- The parts of a text. `slashes` counts the backslashes just before the current character; half of
those before a tag are plain, and an odd one makes the tag plain. -/
def parts : Nat → Nat → List Char → List Part
  | 0, slashes, cs => [.plain (List.replicate slashes '\\' ++ cs)]
  | _, slashes, [] => [.plain (List.replicate slashes '\\')]
  | fuel + 1, slashes, c :: rest =>
    if c = '\\' then parts fuel (slashes + 1) rest
    else if c = '[' then
      match tagAfter? rest with
      | some (content, rest) =>
        .plain (List.replicate (slashes / 2) '\\')
          :: (if slashes % 2 = 1 then .plain ('[' :: content ++ [']']) else .tag content)
          :: parts fuel 0 rest
      | none => .plain (List.replicate (slashes - 1) '\\' ++ ['[']) :: parts fuel 0 rest
    else .plain (List.replicate slashes '\\' ++ [c]) :: parts fuel 0 rest

/-! ## Styles -/

/-- The long names of the attributes of text that have a short one. -/
def attributeNames : List (String × String) :=
  [("b", "bold"), ("d", "dim"), ("i", "italic"), ("u", "underline"), ("r", "reverse"), ("c", "conceal"),
    ("s", "strike"), ("uu", "underline2"), ("o", "overline")]

/-- A text without blanks at its ends, in small letters. -/
def tidy (cs : List Char) : List Char :=
  (((cs.dropWhile isSpace).reverse.dropWhile isSpace).reverse).map Char.toLower

/-- The name under which a style is kept: an attribute has one name. -/
def styleName (cs : List Char) : String :=
  let name := String.ofList (tidy cs)
  ((attributeNames.find? (·.1 == name)).map (·.2)).getD name

/-! ## Printing -/

/-- Closes a style: the one opened last that has the name, or just the last. -/
def close? (name : List Char) (styles : List String) : Option (List String) :=
  if tidy name = [] then (if styles = [] then none else some styles.tail)
  else if styles.contains (styleName name) then some (styles.erase (styleName name))
  else none

/-- The text of parts, given the styles that are open, the last one first. -/
def plainOf? : List String → List Part → Option (List Char)
  | _, [] => some []
  | styles, .plain text :: rest => (plainOf? styles rest).map (text ++ ·)
  | styles, .tag content :: rest =>
    match content.takeWhile (· ≠ '=') with
    | '/' :: name => (close? name styles).bind fun styles => plainOf? styles rest
    | name => plainOf? (styleName name :: styles) rest

/-- Whether a character moves the cursor and is left out. -/
def isControl (c : Char) : Bool :=
  let n := c.toNat
  n == 7 || n == 8 || n == 11 || n == 12 || n == 13

/-- What is printed of a text with tags, unless a tag closes what is not open. -/
def plain? (markup : String) : Option String :=
  (plainOf? [] (parts (markup.toList.length + 1) 0 markup.toList)).map fun cs =>
    String.ofList (cs.filter (!isControl ·))

end WebForm.Terminal
