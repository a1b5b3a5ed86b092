/-
Authors write patterns in the dialect of the emitted source. `adapt` puts a pattern into the dialect of
the reader: an end anchor that takes no line feed, digits and words in ASCII, and the two classes that
the reader cannot express with brackets. All else stays as it is.
-/
import WebForm.Pattern.Match
import WebForm.Pattern.Reader

namespace WebForm.Pattern

/-! ## Adapting -/

/-- The end of the text and nothing before it. -/
def endOfText : List Char := "(?!\\n)$".toList

/-- An escape outside character classes. -/
def adaptEscape (c : Char) : List Char :=
  if c = 'd' then "[0-9]".toList
  else if c = 'D' then "[^0-9]".toList
  else if c = 'w' then "[A-Za-z0-9_]".toList
  else if c = 'W' then "[^A-Za-z0-9_]".toList
  else ['\\', c]

/-- An escape inside a character class. -/
def adaptClassEscape (c : Char) : List Char :=
  if c = 'd' then "0-9".toList
  else if c = 'w' then "A-Za-z0-9_".toList
  else ['\\', c]

/-- A pattern put into the reader's dialect; `inside` says whether a character class is open. -/
def adaptFrom : Bool → List Char → List Char
  | _, [] => []
  | true, '\\' :: c :: r => adaptClassEscape c ++ adaptFrom true r
  | false, '\\' :: c :: r => adaptEscape c ++ adaptFrom false r
  | true, ']' :: r => ']' :: adaptFrom false r
  | false, '[' :: ']' :: r => "(?!)".toList ++ adaptFrom false r
  | false, '[' :: '^' :: ']' :: r => "[\\s\\S]".toList ++ adaptFrom false r
  | false, '[' :: '^' :: r => '[' :: '^' :: adaptFrom true r
  | false, '[' :: r => '[' :: adaptFrom true r
  | false, '$' :: r => endOfText ++ adaptFrom false r
  | inside, c :: r => c :: adaptFrom inside r

/-- A pattern put into the reader's dialect. -/
def adapt (source : String) : String := String.ofList (adaptFrom false source.toList)

/-! ## Patterns of authors -/

/-- Reads a pattern as an author wrote it. -/
def compile [CharacterNames] (source : String) : Except Error Expression := read (adapt source).toList

/-- Whether an expression matches somewhere in a text. -/
def Expression.matchesIn (e : Expression) (text : String) : Bool := e.node.search e.mode text.toList.toArray

/-- Whether a pattern as an author wrote it matches somewhere in a text. -/
def matchesIn [CharacterNames] (source text : String) : Except Error Bool := (compile source).map (·.matchesIn text)

end WebForm.Pattern
