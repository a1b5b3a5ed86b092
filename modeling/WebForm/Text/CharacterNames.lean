/-
Characters by their names. The table of all names is long and grows with each version of the character
database, so what reads a name takes a table as given. The program itself comes with the names of ASCII.
-/

namespace WebForm

/-- A table of names of characters. As an instance it comes to all that reads patterns without a parameter
of its own. -/
class CharacterNames where
  character? : String → Option Char

namespace CharacterNames

/-- The characters from the space to the tilde that are no letters. -/
def marks : List (String × Char) :=
  [("SPACE", ' '), ("EXCLAMATION MARK", '!'), ("QUOTATION MARK", '"'), ("NUMBER SIGN", '#'),
   ("DOLLAR SIGN", '$'), ("PERCENT SIGN", '%'), ("AMPERSAND", '&'), ("APOSTROPHE", '\''),
   ("LEFT PARENTHESIS", '('), ("RIGHT PARENTHESIS", ')'), ("ASTERISK", '*'), ("PLUS SIGN", '+'),
   ("COMMA", ','), ("HYPHEN-MINUS", '-'), ("FULL STOP", '.'), ("SOLIDUS", '/'), ("DIGIT ZERO", '0'),
   ("DIGIT ONE", '1'), ("DIGIT TWO", '2'), ("DIGIT THREE", '3'), ("DIGIT FOUR", '4'), ("DIGIT FIVE", '5'),
   ("DIGIT SIX", '6'), ("DIGIT SEVEN", '7'), ("DIGIT EIGHT", '8'), ("DIGIT NINE", '9'), ("COLON", ':'),
   ("SEMICOLON", ';'), ("LESS-THAN SIGN", '<'), ("EQUALS SIGN", '='), ("GREATER-THAN SIGN", '>'),
   ("QUESTION MARK", '?'), ("COMMERCIAL AT", '@'), ("LEFT SQUARE BRACKET", '['), ("REVERSE SOLIDUS", '\\'),
   ("RIGHT SQUARE BRACKET", ']'), ("CIRCUMFLEX ACCENT", '^'), ("LOW LINE", '_'), ("GRAVE ACCENT", '\x60'),
   ("LEFT CURLY BRACKET", '\x7b'), ("VERTICAL LINE", '|'), ("RIGHT CURLY BRACKET", '\x7d'), ("TILDE", '~')]

/-- The letters in both their forms. -/
def letters : List (String × Char) :=
  (List.range 26).flatMap fun n =>
    [("LATIN CAPITAL LETTER " ++ String.singleton (Char.ofNat (65 + n)), Char.ofNat (65 + n)),
     ("LATIN SMALL LETTER " ++ String.singleton (Char.ofNat (65 + n)), Char.ofNat (97 + n))]

/-- The names of ASCII; a name may be written in letters of either form. -/
@[reducible]
def ascii : CharacterNames where
  character? name := ((marks ++ letters).find? (·.1 == name.map Char.toUpper)).map (·.2)

end CharacterNames

end WebForm
