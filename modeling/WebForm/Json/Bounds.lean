/-
The bounds of the interpreter that the program runs on. It converts no integer of too many digits from or
to text, and it enters no list or object inside too many others, whether a text is read or written. What
goes beyond a bound is refused, and nothing in the program handles the refusal.
-/

namespace WebForm

/-- How many digits an integer may have in a text, and how many lists and objects may stand inside one
another where JSON is read and where it is written. -/
structure Bounds where
  digits : Nat
  readLevels : Nat
  writtenLevels : Nat

/-- What goes beyond a bound: an integer of so many digits in a text, or of too many to be written; a list
or an object on too deep a level; or whatever else exhausts the stack. -/
inductive Excess where
  | digitsRead (bound count : Nat)
  | digitsWritten (bound : Nat)
  | levelsRead (ofObject : Bool)
  | levelsWritten
  | stack
deriving DecidableEq

namespace Excess

def message : Excess → String
  | digitsRead bound count => "Exceeds the limit (" ++ toString bound
    ++ " digits) for integer string conversion: value has " ++ toString count ++ " digits; use sys.set_int_max_str_digits() to increase the limit"
  | digitsWritten bound => "Exceeds the limit (" ++ toString bound
    ++ " digits) for integer string conversion; use sys.set_int_max_str_digits() to increase the limit"
  | levelsRead ofObject => "maximum recursion depth exceeded while decoding a JSON "
    ++ (if ofObject then "object" else "array") ++ " from a unicode string"
  | levelsWritten => "maximum recursion depth exceeded while encoding a JSON object"
  | stack => "maximum recursion depth exceeded"

end Excess

end WebForm
