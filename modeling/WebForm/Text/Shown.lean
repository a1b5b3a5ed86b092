/-
How a raw value is shown inside a message: texts on their own stand as they are, texts inside a list
or an object stand between single quotes with everything unprintable escaped.
-/
import WebForm.Value
import WebForm.Text.Alphabet
import WebForm.Text.Quoted

namespace WebForm.Shown

/-! ## Quoted texts -/

/-- The escape of an unprintable character, by the size of its code point. -/
def codeEscape (c : Char) : List Char :=
  if c.toNat < 0x100 then '\\' :: 'x' :: Quoted.hex 2 c.toNat
  else if c.toNat < 0x10000 then '\\' :: 'u' :: Quoted.hex 4 c.toNat
  else '\\' :: 'U' :: Quoted.hex 8 c.toNat

/-- A character between quotes of the given kind. -/
def quotedChar (quote c : Char) : List Char :=
  if c = quote ∨ c = '\\' then ['\\', c]
  else if c = '\n' then ['\\', 'n']
  else if c = '\r' then ['\\', 'r']
  else if c = '\t' then ['\\', 't']
  else if isPrintable c then [c]
  else codeEscape c

/-- A text between single quotes, or between double quotes if it holds a single one and no double one. -/
def quoted (s : String) : String :=
  let quote := if s.toList.contains '\'' && !s.toList.contains '"' then '"' else '\''
  String.ofList (quote :: s.toList.flatMap (quotedChar quote) ++ [quote])

/-! ## Values -/

/-- A scalar inside a list or an object. -/
def nestedScalar : Scalar → String
  | .null => "None"
  | .bool true => "True"
  | .bool false => "False"
  | .int n => toString n
  | .double x => x.text
  | .text s => quoted s
  | .date y m d => "datetime.date(" ++ toString y ++ ", " ++ toString m ++ ", " ++ toString d ++ ")"
  | .instant written => written

mutual

/-- A value inside a list or an object. -/
def nested : Value → String
  | .scalar s => nestedScalar s
  | .list items => "[" ++ ", ".intercalate (nestedItems items) ++ "]"
  | .object entries => "\x7b" ++ ", ".intercalate (nestedEntries entries) ++ "\x7d"

def nestedItems : List Value → List String
  | [] => []
  | v :: rest => nested v :: nestedItems rest

def nestedEntries : List (Scalar × Value) → List String
  | [] => []
  | (k, v) :: rest => (nestedScalar k ++ ": " ++ nested v) :: nestedEntries rest

end

/-- A value on its own. -/
def value : Value → String
  | .text s => s
  | .scalar (.date y m d) => isoDate y m d
  | v => nested v

end WebForm.Shown
