/-
Texts as literals between double quotes. The quote, the backslash and the control characters below
the space are escaped; the rest stands as it is, or as escapes of UTF-16 units where only ASCII may
be written.
-/

namespace WebForm.Quoted

/-! ## Hexadecimal -/

/-- A digit of a base up to sixteen, in lower case. -/
def hexChar (n : Nat) : Char := Nat.digitChar n

/-- The lowest `width` hexadecimal digits of a natural. -/
def hex : Nat → Nat → List Char
  | 0, _ => []
  | width + 1, n => hex width (n / 16) ++ [hexChar (n % 16)]

/-- An escape of one UTF-16 unit. -/
def unitEscape (n : Nat) : List Char := '\\' :: 'u' :: hex 4 n

/-- The UTF-16 units of a character. -/
def units16 (c : Char) : List Nat :=
  if c.toNat < 0x10000 then [c.toNat]
  else [0xD800 + (c.toNat - 0x10000) / 0x400, 0xDC00 + (c.toNat - 0x10000) % 0x400]

/-! ## Literals -/

/-- The escape of a character that may not stand in a literal as it is. -/
def escape? (c : Char) : Option (List Char) :=
  if c = '"' then some ['\\', '"']
  else if c = '\\' then some ['\\', '\\']
  else if c = '\n' then some ['\\', 'n']
  else if c = '\r' then some ['\\', 'r']
  else if c = '\t' then some ['\\', 't']
  else if c.toNat = 8 then some ['\\', 'b']
  else if c.toNat = 12 then some ['\\', 'f']
  else if c.toNat < 32 then some (unitEscape c.toNat)
  else none

def encodeChar (c : Char) : List Char := (escape? c).getD [c]

/-- A character inside a literal that is written in ASCII alone. -/
def encodeCharAscii (c : Char) : List Char :=
  (escape? c).getD (if c.toNat < 127 then [c] else (units16 c).flatMap unitEscape)

def encode (s : String) : String := String.ofList ('"' :: s.toList.flatMap encodeChar ++ ['"'])

/-- The text of a literal written in ASCII alone. -/
def encodeAscii (s : String) : String := String.ofList ('"' :: s.toList.flatMap encodeCharAscii ++ ['"'])

end WebForm.Quoted
