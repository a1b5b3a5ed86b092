/-
The sets of blank characters that the rules of a form refer to: those removed from the ends of a
numeric text, and those a pattern means by `\s`. They differ in six characters.
-/

namespace WebForm

/-- The characters removed from both ends of a numeric text before it is read: the white space and
line ends of the language that runs the emitted source. -/
def isTrimmable (c : Char) : Bool :=
  let n := c.toNat
  (9 ≤ n && n ≤ 13) || n == 32 || n == 0xA0 || n == 0x1680 || (0x2000 ≤ n && n ≤ 0x200A)
    || n == 0x2028 || n == 0x2029 || n == 0x202F || n == 0x205F || n == 0x3000 || n == 0xFEFF

/-- The characters that a pattern matches with `\s`. -/
def isSpace (c : Char) : Bool :=
  let n := c.toNat
  (9 ≤ n && n ≤ 13) || (28 ≤ n && n ≤ 32) || n == 0x85 || n == 0xA0 || n == 0x1680
    || (0x2000 ≤ n && n ≤ 0x200A) || n == 0x2028 || n == 0x2029 || n == 0x202F || n == 0x205F
    || n == 0x3000

/-- A text without the trimmable characters at its ends. -/
def trimBlank (s : List Char) : List Char :=
  ((s.dropWhile isTrimmable).reverse.dropWhile isTrimmable).reverse

end WebForm
