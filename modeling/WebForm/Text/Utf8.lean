/-
Bytes as text in UTF-8, read strictly: no overlong forms, no surrogates, nothing beyond the last code
point. A failure says which bytes cannot be read and why.
-/

namespace WebForm.Utf8

/-! ## Failures -/

/-- Why bytes are no text. -/
inductive Cause where
  | startByte
  | continuationByte
  | endOfData
deriving DecidableEq

/-- The bytes that cannot be read: the value of the first, its position and how many they are. -/
structure Failure where
  cause : Cause
  byte : UInt8
  position : Nat
  count : Nat
deriving DecidableEq

def Cause.text : Cause → String
  | startByte => "invalid start byte"
  | continuationByte => "invalid continuation byte"
  | endOfData => "unexpected end of data"

def hexByte (b : UInt8) : String :=
  String.ofList [Nat.digitChar (b.toNat / 16), Nat.digitChar (b.toNat % 16)]

/-- The wording of a failure: one byte is shown, of several only the positions are. -/
def Failure.message (f : Failure) : String :=
  (if f.count = 1 then "'utf-8' codec can't decode byte 0x" ++ hexByte f.byte ++ " in position " ++ toString f.position
  else "'utf-8' codec can't decode bytes in position " ++ toString f.position ++ "-"
    ++ toString (f.position + f.count - 1))
  ++ ": " ++ f.cause.text

/-! ## Decoding -/

/-- Whether a byte may follow the first one of a sequence. -/
def isContinuation (b : UInt8) : Bool := 0x80 ≤ b && b ≤ 0xBF

/-- The bytes that may come second: some first bytes leave fewer of them. -/
def secondRange (first : UInt8) : UInt8 × UInt8 :=
  if first = 0xE0 then (0xA0, 0xBF)
  else if first = 0xED then (0x80, 0x9F)
  else if first = 0xF0 then (0x90, 0xBF)
  else if first = 0xF4 then (0x80, 0x8F)
  else (0x80, 0xBF)

/-- The number of bytes that follow a first byte. -/
def following? (first : UInt8) : Option Nat :=
  if first < 0x80 then some 0
  else if 0xC2 ≤ first && first ≤ 0xDF then some 1
  else if 0xE0 ≤ first && first ≤ 0xEF then some 2
  else if 0xF0 ≤ first && first ≤ 0xF4 then some 3
  else none

/-- The bits of a first byte that belong to the code point. -/
def firstBits (first : UInt8) : Nat → Nat
  | 0 => first.toNat
  | 1 => first.toNat % 32
  | 2 => first.toNat % 16
  | _ => first.toNat % 8

/-- How many of the next `wanted` bytes continue a sequence, the second byte of which has a range of
its own. -/
def validCount (range : UInt8 × UInt8) : Nat → List UInt8 → Nat
  | 0, _ => 0
  | _, [] => 0
  | wanted + 1, b :: rest => if range.1 ≤ b && b ≤ range.2 then validCount (0x80, 0xBF) wanted rest + 1 else 0

/-- The code point of the bits of a first byte and the bytes that follow. -/
def codePoint (bits : Nat) (rest : List UInt8) : Nat := rest.foldl (fun n b => n * 64 + b.toNat % 64) bits

/-- Reads bytes from a position on. -/
def decodeFrom : Nat → Nat → List UInt8 → Except Failure (List Char)
  | 0, _, _ => .ok []
  | _, _, [] => .ok []
  | fuel + 1, position, first :: rest =>
    match following? first with
    | none => .error ⟨.startByte, first, position, 1⟩
    | some wanted =>
      let valid := validCount (secondRange first) wanted rest
      if valid = wanted then
        (decodeFrom fuel (position + wanted + 1) (rest.drop wanted)).map
          (Char.ofNat (codePoint (firstBits first wanted) (rest.take wanted)) :: ·)
      else .error ⟨if valid = rest.length then .endOfData else .continuationByte, first, position, valid + 1⟩

def decode (bytes : List UInt8) : Except Failure (List Char) := decodeFrom bytes.length 0 bytes

/-! ## Encoding -/

def encodeChar (c : Char) : List UInt8 :=
  let n := c.toNat
  if n < 0x80 then [UInt8.ofNat n]
  else if n < 0x800 then [UInt8.ofNat (0xC0 + n / 64), UInt8.ofNat (0x80 + n % 64)]
  else if n < 0x10000 then
    [UInt8.ofNat (0xE0 + n / 4096), UInt8.ofNat (0x80 + n / 64 % 64), UInt8.ofNat (0x80 + n % 64)]
  else
    [UInt8.ofNat (0xF0 + n / 262144), UInt8.ofNat (0x80 + n / 4096 % 64), UInt8.ofNat (0x80 + n / 64 % 64),
      UInt8.ofNat (0x80 + n % 64)]

def encode (text : List Char) : List UInt8 := text.flatMap encodeChar

end WebForm.Utf8
