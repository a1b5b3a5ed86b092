/-
Encoded text is decoded to itself: the bytes of a character are a sequence that the decoder takes as a
whole, whatever follows, and their bits are those of the character. The bytes are also those that
strings are made of here.
-/
import Mathlib.Data.List.Basic
import WebForm.Text.Utf8

namespace WebForm.Utf8

/-! ## Bytes -/

theorem following?_ascii : ∀ n < 128, following? (UInt8.ofNat n) = some 0 ∧ firstBits (UInt8.ofNat n) 0 = n := by
  decide

theorem following?_two :
    ∀ a < 32, 2 ≤ a → following? (UInt8.ofNat (0xC0 + a)) = some 1 ∧ firstBits (UInt8.ofNat (0xC0 + a)) 1 = a := by
  decide

theorem following?_three :
    ∀ a < 16, following? (UInt8.ofNat (0xE0 + a)) = some 2 ∧ firstBits (UInt8.ofNat (0xE0 + a)) 2 = a := by
  decide

theorem following?_four :
    ∀ a < 5, following? (UInt8.ofNat (0xF0 + a)) = some 3 ∧ firstBits (UInt8.ofNat (0xF0 + a)) 3 = a := by
  decide

theorem continuation_bits : ∀ b < 64, (UInt8.ofNat (0x80 + b)).toNat % 64 = b := by decide

/-- Whether a byte lies in a range. -/
def inRange (range : UInt8 × UInt8) (b : UInt8) : Bool := range.1 ≤ b && b ≤ range.2

theorem inRange_continuation : ∀ b < 64, inRange (0x80, 0xBF) (UInt8.ofNat (0x80 + b)) = true := by decide

theorem secondRange_two : ∀ a < 32, 2 ≤ a → secondRange (UInt8.ofNat (0xC0 + a)) = (0x80, 0xBF) := by decide

/-- After the first bytes that start the shortest and the surrogate forms, fewer bytes may come second. -/
theorem inRange_three : ∀ a < 16, ∀ b < 64, (a = 0 → 32 ≤ b) → (a = 13 → b < 32) →
    inRange (secondRange (UInt8.ofNat (0xE0 + a))) (UInt8.ofNat (0x80 + b)) = true := by decide +kernel

theorem inRange_four : ∀ a < 5, ∀ b < 64, (a = 0 → 16 ≤ b) → (a = 4 → b < 16) →
    inRange (secondRange (UInt8.ofNat (0xF0 + a))) (UInt8.ofNat (0x80 + b)) = true := by decide +kernel

/-! ## Sequences -/

theorem validCount_succ {range : UInt8 × UInt8} {b : UInt8} (h : inRange range b = true) (wanted : Nat)
    (rest : List UInt8) :
    validCount range (wanted + 1) (b :: rest) = validCount (0x80, 0xBF) wanted rest + 1 :=
  if_pos h

/-- A sequence whose bytes fit is taken as a whole, and is the character of its bits. -/
theorem decodeFrom_sequence {first : UInt8} {following : List UInt8} {c : Char} (rest : List UInt8) (fuel position : Nat)
    (hfollowing : following? first = some following.length)
    (hvalid : validCount (secondRange first) following.length (following ++ rest) = following.length)
    (hbits : codePoint (firstBits first following.length) following = c.toNat) :
    decodeFrom (fuel + 1) position (first :: following ++ rest) =
      (decodeFrom fuel (position + (first :: following).length) rest).map (c :: ·) := by
  simp only [List.cons_append, decodeFrom, hfollowing, hvalid, if_true, List.drop_left, List.take_left, hbits,
    Char.ofNat_toNat, List.length_cons, Nat.add_assoc]

theorem decodeFrom_encodeChar (c : Char) (rest : List UInt8) (fuel position : Nat) :
    decodeFrom (fuel + 1) position (encodeChar c ++ rest) =
      (decodeFrom fuel (position + (encodeChar c).length) rest).map (c :: ·) := by
  have hscalar : c.toNat < 0xD800 ∨ 0xDFFF < c.toNat ∧ c.toNat < 0x110000 := c.valid
  unfold encodeChar
  dsimp only
  split
  · rename_i hn
    obtain ⟨hfollowing, hbits⟩ := following?_ascii c.toNat hn
    exact decodeFrom_sequence rest fuel position hfollowing rfl hbits
  split
  · rename_i hn hn'
    obtain ⟨hfollowing, hbits⟩ := following?_two (c.toNat / 64) (by omega) (by omega)
    refine decodeFrom_sequence rest fuel position hfollowing ?_ ?_
    · rw [secondRange_two _ (by omega) (by omega)]
      exact validCount_succ (inRange_continuation _ (by omega)) 0 rest
    · simp only [codePoint, List.length_singleton, hbits, List.foldl_cons, List.foldl_nil,
        continuation_bits (c.toNat % 64) (by omega)]
      omega
  split
  · rename_i hn hn' hn''
    obtain ⟨hfollowing, hbits⟩ := following?_three (c.toNat / 4096) (by omega)
    have hsecond := inRange_three (c.toNat / 4096) (by omega) (c.toNat / 64 % 64) (by omega) (by omega) (by omega)
    have hthird := inRange_continuation (c.toNat % 64) (by omega)
    refine decodeFrom_sequence rest fuel position hfollowing ?_ ?_
    · show validCount _ 2 (_ :: _ :: rest) = 2
      rw [validCount_succ hsecond, validCount_succ hthird, validCount]
    · simp only [codePoint, List.length_cons, List.length_nil, hbits, List.foldl_cons, List.foldl_nil,
        continuation_bits (c.toNat / 64 % 64) (by omega), continuation_bits (c.toNat % 64) (by omega)]
      omega
  · rename_i hn hn' hn''
    obtain ⟨hfollowing, hbits⟩ := following?_four (c.toNat / 262144) (by omega)
    have hsecond := inRange_four (c.toNat / 262144) (by omega) (c.toNat / 4096 % 64) (by omega) (by omega) (by omega)
    have hthird := inRange_continuation (c.toNat / 64 % 64) (by omega)
    have hfourth := inRange_continuation (c.toNat % 64) (by omega)
    refine decodeFrom_sequence rest fuel position hfollowing ?_ ?_
    · show validCount _ 3 (_ :: _ :: _ :: rest) = 3
      rw [validCount_succ hsecond, validCount_succ hthird, validCount_succ hfourth, validCount]
    · simp only [codePoint, List.length_cons, List.length_nil, hbits, List.foldl_cons, List.foldl_nil,
        continuation_bits (c.toNat / 4096 % 64) (by omega), continuation_bits (c.toNat / 64 % 64) (by omega),
        continuation_bits (c.toNat % 64) (by omega)]
      omega

theorem encodeChar_ne_nil (c : Char) : encodeChar c ≠ [] := by
  unfold encodeChar
  dsimp only
  split
  · simp
  split
  · simp
  split
  · simp
  · simp

/-! ## Texts -/

theorem decodeFrom_encode (cs : List Char) (fuel position : Nat) (hfuel : cs.length ≤ fuel) :
    decodeFrom fuel position (encode cs) = .ok cs := by
  induction cs generalizing fuel position with
  | nil => cases fuel <;> rfl
  | cons c cs ih =>
    obtain ⟨fuel, rfl⟩ : ∃ n, fuel = n + 1 := ⟨fuel - 1, by simp at hfuel; omega⟩
    rw [List.length_cons] at hfuel
    rw [encode, List.flatMap_cons, decodeFrom_encodeChar, ← encode, ih fuel _ (by omega)]
    rfl

theorem length_le_encode (cs : List Char) : cs.length ≤ (encode cs).length := by
  induction cs with
  | nil => exact Nat.le_refl _
  | cons c cs ih =>
    have := List.length_pos_iff.2 (encodeChar_ne_nil c)
    rw [encode, List.flatMap_cons, ← encode, List.length_append, List.length_cons]
    omega

/-- Encoded text is decoded to itself. -/
theorem decode_encode (cs : List Char) : decode (encode cs) = .ok cs :=
  decodeFrom_encode cs _ 0 (length_le_encode cs)

theorem encodeChar_eq (c : Char) : encodeChar c = String.utf8EncodeChar c := by
  have hscalar : c.toNat < 0xD800 ∨ 0xDFFF < c.toNat ∧ c.toNat < 0x110000 := c.valid
  have hval : c.val.toNat = c.toNat := rfl
  -- the first bytes are told with sums in another order and with remainders that change nothing
  have hfirst : ∀ {n m k : Nat}, n < m → UInt8.ofNat (k + n) = UInt8.ofNat (n % m + k) := by
    intro n m k hn
    rw [Nat.mod_eq_of_lt hn, Nat.add_comm]
  have hnext : ∀ n : Nat, UInt8.ofNat (0x80 + n) = UInt8.ofNat (n + 0x80) := fun n => by rw [Nat.add_comm]
  unfold encodeChar String.utf8EncodeChar
  simp only [hval, hnext]
  split
  · rename_i hn
    rw [if_pos (by omega)]
  split
  · rename_i hn hn'
    rw [if_neg (by omega), if_pos (by omega), hfirst (show c.toNat / 64 < 32 by omega)]
  split
  · rename_i hn hn' hn''
    rw [if_neg (by omega), if_neg (by omega), if_pos (by omega), hfirst (show c.toNat / 4096 < 16 by omega)]
  · rename_i hn hn' hn''
    rw [if_neg (by omega), if_neg (by omega), if_neg (by omega), hfirst (show c.toNat / 262144 < 8 by omega)]

/-- The bytes of a string are its encoded characters. -/
theorem encode_toList (s : String) : encode s.toList = s.toByteArray.data.toList := by
  rw [← String.utf8Encode_toList, List.utf8Encode, List.data_toByteArray, List.toList_toArray]
  exact congrArg (s.toList.flatMap ·) (funext encodeChar_eq)

end WebForm.Utf8
