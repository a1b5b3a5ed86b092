/-
Literals are read back as the texts they were written for, whatever follows them. So a literal ends
where it ends: from a text that starts with a literal, both the literal and the rest can be told.
-/
import Mathlib.Data.List.Basic
import WebForm.Json.Reader
import WebForm.Text.Quoted

namespace WebForm.Json

open Quoted

/-! ## Characters -/

/-- The four digits of a control character denote it. -/
theorem readUnit?_hex {n : Nat} (hn : n < 32) {rest : List Char} (hrest : rest ≠ []) :
    readUnit? (hex 4 n ++ rest) = some (n, rest) := by
  have hall : ∀ n < 32, ∃ a b c d, hex 4 n = [a, b, c, d] ∧
      ([a, b, c, d].all fun x => (hexDigit? x).isSome) = true ∧ ofDigits 16 [a, b, c, d] = n := by
    intro n hn
    refine ⟨hexChar (n / 16 / 16 / 16 % 16), hexChar (n / 16 / 16 % 16), hexChar (n / 16 % 16), hexChar (n % 16), rfl, ?_⟩
    revert n
    decide
  obtain ⟨a, b, c, d, hhex, hdigits, hval⟩ := hall n hn
  obtain ⟨e, r, rfl⟩ := List.exists_cons_of_ne_nil hrest
  rw [hhex]
  simp only [List.cons_append, List.nil_append, readUnit?, hdigits, if_true, hval]

theorem readEscapedUnit_hex {c : Char} (hc : c.toNat < 32) {rest : List Char} (hrest : rest ≠ []) (left : Nat) :
    readEscapedUnit left (hex 4 c.toNat ++ rest) = .ok (some c, rest) := by
  have hhigh : isHighUnit c.toNat = false := by
    simp only [isHighUnit, Bool.and_eq_false_iff, decide_eq_false_iff_not]
    omega
  have hlow : isLowUnit c.toNat = false := by
    simp only [isLowUnit, Bool.and_eq_false_iff, decide_eq_false_iff_not]
    omega
  have hchar : unitChar? c.toNat = some c := by
    rw [unitChar?, hhigh, hlow, Char.ofNat_toNat]
    rfl
  unfold readEscapedUnit
  rw [readUnit?_hex hc hrest]
  simp only [hhigh, hchar]

/-- A character inside a literal is read back, however it was written. -/
theorem readString_encodeChar (body : List Char) (fuel : Nat) (read : List (Option Char)) (c : Char) {rest : List Char}
    (hrest : rest ≠ []) :
    readString body (fuel + 1) read (encodeChar c ++ rest) = readString body fuel (some c :: read) rest := by
  -- seven characters have an escape of their own
  unfold encodeChar escape?
  split
  · rename_i h
    subst h
    rfl
  split
  · rename_i h
    subst h
    rfl
  split
  · rename_i h
    subst h
    rfl
  split
  · rename_i h
    subst h
    rfl
  split
  · rename_i h
    subst h
    rfl
  split
  · rename_i h
    obtain rfl : c = '\x08' := Char.toNat_inj.1 h
    rfl
  split
  · rename_i h
    obtain rfl : c = '\x0c' := Char.toNat_inj.1 h
    rfl
  split
  · rename_i h
    show readString body (fuel + 1) read ('\\' :: 'u' :: (hex 4 c.toNat ++ rest)) = _
    rw [readString, readEscapedUnit_hex h hrest]
  · rename_i hquote hslash _ _ _ _ _ hcontrol
    show readString body (fuel + 1) read (c :: rest) = _
    -- what is not escaped is neither a quote nor a backslash, so the reader comes to its last case
    rw [readString, if_neg hcontrol]
    · exact hquote
    · exact fun h _ => hslash h
    · exact fun _ h _ => hslash h
    · exact fun _ _ h _ => hslash h

/-! ## Literals -/

theorem textOf?_map_some (cs : List Char) : textOf? (cs.map some) = some (String.ofList cs) := by
  have hall : (cs.map some).mapM id = some cs := by
    induction cs with
    | nil => rfl
    | cons c cs ih =>
      rw [List.map_cons, List.mapM_cons, ih]
      rfl
  rw [textOf?, hall]
  rfl

/-- The reader takes one step for each character of the text, and one for the closing quote. -/
theorem readString_encode (body : List Char) (fuel : Nat) (read : List (Option Char)) (cs : List Char)
    (hfuel : cs.length < fuel) (rest : List Char) :
    readString body fuel read (cs.flatMap encodeChar ++ '"' :: rest) =
      .ok (textOf? (read.reverse ++ cs.map some), rest) := by
  induction cs generalizing fuel read with
  | nil =>
    obtain ⟨fuel, rfl⟩ : ∃ n, fuel = n + 1 := ⟨fuel - 1, by simp at hfuel; omega⟩
    rw [List.map_nil, List.append_nil]
    rfl
  | cons c cs ih =>
    obtain ⟨fuel, rfl⟩ : ∃ n, fuel = n + 1 := ⟨fuel - 1, by omega⟩
    rw [List.length_cons] at hfuel
    rw [List.flatMap_cons, List.append_assoc, readString_encodeChar body fuel read c (by simp),
      ih fuel (some c :: read) (by omega)]
    simp

theorem toList_encode (s : String) : (encode s).toList = '"' :: (s.toList.flatMap encodeChar ++ ['"']) := by
  simp [encode]

/-- A literal and what follows it can be told apart. -/
theorem encode_append_inj {s t : String} {r r' : List Char} (h : (encode s).toList ++ r = (encode t).toList ++ r') :
    s = t ∧ r = r' := by
  rw [toList_encode, toList_encode, List.cons_append, List.cons_append, List.append_assoc, List.append_assoc,
    List.singleton_append, List.singleton_append] at h
  have hs := readString_encode [] (s.toList.length + t.toList.length + 1) [] s.toList (by omega) r
  have ht := readString_encode [] (s.toList.length + t.toList.length + 1) [] t.toList (by omega) r'
  rw [(List.cons.inj h).2, ht] at hs
  simp only [List.reverse_nil, List.nil_append, textOf?_map_some, String.ofList_toList, Except.ok.injEq, Prod.mk.injEq,
    Option.some.injEq] at hs
  exact ⟨hs.1.symm, hs.2.symm⟩

end WebForm.Json
