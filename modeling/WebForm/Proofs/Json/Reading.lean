/-
What the reader of JSON reads, without its fuel: a relation between a phrase, the characters it is read
from and the characters that are left. The reader gives a value exactly where the relation holds, since
every phrase takes at least one character and the fuel is that of the whole text. The bounds of the
interpreter belong to the relation: each bracket takes a level, and an integer has to have few digits.
-/
import Mathlib.Data.List.TakeWhile
import WebForm.Json.Reader
import WebForm.Proofs.Value

namespace WebForm.Json

/-! ## Characters -/

/-- The character of two UTF-16 units. -/
def pairChar (high low : Nat) : Char := Char.ofNat (0x10000 + (high - 0xD800) * 0x400 + (low - 0xDC00))

/-- The second UTF-16 unit of a pair, if the first unit may start one and this one ends it. -/
def secondUnit? (high : Nat) : List Char → Option (Nat × List Char)
  | '\\' :: 'u' :: r =>
    match readUnit? r with
    | some (low, rest) => if isHighUnit high && isLowUnit low then some (low, rest) else none
    | none => none
  | _ => none

/-- The characters of a string up to its closing quote, and what follows it; half of a pair is none. -/
inductive ReadsChars : List Char → List (Option Char) → List Char → Prop where
  | close (r : List Char) : ReadsChars ('"' :: r) [] r
  | plain {c : Char} {cs r : List Char} {s : List (Option Char)} (hquote : c ≠ '"') (hslash : c ≠ '\\')
      (hc : 32 ≤ c.toNat) (h : ReadsChars cs s r) : ReadsChars (c :: cs) (some c :: s) r
  | simple {c d : Char} {cs r : List Char} {s : List (Option Char)} (hc : simpleEscape? c = some d)
      (h : ReadsChars cs s r) : ReadsChars ('\\' :: c :: cs) (some d :: s) r
  | unit {n : Nat} {cs cs' r : List Char} {s : List (Option Char)} (hunit : readUnit? cs = some (n, cs'))
      (hsecond : secondUnit? n cs' = none) (h : ReadsChars cs' s r) :
      ReadsChars ('\\' :: 'u' :: cs) (unitChar? n :: s) r
  | pair {high low : Nat} {cs cs' cs'' r : List Char} {s : List (Option Char)}
      (hunit : readUnit? cs = some (high, cs')) (hsecond : secondUnit? high cs' = some (low, cs''))
      (h : ReadsChars cs'' s r) : ReadsChars ('\\' :: 'u' :: cs) (some (pairChar high low) :: s) r

theorem readUnit?_eq_some_iff {cs r : List Char} {n : Nat} :
    readUnit? cs = some (n, r) ↔ ∃ a b c d, cs = a :: b :: c :: d :: r ∧ r ≠ [] ∧
      (∀ x ∈ [a, b, c, d], (hexDigit? x).isSome = true) ∧ ofDigits 16 [a, b, c, d] = n := by
  constructor
  · intro h
    unfold readUnit? at h
    split at h
    · split at h
      · rename_i hdigits
        cases h
        exact ⟨_, _, _, _, rfl, List.cons_ne_nil _ _, List.all_eq_true.1 hdigits, rfl⟩
      · cases h
    · cases h
  · rintro ⟨a, b, c, d, rfl, hr, hdigits, rfl⟩
    obtain ⟨e, r, rfl⟩ := List.exists_cons_of_ne_nil hr
    exact if_pos (List.all_eq_true.2 hdigits)

/-- A unit has four digits, and the text goes on after them. -/
theorem readUnit?_length {cs r : List Char} {n : Nat} (h : readUnit? cs = some (n, r)) :
    cs.length = r.length + 4 ∧ 0 < r.length := by
  obtain ⟨a, b, c, d, rfl, hr, -⟩ := readUnit?_eq_some_iff.1 h
  exact ⟨rfl, List.length_pos_iff.2 hr⟩

theorem secondUnit?_eq_some {cs r : List Char} {high low : Nat} (h : secondUnit? high cs = some (low, r)) :
    ∃ r', cs = '\\' :: 'u' :: r' ∧ readUnit? r' = some (low, r) ∧ isHighUnit high = true ∧ isLowUnit low = true := by
  unfold secondUnit? at h
  split at h
  · rename_i r'
    split at h
    · rename_i low' rest hunit
      split at h
      · rename_i hpair
        rw [Bool.and_eq_true] at hpair
        cases h
        exact ⟨r', rfl, hunit, hpair⟩
      · cases h
    · cases h
  · cases h

theorem secondUnit?_length {cs r : List Char} {high low : Nat} (h : secondUnit? high cs = some (low, r)) :
    r.length < cs.length := by
  obtain ⟨r', rfl, hunit, -⟩ := secondUnit?_eq_some h
  have := readUnit?_length hunit
  simp only [List.length_cons]
  omega

theorem ReadsChars.length_lt {cs r : List Char} {s : List (Option Char)} (h : ReadsChars cs s r) :
    r.length < cs.length := by
  induction h with
  | close r => simp
  | plain _ _ _ _ ih | simple _ _ ih =>
    simp only [List.length_cons]
    omega
  | unit hunit _ _ ih =>
    have := readUnit?_length hunit
    simp only [List.length_cons]
    omega
  | pair hunit hsecond _ ih =>
    have := readUnit?_length hunit
    have := secondUnit?_length hsecond
    simp only [List.length_cons]
    omega

/-- A unit is read with the second of its pair, if that follows, or else alone. -/
theorem readEscapedUnit_eq_ok {left : Nat} {cs r : List Char} {c : Option Char}
    (h : readEscapedUnit left cs = .ok (c, r)) :
    ∃ n cs', readUnit? cs = some (n, cs') ∧
      ((∃ low, secondUnit? n cs' = some (low, r) ∧ c = some (pairChar n low)) ∨
        secondUnit? n cs' = none ∧ c = unitChar? n ∧ r = cs') := by
  unfold readEscapedUnit at h
  split at h
  · cases h
  rename_i n cs' hunit
  refine ⟨n, cs', hunit, ?_⟩
  split at h
  · rename_i r' hhigh
    split at h
    · rename_i hshort
      have hnone : readUnit? r' = none := by
        rw [Option.eq_none_iff_forall_ne_some]
        rintro ⟨low, rest⟩ hsome
        have := readUnit?_length hsome
        omega
      cases h
      exact .inr ⟨by simp only [secondUnit?, hnone], rfl, rfl⟩
    · split at h
      · cases h
      · rename_i low rest hlow
        split at h
        · rename_i hpair
          rw [Except.ok.injEq, Prod.mk.injEq] at h
          obtain ⟨hc, rfl⟩ := h
          exact .inl ⟨low, by simp only [secondUnit?, hlow, hhigh, hpair, Bool.and_self, if_true], hc.symm⟩
        · rename_i hpair
          cases h
          exact .inr ⟨by simp [secondUnit?, hlow, hpair], rfl, rfl⟩
  · rename_i hother
    cases h
    refine .inr ⟨?_, rfl, rfl⟩
    rw [Option.eq_none_iff_forall_ne_some]
    rintro ⟨low, rest⟩ hsome
    obtain ⟨r', rfl, -, hhigh, -⟩ := secondUnit?_eq_some hsome
    exact hother r' hhigh rfl

/-- After a unit whose pair is complete, the reader goes on behind the pair. -/
theorem readEscapedUnit_of_pair {left high low : Nat} {cs cs' r : List Char} (hunit : readUnit? cs = some (high, cs'))
    (hsecond : secondUnit? high cs' = some (low, r)) : readEscapedUnit left cs = .ok (some (pairChar high low), r) := by
  obtain ⟨r', rfl, hlow, hhigh, hpair⟩ := secondUnit?_eq_some hsecond
  have hlong : ¬ r'.length < 5 := by
    have := readUnit?_length hlow
    omega
  simp only [readEscapedUnit, hunit, hhigh, hlow, hpair, if_neg hlong, if_true, pairChar]

/-- After any other unit, the reader goes on behind the unit, as long as a further unit does not break
off. -/
theorem readEscapedUnit_of_unit {left n : Nat} {cs cs' r : List Char} {s : List (Option Char)}
    (hunit : readUnit? cs = some (n, cs')) (hsecond : secondUnit? n cs' = none) (h : ReadsChars cs' s r) :
    readEscapedUnit left cs = .ok (unitChar? n, cs') := by
  unfold readEscapedUnit
  simp only [hunit]
  split
  · rename_i r' hhigh
    split
    · rfl
    · split
      · rename_i hnone
        -- no string goes on with a unit that breaks off
        cases h with
        | plain _ hslash => exact absurd rfl hslash
        | simple hc => exact absurd hc (by simp [simpleEscape?])
        | unit hunit' => exact absurd hunit' (by simp [hnone])
        | pair hunit' => exact absurd hunit' (by simp [hnone])
      · rename_i low rest hlow
        split
        · rename_i hpair
          simp [secondUnit?, hlow, hhigh, hpair] at hsecond
        · rfl
  · rfl

theorem readString_sound {body : List Char} {fuel : Nat} {read : List (Option Char)} {cs r : List Char} {t : Option String}
    (h : readString body fuel read cs = .ok (t, r)) : ∃ s, ReadsChars cs s r ∧ t = textOf? (read.reverse ++ s) := by
  induction fuel generalizing read cs with
  | zero => cases h
  | succ fuel ih =>
    unfold readString at h
    split at h
    · cases h
    · cases h
      exact ⟨[], .close _, by rw [List.append_nil]⟩
    · cases h
    · split at h
      · rename_i c r' hunit
        obtain ⟨s, hs, rfl⟩ := ih h
        obtain ⟨n, cs', hread, ⟨low, hpair, hc⟩ | ⟨hnone, rfl, rfl⟩⟩ := readEscapedUnit_eq_ok hunit
        · exact ⟨some (pairChar n low) :: s, .pair hread hpair hs, by simp [hc]⟩
        · exact ⟨unitChar? n :: s, .unit hread hnone hs, by simp⟩
      · cases h
    · split at h
      · rename_i c r' _ _ d hd
        obtain ⟨s, hs, rfl⟩ := ih h
        exact ⟨some d :: s, .simple hd hs, by simp⟩
      · cases h
    · rename_i c r' hquote hend hunit hslash
      split at h
      · cases h
      · rename_i hc
        obtain ⟨s, hs, rfl⟩ := ih h
        have hne : c ≠ '\\' := by
          rintro rfl
          cases r' with
          | nil => exact hend rfl rfl
          | cons d r' => exact hslash d r' rfl rfl
        exact ⟨some c :: s, .plain hquote hne (Nat.not_lt.1 hc) hs, by simp⟩

/-- Every step takes a character, so the length of what is left is fuel enough. -/
theorem readString_complete {body : List Char} {fuel : Nat} {read s : List (Option Char)} {cs r : List Char}
    (h : ReadsChars cs s r) (hfuel : cs.length < fuel) :
    readString body fuel read cs = .ok (textOf? (read.reverse ++ s), r) := by
  induction h generalizing fuel read with
  | close r =>
    obtain ⟨fuel, rfl⟩ : ∃ n, fuel = n + 1 := ⟨fuel - 1, by omega⟩
    rw [List.append_nil]
    rfl
  | @plain c cs r s hquote hslash hc _ ih =>
    obtain ⟨fuel, rfl⟩ : ∃ n, fuel = n + 1 := ⟨fuel - 1, by omega⟩
    rw [List.length_cons] at hfuel
    rw [readString, if_neg (Nat.not_lt.2 hc), ih (by omega)]
    · simp
    · exact hquote
    · exact fun h _ => hslash h
    · exact fun _ h _ => hslash h
    · exact fun _ _ h _ => hslash h
  | @simple c d cs r s hc _ ih =>
    obtain ⟨fuel, rfl⟩ : ∃ n, fuel = n + 1 := ⟨fuel - 1, by omega⟩
    simp only [List.length_cons] at hfuel
    have hgo : readString body fuel (some d :: read) cs = _ := ih (by omega)
    rw [readString, hc]
    · simp [hgo]
    · rintro rfl
      simp [simpleEscape?] at hc
  | @unit n cs cs' r s hunit hsecond hs ih =>
    obtain ⟨fuel, rfl⟩ : ∃ n, fuel = n + 1 := ⟨fuel - 1, by omega⟩
    have := readUnit?_length hunit
    simp only [List.length_cons] at hfuel
    have hgo : readString body fuel (unitChar? n :: read) cs' = _ := ih (by omega)
    rw [readString, readEscapedUnit_of_unit hunit hsecond hs]
    simp [hgo]
  | @pair high low cs cs' cs'' r s hunit hsecond _ ih =>
    obtain ⟨fuel, rfl⟩ : ∃ n, fuel = n + 1 := ⟨fuel - 1, by omega⟩
    have := readUnit?_length hunit
    have := secondUnit?_length hsecond
    simp only [List.length_cons] at hfuel
    have hgo : readString body fuel (some (pairChar high low) :: read) cs'' = _ := ih (by omega)
    rw [readString, readEscapedUnit_of_pair hunit hsecond]
    simp [hgo]

/-! ## Constants and numbers -/

theorem after?_eq_some_iff {word cs r : List Char} : after? word cs = some r ↔ cs = word ++ r := by
  induction word generalizing cs with
  | nil => simp [after?]
  | cons w word ih =>
    cases cs with
    | nil => simp [after?]
    | cons c cs =>
      rw [after?, List.cons_append, List.cons.injEq]
      split
      · rename_i h
        rw [ih]
        simp [h]
      · rename_i h
        simp [Ne.symm h]

theorem readConstant?_eq_some {cs r : List Char} {v : Value} (h : readConstant? cs = some (v, r)) :
    ∃ word, (word, v) ∈ constants ∧ cs = word ++ r := by
  obtain ⟨⟨word, w⟩, hmem, hword⟩ := List.exists_of_findSome?_eq_some h
  obtain ⟨rest, hrest, heq⟩ := Option.map_eq_some_iff.1 hword
  cases heq
  exact ⟨word, hmem, after?_eq_some_iff.1 hrest⟩

/-- The characters that a constant or a number starts with. -/
def opensScalar (c : Char) : Bool := isDecimalDigit c || ['-', 'n', 't', 'f', 'N', 'I'].contains c

theorem constants_open {word : List Char} {v : Value} (h : (word, v) ∈ constants) :
    ∃ c cs, word = c :: cs ∧ opensScalar c = true := by
  simp only [constants, List.mem_cons, Prod.mk.injEq, List.not_mem_nil, or_false] at h
  rcases h with ⟨rfl, -⟩ | ⟨rfl, -⟩ | ⟨rfl, -⟩ | ⟨rfl, -⟩ | ⟨rfl, -⟩ | ⟨rfl, -⟩ <;> exact ⟨_, _, rfl, rfl⟩

theorem readConstant?_opens {cs r : List Char} {v : Value} (h : readConstant? cs = some (v, r)) :
    r.length < cs.length ∧ ∃ c cs', cs = c :: cs' ∧ opensScalar c = true := by
  obtain ⟨word, hmem, rfl⟩ := readConstant?_eq_some h
  obtain ⟨c, ws, rfl, hc⟩ := constants_open hmem
  refine ⟨?_, c, ws ++ r, rfl, hc⟩
  simp only [List.cons_append, List.length_cons, List.length_append]
  omega

theorem readWhole?_eq_some {cs ds r : List Char} (h : readWhole? cs = some (ds, r)) :
    cs = ds ++ r ∧ ∃ d ds', ds = d :: ds' ∧ isDecimalDigit d = true := by
  unfold readWhole? at h
  split at h
  · cases h
    exact ⟨rfl, '0', [], rfl, rfl⟩
  · dsimp only at h
    split at h
    · cases h
    · rename_i hne
      cases h
      obtain ⟨d, ds', hds⟩ := List.exists_cons_of_ne_nil hne
      exact ⟨List.takeWhile_append_dropWhile.symm, d, ds', hds, List.mem_takeWhile_imp (hds ▸ List.mem_cons_self)⟩

theorem readFraction_length_le (cs : List Char) : (readFraction cs).2.length ≤ cs.length := by
  unfold readFraction
  split
  · rename_i r
    dsimp only
    split
    · exact Nat.le_refl _
    · exact Nat.le_succ_of_le (List.dropWhile_sublist _).length_le
  · exact Nat.le_refl _

theorem sign_length_le (cs : List Char) : (DecimalNumeral.sign cs).2.length ≤ cs.length := by
  unfold DecimalNumeral.sign
  split
  · exact Nat.le_succ _
  · exact Nat.le_succ _
  · exact Nat.le_refl _

theorem readExponent_length_le (cs : List Char) : (readExponent cs).2.length ≤ cs.length := by
  unfold readExponent
  split
  · exact Nat.le_refl _
  · rename_i c r
    dsimp only
    split
    · exact Nat.le_succ_of_le (Nat.le_trans (List.dropWhile_sublist _).length_le (sign_length_le r))
    · exact Nat.le_refl _

/-- The sign of a number, and what follows it. -/
def splitMinus : List Char → Bool × List Char
  | '-' :: r => (true, r)
  | r => (false, r)

/-- The value of the parts of a number, unless it is an integer of too many digits. -/
def numberValue (digits : Nat) (negative : Bool) (whole fractional : List Char) (exponent : Option Int) :
    Except Excess Value :=
  if fractional = [] ∧ exponent = none then
    if digits < whole.length then .error (.digitsRead digits whole.length)
    else .ok (.int (if negative then -(ofDigits 10 whole : Int) else ofDigits 10 whole))
  else .ok (.double (DecimalNumeral.toDouble ⟨negative, whole, fractional, exponent.getD 0⟩))

theorem readNumber?_eq (digits : Nat) (cs : List Char) :
    readNumber? digits cs = (readWhole? (splitMinus cs).2).map fun (whole, r) =>
      (numberValue digits (splitMinus cs).1 whole (readFraction r).1 (readExponent (readFraction r).2).1,
        (readExponent (readFraction r).2).2) := by
  unfold readNumber?
  split
  rename_i negative tail hminus
  rw [show splitMinus cs = (negative, tail) from hminus]
  dsimp only
  cases readWhole? tail with
  | none => rfl
  | some found =>
    rw [Option.map_some]
    unfold numberValue
    dsimp only
    split
    · split
      · rfl
      · rfl
    · rfl

theorem readNumber?_opens {digits : Nat} {cs r : List Char} {found : Except Excess Value}
    (h : readNumber? digits cs = some (found, r)) :
    r.length < cs.length ∧ ∃ c cs', cs = c :: cs' ∧ opensScalar c = true := by
  rw [readNumber?_eq, Option.map_eq_some_iff] at h
  obtain ⟨⟨whole, tail⟩, hwhole, heq⟩ := h
  obtain ⟨hcs, d, ds, rfl, hd⟩ := readWhole?_eq_some hwhole
  obtain ⟨-, rfl⟩ := Prod.mk.inj heq
  have hlength : (splitMinus cs).2.length = ds.length + 1 + tail.length := by
    rw [hcs]
    simp only [List.cons_append, List.length_cons, List.length_append]
    omega
  have := readExponent_length_le (readFraction tail).2
  have := readFraction_length_le tail
  unfold splitMinus at hcs hlength
  split at hcs
  · rename_i rest
    simp only [List.length_cons] at hlength ⊢
    exact ⟨by omega, '-', rest, rfl, rfl⟩
  · rename_i hminus
    simp only at hlength hcs
    subst hcs
    exact ⟨by simp at hlength ⊢; omega, d, ds ++ tail, rfl, by simp [opensScalar, hd]⟩

/-! ## Values -/

/-- What is read as one: a value, the items of a list with its closing bracket, or the entries of an
object with its closing brace. There is none of them if a text in it has half of a pair. -/
inductive Phrase where
  | value (v : Option Value)
  | items (vs : Option (List Value))
  | entries (es : Option (List (Scalar × Value)))

/-- The entry of a key, by its characters, and a value. -/
def entryOf? (k : List (Option Char)) (v : Option Value) : Option (Scalar × Value) :=
  (textOf? k).bind fun k => v.map (Scalar.text k, ·)

/-- The levels that are left, a phrase, the characters it is read from, and those that are left. -/
inductive Reads (digits : Nat) : Nat → Phrase → List Char → List Char → Prop where
  | text {levels : Nat} {cs r : List Char} {s : List (Option Char)} (h : ReadsChars cs s r) :
      Reads digits levels (.value ((textOf? s).map .text)) ('"' :: cs) r
  | constant {levels : Nat} {v : Value} {cs r : List Char} (h : readConstant? cs = some (v, r)) :
      Reads digits levels (.value (some v)) cs r
  | number {levels : Nat} {v : Value} {cs r : List Char} (hconstant : readConstant? cs = none)
      (h : readNumber? digits cs = some (.ok v, r)) : Reads digits levels (.value (some v)) cs r
  | emptyList {levels : Nat} {cs r : List Char} (hclose : skipBlanks cs = ']' :: r) :
      Reads digits (levels + 1) (.value (some (.list []))) ('[' :: cs) r
  | list {levels : Nat} {vs : Option (List Value)} {cs r : List Char}
      (h : Reads digits levels (.items vs) (skipBlanks cs) r) :
      Reads digits (levels + 1) (.value (vs.map .list)) ('[' :: cs) r
  | emptyObject {levels : Nat} {cs r : List Char} (hclose : skipBlanks cs = '\x7d' :: r) :
      Reads digits (levels + 1) (.value (some (.object []))) ('\x7b' :: cs) r
  | object {levels : Nat} {es : Option (List (Scalar × Value))} {cs r : List Char}
      (h : Reads digits levels (.entries es) (skipBlanks cs) r) :
      Reads digits (levels + 1) (.value (es.map fun es => .object (Entries.ofPairs es))) ('\x7b' :: cs) r
  | lastItem {levels : Nat} {v : Option Value} {cs r₁ r : List Char} (h : Reads digits levels (.value v) cs r₁)
      (hclose : skipBlanks r₁ = ']' :: r) : Reads digits levels (.items (v.map ([·]))) cs r
  | item {levels : Nat} {v : Option Value} {vs : Option (List Value)} {cs r₁ r₂ r : List Char}
      (h : Reads digits levels (.value v) cs r₁) (hcomma : skipBlanks r₁ = ',' :: r₂)
      (hs : Reads digits levels (.items vs) (skipBlanks r₂) r) :
      Reads digits levels (.items (v.bind fun v => vs.map (v :: ·))) cs r
  | lastEntry {levels : Nat} {v : Option Value} {k : List (Option Char)} {cs r₁ r₂ r₃ r : List Char}
      (hkey : ReadsChars cs k r₁) (hcolon : skipBlanks r₁ = ':' :: r₂)
      (h : Reads digits levels (.value v) (skipBlanks r₂) r₃) (hclose : skipBlanks r₃ = '\x7d' :: r) :
      Reads digits levels (.entries ((entryOf? k v).map ([·]))) ('"' :: cs) r
  | entry {levels : Nat} {v : Option Value} {es : Option (List (Scalar × Value))} {k : List (Option Char)}
      {cs r₁ r₂ r₃ r₄ r : List Char} (hkey : ReadsChars cs k r₁) (hcolon : skipBlanks r₁ = ':' :: r₂)
      (h : Reads digits levels (.value v) (skipBlanks r₂) r₃) (hcomma : skipBlanks r₃ = ',' :: r₄)
      (hs : Reads digits levels (.entries es) (skipBlanks r₄) r) :
      Reads digits levels (.entries ((entryOf? k v).bind fun e => es.map (e :: ·))) ('"' :: cs) r

/-- The characters that a phrase starts with. -/
def opensPhrase (c : Char) : Bool := opensScalar c || ['"', '[', '\x7b'].contains c

section

variable {digits levels : Nat} {p : Phrase} {cs r : List Char}

theorem Reads.opens (h : Reads digits levels p cs r) : ∃ c cs', cs = c :: cs' ∧ opensPhrase c = true := by
  induction h with
  | constant h =>
    obtain ⟨-, c, cs', rfl, hc⟩ := readConstant?_opens h
    exact ⟨c, cs', rfl, by simp [opensPhrase, hc]⟩
  | number _ h =>
    obtain ⟨-, c, cs', rfl, hc⟩ := readNumber?_opens h
    exact ⟨c, cs', rfl, by simp [opensPhrase, hc]⟩
  | text | lastEntry | entry => exact ⟨'"', _, rfl, rfl⟩
  | emptyList | list => exact ⟨'[', _, rfl, rfl⟩
  | emptyObject | object => exact ⟨'\x7b', _, rfl, rfl⟩
  | lastItem _ _ ih | item _ _ _ ih => exact ih

theorem ne_cons_of_opens (h : ∃ c cs', cs = c :: cs' ∧ opensPhrase c = true) {c : Char} (hc : opensPhrase c = false)
    (cs' : List Char) : cs ≠ c :: cs' := by
  rintro rfl
  obtain ⟨d, ds, heq, hd⟩ := h
  rw [← (List.cons.inj heq).1, hc] at hd
  cases hd

theorem Reads.ne_cons (h : Reads digits levels p cs r) {c : Char} (hc : opensPhrase c = false) (cs' : List Char) :
    cs ≠ c :: cs' :=
  ne_cons_of_opens h.opens hc cs'

/-- No phrase starts with a blank. -/
theorem skipBlanks_eq_of_opens (h : ∃ c cs', cs = c :: cs' ∧ opensPhrase c = true) : skipBlanks cs = cs := by
  obtain ⟨c, cs', rfl, hc⟩ := h
  have hblank : isBlank c = false := by
    rw [Bool.eq_false_iff]
    intro hblank
    simp only [isBlank, Bool.or_eq_true, beq_iff_eq] at hblank
    rcases hblank with ((rfl | rfl) | rfl) | rfl <;> exact absurd hc (by decide)
  simp [skipBlanks, hblank]

theorem Reads.skipBlanks_eq (h : Reads digits levels p cs r) : skipBlanks cs = cs := skipBlanks_eq_of_opens h.opens

theorem skipBlanks_length_le (cs : List Char) : (skipBlanks cs).length ≤ cs.length :=
  (List.dropWhile_sublist _).length_le

theorem length_lt_of_skipBlanks {c : Char} (h : skipBlanks cs = c :: r) : r.length < cs.length := by
  have := skipBlanks_length_le cs
  rw [h, List.length_cons] at this
  exact this

/-- Every phrase takes characters. -/
theorem Reads.length_lt (h : Reads digits levels p cs r) : r.length < cs.length := by
  induction h with
  | text h =>
    have := h.length_lt
    simp only [List.length_cons]
    omega
  | constant h => exact (readConstant?_opens h).1
  | number _ h => exact (readNumber?_opens h).1
  | emptyList hclose | emptyObject hclose =>
    have := length_lt_of_skipBlanks hclose
    simp only [List.length_cons]
    omega
  | @list _ _ cs _ _ ih | @object _ _ cs _ _ ih =>
    have := skipBlanks_length_le cs
    simp only [List.length_cons]
    omega
  | lastItem _ hclose ih =>
    have := length_lt_of_skipBlanks hclose
    omega
  | @item _ _ _ _ _ r₂ _ _ hcomma _ ih ihs =>
    have := length_lt_of_skipBlanks hcomma
    have := skipBlanks_length_le r₂
    omega
  | @lastEntry _ _ _ _ _ r₂ _ _ hkey hcolon _ hclose ih =>
    have := hkey.length_lt
    have := length_lt_of_skipBlanks hcolon
    have := skipBlanks_length_le r₂
    have := length_lt_of_skipBlanks hclose
    simp only [List.length_cons]
    omega
  | @entry _ _ _ _ _ _ r₂ _ r₄ _ hkey hcolon _ hcomma _ ih ihs =>
    have := hkey.length_lt
    have := length_lt_of_skipBlanks hcolon
    have := skipBlanks_length_le r₂
    have := length_lt_of_skipBlanks hcomma
    have := skipBlanks_length_le r₄
    simp only [List.length_cons]
    omega

end

/-! ## The reader reads exactly the phrases -/

theorem enter_eq_ok_iff {ofObject : Bool} {levels left : Nat} : enter ofObject levels = .ok left ↔ levels = left + 1 := by
  cases levels with
  | zero => simp [enter]
  | succ levels => simp [enter]

theorem readString_eq_ok {size : Nat} {cs r : List Char} {t : Option String} (h : readString cs size [] cs = .ok (t, r)) :
    ∃ s, ReadsChars cs s r ∧ t = textOf? s := by
  obtain ⟨s, hs, ht⟩ := readString_sound h
  exact ⟨s, hs, ht⟩

/-- What the readers give with their fuel is read from the characters. -/
structure ReaderSound (digits size fuel : Nat) : Prop where
  value : ∀ {levels cs r v}, readValue digits size fuel levels cs = .ok (v, r) → Reads digits levels (.value v) cs r
  items : ∀ {levels cs r vs}, readItems digits size fuel levels cs = .ok (vs, r) → Reads digits levels (.items vs) cs r
  entries : ∀ {levels cs r es}, readEntries digits size fuel levels cs = .ok (es, r) →
    Reads digits levels (.entries es) cs r

section ReaderSound

variable {digits size fuel levels : Nat} {cs r : List Char} (hsound : ReaderSound digits size fuel)
include hsound

theorem ReaderSound.value_succ {v : Option Value} (h : readValue digits size (fuel + 1) levels cs = .ok (v, r)) :
    Reads digits levels (.value v) cs r := by
  rw [readValue.eq_def] at h
  dsimp only at h
  -- the first character says what follows: a string, an object, a list, or a constant or number
  split at h
  · obtain ⟨⟨t, r'⟩, ht, heq⟩ := bind_eq_ok_iff.1 h
    obtain ⟨s, hs, rfl⟩ := readString_eq_ok ht
    cases heq
    exact .text hs
  · obtain ⟨left, hleft, hbehind⟩ := bind_eq_ok_iff.1 h
    obtain rfl := enter_eq_ok_iff.1 hleft
    split at hbehind
    · rename_i hclose
      cases hbehind
      exact .emptyObject hclose
    · obtain ⟨⟨es, r'⟩, hes, heq⟩ := bind_eq_ok_iff.1 hbehind
      cases heq
      exact .object (hsound.entries hes)
  · obtain ⟨left, hleft, hbehind⟩ := bind_eq_ok_iff.1 h
    obtain rfl := enter_eq_ok_iff.1 hleft
    split at hbehind
    · rename_i hclose
      cases hbehind
      exact .emptyList hclose
    · obtain ⟨⟨vs, r'⟩, hvs, heq⟩ := bind_eq_ok_iff.1 hbehind
      cases heq
      exact .list (hsound.items hvs)
  · unfold readScalar at h
    split at h
    · rename_i hconstant
      cases h
      exact .constant hconstant
    · rename_i hconstant
      split at h
      · rename_i hnumber
        cases h
        exact .number hconstant hnumber
      · cases h
      · cases h

theorem ReaderSound.items_succ {vs : Option (List Value)} (h : readItems digits size (fuel + 1) levels cs = .ok (vs, r)) :
    Reads digits levels (.items vs) cs r := by
  rw [readItems] at h
  obtain ⟨⟨v, r₁⟩, hv, h⟩ := bind_eq_ok_iff.1 h
  dsimp only at h
  split at h
  · rename_i hclose
    cases h
    exact .lastItem (hsound.value hv) hclose
  · rename_i hcomma
    obtain ⟨⟨vs', r'⟩, hvs, heq⟩ := bind_eq_ok_iff.1 h
    cases heq
    exact .item (hsound.value hv) hcomma (hsound.items hvs)
  · cases h

theorem ReaderSound.entries_succ {es : Option (List (Scalar × Value))}
    (h : readEntries digits size (fuel + 1) levels cs = .ok (es, r)) : Reads digits levels (.entries es) cs r := by
  rw [readEntries.eq_def] at h
  dsimp only at h
  split at h
  · obtain ⟨⟨t, r₁⟩, ht, h⟩ := bind_eq_ok_iff.1 h
    obtain ⟨k, hk, rfl⟩ := readString_eq_ok ht
    dsimp only at h
    split at h
    · rename_i hcolon
      obtain ⟨⟨v, r₃⟩, hv, h⟩ := bind_eq_ok_iff.1 h
      dsimp only at h
      split at h
      · rename_i hclose
        cases h
        exact .lastEntry hk hcolon (hsound.value hv) hclose
      · rename_i hcomma
        obtain ⟨⟨es', r'⟩, hes, heq⟩ := bind_eq_ok_iff.1 h
        cases heq
        exact .entry hk hcolon (hsound.value hv) hcomma (hsound.entries hes)
      · cases h
    · cases h
  · cases h

end ReaderSound

theorem reader_sound (digits size fuel : Nat) : ReaderSound digits size fuel := by
  induction fuel with
  | zero =>
    refine ⟨fun h => ?_, fun h => ?_, fun h => ?_⟩
    · rw [readValue] at h
      cases h
    · rw [readItems] at h
      cases h
    · rw [readEntries] at h
      cases h
  | succ fuel ih => exact ⟨ih.value_succ, ih.items_succ, ih.entries_succ⟩

section Steps

variable {digits size fuel levels : Nat} {v : Option Value} {cs r r₁ r₂ r₃ r₄ : List Char}

theorem readValue_text {s : Option String} (h : readString cs size [] cs = .ok (s, r)) :
    readValue digits size (fuel + 1) levels ('"' :: cs) = .ok (s.map .text, r) := by
  rw [readValue]
  exact bind_eq_ok_iff.2 ⟨(s, r), h, rfl⟩

/-- Only a constant or a number starts with one of its characters. -/
theorem readValue_scalar (h : ∃ c cs', cs = c :: cs' ∧ opensScalar c = true) :
    readValue digits size (fuel + 1) levels cs = readScalar digits cs := by
  obtain ⟨c, cs, rfl, hc⟩ := h
  have hne : ∀ {d : Char}, opensScalar d = false → ∀ r, c :: cs = d :: r → False := by
    intro d hd r heq
    rw [(List.cons.inj heq).1, hd] at hc
    cases hc
  rw [readValue]
  · exact hne rfl
  · exact hne rfl
  · exact hne rfl

theorem readValue_list {vs : Option (List Value)} (hopen : ∀ r', skipBlanks cs ≠ ']' :: r')
    (h : readItems digits size fuel levels (skipBlanks cs) = .ok (vs, r)) :
    readValue digits size (fuel + 1) (levels + 1) ('[' :: cs) = .ok (vs.map .list, r) := by
  rw [readValue]
  refine bind_eq_ok_iff.2 ⟨levels, rfl, ?_⟩
  split
  · rename_i hclose
    exact absurd hclose (hopen _)
  · exact bind_eq_ok_iff.2 ⟨(vs, r), h, rfl⟩

theorem readValue_object {es : Option (List (Scalar × Value))} (hopen : ∀ r', skipBlanks cs ≠ '\x7d' :: r')
    (h : readEntries digits size fuel levels (skipBlanks cs) = .ok (es, r)) :
    readValue digits size (fuel + 1) (levels + 1) ('\x7b' :: cs) =
      .ok (es.map fun es => .object (Entries.ofPairs es), r) := by
  rw [readValue]
  refine bind_eq_ok_iff.2 ⟨levels, rfl, ?_⟩
  split
  · rename_i hclose
    exact absurd hclose (hopen _)
  · exact bind_eq_ok_iff.2 ⟨(es, r), h, rfl⟩

theorem readItems_last (h : readValue digits size fuel levels cs = .ok (v, r₁)) (hclose : skipBlanks r₁ = ']' :: r) :
    readItems digits size (fuel + 1) levels cs = .ok (v.map ([·]), r) := by
  rw [readItems]
  refine bind_eq_ok_iff.2 ⟨(v, r₁), h, ?_⟩
  simp only [hclose]

theorem readItems_more {vs : Option (List Value)} (h : readValue digits size fuel levels cs = .ok (v, r₁))
    (hcomma : skipBlanks r₁ = ',' :: r₂) (hs : readItems digits size fuel levels (skipBlanks r₂) = .ok (vs, r)) :
    readItems digits size (fuel + 1) levels cs = .ok (v.bind fun v => vs.map (v :: ·), r) := by
  rw [readItems]
  refine bind_eq_ok_iff.2 ⟨(v, r₁), h, ?_⟩
  simp only [hcomma]
  exact bind_eq_ok_iff.2 ⟨(vs, r), hs, rfl⟩

theorem readEntries_last {k : List (Option Char)} (hkey : readString cs size [] cs = .ok (textOf? k, r₁))
    (hcolon : skipBlanks r₁ = ':' :: r₂) (h : readValue digits size fuel levels (skipBlanks r₂) = .ok (v, r₃))
    (hclose : skipBlanks r₃ = '\x7d' :: r) :
    readEntries digits size (fuel + 1) levels ('"' :: cs) = .ok ((entryOf? k v).map ([·]), r) := by
  rw [readEntries]
  refine bind_eq_ok_iff.2 ⟨(textOf? k, r₁), hkey, ?_⟩
  simp only [hcolon]
  refine bind_eq_ok_iff.2 ⟨(v, r₃), h, ?_⟩
  simp only [hclose]
  rfl

theorem readEntries_more {k : List (Option Char)} {es : Option (List (Scalar × Value))}
    (hkey : readString cs size [] cs = .ok (textOf? k, r₁)) (hcolon : skipBlanks r₁ = ':' :: r₂)
    (h : readValue digits size fuel levels (skipBlanks r₂) = .ok (v, r₃)) (hcomma : skipBlanks r₃ = ',' :: r₄)
    (hs : readEntries digits size fuel levels (skipBlanks r₄) = .ok (es, r)) :
    readEntries digits size (fuel + 1) levels ('"' :: cs) =
      .ok ((entryOf? k v).bind fun e => es.map (e :: ·), r) := by
  rw [readEntries]
  refine bind_eq_ok_iff.2 ⟨(textOf? k, r₁), hkey, ?_⟩
  simp only [hcolon]
  refine bind_eq_ok_iff.2 ⟨(v, r₃), h, ?_⟩
  simp only [hcomma]
  exact bind_eq_ok_iff.2 ⟨(es, r), hs, rfl⟩

end Steps

/-- What reading a phrase comes to. -/
def Phrase.IsReadBy (digits size fuel levels : Nat) : Phrase → List Char → List Char → Prop
  | .value v, cs, r => readValue digits size fuel levels cs = .ok (v, r)
  | .items vs, cs, r => readItems digits size fuel levels cs = .ok (vs, r)
  | .entries es, cs, r => readEntries digits size fuel levels cs = .ok (es, r)

/-- The parts of a phrase that start where its first value starts. -/
def Phrase.depth : Phrase → Nat
  | .value _ => 0
  | .items _ | .entries _ => 1

/-- Two parts for each character are fuel enough: a bracket has one for itself and one for what starts behind it. -/
theorem Reads.isReadBy {digits levels : Nat} {p : Phrase} {cs r : List Char} (h : Reads digits levels p cs r)
    {size : Nat} :
    ∀ {fuel : Nat}, cs.length < size → 2 * cs.length + p.depth ≤ fuel → p.IsReadBy digits size fuel levels cs r := by
  have hpos := h.length_lt
  induction h with
  | text h =>
    rintro (_ | fuel) hsize hfuel
    · omega
    rw [List.length_cons] at hsize
    exact readValue_text (readString_complete h (by omega))
  | constant h =>
    rintro (_ | fuel) hsize hfuel
    · omega
    simp only [Phrase.IsReadBy, readValue_scalar (readConstant?_opens h).2, readScalar, h]
  | number hconstant h =>
    rintro (_ | fuel) hsize hfuel
    · omega
    simp only [Phrase.IsReadBy, readValue_scalar (readNumber?_opens h).2, readScalar, hconstant, h]
  | emptyList hclose | emptyObject hclose =>
    rintro (_ | fuel) hsize hfuel
    · omega
    rw [Phrase.IsReadBy, readValue]
    refine bind_eq_ok_iff.2 ⟨_, rfl, ?_⟩
    simp only [hclose]
  | @list _ _ cs _ h ih =>
    rintro (_ | fuel) hsize hfuel
    · omega
    have := skipBlanks_length_le cs
    simp only [Phrase.depth, List.length_cons] at hsize hfuel ih
    exact readValue_list (h.ne_cons rfl) (ih h.length_lt (by omega) (by omega))
  | @object _ _ cs _ h ih =>
    rintro (_ | fuel) hsize hfuel
    · omega
    have := skipBlanks_length_le cs
    simp only [Phrase.depth, List.length_cons] at hsize hfuel ih
    exact readValue_object (h.ne_cons rfl) (ih h.length_lt (by omega) (by omega))
  | lastItem h hclose ih =>
    rintro (_ | fuel) hsize hfuel
    · omega
    simp only [Phrase.depth] at hfuel ih
    exact readItems_last (ih h.length_lt hsize (by omega)) hclose
  | @item _ _ _ _ _ r₂ _ h hcomma hs ih ihs =>
    rintro (_ | fuel) hsize hfuel
    · omega
    have := h.length_lt
    have := length_lt_of_skipBlanks hcomma
    have := skipBlanks_length_le r₂
    simp only [Phrase.depth] at hfuel ih ihs
    exact readItems_more (ih h.length_lt hsize (by omega)) hcomma (ihs hs.length_lt (by omega) (by omega))
  | @lastEntry _ _ _ _ _ r₂ _ _ hkey hcolon h hclose ih =>
    rintro (_ | fuel) hsize hfuel
    · omega
    have := hkey.length_lt
    have := length_lt_of_skipBlanks hcolon
    have := skipBlanks_length_le r₂
    simp only [Phrase.depth, List.length_cons] at hsize hfuel ih
    exact readEntries_last (readString_complete hkey (by omega)) hcolon (ih h.length_lt (by omega) (by omega)) hclose
  | @entry _ _ _ _ _ _ r₂ _ r₄ _ hkey hcolon h hcomma hs ih ihs =>
    rintro (_ | fuel) hsize hfuel
    · omega
    have := hkey.length_lt
    have := length_lt_of_skipBlanks hcolon
    have := skipBlanks_length_le r₂
    have := h.length_lt
    have := length_lt_of_skipBlanks hcomma
    have := skipBlanks_length_le r₄
    simp only [Phrase.depth, List.length_cons] at hsize hfuel ih ihs
    exact readEntries_more (readString_complete hkey (by omega)) hcolon (ih h.length_lt (by omega) (by omega)) hcomma
      (ihs hs.length_lt (by omega) (by omega))

/-- A text is read as the value that stands in it with nothing but blanks around it. -/
theorem readText_eq_ok_iff {bounds : Bounds} {cs : List Char} {v : Option Value} :
    readText bounds cs = .ok v ↔ (∀ cs', cs ≠ '\uFEFF' :: cs') ∧
      ∃ r, Reads bounds.digits bounds.readLevels (.value v) (skipBlanks cs) r ∧ skipBlanks r = [] := by
  unfold readText
  split
  · simp
  · rename_i hmark
    constructor
    · intro h
      obtain ⟨⟨w, r⟩, hw, h⟩ := bind_eq_ok_iff.1 h
      dsimp only at h
      split at h
      · rename_i hend
        cases h
        exact ⟨hmark, r, (reader_sound _ _ _).value hw, hend⟩
      · cases h
    · rintro ⟨-, r, h, hend⟩
      have hlength := skipBlanks_length_le cs
      have hvalue : readValue bounds.digits (cs.length + 1) (2 * cs.length + 2) bounds.readLevels (skipBlanks cs) =
          .ok (v, r) :=
        h.isReadBy (by omega) (by simp only [Phrase.depth]; omega)
      refine bind_eq_ok_iff.2 ⟨(v, r), hvalue, ?_⟩
      simp only [hend]

/-! ## What comes of a text -/

section

variable {bounds : Bounds} {text : String}

theorem read_eq_ok_iff {v : Value} : read bounds text = .ok v ↔ readText bounds text.toList = .ok (some v) := by
  unfold read
  dsimp only
  split <;> simp_all

theorem read_eq_halfPair_iff : read bounds text = .error .halfPair ↔ readText bounds text.toList = .ok none := by
  unfold read
  dsimp only
  split <;> simp_all

theorem read_eq_exceeded_iff {e : Excess} :
    read bounds text = .error (.exceeded e) ↔ readText bounds text.toList = .error (.exceeded e) := by
  unfold read
  dsimp only
  split <;> simp_all

/-- What is neither read nor refused for another reason is not JSON. -/
theorem read_eq_malformed_iff : (∃ f, read bounds text = .error (.malformed f)) ↔
    ∃ cause left, readText bounds text.toList = .error (.malformed cause left) := by
  unfold read
  dsimp only
  split <;> simp_all

end

end WebForm.Json
