/-
Numbers as text. The text of a number is a decimal numeral, and the numeral denotes exactly the decimal
that was written: an integer itself, a double its shortest decimal. So different numbers have
different texts, and no text of a number holds a comma.
-/
import Mathlib.Data.List.TakeWhile
import WebForm.Number.Numeral
import WebForm.Proofs.Number.Shortest

namespace WebForm

/-! ## Digits -/

/-- Characters that are all decimal digits. -/
def IsDigits (ds : List Char) : Prop := ∀ c ∈ ds, isDecimalDigit c = true

theorem IsDigits.append {xs ys : List Char} (hx : IsDigits xs) (hy : IsDigits ys) : IsDigits (xs ++ ys) := by
  intro c hc
  rcases List.mem_append.1 hc with h | h
  · exact hx c h
  · exact hy c h

theorem isDigits_zeros (n : Nat) : IsDigits (List.replicate n '0') := by
  intro c hc
  rw [List.eq_of_mem_replicate hc]
  decide

theorem isDigits_toDigits (n : Nat) : IsDigits (Nat.toDigits 10 n) := by
  intro c hc
  have := Nat.isDigit_of_mem_toDigits (by norm_num) (by norm_num) hc
  simpa [isDecimalDigit, Char.isDigit, Char.le_def] using this

theorem ofDigits_append (b : Nat) (xs ys : List Char) :
    ofDigits b (xs ++ ys) = ofDigits b xs * b ^ ys.length + ofDigits b ys := by
  have hfold : ∀ (ys : List Char) (n : Nat), ys.foldl (fun n c => n * b + (digit? b c).getD 0) n =
      n * b ^ ys.length + ofDigits b ys := by
    intro ys
    induction ys with
    | nil => intro n; simp [ofDigits]
    | cons y ys ih =>
      intro n
      have hcons : ofDigits b (y :: ys) = (digit? b y).getD 0 * b ^ ys.length + ofDigits b ys := by
        rw [ofDigits, List.foldl_cons, ih, zero_mul, zero_add]
      rw [List.foldl_cons, ih, hcons, List.length_cons, pow_succ]
      ring
  unfold ofDigits
  rw [List.foldl_append, hfold]
  rfl

theorem ofDigits_zeros (b n : Nat) (ds : List Char) : ofDigits b (List.replicate n '0' ++ ds) = ofDigits b ds := by
  induction n with
  | zero => rfl
  | succ n ih =>
    have hzero : (digit? b '0').getD 0 = 0 := by
      unfold digit?
      rw [show hexDigit? '0' = some 0 by decide]
      cases b <;> rfl
    rw [List.replicate_succ, List.cons_append]
    unfold ofDigits at ih ⊢
    rw [List.foldl_cons, hzero, zero_mul, add_zero]
    exact ih

theorem ofDigits_toDigits (n : Nat) : ofDigits 10 (Nat.toDigits 10 n) = n := by
  have hdigit : ∀ d < 10, (digit? 10 (Nat.digitChar d)).getD 0 = d := by decide
  induction n using Nat.strongRecOn with
  | _ n ih =>
    rw [Nat.toDigits_eq_if (by norm_num)]
    split
    · rename_i h
      simp [ofDigits, hdigit n h]
    · rename_i h
      have hlast : ofDigits 10 [Nat.digitChar (n % 10)] = n % 10 := by
        simp [ofDigits, hdigit (n % 10) (Nat.mod_lt _ (by norm_num))]
      rw [ofDigits_append, ih (n / 10) (by omega), hlast, List.length_singleton, pow_one]
      omega

/-! ## Reading numerals -/

namespace DecimalNumeral

/-- The exact magnitude that a numeral denotes. -/
def magnitude (d : DecimalNumeral) : ℚ :=
  ofDigits 10 (d.whole ++ d.fractional) * (10 : ℚ) ^ (d.exponent - d.fractional.length)

/-- The sign of a negative number. -/
def minus (negative : Bool) : List Char := if negative then ['-'] else []

theorem sign_minus (negative : Bool) {ds : List Char} (hd : IsDigits ds) (hne : ds ≠ []) (r : List Char) :
    sign (minus negative ++ (ds ++ r)) = (negative, ds ++ r) := by
  obtain ⟨c, ds, rfl⟩ := List.exists_cons_of_ne_nil hne
  have hc : isDecimalDigit c = true := hd c List.mem_cons_self
  cases negative with
  | true => rfl
  | false =>
    show sign (c :: (ds ++ r)) = _
    unfold sign
    split
    · rename_i heq
      obtain ⟨rfl, -⟩ := List.cons.inj heq
      exact absurd hc (by decide)
    · rename_i heq
      obtain ⟨rfl, -⟩ := List.cons.inj heq
      exact absurd hc (by decide)
    · rfl

/-- What does not start with a digit is left as it is when digits are dropped. -/
theorem dropWhile_of_takeWhile {tail : List Char} (h : tail.takeWhile isDecimalDigit = []) :
    tail.dropWhile isDecimalDigit = tail :=
  List.dropWhile_eq_self_iff.2 (List.takeWhile_eq_nil_iff.1 h)

/-- Digits with a point among them, and what follows. -/
theorem ofText?_point (negative : Bool) {whole fractional tail : List Char} {e : Int} (hw : IsDigits whole)
    (hne : whole ≠ []) (hf : IsDigits fractional) (htail : tail.takeWhile isDecimalDigit = [])
    (he : exponent? tail = some e) :
    ofText? (minus negative ++ (whole ++ '.' :: (fractional ++ tail))) = some ⟨negative, whole, fractional, e⟩ := by
  have hpoint : isDecimalDigit '.' = false := by decide
  unfold ofText?
  rw [sign_minus negative hw hne]
  simp only [List.takeWhile_append_of_pos hw, List.dropWhile_append_of_pos hw]
  simp only [List.takeWhile_cons, List.dropWhile_cons, hpoint, Bool.false_eq_true, if_false, List.append_nil,
    List.takeWhile_append_of_pos hf, List.dropWhile_append_of_pos hf, htail, dropWhile_of_takeWhile htail, hne, false_and,
    he, Option.map_some]

/-- Digits without a point, and what follows. -/
theorem ofText?_whole (negative : Bool) {whole tail : List Char} {e : Int} (hw : IsDigits whole) (hne : whole ≠ [])
    (htail : tail.takeWhile isDecimalDigit = []) (hpoint : ∀ r, tail ≠ '.' :: r) (he : exponent? tail = some e) :
    ofText? (minus negative ++ (whole ++ tail)) = some ⟨negative, whole, [], e⟩ := by
  unfold ofText?
  rw [sign_minus negative hw hne]
  simp only [List.takeWhile_append_of_pos hw, List.dropWhile_append_of_pos hw, htail, dropWhile_of_takeWhile htail,
    List.append_nil]
  rw [if_neg (by simp [hne]), he]
  rfl

theorem exponent?_nil : exponent? [] = some 0 := rfl

theorem exponent?_minus {ds : List Char} (hd : IsDigits ds) (hne : ds ≠ []) :
    exponent? ('e' :: '-' :: ds) = some (-(ofDigits 10 ds : Int)) := by
  have hall : ds.all isDecimalDigit = true := List.all_eq_true.2 hd
  simp [exponent?, sign, hne, hall]

theorem exponent?_plus {ds : List Char} (hd : IsDigits ds) (hne : ds ≠ []) :
    exponent? ('e' :: '+' :: ds) = some (ofDigits 10 ds : Int) := by
  have hall : ds.all isDecimalDigit = true := List.all_eq_true.2 hd
  simp [exponent?, sign, hne, hall]

end DecimalNumeral

/-! ## The text of a double -/

namespace FiniteDouble

open DecimalNumeral

/-- A numeral that is not that of an integer: it has a fraction or an exponent. -/
structure Denotes (s : List Char) (negative : Bool) (magnitude : ℚ) (N : DecimalNumeral) : Prop where
  read : ofText? s = some N
  negative : N.negative = negative
  magnitude : N.magnitude = magnitude
  inexact : N.fractional ≠ [] ∨ N.exponent ≠ 0

/-- Positional notation with the point in front of the digits. -/
theorem denotes_small (negative : Bool) {ds : List Char} (hd : IsDigits ds) (hne : ds ≠ []) (k : Nat) :
    ∃ N, Denotes (minus negative ++ '0' :: '.' :: (List.replicate k '0' ++ ds)) negative
      (ofDigits 10 ds * (10 : ℚ) ^ (-(k : Int) - ds.length)) N := by
  have hread := ofText?_point negative (isDigits_zeros 1) (by simp) ((isDigits_zeros k).append hd) rfl exponent?_nil
  rw [List.append_nil] at hread
  refine ⟨_, hread, rfl, ?_, .inl (by simp [hne])⟩
  have hdigits : ofDigits 10 (List.replicate 1 '0' ++ (List.replicate k '0' ++ ds)) = ofDigits 10 ds := by
    rw [ofDigits_zeros, ofDigits_zeros]
  rw [DecimalNumeral.magnitude, hdigits, List.length_append, List.length_replicate]
  congr 2
  push_cast
  ring

/-- Positional notation with zeros between the digits and the point. -/
theorem denotes_whole (negative : Bool) {ds : List Char} (hd : IsDigits ds) (hne : ds ≠ []) (k : Nat) :
    ∃ N, Denotes (minus negative ++ (ds ++ List.replicate k '0' ++ ['.', '0'])) negative
      (ofDigits 10 ds * (10 : ℚ) ^ (k : Int)) N := by
  have hread := ofText?_point negative (hd.append (isDigits_zeros k)) (by simp [hne]) (isDigits_zeros 1) rfl exponent?_nil
  rw [List.append_nil] at hread
  refine ⟨_, hread, rfl, ?_, .inl (by simp)⟩
  have hzeros : ofDigits 10 (List.replicate k '0' ++ List.replicate 1 '0') = 0 := by
    rw [ofDigits_zeros]
    rfl
  have hdigits : ofDigits 10 (ds ++ List.replicate k '0' ++ List.replicate 1 '0') = ofDigits 10 ds * 10 ^ (k + 1) := by
    rw [List.append_assoc, ofDigits_append, hzeros, List.length_append, List.length_replicate, List.length_replicate]
    rfl
  rw [DecimalNumeral.magnitude, hdigits, List.length_replicate, Nat.cast_mul, Nat.cast_pow, mul_assoc, Nat.cast_ofNat,
    ← zpow_natCast, ← zpow_add₀ (by norm_num)]
  congr 2
  push_cast
  ring

/-- Positional notation with the point among the digits. -/
theorem denotes_split (negative : Bool) {ds : List Char} (hd : IsDigits ds) {k : Nat} (hk : 0 < k)
    (hlt : k < ds.length) :
    ∃ N, Denotes (minus negative ++ (ds.take k ++ '.' :: ds.drop k)) negative
      (ofDigits 10 ds * (10 : ℚ) ^ ((k : Int) - ds.length)) N := by
  have hne : ds ≠ [] := List.ne_nil_of_length_pos (by omega)
  have htake : IsDigits (ds.take k) := fun c hc => hd c (List.mem_of_mem_take hc)
  have hdrop : IsDigits (ds.drop k) := fun c hc => hd c (List.mem_of_mem_drop hc)
  have hread := ofText?_point negative htake (by simp [hne]; omega) hdrop rfl exponent?_nil
  rw [List.append_nil] at hread
  refine ⟨_, hread, rfl, ?_, .inl (by simp; omega)⟩
  rw [DecimalNumeral.magnitude, List.take_append_drop, List.length_drop, Nat.cast_sub hlt.le]
  congr 2
  ring

/-- Notation with an exponent. -/
theorem denotes_exponent (negative : Bool) {c : Char} {ds tail : List Char} (hd : IsDigits (c :: ds)) {e : Int}
    (he : exponent? tail = some e) (hne : e ≠ 0) (htail : tail.takeWhile isDecimalDigit = [])
    (hpoint : ∀ r, tail ≠ '.' :: r) :
    ∃ N, Denotes (minus negative ++ (c :: ((if ds = [] then [] else '.' :: ds) ++ tail))) negative
      (ofDigits 10 (c :: ds) * (10 : ℚ) ^ (e - ds.length)) N := by
  have hc : IsDigits [c] := fun a ha => hd a (List.mem_singleton.1 ha ▸ List.mem_cons_self)
  split
  · rename_i hds
    subst hds
    have hread := ofText?_whole negative hc (by simp) htail hpoint he
    exact ⟨_, hread, rfl, rfl, .inr hne⟩
  · have hread := ofText?_point negative hc (by simp) (fun a ha => hd a (List.mem_cons_of_mem _ ha)) htail he
    exact ⟨_, hread, rfl, rfl, .inr hne⟩

/-- The digits of an exponent, of which there are at least two. -/
theorem exponent_digits (e : Nat) : ∃ ds : List Char, IsDigits ds ∧ ds ≠ [] ∧ ofDigits 10 ds = e ∧
    (if (toString e).length < 2 then "0" ++ toString e else toString e).toList = ds := by
  have hdigits : (toString e).toList = Nat.toDigits 10 e := Nat.toList_repr
  split
  · refine ⟨List.replicate 1 '0' ++ Nat.toDigits 10 e, (isDigits_zeros 1).append (isDigits_toDigits e), by simp, ?_, ?_⟩
    · rw [ofDigits_zeros, ofDigits_toDigits]
    · rw [String.toList_append, hdigits]
      rfl
  · exact ⟨_, isDigits_toDigits e, Nat.toDigits_ne_nil, ofDigits_toDigits e, hdigits⟩

/-- The sign of an exponent, with the letter in front of it. -/
theorem exponent_mark {es : List Char} (hes : IsDigits es) (hne : es ≠ []) {e : Int} (hval : ofDigits 10 es = e.natAbs) :
    ∃ mark : List Char, (if e < 0 then "e-" else "e+").toList = mark ∧ (mark ++ es).takeWhile isDecimalDigit = [] ∧
      (∀ r, mark ++ es ≠ '.' :: r) ∧ exponent? (mark ++ es) = some e := by
  by_cases he : e < 0
  · have habs : -(e.natAbs : Int) = e := by omega
    have hread := exponent?_minus hes hne
    rw [hval, habs] at hread
    exact ⟨['e', '-'], by rw [if_pos he]; rfl, rfl, fun r h => by simp at h, hread⟩
  · have habs : (e.natAbs : Int) = e := by omega
    have hread := exponent?_plus hes hne
    rw [hval, habs] at hread
    exact ⟨['e', '+'], by rw [if_neg he]; rfl, rfl, fun r h => by simp at h, hread⟩

/-- A decimal that is laid out is read with its digits and its point. -/
theorem denotes_layout (negative : Bool) {digits : String} (hd : IsDigits digits.toList) (hne : digits.toList ≠ [])
    (point : Int) : ∃ N, Denotes (minus negative ++ (layout digits point).toList) negative
      (ofDigits 10 digits.toList * (10 : ℚ) ^ (point - digits.length)) N := by
  have hlen : digits.length = digits.toList.length := String.length_toList.symm
  unfold layout
  dsimp only
  rw [hlen]
  split
  · split
    · rename_i hsmall
      obtain ⟨k, hk⟩ : ∃ k : Nat, point = -(k : Int) := ⟨(-point).toNat, by omega⟩
      rw [hk, neg_neg, Int.toNat_natCast]
      simpa using denotes_small negative hd hne k
    · split
      · rename_i hlarge
        obtain ⟨k, hk⟩ : ∃ k : Nat, point = digits.toList.length + k := ⟨(point - digits.toList.length).toNat, by omega⟩
        rw [hk, add_sub_cancel_left, Int.toNat_natCast]
        simpa using denotes_whole negative hd hne k
      · rename_i hpos hlt
        obtain ⟨k, hk⟩ : ∃ k : Nat, point = k := ⟨point.toNat, by omega⟩
        rw [hk, Int.toNat_natCast]
        simpa using denotes_split negative hd (k := k) (by omega) (by omega)
  · -- far from the point there is one digit in front of it, and an exponent that is not zero
    rename_i hfar
    obtain ⟨c, ds, hcons⟩ := List.exists_cons_of_ne_nil hne
    obtain ⟨es, hes, hesne, hval, htext⟩ := exponent_digits (point - 1).natAbs
    obtain ⟨mark, hmark, hdrop, hpoint, he⟩ := exponent_mark hes hesne hval
    rw [hcons] at hd ⊢
    obtain ⟨N, hN⟩ := denotes_exponent negative hd he (by omega) hdrop hpoint
    refine ⟨N, ?_⟩
    have hmid : (if ((c :: ds).length : Int) ≤ 1 then "" else "." ++ String.ofList ((c :: ds).drop 1)).toList =
        if ds = [] then [] else '.' :: ds := by
      cases ds with
      | nil => rfl
      | cons a ds =>
        have hlong : ¬((c :: a :: ds).length : Int) ≤ 1 := by simp
        rw [if_neg hlong, if_neg (by simp), String.toList_append, String.toList_ofList, String.toList_ofList]
        rfl
    have hplace : point - (c :: ds).length = point - 1 - ds.length := by
      rw [List.length_cons]
      push_cast
      ring
    rw [hplace, String.toList_append, htext, String.toList_append, hmark, String.toList_append, hmid, String.toList_ofList]
    simpa using hN

/-- The text of a double is a numeral of its sign and its shortest decimal. -/
theorem denotes_text (x : FiniteDouble) : ∃ N, Denotes x.text.toList x.negative x.shortest.value N := by
  have hminus : (if x.negative = true then "-" else "").toList = minus x.negative := by
    cases x.negative <;> rfl
  unfold text
  dsimp only
  split
  · rename_i hm
    obtain ⟨N, hN⟩ := denotes_small x.negative (isDigits_zeros 1) (by simp) 0
    refine ⟨N, ?_⟩
    rw [String.toList_append, hminus, shortest_of_zero hm]
    have hzero : ofDigits 10 (List.replicate 1 '0') = 0 := by decide
    rw [hzero, Nat.cast_zero, zero_mul] at hN
    exact hN
  · have hdigits : (toString x.shortest.digits).toList = Nat.toDigits 10 x.shortest.digits := Nat.toList_repr
    have hlen : (toString x.shortest.digits).length = decimalLength x.shortest.digits := by
      rw [← String.length_toList, hdigits]
      rfl
    obtain ⟨N, hN⟩ := denotes_layout x.negative (hdigits ▸ isDigits_toDigits _) (hdigits ▸ Nat.toDigits_ne_nil)
      (x.shortest.exponent + decimalLength x.shortest.digits)
    rw [hdigits, ofDigits_toDigits, hlen, add_sub_cancel_right] at hN
    refine ⟨N, ?_⟩
    rw [String.toList_append, hminus]
    exact hN

/-- Different doubles have different texts. -/
theorem text_inj {x y : FiniteDouble} (h : x.text = y.text) : x = y := by
  obtain ⟨N, hx⟩ := denotes_text x
  obtain ⟨M, hy⟩ := denotes_text y
  have hread := hx.read
  rw [h, hy.read] at hread
  obtain rfl := Option.some.inj hread
  exact eq_of_shortest (hx.negative.symm.trans hy.negative) (hx.magnitude.symm.trans hy.magnitude)

end FiniteDouble

/-! ## The characters of a numeral -/

namespace DecimalNumeral

/-- The characters that numerals are written with. -/
def IsNumeralChar (c : Char) : Prop := isDecimalDigit c = true ∨ c ∈ ['+', '-', '.', 'e', 'E']

theorem mem_sign {s : List Char} {c : Char} (hc : c ∈ s) : IsNumeralChar c ∨ c ∈ (sign s).2 := by
  unfold sign
  split
  · rcases List.mem_cons.1 hc with rfl | h
    · exact .inl (.inr (by simp))
    · exact .inr h
  · rcases List.mem_cons.1 hc with rfl | h
    · exact .inl (.inr (by simp))
    · exact .inr h
  · exact .inr hc

theorem isNumeralChar_of_exponent? {s : List Char} {e : Int} (h : exponent? s = some e) {c : Char} (hc : c ∈ s) :
    IsNumeralChar c := by
  unfold exponent? at h
  split at h
  · simp at hc
  · rename_i a r
    dsimp only at h
    split at h
    · rename_i hexp
      rcases List.mem_cons.1 hc with rfl | hr
      · rcases hexp.1 with rfl | rfl
        · exact .inr (by simp)
        · exact .inr (by simp)
      · rcases mem_sign hr with hsign | hds
        · exact hsign
        · exact .inl (List.all_eq_true.1 hexp.2.2 c hds)
    · cases h

theorem isNumeralChar_of_ofText? {s : List Char} {N : DecimalNumeral} (h : ofText? s = some N) {c : Char} (hc : c ∈ s) :
    IsNumeralChar c := by
  have hdigits : ∀ r : List Char, c ∈ r → IsNumeralChar c ∨ c ∈ r.dropWhile isDecimalDigit := by
    intro r hr
    rw [← List.takeWhile_append_dropWhile (p := isDecimalDigit) (l := r)] at hr
    rcases List.mem_append.1 hr with hr | hr
    · exact .inl (.inl (List.mem_takeWhile_imp hr))
    · exact .inr hr
  -- a character stands in the sign, the digits, the point, the digits after it or the exponent
  unfold ofText? at h
  rcases mem_sign hc with hsign | hc
  · exact hsign
  rcases hdigits _ hc with hwhole | hc
  · exact hwhole
  have hexponent : ∀ {r : List Char} {make : Int → DecimalNumeral} {p : Prop} [Decidable p],
      (if p then none else (exponent? r).map make) = some N → c ∈ r → IsNumeralChar c := by
    intro r make p _ hr hmem
    split at hr
    · cases hr
    · obtain ⟨e, he, -⟩ := Option.map_eq_some_iff.1 hr
      exact isNumeralChar_of_exponent? he hmem
  dsimp only at h
  split at h
  · rename_i rest heq
    rw [heq] at hc
    rcases List.mem_cons.1 hc with rfl | hrest
    · exact .inr (by simp)
    · rcases hdigits rest hrest with hfractional | hrest
      · exact hfractional
      · exact hexponent h hrest
  · exact hexponent h hc

end DecimalNumeral

/-! ## The text of a number -/

namespace Quantity

open DecimalNumeral

theorem toList_toString (n : Int) : (toString n).toList = minus (decide (n < 0)) ++ Nat.toDigits 10 n.natAbs := by
  rw [Int.toString_eq_repr, Int.repr_eq_if]
  by_cases hn : 0 ≤ n
  · have habs : n.toNat = n.natAbs := by omega
    simp [minus, hn, habs, not_lt.2 hn]
  · have habs : (-n).toNat = n.natAbs := by omega
    simp [minus, hn, habs, not_le.1 hn]

theorem ofText?_toString (n : Int) :
    DecimalNumeral.ofText? (toString n).toList = some ⟨decide (n < 0), Nat.toDigits 10 n.natAbs, [], 0⟩ := by
  have hread := ofText?_whole (decide (n < 0)) (isDigits_toDigits n.natAbs) Nat.toDigits_ne_nil rfl
    (fun r h => by simp at h) exponent?_nil
  rwa [List.append_nil, ← toList_toString] at hread

/-- The text of a number is a numeral. -/
theorem exists_ofText?_text (q : Quantity) : ∃ N, DecimalNumeral.ofText? q.text.toList = some N := by
  cases q with
  | whole n => exact ⟨_, ofText?_toString n⟩
  | binary x =>
    obtain ⟨N, hN⟩ := x.denotes_text
    exact ⟨N, hN.read⟩

theorem isNumeralChar_of_mem_text {q : Quantity} {c : Char} (hc : c ∈ q.text.toList) : IsNumeralChar c := by
  obtain ⟨N, hN⟩ := exists_ofText?_text q
  exact isNumeralChar_of_ofText? hN hc

theorem comma_not_mem_text (q : Quantity) : ',' ∉ q.text.toList := by
  intro hmem
  rcases isNumeralChar_of_mem_text hmem with h | h
  · exact absurd h (by decide)
  · exact absurd h (by decide)

/-- No integer has the text of a double. -/
theorem toString_ne_text (n : Int) (x : FiniteDouble) : toString n ≠ x.text := by
  intro h
  obtain ⟨N, hN⟩ := x.denotes_text
  have hread := hN.read
  rw [← h, ofText?_toString] at hread
  cases hread
  -- the numeral of an integer has neither a fraction nor an exponent
  rcases hN.inexact with h | h
  · exact h rfl
  · exact h rfl

theorem toString_inj {m n : Int} (h : toString m = toString n) : m = n := by
  have hread := ofText?_toString m
  rw [h, ofText?_toString] at hread
  simp only [Option.some.injEq, DecimalNumeral.mk.injEq, decide_eq_decide, and_true] at hread
  obtain ⟨hsign, hdigits⟩ := hread
  have habs : n.natAbs = m.natAbs := by
    rw [← ofDigits_toDigits n.natAbs, hdigits, ofDigits_toDigits]
  omega

/-- Different numbers have different texts; an integer and a double are different. -/
theorem text_inj {p q : Quantity} (h : p.text = q.text) : p = q := by
  cases p with
  | whole m =>
    cases q with
    | whole n => rw [toString_inj h]
    | binary y => exact absurd h (toString_ne_text m y)
  | binary x =>
    cases q with
    | whole n => exact absurd h.symm (toString_ne_text n x)
    | binary y => rw [FiniteDouble.text_inj h]

end Quantity

end WebForm
