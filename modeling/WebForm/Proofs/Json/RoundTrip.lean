/-
Written values are read back. A value of null, truth values, integers, texts, lists and objects whose
keys are different texts is written so that reading ends exactly where the value ends, whatever
closes it, and gives the value again: with the same kinds of scalars and in the same order. The bounds
of the interpreter say how deep a value may be for that: a deeper one is not written, or not read.
-/
import WebForm.Input
import WebForm.Json.Writer
import WebForm.Proofs.Json.Literal
import WebForm.Proofs.Json.Refusals
import WebForm.Proofs.Number.Numeral

namespace WebForm

namespace Value

/-- Null, truth values, integers of at most so many digits and texts, and lists of such values and objects
of them whose keys are different texts. -/
inductive IsPlain (digits : Nat) : Value → Prop where
  | null : IsPlain digits .null
  | bool (b : Bool) : IsPlain digits (.bool b)
  | int {n : Int} (hn : (Nat.toDigits 10 n.natAbs).length ≤ digits) : IsPlain digits (.int n)
  | text (s : String) : IsPlain digits (.text s)
  | list {items : List Value} (h : ∀ v ∈ items, IsPlain digits v) : IsPlain digits (.list items)
  | record {entries : List (String × Value)} (hkeys : (entries.map Prod.fst).Nodup)
      (h : ∀ e ∈ entries, IsPlain digits e.2) : IsPlain digits (.record entries)

mutual

/-- How many lists and objects stand inside one another in a value. -/
def levels : Value → Nat
  | .scalar _ => 0
  | .list items => itemsLevels items + 1
  | .object entries => entriesLevels entries + 1

def itemsLevels : List Value → Nat
  | [] => 0
  | v :: rest => max v.levels (itemsLevels rest)

def entriesLevels : List (Scalar × Value) → Nat
  | [] => 0
  | (_, v) :: rest => max v.levels (entriesLevels rest)

end

end Value

namespace Json

open Quoted DecimalNumeral

/-! ## Scalars -/

/-- What follows a value inside another one, or at the end of a text. -/
def Closes (rest : List Char) : Prop := ∀ c ∈ rest.head?, c = ',' ∨ c = ']' ∨ c = '\x7d'

theorem closes_nil : Closes [] := by simp [Closes]

theorem closes_comma (r : List Char) : Closes (',' :: r) := by simp [Closes]

theorem closes_bracket (r : List Char) : Closes (']' :: r) := by simp [Closes]

theorem closes_brace (r : List Char) : Closes ('\x7d' :: r) := by simp [Closes]

theorem Closes.cons_ne {rest : List Char} (h : Closes rest) {c : Char} (hc : c ≠ ',' ∧ c ≠ ']' ∧ c ≠ '\x7d')
    (r : List Char) : rest ≠ c :: r := by
  rintro rfl
  rcases h c rfl with rfl | rfl | rfl
  · exact hc.1 rfl
  · exact hc.2.1 rfl
  · exact hc.2.2 rfl

theorem Closes.takeWhile_digits {rest : List Char} (h : Closes rest) : rest.takeWhile isDecimalDigit = [] := by
  cases rest with
  | nil => rfl
  | cons c r => rcases h c rfl with rfl | rfl | rfl <;> rfl

theorem Closes.readFraction_eq {rest : List Char} (h : Closes rest) : readFraction rest = ([], rest) := by
  unfold readFraction
  split
  · rename_i r
    exact absurd rfl (h.cons_ne (by decide) r)
  · rfl

theorem Closes.readExponent_eq {rest : List Char} (h : Closes rest) : readExponent rest = (none, rest) := by
  cases rest with
  | nil => rfl
  | cons c r => rcases h c rfl with rfl | rfl | rfl <;> rfl

/-- The digits of a natural start with a zero only if it is zero. -/
theorem toDigits_head {n : Nat} (hn : n ≠ 0) : ∃ d ds, Nat.toDigits 10 n = d :: ds ∧ d ≠ '0' := by
  have hdigit : ∀ d < 10, d ≠ 0 → Nat.digitChar d ≠ '0' := by decide
  induction n using Nat.strongRecOn with
  | _ n ih =>
    rw [Nat.toDigits_eq_if (by norm_num)]
    split
    · rename_i h
      exact ⟨_, [], rfl, hdigit n h hn⟩
    · rename_i h
      obtain ⟨d, ds, hds, hd⟩ := ih (n / 10) (by omega) (by omega)
      exact ⟨d, _, by rw [hds]; rfl, hd⟩

theorem readWhole?_toDigits (n : Nat) {rest : List Char} (hrest : Closes rest) :
    readWhole? (Nat.toDigits 10 n ++ rest) = some (Nat.toDigits 10 n, rest) := by
  by_cases hn : n = 0
  · subst hn
    rfl
  · obtain ⟨d, ds, hds, hd⟩ := toDigits_head hn
    have hdigits : IsDigits (d :: ds) := hds ▸ isDigits_toDigits n
    rw [hds]
    unfold readWhole?
    split
    · rename_i heq
      exact absurd (List.cons.inj heq).1 hd
    · dsimp only
      rw [List.takeWhile_append_of_pos hdigits, List.dropWhile_append_of_pos hdigits, hrest.takeWhile_digits,
        dropWhile_of_takeWhile hrest.takeWhile_digits, List.append_nil, if_neg (List.cons_ne_nil d ds)]

theorem splitMinus_minus (negative : Bool) {ds : List Char} (hd : IsDigits ds) (hne : ds ≠ []) (rest : List Char) :
    splitMinus (minus negative ++ (ds ++ rest)) = (negative, ds ++ rest) := by
  obtain ⟨d, ds, rfl⟩ := List.exists_cons_of_ne_nil hne
  cases negative with
  | true => rfl
  | false =>
    show splitMinus (d :: (ds ++ rest)) = _
    unfold splitMinus
    split
    · rename_i heq
      obtain ⟨rfl, -⟩ := List.cons.inj heq
      exact absurd (hd _ List.mem_cons_self) (by decide)
    · rfl

theorem readNumber?_toString {digits : Nat} {n : Int} (hn : (Nat.toDigits 10 n.natAbs).length ≤ digits)
    {rest : List Char} (hrest : Closes rest) :
    readNumber? digits ((toString n).toList ++ rest) = some (.ok (.int n), rest) := by
  have hvalue : numberValue digits (decide (n < 0)) (Nat.toDigits 10 n.natAbs) [] none = .ok (.int n) := by
    unfold numberValue
    rw [if_pos ⟨rfl, rfl⟩, if_neg (Nat.not_lt.2 hn), ofDigits_toDigits]
    congr 2
    split
    · rename_i hneg
      have := of_decide_eq_true hneg
      omega
    · rename_i hneg
      have : ¬ n < 0 := fun h => hneg (decide_eq_true h)
      omega
  rw [Quantity.toList_toString, List.append_assoc, readNumber?_eq,
    splitMinus_minus _ (isDigits_toDigits _) Nat.toDigits_ne_nil, readWhole?_toDigits _ hrest, Option.map_some]
  dsimp only
  rw [hrest.readFraction_eq, hrest.readExponent_eq, hvalue]

/-- No constant starts as a number does. -/
theorem constants_ne_digit {word : List Char} {v : Value} (h : (word, v) ∈ constants) (negative : Bool) {d : Char}
    (hd : isDecimalDigit d = true) (cs r : List Char) : minus negative ++ d :: cs ≠ word ++ r := by
  intro heq
  have hne : ∀ {c : Char}, isDecimalDigit c = false → d ≠ c := by
    rintro c hc rfl
    rw [hd] at hc
    cases hc
  simp only [constants, List.mem_cons, Prod.mk.injEq, List.not_mem_nil, or_false] at h
  cases negative with
  | false =>
    obtain ⟨c, ws, rfl, hc⟩ : ∃ c ws, word = c :: ws ∧ isDecimalDigit c = false := by
      rcases h with ⟨rfl, -⟩ | ⟨rfl, -⟩ | ⟨rfl, -⟩ | ⟨rfl, -⟩ | ⟨rfl, -⟩ | ⟨rfl, -⟩ <;> exact ⟨_, _, rfl, rfl⟩
    exact hne hc (List.cons.inj heq).1
  | true =>
    rcases h with ⟨rfl, -⟩ | ⟨rfl, -⟩ | ⟨rfl, -⟩ | ⟨rfl, -⟩ | ⟨rfl, -⟩ | ⟨rfl, -⟩
    case inr.inr.inr.inr.inr => exact hne rfl (List.cons.inj (List.cons.inj heq).2).1
    all_goals exact absurd (List.cons.inj heq).1 (by decide)

theorem readConstant?_toString (n : Int) (rest : List Char) : readConstant? ((toString n).toList ++ rest) = none := by
  obtain ⟨d, ds, hds⟩ := List.exists_cons_of_ne_nil (Nat.toDigits_ne_nil (b := 10) (n := n.natAbs))
  have hd : isDecimalDigit d = true := isDigits_toDigits n.natAbs d (hds ▸ List.mem_cons_self)
  rw [Option.eq_none_iff_forall_ne_some]
  rintro ⟨v, r⟩ h
  obtain ⟨word, hmem, hword⟩ := readConstant?_eq_some h
  rw [Quantity.toList_toString, hds, List.append_assoc] at hword
  exact constants_ne_digit hmem _ hd (ds ++ rest) r hword

/-- The characters of a literal are those of its text. -/
theorem readsChars_encode (s : String) (rest : List Char) :
    ∃ k, ReadsChars (s.toList.flatMap encodeChar ++ '"' :: rest) k rest ∧ textOf? k = some s := by
  obtain ⟨k, hk, heq⟩ := readString_sound (readString_encode [] (s.toList.length + 1) [] s.toList (by omega) rest)
  simp only [List.reverse_nil, List.nil_append, textOf?_map_some, String.ofList_toList] at heq
  exact ⟨k, hk, heq.symm⟩

/-! ## Depth -/

theorem itemsLevels_le_iff {items : List Value} {n : Nat} : Value.itemsLevels items ≤ n ↔ ∀ v ∈ items, v.levels ≤ n := by
  induction items with
  | nil => simp [Value.itemsLevels]
  | cons v items ih => simp [Value.itemsLevels, ih]

/-- The entries of a record. -/
def textKeys (entries : List (String × Value)) : Entries := entries.map fun e => (.text e.1, e.2)

theorem entriesLevels_textKeys_le_iff {entries : List (String × Value)} {n : Nat} :
    Value.entriesLevels (textKeys entries) ≤ n ↔ ∀ e ∈ entries, e.2.levels ≤ n := by
  induction entries with
  | nil => simp [textKeys, Value.entriesLevels]
  | cons e entries ih =>
    rw [textKeys] at ih
    simp [textKeys, Value.entriesLevels, ih]

/-! ## Writing within bounds -/

theorem itemsExcess?_eq {digits levels : Nat} {items : List Value}
    (h : ∀ v ∈ items, excess? digits levels v = if v.levels ≤ levels then none else some .levelsWritten) :
    itemsExcess? digits levels items = if Value.itemsLevels items ≤ levels then none else some .levelsWritten := by
  induction items with
  | nil => rfl
  | cons v items ih =>
    obtain ⟨hv, hitems⟩ := List.forall_mem_cons.1 h
    rw [itemsExcess?, hv, ih hitems, Value.itemsLevels]
    split <;> simp_all

theorem entriesExcess?_eq {digits levels : Nat} {entries : List (String × Value)}
    (h : ∀ e ∈ entries, excess? digits levels e.2 = if e.2.levels ≤ levels then none else some .levelsWritten) :
    entriesExcess? digits levels (textKeys entries) =
      if Value.entriesLevels (textKeys entries) ≤ levels then none else some .levelsWritten := by
  induction entries with
  | nil => rfl
  | cons e entries ih =>
    obtain ⟨he, hentries⟩ := List.forall_mem_cons.1 h
    have hkey : scalarExcess? digits (.text e.1) = none := rfl
    rw [textKeys] at ih
    rw [textKeys, List.map_cons, entriesExcess?, he, hkey, ih hentries, Value.entriesLevels]
    split <;> simp_all

/-- Only its depth keeps a plain value from being written. -/
theorem excess?_of_isPlain {digits : Nat} {v : Value} (hv : v.IsPlain digits) (levels : Nat) :
    excess? digits levels v = if v.levels ≤ levels then none else some .levelsWritten := by
  induction hv generalizing levels with
  | null | bool | text => rfl
  | int hn => exact if_neg (Nat.not_lt.2 hn)
  | list _ ih =>
    cases levels with
    | zero => rfl
    | succ levels =>
      rw [excess?, itemsExcess?_eq fun v hv => ih v hv levels, Value.levels]
      simp
  | record _ _ ih =>
    cases levels with
    | zero => rfl
    | succ levels =>
      rw [Value.record, ← textKeys, excess?, entriesExcess?_eq fun e he => ih e he levels, Value.levels]
      simp

section

variable {bounds : Bounds} {v : Value} (hv : v.IsPlain bounds.digits)
include hv

theorem literal_of_levels_le (h : v.levels ≤ bounds.writtenLevels) : literal bounds v = .ok (write v) := by
  rw [literal, excess?_of_isPlain hv, if_pos h]

theorem literal_of_lt_levels (h : bounds.writtenLevels < v.levels) : literal bounds v = .error .levelsWritten := by
  rw [literal, excess?_of_isPlain hv, if_neg (Nat.not_le.2 h)]

end

/-! ## Values -/

/-- A value is read from what is written, whatever closes it, if it is not too deep. -/
structure ReadsBack (digits levels : Nat) (v : Value) : Prop where
  within : v.levels ≤ levels → ∀ rest, Closes rest → Reads digits levels (.value (some v)) ((write v).toList ++ rest) rest
  beyond : levels < v.levels → ∀ rest, ∃ ofObject,
    Exceeds digits levels .value ((write v).toList ++ rest) (.levelsRead ofObject)

section

variable {digits levels : Nat}

/-- Scalars take no level. -/
theorem readsBack_scalar {s : Scalar}
    (h : ∀ rest, Closes rest → Reads digits levels (.value (some (.scalar s))) ((write (.scalar s)).toList ++ rest) rest) :
    ReadsBack digits levels (.scalar s) :=
  ⟨fun _ => h, fun hlevels => absurd hlevels (Nat.not_lt_zero _)⟩

theorem readsBack_text (s : String) : ReadsBack digits levels (.text s) := by
  refine readsBack_scalar fun rest _ => ?_
  obtain ⟨k, hk, hs⟩ := readsChars_encode s rest
  have h : Reads digits levels _ _ _ := .text hk
  rw [hs] at h
  simpa [write, scalarText, toList_encode] using h

theorem readsBack_int {n : Int} (hn : (Nat.toDigits 10 n.natAbs).length ≤ digits) : ReadsBack digits levels (.int n) :=
  readsBack_scalar fun rest hrest => .number (readConstant?_toString n rest) (readNumber?_toString hn hrest)

theorem readsBack_null : ReadsBack digits levels .null := readsBack_scalar fun _ _ => .constant rfl

theorem readsBack_bool (b : Bool) : ReadsBack digits levels (.bool b) := by
  refine readsBack_scalar fun rest _ => ?_
  cases b with
  | true => exact .constant rfl
  | false => exact .constant rfl

theorem toList_commas (a b : String) (l : List String) :
    (", ".intercalate (a :: b :: l)).toList = a.toList ++ ',' :: ' ' :: (", ".intercalate (b :: l)).toList := by
  simp [String.intercalate_cons_cons]

/-- A phrase is also read behind a space, and a bound met there. -/
theorem Reads.after_space {p : Phrase} {cs r : List Char} (h : Reads digits levels p cs r) :
    Reads digits levels p (skipBlanks (' ' :: cs)) r := by
  have hskip : skipBlanks (' ' :: cs) = cs := h.skipBlanks_eq
  rwa [hskip]

theorem Exceeds.after_space {part : Part} {cs : List Char} {e : Excess} (h : Exceeds digits levels part cs e) :
    Exceeds digits levels part (skipBlanks (' ' :: cs)) e := by
  have hskip : skipBlanks (' ' :: cs) = cs := skipBlanks_eq_of_opens h.opens
  rwa [hskip]

theorem reads_items (v : Value) (vs : List Value) (h : ∀ w ∈ v :: vs, ReadsBack digits levels w)
    (hlevels : ∀ w ∈ v :: vs, w.levels ≤ levels) (rest : List Char) :
    Reads digits levels (.items (some (v :: vs)))
      ((", ".intercalate (writeItems (v :: vs))).toList ++ ']' :: rest) rest := by
  obtain ⟨hv, hvs⟩ := List.forall_mem_cons.1 h
  obtain ⟨hvlevels, hvslevels⟩ := List.forall_mem_cons.1 hlevels
  induction vs generalizing v with
  | nil => exact .lastItem (hv.within hvlevels _ (closes_bracket rest)) rfl
  | cons w vs ih =>
    obtain ⟨hw, hvs'⟩ := List.forall_mem_cons.1 hvs
    obtain ⟨hwlevels, hvslevels'⟩ := List.forall_mem_cons.1 hvslevels
    have hrest := ih w hvs hvslevels hw hvs' hwlevels hvslevels'
    have hitems := Reads.item (hv.within hvlevels _ (closes_comma _)) rfl hrest.after_space
    simp only [writeItems, toList_commas, List.append_assoc, List.cons_append] at hitems ⊢
    exact hitems

/-- A list with an item that is too deep goes beyond the bound at the first such item. -/
theorem exceeds_items (v : Value) (vs : List Value) (h : ∀ w ∈ v :: vs, ReadsBack digits levels w)
    (hlevels : ∃ w ∈ v :: vs, levels < w.levels) (rest : List Char) :
    ∃ ofObject, Exceeds digits levels .items
      ((", ".intercalate (writeItems (v :: vs))).toList ++ ']' :: rest) (.levelsRead ofObject) := by
  induction vs generalizing v with
  | nil =>
    obtain ⟨w, hw, hdeep⟩ := hlevels
    obtain rfl := List.mem_singleton.1 hw
    obtain ⟨ofObject, hw⟩ := (h w List.mem_cons_self).beyond hdeep (']' :: rest)
    exact ⟨ofObject, .firstItem hw⟩
  | cons w vs ih =>
    obtain ⟨hv, hvs⟩ := List.forall_mem_cons.1 h
    simp only [writeItems, toList_commas, List.append_assoc, List.cons_append] at ih ⊢
    -- the reader stops in the first item, or reads it and stops in one of the others
    by_cases hdeep : levels < v.levels
    · obtain ⟨ofObject, hv⟩ := hv.beyond hdeep _
      exact ⟨ofObject, .firstItem hv⟩
    · have hlater : ∃ u ∈ w :: vs, levels < u.levels := by
        obtain ⟨u, hu, hudeep⟩ := hlevels
        rcases List.mem_cons.1 hu with rfl | hu
        · exact absurd hudeep hdeep
        · exact ⟨u, hu, hudeep⟩
      obtain ⟨ofObject, hrest⟩ := ih w hvs hlater
      exact ⟨ofObject, .laterItem (hv.within (Nat.not_lt.1 hdeep) _ (closes_comma _)) rfl hrest.after_space⟩

/-- The text of an entry: the key as a literal, and the value behind a colon and a space. -/
theorem toList_entry (k : String) (v : Value) (rest : List Char) :
    (keyText encode (.text k) ++ ": " ++ write v).toList ++ rest =
      '"' :: (k.toList.flatMap encodeChar ++ '"' :: ':' :: ' ' :: ((write v).toList ++ rest)) := by
  simp [keyText, toList_encode]

theorem entryOf?_eq_some {k : List (Option Char)} {key : String} (hk : textOf? k = some key) (v : Value) :
    entryOf? k (some v) = some (.text key, v) := by
  rw [entryOf?, hk]
  rfl

theorem reads_entries (e : String × Value) (es : List (String × Value)) (h : ∀ f ∈ e :: es, ReadsBack digits levels f.2)
    (hlevels : ∀ f ∈ e :: es, f.2.levels ≤ levels) (rest : List Char) :
    Reads digits levels (.entries (some (textKeys (e :: es))))
      ((", ".intercalate (writeEntries (textKeys (e :: es)))).toList ++ '\x7d' :: rest) rest := by
  obtain ⟨he, hes⟩ := List.forall_mem_cons.1 h
  obtain ⟨helevels, heslevels⟩ := List.forall_mem_cons.1 hlevels
  induction es generalizing e with
  | nil =>
    obtain ⟨k, hk, hkey⟩ := readsChars_encode e.1 (':' :: ' ' :: ((write e.2).toList ++ '\x7d' :: rest))
    have hentry := Reads.lastEntry hk rfl (he.within helevels _ (closes_brace rest)).after_space rfl
    rw [entryOf?_eq_some hkey, ← toList_entry] at hentry
    exact hentry
  | cons f es ih =>
    obtain ⟨hf, hes'⟩ := List.forall_mem_cons.1 hes
    obtain ⟨hflevels, heslevels'⟩ := List.forall_mem_cons.1 heslevels
    have hrest := ih f hes heslevels hf hes' hflevels heslevels'
    obtain ⟨k, hk, hkey⟩ := readsChars_encode e.1 (':' :: ' ' :: ((write e.2).toList ++ ',' :: ' ' ::
      ((", ".intercalate (writeEntries (textKeys (f :: es)))).toList ++ '\x7d' :: rest)))
    have hentry := Reads.entry hk rfl (he.within helevels _ (closes_comma _)).after_space rfl hrest.after_space
    rw [entryOf?_eq_some hkey, ← toList_entry] at hentry
    simp only [textKeys, List.map_cons, writeEntries, toList_commas, List.append_assoc, List.cons_append] at hentry ⊢
    exact hentry

/-- And an object with a value that is too deep at the first such value. -/
theorem exceeds_entries (e : String × Value) (es : List (String × Value)) (h : ∀ f ∈ e :: es, ReadsBack digits levels f.2)
    (hlevels : ∃ f ∈ e :: es, levels < f.2.levels) (rest : List Char) :
    ∃ ofObject, Exceeds digits levels .entries
      ((", ".intercalate (writeEntries (textKeys (e :: es)))).toList ++ '\x7d' :: rest) (.levelsRead ofObject) := by
  induction es generalizing e with
  | nil =>
    obtain ⟨f, hf, hdeep⟩ := hlevels
    obtain rfl := List.mem_singleton.1 hf
    obtain ⟨ofObject, hf⟩ := (h f List.mem_cons_self).beyond hdeep ('\x7d' :: rest)
    obtain ⟨k, hk, -⟩ := readsChars_encode f.1 (':' :: ' ' :: ((write f.2).toList ++ '\x7d' :: rest))
    have hentry := Exceeds.firstEntry hk rfl hf.after_space
    rw [← toList_entry] at hentry
    exact ⟨ofObject, hentry⟩
  | cons f es ih =>
    obtain ⟨he, hes⟩ := List.forall_mem_cons.1 h
    obtain ⟨k, hk, -⟩ := readsChars_encode e.1 (':' :: ' ' :: ((write e.2).toList ++ ',' :: ' ' ::
      ((", ".intercalate (writeEntries (textKeys (f :: es)))).toList ++ '\x7d' :: rest)))
    by_cases hdeep : levels < e.2.levels
    · obtain ⟨ofObject, he⟩ := he.beyond hdeep (',' :: ' ' ::
        ((", ".intercalate (writeEntries (textKeys (f :: es)))).toList ++ '\x7d' :: rest))
      have hentry := Exceeds.firstEntry hk rfl he.after_space
      rw [← toList_entry] at hentry
      simp only [textKeys, List.map_cons, writeEntries, toList_commas, List.append_assoc, List.cons_append] at hentry ⊢
      exact ⟨ofObject, hentry⟩
    · have hlater : ∃ g ∈ f :: es, levels < g.2.levels := by
        obtain ⟨g, hg, hgdeep⟩ := hlevels
        rcases List.mem_cons.1 hg with rfl | hg
        · exact absurd hgdeep hdeep
        · exact ⟨g, hg, hgdeep⟩
      obtain ⟨ofObject, hrest⟩ := ih f hes hlater
      have hentry := Exceeds.laterEntry hk rfl (he.within (Nat.not_lt.1 hdeep) _ (closes_comma _)).after_space rfl
        hrest.after_space
      rw [← toList_entry] at hentry
      simp only [textKeys, List.map_cons, writeEntries, toList_commas, List.append_assoc, List.cons_append] at hentry ⊢
      exact ⟨ofObject, hentry⟩

/-- A text key that is new to entries of text keys comes to their end. -/
theorem insert_textKeys {entries : List (String × Value)} {key : String} (hkey : key ∉ entries.map Prod.fst) (v : Value) :
    Entries.insert (.text key) v (textKeys entries) = textKeys (entries ++ [(key, v)]) := by
  induction entries with
  | nil => rfl
  | cons e entries ih =>
    rw [List.map_cons, List.mem_cons, not_or] at hkey
    have hne : (Scalar.text e.1).sameKey (.text key) = false := by
      simp [Scalar.sameKey, Scalar.numeric?, Ne.symm hkey.1]
    show (if (Scalar.text e.1).sameKey (.text key) then _ else _) = _
    rw [hne, if_neg Bool.false_ne_true, ← textKeys, ih hkey.2]
    rfl

/-- Entries whose keys are different texts stay as they are when they are put in one after another. -/
theorem ofPairs_textKeys {entries : List (String × Value)} (hkeys : (entries.map Prod.fst).Nodup) :
    Entries.ofPairs (textKeys entries) = textKeys entries := by
  have hfold : ∀ (entries done : List (String × Value)), ((done ++ entries).map Prod.fst).Nodup →
      (textKeys entries).foldl (fun found e => Entries.insert e.1 e.2 found) (textKeys done) =
        textKeys (done ++ entries) := by
    intro entries
    induction entries with
    | nil =>
      intro done _
      rw [List.append_nil]
      rfl
    | cons e entries ih =>
      intro done hdone
      have hkey : e.1 ∉ done.map Prod.fst := by
        rw [List.map_append, List.nodup_append] at hdone
        exact fun hmem => hdone.2.2 _ hmem _ List.mem_cons_self rfl
      have hstep := ih (done ++ [e]) (by rwa [List.append_assoc])
      rw [← insert_textKeys hkey, List.append_assoc] at hstep
      exact hstep
  exact hfold entries [] hkeys

theorem toList_write_list (items : List Value) (rest : List Char) :
    (write (.list items)).toList ++ rest = '[' :: ((", ".intercalate (writeItems items)).toList ++ ']' :: rest) := by
  simp [write]

theorem toList_write_object (entries : Entries) (rest : List Char) :
    (write (.object entries)).toList ++ rest =
      '\x7b' :: ((", ".intercalate (writeEntries entries)).toList ++ '\x7d' :: rest) := by
  simp [write]

end

theorem readsBack_list {digits : Nat} {items : List Value} (ih : ∀ v ∈ items, ∀ levels, ReadsBack digits levels v)
    (levels : Nat) : ReadsBack digits levels (.list items) := by
  constructor
  · intro hlevels rest _
    -- the list takes a level for itself, so there is one
    obtain ⟨levels, rfl⟩ : ∃ n, levels = n + 1 := ⟨levels - 1, by rw [Value.levels] at hlevels; omega⟩
    rw [toList_write_list]
    cases items with
    | nil => exact .emptyList rfl
    | cons v vs =>
      have hitems := reads_items v vs (fun w hw => ih w hw levels)
        (itemsLevels_le_iff.1 (Nat.le_of_succ_le_succ hlevels)) rest
      exact .list (by rwa [hitems.skipBlanks_eq])
  · intro hlevels rest
    rw [toList_write_list]
    cases levels with
    | zero => exact ⟨false, .bracket⟩
    | succ levels =>
      have hdeep : ∃ v ∈ items, levels < v.levels := by
        simpa using mt itemsLevels_le_iff.2 (Nat.not_le.2 (Nat.lt_of_succ_lt_succ hlevels))
      cases items with
      | nil =>
        obtain ⟨v, hv, -⟩ := hdeep
        cases hv
      | cons v vs =>
        obtain ⟨ofObject, hitems⟩ := exceeds_items v vs (fun w hw => ih w hw levels) hdeep rest
        exact ⟨ofObject, .list (by rwa [skipBlanks_eq_of_opens hitems.opens])⟩

theorem readsBack_record {digits : Nat} {entries : List (String × Value)} (hkeys : (entries.map Prod.fst).Nodup)
    (ih : ∀ e ∈ entries, ∀ levels, ReadsBack digits levels e.2) (levels : Nat) :
    ReadsBack digits levels (.object (textKeys entries)) := by
  constructor
  · intro hlevels rest _
    obtain ⟨levels, rfl⟩ : ∃ n, levels = n + 1 := ⟨levels - 1, by rw [Value.levels] at hlevels; omega⟩
    rw [toList_write_object]
    cases entries with
    | nil => exact .emptyObject rfl
    | cons e es =>
      have hentries := reads_entries e es (fun f hf => ih f hf levels)
        (entriesLevels_textKeys_le_iff.1 (Nat.le_of_succ_le_succ hlevels)) rest
      have hobject := Reads.object (hentries.skipBlanks_eq.symm ▸ hentries)
      rw [Option.map_some, ofPairs_textKeys hkeys] at hobject
      exact hobject
  · intro hlevels rest
    rw [toList_write_object]
    cases levels with
    | zero => exact ⟨true, .brace⟩
    | succ levels =>
      have hdeep : ∃ e ∈ entries, levels < e.2.levels := by
        simpa using mt entriesLevels_textKeys_le_iff.2 (Nat.not_le.2 (Nat.lt_of_succ_lt_succ hlevels))
      cases entries with
      | nil =>
        obtain ⟨e, he, -⟩ := hdeep
        cases he
      | cons e es =>
        obtain ⟨ofObject, hentries⟩ := exceeds_entries e es (fun f hf => ih f hf levels) hdeep rest
        exact ⟨ofObject, .object (by rwa [skipBlanks_eq_of_opens hentries.opens])⟩

/-- A plain value is read from what is written, or found too deep in it. -/
theorem readsBack_of_isPlain {digits : Nat} {v : Value} (hv : v.IsPlain digits) (levels : Nat) :
    ReadsBack digits levels v := by
  induction hv generalizing levels with
  | null => exact readsBack_null
  | bool b => exact readsBack_bool b
  | int hn => exact readsBack_int hn
  | text s => exact readsBack_text s
  | list _ ih => exact readsBack_list ih levels
  | record hkeys _ ih => exact readsBack_record hkeys ih levels

section

variable {bounds : Bounds} {v : Value} (hv : v.IsPlain bounds.digits)
include hv

theorem read_write_of_levels_le (h : v.levels ≤ bounds.readLevels) : read bounds (write v) = .ok v := by
  have hreads := (readsBack_of_isPlain hv bounds.readLevels).within h [] closes_nil
  rw [List.append_nil] at hreads
  -- the text starts with the value, so with neither a blank nor a byte order mark
  refine read_eq_ok_iff.2 (readText_eq_ok_iff.2 ⟨hreads.ne_cons rfl, [], ?_, rfl⟩)
  rwa [hreads.skipBlanks_eq]

theorem read_write_of_lt_levels (h : bounds.readLevels < v.levels) :
    ∃ ofObject, read bounds (write v) = .error (.exceeded (.levelsRead ofObject)) := by
  obtain ⟨ofObject, hexceeds⟩ := (readsBack_of_isPlain hv bounds.readLevels).beyond h []
  rw [List.append_nil] at hexceeds
  refine ⟨ofObject, read_eq_exceeded_iff.2 (readText_eq_exceeded_iff.2 ⟨ne_cons_of_opens hexceeds.opens rfl, ?_⟩)⟩
  rwa [skipBlanks_eq_of_opens hexceeds.opens]

end

end Json

/-- The literal of a plain value is read as that value, exactly if it is no deeper than both bounds allow. A value that is
too deep to be written has no literal, and the literal of one that is too deep to be read is refused for its depth. -/
theorem Format.read_literal (p : Platform) {v : Value} (hv : v.IsPlain p.bounds.digits) :
    ((∃ text, Json.literal p.bounds v = .ok text ∧ Format.json.read p text = .ok v) ↔
        v.levels ≤ p.bounds.writtenLevels ∧ v.levels ≤ p.bounds.readLevels) ∧
      (p.bounds.writtenLevels < v.levels → Json.literal p.bounds v = .error .levelsWritten) ∧
        (v.levels ≤ p.bounds.writtenLevels → p.bounds.readLevels < v.levels → ∃ text ofObject,
          Json.literal p.bounds v = .ok text ∧ Format.json.read p text = .error (.exceeded (.levelsRead ofObject))) := by
  have hdeep : p.bounds.readLevels < v.levels →
      ∃ ofObject, Format.json.read p (Json.write v) = .error (.exceeded (.levelsRead ofObject)) := by
    intro h
    obtain ⟨ofObject, hread⟩ := Json.read_write_of_lt_levels hv h
    exact ⟨ofObject, mapError_eq_error_iff.2 ⟨_, hread, rfl⟩⟩
  refine ⟨⟨?_, ?_⟩, Json.literal_of_lt_levels hv, ?_⟩
  · rintro ⟨text, hliteral, hread⟩
    have hwritten : v.levels ≤ p.bounds.writtenLevels := by
      by_contra h
      rw [Json.literal_of_lt_levels hv (Nat.not_le.1 h)] at hliteral
      cases hliteral
    rw [Json.literal_of_levels_le hv hwritten] at hliteral
    obtain rfl := Except.ok.inj hliteral
    refine ⟨hwritten, ?_⟩
    by_contra h
    obtain ⟨ofObject, hrefused⟩ := hdeep (Nat.not_le.1 h)
    rw [hread] at hrefused
    cases hrefused
  · rintro ⟨hwritten, hlevels⟩
    exact ⟨_, Json.literal_of_levels_le hv hwritten, mapError_eq_ok_iff.2 (Json.read_write_of_levels_le hv hlevels)⟩
  · intro hwritten hlevels
    obtain ⟨ofObject, hrefused⟩ := hdeep hlevels
    exact ⟨_, ofObject, Json.literal_of_levels_le hv hwritten, hrefused⟩

/-- A value of every plain kind, with keys and texts that need escapes and some that do not. -/
theorem Format.read_literal_of_record :
    let p : Platform := ⟨⟨4300, 990, 990⟩, fun _ => .error .foreign, fun _ => none, fun _ _ => none⟩
    let v : Value := .record [("a\"\\", .list [.int (-120), .bool true, .text "\n\x01\x7f\u2028😀"]), ("", .list []),
      ("b", .record [("1", .null)])]
    v.IsPlain p.bounds.digits ∧
      Json.write v = "\x7b\"a\\\"\\\\\": [-120, true, \"\\n\\u0001\x7f\u2028😀\"], \"\": [], \"b\": \x7b\"1\": null\x7d\x7d" ∧
        ∃ text, Json.literal p.bounds v = .ok text ∧ Format.json.read p text = .ok v := by
  intro p v
  have hitems : (Value.list [.int (-120), .bool true, .text "\n\x01\x7f\u2028😀"]).IsPlain p.bounds.digits := by
    refine .list fun w hw => ?_
    simp only [List.mem_cons, List.not_mem_nil, or_false] at hw
    rcases hw with rfl | rfl | rfl
    · exact .int (by decide)
    · exact .bool _
    · exact .text _
  have hrecord : (Value.record [("1", .null)]).IsPlain p.bounds.digits := by
    refine .record (by simp) fun e he => ?_
    rw [List.mem_singleton.1 he]
    exact .null
  have hplain : v.IsPlain p.bounds.digits := by
    refine .record (by simp) fun e he => ?_
    simp only [List.mem_cons, List.not_mem_nil, or_false] at he
    rcases he with rfl | rfl | rfl
    · exact hitems
    · exact .list (List.forall_mem_nil _)
    · exact hrecord
  exact ⟨hplain, by decide +kernel, (Format.read_literal p hplain).1.2 (by decide +kernel)⟩

/-- A list in a list, and so on. -/
def Value.nested : Nat → Value
  | 0 => .list []
  | n + 1 => .list [nested n]

theorem Value.isPlain_nested (digits n : Nat) : (nested n).IsPlain digits := by
  induction n with
  | zero => exact .list (List.forall_mem_nil _)
  | succ n ih => exact .list fun v hv => List.mem_singleton.1 hv ▸ ih

theorem Value.levels_nested (n : Nat) : (nested n).levels = n + 1 := by
  induction n with
  | zero => rfl
  | succ n ih => simp [nested, levels, itemsLevels, ih]

/-- With the usual bounds two thousand lists inside one another have no literal, and the text of them is refused. -/
theorem Format.read_literal_of_nested :
    let p : Platform := ⟨⟨4300, 990, 990⟩, fun _ => .error .foreign, fun _ => none, fun _ _ => none⟩
    let v := Value.nested 1999
    v.IsPlain 4300 ∧ v.levels = 2000 ∧ Json.literal p.bounds v = .error .levelsWritten ∧
      ∃ ofObject, Format.json.read p (Json.write v) = .error (.exceeded (.levelsRead ofObject)) := by
  intro p v
  have hplain : v.IsPlain p.bounds.digits := Value.isPlain_nested 4300 1999
  have hlevels : v.levels = 2000 := Value.levels_nested 1999
  have hdeep : 990 < v.levels := hlevels.symm ▸ (by decide : 990 < 2000)
  obtain ⟨ofObject, hread⟩ := Json.read_write_of_lt_levels hplain hdeep
  refine ⟨hplain, hlevels, Json.literal_of_lt_levels hplain hdeep, ofObject, ?_⟩
  rw [Format.read, hread]
  rfl

end WebForm
