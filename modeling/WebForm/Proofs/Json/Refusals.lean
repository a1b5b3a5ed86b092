/-
Why a text that may well be JSON gives no value. A bound is exceeded where a bracket stands on too deep a
level, or an integer has too many digits, and everything in front of it was read: that is a relation beside
the one of what is read, and the reader refuses a text for a bound exactly where it holds. It takes as many
brackets, or as many digits in a row; and half of a pair takes an escape.
-/
import Mathlib.Data.List.Infix
import WebForm.Proofs.Json.Reading

namespace WebForm.Json

/-! ## Beyond a bound -/

/-- What the reader is at where it meets a bound. -/
inductive Part where
  | value
  | items
  | entries

/-- The levels that are left, what is read from characters, and what goes beyond a bound in it. -/
inductive Exceeds (digits : Nat) : Nat → Part → List Char → Excess → Prop where
  | bracket {cs : List Char} : Exceeds digits 0 .value ('[' :: cs) (.levelsRead false)
  | brace {cs : List Char} : Exceeds digits 0 .value ('\x7b' :: cs) (.levelsRead true)
  | number {levels : Nat} {cs r : List Char} {e : Excess} (hconstant : readConstant? cs = none)
      (h : readNumber? digits cs = some (.error e, r)) : Exceeds digits levels .value cs e
  | list {levels : Nat} {cs : List Char} {e : Excess} (h : Exceeds digits levels .items (skipBlanks cs) e) :
      Exceeds digits (levels + 1) .value ('[' :: cs) e
  | object {levels : Nat} {cs : List Char} {e : Excess} (h : Exceeds digits levels .entries (skipBlanks cs) e) :
      Exceeds digits (levels + 1) .value ('\x7b' :: cs) e
  | firstItem {levels : Nat} {cs : List Char} {e : Excess} (h : Exceeds digits levels .value cs e) :
      Exceeds digits levels .items cs e
  | laterItem {levels : Nat} {v : Option Value} {cs r₁ r₂ : List Char} {e : Excess}
      (h : Reads digits levels (.value v) cs r₁) (hcomma : skipBlanks r₁ = ',' :: r₂)
      (hs : Exceeds digits levels .items (skipBlanks r₂) e) : Exceeds digits levels .items cs e
  | firstEntry {levels : Nat} {k : List (Option Char)} {cs r₁ r₂ : List Char} {e : Excess}
      (hkey : ReadsChars cs k r₁) (hcolon : skipBlanks r₁ = ':' :: r₂)
      (h : Exceeds digits levels .value (skipBlanks r₂) e) : Exceeds digits levels .entries ('"' :: cs) e
  | laterEntry {levels : Nat} {v : Option Value} {k : List (Option Char)} {cs r₁ r₂ r₃ r₄ : List Char} {e : Excess}
      (hkey : ReadsChars cs k r₁) (hcolon : skipBlanks r₁ = ':' :: r₂)
      (h : Reads digits levels (.value v) (skipBlanks r₂) r₃) (hcomma : skipBlanks r₃ = ',' :: r₄)
      (hs : Exceeds digits levels .entries (skipBlanks r₄) e) : Exceeds digits levels .entries ('"' :: cs) e

theorem Exceeds.opens {digits levels : Nat} {part : Part} {cs : List Char} {e : Excess}
    (h : Exceeds digits levels part cs e) : ∃ c cs', cs = c :: cs' ∧ opensPhrase c = true := by
  induction h with
  | bracket | list => exact ⟨'[', _, rfl, rfl⟩
  | brace | object => exact ⟨'\x7b', _, rfl, rfl⟩
  | number _ h =>
    obtain ⟨-, c, cs', rfl, hc⟩ := readNumber?_opens h
    exact ⟨c, cs', rfl, by simp [opensPhrase, hc]⟩
  | firstItem _ ih => exact ih
  | laterItem h => exact h.opens
  | firstEntry | laterEntry => exact ⟨'"', _, rfl, rfl⟩

theorem Exceeds.length_pos {digits levels : Nat} {part : Part} {cs : List Char} {e : Excess}
    (h : Exceeds digits levels part cs e) : 0 < cs.length := by
  obtain ⟨c, cs', rfl, -⟩ := h.opens
  exact Nat.succ_pos _

/-! ## The reader refuses exactly what goes beyond a bound -/

theorem enter_eq_error_iff {ofObject : Bool} {levels : Nat} {s : Stop} :
    enter ofObject levels = .error s ↔ levels = 0 ∧ s = .exceeded (.levelsRead ofObject) := by
  cases levels with
  | zero => simp [enter, eq_comm]
  | succ levels => simp [enter]

theorem readEscapedUnit_ne_exceeded {left : Nat} {cs : List Char} {e : Excess} :
    readEscapedUnit left cs ≠ .error (.exceeded e) := by
  unfold readEscapedUnit
  split
  · simp
  split
  · split
    · simp
    split
    · simp
    · split <;> simp
  · simp

/-- A string goes beyond no bound. -/
theorem readString_ne_exceeded {body : List Char} {fuel : Nat} {read : List (Option Char)} {cs : List Char} {e : Excess} :
    readString body fuel read cs ≠ .error (.exceeded e) := by
  induction fuel generalizing read cs with
  | zero => simp [readString]
  | succ fuel ih =>
    unfold readString
    split
    · simp
    · simp
    · simp
    · split
      · exact ih
      · rename_i f hunit
        intro h
        cases h
        exact readEscapedUnit_ne_exceeded hunit
    · split
      · exact ih
      · simp
    · split
      · simp
      · exact ih

/-- Where the readers meet a bound with their fuel, it is exceeded. -/
structure ReaderStopped (digits size fuel : Nat) (e : Excess) : Prop where
  value : ∀ {levels cs}, readValue digits size fuel levels cs = .error (.exceeded e) → Exceeds digits levels .value cs e
  items : ∀ {levels cs}, readItems digits size fuel levels cs = .error (.exceeded e) → Exceeds digits levels .items cs e
  entries : ∀ {levels cs}, readEntries digits size fuel levels cs = .error (.exceeded e) →
    Exceeds digits levels .entries cs e

section ReaderStopped

variable {digits size fuel levels : Nat} {cs : List Char} {e : Excess} (hstopped : ReaderStopped digits size fuel e)
include hstopped

theorem ReaderStopped.value_succ (h : readValue digits size (fuel + 1) levels cs = .error (.exceeded e)) :
    Exceeds digits levels .value cs e := by
  rw [readValue.eq_def] at h
  dsimp only at h
  -- a string meets no bound; an object and a list do at their own bracket or behind it
  split at h
  · rcases bind_eq_error_iff.1 h with h | ⟨found, -, h⟩
    · exact absurd h readString_ne_exceeded
    · cases h
  · rcases bind_eq_error_iff.1 h with h | ⟨left, hleft, hbehind⟩
    · obtain ⟨rfl, heq⟩ := enter_eq_error_iff.1 h
      cases heq
      exact .brace
    · obtain rfl := enter_eq_ok_iff.1 hleft
      split at hbehind
      · cases hbehind
      · rcases bind_eq_error_iff.1 hbehind with h | ⟨found, -, h⟩
        · exact .object (hstopped.entries h)
        · cases h
  · rcases bind_eq_error_iff.1 h with h | ⟨left, hleft, hbehind⟩
    · obtain ⟨rfl, heq⟩ := enter_eq_error_iff.1 h
      cases heq
      exact .bracket
    · obtain rfl := enter_eq_ok_iff.1 hleft
      split at hbehind
      · cases hbehind
      · rcases bind_eq_error_iff.1 hbehind with h | ⟨found, -, h⟩
        · exact .list (hstopped.items h)
        · cases h
  · unfold readScalar at h
    split at h
    · cases h
    · rename_i hconstant
      split at h
      · cases h
      · rename_i hnumber
        cases h
        exact .number hconstant hnumber
      · cases h

theorem ReaderStopped.items_succ (h : readItems digits size (fuel + 1) levels cs = .error (.exceeded e)) :
    Exceeds digits levels .items cs e := by
  rw [readItems] at h
  -- either the first item stops the reader, or it is read and one of the others does
  rcases bind_eq_error_iff.1 h with h | ⟨⟨v, r₁⟩, hv, h⟩
  · exact .firstItem (hstopped.value h)
  dsimp only at h
  split at h
  · cases h
  · rename_i hcomma
    rcases bind_eq_error_iff.1 h with h | ⟨found, -, h⟩
    · exact .laterItem ((reader_sound _ _ _).value hv) hcomma (hstopped.items h)
    · cases h
  · cases h

theorem ReaderStopped.entries_succ (h : readEntries digits size (fuel + 1) levels cs = .error (.exceeded e)) :
    Exceeds digits levels .entries cs e := by
  rw [readEntries.eq_def] at h
  dsimp only at h
  split at h
  · rcases bind_eq_error_iff.1 h with h | ⟨⟨t, r₁⟩, ht, h⟩
    · exact absurd h readString_ne_exceeded
    obtain ⟨k, hk, -⟩ := readString_eq_ok ht
    dsimp only at h
    split at h
    · rename_i hcolon
      rcases bind_eq_error_iff.1 h with h | ⟨⟨v, r₃⟩, hv, h⟩
      · exact .firstEntry hk hcolon (hstopped.value h)
      dsimp only at h
      split at h
      · cases h
      · rename_i hcomma
        rcases bind_eq_error_iff.1 h with h | ⟨found, -, h⟩
        · exact .laterEntry hk hcolon ((reader_sound _ _ _).value hv) hcomma (hstopped.entries h)
        · cases h
      · cases h
    · cases h
  · cases h

end ReaderStopped

theorem reader_stopped (digits size fuel : Nat) (e : Excess) : ReaderStopped digits size fuel e := by
  induction fuel with
  | zero =>
    refine ⟨fun h => ?_, fun h => ?_, fun h => ?_⟩
    · rw [readValue] at h
      cases h
    · rw [readItems] at h
      cases h
    · rw [readEntries] at h
      cases h
  | succ fuel ih => exact ⟨ih.value_succ, ih.items_succ, ih.entries_succ⟩

/-- What meeting a bound comes to. -/
def Part.IsRefusedBy (digits size fuel levels : Nat) (s : Stop) : Part → List Char → Prop
  | .value, cs => readValue digits size fuel levels cs = .error s
  | .items, cs => readItems digits size fuel levels cs = .error s
  | .entries, cs => readEntries digits size fuel levels cs = .error s

/-- The parts of a phrase that start where its first value starts. -/
def Part.depth : Part → Nat
  | .value => 0
  | .items | .entries => 1

section Steps

variable {digits size fuel levels : Nat} {s : Stop} {v : Option Value} {cs r₁ r₂ r₃ r₄ : List Char}

theorem readValue_list_error (hopen : ∀ r', skipBlanks cs ≠ ']' :: r')
    (h : readItems digits size fuel levels (skipBlanks cs) = .error s) :
    readValue digits size (fuel + 1) (levels + 1) ('[' :: cs) = .error s := by
  rw [readValue]
  refine bind_eq_error_iff.2 (.inr ⟨levels, rfl, ?_⟩)
  split
  · rename_i hclose
    exact absurd hclose (hopen _)
  · exact bind_eq_error_iff.2 (.inl h)

theorem readValue_object_error (hopen : ∀ r', skipBlanks cs ≠ '\x7d' :: r')
    (h : readEntries digits size fuel levels (skipBlanks cs) = .error s) :
    readValue digits size (fuel + 1) (levels + 1) ('\x7b' :: cs) = .error s := by
  rw [readValue]
  refine bind_eq_error_iff.2 (.inr ⟨levels, rfl, ?_⟩)
  split
  · rename_i hclose
    exact absurd hclose (hopen _)
  · exact bind_eq_error_iff.2 (.inl h)

theorem readItems_first_error (h : readValue digits size fuel levels cs = .error s) :
    readItems digits size (fuel + 1) levels cs = .error s := by
  rw [readItems]
  exact bind_eq_error_iff.2 (.inl h)

theorem readItems_later_error (h : readValue digits size fuel levels cs = .ok (v, r₁)) (hcomma : skipBlanks r₁ = ',' :: r₂)
    (hs : readItems digits size fuel levels (skipBlanks r₂) = .error s) :
    readItems digits size (fuel + 1) levels cs = .error s := by
  rw [readItems]
  refine bind_eq_error_iff.2 (.inr ⟨(v, r₁), h, ?_⟩)
  simp only [hcomma]
  exact bind_eq_error_iff.2 (.inl hs)

theorem readEntries_first_error {k : Option String} (hkey : readString cs size [] cs = .ok (k, r₁))
    (hcolon : skipBlanks r₁ = ':' :: r₂) (h : readValue digits size fuel levels (skipBlanks r₂) = .error s) :
    readEntries digits size (fuel + 1) levels ('"' :: cs) = .error s := by
  rw [readEntries]
  refine bind_eq_error_iff.2 (.inr ⟨(k, r₁), hkey, ?_⟩)
  simp only [hcolon]
  exact bind_eq_error_iff.2 (.inl h)

theorem readEntries_later_error {k : Option String} (hkey : readString cs size [] cs = .ok (k, r₁))
    (hcolon : skipBlanks r₁ = ':' :: r₂) (h : readValue digits size fuel levels (skipBlanks r₂) = .ok (v, r₃))
    (hcomma : skipBlanks r₃ = ',' :: r₄) (hs : readEntries digits size fuel levels (skipBlanks r₄) = .error s) :
    readEntries digits size (fuel + 1) levels ('"' :: cs) = .error s := by
  rw [readEntries]
  refine bind_eq_error_iff.2 (.inr ⟨(k, r₁), hkey, ?_⟩)
  simp only [hcolon]
  refine bind_eq_error_iff.2 (.inr ⟨(v, r₃), h, ?_⟩)
  simp only [hcomma]
  exact bind_eq_error_iff.2 (.inl hs)

end Steps

/-- The fuel for a text is enough to come to its first bracket or number beyond a bound. -/
theorem Exceeds.isRefusedBy {digits levels : Nat} {part : Part} {cs : List Char} {e : Excess}
    (h : Exceeds digits levels part cs e) {size : Nat} :
    ∀ {fuel : Nat}, cs.length < size → 2 * cs.length + part.depth ≤ fuel →
      part.IsRefusedBy digits size fuel levels (.exceeded e) cs := by
  -- what stands in front of the place is read with the fuel that reading takes; the rest is left for the place
  have hpos := h.length_pos
  induction h with
  | bracket | brace =>
    rintro (_ | fuel) hsize hfuel
    · omega
    rw [Part.IsRefusedBy, readValue]
    rfl
  | number hconstant h =>
    rintro (_ | fuel) hsize hfuel
    · omega
    simp only [Part.IsRefusedBy, readValue_scalar (readNumber?_opens h).2, readScalar, hconstant, h]
  | @list _ cs _ h ih =>
    rintro (_ | fuel) hsize hfuel
    · omega
    have := skipBlanks_length_le cs
    simp only [Part.depth, List.length_cons] at hsize hfuel ih
    exact readValue_list_error (ne_cons_of_opens h.opens rfl) (ih h.length_pos (by omega) (by omega))
  | @object _ cs _ h ih =>
    rintro (_ | fuel) hsize hfuel
    · omega
    have := skipBlanks_length_le cs
    simp only [Part.depth, List.length_cons] at hsize hfuel ih
    exact readValue_object_error (ne_cons_of_opens h.opens rfl) (ih h.length_pos (by omega) (by omega))
  | firstItem h ih =>
    rintro (_ | fuel) hsize hfuel
    · omega
    simp only [Part.depth] at hfuel ih
    exact readItems_first_error (ih hpos hsize (by omega))
  | @laterItem _ _ _ _ r₂ _ h hcomma hs ih =>
    rintro (_ | fuel) hsize hfuel
    · omega
    have := h.length_lt
    have := length_lt_of_skipBlanks hcomma
    have := skipBlanks_length_le r₂
    simp only [Part.depth] at hfuel ih
    exact readItems_later_error (h.isReadBy hsize (by simp only [Phrase.depth]; omega)) hcomma
      (ih hs.length_pos (by omega) (by omega))
  | @firstEntry _ _ _ _ r₂ _ hkey hcolon h ih =>
    rintro (_ | fuel) hsize hfuel
    · omega
    have := hkey.length_lt
    have := length_lt_of_skipBlanks hcolon
    have := skipBlanks_length_le r₂
    simp only [Part.depth, List.length_cons] at hsize hfuel ih
    exact readEntries_first_error (readString_complete hkey (by omega)) hcolon (ih h.length_pos (by omega) (by omega))
  | @laterEntry _ _ _ _ _ r₂ _ r₄ _ hkey hcolon h hcomma hs ih =>
    rintro (_ | fuel) hsize hfuel
    · omega
    have := hkey.length_lt
    have := length_lt_of_skipBlanks hcolon
    have := skipBlanks_length_le r₂
    have := h.length_lt
    have := length_lt_of_skipBlanks hcomma
    have := skipBlanks_length_le r₄
    simp only [Part.depth, List.length_cons] at hsize hfuel ih
    exact readEntries_later_error (readString_complete hkey (by omega)) hcolon
      (h.isReadBy (by omega) (by simp only [Phrase.depth]; omega)) hcomma (ih hs.length_pos (by omega) (by omega))

/-- A text is refused for a bound exactly if its first value goes beyond it. -/
theorem readText_eq_exceeded_iff {bounds : Bounds} {cs : List Char} {e : Excess} :
    readText bounds cs = .error (.exceeded e) ↔
      (∀ cs', cs ≠ '\uFEFF' :: cs') ∧ Exceeds bounds.digits bounds.readLevels .value (skipBlanks cs) e := by
  unfold readText
  split
  · simp
  · rename_i hmark
    constructor
    · intro h
      rcases bind_eq_error_iff.1 h with h | ⟨⟨w, r⟩, -, h⟩
      · exact ⟨hmark, (reader_stopped _ _ _ e).value h⟩
      · dsimp only at h
        split at h <;> cases h
    · rintro ⟨-, h⟩
      have hlength := skipBlanks_length_le cs
      have hvalue : readValue bounds.digits (cs.length + 1) (2 * cs.length + 2) bounds.readLevels (skipBlanks cs) =
          .error (.exceeded e) :=
        h.isRefusedBy (by omega) (by simp only [Part.depth]; omega)
      exact bind_eq_error_iff.2 (.inl hvalue)

/-! ## What is left stands at the end -/

theorem skipBlanks_suffix (cs : List Char) : skipBlanks cs <:+ cs := List.dropWhile_suffix _

theorem suffix_of_skipBlanks {c : Char} {cs r : List Char} (h : skipBlanks cs = c :: r) : r <:+ cs :=
  (List.suffix_cons c r).trans (h ▸ skipBlanks_suffix cs)

/-- What comes next behind a bracket. -/
theorem inside_suffix (c : Char) (cs : List Char) : skipBlanks cs <:+ c :: cs :=
  (skipBlanks_suffix cs).trans (List.suffix_cons c cs)

/-- What comes next behind a comma or a colon. -/
theorem behind_suffix {c : Char} {cs r : List Char} (h : skipBlanks cs = c :: r) : skipBlanks r <:+ cs :=
  (skipBlanks_suffix r).trans (suffix_of_skipBlanks h)

theorem readUnit?_suffix {cs r : List Char} {n : Nat} (h : readUnit? cs = some (n, r)) : r <:+ cs := by
  obtain ⟨a, b, c, d, rfl, -⟩ := readUnit?_eq_some_iff.1 h
  exact ⟨[a, b, c, d], rfl⟩

theorem secondUnit?_suffix {cs r : List Char} {high low : Nat} (h : secondUnit? high cs = some (low, r)) : r <:+ cs := by
  obtain ⟨r', rfl, hunit, -⟩ := secondUnit?_eq_some h
  exact (readUnit?_suffix hunit).trans ⟨['\\', 'u'], rfl⟩

theorem ReadsChars.suffix {cs r : List Char} {s : List (Option Char)} (h : ReadsChars cs s r) : r <:+ cs := by
  induction h with
  | close r => exact List.suffix_cons _ r
  | plain _ _ _ _ ih => exact ih.trans (List.suffix_cons _ _)
  | simple _ _ ih => exact ih.trans ⟨['\\', _], rfl⟩
  | unit hunit _ _ ih => exact (ih.trans (readUnit?_suffix hunit)).trans ⟨['\\', 'u'], rfl⟩
  | pair hunit hsecond _ ih =>
    exact ((ih.trans (secondUnit?_suffix hsecond)).trans (readUnit?_suffix hunit)).trans ⟨['\\', 'u'], rfl⟩

/-- The value of an entry stands behind its key. -/
theorem ReadsChars.value_suffix {cs r₁ r₂ : List Char} {k : List (Option Char)} (hkey : ReadsChars cs k r₁)
    (hcolon : skipBlanks r₁ = ':' :: r₂) : skipBlanks r₂ <:+ '"' :: cs :=
  ((behind_suffix hcolon).trans hkey.suffix).trans (List.suffix_cons _ _)

theorem splitMinus_suffix (cs : List Char) : (splitMinus cs).2 <:+ cs := by
  unfold splitMinus
  split
  · exact List.suffix_cons _ _
  · exact List.suffix_rfl

theorem readFraction_suffix (cs : List Char) : (readFraction cs).2 <:+ cs := by
  unfold readFraction
  split
  · dsimp only
    split
    · exact List.suffix_rfl
    · exact (List.dropWhile_suffix _).trans (List.suffix_cons _ _)
  · exact List.suffix_rfl

theorem sign_suffix (cs : List Char) : (DecimalNumeral.sign cs).2 <:+ cs := by
  unfold DecimalNumeral.sign
  split
  · exact List.suffix_cons _ _
  · exact List.suffix_cons _ _
  · exact List.suffix_rfl

theorem readExponent_suffix (cs : List Char) : (readExponent cs).2 <:+ cs := by
  unfold readExponent
  split
  · exact List.suffix_rfl
  · dsimp only
    split
    · exact ((List.dropWhile_suffix _).trans (sign_suffix _)).trans (List.suffix_cons _ _)
    · exact List.suffix_rfl

theorem readNumber?_suffix {digits : Nat} {cs r : List Char} {found : Except Excess Value}
    (h : readNumber? digits cs = some (found, r)) : r <:+ cs := by
  rw [readNumber?_eq, Option.map_eq_some_iff] at h
  obtain ⟨⟨whole, tail⟩, hwhole, heq⟩ := h
  obtain ⟨-, rfl⟩ := Prod.mk.inj heq
  have htail : tail <:+ (splitMinus cs).2 := ⟨whole, (readWhole?_eq_some hwhole).1.symm⟩
  exact (((readExponent_suffix _).trans (readFraction_suffix tail)).trans htail).trans (splitMinus_suffix cs)

theorem Reads.suffix {digits levels : Nat} {p : Phrase} {cs r : List Char} (h : Reads digits levels p cs r) :
    r <:+ cs := by
  induction h with
  | text h => exact h.suffix.trans (List.suffix_cons _ _)
  | constant h =>
    obtain ⟨word, -, rfl⟩ := readConstant?_eq_some h
    exact List.suffix_append _ _
  | number _ h => exact readNumber?_suffix h
  | emptyList hclose | emptyObject hclose => exact (suffix_of_skipBlanks hclose).trans (List.suffix_cons _ _)
  | list _ ih | object _ ih => exact ih.trans (inside_suffix _ _)
  | lastItem _ hclose ih => exact (suffix_of_skipBlanks hclose).trans ih
  | item _ hcomma _ ih ihs => exact (ihs.trans (behind_suffix hcomma)).trans ih
  | lastEntry hkey hcolon _ hclose ih =>
    exact ((suffix_of_skipBlanks hclose).trans ih).trans (hkey.value_suffix hcolon)
  | entry hkey hcolon _ hcomma _ ih ihs =>
    have hvalue := ih.trans (hkey.value_suffix hcolon)
    exact (ihs.trans (behind_suffix hcomma)).trans hvalue

/-! ## What it takes to exceed a bound -/

/-- Whether a character enters a level. -/
def opensLevel (c : Char) : Bool := c == '[' || c == '\x7b'

/-- What there has to be in a text for an excess: so many digits in a row, or more brackets than levels. -/
def ShowsExcess (digits levels : Nat) (cs : List Char) : Excess → Prop
  | .digitsRead bound count => bound = digits ∧ digits < count ∧
      ∃ ds, ds.length = count ∧ (∀ c ∈ ds, isDecimalDigit c = true) ∧ ds <:+: cs
  | .levelsRead _ => levels < cs.countP opensLevel
  | _ => False

section ShowsExcess

variable {digits levels : Nat} {cs cs' : List Char} {e : Excess}

theorem ShowsExcess.of_suffix (h : ShowsExcess digits levels cs e) (hsuffix : cs <:+ cs') :
    ShowsExcess digits levels cs' e := by
  cases e with
  | digitsRead bound count =>
    obtain ⟨hbound, hcount, ds, hlength, hdigits, hds⟩ := h
    exact ⟨hbound, hcount, ds, hlength, hdigits, hds.trans hsuffix.isInfix⟩
  | levelsRead ofObject =>
    -- more text has no fewer brackets
    have hle : cs.countP opensLevel ≤ cs'.countP opensLevel := hsuffix.sublist.countP_le
    exact Nat.lt_of_lt_of_le h hle
  | digitsWritten _ | levelsWritten | stack => exact h.elim

/-- A bracket makes up for the level that it takes. -/
theorem ShowsExcess.of_bracket {c : Char} (hc : opensLevel c = true) (h : ShowsExcess digits levels cs e) :
    ShowsExcess digits (levels + 1) (c :: cs) e := by
  cases e with
  | digitsRead bound count => exact h.of_suffix (List.suffix_cons c cs)
  | levelsRead ofObject =>
    show levels + 1 < (c :: cs).countP opensLevel
    rw [List.countP_cons_of_pos hc]
    exact Nat.succ_lt_succ h
  | digitsWritten _ | levelsWritten | stack => exact h.elim

theorem readWhole?_digits {ds r : List Char} (h : readWhole? cs = some (ds, r)) : ∀ c ∈ ds, isDecimalDigit c = true := by
  unfold readWhole? at h
  split at h
  · cases h
    exact List.forall_mem_singleton.2 rfl
  · dsimp only at h
    split at h
    · cases h
    · cases h
      exact fun c hc => List.mem_takeWhile_imp hc

theorem showsExcess_of_number {r : List Char} (h : readNumber? digits cs = some (.error e, r)) :
    ShowsExcess digits levels cs e := by
  rw [readNumber?_eq, Option.map_eq_some_iff] at h
  obtain ⟨⟨whole, tail⟩, hwhole, heq⟩ := h
  obtain ⟨hvalue, -⟩ := Prod.mk.inj heq
  have hinfix : whole <:+: cs :=
    List.IsInfix.trans ⟨[], tail, (readWhole?_eq_some hwhole).1.symm⟩ (splitMinus_suffix cs).isInfix
  unfold numberValue at hvalue
  split at hvalue
  · split at hvalue
    · rename_i hmany
      cases hvalue
      exact ⟨rfl, hmany, whole, rfl, readWhole?_digits hwhole, hinfix⟩
    · cases hvalue
  · cases hvalue

theorem Exceeds.shows {part : Part} (h : Exceeds digits levels part cs e) : ShowsExcess digits levels cs e := by
  -- the levels that are left go down by one with each bracket that is passed, and so does the count of brackets
  induction h with
  | bracket | brace => simp [ShowsExcess, opensLevel]
  | number _ h => exact showsExcess_of_number h
  | list _ ih | object _ ih => exact (ih.of_suffix (skipBlanks_suffix _)).of_bracket rfl
  | firstItem _ ih => exact ih
  | laterItem h hcomma _ ih => exact (ih.of_suffix (behind_suffix hcomma)).of_suffix h.suffix
  | firstEntry hkey hcolon _ ih => exact ih.of_suffix (hkey.value_suffix hcolon)
  | laterEntry hkey hcolon h hcomma _ ih =>
    have hvalue := h.suffix.trans (hkey.value_suffix hcolon)
    exact (ih.of_suffix (behind_suffix hcomma)).of_suffix hvalue

end ShowsExcess

theorem showsExcess_of_read {bounds : Bounds} {text : String} {e : Excess} (h : read bounds text = .error (.exceeded e)) :
    ShowsExcess bounds.digits bounds.readLevels text.toList e :=
  (readText_eq_exceeded_iff.1 (read_eq_exceeded_iff.1 h)).2.shows.of_suffix (skipBlanks_suffix _)

/-! ## What it takes to have half of a pair -/

/-- There is an escape of half a pair in a text. -/
def ShowsHalf (cs : List Char) : Prop :=
  ∃ r n r', '\\' :: 'u' :: r <:+ cs ∧ readUnit? r = some (n, r') ∧ unitChar? n = none

theorem ShowsHalf.of_suffix {cs cs' : List Char} (h : ShowsHalf cs) (hsuffix : cs <:+ cs') : ShowsHalf cs' := by
  obtain ⟨r, n, r', hr, hunit, hn⟩ := h
  exact ⟨r, n, r', hr.trans hsuffix, hunit, hn⟩

theorem textOf?_eq_none {s : List (Option Char)} (h : textOf? s = none) : none ∈ s := by
  rw [textOf?, Option.map_eq_none_iff] at h
  induction s with
  | nil => cases h
  | cons c s ih =>
    cases c with
    | none => exact List.mem_cons_self
    | some c =>
      rw [List.mapM_cons] at h
      cases hs : s.mapM id with
      | none => exact List.mem_cons_of_mem _ (ih hs)
      | some t =>
        rw [hs] at h
        cases h

theorem ReadsChars.showsHalf {cs r : List Char} {s : List (Option Char)} (h : ReadsChars cs s r) (hs : none ∈ s) :
    ShowsHalf cs := by
  induction h with
  | close => cases hs
  | plain _ _ _ _ ih => exact (ih (by simpa using hs)).of_suffix (List.suffix_cons _ _)
  | simple _ _ ih => exact (ih (by simpa using hs)).of_suffix ⟨['\\', _], rfl⟩
  | unit hunit _ _ ih =>
    -- the unit itself is half of a pair, or there is one behind it
    rcases List.mem_cons.1 hs with hnone | hs
    · exact ⟨_, _, _, List.suffix_rfl, hunit, hnone.symm⟩
    · exact ((ih hs).of_suffix (readUnit?_suffix hunit)).of_suffix ⟨['\\', 'u'], rfl⟩
  | pair hunit hsecond _ ih =>
    exact (((ih (by simpa using hs)).of_suffix (secondUnit?_suffix hsecond)).of_suffix (readUnit?_suffix hunit)).of_suffix
      ⟨['\\', 'u'], rfl⟩

/-- A phrase that there is not. -/
def Phrase.IsMissing : Phrase → Prop
  | .value v => v = none
  | .items vs => vs = none
  | .entries es => es = none

theorem entryOf?_eq_none {k : List (Option Char)} {v : Option Value} (h : entryOf? k v = none) : none ∈ k ∨ v = none := by
  unfold entryOf? at h
  cases hk : textOf? k with
  | none => exact .inl (textOf?_eq_none hk)
  | some t =>
    rw [hk] at h
    exact .inr (Option.map_eq_none_iff.1 h)

theorem consOf?_eq_none {α : Type} {a : Option α} {l : Option (List α)} (h : (a.bind fun a => l.map (a :: ·)) = none) :
    a = none ∨ l = none := by
  cases a with
  | none => exact .inl rfl
  | some a => exact .inr (Option.map_eq_none_iff.1 h)

theorem Reads.showsHalf {digits levels : Nat} {p : Phrase} {cs r : List Char} (h : Reads digits levels p cs r)
    (hp : p.IsMissing) : ShowsHalf cs := by
  induction h with
  | text h => exact (h.showsHalf (textOf?_eq_none (Option.map_eq_none_iff.1 hp))).of_suffix (List.suffix_cons _ _)
  | constant | number | emptyList | emptyObject => cases hp
  | list _ ih | object _ ih => exact (ih (Option.map_eq_none_iff.1 hp)).of_suffix (inside_suffix _ _)
  | lastItem _ _ ih => exact ih (Option.map_eq_none_iff.1 hp)
  | item h hcomma _ ih ihs =>
    rcases consOf?_eq_none hp with hv | hvs
    · exact ih hv
    · exact ((ihs hvs).of_suffix (behind_suffix hcomma)).of_suffix h.suffix
  | lastEntry hkey hcolon _ _ ih =>
    rcases entryOf?_eq_none (Option.map_eq_none_iff.1 hp) with hk | hv
    · exact (hkey.showsHalf hk).of_suffix (List.suffix_cons _ _)
    · exact (ih hv).of_suffix (hkey.value_suffix hcolon)
  | entry hkey hcolon h hcomma _ ih ihs =>
    rcases consOf?_eq_none hp with hentry | hes
    · rcases entryOf?_eq_none hentry with hk | hv
      · exact (hkey.showsHalf hk).of_suffix (List.suffix_cons _ _)
      · exact (ih hv).of_suffix (hkey.value_suffix hcolon)
    · have hvalue := h.suffix.trans (hkey.value_suffix hcolon)
      exact ((ihs hes).of_suffix (behind_suffix hcomma)).of_suffix hvalue

theorem showsHalf_of_read {bounds : Bounds} {text : String} (h : read bounds text = .error .halfPair) :
    ShowsHalf text.toList := by
  obtain ⟨-, r, hreads, -⟩ := readText_eq_ok_iff.1 (read_eq_halfPair_iff.1 h)
  exact (hreads.showsHalf rfl).of_suffix (skipBlanks_suffix _)

end WebForm.Json
