/-
What the default patterns match. They are runs of characters: a telephone number is ten digits, and an e-mail address is
a text before an at sign and two after it with a dot between, cut at whichever dot. Which characters are blank is not
said by the pattern, so the form of an address is told for any blanks: those of the reader and those of an engine.
-/
import Mathlib
import WebForm.Proofs.Number.Reading
import WebForm.Proofs.Pattern.Runs
import WebForm.Rules

namespace WebForm.Pattern

/-! ## Telephone numbers and addresses -/

/-- Ten digits. -/
def IsPhoneNumber (s : String) : Prop := s.length = 10 ∧ ∀ c ∈ s.toList, '0' ≤ c ∧ c ≤ '9'

/-- A text before an at sign and two after it with a dot between. None of them is empty, and none holds another at sign
or a blank; they may hold dots. -/
def IsAddress (blank : Char → Prop) (s : String) : Prop :=
  ∃ user host domain : List Char, s.toList = user ++ '@' :: (host ++ '.' :: domain) ∧
    ∀ part ∈ [user, host, domain], part ≠ [] ∧ ∀ c ∈ part, c ≠ '@' ∧ ¬blank c

theorem IsAddress.ne_empty {blank : Char → Prop} {s : String} (h : IsAddress blank s) : s ≠ "" := by
  rintro rfl
  obtain ⟨user, host, domain, hs, -⟩ := h
  simp at hs

/-- The runs of an address, whose parts hold the characters that pass a test. -/
def addressRuns (test : Char → Bool) : List Run :=
  [⟨test, 1, none⟩, .one (· == '@'), ⟨test, 1, none⟩, .one (· == '.'), ⟨test, 1, none⟩]

theorem holds_one_iff {c : Char} {piece : List Char} : (Run.one (· == c)).Holds piece ↔ piece = [c] := by
  constructor
  · rintro ⟨hleast, hmost, htest⟩
    obtain ⟨d, rfl⟩ := List.length_eq_one_iff.1 (Nat.le_antisymm (by simpa [Run.one] using hmost) hleast)
    have hd : d = c := by simpa [Run.one] using htest
    rw [hd]
  · rintro rfl
    exact ⟨Nat.le_refl 1, rfl, by simp [Run.one]⟩

theorem holds_some_iff {test : Char → Bool} {piece : List Char} :
    (Run.mk test 1 none).Holds piece ↔ piece ≠ [] ∧ ∀ c ∈ piece, test c = true := by
  constructor
  · rintro ⟨hleast, -, htest⟩
    exact ⟨List.length_pos_iff.1 hleast, htest⟩
  · rintro ⟨hne, htest⟩
    exact ⟨List.length_pos_iff.2 hne, rfl, htest⟩

theorem cutInto_addressRuns_iff {blank : Char → Prop} {test : Char → Bool}
    (htest : ∀ c, test c = true ↔ c ≠ '@' ∧ ¬blank c) {s : String} :
    CutInto (addressRuns test) s.toList ↔ IsAddress blank s := by
  simp only [addressRuns, CutInto, holds_one_iff, holds_some_iff, htest, IsAddress, List.forall_mem_cons]
  constructor
  · rintro ⟨user, _, hs, huser, _, _, rfl, rfl, host, _, rfl, hhost, _, _, rfl, rfl, domain, _, rfl, hdomain, rfl⟩
    exact ⟨user, host, domain, by simpa using hs, huser, hhost, hdomain, List.forall_mem_nil _⟩
  · rintro ⟨user, host, domain, hs, huser, hhost, hdomain, -⟩
    exact ⟨user, _, hs, huser, ['@'], _, rfl, rfl, host, _, rfl, hhost, ['.'], _, rfl, rfl, domain, [],
      (List.append_nil _).symm, hdomain, rfl⟩

/-- Characters that count as blank in addition rule out the addresses that hold one of them. -/
theorem isAddress_or_iff {blank more : Char → Prop} (hat : ¬more '@') (hdot : ¬more '.') {s : String} :
    IsAddress (fun c => blank c ∨ more c) s ↔ IsAddress blank s ∧ ∀ c ∈ s.toList, ¬more c := by
  constructor
  · rintro ⟨user, host, domain, hs, hparts⟩
    have hmore : ∀ part ∈ [user, host, domain], ∀ c ∈ part, ¬more c := fun part hpart c hc hm =>
      ((hparts part hpart).2 c hc).2 (.inr hm)
    refine ⟨⟨user, host, domain, hs, fun part hpart => ⟨(hparts part hpart).1, fun c hc => ?_⟩⟩, fun c hc => ?_⟩
    · obtain ⟨hne, hblank⟩ := (hparts part hpart).2 c hc
      exact ⟨hne, fun hb => hblank (.inl hb)⟩
    · simp only [List.forall_mem_cons] at hmore
      rw [hs] at hc
      simp only [List.mem_append, List.mem_cons] at hc
      rcases hc with hc | rfl | hc | rfl | hc
      · exact hmore.1 c hc
      · exact hat
      · exact hmore.2.1 c hc
      · exact hdot
      · exact hmore.2.2.1 c hc
  · rintro ⟨⟨user, host, domain, hs, hparts⟩, hmore⟩
    refine ⟨user, host, domain, hs, fun part hpart => ⟨(hparts part hpart).1, fun c hc => ?_⟩⟩
    obtain ⟨hne, hblank⟩ := (hparts part hpart).2 c hc
    refine ⟨hne, fun h => h.elim hblank (hmore c ?_)⟩
    simp only [List.mem_cons, List.not_mem_nil, or_false] at hpart
    rw [hs]
    rcases hpart with rfl | rfl | rfl <;> simp [hc]

/-! ## The reader's patterns -/

/-- One character or more of an address. -/
def addressPart : Node := .rep .greedy 1 none (.set [.kind .space true, .code '@'.toNat] false)

theorem compile_emailPattern_eq [CharacterNames] : compile emailPattern = .ok ⟨.ofList (.anchor .lineStart ::
    ([addressPart, .char '@'.toNat true, addressPart, .char '.'.toNat true, addressPart] ++ endNodes)), standard⟩ := by
  cbv

theorem compile_telPattern_eq [CharacterNames] : compile telPattern = .ok ⟨.ofList (.anchor .lineStart ::
    ([.rep .greedy 10 (some 10) (.set [.range '0'.toNat '9'.toNat] true)] ++ endNodes)), standard⟩ := by
  cbv

theorem matchesIn_emailPattern_iff [CharacterNames] (s : String) :
    matchesIn emailPattern s = .ok true ↔ IsAddress (isSpace · = true) s := by
  have hpart : addressPart.IsRun ⟨fun c => !(isSpace c || c == '@'), 1, none⟩ := by
    refine Node.isRun_rep_set (fun c => ?_) rfl
    rw [itemsHold_standard, List.any_cons, List.any_cons, List.any_nil, Bool.or_false, Authored.holds_code, beq_false]
    simp [Item.holds, Kind.contains]
  rw [Authored.matchesIn_of_compile compile_emailPattern_eq, Except.ok.injEq, matchesIn_runs (.cons hpart
    (.cons (Node.isRun_char _) (.cons hpart (.cons (Node.isRun_char _) (.cons hpart .nil)))))]
  exact cutInto_addressRuns_iff fun c => by simp [and_comm]

theorem matchesIn_telPattern_iff [CharacterNames] (s : String) :
    matchesIn telPattern s = .ok true ↔ IsPhoneNumber s := by
  have hdigits : Node.IsRun (.rep .greedy 10 (some 10) (.set [.range '0'.toNat '9'.toNat] true))
      ⟨isDecimalDigit, 10, some 10⟩ := by
    refine Node.isRun_rep_set (fun c => ?_) rfl
    rw [itemsHold_standard, List.any_cons, List.any_nil, Bool.or_false, Authored.holds_range, beq_true, isDecimalDigit]
  rw [Authored.matchesIn_of_compile compile_telPattern_eq, Except.ok.injEq, matchesIn_runs (.cons hdigits .nil),
    cutInto_singleton]
  have hten : s.toList.length = s.length := String.length_toList
  constructor
  · rintro ⟨hleast, hmost, htest⟩
    have hmost : s.toList.length ≤ 10 := by simpa using hmost
    exact ⟨hten.symm.trans (Nat.le_antisymm hmost hleast), by simpa [isDecimalDigit] using htest⟩
  · rintro ⟨hlength, htest⟩
    rw [hlength] at hten
    exact ⟨hten.ge, by simp [hten], by simpa [isDecimalDigit] using htest⟩

/-! ## The engine's pattern -/

namespace Authored

/-- The blanks of an engine, which are also those around a number, as members of a class. -/
def blankMembers : List Member := numberBlanks.pmap Member.char (by simp [numberBlanks])

/-- A character of an address, with the engine's blanks written out. -/
def addressSingle : Single := .members false (blankMembers ++ [.char '@' (by decide)])

/-- The default pattern of an e-mail address as an engine takes it, with its blanks written out. -/
def addressTree : Disjunction :=
  .whole [.many (.single addressSingle) .plus, .once (.single (.char '@' (by decide))),
    .many (.single addressSingle) .plus, .once (.single (.escaped '.' (by decide))),
    .many (.single addressSingle) .plus]

example : addressTree.source.toList = "^[^".toList ++ numberBlanks ++ "@]+@[^".toList ++ numberBlanks
    ++ "@]+\\.[^".toList ++ numberBlanks ++ "@]+$".toList := by
  rw [Disjunction.source, String.toList_ofList]
  rfl

theorem holds_addressSingle {c : Char} : addressSingle.holds c = true ↔ c ≠ '@' ∧ c ∉ numberBlanks := by
  have hblank : blankMembers.any (Member.holds c) = true ↔ c ∈ numberBlanks := by
    rw [List.any_eq_true]
    constructor
    · rintro ⟨m, hm, hc⟩
      obtain ⟨d, hd, rfl⟩ := List.mem_pmap.1 hm
      obtain rfl : c = d := by simpa [Member.holds] using hc
      exact hd
    · intro hc
      exact ⟨_, List.mem_pmap.2 ⟨c, hc, rfl⟩, by simp [Member.holds]⟩
  rw [← hblank, addressSingle, Single.holds, beq_false, List.any_append]
  simp [Member.holds, and_comm]

theorem matchesIn_addressTree_iff (s : String) : addressTree.MatchesIn s ↔ IsAddress (· ∈ numberBlanks) s := by
  have hpart := isRun_many addressSingle .plus
  rw [addressTree, Disjunction.matchesIn_whole (.cons hpart (.cons (isRun_once _) (.cons hpart (.cons (isRun_once _)
    (.cons hpart .nil)))))]
  exact cutInto_addressRuns_iff fun c => holds_addressSingle

end Authored

/-! ## Two kinds of blanks -/

/-- The blanks of both the reader and the engine. -/
def IsSharedBlank (c : Char) : Prop := isSpace c = true ∧ c ∈ numberBlanks

/-- The blanks that only the reader has. -/
def readerBlanks : List Char := ['\x1c', '\x1d', '\x1e', '\x1f', '\u0085']

theorem isSpace_iff {c : Char} : isSpace c = true ↔ IsSharedBlank c ∨ c ∈ readerBlanks := by
  have hcode : ∀ d : Char, c = d ↔ c.toNat = d.toNat := fun d => Char.toNat_inj.symm
  simp only [IsSharedBlank, ← isTrimmable_iff, isSpace, isTrimmable, readerBlanks, List.mem_cons, List.not_mem_nil,
    or_false, hcode]
  simp
  omega

/-- Of the engine's blanks the reader lacks one. -/
theorem mem_numberBlanks_iff {c : Char} : c ∈ numberBlanks ↔ IsSharedBlank c ∨ c = '\ufeff' := by
  have hcode : ∀ d : Char, c = d ↔ c.toNat = d.toNat := fun d => Char.toNat_inj.symm
  simp only [IsSharedBlank, ← isTrimmable_iff, isSpace, isTrimmable, hcode]
  simp
  omega

/-- An address for the reader is one for both that holds none of the reader's own blanks. -/
theorem isAddress_isSpace_iff {s : String} :
    IsAddress (isSpace · = true) s ↔ IsAddress IsSharedBlank s ∧ ∀ c ∈ s.toList, c ∉ readerBlanks := by
  simp only [isSpace_iff]
  exact isAddress_or_iff (by simp [readerBlanks]) (by simp [readerBlanks])

/-- An address for the engine is one for both that holds no mark of the byte order. -/
theorem isAddress_numberBlanks_iff {s : String} :
    IsAddress (· ∈ numberBlanks) s ↔ IsAddress IsSharedBlank s ∧ '\ufeff' ∉ s.toList := by
  simp only [mem_numberBlanks_iff]
  rw [isAddress_or_iff (by decide) (by decide), List.forall_mem_ne']

end WebForm.Pattern
