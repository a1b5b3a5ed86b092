/-
Classes with hyphens. In the dialect of authors a hyphen between two atoms of a class makes a range if both are
characters, and is a member itself if one of them stands for digits or words. The reader gets the digits and
words spelt out, so what they end or start with can become part of a range that was none.

The meaning is kept where each hyphen beside digits or words has the digits before it and no other hyphen that
leads on near it.
-/
import WebForm.Proofs.Pattern.Meaning

namespace WebForm.Pattern.Authored

/-! ## Class texts -/

/-- What a class may hold, as it is written. -/
inductive ClassAtom where
  | hyphen
  | literal (c : Char) (h : c ∉ [']', '\\', '^', '-', '['])
  | digit
  | word

namespace ClassAtom

def text : ClassAtom → List Char
  | hyphen => ['-']
  | literal c _ => [c]
  | digit => ['\\', 'd']
  | word => ['\\', 'w']

/-- The character of an atom, if it stands for one alone. -/
def char? : ClassAtom → Option Char
  | hyphen => some '-'
  | literal c _ => some c
  | digit | word => none

def holds (c : Char) : ClassAtom → Bool
  | hyphen => c == '-'
  | literal d _ => c == d
  | digit => isDecimalDigit c
  | word => isWord c

end ClassAtom

/-- The text of a class with given atoms, or of its complement. -/
def classText (inside : Bool) (atoms : List ClassAtom) : List Char := bracketed inside (atoms.flatMap ClassAtom.text)

/-! ## Meaning -/

/-- A part of a class. -/
inductive Piece where
  | atom (a : ClassAtom)
  | range (lo hi : Char)

def Piece.holds (c : Char) : Piece → Bool
  | atom a => a.holds c
  | range lo hi => lo ≤ c && c ≤ hi

/-- Two atoms with a hyphen between them: a range, which has to be in order, or all three as they are. -/
def joined? (a b : ClassAtom) : Option (List Piece) :=
  match a.char?, b.char? with
  | some lo, some hi => if lo ≤ hi then some [.range lo hi] else none
  | _, _ => some [.atom a, .atom .hyphen, .atom b]

/-- The parts of a class, taken from the left; none if the text is no class. -/
def pieces? : List ClassAtom → Option (List Piece)
  | [] => some []
  | a :: .hyphen :: b :: rest => (joined? a b).bind fun ps => (pieces? rest).map (ps ++ ·)
  | a :: rest => (pieces? rest).map (.atom a :: ·)

/-- No hyphen in front that leads on to another atom. -/
def NotJoined (atoms : List ClassAtom) : Prop := ∀ b rest, atoms ≠ .hyphen :: b :: rest

/-- Every hyphen between two atoms of which one stands for digits or words has the digits before it, and no
hyphen that leads on right after it or after a second atom other than digits. -/
def Apart : List ClassAtom → Prop
  | [] => True
  | a :: .hyphen :: b :: rest =>
    ((a.char?.isSome ∧ b.char?.isSome) ∨ (a = .digit ∧ NotJoined (b :: rest) ∧ (b = .digit ∨ NotJoined rest))) ∧ Apart rest
  | _ :: rest => Apart rest

/-! ## The reader's words -/

def ClassAtom.adapted : ClassAtom → List Char
  | hyphen => ['-']
  | literal c _ => [c]
  | digit => Member.digit.adapted
  | word => Member.word.adapted

def ClassAtom.items : ClassAtom → List Item
  | hyphen => [.code '-'.toNat]
  | literal c _ => [.code c.toNat]
  | digit => Member.digit.items
  | word => Member.word.items

def Piece.items : Piece → List Item
  | atom a => a.items
  | range lo hi => [.range lo.toNat hi.toNat]

theorem ClassAtom.adaptFrom_text (a : ClassAtom) (r : List Char) :
    adaptFrom true (a.text ++ r) = a.adapted ++ adaptFrom true r := by
  cases a with
  | hyphen => exact adaptFrom_inside (by decide) r
  | literal c h => exact (Member.char c h).adaptFrom_text r
  | digit => exact Member.digit.adaptFrom_text r
  | word => exact Member.word.adaptFrom_text r

theorem ClassAtom.any_items (a : ClassAtom) (c : Char) : a.items.any (·.holds false c) = a.holds c := by
  cases a with
  | hyphen => simp only [items, holds, holds_code, List.any_cons, List.any_nil, Bool.or_false]
  | literal d h => simp only [items, holds, holds_code, List.any_cons, List.any_nil, Bool.or_false]
  | digit => exact Member.digit.any_items c
  | word => exact Member.word.any_items c

theorem any_pieces (pieces : List Piece) (c : Char) :
    (pieces.flatMap Piece.items).any (·.holds false c) = pieces.any (Piece.holds c) := by
  have hpiece : ∀ p : Piece, p.items.any (·.holds false c) = p.holds c := by
    intro p
    cases p with
    | atom a => exact a.any_items c
    | range lo hi => simp only [Piece.items, Piece.holds, holds_range, List.any_cons, List.any_nil, Bool.or_false]
  rw [List.any_flatMap]
  simp only [hpiece]

theorem ClassAtom.adapted_starts {a : ClassAtom} (h : a ≠ .hyphen) : ∃ c r, a.adapted = c :: r ∧ Inert c := by
  cases a with
  | hyphen => exact absurd rfl h
  | literal c hc => exact ⟨c, [], rfl, inert_of_not_mem hc⟩
  | digit => exact Member.digit.adapted_starts
  | word => exact Member.word.adapted_starts

theorem ClassAtom.bodyItems?_adapted (a : ClassAtom) {body : List Char} (h : ∀ b r, body ≠ '-' :: b :: r) :
    bodyItems? (a.adapted ++ body) = (bodyItems? body).map (a.items ++ ·) := by
  cases a with
  | hyphen => exact bodyItems?_code h '-'
  | literal c hc => exact (Member.char c hc).bodyItems?_adapted h
  | digit => exact Member.digit.bodyItems?_adapted h
  | word => exact Member.word.bodyItems?_adapted h

theorem ClassAtom.adapted_of_char? {a : ClassAtom} {c : Char} (h : a.char? = some c) : a.adapted = [c] := by
  cases a with
  | hyphen | literal => rw [← Option.some.inj h, adapted]
  | digit | word => cases h

/-- The spelt-out text has a hyphen with something after it in front only if the atoms have. -/
theorem NotJoined.adapted {atoms : List ClassAtom} (h : NotJoined atoms) (b : Char) (r : List Char) :
    atoms.flatMap ClassAtom.adapted ≠ '-' :: b :: r := by
  intro he
  cases atoms with
  | nil => cases he
  | cons a rest =>
    by_cases ha : a = .hyphen
    · subst ha
      cases rest with
      | nil => cases he
      | cons b' rest => exact h b' rest rfl
    · obtain ⟨c, t, hc, hinert⟩ := ClassAtom.adapted_starts ha
      rw [List.flatMap_cons, hc] at he
      exact hinert.dash (List.cons.inj he).1

/-- Where hyphens stand apart, the reader finds the parts that the class has. -/
theorem bodyItems?_atoms {atoms : List ClassAtom} (hapart : Apart atoms) {pieces : List Piece}
    (h : pieces? atoms = some pieces) :
    bodyItems? (atoms.flatMap ClassAtom.adapted) = some (pieces.flatMap Piece.items) := by
  fun_induction pieces? atoms generalizing pieces with
  | case1 =>
    obtain rfl := Option.some.inj h
    rfl
  | case2 a b rest ih =>
    obtain ⟨hnear, hrest⟩ := hapart
    obtain ⟨ps, hps, h⟩ := Option.bind_eq_some_iff.1 h
    obtain ⟨others, hothers, rfl⟩ := Option.map_eq_some_iff.1 h
    have ih := ih hrest hothers
    rw [List.flatMap_append]
    rcases hnear with ⟨ha, hb⟩ | ⟨rfl, hb, hafter⟩
    · obtain ⟨lo, hlo⟩ := Option.isSome_iff_exists.1 ha
      obtain ⟨hi, hhi⟩ := Option.isSome_iff_exists.1 hb
      simp only [joined?, hlo, hhi] at hps
      split at hps
      case isFalse => cases hps
      case isTrue hle =>
        obtain rfl := Option.some.inj hps
        simp only [List.flatMap_cons, ClassAtom.adapted_of_char? hlo, ClassAtom.adapted_of_char? hhi]
        show bodyItems? (lo :: '-' :: hi :: rest.flatMap ClassAtom.adapted) = _
        rw [bodyItems?_range hle, ih]
        rfl
    · obtain rfl : [.atom .digit, .atom .hyphen, .atom b] = ps := Option.some.inj hps
      have hb' : bodyItems? (b.adapted ++ rest.flatMap ClassAtom.adapted) = some (b.items ++ others.flatMap Piece.items) := by
        rcases hafter with rfl | hafter
        · show bodyItems? ('0' :: '-' :: '9' :: rest.flatMap ClassAtom.adapted) = _
          rw [bodyItems?_range (by decide), ih]
          rfl
        · rw [b.bodyItems?_adapted hafter.adapted, ih]
          rfl
      show bodyItems? ('0' :: '-' :: '9' :: '-' :: (b :: rest).flatMap ClassAtom.adapted) = _
      rw [bodyItems?_range (by decide), bodyItems?_code hb.adapted, List.flatMap_cons, hb']
      simp [Piece.items, ClassAtom.items, Member.items]
  | case3 a rest hno ih =>
    obtain ⟨others, hothers, rfl⟩ := Option.map_eq_some_iff.1 h
    have hrest : Apart rest := by
      rw [Apart] at hapart
      · exact hapart
      · exact hno
    rw [List.flatMap_cons, a.bodyItems?_adapted (NotJoined.adapted hno), ih hrest hothers]
    rfl

/-! ## Reading a class -/

theorem ClassAtom.adapted_chars (a : ClassAtom) : BodyChars a.adapted := by
  cases a with
  | hyphen => simp [BodyChars, adapted]
  | literal c h => exact (Member.char c h).adapted_chars
  | digit => exact Member.digit.adapted_chars
  | word => exact Member.word.adapted_chars

theorem ClassAtom.text_starts (a : ClassAtom) : ∃ c r, a.text = c :: r ∧ c ≠ ']' ∧ c ≠ '^' := by
  cases a with
  | hyphen => exact ⟨'-', [], rfl, by decide, by decide⟩
  | literal c h => exact (Member.char c h).text_starts
  | digit => exact Member.digit.text_starts
  | word => exact Member.word.text_starts

section Class

variable (inside : Bool) {atoms : List ClassAtom} (hne : atoms ≠ [])
include hne

theorem adaptFrom_classText (r : List Char) :
    adaptFrom false (classText inside atoms ++ r) =
      bracketed inside (atoms.flatMap ClassAtom.adapted) ++ adaptFrom false r := by
  obtain ⟨a, rest, rfl⟩ := List.exists_cons_of_ne_nil hne
  obtain ⟨c, t, ht, hclose, hcaret⟩ := a.text_starts
  exact adaptFrom_bracketed inside (by simpa [ht] using hclose) (by simpa [ht] using hcaret) (by simp [ht])
    (adaptFrom_flatMap ClassAtom.adaptFrom_text (a :: rest)) r

theorem reads_classText [CharacterNames] (hapart : Apart atoms) {pieces : List Piece}
    (h : pieces? atoms = some pieces) :
    Reads Complete (bracketed inside (atoms.flatMap ClassAtom.adapted))
      (Says fun text => Takes text fun c => pieces.any (Piece.holds c) == inside) := by
  have hstart : ∃ c t, atoms.flatMap ClassAtom.adapted = c :: t ∧ c ≠ '^' := by
    obtain ⟨a, rest, rfl⟩ := List.exists_cons_of_ne_nil hne
    by_cases ha : a = .hyphen
    · subst ha
      exact ⟨'-', _, rfl, by decide⟩
    · obtain ⟨c, t, hc, hinert⟩ := ClassAtom.adapted_starts ha
      exact ⟨c, _, by rw [List.flatMap_cons, hc]; rfl, hinert.caret⟩
  obtain ⟨c, t, hc, hcaret⟩ := hstart
  have hread := reads_bracketed inside (bodyChars_flatMap ClassAtom.adapted_chars atoms) (by simp [hc])
    (by simpa [hc] using hcaret) (bodyItems?_atoms hapart h)
  exact (hread.mono fun ns hns => ⟨_, hns, stands_classNode (any_pieces pieces) inside⟩).once

/-- A class whose hyphens stand apart can be read, and it matches a character exactly if that is in the class. -/
theorem compile_classText [CharacterNames] (hapart : Apart atoms) {pieces : List Piece}
    (h : pieces? atoms = some pieces) :
    (∃ e, compile (String.ofList (classText inside atoms)) = .ok e) ∧
      ∀ c, matchesIn (String.ofList ('^' :: (classText inside atoms ++ ['$']))) (String.ofList [c]) =
        .ok (pieces.any (Piece.holds c) == inside) := by
  have hreads := reads_classText inside hne hapart h
  have hcomplete : ∀ r, Complete r → Complete (bracketed inside (atoms.flatMap ClassAtom.adapted) ++ r) := fun r hr =>
    complete_bracketed inside (bodyChars_flatMap ClassAtom.adapted_chars atoms) hr.paired
  have hend : Complete endOfText := by simpa using complete_endOfText .nil
  constructor
  · obtain ⟨e, he, -⟩ := hreads.one.read (by simpa using (hcomplete [] (complete_of_ends .nil .nil)).paired)
    refine ⟨e, ?_⟩
    have hadapt := adaptFrom_classText inside hne []
    rw [List.append_nil, adaptFrom, List.append_nil] at hadapt
    rw [compile, adapt, String.toList_ofList, String.toList_ofList, hadapt, he]
  · intro c
    have hline := reads_lineStart.then (hreads.then reads_endOfText fun r hr => complete_endOfText hr.paired) fun r hr => by
      rw [List.append_assoc]
      exact hcomplete _ (complete_endOfText hr.paired)
    obtain ⟨e, he, hmatch⟩ := hline.one.read
      (.char (by decide) (hcomplete endOfText hend).paired)
    have hadapt : adaptFrom false ('^' :: (classText inside atoms ++ ['$'])) =
        ['^'] ++ (bracketed inside (atoms.flatMap ClassAtom.adapted) ++ endOfText) := by
      rw [adaptFrom_char (by decide), adaptFrom_classText inside hne]
      rfl
    have hcompile : compile (String.ofList ('^' :: (classText inside atoms ++ ['$']))) = .ok e := by
      rw [compile, adapt, String.toList_ofList, String.toList_ofList, hadapt, he]
    rw [matchesIn_of_compile hcompile]
    refine congrArg Except.ok (Bool.eq_iff_iff.2 ?_)
    rw [hmatch, String.toList_ofList]
    constructor
    · rintro ⟨i, j, -, -, k, ⟨rfl, rfl⟩, l, ⟨rfl, d, hd, htest⟩, -⟩
      obtain rfl : c = d := Option.some.inj hd
      exact htest
    · intro htest
      exact ⟨0, 1, Nat.zero_le 1, by simp, 0, ⟨rfl, rfl⟩, 1, ⟨rfl, c, rfl, htest⟩, rfl, rfl⟩

end Class

section

attribute [local instance] CharacterNames.ascii

/-- Digits, a hyphen and a dot. -/
theorem compile_classText_of_digits_and_dot :
    let atoms : List ClassAtom := [.digit, .hyphen, .literal '.' (by simp)]
    let pieces : List Piece := [.atom .digit, .atom .hyphen, .atom (.literal '.' (by simp))]
    (atoms ≠ [] ∧ Apart atoms ∧ pieces? atoms = some pieces) ∧
      (∃ e, compile (String.ofList (classText true atoms)) = .ok e) ∧
        ∀ c, matchesIn (String.ofList ('^' :: (classText true atoms ++ ['$']))) (String.ofList [c]) =
          .ok (pieces.any (Piece.holds c) == true) := by
  intro atoms pieces
  have hne : atoms ≠ [] := List.cons_ne_nil _ _
  have hapart : Apart atoms := ⟨.inr ⟨rfl, by simp [NotJoined], .inr (by simp [NotJoined])⟩, trivial⟩
  have hpieces : pieces? atoms = some pieces := rfl
  exact ⟨⟨hne, hapart, hpieces⟩, compile_classText true hne hapart hpieces⟩

/-- After words a hyphen does not stand apart: the reader sees a range from `_` on, which is out of order here. -/
theorem compile_classText_of_words_and_dot :
    let atoms : List ClassAtom := [.word, .hyphen, .literal '.' (by simp)]
    pieces? atoms = some [.atom .word, .atom .hyphen, .atom (.literal '.' (by simp))] ∧
      ¬∃ e, compile (String.ofList (classText true atoms)) = .ok e := by
  refine ⟨rfl, ?_⟩
  rintro ⟨e, he⟩
  have hrefused : (compile "[\\w-.]").isOk = false := by decide +kernel
  have hok : (compile "[\\w-.]").isOk = true := by
    rw [show "[\\w-.]" = String.ofList (classText true [.word, .hyphen, .literal '.' (by simp)]) from rfl, he]
    rfl
  rw [hrefused] at hok
  cases hok

end

end WebForm.Pattern.Authored
