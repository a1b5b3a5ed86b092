/-
Patterns that are runs of characters from the start of a text to its end. Each run takes a number of characters that
all pass its test, and it may take fewer of them than it could to leave some to the next one. Such a pattern matches
somewhere in a text exactly if the text can be cut into pieces, one for each run, whichever piece is tried first.
-/
import WebForm.Proofs.Pattern.Meaning

namespace WebForm.Pattern

/-! ## Runs -/

/-- Characters that pass a test, and between how many of them there may be. -/
structure Run where
  test : Char → Bool
  least : Nat
  most : Option Nat

namespace Run

/-- One character that passes a test. -/
def one (test : Char → Bool) : Run := ⟨test, 1, some 1⟩

/-- The stretches of a text that a run takes, by the positions of their ends. -/
def Spans (r : Run) (text : Array Char) : Nat → Nat → Prop := Repeats (Takes text r.test) r.least r.most

/-- Whether characters may be those of a run. -/
structure Holds (r : Run) (piece : List Char) : Prop where
  least : r.least ≤ piece.length
  most : r.most.all (piece.length ≤ ·) = true
  test : ∀ c ∈ piece, r.test c = true

end Run

/-- Runs one after another take a text from a position to its end. -/
def SpanToEnd (text : Array Char) : List Run → Nat → Prop
  | [], i => i = text.size
  | r :: rest, i => ∃ k, r.Spans text i k ∧ SpanToEnd text rest k

/-- A text can be cut into pieces, one for each run. -/
def CutInto : List Run → List Char → Prop
  | [], s => s = []
  | r :: rest, s => ∃ piece left, s = piece ++ left ∧ r.Holds piece ∧ CutInto rest left

theorem cutInto_singleton {r : Run} {s : List Char} : CutInto [r] s ↔ r.Holds s := by
  simp [CutInto]

variable {text : Array Char} {test : Char → Bool} {i j n : Nat}

theorem allPass_iff : AllPass text test i n ↔
    ∃ piece left, text.toList.drop i = piece ++ left ∧ piece.length = n ∧ ∀ c ∈ piece, test c = true := by
  induction n generalizing i with
  | zero => exact iff_of_true (fun k hk => by omega) ⟨[], _, rfl, rfl, List.forall_mem_nil _⟩
  | succ n ih =>
    rw [AllPass.succ_iff, ih]
    constructor
    · rintro ⟨⟨c, hc, htest⟩, piece, left, hdrop, rfl, hpiece⟩
      refine ⟨c :: piece, left, ?_, rfl, List.forall_mem_cons.2 ⟨htest, hpiece⟩⟩
      obtain ⟨hi, rfl⟩ := Array.getElem?_eq_some_iff.1 hc
      rw [List.cons_append, ← hdrop, List.drop_eq_getElem_cons (by simpa using hi), Array.getElem_toList]
    · rintro ⟨_ | ⟨c, piece⟩, left, hdrop, hlength, hpiece⟩
      · cases hlength
      · obtain ⟨htest, hpiece⟩ := List.forall_mem_cons.1 hpiece
        have hc : text[i]? = some c := by
          rw [← Array.getElem?_toList, ← List.head?_drop, hdrop]
          rfl
        refine ⟨⟨c, hc, htest⟩, piece, left, ?_, Nat.succ.inj hlength, hpiece⟩
        rw [← List.tail_drop, hdrop]
        rfl

theorem Run.spans_iff {r : Run} : r.Spans text i j ↔
    ∃ piece left, text.toList.drop i = piece ++ left ∧ j = i + piece.length ∧ r.Holds piece := by
  rw [Spans, repeats_takes_iff]
  simp only [allPass_iff]
  constructor
  · rintro ⟨extra, hmost, rfl, piece, left, hdrop, hlength, hpiece⟩
    exact ⟨piece, left, hdrop, by rw [hlength], by omega, hlength ▸ hmost, hpiece⟩
  · rintro ⟨piece, left, hdrop, rfl, hleast, hmost, hpiece⟩
    obtain ⟨extra, hextra⟩ := Nat.exists_eq_add_of_le hleast
    exact ⟨extra, hextra ▸ hmost, by rw [hextra], piece, left, hdrop, hextra, hpiece⟩

theorem Run.spans_one : (Run.one test).Spans text i j ↔ Takes text test i j := by
  show Repeats _ 1 (some 1) i j ↔ _
  rw [repeats_takes_iff]
  constructor
  · rintro ⟨extra, hmost, rfl, hpass⟩
    obtain rfl : extra = 0 := by simpa using hmost
    exact ⟨rfl, (AllPass.succ_iff.1 hpass).1⟩
  · rintro ⟨rfl, hc⟩
    exact ⟨0, rfl, rfl, AllPass.succ_iff.2 ⟨hc, fun k hk => absurd hk (Nat.not_lt_zero k)⟩⟩

/-- What runs take from a position on is a matter of the characters that are left. -/
theorem spanToEnd_iff {runs : List Run} (hi : i ≤ text.size) :
    SpanToEnd text runs i ↔ CutInto runs (text.toList.drop i) := by
  induction runs generalizing i with
  | nil =>
    rw [SpanToEnd, CutInto, List.drop_eq_nil_iff, Array.length_toList]
    omega
  | cons r rest ih =>
    have hstep : ∀ {piece left : List Char}, text.toList.drop i = piece ++ left →
        (SpanToEnd text rest (i + piece.length) ↔ CutInto rest left) := by
      intro piece left hdrop
      have hlength : text.size - i = piece.length + left.length := by
        rw [← Array.length_toList, ← List.length_drop, hdrop, List.length_append]
      rw [ih (by omega), ← List.drop_drop, hdrop, List.drop_left]
    simp only [SpanToEnd, CutInto, Run.spans_iff]
    constructor
    · rintro ⟨_, ⟨piece, left, hdrop, rfl, hpiece⟩, hrest⟩
      exact ⟨piece, left, hdrop, hpiece, (hstep hdrop).1 hrest⟩
    · rintro ⟨piece, left, hdrop, hpiece, hrest⟩
      exact ⟨_, ⟨piece, left, hdrop, rfl, hpiece⟩, (hstep hdrop).2 hrest⟩

theorem spanToEnd_zero_iff {runs : List Run} {s : String} :
    SpanToEnd s.toList.toArray runs 0 ↔ CutInto runs s.toList := spanToEnd_iff (Nat.zero_le _)

/-! ## Patterns of runs -/

namespace Node

/-- A node that takes what a run takes. -/
def IsRun (n : Node) (r : Run) : Prop := n.Plain ∧ ∀ text i j, n.Spans text i j ↔ r.Spans text i j

theorem isRun_char (c : Char) : (char c.toNat true).IsRun (.one (· == c)) :=
  ⟨trivial, fun text i j => ((Authored.stands_char c).spans text i j).trans Run.spans_one.symm⟩

theorem isRun_rep_set {items : List Item} {inside : Bool} {test : Char → Bool}
    (h : ∀ c, (itemsHold standard items c == inside) = test c) {least : Nat} {most : Option Nat}
    (hmost : most.all (least ≤ ·) = true) : (rep .greedy least most (set items inside)).IsRun ⟨test, least, most⟩ := by
  obtain rfl : (fun c => itemsHold standard items c == inside) = test := funext h
  exact ⟨⟨rfl, hmost, trivial⟩, fun text i j => Iff.rfl⟩

end Node

/-- The end of a text in the reader's words. -/
def endNodes : List Node := [.lookahead (.char 10 true) false, .anchor .lineEnd]

theorem spansAll_runs {nodes : List Node} {runs : List Run} (h : List.Forall₂ Node.IsRun nodes runs)
    (text : Array Char) (i j : Nat) :
    SpansAll text (nodes ++ endNodes) i j ↔ j = text.size ∧ SpanToEnd text runs i := by
  induction h generalizing i with
  | nil =>
    rw [List.nil_append, SpanToEnd, endNodes, Authored.says_endOfText.spans text]
    omega
  | cons hn _ ih => simp only [List.cons_append, SpansAll, SpanToEnd, ih, hn.2, and_left_comm, exists_and_left]

/-- Nodes of runs between the start and the end of a text match in the texts that can be cut into their pieces. -/
theorem matchesIn_runs {nodes : List Node} {runs : List Run} (h : List.Forall₂ Node.IsRun nodes runs) (s : String) :
    Expression.matchesIn ⟨.ofList (.anchor .lineStart :: (nodes ++ endNodes)), standard⟩ s = true ↔
      CutInto runs s.toList := by
  obtain ⟨hplain, -⟩ := (List.forall₂_and_left nodes runs).1 h
  have hplain : AllPlain (.anchor .lineStart :: (nodes ++ endNodes)) :=
    allPlain_cons.2 ⟨trivial, allPlain_append.2 ⟨hplain, Authored.says_endOfText.plain⟩⟩
  have hstart : ∀ text i, Anchor.lineStart.holds standard text i = true ↔ i = 0 := by
    simp [Anchor.holds, Mode.ofFlags]
  rw [Expression.matchesIn, Node.search_iff (Node.plain_ofList hplain), ← spanToEnd_zero_iff]
  simp only [Node.spans_ofList, SpansAll, Node.Spans, hstart, spansAll_runs h]
  constructor
  · rintro ⟨_, _, -, _, ⟨rfl, rfl⟩, rfl, hruns⟩
    exact hruns
  · intro hruns
    exact ⟨0, _, Nat.zero_le _, 0, ⟨rfl, rfl⟩, rfl, hruns⟩

namespace Authored

/-- A term that takes what a run takes. -/
def Term.IsRun (t : Term) (r : Run) : Prop := ∀ text i j, t.Matches text i j ↔ r.Spans text i j

theorem isRun_once (u : Single) : (Term.once (.single u)).IsRun (.one u.holds) := fun _ _ _ => Run.spans_one.symm

theorem isRun_many (u : Single) (q : Quantifier) : (Term.many (.single u) q).IsRun ⟨u.holds, q.least, q.most?⟩ :=
  fun _ _ _ => Iff.rfl

/-- Terms one after another up to the end of the text. -/
def Alternative.toEnd : List Term → Alternative
  | [] => .cons .finish .empty
  | t :: rest => .cons t (toEnd rest)

theorem matches_toEnd {terms : List Term} {runs : List Run} (h : List.Forall₂ Term.IsRun terms runs)
    (text : Array Char) (i j : Nat) :
    (Alternative.toEnd terms).Matches text i j ↔ j = text.size ∧ SpanToEnd text runs i := by
  induction h generalizing i with
  | nil =>
    simp only [Alternative.toEnd, Alternative.Matches, Term.Matches, SpanToEnd]
    constructor
    · rintro ⟨_, ⟨rfl, hi⟩, rfl⟩
      exact ⟨hi, hi⟩
    · rintro ⟨rfl, rfl⟩
      exact ⟨_, ⟨rfl, rfl⟩, rfl⟩
  | cons ht _ ih =>
    simp only [Alternative.toEnd, Alternative.Matches, SpanToEnd, ih, ht text, and_left_comm, exists_and_left]

/-- The tree of runs between the start and the end of a text. -/
def Disjunction.whole (terms : List Term) : Disjunction := .one (.cons .start (.toEnd terms))

theorem Disjunction.matchesIn_whole {terms : List Term} {runs : List Run} (h : List.Forall₂ Term.IsRun terms runs)
    (s : String) : (whole terms).MatchesIn s ↔ CutInto runs s.toList := by
  have hsize : s.toList.toArray.size = s.length := by rw [List.size_toArray, String.length_toList]
  rw [MatchesIn, ← spanToEnd_zero_iff]
  simp only [whole, Disjunction.Matches, Alternative.Matches, Term.Matches, matches_toEnd h]
  constructor
  · rintro ⟨_, _, -, -, _, ⟨rfl, rfl⟩, rfl, hruns⟩
    exact hruns
  · intro hruns
    exact ⟨0, _, Nat.zero_le _, hsize.le, 0, ⟨rfl, rfl⟩, rfl, hruns⟩

end Authored

end WebForm.Pattern
