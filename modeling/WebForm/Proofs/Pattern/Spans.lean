/-
What a node matches, as a relation between positions of a text, and the search for it: the attempts of
`Node.run` succeed exactly where the relation leads to a position at which what follows succeeds. The
order of preference, the repetitions that stop after an empty round and the looks at the next character
change which match is found first, but not whether there is one.

The nodes are the plain ones: no references, no look-behind, no options inside the pattern, and greedy
repetitions only.
-/
import Mathlib.Data.List.Basic
import WebForm.Pattern.Match

namespace WebForm.Pattern

/-! ## Rounds -/

/-- `n` rounds of a step lead from one position to another. -/
def Rounds (R : Nat → Nat → Prop) : Nat → Nat → Nat → Prop
  | 0, i, j => i = j
  | n + 1, i, j => ∃ k, R i k ∧ Rounds R n k j

/-- The step, unless it stays where it is. -/
def Proper (R : Nat → Nat → Prop) (i j : Nat) : Prop := R i j ∧ i ≠ j

/-- A repetition: the least number of rounds, then more as long as the greatest number allows, each of
which takes something. -/
def Repeats (R : Nat → Nat → Prop) (least : Nat) (most : Option Nat) (i j : Nat) : Prop :=
  ∃ k extra, Rounds R least i k ∧ most.all (least + extra ≤ ·) = true ∧ Rounds (Proper R) extra k j

theorem Rounds.congr {R S : Nat → Nat → Prop} (h : ∀ i j, R i j ↔ S i j) (n i j : Nat) :
    Rounds R n i j ↔ Rounds S n i j := by
  have : R = S := funext fun i => funext fun j => propext (h i j)
  rw [this]

theorem Repeats.congr {R S : Nat → Nat → Prop} (h : ∀ i j, R i j ↔ S i j) (least : Nat) (most : Option Nat)
    (i j : Nat) : Repeats R least most i j ↔ Repeats S least most i j := by
  have : R = S := funext fun i => funext fun j => propext (h i j)
  rw [this]

/-- A step that never leads back or out of the text. -/
def Forward (size : Nat) (R : Nat → Nat → Prop) : Prop := ∀ i j, i ≤ size → R i j → i ≤ j ∧ j ≤ size

theorem Forward.proper {size : Nat} {R : Nat → Nat → Prop} (h : Forward size R) : Forward size (Proper R) :=
  fun i j hi hr => h i j hi hr.1

theorem Forward.rounds {size : Nat} {R : Nat → Nat → Prop} (h : Forward size R) (n : Nat) :
    Forward size (Rounds R n) := by
  induction n with
  | zero =>
    rintro i j hi rfl
    exact ⟨Nat.le_refl _, hi⟩
  | succ n ih =>
    rintro i j hi ⟨k, hik, hkj⟩
    obtain ⟨h1, h2⟩ := h i k hi hik
    obtain ⟨h3, h4⟩ := ih k j h2 hkj
    exact ⟨Nat.le_trans h1 h3, h4⟩

theorem Forward.repeats {size : Nat} {R : Nat → Nat → Prop} (h : Forward size R) (least : Nat) (most : Option Nat) :
    Forward size (Repeats R least most) := by
  rintro i j hi ⟨k, extra, hik, -, hkj⟩
  obtain ⟨h1, h2⟩ := h.rounds least i k hi hik
  obtain ⟨h3, h4⟩ := h.proper.rounds extra k j h2 hkj
  exact ⟨Nat.le_trans h1 h3, h4⟩

/-! ## Nodes -/

/-- The options of a pattern that sets none. -/
abbrev standard : Mode := .ofFlags []

/-- One character that passes a test. -/
def Takes (text : Array Char) (test : Char → Bool) (i j : Nat) : Prop :=
  j = i + 1 ∧ ∃ c, text[i]? = some c ∧ test c = true

/-- A node of a pattern without references, look-behind and options, whose repetitions are greedy. -/
def Node.Plain : Node → Prop
  | .empty | .char _ _ | .any | .set _ _ | .anchor _ => True
  | .seq a b | .alt a b => a.Plain ∧ b.Plain
  | .group _ b | .lookahead b _ => b.Plain
  | .withFlags on off b => on = [] ∧ off = [] ∧ b.Plain
  | .rep greed least most b => greed = .greedy ∧ most.all (least ≤ ·) = true ∧ b.Plain
  | .atomic _ | .backref _ _ | .cond _ _ _ | .lookbehind _ _ => False

/-- The stretches of a text that a plain node matches, by the positions of their ends. -/
def Node.Spans (text : Array Char) : Node → Nat → Nat → Prop
  | .empty, i, j => i = j
  | .char code inside, i, j => Takes text (fun c => charHolds standard code c == inside) i j
  | .any, i, j => Takes text (fun c => standard.dotAll || c != '\n') i j
  | .set items inside, i, j => Takes text (fun c => itemsHold standard items c == inside) i j
  | .anchor a, i, j => i = j ∧ a.holds standard text i = true
  | .seq a b, i, j => ∃ k, a.Spans text i k ∧ b.Spans text k j
  | .alt a b, i, j => a.Spans text i j ∨ b.Spans text i j
  | .group _ b, i, j | .withFlags _ _ b, i, j => b.Spans text i j
  | .rep _ least most b, i, j => Repeats (b.Spans text) least most i j
  | .lookahead b wanted, i, j => i = j ∧ ((∃ k, b.Spans text i k) ↔ wanted = true)
  | .atomic _, _, _ | .backref _ _, _, _ | .cond _ _ _, _, _ | .lookbehind _ _, _, _ => False

theorem Takes.forward (text : Array Char) (test : Char → Bool) : Forward text.size (Takes text test) := by
  rintro i j - ⟨rfl, c, hc, -⟩
  have := (Array.getElem?_eq_some_iff.1 hc).1
  omega

theorem Node.spans_forward (text : Array Char) (n : Node) : Forward text.size (n.Spans text) := by
  induction n with
  | empty =>
    rintro i j hi rfl
    exact ⟨Nat.le_refl _, hi⟩
  | char | any | set => exact Takes.forward text _
  | anchor | lookahead =>
    rintro i j hi ⟨rfl, -⟩
    exact ⟨Nat.le_refl _, hi⟩
  | seq a b iha ihb =>
    rintro i j hi ⟨k, hik, hkj⟩
    obtain ⟨h1, h2⟩ := iha i k hi hik
    obtain ⟨h3, h4⟩ := ihb k j h2 hkj
    exact ⟨Nat.le_trans h1 h3, h4⟩
  | alt a b iha ihb =>
    rintro i j hi (h | h)
    · exact iha i j hi h
    · exact ihb i j hi h
  | group _ b ih => exact ih
  | withFlags _ _ b ih => exact ih
  | rep _ least most b ih => exact ih.repeats least most
  | atomic | backref | cond | lookbehind => exact fun _ _ _ h => h.elim

/-! ## The next character -/

/-- Whether a head leaves a chance to what starts at a position. -/
def Head.Allows (text : Array Char) (h : Head) (i : Nat) : Prop :=
  h.admits standard text[i]? = true ∧ h.excludes text[i]? = false

theorem Head.allows_other (text : Array Char) (i : Nat) : Head.other.Allows text i := by
  unfold Head.Allows
  cases text[i]? <;> exact ⟨rfl, rfl⟩

/-- Where a node matches and what follows can go on, the head of the node leaves a chance. -/
theorem Node.head_allows {text : Array Char} {n : Node} (hn : n.Plain) {after : Head} {p : Nat → Prop}
    (hafter : ∀ j, p j → after.Allows text j) {i j : Nat} (hs : n.Spans text i j) (hp : p j) :
    (n.head standard after).Allows text i := by
  induction n generalizing after p i j with
  | empty =>
    obtain rfl : i = j := hs
    exact hafter i hp
  | char code inside =>
    obtain ⟨-, c, hc, htest⟩ := hs
    cases inside with
    | false => exact Head.allows_other text i
    | true =>
      have hcode : (c.toNat == code) = true := by simpa [charHolds, Mode.ofFlags] using htest
      refine ⟨?_, ?_⟩
      · show Head.admits standard (.char code) text[i]? = true
        rw [hc]
        exact hcode
      · show Head.excludes (.char code) text[i]? = false
        rw [hc]
        simpa [Head.excludes] using hcode
  | set items inside =>
    obtain ⟨-, c, hc, htest⟩ := hs
    refine ⟨?_, ?_⟩
    · show Head.admits standard (.set items inside) text[i]? = true
      rw [hc]
      exact htest
    · show Head.excludes (.set items inside) text[i]? = false
      rw [hc]
      rfl
  | seq a b iha ihb =>
    obtain ⟨k, hik, hkj⟩ := hs
    exact iha hn.1 (p := fun k => ∃ j, b.Spans text k j ∧ p j)
      (fun k ⟨j, hkj, hp⟩ => ihb hn.2 hafter hkj hp) hik ⟨j, hkj, hp⟩
  | withFlags on off b ih =>
    obtain ⟨rfl, rfl, hb⟩ := hn
    exact ih hb hafter hs hp
  | any | anchor | alt | group | rep | lookahead => exact Head.allows_other text i
  | atomic | backref | cond | lookbehind => exact hn.elim

/-- A node of one character matches what passes its test. -/
theorem Node.spans_of_unit? {text : Array Char} {n : Node} (hn : n.Plain) {test : Char → Bool}
    (h : n.unit? standard = some test) (i j : Nat) : n.Spans text i j ↔ Takes text test i j := by
  induction n with
  | char | any | set =>
    obtain rfl := Option.some.inj h
    exact Iff.rfl
  | withFlags on off b ih =>
    obtain ⟨rfl, rfl, hb⟩ := hn
    exact ih hb h
  | _ => cases h

/-! ## Attempts -/

/-- From a position on, what follows succeeds exactly at the positions of a set. -/
def Continuation.SucceedsAt (next : Continuation) (start size : Nat) (p : Nat → Prop) : Prop :=
  ∀ m noted, start ≤ m.position → m.position ≤ size → ((next m noted).isFound = true ↔ p m.position)

theorem Continuation.SucceedsAt.mono {next : Continuation} {start start' size : Nat} {p : Nat → Prop}
    (h : next.SucceedsAt start size p) (hle : start ≤ start') : next.SucceedsAt start' size p :=
  fun m noted hm => h m noted (Nat.le_trans hle hm)

/-- An attempt at a step succeeds exactly if the step leads to a position at which what follows succeeds. -/
def Attempts (size : Nat) (R : Nat → Nat → Prop) (attempt : Match → Nat → Continuation → Outcome) : Prop :=
  ∀ m noted (next : Continuation) (p : Nat → Prop), m.position ≤ size → next.SucceedsAt m.position size p →
    ((attempt m noted next).isFound = true ↔ ∃ j, R m.position j ∧ p j)

@[simp] theorem isFound_found (m : Match) : (Outcome.found m).isFound = true := rfl

@[simp] theorem isFound_stuck (noted : Nat) : (Outcome.stuck noted).isFound = false := rfl

theorem attempts_takeChar (text : Array Char) (test : Char → Bool) :
    Attempts text.size (Takes text test) (takeChar text test) := by
  intro m noted next p hm hnext
  unfold takeChar
  cases hc : text[m.position]? with
  | none =>
    refine ⟨nofun, ?_⟩
    rintro ⟨j, ⟨-, c, hc', -⟩, -⟩
    rw [hc] at hc'
    cases hc'
  | some c =>
    have hlt : m.position < text.size := (Array.getElem?_eq_some_iff.1 hc).1
    have hstep : (next m.step noted).isFound = true ↔ p (m.position + 1) := hnext m.step noted (Nat.le_succ _) hlt
    by_cases ht : test c = true
    · simp only [ht, if_true, hstep]
      constructor
      · intro hp
        exact ⟨_, ⟨rfl, c, hc, ht⟩, hp⟩
      · rintro ⟨j, ⟨rfl, -⟩, hp⟩
        exact hp
    · simp only [ht, Bool.false_eq_true, if_false]
      refine ⟨nofun, ?_⟩
      rintro ⟨j, ⟨-, c', hc', ht'⟩, -⟩
      rw [hc, Option.some.injEq] at hc'
      exact absurd (hc' ▸ ht') ht

/-! ## Repeating one character -/

/-- That many characters from a position on pass a test. -/
def AllPass (text : Array Char) (test : Char → Bool) (i n : Nat) : Prop :=
  ∀ k < n, ∃ c, text[i + k]? = some c ∧ test c = true

theorem AllPass.succ_iff {text : Array Char} {test : Char → Bool} {i n : Nat} :
    AllPass text test i (n + 1) ↔ (∃ c, text[i]? = some c ∧ test c = true) ∧ AllPass text test (i + 1) n := by
  constructor
  · intro h
    refine ⟨by simpa using h 0 (by omega), fun k hk => ?_⟩
    have := h (k + 1) (by omega)
    rwa [← Nat.add_assoc, Nat.add_right_comm] at this
  · rintro ⟨h0, h⟩ k hk
    cases k with
    | zero => simpa using h0
    | succ k =>
      have := h k (by omega)
      rwa [Nat.add_right_comm, Nat.add_assoc] at this

theorem AllPass.le_size {text : Array Char} {test : Char → Bool} {i n : Nat} (h : AllPass text test i n)
    (hi : i ≤ text.size) : i + n ≤ text.size := by
  cases n with
  | zero => exact hi
  | succ n =>
    obtain ⟨c, hc, -⟩ := h n (by omega)
    have := (Array.getElem?_eq_some_iff.1 hc).1
    omega

theorem le_runLength_iff {text : Array Char} {test : Char → Bool} {limit i n : Nat} :
    n ≤ runLength text test limit i ↔ n ≤ limit ∧ AllPass text test i n := by
  induction limit generalizing i n with
  | zero =>
    rw [runLength]
    constructor
    · intro h
      exact ⟨h, fun k hk => by omega⟩
    · exact And.left
  | succ limit ih =>
    cases n with
    | zero => exact ⟨fun _ => ⟨Nat.zero_le _, fun k hk => by omega⟩, fun _ => Nat.zero_le _⟩
    | succ n =>
      rw [AllPass.succ_iff, runLength]
      cases hc : text[i]? with
      | none => simp
      | some c =>
        by_cases ht : test c = true
        · simp only [ht, if_true, Option.some.injEq, exists_eq_left', true_and]
          rw [Nat.add_comm 1, Nat.add_le_add_iff_right, Nat.add_le_add_iff_right, ih]
        · simp [ht]

theorem rounds_takes_iff {text : Array Char} {test : Char → Bool} {n i j : Nat} :
    Rounds (Takes text test) n i j ↔ j = i + n ∧ AllPass text test i n := by
  induction n generalizing i with
  | zero =>
    constructor
    · rintro rfl
      exact ⟨rfl, fun k hk => by omega⟩
    · rintro ⟨rfl, -⟩
      rfl
  | succ n ih =>
    rw [AllPass.succ_iff, Rounds]
    constructor
    · rintro ⟨k, ⟨rfl, hc⟩, hr⟩
      obtain ⟨rfl, h⟩ := ih.1 hr
      exact ⟨by omega, hc, h⟩
    · rintro ⟨rfl, hc, h⟩
      exact ⟨i + 1, ⟨rfl, hc⟩, ih.2 ⟨by omega, h⟩⟩

theorem repeats_takes_iff {text : Array Char} {test : Char → Bool} {least : Nat} {most : Option Nat} {i j : Nat} :
    Repeats (Takes text test) least most i j ↔
      ∃ extra, most.all (least + extra ≤ ·) = true ∧ j = i + (least + extra) ∧ AllPass text test i (least + extra) := by
  have hproper : Proper (Takes text test) = Takes text test := by
    funext i j
    refine propext ⟨And.left, fun h => ⟨h, ?_⟩⟩
    have := h.1
    omega
  unfold Repeats
  rw [hproper]
  simp only [rounds_takes_iff]
  constructor
  · rintro ⟨_, extra, ⟨rfl, h⟩, hmost, rfl, h'⟩
    refine ⟨extra, hmost, by omega, fun k hk => ?_⟩
    by_cases hlt : k < least
    · exact h k hlt
    · have := h' (k - least) (by omega)
      rwa [show i + least + (k - least) = i + k by omega] at this
  · rintro ⟨extra, hmost, rfl, h⟩
    refine ⟨_, extra, ⟨rfl, fun k hk => h k (by omega)⟩, hmost, by omega, fun k hk => ?_⟩
    have := h (least + k) (by omega)
    rwa [← Nat.add_assoc] at this

/-- What is tried after some characters: nothing if the next character excludes what follows. -/
def goOn (text : Array Char) (after : Head) (m : Match) (next : Continuation) (count noted : Nat) : Outcome :=
  if after.excludes text[(m.advance count).position]? then .stuck noted
  else next (m.advance count) (m.advance count).position

/-- The look at the next character passes over no position at which what follows succeeds. -/
theorem isFound_goOn {text : Array Char} {after : Head} {next : Continuation} {p : Nat → Prop} {m : Match}
    (hnext : next.SucceedsAt m.position text.size p) (hafter : ∀ j, p j → after.Allows text j) {count : Nat} (noted : Nat)
    (hroom : m.position + count ≤ text.size) :
    (goOn text after m next count noted).isFound = true ↔ p (m.position + count) := by
  have hstep := hnext (m.advance count) (m.advance count).position (Nat.le_add_right _ _) hroom
  unfold goOn
  split
  · rename_i hex
    refine ⟨nofun, fun hp => ?_⟩
    have hno := (hafter _ hp).2
    rw [show (m.advance count).position = m.position + count from rfl, hno] at hex
    cases hex
  · exact hstep

theorem isFound_backOff_zero (text : Array Char) (after : Head) (least : Nat) (m : Match) (next : Continuation)
    (noted : Nat) : (backOff text after least m next 0 noted).isFound = (goOn text after m next least noted).isFound := by
  unfold backOff goOn
  by_cases hex : after.excludes text[(m.advance least).position]? = true
  · simp [hex]
  · cases hnext : next (m.advance least) (m.advance least).position <;> simp [hex, hnext]

theorem isFound_backOff_succ (text : Array Char) (after : Head) (least : Nat) (m : Match) (next : Continuation)
    (extra noted : Nat) :
    (backOff text after least m next (extra + 1) noted).isFound = true ↔
      (goOn text after m next (least + (extra + 1)) noted).isFound = true ∨
        ∃ noted', goOn text after m next (least + (extra + 1)) noted = .stuck noted' ∧
          (backOff text after least m next extra noted').isFound = true := by
  conv_lhs => unfold backOff
  unfold goOn
  by_cases hex : after.excludes text[(m.advance (least + (extra + 1))).position]? = true
  · simp [hex]
  · cases hnext : next (m.advance (least + (extra + 1))) (m.advance (least + (extra + 1))).position <;> simp [hex, hnext]

/-- Backing off tries every number of characters from the longest run down to the least. -/
theorem isFound_backOff {text : Array Char} {after : Head} {next : Continuation} {p : Nat → Prop} {m : Match} {least : Nat}
    (hnext : next.SucceedsAt m.position text.size p) (hafter : ∀ j, p j → after.Allows text j) (extra noted : Nat)
    (hroom : m.position + (least + extra) ≤ text.size) :
    (backOff text after least m next extra noted).isFound = true ↔ ∃ k ≤ extra, p (m.position + (least + k)) := by
  induction extra generalizing noted with
  | zero =>
    rw [isFound_backOff_zero, isFound_goOn hnext hafter noted (by omega)]
    simp
  | succ extra ih =>
    have hhere := isFound_goOn hnext hafter noted hroom
    rw [isFound_backOff_succ]
    constructor
    · rintro (h | ⟨noted', -, h⟩)
      · exact ⟨extra + 1, Nat.le_refl _, hhere.1 h⟩
      · obtain ⟨k, hk, hp⟩ := (ih noted' (by omega)).1 h
        exact ⟨k, by omega, hp⟩
    · rintro ⟨k, hk, hp⟩
      by_cases hlast : k = extra + 1
      · exact .inl (hhere.2 (hlast ▸ hp))
      · cases hgo : goOn text after m next (least + (extra + 1)) noted with
        | found found => exact .inl rfl
        | stuck noted' => exact .inr ⟨noted', rfl, (ih noted' (by omega)).2 ⟨k, by omega, hp⟩⟩

theorem isFound_repeatUnit {text : Array Char} {test : Char → Bool} {least : Nat} {most : Option Nat} {after : Head}
    {next : Continuation} {p : Nat → Prop} {m : Match} (hm : m.position ≤ text.size)
    (hnext : next.SucceedsAt m.position text.size p) (hafter : ∀ j, p j → after.Allows text j) (noted : Nat) :
    (repeatUnit text test .greedy least most after m noted next).isFound = true ↔
      ∃ j, Repeats (Takes text test) least most m.position j ∧ p j := by
  simp only [repeats_takes_iff]
  -- for a limit that the greatest number and the room in the text agree on
  have hwithin : ∀ limit, (∀ n, AllPass text test m.position n → (n ≤ limit ↔ most.all (n ≤ ·) = true)) →
      ((if text.size - m.position < least then Outcome.stuck noted
        else if runLength text test limit m.position < least then .stuck m.position
        else backOff text after least m next (runLength text test limit m.position - least) m.position).isFound = true ↔
      ∃ j, (∃ extra, most.all (least + extra ≤ ·) = true ∧ j = m.position + (least + extra) ∧
        AllPass text test m.position (least + extra)) ∧ p j) := by
    intro limit hlimit
    split
    · refine ⟨nofun, ?_⟩
      rintro ⟨_, ⟨extra, -, rfl, h⟩, -⟩
      have := h.le_size hm
      omega
    split
    · refine ⟨nofun, ?_⟩
      rintro ⟨_, ⟨extra, hmost, rfl, h⟩, -⟩
      have := le_runLength_iff.2 ⟨(hlimit _ h).2 hmost, h⟩
      omega
    · have hrun : runLength text test limit m.position ≤ limit ∧
          AllPass text test m.position (runLength text test limit m.position) := le_runLength_iff.1 (Nat.le_refl _)
      have hend := hrun.2.le_size hm
      rw [isFound_backOff hnext hafter _ _ (by omega)]
      constructor
      · rintro ⟨k, hk, hp⟩
        have hle : least + k ≤ runLength text test limit m.position := by omega
        obtain ⟨hle, hpass⟩ := le_runLength_iff.1 hle
        exact ⟨_, ⟨k, (hlimit _ hpass).1 hle, rfl, hpass⟩, hp⟩
      · rintro ⟨_, ⟨k, hmost, rfl, hpass⟩, hp⟩
        have := le_runLength_iff.2 ⟨(hlimit _ hpass).2 hmost, hpass⟩
        exact ⟨k, by omega, hp⟩
  cases most with
  | none =>
    refine hwithin (text.size - m.position) fun n hn => ?_
    have := hn.le_size hm
    simp only [Option.all_none, iff_true]
    omega
  | some most =>
    refine hwithin (min most (text.size - m.position)) fun n hn => ?_
    have := hn.le_size hm
    simp only [Option.all_some, decide_eq_true_eq]
    omega

/-! ## Repeating -/

section Rounds

variable {size : Nat} {R : Nat → Nat → Prop} {body : Match → Nat → Continuation → Outcome} {least : Nat}
  {most : Option Nat} {count : Nat} {next : Continuation} {p : Nat → Prop}

theorem all_of_le {n k : Nat} (hle : n ≤ k) (h : most.all (count + k ≤ ·) = true) : most.all (count + n ≤ ·) = true := by
  cases most with
  | none => rfl
  | some most => exact decide_eq_true (Nat.le_trans (Nat.add_le_add_left hle count) (of_decide_eq_true h))

theorem isFound_greedyRounds (fuel count : Nat) (last : Option Nat) (m : Match) :
    (greedyRounds body least most next (fuel + 1) count last m).isFound = true ↔
      if count < least then
        (body m m.position fun m' _ => greedyRounds body least most next fuel (count + 1) last m').isFound = true
      else
        (most.all (count < ·) = true ∧ last ≠ some m.position ∧
          (body m m.position fun m' _ =>
            greedyRounds body least most next fuel (count + 1) (some m.position) m').isFound = true) ∨
        (next m m.position).isFound = true := by
  rw [greedyRounds]
  by_cases hc : count < least
  · simp only [hc, if_true]
    generalize (body m m.position fun m' _ => greedyRounds body least most next fuel (count + 1) last m') = o
    cases o <;> simp
  · simp only [hc, if_false]
    by_cases hmore : (most.all (count < ·) && last != some m.position) = true
    · simp only [hmore, if_true]
      obtain ⟨hmost, hlast⟩ := Bool.and_eq_true_iff.1 hmore
      have hlast : last ≠ some m.position := by simpa using hlast
      simp only [hmost, ne_eq, hlast, not_false_eq_true, true_and]
      generalize (body m m.position fun m' _ =>
        greedyRounds body least most next fuel (count + 1) (some m.position) m') = o
      cases o <;> cases next m m.position <;> simp
    · simp only [hmore, Bool.false_eq_true, if_false]
      have hno : ¬(most.all (count < ·) = true ∧ last ≠ some m.position) := by
        rintro ⟨h1, h2⟩
        exact hmore (by simp [h1, h2])
      cases next m m.position with
      | found => simp
      | stuck =>
        simp only [isFound_stuck, Bool.false_eq_true, false_iff, or_false]
        exact fun ⟨h1, h2, _⟩ => hno ⟨h1, h2⟩

/-- Beyond the least number of rounds: proper rounds, as many as there can be. Where the last round began no
round begins again, so that an empty round ends the repetition. -/
theorem isFound_extraRounds (hbody : Attempts size R body) (fuel : Nat) :
    ∀ (count : Nat) (last : Option Nat) (m : Match), least ≤ count → most.all (count ≤ ·) = true → m.position ≤ size →
      next.SucceedsAt m.position size p → (if last = some m.position then 0 else size - m.position + 1) < fuel →
      ((greedyRounds body least most next fuel count last m).isFound = true ↔
        if last = some m.position then p m.position
        else ∃ extra, most.all (count + extra ≤ ·) = true ∧ ∃ j, Rounds (Proper R) extra m.position j ∧ p j) := by
  induction fuel with
  | zero =>
    intro count last m _ _ _ _ hfuel
    omega
  | succ fuel ih =>
    intro count last m hcount hmost hm hnext hfuel
    rw [isFound_greedyRounds, if_neg (by omega), hnext m _ (Nat.le_refl _) hm]
    by_cases hlast : last = some m.position
    · simp [hlast]
    rw [if_neg hlast] at hfuel ⊢
    simp only [ne_eq, hlast, not_false_eq_true, true_and]
    -- after one more round only what follows is tried if the round was empty, else any number of proper ones
    have hround : most.all (count < ·) = true →
        ((body m m.position fun m' _ =>
          greedyRounds body least most next fuel (count + 1) (some m.position) m').isFound = true ↔
        ∃ k, R m.position k ∧ if some m.position = some k then p k
          else ∃ extra, most.all (count + 1 + extra ≤ ·) = true ∧ ∃ j, Rounds (Proper R) extra k j ∧ p j) := by
      intro hmore
      refine hbody m _ _ _ hm fun m' _ hle hm' => ih (count + 1) (some m.position) m' (by omega) hmore hm' (hnext.mono hle) ?_
      split
      · omega
      · rename_i hne
        have : m.position ≠ m'.position := fun h => hne (congrArg some h)
        omega
    constructor
    · rintro (⟨hmore, h⟩ | hp)
      · obtain ⟨k, hk, h⟩ := (hround hmore).1 h
        by_cases hstay : m.position = k
        · rw [if_pos (congrArg some hstay)] at h
          exact ⟨0, hmost, _, rfl, hstay ▸ h⟩
        · rw [if_neg (fun he => hstay (Option.some.inj he))] at h
          obtain ⟨extra, hall, j, hj, hp⟩ := h
          refine ⟨extra + 1, ?_, j, ⟨k, ⟨hk, hstay⟩, hj⟩, hp⟩
          rwa [← Nat.add_assoc, Nat.add_right_comm]
      · exact ⟨0, hmost, _, rfl, hp⟩
    · rintro ⟨extra, hall, j, hj, hp⟩
      cases extra with
      | zero =>
        obtain rfl : m.position = j := hj
        exact .inr hp
      | succ extra =>
        obtain ⟨k, ⟨hk, hne⟩, hj⟩ := hj
        have hmore : most.all (count < ·) = true := all_of_le (Nat.le_add_left 1 extra) hall
        refine .inl ⟨hmore, (hround hmore).2 ⟨k, hk, ?_⟩⟩
        rw [if_neg (fun he => hne (Option.some.inj he))]
        refine ⟨extra, ?_, j, hj, hp⟩
        rwa [Nat.add_right_comm, Nat.add_assoc]

/-- The rounds of a greedy repetition, from those still due on. -/
theorem isFound_dueRounds (hbody : Attempts size R body) (hmost : most.all (least ≤ ·) = true)
    (due : Nat) :
    ∀ (fuel count : Nat) (m : Match), count + due = least → m.position ≤ size →
      next.SucceedsAt m.position size p → due + (size - m.position + 1) < fuel →
      ((greedyRounds body least most next fuel count none m).isFound = true ↔
        ∃ k, Rounds R due m.position k ∧
          ∃ extra, most.all (least + extra ≤ ·) = true ∧ ∃ j, Rounds (Proper R) extra k j ∧ p j) := by
  induction due with
  | zero =>
    intro fuel count m hcount hm hnext hfuel
    obtain rfl : count = least := hcount
    rw [isFound_extraRounds hbody fuel count none m (Nat.le_refl _) hmost hm hnext (by simpa using hfuel), if_neg nofun]
    simp [Rounds]
  | succ due ih =>
    intro fuel count m hcount hm hnext hfuel
    obtain ⟨fuel, rfl⟩ : ∃ n, fuel = n + 1 := ⟨fuel - 1, by omega⟩
    rw [isFound_greedyRounds, if_pos (by omega)]
    rw [hbody m m.position _ (fun k => ∃ k', Rounds R due k k' ∧
      ∃ extra, most.all (least + extra ≤ ·) = true ∧ ∃ j, Rounds (Proper R) extra k' j ∧ p j) hm
      fun m' _ hle hm' => ih fuel (count + 1) m' (by omega) hm' (hnext.mono hle) (by omega)]
    constructor
    · rintro ⟨k, hk, k', hk', h⟩
      exact ⟨k', ⟨k, hk, hk'⟩, h⟩
    · rintro ⟨k', ⟨k, hk, hk'⟩, h⟩
      exact ⟨k, hk, k', hk', h⟩

theorem isFound_greedy (hbody : Attempts size R body) (hmost : most.all (least ≤ ·) = true)
    {fuel : Nat} {m : Match} (hm : m.position ≤ size) (hnext : next.SucceedsAt m.position size p)
    (hfuel : least + (size - m.position + 1) < fuel) :
    (greedyRounds body least most next fuel 0 none m).isFound = true ↔ ∃ j, Repeats R least most m.position j ∧ p j := by
  rw [isFound_dueRounds hbody hmost least fuel 0 m (by omega) hm hnext hfuel]
  constructor
  · rintro ⟨k, hk, extra, hall, j, hj, hp⟩
    exact ⟨j, ⟨k, extra, hk, hall, hj⟩, hp⟩
  · rintro ⟨j, ⟨k, extra, hk, hall, hj⟩, hp⟩
    exact ⟨k, hk, extra, hall, j, hj, hp⟩

end Rounds

/-! ## Matching -/

theorem succeedsAt_settle (start size : Nat) : settle.SucceedsAt start size fun _ => True :=
  fun _ _ _ _ => ⟨fun _ => trivial, fun _ => rfl⟩

section Run

variable {text : Array Char} {m : Match} {next : Continuation} {p : Nat → Prop}

/-- A branch that is passed over for the next character could not have matched. -/
theorem Node.isFound_admitted {n : Node} (hn : n.Plain) {i : Nat} {o : Outcome} (noted : Nat)
    (ho : o.isFound = true ↔ ∃ j, n.Spans text i j ∧ p j) :
    (if (n.head standard .other).admits standard text[i]? then o else .stuck noted).isFound = true ↔
      ∃ j, n.Spans text i j ∧ p j := by
  split
  · exact ho
  · rename_i hno
    refine ⟨nofun, ?_⟩
    rintro ⟨j, hj, hp⟩
    exact absurd (head_allows hn (p := p) (fun j _ => Head.allows_other text j) hj hp).1 hno

theorem Node.isFound_run_alt {a b : Node} (hn : (alt a b).Plain)
    (ha : ∀ noted, (a.run text standard .other m noted next).isFound = true ↔ ∃ j, a.Spans text m.position j ∧ p j)
    (hb : ∀ noted, (b.run text standard .other m noted next).isFound = true ↔ ∃ j, b.Spans text m.position j ∧ p j)
    (after : Head) (noted : Nat) :
    ((alt a b).run text standard after m noted next).isFound = true ↔ ∃ j, (alt a b).Spans text m.position j ∧ p j := by
  have hspans : (∃ j, (alt a b).Spans text m.position j ∧ p j) ↔
      (∃ j, a.Spans text m.position j ∧ p j) ∨ ∃ j, b.Spans text m.position j ∧ p j := by
    simp only [Spans, or_and_right, exists_or]
  have hfirst := isFound_admitted hn.1 noted (ha m.position)
  rw [hspans, run]
  generalize (if (a.head standard .other).admits standard text[m.position]? then a.run text standard .other m m.position next
    else .stuck noted) = first at hfirst
  cases first with
  | found found => exact ⟨fun _ => .inl (hfirst.1 rfl), fun _ => rfl⟩
  | stuck noted' =>
    have hnot : ¬∃ j, a.Spans text m.position j ∧ p j := fun h => Bool.false_ne_true (hfirst.2 h)
    simp only [hnot, false_or]
    split
    · exact hb noted'
    · exact isFound_admitted hn.2 noted' (hb m.position)

theorem Node.isFound_run_lookahead {b : Node} {wanted : Bool} (hm : m.position ≤ text.size)
    (hnext : next.SucceedsAt m.position text.size p)
    (hb : (b.run text standard .other m m.position settle).isFound = true ↔ ∃ k, b.Spans text m.position k)
    (after : Head) (noted : Nat) :
    ((lookahead b wanted).run text standard after m noted next).isFound = true ↔
      ∃ j, (lookahead b wanted).Spans text m.position j ∧ p j := by
  have hspans : (∃ j, (lookahead b wanted).Spans text m.position j ∧ p j) ↔
      ((∃ k, b.Spans text m.position k) ↔ wanted = true) ∧ p m.position := by
    simp [Spans]
  -- what follows goes on from here, whatever groups the look noted
  have hstep : ∀ m' : Match, m'.position = m.position → ∀ noted, (next m' noted).isFound = true ↔ p m.position := by
    intro m' he noted
    have := hnext m' noted (by omega) (by omega)
    rwa [he] at this
  rw [hspans, ← hb]
  cases hlook : b.run text standard .other m m.position settle <;> cases wanted <;> simp [run, hlook, hstep]

/-- Matching a plain node succeeds exactly if the node matches a stretch after which the rest succeeds. -/
theorem Node.isFound_run {n : Node} (hn : n.Plain) {after : Head} {noted : Nat} (hm : m.position ≤ text.size)
    (hnext : next.SucceedsAt m.position text.size p) (hafter : ∀ j, p j → after.Allows text j) :
    (n.run text standard after m noted next).isFound = true ↔ ∃ j, n.Spans text m.position j ∧ p j := by
  have hother : ∀ (q : Nat → Prop) j, q j → Head.other.Allows text j := fun _ j _ => Head.allows_other text j
  induction n generalizing after m noted next p with
  | empty =>
    rw [run, hnext m noted (Nat.le_refl _) hm]
    simp [Spans]
  | char | any | set => exact attempts_takeChar text _ m noted next p hm hnext
  | anchor a =>
    rw [run]
    have hstep := hnext m noted (Nat.le_refl _) hm
    by_cases ha : a.holds standard text m.position = true
    · rw [if_pos ha, hstep]
      simp [Spans, ha]
    · rw [if_neg ha]
      simp [Spans, ha]
  | seq a b iha ihb =>
    have hrest : Continuation.SucceedsAt (fun m' noted' => b.run text standard after m' noted' next) m.position text.size
        fun k => ∃ j, b.Spans text k j ∧ p j :=
      fun m' noted' hle hm' => ihb hn.2 hm' (hnext.mono hle) hafter
    refine (iha hn.1 hm hrest fun k ⟨j, hj, hp⟩ => head_allows hn.2 hafter hj hp).trans ?_
    constructor
    · rintro ⟨k, hk, j, hj, hp⟩
      exact ⟨j, ⟨k, hk, hj⟩, hp⟩
    · rintro ⟨j, ⟨k, hk, hj⟩, hp⟩
      exact ⟨k, hk, j, hj, hp⟩
  | alt a b iha ihb =>
    exact isFound_run_alt hn (fun _ => iha hn.1 hm hnext (hother p)) (fun _ => ihb hn.2 hm hnext (hother p)) after noted
  | group number b ih =>
    have hrest : Continuation.SucceedsAt (fun m' noted' => next (m'.leave number) noted') (m.enter number).position
        text.size p :=
      fun m' noted' hle hm' => hnext (m'.leave number) noted' hle hm'
    exact ih hn (m := m.enter number) hm hrest (hother p)
  | withFlags on off b ih =>
    obtain ⟨rfl, rfl, hb⟩ := hn
    exact ih hb hm hnext hafter
  | rep greed least most b ih =>
    obtain ⟨rfl, hmost, hb⟩ := hn
    rw [run]
    cases hu : b.unit? standard with
    | some test =>
      simp only
      rw [isFound_repeatUnit hm hnext hafter]
      simp only [Spans, Repeats.congr (spans_of_unit? hb hu)]
    | none =>
      refine isFound_greedy (fun m noted next q hm hnext => ?_) hmost hm hnext ?_
      · exact ih hb hm hnext (hother q)
      · unfold roundLimit
        omega
  | lookahead b wanted ih =>
    have hlook : (b.run text standard .other m m.position settle).isFound = true ↔ ∃ k, b.Spans text m.position k ∧ True :=
      ih hn hm (succeedsAt_settle _ _) (hother fun _ => True)
    exact isFound_run_lookahead hm hnext (by simpa using hlook) after noted
  | atomic | backref | cond | lookbehind => exact hn.elim

end Run

/-- The search finds a match exactly if the node matches some stretch of the text. -/
theorem Node.search_iff {n : Node} (hn : n.Plain) (text : Array Char) :
    n.search standard text = true ↔ ∃ i j, i ≤ text.size ∧ n.Spans text i j := by
  unfold search
  simp only [List.any_eq_true, List.mem_range]
  constructor
  · rintro ⟨i, hi, h⟩
    have hi' : i ≤ text.size := by omega
    obtain ⟨j, hj, -⟩ := (isFound_run hn (m := .start i) hi' (succeedsAt_settle _ _) fun j _ => Head.allows_other text j).1 h
    exact ⟨i, j, hi', hj⟩
  · rintro ⟨i, j, hi, hj⟩
    exact ⟨i, by omega, (isFound_run hn (m := .start i) hi (succeedsAt_settle _ _) fun j _ => Head.allows_other text j).2
      ⟨j, hj, trivial⟩⟩

end WebForm.Pattern
