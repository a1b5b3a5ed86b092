/-
A pattern keeps its meaning: the reader takes the adapted text of a tree as nodes that match what the tree
matches, so the search finds a stretch of a text exactly if the tree has one.
-/
import WebForm.Proofs.Pattern.Adapted

namespace WebForm.Pattern.Authored

/-! ## Classes -/

/-- The members that the reader finds for one. -/
def Member.items : Member → List Item
  | char c _ => [.code c.toNat]
  | range lo hi _ => [.range lo.toNat hi.toNat]
  | digit => [.range '0'.toNat '9'.toNat]
  | word => [.range 'A'.toNat 'Z'.toNat, .range 'a'.toNat 'z'.toNat, .range '0'.toNat '9'.toNat, .code '_'.toNat]

/-- A character makes no range if no hyphen with a character after it follows. -/
theorem bodyItems?_code {body : List Char} (h : ∀ b r, body ≠ '-' :: b :: r) (c : Char) :
    bodyItems? (c :: body) = (bodyItems? body).map (.code c.toNat :: ·) := by
  rw [bodyItems?]
  exact h

theorem bodyItems?_range {lo hi : Char} (h : lo ≤ hi) (body : List Char) :
    bodyItems? (lo :: '-' :: hi :: body) = (bodyItems? body).map (.range lo.toNat hi.toNat :: ·) := by
  have hno : ¬hi.toNat < lo.toNat := Nat.not_lt.2 h
  rw [bodyItems?, if_neg hno]

theorem Member.bodyItems?_adapted (m : Member) {body : List Char} (h : ∀ b r, body ≠ '-' :: b :: r) :
    bodyItems? (m.adapted ++ body) = (bodyItems? body).map (m.items ++ ·) := by
  cases m with
  | char c hc => exact bodyItems?_code h c
  | range lo hi hr => exact bodyItems?_range hr.2.2 body
  | digit => exact bodyItems?_range (by decide) body
  | word =>
    show bodyItems? ('A' :: '-' :: 'Z' :: 'a' :: '-' :: 'z' :: '0' :: '-' :: '9' :: '_' :: body) = _
    rw [bodyItems?_range (by decide), bodyItems?_range (by decide), bodyItems?_range (by decide), bodyItems?_code h,
      Option.map_map, Option.map_map, Option.map_map]
    rfl

theorem Member.adapted_starts (m : Member) : ∃ c r, m.adapted = c :: r ∧ Inert c := by
  cases m with
  | char c h => exact ⟨c, [], rfl, inert_of_not_mem h⟩
  | range lo hi h => exact ⟨lo, ['-', hi], rfl, inert_of_isAlphanum h.1⟩
  | digit => exact ⟨'0', _, rfl, inert_of_isAlphanum rfl⟩
  | word => exact ⟨'A', _, rfl, inert_of_isAlphanum rfl⟩

theorem bodyItems?_members (ms : List Member) :
    bodyItems? (ms.flatMap Member.adapted) = some (ms.flatMap Member.items) := by
  induction ms with
  | nil => rfl
  | cons m ms ih =>
    rw [List.flatMap_cons, m.bodyItems?_adapted, ih]
    · rfl
    · rintro b r h
      cases ms with
      | nil => cases h
      | cons m' ms =>
        obtain ⟨c, t, hm, hc⟩ := m'.adapted_starts
        rw [List.flatMap_cons, hm] at h
        exact hc.dash (List.cons.inj h).1

theorem Member.adapted_chars (m : Member) : BodyChars m.adapted := by
  cases m with
  | char c h => simp [BodyChars, Member.adapted, (inert_of_not_mem h).close, (inert_of_not_mem h).slash]
  | range lo hi h =>
    have hlo := inert_of_isAlphanum h.1
    have hhi := inert_of_isAlphanum h.2.1
    simp [BodyChars, Member.adapted, hlo.close, hlo.slash, hhi.close, hhi.slash]
  | digit | word => simp [BodyChars, Member.adapted]

theorem bodyChars_flatMap {α : Type} {f : α → List Char} (h : ∀ a, BodyChars (f a)) (as : List α) :
    BodyChars (as.flatMap f) := by
  intro c hc
  obtain ⟨a, -, ha⟩ := List.mem_flatMap.1 hc
  exact h a c ha

theorem holds_code (d c : Char) : (Item.code d.toNat).holds false c = (c == d) := by
  rw [Bool.eq_iff_iff]
  simp [Item.holds, Char.toNat_inj]

theorem holds_range (lo hi c : Char) : (Item.range lo.toNat hi.toNat).holds false c = (lo ≤ c && c ≤ hi) := rfl

theorem Member.any_items (m : Member) (c : Char) : m.items.any (·.holds false c) = m.holds c := by
  cases m <;> simp only [Member.items, Member.holds, isWord, isDecimalDigit, holds_code, holds_range, List.any_cons,
    List.any_nil, Bool.or_false, Bool.or_assoc]

theorem any_members (ms : List Member) (c : Char) :
    (ms.flatMap Member.items).any (·.holds false c) = ms.any (Member.holds c) := by
  rw [List.any_flatMap]
  simp only [Member.any_items]

/-! ## What follows a text -/

theorem complete_cons {c : Char} (hslash : c ≠ '\\') (hlazy : c ≠ '?') (hplus : c ≠ '+') {r : List Char} (hr : Paired r) :
    Complete (c :: r) :=
  ⟨.char hslash hr, by simpa using hlazy, by simpa using hplus⟩

theorem complete_of_ends {r : List Char} (h : Ends r) (hr : Paired r) : Complete r := by
  refine ⟨hr, ?_, ?_⟩ <;> cases h <;> nofun

theorem complete_bracketed (inside : Bool) {body : List Char} (hbody : BodyChars body) {r : List Char} (hr : Paired r) :
    Complete (bracketed inside body ++ r) := by
  have hpaired : Paired ((if inside then [] else ['^']) ++ (body ++ ']' :: r)) := by
    refine Paired.append ?_ (hbody.paired hr)
    cases inside <;> exact .of_not_mem (by decide)
  simpa [bracketed] using complete_cons (c := '[') (by decide) (by decide) (by decide) hpaired

theorem Single.complete (u : Single) {r : List Char} (hr : Paired r) : Complete (u.adapted ++ r) := by
  cases u with
  | char c h =>
    refine complete_cons ?_ ?_ ?_ hr <;> (rintro rfl; exact h (by decide))
  | escaped c h => exact ⟨.escape hr, nofun, nofun⟩
  | digit inside => exact complete_bracketed inside Member.digit.adapted_chars hr
  | word inside => exact complete_bracketed inside Member.word.adapted_chars hr
  | members inside ms =>
    cases ms with
    | nil =>
      cases inside with
      | true => exact complete_cons (by decide) (by decide) (by decide) (Paired.append (.of_not_mem (by decide)) hr)
      | false =>
        exact complete_cons (by decide) (by decide) (by decide) (.escape (.escape (.char (by decide) hr)))
    | cons m ms => exact complete_bracketed inside (bodyChars_flatMap Member.adapted_chars (m :: ms)) hr

theorem Quantifier.paired (q : Quantifier) {r : List Char} (hr : Paired r) : Paired (q.text ++ r) := by
  refine Paired.append (.of_not_mem fun hm => ?_) hr
  have hdigit : ∀ n, '\\' ∉ Nat.toDigits 10 n := fun n hn => isDecimalDigit_ne (isDigits_toDigits n _ hn) rfl rfl
  cases q <;> simp [Quantifier.text, hdigit] at hm

theorem complete_endOfText {r : List Char} (hr : Paired r) : Complete (endOfText ++ r) := by
  refine complete_cons (by decide) (by decide) (by decide) ?_
  exact .char (by decide) (.char (by decide) (.escape (.char (by decide) (.char (by decide) hr))))

mutual

theorem Disjunction.complete (d : Disjunction) {r : List Char} (hr : Complete r) : Complete (d.write adapted ++ r) := by
  cases d with
  | one a => exact a.complete hr
  | or a d =>
    simp only [Disjunction.write, List.append_assoc, List.cons_append]
    exact a.complete (complete_cons (by decide) (by decide) (by decide) (d.complete hr).paired)

theorem Alternative.complete (a : Alternative) {r : List Char} (hr : Complete r) : Complete (a.write adapted ++ r) := by
  cases a with
  | empty => exact hr
  | cons t a =>
    simp only [Alternative.write, List.append_assoc]
    exact t.complete (a.complete hr).paired

theorem Term.complete (t : Term) {r : List Char} (hr : Paired r) : Complete (t.write adapted ++ r) := by
  cases t with
  | start => exact complete_cons (by decide) (by decide) (by decide) hr
  | finish => exact complete_endOfText hr
  | once a => exact a.complete hr
  | many a q =>
    simp only [Term.write, List.append_assoc]
    exact a.complete (q.paired hr)

theorem Atom.complete (a : Atom) {r : List Char} (hr : Paired r) : Complete (a.write adapted ++ r) := by
  have hclose : Complete (')' :: r) := complete_cons (by decide) (by decide) (by decide) hr
  cases a with
  | single u => exact u.complete hr
  | capture d =>
    simp only [Atom.write, List.append_assoc, List.cons_append, List.nil_append]
    exact complete_cons (by decide) (by decide) (by decide) (d.complete hclose).paired
  | group d =>
    simp only [Atom.write, List.append_assoc, List.cons_append, List.nil_append]
    refine complete_cons (by decide) (by decide) (by decide) ?_
    exact .char (by decide) (.char (by decide) (d.complete hclose).paired)

end

/-! ## Reading a tree -/

/-- Nothing in a state asks for a check at the end. -/
structure Clean (s : State) : Prop where
  flags : s.flags = []
  pending : s.pending = []

/-- The reader takes a text as nodes of a kind whenever there is fuel for the text, and leaves what follows it. -/
def Reads [CharacterNames] (after : List Char → Prop) (t : List Char) (P : List Node → Prop) : Prop :=
  ∀ s r, Clean s → after r → ∀ fuel first nodes, 2 * t.length ≤ fuel →
    ∃ s' ns fuel', Clean s' ∧ P ns ∧ fuel ≤ fuel' + 2 * t.length ∧
      readSequence fuel false first nodes (s.on (t ++ r)) = readSequence fuel' false first (ns.reverse ++ nodes) (s'.on r)

/-- The same for alternatives up to the end of their group. -/
def ReadsBranches [CharacterNames] (t : List Char) (P : List (List Node) → Prop) : Prop :=
  ∀ s r, Clean s → Paired r → Ends r → r.head? ≠ some '|' → ∀ fuel outermost first, 2 * t.length + 2 ≤ fuel →
    ∃ s' branches, Clean s' ∧ P branches ∧
      readBranches outermost fuel false first (s.on (t ++ r)) = .ok (branches, s'.on r)

/-- Nodes that match one after another what a relation says. -/
structure Says (R : Array Char → Nat → Nat → Prop) (nodes : List Node) : Prop where
  plain : AllPlain nodes
  spans : ∀ text i j, SpansAll text nodes i j ↔ R text i j

/-- A node that matches what a relation says and may be repeated. -/
structure Stands (R : Array Char → Nat → Nat → Prop) (n : Node) : Prop where
  plain : n.Plain
  repeatable : n.Repeatable
  spans : ∀ text i j, n.Spans text i j ↔ R text i j

/-- Alternatives of which one matches what a relation says. -/
structure Offers (R : Array Char → Nat → Nat → Prop) (branches : List (List Node)) : Prop where
  nonempty : branches ≠ []
  plain : ∀ nodes ∈ branches, AllPlain nodes
  spans : ∀ text i j, SpansSome text branches i j ↔ R text i j

theorem Reads.mono [CharacterNames] {after : List Char → Prop} {t : List Char} {P Q : List Node → Prop}
    (h : Reads after t P) (hPQ : ∀ ns, P ns → Q ns) : Reads after t Q := by
  intro s r hs hr fuel first nodes hfuel
  obtain ⟨s', ns, fuel', hs', hP, hle, hread⟩ := h s r hs hr fuel first nodes hfuel
  exact ⟨s', ns, fuel', hs', hPQ ns hP, hle, hread⟩

/-- Texts that are read one after another match one after another. -/
theorem Reads.then [CharacterNames] {t t' : List Char} {R R' : Array Char → Nat → Nat → Prop}
    (h : Reads Complete t (Says R)) (h' : Reads Complete t' (Says R')) (ht' : ∀ r, Complete r → Complete (t' ++ r)) :
    Reads Complete (t ++ t') (Says fun text i j => ∃ k, R text i k ∧ R' text k j) := by
  intro s r hs hr fuel first nodes hfuel
  rw [List.length_append] at hfuel ⊢
  obtain ⟨s1, ns, fuel1, hs1, hns, hle, h1⟩ := h s (t' ++ r) hs (ht' r hr) fuel first nodes (by omega)
  obtain ⟨s2, ns', fuel2, hs2, hns', hle', h2⟩ := h' s1 r hs1 hr fuel1 first (ns.reverse ++ nodes) (by omega)
  refine ⟨s2, ns ++ ns', fuel2, hs2, ⟨allPlain_append.2 ⟨hns.plain, hns'.plain⟩, fun text i j => ?_⟩, by omega, ?_⟩
  · rw [spansAll_append]
    exact exists_congr fun k => and_congr (hns.spans text i k) (hns'.spans text k j)
  · rw [List.append_assoc, h1, h2, List.reverse_append, List.append_assoc]

theorem Reads.step [CharacterNames] {after : List Char → Prop} {t : List Char} (ht : t ≠ []) {n : Node}
    {P : List Node → Prop} (hn : P [n]) (h : ∀ s r fuel first nodes, Clean s → after r → 2 * t.length ≤ fuel + 1 →
      readSequence (fuel + 1) false first nodes (s.on (t ++ r)) = readSequence fuel false first (n :: nodes) (s.on r)) :
    Reads after t P := by
  intro s r hs hr fuel first nodes hfuel
  have hlength := List.length_pos_iff.2 ht
  obtain ⟨fuel, rfl⟩ : ∃ n, fuel = n + 1 := ⟨fuel - 1, by omega⟩
  exact ⟨s, [n], fuel, hs, hn, by omega, h s r fuel first nodes hs hr hfuel⟩

/-! ## Single characters -/

/-- The node of a single character. -/
def Single.node : Single → Node
  | char c _ | escaped c _ => .char c.toNat true
  | digit inside => classNode Member.digit.items inside
  | word inside => classNode Member.word.items inside
  | members inside [] => if inside then .lookahead .empty false else .set [.kind .space true, .kind .space false] true
  | members inside (m :: ms) => classNode ((m :: ms).flatMap Member.items) inside

theorem stands_char (c : Char) : Stands (fun text => Takes text (· == c)) (.char c.toNat true) := by
  refine ⟨trivial, ⟨nofun, nofun⟩, fun text i j => ?_⟩
  have htest : (fun d => charHolds standard c.toNat d == true) = (· == c) := by
    funext d
    rw [beq_true, charHolds_standard, itemsHold_standard, List.any_cons, List.any_nil, Bool.or_false, holds_code]
  show Takes text (fun d => charHolds standard c.toNat d == true) i j ↔ _
  rw [htest]

theorem stands_classNode {items : List Item} {test : Char → Bool} (h : ∀ c, items.any (·.holds false c) = test c)
    (inside : Bool) : Stands (fun text => Takes text fun c => test c == inside) (classNode items inside) := by
  refine ⟨plain_classNode items inside, ⟨?_, ?_⟩, fun text i j => ?_⟩
  · intro a
    unfold classNode
    split <;> nofun
  · intro greed least most body
    unfold classNode
    split <;> nofun
  · rw [spans_classNode]
    simp only [itemsHold_standard, h]

/-- A class without members. -/
theorem stands_none : Stands (fun text => Takes text fun _ => false) (.lookahead .empty false) := by
  refine ⟨trivial, ⟨nofun, nofun⟩, fun text i j => ⟨?_, ?_⟩⟩
  · rintro ⟨-, h⟩
    exact absurd (h.1 ⟨i, rfl⟩) Bool.false_ne_true
  · rintro ⟨-, c, -, h⟩
    cases h

/-- Its complement. -/
theorem stands_all :
    Stands (fun text => Takes text fun _ => true) (.set [.kind .space true, .kind .space false] true) := by
  refine ⟨trivial, ⟨nofun, nofun⟩, fun text i j => ?_⟩
  have htest : (fun c => itemsHold standard [.kind .space true, .kind .space false] c == true) = fun _ => true := by
    funext c
    rw [beq_true, itemsHold_standard]
    cases hk : Kind.space.contains false c <;> simp [Item.holds, hk]
  show Takes text (fun c => itemsHold standard [.kind .space true, .kind .space false] c == true) i j ↔ _
  rw [htest]

theorem Single.stands (u : Single) : Stands (fun text => Takes text u.holds) u.node := by
  cases u with
  | char c h | escaped c h => exact stands_char c
  | digit inside => exact stands_classNode Member.digit.any_items inside
  | word inside => exact stands_classNode Member.word.any_items inside
  | members inside ms =>
    cases ms with
    | nil =>
      cases inside with
      | true => exact stands_none
      | false => exact stands_all
    | cons m ms => exact stands_classNode (any_members (m :: ms)) inside

theorem readEscape_metacharacter [CharacterNames] {c : Char} (hc : c ∈ metacharacters) (s : State) :
    readEscape c s = .ok (.char c.toNat true, s) := by
  simp only [metacharacters, List.mem_cons, List.not_mem_nil, or_false] at hc
  rcases hc with rfl | rfl | rfl | rfl | rfl | rfl | rfl | rfl | rfl | rfl | rfl | rfl | rfl | rfl <;> rfl

/-- A look ahead for something that may not come next. -/
theorem readSequence_notAhead [CharacterNames] {s s' : State} {fuel : Nat} {t r : List Char}
    {branches : List (List Node)} (hr : Paired r) (ht : Paired t)
    (h : readBranches false fuel false false (s.on t) = .ok (branches, s'.on (')' :: r))) (first : Bool)
    (nodes : List Node) :
    readSequence (fuel + 2) false first nodes (s.on ('(' :: '?' :: '!' :: t)) =
      readSequence (fuel + 1) false first (.lookahead (ofBranches branches) false :: nodes) (s'.on r) := by
  have hopen : Paired ('?' :: '!' :: t) := .char (by decide) (.char (by decide) ht)
  obtain ⟨start, hgroup⟩ := readSequence_group s (fuel + 1) first nodes hopen .notAhead fun start =>
    readOpening_notAhead s start ht
  rw [hgroup, readGroup_notAhead hr h start]
  rfl

theorem reads_bracketed [CharacterNames] (inside : Bool) {body : List Char} {items : List Item}
    (hchars : BodyChars body) (hne : body ≠ []) (hcaret : body.head? ≠ some '^') (h : bodyItems? body = some items) :
    Reads Paired (bracketed inside body) (· = [classNode items inside]) :=
  .step (by simp [bracketed]) rfl fun s _ fuel first nodes _ hr _ =>
    readSequence_bracketed s fuel first nodes inside hchars hne hcaret hr h

theorem Member.reads [CharacterNames] (m : Member) (ms : List Member) (inside : Bool) :
    Reads Paired (bracketed inside ((m :: ms).flatMap Member.adapted))
      (· = [classNode ((m :: ms).flatMap Member.items) inside]) := by
  obtain ⟨c, r, hm, hc⟩ := m.adapted_starts
  exact reads_bracketed inside (bodyChars_flatMap Member.adapted_chars (m :: ms)) (by simp [hm]) (by simpa [hm] using hc.caret)
    (bodyItems?_members (m :: ms))

theorem Single.reads [CharacterNames] (u : Single) : Reads Paired u.adapted (· = [u.node]) := by
  cases u with
  | char c h => exact .step (by simp [Single.adapted]) rfl fun s _ fuel first nodes _ hr _ => readSequence_char s fuel first nodes hr h
  | escaped c h =>
    refine .step (by simp [Single.adapted]) rfl fun s r fuel first nodes _ hr _ => ?_
    show readSequence (fuel + 1) false first nodes (s.on ('\\' :: c :: r)) = _
    rw [readSequence_escape s fuel first nodes hr, readEscape_metacharacter h]
    rfl
  | digit inside => simpa [Single.adapted, Single.node] using Member.digit.reads [] inside
  | word inside => simpa [Single.adapted, Single.node] using Member.word.reads [] inside
  | members inside ms =>
    cases ms with
    | nil =>
      cases inside with
      | true =>
        refine .step (by simp [Single.adapted]) rfl fun s r fuel first nodes _ hr hfuel => ?_
        have hlength : 8 ≤ fuel + 1 := hfuel
        obtain ⟨fuel, rfl⟩ : ∃ n, fuel = n + 3 := ⟨fuel - 3, by omega⟩
        have hempty : readSequence (fuel + 1) false (false && false) [] (s.on (')' :: r)) = .ok ([], s.on (')' :: r)) :=
          readSequence_end s fuel _ [] (.close r)
        exact readSequence_notAhead hr (.char (by decide) hr) (readBranches_last hempty (by simp)) first nodes
      | false =>
        refine .step (by simp [Single.adapted]) rfl fun s r fuel first nodes _ hr _ => ?_
        have hpaired : Paired ('\\' :: 's' :: '\\' :: 'S' :: ']' :: r) := .escape (.escape (.char (by decide) hr))
        show readSequence (fuel + 1) false first nodes (s.on ('[' :: '\\' :: 's' :: '\\' :: 'S' :: ']' :: r)) = _
        rw [readSequence_class s fuel first nodes hpaired, readClass_all s hr]
        rfl
    | cons m ms => exact m.reads ms inside

/-! ## Terms -/

theorem Quantifier.readRepetition_text (q : Quantifier) (s : State) {r : List Char} (hr : Paired r) (nodes : List Node) :
    ∃ sign rest start, q.text = sign :: rest ∧ (sign = '*' ∨ sign = '+' ∨ sign = '?' ∨ sign = '\x7b') ∧
      readRepetition sign nodes (s.on (rest ++ r)) = repeatLast start q.least q.most? nodes (s.on r) := by
  have hdigits : ∀ n, Nat.toDigits 10 n ≠ [] := fun n h => by simpa [h] using @Nat.length_toDigits_pos 10 n
  cases q with
  | star => exact ⟨'*', [], _, rfl, by simp, rfl⟩
  | plus => exact ⟨'+', [], _, rfl, by simp, rfl⟩
  | optional => exact ⟨'?', [], _, rfl, by simp, rfl⟩
  | exactly n h =>
    have hbounds := readBounds_exactly s (isDigits_toDigits n) (hdigits n) hr (by rwa [ofDigits_toDigits])
    rw [ofDigits_toDigits] at hbounds
    obtain ⟨start, hread⟩ := readRepetition_bounds s hbounds nodes
    exact ⟨'\x7b', _, start, rfl, by simp, by simpa [List.append_assoc, least, most?] using hread⟩
  | atLeast n h =>
    have hbounds := readBounds_atLeast s (isDigits_toDigits n) (hdigits n) hr (by rwa [ofDigits_toDigits])
    rw [ofDigits_toDigits] at hbounds
    obtain ⟨start, hread⟩ := readRepetition_bounds s hbounds nodes
    exact ⟨'\x7b', _, start, rfl, by simp, by simpa [List.append_assoc, least, most?] using hread⟩
  | between least most hle h =>
    have hbounds := readBounds_between s (isDigits_toDigits least) (hdigits least) hr
      (by rw [ofDigits_toDigits]; omega) (isDigits_toDigits most) (hdigits most) (by rwa [ofDigits_toDigits])
      (by rwa [ofDigits_toDigits, ofDigits_toDigits])
    rw [ofDigits_toDigits, ofDigits_toDigits] at hbounds
    obtain ⟨start, hread⟩ := readRepetition_bounds s hbounds nodes
    exact ⟨'\x7b', _, start, rfl, by simp, by simpa [List.append_assoc, Quantifier.least, most?] using hread⟩

theorem Quantifier.least_le (q : Quantifier) : q.most?.all (q.least ≤ ·) = true := by
  cases q with
  | between least most hle h => exact decide_eq_true hle
  | _ => simp [Quantifier.most?, Quantifier.least]

theorem Reads.many [CharacterNames] {t : List Char} {R : Array Char → Nat → Nat → Prop}
    (h : Reads Paired t fun ns => ∃ n, ns = [n] ∧ Stands R n) (q : Quantifier) :
    Reads Complete (t ++ q.text) (Says fun text => Repeats (R text) q.least q.most?) := by
  intro s r hs hr fuel first nodes hfuel
  rw [List.length_append] at hfuel ⊢
  obtain ⟨s', _, fuel', hs', ⟨n, rfl, hn⟩, hle, hread⟩ :=
    h s (q.text ++ r) hs (q.paired hr.paired) fuel first nodes (by omega)
  -- the sign after the atom turns the node that was read last into the body of a repetition
  obtain ⟨sign, rest, start, htext, hsign, hrepeat⟩ := q.readRepetition_text s' hr.paired (n :: nodes)
  obtain ⟨body, hbody, hspans, hlast⟩ := repeatLast_greedy s' hr start q.least q.most? nodes hn.plain hn.repeatable
  have hlength : q.text.length = rest.length + 1 := by rw [htext]; rfl
  have hrest : Paired (rest ++ r) := by
    have hq := q.paired hr.paired
    rw [htext] at hq
    exact hq.of_cons (by rintro rfl; revert hsign; decide)
  obtain ⟨fuel', rfl⟩ : ∃ n, fuel' = n + 1 := ⟨fuel' - 1, by omega⟩
  refine ⟨s', [.rep .greedy q.least q.most? body], fuel', hs', ⟨?_, fun text i j => ?_⟩, by omega, ?_⟩
  · exact List.forall_mem_singleton.2 ⟨rfl, q.least_le, hbody⟩
  · rw [spansAll_singleton]
    exact Repeats.congr (fun k l => (hspans text k l).trans (hn.spans text k l)) _ _ i j
  · rw [List.append_assoc, hread, htext]
    show readSequence (fuel' + 1) false first (n :: nodes) (s'.on (sign :: (rest ++ r))) = _
    rw [readSequence_sign s' fuel' first (n :: nodes) hrest hsign, hrepeat, hlast]
    rfl

theorem Reads.once [CharacterNames] {t : List Char} {R : Array Char → Nat → Nat → Prop}
    (h : Reads Paired t fun ns => ∃ n, ns = [n] ∧ Stands R n) : Reads Complete t (Says R) := by
  intro s r hs hr fuel first nodes hfuel
  obtain ⟨s', _, fuel', hs', ⟨n, rfl, hn⟩, hle, hread⟩ := h s r hs hr.paired fuel first nodes hfuel
  exact ⟨s', [n], fuel', hs', ⟨List.forall_mem_singleton.2 hn.plain,
    fun text i j => (spansAll_singleton text n i j).trans (hn.spans text i j)⟩, hle, hread⟩

theorem reads_lineStart [CharacterNames] : Reads Complete ['^'] (Says fun _ i j => i = j ∧ i = 0) := by
  refine .step (n := .anchor .lineStart) (List.cons_ne_nil _ _) ⟨List.forall_mem_singleton.2 trivial, fun text i j => ?_⟩
    fun s _ fuel first nodes _ hr _ => readSequence_lineStart s fuel first nodes hr.paired
  rw [spansAll_singleton]
  simp [Node.Spans, Anchor.holds, Mode.ofFlags]

/-- No line feed comes next, and the text ends here or with a last line feed. -/
theorem says_endOfText : Says (fun text i j => i = j ∧ i = text.size)
    [.lookahead (.char 10 true) false, .anchor .lineEnd] := by
  refine ⟨by simp [AllPlain, Node.Plain], fun text i j => ?_⟩
  have hfeed : ∀ k, (Node.char 10 true).Spans text i k ↔ Takes text (· == '\n') i k := (stands_char '\n').spans text i
  have hlook : (∃ k, (Node.char 10 true).Spans text i k) ↔ text[i]? = some '\n' := by
    simp [hfeed, Takes]
  have hend : Anchor.lineEnd.holds standard text i = true ↔ i = text.size ∨ (text[i]? = some '\n' ∧ i + 1 = text.size) := by
    simp [Anchor.holds, Mode.ofFlags]
  constructor
  · rintro ⟨_, ⟨rfl, hno⟩, _, ⟨rfl, h⟩, rfl⟩
    -- the reader's `$` also holds before a last line feed, which the look ahead has ruled out
    refine ⟨rfl, (hend.1 h).resolve_right fun hlast => ?_⟩
    exact Bool.false_ne_true (hno.1 (hlook.2 hlast.1))
  · rintro ⟨rfl, hsize⟩
    have hnone : text[i]? = none := by rw [hsize]; exact Array.getElem?_size
    refine ⟨i, ⟨rfl, ⟨fun h => ?_, fun h => absurd h Bool.false_ne_true⟩⟩, i, ⟨rfl, hend.2 (.inl hsize)⟩, rfl⟩
    rw [hlook.1 h] at hnone
    cases hnone

theorem reads_endOfText [CharacterNames] : Reads Complete endOfText (Says fun text i j => i = j ∧ i = text.size) := by
  intro s r hs hr fuel first nodes hfuel
  have hlength : 14 ≤ fuel := hfuel
  obtain ⟨fuel, rfl⟩ : ∃ n, fuel = n + 5 := ⟨fuel - 5, by omega⟩
  have hend : Paired ('$' :: r) := .char (by decide) hr.paired
  have hclose : Paired (')' :: '$' :: r) := .char (by decide) hend
  have hbody : readSequence (fuel + 2) false (false && false) [] (s.on ('\\' :: 'n' :: ')' :: '$' :: r)) =
      .ok ([.char 10 true], s.on (')' :: '$' :: r)) := by
    rw [readSequence_escape s (fuel + 1) _ [] hclose]
    exact readSequence_end s fuel _ [.char 10 true] (.close ('$' :: r))
  have hbranches : readBranches false (fuel + 3) false false (s.on ('\\' :: 'n' :: ')' :: '$' :: r)) =
      .ok ([[.char 10 true]], s.on (')' :: '$' :: r)) := readBranches_last hbody nofun
  have hlook := readSequence_notAhead hend (.escape hclose) hbranches first nodes
  refine ⟨s, _, fuel + 3, hs, says_endOfText, Nat.add_le_add_left (show 2 ≤ 14 by decide) _, ?_⟩
  show readSequence (fuel + 5) false first nodes (s.on ('(' :: '?' :: '!' :: '\\' :: 'n' :: ')' :: '$' :: r)) = _
  rw [hlook, readSequence_lineEnd s (fuel + 3) first _ hr.paired]
  rfl

/-! ## Groups and alternatives -/

section Groups

variable [CharacterNames] {t : List Char} {R : Array Char → Nat → Nat → Prop} (h : ReadsBranches t (Offers R))
  (ht : ∀ r, Paired r → Complete (t ++ ')' :: r))
include h ht

theorem ReadsBranches.capture : Reads Paired ('(' :: (t ++ [')'])) fun ns => ∃ n, ns = [n] ∧ Stands R n := by
  intro s r hs hr fuel first nodes hfuel
  simp only [List.length_cons, List.length_append, List.length_nil] at hfuel ⊢
  obtain ⟨fuel, rfl⟩ : ∃ n, fuel = n + 2 := ⟨fuel - 2, by omega⟩
  obtain ⟨s', branches, hs', hbranches, hread⟩ := h s.opened (')' :: r) ⟨hs.flags, hs.pending⟩ (.char (by decide) hr)
    (.close r) nofun fuel false false (by omega)
  obtain ⟨start, hgroup⟩ := readSequence_group s (fuel + 1) first nodes (ht r hr).paired .capture fun start =>
    readOpening_capture s start (ht r hr).lazy
  refine ⟨s'.closed s.groups (ofBranches branches), _, fuel + 1, ⟨hs'.flags, hs'.pending⟩,
    ⟨.group s.groups (ofBranches branches), rfl, plain_ofBranches hbranches.plain, ⟨nofun, nofun⟩, fun text i j => ?_⟩,
    by omega, ?_⟩
  · exact (spans_ofBranches text hbranches.nonempty i j).trans (hbranches.spans text i j)
  · rw [List.cons_append, List.append_assoc]
    show readSequence (fuel + 2) false first nodes (s.on ('(' :: (t ++ ')' :: r))) = _
    rw [hgroup, readGroup_capture hr hread start]
    rfl

theorem ReadsBranches.group :
    Reads Paired ('(' :: '?' :: ':' :: (t ++ [')'])) fun ns => ∃ n, ns = [n] ∧ Stands R n := by
  intro s r hs hr fuel first nodes hfuel
  simp only [List.length_cons, List.length_append, List.length_nil] at hfuel ⊢
  obtain ⟨fuel, rfl⟩ : ∃ n, fuel = n + 2 := ⟨fuel - 2, by omega⟩
  obtain ⟨s', branches, hs', hbranches, hread⟩ := h s (')' :: r) hs (.char (by decide) hr)
    (.close r) nofun fuel false false (by omega)
  have hopen : Paired ('?' :: ':' :: (t ++ ')' :: r)) := .char (by decide) (.char (by decide) (ht r hr).paired)
  obtain ⟨start, hgroup⟩ := readSequence_group s (fuel + 1) first nodes hopen .plain fun start =>
    readOpening_plain s start (ht r hr).paired
  refine ⟨s', _, fuel + 1, hs', ⟨.withFlags [] [] (ofBranches branches), rfl, ⟨rfl, rfl, plain_ofBranches hbranches.plain⟩,
    ⟨nofun, nofun⟩, fun text i j => ?_⟩, by omega, ?_⟩
  · exact (spans_ofBranches text hbranches.nonempty i j).trans (hbranches.spans text i j)
  · simp only [List.cons_append, List.append_assoc]
    show readSequence (fuel + 2) false first nodes (s.on ('(' :: '?' :: ':' :: (t ++ ')' :: r))) = _
    rw [hgroup, readGroup_plain hr hread start]
    rfl

end Groups

theorem Reads.finish [CharacterNames] {t : List Char} {R : Array Char → Nat → Nat → Prop}
    (h : Reads Complete t (Says R)) {s : State} {r : List Char} (hs : Clean s) (hr : Paired r) (hend : Ends r)
    (fuel : Nat) (hfuel : 2 * t.length < fuel) (first : Bool) :
    ∃ s' nodes, Clean s' ∧ Says R nodes ∧ readSequence fuel false first [] (s.on (t ++ r)) = .ok (nodes, s'.on r) := by
  obtain ⟨s', ns, fuel', hs', hns, hle, hread⟩ := h s r hs (complete_of_ends hend hr) fuel first [] (by omega)
  obtain ⟨fuel', rfl⟩ : ∃ n, fuel' = n + 1 := ⟨fuel' - 1, by omega⟩
  refine ⟨s', ns.flatMap Node.parts, hs', ⟨allPlain_flatMap_parts hns.plain, fun text i j => ?_⟩, ?_⟩
  · rw [spansAll_flatMap_parts]
    exact hns.spans text i j
  · rw [hread, readSequence_end s' fuel' first _ hend, List.append_nil, List.reverse_reverse]

theorem Reads.one [CharacterNames] {t : List Char} {R : Array Char → Nat → Nat → Prop} (h : Reads Complete t (Says R)) :
    ReadsBranches t (Offers R) := by
  intro s r hs hr hend hbar fuel outermost first hfuel
  obtain ⟨fuel, rfl⟩ : ∃ n, fuel = n + 1 := ⟨fuel - 1, by omega⟩
  obtain ⟨s', nodes, hs', hnodes, hread⟩ := h.finish hs hr hend fuel (by omega) (outermost && first)
  refine ⟨s', [nodes], hs', ⟨List.cons_ne_nil _ _, List.forall_mem_singleton.2 hnodes.plain, fun text i j => ?_⟩,
    readBranches_last hread hbar⟩
  rw [← hnodes.spans text i j]
  simp [SpansSome]

theorem Reads.or [CharacterNames] {t t' : List Char} {R R' : Array Char → Nat → Nat → Prop}
    (h : Reads Complete t (Says R)) (h' : ReadsBranches t' (Offers R')) (ht' : ∀ r, Complete r → Complete (t' ++ r)) :
    ReadsBranches (t ++ '|' :: t') (Offers fun text i j => R text i j ∨ R' text i j) := by
  intro s r hs hr hend hbar fuel outermost first hfuel
  simp only [List.length_append, List.length_cons] at hfuel
  obtain ⟨fuel, rfl⟩ : ∃ n, fuel = n + 1 := ⟨fuel - 1, by omega⟩
  have hrest : Paired (t' ++ r) := (ht' r (complete_of_ends hend hr)).paired
  obtain ⟨s1, nodes, hs1, hnodes, hread⟩ := h.finish hs (.char (c := '|') (by decide) hrest) (.bar (t' ++ r)) fuel
    (by omega) (outermost && first)
  obtain ⟨s2, branches, hs2, hbranches, hread'⟩ := h' s1 r hs1 hr hend hbar fuel outermost false (by omega)
  refine ⟨s2, nodes :: branches, hs2, ⟨List.cons_ne_nil _ _, List.forall_mem_cons.2 ⟨hnodes.plain, hbranches.plain⟩,
    fun text i j => ?_⟩, ?_⟩
  · rw [spansSome_cons]
    exact or_congr (hnodes.spans text i j) (hbranches.spans text i j)
  · rw [List.append_assoc]
    show readBranches outermost (fuel + 1) false first (s.on (t ++ '|' :: (t' ++ r))) = _
    rw [readBranches_bar hread hrest hs1.flags, hread']
    rfl

mutual

theorem Disjunction.reads [CharacterNames] (d : Disjunction) :
    ReadsBranches (d.write adapted) (Offers fun text => d.Matches text) := by
  cases d with
  | one a => exact a.reads.one
  | or a d => exact a.reads.or d.reads fun r hr => d.complete hr

theorem Alternative.reads [CharacterNames] (a : Alternative) :
    Reads Complete (a.write adapted) (Says fun text => a.Matches text) := by
  cases a with
  | empty => exact fun s r hs _ fuel first nodes _ => ⟨s, [], fuel, hs, ⟨nofun, fun _ _ _ => Iff.rfl⟩, by simp, rfl⟩
  | cons t a => exact t.reads.then a.reads fun r hr => a.complete hr

theorem Term.reads [CharacterNames] (t : Term) :
    Reads Complete (t.write adapted) (Says fun text => t.Matches text) := by
  cases t with
  | start => exact reads_lineStart
  | finish => exact reads_endOfText
  | once a => exact a.reads.once
  | many a q => exact a.reads.many q

theorem Atom.reads [CharacterNames] (a : Atom) :
    Reads Paired (a.write adapted) fun ns => ∃ n, ns = [n] ∧ Stands (fun text => a.Matches text) n := by
  have hclose : ∀ (d : Disjunction) r, Paired r → Complete (d.write adapted ++ ')' :: r) := fun d r hr =>
    d.complete (complete_of_ends (.close r) (.char (by decide) hr))
  cases a with
  | single u => exact u.reads.mono fun ns h => ⟨u.node, h, u.stands⟩
  | capture d => exact d.reads.capture (hclose d)
  | group d => exact d.reads.group (hclose d)

end

/-! ## Whole patterns -/

/-- A whole text that the reader takes as alternatives is read, and the expression matches what they do. -/
theorem ReadsBranches.read [CharacterNames] {t : List Char} {R : Array Char → Nat → Nat → Prop}
    (h : ReadsBranches t (Offers R)) (ht : Paired t) : ∃ e, read t = .ok e ∧ ∀ text : String,
      e.matchesIn text = true ↔ ∃ i j, i ≤ j ∧ j ≤ text.length ∧ R text.toList.toArray i j := by
  obtain ⟨s, branches, hs, hbranches, hread⟩ :=
    h (.before t) [] ⟨rfl, rfl⟩ .nil .nil nofun (2 * t.length + 4) true true (by omega)
  rw [List.append_nil] at hread
  have hplain := plain_ofBranches hbranches.plain
  refine ⟨⟨ofBranches branches, standard⟩, read_of_branches ht hread hs.flags hs.pending hplain, fun text => ?_⟩
  have hsize : text.toList.toArray.size = text.length := by rw [List.size_toArray, String.length_toList]
  have hspans : ∀ i j, (ofBranches branches).Spans text.toList.toArray i j ↔ R text.toList.toArray i j := fun i j =>
    (spans_ofBranches _ hbranches.nonempty i j).trans (hbranches.spans _ i j)
  rw [Expression.matchesIn, Node.search_iff hplain]
  constructor
  · rintro ⟨i, j, hi, hij⟩
    obtain ⟨hle, hj⟩ := (ofBranches branches).spans_forward text.toList.toArray i j hi hij
    exact ⟨i, j, hle, hsize ▸ hj, (hspans i j).1 hij⟩
  · rintro ⟨i, j, hle, hj, hij⟩
    exact ⟨i, j, hsize ▸ Nat.le_trans hle hj, (hspans i j).2 hij⟩

theorem matchesIn_of_compile [CharacterNames] {source : String} {e : Expression} (h : compile source = .ok e)
    (text : String) :
    matchesIn source text = .ok (e.matchesIn text) := by
  rw [matchesIn, h]
  rfl

/-- A pattern that is the text of a tree can be read, and it matches in a text exactly if the tree matches
some stretch of it. -/
theorem Disjunction.compile_matchesIn [CharacterNames] (d : Disjunction) : ∃ e, compile d.source = .ok e ∧
    ∀ text, matchesIn d.source text = .ok (e.matchesIn text) ∧ (e.matchesIn text = true ↔ d.MatchesIn text) := by
  have hpaired : Paired (d.write adapted) := by
    simpa using (d.complete (complete_of_ends .nil .nil)).paired
  obtain ⟨e, hread, hmatch⟩ := d.reads.read hpaired
  have hcompile : compile d.source = .ok e := by rw [compile, adapt_source, hread]
  exact ⟨e, hcompile, fun text => ⟨matchesIn_of_compile hcompile text, hmatch text⟩⟩

end WebForm.Pattern.Authored
