/-
How the reader takes a pattern: one lemma for each kind of unit, which says what nodes the reader has after
it. What is left of the text is named by `State.on`; of the rest of the state only the widths of groups change.
-/
import WebForm.Proofs.Number.Numeral
import WebForm.Proofs.Pattern.Nodes

namespace WebForm.Pattern

open Reading

/-! ## Texts -/

/-- A text in which every backslash has a character after it. -/
inductive Paired : List Char → Prop where
  | nil : Paired []
  | char {c : Char} {r : List Char} : c ≠ '\\' → Paired r → Paired (c :: r)
  | escape {c : Char} {r : List Char} : Paired r → Paired ('\\' :: c :: r)

theorem Paired.append {s t : List Char} (hs : Paired s) (ht : Paired t) : Paired (s ++ t) := by
  induction hs with
  | nil => exact ht
  | char hc _ ih => exact .char hc ih
  | escape _ ih => exact .escape ih

theorem Paired.of_not_mem {s : List Char} (h : '\\' ∉ s) : Paired s := by
  induction s with
  | nil => exact .nil
  | cons c s ih =>
    rw [List.mem_cons, not_or] at h
    exact .char (Ne.symm h.1) (ih h.2)

theorem Paired.of_cons {c : Char} {r : List Char} (hc : c ≠ '\\') (h : Paired (c :: r)) : Paired r := by
  cases h with
  | char _ hr => exact hr
  | escape _ => exact absurd rfl hc

/-- The reader refuses a single backslash as soon as it comes next; it never does here. -/
theorem Paired.ne_backslash {r : List Char} (h : Paired r) : r ≠ ['\\'] := by
  rintro rfl
  cases h with
  | char hc _ => exact hc rfl

/-- Where an alternative ends. -/
inductive Ends : List Char → Prop where
  | nil : Ends []
  | bar (r : List Char) : Ends ('|' :: r)
  | close (r : List Char) : Ends (')' :: r)

/-- The characters with a meaning of their own outside classes. -/
def metacharacters : List Char := ['^', '$', '\\', '.', '*', '+', '?', '(', ')', '[', ']', '\x7b', '\x7d', '|']

/-! ## Steps of the reader -/

/-- The reader with a given text left. -/
def State.on (s : State) (r : List Char) : State := { s with rest := r }

@[simp] theorem State.on_rest (s : State) (r : List Char) : (s.on r).rest = r := rfl

@[simp] theorem State.on_on (s : State) (r r' : List Char) : (s.on r).on r' = s.on r' := rfl

theorem bind_apply {α β : Type} (x : Reading α) (f : α → Reading β) (s : State) :
    (x >>= f) s = (x s).bind fun p => f p.1 p.2 := rfl

theorem bind_ok {ε α β : Type} (a : α) (f : α → Except ε β) : (Except.ok a).bind f = f a := rfl

theorem pure_apply {α : Type} (a : α) (s : State) : (pure a : Reading α) s = .ok (a, s) := rfl

theorem map_apply {α β : Type} (f : α → β) (x : Reading α) (s : State) :
    (f <$> x) s = (x s).bind fun p => .ok (f p.1, p.2) := rfl

theorem get_apply (s : State) : (get : Reading State) s = .ok (s, s) := rfl

theorem peek_apply (s : State) : peek s = .ok (unit? s.rest, s) := rfl

theorem position_apply (s : State) : position s = .ok (s.position, s) := rfl

theorem moveTo_apply (s : State) {r : List Char} (hr : Paired r) : moveTo r s = .ok ((), s.on r) := by
  rw [moveTo, if_neg hr.ne_backslash]
  rfl

theorem unit?_char {c : Char} (hc : c ≠ '\\') (r : List Char) : unit? (c :: r) = some (.char c) := by
  rw [unit?]
  exact fun _ _ h _ => hc h

theorem take_char (s : State) {c : Char} (hc : c ≠ '\\') {r : List Char} (hr : Paired r) :
    take (s.on (c :: r)) = .ok (some (.char c), s.on r) := by
  have hafter : afterUnit (c :: r) = r := by
    rw [afterUnit]
    exact fun _ _ h _ => hc h
  show (moveTo (afterUnit (c :: r)) >>= fun _ => pure (unit? (c :: r)) : Reading _) (s.on (c :: r)) = _
  rw [hafter, unit?_char hc, bind_apply, moveTo_apply _ hr]
  rfl

theorem take_escape (s : State) (c : Char) {r : List Char} (hr : Paired r) :
    take (s.on ('\\' :: c :: r)) = .ok (some (.escape c), s.on r) := by
  show (moveTo r >>= fun _ => pure (some (Token.escape c)) : Reading _) (s.on ('\\' :: c :: r)) = _
  rw [bind_apply, moveTo_apply _ hr]
  rfl

theorem accept_here (s : State) {c : Char} (hc : c ≠ '\\') {r : List Char} (hr : Paired r) :
    accept c (s.on (c :: r)) = .ok (true, s.on r) := by
  simp [accept, bind_apply, map_apply, bind_ok, peek_apply, unit?_char hc, take_char s hc hr]

theorem accept_other (s : State) {c : Char} {r : List Char} (h : unit? r ≠ some (.char c)) :
    accept c (s.on r) = .ok (false, s.on r) := by
  simp [accept, bind_apply, bind_ok, peek_apply, h, pure_apply]

theorem unit?_ne {c : Char} {r : List Char} (h : r.head? ≠ some c) : unit? r ≠ some (.char c) := by
  unfold unit?
  split
  · exact fun he => Token.noConfusion (Option.some.inj he)
  · rename_i d r _
    intro he
    obtain rfl := Token.char.inj (Option.some.inj he)
    exact h rfl
  · exact nofun

/-! ## Single units -/

section Units

variable [CharacterNames] (s : State) (fuel : Nat) (first : Bool) (nodes : List Node) {r : List Char}

theorem readSequence_end (h : Ends r) :
    readSequence (fuel + 1) false first nodes (s.on r) = .ok (nodes.reverse.flatMap Node.parts, s.on r) := by
  cases h <;> rfl

theorem readSequence_char (hr : Paired r) {c : Char} (hc : c ∉ metacharacters) :
    readSequence (fuel + 1) false first nodes (s.on (c :: r)) =
      readSequence fuel false first (.char c.toNat true :: nodes) (s.on r) := by
  simp only [metacharacters, List.mem_cons, List.not_mem_nil, or_false, not_or] at hc
  obtain ⟨hcaret, hdollar, hslash, hdot, hstar, hplus, hquestion, hopen, hclose, hbracket, -, hbrace, -, hbar⟩ := hc
  simp [readSequence, bind_apply, bind_ok, peek_apply, position_apply, unit?_char hslash, take_char s hslash hr, hcaret,
    hdollar, hdot, hstar, hplus, hquestion, hopen, hclose, hbracket, hbrace, hbar]

theorem readSequence_escape (hr : Paired r) (c : Char) :
    readSequence (fuel + 1) false first nodes (s.on ('\\' :: c :: r)) =
      (readEscape c (s.on r)).bind fun p => readSequence fuel false first (p.1 :: nodes) p.2 := by
  simp [readSequence, bind_apply, bind_ok, peek_apply, position_apply, unit?, take_escape s c hr]

theorem readSequence_lineStart (hr : Paired r) :
    readSequence (fuel + 1) false first nodes (s.on ('^' :: r)) =
      readSequence fuel false first (.anchor .lineStart :: nodes) (s.on r) := by
  simp [readSequence, bind_apply, bind_ok, peek_apply, position_apply, unit?_char, take_char s _ hr]

theorem readSequence_lineEnd (hr : Paired r) :
    readSequence (fuel + 1) false first nodes (s.on ('$' :: r)) =
      readSequence fuel false first (.anchor .lineEnd :: nodes) (s.on r) := by
  simp [readSequence, bind_apply, bind_ok, peek_apply, position_apply, unit?_char, take_char s _ hr]

theorem readSequence_class (hr : Paired r) :
    readSequence (fuel + 1) false first nodes (s.on ('[' :: r)) =
      (readClass (s.on r)).bind fun p => readSequence fuel false first (p.1 :: nodes) p.2 := by
  simp [readSequence, bind_apply, bind_ok, peek_apply, position_apply, unit?_char, take_char s _ hr]

theorem readSequence_sign (hr : Paired r) {c : Char} (hc : c = '*' ∨ c = '+' ∨ c = '?' ∨ c = '\x7b') :
    readSequence (fuel + 1) false first nodes (s.on (c :: r)) =
      (readRepetition c nodes (s.on r)).bind fun p => readSequence fuel false first p.1 p.2 := by
  rcases hc with rfl | rfl | rfl | rfl <;>
    simp [readSequence, bind_apply, bind_ok, peek_apply, position_apply, unit?_char, take_char s _ hr]

end Units

/-! ## Classes -/

/-- The text of a class with a given body, or of its complement. -/
def bracketed (inside : Bool) (body : List Char) : List Char := '[' :: ((if inside then [] else ['^']) ++ body ++ [']'])

/-- The members that the reader finds in the body of a class without escapes: a hyphen between two characters
makes a range of them, which has to be in order. -/
def bodyItems? : List Char → Option (List Item)
  | [] => some []
  | a :: '-' :: b :: r => if b.toNat < a.toNat then none else (bodyItems? r).map (.range a.toNat b.toNat :: ·)
  | a :: r => (bodyItems? r).map (.code a.toNat :: ·)

/-- Characters that may stand in the body of a class without an escape. -/
def BodyChars (body : List Char) : Prop := ∀ c ∈ body, c ≠ ']' ∧ c ≠ '\\'

theorem BodyChars.paired {body r : List Char} (h : BodyChars body) (hr : Paired r) : Paired (body ++ ']' :: r) :=
  (Paired.of_not_mem fun hm => (h _ hm).2 rfl).append (.char (by decide) hr)

/-- One member is read, and then the others. -/
theorem readItems_code [CharacterNames] (s : State) (start fuel : Nat) {found : List Item} {a : Char}
    (ha : a ≠ ']' ∧ a ≠ '\\') {rest : List Char} (hrest : Paired rest) (hdash : rest.head? ≠ some '-') :
    readItems start (fuel + 1) found (s.on (a :: rest)) = readItems start fuel (found ++ [.code a.toNat]) (s.on rest) := by
  simp [readItems, readItem, bind_apply, bind_ok, pure_apply, take_char s ha.2 hrest, ha.1, accept_other s (unit?_ne hdash)]

theorem readItems_range [CharacterNames] (s : State) (start fuel : Nat) {found : List Item} {a b : Char}
    (ha : a ≠ ']' ∧ a ≠ '\\') (hb : b ≠ ']' ∧ b ≠ '\\') (hab : ¬b.toNat < a.toNat) {rest : List Char}
    (hrest : Paired rest) :
    readItems start (fuel + 1) found (s.on (a :: '-' :: b :: rest)) =
      readItems start fuel (found ++ [.range a.toNat b.toNat]) (s.on rest) := by
  have h1 : Paired (b :: rest) := .char hb.2 hrest
  have h2 : Paired ('-' :: b :: rest) := .char (by decide) h1
  simp [readItems, readItem, makeRange, bind_apply, bind_ok, pure_apply, take_char s ha.2 h2, ha.1,
    accept_here s (show '-' ≠ '\\' by decide) h1, take_char s hb.2 hrest, hb.1, hab]

/-- A hyphen before the closing bracket is a member. -/
theorem readItems_hyphen [CharacterNames] (s : State) (start fuel : Nat) {found : List Item} {a : Char}
    (ha : a ≠ ']' ∧ a ≠ '\\') {r : List Char} (hr : Paired r) :
    readItems start (fuel + 1) found (s.on (a :: '-' :: ']' :: r)) = .ok (found ++ [.code a.toNat, .code 45], s.on r) := by
  have h1 : Paired (']' :: r) := .char (by decide) hr
  have h2 : Paired ('-' :: ']' :: r) := .char (by decide) h1
  simp [readItems, readItem, bind_apply, bind_ok, pure_apply, take_char s ha.2 h2, ha.1,
    accept_here s (show '-' ≠ '\\' by decide) h1, take_char s _ hr]

theorem readItems_close [CharacterNames] (s : State) (start fuel : Nat) {found : List Item} (hne : found ≠ [])
    {r : List Char} (hr : Paired r) : readItems start (fuel + 1) found (s.on (']' :: r)) = .ok (found, s.on r) := by
  simp [readItems, bind_apply, bind_ok, pure_apply, take_char s _ hr, hne]

theorem readItems_body [CharacterNames] (s : State) (start : Nat) {r : List Char} (hr : Paired r) (fuel : Nat)
    (found : List Item) (body : List Char) (hbody : BodyChars body) (hne : found ≠ [] ∨ body ≠ [])
    (hfuel : body.length < fuel) {items : List Item} (h : bodyItems? body = some items) :
    readItems start fuel found (s.on (body ++ ']' :: r)) = .ok (found ++ items, s.on r) := by
  obtain ⟨fuel, rfl⟩ : ∃ n, fuel = n + 1 := ⟨fuel - 1, by omega⟩
  fun_induction bodyItems? body generalizing fuel found items with
  | case1 =>
    obtain rfl := Option.some.inj h
    rw [List.append_nil]
    exact readItems_close s start fuel (hne.resolve_right fun hn => hn rfl) hr
  | case2 a b body hab => cases h
  | case3 a b body hab ih =>
    obtain ⟨items, hitems, rfl⟩ := Option.map_eq_some_iff.1 h
    simp only [BodyChars, List.forall_mem_cons] at hbody
    obtain ⟨ha, -, hb, hbody⟩ := hbody
    simp only [List.length_cons] at hfuel
    obtain ⟨fuel, rfl⟩ : ∃ n, fuel = n + 1 := ⟨fuel - 1, by omega⟩
    show readItems start (fuel + 1 + 1) found (s.on (a :: '-' :: b :: (body ++ ']' :: r))) = _
    rw [readItems_range s start _ ha hb hab (BodyChars.paired hbody hr), ih _ hbody (.inl (by simp)) hitems _ (by omega),
      List.append_assoc]
    rfl
  | case4 a body hno ih =>
    obtain ⟨items, hitems, rfl⟩ := Option.map_eq_some_iff.1 h
    simp only [BodyChars, List.forall_mem_cons] at hbody
    obtain ⟨ha, hbody⟩ := hbody
    simp only [List.length_cons] at hfuel
    obtain ⟨fuel, rfl⟩ : ∃ n, fuel = n + 1 := ⟨fuel - 1, by omega⟩
    -- a hyphen that comes next and makes no range is the last of the body, and is read along with the bracket
    by_cases hdash : (body ++ ']' :: r).head? = some '-'
    · obtain rfl : body = ['-'] := by
        cases body with
        | nil => cases hdash
        | cons b rest =>
          obtain rfl : b = '-' := Option.some.inj hdash
          cases rest with
          | nil => rfl
          | cons b' rest => exact absurd rfl (hno b' rest)
      obtain rfl := Option.some.inj hitems
      exact readItems_hyphen s start _ ha hr
    · rw [List.cons_append, readItems_code s start _ ha (BodyChars.paired hbody hr) hdash,
        ih _ hbody (.inl (by simp)) hitems _ (by omega), List.append_assoc]
      rfl

theorem readClass_body [CharacterNames] (s : State) (inside : Bool) {body r : List Char} (hbody : BodyChars body)
    (hne : body ≠ []) (hcaret : body.head? ≠ some '^') (hr : Paired r) {items : List Item}
    (h : bodyItems? body = some items) :
    readClass (s.on ((if inside then [] else ['^']) ++ (body ++ ']' :: r))) = .ok (classNode items inside, s.on r) := by
  have hbr := hbody.paired hr
  have hlength : body.length < (body ++ ']' :: r).length + 1 := by
    rw [List.length_append]
    omega
  have hitems := fun start => readItems_body s start hr _ [] body hbody (.inr hne) hlength h
  cases inside with
  | false =>
    show readClass (s.on ('^' :: (body ++ ']' :: r))) = _
    simp only [readClass, bind_apply, bind_ok, position_apply, get_apply, State.on_rest,
      accept_here s (show '^' ≠ '\\' by decide) hbr, hitems]
    rfl
  | true =>
    show readClass (s.on (body ++ ']' :: r)) = _
    have hno : unit? (body ++ ']' :: r) ≠ some (.char '^') := by
      refine unit?_ne ?_
      cases body with
      | nil => exact absurd rfl hne
      | cons c body => exact hcaret
    simp only [readClass, bind_apply, bind_ok, position_apply, get_apply, State.on_rest, accept_other s hno, hitems]
    rfl

theorem readSequence_bracketed [CharacterNames] (s : State) (fuel : Nat) (first : Bool) (nodes : List Node)
    (inside : Bool) {body r : List Char} (hbody : BodyChars body) (hne : body ≠ []) (hcaret : body.head? ≠ some '^')
    (hr : Paired r) {items : List Item} (h : bodyItems? body = some items) :
    readSequence (fuel + 1) false first nodes (s.on (bracketed inside body ++ r)) =
      readSequence fuel false first (classNode items inside :: nodes) (s.on r) := by
  have hpaired : Paired ((if inside then [] else ['^']) ++ (body ++ ']' :: r)) := by
    refine Paired.append ?_ (hbody.paired hr)
    cases inside <;> exact .of_not_mem (by decide)
  have htext : bracketed inside body ++ r = '[' :: ((if inside then [] else ['^']) ++ (body ++ ']' :: r)) := by
    simp [bracketed]
  rw [htext, readSequence_class s fuel first nodes hpaired, readClass_body s inside hbody hne hcaret hr h]
  rfl

/-- An escape in a class is one member, unless a hyphen follows. -/
theorem readItems_escape [CharacterNames] (s : State) (start fuel : Nat) {found : List Item} {c : Char} {item : Item}
    {r : List Char} (hr : Paired r) (hdash : r.head? ≠ some '-')
    (hitem : readClassEscape c (s.on r) = .ok (item, s.on r)) :
    readItems start (fuel + 1) found (s.on ('\\' :: c :: r)) = readItems start fuel (found ++ [item]) (s.on r) := by
  simp [readItems, readItem, bind_apply, bind_ok, take_escape s c hr, hitem, accept_other s (unit?_ne hdash)]

/-- The class of all characters. -/
theorem readClass_all [CharacterNames] (s : State) {r : List Char} (hr : Paired r) :
    readClass (s.on ('\\' :: 's' :: '\\' :: 'S' :: ']' :: r)) =
      .ok (.set [.kind .space true, .kind .space false] true, s.on r) := by
  have h1 : Paired (']' :: r) := .char (by decide) hr
  have h2 : Paired ('\\' :: 'S' :: ']' :: r) := .escape h1
  have hitems : ∀ start fuel, readItems start (fuel + 3) [] (s.on ('\\' :: 's' :: '\\' :: 'S' :: ']' :: r)) =
      .ok ([.kind .space true, .kind .space false], s.on r) := by
    intro start fuel
    have hspace : ∀ r, readClassEscape 's' (s.on r) = .ok (.kind .space true, s.on r) := fun _ => rfl
    have hother : ∀ r, readClassEscape 'S' (s.on r) = .ok (.kind .space false, s.on r) := fun _ => rfl
    rw [readItems_escape s start (fuel + 2) h2 nofun (hspace _), readItems_escape s start (fuel + 1) h1 nofun (hother _),
      readItems_close s start fuel (by simp) hr]
    rfl
  have hcaret : accept '^' (s.on ('\\' :: 's' :: '\\' :: 'S' :: ']' :: r)) =
      .ok (false, s.on ('\\' :: 's' :: '\\' :: 'S' :: ']' :: r)) := accept_other s nofun
  simp only [readClass, bind_apply, bind_ok, position_apply, get_apply, hcaret]
  rw [State.on_rest, show ('\\' :: 's' :: '\\' :: 'S' :: ']' :: r).length + 1 = r.length + 3 + 3 from rfl, hitems]
  rfl

/-! ## Repetition -/

/-- A node that a repetition may follow. -/
structure Node.Repeatable (n : Node) : Prop where
  anchor : ∀ a, n ≠ .anchor a
  rep : ∀ greed least most body, n ≠ .rep greed least most body

/-- What follows is no sign that belongs to a repetition. -/
structure Complete (r : List Char) : Prop where
  paired : Paired r
  lazy : r.head? ≠ some '?'
  possessive : r.head? ≠ some '+'

theorem readGreed_greedy (s : State) {r : List Char} (hr : Complete r) : readGreed (s.on r) = .ok (.greedy, s.on r) := by
  simp [readGreed, bind_apply, bind_ok, pure_apply, accept_other s (unit?_ne hr.lazy), accept_other s (unit?_ne hr.possessive)]

/-- The last node becomes the body of a repetition; a group without a number is left out. -/
theorem repeatLast_greedy (s : State) {r : List Char} (hr : Complete r) (start least : Nat) (most : Option Nat)
    (nodes : List Node) {n : Node} (hn : n.Plain) (hrep : n.Repeatable) :
    ∃ body, body.Plain ∧ (∀ text i j, body.Spans text i j ↔ n.Spans text i j) ∧
      repeatLast start least most (n :: nodes) (s.on r) = .ok (.rep .greedy least most body :: nodes, s.on r) := by
  have hread : ∀ body, ((do return .rep (← readGreed) least most body :: nodes) : Reading (List Node)) (s.on r) =
      .ok (.rep .greedy least most body :: nodes, s.on r) := by
    intro body
    rw [bind_apply, readGreed_greedy s hr]
    rfl
  cases n with
  | anchor a => exact absurd rfl (hrep.anchor a)
  | rep greed least most body => exact absurd rfl (hrep.rep greed least most body)
  | withFlags on off body =>
    obtain ⟨rfl, rfl, hbody⟩ := hn
    exact ⟨body, hbody, fun _ _ _ => Iff.rfl, hread body⟩
  | atomic | backref | cond | lookbehind => exact hn.elim
  | _ => exact ⟨_, hn, fun _ _ _ => Iff.rfl, hread _⟩

theorem isDecimalDigit_ne {c d : Char} (hc : isDecimalDigit c = true) (hd : isDecimalDigit d = false) : c ≠ d := by
  rintro rfl
  rw [hc] at hd
  cases hd

theorem head?_ne_of_isDigits {ds r : List Char} (hds : IsDigits ds) (hne : ds ≠ []) {c : Char}
    (hc : isDecimalDigit c = false) :
    (ds ++ r).head? ≠ some c := by
  cases ds with
  | nil => exact absurd rfl hne
  | cons d ds => exact fun h => isDecimalDigit_ne (hds d List.mem_cons_self) hc (Option.some.inj h)

theorem paired_of_isDigits {ds r : List Char} (hds : IsDigits ds) (hr : Paired r) : Paired (ds ++ r) :=
  (Paired.of_not_mem fun hm => isDecimalDigit_ne (hds _ hm) (by decide) rfl).append hr

theorem takeSome_digits (s : State) {ds r : List Char} (hds : IsDigits ds) {c : Char} (hc : isDecimalDigit c = false)
    (hslash : c ≠ '\\') (hr : Paired r) {count : Nat} (hcount : ds.length < count) :
    takeSome isDecimalDigit count (s.on (ds ++ c :: r)) = .ok (ds, s.on (c :: r)) := by
  induction ds generalizing count with
  | nil =>
    obtain ⟨count, rfl⟩ : ∃ n, count = n + 1 := ⟨count - 1, by omega⟩
    simp [takeSome, bind_apply, bind_ok, pure_apply, peek_apply, unit?_char hslash, hc]
  | cons d ds ih =>
    obtain ⟨count, rfl⟩ : ∃ n, count = n + 1 := ⟨count - 1, by omega⟩
    obtain ⟨hd, hds⟩ := List.forall_mem_cons.1 hds
    have hne : d ≠ '\\' := isDecimalDigit_ne hd (by decide)
    have hrest : Paired (ds ++ c :: r) := paired_of_isDigits hds (.char hslash hr)
    simp only [List.length_cons] at hcount
    have hds' : takeSome isDecimalDigit count (s.on (ds ++ c :: r)) = .ok (ds, s.on (c :: r)) := ih hds (by omega)
    simp [takeSome, bind_apply, map_apply, bind_ok, peek_apply, unit?_char hne, hd, take_char s hne hrest, hds']

theorem takeAll_digits (s : State) {ds r : List Char} (hds : IsDigits ds) {c : Char} (hc : isDecimalDigit c = false)
    (hslash : c ≠ '\\') (hr : Paired r) :
    takeAll isDecimalDigit (s.on (ds ++ c :: r)) = .ok (ds, s.on (c :: r)) := by
  rw [takeAll, bind_apply, get_apply, bind_ok]
  exact takeSome_digits s hds hc hslash hr (by simp)

theorem readCount_digits (s : State) {ds : List Char} (hne : ds ≠ []) {default : Option Nat}
    (hlimit : ofDigits 10 ds < repetitionLimit) : readCount ds default s = .ok (some (ofDigits 10 ds), s) := by
  simp [readCount, hne, Nat.not_le.2 hlimit, pure_apply]

section Bounds

variable (s : State) {lo hi r : List Char} (hlo : IsDigits lo) (hne : lo ≠ []) (hr : Paired r)
  (hlimit : ofDigits 10 lo < repetitionLimit)
include hlo hne hr hlimit

theorem readBounds_exactly : readBounds (s.on (lo ++ '\x7d' :: r)) =
    .ok (some (ofDigits 10 lo, some (ofDigits 10 lo)), s.on r) := by
  have hpeek : unit? (lo ++ '\x7d' :: r) ≠ some (.char '\x7d') := unit?_ne (head?_ne_of_isDigits hlo hne (by decide))
  have hdigits := takeAll_digits s hlo (c := '\x7d') (by decide) (by decide) hr
  have hcomma : accept ',' (s.on ('\x7d' :: r)) = .ok (false, s.on ('\x7d' :: r)) := accept_other s (unit?_ne nofun)
  have hbrace := accept_here s (show '\x7d' ≠ '\\' by decide) hr
  simp [readBounds, bind_apply, bind_ok, pure_apply, get_apply, peek_apply, hpeek, hdigits, hcomma, hbrace,
    readCount_digits _ hne hlimit]

theorem readBounds_atLeast :
    readBounds (s.on (lo ++ ',' :: '\x7d' :: r)) = .ok (some (ofDigits 10 lo, none), s.on r) := by
  have hpeek : unit? (lo ++ ',' :: '\x7d' :: r) ≠ some (.char '\x7d') :=
    unit?_ne (head?_ne_of_isDigits hlo hne (by decide))
  have h1 : Paired ('\x7d' :: r) := .char (by decide) hr
  have hdigits := takeAll_digits s hlo (c := ',') (by decide) (by decide) h1
  have hcomma := accept_here s (show ',' ≠ '\\' by decide) h1
  have hnone := takeAll_digits s (show IsDigits [] from nofun) (show isDecimalDigit '\x7d' = false by decide) (by decide) hr
  have hbrace := accept_here s (show '\x7d' ≠ '\\' by decide) hr
  simp only [List.nil_append] at hnone
  have hopen : readCount [] none (s.on r) = .ok (none, s.on r) := rfl
  simp [readBounds, bind_apply, bind_ok, pure_apply, get_apply, peek_apply, hpeek, hdigits, hcomma, hnone, hbrace,
    readCount_digits _ hne hlimit, hopen]

theorem readBounds_between (hhi : IsDigits hi) (hne' : hi ≠ []) (hlimit' : ofDigits 10 hi < repetitionLimit)
    (hle : ofDigits 10 lo ≤ ofDigits 10 hi) :
    readBounds (s.on (lo ++ ',' :: (hi ++ '\x7d' :: r))) =
      .ok (some (ofDigits 10 lo, some (ofDigits 10 hi)), s.on r) := by
  have hpeek : unit? (lo ++ ',' :: (hi ++ '\x7d' :: r)) ≠ some (.char '\x7d') :=
    unit?_ne (head?_ne_of_isDigits hlo hne (by decide))
  have h1 : Paired (hi ++ '\x7d' :: r) := paired_of_isDigits hhi (.char (by decide) hr)
  have hdigits := takeAll_digits s hlo (c := ',') (by decide) (by decide) h1
  have hcomma := accept_here s (show ',' ≠ '\\' by decide) h1
  have hdigits' := takeAll_digits s hhi (c := '\x7d') (by decide) (by decide) hr
  have hbrace := accept_here s (show '\x7d' ≠ '\\' by decide) hr
  simp [readBounds, bind_apply, bind_ok, pure_apply, get_apply, peek_apply, hpeek, hdigits, hcomma, hdigits', hbrace,
    readCount_digits _ hne hlimit, readCount_digits _ hne' hlimit', Nat.not_lt.2 hle]

end Bounds

theorem readRepetition_bounds (s : State) {t r : List Char} {least : Nat} {most : Option Nat}
    (h : readBounds (s.on t) = .ok (some (least, most), s.on r)) (nodes : List Node) :
    ∃ start, readRepetition '\x7b' nodes (s.on t) = repeatLast start least most nodes (s.on r) := by
  refine ⟨(s.on t).position - 1, ?_⟩
  simp [readRepetition, bind_apply, bind_ok, position_apply, h]

/-! ## Groups -/

/-- A group of the kinds that plain patterns have. -/
inductive Opening.Known : Opening → Prop where
  | capture : Known (.capture none)
  | plain : Known (.plain [] [])
  | notAhead : Known (.look true false)

theorem readOpening_capture (s : State) (start : Nat) {r : List Char} (h : r.head? ≠ some '?') :
    readOpening start (s.on r) = .ok (.capture none, s.on r) := by
  simp [readOpening, bind_apply, bind_ok, pure_apply, accept_other s (unit?_ne h)]

theorem readOpening_plain (s : State) (start : Nat) {r : List Char} (hr : Paired r) :
    readOpening start (s.on ('?' :: ':' :: r)) = .ok (.plain [] [], s.on r) := by
  have h1 : Paired (':' :: r) := .char (by decide) hr
  simp [readOpening, readExtension, bind_apply, bind_ok, pure_apply, accept_here s (show '?' ≠ '\\' by decide) h1,
    take_char s _ hr]

theorem readOpening_notAhead (s : State) (start : Nat) {r : List Char} (hr : Paired r) :
    readOpening start (s.on ('?' :: '!' :: r)) = .ok (.look true false, s.on r) := by
  have h1 : Paired ('!' :: r) := .char (by decide) hr
  simp [readOpening, readExtension, bind_apply, bind_ok, pure_apply, accept_here s (show '?' ≠ '\\' by decide) h1,
    take_char s _ hr]

theorem readSequence_group [CharacterNames] (s : State) (fuel : Nat) (first : Bool) (nodes : List Node)
    {r r' : List Char} (hr : Paired r) {opening : Opening} (hknown : opening.Known)
    (hopen : ∀ start, readOpening start (s.on r) = .ok (opening, s.on r')) :
    ∃ start, readSequence (fuel + 1) false first nodes (s.on ('(' :: r)) =
      (readGroup fuel false start opening (s.on r')).bind fun p => readSequence fuel false first (p.1 :: nodes) p.2 := by
  refine ⟨(s.on ('(' :: r)).position, ?_⟩
  cases hknown <;>
    simp [readSequence, bind_apply, bind_ok, peek_apply, position_apply, unit?_char, take_char s _ hr, hopen]

/-- The state inside a group with a number. -/
def State.opened (s : State) : State := { s with widths := s.widths ++ [none] }

/-- The state after a group with a number. -/
def State.closed (s : State) (number : Nat) (body : Node) : State :=
  { s with widths := s.widths.set (number - 1) (some body.width) }

section Contents

variable {s s' : State} {fuel : Nat} {t r : List Char} {branches : List (List Node)} (hr : Paired r)
include hr

theorem expectClose_here (s : State) (start : Nat) : expectClose start (s.on (')' :: r)) = .ok ((), s.on r) := by
  simp [expectClose, bind_apply, bind_ok, pure_apply, accept_here s (show ')' ≠ '\\' by decide) hr]

theorem readGroup_plain [CharacterNames]
    (h : readBranches false fuel false false (s.on t) = .ok (branches, s'.on (')' :: r))) (start : Nat) :
    readGroup (fuel + 1) false start (.plain [] []) (s.on t) =
      .ok (.withFlags [] [] (ofBranches branches), s'.on r) := by
  simp [readGroup, bind_apply, bind_ok, map_apply, h, expectClose_here hr s']

theorem readGroup_notAhead [CharacterNames]
    (h : readBranches false fuel false false (s.on t) = .ok (branches, s'.on (')' :: r))) (start : Nat) :
    readGroup (fuel + 1) false start (.look true false) (s.on t) =
      .ok (.lookahead (ofBranches branches) false, s'.on r) := by
  simp [readGroup, bind_apply, bind_ok, map_apply, h, expectClose_here hr s']

theorem readGroup_capture [CharacterNames]
    (h : readBranches false fuel false false (s.opened.on t) = .ok (branches, s'.on (')' :: r))) (start : Nat) :
    readGroup (fuel + 1) false start (.capture none) (s.on t) =
      .ok (.group s.groups (ofBranches branches), (s'.closed s.groups (ofBranches branches)).on r) := by
  have hopen : openGroup none (s.on t) = .ok (s.groups, s.opened.on t) := rfl
  simp only [readGroup, bind_apply, bind_ok, hopen, h, expectClose_here hr s']
  rfl

end Contents

/-! ## Alternatives -/

section Branches

variable [CharacterNames] {s s' : State} {fuel : Nat} {outermost first : Bool} {t r : List Char} {nodes : List Node}

theorem readBranches_last (h : readSequence fuel false (outermost && first) [] (s.on t) = .ok (nodes, s'.on r))
    (hbar : r.head? ≠ some '|') : readBranches outermost (fuel + 1) false first (s.on t) = .ok ([nodes], s'.on r) := by
  simp [readBranches, bind_apply, bind_ok, pure_apply, h, accept_other s' (unit?_ne hbar)]

theorem readBranches_bar (h : readSequence fuel false (outermost && first) [] (s.on t) = .ok (nodes, s'.on ('|' :: r)))
    (hr : Paired r) (hflags : s'.flags = []) : readBranches outermost (fuel + 1) false first (s.on t) =
      (readBranches outermost fuel false false (s'.on r)).bind fun p => .ok (nodes :: p.1, p.2) := by
  have hverbose : (s'.on r).isVerbose = false := by simp [State.isVerbose, State.on, hflags]
  simp [readBranches, bind_apply, bind_ok, map_apply, get_apply, h, accept_here s' (show '|' ≠ '\\' by decide) hr, hverbose]

end Branches

/-! ## Whole texts -/

/-- The reader before a text. -/
def State.before (text : List Char) : State := ⟨text.length, text, [], [], none, [], []⟩

theorem read_of_branches [CharacterNames] {text : List Char} (hpaired : Paired text) {s : State}
    {branches : List (List Node)}
    (h : readBranches true (2 * text.length + 4) false true (State.before text) = .ok (branches, s.on []))
    (hflags : s.flags = []) (hpending : s.pending = []) (hplain : (ofBranches branches).Plain) :
    read text = .ok ⟨ofBranches branches, standard⟩ := by
  have hmove : moveTo text (State.before text) = .ok ((), State.before text) := moveTo_apply _ hpaired
  have hwhole : readWhole (State.before text) = .ok (ofBranches branches, s.on []) := by
    simp only [readWhole, bind_apply, bind_ok, get_apply, pure_apply]
    show (moveTo text (State.before text)).bind _ = _
    rw [hmove, bind_ok]
    show (readBranches true (2 * text.length + 4) false true (State.before text)).bind _ = _
    rw [h]
    rfl
  have hflags' : (s.on []).flags = [] := hflags
  have hpending' : (s.on []).pending = [] := hpending
  rw [State.before] at hwhole
  rw [read, hwhole]
  simp [hflags', hpending', Node.defect?_of_plain hplain]

end WebForm.Pattern
