/-
How the reader puts nodes together: a list of nodes matches what its members match one after another,
taking groups without a number apart changes nothing, and alternatives match what one of them matches,
although what they start with is shared and single characters become a class.
-/
import WebForm.Pattern.Reader
import WebForm.Proofs.Pattern.Spans
import WebForm.Proofs.Value

namespace WebForm.Pattern

/-! ## Nodes one after another -/

/-- The stretches that nodes match one after another. -/
def SpansAll (text : Array Char) : List Node → Nat → Nat → Prop
  | [], i, j => i = j
  | n :: rest, i, j => ∃ k, n.Spans text i k ∧ SpansAll text rest k j

/-- Whether every node of a list is plain. -/
def AllPlain (nodes : List Node) : Prop := ∀ n ∈ nodes, n.Plain

theorem allPlain_cons {n : Node} {nodes : List Node} : AllPlain (n :: nodes) ↔ n.Plain ∧ AllPlain nodes :=
  List.forall_mem_cons

theorem allPlain_append {xs ys : List Node} : AllPlain (xs ++ ys) ↔ AllPlain xs ∧ AllPlain ys :=
  List.forall_mem_append

theorem spansAll_append (text : Array Char) (xs ys : List Node) (i j : Nat) :
    SpansAll text (xs ++ ys) i j ↔ ∃ k, SpansAll text xs i k ∧ SpansAll text ys k j := by
  induction xs generalizing i with
  | nil => simp [SpansAll]
  | cons n xs ih =>
    simp only [List.cons_append, SpansAll, ih]
    constructor
    · rintro ⟨k, hk, l, hl, hj⟩
      exact ⟨l, ⟨k, hk, hl⟩, hj⟩
    · rintro ⟨l, ⟨k, hk, hl⟩, hj⟩
      exact ⟨k, hk, l, hl, hj⟩

theorem spansAll_singleton (text : Array Char) (n : Node) (i j : Nat) : SpansAll text [n] i j ↔ n.Spans text i j := by
  simp [SpansAll]

namespace Node

theorem spans_ofList (text : Array Char) (nodes : List Node) (i j : Nat) :
    (ofList nodes).Spans text i j ↔ SpansAll text nodes i j := by
  induction nodes generalizing i with
  | nil => rfl
  | cons n rest ih =>
    cases rest with
    | nil => exact (spansAll_singleton text n i j).symm
    | cons n' rest => exact exists_congr fun k => and_congr_right fun _ => ih k

theorem plain_ofList {nodes : List Node} (h : AllPlain nodes) : (ofList nodes).Plain := by
  induction nodes with
  | nil => trivial
  | cons n rest ih =>
    obtain ⟨hn, hrest⟩ := allPlain_cons.1 h
    cases rest with
    | nil => exact hn
    | cons n' rest => exact ⟨hn, ih hrest⟩

/-- The parts of a node match one after another what it matches. -/
theorem spansAll_parts (text : Array Char) (n : Node) (i j : Nat) : SpansAll text n.parts i j ↔ n.Spans text i j := by
  fun_induction parts n generalizing i j with
  | case1 => rfl
  | case2 a b iha ihb =>
    rw [spansAll_append]
    exact exists_congr fun k => and_congr (iha i k) (ihb k j)
  | case3 b ih => exact ih i j
  | case4 n => exact spansAll_singleton text n i j

theorem allPlain_parts {n : Node} (h : n.Plain) : AllPlain n.parts := by
  fun_induction parts n with
  | case1 => exact fun _ hm => absurd hm List.not_mem_nil
  | case2 a b iha ihb => exact allPlain_append.2 ⟨iha h.1, ihb h.2⟩
  | case3 b ih => exact ih h.2.2
  | case4 n => exact fun _ hm => List.mem_singleton.1 hm ▸ h

/-- The checks on the whole tree find nothing in a plain node. -/
theorem defect?_of_plain {n : Node} (h : n.Plain) : n.defect? false = none := by
  induction n with
  | empty | char | any | set | anchor | backref => rfl
  | seq a b iha ihb | alt a b iha ihb =>
    show (a.defect? false).or (b.defect? false) = none
    rw [iha h.1, ihb h.2]
    rfl
  | group _ b ih | lookahead b _ ih => exact ih h
  | withFlags _ _ b ih => exact ih h.2.2
  | rep _ _ _ b ih => exact ih h.2.2
  | atomic | cond | lookbehind => exact h.elim

end Node

theorem spansAll_flatMap_parts (text : Array Char) (nodes : List Node) (i j : Nat) :
    SpansAll text (nodes.flatMap Node.parts) i j ↔ SpansAll text nodes i j := by
  induction nodes generalizing i with
  | nil => rfl
  | cons n rest ih =>
    rw [List.flatMap_cons, spansAll_append]
    exact exists_congr fun k => and_congr (n.spansAll_parts text i k) (ih k)

theorem allPlain_flatMap_parts {nodes : List Node} (h : AllPlain nodes) : AllPlain (nodes.flatMap Node.parts) := by
  intro n hn
  obtain ⟨m, hm, hn⟩ := List.mem_flatMap.1 hn
  exact Node.allPlain_parts (h m hm) n hn

/-! ## Classes -/

theorem itemsHold_standard (items : List Item) (c : Char) :
    itemsHold standard items c = items.any (·.holds false c) := rfl

theorem itemsHold_eraseDups (items : List Item) (c : Char) :
    itemsHold standard items.eraseDups c = itemsHold standard items c := by
  rw [itemsHold_standard, itemsHold_standard, Bool.eq_iff_iff, List.any_eq_true, List.any_eq_true]
  simp only [List.mem_eraseDups]

theorem charHolds_standard (n : Nat) : charHolds standard n = itemsHold standard [.code n] := by
  funext c
  rw [itemsHold_standard]
  simp [charHolds, Item.holds, Mode.ofFlags]

/-- A class matches one character that its members take, or one that they do not. -/
theorem spans_classNode (text : Array Char) (items : List Item) (inside : Bool) (i j : Nat) :
    (classNode items inside).Spans text i j ↔ Takes text (fun c => itemsHold standard items c == inside) i j := by
  have hdups : itemsHold standard items.eraseDups = itemsHold standard items := funext (itemsHold_eraseDups items)
  unfold classNode
  rw [← hdups]
  split
  · rename_i n h
    rw [h, ← charHolds_standard]
    rfl
  · rfl

theorem plain_classNode (items : List Item) (inside : Bool) : (classNode items inside).Plain := by
  unfold classNode
  split <;> trivial

/-! ## Alternatives -/

/-- What alternatives match: what one of them does. -/
def SpansSome (text : Array Char) (branches : List (List Node)) (i j : Nat) : Prop :=
  ∃ nodes ∈ branches, SpansAll text nodes i j

theorem spansSome_cons (text : Array Char) (nodes : List Node) (rest : List (List Node)) (i j : Nat) :
    SpansSome text (nodes :: rest) i j ↔ SpansAll text nodes i j ∨ SpansSome text rest i j := by
  unfold SpansSome
  rw [List.exists_mem_cons_iff]

theorem take_sharedLength (first : List Node) (others : List (List Node)) :
    ∀ nodes ∈ others, nodes.take (sharedLength first others) = first.take (sharedLength first others) := by
  induction first generalizing others with
  | nil => simp [sharedLength]
  | cons n first ih =>
    intro nodes hnodes
    unfold sharedLength
    split
    · rename_i h
      have hhead : nodes.head? = some n := by
        simpa using List.all_eq_true.1 (Bool.and_eq_true_iff.1 h).2 nodes hnodes
      obtain ⟨rest, rfl⟩ := List.head?_eq_some_iff.1 hhead
      have := ih (others.map List.tail) rest (List.mem_map.2 ⟨n :: rest, hnodes, rfl⟩)
      rw [Nat.add_comm, List.take_succ_cons, List.take_succ_cons, this]
    · simp

theorem spans_branchNode (text : Array Char) (nodes : List Node) (i j : Nat) :
    (branchNode nodes).Spans text i j ↔ SpansAll text nodes i j := by
  rw [← Node.spans_ofList]
  unfold branchNode
  split
  · rename_i a b h
    rw [h]
    rfl
  · rfl

theorem plain_branchNode {nodes : List Node} (h : AllPlain nodes) : (branchNode nodes).Plain := by
  have hlist := Node.plain_ofList h
  unfold branchNode
  split
  · rename_i a b he
    rw [he] at hlist
    exact ⟨rfl, rfl, hlist⟩
  · exact hlist

theorem spans_choice (text : Array Char) {branches : List (List Node)} (hne : branches ≠ []) (i j : Nat) :
    (choice branches).Spans text i j ↔ SpansSome text branches i j := by
  induction branches with
  | nil => exact absurd rfl hne
  | cons nodes rest ih =>
    cases rest with
    | nil => simp [choice, SpansSome, spans_branchNode]
    | cons nodes' rest =>
      show ((branchNode nodes).Spans text i j ∨ (choice (nodes' :: rest)).Spans text i j) ↔ _
      rw [spans_branchNode, ih (List.cons_ne_nil _ _), spansSome_cons text nodes]

theorem plain_choice {branches : List (List Node)} (h : ∀ nodes ∈ branches, AllPlain nodes) :
    (choice branches).Plain := by
  induction branches with
  | nil => trivial
  | cons nodes rest ih =>
    obtain ⟨hn, hrest⟩ := List.forall_mem_cons.1 h
    cases rest with
    | nil => exact plain_branchNode hn
    | cons nodes' rest => exact ⟨plain_branchNode hn, ih hrest⟩

/-- A branch that stands for class members matches one character that they take. -/
theorem spansAll_of_branchItems? (text : Array Char) {nodes : List Node} {items : List Item}
    (h : branchItems? nodes = some items) (i j : Nat) :
    SpansAll text nodes i j ↔ Takes text (itemsHold standard items) i j := by
  unfold branchItems? at h
  split at h
  · rename_i n
    obtain rfl := Option.some.inj h
    rw [spansAll_singleton, ← charHolds_standard]
    simp [Node.Spans]
  · rename_i items'
    obtain rfl := Option.some.inj h
    rw [spansAll_singleton]
    simp [Node.Spans]
  · cases h

/-- Branches that stand for class members match one character that any of them takes. -/
theorem spansSome_of_branchItems? (text : Array Char) {branches : List (List Node)} {items : List (List Item)}
    (h : List.Forall₂ (fun nodes its => branchItems? nodes = some its) branches items) (i j : Nat) :
    SpansSome text branches i j ↔ Takes text (itemsHold standard items.flatten) i j := by
  induction h with
  | nil =>
    constructor
    · rintro ⟨nodes, hm, -⟩
      cases hm
    · rintro ⟨-, c, -, hc⟩
      cases hc
  | @cons nodes its branches items hn _ ih =>
    rw [spansSome_cons, ih, spansAll_of_branchItems? text hn, List.flatten_cons]
    simp only [Takes, itemsHold_standard, List.any_append, Bool.or_eq_true]
    constructor
    · rintro (⟨hj, c, hc, h⟩ | ⟨hj, c, hc, h⟩)
      · exact ⟨hj, c, hc, .inl h⟩
      · exact ⟨hj, c, hc, .inr h⟩
    · rintro ⟨hj, c, hc, h | h⟩
      · exact .inl ⟨hj, c, hc, h⟩
      · exact .inr ⟨hj, c, hc, h⟩

/-- Alternatives that have their start taken off. -/
theorem spansSome_drop (text : Array Char) {start : List Node} {count : Nat} {branches : List (List Node)}
    (h : ∀ nodes ∈ branches, nodes.take count = start) (i j : Nat) :
    SpansSome text branches i j ↔ ∃ k, SpansAll text start i k ∧ SpansSome text (branches.map (List.drop count)) k j := by
  have hsplit : ∀ nodes ∈ branches, SpansAll text nodes i j ↔
      ∃ k, SpansAll text start i k ∧ SpansAll text (nodes.drop count) k j := by
    intro nodes hn
    rw [← spansAll_append, ← h nodes hn, List.take_append_drop]
  constructor
  · rintro ⟨nodes, hn, hs⟩
    obtain ⟨k, hk, hj⟩ := (hsplit nodes hn).1 hs
    exact ⟨k, hk, _, List.mem_map.2 ⟨nodes, hn, rfl⟩, hj⟩
  · rintro ⟨k, hk, _, hm, hj⟩
    obtain ⟨nodes, hn, rfl⟩ := List.mem_map.1 hm
    exact ⟨nodes, hn, (hsplit nodes hn).2 ⟨k, hk, hj⟩⟩

/-- What is left of several branches as one node: a class if all of them are single characters, else a choice. -/
def lastOf (rests : List (List Node)) : Node :=
  match rests.mapM branchItems? with
  | some items => .set items.flatten.eraseDups true
  | none => choice rests

theorem spans_lastOf (text : Array Char) {rests : List (List Node)} (hne : rests ≠ []) (i j : Nat) :
    (lastOf rests).Spans text i j ↔ SpansSome text rests i j := by
  unfold lastOf
  cases h : rests.mapM branchItems? with
  | none => exact spans_choice text hne i j
  | some items =>
    rw [spansSome_of_branchItems? text (mapM_eq_some_iff.1 h)]
    show Takes text (fun c => itemsHold standard items.flatten.eraseDups c == true) i j ↔ _
    simp only [itemsHold_eraseDups, beq_true]

theorem plain_lastOf {rests : List (List Node)} (h : ∀ nodes ∈ rests, AllPlain nodes) : (lastOf rests).Plain := by
  unfold lastOf
  split
  · trivial
  · exact plain_choice h

theorem ofBranches_cons_cons (first second : List Node) (others : List (List Node)) :
    ofBranches (first :: second :: others) =
      .ofList (first.take (sharedLength first (second :: others)) ++
        [lastOf ((first :: second :: others).map (List.drop (sharedLength first (second :: others))))]) := rfl

theorem spans_ofBranches (text : Array Char) {branches : List (List Node)} (hne : branches ≠ []) (i j : Nat) :
    (ofBranches branches).Spans text i j ↔ SpansSome text branches i j := by
  cases branches with
  | nil => exact absurd rfl hne
  | cons first others =>
    cases others with
    | nil =>
      show (Node.ofList first).Spans text i j ↔ _
      simp [Node.spans_ofList, SpansSome]
    | cons second others =>
      -- what is taken off as shared is the start of every branch
      have htake : ∀ nodes ∈ first :: second :: others,
          nodes.take (sharedLength first (second :: others)) = first.take (sharedLength first (second :: others)) :=
        List.forall_mem_cons.2 ⟨rfl, take_sharedLength first (second :: others)⟩
      rw [ofBranches_cons_cons, Node.spans_ofList, spansAll_append, spansSome_drop text htake]
      refine exists_congr fun k => and_congr_right fun _ => ?_
      rw [spansAll_singleton, spans_lastOf text (by simp)]

theorem plain_ofBranches {branches : List (List Node)} (h : ∀ nodes ∈ branches, AllPlain nodes) :
    (ofBranches branches).Plain := by
  cases branches with
  | nil => trivial
  | cons first others =>
    cases others with
    | nil => exact Node.plain_ofList (h first List.mem_cons_self)
    | cons second others =>
      rw [ofBranches_cons_cons]
      refine Node.plain_ofList (allPlain_append.2 ⟨?_, ?_⟩)
      · exact fun n hn => h first List.mem_cons_self n (List.mem_of_mem_take hn)
      · refine fun n hn => List.mem_singleton.1 hn ▸ plain_lastOf fun nodes hm => ?_
        obtain ⟨branch, hb, rfl⟩ := List.mem_map.1 hm
        exact fun n hn => h branch hb n (List.mem_of_mem_drop hn)

end WebForm.Pattern
