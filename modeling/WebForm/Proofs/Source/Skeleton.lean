/-
The skeleton of source text: what is left once the contents of literals are taken out, and block comments
where the language knows them. A scan goes over the text character by character and knows nothing of the
pieces that the text was made of. Source whose pieces keep their texts to themselves scans to its own
code, with its literals left empty and its comments gone, and the scan ends in code.
-/
import WebForm.Proofs.Source.Zod

namespace WebForm

/-! ## Scanning -/

/-- Where a scan of source text stands. -/
inductive Skeleton.Place where
  | code
  | literal
  | comment
deriving DecidableEq

/-- What a scan keeps of a text, and where it ends. -/
structure Skeleton where
  kept : List Char
  place : Skeleton.Place
deriving DecidableEq

namespace Skeleton

/-- A skeleton with characters in front of it. -/
def keep (cs : List Char) (s : Skeleton) : Skeleton := ⟨cs ++ s.kept, s.place⟩

/-- Scans text from a place on. A double quote opens a literal in code and closes it; in a literal a
backslash escapes the character after it. Where comments are known, one goes from `/*` in code to the next
`*/`. All code is kept, and of literals the two quotes. -/
def scan (comments : Bool) : Place → List Char → Skeleton
  | .code, '"' :: r => (scan comments .literal r).keep ['"']
  | .code, '/' :: '*' :: r =>
    if comments then scan comments .comment r else (scan comments .code r).keep ['/', '*']
  | .code, c :: r => (scan comments .code r).keep [c]
  | .literal, '\\' :: _ :: r => scan comments .literal r
  | .literal, '"' :: r => (scan comments .code r).keep ['"']
  | .literal, _ :: r => scan comments .literal r
  | .comment, '*' :: '/' :: r => scan comments .code r
  | .comment, _ :: r => scan comments .comment r
  | place, [] => ⟨[], place⟩

/-- The skeleton of a text. -/
def ofText (comments : Bool) (text : String) : Skeleton := scan comments .code text.toList

variable {comments : Bool}

@[simp] theorem keep_keep (cs ds : List Char) (s : Skeleton) : (s.keep ds).keep cs = s.keep (cs ++ ds) := by
  simp [keep]

/-! ## One character -/

/-- A character of code is kept if it opens neither a literal nor, with the next one, a comment. -/
theorem scan_code_cons {c : Char} {r : List Char} (hquote : c ≠ '"') (hstar : r.head? ≠ some '*') :
    scan comments .code (c :: r) = (scan comments .code r).keep [c] := by
  rw [scan]
  · exact hquote
  · rintro r' - rfl
    exact hstar rfl

theorem scan_literal_cons {c : Char} {r : List Char} (hquote : c ≠ '"') (hslash : c ≠ '\\') :
    scan comments .literal (c :: r) = scan comments .literal r := by
  rw [scan]
  · exact fun _ _ h _ => hslash h
  · exact hquote

theorem scan_comment_cons {c : Char} {r : List Char} (h : ¬(c = '*' ∧ r.head? = some '/')) :
    scan comments .comment (c :: r) = scan comments .comment r := by
  rw [scan]
  rintro r' rfl rfl
  exact h ⟨rfl, rfl⟩

/-! ## Literals -/

open Quoted

theorem scan_hex (width n : Nat) (r : List Char) :
    scan comments .literal (hex width n ++ r) = scan comments .literal r := by
  have hdigit : ∀ d < 16, hexChar d ≠ '"' ∧ hexChar d ≠ '\\' := by decide
  induction width generalizing n r with
  | zero => rfl
  | succ width ih =>
    obtain ⟨hquote, hslash⟩ := hdigit (n % 16) (Nat.mod_lt n (by decide))
    rw [hex, List.append_assoc, ih, List.singleton_append, scan_literal_cons hquote hslash]

/-- An escape is a backslash and one character, or one UTF-16 unit. -/
theorem escape?_eq_some {c : Char} {e : List Char} (h : escape? c = some e) :
    (∃ a, e = ['\\', a]) ∨ e = unitEscape c.toNat := by
  unfold escape? at h
  split_ifs at h <;> cases h <;> first | exact .inl ⟨_, rfl⟩ | exact .inr rfl

/-- A character inside a literal stays inside it, however it is written. -/
theorem scan_encodeChar (c : Char) (r : List Char) :
    scan comments .literal (encodeChar c ++ r) = scan comments .literal r := by
  unfold encodeChar
  cases he : escape? c with
  | none =>
    have hquote : c ≠ '"' := by
      rintro rfl
      simp [escape?] at he
    have hslash : c ≠ '\\' := by
      rintro rfl
      simp [escape?] at he
    exact scan_literal_cons hquote hslash
  | some e =>
    rcases escape?_eq_some he with ⟨a, rfl⟩ | rfl
    · rfl
    · exact scan_hex 4 c.toNat r

/-- Of a literal its quotes are kept, whatever its text. -/
theorem scan_encode (s : String) (r : List Char) :
    scan comments .code ((encode s).toList ++ r) = (scan comments .code r).keep ['"', '"'] := by
  have hbody : ∀ cs : List Char, scan comments .literal (cs.flatMap encodeChar ++ '"' :: r) =
      (scan comments .code r).keep ['"'] := by
    intro cs
    induction cs with
    | nil => rfl
    | cons c cs ih => rw [List.flatMap_cons, List.append_assoc, scan_encodeChar, ih]
  rw [Json.toList_encode, List.cons_append, List.append_assoc, List.singleton_append, scan, hbody, keep_keep]
  rfl

/-! ## Comments -/

/-- A comment ends where it is meant to end if its text does not close it. -/
theorem scan_comment_append {cs : List Char} (h : ¬['*', '/'] <:+: cs) (r : List Char) :
    scan comments .comment (cs ++ ' ' :: '*' :: '/' :: r) = scan comments .code r := by
  induction cs with
  | nil => rfl
  | cons c cs ih =>
    rw [List.cons_append, scan_comment_cons, ih fun hcs => h (hcs.trans (List.suffix_cons c cs).isInfix)]
    rintro ⟨rfl, hhead⟩
    cases cs with
    | nil => simp at hhead
    | cons d cs =>
      obtain rfl : d = '/' := by simpa using hhead
      exact h ⟨[], cs, rfl⟩

theorem scan_comment_text {t : String} (h : ¬['*', '/'] <:+: t.toList) (r : List Char) :
    scan true .code ((Piece.comment t).text.toList ++ r) = scan true .code r := by
  have htext : (Piece.comment t).text.toList ++ r = '/' :: '*' :: ((' ' :: t.toList) ++ ' ' :: '*' :: '/' :: r) := by
    simp [Piece.text]
  rw [htext, scan, if_pos rfl]
  refine scan_comment_append ?_ r
  rw [List.infix_cons_iff]
  rintro (⟨_, hprefix⟩ | hinfix)
  · simp at hprefix
  · exact h hinfix

/-- What follows a text does not close a comment if it has no star and does not start with a slash. -/
theorem closes_of_append {tail : List Char} (hstar : '*' ∉ tail) (hslash : tail.head? ≠ some '/') {cs : List Char}
    (h : ['*', '/'] <:+: cs ++ tail) : ['*', '/'] <:+: cs := by
  induction cs with
  | nil => exact absurd (h.subset List.mem_cons_self) hstar
  | cons c cs ih =>
    rw [List.infix_cons_iff]
    rw [List.cons_append, List.infix_cons_iff] at h
    rcases h with hprefix | hinfix
    · obtain ⟨rfl, hrest⟩ := List.cons_prefix_cons.1 hprefix
      cases cs with
      | nil =>
        obtain ⟨rest, rfl⟩ := hrest
        exact absurd rfl hslash
      | cons e cs =>
        obtain ⟨rfl, -⟩ := List.cons_prefix_cons.1 hrest
        exact .inl ⟨cs, rfl⟩
    · exact .inr (ih hinfix)

end Skeleton

/-! ## Bare source -/

/-- A piece without the text that it holds: a literal is left empty, and of a comment nothing is left. -/
def Piece.bare : Piece → Piece
  | .code s => .code s
  | .literal _ => .literal ""
  | .comment _ => .code ""

namespace Source

/-- A source without the texts that its pieces hold. -/
def bare (s : Source) : Source := s.map Piece.bare

@[simp] theorem bare_nil : bare [] = [] := rfl

@[simp] theorem bare_code (t : String) (s : Source) : bare (.code t :: s) = .code t :: bare s := rfl

@[simp] theorem bare_literal (t : String) (s : Source) : bare (.literal t :: s) = .literal "" :: bare s := rfl

@[simp] theorem bare_number (q : Quantity) (s : Source) : bare (number q :: s) = number q :: bare s := rfl

@[simp] theorem bare_append (s t : Source) : bare (s ++ t) = bare s ++ bare t := List.map_append

theorem bare_join (separator : String) (ss : List Source) : bare (join separator ss) = join separator (ss.map bare) := by
  induction ss with
  | nil => rfl
  | cons s ss ih =>
    cases ss with
    | nil => rfl
    | cons t ss =>
      rw [join, bare_append, bare_code, ih]
      · rfl
      · exact List.cons_ne_nil _ _

end Source

/-! ## Contained source -/

/-- Whether a character is code wherever it stands: it opens no literal, and no comment after a slash. -/
def isCodeChar (c : Char) : Bool := c ≠ '"' && c ≠ '*'

/-- Whether a text is code wherever it stands. -/
def isCodeText (s : String) : Bool := s.toList.all isCodeChar

/-- Whether a piece keeps its text to itself. A comment does where comments are known and its text does not
close it. -/
def Piece.Contained (comments : Bool) : Piece → Prop
  | .code s => isCodeText s = true
  | .literal _ => True
  | .comment s => comments = true ∧ ¬['*', '/'] <:+: s.toList

namespace Source

variable {comments : Bool}

/-- Whether every piece of a source keeps its text to itself. -/
def Contained (comments : Bool) (s : Source) : Prop := ∀ p ∈ s, p.Contained comments

@[simp] theorem contained_nil : Contained comments [] := nofun

@[simp] theorem contained_code (t : String) (s : Source) :
    Contained comments (.code t :: s) ↔ isCodeText t = true ∧ Contained comments s := List.forall_mem_cons

@[simp] theorem contained_literal (t : String) (s : Source) :
    Contained comments (.literal t :: s) ↔ Contained comments s := by
  unfold Contained
  rw [List.forall_mem_cons]
  exact and_iff_right trivial

@[simp] theorem contained_append (s t : Source) :
    Contained comments (s ++ t) ↔ Contained comments s ∧ Contained comments t := List.forall_mem_append

/-- Whether every line keeps its texts to itself. -/
def AllContained (comments : Bool) (lines : List Source) : Prop := ∀ line ∈ lines, Contained comments line

@[simp] theorem allContained_nil : AllContained comments [] := nofun

@[simp] theorem allContained_cons (line : Source) (lines : List Source) :
    AllContained comments (line :: lines) ↔ Contained comments line ∧ AllContained comments lines := List.forall_mem_cons

@[simp] theorem allContained_append (lines lines' : List Source) :
    AllContained comments (lines ++ lines') ↔ AllContained comments lines ∧ AllContained comments lines' :=
  List.forall_mem_append

@[simp] theorem allContained_map {α : Type} (line : α → Source) (as : List α) :
    AllContained comments (as.map line) ↔ ∀ a ∈ as, Contained comments (line a) := List.forall_mem_map

@[simp] theorem allContained_flatMap {α : Type} (lines : α → List Source) (as : List α) :
    AllContained comments (as.flatMap lines) ↔ ∀ a ∈ as, AllContained comments (lines a) := by
  simp only [AllContained, List.mem_flatMap]
  exact ⟨fun h a ha line hline => h line ⟨a, ha, hline⟩, fun h line ⟨a, ha, hline⟩ => h a ha line hline⟩

theorem contained_join {separator : String} (hsep : isCodeText separator = true) {lines : List Source}
    (h : AllContained comments lines) : Contained comments (join separator lines) := by
  induction lines with
  | nil => exact contained_nil
  | cons s lines ih =>
    obtain ⟨hs, hlines⟩ := (allContained_cons s lines).1 h
    cases lines with
    | nil => exact hs
    | cons t lines =>
      rw [join, contained_append, contained_code]
      · exact ⟨hs, hsep, ih hlines⟩
      · exact List.cons_ne_nil _ _

/-- Contained source does not start with a star, so no slash in front of it opens a comment. -/
theorem Contained.head {s : Source} (h : Contained comments s) : (chars s).head? ≠ some '*' := by
  induction s with
  | nil => simp
  | cons p s ih =>
    cases p with
    | code t =>
      obtain ⟨ht, hs⟩ := (contained_code t s).1 h
      rw [chars_code]
      cases hcs : t.toList with
      | nil => exact ih hs
      | cons c cs =>
        rw [isCodeText, hcs, List.all_cons, Bool.and_eq_true] at ht
        intro hc
        obtain rfl : c = '*' := by simpa using hc
        exact absurd ht.1 (by decide)
    | literal t => simp [Json.toList_encode]
    | comment t => simp [chars, Piece.text]

end Source

/-! ## The skeleton of contained source -/

namespace Skeleton

variable {comments : Bool}

theorem scan_code_append {cs r : List Char} (h : cs.all isCodeChar = true) (hr : r.head? ≠ some '*') :
    scan comments .code (cs ++ r) = (scan comments .code r).keep cs := by
  induction cs with
  | nil => rfl
  | cons c cs ih =>
    rw [List.all_cons, Bool.and_eq_true] at h
    have hquote : c ≠ '"' := by
      rintro rfl
      exact absurd h.1 (by decide)
    have hstar : (cs ++ r).head? ≠ some '*' := by
      cases cs with
      | nil => exact hr
      | cons d cs =>
        intro hd
        obtain rfl : d = '*' := by simpa using hd
        simp [isCodeChar] at h
    rw [List.cons_append, scan_code_cons hquote hstar, ih h.2, keep_keep, List.singleton_append]

theorem scan_chars {s : Source} (h : Source.Contained comments s) :
    scan comments .code (Source.chars s) = ⟨Source.chars (Source.bare s), .code⟩ := by
  induction s with
  | nil => rfl
  | cons p s ih =>
    have hs : Source.Contained comments s := fun q hq => h q (List.mem_cons_of_mem _ hq)
    have hp : p.Contained comments := h p List.mem_cons_self
    cases p with
    | code t =>
      rw [Source.chars_code, scan_code_append hp hs.head, ih hs]
      rfl
    | literal t =>
      have hempty : (Quoted.encode "").toList = ['"', '"'] := by decide
      rw [Source.chars_literal, scan_encode, ih hs, Source.bare_literal, Source.chars_literal, hempty]
      rfl
    | comment t =>
      obtain ⟨rfl, hclosed⟩ := hp
      show scan true .code ((Piece.comment t).text.toList ++ Source.chars s) = _
      rw [scan_comment_text hclosed, ih hs]
      rfl

/-- Source that keeps its texts to itself scans to its own code, and the scan ends in code. -/
theorem ofText_text {s : Source} (h : Source.Contained comments s) :
    ofText comments (Source.text s) = ⟨Source.chars (Source.bare s), .code⟩ := by
  rw [ofText, Source.toList_text, scan_chars h]

example : ofText true "a(\"*/\\\"\") /* \"b\" */ + 1" = ⟨"a(\"\")  + 1".toList, .code⟩ := by decide +kernel

end Skeleton

end WebForm
