/-
Patterns as trees, in the words of the dialect in which authors write them: disjunctions of alternatives,
alternatives of terms, terms that are places or atoms with or without a quantifier. A tree has a text, and
it matches stretches of a text: `^` only at its start and `$` only at its very end, digits and words in ASCII.

A tree is written with two vocabularies, that of authors and that of the reader; `adaptFrom` takes the
one text to the other.
-/
import WebForm.Pattern.Dialect
import WebForm.Proofs.Pattern.Reading

namespace WebForm.Pattern.Authored

/-! ## Trees -/

/-- A member of a class. -/
inductive Member where
  | char (c : Char) (h : c ∉ [']', '\\', '^', '-', '['])
  | range (lo hi : Char) (h : lo.isAlphanum ∧ hi.isAlphanum ∧ lo ≤ hi)
  | digit
  | word

/-- What stands for one character. -/
inductive Single where
  | char (c : Char) (h : c ∉ metacharacters)
  | escaped (c : Char) (h : c ∈ metacharacters)
  | digit (inside : Bool)
  | word (inside : Bool)
  | members (inside : Bool) (ms : List Member)

/-- How often an atom is repeated. -/
inductive Quantifier where
  | star
  | plus
  | optional
  | exactly (n : Nat) (h : n < repetitionLimit)
  | atLeast (n : Nat) (h : n < repetitionLimit)
  | between (least most : Nat) (hle : least ≤ most) (h : most < repetitionLimit)

mutual

/-- One alternative or more. -/
inductive Disjunction where
  | one (a : Alternative)
  | or (a : Alternative) (d : Disjunction)

/-- Terms one after another. -/
inductive Alternative where
  | empty
  | cons (t : Term) (a : Alternative)

/-- A place, or an atom with or without a quantifier. -/
inductive Term where
  | start
  | finish
  | once (a : Atom)
  | many (a : Atom) (q : Quantifier)

/-- One character, or a group with or without a number. -/
inductive Atom where
  | single (u : Single)
  | capture (d : Disjunction)
  | group (d : Disjunction)

end

/-! ## Texts of trees -/

/-- How the leaves of a tree are written. -/
structure Vocabulary where
  single : Single → List Char
  finish : List Char

def Quantifier.text : Quantifier → List Char
  | star => ['*']
  | plus => ['+']
  | optional => ['?']
  | exactly n _ => '\x7b' :: (Nat.toDigits 10 n ++ ['\x7d'])
  | atLeast n _ => '\x7b' :: (Nat.toDigits 10 n ++ [',', '\x7d'])
  | between least most _ _ => '\x7b' :: (Nat.toDigits 10 least ++ ',' :: (Nat.toDigits 10 most ++ ['\x7d']))

mutual

def Disjunction.write (v : Vocabulary) : Disjunction → List Char
  | .one a => a.write v
  | .or a d => a.write v ++ '|' :: d.write v

def Alternative.write (v : Vocabulary) : Alternative → List Char
  | .empty => []
  | .cons t a => t.write v ++ a.write v

def Term.write (v : Vocabulary) : Term → List Char
  | .start => ['^']
  | .finish => v.finish
  | .once a => a.write v
  | .many a q => a.write v ++ q.text

def Atom.write (v : Vocabulary) : Atom → List Char
  | .single u => v.single u
  | .capture d => '(' :: (d.write v ++ [')'])
  | .group d => '(' :: '?' :: ':' :: (d.write v ++ [')'])

end

def Member.text : Member → List Char
  | char c _ => [c]
  | range lo hi _ => [lo, '-', hi]
  | digit => ['\\', 'd']
  | word => ['\\', 'w']

def Single.text : Single → List Char
  | char c _ => [c]
  | escaped c _ => ['\\', c]
  | digit inside => ['\\', if inside then 'd' else 'D']
  | word inside => ['\\', if inside then 'w' else 'W']
  | members inside ms => bracketed inside (ms.flatMap Member.text)

/-- The words of authors. -/
def authored : Vocabulary := ⟨Single.text, ['$']⟩

/-- The text of a tree as an author writes it. -/
def Disjunction.source (d : Disjunction) : String := String.ofList (d.write authored)

/-! ## Meaning -/

/-- A word character of ASCII. -/
def isWord (c : Char) : Bool :=
  ('A' ≤ c && c ≤ 'Z') || ('a' ≤ c && c ≤ 'z') || isDecimalDigit c || c == '_'

/-- Whether a class member takes a character. -/
def Member.holds (c : Char) : Member → Bool
  | char d _ => c == d
  | range lo hi _ => lo ≤ c && c ≤ hi
  | digit => isDecimalDigit c
  | word => isWord c

/-- Whether a character is one that this stands for; a class without members takes none, and its
complement takes all, line feeds too. -/
def Single.holds (c : Char) : Single → Bool
  | char d _ | escaped d _ => c == d
  | digit inside => isDecimalDigit c == inside
  | word inside => isWord c == inside
  | members inside ms => ms.any (Member.holds c) == inside

namespace Quantifier

/-- The least number of rounds. -/
def least : Quantifier → Nat
  | star | optional => 0
  | plus => 1
  | exactly n _ | atLeast n _ | between n _ _ _ => n

/-- The greatest number of rounds, if there is one. -/
def most? : Quantifier → Option Nat
  | star | plus | atLeast _ _ => none
  | optional => some 1
  | exactly n _ | between _ n _ _ => some n

end Quantifier

mutual

/-- The stretches of a text that a disjunction matches, by the positions of their ends. -/
def Disjunction.Matches (text : Array Char) : Disjunction → Nat → Nat → Prop
  | .one a, i, j => a.Matches text i j
  | .or a d, i, j => a.Matches text i j ∨ d.Matches text i j

def Alternative.Matches (text : Array Char) : Alternative → Nat → Nat → Prop
  | .empty, i, j => i = j
  | .cons t a, i, j => ∃ k, t.Matches text i k ∧ a.Matches text k j

def Term.Matches (text : Array Char) : Term → Nat → Nat → Prop
  | .start, i, j => i = j ∧ i = 0
  | .finish, i, j => i = j ∧ i = text.size
  | .once a, i, j => a.Matches text i j
  | .many a q, i, j => Repeats (a.Matches text) q.least q.most? i j

def Atom.Matches (text : Array Char) : Atom → Nat → Nat → Prop
  | .single u, i, j => Takes text u.holds i j
  | .capture d, i, j | .group d, i, j => d.Matches text i j

end

/-- Whether some stretch of a text is matched. -/
def Disjunction.MatchesIn (d : Disjunction) (text : String) : Prop :=
  ∃ i j, i ≤ j ∧ j ≤ text.length ∧ d.Matches text.toList.toArray i j

end WebForm.Pattern.Authored
