/-
Adapting as replacement in a text. What is replaced is told by two lists and by the text before it: no backslash
without a partner may end that text, and which list counts depends on whether a class is open in it. `Replaced` makes
the replacements where they stand and copies all else. It holds of a text and of what adapting gives, and of nothing
else; so a text can be cut in two that are adapted apart exactly where no class is open and no backslash waits for
its partner.

For the proof a scan takes the text before one character at a time, while adapting takes up to three.
-/
import Mathlib.Algebra.Ring.Parity
import Mathlib.Data.List.DropRight
import WebForm.Proofs.Pattern.Adapted

namespace WebForm.Pattern

open Authored (adaptFrom_char adaptFrom_inside)

/-! ## What stands before -/

/-- A backslash at the end has no partner: the run of backslashes at the end is of odd length. -/
def Unpaired (t : List Char) : Prop := Odd (t.rtakeWhile (· == '\\')).length

instance (t : List Char) : Decidable (Unpaired t) := inferInstanceAs (Decidable (Odd _))

/-- A class is open at the end: there is an unescaped opening bracket with no unescaped closing one behind it. -/
def InClass (t : List Char) : Prop :=
  ∃ a b, t = a ++ '[' :: b ∧ ¬Unpaired a ∧ ∀ c d, b = c ++ ']' :: d → Unpaired (a ++ '[' :: c)

theorem not_unpaired_nil : ¬Unpaired [] := by simp [Unpaired]

theorem not_inClass_nil : ¬InClass [] := by simp [InClass]

theorem unpaired_concat {t : List Char} {c : Char} : Unpaired (t ++ [c]) ↔ c = '\\' ∧ ¬Unpaired t := by
  unfold Unpaired
  by_cases hc : c = '\\'
  · rw [List.rtakeWhile_concat_pos _ _ _ (by simp [hc]), List.length_append, List.length_singleton, Nat.odd_add_one]
    simp [hc]
  · rw [List.rtakeWhile_concat_neg _ _ _ (by simp [hc])]
    simp [hc]

/-- The last character of a text is the one at which it is split, or is behind it. -/
theorem concat_eq_append_cons_iff {t a b : List Char} {c x : Char} :
    t ++ [c] = a ++ x :: b ↔ (t = a ∧ c = x ∧ b = []) ∨ ∃ b', b = b' ++ [c] ∧ t = a ++ x :: b' := by
  constructor
  · intro h
    rcases List.eq_nil_or_concat b with rfl | ⟨b', d, rfl⟩
    · obtain ⟨ht, hc⟩ := List.append_inj' h rfl
      exact .inl ⟨ht, List.singleton_inj.1 hc, rfl⟩
    · have h' : t ++ [c] = (a ++ x :: b') ++ [d] := by simpa using h
      obtain ⟨ht, hc⟩ := List.append_inj' h' rfl
      obtain rfl := List.singleton_inj.1 hc
      exact .inr ⟨b', List.concat_eq_append, ht⟩
  · rintro (⟨rfl, rfl, rfl⟩ | ⟨b', rfl, rfl⟩)
    · rfl
    · simp

/-- An opening bracket opens a class, a closing one closes it, and an escaped one does neither. -/
theorem inClass_concat {t : List Char} {c : Char} :
    InClass (t ++ [c]) ↔ (¬Unpaired t ∧ c = '[') ∨ (InClass t ∧ (Unpaired t ∨ c ≠ ']')) := by
  constructor
  · rintro ⟨a, b, ht, ha, hb⟩
    rcases concat_eq_append_cons_iff.1 ht with ⟨rfl, hc, -⟩ | ⟨b', rfl, rfl⟩
    · exact .inl ⟨ha, hc⟩
    · refine .inr ⟨⟨a, b', rfl, ha, fun d e hd => hb d (e ++ [c]) (by simp [hd])⟩, ?_⟩
      by_cases hc : c = ']'
      · subst hc
        exact .inl (hb b' [] rfl)
      · exact .inr hc
  · rintro (⟨ht, rfl⟩ | ⟨⟨a, b, rfl, ha, hb⟩, hc⟩)
    · exact ⟨t, [], rfl, ht, fun d e hd => by simp at hd⟩
    · refine ⟨a, b ++ [c], by simp, ha, fun d e hd => ?_⟩
      rcases concat_eq_append_cons_iff.1 hd with ⟨rfl, rfl, -⟩ | ⟨e', rfl, hd⟩
      · exact hc.resolve_right (by simp)
      · exact hb d e' (List.append_cancel_right (by simpa using hd))

/-! ## Scanning -/

/-- What a scan knows of the text before: whether a class is open, and whether a backslash waits for its partner. -/
@[ext]
structure Scan where
  inside : Bool
  escaping : Bool
deriving DecidableEq

namespace Scan

/-- What one character does. -/
def step (s : Scan) (c : Char) : Scan :=
  if s.escaping then ⟨s.inside, false⟩
  else if c = '\\' then ⟨s.inside, true⟩
  else ⟨c == '[' || (s.inside && c != ']'), false⟩

/-- A scan over a text. -/
def of (t : List Char) : Scan := t.foldl step ⟨false, false⟩

theorem of_concat (t : List Char) (c : Char) : of (t ++ [c]) = (of t).step c := List.foldl_concat ..

theorem of_append (t u : List Char) : of (t ++ u) = u.foldl step (of t) := List.foldl_append

theorem escaping_of {t : List Char} : (of t).escaping = true ↔ Unpaired t := by
  induction t using List.reverseRecOn with
  | nil => simp [of, not_unpaired_nil]
  | append_singleton t c ih =>
    rw [of_concat, unpaired_concat, ← ih, step]
    split_ifs with hesc hc <;> simp_all

theorem inside_of {t : List Char} : (of t).inside = true ↔ InClass t := by
  induction t using List.reverseRecOn with
  | nil => simp [of, not_inClass_nil]
  | append_singleton t c ih =>
    rw [of_concat, inClass_concat, ← ih, ← escaping_of, step]
    split_ifs with hesc hc <;> simp_all

theorem of_eq_of_nil_iff {t : List Char} : of t = of [] ↔ ¬InClass t ∧ ¬Unpaired t := by
  rw [← inside_of, ← escaping_of, Bool.not_eq_true, Bool.not_eq_true]
  exact Scan.ext_iff

end Scan

instance (t : List Char) : Decidable (InClass t) := decidable_of_iff ((Scan.of t).inside = true) Scan.inside_of

/-! ## Replacements -/

/-- What is replaced outside of classes, and by what. -/
def replacedOutside : List (List Char × List Char) :=
  [(['$'], "(?!\\n)$".toList),
   (['\\', 'd'], "[0-9]".toList), (['\\', 'D'], "[^0-9]".toList),
   (['\\', 'w'], "[A-Za-z0-9_]".toList), (['\\', 'W'], "[^A-Za-z0-9_]".toList),
   (['[', ']'], "(?!)".toList), (['[', '^', ']'], "[\\s\\S]".toList)]

/-- What is replaced inside of a class, and by what. -/
def replacedInside : List (List Char × List Char) :=
  [(['\\', 'd'], "0-9".toList), (['\\', 'w'], "A-Za-z0-9_".toList)]

/-- Right behind `before` the stretch `old` is replaced by `new`. -/
def Replaces (before old new : List Char) : Prop :=
  ¬Unpaired before ∧ (old, new) ∈ if InClass before then replacedInside else replacedOutside

/-- What is written for the text behind `before`: the stretches that are replaced there are, and each character that
starts none of them is copied. -/
inductive Replaced : List Char → List Char → List Char → Prop where
  | done (before : List Char) : Replaced before [] []
  | replace {before old new rest out : List Char} (h : Replaces before old new)
      (hrest : Replaced (before ++ old) rest out) : Replaced before (old ++ rest) (new ++ out)
  | copy {before : List Char} {c : Char} {rest out : List Char}
      (h : ∀ old new, Replaces before old new → ¬old <+: c :: rest)
      (hrest : Replaced (before ++ [c]) rest out) : Replaced before (c :: rest) (c :: out)

namespace Scan

/-- What is replaced right behind a scan. -/
def replacements (s : Scan) : List (List Char × List Char) :=
  if s.escaping then [] else if s.inside then replacedInside else replacedOutside

theorem mem_replacements_of {before old new : List Char} :
    (old, new) ∈ (of before).replacements ↔ Replaces before old new := by
  unfold replacements Replaces
  by_cases hesc : Unpaired before
  · simp [escaping_of.2 hesc, hesc]
  · by_cases hin : InClass before <;> simp [escaping_of, inside_of, hesc, hin]

/-- What holds of both lists at their places holds of all that is replaced. -/
theorem forall_replacements {P : Scan → List Char × List Char → Prop}
    (houtside : ∀ e ∈ replacedOutside, P ⟨false, false⟩ e) (hinside : ∀ e ∈ replacedInside, P ⟨true, false⟩ e)
    {s : Scan} {e : List Char × List Char} (h : e ∈ s.replacements) : P s e := by
  obtain ⟨inside, escaping⟩ := s
  cases escaping
  case true => cases h
  cases inside with
  | false => exact houtside e h
  | true => exact hinside e h

section Stretch

variable {s : Scan} {e : List Char × List Char} (h : e ∈ s.replacements)
include h

theorem ne_nil_of_mem_replacements : e.1 ≠ [] :=
  forall_replacements (P := fun _ e => e.1 ≠ []) (by decide) (by decide) h

/-- No replaced stretch but the dollar sign alone ends in one. -/
theorem eq_dollar_of_mem_replacements : e.1.getLast? = some '$' → e.1 = ['$'] :=
  forall_replacements (P := fun _ e => e.1.getLast? = some '$' → e.1 = ['$']) (by decide) (by decide) h

/-- A replaced stretch that is broken off leaves a class open or a backslash without its partner. -/
theorem foldl_ne_of_broken : ∀ t ∈ e.1.inits, t = [] ∨ t = e.1 ∨ t.foldl step s ≠ of [] :=
  forall_replacements (P := fun s e => ∀ t ∈ e.1.inits, t = [] ∨ t = e.1 ∨ t.foldl step s ≠ of [])
    (by decide) (by decide) h

end Stretch

/-! ## Adapting behind a scan -/

/-- Adapts what follows a scan. -/
def adaptRest (s : Scan) (r : List Char) : List Char :=
  if s.escaping then r.take 1 ++ adaptFrom s.inside (r.drop 1) else adaptFrom s.inside r

theorem adaptRest_nil (s : Scan) : s.adaptRest [] = [] := by
  obtain ⟨inside, escaping⟩ := s
  cases inside <;> cases escaping <;> rfl

/-- A stretch that is replaced is adapted as a whole. -/
theorem adaptRest_append {s : Scan} {e : List Char × List Char} (h : e ∈ s.replacements) (r : List Char) :
    s.adaptRest (e.1 ++ r) = e.2 ++ (e.1.foldl step s).adaptRest r := by
  refine forall_replacements (P := fun s e => s.adaptRest (e.1 ++ r) = e.2 ++ (e.1.foldl step s).adaptRest r) ?_ ?_ h
  · simp only [replacedOutside, List.forall_mem_cons]
    exact ⟨rfl, rfl, rfl, rfl, rfl, rfl, rfl, List.forall_mem_nil _⟩
  · simp only [replacedInside, List.forall_mem_cons]
    exact ⟨rfl, rfl, List.forall_mem_nil _⟩

/-- A pair that is not replaced is copied. -/
theorem adaptFrom_pair {inside : Bool} {c : Char} (h : ∀ new, (['\\', c], new) ∉ replacements ⟨inside, false⟩)
    (r : List Char) : adaptFrom inside ('\\' :: c :: r) = '\\' :: c :: adaptFrom inside r := by
  cases inside with
  | true =>
    have hc : adaptClassEscape c = ['\\', c] := by
      simp only [replacements, replacedInside] at h
      unfold adaptClassEscape
      split_ifs <;> simp_all
    rw [adaptFrom, hc]
    rfl
  | false =>
    have hc : adaptEscape c = ['\\', c] := by
      simp only [replacements, replacedOutside] at h
      unfold adaptEscape
      split_ifs <;> simp_all
    rw [adaptFrom, hc]
    rfl

/-- A bracket that opens a class with something in it is copied, and what follows is in the class. -/
theorem adaptFrom_opening {r : List Char} (hempty : ¬[']'] <+: r) (hany : ¬['^', ']'] <+: r) :
    adaptFrom false ('[' :: r) = '[' :: adaptFrom true r := by
  -- `[^` is taken in one step and `[` alone in another
  by_cases hcaret : ∃ r', r = '^' :: r'
  · obtain ⟨r', rfl⟩ := hcaret
    have hr' : ∀ r, r' ≠ ']' :: r := by
      rintro r rfl
      exact hany (List.prefix_append ['^', ']'] r)
    rw [adaptFrom_inside (by decide), adaptFrom]
    simp_all
  · rw [adaptFrom]
    · rintro r' rfl
      exact hempty (List.prefix_append [']'] r')
    · rintro r' rfl
      exact hany (List.prefix_append ['^', ']'] r')
    · rintro r' rfl
      exact hcaret ⟨r', rfl⟩

/-- A character that starts no replaced stretch is copied. -/
theorem adaptRest_cons {s : Scan} {c : Char} {r : List Char} (h : ∀ e ∈ s.replacements, ¬e.1 <+: c :: r) :
    s.adaptRest (c :: r) = c :: (s.step c).adaptRest r := by
  obtain ⟨inside, escaping⟩ := s
  cases escaping
  case true => rfl
  by_cases hslash : c = '\\'
  · subst hslash
    cases r with
    | nil => cases inside <;> rfl
    | cons d r => exact adaptFrom_pair (fun new hnew => h _ hnew (List.prefix_append ['\\', d] r)) r
  · cases inside with
    | true =>
      by_cases hclose : c = ']'
      · subst hclose
        rfl
      · have hstep : (Scan.mk true false).step c = ⟨true, false⟩ := by simp [step, hslash, hclose]
        rw [hstep]
        exact adaptFrom_inside ⟨hslash, hclose⟩ r
    | false =>
      by_cases hopen : c = '['
      · subst hopen
        have hempty : ¬[']'] <+: r := fun hr =>
          h (['[', ']'], "(?!)".toList) (by simp [replacements, replacedOutside])
            (List.cons_prefix_cons.2 ⟨rfl, hr⟩)
        have hany : ¬['^', ']'] <+: r := fun hr =>
          h (['[', '^', ']'], "[\\s\\S]".toList) (by simp [replacements, replacedOutside])
            (List.cons_prefix_cons.2 ⟨rfl, hr⟩)
        exact adaptFrom_opening hempty hany
      · have hdollar : c ≠ '$' := by
          rintro rfl
          exact h (['$'], "(?!\\n)$".toList) (by simp [replacements, replacedOutside]) (List.prefix_append ['$'] r)
        have hstep : (Scan.mk false false).step c = ⟨false, false⟩ := by simp [step, hslash, hopen]
        rw [hstep]
        exact adaptFrom_char ⟨hslash, hopen, hdollar⟩ r

end Scan

/-! ## Adapting replaces -/

open Scan

theorem Replaced.adaptRest_eq {before rest out : List Char} (h : Replaced before rest out) :
    (of before).adaptRest rest = out := by
  induction h with
  | done before => exact adaptRest_nil _
  | replace h _ ih => rw [adaptRest_append (mem_replacements_of.2 h), ← of_append, ih]
  | copy h _ ih => rw [adaptRest_cons fun e he => h e.1 e.2 (mem_replacements_of.1 he), ← of_concat, ih]

theorem replaced_adaptRest (before rest : List Char) : Replaced before rest ((of before).adaptRest rest) := by
  -- the rest gets shorter by a whole stretch or by one character
  induction hn : rest.length using Nat.strong_induction_on generalizing before rest with
  | _ n ih =>
    subst hn
    by_cases h : ∃ e ∈ (of before).replacements, e.1 <+: rest
    · obtain ⟨e, he, rest, rfl⟩ := h
      have hlt : rest.length < (e.1 ++ rest).length := by
        have := List.length_pos_iff.2 (ne_nil_of_mem_replacements he)
        simp only [List.length_append]
        omega
      rw [adaptRest_append he, ← of_append]
      exact .replace (mem_replacements_of.1 he) (ih _ hlt (before ++ e.1) rest rfl)
    · cases rest with
      | nil =>
        rw [adaptRest_nil]
        exact .done before
      | cons c rest =>
        have hc : ∀ e ∈ (of before).replacements, ¬e.1 <+: c :: rest := fun e he hp => h ⟨e, he, hp⟩
        rw [adaptRest_cons hc, ← of_concat]
        exact .copy (fun old new hr => hc (old, new) (mem_replacements_of.2 hr))
          (ih _ (Nat.lt_succ_self _) (before ++ [c]) rest rfl)

theorem replaced_iff {before rest out : List Char} : Replaced before rest out ↔ (of before).adaptRest rest = out :=
  ⟨Replaced.adaptRest_eq, fun h => h ▸ replaced_adaptRest before rest⟩

/-! ## Cutting a text in two -/

/-- Two texts one after the other, where no replaced stretch reaches from the first into the second. -/
theorem Replaced.append {before p q out out' : List Char} (h : Replaced before p out)
    (hq : Replaced (before ++ p) q out')
    (hcut : ∀ a b, p = a ++ b → b ≠ [] → ∀ old new, Replaces (before ++ a) old new → old <+: b ++ q → old <+: b) :
    Replaced before (p ++ q) (out ++ out') := by
  induction h with
  | done before => simpa using hq
  | @replace before old new rest out h _ ih =>
    rw [List.append_assoc, List.append_assoc]
    refine .replace h (ih (by simpa using hq) fun a b hab hb => ?_)
    simpa using hcut (old ++ a) b (by simp [hab]) hb
  | @copy before c rest out h _ ih =>
    have hcopy : ∀ old new, Replaces before old new → ¬old <+: c :: (rest ++ q) := fun old new hr hp =>
      h old new hr (hcut [] (c :: rest) rfl (List.cons_ne_nil c rest) old new (by simpa using hr) hp)
    refine .copy hcopy (ih (by simpa using hq) fun a b hab hb => ?_)
    simpa using hcut (c :: a) b (by simp [hab]) hb

/-- No replaced stretch reaches across the end of a text that leaves nothing open. -/
theorem Replaced.append_of_ended {before p q out out' : List Char} (h : Replaced before p out)
    (hend : of (before ++ p) = of []) (hq : Replaced (before ++ p) q out') :
    Replaced before (p ++ q) (out ++ out') := by
  refine h.append hq fun a b hab hb old new hr hp => ?_
  rcases List.prefix_or_prefix_of_prefix hp (List.prefix_append b q) with hold | hbroken
  · exact hold
  · have hinit : b ∈ old.inits := (List.mem_inits b old).2 hbroken
    rcases foldl_ne_of_broken (mem_replacements_of.2 hr) b hinit with hnil | rfl | hopen
    · exact absurd hnil hb
    · exact List.prefix_rfl
    · refine absurd ?_ hopen
      rw [← of_append, List.append_assoc, ← hab, hend]

/-- A dollar sign is copied behind a text that leaves something open. -/
theorem Replaced.append_dollar {before p out : List Char} (h : Replaced before p out)
    (hopen : of (before ++ p) ≠ of []) : Replaced before (p ++ ['$']) (out ++ ['$']) := by
  have hdollar : ∀ s : Scan, s ≠ of [] → s.adaptRest ['$'] = ['$'] := by
    rintro ⟨_ | _, _ | _⟩ hs <;> first | rfl | exact absurd rfl hs
  refine h.append (replaced_iff.2 (hdollar _ hopen)) fun a b _ hb old new hr hp => ?_
  rcases List.prefix_concat_iff.1 hp with rfl | hold
  · have hdollar := eq_dollar_of_mem_replacements (mem_replacements_of.2 hr) List.getLast?_concat
    exact absurd (by simpa using hdollar) hb
  · exact hold

theorem replaced_iff_adapt_eq {p out : String} : Replaced [] p.toList out.toList ↔ adapt p = out := by
  rw [replaced_iff, ← String.toList_inj, adapt, String.toList_ofList]
  rfl

/-- Adapting works stretch by stretch. Two texts one after the other are adapted apart, whatever the second is,
exactly if the first ends outside of classes and not on a backslash without a partner. What adapting gives is the text
with all that the two lists name replaced where it stands, and all else copied in order. -/
theorem adapt_stretch_by_stretch :
    (∀ p, (∀ q, adapt (p ++ q) = adapt p ++ adapt q) ↔ ¬InClass p.toList ∧ ¬Unpaired p.toList) ∧
      ∀ p out, adapt p = out ↔ Replaced [] p.toList out.toList := by
  refine ⟨fun p => ?_, fun p out => replaced_iff_adapt_eq.symm⟩
  have hp : Replaced [] p.toList (adapt p).toList := replaced_iff_adapt_eq.2 rfl
  rw [← of_eq_of_nil_iff]
  constructor
  · intro h
    by_contra hopen
    have hcopied : adapt (p ++ "$") = adapt p ++ "$" := by
      rw [← replaced_iff_adapt_eq, String.toList_append, String.toList_append]
      exact hp.append_dollar hopen
    rw [h "$", String.append_right_inj] at hcopied
    exact absurd hcopied (by decide)
  · intro hend q
    have hq : Replaced p.toList q.toList (adapt q).toList := by
      rw [replaced_iff, hend, ← replaced_iff, replaced_iff_adapt_eq]
    rw [← replaced_iff_adapt_eq, String.toList_append, String.toList_append]
    exact hp.append_of_ended hend hq

/-- A pair of backslashes is copied and so is what stands in a class, a dollar sign too. -/
example : adapt "\\\\d[\\w$][][^]$" = "\\\\d[A-Za-z0-9_$](?!)[\\s\\S](?!\\n)$" := by decide

end WebForm.Pattern
