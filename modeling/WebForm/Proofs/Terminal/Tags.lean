/-
The tags of a text and whether it can be printed. A text is printed exactly if each of its closing tags closes a style
that is open, whatever else it holds. What the commands rely on when they print is less: text without tags is printed,
and a style that is closed again in front of a text makes no difference to it.
-/
import Mathlib.Data.List.TakeWhile
import WebForm.Terminal.Markup

namespace WebForm.Terminal

/-! ## Tags -/

/-- The content of a part that is a tag. -/
def Part.tag? : Part → Option (List Char)
  | .tag content => some content
  | .plain _ => none

/-- The tags of a text with a number of backslashes in front of it, in order. -/
def tagsAfter (slashes : Nat) (s : List Char) : List (List Char) := (parts (s.length + 1) slashes s).filterMap Part.tag?

/-- The tags of a text, in order. -/
def tags (s : String) : List (List Char) := tagsAfter 0 s.toList

/-- The style that a tag is about; what follows an equals sign does not count. -/
def tagStyle (content : List Char) : List Char := content.takeWhile (· ≠ '=')

/-- Tags of which each closing one closes a style that is open, the styles that are open given. -/
inductive Settles : List String → List (List Char) → Prop
  | done (styles : List String) : Settles styles []
  | opening {styles : List String} {content : List Char} {rest : List (List Char)}
      (hname : ∀ name, tagStyle content ≠ '/' :: name) (h : Settles (styleName (tagStyle content) :: styles) rest) :
      Settles styles (content :: rest)
  | closing {styles left : List String} {content name : List Char} {rest : List (List Char)}
      (hname : tagStyle content = '/' :: name) (hclose : close? name styles = some left) (h : Settles left rest) :
      Settles styles (content :: rest)

/-! ## Printing -/

theorem plainOf?_isSome_iff (ps : List Part) (styles : List String) :
    (plainOf? styles ps).isSome = true ↔ Settles styles (ps.filterMap Part.tag?) := by
  induction ps generalizing styles with
  | nil => exact iff_of_true rfl (.done styles)
  | cons p rest ih =>
    cases p with
    | plain text =>
      rw [plainOf?, Option.isSome_map, ih]
      exact Iff.rfl
    | tag content =>
      show _ ↔ Settles styles (content :: rest.filterMap Part.tag?)
      unfold plainOf?
      split
      · rename_i name hname
        have hname : tagStyle content = '/' :: name := hname
        constructor
        · intro h
          obtain ⟨cs, hcs⟩ := Option.isSome_iff_exists.1 h
          obtain ⟨left, hclose, hleft⟩ := Option.bind_eq_some_iff.1 hcs
          exact .closing hname hclose ((ih left).1 (hleft ▸ rfl))
        · intro h
          cases h with
          | opening hopen _ => exact absurd hname (hopen name)
          | closing hname' hclose hleft =>
            obtain ⟨-, rfl⟩ := List.cons.inj (hname.symm.trans hname')
            rw [hclose]
            exact (ih _).2 hleft
      · rename_i hopen
        have hopen : ∀ name, tagStyle content ≠ '/' :: name := hopen
        rw [ih]
        constructor
        · exact .opening hopen
        · intro h
          cases h with
          | opening _ h => exact h
          | closing hname _ _ => exact absurd hname (hopen _)

/-- A text is printed exactly if its tags settle. -/
theorem plain?_isSome_iff (s : String) : (plain? s).isSome = true ↔ Settles [] (tags s) := by
  rw [plain?, Option.isSome_map, plainOf?_isSome_iff]
  exact Iff.rfl

/-! ## The tags of a text, character by character -/

/-- A tag starts with one of certain characters and ends at the next bracket, which closes it. -/
theorem tagAfter?_eq_some_iff {s content after : List Char} : tagAfter? s = some (content, after) ↔
    ∃ c name, content = c :: name ∧ startsTag c = true ∧ (∀ x ∈ name, x ≠ '[' ∧ x ≠ ']') ∧
      s = content ++ ']' :: after := by
  constructor
  · intro h
    unfold tagAfter? at h
    split at h
    · rename_i c rest
      dsimp only at h
      split at h
      · rename_i r hr
        split at h
        · rename_i hstart
          cases h
          refine ⟨c, _, rfl, hstart, fun x hx => by simpa using List.mem_takeWhile_imp hx, ?_⟩
          rw [List.cons_append, ← hr, List.takeWhile_append_dropWhile]
        · cases h
      · cases h
    · cases h
  · rintro ⟨c, name, rfl, hstart, hname, rfl⟩
    have hall : ∀ x ∈ name, (x != '[' && x != ']') = true := fun x hx => by simpa using hname x hx
    rw [List.cons_append, tagAfter?, List.dropWhile_append_of_pos hall, List.takeWhile_append_of_pos hall]
    simp [hstart]

theorem tagAfter?_length {s content after : List Char} (h : tagAfter? s = some (content, after)) :
    after.length < s.length := by
  obtain ⟨c, name, -, -, -, rfl⟩ := tagAfter?_eq_some_iff.1 h
  simp only [List.length_append, List.length_cons]
  omega

/-- More steps than characters make no difference. -/
theorem parts_congr {s : List Char} {m n : Nat} (hm : s.length < m) (hn : s.length < n) (slashes : Nat) :
    parts m slashes s = parts n slashes s := by
  induction m generalizing s n slashes with
  | zero => omega
  | succ m ih =>
    obtain ⟨n, rfl⟩ : ∃ k, n = k + 1 := ⟨n - 1, by omega⟩
    cases s with
    | nil => rfl
    | cons c rest =>
      rw [List.length_cons] at hm hn
      have hrest : ∀ k, parts m k rest = parts n k rest := fun k => ih (by omega) (by omega) k
      unfold parts
      simp only [hrest]
      split
      · rfl
      split
      · split
        · rename_i content after htag
          have hlen := tagAfter?_length htag
          have hafter : parts m 0 after = parts n 0 after := ih (by omega) (by omega) 0
          rw [hafter]
        · rfl
      · rfl

section

variable (slashes : Nat) (rest : List Char)

theorem tagsAfter_backslash : tagsAfter slashes ('\\' :: rest) = tagsAfter (slashes + 1) rest := rfl

theorem tagsAfter_other {c : Char} (hslash : c ≠ '\\') (hbracket : c ≠ '[') :
    tagsAfter slashes (c :: rest) = tagsAfter 0 rest := by
  rw [tagsAfter, List.length_cons, parts, if_neg hslash, if_neg hbracket]
  rfl

/-- A bracket that starts no tag is passed over. -/
theorem tagsAfter_bracket (h : tagAfter? rest = none) : tagsAfter slashes ('[' :: rest) = tagsAfter 0 rest := by
  rw [tagsAfter, List.length_cons, parts, if_neg (by decide), if_pos rfl, h]
  rfl

/-- A tag counts unless an odd number of backslashes stands before it. -/
theorem tagsAfter_tag {content after : List Char} (h : tagAfter? rest = some (content, after)) :
    tagsAfter slashes ('[' :: rest) = if slashes % 2 = 1 then tagsAfter 0 after else content :: tagsAfter 0 after := by
  have hlen := tagAfter?_length h
  have hafter : parts (rest.length + 1) 0 after = parts (after.length + 1) 0 after :=
    parts_congr (by omega) (by omega) 0
  rw [tagsAfter, List.length_cons, parts, if_neg (by decide), if_pos rfl, h]
  simp only [hafter]
  split
  · rfl
  · rfl

end

/-! ## Text without brackets -/

/-- Text without an opening bracket has no tags. -/
theorem tagsAfter_of_not_mem {s : List Char} (h : '[' ∉ s) (slashes : Nat) : tagsAfter slashes s = [] := by
  induction s generalizing slashes with
  | nil => rfl
  | cons c rest ih =>
    rw [List.mem_cons, not_or] at h
    by_cases hslash : c = '\\'
    · rw [hslash, tagsAfter_backslash, ih h.2]
    · rw [tagsAfter_other _ _ hslash (Ne.symm h.1), ih h.2]

/-- Such text in front of another leaves at most backslashes. -/
theorem exists_tagsAfter_append {p : List Char} (h : '[' ∉ p) (slashes : Nat) (s : List Char) :
    ∃ k, tagsAfter slashes (p ++ s) = tagsAfter k s := by
  induction p generalizing slashes with
  | nil => exact ⟨slashes, rfl⟩
  | cons c p ih =>
    rw [List.mem_cons, not_or] at h
    rw [List.cons_append]
    by_cases hslash : c = '\\'
    · rw [hslash, tagsAfter_backslash]
      exact ih h.2 _
    · rw [tagsAfter_other _ _ hslash (Ne.symm h.1)]
      exact ih h.2 _

theorem tagsAfter_append_of_plain {p : List Char} (h : ∀ c ∈ p, c ≠ '[' ∧ c ≠ '\\') (s : List Char) :
    tagsAfter 0 (p ++ s) = tagsAfter 0 s := by
  induction p with
  | nil => rfl
  | cons c p ih =>
    obtain ⟨hc, hp⟩ := List.forall_mem_cons.1 h
    rw [List.cons_append, tagsAfter_other _ _ hc.2 hc.1, ih hp]

theorem tagAfter?_of_not_startsTag {c : Char} (h : startsTag c = false) (rest : List Char) :
    tagAfter? (c :: rest) = none := by
  cases htag : tagAfter? (c :: rest) with
  | none => rfl
  | some p =>
    obtain ⟨d, name, hcontent, hstart, -, hs⟩ := tagAfter?_eq_some_iff.1 htag
    rw [hcontent] at hs
    rw [← (List.cons.inj hs).1, h] at hstart
    cases hstart

/-! ## Styled text -/

/-- A tag that stands for itself: its first character may start a tag and no bracket is in it. -/
theorem tagsAfter_tag_append {c : Char} {content : List Char} (hstart : startsTag c = true)
    (hcontent : ∀ x ∈ content, x ≠ '[' ∧ x ≠ ']') (s : List Char) :
    tagsAfter 0 ('[' :: c :: content ++ ']' :: s) = (c :: content) :: tagsAfter 0 s := by
  exact tagsAfter_tag 0 _ (tagAfter?_eq_some_iff.2 ⟨c, content, rfl, hstart, hcontent, rfl⟩)

theorem settles_styled {style : List Char} (hstyle : ∀ name, tagStyle style ≠ '/' :: name) (rest : List (List Char)) :
    Settles [] (style :: ['/'] :: rest) ↔ Settles [] rest := by
  have hclose : close? [] [styleName (tagStyle style)] = some [] := rfl
  constructor
  · intro h
    cases h with
    | opening _ h =>
      cases h with
      | opening hname _ => exact absurd rfl (hname [])
      | closing hname hleft h =>
        obtain ⟨-, rfl⟩ := List.cons.inj hname
        cases hleft
        exact h
    | closing hname _ _ => exact absurd hname (hstyle _)
  · intro h
    exact .opening hstyle (.closing rfl hclose h)

/-- A style that is opened and closed in front of a text, with plain text around, adds two tags. -/
theorem tags_styled {before inside after : String} {c : Char} {name : List Char} (hstart : startsTag c = true)
    (hname : ∀ x ∈ name, x ≠ '[' ∧ x ≠ ']')
    (hplain : ∀ x ∈ before.toList ++ inside.toList ++ after.toList, x ≠ '[' ∧ x ≠ '\\') (s : String) :
    tags (before ++ "[" ++ String.ofList (c :: name) ++ "]" ++ inside ++ "[/]" ++ after ++ s) =
      (c :: name) :: ['/'] :: tags s := by
  have hbefore : ∀ x ∈ before.toList, x ≠ '[' ∧ x ≠ '\\' := fun x hx => hplain x (by simp [hx])
  have hinside : ∀ x ∈ inside.toList, x ≠ '[' ∧ x ≠ '\\' := fun x hx => hplain x (by simp [hx])
  have hafter : ∀ x ∈ after.toList, x ≠ '[' ∧ x ≠ '\\' := fun x hx => hplain x (by simp [hx])
  have htext : (before ++ "[" ++ String.ofList (c :: name) ++ "]" ++ inside ++ "[/]" ++ after ++ s).toList = before.toList ++
      ('[' :: c :: name ++ ']' :: (inside.toList ++ ('[' :: '/' :: [] ++ ']' :: (after.toList ++ s.toList)))) := by
    simp
  rw [tags, htext, tagsAfter_append_of_plain hbefore, tagsAfter_tag_append hstart hname,
    tagsAfter_append_of_plain hinside, tagsAfter_tag_append rfl (List.forall_mem_nil _),
    tagsAfter_append_of_plain hafter]
  rfl

/-! ## What is relied on -/

/-- What the commands rely on of a function that prints texts with style tags, unless it fails to. -/
structure PrintsTags (print? : String → Option String) : Prop where
  /-- Without an opening bracket there is no tag. -/
  bare : ∀ s, '[' ∉ s.toList → (print? s).isSome = true
  /-- A bracket is no tag before a character that starts none. -/
  bracket : ∀ (s : String) before c after, s.toList = before ++ '[' :: c :: after → '[' ∉ before → '[' ∉ c :: after →
    startsTag c = false → (print? s).isSome = true
  /-- A style named in small letters that is closed again in front of a text makes no difference to the text. -/
  styled : ∀ (before inside after s : String) c name, c.isLower = true → (∀ x ∈ name, x.isLower = true ∨ x = ' ') →
    (∀ x ∈ before.toList ++ inside.toList ++ after.toList, x ≠ '[' ∧ x ≠ '\\') →
    ((print? (before ++ "[" ++ String.ofList (c :: name) ++ "]" ++ inside ++ "[/]" ++ after ++ s)).isSome = true ↔
      (print? s).isSome = true)

theorem plain?_printsTags : PrintsTags plain? := by
  constructor
  · intro s hs
    rw [plain?_isSome_iff, tags, tagsAfter_of_not_mem hs]
    exact .done []
  · intro s before c after hs hbefore hafter hc
    obtain ⟨k, hk⟩ := exists_tagsAfter_append hbefore 0 ('[' :: c :: after)
    rw [plain?_isSome_iff, tags, hs, hk, tagsAfter_bracket _ _ (tagAfter?_of_not_startsTag hc _), tagsAfter_of_not_mem hafter]
    exact .done []
  · intro before inside after s c name hc hname hplain
    have hstart : startsTag c = true := by
      have hbetween : ('a' ≤ c && c ≤ 'z') = true := hc
      rw [startsTag, hbetween]
      rfl
    have hletters : ∀ x ∈ name, x ≠ '[' ∧ x ≠ ']' := by
      intro x hx
      rcases hname x hx with h | rfl
      · constructor
        · rintro rfl
          cases h
        · rintro rfl
          cases h
      · decide
    have hopens : ∀ rest, tagStyle (c :: name) ≠ '/' :: rest := by
      intro rest h
      have hequals : c ≠ '=' := by
        rintro rfl
        cases hc
      rw [tagStyle, List.takeWhile_cons_of_pos (by simpa using hequals)] at h
      obtain ⟨rfl, -⟩ := List.cons.inj h
      cases hc
    rw [plain?_isSome_iff, plain?_isSome_iff, tags_styled hstart hletters hplain, settles_styled hopens]

/-- A text with a closing tag before any other is not printed. -/
theorem plain?_of_closing {before name after : List Char} {s : String}
    (hs : s.toList = before ++ ('[' :: '/' :: name ++ ']' :: after)) (hbefore : ∀ c ∈ before, c ≠ '[' ∧ c ≠ '\\')
    (hname : ∀ x ∈ name, x ≠ '[' ∧ x ≠ ']') : plain? s = none := by
  have htags : tags s = ('/' :: name) :: tagsAfter 0 after := by
    rw [tags, hs, tagsAfter_append_of_plain hbefore, tagsAfter_tag_append rfl hname]
  rw [← Option.not_isSome_iff_eq_none, plain?_isSome_iff, htags]
  intro h
  cases h with
  | opening hopen _ => exact hopen _ (List.takeWhile_cons_of_pos (by decide))
  | closing _ hclose _ =>
    -- nothing is open, so nothing can be closed
    unfold close? at hclose
    split at hclose
    · cases hclose
    · cases hclose

end WebForm.Terminal
