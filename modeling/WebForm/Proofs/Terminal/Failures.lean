/-
The messages about files that give no value are printed, because no style tag gets into them: they name the path and
say what is wrong, but quote nothing that the file holds. What the library that reads YAML says of a malformed text is
the one exception, and its wording is not known here.
-/
import WebForm.Input
import WebForm.Proofs.Number.Numeral
import WebForm.Proofs.Terminal.Tags
import WebForm.Proofs.Value

namespace WebForm

open Terminal

/-! ## Text without brackets -/

/-- A text without an opening bracket. -/
def Bare (s : String) : Prop := '[' ∉ s.toList

instance (s : String) : Decidable (Bare s) := inferInstanceAs (Decidable (¬_))

namespace Bare

theorem append {s t : String} (hs : Bare s) (ht : Bare t) : Bare (s ++ t) := by
  rw [Bare, String.toList_append, List.mem_append, not_or]
  exact ⟨hs, ht⟩

theorem intercalate {sep : String} (hsep : Bare sep) {l : List String} (hl : ∀ s ∈ l, Bare s) :
    Bare (sep.intercalate l) := by
  induction l with
  | nil => exact List.not_mem_nil
  | cons s l ih =>
    obtain ⟨hs, hl⟩ := List.forall_mem_cons.1 hl
    cases l with
    | nil => rwa [String.intercalate_singleton]
    | cons t l =>
      rw [String.intercalate_cons_cons]
      exact (hs.append hsep).append (ih hl)

theorem natural (n : Nat) : Bare (toString n) := by
  have hdigits : (toString n).toList = Nat.toDigits 10 n := Nat.toList_repr
  rw [Bare, hdigits]
  intro hmem
  exact absurd (isDigits_toDigits n _ hmem) (by decide)

end Bare

/-! ## Wordings -/

theorem Json.Failure.bare_message (f : Json.Failure) : Bare f.message := by
  have hcause : Bare f.cause.text := by cases f.cause <;> decide
  have hplace : Bare (": line " ++ toString f.line ++ " column " ++ toString f.column) :=
    (((show Bare ": line " by decide).append (.natural _)).append (show Bare " column " by decide)).append (.natural _)
  have hposition : Bare (" (char " ++ toString f.position ++ ")") :=
    ((show Bare " (char " by decide).append (.natural _)).append (show Bare ")" by decide)
  have hmessage : f.message = f.cause.text ++ (": line " ++ toString f.line ++ " column " ++ toString f.column)
      ++ (" (char " ++ toString f.position ++ ")") := by
    simp only [Json.Failure.message, String.append_assoc]
  rw [hmessage]
  exact (hcause.append hplace).append hposition

theorem digitChar_ne_bracket : ∀ d < 16, Nat.digitChar d ≠ '[' := by decide

theorem Utf8.Failure.bare_message (f : Utf8.Failure) : Bare f.message := by
  have hbyte : Bare (Utf8.hexByte f.byte) := by
    have hhigh : f.byte.toNat / 16 < 16 := by have := f.byte.toNat_lt; omega
    have hlow : f.byte.toNat % 16 < 16 := by omega
    rw [Bare, Utf8.hexByte, String.toList_ofList]
    exact List.not_mem_cons_of_ne_of_not_mem (digitChar_ne_bracket _ hhigh).symm
      (List.not_mem_cons_of_ne_of_not_mem (digitChar_ne_bracket _ hlow).symm List.not_mem_nil)
  have hcause : Bare f.cause.text := by cases f.cause <;> decide
  unfold Utf8.Failure.message
  refine Bare.append (Bare.append ?_ (by decide)) hcause
  split
  · exact ((Bare.append (by decide) hbyte).append (by decide)).append (.natural _)
  · exact ((Bare.append (by decide) (.natural _)).append (by decide)).append (.natural _)

theorem Path.mem_of_mem_splitSlashes {cs part : List Char} (hpart : part ∈ splitSlashes cs) {c : Char} (hc : c ∈ part) :
    c ∈ cs := by
  induction cs generalizing part with
  | nil =>
    rw [splitSlashes, List.mem_singleton] at hpart
    rw [hpart] at hc
    cases hc
  | cons d cs ih =>
    unfold splitSlashes at hpart
    split at hpart
    · rcases List.mem_cons.1 hpart with rfl | hpart
      · cases hc
      · exact List.mem_cons_of_mem _ (ih hpart hc)
    · split at hpart
      · rename_i first rest hsplit
        rcases List.mem_cons.1 hpart with rfl | hpart
        · rcases List.mem_cons.1 hc with rfl | hc
          · exact List.mem_cons_self
          · exact List.mem_cons_of_mem _ (ih (hsplit ▸ List.mem_cons_self) hc)
        · exact List.mem_cons_of_mem _ (ih (hsplit ▸ List.mem_cons_of_mem _ hpart) hc)
      · rw [List.mem_singleton.1 hpart, List.mem_singleton] at hc
        exact hc ▸ List.mem_cons_self

/-- A path is written with the characters of the text that it was given as. -/
theorem Path.bare_text {s : String} (h : Bare s) : Bare (Path.ofText s).text := by
  have hroot : Bare (Path.ofText s).root := by
    show Bare (Path.rootOf s.toList)
    unfold Path.rootOf
    split <;> decide
  have hnames : ∀ name ∈ (Path.ofText s).names, Bare name := by
    intro name hname
    obtain ⟨part, hpart, rfl⟩ := List.mem_map.1 hname
    rw [Bare, String.toList_ofList]
    exact fun hc => h (Path.mem_of_mem_splitSlashes (List.mem_filter.1 hpart).1 hc)
  unfold Path.text
  split
  · decide
  · exact hroot.append (Bare.intercalate (by decide) hnames)

theorem Quoted.not_mem_hex (width n : Nat) : '[' ∉ Quoted.hex width n := by
  induction width generalizing n with
  | zero => exact List.not_mem_nil
  | succ width ih =>
    rw [Quoted.hex, List.mem_append, List.mem_singleton, not_or]
    exact ⟨ih _, (digitChar_ne_bracket _ (Nat.mod_lt _ (by omega))).symm⟩

theorem Shown.not_mem_codeEscape (c : Char) : '[' ∉ Shown.codeEscape c := by
  have hescape : ∀ mark width, mark ≠ '[' → '[' ∉ '\\' :: mark :: Quoted.hex width c.toNat := fun mark width hmark =>
    List.not_mem_cons_of_ne_of_not_mem (by decide)
      (List.not_mem_cons_of_ne_of_not_mem hmark.symm (Quoted.not_mem_hex width _))
  unfold Shown.codeEscape
  split
  · exact hescape 'x' 2 (by decide)
  split
  · exact hescape 'u' 4 (by decide)
  · exact hescape 'U' 8 (by decide)

theorem Shown.bare_quoted {s : String} (h : Bare s) : Bare (Shown.quoted s) := by
  have hchar : ∀ quote c, quote ≠ '[' → c ≠ '[' → '[' ∉ Shown.quotedChar quote c := by
    intro quote c hquote hc
    have hsame : '[' ∉ [c] := fun h => hc (List.mem_singleton.1 h).symm
    unfold Shown.quotedChar
    split
    · exact List.not_mem_cons_of_ne_of_not_mem (by decide) hsame
    split
    · decide
    split
    · decide
    split
    · decide
    split
    · exact hsame
    · exact Shown.not_mem_codeEscape c
  unfold Shown.quoted Bare
  dsimp only
  generalize hquote : (if (s.toList.contains '\'' && !s.toList.contains '"') = true then '"' else '\'') = quote
  have hquote : quote ≠ '[' := by
    rw [← hquote]
    split <;> decide
  rw [String.toList_ofList]
  simp only [List.cons_append, List.mem_cons, List.mem_append, List.mem_flatMap, List.not_mem_nil, or_false, not_or,
    not_exists, not_and]
  exact ⟨hquote.symm, fun c hc => hchar quote c hquote fun he => h (he ▸ hc), hquote.symm⟩

/-! ## Failures of files -/

namespace Files

variable {p : Platform} {files : Files} {path : String} {f : InputFailure}

/-- Why a text in a format gives no value, if that is a failure of the input. -/
theorem format_read_failure {format : Format} {text : String} (h : format.read p text = .error f)
    (hinput : f.isOfInput = true) :
    (∃ g, f = .json g) ∨ ∃ wording, f = .yaml wording := by
  cases format with
  | json =>
    obtain ⟨refusal, -, rfl⟩ := mapError_eq_error_iff.1 h
    cases refusal with
    | malformed g => exact .inl ⟨g, rfl⟩
    | exceeded e => cases hinput
    | halfPair => cases hinput
  | yaml =>
    obtain ⟨failure, -, rfl⟩ := mapError_eq_error_iff.1 h
    cases failure with
    | malformed wording => exact .inr ⟨wording, rfl⟩
    | raised kind message => cases hinput
    | foreign => cases hinput

/-- Why there is no value at a path, if that is a failure of the input: there is no text, or the text gives none. -/
theorem load_failure (h : files.load p path = .error f) (hinput : f.isOfInput = true) :
    f = .notFound (Path.ofText path).text ∨ f = .directory (Path.ofText path).text ∨
      (∃ g, f = .notText (Path.ofText path).text g) ∨ (∃ g, f = .json g) ∨ ∃ wording, f = .yaml wording := by
  unfold Files.load at h
  rcases bind_eq_error_iff.1 h with h | ⟨text, -, h⟩
  · unfold Files.readText at h
    split at h
    · cases h
      exact .inl rfl
    · cases h
      exact .inr (.inl rfl)
    · split at h
      · cases h
      · cases h
        exact .inr (.inr (.inl ⟨_, rfl⟩))
  · exact .inr (.inr (.inr (format_read_failure h hinput)))

/-- Every message about the input but those about YAML is printed, if the path has no bracket. -/
theorem prints_message {print? : String → Option String} (hprint : PrintsTags print?) (h : files.load p path = .error f)
    (hinput : f.isOfInput = true) (hpath : Bare path) (hyaml : ∀ wording, f ≠ .yaml wording) :
    (print? f.message).isSome = true := by
  have htext := Path.bare_text hpath
  rcases load_failure h hinput with rfl | rfl | ⟨g, rfl⟩ | ⟨g, rfl⟩ | ⟨wording, rfl⟩
  · exact hprint.bare _ (Bare.append (by decide) htext)
  · -- the number of the failure stands in brackets, but that is no tag
    have hquoted := Shown.bare_quoted htext
    refine hprint.bracket _ ("Could not read " ++ (Path.ofText path).text ++ ": ").toList 'E'
      ("rrno 21] Is a directory: " ++ Shown.quoted (Path.ofText path).text).toList ?_ ?_ ?_ rfl
    · show ("Could not read " ++ (Path.ofText path).text ++ ": [Errno 21] Is a directory: " ++ _).toList = _
      simp
    · exact (Bare.append (by decide) htext).append (by decide)
    · exact List.not_mem_cons_of_ne_of_not_mem (by decide) (Bare.append (by decide) hquoted)
  · exact hprint.bare _ (((Bare.append (by decide) htext).append (by decide)).append g.bare_message)
  · exact hprint.bare _ (Bare.append (by decide) g.bare_message)
  · exact absurd rfl (hyaml wording)

end Files

end WebForm
