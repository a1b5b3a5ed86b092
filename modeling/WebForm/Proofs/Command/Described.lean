/-
The libraries with which the program runs do what the commands rely on. Words that start with no hyphen are the
arguments of a command; and a text in a table or a frame is printed if it is without a tag that closes what is not
open, as it is alone.
-/
import WebForm.Command.Described
import WebForm.Proofs.Command.Parts

namespace WebForm.Command

open Terminal

/-! ## The command line -/

/-- A word that does not start with a hyphen is an argument. -/
theorem readWords?_of_argument {known : List Switch} {word : String} (hword : word.toList.head? ≠ some '-')
    (interspersed : Bool) (rest : List String) : readWords? known interspersed (word :: rest) =
      if interspersed then (readWords? known interspersed rest).map (·.withArgument word) else some ⟨[], word :: rest⟩ := by
  have hhyphen : ∀ cs, word.toList ≠ '-' :: cs := by
    intro cs h
    rw [h] at hword
    exact hword rfl
  rw [readWords?]
  split
  · exact absurd ‹_› (hhyphen _)
  · exact absurd ‹_› (hhyphen _)
  · exact absurd ‹_› (hhyphen _)
  · rfl

theorem readInvocation_of_name {name : String} (hname : name.toList.head? ≠ some '-') (words : List String) :
    readInvocation (name :: words) = readNamed name words := by
  unfold readInvocation
  rw [readWords?_of_argument hname]
  rfl

/-- Words that do not ask for help are those of the command. -/
theorem readCommand_of_some {known : List Switch} {words : List String} {w : Words}
    (h : readWords? (helpSwitch :: known) true words = some w) (hhelp : w.has "help" = false) (help : String)
    (read? : Words → Option Invocation) : readCommand known help read? words = (read? w).getD misuse := by
  unfold readCommand
  rw [h]
  simp only [hhelp]
  rfl

theorem readInvocation_readsCommands : ReadsCommands readInvocation where
  validate path hpath := by
    have hwords : readWords? [helpSwitch, ⟨"json", none, false⟩] true [path] = some ⟨[], [path]⟩ := by
      rw [readWords?_of_argument hpath]
      rfl
    rw [readInvocation_of_name (by decide), readNamed, readCommand_of_some hwords rfl]
    rfl
  validateAsJson path hpath := by
    have hwords : readWords? [helpSwitch, ⟨"json", none, false⟩] true [path, "--json"] = some ⟨[("json", "")], [path]⟩ := by
      rw [readWords?_of_argument hpath]
      rfl
    rw [readInvocation_of_name (by decide), readNamed, readCommand_of_some hwords rfl]
    rfl
  check schemaPath dataPath hschema hdata := by
    have hwords : readWords? [helpSwitch] true [schemaPath, dataPath] = some ⟨[], [schemaPath, dataPath]⟩ := by
      rw [readWords?_of_argument hschema, readWords?_of_argument hdata]
      rfl
    rw [readInvocation_of_name (by decide), readNamed, readCommand_of_some hwords rfl]
    rfl

/-! ## The terminal -/

theorem prints_described_iff {s : String} : Libraries.described.Prints s ↔ (plain? s).isSome = true := by
  show (plainLine? s).isSome = true ↔ _
  rw [plainLine?, Option.isSome_map]

theorem plainLine?_printsTags : PrintsTags plainLine? := by
  have hplain : ∀ s, (plainLine? s).isSome = (plain? s).isSome := fun s => by rw [plainLine?, Option.isSome_map]
  constructor
  · intro s hs
    rw [hplain]
    exact plain?_printsTags.bare s hs
  · intro s before c after hs hbefore hafter hc
    rw [hplain]
    exact plain?_printsTags.bracket s before c after hs hbefore hafter hc
  · intro before inside after s c name hc hname hs
    rw [hplain, hplain]
    exact plain?_printsTags.styled before inside after s c name hc hname hs

theorem isSome_mapM_iff {α β : Type} {f : α → Option β} {l : List α} :
    (l.mapM f).isSome = true ↔ ∀ a ∈ l, (f a).isSome = true := by
  induction l with
  | nil => simp
  | cons a l ih =>
    rw [List.forall_mem_cons, ← ih, List.mapM_cons]
    cases f a with
    | none => simp
    | some b => cases l.mapM f <;> simp

theorem isSome_plainCells?_iff {cells : List String} :
    (plainCells? cells).isSome = true ↔ ∀ cell ∈ cells, Libraries.described.Prints cell := by
  rw [plainCells?, isSome_mapM_iff]
  simp only [Option.isSome_map, prints_described_iff]

theorem Libraries.printsMarkup_described : PrintsMarkup .described where
  tags := plainLine?_printsTags
  table title heads rows := by
    have hrows : (rows.mapM plainCells?).isSome = true ↔ ∀ row ∈ rows, ∀ cell ∈ row, Libraries.described.Prints cell := by
      rw [isSome_mapM_iff]
      simp only [isSome_plainCells?_iff]
    rw [prints_described_iff, ← isSome_plainCells?_iff, ← hrows]
    show (plainTable? title heads rows).isSome = true ↔ _
    unfold plainTable?
    cases plain? title <;> cases plainCells? heads <;> cases rows.mapM plainCells? <;> simp
  frame title s := by
    rw [prints_described_iff, prints_described_iff]
    show (plainFrame? title s).isSome = true ↔ _
    unfold plainFrame?
    cases plain? title <;> cases plain? s <;> simp

end WebForm.Command
