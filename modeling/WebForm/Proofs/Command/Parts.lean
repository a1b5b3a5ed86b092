/-
The parts that commands are made of: a line that says what is done, a file that is read, a document that is made, and
what is printed of both. Of each part it is said which texts it has to print; the texts that it prints around them,
with styles of their own, make no difference. What the libraries do is not known but for a few laws.
-/
import WebForm.Proofs.Command.Steps
import WebForm.Proofs.Document.Outcome
import WebForm.Proofs.Submission.Keyed

namespace WebForm.Command

open Terminal

/-! ## What is relied on -/

/-- What the commands rely on of the library for the terminal: texts in a table or a frame are printed, or not, as they
are alone. -/
structure PrintsMarkup (lib : Libraries) : Prop where
  tags : PrintsTags lib.line?
  table : ∀ title heads rows, (lib.table? title heads rows).isSome = true ↔
    lib.Prints title ∧ (∀ head ∈ heads, lib.Prints head) ∧ ∀ row ∈ rows, ∀ cell ∈ row, lib.Prints cell
  frame : ∀ title s, (lib.frame? title s).isSome = true ↔ lib.Prints title ∧ lib.Prints s

/-- What is relied on of the library for the command line: a word that does not start with a hyphen is an argument. -/
structure ReadsCommands (invocation : List String → Invocation) : Prop where
  validate : ∀ path : String, path.toList.head? ≠ some '-' → invocation ["validate", path] = .validate path false
  validateAsJson : ∀ path : String, path.toList.head? ≠ some '-' →
    invocation ["validate", path, "--json"] = .validate path true
  check : ∀ schemaPath dataPath : String, schemaPath.toList.head? ≠ some '-' → dataPath.toList.head? ≠ some '-' →
    invocation ["check", schemaPath, dataPath] = .check schemaPath dataPath

/-! ## Texts of the commands -/

section

variable {lib : Libraries} (hlib : PrintsTags lib.line?)

include hlib

theorem prints_failed (s : String) : lib.Prints ("  [red]Failed to parse:[/] " ++ s) ↔ lib.Prints s :=
  hlib.styled "  " "Failed to parse:" " " s 'r' "ed".toList rfl (by simp) (by simp)

theorem prints_passed (s : String) : lib.Prints ("  [green]v[/] " ++ s) ↔ lib.Prints s :=
  hlib.styled "  " "v" " " s 'g' "reen".toList rfl (by simp) (by simp)

/-- A text in one style, with nothing behind it. -/
theorem prints_in_style (before inside : String) (c : Char) (name : List Char) (hc : c.isLower = true)
    (hname : ∀ x ∈ name, x.isLower = true ∨ x = ' ') (hplain : ∀ x ∈ before.toList ++ inside.toList, x ≠ '[' ∧ x ≠ '\\') :
    lib.Prints (before ++ "[" ++ String.ofList (c :: name) ++ "]" ++ inside ++ "[/]") := by
  have h := (hlib.styled before inside "" "" c name hc hname (by simpa using hplain)).2 (hlib.bare _ List.not_mem_nil)
  rwa [String.append_empty, String.append_empty] at h

theorem prints_valid : lib.Prints "\n[green]Valid![/]" :=
  prints_in_style hlib "\n" "Valid!" 'g' "reen".toList rfl (by simp) (by simp)

theorem prints_not_object : lib.Prints "  [red]Form data must be a JSON object keyed by field id[/]" :=
  prints_in_style hlib "  " "Form data must be a JSON object keyed by field id" 'r' "ed".toList rfl (by simp) (by simp)

/-- The mark that says whether a field is required. -/
theorem prints_required (required : Bool) : lib.Prints (if required then "[green]Y[/]" else "[dim]N[/]") := by
  cases required with
  | true => exact prints_in_style hlib "" "Y" 'g' "reen".toList rfl (by simp) (by simp)
  | false => exact prints_in_style hlib "" "N" 'd' "im".toList rfl (by simp) (by simp)

/-- The line that says what is done with a file. -/
theorem headline_gives {action path : String} (haction : Bare action) (hpath : Bare path) :
    Gives (print lib ("\n[bold blue]formgen[/]" ++ action ++ path ++ "\n")) (.ok ()) := by
  have hrest : lib.Prints (action ++ path ++ "\n") := hlib.bare _ ((haction.append hpath).append (by decide))
  have hstyled : lib.Prints ("\n[bold blue]formgen[/]" ++ (action ++ path ++ "\n")) :=
    (hlib.styled "\n" "formgen" "" (action ++ path ++ "\n") 'b' "old blue".toList rfl (by simp) (by simp)).2 hrest
  refine Gives.print ?_
  simpa only [String.append_assoc] using hstyled

/-- The mark in front of the counts is in brackets, but it is no tag. -/
theorem prints_summary (r : Report) : lib.Prints r.summary := by
  obtain ⟨counts, hsummary, hcounts⟩ : ∃ counts, r.summary = (if r.passed then "[PASS] " else "[FAIL] ") ++ counts ∧
      Bare counts := by
    refine ⟨_, ?_, (Bare.natural r.data.length).append (.append (show Bare " field(s), " by decide)
      ((Bare.natural r.errorsByField.length).append (.append (show Bare " invalid, " by decide)
        ((Bare.natural r.issues.length).append (show Bare " error(s)" by decide)))))⟩
    simp only [Report.summary, String.append_assoc]
  obtain ⟨c, after, hmark, hc, hafter⟩ : ∃ c after, (if r.passed then "[PASS] " else "[FAIL] ").toList = '[' :: c :: after ∧
      startsTag c = false ∧ '[' ∉ c :: after := by
    split
    · exact ⟨'P', "ASS] ".toList, rfl, rfl, by decide⟩
    · exact ⟨'F', "AIL] ".toList, rfl, rfl, by decide⟩
  refine hlib.bracket _ [] c (after ++ counts.toList) ?_ List.not_mem_nil ?_ hc
  · rw [hsummary, String.toList_append, hmark]
    rfl
  · rw [← List.cons_append, List.mem_append, not_or]
    exact ⟨hafter, hcounts⟩

end

/-! ## Files -/

section

variable {lib : Libraries} {files : Files} {path : String}

/-- Whether a failure to read a file is reported: it has to be one of the input, and if it is one of YAML, what the
library says of it has to be printed. -/
def Reported (lib : Libraries) : InputFailure → Prop
  | .yaml wording => lib.Prints (InputFailure.yaml wording).message
  | f => f.isOfInput = true

theorem load_of_ok {v : Value} (h : files.load lib.platform path = .ok v) : Gives (load lib files path) (.ok v) := by
  unfold load
  rw [h]
  exact Gives.pure v

/-- A failure of the input is reported if its message can be printed. -/
theorem load_of_input {f : InputFailure} (hlib : PrintsTags lib.line?) (h : files.load lib.platform path = .error f)
    (hinput : f.isOfInput = true) : Ends exitInput (lib.Prints f.message) (load lib files path) := by
  unfold load
  rw [h]
  dsimp only
  rw [if_pos hinput]
  constructor
  · intro hprints
    exact ⟨_, (Gives.print ((prints_failed hlib _).2 hprints)).bind (Gives.exit exitInput), rfl⟩
  · intro hprints
    exact ⟨by decide, .markup, ((GoesThrough.print lib _).cut (mt (prints_failed hlib _).1 hprints)).bind_error⟩

/-- A failure to load a file decides the run if it is reported, and else cuts it short. -/
theorem load_of_error (hlib : PrintsTags lib.line?) (hpath : Bare path) {f : InputFailure}
    (h : files.load lib.platform path = .error f) : Ends exitInput (Reported lib f) (load lib files path) := by
  by_cases hinput : f.isOfInput = true
  · refine (load_of_input hlib h hinput).congr ?_
    by_cases hyaml : ∃ wording, f = .yaml wording
    · obtain ⟨wording, rfl⟩ := hyaml
      exact Iff.rfl
    · have hyaml := not_exists.1 hyaml
      have hmessage : lib.Prints f.message := Files.prints_message hlib h hinput hpath hyaml
      have hreported : Reported lib f := by
        cases f with
        | yaml wording => exact absurd rfl (hyaml wording)
        | _ => exact hinput
      exact iff_of_true hmessage hreported
  · have hreported : ¬Reported lib f := by
      cases f with
      | yaml wording => exact absurd rfl hinput
      | _ => exact hinput
    unfold load
    rw [h]
    dsimp only
    rw [if_neg hinput]
    exact ⟨fun hp => absurd hp hreported, fun _ => ⟨by decide, _, Gives.crash _⟩⟩

end

/-! ## Documents -/

section

variable (lib : Libraries)

theorem build_of_ok [CharacterNames] {v : Value} {d : Document} (hruns : lib.platform.searching v = none)
    (h : Document.read v = .ok d) : Gives (build lib v) (.ok d) := by
  unfold build
  rw [Document.ofValue_eq_ok_iff.2 ⟨hruns, h⟩]
  exact Gives.pure d

theorem printDefects_goesThrough (defects : List Defect) : ∃ p, GoesThrough p (printDefects lib defects) :=
  ⟨_, (GoesThrough.print lib _).bind fun _ => GoesThrough.forM fun _ _ => GoesThrough.print lib _⟩

theorem build_of_defective [CharacterNames] {v : Value} {found : List Defect} (hruns : lib.platform.searching v = none)
    (h : Document.read v = .error (.defective found)) : Ends exitInvalid True (build lib v) := by
  obtain ⟨p, hp⟩ := printDefects_goesThrough lib found
  unfold build
  rw [Document.ofValue_eq_refused_iff.2 ⟨hruns, h⟩]
  exact .after_printed hp fun _ => .of_gives (Gives.exit _)

variable {lib}

/-- The table of a document is printed if its title and the ids and labels of its fields are. -/
theorem prints_table (hlib : PrintsMarkup lib) (title : String) (fields : List Field) :
    (lib.table? title ["ID", "Type", "Label", "Required"] (fields.map fieldRow)).isSome = true ↔
      lib.Prints title ∧ ∀ f ∈ fields, lib.Prints f.id ∧ lib.Prints f.label := by
  have hheads : ∀ head ∈ ["ID", "Type", "Label", "Required"], lib.Prints head := by
    intro head hhead
    refine hlib.tags.bare head ?_
    revert head
    decide
  have htype : ∀ f : Field, lib.Prints f.type.name := by
    intro f
    refine hlib.tags.bare _ ?_
    cases f.type <;> decide
  rw [hlib.table, and_iff_right hheads]
  refine and_congr_right fun _ => ?_
  simp [fieldRow, htype, prints_required hlib.tags]

end

/-! ## Reports -/

section

variable {lib : Libraries}

/-- Of a field without messages the id is printed. -/
theorem printField_of_nil (hlib : PrintsTags lib.line?) {report : Report} {id : String} (h : report.errorsOf id = []) :
    GoesThrough (lib.Prints id) (printField lib report id) := by
  unfold printField
  rw [h]
  exact (GoesThrough.print lib _).congr (prints_passed hlib id)

theorem printField_goesThrough (lib : Libraries) (report : Report) (id : String) :
    ∃ p, GoesThrough p (printField lib report id) := by
  unfold printField
  split
  · exact ⟨_, GoesThrough.print lib _⟩
  · exact ⟨_, GoesThrough.forM fun _ _ => GoesThrough.print lib _⟩

/-- Of a submission without issues the ids are printed. -/
theorem printReport_of_nil (hlib : PrintsMarkup lib) {d : Document} (hids : d.fieldIds.Nodup) {report : Report}
    (h : report.issues = []) : GoesThrough (∀ f ∈ d.fields, lib.Prints f.id) (printReport lib d report) := by
  have hfield : ∀ id, GoesThrough (lib.Prints id) (printField lib report id) := fun id =>
    printField_of_nil hlib.tags (by rw [Report.errorsOf, h]; rfl)
  have hframe : (lib.frame? "Submission Result" report.summary).isSome = true :=
    (hlib.frame _ _).2 ⟨hlib.tags.bare _ (by decide), prints_summary hlib.tags report⟩
  refine ((GoesThrough.forM fun id _ => hfield id).bind fun _ => GoesThrough.display _).congr ?_
  rw [and_iff_left hframe, Document.ids_assemble hids, Document.fieldIds, List.forall_mem_map]

theorem printReport_goesThrough (lib : Libraries) (d : Document) (report : Report) :
    ∃ p, GoesThrough p (printReport lib d report) := by
  choose p hp using printField_goesThrough lib report
  exact ⟨_, (GoesThrough.forM fun id _ => hp id).bind fun _ => GoesThrough.display _⟩

end

end WebForm.Command
