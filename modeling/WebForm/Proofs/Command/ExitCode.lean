/-
The exit codes of the two commands that look at documents. Each code is decided by the files alone, the schema before
the data, and a run ends with it unless it is cut short while it prints: the texts of the author go to the terminal with
their style tags, and a text that cannot be printed ends the run with the code of a document that is not valid. Where
that happens is said exactly; no text matters to a run that would have ended with that code anyway.
-/
import WebForm.Proofs.Command.Described
import WebForm.Proofs.Command.Parts
import WebForm.Proofs.Submission.Total

namespace WebForm.Command

open Terminal

/-! ## Codes -/

/-- The code that a validation should end with: that of a file without a value, that of a value with defects, or zero. -/
def validationCode [CharacterNames] (p : Platform) (files : Files) (path : String) : Nat :=
  match files.load p path with
  | .error _ => exitInput
  | .ok v => if Gate.defects v = .ok [] then 0 else exitInvalid

/-- The code that a check against a document should end with: the data should have a value that is an object, and no
issues. -/
def submissionCode [CharacterNames] (p : Platform) (files : Files) (d : Document) (dataPath : String) : Nat :=
  match files.load p dataPath with
  | .error _ => exitInput
  | .ok data =>
    match d.check data with
    | .error (.notMapping _) => exitInput
    | .error (.halted _) => exitInvalid
    | .ok report => if report.issues = [] then 0 else exitInvalid

/-- The code that a check should end with. The data are looked at only if the schema has no defects. -/
def checkCode [CharacterNames] (p : Platform) (files : Files) (schemaPath dataPath : String) : Nat :=
  match files.load p schemaPath with
  | .error _ => exitInput
  | .ok v =>
    match Document.read v with
    | .error _ => exitInvalid
    | .ok d => submissionCode p files d dataPath

/-- A path that is no switch on the command line, and no style tag on the screen. -/
structure IsPlainPath (path : String) : Prop where
  bare : Bare path
  argument : path.toList.head? ≠ some '-'

/-! ## Conditions -/

section

variable (lib : Libraries) (files : Files)

/-- The file at a path has a value, or its failure is reported. -/
def LoadsOrReports (path : String) : Prop := ∀ f, files.load lib.platform path = .error f → Reported lib f

/-- The title with the count of the fields, and the ids and the labels of a document can be printed. -/
def PrintsTable (d : Document) : Prop :=
  lib.Prints (d.title ++ " (" ++ toString d.fields.length ++ " fields)") ∧
    ∀ f ∈ d.fields, lib.Prints f.id ∧ lib.Prints f.label

/-- Nothing cuts a validation short: it reports a failure, and prints the table of a document. -/
def ValidationPrints [CharacterNames] (path : String) : Prop :=
  LoadsOrReports lib files path ∧
    ∀ v, files.load lib.platform path = .ok v → ∀ d, Document.read v = .ok d → PrintsTable lib d

/-- Nothing cuts a check against a document short: it reports a failure, and where there are no issues it prints the
ids. -/
def SubmissionPrints [CharacterNames] (d : Document) (dataPath : String) : Prop :=
  LoadsOrReports lib files dataPath ∧ ∀ data, files.load lib.platform dataPath = .ok data →
    ∀ report, d.check data = .ok report → report.issues = [] → ∀ f ∈ d.fields, lib.Prints f.id

/-- Nor does anything cut short what comes before it. -/
def CheckPrints [CharacterNames] (schemaPath dataPath : String) : Prop :=
  LoadsOrReports lib files schemaPath ∧ ∀ v, files.load lib.platform schemaPath = .ok v → ∀ d, Document.read v = .ok d →
    SubmissionPrints lib files d dataPath

end

section

variable (p : Platform) (files : Files)

/-- The search for defects of the value at a path, if there is one and it is of the kinds here, does not stop and runs
out of nothing. -/
structure GateRuns [CharacterNames] (path : String) : Prop where
  known : files.load p path ≠ .error .foreign
  lasts : ∀ v, files.load p path = .ok v → p.searching v = none
  found : ∀ v, files.load p path = .ok v → ∀ halt, Gate.defects v ≠ .error halt

/-- Nor does the check of the submission at a path against the document at another. -/
structure CheckRuns [CharacterNames] (schemaPath dataPath : String) : Prop where
  known : files.load p dataPath ≠ .error .foreign
  lasts : ∀ v, files.load p schemaPath = .ok v → ∀ data, files.load p dataPath = .ok data → p.checking v data = none
  found : ∀ v, files.load p schemaPath = .ok v → ∀ d, Document.read v = .ok d →
    ∀ data, files.load p dataPath = .ok data → ∀ halt, d.check data ≠ .error (.halted halt)

end

section

variable {lib : Libraries} {files : Files} {path : String}

theorem loadsOrReports_of_error {f : InputFailure} (h : files.load lib.platform path = .error f) :
    LoadsOrReports lib files path ↔ Reported lib f := by
  simp only [LoadsOrReports, h, Except.error.injEq, forall_eq']

theorem loadsOrReports_of_ok {v : Value} (h : files.load lib.platform path = .ok v) : LoadsOrReports lib files path := by
  simp only [LoadsOrReports, h, reduceCtorEq, false_imp_iff, implies_true]

/-- What has to hold of a value that there is holds of all there are, and where there is none it holds anyway. -/
theorem forall_ok_iff {ε α : Type} {x : Except ε α} {a : α} (h : x = .ok a) {p : α → Prop} :
    (∀ b, x = .ok b → p b) ↔ p a := by
  simp only [h, Except.ok.injEq, forall_eq']

theorem forall_ok_of_error {ε α : Type} {x : Except ε α} {e : ε} (h : x = .error e) {p : α → Prop} :
    ∀ b, x = .ok b → p b := by
  simp only [h, reduceCtorEq, false_imp_iff, implies_true]

end

/-! ## Validations -/

section

variable [CharacterNames] {lib : Libraries} {files : Files} {path : String}

theorem exists_inspect {p : Platform} {v : Value} (hgate : GateRuns p files path) (h : files.load p path = .ok v) :
    ∃ i, inspect p v = .ok i := by
  obtain ⟨i, hi, -⟩ := Document.exists_inspect (hgate.lasts v h) fun halt hhalts =>
    hgate.found v h halt (Gate.defects_eq_error_iff.2 hhalts)
  exact ⟨i, hi⟩

/-- An inspection that passes is that of a document, with its title and the number of its fields. -/
theorem read_of_inspect {p : Platform} {v : Value} {i : Inspection} (hi : inspect p v = .ok i) :
    p.searching v = none ∧ Gate.defects v = .ok i.defects ∧
      (i.defects = [] → ∃ d, Document.read v = .ok d ∧ i.title = d.title ∧ i.fieldCount = d.fields.length) := by
  obtain ⟨hruns, hi⟩ := Document.unlessExceeded_eq_ok_iff.1 hi
  cases hfound : Gate.defects v with
  | error halt =>
    rw [hfound] at hi
    cases hi
  | ok found =>
    rw [hfound] at hi
    cases hi
    refine ⟨hruns, rfl, fun hnil => ?_⟩
    have hv := Gate.defects_eq_ok_nil_iff.1 (hfound.trans (congrArg Except.ok hnil))
    obtain ⟨d, hd⟩ := Document.exists_read hv
    obtain ⟨htitle, -, fields, hfields, hall⟩ := Gate.document?_eq_some_iff.1 (Document.read_eq_ok_iff.1 hd).2
    refine ⟨d, hd, ?_, ?_⟩
    · show Inspection.titleOf v = d.title
      unfold Inspection.titleOf
      rw [htitle]
      exact if_neg (Document.read_sound hd).title
    · show Inspection.countOf v = d.fields.length
      unfold Inspection.countOf
      rw [hfields]
      exact hall.length_eq

theorem validationCode_of_inspect {p : Platform} {v : Value} (h : files.load p path = .ok v) {i : Inspection}
    (hi : inspect p v = .ok i) : validationCode p files path = if i.passed = true then 0 else exitInvalid := by
  have hpassed : i.passed = true ↔ Gate.defects v = .ok [] := by
    rw [(read_of_inspect hi).2.1, Inspection.passed, List.isEmpty_iff, Except.ok.injEq]
  unfold validationCode
  rw [h]
  dsimp only
  simp only [hpassed]

/-- With the result as data nothing of the author's is printed. -/
theorem validate_json_ends (hlib : PrintsMarkup lib) (hpath : Bare path) (hgate : GateRuns lib.platform files path) :
    Ends (validationCode lib.platform files path) (LoadsOrReports lib files path) (validate lib files path true) := by
  cases hload : files.load lib.platform path with
  | error f =>
    have hcode : validationCode lib.platform files path = exitInput := by rw [validationCode, hload]
    rw [hcode, loadsOrReports_of_error hload]
    exact (load_of_error hlib.tags hpath hload).bind (by decide)
  | ok v =>
    obtain ⟨i, hi⟩ := exists_inspect hgate hload
    have hall : LoadsOrReports lib files path := loadsOrReports_of_ok hload
    rw [validationCode_of_inspect hload hi]
    refine Ends.congr (.after (load_of_ok hload) ?_) (iff_of_true trivial hall)
    simp only [hi]
    refine .after (Gives.pure i) (.after (Gives.echo _) ?_)
    cases i.passed
    · exact .of_gives (Gives.exit _)
    · exact .of_gives (Gives.pure _)

/-- The table of a document has to be printed; where defects are printed instead, the code is the same anyway. -/
theorem validate_ends (hlib : PrintsMarkup lib) (hpath : Bare path) (hgate : GateRuns lib.platform files path) :
    Ends (validationCode lib.platform files path) (ValidationPrints lib files path) (validate lib files path false) := by
  cases hload : files.load lib.platform path with
  | error f =>
    have hcode : validationCode lib.platform files path = exitInput := by rw [validationCode, hload]
    have hcondition : ValidationPrints lib files path ↔ Reported lib f := by
      rw [ValidationPrints, loadsOrReports_of_error hload]
      exact and_iff_left (forall_ok_of_error hload)
    rw [hcode, hcondition]
    exact (load_of_error hlib.tags hpath hload).bind (by decide)
  | ok v =>
    obtain ⟨i, hi⟩ := exists_inspect hgate hload
    obtain ⟨hruns, hdefects, hdocument⟩ := read_of_inspect hi
    have hall : LoadsOrReports lib files path := loadsOrReports_of_ok hload
    have hheadline := headline_gives hlib.tags (show Bare " — Validating: " by decide) hpath
    rw [validationCode_of_inspect hload hi, ValidationPrints, and_iff_right hall, forall_ok_iff hload]
    refine .after (load_of_ok hload) ?_
    simp only [hi]
    refine .after (Gives.pure i) (.after hheadline ?_)
    cases hpassed : i.passed with
    | true =>
      obtain ⟨d, hd, htitle, hcount⟩ := hdocument (List.isEmpty_iff.1 hpassed)
      rw [forall_ok_iff hd, htitle, hcount, PrintsTable, ← prints_table hlib]
      refine .after (build_of_ok lib hruns hd) (Ends.of_goesThrough (((GoesThrough.display _).bind fun _ =>
        (GoesThrough.print lib _).bind fun _ => GoesThrough.of_gives (Gives.pure ())).congr ?_))
      exact and_iff_left ⟨prints_valid hlib.tags, trivial⟩
    | false =>
      have hnone : ∀ d, Document.read v = .ok d → PrintsTable lib d := by
        intro d hd
        -- a value with defects is not read
        have hnil := Gate.defects_eq_ok_nil_iff.2 (Document.read_eq_ok_iff.1 hd).1
        rw [hdefects] at hnil
        exact absurd (List.isEmpty_iff.2 (Except.ok.inj hnil)) (Bool.eq_false_iff.1 hpassed)
      obtain ⟨p, hprinted⟩ := printDefects_goesThrough lib i.defects
      exact Ends.congr (.after_printed hprinted fun _ => .of_gives (Gives.exit _)) (iff_of_true trivial hnone)

end

/-! ## Checks -/

section

variable [CharacterNames] {lib : Libraries} {files : Files} {schemaPath dataPath : String}

/-- Only where there are no issues does it matter whether the ids can be printed. -/
theorem checkSubmission_ends (hlib : PrintsMarkup lib) (hdata : Bare dataPath) {v : Value} {d : Document}
    (hd : Document.read v = .ok d)
    (hlasts : ∀ data, files.load lib.platform dataPath = .ok data → lib.platform.checking v data = none)
    (hfound : ∀ data, files.load lib.platform dataPath = .ok data → ∀ halt, d.check data ≠ .error (.halted halt)) :
    Ends (submissionCode lib.platform files d dataPath) (SubmissionPrints lib files d dataPath)
      (checkSubmission lib files v d dataPath) := by
  unfold submissionCode SubmissionPrints
  cases hload : files.load lib.platform dataPath with
  | error f =>
    rw [loadsOrReports_of_error hload, and_iff_left (forall_ok_of_error rfl)]
    exact (load_of_error hlib.tags hdata hload).bind (by decide)
  | ok data =>
    rw [and_iff_right (loadsOrReports_of_ok hload), forall_ok_iff rfl]
    refine .after (load_of_ok hload) ?_
    dsimp only
    rw [Document.submit_eq_of_read hd (hlasts data hload)]
    cases hcheck : d.check data with
    | error stop =>
      cases stop with
      | halted halt => exact absurd hcheck (hfound data hload halt)
      | notMapping w =>
        refine Ends.congr (.after (Gives.print (prints_not_object hlib.tags)) (.of_gives (Gives.exit exitInput))) ?_
        exact iff_of_true trivial (forall_ok_of_error rfl)
    | ok report =>
      rw [forall_ok_iff rfl]
      dsimp only [Except.mapError]
      split
      · rename_i hissues
        have hpassed : report.passed = true := List.isEmpty_iff.2 hissues
        rw [hpassed, forall_prop_of_true hissues]
        exact Ends.of_goesThrough (((printReport_of_nil hlib (Document.read_sound hd).ids hissues).bind fun _ =>
          GoesThrough.of_gives (Gives.pure ())).congr (and_iff_left trivial))
      · rename_i hissues
        have hpassed : report.passed = false := Bool.eq_false_iff.2 (mt List.isEmpty_iff.1 hissues)
        obtain ⟨p, hprinted⟩ := printReport_goesThrough lib d report
        rw [hpassed]
        exact Ends.congr (.after_printed hprinted fun _ => .of_gives (Gives.exit _))
          (iff_of_true trivial fun h => absurd h hissues)

/-- A check reads the schema before the data. -/
theorem check_ends (hlib : PrintsMarkup lib) (hschema : Bare schemaPath) (hdata : Bare dataPath)
    (hgate : GateRuns lib.platform files schemaPath) (hcheck : CheckRuns lib.platform files schemaPath dataPath) :
    Ends (checkCode lib.platform files schemaPath dataPath) (CheckPrints lib files schemaPath dataPath)
      (check lib files schemaPath dataPath) := by
  have hheadline := headline_gives hlib.tags (show Bare " — Checking: " by decide) hdata
  refine .after hheadline ?_
  unfold checkCode CheckPrints
  cases hload : files.load lib.platform schemaPath with
  | error f =>
    rw [loadsOrReports_of_error hload, and_iff_left (forall_ok_of_error rfl)]
    exact (load_of_error hlib.tags hschema hload).bind (by decide)
  | ok v =>
    rw [and_iff_right (loadsOrReports_of_ok hload), forall_ok_iff rfl]
    refine .after (load_of_ok hload) ?_
    have hruns := hgate.lasts v hload
    dsimp only
    cases hread : Document.read v with
    | error refusal =>
      cases refusal with
      | halted halt =>
        exact absurd (Gate.defects_eq_error_iff.2 (Document.read_eq_halted_iff.1 hread)) (hgate.found v hload halt)
      | defective found =>
        exact Ends.congr ((build_of_defective lib hruns hread).bind (by decide))
          (iff_of_true trivial (forall_ok_of_error rfl))
    | ok d =>
      rw [forall_ok_iff rfl]
      exact .after (build_of_ok lib hruns hread)
        (checkSubmission_ends hlib hdata hread (hcheck.lasts v hload) (hcheck.found v hload d hread))

end

/-! ## The command line -/

/-- A validation, with or without the result as data, and a check end with the codes that their files call for exactly
where what they print of the author's texts can be printed. Elsewhere they are cut short, with the code of what is not
valid. -/
theorem exit_codes_are_faithful_where_all_is_printed [CharacterNames] (lib : Libraries) (hlib : PrintsMarkup lib)
    (hwords : ReadsCommands lib.invocation) (files : Files) {schemaPath dataPath : String}
    (hschema : IsPlainPath schemaPath) (hdata : IsPlainPath dataPath) (hgate : GateRuns lib.platform files schemaPath)
    (hcheck : CheckRuns lib.platform files schemaPath dataPath) :
    Faithful (run lib files ["validate", schemaPath]) (validationCode lib.platform files schemaPath)
        (ValidationPrints lib files schemaPath) ∧
      Faithful (run lib files ["validate", schemaPath, "--json"]) (validationCode lib.platform files schemaPath)
        (LoadsOrReports lib files schemaPath) ∧
      Faithful (run lib files ["check", schemaPath, dataPath]) (checkCode lib.platform files schemaPath dataPath)
        (CheckPrints lib files schemaPath dataPath) := by
  unfold run runWords
  rw [hwords.validate schemaPath hschema.argument, hwords.validateAsJson schemaPath hschema.argument,
    hwords.check schemaPath dataPath hschema.argument hdata.argument]
  exact ⟨(validate_ends hlib hschema.bare hgate).faithful, (validate_json_ends hlib hschema.bare hgate).faithful,
    (check_ends hlib hschema.bare hdata.bare hgate hcheck).faithful⟩

theorem toOption_eq_some_iff {ε α : Type} {x : Except ε α} {a : α} : x.toOption = some a ↔ x = .ok a := by
  cases x <;> simp [Except.toOption]

/-- The files of a schema and of data, with the texts that they hold. -/
def textFiles (schema data : String) : Files :=
  [("s.json", .file schema.toByteArray.data.toList), ("d.json", .file data.toByteArray.data.toList)]

/-- The text of a form with one text field. -/
def formText (title id required : String) : String :=
  "\x7b\"formTitle\":\"" ++ title ++ "\",\"formDescription\":\"D\",\"fields\":[\x7b\"id\":\"" ++ id ++
    "\",\"type\":\"text\",\"label\":\"A\",\"required\":" ++ required ++ "\x7d]\x7d"

section

attribute [local instance] CharacterNames.ascii

/-- A form that asks for a name is valid, and a submission without the name is not. -/
theorem exit_codes_are_faithful_of_a_name :
    let lib : Libraries := .described
    let files := textFiles (formText "[b]Names[/b]" "name" "true") "\x7b\x7d"
    Faithful (run lib files ["validate", "s.json"]) 0 (ValidationPrints lib files "s.json") ∧
      Faithful (run lib files ["validate", "s.json", "--json"]) 0 (LoadsOrReports lib files "s.json") ∧
      Faithful (run lib files ["check", "s.json", "d.json"]) 1 (CheckPrints lib files "s.json" "d.json") := by
  intro lib files
  have hfound : ((files.load lib.platform "s.json").toOption.bind fun v => (Document.read v).toOption.bind fun d =>
      (files.load lib.platform "d.json").toOption.bind fun data => (d.check data).toOption.map fun report =>
        (Gate.defects v, report.passed)) = some (.ok [], false) := by decide +kernel
  simp only [Option.bind_eq_some_iff, Option.map_eq_some_iff, Prod.mk.injEq, toOption_eq_some_iff] at hfound
  obtain ⟨v, hv, d, hd, data, hdata, report, hreport, hdefects, hpassed⟩ := hfound
  have hgate : GateRuns lib.platform files "s.json" := by
    refine ⟨fun h => ?_, fun _ _ => rfl, (forall_ok_iff hv).2 fun halt => ?_⟩
    · rw [hv] at h
      cases h
    · rw [hdefects]
      exact nofun
  have hcheck : CheckRuns lib.platform files "s.json" "d.json" := by
    refine ⟨fun h => ?_, fun _ _ _ _ => rfl,
      (forall_ok_iff hv).2 ((forall_ok_iff hd).2 ((forall_ok_iff hdata).2 fun halt => ?_))⟩
    · rw [hdata] at h
      cases h
    · rw [hreport]
      exact nofun
  have hvalid : validationCode lib.platform files "s.json" = 0 := by
    rw [validationCode, hv]
    exact if_pos hdefects
  have hinvalid : checkCode lib.platform files "s.json" "d.json" = 1 := by
    have hissues : report.issues ≠ [] := fun h => absurd (List.isEmpty_iff.2 h) (Bool.eq_false_iff.1 hpassed)
    simp only [checkCode, submissionCode, hv, hd, hdata, hreport]
    exact if_neg hissues
  have hschema : IsPlainPath "s.json" := ⟨by decide, by decide⟩
  have hsubmission : IsPlainPath "d.json" := ⟨by decide, by decide⟩
  have h := exit_codes_are_faithful_where_all_is_printed lib Libraries.printsMarkup_described
    readInvocation_readsCommands files hschema hsubmission hgate hcheck
  rwa [hvalid, hinvalid] at h

end

/-- A valid form is said to be not valid if its title closes a style that was not opened. -/
theorem validate_of_closing_title [CharacterNames] {files : Files} {path : String} (hpath : Bare path) {v : Value}
    {d : Document} (hload : files.load .described path = .ok v) (hread : Document.read v = .ok d)
    {before name after : List Char} (htitle : d.title.toList = before ++ ('[' :: '/' :: name ++ ']' :: after))
    (hbefore : ∀ c ∈ before, c ≠ '[' ∧ c ≠ '\\') (hname : ∀ c ∈ name, c ≠ '[' ∧ c ≠ ']') :
    validationCode .described files path = 0 ∧ (validate .described files path false).result.code = exitInvalid := by
  have hdefects : Gate.defects v = .ok [] := Gate.defects_eq_ok_nil_iff.2 (Document.read_eq_ok_iff.1 hread).1
  have hgate : GateRuns Platform.described files path := by
    refine ⟨fun h => ?_, fun _ _ => rfl, (forall_ok_iff hload).2 fun halt => ?_⟩
    · rw [hload] at h
      cases h
    · rw [hdefects]
      exact nofun
  have htable : ¬PrintsTable .described d := by
    intro h
    have htext : (d.title ++ " (" ++ toString d.fields.length ++ " fields)").toList = before ++
        ('[' :: '/' :: name ++ ']' :: (after ++ (" (" ++ toString d.fields.length ++ " fields)").toList)) := by
      simp [htitle]
    have hnone : plain? (d.title ++ " (" ++ toString d.fields.length ++ " fields)") = none :=
      plain?_of_closing htext hbefore hname
    have hshown := prints_described_iff.1 h.1
    rw [hnone] at hshown
    cases hshown
  have hprints : ¬ValidationPrints .described files path := fun h => htable (h.2 v hload d hread)
  refine ⟨?_, ((validate_ends Libraries.printsMarkup_described hpath hgate).faithful.cut hprints).1⟩
  rw [validationCode, hload]
  exact if_pos hdefects

section

attribute [local instance] CharacterNames.ascii

/-- With such a title a form that is otherwise plain ends as not valid, and with such an id a submission without
issues. -/
theorem exit_codes_of_closing_tags :
    let titled := textFiles (formText "[/x]" "name" "false") "\x7b\x7d"
    let named := textFiles (formText "Names" "[/x]" "false") "\x7b\x7d"
    validationCode .described titled "s.json" = 0 ∧ (run .described titled ["validate", "s.json"]).code = 1 ∧
      checkCode .described named "s.json" "d.json" = 0 ∧ (run .described named ["check", "s.json", "d.json"]).code = 1 := by
  decide +kernel

end

end WebForm.Command
