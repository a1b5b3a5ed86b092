/-
The commands of the command line, over the files that they may read. A run ends with an exit code, what
it printed, and the file that it wrote; or it is cut short by something that no command handles.

What libraries do is a parameter: reading the words of a command line, printing texts with style tags on
the terminal, alone, in tables and in frames, and what the platform does where a file is read.
-/
import WebForm.Document.Schema
import WebForm.Document.Sample
import WebForm.Form

namespace WebForm.Command

/-! ## Libraries -/

/-- What a command line asks for: one of the commands, or something that the library which reads it answers
by itself, as a page of help or the complaint about a word that it does not know. -/
inductive Invocation where
  | validate (path : String) (asJson : Bool)
  | check (schemaPath dataPath : String)
  | generate (path : String) (flavor : Flavor) (output : Option String)
  | schema
  | sample (output : Option String)
  | answered (code : Nat) (printed : String)

/-- What libraries do for the commands. Style tags are read in the title and the cells of a table and in the
text of a frame as well; what cannot be printed for its tags gives nothing. -/
structure Libraries where
  platform : Platform
  invocation : List String → Invocation
  line? : (markup : String) → Option String
  table? : (title : String) → (heads : List String) → (rows : List (List String)) → Option String
  frame? : (title : String) → (markup : String) → Option String
  source : (code : String) → String

/-! ## Runs -/

/-- Why a file cannot be written. -/
inductive WriteFailure where
  | noDirectory
  | isDirectory
  | notDirectory
deriving DecidableEq

/-- What no command handles: a check that stopped, a bound of the interpreter, a text without a value for
another reason than its form, a text whose style tags cannot be printed, or a file that cannot be written. -/
inductive Crash where
  | halted (halt : Halt)
  | exceeded (excess : Excess)
  | input (failure : InputFailure)
  | markup
  | output (failure : WriteFailure)

def WriteFailure.message : WriteFailure → String
  | noDirectory => "No such file or directory"
  | isDirectory => "Is a directory"
  | notDirectory => "Not a directory"

def Crash.message : Crash → String
  | halted h => h.message
  | exceeded e => e.message
  | input f => f.message
  | markup => "a tag closes what is not open"
  | output f => f.message

/-- How a run ends before its last step. -/
inductive Ending where
  | exit (code : Nat)
  | crash (crash : Crash)

/-- What a run has done so far. -/
structure Screen where
  printed : String
  written : Option (String × String)

/-- A step of a run. -/
abbrev Running := ExceptT Ending (StateM Screen)

/-- The exit code where a document or a submission is not valid. -/
def exitInvalid : Nat := 1

/-- The exit code where a file cannot be read, or the command line not be understood. -/
def exitInput : Nat := 2

def exit {α : Type} (code : Nat) : Running α := throw (.exit code)

def crash {α : Type} (c : Crash) : Running α := throw (.crash c)

/-- Prints a text as it is. -/
def echo (text : String) : Running Unit := modify fun s => { s with printed := s.printed ++ text }

def echoLine (text : String) : Running Unit := echo (text ++ "\n")

/-- Prints what a library makes of texts with style tags. -/
def display (printed : Option String) : Running Unit :=
  match printed with
  | some text => echo text
  | none => crash .markup

/-- Prints a line of text with style tags. -/
def print (lib : Libraries) (markup : String) : Running Unit := display (lib.line? markup)

/-- Why nothing can be written at a path, if so. -/
def writeFailure? (files : Files) (path : String) : Option WriteFailure :=
  let p := Path.ofText path
  let directory (p : Path) : Bool := match files.get? p with
    | some .directory => true
    | _ => false
  let parent : Path := { p with names := p.names.dropLast }
  if directory p || path.toList.getLast? == some '/' then some .isDirectory
  else if directory parent then none
  else if (files.get? parent).isSome then some .notDirectory
  else some .noDirectory

def write (files : Files) (path text : String) : Running Unit :=
  match writeFailure? files path with
  | some f => crash (.output f)
  | none => modify fun s => { s with written := some (path, text) }

/-! ## Parts of commands -/

section

variable (lib : Libraries)

/-- The value of a file; the run ends if there is none. -/
def load (files : Files) (path : String) : Running Value :=
  match files.load lib.platform path with
  | .ok v => return v
  | .error f =>
    if f.isOfInput then do
      print lib ("  [red]Failed to parse:[/] " ++ f.message)
      exit exitInput
    else crash (.input f)

/-- Prints the defects of a document. -/
def printDefects (defects : List Defect) : Running Unit := do
  print lib "[red]Schema validation FAILED:[/]"
  defects.forM fun d => print lib ("  [red]x[/] " ++ d.message)

/-- The document of a value; the run ends if it has defects. -/
def build [CharacterNames] (v : Value) : Running Document :=
  match Document.ofValue lib.platform v with
  | .ok d => return d
  | .error (.unreadable f) => crash (.input f)
  | .error (.exceeded e) => crash (.exceeded e)
  | .error (.refused (.halted h)) => crash (.halted h)
  | .error (.refused (.defective defects)) => do
    printDefects lib defects
    exit exitInvalid

/-- The cells of a field in the table of a document. -/
def fieldRow (f : Field) : List String :=
  [f.id, f.type.name, f.label, if f.required then "[green]Y[/]" else "[dim]N[/]"]

/-! ## Commands -/

/-- Validates a document and prints a table of its fields, or its defects. -/
def validate [CharacterNames] (files : Files) (path : String) (asJson : Bool) : Running Unit := do
  let v ← load lib files path
  let i ← match inspect lib.platform v with
    | .ok i => pure i
    | .error (.halted h) => crash (.halted h)
    | .error (.exceeded e) => crash (.exceeded e)
  if asJson then
    echoLine (Json.writeIndented 0 (.record [("valid", .bool i.passed), ("errors", .texts i.messages)]))
  else
    print lib ("\n[bold blue]formgen[/] — Validating: " ++ path ++ "\n")
    if i.passed then
      let d ← build lib v
      display (lib.table? (i.title ++ " (" ++ toString i.fieldCount ++ " fields)") ["ID", "Type", "Label", "Required"]
        (d.fields.map fieldRow))
      print lib "\n[green]Valid![/]"
    else printDefects lib i.defects
  if !i.passed then exit exitInvalid

/-- Prints what the check of one field found. -/
def printField (report : Report) (id : String) : Running Unit :=
  match report.errorsOf id with
  | [] => print lib ("  [green]v[/] " ++ id)
  | messages => messages.forM fun m => print lib ("  [red]x[/] " ++ id ++ ": " ++ m)

/-- Prints what the check of a submission found, field by field, and the counts. -/
def printReport (d : Document) (report : Report) : Running Unit := do
  d.assemble.ids.forM (printField lib report)
  display (lib.frame? "Submission Result" report.summary)

/-- Checks the submission at a path against the document of a value and prints what was found. -/
def checkSubmission [CharacterNames] (files : Files) (v : Value) (d : Document) (dataPath : String) : Running Unit := do
  let data ← load lib files dataPath
  match d.submit lib.platform v data with
  | .error (.interrupted (.notMapping _)) =>
    print lib "  [red]Form data must be a JSON object keyed by field id[/]"
    exit exitInput
  | .error (.interrupted (.halted h)) => crash (.halted h)
  | .error (.exceeded e) => crash (.exceeded e)
  | .ok report =>
    printReport lib d report
    if !report.passed then exit exitInvalid

/-- Checks a submission against the document at a path. -/
def check [CharacterNames] (files : Files) (schemaPath dataPath : String) : Running Unit := do
  print lib ("\n[bold blue]formgen[/] — Checking: " ++ dataPath ++ "\n")
  let v ← load lib files schemaPath
  checkSubmission lib files v (← build lib v) dataPath

/-- Prints the source of a document, or writes it to a file. -/
def generate [CharacterNames] (files : Files) (path : String) (flavor : Flavor) (output : Option String) :
    Running Unit := do
  let d ← build lib (← load lib files path)
  let code := d.code flavor
  match output.filter (· ≠ "") with
  | some output =>
    write files output code
    print lib ("[green]" ++ flavor.name ++ " code written to:[/] " ++ output)
  | none => echo (lib.source code)

def schema : Running Unit := echoLine (Json.writeIndented 0 Schema.document)

/-- Prints the sample document, or writes it to a file. -/
def sample (files : Files) (output : Option String) : Running Unit :=
  match output.filter (· ≠ "") with
  | some output => do
    write files output Sample.text
    print lib ("[green]Sample form written to:[/] " ++ output)
  | none => echo Sample.text

/-- Does what the words of a command line ask for. -/
def runWords [CharacterNames] (files : Files) (words : List String) : Running Unit := do
  match lib.invocation words with
  | .validate path asJson => validate lib files path asJson
  | .check schemaPath dataPath => check lib files schemaPath dataPath
  | .generate path flavor output => generate lib files path flavor output
  | .schema => schema
  | .sample output => sample lib files output
  | .answered code printed =>
    echo printed
    exit code

end

/-- What a run leaves behind. -/
structure Result where
  code : Nat
  printed : String
  written : Option (String × String)
  crash : Option Crash

/-- What is left behind by steps. -/
def Running.result {α : Type} (steps : Running α) : Result :=
  match steps.run.run ⟨"", none⟩ with
  | (.ok _, s) => ⟨0, s.printed, s.written, none⟩
  | (.error (.exit code), s) => ⟨code, s.printed, s.written, none⟩
  | (.error (.crash c), s) => ⟨1, s.printed, s.written, some c⟩

/-- Runs the program over files. -/
def run [CharacterNames] (lib : Libraries) (files : Files) (words : List String) :
    Result := (runWords lib files words).result

end WebForm.Command
