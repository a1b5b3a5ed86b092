/-
The libraries that the program comes with, which do what those it was written for do with ordinary words,
texts and files: the words of a command line with its pages of help, style tags with tables and frames, YAML
1.1 without rare tags, and the usual bounds of the interpreter. The commands take all of it as a parameter;
here is the one with which the program runs.
-/
import WebForm.Command.Arguments
import WebForm.Command.Help
import WebForm.Command.Run
import WebForm.Terminal.Markup
import WebForm.Terminal.Table
import WebForm.Yaml.Reader

namespace WebForm

/-- What the reader of YAML says of a text without a value. -/
def Yaml.Failure.described : Yaml.Failure → YamlFailure
  | .malformed => .malformed ""
  | .halfPair => .foreign
  | f => .raised f.kind f.message

/-- The usual bounds; nothing else is ever exhausted. -/
def Platform.described : Platform where
  bounds := ⟨4300, 990, 990⟩
  yaml text := (Yaml.read text).mapError Yaml.Failure.described
  searching _ := none
  checking _ _ := none

namespace Command

/-! ## The command line -/

/-- The answer to a command line that is not understood. -/
def misuse : Invocation := .answered exitInput ""

/-- Reads the words of a command; its page of help is the answer if asked for. -/
def readCommand (known : List Switch) (help : String) (read? : Words → Option Invocation) (words : List String) :
    Invocation :=
  match readWords? (helpSwitch :: known) true words with
  | none => misuse
  | some w => if w.has "help" then .answered 0 help else (read? w).getD misuse

/-- Reads the words of the command of a name. -/
def readNamed (name : String) (words : List String) : Invocation :=
  match name with
  | "validate" => readCommand [⟨"json", none, false⟩] Help.validate (fun w => match w.arguments with
    | [path] => some (.validate path (w.has "json"))
    | _ => none) words
  | "check" => readCommand [] Help.check (fun w => match w.arguments with
    | [schemaPath, dataPath] => some (.check schemaPath dataPath)
    | _ => none) words
  | "generate" => readCommand [⟨"flavor", some 'f', true⟩, ⟨"output", some 'o', true⟩] Help.generate (fun w =>
    match w.arguments, Flavor.ofName? ((w.value? "flavor").getD Flavor.zod.name) with
    | [path], some flavor => some (.generate path flavor (w.value? "output"))
    | _, _ => none) words
  | "schema" => readCommand [] Help.schema (fun w => if w.arguments.isEmpty then some .schema else none) words
  | "sample" => readCommand [⟨"output", some 'o', true⟩] Help.sample
    (fun w => if w.arguments.isEmpty then some (.sample (w.value? "output")) else none) words
  | _ => misuse

/-- Reads the words of a command line. Of help and version, the first asked for is the answer. -/
def readInvocation (words : List String) : Invocation :=
  match readWords? [helpSwitch, ⟨"version", none, false⟩, ⟨"verbose", some 'v', false⟩] false words with
  | none => misuse
  | some w =>
    match w.switches.find? fun (name, _) => name == "help" || name == "version" with
    | some ("help", _) => .answered 0 Help.program
    | some _ => .answered 0 ("main, version " ++ version ++ "\n")
    | none => match w.arguments with
      | name :: rest => readNamed name rest
      | [] => misuse

/-! ## The terminal -/

/-- Lines, each with its end. -/
def endLines (lines : List (List Char)) : String :=
  String.ofList (lines.flatMap fun line => line ++ ['\n'])

/-- A text without its style tags on lines without tabs. -/
def plainLine? (markup : String) : Option String :=
  (Terminal.plain? markup).map fun text =>
    endLines ((Terminal.cutAt (· = '\n') text.toList).map (Terminal.expandTabs 0))

def plainCells? (cells : List String) : Option (List (List Char)) :=
  cells.mapM fun cell => (Terminal.plain? cell).map String.toList

/-- A table whose title and cells lose their style tags. -/
def plainTable? (title : String) (heads : List String) (rows : List (List String)) : Option String := do
  let title ← Terminal.plain? title
  let heads ← plainCells? heads
  return endLines (Terminal.table title.toList heads (← rows.mapM plainCells?))

/-- A frame whose title and text lose their style tags. -/
def plainFrame? (title markup : String) : Option String := do
  let title ← Terminal.plain? title
  return endLines (Terminal.panel title.toList (← Terminal.plain? markup).toList)

/-- Source without control characters on lines without tabs. -/
def plainSource (code : String) : String :=
  let lines := Terminal.cutAt (· = '\n') (unifyNewlines code.toList)
  endLines ((lines.dropLast.map (Terminal.expandTabs 0)).map (·.filter (!Terminal.isControl ·)))

/-- The libraries with which the program runs. -/
def Libraries.described : Libraries where
  platform := .described
  invocation := readInvocation
  line? := plainLine?
  table? := plainTable?
  frame? := plainFrame?
  source := plainSource

end Command

end WebForm
