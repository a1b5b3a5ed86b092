/-
The requests of a form editor and the answers to them. A request is read from a value first; what it
holds beyond its known keys does not count, and the keys that are wrong are named.
-/
import WebForm.Document.Sample
import WebForm.Document.Schema
import WebForm.Form
import WebForm.Input

namespace WebForm.Service

/-! ## Requests -/

/-- The content of a request to inspect a document: a text in a format, or a value. -/
structure Inspect where
  text : Option String
  document : Value
  format : Format

/-- The content of a request to check a submission. -/
structure Check where
  document : Value
  data : Value

/-- The content of a request for source. -/
structure Generate where
  document : Value
  flavor : Flavor

/-- A key of a request: its value, or its name if it is wrong. -/
abbrev Part (α : Type) := Except String α

/-- The names of the wrong keys, in order. -/
def wrong (names : List (Option String)) : List String := (names.filterMap id).mergeSort fun a b => a ≤ b

def wrongName? {α : Type} : Part α → Option String
  | .ok _ => none
  | .error name => some name

/-- A key that may be absent, in which case it has a default. -/
def part {α : Type} (body : Value) (key : String) (default : Part α) (read? : Value → Option α) : Part α :=
  match body.get? key with
  | none => default
  | some v => match read? v with
    | some a => .ok a
    | none => .error key

/-- A value, of any kind. -/
def any (body : Value) (key : String) : Part Value := part body key (.error key) some

def textOrNull? : Value → Option (Option String)
  | .null => some none
  | .text s => some (some s)
  | _ => none

def format? : Value → Option Format
  | .text s => Format.ofName? s
  | _ => none

def object? (v : Value) : Option Value := if v.isObject then some v else none

/-- The flavor of source where none is asked for. -/
def defaultFlavor : Flavor := .component .html

/-- The flavor of a name, or the default. -/
def flavor? : Value → Option Flavor
  | .null => some defaultFlavor
  | .text s => Flavor.ofName? s
  | _ => none

/-- Reads a request to inspect a document, or names its wrong keys. -/
def Inspect.read (body : Value) : Except (List String) Inspect :=
  let text := part body "schema_text" (.ok none) textOrNull?
  let format := part body "format" (.ok .json) format?
  match text, format with
  | .ok text, .ok format => .ok ⟨text, body.get "document", format⟩
  | _, _ => .error (wrong [wrongName? text, wrongName? format])

/-- Reads a request to check a submission, or names its wrong keys. -/
def Check.read (body : Value) : Except (List String) Check :=
  let document := any body "document"
  let data := part body "data" (.ok (.object [])) object?
  match document, data with
  | .ok document, .ok data => .ok ⟨document, data⟩
  | _, _ => .error (wrong [wrongName? document, wrongName? data])

/-- Reads a request for source, or names its wrong keys. -/
def Generate.read (body : Value) : Except (List String) Generate :=
  let document := any body "document"
  let flavor := part body "flavor" (.ok defaultFlavor) flavor?
  match document, flavor with
  | .ok document, .ok flavor => .ok ⟨document, flavor⟩
  | _, _ => .error (wrong [wrongName? document, wrongName? flavor])

/-! ## Answers -/

/-- The kinds of requests. -/
inductive Endpoint where
  | validate
  | parse
  | code
  | sample
  | schema
  | root
  | health
deriving DecidableEq

def Endpoint.name : Endpoint → String
  | validate => "validate"
  | parse => "parse"
  | code => "code"
  | sample => "sample"
  | schema => "schema"
  | root => "root"
  | health => "health"

def Endpoint.ofName? (s : String) : Option Endpoint :=
  [validate, parse, code, sample, schema, root, health].find? (·.name == s)

/-- An answer: a body, a text that cannot be read, a document with defects, or a request with wrong keys. -/
inductive Answer where
  | body (v : Value)
  | unreadable (failure : InputFailure)
  | defective (defects : List Defect)
  | wrongKeys (names : List String)

def Answer.status : Answer → Nat
  | body _ => 200
  | unreadable _ => 400
  | defective _ | wrongKeys _ => 422

/-- What is said of a document with defects. -/
def defectDetail (defects : List Defect) : Value :=
  .record [("message", .text "Schema validation failed"), ("errors", .texts (defects.map Defect.message))]

/-- Why there is no answer: a check stopped, the interpreter ran out of something, or a text has no value
for another reason than its form. -/
inductive Stop where
  | halted (halt : Halt)
  | exceeded (excess : Excess)
  | input (failure : InputFailure)

def Stop.ofCut : Cut → Stop
  | .halted h => halted h
  | .exceeded e => exceeded e

/-- Answers with what `answer` makes of a document, or with the defects of its value. -/
def withDocument [CharacterNames] (p : Platform) (v : Value) (answer : Document → Except Stop Answer) :
    Except Stop Answer :=
  match Document.ofValue p v with
  | .ok d => answer d
  | .error (.refused (.halted h)) => .error (.halted h)
  | .error (.refused (.defective defects)) => .ok (.defective defects)
  | .error (.exceeded e) => .error (.exceeded e)
  | .error (.unreadable f) => .error (.input f)

/-- Inspects a value; the answer holds its canonical form if it has no defects. -/
def inspectValue [CharacterNames] (p : Platform) (v : Value) : Except Stop Answer := do
  let i ← (WebForm.inspect p v).mapError .ofCut
  let document := match Document.read v with
    | .ok d => d.toValue
    | .error _ => .null
  return .body (.record [("valid", .bool i.passed), ("errors", .texts i.messages), ("document", document),
    ("summary", .text i.summary)])

/-- Inspects the document of a request. -/
def inspect [CharacterNames] (p : Platform) (r : Inspect) : Except Stop Answer :=
  match r.text with
  | none => inspectValue p r.document
  | some text => match r.format.read p text with
    | .ok v => inspectValue p v
    | .error f => if f.isOfInput then .ok (.unreadable f) else .error (.input f)

/-- An issue as part of an answer. -/
def issueValue (i : Issue) : Value := .record [("field_id", .text i.id), ("message", .text i.message)]

/-- Checks the submission of a request. -/
def check [CharacterNames] (p : Platform) (r : Check) : Except Stop Answer :=
  withDocument p r.document fun d =>
    match d.submit p r.document r.data with
    | .error (.interrupted (.halted h)) => .error (.halted h)
    | .error (.interrupted (.notMapping _)) => .ok (.wrongKeys ["data"])
    | .error (.exceeded e) => .error (.exceeded e)
    | .ok report => .ok (.body (.record [("passed", .bool report.passed), ("data", report.dataValue),
        ("errors", .list (report.issues.map issueValue)),
        ("errors_by_field", .record (report.errorsByField.map fun (id, messages) => (id, .texts messages))),
        ("summary", .text report.summary)]))

/-- Generates the source of a request. -/
def generate [CharacterNames] (p : Platform) (r : Generate) : Except Stop Answer :=
  withDocument p r.document fun d =>
    .ok (.body (.record [("flavor", .text r.flavor.name), ("code", .text (d.code r.flavor))]))

/-- What the service says of itself. -/
def description : Value :=
  .record [("name", .text "formgen API"), ("version", .text version), ("description", .text "Form Generator REST API"),
    ("docs", .text "/docs"), ("openapi", .text "/openapi.json")]

/-- Reads a request and answers it, or names its wrong keys. -/
def handle {α : Type} (read : Value → Except (List String) α) (answer : α → Except Stop Answer) (body : Value) :
    Except Stop Answer :=
  if body.isObject then
    match read body with
    | .ok r => answer r
    | .error names => .ok (.wrongKeys names)
  else .ok (.wrongKeys [""])

def answer [CharacterNames] (p : Platform) (endpoint : Endpoint) (body : Value) : Except Stop Answer :=
  match endpoint with
  | .validate => handle Inspect.read (inspect p) body
  | .parse => handle Check.read (check p) body
  | .code => handle Generate.read (generate p) body
  | .sample => .ok (.body Sample.document)
  | .schema => .ok (.body (.record [("schema", Schema.document)]))
  | .root => .ok (.body description)
  | .health => .ok (.body (.record [("status", .text "healthy")]))

end WebForm.Service
