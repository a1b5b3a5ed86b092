/-
Checking a whole submission. The rules of a document are entered in a table under the ids of its fields, and
so is what is found of each value; a table has one entry for each key. `Document.check` is the same check
without tables, field by field, and gives the same where the ids differ, as they do in every document that
was read.
-/
import WebForm.Submission.FieldCheck

namespace WebForm

/-! ## Results -/

/-- One message about one field. -/
structure Issue where
  id : String
  message : String
deriving DecidableEq

def Issue.text (i : Issue) : String := i.id ++ ": " ++ i.message

/-- What the check of a submission found: the values as they were understood, and the issues. -/
structure Report where
  data : List (String × Value)
  issues : List Issue

namespace Report

def passed (r : Report) : Bool := r.issues.isEmpty

/-- Adds a message to the ones of its field. -/
def note (i : Issue) : List (String × List String) → List (String × List String)
  | [] => [(i.id, [i.message])]
  | (id, messages) :: rest =>
    if id = i.id then (id, messages ++ [i.message]) :: rest else (id, messages) :: note i rest

/-- The messages grouped by field, in the order in which the fields first have one. -/
def errorsByField (r : Report) : List (String × List String) := r.issues.foldl (fun groups i => note i groups) []

def errorsOf (r : Report) (id : String) : List String := (r.issues.filter (·.id = id)).map (·.message)

/-- The counts of a report on one line. -/
def summary (r : Report) : String :=
  (if r.passed then "[PASS] " else "[FAIL] ") ++ toString r.data.length ++ " field(s), "
    ++ toString r.errorsByField.length ++ " invalid, " ++ toString r.issues.length ++ " error(s)"

/-- The values as an object. -/
def dataValue (r : Report) : Value := .record r.data

end Report

/-- The wording of a list of issues as one message. -/
def Issue.summary (issues : List Issue) : String :=
  "Form data validation failed: " ++ "; ".intercalate (issues.map (·.text))

/-! ## Checking -/

/-- Why a submission was not checked: it is no object, or a check stopped. -/
inductive Interruption where
  | notMapping (value : Value)
  | halted (halt : Halt)

/-- The name of the type of a value that is no object. -/
def Value.typeName : Value → String
  | .scalar .null => "NoneType"
  | .scalar (.bool _) => "bool"
  | .scalar (.int _) => "int"
  | .scalar (.double _) => "float"
  | .scalar (.text _) => "str"
  | .scalar (.date _ _ _) => "date"
  | .scalar (.instant _) => "datetime"
  | .list _ => "list"
  | .object _ => "dict"

def Interruption.message : Interruption → String
  | notMapping v => "Form data must be a mapping, got " ++ v.typeName
  | halted halt => halt.message

/-- Sets the value of a key of a table: in place if the key is there, else at the end. -/
def enterKey {α : Type} (key : String) (value : α) : List (String × α) → List (String × α)
  | [] => [(key, value)]
  | (k, v) :: rest => if k = key then (k, value) :: rest else (k, v) :: enterKey key value rest

/-- The rules of a document by the ids of its fields. -/
abbrev Validator := List (String × FieldRules)

/-- Enters the rules of each field under its id. -/
def Document.assemble (d : Document) : Validator :=
  d.fields.foldl (fun table f => enterKey f.id f.describe table) []

namespace Validator

def ids (validator : Validator) : List String := validator.map (·.1)

/-- Checks the value at each id and enters what it was understood as under the id, after all that was found before. -/
def checkFrom [CharacterNames] (data : Value) : Validator → Report → Except Halt Report
  | [], found => .ok found
  | (id, rules) :: rest, found => do
    let outcome ← rules.check (data.get id)
    checkFrom data rest ⟨enterKey id outcome.value found.data, found.issues ++ outcome.messages.map (⟨id, ·⟩)⟩

/-- Checks a submission; ids that it lacks count as not given. -/
def check [CharacterNames] (validator : Validator) (data : Value) : Except Interruption Report :=
  if data.isObject then (checkFrom data validator ⟨[], []⟩).mapError .halted else .error (.notMapping data)

end Validator

/-- The understood data of a submission that was accepted, else its issues. -/
def Report.parse (r : Report) : Except (List Issue) Value :=
  if r.passed then .ok r.dataValue else .error r.issues

/-! ## Field by field -/

/-- Checks the value of each field. -/
def checkFields [CharacterNames] (data : Value) : List Field → Except Halt Report
  | [] => .ok ⟨[], []⟩
  | f :: rest => do
    let outcome ← f.check (data.get f.id)
    let later ← checkFields data rest
    return ⟨(f.id, outcome.value) :: later.data, outcome.messages.map (⟨f.id, ·⟩) ++ later.issues⟩

/-- Checks a submission field by field. -/
def Document.check [CharacterNames] (d : Document) (data : Value) : Except Interruption Report :=
  if data.isObject then (checkFields data d.fields).mapError .halted else .error (.notMapping data)

end WebForm
