/-
What is done with a document from one end to the other: its inspection, which never fails for a defect,
its way from a text, the check of a submission, and the source that is made of it in a flavor that is asked
for by name.
-/
import WebForm.Document.Gate
import WebForm.Input
import WebForm.Source.Component
import WebForm.Submission.Basic

namespace WebForm

def version : String := "0.1.0"

/-! ## Inspection -/

/-- What is said of a value as a document, sound or not. -/
structure Inspection where
  title : String
  fieldCount : Nat
  defects : List Defect

namespace Inspection

/-- Whether a value is a document. -/
def passed (i : Inspection) : Bool := i.defects.isEmpty

def messages (i : Inspection) : List String := i.defects.map Defect.message

/-- The counts of an inspection on one line. -/
def summary (i : Inspection) : String :=
  (if i.passed then "[PASS] " else "[FAIL] ") ++ i.title ++ ": " ++ toString i.fieldCount ++ " field(s), "
    ++ toString i.defects.length ++ " error(s)"

/-- The title of a value, where it has one. -/
def titleOf (v : Value) : String :=
  match v.get "formTitle" with
  | .text s => if s = "" then "unknown" else s
  | _ => "unknown"

/-- The number of fields of a value, whatever they are. -/
def countOf (v : Value) : Nat :=
  match v.get "fields" with
  | .list fields => fields.length
  | _ => 0

end Inspection

/-- What ends an inspection: the search for defects stops, or the interpreter runs out of something. -/
inductive Cut where
  | halted (halt : Halt)
  | exceeded (excess : Excess)

/-- What a step gives, unless the interpreter runs out of something meanwhile. -/
def unlessExceeded {ε α : Type} (excess? : Option Excess) (exceeded : Excess → ε) (step : Except ε α) : Except ε α :=
  match excess? with
  | some e => .error (exceeded e)
  | none => step

/-- Inspects a value as a document. -/
def inspect [CharacterNames] (p : Platform) (v : Value) : Except Cut Inspection :=
  unlessExceeded (p.searching v) .exceeded
    (((Gate.defects v).map fun defects => ⟨Inspection.titleOf v, Inspection.countOf v, defects⟩).mapError .halted)

/-! ## From text to document -/

/-- Why a text gives no document: it has no value, its value gives none, or the interpreter runs out of
something while the value is searched for defects. -/
inductive Rejection where
  | unreadable (failure : InputFailure)
  | refused (refusal : Refusal)
  | exceeded (excess : Excess)

namespace Document

/-- The document that a value describes. -/
def ofValue [CharacterNames] (p : Platform) (v : Value) : Except Rejection Document :=
  unlessExceeded (p.searching v) .exceeded ((Document.read v).mapError .refused)

/-- The document that a text in a format describes. -/
def ofText [CharacterNames] (p : Platform) (format : Format) (text : String) : Except Rejection Document := do
  ofValue p (← (format.read p text).mapError .unreadable)

end Document

/-! ## Submissions -/

/-- Why a submission has no report: its check is interrupted, or the interpreter runs out of something. -/
inductive Unchecked where
  | interrupted (interruption : Interruption)
  | exceeded (excess : Excess)

/-- Checks a submission against the document of a value. -/
def Document.submit [CharacterNames] (d : Document) (p : Platform) (v data : Value) : Except Unchecked Report :=
  if data.isObject then unlessExceeded (p.checking v data) .exceeded ((d.assemble.check data).mapError .interrupted)
  else .error (.interrupted (.notMapping data))

/-! ## Source -/

/-- The flavors of source: the check alone, or a component. -/
inductive Flavor where
  | zod
  | component (flavor : Component.Flavor)
deriving DecidableEq

namespace Flavor

/-- Every flavor, in the order in which they are listed to readers. -/
def all : List Flavor := [.zod, .component .html, .component .shadcn]

def name : Flavor → String
  | zod => "zod"
  | component f => f.name

def ofName? (s : String) : Option Flavor := all.find? (·.name == s)

/-- The message for a name that is none of a list of flavors. -/
def unknownMessage (s : String) (among : List Flavor) : String :=
  "Unknown flavor '" ++ s ++ "'. Must be one of: " ++ ", ".intercalate (among.map name)

def components : List Flavor := [.component .html, .component .shadcn]

end Flavor

namespace Document

/-- The source of a document in a flavor. -/
def source (d : Document) : Flavor → Source
  | .zod => Zod.moduleSource Zod.defaultName d
  | .component f => Component.source f d

def code (d : Document) (flavor : Flavor) : String := (d.source flavor).text

end Document

end WebForm
