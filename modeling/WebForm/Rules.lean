/-
What each field asks of a submitted value, described once: the kind of value, the constraints in
order with their final messages, and the messages for a missing value and for one of another kind.
Both the live check and the emitted source are made from these descriptions and never look at the
field itself.
-/
import WebForm.Document.Field

namespace WebForm

/-! ## Descriptions -/

/-- The kind of value that a field accepts. -/
inductive ValueKind where
  | text
  | number
  | boolean
  | texts
deriving DecidableEq

/-- What a value of the right kind has to satisfy. -/
inductive Constraint where
  | minLength (least : Nat)
  | maxLength (most : Nat)
  | pattern (source : String)
  | minimum (least : Quantity)
  | maximum (most : Quantity)
  | multipleOf (step : Quantity)
  | oneOf (values : List String)
  | allOf (values : List String)
  | isTrue
deriving DecidableEq

/-- A constraint and the message for a value that does not satisfy it. -/
structure Rule where
  constraint : Constraint
  message : String
deriving DecidableEq

/-- Everything that is needed to check a field, or to write source that does. -/
structure FieldRules where
  id : String
  type : FieldType
  label : String
  kind : ValueKind
  required : Bool
  requiredMessage : String
  typeMessage : String
  rules : List Rule
deriving DecidableEq

/-- Whether a field says by its own rules what being required means. -/
def FieldRules.folded (r : FieldRules) : Bool :=
  match r.type.family with
  | .choice | .toggle => true
  | _ => false

def ValueKind.name : ValueKind → String
  | text => "string"
  | number => "number"
  | boolean => "boolean"
  | texts => "string_list"

/-- The message for a value of another kind. -/
def ValueKind.message (label : String) : ValueKind → String
  | text => label ++ " must be a string"
  | number => label ++ " must be a number"
  | boolean => label ++ " must be true or false"
  | texts => label ++ " must be a list of options"

def Constraint.name : Constraint → String
  | minLength _ => "min_length"
  | maxLength _ => "max_length"
  | pattern _ => "pattern"
  | minimum _ => "minimum"
  | maximum _ => "maximum"
  | multipleOf _ => "multiple_of"
  | oneOf _ => "one_of"
  | allOf _ => "all_of"
  | isTrue => "is_true"

/-! ## Defaults -/

/-- The form of an e-mail address. -/
def emailPattern : String := "^[^\\s@]+@[^\\s@]+\\.[^\\s@]+$"

/-- The form of a telephone number. -/
def telPattern : String := "^\\d\x7b10\x7d$"

/-- The least length of a password. -/
def passwordLength : Nat := 8

/-! ## Messages -/

/-- The author's message, if there is one that is not empty, takes the place of every other. -/
def messageOr (custom : Option String) (default : String) : String :=
  match custom with
  | some s => if s = "" then default else s
  | none => default

/-- A pattern of the author that is not empty. -/
def FormatLimits.custom? (l : FormatLimits) : Option String := l.pattern.filter (· ≠ "")

/-! ## Rules of each type -/

/-- The rule that an optional limit gives. -/
def limitRule {α : Type} (make : α → Rule) : Option α → List Rule
  | some a => [make a]
  | none => []

def lengthRules (label : String) (l : LengthLimits) : List Rule :=
  limitRule (fun n => ⟨.minLength n,
    messageOr l.message (label ++ " must be at least " ++ toString n ++ " characters")⟩) l.min
  ++ limitRule (fun n => ⟨.maxLength n,
    messageOr l.message (label ++ " must be at most " ++ toString n ++ " characters")⟩) l.max

def numberRules (l : NumberLimits) : List Rule :=
  limitRule (fun q => ⟨.minimum q, messageOr l.message ("Minimum value is " ++ q.text)⟩) l.min
  ++ limitRule (fun q => ⟨.maximum q, messageOr l.message ("Maximum value is " ++ q.text)⟩) l.max
  ++ limitRule (fun q => ⟨.multipleOf q, messageOr l.message ("Value must be a multiple of " ++ q.text)⟩) l.step

/-- The rules of text of a certain form. An author's pattern adds to the form of an e-mail address; of
the other types it takes the place of the default. -/
def formatRules (type : FormattedType) (limits : Option FormatLimits) : List Rule :=
  let message := messageOr (limits.bind (·.message))
  match type, limits.bind (·.custom?) with
  | .email, none => [⟨.pattern emailPattern, message "Invalid email address"⟩]
  | .email, some p => [⟨.pattern emailPattern, message "Invalid email address"⟩, ⟨.pattern p, message "Invalid format"⟩]
  | .tel, none => [⟨.pattern telPattern, message "Phone number must be 10 digits"⟩]
  | .tel, some p => [⟨.pattern p, message "Invalid phone number"⟩]
  | .password, none => [⟨.minLength passwordLength,
      message ("Password must be at least " ++ toString passwordLength ++ " characters long")⟩]
  | .password, some p => [⟨.pattern p, message "Invalid format"⟩]

/-- The message of a toggle that has to be on. -/
def ToggleType.message (label : String) : ToggleType → String
  | checkbox => label ++ " must be checked"
  | switch => label ++ " must be turned on"

namespace Field

/-- The kind of value of a field. -/
def kind (f : Field) : ValueKind :=
  match f.body with
  | .number _ _ | .range _ => .number
  | .checkboxGroup _ => .texts
  | .toggle _ => .boolean
  | _ => .text

/-- The message for a missing value. -/
def requiredMessage (f : Field) : String :=
  match f.body with
  | .checkboxGroup _ => "Select at least one option for " ++ f.label
  | .toggle t => t.message f.label
  | _ => f.label ++ " is required"

/-- The rules of a field, in the order in which they are checked. -/
def rules (f : Field) : List Rule :=
  match f.body with
  | .written _ _ limits => (limits.map (lengthRules f.label)).getD []
  | .formatted type _ limits => formatRules type limits
  | .number _ limits => (limits.map numberRules).getD []
  | .range limits => numberRules limits.toNumberLimits
  | .select _ choices | .radio choices => [⟨.oneOf (choices.map (·.value)), "Invalid selection"⟩]
  | .checkboxGroup choices => [⟨.allOf (choices.map (·.value)), "Invalid selection"⟩]
  | .toggle t => if f.required then [⟨.isTrue, t.message f.label⟩] else []

def describe (f : Field) : FieldRules where
  id := f.id
  type := f.type
  label := f.label
  kind := f.kind
  required := f.required
  requiredMessage := f.requiredMessage
  typeMessage := f.kind.message f.label
  rules := f.rules

end Field

end WebForm
