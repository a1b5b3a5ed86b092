/-
Form documents: a title, a description and an ordered list of fields. Each field carries only the
attributes that the grammar gives to its type. `Document.toValue` is the canonical written form.
-/
import WebForm.Value

namespace WebForm

/-! ## Field types -/

/-- The types that a field may declare. -/
inductive FieldType where
  | text
  | email
  | password
  | number
  | range
  | tel
  | select
  | radio
  | checkbox
  | checkboxGroup
  | textarea
  | switch
deriving DecidableEq

namespace FieldType

/-- Every field type, in the order in which they are listed to readers. -/
def all : List FieldType :=
  [text, email, password, number, range, tel, select, radio, checkbox, checkboxGroup, textarea, switch]

/-- The name by which documents declare a type. -/
def name : FieldType → String
  | text => "text"
  | email => "email"
  | password => "password"
  | number => "number"
  | range => "range"
  | tel => "tel"
  | select => "select"
  | radio => "radio"
  | checkbox => "checkbox"
  | checkboxGroup => "checkbox-group"
  | textarea => "textarea"
  | switch => "switch"

def ofName? (s : String) : Option FieldType := all.find? (·.name == s)

/-- The types that a table of cases lacks. -/
def missing (present : List FieldType) : List FieldType := all.filter (!present.contains ·)

/-- The message for a table of cases that lacks types. -/
def missingMessage (owner : String) (types : List FieldType) : String :=
  owner ++ " has no case for field type(s): " ++ ", ".intercalate (types.map name)

/-- Whether fields of a type may carry a placeholder. -/
def takesPlaceholder : FieldType → Bool
  | text | password | email | tel | textarea | select | number => true
  | _ => false

/-- What a type with a case of its own is checked and written like. -/
inductive Family where
  | written
  | formatted
  | number
  | range
  | choice
  | toggle
deriving DecidableEq

/-- The family of a type: fields of one family carry the same attributes. -/
def family : FieldType → Family
  | text | textarea => .written
  | email | tel | password => .formatted
  | number => .number
  | range => .range
  | select | radio | checkboxGroup => .choice
  | checkbox | switch => .toggle

end FieldType

/-! ## Limits -/

/-- Bounds on the number of characters of a text. -/
structure LengthLimits where
  min : Option Nat
  max : Option Nat
  message : Option String
deriving DecidableEq

/-- The pattern that a text has to match. -/
structure FormatLimits where
  pattern : Option String
  message : Option String
deriving DecidableEq

/-- Bounds on a number and the step of which it is a multiple. -/
structure NumberLimits where
  min : Option Quantity
  max : Option Quantity
  step : Option Quantity
  message : Option String
deriving DecidableEq

/-- The limits of a slider, whose bounds are always given. -/
structure RangeLimits where
  min : Quantity
  max : Quantity
  step : Option Quantity
  message : Option String
deriving DecidableEq

/-- The limits of a slider as those of a number. -/
def RangeLimits.toNumberLimits (l : RangeLimits) : NumberLimits := ⟨some l.min, some l.max, l.step, l.message⟩

/-- One selectable value and the label shown for it. -/
structure Choice where
  value : String
  label : String
deriving DecidableEq

/-! ## Fields -/

/-- Fields that hold free text. -/
inductive WrittenType where
  | text
  | textarea
deriving DecidableEq

/-- Fields that hold text of a certain form. -/
inductive FormattedType where
  | email
  | tel
  | password
deriving DecidableEq

/-- Fields that hold a truth value. -/
inductive ToggleType where
  | checkbox
  | switch
deriving DecidableEq

/-- What a field holds, with the attributes of its type. -/
inductive Body where
  | written (type : WrittenType) (placeholder : Option String) (limits : Option LengthLimits)
  | formatted (type : FormattedType) (placeholder : Option String) (limits : Option FormatLimits)
  | number (placeholder : Option String) (limits : Option NumberLimits)
  | range (limits : RangeLimits)
  | select (placeholder : Option String) (choices : List Choice)
  | radio (choices : List Choice)
  | checkboxGroup (choices : List Choice)
  | toggle (type : ToggleType)
deriving DecidableEq

/-- A field: the attributes that all fields have, and what it holds. -/
structure Field where
  id : String
  label : String
  required : Bool
  body : Body
deriving DecidableEq

/-- The type of what a field holds. -/
def Body.type : Body → FieldType
  | written .text _ _ => .text
  | written .textarea _ _ => .textarea
  | formatted .email _ _ => .email
  | formatted .tel _ _ => .tel
  | formatted .password _ _ => .password
  | number _ _ => .number
  | range _ => .range
  | select _ _ => .select
  | radio _ => .radio
  | checkboxGroup _ => .checkboxGroup
  | toggle .checkbox => .checkbox
  | toggle .switch => .switch

/-- The placeholder of what a field holds. -/
def Body.placeholder : Body → Option String
  | written _ p _ | formatted _ p _ | number p _ | select p _ => p
  | _ => none

/-- The numeric limits of what a field holds. -/
def Body.numberLimits : Body → Option NumberLimits
  | number _ l => l
  | range l => some l.toNumberLimits
  | _ => none

def Field.type (f : Field) : FieldType := f.body.type

/-! ## Documents -/

/-- A form document. -/
structure Document where
  title : String
  description : String
  fields : List Field
deriving DecidableEq

namespace Document

/-- The ids of the fields, in order. -/
def fieldIds (d : Document) : List String := d.fields.map (·.id)

/-- The first field with an id. -/
def field? (d : Document) (id : String) : Option Field := d.fields.find? (·.id == id)

end Document

/-! ## Written form -/

/-- The entry of an optional attribute; one that is not given has none. -/
def optionalEntry {α : Type} (key : String) (write : α → Value) : Option α → List (String × Value)
  | some a => [(key, write a)]
  | none => []

def Value.natural (n : Nat) : Value := .int n

def LengthLimits.toValue (l : LengthLimits) : Value :=
  .record (optionalEntry "min" .natural l.min ++ optionalEntry "max" .natural l.max
    ++ optionalEntry "message" .text l.message)

def FormatLimits.toValue (l : FormatLimits) : Value :=
  .record (optionalEntry "pattern" .text l.pattern ++ optionalEntry "message" .text l.message)

def NumberLimits.toValue (l : NumberLimits) : Value :=
  .record (optionalEntry "min" .quantity l.min ++ optionalEntry "max" .quantity l.max
    ++ optionalEntry "step" .quantity l.step ++ optionalEntry "message" .text l.message)

def Choice.toValue (c : Choice) : Value := .record [("value", .text c.value), ("label", .text c.label)]

/-- The entries of the attributes that only some types have. -/
def Body.entries : Body → List (String × Value)
  | written _ p l => optionalEntry "placeholder" .text p ++ optionalEntry "validation" LengthLimits.toValue l
  | formatted _ p l => optionalEntry "placeholder" .text p ++ optionalEntry "validation" FormatLimits.toValue l
  | number p l => optionalEntry "placeholder" .text p ++ optionalEntry "validation" NumberLimits.toValue l
  | range l => [("validation", l.toNumberLimits.toValue)]
  | select p cs => optionalEntry "placeholder" .text p ++ [("options", .list (cs.map Choice.toValue))]
  | radio cs | checkboxGroup cs => [("options", .list (cs.map Choice.toValue))]
  | toggle _ => []

def Field.toValue (f : Field) : Value :=
  .record ([("id", .text f.id), ("type", .text f.type.name), ("label", .text f.label),
    ("required", .bool f.required)] ++ f.body.entries)

/-- The written form of a document. -/
def Document.toValue (d : Document) : Value :=
  .record [("formTitle", .text d.title), ("formDescription", .text d.description),
    ("fields", .list (d.fields.map Field.toValue))]

end WebForm
