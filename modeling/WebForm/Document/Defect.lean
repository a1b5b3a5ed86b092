/-
What keeps a value from being a form document. Each defect has its wording; defects of a field name
it by its id, or by its position if it has none.
-/
import WebForm.Pattern.Error

namespace WebForm

/-! ## Defects -/

/-- How a field is named in messages. -/
inductive FieldName where
  | id (id : String)
  | index (index : Nat)
deriving DecidableEq

/-- The limits that a field may set. -/
inductive Limit where
  | min
  | max
  | step
deriving DecidableEq

/-- A defect of one field that has, at the least, the form of an object. -/
inductive FieldDefect where
  | typeMissing
  | typeUnknown (shown : String)
  | labelMissing
  | requiredNotBoolean
  | validationNotObject
  | placeholderNotText
  | lengthInvalid (limit : Limit)
  | numberInvalid (limit : Limit)
  | stepNotPositive
  | boundsOutOfOrder
  | rangeBoundsMissing
  | messageNotText
  | patternNotText
  | patternInvalid (error : Pattern.Error)
  | optionsMissing
  | optionInvalid (index : Nat)
deriving DecidableEq

/-- A defect of a value as a form document. -/
inductive Defect where
  | notObject
  | fieldsNotList
  | fieldsEmpty
  | headerMissing (key : String)
  | fieldNotObject (index : Nat)
  | idMissing (index : Nat)
  | idRepeated (id : String)
  | field (name : FieldName) (defect : FieldDefect)
deriving DecidableEq

/-! ## Wording -/

def Limit.name : Limit → String
  | min => "min"
  | max => "max"
  | step => "step"

def FieldName.text : FieldName → String
  | id s => "\"" ++ s ++ "\""
  | index n => "at index " ++ toString n

def FieldDefect.message (name : String) : FieldDefect → String
  | typeMissing => "Field " ++ name ++ " must have a type"
  | typeUnknown shown => "Invalid field type \"" ++ shown ++ "\" for field " ++ name
  | labelMissing => "Field " ++ name ++ " must have a non-empty string label"
  | requiredNotBoolean => "Field " ++ name ++ " required property must be a boolean"
  | validationNotObject => "Field " ++ name ++ " validation must be an object"
  | placeholderNotText => "Field " ++ name ++ " placeholder must be a string"
  | lengthInvalid limit => "Field " ++ name ++ " " ++ limit.name ++ " length must be a non-negative integer"
  | numberInvalid limit => "Field " ++ name ++ " " ++ limit.name ++ " value must be a number"
  | stepNotPositive => "Field " ++ name ++ " step value must be greater than 0"
  | boundsOutOfOrder => "Field " ++ name ++ " min value must be less than or equal to max value"
  | rangeBoundsMissing => "Field " ++ name ++ " of type range must have min and max values"
  | messageNotText => "Field " ++ name ++ " validation message must be a string"
  | patternNotText => "Field " ++ name ++ " validation pattern must be a string"
  | patternInvalid error =>
    "Field " ++ name ++ " validation pattern is not a valid regular expression: " ++ error.message
  | optionsMissing => "Field " ++ name ++ " must have non-empty options array"
  | optionInvalid index => "Invalid option at index " ++ toString index ++ " for field " ++ name

def Defect.message : Defect → String
  | notObject => "Schema must be an object"
  | fieldsNotList => "fields must be an array"
  | fieldsEmpty => "fields must be a non-empty array"
  | headerMissing key => key ++ " must be a non-empty string"
  | fieldNotObject index => "Field at index " ++ toString index ++ " must be an object"
  | idMissing index => "Field at index " ++ toString index ++ " must have a non-empty string id"
  | idRepeated id => "Duplicate field ID found: \"" ++ id ++ "\""
  | field name defect => defect.message name.text

/-! ## What stops a check -/

/-- What stops a check without a verdict: an integer beyond the finite doubles where a number is
tested for being finite, or a pattern that cannot be used. -/
inductive Halt where
  | integerTooLarge
  | pattern (error : Pattern.Error)
deriving DecidableEq

def Halt.message : Halt → String
  | integerTooLarge => "int too large to convert to float"
  | pattern error => error.message

end WebForm
