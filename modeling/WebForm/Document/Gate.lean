/-
The gate that every document passes before anything is made of it. `defects` finds all the defects
of a value, in document order; `Document.read` gives the document if there are none.
Three defects end the search at once, because without an object, a list and a field in it nothing
else can be looked at.
-/
import WebForm.Document.Defect
import WebForm.Document.Field
import WebForm.Pattern.Dialect

namespace WebForm

namespace Gate

/-! ## Leaves -/

/-- A value as a finite number; truth values are no numbers. An integer that rounds to no finite double
stops the check. -/
def finite? : Value → Except Halt (Option Quantity)
  | .int n => if roundsToFinite n then .ok (some (.whole n)) else .error .integerTooLarge
  | v => .ok v.quantity?

/-- A number as a length: a natural, however it is written. -/
def length? (q : Quantity) : Option Nat := q.toInt?.bind Int.toNat?

/-- The id of a field, if it has one that can be used. -/
def idOf? (field : Value) : Option String :=
  match field.get "id" with
  | .text s => if s = "" then none else some s
  | _ => none

/-- The declared type of a field. -/
def typeOf? (field : Value) : Option FieldType :=
  match field.get "type" with
  | .text s => FieldType.ofName? s
  | _ => none

/-- The defect `d` unless `ok` holds. -/
def require {α : Type} (ok : Bool) (d : α) : List α := if ok then [] else [d]

/-- Whether a value is null or a text. -/
def isTextOrNull : Value → Bool
  | .null | .text _ => true
  | _ => false

/-- Whether a value is null or a truth value. -/
def isBoolOrNull : Value → Bool
  | .null | .bool _ => true
  | _ => false

/-! ## Limits -/

/-- One bound on a length: the bound, if it is given and sound, and the defects. -/
def lengthBound (limit : Limit) (v : Value) : Except Halt (Option Quantity × List FieldDefect) :=
  if v.isNull then .ok (none, [])
  else do
    match ← finite? v with
    | some q => return if (length? q).isSome then (some q, []) else (none, [.lengthInvalid limit])
    | none => return (none, [.lengthInvalid limit])

/-- One numeric limit: the number, if it is given and sound, and the defects. -/
def numberLimit (limit : Limit) (v : Value) : Except Halt (Option Quantity × List FieldDefect) :=
  if v.isNull then .ok (none, [])
  else do
    match ← finite? v with
    | some q => return if limit = .step ∧ ¬q.isPositive then (none, [.stepNotPositive]) else (some q, [])
    | none => return (none, [.numberInvalid limit])

/-- The defect of two bounds in the wrong order; a bound that is not sound takes no part. -/
def boundsOrder : Option Quantity → Option Quantity → List FieldDefect
  | some lo, some hi => require (lo.le hi) .boundsOutOfOrder
  | _, _ => []

/-- The defect of an author's message. -/
def messageDefects (limits : Value) : List FieldDefect := require (isTextOrNull (limits.get "message")) .messageNotText

def lengthDefects (limits : Value) : Except Halt (List FieldDefect) := do
  let (lo, loDefects) ← lengthBound .min (limits.get "min")
  let (hi, hiDefects) ← lengthBound .max (limits.get "max")
  return loDefects ++ hiDefects ++ boundsOrder lo hi ++ messageDefects limits

def numberDefects (limits : Value) : Except Halt (List FieldDefect) := do
  let (lo, loDefects) ← numberLimit .min (limits.get "min")
  let (hi, hiDefects) ← numberLimit .max (limits.get "max")
  let (_, stepDefects) ← numberLimit .step (limits.get "step")
  return loDefects ++ hiDefects ++ stepDefects ++ boundsOrder lo hi ++ messageDefects limits

/-- The defects of a slider's limits, whose bounds have to be given. -/
def rangeDefects (limits : Value) : Except Halt (List FieldDefect) := do
  let found ← numberDefects limits
  return found ++ require (!(limits.get "min").isNull && !(limits.get "max").isNull) .rangeBoundsMissing

/-- The defects of a pattern. One that cannot be used for another reason than its form stops the check. -/
def patternDefects [CharacterNames] : Value → Except Halt (List FieldDefect)
  | .null => .ok []
  | .text source =>
    match Pattern.compile source with
    | .ok _ => .ok []
    | .error (.invalid cause place) => .ok [.patternInvalid (.invalid cause place)]
    | .error e => .error (.pattern e)
  | _ => .ok [.patternNotText]

def formatDefects [CharacterNames] (limits : Value) : Except Halt (List FieldDefect) := do
  let found ← patternDefects (limits.get "pattern")
  return found ++ messageDefects limits

/-! ## Choices -/

/-- A value as a choice: an object whose value and label are texts. -/
def choice? (v : Value) : Option Choice :=
  match v.get "value", v.get "label" with
  | .text value, .text label => some ⟨value, label⟩
  | _, _ => none

def choiceDefects : Value → List FieldDefect
  | .list [] => [.optionsMissing]
  | .list items => (items.mapIdx fun i item => require (choice? item).isSome (FieldDefect.optionInvalid i)).flatten
  | _ => [.optionsMissing]

/-! ## Fields -/

/-- The defects of the attributes that belong to the type of a field. -/
def attributeDefects [CharacterNames] (type : FieldType) (field : Value) : Except Halt (List FieldDefect) :=
  match type.family with
  | .written => lengthDefects (field.get "validation")
  | .formatted => formatDefects (field.get "validation")
  | .number => numberDefects (field.get "validation")
  | .range => rangeDefects (field.get "validation")
  | .choice => .ok (choiceDefects (field.get "options"))
  | .toggle => .ok []

def typeDefects (field : Value) : List FieldDefect :=
  let raw := field.get "type"
  if raw.isNull then [.typeMissing] else require (typeOf? field).isSome (.typeUnknown (Shown.value raw))

/-- The defects of the attributes that all types have, but for the id. -/
def commonDefects (field : Value) : List FieldDefect :=
  typeDefects field
    ++ require (field.get "label").isNonEmptyText .labelMissing
    ++ require (isBoolOrNull (field.get "required")) .requiredNotBoolean
    ++ require ((field.get "validation").isNull || (field.get "validation").isObject) .validationNotObject

/-- The defects of the attributes that depend on the type; without a type there are none. -/
def variantDefects [CharacterNames] (field : Value) : Except Halt (List FieldDefect) :=
  match typeOf? field with
  | none => .ok []
  | some type => do
    let found ← attributeDefects type field
    return require (!type.takesPlaceholder || isTextOrNull (field.get "placeholder")) .placeholderNotText ++ found

/-- The defects of a field's id, given the ids of the fields before it. -/
def idDefects (raw : Value) (index : Nat) (earlier : List String) : List Defect :=
  match idOf? raw with
  | none => [.idMissing index]
  | some id => require (!earlier.contains id) (.idRepeated id)

/-- How messages name a field. -/
def nameOf (raw : Value) (index : Nat) : FieldName :=
  match idOf? raw with
  | some id => .id id
  | none => .index index

/-- The defects of one field, given its position and the ids of the fields before it. -/
def fieldDefects [CharacterNames] (raw : Value) (index : Nat) (earlier : List String) : Except Halt (List Defect) :=
  if raw.isObject then do
    let found ← variantDefects raw
    return idDefects raw index earlier ++ (commonDefects raw ++ found).map (.field (nameOf raw index))
  else .ok [.fieldNotObject index]

/-- The defects of fields, from a position on and given the ids of the fields before it. -/
def fieldsDefects [CharacterNames] : List Value → Nat → List String → Except Halt (List Defect)
  | [], _, _ => .ok []
  | raw :: rest, index, earlier => do
    let here ← fieldDefects raw index earlier
    let later ← fieldsDefects rest (index + 1) (earlier ++ (idOf? raw).toList)
    return here ++ later

/-! ## Documents -/

def headerDefects (document : Value) : List Defect :=
  ["formTitle", "formDescription"].flatMap fun key =>
    require (document.get key).isNonEmptyText (.headerMissing key)

/-- All the defects of a value as a form document, in document order. -/
def defects [CharacterNames] (v : Value) : Except Halt (List Defect) :=
  if v.isObject then
    match v.get "fields" with
    | .list [] => .ok [.fieldsEmpty]
    | .list fields => do
      let found ← fieldsDefects fields 0 []
      return headerDefects v ++ found
    | _ => .ok [.fieldsNotList]
  else .ok [.notObject]

end Gate

/-! ## Typed documents -/

namespace Gate

def text? : Value → Option String
  | .text s => some s
  | _ => none

/-- A truth value, or false where there is none. -/
def flag? : Value → Option Bool
  | .null => some false
  | .bool b => some b
  | _ => none

/-- A natural, however it is written. -/
def natural? (v : Value) : Option Nat := v.quantity?.bind length?

/-- An attribute that may be absent. -/
def optional? {α : Type} (read? : Value → Option α) (v : Value) : Option (Option α) :=
  if v.isNull then some none else (read? v).map some

def lengthLimits? (v : Value) : Option LengthLimits :=
  if v.isObject then return ⟨← optional? natural? (v.get "min"), ← optional? natural? (v.get "max"),
      ← optional? text? (v.get "message")⟩ else none

def formatLimits? (v : Value) : Option FormatLimits :=
  if v.isObject then return ⟨← optional? text? (v.get "pattern"), ← optional? text? (v.get "message")⟩ else none

def numberLimits? (v : Value) : Option NumberLimits :=
  if v.isObject then return ⟨← optional? Value.quantity? (v.get "min"), ← optional? Value.quantity? (v.get "max"),
      ← optional? Value.quantity? (v.get "step"), ← optional? text? (v.get "message")⟩ else none

def rangeLimits? (v : Value) : Option RangeLimits :=
  if v.isObject then return ⟨← (v.get "min").quantity?, ← (v.get "max").quantity?,
      ← optional? Value.quantity? (v.get "step"), ← optional? text? (v.get "message")⟩ else none

def choices? : Value → Option (List Choice)
  | .list items => items.mapM choice?
  | _ => none

/-- What a field of a type holds. -/
def body? (type : FieldType) (field : Value) : Option Body :=
  let placeholder := optional? text? (field.get "placeholder")
  let validation := field.get "validation"
  let choices := choices? (field.get "options")
  match type with
  | .text => return .written .text (← placeholder) (← optional? lengthLimits? validation)
  | .textarea => return .written .textarea (← placeholder) (← optional? lengthLimits? validation)
  | .email => return .formatted .email (← placeholder) (← optional? formatLimits? validation)
  | .tel => return .formatted .tel (← placeholder) (← optional? formatLimits? validation)
  | .password => return .formatted .password (← placeholder) (← optional? formatLimits? validation)
  | .number => return .number (← placeholder) (← optional? numberLimits? validation)
  | .range => return .range (← rangeLimits? validation)
  | .select => return .select (← placeholder) (← choices)
  | .radio => return .radio (← choices)
  | .checkboxGroup => return .checkboxGroup (← choices)
  | .checkbox => return .toggle .checkbox
  | .switch => return .toggle .switch

def field? (v : Value) : Option Field := do
  let type ← typeOf? v
  return ⟨← text? (v.get "id"), ← text? (v.get "label"), ← flag? (v.get "required"), ← body? type v⟩

/-- A document of the grammar. -/
def document? (v : Value) : Option Document :=
  match v.get "fields" with
  | .list fields => return ⟨← text? (v.get "formTitle"), ← text? (v.get "formDescription"), ← fields.mapM field?⟩
  | _ => none

end Gate

/-- Why a value gives no document: the check stopped, or the value has defects. -/
inductive Refusal where
  | halted (halt : Halt)
  | defective (defects : List Defect)

/-- The document that a value describes, if it has no defects. -/
def Document.read [CharacterNames] (v : Value) : Except Refusal Document :=
  match Gate.defects v with
  | .error halt => .error (.halted halt)
  | .ok [] => match Gate.document? v with
    | some d => .ok d
    | none => .error (.defective [])
  | .ok found => .error (.defective found)

/-- The wording of a list of defects as one message. -/
def Defect.summary (messages : List String) : String := "Schema validation failed: " ++ "; ".intercalate messages

end WebForm
