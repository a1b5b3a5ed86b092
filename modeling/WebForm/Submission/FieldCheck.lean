/-
Checking one submitted value against a field. Empty values are settled first, then the value has to
be of the field's kind, where numeric text counts as a number, and last every constraint is checked
and all the messages are kept, each once.
-/
import WebForm.Document.Defect
import WebForm.Number.Numeral
import WebForm.Pattern.Dialect
import WebForm.Rules

namespace WebForm

/-- What a check of one value found: the value as it was understood, and the messages. -/
structure Outcome where
  value : Value
  messages : List String

def Outcome.accepted (o : Outcome) : Bool := o.messages.isEmpty

/-! ## Empty values -/

/-- Whether a value counts as not given. -/
def isEmpty (kind : ValueKind) : Value → Bool
  | .null => true
  | .text s => match kind with
    | .texts => false
    | .number => trimBlank s.toList = []
    | _ => s = ""
  | .list [] => kind = .texts
  | _ => false

/-- The value of an optional field that was not given. -/
def emptyValue (kind : ValueKind) (v : Value) : Value := if kind = .texts then .list [] else v

/-! ## Kinds -/

/-- The texts of a list that holds nothing else. -/
def textItems? : Value → Option (List String)
  | .list items => items.mapM fun
    | .text s => some s
    | _ => none
  | _ => none

/-- A value as a number; numeric text is read. An integer beyond the finite doubles stops the check. -/
def number? : Value → Except Halt (Option Quantity)
  | .int n => if roundsToFinite n then .ok (some (.whole n)) else .error .integerTooLarge
  | .text s => .ok (Quantity.ofText? s)
  | v => .ok v.quantity?

/-- A value of the kind that a field accepts. -/
inductive Content where
  | text (s : String)
  | number (q : Quantity)
  | boolean (b : Bool)
  | texts (items : List String)

/-- The value that contents are returned as. -/
def Content.toValue : Content → Value
  | text s => .text s
  | number q => .quantity q
  | boolean b => .bool b
  | texts items => .texts items

/-- A value as content of a kind, if it is of that kind or converts to it. -/
def Content.ofValue? (kind : ValueKind) (v : Value) : Except Halt (Option Content) :=
  match kind, v with
  | .text, .text s => .ok (some (.text s))
  | .text, _ => .ok none
  | .boolean, .bool b => .ok (some (.boolean b))
  | .boolean, _ => .ok none
  | .texts, v => .ok ((textItems? v).map .texts)
  | .number, v => (number? v).map (·.map .number)

/-! ## Constraints -/

/-- Whether content satisfies a constraint. Constraints of another kind of content do not hold. -/
def Constraint.holds [CharacterNames] : Constraint → Content → Except Halt Bool
  | minLength n, .text s => .ok (n ≤ s.length)
  | maxLength n, .text s => .ok (s.length ≤ n)
  | pattern source, .text s => (Pattern.matchesIn source s).mapError .pattern
  | minimum q, .number x => .ok (q.le x)
  | maximum q, .number x => .ok (x.le q)
  | multipleOf q, .number x => .ok (x.isMultipleOf q)
  | oneOf values, .text s => .ok (values.contains s)
  | allOf values, .texts items => .ok (items.all values.contains)
  | isTrue, .boolean b => .ok b
  | _, _ => .ok false

/-- The messages of the rules that content does not satisfy, each message once. -/
def Rule.messages [CharacterNames] (content : Content) : List Rule → List String → Except Halt (List String)
  | [], found => .ok found
  | rule :: rest, found => do
    if (← rule.constraint.holds content) || found.contains rule.message then messages content rest found
    else messages content rest (found ++ [rule.message])

/-! ## Checking -/

namespace FieldRules

/-- Checks a value that is not empty. -/
def checkContent [CharacterNames] (r : FieldRules) (v : Value) : Except Halt Outcome := do
  match ← Content.ofValue? r.kind v with
  | some content => return ⟨content.toValue, ← Rule.messages content r.rules []⟩
  | none => return ⟨v, [r.typeMessage]⟩

/-- Checks a submitted value, where null stands for one that is absent. A truth value that is absent
counts as false. -/
def check [CharacterNames] (r : FieldRules) (v : Value) : Except Halt Outcome :=
  if r.kind = .boolean then r.checkContent (if v.isNull then .bool false else v)
  else if isEmpty r.kind v then
    .ok (if r.required then ⟨v, [r.requiredMessage]⟩ else ⟨emptyValue r.kind v, []⟩)
  else r.checkContent v

/-- A line that names the field that is checked. -/
def shown (r : FieldRules) : String := "FieldValidator(" ++ Shown.quoted r.id ++ ", " ++ r.type.name ++ ")"

end FieldRules

/-- Checks a submitted value against a field. -/
def Field.check [CharacterNames] (f : Field) (v : Value) : Except Halt Outcome := f.describe.check v

end WebForm
