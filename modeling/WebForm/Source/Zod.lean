/-
The check of a form as source text for the zod library: one expression per field, made from the same
description as the live check. Expressions are data first, so that what they accept can be said.
-/
import WebForm.Rules
import WebForm.Source.Piece

namespace WebForm.Zod

/-! ## Expressions -/

/-- What an expression starts from. -/
inductive Base where
  | string
  | number
  | boolean
  | stringArray
deriving DecidableEq

/-- A call that narrows or widens what an expression accepts. -/
inductive Call where
  | minLength (least : Nat) (message : String)
  | maxLength (most : Nat) (message : String)
  | pattern (source message : String)
  | finite
  | minimum (least : Quantity) (message : String)
  | maximum (most : Quantity) (message : String)
  | multipleOf (step : Quantity) (message : String)
  | oneOf (values : List String) (message : String)
  | emptyOrOneOf (values : List String) (message : String)
  | allOf (values : List String) (message : String)
  | isTrue (message : String)
  | orEmpty
  | optional
  | nullable
deriving DecidableEq

/-- A base with its messages, and the calls on it in order. Numbers are converted before they are
looked at. -/
structure Expression where
  base : Base
  typeMessage : String
  requiredMessage : Option String
  calls : List Call
deriving DecidableEq

/-! ## Expressions of fields -/

def Call.ofRule (r : Rule) : Call :=
  match r.constraint with
  | .minLength n => .minLength n r.message
  | .maxLength n => .maxLength n r.message
  | .pattern p => .pattern p r.message
  | .minimum q => .minimum q r.message
  | .maximum q => .maximum q r.message
  | .multipleOf q => .multipleOf q r.message
  | .oneOf vs => .oneOf vs r.message
  | .allOf vs => .allOf vs r.message
  | .isTrue => .isTrue r.message

/-- The rule of an optional choice: empty text counts as not given. -/
def Call.ofOptionalRule (r : Rule) : Call :=
  match r.constraint with
  | .oneOf vs => .emptyOrOneOf vs r.message
  | _ => .ofRule r

/-- The base of a kind of value. -/
def Base.ofKind : ValueKind → Base
  | .text => .string
  | .number => .number
  | .boolean => .boolean
  | .texts => .stringArray

def Call.ofRules (r : FieldRules) : List Call :=
  let rules := r.rules.map Call.ofRule
  match r.kind, r.required with
  | .number, true => .finite :: rules
  | .number, false => .finite :: rules ++ [.optional]
  | .boolean, true => rules
  | .boolean, false => [.optional, .nullable]
  | _, true => .minLength 1 r.requiredMessage :: rules
  | .texts, false => rules ++ [.optional, .nullable]
  | .text, false =>
    if r.folded then r.rules.map Call.ofOptionalRule ++ [.optional, .nullable]
    else if rules.isEmpty then [.optional, .nullable]
    else rules ++ [.orEmpty, .optional, .nullable]

def Expression.ofRules (r : FieldRules) : Expression where
  base := .ofKind r.kind
  typeMessage := r.typeMessage
  requiredMessage := if r.required then some r.requiredMessage else none
  calls := Call.ofRules r

/-! ## Source -/

/-- The options that give a message. -/
def options (message : String) : Source := [.code "\x7b message: ", .literal message, .code " \x7d"]

def Call.source : Call → Source
  | minLength n m => [.code ".min(", .code (toString n), .code ", "] ++ options m ++ [.code ")"]
  | maxLength n m => [.code ".max(", .code (toString n), .code ", "] ++ options m ++ [.code ")"]
  | pattern p m => [.code ".regex(new RegExp(", .literal p, .code "), "] ++ options m ++ [.code ")"]
  | finite => [.code ".finite()"]
  | minimum q m => [.code ".min(", Source.number q, .code ", "] ++ options m ++ [.code ")"]
  | maximum q m => [.code ".max(", Source.number q, .code ", "] ++ options m ++ [.code ")"]
  | multipleOf q m => [.code ".multipleOf(", Source.number q, .code ", "] ++ options m ++ [.code ")"]
  | oneOf vs m =>
    [.code ".refine((value) => "] ++ Source.literals vs ++ [.code ".includes(value), "] ++ options m ++ [.code ")"]
  | emptyOrOneOf vs m =>
    [.code ".refine((value) => value === ", .literal "", .code " || "] ++ Source.literals vs
      ++ [.code ".includes(value), "] ++ options m ++ [.code ")"]
  | allOf vs m =>
    [.code ".refine((values) => values.every((value) => "] ++ Source.literals vs
      ++ [.code ".includes(value)), "] ++ options m ++ [.code ")"]
  | isTrue m => [.code ".refine((value) => value === true, "] ++ options m ++ [.code ")"]
  | orEmpty => [.code ".or(z.literal(", .literal "", .code "))"]
  | optional => [.code ".optional()"]
  | nullable => [.code ".nullable()"]

def Expression.parameters (e : Expression) : Source :=
  [.code "\x7b invalid_type_error: ", .literal e.typeMessage]
    ++ (match e.requiredMessage with
      | some m => [.code ", required_error: ", .literal m]
      | none => [])
    ++ [.code " \x7d"]

/-- The source of an expression without conversion. -/
def Expression.direct (e : Expression) : Source :=
  (match e.base with
    | .string => [.code "z.string("]
    | .number => [.code "z.number("]
    | .boolean => [.code "z.boolean("]
    | .stringArray => [.code "z.array(z.string(), "])
  ++ e.parameters ++ [.code ")"] ++ e.calls.flatMap Call.source

def Expression.source (e : Expression) : Source :=
  match e.base with
  | .number => [.code "z.preprocess(toNumber, "] ++ e.direct ++ [.code ")"]
  | _ => e.direct

/-! ## Modules -/

def fieldSource (f : Field) : Source := (Expression.ofRules f.describe).source

/-- The lines of the check of all fields; `margin` stands before every line but the first. -/
def objectLines (margin : String) (fields : List Field) : List Line :=
  [.code "z.object(\x7b"]
    :: fields.map (fun f => [.code margin, .code "  ", .literal f.id, .code ": "] ++ fieldSource f ++ [.code ","])
    ++ [[.code margin, .code "\x7d)"]]

/-- The check of a document. -/
def objectSource (margin : String) (d : Document) : Source := Line.join (objectLines margin d.fields)

/-- The conversion of submitted values to numbers: blank text and null count as not given. -/
def toNumberLines : List Line :=
  [Line.code "const toNumber = (value: unknown) => \x7b",
  Line.code "  if (value === null || value === undefined) return undefined;",
  [.code "  if (typeof value === ", .literal "string", .code ") \x7b"],
  [.code "    return value.trim() === ", .literal "", .code " ? undefined : Number(value);"],
  Line.code "  \x7d",
  Line.code "  return value;",
  Line.code "\x7d;"]

/-- Whether a document has a field that holds a number. -/
def usesNumbers (d : Document) : Bool := d.fields.any fun f => f.kind = .number

/-- The lines that define the conversion to numbers, where a document needs it. -/
def helperLines (d : Document) : List Line := if usesNumbers d then toNumberLines ++ [[]] else []

/-- A module that exports the check of a document under a name. -/
def moduleSource (exportName : String) (d : Document) : Source :=
  Line.join
    ([[.code "import \x7b z \x7d from ", .literal "zod", .code ";"], []]
    ++ helperLines d
    ++ [[.code "export const ", .code exportName, .code " = "] ++ objectSource "" d ++ [.code ";"],
    [],
    [.code "export type FormData = z.infer<typeof ", .code exportName, .code ">;"],
    []])

/-- The name under which a check is exported unless another is asked for. -/
def defaultName : String := "formSchema"

end WebForm.Zod
