/-
The grammar of form documents as a JSON Schema, for editors and other tools. It says what a field of
each type may carry; that ids differ, that bounds are in order and that patterns can be read is beyond
what a schema of this kind can say.
-/
import WebForm.Document.Field

namespace WebForm.Schema

/-! ## Parts -/

def version : String := "1.0.0"

/-- A schema that asks for a type of value and more. -/
def ofType (type : String) (more : List (String × Value)) : Value := .record (("type", .text type) :: more)

def text : Value := ofType "string" []

/-- A text that is not empty. -/
def nonEmptyText : Value := ofType "string" [("minLength", .int 1)]

/-- A list that is not empty. -/
def nonEmptyList (items : Value) : Value := ofType "array" [("minItems", .int 1), ("items", items)]

def natural : Value := ofType "integer" [("minimum", .int 0)]

def lengthLimits : Value :=
  ofType "object" [("properties", .record [("min", natural), ("max", natural), ("message", text)])]

def formatLimits : Value :=
  ofType "object" [("properties", .record
    [("pattern", ofType "string" [("format", .text "regex")]), ("message", text)])]

def numberProperties : Value :=
  .record [("min", ofType "number" []), ("max", ofType "number" []),
    ("step", ofType "number" [("exclusiveMinimum", .int 0)]), ("message", text)]

def numberLimits : Value := ofType "object" [("properties", numberProperties)]

def rangeLimits : Value :=
  ofType "object" [("properties", numberProperties), ("required", .texts ["min", "max"])]

def choices : Value :=
  nonEmptyList (ofType "object" [("required", .texts ["value", "label"]),
    ("properties", .record [("value", text), ("label", text)])])

/-- A clause for the fields of some types: what one of their keys holds and whether it has to be there. -/
def clause (types : List FieldType) (key : String) (schema : Value) (required : Bool) : Value :=
  .record
    [("if", .record [("properties", .record [("type", .record [("enum", .texts (types.map (·.name)))])]),
      ("required", .texts ["type"])]),
    ("then", .record (("properties", .record [(key, schema)])
      :: if required then [("required", .texts [key])] else []))]

/-! ## Documents -/

def field : Value :=
  ofType "object"
    [("required", .texts ["id", "type", "label"]),
    ("properties", .record
      [("id", nonEmptyText),
      ("type", ofType "string" [("enum", .texts (FieldType.all.map (·.name)))]),
      ("label", nonEmptyText),
      ("required", ofType "boolean" [("default", .bool false)]),
      ("placeholder", text)]),
    ("allOf", .list
      [clause [.text, .textarea] "validation" lengthLimits false,
      clause [.email, .tel, .password] "validation" formatLimits false,
      clause [.number] "validation" numberLimits false,
      clause [.range] "validation" rangeLimits true,
      clause [.select, .radio, .checkboxGroup] "options" choices true])]

/-- A form document. -/
def document : Value :=
  .record
    [("$schema", .text "https://json-schema.org/draft/2020-12/schema"),
    ("$id", .text ("https://formgen.dev/schema/form-document/v" ++ version)),
    ("title", .text "Form Document"),
    ("description", .text ("A user-authored form: title, description and an ordered list of "
      ++ "typed fields with their constraints.")),
    ("type", .text "object"),
    ("required", .texts ["formTitle", "formDescription", "fields"]),
    ("properties", .record
      [("formTitle", nonEmptyText), ("formDescription", nonEmptyText), ("fields", nonEmptyList field)])]

end WebForm.Schema
