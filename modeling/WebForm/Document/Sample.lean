/-
A form document to start from: a survey that shows seven of the field types.
-/
import WebForm.Document.Field
import WebForm.Json.Writer

namespace WebForm.Sample

def choices (pairs : List (String × String)) : Value :=
  .list (pairs.map fun (value, label) => (Choice.mk value label).toValue)

/-- A field of the sample: its type, id and label, whether it is required, and more. -/
def field (type id label : String) (required : Bool) (more : List (String × Value)) : Value :=
  .record ([("id", .text id), ("type", .text type), ("label", .text label), ("required", .bool required)] ++ more)

def fields : List Value :=
  [field "text" "name" "Full Name" true [("placeholder", .text "Enter your full name")],
  field "email" "email" "Email Address" true
    [("placeholder", .text "you@example.com"),
    ("validation", .record
      [("pattern", .text "^[^\\s@]+@[^\\s@]+\\.[^\\s@]+$"),
      ("message", .text "Please enter a valid email address")])],
  field "select" "companySize" "Company Size" true
    [("options", choices
      [("1-50", "1-50 employees"),
      ("51-200", "51-200 employees"),
      ("201-1000", "201-1000 employees"),
      ("1000+", "1000+ employees")])],
  field "radio" "industry" "Industry" true
    [("options", choices
      [("tech", "Technology"),
      ("healthcare", "Healthcare"),
      ("finance", "Finance"),
      ("retail", "Retail"),
      ("other", "Other")])],
  field "select" "timeline" "Project Timeline" true
    [("options", choices
      [("immediate", "Immediate (within 1 month)"),
      ("short", "Short-term (1-3 months)"),
      ("medium", "Medium-term (3-6 months)"),
      ("long", "Long-term (6+ months)")])],
  field "textarea" "comments" "Additional Comments" false
    [("placeholder", .text "Any other details you'd like to share...")],
  field "range" "satisfaction" "Satisfaction Level" true
    [("validation", .record [("min", .int 0), ("max", .int 10), ("step", .int 1)])]]

def document : Value :=
  .record
    [("formTitle", .text "Project Requirements Survey"),
    ("formDescription", .text "Please fill out this survey about your project needs"),
    ("fields", .list fields)]

def text : String := Json.writeIndented 0 document ++ "\n"

end WebForm.Sample
