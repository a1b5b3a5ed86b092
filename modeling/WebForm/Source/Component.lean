/-
A form as a component in source text: markup for every field, with the check of `Source.Zod` in front
of it. There are two flavors of markup, plain elements and the elements of a component library.
-/
import WebForm.Source.Zod

namespace WebForm.Component

/-! ## Flavors -/

/-- The flavors of markup. -/
inductive Flavor where
  | html
  | shadcn
deriving DecidableEq

def Flavor.name : Flavor → String
  | html => "html"
  | shadcn => "shadcn"

/-! ## Attributes -/

def textAttribute (key value : String) : Source := [.code key, .code "="] ++ Source.embedded value

/-- An attribute that ties an element to the form. -/
def register (f : Field) : Source := [.code "\x7b...form.register(", .literal f.id, .code ")\x7d"]

/-- The placeholder attribute, for a placeholder that is not empty. -/
def placeholder (f : Field) : Source :=
  match f.body.placeholder with
  | some p => if p = "" then [] else .code " " :: textAttribute "placeholder" p
  | none => []

/-- The attribute of an optional numeric limit. -/
def limitAttribute (key : String) : Option Quantity → Source
  | some q => [.code " ", .code key, .code "=\x7b", Source.number q, .code "\x7d"]
  | none => []

def limitAttributes (f : Field) : Source :=
  match f.body.numberLimits with
  | some l => limitAttribute "min" l.min ++ limitAttribute "max" l.max ++ limitAttribute "step" l.step
  | none => []

/-- An element with an id, tied to the form. -/
def tied (head : Source) (f : Field) : Source :=
  head ++ [.code " "] ++ textAttribute "id" f.id ++ [.code " "] ++ register f

/-- What a select shows before a choice is made: its placeholder if that is not empty. -/
def invitation (placeholder : Option String) : String :=
  match placeholder with
  | some p => if p = "" then "Select an option" else p
  | none => "Select an option"

/-- The label of a field; a required one is marked by a star. -/
def labelText (f : Field) : Source :=
  Source.embedded f.label ++ (if f.required then [.code " \x7b", .literal " *", .code "\x7d"] else [])

/-! ## Imports -/

/-- An import of names from a module. -/
def importLine (names path : String) : Line :=
  [.code ("import \x7b " ++ names ++ " \x7d from "), .literal path, .code ";"]

/-- An import of many names, each on a line. -/
def importLines (names : List String) (path : String) : List Line :=
  [Line.code "import \x7b"] ++ names.map (fun n => Line.code ("  " ++ n ++ ","))
  ++ [[.code "\x7d from ", .literal path, .code ";"]]

/-! ## Plain elements -/

namespace Html

/-- An input element of a type. -/
def input (f : Field) : Line :=
  tied [.code "<input type=", .literal f.type.name] f ++ placeholder f ++ limitAttributes f ++ [.code " />"]

/-- The lines of a choice among inputs of a type. -/
def choiceInput (type : String) (f : Field) (c : Choice) : List Line :=
  [Line.code "<label>",
  [.code "  <input type=", .literal type, .code " "] ++ register f ++ [.code " "]
    ++ textAttribute "value" c.value ++ [.code " />"],
  .code "  " :: Source.embedded c.label,
  Line.code "</label>"]

def option (c : Choice) : Line :=
  [.code "  <option "] ++ textAttribute "value" c.value ++ [.code ">"] ++ Source.embedded c.label ++ [.code "</option>"]

def control (f : Field) : List Line :=
  match f.body with
  | .written .textarea _ _ => [tied [.code "<textarea"] f ++ placeholder f ++ [.code " />"]]
  | .select p choices =>
    [tied [.code "<select"] f ++ [.code ">"],
    [.code "  <option value=", .literal "", .code ">"] ++ Source.embedded (invitation p) ++ [.code "</option>"]]
    ++ choices.map option ++ [Line.code "</select>"]
  | .radio choices => choices.flatMap (choiceInput "radio" f)
  | .checkboxGroup choices => choices.flatMap (choiceInput "checkbox" f)
  | .toggle .checkbox => [tied [.code "<input type=", .literal "checkbox"] f ++ [.code " />"]]
  | .toggle .switch => [tied [.code "<input type=", .literal "checkbox", .code " role=", .literal "switch"] f ++ [.code " />"]]
  | _ => [input f]

/-- The message shown under a field. -/
def errorLine (f : Field) : Line :=
  let errors : Source := [.code "form.formState.errors[", .literal f.id, .code "]"]
  [.code "  \x7b"] ++ errors ++ [.code " && <span>\x7b"] ++ errors ++ [.code "?.message\x7d</span>\x7d"]

def field (f : Field) : List Line :=
  [Line.code "<div>",
  [.code "  <label htmlFor="] ++ Source.embedded f.id ++ [.code ">"] ++ labelText f ++ [.code "</label>"]]
  ++ Line.indent 1 (control f) ++ [errorLine f, Line.code "</div>"]

def form (header : List Line) (fields : List Field) : List Line :=
  [Line.code "<form onSubmit=\x7bform.handleSubmit(onSubmit)\x7d>"]
  ++ Line.indent 1 header ++ fields.flatMap (fun f => Line.indent 1 (field f))
  ++ [[.code "  <button type=", .literal "submit", .code ">Submit</button>"], Line.code "</form>"]

end Html

/-! ## Elements of a component library -/

namespace Shadcn

/-- An input element of a type. -/
def input (type : String) (f : Field) : Line :=
  [.code "<Input type=", .literal type, .code " autoComplete=", .literal "off"] ++ placeholder f ++ limitAttributes f
    ++ [.code " \x7b...formField\x7d />"]

/-- The value at which a slider stands before it is moved: its least value, or zero of the plain kind. -/
def sliderStart (limits : RangeLimits) : Quantity := if limits.min.isZero then .whole 0 else limits.min

/-- A slider beside its value. -/
def slider (f : Field) (limits : RangeLimits) : List Line :=
  [[.code "<div className=", .literal "flex gap-8", .code ">"],
  .code "  <Slider" :: limitAttributes f,
  [.code "    value=\x7b[Number(formField.value ?? ", Source.number (sliderStart limits), .code ")]\x7d"],
  Line.code "    onValueChange=\x7b(value) => formField.onChange(value[0])\x7d",
  Line.code "  />",
  [.code "  <span className=", .literal "text-sm font-bold", .code ">\x7bformField.value\x7d</span>"],
  Line.code "</div>"]

def selectItem (c : Choice) : Line :=
  [.code "    <SelectItem "] ++ textAttribute "value" c.value ++ [.code ">"] ++ Source.embedded c.label
    ++ [.code "</SelectItem>"]

def select (p : Option String) (choices : List Choice) : List Line :=
  [Line.code "<Select onValueChange=\x7bformField.onChange\x7d defaultValue=\x7bformField.value\x7d>",
  Line.code "  <SelectTrigger>",
  [.code "    <SelectValue "] ++ textAttribute "placeholder" (invitation p) ++ [.code " />"],
  Line.code "  </SelectTrigger>",
  Line.code "  <SelectContent>"]
  ++ choices.map selectItem
  ++ [Line.code "  </SelectContent>", Line.code "</Select>"]

/-- The line that opens a choice and its label. -/
def rowLine : Line := [.code "  <div className=", .literal "flex items-center space-x-2", .code ">"]

def choiceLabel (c : Choice) : Line := [.code "    <Label>"] ++ Source.embedded c.label ++ [.code "</Label>"]

/-- One of a group of which one is chosen. -/
def radioItem (c : Choice) : List Line :=
  [rowLine,
  [.code "    <RadioGroupItem "] ++ textAttribute "value" c.value ++ [.code " />"],
  choiceLabel c,
  Line.code "  </div>"]

/-- One of a group of which several may be chosen. -/
def checkboxItem (c : Choice) : List Line :=
  [rowLine,
  Line.code "    <Checkbox",
  [.code "      checked=\x7b(formField.value ?? []).includes(", .literal c.value, .code ")\x7d"],
  Line.code "      onCheckedChange=\x7b(checked) =>",
  Line.code "        formField.onChange(",
  Line.code "          checked",
  [.code "            ? [...(formField.value ?? []), ", .literal c.value, .code "]"],
  [.code "            : (formField.value ?? []).filter((v: string) => v !== ", .literal c.value, .code ")"],
  Line.code "        )",
  Line.code "      \x7d",
  Line.code "    />",
  choiceLabel c,
  Line.code "  </div>"]

def control (f : Field) : List Line :=
  match f.body with
  | .written .textarea _ _ => [[.code "<Textarea"] ++ placeholder f ++ [.code " \x7b...formField\x7d />"]]
  | .range limits => slider f limits
  | .select p choices => select p choices
  | .radio choices =>
    [Line.code "<RadioGroup onValueChange=\x7bformField.onChange\x7d defaultValue=\x7bformField.value\x7d>"]
    ++ choices.flatMap radioItem ++ [Line.code "</RadioGroup>"]
  | .checkboxGroup choices => [Line.code "<div>"] ++ choices.flatMap checkboxItem ++ [Line.code "</div>"]
  | .toggle .checkbox => [Line.code "<Checkbox checked=\x7bformField.value\x7d onCheckedChange=\x7bformField.onChange\x7d />"]
  | .toggle .switch => [Line.code "<Switch checked=\x7bformField.value\x7d onCheckedChange=\x7bformField.onChange\x7d />"]
  | _ => [input f.type.name f]

def field (f : Field) : List Line :=
  [Line.code "<FormField",
  Line.code "  control=\x7bform.control\x7d",
  .code "  " :: textAttribute "name" f.id,
  Line.code "  render=\x7b(\x7b field: formField \x7d) => (",
  Line.code "    <FormItem>",
  [.code "      <FormLabel>"] ++ labelText f ++ [.code "</FormLabel>"],
  Line.code "      <FormControl>"]
  ++ Line.indent 4 (control f)
  ++ [Line.code "      </FormControl>",
  Line.code "      <FormMessage />",
  Line.code "    </FormItem>",
  Line.code "  )\x7d",
  Line.code "/>"]

def form (header : List Line) (fields : List Field) : List Line :=
  [Line.code "<Form \x7b...form\x7d>",
  [.code "  <form onSubmit=\x7bform.handleSubmit(onSubmit)\x7d className=", .literal "space-y-6", .code ">"]]
  ++ Line.indent 2 header ++ fields.flatMap (fun f => Line.indent 2 (field f))
  ++ [[.code "    <Button type=", .literal "submit", .code ">Submit</Button>"], Line.code "  </form>", Line.code "</Form>"]

/-- The imports of the component library. -/
def imports : List Line :=
  [importLine "Button" "@/components/ui/button",
  importLine "Checkbox" "@/components/ui/checkbox"]
  ++ importLines ["Form", "FormControl", "FormField", "FormItem", "FormLabel", "FormMessage"] "@/components/ui/form"
  ++ [importLine "Input" "@/components/ui/input",
  importLine "Label" "@/components/ui/label",
  importLine "RadioGroup, RadioGroupItem" "@/components/ui/radio-group"]
  ++ importLines ["Select", "SelectContent", "SelectItem", "SelectTrigger", "SelectValue"] "@/components/ui/select"
  ++ [importLine "Slider" "@/components/ui/slider",
  importLine "Switch" "@/components/ui/switch",
  importLine "Textarea" "@/components/ui/textarea"]

end Shadcn

/-! ## Components -/

/-- The comment that opens a component. -/
def headline (flavor : Flavor) (d : Document) : Line :=
  [.comment (d.title ++ ": react-hook-form with zod validation (" ++ flavor.name ++ ")")]

def preamble (d : Document) : List Line :=
  [[.code "const formSchema = "] ++ Zod.objectSource "" d ++ [.code ";"],
  [],
  Line.code "type FormData = z.infer<typeof formSchema>;",
  [],
  Line.code "export function DynamicForm() \x7b",
  Line.code "  const form = useForm<FormData>(\x7b",
  Line.code "    resolver: zodResolver(formSchema),",
  Line.code "  \x7d);",
  [],
  Line.code "  const onSubmit = (data: FormData) => \x7b",
  Line.code "    console.log(data);",
  Line.code "  \x7d;",
  [],
  Line.code "  return ("]

def header (d : Document) : List Line :=
  [[.code "<h2>"] ++ Source.embedded d.title ++ [.code "</h2>"],
  [.code "<p>"] ++ Source.embedded d.description ++ [.code "</p>"]]

def lines (flavor : Flavor) (d : Document) : List Line :=
  [headline flavor d,
  [],
  importLine "zodResolver" "@hookform/resolvers/zod",
  importLine "useForm" "react-hook-form",
  importLine "z" "zod"]
  ++ (match flavor with
    | .html => []
    | .shadcn => Shadcn.imports)
  ++ [[]]
  ++ Zod.helperLines d
  ++ preamble d
  ++ Line.indent 2 (match flavor with
    | .html => Html.form (header d) d.fields
    | .shadcn => Shadcn.form (header d) d.fields)
  ++ [Line.code "  );", Line.code "\x7d", []]

def source (flavor : Flavor) (d : Document) : Source := Line.join (lines flavor d)

end WebForm.Component
