/-
The text of an author does not change the code of a check. The shape of a field is what is left of it without
that text: its type, whether it is required, its numbers, whether it has a pattern of its own and how many
choices it offers. Taking the text away commutes with every step from a field to its source, so the bare
source of a field is that of its shape; and source keeps every text in a literal, so its skeleton is that of
its bare source.
-/
import WebForm.Form
import WebForm.Proofs.Document.Sound
import WebForm.Proofs.Source.Skeleton

namespace WebForm

/-! ## Shapes -/

/-- What a field holds, without the text of its author. -/
inductive Body.Shape where
  | written (type : WrittenType) (min max : Option Nat)
  | formatted (type : FormattedType) (custom : Bool)
  | number (min max step : Option Quantity)
  | range (min max : Quantity) (step : Option Quantity)
  | select (choices : Nat)
  | radio (choices : Nat)
  | checkboxGroup (choices : Nat)
  | toggle (type : ToggleType)
deriving DecidableEq

/-- The shape of what a field holds: its limits count as numbers, its pattern as given or not, and its
choices by how many they are. -/
def Body.shape : Body → Body.Shape
  | written t _ l => .written t (l.bind (·.min)) (l.bind (·.max))
  | formatted t _ l => .formatted t (l.bind (·.custom?)).isSome
  | number _ l => .number (l.bind (·.min)) (l.bind (·.max)) (l.bind (·.step))
  | range l => .range l.min l.max l.step
  | select _ cs => .select cs.length
  | radio cs => .radio cs.length
  | checkboxGroup cs => .checkboxGroup cs.length
  | toggle t => .toggle t

/-- A field without the text of its author. -/
structure Field.Shape where
  required : Bool
  body : Body.Shape
deriving DecidableEq

/-- The shape of a field. -/
def Field.shape (f : Field) : Field.Shape := ⟨f.required, f.body.shape⟩

/-- Whether a field has a placeholder that is not empty. -/
def Field.invites (f : Field) : Bool := (f.body.placeholder.filter (· ≠ "")).isSome

/-! ## A field of each shape -/

/-- Some text that is not empty, or none. -/
def someText (given : Bool) : Option String := if given then some "x" else none

/-- Choices without text. -/
def plainChoices (n : Nat) : List Choice := List.replicate n ⟨"", ""⟩

/-- What a field of a shape holds, with or without a placeholder. -/
def Body.Shape.body (placeholder : Bool) : Body.Shape → Body
  | written t lo hi => .written t (someText placeholder) (some ⟨lo, hi, none⟩)
  | formatted t custom => .formatted t (someText placeholder) (some ⟨someText custom, none⟩)
  | number lo hi st => .number (someText placeholder) (some ⟨lo, hi, st, none⟩)
  | range lo hi st => .range ⟨lo, hi, st, none⟩
  | select n => .select (someText placeholder) (plainChoices n)
  | radio n => .radio (plainChoices n)
  | checkboxGroup n => .checkboxGroup (plainChoices n)
  | toggle t => .toggle t

/-- A field of a shape, with or without a placeholder. -/
def Field.Shape.field (placeholder : Bool) (s : Field.Shape) : Field := ⟨"", "", s.required, s.body.body placeholder⟩

/-! ## Bare descriptions -/

/-- A constraint without the text of the author. -/
def Constraint.bare : Constraint → Constraint
  | .pattern _ => .pattern ""
  | .oneOf values => .oneOf (values.map fun _ => "")
  | .allOf values => .allOf (values.map fun _ => "")
  | c => c

/-- A rule without the text of the author. -/
def Rule.bare (r : Rule) : Rule := ⟨r.constraint.bare, ""⟩

/-- A description without the text of the author. -/
def FieldRules.bare (r : FieldRules) : FieldRules :=
  { r with id := "", label := "", requiredMessage := "", typeMessage := "", rules := r.rules.map Rule.bare }

@[simp] theorem FieldRules.bare_kind (r : FieldRules) : r.bare.kind = r.kind := rfl

@[simp] theorem FieldRules.bare_required (r : FieldRules) : r.bare.required = r.required := rfl

@[simp] theorem FieldRules.bare_folded (r : FieldRules) : r.bare.folded = r.folded := rfl

theorem map_bare_limitRule {α : Type} (make : α → Rule) (o : Option α) :
    (limitRule make o).map Rule.bare = limitRule (Rule.bare ∘ make) o := by
  cases o <;> rfl

theorem map_bare_lengthRules (label : String) (l : LengthLimits) :
    (lengthRules label l).map Rule.bare = limitRule (fun n => ⟨.minLength n, ""⟩) l.min
      ++ limitRule (fun n => ⟨.maxLength n, ""⟩) l.max := by
  rw [lengthRules, List.map_append, map_bare_limitRule, map_bare_limitRule]
  rfl

theorem map_bare_numberRules (l : NumberLimits) :
    (numberRules l).map Rule.bare = limitRule (fun q => ⟨.minimum q, ""⟩) l.min
      ++ limitRule (fun q => ⟨.maximum q, ""⟩) l.max ++ limitRule (fun q => ⟨.multipleOf q, ""⟩) l.step := by
  rw [numberRules, List.map_append, List.map_append, map_bare_limitRule, map_bare_limitRule, map_bare_limitRule]
  rfl

/-- Without its text, a pattern of the author is told only by being there. -/
theorem map_bare_formatRules (type : FormattedType) {l l' : Option FormatLimits}
    (h : (l.bind (·.custom?)).isSome = (l'.bind (·.custom?)).isSome) :
    (formatRules type l).map Rule.bare = (formatRules type l').map Rule.bare := by
  unfold formatRules
  cases hp : l.bind (·.custom?) <;> cases hp' : l'.bind (·.custom?) <;> simp only [hp, hp', Option.isSome_none,
    Option.isSome_some, Bool.false_eq_true, reduceCtorEq] at h <;> cases type <;> rfl

theorem custom?_someText (custom : Bool) : (FormatLimits.custom? ⟨someText custom, none⟩).isSome = custom := by
  cases custom <;> decide

/-- Without text, the values of choices are told only by how many they are. -/
theorem map_bare_values (cs : List Choice) :
    ((plainChoices cs.length).map (·.value)).map (fun _ => "") = (cs.map (·.value)).map fun _ => "" := by
  simp [plainChoices, Function.comp_def]

/-- Without text, the description of a field is that of its shape. -/
theorem Field.bare_describe (placeholder : Bool) (f : Field) :
    (f.shape.field placeholder).describe.bare = f.describe.bare := by
  obtain ⟨id, label, required, body⟩ := f
  have hrules : ∀ f g : Field, f.type = g.type → f.kind = g.kind → f.required = g.required →
      f.rules.map Rule.bare = g.rules.map Rule.bare → f.describe.bare = g.describe.bare := by
    intro f g ht hk hr h
    simp [describe, FieldRules.bare, ht, hk, hr, h]
  cases body with
  | written t p l =>
    refine hrules _ _ (by cases t <;> rfl) rfl rfl ?_
    show (lengthRules _ _).map Rule.bare = ((l.map (lengthRules label)).getD []).map Rule.bare
    cases l with
    | none => rfl
    | some l =>
      rw [map_bare_lengthRules]
      exact (map_bare_lengthRules label l).symm
  | formatted t p l =>
    refine hrules _ _ (by cases t <;> rfl) rfl rfl (map_bare_formatRules t ?_)
    exact custom?_someText _
  | number p l =>
    refine hrules _ _ rfl rfl rfl ?_
    show (numberRules _).map Rule.bare = ((l.map numberRules).getD []).map Rule.bare
    cases l with
    | none => rfl
    | some l =>
      rw [map_bare_numberRules]
      exact (map_bare_numberRules l).symm
  | range l =>
    refine hrules _ _ rfl rfl rfl ?_
    show (numberRules _).map Rule.bare = (numberRules _).map Rule.bare
    rw [map_bare_numberRules, map_bare_numberRules]
    rfl
  | select p cs | radio cs | checkboxGroup cs =>
    refine hrules _ _ rfl rfl rfl ?_
    simp only [Shape.field, shape, Body.shape, Body.Shape.body, rules, List.map_cons, List.map_nil, Rule.bare,
      Constraint.bare, map_bare_values]
  | toggle t => cases t <;> cases required <;> rfl

namespace Zod

open Source

/-! ## Bare expressions -/

/-- A call without the text of the author. -/
def Call.bare : Call → Call
  | .minLength n _ => .minLength n ""
  | .maxLength n _ => .maxLength n ""
  | .pattern _ _ => .pattern "" ""
  | .minimum q _ => .minimum q ""
  | .maximum q _ => .maximum q ""
  | .multipleOf q _ => .multipleOf q ""
  | .oneOf values _ => .oneOf (values.map fun _ => "") ""
  | .emptyOrOneOf values _ => .emptyOrOneOf (values.map fun _ => "") ""
  | .allOf values _ => .allOf (values.map fun _ => "") ""
  | .isTrue _ => .isTrue ""
  | c => c

/-- An expression without the text of the author. -/
def Expression.bare (e : Expression) : Expression :=
  ⟨e.base, "", e.requiredMessage.map fun _ => "", e.calls.map Call.bare⟩

theorem Call.bare_ofRule (r : Rule) : (ofRule r).bare = ofRule r.bare := by
  obtain ⟨c, m⟩ := r
  cases c <;> rfl

theorem Call.bare_ofOptionalRule (r : Rule) : (ofOptionalRule r).bare = ofOptionalRule r.bare := by
  obtain ⟨c, m⟩ := r
  cases c <;> rfl

theorem Call.map_bare_ofRules (r : FieldRules) : (ofRules r).map Call.bare = ofRules r.bare := by
  have hrules : (r.rules.map ofRule).map Call.bare = r.bare.rules.map ofRule := by
    simp [FieldRules.bare, Function.comp_def, bare_ofRule]
  have hoptional : (r.rules.map ofOptionalRule).map Call.bare = r.bare.rules.map ofOptionalRule := by
    simp [FieldRules.bare, Function.comp_def, bare_ofOptionalRule]
  have hempty : (r.bare.rules.map ofRule).isEmpty = (r.rules.map ofRule).isEmpty := by
    rw [← hrules, List.isEmpty_map]
  unfold ofRules
  rw [r.bare_kind, r.bare_required, r.bare_folded]
  dsimp only
  rw [hempty, ← hrules, ← hoptional]
  cases r.kind with
  | number | boolean | texts => cases r.required <;> simp [bare, FieldRules.bare]
  | text =>
    cases r.required with
    | true => simp [bare, FieldRules.bare]
    | false =>
      dsimp only
      split_ifs <;> simp [bare]

theorem Expression.bare_ofRules (r : FieldRules) : (ofRules r).bare = ofRules r.bare := by
  have hmessage : ((if r.required then some r.requiredMessage else none).map fun _ => "") =
      if r.bare.required then some r.bare.requiredMessage else none := by
    rw [r.bare_required]
    split_ifs <;> rfl
  rw [bare, ofRules, ofRules, hmessage, Call.map_bare_ofRules]
  rfl

/-! ## Bare source of a check -/

theorem bare_options (message : String) : Source.bare (options message) = options "" := rfl

theorem bare_literals (items : List String) : Source.bare (literals items) = literals (items.map fun _ => "") := by
  simp [literals, bare_join, Function.comp_def]

theorem Call.bare_source (c : Call) : Source.bare c.source = c.bare.source := by
  cases c <;> simp [source, bare, bare_options, bare_literals]

theorem Expression.bare_parameters (e : Expression) : Source.bare e.parameters = e.bare.parameters := by
  obtain ⟨b, t, m, cs⟩ := e
  cases m <;> rfl

theorem Expression.bare_direct (e : Expression) : Source.bare e.direct = e.bare.direct := by
  have hcalls : Source.bare (e.calls.flatMap Call.source) = e.bare.calls.flatMap Call.source := by
    simp only [Source.bare, List.map_flatMap, bare, List.flatMap_map, ← Call.bare_source]
  have hparameters := e.bare_parameters
  obtain ⟨base, typeMessage, requiredMessage, calls⟩ := e
  simp only [direct, Source.bare_append, hcalls, hparameters]
  cases base <;> rfl

theorem Expression.bare_source (e : Expression) : Source.bare e.source = e.bare.source := by
  have hdirect := e.bare_direct
  obtain ⟨base, typeMessage, requiredMessage, calls⟩ := e
  cases base with
  | number =>
    simp only [source, Source.bare_append, hdirect]
    rfl
  | _ => exact hdirect

/-- Without text, the source of a field's check is that of its shape. -/
theorem bare_fieldSource (placeholder : Bool) (f : Field) :
    Source.bare (fieldSource (f.shape.field placeholder)) = Source.bare (fieldSource f) := by
  rw [fieldSource, fieldSource, Expression.bare_source, Expression.bare_source, Expression.bare_ofRules,
    Expression.bare_ofRules, f.bare_describe]

/-- Without text, the lines of a check are those of the shapes of its fields. -/
theorem map_bare_objectLines (placeholder : Bool) (margin : String) (fields : List Field) :
    (objectLines margin (fields.map fun f => f.shape.field placeholder)).map Source.bare =
      (objectLines margin fields).map Source.bare := by
  simp [objectLines, Function.comp_def, bare_fieldSource]

theorem map_bare_objectLines_congr {fields fields' : List Field} (h : fields.map Field.shape = fields'.map Field.shape)
    (margin : String) : (objectLines margin fields).map Source.bare = (objectLines margin fields').map Source.bare := by
  have hfields : ∀ fields : List Field, (fields.map fun f => f.shape.field false) =
      (fields.map Field.shape).map (Field.Shape.field false) := fun fields => by
    rw [List.map_map]
    rfl
  rw [← map_bare_objectLines false margin fields, ← map_bare_objectLines false margin fields', hfields, hfields, h]

theorem bare_objectSource_congr {d d' : Document} (h : d.fields.map Field.shape = d'.fields.map Field.shape)
    (margin : String) : Source.bare (objectSource margin d) = Source.bare (objectSource margin d') := by
  unfold objectSource Line.join
  rw [bare_join, bare_join, map_bare_objectLines_congr h]

/-- Whether a check needs the conversion to numbers is told by the shapes of its fields. -/
theorem helperLines_congr {d d' : Document} (h : d.fields.map Field.shape = d'.fields.map Field.shape) :
    helperLines d = helperLines d' := by
  have hkind : ∀ f : Field, f.kind = (f.shape.field false).kind := fun f =>
    congrArg FieldRules.kind (f.bare_describe false).symm
  have huses : ∀ d : Document, usesNumbers d =
      (d.fields.map Field.shape).any fun s => (s.field false).kind = .number := by
    intro d
    rw [usesNumbers, List.any_map]
    congr 1
    funext f
    rw [Function.comp_apply, ← hkind]
  rw [helperLines, helperLines, huses, huses, h]

/-- Without text, the module of a check is that of the shapes of its fields. -/
theorem bare_moduleSource_congr {d d' : Document} (h : d.fields.map Field.shape = d'.fields.map Field.shape)
    (name : String) : Source.bare (moduleSource name d) = Source.bare (moduleSource name d') := by
  unfold moduleSource Line.join
  simp only [bare_join, List.map_append, List.map_cons, List.map_nil, bare_append, bare_objectSource_congr h,
    helperLines_congr h]

/-! ## Contained source of a check -/

theorem isCodeText_text (q : Quantity) : isCodeText q.text = true := by
  have hpoint : ∀ c ∈ ['+', '-', '.', 'e', 'E'], isCodeChar c = true := by simp [isCodeChar]
  refine List.all_eq_true.2 fun c hc => ?_
  rcases Quantity.isNumeralChar_of_mem_text hc with h | h
  · have hquote : c ≠ '"' := fun he => absurd (he ▸ h) (by decide)
    have hstar : c ≠ '*' := fun he => absurd (he ▸ h) (by decide)
    simp [isCodeChar, hquote, hstar]
  · exact hpoint c h

variable {comments : Bool}

theorem contained_options (message : String) : Contained comments (options message) := by
  simp +decide [options]

theorem contained_literals (items : List String) : Contained comments (literals items) := by
  have hitems : Contained comments (join ", " (items.map fun s => [.literal s])) := contained_join (by decide) (by simp)
  simp +decide [literals, hitems]

theorem Call.contained_source (c : Call) : Contained comments c.source := by
  have hnat : ∀ n : Nat, isCodeText n.repr = true := fun n => isCodeText_text (.whole n)
  cases c <;> simp +decide [source, contained_options, contained_literals, number, Json.quantityText, hnat, isCodeText_text]

theorem Expression.contained_parameters (e : Expression) : Contained comments e.parameters := by
  unfold parameters
  cases e.requiredMessage <;> simp +decide

theorem Expression.contained_direct (e : Expression) : Contained comments e.direct := by
  have hcalls : Contained comments (e.calls.flatMap Call.source) := by
    intro p hp
    obtain ⟨c, -, hc⟩ := List.mem_flatMap.1 hp
    exact c.contained_source p hc
  unfold direct
  cases e.base <;> simp +decide [e.contained_parameters, hcalls]

theorem Expression.contained_source (e : Expression) : Contained comments e.source := by
  unfold source
  cases e.base <;> simp +decide [e.contained_direct]

theorem contained_objectLines (fields : List Field) : AllContained comments (objectLines "" fields) := by
  simp +decide [objectLines, fieldSource, Expression.contained_source]

theorem contained_objectSource (d : Document) : Contained comments (objectSource "" d) :=
  contained_join (by decide) (contained_objectLines d.fields)

theorem contained_helperLines (d : Document) : AllContained comments (helperLines d) := by
  unfold helperLines
  split_ifs
  · simp +decide [toNumberLines, Line.code]
  · exact allContained_nil

theorem contained_moduleSource (d : Document) : Contained comments (moduleSource defaultName d) := by
  refine contained_join (by decide) ?_
  simp +decide [contained_objectSource, contained_helperLines]

end Zod

/-! ## The skeleton of a check -/

namespace Document

/-- Documents whose fields have the same shapes have checks with the same skeleton, whatever their titles,
descriptions, ids, labels, placeholders, messages, patterns and choices are, and both scans end in code. A
double and the integer that it equals are different numbers here, since they are written differently. -/
theorem check_skeleton_of_shapes {d d' : Document} (h : d.fields.map Field.shape = d'.fields.map Field.shape) :
    (Skeleton.ofText false (d.code .zod)).kept = (Skeleton.ofText false (d'.code .zod)).kept ∧
      (Skeleton.ofText false (d.code .zod)).place = .code ∧ (Skeleton.ofText false (d'.code .zod)).place = .code := by
  have hskeleton : ∀ d : Document, Skeleton.ofText false (d.code .zod) =
      ⟨Source.chars (Source.bare (Zod.moduleSource Zod.defaultName d)), .code⟩ := fun d =>
    Skeleton.ofText_text (Zod.contained_moduleSource d)
  rw [hskeleton, hskeleton, Zod.bare_moduleSource_congr h]
  exact ⟨rfl, rfl, rfl⟩

section

attribute [local instance] CharacterNames.ascii

/-- Quotes, backslashes and line feeds in labels, messages, patterns and options do not leave their literals. -/
theorem check_skeleton_of_hostile_text :
    let document := fun title id pattern text : String => Value.record [("formTitle", .text title),
      ("formDescription", .text text), ("fields", .list [
        .record [("id", .text id), ("type", .text "email"), ("label", .text text),
          ("validation", .record [("pattern", .text pattern), ("message", .text text)])],
        .record [("id", .text text), ("type", .text "select"), ("label", .text text), ("required", .bool true),
          ("options", .list [.record [("value", .text text), ("label", .text text)]])]])]
    let v := document "Form" "mail" ".+" "Choice"
    let v' := document "*/" "\\" "[\"\\\\]+" "\"); alert(1); (\"\n"
    ∃ d d', Document.read v = .ok d ∧ Document.read v' = .ok d' ∧ d.fields.map Field.shape = d'.fields.map Field.shape ∧
      d.code .zod ≠ d'.code .zod ∧ (Skeleton.ofText false (d.code .zod)).kept = (Skeleton.ofText false (d'.code .zod)).kept ∧
      (Skeleton.ofText false (d.code .zod)).place = .code ∧ (Skeleton.ofText false (d'.code .zod)).place = .code := by
  intro document v v'
  let parsed := fun title id pattern text : String => (⟨title, text, [
    ⟨id, text, false, .formatted .email none (some ⟨some pattern, some text⟩)⟩,
    ⟨text, text, true, .select none [⟨text, text⟩]⟩]⟩ : Document)
  have hd : Document.read v = .ok (parsed "Form" "mail" ".+" "Choice") :=
    read_eq_ok_iff.2 ⟨Gate.defects_eq_ok_nil_iff.1 (by decide +kernel), by decide +kernel⟩
  have hd' : Document.read v' = .ok (parsed "*/" "\\" "[\"\\\\]+" "\"); alert(1); (\"\n") :=
    read_eq_ok_iff.2 ⟨Gate.defects_eq_ok_nil_iff.1 (by decide +kernel), by decide +kernel⟩
  refine ⟨_, _, hd, hd', rfl, by decide +kernel, ?_⟩
  exact check_skeleton_of_shapes rfl

end

end Document

end WebForm
