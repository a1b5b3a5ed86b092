/-
The text of an author changes the code of a component in one place only: the title stands as it is in the
comment that opens the component, so a title that closes the comment goes on as code. Everywhere else text is
kept in literals. So components of documents of the same shape have the same skeleton if neither title closes
a comment.
-/
import WebForm.Proofs.Source.Shape

namespace WebForm

/-- A field of the same shape, with a placeholder where this one has one. -/
def Field.plain (f : Field) : Field := f.shape.field f.invites

namespace Component

open Source

/-! ## Bare attributes -/

theorem bare_indent (depth : Nat) (lines : List Line) :
    (Line.indent depth lines).map Source.bare = Line.indent depth (lines.map Source.bare) := by
  simp [Line.indent, Function.comp_def]

@[simp] theorem bare_embedded (s : String) : Source.bare (embedded s) = embedded "" := rfl

@[simp] theorem bare_textAttribute (key value : String) :
    Source.bare (textAttribute key value) = textAttribute key "" := rfl

theorem bare_placeholder (f : Field) :
    Source.bare (placeholder f) = if f.invites then .code " " :: textAttribute "placeholder" "" else [] := by
  unfold placeholder Field.invites
  cases f.body.placeholder with
  | none => rfl
  | some p => by_cases hp : p = "" <;> simp [hp, Option.filter]

theorem placeholder_plain (f : Field) : Source.bare (placeholder f.plain) = Source.bare (placeholder f) := by
  have hsome : ∀ b, ((someText b).filter (· ≠ "")).isSome = b := by
    intro b
    cases b <;> decide
  have hinvites : f.plain.invites = f.invites := by
    obtain ⟨id, label, required, body⟩ := f
    cases body <;> first | exact hsome _ | rfl
  rw [bare_placeholder, bare_placeholder, hinvites]

theorem limitAttributes_plain (f : Field) : limitAttributes f.plain = limitAttributes f := by
  obtain ⟨id, label, required, body⟩ := f
  cases body with
  | number p l => cases l <;> rfl
  | _ => rfl

theorem type_plain (f : Field) : f.plain.type = f.type := by
  obtain ⟨id, label, required, body⟩ := f
  cases body with
  | written t | formatted t | toggle t => cases t <;> rfl
  | _ => rfl

theorem bare_tied (head : Source) (f : Field) : Source.bare (tied head f.plain) = Source.bare (tied head f) := by
  simp only [tied, bare_append]
  rfl

theorem bare_labelText (f : Field) : Source.bare (labelText f.plain) = Source.bare (labelText f) := by
  simp only [labelText, bare_append, bare_embedded]
  rfl

/-- Without text, the lines of choices are told only by how many choices there are. -/
theorem map_bare_choices {lines lines' : Choice → List Line}
    (h : ∀ c c', (lines c).map Source.bare = (lines' c').map Source.bare) (cs : List Choice) :
    ((plainChoices cs.length).flatMap lines).map Source.bare = (cs.flatMap lines').map Source.bare := by
  unfold plainChoices
  induction cs with
  | nil => rfl
  | cons c cs ih =>
    rw [List.length_cons, List.replicate_succ, List.flatMap_cons, List.flatMap_cons, List.map_append, List.map_append,
      ih, h _ c]

theorem map_bare_choiceLines {line : Choice → Line} (h : ∀ c c', Source.bare (line c) = Source.bare (line c'))
    (cs : List Choice) : ((plainChoices cs.length).map line).map Source.bare = (cs.map line).map Source.bare := by
  have hlines : ∀ c c', [line c].map Source.bare = [line c'].map Source.bare := fun c c' => congrArg ([·]) (h c c')
  have hchoices := map_bare_choices hlines cs
  rwa [← List.map_eq_flatMap, ← List.map_eq_flatMap] at hchoices

/-- Where the lines of a field are told by its shape and its placeholder, so are those of all fields. -/
theorem map_bare_fields {depth : Nat} {lines : Field → List Line}
    (hlines : ∀ f : Field, (lines f.plain).map Source.bare = (lines f).map Source.bare) {fields fields' : List Field}
    (h : fields.map Field.plain = fields'.map Field.plain) :
    (fields.flatMap fun f => Line.indent depth (lines f)).map Source.bare =
      (fields'.flatMap fun f => Line.indent depth (lines f)).map Source.bare := by
  have hplain : ∀ fields : List Field, (fields.flatMap fun f => Line.indent depth (lines f)).map Source.bare =
      (fields.map Field.plain).flatMap fun f => Line.indent depth ((lines f).map Source.bare) := by
    intro fields
    simp only [List.map_flatMap, bare_indent, List.flatMap_map, hlines]
  rw [hplain, hplain, h]

/-! ## Bare markup of plain elements -/

namespace Html

theorem bare_input (f : Field) : Source.bare (input f.plain) = Source.bare (input f) := by
  simp only [input, bare_append, bare_tied, placeholder_plain, limitAttributes_plain, type_plain]

theorem map_bare_choiceInput (type : String) (f g : Field) (c c' : Choice) :
    (choiceInput type f c).map Source.bare = (choiceInput type g c').map Source.bare := rfl

theorem bare_option (c c' : Choice) : Source.bare (option c) = Source.bare (option c') := rfl

theorem map_bare_control (f : Field) : (control f.plain).map Source.bare = (control f).map Source.bare := by
  have hinput := bare_input f
  have hplaceholder := placeholder_plain f
  have htied := fun head => bare_tied head f
  obtain ⟨id, label, required, body⟩ := f
  cases body with
  | written t p l =>
    cases t with
    | text => exact congrArg ([·]) hinput
    | textarea =>
      show [Source.bare (_ ++ _ ++ _)] = [Source.bare (_ ++ _ ++ _)]
      simp only [bare_append, htied, hplaceholder]
  | formatted | number | range => exact congrArg ([·]) hinput
  | select p cs =>
    -- what is shown before a choice is made is a text, given or not
    show List.map _ ([_, _] ++ (plainChoices cs.length).map option ++ _) = List.map _ ([_, _] ++ cs.map option ++ _)
    simp only [List.map_append, map_bare_choiceLines bare_option]
    rfl
  | radio cs => exact map_bare_choices (map_bare_choiceInput _ _ _) cs
  | checkboxGroup cs => exact map_bare_choices (map_bare_choiceInput _ _ _) cs
  | toggle t => cases t <;> rfl

theorem map_bare_field (f : Field) : (field f.plain).map Source.bare = (field f).map Source.bare := by
  simp only [field, List.map_append, bare_indent, map_bare_control, List.map_cons, List.map_nil, bare_append,
    bare_labelText]
  rfl

theorem map_bare_form {header header' : List Line} {fields fields' : List Field}
    (hheader : header.map Source.bare = header'.map Source.bare)
    (hfields : fields.map Field.plain = fields'.map Field.plain) :
    (form header fields).map Source.bare = (form header' fields').map Source.bare := by
  simp only [form, List.map_append, bare_indent, hheader, map_bare_fields map_bare_field hfields]

end Html

/-! ## Bare markup of the component library -/

namespace Shadcn

theorem bare_input (type : String) (f : Field) : Source.bare (input type f.plain) = Source.bare (input type f) := by
  simp only [input, bare_append, placeholder_plain, limitAttributes_plain]

theorem bare_selectItem (c c' : Choice) : Source.bare (selectItem c) = Source.bare (selectItem c') := rfl

theorem map_bare_radioItem (c c' : Choice) : (radioItem c).map Source.bare = (radioItem c').map Source.bare := rfl

theorem map_bare_checkboxItem (c c' : Choice) :
    (checkboxItem c).map Source.bare = (checkboxItem c').map Source.bare := rfl

theorem map_bare_control (f : Field) : (control f.plain).map Source.bare = (control f).map Source.bare := by
  have hinput := bare_input f.type.name f
  have hplaceholder := placeholder_plain f
  obtain ⟨id, label, required, body⟩ := f
  cases body with
  | written t p l =>
    cases t with
    | text => exact congrArg ([·]) hinput
    | textarea =>
      show [Source.bare (_ ++ _ ++ _)] = [Source.bare (_ ++ _ ++ _)]
      simp only [bare_append, hplaceholder]
  | formatted t => cases t <;> exact congrArg ([·]) hinput
  | number => exact congrArg ([·]) hinput
  | range l => rfl
  | select p cs =>
    show List.map _ (_ ++ (plainChoices cs.length).map selectItem ++ _) = List.map _ (_ ++ cs.map selectItem ++ _)
    simp only [List.map_append, map_bare_choiceLines bare_selectItem]
    rfl
  | radio cs =>
    show List.map _ (_ ++ (plainChoices cs.length).flatMap radioItem ++ _) = List.map _ (_ ++ cs.flatMap radioItem ++ _)
    simp only [List.map_append, map_bare_choices map_bare_radioItem]
  | checkboxGroup cs =>
    show List.map _ (_ ++ (plainChoices cs.length).flatMap checkboxItem ++ _) =
      List.map _ (_ ++ cs.flatMap checkboxItem ++ _)
    simp only [List.map_append, map_bare_choices map_bare_checkboxItem]
  | toggle t => cases t <;> rfl

theorem map_bare_field (f : Field) : (field f.plain).map Source.bare = (field f).map Source.bare := by
  simp only [field, List.map_append, bare_indent, map_bare_control, List.map_cons, List.map_nil, bare_append,
    bare_labelText]
  rfl

theorem map_bare_form {header header' : List Line} {fields fields' : List Field}
    (hheader : header.map Source.bare = header'.map Source.bare)
    (hfields : fields.map Field.plain = fields'.map Field.plain) :
    (form header fields).map Source.bare = (form header' fields').map Source.bare := by
  simp only [form, List.map_append, bare_indent, hheader, map_bare_fields map_bare_field hfields]

end Shadcn

/-! ## Bare components -/

/-- Without text, a component is that of the shapes of its fields and of which of them have placeholders. -/
theorem bare_source_congr {d d' : Document} (hshapes : d.fields.map Field.shape = d'.fields.map Field.shape)
    (hinvites : d.fields.map Field.invites = d'.fields.map Field.invites) (flavor : Flavor) :
    Source.bare (source flavor d) = Source.bare (source flavor d') := by
  have hplain : d.fields.map Field.plain = d'.fields.map Field.plain := by
    have hzip : ∀ fields : List Field, fields.map Field.plain =
        List.zipWith (fun s i => s.field i) (fields.map Field.shape) (fields.map Field.invites) := by
      intro fields
      rw [List.zipWith_map, List.zipWith_self]
      rfl
    rw [hzip, hzip, hshapes, hinvites]
  have hheader : (header d).map Source.bare = (header d').map Source.bare := rfl
  have hheadline : Source.bare (headline flavor d) = Source.bare (headline flavor d') := rfl
  unfold source lines preamble Line.join
  rw [bare_join, bare_join]
  cases flavor <;> simp only [List.map_append, List.map_cons, List.map_nil, bare_append, hheadline,
    Zod.bare_objectSource_congr hshapes, Zod.helperLines_congr hshapes, bare_indent, Html.map_bare_form hheader hplain,
    Shadcn.map_bare_form hheader hplain]

/-! ## Contained components -/

variable {comments : Bool}

theorem contained_indent {depth : Nat} {lines : List Line} (h : AllContained comments lines) :
    AllContained comments (Line.indent depth lines) := by
  have hmargin : isCodeText (String.ofList (List.replicate (2 * depth) ' ')) = true := by
    rw [isCodeText, String.toList_ofList, List.all_replicate]
    simp +decide
  rw [Line.indent, allContained_map]
  exact fun line hline => (contained_code _ _).2 ⟨hmargin, h line hline⟩

theorem contained_embedded (s : String) : Contained comments (embedded s) := by
  simp +decide [embedded]

theorem contained_placeholder (f : Field) : Contained comments (placeholder f) := by
  unfold placeholder
  split
  · split_ifs <;> simp +decide [textAttribute, contained_embedded]
  · exact contained_nil

theorem contained_limitAttributes (f : Field) : Contained comments (limitAttributes f) := by
  have hlimit : ∀ {key} o, isCodeText key = true → Contained comments (limitAttribute key o) := by
    intro key o hkey
    cases o <;> simp +decide [limitAttribute, number, Json.quantityText, hkey, Zod.isCodeText_text]
  unfold limitAttributes
  split
  · simp only [contained_append, hlimit _ (by decide : isCodeText "min" = true),
      hlimit _ (by decide : isCodeText "max" = true), hlimit _ (by decide : isCodeText "step" = true), and_self]
  · exact contained_nil

theorem contained_register (f : Field) : Contained comments (register f) := by
  simp +decide [register]

theorem contained_tied {head : Source} (h : Contained comments head) (f : Field) : Contained comments (tied head f) := by
  simp +decide [tied, textAttribute, h, contained_embedded, contained_register]

theorem contained_labelText (f : Field) : Contained comments (labelText f) := by
  unfold labelText
  split_ifs <;> simp +decide [contained_embedded]

namespace Html

theorem contained_input (f : Field) : Contained comments (input f) := by
  simp +decide [input, contained_tied, contained_placeholder, contained_limitAttributes]

theorem contained_choiceInput {type : String} (f : Field) (c : Choice) :
    AllContained comments (choiceInput type f c) := by
  simp +decide [choiceInput, textAttribute, Line.code, contained_embedded, contained_register]

theorem contained_option (c : Choice) : Contained comments (option c) := by
  simp +decide [option, textAttribute, contained_embedded]

theorem contained_control (f : Field) : AllContained comments (control f) := by
  unfold control
  split <;> simp +decide [contained_input, contained_choiceInput, contained_option, contained_tied, contained_placeholder,
    contained_embedded, Line.code]

theorem contained_field (f : Field) : AllContained comments (field f) := by
  have hcontrol : AllContained comments (Line.indent 1 (control f)) := contained_indent (contained_control f)
  simp +decide [field, errorLine, Line.code, contained_embedded, contained_labelText, hcontrol]

theorem contained_form {header : List Line} (h : AllContained comments header) (fields : List Field) :
    AllContained comments (form header fields) := by
  simp +decide [form, Line.code, contained_indent h, contained_indent (contained_field _)]

end Html

namespace Shadcn

theorem contained_slider (f : Field) (limits : RangeLimits) : AllContained comments (slider f limits) := by
  have hstart : isCodeText (sliderStart limits).text = true := Zod.isCodeText_text _
  simp +decide [slider, Line.code, number, Json.quantityText, contained_limitAttributes, hstart]

theorem contained_input (type : String) (f : Field) : Contained comments (input type f) := by
  simp +decide [input, contained_placeholder, contained_limitAttributes]

theorem contained_choiceLabel (c : Choice) : Contained comments (choiceLabel c) := by
  simp +decide [choiceLabel, contained_embedded]

theorem contained_selectItem (c : Choice) : Contained comments (selectItem c) := by
  simp +decide [selectItem, textAttribute, contained_embedded]

theorem contained_select (p : Option String) (choices : List Choice) : AllContained comments (select p choices) := by
  simp +decide [select, textAttribute, Line.code, contained_embedded, contained_selectItem]

theorem contained_radioItem (c : Choice) : AllContained comments (radioItem c) := by
  simp +decide [radioItem, rowLine, textAttribute, Line.code, contained_embedded, contained_choiceLabel]

theorem contained_checkboxItem (c : Choice) : AllContained comments (checkboxItem c) := by
  simp +decide [checkboxItem, rowLine, Line.code, contained_choiceLabel]

theorem contained_control (f : Field) : AllContained comments (control f) := by
  unfold control
  split <;> simp +decide [contained_input, contained_slider, contained_select, contained_radioItem, contained_checkboxItem,
    contained_placeholder, Line.code]

theorem contained_field (f : Field) : AllContained comments (field f) := by
  have hcontrol : AllContained comments (Line.indent 4 (control f)) := contained_indent (contained_control f)
  simp +decide [field, textAttribute, Line.code, contained_embedded, contained_labelText, hcontrol]

theorem contained_form {header : List Line} (h : AllContained comments header) (fields : List Field) :
    AllContained comments (form header fields) := by
  simp +decide [form, Line.code, contained_indent h, contained_indent (contained_field _)]

theorem contained_imports : AllContained comments imports := by
  simp +decide [imports, importLine, importLines, Line.code]

end Shadcn

theorem contained_header (d : Document) : AllContained comments (header d) := by
  simp +decide [header, contained_embedded]

theorem contained_preamble (d : Document) : AllContained comments (preamble d) := by
  simp +decide [preamble, Line.code, Zod.contained_objectSource]

/-- What follows the title in the opening comment does not close it. -/
theorem contained_headline {d : Document} (h : ¬['*', '/'] <:+: d.title.toList) (flavor : Flavor) :
    Contained true (headline flavor d) := by
  have htail : '*' ∉ (": react-hook-form with zod validation (" ++ flavor.name ++ ")").toList := by
    cases flavor <;> decide +kernel
  intro p hp
  obtain rfl := List.mem_singleton.1 hp
  refine ⟨rfl, fun hclosed => h (Skeleton.closes_of_append htail ?_ ?_)⟩
  · cases flavor <;> decide +kernel
  · simpa only [String.append_assoc, String.toList_append] using hclosed

theorem contained_source {d : Document} (h : ¬['*', '/'] <:+: d.title.toList) (flavor : Flavor) :
    Contained true (source flavor d) := by
  have hhtml : AllContained true (Line.indent 2 (Html.form (header d) d.fields)) :=
    contained_indent (Html.contained_form (contained_header d) d.fields)
  have hshadcn : AllContained true (Line.indent 2 (Shadcn.form (header d) d.fields)) :=
    contained_indent (Shadcn.contained_form (contained_header d) d.fields)
  have hlines : AllContained true (lines flavor d) := by
    cases flavor <;> simp +decide [lines, importLine, Line.code, contained_headline h, Shadcn.contained_imports,
      Zod.contained_helperLines, contained_preamble, hhtml, hshadcn]
  exact contained_join (by decide) hlines

end Component

/-! ## The skeleton of a component -/

namespace Document

/-- Documents whose fields have the same shapes, with placeholders at the same fields, have components with the
same skeleton in either flavor if neither title closes a comment, whatever the titles and all other texts are. -/
theorem component_skeleton_of_shapes {d d' : Document} (hshapes : d.fields.map Field.shape = d'.fields.map Field.shape)
    (hinvites : d.fields.map Field.invites = d'.fields.map Field.invites)
    (htitle : ¬['*', '/'] <:+: d.title.toList) (htitle' : ¬['*', '/'] <:+: d'.title.toList) (flavor : Component.Flavor) :
    Skeleton.ofText true (d.code (.component flavor)) = Skeleton.ofText true (d'.code (.component flavor)) ∧
      (Skeleton.ofText true (d.code (.component flavor))).place = .code := by
  have hskeleton : ∀ d : Document, ¬['*', '/'] <:+: d.title.toList → Skeleton.ofText true (d.code (.component flavor)) =
      ⟨Source.chars (Source.bare (Component.source flavor d)), .code⟩ := fun d h =>
    Skeleton.ofText_text (Component.contained_source h flavor)
  rw [hskeleton d htitle, hskeleton d' htitle', Component.bare_source_congr hshapes hinvites]
  exact ⟨rfl, rfl⟩

section

attribute [local instance] CharacterNames.ascii

/-- Quotes, braces, tags and the opening of a comment change no code, in a title or elsewhere. -/
theorem component_skeleton_of_hostile_text :
    let document := fun title id text : String => Value.record [("formTitle", .text title),
      ("formDescription", .text text), ("fields", .list [
        .record [("id", .text id), ("type", .text "textarea"), ("label", .text text), ("placeholder", .text text)],
        .record [("id", .text text), ("type", .text "radio"), ("label", .text text), ("required", .bool true),
          ("options", .list [.record [("value", .text text), ("label", .text text)]])]])]
    let v := document "Form" "note" "Choice"
    let v' := document "/* \"" "\\" "\"\x7d /></form>\x7balert(1)\x7d*/\n"
    ∃ d d', Document.read v = .ok d ∧ Document.read v' = .ok d' ∧ d.fields.map Field.shape = d'.fields.map Field.shape ∧
      d.fields.map Field.invites = d'.fields.map Field.invites ∧ ¬['*', '/'] <:+: d.title.toList ∧
      ¬['*', '/'] <:+: d'.title.toList ∧ ∀ flavor,
        Skeleton.ofText true (d.code (.component flavor)) = Skeleton.ofText true (d'.code (.component flavor)) ∧
          (Skeleton.ofText true (d.code (.component flavor))).place = .code := by
  intro document v v'
  let parsed := fun title id text : String => (⟨title, text, [⟨id, text, false, .written .textarea (some text) none⟩,
    ⟨text, text, true, .radio [⟨text, text⟩]⟩]⟩ : Document)
  let d := parsed "Form" "note" "Choice"
  let d' := parsed "/* \"" "\\" "\"\x7d /></form>\x7balert(1)\x7d*/\n"
  have hd : Document.read v = .ok d :=
    read_eq_ok_iff.2 ⟨Gate.defects_eq_ok_nil_iff.1 (by decide +kernel), by decide +kernel⟩
  have hd' : Document.read v' = .ok d' :=
    read_eq_ok_iff.2 ⟨Gate.defects_eq_ok_nil_iff.1 (by decide +kernel), by decide +kernel⟩
  have hshapes : d.fields.map Field.shape = d'.fields.map Field.shape := rfl
  have hinvites : d.fields.map Field.invites = d'.fields.map Field.invites := by decide +kernel
  have htitle : ¬['*', '/'] <:+: d.title.toList := by decide +kernel
  have htitle' : ¬['*', '/'] <:+: d'.title.toList := by decide +kernel
  refine ⟨d, d', hd, hd', hshapes, hinvites, htitle, htitle', fun flavor => ?_⟩
  exact component_skeleton_of_shapes hshapes hinvites htitle htitle' flavor

/-- A title that closes the comment goes on as code: text of the author that no other document of the same shape
has in its skeleton. -/
theorem component_skeleton_of_closing_title :
    let document := fun title : String => Value.record [("formTitle", .text title), ("formDescription", .text "D"),
      ("fields", .list [.record [("id", .text "a"), ("type", .text "text"), ("label", .text "A")]])]
    ∃ d d', Document.read (document "*/ alert(1); /*") = .ok d ∧ Document.read (document "Form") = .ok d' ∧
      d.fields.map Field.shape = d'.fields.map Field.shape ∧ d.fields.map Field.invites = d'.fields.map Field.invites ∧
      ∀ flavor, (Skeleton.ofText true (d.code (.component flavor))).kept ≠
        (Skeleton.ofText true (d'.code (.component flavor))).kept := by
  intro document
  let parsed := fun title : String => (⟨title, "D", [⟨"a", "A", false, .written .text none none⟩]⟩ : Document)
  have hd : Document.read (document "*/ alert(1); /*") = .ok (parsed "*/ alert(1); /*") :=
    read_eq_ok_iff.2 ⟨Gate.defects_eq_ok_nil_iff.1 (by decide +kernel), by decide +kernel⟩
  have hd' : Document.read (document "Form") = .ok (parsed "Form") :=
    read_eq_ok_iff.2 ⟨Gate.defects_eq_ok_nil_iff.1 (by decide +kernel), by decide +kernel⟩
  refine ⟨_, _, hd, hd', rfl, rfl, fun flavor h => ?_⟩
  -- the first character that is kept is a blank after the closed comment, or the line feed after the whole one
  have hhead := congrArg List.head? h
  simp only [Skeleton.ofText, code, Source.toList_text] at hhead
  revert hhead
  cases flavor <;> decide +kernel

end

end Document

end WebForm
