/-
Which entries of a value do not matter for the document it describes. A null is as good as no entry, and an entry at a
key that the grammar does not give to its object is never looked at. So values that differ in such entries, in the
document, in its fields, in their limits and in their choices, have the same defects and give the same document.
-/
import Mathlib.Logic.Relation
import WebForm.Form
import WebForm.Proofs.Document.FieldDefects

namespace WebForm

/-! ## Entries that do not matter -/

/-- What an object inside a document describes. -/
inductive ObjectKind where
  | document
  | field
  | limits
  | choice

/-- The keys that the grammar gives to an object of a kind. -/
def ObjectKind.keys : ObjectKind → List String
  | document => ["formTitle", "formDescription", "fields"]
  | field => ["id", "type", "label", "required", "placeholder", "validation", "options"]
  | limits => ["min", "max", "step", "pattern", "message"]
  | choice => ["value", "label"]

namespace Value

/-- An entry that does not matter before others: a null, where its key has no other entry, or an entry at a key that the
grammar does not give. -/
def IsImmaterial (kind : ObjectKind) (entry : Scalar × Value) (after : Entries) : Prop :=
  (entry.2 = .null ∧ ∀ other ∈ after, other.1 ≠ entry.1) ∨ ∀ key ∈ kind.keys, entry.1 ≠ .text key

/-- One entry that does not matter is taken out of an object of a kind, or of one that it holds. -/
inductive Drops : ObjectKind → Value → Value → Prop
  | entry {kind : ObjectKind} {before after : Entries} {entry : Scalar × Value} (h : IsImmaterial kind entry after) :
      Drops kind (.object (before ++ entry :: after)) (.object (before ++ after))
  | field {before after : Entries} {fs gs : List Value} {f g : Value} (h : Drops .field f g) :
      Drops .document (.object (before ++ (.text "fields", .list (fs ++ f :: gs)) :: after))
        (.object (before ++ (.text "fields", .list (fs ++ g :: gs)) :: after))
  | limits {before after : Entries} {l m : Value} (h : Drops .limits l m) :
      Drops .field (.object (before ++ (.text "validation", l) :: after))
        (.object (before ++ (.text "validation", m) :: after))
  | choice {before after : Entries} {cs ds : List Value} {c d : Value} (h : Drops .choice c d) :
      Drops .field (.object (before ++ (.text "options", .list (cs ++ c :: ds)) :: after))
        (.object (before ++ (.text "options", .list (cs ++ d :: ds)) :: after))

/-- Values that become the same when entries that do not matter are taken out or put in, one after another. -/
def SameButImmaterial : Value → Value → Prop := Relation.EqvGen (Drops .document)

end Value

/-! ## What is found after a change -/

namespace Entries

theorem find?_append (before after : Entries) (key : String) :
    Entries.find? (before ++ after) key = (Entries.find? before key).or (Entries.find? after key) := by
  unfold Entries.find?
  rw [List.find?_append, Option.map_or]

theorem find?_cons (entry : Scalar × Value) (rest : Entries) (key : String) :
    Entries.find? (entry :: rest) key = if entry.1 = .text key then some entry.2 else Entries.find? rest key := by
  unfold Entries.find?
  by_cases h : entry.1 = .text key <;> simp [h]

theorem find?_eq_none {entries : Entries} {key : String} (h : ∀ e ∈ entries, e.1 ≠ .text key) :
    Entries.find? entries key = none := by
  unfold Entries.find?
  rw [Option.map_eq_none_iff, List.find?_eq_none]
  simpa using h

end Entries

namespace Value

variable {before after : Entries} {key : String}

theorem get_object (entries : Entries) (key : String) :
    (object entries).get key = (Entries.find? entries key).getD .null := rfl

theorem get_drop {kind : ObjectKind} {entry : Scalar × Value} (h : IsImmaterial kind entry after)
    (hkey : key ∈ kind.keys) :
    (object (before ++ after)).get key = (object (before ++ entry :: after)).get key := by
  rw [get_object, get_object, Entries.find?_append, Entries.find?_append, Entries.find?_cons]
  by_cases hentry : entry.1 = .text key
  · -- the entry is one that could be found, so it is a null, and nothing else stands at its key
    rcases h with ⟨hnull, hkeys⟩ | hother
    · have hnone : Entries.find? after key = none := Entries.find?_eq_none (hentry ▸ hkeys)
      rw [if_pos hentry, hnone, hnull]
      cases Entries.find? before key <;> rfl
    · exact absurd hentry (hother key hkey)
  · rw [if_neg hentry]

theorem get_replace_of_ne (before after : Entries) {k : String} (v w : Value) (h : k ≠ key) :
    (object (before ++ (.text k, w) :: after)).get key = (object (before ++ (.text k, v) :: after)).get key := by
  simp [get_object, Entries.find?_append, Entries.find?_cons, h]

/-- A value at a key is found there, unless an entry before it is found in its place. -/
theorem get_replace (before after : Entries) (key : String) :
    (∃ u, ∀ v, (object (before ++ (.text key, v) :: after)).get key = u) ∨
      ∀ v, (object (before ++ (.text key, v) :: after)).get key = v := by
  simp only [get_object, Entries.find?_append, Entries.find?_cons, if_true]
  cases Entries.find? before key with
  | some u => exact .inl ⟨u, fun _ => rfl⟩
  | none => exact .inr fun _ => rfl

/-- What holds of any value and itself, and of the two values at a key, holds of what is found at the key. -/
theorem get_replace_rel {R : Value → Value → Prop} (hrefl : ∀ u, R u u) {v w : Value} (h : R v w) (before after : Entries)
    (key : String) : R ((object (before ++ (.text key, v) :: after)).get key)
      ((object (before ++ (.text key, w) :: after)).get key) := by
  rcases get_replace before after key with ⟨u, hu⟩ | hu
  · rw [hu, hu]
    exact hrefl u
  · rwa [hu, hu]

/-- Objects in which the same is found at keys. -/
structure SameAt (keys : List String) (v w : Value) : Prop where
  left : v.isObject = true
  right : w.isObject = true
  get : ∀ key ∈ keys, w.get key = v.get key

theorem sameAt_drop (before : Entries) {kind : ObjectKind} {entry : Scalar × Value} (h : IsImmaterial kind entry after) :
    SameAt kind.keys (.object (before ++ entry :: after)) (.object (before ++ after)) :=
  ⟨rfl, rfl, fun _ hkey => get_drop h hkey⟩

theorem Drops.sameAt_limits {l m : Value} (h : Drops .limits l m) : SameAt ObjectKind.limits.keys l m := by
  cases h with
  | entry h => exact sameAt_drop _ h

theorem Drops.sameAt_choice {c d : Value} (h : Drops .choice c d) : SameAt ObjectKind.choice.keys c d := by
  cases h with
  | entry h => exact sameAt_drop _ h

end Value

namespace Gate

open Value

/-! ## Limits -/

/-- Limits in which the same is found. -/
structure LimitsAlike (l m : Value) : Prop where
  isNull : m.isNull = l.isNull
  isObject : m.isObject = l.isObject
  min : m.get "min" = l.get "min"
  max : m.get "max" = l.get "max"
  step : m.get "step" = l.get "step"
  pattern : m.get "pattern" = l.get "pattern"
  message : m.get "message" = l.get "message"

namespace LimitsAlike

variable {l m : Value}

theorem refl (l : Value) : LimitsAlike l l := ⟨rfl, rfl, rfl, rfl, rfl, rfl, rfl⟩

theorem of_drops (h : Drops .limits l m) : LimitsAlike l m := by
  have hsame := h.sameAt_limits
  obtain ⟨_, rfl⟩ := isObject_iff.1 hsame.left
  obtain ⟨_, rfl⟩ := isObject_iff.1 hsame.right
  exact ⟨rfl, rfl, hsame.get _ (by decide), hsame.get _ (by decide), hsame.get _ (by decide), hsame.get _ (by decide),
    hsame.get _ (by decide)⟩

theorem lengthDefects_eq (h : LimitsAlike l m) : lengthDefects m = lengthDefects l := by
  simp only [lengthDefects, messageDefects, h.min, h.max, h.message]

theorem numberDefects_eq (h : LimitsAlike l m) : numberDefects m = numberDefects l := by
  simp only [numberDefects, messageDefects, h.min, h.max, h.step, h.message]

theorem rangeDefects_eq (h : LimitsAlike l m) : rangeDefects m = rangeDefects l := by
  simp only [rangeDefects, h.numberDefects_eq, h.min, h.max]

theorem formatDefects_eq [CharacterNames] (h : LimitsAlike l m) : formatDefects m = formatDefects l := by
  simp only [formatDefects, messageDefects, h.pattern, h.message]

theorem lengthLimits?_eq (h : LimitsAlike l m) : lengthLimits? m = lengthLimits? l := by
  simp only [lengthLimits?, h.isObject, h.min, h.max, h.message]

theorem formatLimits?_eq (h : LimitsAlike l m) : formatLimits? m = formatLimits? l := by
  simp only [formatLimits?, h.isObject, h.pattern, h.message]

theorem numberLimits?_eq (h : LimitsAlike l m) : numberLimits? m = numberLimits? l := by
  simp only [numberLimits?, h.isObject, h.min, h.max, h.step, h.message]

theorem rangeLimits?_eq (h : LimitsAlike l m) : rangeLimits? m = rangeLimits? l := by
  simp only [rangeLimits?, h.isObject, h.min, h.max, h.step, h.message]

end LimitsAlike

/-! ## Choices -/

/-- Lists of choices that are read alike. -/
structure ChoicesAlike (v w : Value) : Prop where
  defects : choiceDefects w = choiceDefects v
  choices : choices? w = choices? v

theorem ChoicesAlike.refl (v : Value) : ChoicesAlike v v := ⟨rfl, rfl⟩

theorem choice?_eq_of_drops {c d : Value} (h : Drops .choice c d) : choice? d = choice? c := by
  have hsame := h.sameAt_choice
  unfold choice?
  rw [hsame.get "value" (by decide), hsame.get "label" (by decide)]

theorem choiceDefects_of_ne_nil {items : List Value} (h : items ≠ []) : choiceDefects (.list items) =
    (items.mapIdx fun i item => require (choice? item).isSome (FieldDefect.optionInvalid i)).flatten := by
  obtain ⟨first, rest, rfl⟩ := List.exists_cons_of_ne_nil h
  rfl

theorem ChoicesAlike.of_drops {c d : Value} (h : Drops .choice c d) (cs ds : List Value) :
    ChoicesAlike (.list (cs ++ c :: ds)) (.list (cs ++ d :: ds)) where
  defects := by
    rw [choiceDefects_of_ne_nil (by simp), choiceDefects_of_ne_nil (by simp)]
    simp only [List.mapIdx_append, List.mapIdx_cons, choice?_eq_of_drops h]
  choices := by
    simp only [choices?, List.mapM_append, List.mapM_cons, choice?_eq_of_drops h]

/-! ## Fields -/

/-- Fields in which the same is found. -/
structure FieldAlike (f g : Value) : Prop where
  isObject : g.isObject = f.isObject
  id : g.get "id" = f.get "id"
  type : g.get "type" = f.get "type"
  label : g.get "label" = f.get "label"
  required : g.get "required" = f.get "required"
  placeholder : g.get "placeholder" = f.get "placeholder"
  validation : LimitsAlike (f.get "validation") (g.get "validation")
  options : ChoicesAlike (f.get "options") (g.get "options")

namespace FieldAlike

variable {f g : Value}

theorem of_drops (h : Drops .field f g) : FieldAlike f g := by
  cases h with
  | @entry _ before after _ h =>
    have hsame := sameAt_drop before h
    have hvalidation := hsame.get "validation" (by decide)
    have hoptions := hsame.get "options" (by decide)
    exact ⟨rfl, hsame.get _ (by decide), hsame.get _ (by decide), hsame.get _ (by decide), hsame.get _ (by decide),
      hsame.get _ (by decide), hvalidation ▸ .refl _, hoptions ▸ .refl _⟩
  | @limits before after l m h =>
    have hother : ∀ key, "validation" ≠ key → _ := fun key => get_replace_of_ne before after l m
    have hoptions := hother "options" (by decide)
    exact ⟨rfl, hother _ (by decide), hother _ (by decide), hother _ (by decide), hother _ (by decide),
      hother _ (by decide), get_replace_rel .refl (.of_drops h) before after _, hoptions ▸ .refl _⟩
  | @choice before after cs ds c d h =>
    have hother : ∀ key, "options" ≠ key → _ := fun key => get_replace_of_ne before after (.list (cs ++ c :: ds))
      (.list (cs ++ d :: ds))
    have hvalidation := hother "validation" (by decide)
    exact ⟨rfl, hother _ (by decide), hother _ (by decide), hother _ (by decide), hother _ (by decide),
      hother _ (by decide), hvalidation ▸ .refl _, get_replace_rel .refl (.of_drops h cs ds) before after _⟩

theorem idOf?_eq (h : FieldAlike f g) : idOf? g = idOf? f := by
  simp only [idOf?, h.id]

theorem typeOf?_eq (h : FieldAlike f g) : typeOf? g = typeOf? f := by
  simp only [typeOf?, h.type]

theorem commonDefects_eq (h : FieldAlike f g) : commonDefects g = commonDefects f := by
  simp only [commonDefects, typeDefects, h.typeOf?_eq, h.type, h.label, h.required, h.validation.isNull, h.validation.isObject]

theorem attributeDefects_eq [CharacterNames] (h : FieldAlike f g) (type : FieldType) :
    attributeDefects type g = attributeDefects type f := by
  simp only [attributeDefects, h.validation.lengthDefects_eq, h.validation.formatDefects_eq, h.validation.numberDefects_eq,
    h.validation.rangeDefects_eq, h.options.defects]

theorem fieldDefects_eq [CharacterNames] (h : FieldAlike f g) (index : Nat) (earlier : List String) :
    fieldDefects g index earlier = fieldDefects f index earlier := by
  simp only [fieldDefects, variantDefects, idDefects, nameOf, h.isObject, h.idOf?_eq, h.typeOf?_eq, h.commonDefects_eq,
    h.attributeDefects_eq, h.placeholder]

theorem body?_eq (h : FieldAlike f g) (type : FieldType) : body? type g = body? type f := by
  simp only [body?, optional?, h.placeholder, h.options.choices, h.validation.isNull, h.validation.lengthLimits?_eq,
    h.validation.formatLimits?_eq, h.validation.numberLimits?_eq, h.validation.rangeLimits?_eq]

theorem field?_eq (h : FieldAlike f g) : field? g = field? f := by
  simp only [field?, h.typeOf?_eq, h.id, h.label, h.required, h.body?_eq]

end FieldAlike

/-! ## Documents -/

theorem fieldsDefects_replace [CharacterNames] {f g : Value} (h : FieldAlike f g) (fs gs : List Value) (index : Nat)
    (earlier : List String) : fieldsDefects (fs ++ g :: gs) index earlier = fieldsDefects (fs ++ f :: gs) index earlier := by
  induction fs generalizing index earlier with
  | nil => simp only [List.nil_append, fieldsDefects, h.fieldDefects_eq, h.idOf?_eq]
  | cons first rest ih => simp only [List.cons_append, fieldsDefects, ih]

/-- Documents in which the same is found, but for one field in which the same is found. -/
structure DocumentAlike (v w : Value) : Prop where
  isObject : w.isObject = v.isObject
  title : w.get "formTitle" = v.get "formTitle"
  description : w.get "formDescription" = v.get "formDescription"
  fields : w.get "fields" = v.get "fields" ∨ ∃ fs gs f g, FieldAlike f g ∧ v.get "fields" = .list (fs ++ f :: gs) ∧
    w.get "fields" = .list (fs ++ g :: gs)

namespace DocumentAlike

variable {v w : Value}

theorem of_drops (h : Drops .document v w) : DocumentAlike v w := by
  cases h with
  | @entry _ before after _ h =>
    have hsame := sameAt_drop before h
    exact ⟨rfl, hsame.get _ (by decide), hsame.get _ (by decide), .inl (hsame.get _ (by decide))⟩
  | @field before after fs gs f g h =>
    refine ⟨rfl, get_replace_of_ne before after _ _ (by decide), get_replace_of_ne before after _ _ (by decide), ?_⟩
    rcases get_replace before after "fields" with ⟨u, hu⟩ | hu
    · exact .inl (by rw [hu, hu])
    · exact .inr ⟨fs, gs, f, g, .of_drops h, hu _, hu _⟩

theorem defects_eq [CharacterNames] (h : DocumentAlike v w) : defects w = defects v := by
  rcases h.fields with hfields | ⟨fs, gs, f, g, hfield, hv, hw⟩
  · simp only [defects, h.isObject, hfields, headerDefects_congr h.title h.description]
  · rw [defects_of_fields hv (by simp), defects_of_fields hw (by simp), fieldsDefects_replace hfield,
      headerDefects_congr h.title h.description]

theorem document?_eq (h : DocumentAlike v w) : document? w = document? v := by
  rcases h.fields with hfields | ⟨fs, gs, f, g, hfield, hv, hw⟩
  · simp only [document?, hfields, h.title, h.description]
  · simp only [document?, hv, hw, h.title, h.description, List.mapM_append, List.mapM_cons, hfield.field?_eq]

end DocumentAlike

end Gate

namespace Document

open Value

/-- Entries that do not matter change neither the defects of a value, in whatever order and number these are, nor what
comes of it as a document: the same document, with the same checks and the same source. -/
theorem read_same_but_immaterial [CharacterNames] {v w : Value} (h : SameButImmaterial v w) :
    Gate.defects w = Gate.defects v ∧ read w = read v ∧
      ∀ d, read v = .ok d → ∃ e, read w = .ok e ∧ e = d ∧ (∀ data, e.check data = d.check data) ∧
        ∀ flavor, e.code flavor = d.code flavor := by
  have hsame : Gate.defects w = Gate.defects v ∧ Gate.document? w = Gate.document? v := by
    induction h with
    | rel v w h => exact ⟨(Gate.DocumentAlike.of_drops h).defects_eq, (Gate.DocumentAlike.of_drops h).document?_eq⟩
    | refl v => exact ⟨rfl, rfl⟩
    | symm v w _ ih => exact ⟨ih.1.symm, ih.2.symm⟩
    | trans u v w _ _ ih ih' => exact ⟨ih'.1.trans ih.1, ih'.2.trans ih.2⟩
  have hread : read w = read v := by
    unfold read
    rw [hsame.1, hsame.2]
  exact ⟨hsame.1, hread, fun d hd => ⟨d, hread.trans hd, rfl, fun _ => rfl, fun _ => rfl⟩⟩

section

attribute [local instance] CharacterNames.ascii

/-- A form with an entry that does not matter in each kind of object, and the same form without them. -/
theorem read_same_but_immaterial_of_select :
    let choice (more : Entries) : Value := .object ([(.text "value", .text "x"), (.text "label", .text "X")] ++ more)
    let field (inLimits inChoice more : Entries) : Value := .object ([(.text "id", .text "a"),
      (.text "type", .text "select"), (.text "label", .text "A"), (.text "validation", .object inLimits),
      (.text "options", .list [choice inChoice])] ++ more)
    let form (field : Value) (more : Entries) : Value := .object ([(.text "formTitle", .text "T"),
      (.text "formDescription", .text "D"), (.text "fields", .list [field])] ++ more)
    let v := form (field [(.text "min", .null)] [(.int 1, .text "one")] [(.text "required", .null)])
      [(.text "draft", .bool true)]
    let w := form (field [] [] []) []
    SameButImmaterial v w ∧ Gate.defects v = .ok [] ∧ Gate.defects w = .ok [] ∧ read w = read v := by
  intro choice field form v w
  have hform : ∀ f, Drops .document (form f [(.text "draft", .bool true)]) (form f []) := fun f =>
    @Drops.entry .document [_, _, _] [] (.text "draft", .bool true) (.inr (by decide))
  have hinside : ∀ f g, Drops .field f g → Drops .document (form f []) (form g []) := fun f g h =>
    @Drops.field [_, _] [] [] [] f g h
  have hfield : ∀ l c, Drops .field (field l c [(.text "required", .null)]) (field l c []) := fun l c =>
    @Drops.entry .field [_, _, _, _, _] [] (.text "required", .null) (.inl ⟨rfl, by simp⟩)
  have hchoice : ∀ l, Drops .field (field l [(.int 1, .text "one")] []) (field l [] []) := fun l =>
    @Drops.choice [_, _, _, _] [] [] [] _ _ (@Drops.entry .choice [_, _] [] (.int 1, .text "one") (.inr (by decide)))
  have hlimits : Drops .field (field [(.text "min", .null)] [] []) (field [] [] []) :=
    @Drops.limits [_, _, _] [_] _ _ (@Drops.entry .limits [] [] (.text "min", .null) (.inl ⟨rfl, by simp⟩))
  have h : SameButImmaterial v w :=
    .trans _ _ _ (.rel _ _ (hform _)) <| .trans _ _ _ (.rel _ _ (hinside _ _ (hfield _ _))) <|
      .trans _ _ _ (.rel _ _ (hinside _ _ (hchoice _))) (.rel _ _ (hinside _ _ hlimits))
  obtain ⟨hdefects, hread, -⟩ := read_same_but_immaterial h
  have hv : Gate.defects v = .ok [] := by decide +kernel
  exact ⟨h, hv, hdefects.trans hv, hread⟩

end

end Document

end WebForm
