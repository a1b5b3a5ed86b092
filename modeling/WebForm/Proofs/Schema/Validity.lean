/-
What it means for a value to be valid under a schema (JSON Schema, draft 2020-12), for the keywords that the
schema of form documents uses. A schema is itself a value, so validity goes by recursion on it. Each keyword
speaks of the kinds of value that it is about and is satisfied by all others; a keyword that is not listed here,
such as `format` or `default`, is a note to readers and asks for nothing.
-/
import WebForm.Document.Schema
import WebForm.Proofs.Number.Exact
import WebForm.Proofs.Value

namespace WebForm.Schema

/-! ## Keywords without a schema in them -/

/-- What each name of a type stands for. What is not finite is no number, and a whole number is an integer
however it is written. -/
def HasType : String → Value → Prop
  | "object", v => ∃ entries, v = .object entries
  | "array", v => ∃ items, v = .list items
  | "string", v => ∃ s, v = .text s
  | "boolean", v => ∃ b, v = .bool b
  | "null", v => v = .null
  | "number", v => ∃ q, v = .quantity q
  | "integer", v => ∃ q, v = .quantity q ∧ ∃ n : Int, q.value = n
  | _, _ => False

/-- What a keyword with its value asks of a value. The members of an `enum` are compared as they are written, which
is all there is to compare for texts. -/
def Asserts : String → Value → Value → Prop
  | "type", .text type, v => HasType type v
  | "required", .list names, v => v.isObject = true → ∀ name, .text name ∈ names → (v.get? name).isSome = true
  | "enum", .list members, v => v ∈ members
  | "minLength", .int n, v => ∀ s, v = .text s → n ≤ s.length
  | "minItems", .int n, v => ∀ items, v = .list items → n ≤ items.length
  | "minimum", bound, v => ∀ a, bound = .quantity a → ∀ q, v = .quantity q → a.value ≤ q.value
  | "exclusiveMinimum", bound, v => ∀ a, bound = .quantity a → ∀ q, v = .quantity q → a.value < q.value
  | _, _, _ => True

/-! ## Validity -/

/-- What is at a key, if anything, has a property. -/
def AtKey (p : Value → Prop) (v : Value) (key : String) : Prop := ∀ w, v.get? key = some w → p w

mutual

/-- Whether a value is valid under a schema. -/
def Valid : Value → Value → Prop
  | .object keywords, v => AllHold keywords (Condition keywords v) v
  | .scalar (.bool b), _ => b = true
  | _, _ => False

/-- Whether a value satisfies each keyword of a schema, given whether it satisfies the schema's condition. -/
def AllHold : Entries → Prop → Value → Prop
  | [], _, _ => True
  | (key, k) :: rest, condition, v =>
    ((∀ name, key = .text name → Asserts name k v) ∧
      (key = .text "properties" → Properties k v) ∧
      (key = .text "items" → ∀ items, v = .list items → ∀ item ∈ items, Valid k item) ∧
      (key = .text "allOf" → All k v) ∧
      (key = .text "then" → condition → Valid k v)) ∧
    AllHold rest condition v

/-- The condition of a schema: that a value is valid under what stands at `if`. Without an `if` nothing follows
from a `then`. -/
def Condition : Entries → Value → Prop
  | [], _ => False
  | (key, k) :: rest, v => (key = .text "if" ∧ Valid k v) ∨ Condition rest v

/-- Whether what an object has at each of some keys is valid under the schema at that key. -/
def Properties : Value → Value → Prop
  | .object properties, v => PropertiesHold properties v
  | _, _ => False

def PropertiesHold : Entries → Value → Prop
  | [], _ => True
  | (key, k) :: rest, v =>
    (∀ name, key = .text name → AtKey (Valid k) v name) ∧ PropertiesHold rest v

/-- Whether a value is valid under every schema of a list. -/
def All : Value → Value → Prop
  | .list schemas, v => AllValid schemas v
  | _, _ => False

def AllValid : List Value → Value → Prop
  | [], _ => True
  | k :: rest, v => Valid k v ∧ AllValid rest v

end

/-! ## Keyword by keyword -/

variable {v : Value} {condition : Prop} {rest : Entries}

@[simp] theorem hasType_object : HasType "object" v ↔ ∃ entries, v = .object entries := Iff.rfl

@[simp] theorem hasType_array : HasType "array" v ↔ ∃ items, v = .list items := Iff.rfl

@[simp] theorem hasType_string : HasType "string" v ↔ ∃ s, v = .text s := Iff.rfl

@[simp] theorem hasType_boolean : HasType "boolean" v ↔ ∃ b, v = .bool b := Iff.rfl

@[simp] theorem hasType_number : HasType "number" v ↔ ∃ q, v = .quantity q := Iff.rfl

@[simp] theorem hasType_integer : HasType "integer" v ↔ ∃ q, v = .quantity q ∧ ∃ n : Int, q.value = n := Iff.rfl

@[simp] theorem valid_record_iff {keywords : List (String × Value)} :
    Valid (.record keywords) v ↔ AllHold (keywords.map fun (key, k) => (.text key, k))
      (Condition (keywords.map fun (key, k) => (.text key, k)) v) v := by
  rw [Value.record, Valid]

@[simp] theorem allHold_nil : AllHold [] condition v := by
  rw [AllHold]
  trivial

/-- The other lemmas on keywords go through this one. -/
theorem allHold_cons {key : String} {k : Value} : AllHold ((.text key, k) :: rest) condition v ↔
    Asserts key k v ∧ (key = "properties" → Properties k v) ∧
      (key = "items" → ∀ items, v = .list items → ∀ item ∈ items, Valid k item) ∧ (key = "allOf" → All k v) ∧
      (key = "then" → condition → Valid k v) ∧ AllHold rest condition v := by
  rw [AllHold]
  simp [and_assoc]

/-- A keyword without a schema in it. -/
theorem allHold_asserts {key : String} {k : Value} (h : key ∉ ["properties", "items", "allOf", "then"]) :
    AllHold ((.text key, k) :: rest) condition v ↔ Asserts key k v ∧ AllHold rest condition v := by
  simp only [List.mem_cons, List.not_mem_nil, or_false, not_or] at h
  simp [allHold_cons, h]

@[simp] theorem allHold_type {type : String} :
    AllHold ((.text "type", .text type) :: rest) condition v ↔ HasType type v ∧ AllHold rest condition v :=
  allHold_asserts (by decide)

@[simp] theorem allHold_required {names : List String} :
    AllHold ((.text "required", .texts names) :: rest) condition v ↔
      (v.isObject = true → ∀ name ∈ names, (v.get? name).isSome = true) ∧ AllHold rest condition v := by
  refine (allHold_asserts (by decide)).trans (and_congr_left fun _ => imp_congr_right fun _ => forall_congr' fun name => ?_)
  simp

@[simp] theorem allHold_enum {members : List String} :
    AllHold ((.text "enum", .texts members) :: rest) condition v ↔
      (∃ s ∈ members, .text s = v) ∧ AllHold rest condition v :=
  (allHold_asserts (by decide)).trans (and_congr_left fun _ => List.mem_map)

@[simp] theorem allHold_minLength {n : Int} :
    AllHold ((.text "minLength", .int n) :: rest) condition v ↔
      (∀ s, v = .text s → n ≤ s.length) ∧ AllHold rest condition v :=
  allHold_asserts (by decide)

@[simp] theorem allHold_minItems {n : Int} :
    AllHold ((.text "minItems", .int n) :: rest) condition v ↔
      (∀ items, v = .list items → n ≤ items.length) ∧ AllHold rest condition v :=
  allHold_asserts (by decide)

theorem forall_int_eq_quantity {n : Int} (p : ℚ → Prop) : (∀ a, Value.int n = .quantity a → p a.value) ↔ p n :=
  ⟨fun h => h (.whole n) rfl, fun h _ ha => Value.quantity_inj (a := .whole n) ha ▸ h⟩

@[simp] theorem allHold_minimum {n : Int} :
    AllHold ((.text "minimum", .int n) :: rest) condition v ↔
      (∀ q, v = .quantity q → (n : ℚ) ≤ q.value) ∧ AllHold rest condition v :=
  (allHold_asserts (by decide)).trans
    (and_congr_left fun _ => forall_int_eq_quantity fun a => ∀ q, v = .quantity q → a ≤ q.value)

@[simp] theorem allHold_exclusiveMinimum {n : Int} :
    AllHold ((.text "exclusiveMinimum", .int n) :: rest) condition v ↔
      (∀ q, v = .quantity q → (n : ℚ) < q.value) ∧ AllHold rest condition v :=
  (allHold_asserts (by decide)).trans
    (and_congr_left fun _ => forall_int_eq_quantity fun a => ∀ q, v = .quantity q → a < q.value)

theorem propertiesHold_iff {properties : List (String × Value)} :
    PropertiesHold (properties.map fun (key, k) => (.text key, k)) v ↔
      ∀ p ∈ properties, AtKey (Valid p.2) v p.1 := by
  induction properties with
  | nil => simp [PropertiesHold]
  | cons p rest ih =>
    rw [List.map_cons, PropertiesHold, ih, List.forall_mem_cons]
    simp

@[simp] theorem allHold_properties {properties : List (String × Value)} :
    AllHold ((.text "properties", .record properties) :: rest) condition v ↔
      (∀ p ∈ properties, AtKey (Valid p.2) v p.1) ∧ AllHold rest condition v := by
  rw [← propertiesHold_iff]
  have hasserts : Asserts "properties" (.record properties) v := trivial
  rw [allHold_cons, and_iff_right hasserts]
  simp [Value.record, Properties]

@[simp] theorem allHold_items {k : Value} :
    AllHold ((.text "items", k) :: rest) condition v ↔
      (∀ items, v = .list items → ∀ item ∈ items, Valid k item) ∧ AllHold rest condition v := by
  have hasserts : Asserts "items" k v := trivial
  simp [allHold_cons, hasserts]

theorem allValid_iff {schemas : List Value} : AllValid schemas v ↔ ∀ k ∈ schemas, Valid k v := by
  induction schemas with
  | nil => simp [AllValid]
  | cons k rest ih => rw [AllValid, ih, List.forall_mem_cons]

@[simp] theorem allHold_allOf {schemas : List Value} :
    AllHold ((.text "allOf", .list schemas) :: rest) condition v ↔
      (∀ k ∈ schemas, Valid k v) ∧ AllHold rest condition v := by
  rw [← allValid_iff]
  have hasserts : Asserts "allOf" (.list schemas) v := trivial
  simp [allHold_cons, hasserts, All]

@[simp] theorem allHold_then {k : Value} :
    AllHold ((.text "then", k) :: rest) condition v ↔ (condition → Valid k v) ∧ AllHold rest condition v := by
  have hasserts : Asserts "then" k v := trivial
  simp [allHold_cons, hasserts]

/-- A keyword that none of the others is asks for nothing where it stands. -/
@[simp] theorem allHold_note {key : String} {k : Value} (h : key ∉ ["type", "required", "enum", "minLength", "minItems",
    "minimum", "exclusiveMinimum", "properties", "items", "allOf", "then"]) :
    AllHold ((.text key, k) :: rest) condition v ↔ AllHold rest condition v := by
  simp only [List.mem_cons, List.not_mem_nil, or_false, not_or] at h
  have hasserts : Asserts key k v := by
    unfold Asserts
    split <;> simp_all
  simp [allHold_cons, hasserts, h]

@[simp] theorem condition_cons {key : String} {k : Value} :
    Condition ((.text key, k) :: rest) v ↔ (key = "if" ∧ Valid k v) ∨ Condition rest v := by
  simp [Condition]

@[simp] theorem condition_nil : ¬Condition [] v := by
  simp [Condition]

end WebForm.Schema
