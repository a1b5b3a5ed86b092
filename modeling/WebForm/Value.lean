/-
Dynamic values: what a document or a submission is before it is checked, and what data formats read
and write. Objects keep their entries in the order in which their keys first appeared.
-/
import WebForm.Number.Quantity

namespace WebForm

/-! ## Values -/

/-- A value without parts. Every kind of scalar may also be the key of an object entry. -/
inductive Scalar where
  | null
  | bool (b : Bool)
  | int (n : Int)
  | double (x : Double)
  | text (s : String)
  | date (year month day : Nat)
  | instant (written : String)
deriving DecidableEq

/-- A dynamic value. -/
inductive Value where
  | scalar (s : Scalar)
  | list (items : List Value)
  | object (entries : List (Scalar × Value))

namespace Value

@[match_pattern] abbrev null : Value := .scalar .null
@[match_pattern] abbrev bool (b : Bool) : Value := .scalar (.bool b)
@[match_pattern] abbrev int (n : Int) : Value := .scalar (.int n)
@[match_pattern] abbrev double (x : Double) : Value := .scalar (.double x)
@[match_pattern] abbrev text (s : String) : Value := .scalar (.text s)

instance : Inhabited Value := ⟨.null⟩

end Value

/-- The entries of an object, in order. -/
abbrev Entries := List (Scalar × Value)

/-! ## Dates -/

/-- A natural with leading zeros up to a width. -/
def padded (width n : Nat) : String :=
  let s := toString n
  String.ofList (List.replicate (width - s.length) '0') ++ s

def isoDate (year month day : Nat) : String := padded 4 year ++ "-" ++ padded 2 month ++ "-" ++ padded 2 day

/-! ## Keys and entries -/

/-- The number that a scalar counts as when it is a key: truth values count as zero and one. -/
def Scalar.numeric? : Scalar → Option Quantity
  | .bool b => some (.whole (if b then 1 else 0))
  | .int n => some (.whole n)
  | .double (.finite x) => some (.binary x)
  | _ => none

/-- Whether two keys name the same entry: they are equal, or they are equal numbers. -/
def Scalar.sameKey (a b : Scalar) : Bool :=
  match a.numeric?, b.numeric? with
  | some m, some n => m.le n && n.le m
  | _, _ => a == b && a != .double .nan

namespace Entries

/-- Sets the value of a key: in place if the key is there, else at the end. -/
def insert (key : Scalar) (value : Value) : Entries → Entries
  | [] => [(key, value)]
  | (k, v) :: rest => if k.sameKey key then (k, value) :: rest else (k, v) :: insert key value rest

/-- The entries written one after another; a repeated key keeps its first place and its last value. -/
def ofPairs (pairs : List (Scalar × Value)) : Entries :=
  pairs.foldl (fun entries (key, value) => insert key value entries) []

/-- The value at a text key. -/
def find? (entries : Entries) (key : String) : Option Value :=
  (List.find? (fun e => e.1 == .text key) entries).map (·.2)

end Entries

namespace Value

/-- The value at a text key of an object; what is no object has none. -/
def get? : Value → String → Option Value
  | .object entries, key => Entries.find? entries key
  | _, _ => none

/-- The value at a text key, where a missing one counts as null. -/
def get (v : Value) (key : String) : Value := (v.get? key).getD .null

/-- An object with text keys. -/
def record (entries : List (String × Value)) : Value := .object (entries.map fun (k, v) => (.text k, v))

def texts (items : List String) : Value := .list (items.map .text)

/-- A finite number as a value. -/
def quantity : Quantity → Value
  | .whole n => .int n
  | .binary x => .double (.finite x)

/-- A value as a finite number; truth values are no numbers. -/
def quantity? : Value → Option Quantity
  | .int n => some (.whole n)
  | .double (.finite x) => some (.binary x)
  | _ => none

def isNull : Value → Bool
  | .null => true
  | _ => false

/-- Whether a value is an object. -/
def isObject : Value → Bool
  | .object _ => true
  | _ => false

/-- Whether a value is a text other than the empty one. -/
def isNonEmptyText : Value → Bool
  | .text s => s ≠ ""
  | _ => false

end Value

end WebForm
