/-
Reading YAML text as a value. The pairs of a mapping under the key `<<` are merged: they come before
the mapping's own pairs and give way to them.

The library that reads YAML is a parameter of the program (`Platform.yaml`), and this reader only what the
program is run with. It takes documents as people write them by hand: it has no binary data, sets, ordered
maps or nodes inside themselves, and no bound on depth or digits. Nothing that is proved of all texts is
about this reader.
-/
import WebForm.Yaml.Node

namespace WebForm.Yaml

/-- The key that a node gives: the value of a scalar. A lone equals sign is a text as a key. -/
def Node.key : Node → Except Failure Scalar
  | .scalar .default text => .ok (.text text)
  | .scalar tag text => tag.valueOf text
  | _ => .error .malformed

mutual

def Node.value : Node → Except Failure Value
  | .scalar tag text => (tag.valueOf text).map .scalar
  | .sequence tag items => do
    if tag ≠ .sequence then throw .malformed
    return .list (← valuesOf items)
  | .mapping tag pairs => do
    if tag ≠ .mapping then throw .malformed
    return .object (Entries.ofPairs (← entriesOf pairs))

def valuesOf : List Node → Except Failure (List Value)
  | [] => .ok []
  | n :: rest => do
    let v ← n.value
    return v :: (← valuesOf rest)

/-- The entries of a mapping, merged ones first. -/
def entriesOf (pairs : List (Node × Node)) : Except Failure (List (Scalar × Value)) := do
  let merged ← mergedOf pairs
  return merged ++ (← ownOf pairs)

/-- The entries that a mapping merges. -/
def mergedOf : List (Node × Node) → Except Failure (List (Scalar × Value))
  | [] => .ok []
  | (.scalar .merge _, n) :: rest => do
    let here ← partsOf n
    return here ++ (← mergedOf rest)
  | _ :: rest => mergedOf rest

/-- The entries that a node gives to a mapping that merges it: those of a mapping, or of the mappings
of a sequence, of which the first count most. -/
def partsOf : Node → Except Failure (List (Scalar × Value))
  | .mapping _ pairs => entriesOf pairs
  | .sequence _ items => do return (← itemPartsOf items).reverse.flatten
  | .scalar _ _ => .error .malformed

/-- The entries of the mappings of a sequence. -/
def itemPartsOf : List Node → Except Failure (List (List (Scalar × Value)))
  | [] => .ok []
  | .mapping _ pairs :: rest => do
    let here ← entriesOf pairs
    return here :: (← itemPartsOf rest)
  | _ :: _ => .error .malformed

/-- The entries of a mapping's own pairs. -/
def ownOf : List (Node × Node) → Except Failure (List (Scalar × Value))
  | [] => .ok []
  | (.scalar .merge _, _) :: rest => ownOf rest
  | (k, n) :: rest => do
    let key ← k.key
    let v ← n.value
    return (key, v) :: (← ownOf rest)

end

/-- The value of a text. -/
def read (text : String) : Except Failure Value := do
  let ts ← tokens text.toList
  (← Node.ofTokens ts).value

end WebForm.Yaml
