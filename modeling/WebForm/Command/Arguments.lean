/-
The words of a command line as options and arguments. Long options take a value after an equals sign
or as the next word; short ones may stand together behind one hyphen; after two hyphens on their own
every word is an argument.

The library that reads command lines is a parameter of the commands (`Libraries.invocation`); this is what
the program is run with.
-/

namespace WebForm.Command

/-! ## Switches -/

/-- A switch that a command knows: its long name, its short one, and whether it takes a value. -/
structure Switch where
  long : String
  short : Option Char
  takesValue : Bool

/-- The switch that asks for the help page. -/
def helpSwitch : Switch := ⟨"help", none, false⟩

/-- What was found on a command line: switches with their values, in order, and arguments. -/
structure Words where
  switches : List (String × String)
  arguments : List String

namespace Words

def has (w : Words) (long : String) : Bool := w.switches.any (·.1 == long)

/-- The value of a switch, the last one if it was given more than once. -/
def value? (w : Words) (long : String) : Option String := (w.switches.reverse.find? (·.1 == long)).map (·.2)

/-- Words with one more switch in front. -/
def withSwitch (long value : String) (w : Words) : Words := { w with switches := (long, value) :: w.switches }

/-- Words with one more argument in front. -/
def withArgument (argument : String) (w : Words) : Words := { w with arguments := argument :: w.arguments }

end Words

/-! ## Reading -/

/-- The short switches behind one hyphen: those found, and the one that still wants a value as the next
word. None if there is a letter that no switch has. -/
def readShort? (known : List Switch) : List Char → Option (List (String × String) × Option String)
  | [] => some ([], none)
  | c :: rest =>
    match known.find? (·.short == some c) with
    | none => none
    | some s =>
      if s.takesValue then
        if rest.isEmpty then some ([], some s.long) else some ([(s.long, String.ofList rest)], none)
      else (readShort? known rest).map fun (found, pending) => ((s.long, "") :: found, pending)

/-- A long switch: its name, and its value if one follows an equals sign. -/
def splitLong (cs : List Char) : String × Option String :=
  match cs.dropWhile (· ≠ '=') with
  | [] => (String.ofList cs, none)
  | _ :: value => (String.ofList (cs.takeWhile (· ≠ '=')), some (String.ofList value))

/-- Reads the words of a command. Where `interspersed` does not hold, the first argument ends the
switches. None if a switch is not known, lacks its value or has one it does not take. -/
def readWords? (known : List Switch) (interspersed : Bool) : List String → Option Words
  | [] => some ⟨[], []⟩
  | word :: rest =>
    match word.toList with
    | ['-', '-'] => some ⟨[], rest⟩
    | '-' :: '-' :: name =>
      let (name, value) := splitLong name
      match known.find? (·.long == name) with
      | none => none
      | some s =>
        match s.takesValue, value, rest with
        | false, none, rest => (readWords? known interspersed rest).map (·.withSwitch name "")
        | false, some _, _ => none
        | true, some v, rest => (readWords? known interspersed rest).map (·.withSwitch name v)
        | true, none, v :: rest => (readWords? known interspersed rest).map (·.withSwitch name v)
        | true, none, [] => none
    | '-' :: c :: letters =>
      match readShort? known (c :: letters) with
      | none => none
      | some (found, none) =>
        (readWords? known interspersed rest).map fun w => { w with switches := found ++ w.switches }
      | some (found, some long) =>
        match rest with
        | v :: rest =>
          (readWords? known interspersed rest).map fun w => { w with switches := found ++ (long, v) :: w.switches }
        | [] => none
    | _ =>
      if interspersed then (readWords? known interspersed rest).map (·.withArgument word)
      else some ⟨[], word :: rest⟩

end WebForm.Command
