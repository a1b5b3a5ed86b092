/-
The program: it reads the files that its command line names, runs the command over them, prints what the
run printed and writes the file that it wrote.
-/
import WebForm.Command.Described

namespace WebForm

attribute [local instance] CharacterNames.ascii

/-- What an open handle leads to: a directory can be opened but not read. -/
def readHandle (handle : IO.FS.Handle) : IO Node := do
  try return .file (← handle.readBinToEnd).toList
  catch _ => return .directory

/-- What stands at a path on the disk. -/
def readNode (path : String) : IO Files := do
  try
    let handle ← IO.FS.Handle.mk path .read
    return [(path, ← readHandle handle)]
  catch _ => return []

/-- What stands at the paths that words name, and at those of the directories that hold them. -/
def readNodes (words : List String) : IO Files := do
  let paths := words.filter (· ≠ "")
  let parents := paths.map fun word =>
    let p := Path.ofText word
    { p with names := p.names.dropLast : Path }.text
  return (← (paths ++ parents.eraseDups).mapM readNode).flatten

/-- Runs the program on the words of a command line. -/
def runProgram (words : List String) : IO UInt32 := do
  let result := Command.run .described (← readNodes words) words
  IO.print result.printed
  if let some (path, text) := result.written then IO.FS.writeFile path text
  if let some c := result.crash then IO.eprintln c.message
  return UInt32.ofNat result.code

end WebForm

def main (words : List String) : IO UInt32 := WebForm.runProgram words
