import TexTranscript.Command.Ending

/-!
# The program

The command line is read and carried out on the files that there are, and what is to be
seen of it is printed: messages on the standard output, mark updates and complaints on the
standard error, one line each.
-/

namespace TexTranscript

/-- The answer of an action, if it does not fail. -/
def attempt? {α : Type} (action : IO α) : IO (Option α) := do
  try return some (← action) catch _ => return none

/-- A text as a string. -/
def string (t : Text) : String := String.ofList t

/-- The files that there are. -/
def diskFiles : Files IO where
  content path := return (← attempt? (IO.FS.readBinFile (string path))).map (·.toList)
  transcript path := do
    match ← attempt? (IO.FS.Handle.mk (string path) .read) with
    | none => return none
    | some handle => return some ((← attempt? handle.readBinToEnd).map (·.toList) |>.getD [])
  standardInput := do
    return ((← attempt? ((← IO.getStdin).readBinToEnd)).map (·.toList)).getD []
  directory := return (← attempt? IO.currentDir).map (·.toString.toList)
  save path bytes := do
    let above := FilePath.above path
    discard <| attempt? do
      if above ≠ [] then IO.FS.createDirAll (string above)
      IO.FS.writeBinFile (string path) (ByteArray.mk bytes.toArray)

/-- Prints what is seen of the program. -/
def Ending.print (e : Ending) : IO Unit := do
  for update in e.updates do
    IO.eprintln (string update.toJson.compact)
  if let some complaint := e.complaint? then
    IO.eprintln (string complaint)
  IO.print (string e.output)

end TexTranscript

/-- Runs the program. -/
def main (args : List String) : IO UInt32 := do
  let request := TexTranscript.Request.ofArguments (args.map String.toList)
  let ending ← request.carryOut TexTranscript.diskFiles
  ending.print
  return ending.exitCode
