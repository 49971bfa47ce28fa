import ExtractionSchema.CommandLine.Run

/-!
# The program

Reads the files that the arguments mention, runs the command line, writes what it wrote, and exits
with its code.
-/

open ExtractionSchema

/-- Whether a folder of a name is there. -/
def isFolder (name : String) : IO Bool := do
  try
    discard (IO.FS.realPath (name ++ "/."))
    return true
  catch _ => return false

/-- What is there of the folders that a path leads through and of the file at its end. -/
def readMentioned (path : String) : IO Files := do
  let mut files : Files := []
  for name in (Path.read path).stations do
    if ← isFolder name then files := (name ++ "/", "") :: files
    else
      try files := (name, ← IO.FS.readFile name) :: files
      catch _ => pure ()
  return files

/-- Runs the command line. -/
def main (args : List String) : IO UInt32 := do
  let files := (← (CommandLine.mentionedFiles args).mapM readMentioned).flatten
  let outcome := CommandLine.run files args
  for (name, content) in outcome.files do
    if files.lookup name ≠ some content then
      IO.FS.writeFile name content
  IO.print outcome.output
  return outcome.exitCode.toUInt32
