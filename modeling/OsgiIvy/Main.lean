import OsgiIvy.CommandLine.Run
import Std.Time.DateTime

/-!
# The program

Reads the files that the arguments name, runs the command and writes what comes of it.
-/

namespace OsgiIvy.CommandLine

open OsgiIvy.Time

/-- What can be read at a path; directories and files that cannot be read count as absent. -/
def readEntry (path : String) : IO Entry := do
  try
    let content ← IO.FS.readBinFile path
    pure (.file content.toList)
  catch _ => pure .absent

def currentMoment : IO Moment := do
  let now ← Std.Time.Timestamp.now
  pure (.sinceEpoch (now.toNanosecondsSinceUnixEpoch.val / 1000).toNat)

def writeOutput (path : Path) (text : String) : IO Unit := do
  IO.FS.createDirAll path.parent.text
  IO.FS.writeFile path.text text

/-- Writes the file of an outcome, then shows its lines. -/
def finish (o : Outcome) : IO UInt32 := do
  match o.ending with
  | .usage fault =>
    IO.eprintln fault.message
    pure 2
  | .failure code message =>
    IO.eprintln message
    pure code.toUInt32
  | .breakdown cause =>
    IO.eprintln cause.message
    pure 1
  | .success =>
    try
      if let some (path, text) := o.output then writeOutput path text
      for line in o.lines do IO.println line.draw
      pure 0
    catch error =>
      IO.eprintln error.toString
      pure 1

end OsgiIvy.CommandLine

open OsgiIvy OsgiIvy.CommandLine in
def main (args : List String) : IO UInt32 := do
  let inputs := match Command.ofArgs args with
    | .ok c => c.paths.map PathArgument.path
    | .error _ => []
  let entries ← inputs.mapM fun path => do pure (path, ← readEntry path)
  let o := run (← currentMoment) (fun path => (entries.lookup path).getD .absent) args
  for record in o.log do IO.eprintln record.text
  finish o
