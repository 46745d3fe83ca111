import RangeCatalog.CommandLine.Run
import Std.Time.DateTime.Timestamp

/-! # The program

Runs the command line on the files that it names. They are read beforehand, and those that have changed
are written afterwards. No server is within reach, so that every request stays without an answer.
-/

namespace RangeCatalog.Main

/-- The tree with a file as it is on disk. A file that cannot be read is left out. -/
def withFile (tree : Tree) (path : Path) : IO Tree := do
  try
    let content ← IO.FS.readBinFile path.text
    return tree.put path content.toList
  catch _ => return tree

/-- The tree with the files that an invocation reads, and the files that it may change. -/
def load (arguments : List String) : IO (Tree × List Path) := do
  match CommandLine.read arguments with
  | .error _ => return ({}, [])
  | .ok invocation =>
    let tree ← withFile {} invocation.settings
    match invocation.command.target?, (Settings.load invocation.settings tree).1 with
    | some target, .ok settings =>
      let output := target.output.getD settings.output
      return (← withFile tree output, [output, output.lockFile])
    | _, _ => return (tree, [])

/-- Writes a file that a run has changed. -/
def store (before after : Tree) (path : Path) : IO Unit := do
  if let some content := after.content? path then
    if before.content? path ≠ some content then
      if let some directory := path.directory? then IO.FS.createDirAll directory.text
      IO.FS.writeBinFile path.text content.toByteArray

def now : IO Instant := do
  return .ofSeconds (← Std.Time.Timestamp.now).toSecondsSinceUnixEpoch.val

end RangeCatalog.Main

open RangeCatalog in
/-- Runs the program, prints what it has to say, and ends with its code. -/
def main (arguments : List String) : IO UInt32 := do
  let (tree, paths) ← Main.load arguments
  let surroundings : Surroundings := { network := fun _ => none, now := ← Main.now }
  let (ending, after) := CommandLine.run arguments surroundings tree
  for path in paths do Main.store tree after path
  (← IO.getStdout).putStr ending.output
  (← IO.getStderr).putStr ending.remarks
  return ending.code.toUInt32
