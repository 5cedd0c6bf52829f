import RelayPool.CommandLine.Run
import Std.Time.Zoned

/-!
# The program

Reads the files that a command line names, runs it and prints what the run
says.
-/

namespace RelayPool

/-- The tree with a file above a path, if nothing is known there. -/
def fetchAbove (tree : FileTree) (path : String) : FileTree :=
  let above := String.intercalate "/" (FileTree.components path).dropLast
  match tree.find above with
  | .ok _ => tree
  | .error _ => tree.put above (.file [])

/-- The tree with what the file system has at a path, if it has anything.  A
path that leads through a file cannot be opened, which the error says by naming
it; a directory can be opened and cannot be read. -/
def fetch (tree : FileTree) (path : String) : IO FileTree := do
  try
    let bytes ← IO.FS.readBinFile path
    return tree.put path (.file bytes.toList)
  catch error =>
    match error with
    | .inappropriateType (some _) _ _ => return fetchAbove tree path
    | .inappropriateType none _ _ => return tree.put path .directory
    | _ => return tree

/-- The files that a request reads: the configuration and the node list that
it names. -/
def fetchFor (request : CommandLine.Request) : IO FileTree := do
  let empty := FileTree.emptyAt (← IO.currentDir).toString
  match request with
  | .run _ path _ _ => do
      let tree ← fetch empty (tidyPath path)
      match (Config.load tree path).outcome with
      | .error (.resolve (.nodeList listed _)) => fetch tree listed
      | _ => return tree
  | _ => return empty

/-- The time of day in hours, minutes and seconds. -/
def clockText : IO String := do
  let time ← Std.Time.PlainTime.now
  return paddedText 2 time.hour.val.toNat ++ ":" ++
    paddedText 2 time.minute.val.toNat ++ ":" ++ paddedText 2 time.second.val.toNat

/-- Runs the program on the words of a command line and returns its exit code.
A run that is broken off ends with the sentence on the reason. -/
def program (words : List String) : IO UInt32 := do
  let request := CommandLine.Request.ofWords words
  let outcome := CommandLine.run (← fetchFor request) request
  (← IO.getStdout).putStr outcome.output
  (← IO.getStderr).putStr (outcome.errorText (← clockText))
  match outcome.exit with
  | .ok code => return UInt32.ofNat code
  | .error escape => do
      (← IO.getStderr).putStrLn escape.message
      return 1

end RelayPool

def main (words : List String) : IO UInt32 :=
  RelayPool.program words
