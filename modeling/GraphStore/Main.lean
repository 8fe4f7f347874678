import GraphStore.CommandLine.Run

/-!
# The command

Reads the files that the call names, answers the call and prints the answer.  The command has no
connection to a server.
-/

open GraphStore

/-- The bytes of the files that can be read. -/
def readFiles (paths : List String) : IO (List (String × List UInt8)) :=
  paths.filterMapM fun (path : String) => do
    try
      let bytes ← IO.FS.readBinFile path
      return some (path, bytes.toList)
    catch _ => return none

/-- The files that a call names. -/
def pathsOf (args : List String) : List String :=
  match Invocation.ofArguments args with
  | .ok invocation => invocation.paths
  | .error _ => []

def main (args : List String) : IO UInt32 := do
  let files ← readFiles (pathsOf args)
  let ending := CommandLine.run (fun path => (files.find? (·.1 == path)).map (·.2)) .offline args
  for line in ending.output do
    IO.println line
  for line in ending.summary do
    IO.eprintln line
  return ending.code.toUInt32
