import FormatConformance.CommandLine.Listing
import FormatConformance.CommandLine.Session
import FormatConformance.Engine.Program

/-!
The command line, over a listing of files that is read from standard input. Failures are shown on
standard error, and the files that were written are listed on standard output.
-/

namespace FormatConformance.CommandLine

partial def readToEnd (stream : IO.FS.Stream) (before : String) : IO String := do
  let line ← stream.getLine
  if line.isEmpty then return before
  readToEnd stream (before ++ line)

def environment : IO Environment := do
  let names := [Settings.standaloneVariable, Settings.deepVariable,
    Settings.checkReadersVariable] ++ SnapshotPolicy.allVariables
  names.filterMapM fun name => do
    return (← IO.getEnv name).map fun value => (name, value)

def runSession (args : List String) : IO UInt32 := do
  match Listing.read [] (← readToEnd (← IO.getStdin) "") with
  | .error error =>
    IO.eprintln error.message
    return 1
  | .ok tree =>
    let session := run Program.launch ⟨tree, []⟩ (← environment) args
    for report in session.shown do
      IO.eprintln report.render
    IO.eprintln session.ending.message
    IO.println (Listing.changed tree session.files).compact
    return UInt32.ofNat session.ending.status

end FormatConformance.CommandLine

def main (args : List String) : IO UInt32 := FormatConformance.CommandLine.runSession args
