import Playback.CommandLine.Command

/-!
This module contains the program that is run from the command line. It reads texts and prints them;
it has no judge, no commands and no sandbox at hand, so it can show what would be run but runs nothing.
-/

namespace Playback

def readNamed (name : String) : IO (List (String × String)) := do
  try
    return [(name, ← IO.FS.readFile name)]
  catch _ =>
    return []

def readStandardInput : IO String := do
  (← IO.getStdin).readToEnd

/--
Print what the command ends with. The result is the exit code.
-/
def report : CommandLine.Ending → IO UInt32
  | .usage usage => return UInt32.ofNat usage.exitCode.toNat
  | .missingFile name => do
    IO.eprintln (CommandLine.missingFileMessage name)
    return 1
  | .mishap mishap => do
    IO.eprintln (mishap.message?.getD "")
    return 1
  | .done exitCode stdout stderr => do
    IO.print stdout
    IO.eprint stderr
    return UInt32.ofNat exitCode.toNat

end Playback

open Playback in
/--
Trace a program file, or show the program that would be run in order to trace it.
-/
def main (arguments : List String) : IO UInt32 := do
  match CommandLine.Options.read arguments with
  | .error usage => report (.usage usage)
  | .ok options =>
    let names := options.file.toList ++ options.stdinFile.toList
    let files := (← names.mapM readNamed).flatten
    let standardInput ← if options.file == some "-" then readStandardInput else pure ""
    let settings : Settings := { monitor := "playback.monitor" }
    let (ending, _) :=
      CommandLine.perform (fun name => files.lookup name) standardInput .idle settings options
    report ending
