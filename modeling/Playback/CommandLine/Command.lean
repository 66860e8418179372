import Playback.CommandLine.Options
import Playback.Run.Tracing

/-!
This module contains the logic of the command line: read a program, and print either its steps or the
program that would be run in order to trace it.
-/

namespace Playback.CommandLine

inductive Ending where
  | usage (usage : Usage)
  | missingFile (name : String)
  | mishap (mishap : Mishap)
  | done (exitCode : Int) (stdout stderr : String)
deriving DecidableEq

def missingFileMessage (name : String) : String :=
  "[Errno 2] No such file or directory: " ++ Text.quoted name

/--
The text of a file with line feeds for line ends.
-/
def fileText? (files : String → Option String) (name : String) : Option String :=
  (files name).map fun text => String.ofList (Text.unifyLineEnds text.toList)

/--
The language of a program: the one that is given, or else the one that its file stands for.
-/
def languageName? (options : Options) (file : String) : Option String :=
  match options.language.getD "" with
  | "" => (Language.ofPath? file).map Language.name
  | name => some name

def reported (mishap : Mishap) : Ending :=
  if mishap.isUnusableValue then .done 2 "" ((mishap.message?.getD "") ++ "\n") else .mishap mishap

def printInstrumented (around : Surroundings) (name source : String) : Ending :=
  match Language.ofAlias? name with
  | none => reported (.unsupportedLanguage name)
  | some language => .done 0 (instrument language source (around.parse source) ++ "\n") ""

def printTrace (around : Surroundings) (settings : Settings) (options : Options)
    (name source stdin : String) : Ending × List Event :=
  let settings := { settings with maxSteps := options.maxSteps }
  let (result, events) := trace around settings name source stdin
  match result with
  | .ok result =>
    (.done (if result.success then 0 else 1) (result.toText (some options.indent) ++ "\n") "",
      events)
  | .error mishap => (reported mishap, events)

def perform (files : String → Option String) (standardInput : String) (around : Surroundings)
    (settings : Settings) (options : Options) : Ending × List Event :=
  let file := options.file.getD ""
  -- A dash stands for the standard input, whose text is taken as it is.
  match if file == "-" then some standardInput else fileText? files file with
  | none => (.missingFile file, [])
  | some source =>
    match languageName? options file with
    | none => (.done 2 "" "Cannot infer language; pass --language\n", [])
    | some name =>
      let inputFile := options.stdinFile.getD ""
      match if inputFile == "" then some options.stdin else fileText? files inputFile with
      | none => (.missingFile inputFile, [])
      | some stdin =>
        if options.instrumentOnly then (printInstrumented around name source, [])
        else printTrace around settings options name source stdin

def run (files : String → Option String) (standardInput : String) (around : Surroundings)
    (settings : Settings) (arguments : List String) : Ending × List Event :=
  match Options.read arguments with
  | .error usage => (.usage usage, [])
  | .ok options => perform files standardInput around settings options

end Playback.CommandLine
