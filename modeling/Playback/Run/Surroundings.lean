import Playback.Instrument
import Playback.Judge.Verdict
import Playback.Process
import Playback.Screening
import Playback.Trace.Timeline

/-!
This module contains what a run is told and what it needs from outside: its settings, a judge, the
commands of the host, a sandbox for scripts and a grammar.
-/

namespace Playback

/--
The limits of a run and the commands that it uses. Times are in seconds, the memory is in bytes.
-/
structure Settings where
  maxSteps : Int := defaultMaxSteps
  pythonTimeout : Number := .float (.ofInt 8)
  sandboxTimeout : Number := .float (.ofInt 2)
  sandboxMemory : Int := 64 * 1024 * 1024
  python : String := "/usr/bin/python3"
  monitor : String
  maxSourceLength : Int := Screening.defaultMaxLength
  screens : Bool := true
deriving DecidableEq

/--
Settings by their names. Those that are not given stay as they are.
-/
def Settings.withJson (usual : Settings) (json : Json) : Settings :=
  { usual with
    maxSteps := json.integer "max_steps" usual.maxSteps
    pythonTimeout := json.number "python_timeout_seconds" usual.pythonTimeout
    sandboxTimeout := json.number "sandbox_timeout_seconds" usual.sandboxTimeout
    sandboxMemory := json.integer "sandbox_memory_limit" usual.sandboxMemory
    python := json.text "python_executable" usual.python
    maxSourceLength := json.integer "max_source_length" usual.maxSourceLength
    screens := json.flag "screen_source" usual.screens }

/--
An engine that runs a prelude and then a script, both of which depend on nothing else.
-/
structure Sandbox where
  failure? : (prelude script : String) → Option String
  /-- The captured steps as the engine hands them over afterwards, or the message of an error. -/
  captured : (prelude script : String) → Except String Json

structure Surroundings where
  /-- The judge that is used where a request brings none. -/
  judge : Judge
  perform : Command → ProcessOutcome
  sandbox : Sandbox
  /-- What the grammar of scripts makes of a program. -/
  parse : String → Script.SyntaxTree

def Surroundings.idle : Surroundings :=
  { judge := { submit := fun _ => .ok (.unavailable "There is no judge") }
    perform := fun _ => .unstartable "There is nothing to run a command with"
    sandbox :=
      { failure? := fun _ _ => none
        captured := fun _ _ => .error "there is no sandbox" }
    parse := fun _ => { Script.SyntaxTree.empty with hasError := true } }

/--
What is seen of a run from outside, apart from its answer.
-/
inductive Event where
  | usualJudge
  | submitted (submission : Judge.Submission)
  | performed (command : Command)
  | memoryLimited (bytes : Int)
  | timeLimited (seconds : Number)
  | prepared (prelude : String)
  | evaluated (code : String)
  /-- Something that only the strategy of a request knows about. -/
  | reported (note : Json)
deriving DecidableEq

/--
Ways in which a request gets no answer at all.
-/
inductive Mishap where
  | unsupportedLanguage (name : String)
  | judgeRequired (language : Language)
  | judge (breakdown : Judge.Breakdown)
  | judgeUnavailable (message : String)
  | unstartable (message : String)
  | replay (fault : ReplayFault)
  | notTrace (typeName : String)
  /-- A value is of a kind that has no fields or is no text. -/
  | wrongKind
  /-- The last of the captured steps is looked for where there are only fields. -/
  | noLast
  /-- The last of the captured steps is looked for where there is nothing in a row. -/
  | notIndexed (typeName : String)
  | outputKind
  | emptyStore
deriving DecidableEq

namespace Mishap

def message? : Mishap → Option String
  | unsupportedLanguage name => some (Fault.unsupportedLanguage name).message
  | judgeRequired language => some (language.name ++ " programs require a judge")
  | judge breakdown => breakdown.message?
  | judgeUnavailable message => some message
  | unstartable message => some message
  | replay fault => fault.message?
  | notTrace typeName => some s!"Unsupported raw trace input: {typeName}"
  | wrongKind => none
  | noLast => some "-1"
  | notIndexed typeName => some s!"'{typeName}' object is not subscriptable"
  | outputKind => none
  | emptyStore => some (Text.quoted "dictionary is empty")

/--
Whether a mishap lies in a value that cannot be used, be it in the request or in the trace.
-/
def isUnusableValue : Mishap → Bool
  | unsupportedLanguage _ | judgeRequired _ | replay _ | outputKind => true
  | judge (.timeNumeral _) | judge (.compilerOptions _) => true
  | _ => false

end Mishap

end Playback
