import Playback.Fault
import Playback.Json.Display
import Playback.Json.Lookup
import Playback.Text.Numeral
import Playback.Text.ShellWords

/-!
This module contains what is handed to a judge and what comes back from it.
-/

namespace Playback.Json

/--
Whether a value is a number that equals a whole number. True and false are one and zero.
-/
def equalsInt (json : Json) (n : Int) : Bool :=
  match json with
  | .bool b => (if b then 1 else 0) == n
  | .int m => m == n
  | .float x => x.toInt? == some n
  | _ => false

end Playback.Json

namespace Playback.Judge

structure Submission where
  source : String
  language : Language
  stdin : String := ""
  compilerOptions : Option String := none
deriving DecidableEq

/--
The language that a name stands for. A judge takes everything it does not know for Python.
-/
def languageOfName (name : String) : Language :=
  (Language.ofName? name).getD .python

/--
What a judge says about a program. A service may put values of any kind into the fields.
-/
structure Verdict where
  stdout : Json := .str ""
  stderr : Json := .str ""
  compileOutput : Json := .str ""
  status : Json := .str "error"
  statusId : Json := .int 0
  /-- The time in milliseconds. -/
  time : Json := .null
  memory : Json := .null
deriving DecidableEq

/--
The numbers that services give to the states of a program.
-/
def inQueueId : Int := 1
@[inherit_doc inQueueId] def processingId : Int := 2
@[inherit_doc inQueueId] def acceptedId : Int := 3
@[inherit_doc inQueueId] def timeLimitId : Int := 5
@[inherit_doc inQueueId] def compileErrorId : Int := 6
@[inherit_doc inQueueId] def runtimeErrorId : Int := 11

namespace Verdict

def isAccepted (verdict : Verdict) : Bool :=
  verdict.statusId.equalsInt acceptedId || verdict.status = .str "Accepted"

def isTimedOut (verdict : Verdict) : Bool :=
  verdict.status = .str "timeout" || verdict.statusId.equalsInt timeLimitId

/--
What the compiler said, or else what the program said on its error output, or else the status of a
program that was not accepted. There is no text if one of these has to be looked at and is none.
-/
def errorText? (verdict : Verdict) : Option String := do
  let compiler := Text.trimmed (← verdict.compileOutput.asText?)
  if compiler != "" then return compiler
  let program := Text.trimmed (← verdict.stderr.asText?)
  if program != "" then return program
  return if verdict.isAccepted then "" else "Status: " ++ verdict.status.display

/--
A verdict by the names of its fields. Those that are not given are the usual ones.
-/
def ofJson (json : Json) : Verdict :=
  let usual : Verdict := {}
  { stdout := json.value "stdout" usual.stdout
    stderr := json.value "stderr" usual.stderr
    compileOutput := json.value "compile_output" usual.compileOutput
    status := json.value "status" usual.status
    statusId := json.value "status_id" usual.statusId
    time := json.value "time_ms" usual.time
    memory := json.value "memory_kb" usual.memory }

def toFields (verdict : Verdict) (errorText : String) : Fields :=
  [("stdout", verdict.stdout), ("stderr", verdict.stderr),
   ("compile_output", verdict.compileOutput), ("status", verdict.status),
   ("status_id", verdict.statusId), ("time_ms", verdict.time), ("memory_kb", verdict.memory),
   ("accepted", .bool verdict.isAccepted), ("timed_out", .bool verdict.isTimedOut),
   ("error_text", .str errorText)]

def unavailable (message : String) : Verdict :=
  { stderr := .str message }

def late : Verdict :=
  { stderr := .str Fault.timeoutMessage, status := .str "timeout" }

end Verdict

inductive Breakdown where
  | malformedReply
  | timeNumeral (fault : Text.NumeralFault)
  | timeKind (time : Json)
  | timeTooLarge
  | badAddress (message : String)
  | compilerOptions (fault : Text.ShellFault)
  /-- Nothing was decided within the number of polls looked at. -/
  | undecided
deriving DecidableEq

def Breakdown.message? : Breakdown → Option String
  | .malformedReply | .undecided => none
  | .timeNumeral fault => some fault.message
  | .timeKind time =>
    some s!"float() argument must be a string or a real number, not '{time.typeName}'"
  | .timeTooLarge => some "int too large to convert to float"
  | .badAddress message => some message
  | .compilerOptions fault => some fault.message

end Playback.Judge

namespace Playback

structure Judge where
  submit : Judge.Submission → Except Judge.Breakdown Judge.Verdict

end Playback
