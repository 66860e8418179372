import Playback.Trace.Heap

/-!
This module contains the steps of a trace, their exported form, and the logic to read it back.
-/

namespace Playback

inductive RunStatus where
  | complete
  | waitingForInput
  | error
  | timeout
deriving DecidableEq, Inhabited

namespace RunStatus

def name : RunStatus → String
  | .complete => "complete"
  | .waitingForInput => "waiting_for_input"
  | .error => "error"
  | .timeout => "timeout"

def ofName? (s : String) : Option RunStatus :=
  [complete, waitingForInput, error, timeout].find? (·.name == s)

def ofJson? (json : Json) : Option RunStatus :=
  json.asText?.bind ofName?

end RunStatus

def globalFrameName : String := "Global frame"

structure Frame where
  name : String := globalFrameName
  bindings : Fields := []
deriving DecidableEq, Inhabited

namespace Frame

def toJson (frame : Frame) : Json :=
  .obj [("name", .str frame.name), ("variables", .obj frame.bindings)]

def ofJson? (json : Json) : Option Frame := do
  let fields ← json.asObject?
  let name ← fields.read? ["name"] globalFrameName Json.asText?
  let bindings ← fields.read? ["variables"] [] Json.asObject?
  return { name, bindings }

end Frame

/--
One moment of an execution. The executed lines ascend and hold every line reached so far, and the
output is everything that has been printed so far.
-/
structure Step where
  currentLine : Int := 1
  executedLines : List Int := []
  frames : List Frame := []
  objects : List HeapEntry := []
  output : String := ""
  error : Option String := none
deriving DecidableEq, Inhabited

namespace Step

def initial : Step :=
  { frames := [{}] }

/--
The only step of a run that left no usable trace.
-/
def failure (output message : String) : Step :=
  { frames := [{}], output, error := some (if message == "" then "Execution failed" else message) }

def objectIds (step : Step) : List String :=
  step.objects.map HeapEntry.id

def hasError (step : Step) : Bool :=
  step.error.any (· != "")

/--
The exported form. An absent error is left out.
-/
def toJson (step : Step) : Json :=
  .obj <|
    [("currentLine", .int step.currentLine),
     ("executedLines", .arr (step.executedLines.map .int)),
     ("frames", .arr (step.frames.map Frame.toJson)),
     ("objects", .arr (step.objects.map HeapEntry.toJson)),
     ("output", .str step.output)]
    ++ (step.error.map fun message => ("error", Json.str message)).toList

/--
Read an exported step. Fields may also go by their names in lower case with underscores.
-/
def ofJson? (json : Json) : Option Step := do
  let fields ← json.asObject?
  let currentLine ← fields.read? ["currentLine", "current_line"] 1 Json.asInt?
  let executedLines ← fields.read? ["executedLines", "executed_lines"] [] (Json.asList? Json.asInt?)
  let frames ← fields.read? ["frames"] [] (Json.asList? Frame.ofJson?)
  let objects ← fields.read? ["objects"] [] (Json.asList? HeapEntry.ofJson?)
  let output ← fields.read? ["output"] "" Json.asText?
  let error ← fields.read? ["error"] none fun json =>
    if json = .null then some none else json.asText?.map some
  return { currentLine, executedLines, frames, objects, output, error }

end Step

end Playback
