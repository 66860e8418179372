import Playback.Json.Writer
import Playback.Trace.Timeline

/-!
This module contains the answer to a request for a trace and its exported form.
-/

namespace Playback

structure TraceResult where
  language : String
  status : RunStatus := .complete
  truncated : Bool := false
  message : String := ""
  steps : List Step := []
deriving DecidableEq

namespace TraceResult

/--
A run succeeds unless it ended in an error or a timeout, or its last step carries an error.
-/
def success (result : TraceResult) : Bool :=
  match result.status with
  | .error | .timeout => false
  | _ => !result.steps.getLast?.any Step.hasError

def output (result : TraceResult) : String :=
  (result.steps.getLast?.map Step.output).getD ""

def error (result : TraceResult) : String :=
  (result.steps.getLast?.bind Step.error).getD ""

def toJson (result : TraceResult) : Json :=
  .obj
    [("language", .str result.language),
     ("status", .str result.status.name),
     ("truncated", .bool result.truncated),
     ("message", .str result.message),
     ("steps", .arr (result.steps.map Step.toJson))]

/--
Read an exported result. Every step has to be readable.
-/
def ofJson? (json : Json) : Option TraceResult := do
  let fields ← json.asObject?
  let language ← (fields.get? "language").bind Json.asText?
  let status ← fields.read? ["status"] .complete RunStatus.ofJson?
  let truncated ← fields.read? ["truncated"] false Json.asBool?
  let message ← fields.read? ["message"] "" Json.asText?
  let steps ← fields.read? ["steps"] [] (Json.asList? Step.ofJson?)
  return { language, status, truncated, message, steps }

def toText (result : TraceResult) (indent : Option Int) : String :=
  result.toJson.write indent

end TraceResult

end Playback
