import Playback.Run.Tracing

/-!
This module contains the logic to run a program without tracing it.
-/

namespace Playback

/--
The outcome of a run without a trace. Some of it is taken over from others as it is.
-/
structure ExecutionResult where
  success : Bool
  output : Json := .str ""
  error : Json := .str ""
  /-- The time in milliseconds. -/
  time : Json := .null
  memory : Json := .null
  status : Json := .str RunStatus.complete.name
deriving DecidableEq

namespace ExecutionResult

def toJson (result : ExecutionResult) : Json :=
  .obj
    [("success", .bool result.success), ("output", result.output), ("error", result.error),
     ("time", result.time), ("memory", result.memory), ("status", result.status)]

def failure (status : RunStatus) (output : Json) (message : String) : ExecutionResult :=
  { success := false, output, error := .str message, status := .str status.name }

def ofVerdict (verdict : Judge.Verdict) : Except Mishap ExecutionResult := do
  let status : RunStatus :=
    if verdict.isTimedOut then .timeout else if verdict.isAccepted then .complete else .error
  let error ←
    if verdict.isAccepted then .ok ""
    else verdict.errorText?.elim (.error Mishap.wrongKind) .ok
  return {
    success := verdict.isAccepted
    output := verdict.stdout
    error := .str error
    time := verdict.time
    memory := verdict.memory
    status := .str status.name }

/--
The outcome of a run under the monitor, given the document it wrote and the time it took.
-/
def ofDocument (document : Fields) (time : Binary64) : ExecutionResult :=
  let field (name : String) (usual : Json) : Json := (document.lookup name).getD usual
  let status := field "status" (.str RunStatus.complete.name)
  let given := field "error" .null
  let error := if given.isTruthy then given else .str ""
  { success := status = .str RunStatus.complete.name && !error.isTruthy
    output := field "output" (.str "")
    error
    time := .float time
    status }

end ExecutionResult

namespace Execution

def elapsed : ProcessOutcome → Binary64
  | .finished _ _ _ elapsed => elapsed
  | _ => .ofInt 0

def monitored (around : Surroundings) (settings : Settings) (source stdin : String) :
    Except Mishap ExecutionResult × List Event :=
  let command := Strategy.monitorCommand settings (Strategy.plainJob source stdin)
  let outcome := around.perform command
  let result : Except Mishap ExecutionResult :=
    match Strategy.monitorDocument settings outcome with
    | .ok document => .ok (.ofDocument document (elapsed outcome))
    | .error setback =>
      match setback with
      | .timeout _ output _ => .ok (.failure .timeout output setback.message)
      | .noTrace message output => .ok (.failure .error output message)
      | .midTrace message _ => .ok (.failure .error (.str "") message)
      | .mishap mishap => .error mishap
  (result, [.performed command])

def judged (around : Surroundings) (language : Language) (source stdin : String)
    (judge? : Option Judge) : Except Mishap ExecutionResult × List Event :=
  let submission : Judge.Submission := { source, language, stdin }
  let asked := if judge?.isNone then [Event.usualJudge] else []
  let result :=
    match (judge?.getD around.judge).submit submission with
    | .ok verdict => ExecutionResult.ofVerdict verdict
    | .error breakdown => .error (.judge breakdown)
  (result, asked ++ [.submitted submission])

def run (around : Surroundings) (settings : Settings) (language : Language)
    (source stdin : String) (judge? : Option Judge) : Except Mishap ExecutionResult × List Event :=
  if language = .python then monitored around settings source stdin
  else judged around language source stdin judge?

end Execution

def execute (around : Surroundings) (settings : Settings) (name source stdin : String)
    (judge? : Option Judge := none) : Except Mishap ExecutionResult × List Event :=
  match admitted settings name source with
  | .error mishap => (.error mishap, [])
  | .ok (_, some rejection) => (.ok (.failure .error (.str "") rejection.message), [])
  | .ok (language, none) => Execution.run around settings language source stdin judge?

end Playback
