import Playback.Run.Strategy
import Playback.Trace.Result

/-!
This module contains the logic to answer a request for a trace: the program is screened, run in the
way of its language, and what it left behind is made into steps, whether the run was complete or not.
-/

namespace Playback

/--
Whether a request may be run: its language if there is one, or why its program is refused.
-/
def admitted (settings : Settings) (name source : String) :
    Except Mishap (Language × Option Screening.Rejection) :=
  match Language.ofAlias? name with
  | none => .error (.unsupportedLanguage name)
  | some language =>
    .ok (language,
      Screening.rejection? source (some language) settings.maxSourceLength settings.screens)

namespace Tracing

/--
The answer to a request whose program left no trace. The output has to be a text.
-/
def failed (language : Language) (status : RunStatus) (output : Json) (message : String) :
    Except Mishap TraceResult :=
  match output with
  | .str output =>
    .ok { language := language.name, status, message, steps := [.failure output message] }
  | _ => .error .outputKind

/--
The answer for a program that came to its end without reaching a line that is traced.
-/
def outputOnly (language : Language) (output : String) : TraceResult :=
  { language := language.name
    steps := [{ executedLines := [1], frames := [{ name := "Program Output" }], output }] }

/--
What is said about a trace: that it was cut short, or else the error of its last step.
-/
def messageOf (settings : Settings) (timeline : Timeline) : String :=
  if timeline.truncated then Fault.stepLimitMessage settings.maxSteps
  else (timeline.steps.getLast?.bind Step.error).getD ""

def shown (language : Language) (settings : Settings) (timeline : Timeline) (status : RunStatus) :
    TraceResult :=
  { language := language.name
    status
    truncated := timeline.truncated
    message := messageOf settings timeline
    steps := timeline.steps }

def markLast (message : String) : List Step → List Step
  | [] => []
  | [step] => [{ step with error := some message }]
  | step :: steps => step :: markLast message steps

/--
The answer for a run that failed after it had left a trace behind.
-/
def broken (language : Language) (settings : Settings) (message : String) (raw : RawTrace)
    (status : RunStatus) : Except Mishap TraceResult := do
  let timeline ← (Timeline.ofRaw raw settings.maxSteps).mapError .replay
  -- The error does not matter if the trace was cut short anyway.
  if timeline.truncated then return shown language settings timeline timeline.status
  -- A single step shows nothing but output.
  else if timeline.steps.length ≤ 1 then
    failed language status (.str ((timeline.steps.getLast?.map Step.output).getD "")) message
  else
    let steps := markLast message timeline.steps
    return shown language settings { timeline with steps } status

def interrupted (language : Language) (settings : Settings) (setback : Setback) :
    Except Mishap TraceResult :=
  match setback with
  | .timeout _ output none => failed language .timeout output setback.message
  | .timeout _ _ (some raw) => broken language settings setback.message raw .timeout
  | .noTrace message output => failed language .error output message
  | .midTrace message none => failed language .error (.str "") message
  | .midTrace message (some raw) => broken language settings message raw .error
  | .mishap mishap => .error mishap

def complete (language : Language) (settings : Settings) (attempt : Attempt) :
    Except Mishap TraceResult := do
  let timeline ← (Timeline.ofRaw attempt.raw settings.maxSteps).mapError .replay
  match timeline.steps with
  | [] => failed language .error attempt.output "Tracer produced no steps"
  | [step] =>
    if !step.hasError && timeline.status = .complete then return outputOnly language step.output
    else return shown language settings timeline timeline.status
  | _ => return shown language settings timeline timeline.status

def answer (language : Language) (settings : Settings) (attempt : Except Setback Attempt) :
    Except Mishap TraceResult :=
  match attempt with
  | .ok attempt => complete language settings attempt
  | .error setback => interrupted language settings setback

/--
Run a program with a strategy. The usual judge is asked for if the strategy needs a judge and the
request brings none.
-/
def run (around : Surroundings) (settings : Settings) (language : Language) (strategy : Strategy)
    (source stdin : String) (judge? : Option Judge) : Except Mishap TraceResult × List Event :=
  let (judge?, asked) :=
    if strategy.requiresJudge && judge?.isNone then (some around.judge, [Event.usualJudge])
    else (judge?, [])
  let (attempt, events) := strategy.execute source stdin settings judge?
  (answer language settings attempt, asked ++ events)

end Tracing

/--
Trace a program. A request may bring a judge and a strategy of its own.
-/
def trace (around : Surroundings) (settings : Settings) (name source stdin : String)
    (judge? : Option Judge := none) (strategy? : Option Strategy := none) :
    Except Mishap TraceResult × List Event :=
  match admitted settings name source with
  | .error mishap => (.error mishap, [])
  | .ok (language, some rejection) =>
    (Tracing.failed language .error (.str "") rejection.message, [])
  | .ok (language, none) =>
    let strategy := strategy?.getD (Strategy.ofLanguage around language)
    Tracing.run around settings language strategy source stdin judge?

end Playback
