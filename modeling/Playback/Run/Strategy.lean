import Playback.Run.Surroundings
import Playback.Script.Prelude

/-!
This module contains the ways to run a program so that it leaves a trace behind: handing it to a
judge, running it under a monitor, or running it in a sandbox.
-/

namespace Playback

/--
What a run leaves behind: its trace, and its output as far as it is known.
-/
structure Attempt where
  raw : RawTrace
  output : Json := .str ""
deriving DecidableEq

/--
Why a run is not taken for a complete one.
-/
inductive Setback where
  | timeout (seconds : Number) (output : Json) (raw : Option RawTrace)
  | noTrace (message : String) (output : Json)
  | midTrace (message : String) (raw : Option RawTrace)
  | mishap (mishap : Mishap)
deriving DecidableEq

/--
What is said about a setback. Nothing is said about a mishap here.
-/
def Setback.message : Setback → String
  | .timeout seconds _ _ => (Fault.executionTimeout seconds "").message
  | .noTrace message _ => message
  | .midTrace message _ => message
  | .mishap _ => ""

structure Strategy where
  requiresJudge : Bool := false
  execute : (source stdin : String) → Settings → Option Judge →
    Except Setback Attempt × List Event

namespace Strategy

def isJudged : Language → Bool
  | .cpp | .c | .java => true
  | .python | .javascript => false

/--
The language that the judge is told. C programs are traced by C++ code and compiled as such.
-/
def judgedAs : Language → Language
  | .c => .cpp
  | language => language

/--
Whether a binding in the trace of a language lasts until it is replaced.
-/
def isCumulative : Language → Bool
  | .java => true
  | _ => false

def compilerOptions : Language → Option String
  | .c => some "-fpermissive"
  | _ => none

def ofVerdict (language : Language) (verdict : Judge.Verdict) : Except Setback Attempt :=
  match verdict.stdout with
  | .str stdout =>
    let raw := RawTrace.wire stdout (isCumulative language)
    if verdict.isTimedOut then .error (.timeout (.whole 0) (.str "") (some raw))
    else if verdict.isAccepted then .ok { raw, output := .str stdout }
    else
      match verdict.errorText? with
      | none => .error (.mishap .wrongKind)
      | some message =>
        if Text.isBlankText stdout then .error (.noTrace message (.str stdout))
        else .error (.midTrace message (some raw))
  | _ => .error (.mishap .wrongKind)

def judged (parse : String → Script.SyntaxTree) (language : Language) : Strategy :=
  { requiresJudge := true
    execute := fun source stdin _ judge? =>
      match judge? with
      | none => (.error (.mishap (.judgeRequired language)), [])
      | some judge =>
        let submission : Judge.Submission :=
          { source := instrument language source (parse source)
            language := judgedAs language
            stdin
            compilerOptions := compilerOptions language }
        let attempt :=
          match judge.submit submission with
          | .ok verdict => ofVerdict language verdict
          | .error breakdown => .error (.mishap (.judge breakdown))
        (attempt, [.submitted submission]) }

def lastOutput (steps : Json) : Except Mishap Json :=
  if steps.isTruthy then
    match steps with
    | .arr items =>
      match items.getLast? with
      | some (.obj fields) => .ok ((fields.lookup "output").getD (.str ""))
      | _ => .error .wrongKind
    | .obj _ => .error .noLast
    | .str _ => .error .wrongKind
    | json => .error (.notIndexed json.typeName)
  else .ok (.str "")

def monitorCommand (settings : Settings) (job : Fields) : Command :=
  { arguments := [settings.python, "-m", settings.monitor]
    timeout := settings.pythonTimeout
    input := some (Json.write none (.obj job))
    encoding := some "utf-8" }

def monitorDocument (settings : Settings) (outcome : ProcessOutcome) : Except Setback Fields :=
  match outcome with
  | .unstartable message => .error (.mishap (.unstartable message))
  | .timedOut _ stderr =>
    .error (.timeout settings.pythonTimeout (.str (capturedText stderr)) none)
  | .finished stdout stderr exitCode _ =>
    match Json.read stdout with
    | .ok (.obj fields) => .ok fields
    | .ok _ => .error (.noTrace "Tracer produced an unexpected payload" (.str ""))
    | .error _ =>
      let detail := Text.trimmed stderr
      let message := if detail == "" then s!"Tracer exited with code {exitCode}" else detail
      .error (.noTrace message (.str ""))

def tracedJob (source stdin : String) (maxSteps : Int) : Fields :=
  [("code", .str source), ("stdin", .str stdin), ("max_steps", .int maxSteps), ("trace", .bool true)]

def plainJob (source stdin : String) : Fields :=
  [("code", .str source), ("stdin", .str stdin), ("trace", .bool false)]

def monitored (perform : Command → ProcessOutcome) : Strategy :=
  { execute := fun source stdin settings _ =>
      let command := monitorCommand settings (tracedJob source stdin settings.maxSteps)
      let attempt := do
        let document ← monitorDocument settings (perform command)
        let steps := (document.lookup "steps").getD .null
        let output ← (lastOutput steps).mapError .mishap
        return { raw := .document (.obj document), output }
      (attempt, [.performed command]) }

def collectingCode : String :=
  "JSON.stringify(\x7bsteps: __steps, stopped: __stopped, waiting: __waiting\x7d)"

/--
The captured steps and flags that the sandbox hands over as a text.
-/
def collected (captured : Except String Json) : Except Setback Fields :=
  let failed (message : String) : Except Setback Fields :=
    .error (.noTrace ("Could not collect trace: " ++ message) (.str ""))
  match captured with
  | .error message => failed message
  | .ok (.str text) =>
    match Json.read text with
    | .ok (.obj fields) => .ok fields
    | .ok _ => .error (.mishap .wrongKind)
    | .error fault => failed (fault.message text)
  | .ok json =>
    failed s!"the JSON object must be str, bytes or bytearray, not {json.typeName}"

def stepCount : Json → Nat
  | .arr items => items.length
  | _ => 0

/--
Whether the engine reports that it stopped a script when its time was over.
-/
def isInterrupted (failure : String) : Bool :=
  (Pattern.text "interrupted").occursIn failure.toList

/--
What the captured steps and flags mean, together with the message of the error that the script ended
with.
-/
def ofCaptured (timeout : Number) (failure? : Option String) (captured : Fields) :
    Except Setback Attempt := do
  let flag (name : String) : Bool := ((captured.lookup name).getD .null).isTruthy
  let given := (captured.lookup "steps").getD .null
  let steps := if given.isTruthy then given else .arr []
  let output ← (lastOutput steps).mapError .mishap
  let document (status : RunStatus) (truncated : Fields) : RawTrace :=
    .document (.obj ([("steps", steps), ("status", .str status.name)] ++ truncated))
  -- A script that was stopped, or that waits for input, ends with an error for no reason of its own.
  if flag "stopped" then
    return { raw := document .complete [("truncated", .bool true)], output }
  else if flag "waiting" then
    return { raw := document .waitingForInput [], output }
  else
    let raw := document .complete []
    match failure? with
    | none => return { raw, output }
    | some failure =>
      if isInterrupted failure then throw (.timeout timeout output (some raw))
      else if stepCount steps ≤ 1 then throw (.noTrace failure output)
      else throw (.midTrace failure (some raw))

/--
Instrument a script and run it in the sandbox.
-/
def sandboxed (sandbox : Sandbox) (parse : String → Script.SyntaxTree) : Strategy :=
  { execute := fun source stdin settings _ =>
      let script := instrument .javascript source (parse source)
      let prelude := Script.prelude stdin settings.maxSteps
      let failure? := (sandbox.failure? prelude script).map Text.trimmed
      let attempt := do
        let captured ← collected (sandbox.captured prelude script)
        ofCaptured settings.sandboxTimeout failure? captured
      (attempt,
        [.memoryLimited settings.sandboxMemory, .prepared prelude,
         .timeLimited settings.sandboxTimeout, .evaluated script, .timeLimited (.whole (-1)),
         .evaluated collectingCode]) }

def ofLanguage (around : Surroundings) : Language → Strategy
  | .python => monitored around.perform
  | .javascript => sandboxed around.sandbox around.parse
  | language => judged around.parse language

end Strategy

end Playback
