import Playback.Judge.Config
import Playback.Judge.Verdict

/-!
This module contains the logic to have a program judged by a service: it is submitted once, and the
service is asked for the result in regular intervals until there is one or time is over.
-/

namespace Playback.Judge

inductive Response where
  | json (value : Json)
  | unreadable (message : String)
  | refused (message : String)
  /-- No reply. A failure that is transient may be gone with the next attempt. -/
  | unreachable (isTransient : Bool) (message : String)
  | badAddress (message : String)
deriving DecidableEq

/--
A service and a clock: what comes back for each submission and each question in their order, and the
readings of the clock in seconds.
-/
structure Service where
  post : Nat → Response
  get : Nat → Response
  clock : Nat → Rat

/--
What is seen of a submission from outside. Times are in seconds.
-/
inductive Exchange where
  | post (payload : Fields)
  | retryWait (time : Binary64)
  | sleep (time : Binary64)
  | get (path : String)
deriving DecidableEq

def languageId : Language → Int
  | .python => 71
  | .cpp => 54
  | .c => 50
  | .java => 62
  | .javascript => 63

def submissionsPath : String := "/submissions"

/--
The body of a submission. Empty options are left out.
-/
def payload (submission : Submission) : Fields :=
  let options :=
    match submission.compilerOptions with
    | none | some "" => []
    | some options => [("compiler_options", Json.str options)]
  [("source_code", .str submission.source), ("language_id", .int (languageId submission.language)),
   ("stdin", .str submission.stdin)] ++ options

namespace Service

def retryWaits : List Binary64 :=
  [.ofRatio false 1 10, .ofRatio false 2 10]

/--
Submit, and submit again after a transient failure as long as there are waits left. Attempts are
counted from `attempt`. The result is the first response that is no transient failure, or the last
one.
-/
def create (service : Service) (body : Fields) (attempt : Nat) :
    List Binary64 → Response × List Exchange
  | [] => (service.post attempt, [.post body])
  | wait :: waits =>
    match service.post attempt with
    | .unreachable true _ =>
      let (response, exchanges) := create service body (attempt + 1) waits
      (response, .post body :: .retryWait wait :: exchanges)
    | response => (response, [.post body])

def token (reply : Json) : Except String Json :=
  match reply with
  | .obj fields =>
    match fields.lookup "token" with
    | some token => .ok token
    | none => .error (Text.quoted "token")
  | .arr _ => .error "list indices must be integers or slices, not str"
  | .str _ => .error "string indices must be integers, not 'str'"
  | json => .error s!"'{json.typeName}' object is not subscriptable"

/--
The status in a reply. A status that is absent or counts as absent has no fields.
-/
def status (reply : Json) : Except Breakdown Fields := do
  let fields ← reply.asObject?.elim (.error .malformedReply) .ok
  let status := (fields.get? "status").getD .null
  -- A status that counts as absent has no fields.
  if status.isTruthy then status.asObject?.elim (.error .malformedReply) .ok else return []

def isPending (status : Fields) : Bool :=
  let id := (status.get? "id").getD .null
  id.equalsInt inQueueId || id.equalsInt processingId

/--
A time in a reply, from seconds to milliseconds. What counts as absent is null.
-/
def milliseconds (time : Json) : Except Breakdown Json :=
  if time.isTruthy then
    match time with
    | .str s =>
      match Text.readDecimal s with
      | .ok x => .ok (.float (x.scale 1000))
      | .error fault => .error (.timeNumeral fault)
    | .int n =>
      let x := Binary64.ofInt n
      if x.isFinite then .ok (.float (x.scale 1000)) else .error .timeTooLarge
    | .float x => .ok (.float (x.scale 1000))
    | .bool _ => .ok (.float (.ofInt 1000))
    | _ => .error (.timeKind time)
  else .ok .null

def verdict (reply : Json) : Except Breakdown Verdict := do
  let status ← status reply
  -- What counts as absent in a reply has its usual value.
  let orElse (value : Option Json) (usual : Json) : Json :=
    let value := value.getD .null
    if value.isTruthy then value else usual
  let time ← milliseconds ((reply.field? "time").getD .null)
  return {
    stdout := orElse (reply.field? "stdout") (.str "")
    stderr := orElse (reply.field? "stderr") (.str "")
    compileOutput := orElse (reply.field? "compile_output") (.str "")
    status := orElse (status.get? "description") (.str "Unknown")
    statusId := orElse (status.get? "id") (.int 0)
    time
    memory := (reply.field? "memory").getD .null }

def pollingFailed (message : String) : Verdict :=
  .unavailable ("Judge polling failed: " ++ message)

def submissionFailed (message : String) : Verdict :=
  .unavailable ("Judge submission failed: " ++ message)

/--
What one answer to the question for the result means: a verdict, or nothing as long as the program is
pending.
-/
def settled (response : Response) : Except Breakdown (Option Verdict) :=
  match response with
  | .json reply => do
    if isPending (← status reply) then return none else return some (← verdict reply)
  | .unreadable message | .refused message | .unreachable _ message =>
    .ok (some (pollingFailed message))
  | .badAddress message => .error (.badAddress message)

/--
Ask for the result as long as the clock stands before the deadline. Questions are counted from
`poll`; the clock has been read once before the first one. At most `fuel` questions are asked.
-/
def await (service : Service) (path : String) (wait : Binary64) (deadline : Rat) (poll : Nat) :
    Nat → Except Breakdown Verdict × List Exchange
  | 0 => (.error .undecided, [])
  | fuel + 1 =>
    if service.clock (poll + 1) < deadline then
      match settled (service.get poll) with
      | .error breakdown => (.error breakdown, [.sleep wait, .get path])
      | .ok (some verdict) => (.ok verdict, [.sleep wait, .get path])
      | .ok none =>
        let (result, exchanges) := await service path wait deadline (poll + 1) fuel
        (result, .sleep wait :: .get path :: exchanges)
    else (.ok .late, [])

def deadline (config : Config) (now : Rat) : Rat :=
  let timeout := (Config.seconds config.timeout).toRat?.getD (mkRat config.timeout 1000)
  floatSum (floatSum now 0) timeout

/--
Have a program judged. At most `fuel` questions for the result are asked.
-/
def submit (service : Service) (config : Config) (submission : Submission) (fuel : Nat) :
    Except Breakdown Verdict × List Exchange :=
  let (response, exchanges) := service.create (payload submission) 0 retryWaits
  match response with
  | .json reply =>
    match token reply with
    | .error message => (.ok (submissionFailed message), exchanges)
    | .ok token =>
      let path := submissionsPath ++ "/" ++ token.display
      let (result, polls) :=
        service.await path (Config.seconds config.wait) (deadline config (service.clock 0)) 0 fuel
      (result, exchanges ++ polls)
  | .unreadable message | .refused message | .unreachable _ message =>
    (.ok (submissionFailed message), exchanges)
  | .badAddress message => (.error (.badAddress message), exchanges)

def judge (service : Service) (config : Config) (fuel : Nat) : Judge :=
  { submit := fun submission => (service.submit config submission fuel).1 }

end Service

end Playback.Judge
