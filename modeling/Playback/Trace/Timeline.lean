import Playback.Text.Slice
import Playback.Trace.Step

/-!
This module contains the logic to rebuild the steps of a run from what the run left behind: either
the records among its output, or a document that already holds steps. Steps that cannot be read are
dropped and the others survive.
-/

namespace Playback

/--
A document that already holds steps. They are read one at a time.
-/
structure Payload where
  steps : List Json := []
  status : RunStatus := .complete
  truncated : Bool := false
deriving DecidableEq

/--
Read a document. Its steps have to be objects, whatever is in them.
-/
def Payload.ofJson? (json : Json) : Option Payload := do
  let fields ← json.asObject?
  let steps ← fields.read? ["steps"] [] (Json.asList? fun step => step.asObject?.map .obj)
  let status ← fields.read? ["status"] .complete RunStatus.ofJson?
  let truncated ← fields.read? ["truncated"] false Json.asBool?
  return { steps, status, truncated }

inductive RawTrace where
  /-- The output of the run. Bindings may last for the rest of the run or up to the next line. -/
  | wire (text : String) (cumulative : Bool)
  | document (json : Json)
deriving DecidableEq

structure Timeline where
  steps : List Step := []
  heap : Heap := {}
  status : RunStatus := .complete
  truncated : Bool := false
deriving DecidableEq

inductive ReplayFault where
  | numeral (fault : Text.NumeralFault)
  | objectType (type : Json)
deriving DecidableEq

def ReplayFault.message? : ReplayFault → Option String
  | .numeral fault => some fault.message
  | .objectType _ => none

namespace Timeline

def wireFrameName : String := "Execution"

/--
Add a line to ascending lines that do not hold it yet.
-/
def insertLine (line : Int) : List Int → List Int
  | [] => [line]
  | l :: rest =>
    if line < l then line :: l :: rest
    else if line = l then l :: rest
    else l :: insertLine line rest

def insertLines (lines more : List Int) : List Int :=
  more.foldl (fun lines line => insertLine line lines) lines

/--
The state of a replay: the steps that are closed, the last one first, the step that output still
goes to, the bindings that wait for the next line, and the objects.
-/
structure Replay where
  closed : List Step := []
  current : Step := .initial
  pending : Fields := []
  heap : Heap := {}

namespace Replay

def steps (replay : Replay) : List Step :=
  (replay.current :: replay.closed).reverse

/--
Remember an object. A payload that cannot be read is dropped.
-/
def putObject (replay : Replay) (id rawJson : String) : Except ReplayFault Replay :=
  match Record.decodePayload rawJson with
  | .error _ => .ok replay
  | .ok (type, value) =>
    match HeapEntry.typeName? type with
    | none => .error (.objectType type)
    | some type => .ok { replay with heap := replay.heap.put { id, type, value } }

/--
Remember the value of a variable for the next line.
-/
def bind (replay : Replay) (name rawValue : String) : Replay :=
  { replay with pending := replay.pending.set name (Record.cleanValue rawValue) }

def reach (replay : Replay) (cumulative : Bool) (line : Nat) : Replay :=
  { replay with
    closed := replay.current :: replay.closed
    pending := if cumulative then replay.pending else []
    current :=
      { currentLine := line
        executedLines := insertLine line replay.current.executedLines
        frames := [{ name := wireFrameName, bindings := replay.pending }]
        objects := replay.heap.entries
        output := replay.current.output } }

def print (replay : Replay) (text : String) : Replay :=
  { replay with
    current := { replay.current with output := replay.current.output ++ text ++ "\n" } }

/--
Replay lines in order. `room` counts the steps that may still be opened, and the result tells whether
there were too few.
-/
def run (cumulative : Bool) : Nat → Replay → List String → Except ReplayFault (Replay × Bool)
  | _, replay, [] => .ok (replay, false)
  | room, replay, line :: lines =>
    match Record.parse line with
    | .error fault => .error (.numeral fault)
    | .ok (.heapPut id rawJson) =>
      match replay.putObject id rawJson with
      | .error fault => .error fault
      | .ok replay => run cumulative room replay lines
    | .ok (.varBind name rawValue) => run cumulative room (replay.bind name rawValue) lines
    | .ok (.plainText text) => run cumulative room (replay.print text) lines
    | .ok (.lineMark line) =>
      match room with
      -- The replay stops at the line mark for which there is no room.
      | 0 => .ok (replay, true)
      | room + 1 => run cumulative room (replay.reach cumulative line) lines

end Replay

def ofWire (text : String) (cumulative : Bool) (maxSteps : Int) : Except ReplayFault Timeline := do
  -- There is always room for the initial step.
  let room := (max 1 maxSteps).toNat - 1
  let (replay, truncated) ← Replay.run cumulative room {} (Text.closedLines text)
  return { steps := replay.steps, heap := replay.heap, truncated }

/--
Restore what holds from each step to the next one: executed lines and objects are carried on, and
output never shrinks.
-/
def repair (executed : List Int) (heap : Heap) (output : String) : List Step → List Step × Heap
  | [] => ([], heap)
  | step :: steps =>
    let executed := insertLines executed step.executedLines
    let heap := heap.merge step.objects
    let output := if output.toList.isPrefixOf step.output.toList then step.output else output
    let (rest, last) := repair executed heap output steps
    ({ step with executedLines := executed, objects := heap.entries, output } :: rest, last)

def ofPayload (payload : Payload) (maxSteps : Int) : Timeline :=
  let steps := payload.steps.filterMap Step.ofJson?
  let tooMany := maxSteps < steps.length
  let kept := if tooMany then Text.takeUpTo maxSteps steps else steps
  let (steps, heap) := repair [] {} "" kept
  { steps, heap, status := payload.status, truncated := payload.truncated || tooMany }

/--
Rebuild the steps from a document. A document that cannot be read holds no steps.
-/
def ofDocument (json : Json) (maxSteps : Int) : Timeline :=
  match Payload.ofJson? json with
  | none => {}
  | some payload => ofPayload payload maxSteps

def ofRaw (raw : RawTrace) (maxSteps : Int) : Except ReplayFault Timeline :=
  match raw with
  | .wire text cumulative => ofWire text cumulative maxSteps
  | .document json => .ok (ofDocument json maxSteps)

end Timeline

def defaultMaxSteps : Int := 1000

end Playback
