import Playback.Object.Encoder
import Playback.Trace.Timeline

/-!
This module contains the logic to capture a step of a running program: the active calls with their
variables, the objects, and the output so far.
-/

namespace Playback.Monitor

/--
An active call of a running program: where its code comes from, its name, the line it stands at, its
variables, and which call it was made from.
-/
structure Activation where
  file : String := "<user-code>"
  name : String
  line : Option Int
  locals : List (String × Value) := []
  caller : Option Nat := none
deriving DecidableEq, Inhabited

namespace Activation

def isUserCode (a : Activation) : Bool :=
  a.file == "<user-code>"

def shownName (a : Activation) : String :=
  if a.name == "<module>" then globalFrameName else a.name

def shownLocals (a : Activation) : List (String × Value) :=
  a.locals.filter fun v => !"__".isPrefixOf v.1 && v.2.isUserObject

end Activation

/--
The active calls of a program, the innermost first. Each call appears at most once, so their count bounds
the walk.
-/
def callStack (activations : List Activation) : Nat → Nat → List Activation
  | 0, _ => []
  | fuel + 1, i =>
    match activations[i]? with
    | none => []
    | some a =>
      a :: match a.caller with
        | none => []
        | some j => callStack activations fuel j

structure Capture where
  maxSteps : Int := defaultMaxSteps
  steps : List Step := []
  truncated : Bool := false
  executed : List Int := []
  encoder : Encoder := {}
deriving DecidableEq

namespace Capture

def showCall (memory : Memory) (encoder : Encoder) (a : Activation) :
    Encoder × Except Raised Frame :=
  let (encoder, values) :=
    mapUntil (Encoder.encode memory {} 0) encoder (a.shownLocals.map Prod.snd)
  (encoder,
    values.map fun values =>
      { name := a.shownName
        bindings := Fields.ofList ((a.shownLocals.map Prod.fst).zip values) })

/--
Capture a step at a line. All variables of all calls belong to one dump. If an error comes up while they
are shown, there is no step, but what has been written down by then stays.
-/
def snapshot (memory : Memory) (calls : List Activation) (line : Int) (output : String)
    (c : Capture) : Capture × Option Raised :=
  -- The line counts as executed whether or not a step comes of it.
  let executed := Timeline.insertLine line c.executed
  let shown := (calls.filter Activation.isUserCode).reverse
  match mapUntil (showCall memory) (c.encoder.startDump []) shown with
  | (encoder, .error raised) => ({ c with executed, encoder }, some raised)
  | (encoder, .ok frames) =>
    let step : Step :=
      { currentLine := line, executedLines := executed, frames, objects := encoder.heap.entries,
        output }
    ({ c with executed, encoder, steps := c.steps ++ [step] }, none)

end Capture

end Playback.Monitor
