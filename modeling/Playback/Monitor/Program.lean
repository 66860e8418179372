import Playback.Monitor.Snapshot
import Playback.Monitor.Supply

/-!
This module contains the logic to run a Python program while its execution is captured. A program is given
by what it does as seen from outside: it reaches lines, reads, writes, changes objects and raises errors.
-/

namespace Playback.Monitor

inductive Action where
  | event (kind : String) (activation : Nat) (line : Option (Option Int))
      (bind : List (String × Value)) (unbind : List String)
  | write (text : String)
  | flush
  | readLine (limit : Option Int)
  | read (limit : Option Int)
  | iterate
  | raise (raised : Raised)
  | change (object : Handle) (change : Change)

inductive Note where
  | hook (kept : Bool)
  | wrote (count : Nat)
  | readLine (text : String)
  | read (text : String)
  | iterated (lines : List String)
  | swallowed (name : String)
deriving DecidableEq

/--
The state of a running program. Nothing is captured if the program runs without a trace.
-/
structure Machine where
  memory : Memory := []
  activations : List Activation := []
  output : String := ""
  supply : Supply := ⟨[]⟩
  capture : Option Capture := none
  notes : List Note := []

namespace Machine

def note (m : Machine) (n : Note) : Machine :=
  { m with notes := m.notes ++ [n] }

def update (line : Option (Option Int)) (bind : List (String × Value)) (unbind : List String)
    (a : Activation) : Activation :=
  let locals := bind.foldl (fun ls (n, v) => setEntry (· == n) n v ls) a.locals
  { a with line := line.getD a.line, locals := locals.filter fun v => !unbind.contains v.1 }

/--
Report a point of a call. Points of the traced program at a known line are captured until the ceiling is
reached.
-/
def report (m : Machine) (kind : String) (i : Nat) : Machine × Option Raised :=
  match m.capture, m.activations[i]? with
  | some c, some a =>
    if !a.isUserCode then (m.note (.hook false), none)
    else
      let line := a.line.getD 0
      if !(["line", "call", "return"].contains kind) || line == 0 then (m.note (.hook true), none)
      -- The ceiling is looked at before a step is captured.
      else if c.maxSteps ≤ c.steps.length then
        ({ m with capture := some { c with truncated := true } },
          some (Raised.stepCeiling c.maxSteps))
      else
        let calls := callStack m.activations m.activations.length i
        match c.snapshot m.memory calls line m.output with
        | (c, some raised) => ({ m with capture := some c }, some raised)
        | (c, none) => ({ m with capture := some c }.note (.hook true), none)
  | _, _ => (m, none)

def perform (m : Machine) : Action → Machine × Option Raised
  | .event kind i line bind unbind =>
    { m with activations := m.activations.modify i (update line bind unbind) }.report kind i
  | .write text => ({ m with output := m.output ++ text }.note (.wrote text.length), none)
  | .flush => (m, none)
  | .readLine limit =>
    match m.supply.readLine? limit with
    | some (text, supply) => ({ m with supply }.note (.readLine text), none)
    | none => (m, some Raised.inputExhausted)
  | .read limit =>
    match m.supply.read? limit with
    | some (text, supply) => ({ m with supply }.note (.read text), none)
    | none => (m, some Raised.inputExhausted)
  | .iterate =>
    let (lines, supply) := m.supply.readLines
    ({ m with supply }.note (.iterated lines), none)
  | .raise raised => (m, some raised)
  | .change object change => ({ m with memory := m.memory.change object change }, none)

/--
Do what one action says. A guarded action has a handler for errors, which signals pass through.
-/
def performGuarded (m : Machine) (guarded : Bool) (action : Action) : Machine × Option Raised :=
  match m.perform action with
  | (m, some raised) =>
    if guarded && raised.severity = .failure then (m.note (.swallowed raised.name), none)
    else (m, some raised)
  | done => done

/--
Do what actions say, up to the first error or signal that is not caught.
-/
def run (m : Machine) : List (Bool × Action) → Machine × Option Raised
  | [] => (m, none)
  | (guarded, action) :: actions =>
    match m.performGuarded guarded action with
    | (m, some raised) => (m, some raised)
    | (m, none) => m.run actions

end Machine

structure Program where
  compileError : Option Raised := none
  memory : Memory := []
  activations : List Activation := []
  actions : List (Bool × Action) := []

def Program.run (p : Program) (supply : Supply) (capture : Option Capture) :
    Machine × Option Raised :=
  let m : Machine := { memory := p.memory, activations := p.activations, supply, capture }
  match p.compileError with
  | some raised => (m, some raised)
  | none => m.run p.actions

structure PlainReport where
  output : String
  status : RunStatus
  error : String
deriving DecidableEq

def PlainReport.toJson (r : PlainReport) : Json :=
  .obj [("output", .str r.output), ("status", .str r.status.name), ("error", .str r.error)]

structure TraceReport where
  steps : List Step
  status : RunStatus
  truncated : Bool
deriving DecidableEq

def TraceReport.toJson (r : TraceReport) : Json :=
  .obj
    [("steps", .arr (r.steps.map Step.toJson)), ("status", .str r.status.name),
     ("truncated", .bool r.truncated)]

def markLast (message : String) : List Step → List Step
  | [] => []
  | [step] => [{ step with error := some message }]
  | step :: steps => step :: markLast message steps

def traceReport (m : Machine) (raised : Option Raised) : Except Raised TraceReport :=
  let c := m.capture.getD {}
  let plain (status : RunStatus) : TraceReport :=
    { steps := c.steps, status, truncated := c.truncated }
  match raised with
  | none => .ok (plain .complete)
  | some r =>
    match r.severity with
    | .inputExhausted => .ok (plain .waitingForInput)
    | .stepCeiling => .ok { plain .complete with truncated := true }
    | .exit => .ok (plain .complete)
    | .failure =>
      let steps :=
        if c.steps.isEmpty then [Step.failure m.output r.describe]
        else markLast r.describe c.steps
      .ok { plain .error with steps }
    -- Nobody waits for such a signal, and there is no document.
    | .abort => .error r

def plainReport (m : Machine) (raised : Option Raised) : Except Raised PlainReport :=
  let report (status : RunStatus) (error : String) : PlainReport :=
    { output := m.output, status, error }
  match raised with
  | none => .ok (report .complete "")
  | some r =>
    match r.severity with
    | .inputExhausted => .ok (report .waitingForInput "")
    | .exit => .ok (report .complete "")
    | .failure => .ok (report .error r.describe)
    | .stepCeiling | .abort => .error r

def runTraced (p : Program) (supply : Supply) (maxSteps : Int) :
    Machine × Except Raised TraceReport :=
  let (m, raised) := p.run supply (some { maxSteps })
  (m, traceReport m raised)

def runPlain (p : Program) (supply : Supply) : Machine × Except Raised PlainReport :=
  let (m, raised) := p.run supply none
  (m, plainReport m raised)

end Playback.Monitor
