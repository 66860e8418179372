import Playback.Json.Reader
import Playback.Monitor.Program

/-!
This module contains the jobs that ask for a program to be run: a program text, its input, the greatest
count of steps, and whether a trace is wanted.
-/

namespace Playback.Monitor

inductive JobFault where
  | unreadable (fault : Json.ReadFault) (text : String)
  | notObject
  | notCountable (type : String)
  | numeral (fault : Text.NumeralFault)
  | infiniteCount
  | undefinedCount
  | inputType (type : String)
deriving DecidableEq

def JobFault.message? : JobFault → Option String
  | .unreadable fault text => some (fault.message text)
  | .notObject => none
  | .notCountable type =>
    some ("int() argument must be a string, a bytes-like object or a real number, not '" ++ type
      ++ "'")
  | .numeral fault => some fault.message
  | .infiniteCount => some "cannot convert float infinity to integer"
  | .undefinedCount => some "cannot convert float NaN to integer"
  | .inputType type => some ("initial_value must be str or None, not " ++ type)

/--
The whole number a value gives. Fractions are cut off.
-/
def countOf : Json → Except JobFault Int
  | .int n => .ok n
  | .bool b => .ok (if b then 1 else 0)
  | .float x =>
    if x.isNaN then .error .undefinedCount
    else
      match x.toRat? with
      | none => .error .infiniteCount
      | some q => .ok (q.num.tdiv q.den)
  | .str s =>
    match Text.readInt s with
    | .ok n => .ok n
    | .error fault => .error (.numeral fault)
  | json => .error (.notCountable json.typeName)

def supplyOf (json : Json) : Except JobFault Supply :=
  match Supply.ofJson? json with
  | some supply => .ok supply
  | none => .error (.inputType json.typeName)

structure Job where
  code : Json
  supply : Supply
  /-- The greatest count of steps of a trace, or nothing for a run without a trace. -/
  maxSteps : Option Int

def Job.read (text : String) : Except JobFault Job :=
  match Json.read text with
  | .error fault => .error (.unreadable fault text)
  | .ok (.obj fields) => do
    let get (name : String) (fallback : Json) : Json := (fields.lookup name).getD fallback
    -- The count of steps is looked at before the input, and only if a trace is wanted.
    let maxSteps ←
      if (get "trace" (.bool true)).isTruthy then
        (countOf (get "max_steps" (.int defaultMaxSteps))).map some
      else .ok none
    let supply ← supplyOf (get "stdin" (.str ""))
    return { code := get "code" (.str ""), supply, maxSteps }
  | .ok _ => .error .notObject

/--
Do a job with the program its text stands for. The result holds the document that is written.
-/
def Job.run (job : Job) (p : Program) : Machine × Except Raised Json :=
  match job.maxSteps with
  | some maxSteps =>
    let (m, report) := runTraced p job.supply maxSteps
    (m, report.map TraceReport.toJson)
  | none =>
    let (m, report) := runPlain p job.supply
    (m, report.map PlainReport.toJson)

def Job.write (job : Job) (p : Program) : Machine × Except Raised String :=
  let (m, document) := job.run p
  (m, document.bind fun json => (json.write? none).mapError Raised.ofWriteFault)

end Playback.Monitor
