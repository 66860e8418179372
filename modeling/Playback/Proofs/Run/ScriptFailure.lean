import Playback.Proofs.Pattern.Run
import Playback.Proofs.Run.Setback

/-!
This module contains what is answered if a script fails after some of its steps have been captured: when
it is told as the failure that it is, and when it goes for a script that was stopped, or for nothing.
-/

namespace Playback

namespace Strategy

def interruptReport : String := "InternalError: interrupted"

theorem isInterrupted_iff (failure : String) :
    isInterrupted failure = true ↔ "interrupted".toList <:+: failure.toList := by
  unfold isInterrupted
  rw [Pattern.occursIn_iff]
  constructor
  · rintro ⟨front, rest, hfailure, hrun⟩
    rw [Option.isSome_iff_exists] at hrun
    rcases hrun with ⟨place, hplace⟩
    rcases Pattern.exists_of_run_text hplace with ⟨more, rfl⟩
    exact ⟨front, more, by rw [hfailure, List.append_assoc]⟩
  · rintro ⟨front, rest, hfailure⟩
    refine ⟨front, "interrupted".toList ++ rest, by rw [← hfailure, List.append_assoc], ?_⟩
    rw [Pattern.run_text_append]
    rfl

/--
A script of a request that failed, although it had neither reached the ceiling on the count of steps nor
asked for more input than there is, and what was captured of it.
-/
structure ScriptFailure (around : Surroundings) (settings : Settings) (source stdin : String) where
  failure : String
  captured : Fields
  items : List Json
  failure_eq :
    around.sandbox.failure? (Script.prelude stdin settings.maxSteps)
        (instrument .javascript source (around.parse source))
      =
    some failure
  captured_eq :
    collected
        (around.sandbox.captured (Script.prelude stdin settings.maxSteps)
          (instrument .javascript source (around.parse source)))
      =
    .ok captured
  steps : capturedSteps captured = .arr items
  stopped : capturedFlag captured "stopped" = false
  waiting : capturedFlag captured "waiting" = false

namespace ScriptFailure

variable {around : Surroundings} {settings : Settings} {source stdin : String}

def message (script : ScriptFailure around settings source stdin) : String :=
  Text.trimmed script.failure

def valid (script : ScriptFailure around settings source stdin) : List Step :=
  script.items.filterMap Step.ofJson?

def shown (script : ScriptFailure around settings source stdin) : List Step :=
  (Timeline.repair [] {} "" script.valid).1

def lateMessage (_ : ScriptFailure around settings source stdin) : String :=
  (Fault.executionTimeout settings.sandboxTimeout "").message

/--
Whether an answer tells the failure for what it is: a script that the engine has stopped has run for too
long, and any other one has failed. All captured steps are there, and the last one has an error.
-/
structure Reported (script : ScriptFailure around settings source stdin) (result : TraceResult) :
    Prop where
  status : result.status = if script.message = interruptReport then .timeout else .error
  steps : ∃ error, error ≠ "" ∧ result.steps = Tracing.markLast error script.shown
  message : script.message = interruptReport → result.message = script.lateMessage

theorem attempted_eq (script : ScriptFailure around settings source stdin) (judge? : Option Judge) :
    Tracing.attempted around settings (ofLanguage around .javascript) source stdin judge?
      =
    ofCaptured settings.sandboxTimeout (some script.message) script.captured := by
  unfold Tracing.attempted ofLanguage sandboxed
  dsimp only
  rw [script.failure_eq, script.captured_eq]
  rfl

/--
How the end of the script is told.
-/
def status (script : ScriptFailure around settings source stdin) : RunStatus :=
  if isInterrupted script.message then .timeout else .error

@[inherit_doc status]
def error (script : ScriptFailure around settings source stdin) : String :=
  if isInterrupted script.message then script.lateMessage else script.message

theorem length_shown (script : ScriptFailure around settings source stdin) :
    script.shown.length = script.valid.length := by
  apply Timeline.length_repair

theorem lateMessage_eq (script : ScriptFailure around settings source stdin) :
    script.lateMessage
      =
    if settings.sandboxTimeout.isNonzero then
      Fault.timeoutMessage ++ " after " ++ settings.sandboxTimeout.toGeneralText ++ "s"
    else
      Fault.timeoutMessage :=
  rfl

theorem lateMessage_ne (script : ScriptFailure around settings source stdin) :
    script.lateMessage ≠ "" := by
  rw [lateMessage_eq]
  split
  · simp
  · decide

theorem ofCaptured_eq_failureOf (script : ScriptFailure around settings source stdin) {output : Json}
    (houtput : lastOutput (.arr script.items) = .ok output) :
    ofCaptured settings.sandboxTimeout (some script.message) script.captured
      =
    .error (failureOf settings.sandboxTimeout script.message script.items output) := by
  rw [ofCaptured_eq _ _ script.steps houtput, script.stopped, script.waiting]
  rfl

theorem ofRaw_of_objects (script : ScriptFailure around settings source stdin)
    (hmax : script.valid.length ≤ settings.maxSteps)
    (hobjects : script.items.all (·.asObject?.isSome) = true) :
    ∃ heap,
      Timeline.ofRaw (.document (Timeline.plainDocument script.items)) settings.maxSteps
        =
      .ok { steps := script.shown, heap } := by
  have hroom : ¬ settings.maxSteps < script.valid.length := by omega
  unfold valid at hroom
  rw [Timeline.ofRaw, Timeline.ofDocument_plainDocument, if_pos hobjects]
  unfold Timeline.ofPayload shown valid
  dsimp only
  rw [if_neg hroom, decide_eq_false hroom]
  exact ⟨_, rfl⟩

theorem answer_of_objects (script : ScriptFailure around settings source stdin) (language : Language)
    (htwo : 2 ≤ script.valid.length) (hmax : script.valid.length ≤ settings.maxSteps)
    (hobjects : script.items.all (·.asObject?.isSome) = true) :
    Tracing.answer language settings
        (ofCaptured settings.sandboxTimeout (some script.message) script.captured)
      =
    .ok
      { language := language.name
        status := script.status
        message := script.error
        steps := Tracing.markLast script.error script.shown } := by
  rcases lastOutput_of_objects script.items hobjects with ⟨output, houtput⟩
  rcases script.ofRaw_of_objects hmax hobjects with ⟨heap, hraw⟩
  have hitems : ¬ script.items.length ≤ 1 := by
    have : script.valid.length ≤ script.items.length := List.length_filterMap_le ..
    omega
  have hlength : 1 < script.shown.length := by
    rw [script.length_shown]
    omega
  rw [script.ofCaptured_eq_failureOf houtput]
  -- Both failures leave the same document behind, and only tell it under another status.
  by_cases hinterrupted : isInterrupted script.message = true
  · rw [failureOf, if_pos hinterrupted, status, if_pos hinterrupted, error, if_pos hinterrupted]
    exact Tracing.broken_eq_marked hraw rfl hlength
  · rw [failureOf, if_neg hinterrupted, if_neg hitems, status, if_neg hinterrupted, error,
      if_neg hinterrupted]
    exact Tracing.broken_eq_marked hraw rfl hlength

/-
Where an item is no object, nothing of what was captured is shown.
-/
theorem length_steps_of_not_objects (script : ScriptFailure around settings source stdin)
    {language : Language} {result : TraceResult}
    (h :
      Tracing.answer language settings
          (ofCaptured settings.sandboxTimeout (some script.message) script.captured)
        =
      .ok result)
    (hobjects : script.items.all (·.asObject?.isSome) = false) : result.steps.length = 1 := by
  have hdocument :
      Timeline.ofDocument (Timeline.plainDocument script.items) settings.maxSteps = {} := by
    rw [Timeline.ofDocument_plainDocument, hobjects]
    rfl
  cases houtput : lastOutput (.arr script.items) with
  | error mishap =>
    -- There is no answer if the last item cannot be asked for its output.
    rw [← script.steps] at houtput
    rw [ofCaptured_of_error _ _ houtput] at h
    contradiction
  | ok output =>
    rw [script.ofCaptured_eq_failureOf houtput, Tracing.answer] at h
    rcases Tracing.interrupted_cases h
      with ⟨_, output, message, hfailure⟩ | ⟨raw, message, status, hleft, hbroken⟩
    · rw [hfailure, List.length_singleton]
    · rw [failureOf_raw?] at hleft
      split at hleft
      · rw [← Option.some.inj hleft] at hbroken
        rcases Tracing.broken_cases hbroken with ⟨timeline, hraw, hcases⟩
        rw [Timeline.ofRaw, hdocument, Except.ok.injEq] at hraw
        rw [← hraw] at hcases
        rcases hcases with ⟨htruncated, _⟩ | ⟨_, _, output, hresult⟩ | ⟨_, hlength, _⟩
        · exact absurd htruncated Bool.false_ne_true
        · rw [hresult, List.length_singleton]
        · exact absurd hlength (Nat.not_lt_zero 1)
      · exact absurd hleft (Option.some_ne_none raw).symm

/-
What is answered is right if it has an error at all, and if no other script is taken for one that the
engine has stopped.
-/
theorem reported_iff (script : ScriptFailure around settings source stdin) (hshown : script.shown ≠ [])
    (language : Language) :
    script.Reported
        { language := language.name
          status := script.status
          message := script.error
          steps := Tracing.markLast script.error script.shown }
      ↔
    script.message ≠ "" ∧ (isInterrupted script.message = true → script.message = interruptReport) := by
  have hreport : isInterrupted interruptReport = true := by decide +kernel
  constructor
  · rintro ⟨hstatus, ⟨error, hne, hsteps⟩, _⟩
    dsimp only at hstatus hsteps
    rw [← Tracing.markLast_inj hshown hsteps, ScriptFailure.error] at hne
    rw [status] at hstatus
    constructor
    · intro hempty
      have hnot : isInterrupted "" = false := by decide +kernel
      rw [hempty, if_neg (by simp [hnot])] at hne
      exact hne rfl
    · intro hinterrupted
      rw [if_pos hinterrupted] at hstatus
      by_contra hother
      rw [if_neg hother] at hstatus
      cases hstatus
  · rintro ⟨hne, hengine⟩
    have herror : script.error ≠ "" := by
      rw [error]
      split
      · exact script.lateMessage_ne
      · exact hne
    refine ⟨?_, ⟨script.error, herror, rfl⟩, ?_⟩
    · dsimp only
      rw [status]
      by_cases hinterrupted : isInterrupted script.message = true
      · rw [if_pos hinterrupted, if_pos (hengine hinterrupted)]
      · rw [if_neg hinterrupted, if_neg]
        rintro hsame
        rw [hsame] at hinterrupted
        exact hinterrupted hreport
    · intro hsame
      dsimp only
      rw [error, hsame, if_pos hreport]

end ScriptFailure

end Strategy

/--
The answer for a script that failed after at least two steps of it had been captured, and the exact
condition under which it tells the failure for what it is: all captured items are objects, the error has a
text, and the word by which the engine says that it has stopped a script does not come up in another text.
-/
theorem trace_reports_failure_iff {around : Surroundings} {settings : Settings}
    {name source stdin : String} {judge? : Option Judge}
    (hadmitted : admitted settings name source = .ok (.javascript, none))
    (script : Strategy.ScriptFailure around settings source stdin)
    (htwo : 2 ≤ script.valid.length) (hmax : script.valid.length ≤ settings.maxSteps) :
    ((∀ item ∈ script.items, item.asObject?.isSome = true) →
      (trace around settings name source stdin judge?).1
        =
      .ok
        { language := "javascript"
          status := script.status
          message := script.error
          steps := Tracing.markLast script.error script.shown })
    ∧ ((∃ result, (trace around settings name source stdin judge?).1 = .ok result
          ∧ script.Reported result)
        ↔
      (∀ item ∈ script.items, item.asObject?.isSome = true) ∧ script.message ≠ ""
        ∧ ("interrupted".toList <:+: script.message.toList →
          script.message = "InternalError: interrupted")) := by
  have htrace :
      (trace around settings name source stdin judge?).1
        =
      Tracing.answer .javascript settings
        (Strategy.ofCaptured settings.sandboxTimeout (some script.message) script.captured) := by
    rw [trace_fst_of_admitted hadmitted, ← script.attempted_eq judge?]
    rfl
  have hshown : script.shown ≠ [] := by
    rw [← List.length_pos_iff, script.length_shown]
    omega
  rw [htrace, ← List.all_eq_true, ← Strategy.isInterrupted_iff]
  have hanswer := script.answer_of_objects .javascript htwo hmax
  have hreported := script.reported_iff hshown .javascript
  refine ⟨hanswer, ?_⟩
  constructor
  · rintro ⟨result, hresult, hresultReported⟩
    have hobjects : script.items.all (·.asObject?.isSome) = true := by
      rw [← Bool.not_eq_false]
      intro hnot
      rcases hresultReported.steps with ⟨error, _, hsteps⟩
      have hlength := script.length_steps_of_not_objects hresult hnot
      rw [hsteps, Tracing.length_markLast, script.length_shown] at hlength
      omega
    rw [hanswer hobjects, Except.ok.injEq] at hresult
    rw [← hresult, hreported] at hresultReported
    exact ⟨hobjects, hresultReported⟩
  · rintro ⟨hobjects, hmessage⟩
    exact ⟨_, hanswer hobjects, hreported.mpr hmessage⟩

theorem trace_reports_failure_iff_thrown :
    let text :=
      "\x7b\"steps\": [\x7b\x7d, \x7b\"executedLines\": [1], \"output\": \"hi\"\x7d, \x7b\"output\": 5\x7d],"
        ++ "\"stopped\": false, \"waiting\": false\x7d"
    let sandbox : Sandbox :=
      { failure? := fun _ _ => some "TypeError: boom\n", captured := fun _ _ => .ok (.str text) }
    let around : Surroundings := { Surroundings.idle with sandbox }
    let settings : Settings := { monitor := "monitor", maxSteps := 2 }
    ∃ script : Strategy.ScriptFailure around settings "f()" "",
      script.valid.length = 2 ∧ script.message = "TypeError: boom"
        ∧ ∃ result, (trace around settings "js" "f()" "").1 = .ok result ∧ script.Reported result := by
  intro text sandbox around settings
  let items : List Json :=
    [.obj [], .obj [("executedLines", .arr [.int 1]), ("output", .str "hi")], .obj [("output", .int 5)]]
  let captured : Fields := [("steps", .arr items), ("stopped", .bool false), ("waiting", .bool false)]
  have hcaptured : Strategy.collected (.ok (.str text)) = .ok captured := by decide +kernel
  let script : Strategy.ScriptFailure around settings "f()" "" :=
    ⟨"TypeError: boom\n", captured, items, rfl, hcaptured, rfl, rfl, rfl⟩
  have hadmitted : admitted settings "js" "f()" = .ok (.javascript, none) := by decide +kernel
  have hobjects : ∀ item ∈ items, item.asObject?.isSome = true := by decide
  have hvalid : (items.filterMap Step.ofJson?).length = 2 := by decide +kernel
  have hmessage : Text.trimmed "TypeError: boom\n" = "TypeError: boom" := by decide +kernel
  have htwo : 2 ≤ script.valid.length := Nat.le_of_eq hvalid.symm
  have hmax : (script.valid.length : Int) ≤ settings.maxSteps := Int.ofNat_le.mpr (Nat.le_of_eq hvalid)
  have hother : ¬ "interrupted".toList <:+: "TypeError: boom".toList := by decide +kernel
  rw [← hmessage] at hother
  refine ⟨script, hvalid, hmessage, ?_⟩
  refine (trace_reports_failure_iff hadmitted script htwo hmax).2.mpr ⟨hobjects, ?_, ?_⟩
  · exact hmessage.trans_ne (by decide)
  · exact fun h => absurd h hother

theorem trace_reports_failure_fails :
    let source := "let a = 1;\nthrow new Error(\"connection interrupted\");"
    let text :=
      "\x7b\"steps\": [\x7b\x7d, \x7b\"executedLines\": [1]\x7d], \"stopped\": false, \"waiting\": false\x7d"
    let sandbox : Sandbox :=
      { failure? := fun _ _ => some "Error: connection interrupted"
        captured := fun _ _ => .ok (.str text) }
    let around : Surroundings := { Surroundings.idle with sandbox }
    let settings : Settings := { monitor := "monitor" }
    ∃ script : Strategy.ScriptFailure around settings source "",
      script.message = "Error: connection interrupted" ∧ script.valid.length = 2
        ∧ ∃ result, (trace around settings "javascript" source "").1 = .ok result
          ∧ result.status = .timeout ∧ result.message = "Execution timed out after 2s"
          ∧ ¬ script.Reported result := by
  intro source text sandbox around settings
  let items : List Json := [.obj [], .obj [("executedLines", .arr [.int 1])]]
  let captured : Fields := [("steps", .arr items), ("stopped", .bool false), ("waiting", .bool false)]
  have hcaptured : Strategy.collected (.ok (.str text)) = .ok captured := by decide +kernel
  let script : Strategy.ScriptFailure around settings source "" :=
    ⟨"Error: connection interrupted", captured, items, rfl, hcaptured, rfl, rfl, rfl⟩
  let late := "Execution timed out after 2s"
  let result : TraceResult :=
    { language := "javascript"
      status := .timeout
      message := late
      steps := [{ executedLines := [] }, { executedLines := [1], error := some late }] }
  have hvalid : (items.filterMap Step.ofJson?).length = 2 := by decide +kernel
  have hmessage : Text.trimmed "Error: connection interrupted" = "Error: connection interrupted" := by
    decide +kernel
  have hresult : (trace around settings "javascript" source "").1 = .ok result := by decide +kernel
  refine ⟨script, hmessage, hvalid, result, hresult, rfl, rfl, ?_⟩
  intro hreported
  have hstatus := hreported.status
  have hother : script.message ≠ Strategy.interruptReport := hmessage.trans_ne (by decide)
  rw [if_neg hother] at hstatus
  cases hstatus

end Playback
