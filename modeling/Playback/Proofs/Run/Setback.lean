import Playback.Proofs.Run.Answer
import Playback.Proofs.Trace.Payload

/-!
This module contains what a run leaves behind when it fails: records if a judge ran the program, the
captured steps if it was a script in the sandbox, and nothing if it ran under the monitor.
-/

namespace Playback

namespace Strategy

def capturedFlag (captured : Fields) (name : String) : Bool :=
  ((captured.lookup name).getD .null).isTruthy

/--
The steps among what was captured. Whatever counts as absent stands for none.
-/
def capturedSteps (captured : Fields) : Json :=
  let given := (captured.lookup "steps").getD .null
  if given.isTruthy then given else .arr []

/--
The steps that a script left behind before it failed for a reason of its own.
-/
structure LeftBehind (failure : String) (captured : Fields) (items : List Json) : Prop where
  steps : capturedSteps captured = .arr items
  stopped : capturedFlag captured "stopped" = false
  waiting : capturedFlag captured "waiting" = false
  kept : isInterrupted failure = true ∨ 1 < items.length

theorem exists_arr_of_lastOutput {captured : Fields} {output : Json}
    (h : lastOutput (capturedSteps captured) = .ok output) :
    ∃ items, capturedSteps captured = .arr items := by
  unfold capturedSteps at *
  dsimp only at *
  split at h
  · next htruthy =>
    rw [if_pos htruthy]
    unfold lastOutput at h
    rw [if_pos htruthy] at h
    split at h
    · next items heq => exact ⟨items, heq⟩
    all_goals contradiction
  · next htruthy =>
    rw [if_neg htruthy]
    exact ⟨[], rfl⟩

theorem lastOutput_of_objects (items : List Json) (h : items.all (·.asObject?.isSome) = true) :
    ∃ output, lastOutput (.arr items) = .ok output := by
  rcases items.eq_nil_or_concat' with rfl | ⟨items, item, rfl⟩
  · exact ⟨_, rfl⟩
  · rw [List.all_append, Bool.and_eq_true] at h
    cases item with
    | obj fields => simp [lastOutput, Json.isTruthy]
    | _ => simp [Json.asObject?] at h

def failureOf (timeout : Number) (failure : String) (items : List Json) (output : Json) : Setback :=
  let raw := RawTrace.document (Timeline.plainDocument items)
  if isInterrupted failure then .timeout timeout output (some raw)
  else if items.length ≤ 1 then .noTrace failure output
  else .midTrace failure (some raw)

theorem failureOf_raw? (timeout : Number) (failure : String) (items : List Json) (output : Json) :
    (failureOf timeout failure items output).raw?
      =
    if isInterrupted failure = true ∨ 1 < items.length then
      some (.document (Timeline.plainDocument items))
    else
      none := by
  unfold failureOf
  by_cases hinterrupted : isInterrupted failure = true
  · simp [hinterrupted, Setback.raw?]
  · by_cases hlength : items.length ≤ 1
    · have : ¬ 1 < items.length := by omega
      simp [hinterrupted, hlength, this, Setback.raw?]
    · have : 1 < items.length := by omega
      simp [hinterrupted, hlength, this, Setback.raw?]

/-
The flags of a script come before its error.
-/
theorem ofCaptured_eq {captured : Fields} {items : List Json} {output : Json} (timeout : Number)
    (failure? : Option String) (hsteps : capturedSteps captured = .arr items)
    (houtput : lastOutput (.arr items) = .ok output) :
    ofCaptured timeout failure? captured
      =
    if capturedFlag captured "stopped" then
      let truncated := ("truncated", Json.bool true)
      .ok
        { raw :=
            .document
              (.obj [("steps", .arr items), ("status", .str RunStatus.complete.name), truncated])
          output }
    else if capturedFlag captured "waiting" then
      let status := Json.str RunStatus.waitingForInput.name
      .ok { raw := .document (.obj [("steps", .arr items), ("status", status)]), output }
    else
      failure?.elim (.ok { raw := .document (Timeline.plainDocument items), output })
        fun failure => .error (failureOf timeout failure items output) := by
  unfold capturedSteps at hsteps
  dsimp only at hsteps
  unfold ofCaptured capturedFlag
  simp only [hsteps, houtput, Except.mapError, bind, Except.bind, pure, Except.pure]
  split
  · rfl
  · split
    · rfl
    · cases failure? with
      | none => rfl
      | some failure =>
        have hcount : stepCount (.arr items) = items.length := rfl
        simp only [Option.elim_some, failureOf, hcount]
        split
        · rfl
        · split
          · rfl
          · rfl

/-
The output is asked for in front of everything else, also where no one needs it.
-/
theorem ofCaptured_of_error {captured : Fields} {mishap : Mishap} (timeout : Number)
    (failure? : Option String) (h : lastOutput (capturedSteps captured) = .error mishap) :
    ofCaptured timeout failure? captured = .error (.mishap mishap) := by
  unfold capturedSteps at h
  dsimp only at h
  simp only [ofCaptured, h]
  rfl

theorem exists_leftBehind_of_failedRaw? {timeout : Number} {failure? : Option String}
    {captured : Fields} {raw : RawTrace}
    (h : failedRaw? (ofCaptured timeout failure? captured) = some raw) :
    ∃ failure items, failure? = some failure ∧ LeftBehind failure captured items
      ∧ raw = .document (Timeline.plainDocument items) := by
  cases houtput : lastOutput (capturedSteps captured) with
  | error mishap =>
    rw [ofCaptured_of_error timeout failure? houtput] at h
    contradiction
  | ok output =>
    rcases exists_arr_of_lastOutput houtput with ⟨items, hsteps⟩
    rw [hsteps] at houtput
    rw [ofCaptured_eq timeout failure? hsteps houtput] at h
    -- A script that was stopped, or that waits for input, has not failed.
    split at h
    · contradiction
    · next hstopped =>
      split at h
      · contradiction
      · next hwaiting =>
        cases failure? with
        | none => contradiction
        | some failure =>
          rw [Option.elim_some, failedRaw?, failureOf_raw?] at h
          split at h
          · next hkept =>
            rw [Option.some.injEq] at h
            refine ⟨failure, items, rfl, ⟨hsteps, ?_, ?_, hkept⟩, h.symm⟩
            · simpa using hstopped
            · simpa using hwaiting
          · contradiction

theorem failedRaw?_of_leftBehind {failure : String} {captured : Fields} {items : List Json}
    (timeout : Number) (h : LeftBehind failure captured items)
    (hobjects : items.all (·.asObject?.isSome) = true) :
    failedRaw? (ofCaptured timeout (some failure) captured)
      =
    some (.document (Timeline.plainDocument items)) := by
  rcases lastOutput_of_objects items hobjects with ⟨output, houtput⟩
  rw [ofCaptured_eq timeout _ h.steps houtput, if_neg, if_neg]
  · rw [Option.elim_some, failedRaw?, failureOf_raw?, if_pos h.kept]
  · simp [h.waiting]
  · simp [h.stopped]

theorem failedRaw?_collected (captured : Except String Json) :
    failedRaw? (collected captured) = none := by
  unfold collected
  split
  · rfl
  · dsimp only
    split
    all_goals rfl
  · rfl

theorem failedRaw?_monitorDocument (settings : Settings) (outcome : ProcessOutcome) :
    failedRaw? (monitorDocument settings outcome) = none := by
  unfold monitorDocument
  split
  · rfl
  · rfl
  · split
    all_goals rfl

theorem exists_wire_of_failedRaw? {language : Language} {verdict : Judge.Verdict} {raw : RawTrace}
    (h : failedRaw? (ofVerdict language verdict) = some raw) :
    ∃ text, raw = .wire text (isCumulative language) := by
  unfold ofVerdict at h
  split at h
  · next text _ =>
    refine ⟨text, ?_⟩
    dsimp only at h
    split at h
    · rw [failedRaw?, Setback.raw?, Option.some.injEq] at h
      exact h.symm
    · split at h
      · contradiction
      · split at h
        · contradiction
        · split at h
          · contradiction
          · rw [failedRaw?, Setback.raw?, Option.some.injEq] at h
            exact h.symm
  · contradiction

theorem failedRaw?_mapError_mishap {α : Type} (x : Except Mishap α) :
    failedRaw? (x.mapError Setback.mishap) = none := by
  cases x with
  | error mishap => rfl
  | ok a => rfl

end Strategy

namespace Tracing

variable {around : Surroundings} {settings : Settings} {source stdin : String}
  {judge? : Option Judge} {raw : RawTrace}

theorem exists_wire_of_judged {language : Language}
    (h :
      failedRaw?
          (attempted around settings (Strategy.judged around.parse language) source stdin judge?)
        =
      some raw) :
    ∃ text, raw = .wire text (Strategy.isCumulative language) := by
  unfold attempted Strategy.judged at h
  dsimp only at h
  split at h
  · contradiction
  · next judge _ =>
    dsimp only at h
    split at h
    · apply Strategy.exists_wire_of_failedRaw?
      exact h
    · contradiction

theorem failedRaw?_monitored :
    failedRaw? (attempted around settings (Strategy.monitored around.perform) source stdin judge?)
      =
    none := by
  rw [Option.eq_none_iff_forall_ne_some]
  intro raw h
  rcases exists_of_failedRaw?_bind (Strategy.failedRaw?_monitorDocument ..) h with ⟨document, _, h⟩
  rcases exists_of_failedRaw?_bind (Strategy.failedRaw?_mapError_mishap _) h with ⟨output, _, h⟩
  contradiction

theorem exists_leftBehind_of_sandboxed
    (h :
      failedRaw?
          (attempted around settings (Strategy.sandboxed around.sandbox around.parse) source stdin
            judge?)
        =
      some raw) :
    let script := instrument .javascript source (around.parse source)
    let prelude := Script.prelude stdin settings.maxSteps
    ∃ failure captured items,
      around.sandbox.failure? prelude script = some failure
        ∧ Strategy.collected (around.sandbox.captured prelude script) = .ok captured
        ∧ Strategy.LeftBehind (Text.trimmed failure) captured items
        ∧ raw = .document (Timeline.plainDocument items) := by
  intro script prelude
  rcases exists_of_failedRaw?_bind (Strategy.failedRaw?_collected _) h with ⟨captured, hcaptured, h⟩
  rcases Strategy.exists_leftBehind_of_failedRaw? h with ⟨failure, items, hfailure, hleft, hraw⟩
  rw [Option.map_eq_some_iff] at hfailure
  rcases hfailure with ⟨failure, hfailure, rfl⟩
  exact ⟨failure, captured, items, hfailure, hcaptured, hleft, hraw⟩

/-
Of all that is left behind by runs that failed, only the captured steps of scripts are documents.
-/
theorem exists_leftBehind_of_document {language : Language} {json : Json}
    (h :
      failedRaw?
          (attempted around settings (Strategy.ofLanguage around language) source stdin judge?)
        =
      some (.document json)) :
    let script := instrument .javascript source (around.parse source)
    let prelude := Script.prelude stdin settings.maxSteps
    language = .javascript ∧ ∃ failure captured items,
      around.sandbox.failure? prelude script = some failure
        ∧ Strategy.collected (around.sandbox.captured prelude script) = .ok captured
        ∧ Strategy.LeftBehind (Text.trimmed failure) captured items
        ∧ json = Timeline.plainDocument items := by
  intro script prelude
  have hjudged (l : Language) :
      failedRaw? (attempted around settings (Strategy.judged around.parse l) source stdin judge?)
        ≠
      some (.document json) := by
    intro hdocument
    rcases exists_wire_of_judged hdocument with ⟨text, htext⟩
    contradiction
  cases language with
  | python =>
    have hnone := h.symm.trans failedRaw?_monitored
    contradiction
  | javascript =>
    rcases exists_leftBehind_of_sandboxed h
      with ⟨failure, captured, items, hfailure, hcaptured, hleft, hdocument⟩
    rw [RawTrace.document.injEq] at hdocument
    exact ⟨rfl, failure, captured, items, hfailure, hcaptured, hleft, hdocument⟩
  | cpp => exact absurd h (hjudged .cpp)
  | c => exact absurd h (hjudged .c)
  | java => exact absurd h (hjudged .java)

theorem failedRaw?_sandboxed {failure : String} {captured : Fields} {items : List Json} :
    let script := instrument .javascript source (around.parse source)
    let prelude := Script.prelude stdin settings.maxSteps
    around.sandbox.failure? prelude script = some failure →
    Strategy.collected (around.sandbox.captured prelude script) = .ok captured →
    Strategy.LeftBehind (Text.trimmed failure) captured items →
    items.all (·.asObject?.isSome) = true →
    failedRaw?
        (attempted around settings (Strategy.sandboxed around.sandbox around.parse) source stdin
          judge?)
      =
    some (.document (Timeline.plainDocument items)) := by
  intro script prelude hfailure hcaptured hleft hobjects
  rw [← Strategy.failedRaw?_of_leftBehind settings.sandboxTimeout hleft hobjects]
  unfold attempted Strategy.sandboxed
  simp only [script, prelude] at hfailure hcaptured
  simp only [hfailure, hcaptured, Option.map_some]
  rfl

end Tracing

end Playback
