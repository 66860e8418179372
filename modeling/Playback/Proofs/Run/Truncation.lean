import Playback.Proofs.Run.Setback
import Playback.Proofs.Trace.Coherence

/-!
This module contains what becomes of a trace that was cut short: when its answer says so, and when
its answer has no steps at all.
-/

namespace Playback

namespace Tracing

variable {language : Language} {settings : Settings} {timeline : Timeline} {result : TraceResult}

/-
An answer only lacks steps where what was left behind by a run that failed lacks them.
-/
theorem answer_steps_eq_nil_iff {attempt : Except Setback Attempt}
    (h : answer language settings attempt = .ok result) :
    result.steps = []
      ↔
    ∃ raw timeline, failedRaw? attempt = some raw
      ∧ Timeline.ofRaw raw settings.maxSteps = .ok timeline
      ∧ timeline.truncated = true ∧ timeline.steps = [] := by
  constructor
  · intro hsteps
    -- Whatever is answered has a step, unless it is a trace that was cut short.
    cases attempt with
    | ok attempt =>
      rcases complete_cases h
        with ⟨timeline, _, ⟨_, hfailed⟩ | ⟨_, output, rfl⟩ | ⟨hne, _, rfl⟩⟩
      · rcases failed_cases hfailed with ⟨output, _, rfl⟩
        contradiction
      · contradiction
      · contradiction
    | error setback =>
      rcases interrupted_cases h
        with ⟨_, output, message, hfailure⟩ | ⟨raw, message, status, hsetback, hbroken⟩
      · rw [hfailure] at hsteps
        contradiction
      · rcases broken_cases hbroken
          with ⟨timeline, hraw, ⟨htruncated, rfl⟩ | ⟨_, _, output, rfl⟩ | ⟨_, hlength, rfl⟩⟩
        · exact ⟨raw, timeline, hsetback, hraw, htruncated, hsteps⟩
        · contradiction
        · dsimp only [shown] at hsteps
          rw [← List.length_eq_zero_iff, length_markLast] at hsteps
          omega
  · rintro ⟨raw, timeline, hfailed, hraw, htruncated, hsteps⟩
    cases attempt with
    | ok attempt => contradiction
    | error setback =>
      have hshown : interrupted language settings setback = _ :=
        interrupted_of_truncated hfailed hraw htruncated
      rw [answer, hshown, Except.ok.injEq] at h
      rw [← h]
      exact hsteps

/-
Where there is a trace that was cut short and has steps, the answer shows all of it, unless it goes
for the trace of a program that printed and did nothing else.
-/
theorem answer_of_truncated (language : Language) {attempt : Except Setback Attempt}
    {raw : RawTrace} (hattempt : raw? attempt = some raw)
    (hraw : Timeline.ofRaw raw settings.maxSteps = .ok timeline)
    (htruncated : timeline.truncated = true) (hsteps : timeline.steps ≠ []) :
    ((∃ complete, attempt = .ok complete) ∧ IsOutputOnly timeline
        ∧ ∃ output, answer language settings attempt = .ok (outputOnly language output))
      ∨ (¬ ((∃ complete, attempt = .ok complete) ∧ IsOutputOnly timeline)
        ∧ answer language settings attempt
            =
          .ok (shown language settings timeline timeline.status)) := by
  cases attempt with
  | ok attempt =>
    rw [raw?, Option.some.injEq] at hattempt
    rw [← hattempt] at hraw
    by_cases houtput : IsOutputOnly timeline
    · exact .inl ⟨⟨attempt, rfl⟩, houtput, complete_of_isOutputOnly hraw houtput⟩
    · refine .inr ⟨?_, complete_of_not_isOutputOnly hraw hsteps houtput⟩
      rintro ⟨_, h⟩
      exact houtput h
  | error setback =>
    refine .inr ⟨?_, interrupted_of_truncated hattempt hraw htruncated⟩
    rintro ⟨⟨complete, h⟩, _⟩
    contradiction

end Tracing

section

variable {around : Surroundings} {settings : Settings} {name source stdin : String}
  {judge? : Option Judge} {result : TraceResult}

/--
An answer lacks steps exactly where a script failed for a reason of its own, all of the steps it
left behind can be looked at, and the ceiling on the count of steps leaves none of them.
-/
theorem trace_steps_eq_nil_iff
    (h : (trace around settings name source stdin judge?).1 = .ok result) :
    let script := instrument .javascript source (around.parse source)
    let prelude := Script.prelude stdin settings.maxSteps
    result.steps = []
      ↔
    (admitted settings name source = .ok (.javascript, none)
      ∧ ∃ failure captured items,
          around.sandbox.failure? prelude script = some failure
            ∧ Strategy.collected (around.sandbox.captured prelude script) = .ok captured
            ∧ Strategy.LeftBehind (Text.trimmed failure) captured items
            ∧ items.all (·.asObject?.isSome) = true
            ∧ Timeline.CutToNothing settings.maxSteps (items.filterMap Step.ofJson?)) := by
  intro script prelude
  constructor
  · intro hsteps
    rcases trace_cases h with ⟨_, _, _, output, message, hfailure⟩ | ⟨language, hadmitted, hanswer⟩
    · rw [hfailure] at hsteps
      contradiction
    · rw [Tracing.answer_steps_eq_nil_iff hanswer] at hsteps
      rcases hsteps with ⟨raw, timeline, hfailed, hraw, htruncated, hsteps⟩
      cases raw with
      | wire text cumulative =>
        -- A replay opens the initial step under every ceiling.
        have hlength := Timeline.length_of_ofWire hraw
        rw [hsteps, List.length_nil] at hlength
        omega
      | document json =>
        rcases Tracing.exists_leftBehind_of_document hfailed
          with ⟨rfl, failure, captured, items, hfailure, hcaptured, hleft, rfl⟩
        rw [Timeline.ofRaw, Except.ok.injEq] at hraw
        rw [← hraw] at htruncated hsteps
        rcases (Timeline.ofDocument_plainDocument_emptied_iff items settings.maxSteps).mp
          ⟨htruncated, hsteps⟩ with ⟨hobjects, hcut⟩
        exact ⟨hadmitted, failure, captured, items, hfailure, hcaptured, hleft, hobjects, hcut⟩
  · rintro ⟨hadmitted, failure, captured, items, hfailure, hcaptured, hleft, hobjects, hcut⟩
    rw [trace_fst_of_admitted hadmitted] at h
    rw [Tracing.answer_steps_eq_nil_iff h]
    refine ⟨.document (Timeline.plainDocument items), _, ?_, rfl, ?_⟩
    · exact Tracing.failedRaw?_sandboxed hfailure hcaptured hleft hobjects
    · rw [Timeline.ofDocument_plainDocument_emptied_iff]
      exact ⟨hobjects, hcut⟩

theorem trace_steps_eq_nil_iff_interrupted :
    let text := "\x7b\"steps\": [\x7b\x7d, \x7b\x7d], \"stopped\": false, \"waiting\": false\x7d"
    let sandbox : Sandbox :=
      { failure? := fun _ _ => some "interrupted", captured := fun _ _ => .ok (.str text) }
    let settings : Settings := { monitor := "monitor", maxSteps := -2 }
    let result : TraceResult :=
      { language := "javascript", truncated := true, message := Fault.stepLimitMessage (-2) }
    (trace { Surroundings.idle with sandbox } settings "js" "f()" "").1 = .ok result
      ∧ ∃ captured items, Strategy.collected (.ok (.str text)) = .ok captured
          ∧ Strategy.LeftBehind (Text.trimmed "interrupted") captured items
          ∧ Timeline.CutToNothing (-2) (items.filterMap Step.ofJson?) := by
  intro text sandbox settings result
  have h : (trace { Surroundings.idle with sandbox } settings "js" "f()" "").1 = .ok result := by
    decide +kernel
  rcases ((trace_steps_eq_nil_iff h).mp rfl).2
    with ⟨failure, captured, items, hfailure, hcaptured, hleft, _, hcut⟩
  rw [Option.some.injEq] at hfailure
  rw [← hfailure] at hleft
  exact ⟨h, captured, items, hcaptured, hleft, hcut⟩

theorem exists_trace_steps_eq_nil :
    let text := "\x7b\"steps\": [], \"stopped\": false, \"waiting\": false\x7d"
    let sandbox : Sandbox :=
      { failure? := fun _ _ => some "InternalError: interrupted"
        captured := fun _ _ => .ok (.str text) }
    let settings : Settings := { monitor := "monitor", maxSteps := -1 }
    ∃ result,
      (trace { Surroundings.idle with sandbox } settings "javascript" "while (true) ;" "").1
          =
        .ok result
        ∧ result.steps = [] := by
  intro text sandbox settings
  let message := Fault.stepLimitMessage (-1)
  refine ⟨{ language := "javascript", truncated := true, message }, ?_⟩
  decide +kernel

end

/--
A trace that was cut short and has steps is answered with all of its steps and with word that it was
cut short, unless its run came to its end and it has a single step without an error.
-/
theorem trace_shows_truncated_iff {around : Surroundings} {settings : Settings}
    {name source stdin : String} {judge? : Option Judge} {strategy? : Option Strategy}
    {language : Language} {attempt : Except Setback Attempt} {raw : RawTrace} {timeline : Timeline}
    (hadmitted : admitted settings name source = .ok (language, none))
    (hattempt :
      Tracing.attempted around settings (strategy?.getD (Strategy.ofLanguage around language))
          source stdin judge?
        =
      attempt)
    (hleft : Tracing.raw? attempt = some raw)
    (hraw : Timeline.ofRaw raw settings.maxSteps = .ok timeline)
    (htruncated : timeline.truncated = true) (hsteps : timeline.steps ≠ []) :
    ∃ result, (trace around settings name source stdin judge? strategy?).1 = .ok result ∧
      ((result.truncated = true ∧ result.steps = timeline.steps
          ∧ result.message = Fault.stepLimitMessage settings.maxSteps)
        ↔
      ¬ ((∃ complete, attempt = .ok complete) ∧ Tracing.IsOutputOnly timeline)) := by
  rw [trace_fst_of_admitted hadmitted, hattempt]
  rcases Tracing.answer_of_truncated language hleft hraw htruncated hsteps
    with ⟨hcomplete, houtput, output, hanswer⟩ | ⟨hnot, hanswer⟩
  · refine ⟨_, hanswer, ?_⟩
    constructor
    · rintro ⟨h, _⟩
      contradiction
    · intro h
      exact absurd ⟨hcomplete, houtput⟩ h
  · refine ⟨_, hanswer, ?_⟩
    constructor
    · intro _
      exact hnot
    · intro _
      refine ⟨htruncated, rfl, ?_⟩
      simp [Tracing.shown, Tracing.messageOf, htruncated]

theorem trace_shows_truncated_iff_judged :
    let stdout := "LINEMARK:3\nLINEMARK:4\n"
    let judge : Judge :=
      { submit := fun _ =>
          .ok { stdout := .str stdout, status := .str "Accepted", statusId := .int 3 } }
    let settings : Settings := { monitor := "monitor", maxSteps := 2 }
    let steps : List Step :=
      [.initial,
       { currentLine := 3, executedLines := [3], frames := [{ name := Timeline.wireFrameName }] }]
    ∃ result, (trace .idle settings "c++" "int main() \x7b\x7d" "" (some judge)).1 = .ok result
      ∧ result.truncated = true ∧ result.steps = steps
      ∧ result.message = "Step limit exceeded (max 2 steps)" := by
  intro stdout judge settings steps
  have hadmitted : admitted settings "c++" "int main() \x7b\x7d" = .ok (.cpp, none) := by
    decide +kernel
  have hattempt :
      Tracing.attempted .idle settings (Option.getD none (Strategy.ofLanguage .idle .cpp))
          "int main() \x7b\x7d" "" (some judge)
        =
      .ok { raw := .wire stdout false, output := .str stdout } := by
    decide +kernel
  have hraw : Timeline.ofRaw (.wire stdout false) 2 = .ok { steps, truncated := true } := by
    decide +kernel
  have hsteps : steps ≠ [] := by simp [steps]
  rcases trace_shows_truncated_iff hadmitted hattempt rfl hraw rfl hsteps
    with ⟨result, hresult, hshows⟩
  have hnot : ¬ Tracing.IsOutputOnly { steps, truncated := true } := by
    rintro ⟨step, hstep, _⟩
    simp [steps] at hstep
  rcases hshows.mpr (fun h => hnot h.2) with ⟨htruncated, hresultSteps, hmessage⟩
  exact ⟨result, hresult, htruncated, hresultSteps, hmessage⟩

theorem exists_trace_loses_truncated :
    let stdout := "LINEMARK:1\n"
    let judge : Judge :=
      { submit := fun _ =>
          .ok { stdout := .str stdout, status := .str "Accepted", statusId := .int 3 } }
    let settings : Settings := { monitor := "monitor", maxSteps := 1 }
    let source := "int main() \x7b\n    int x = 5;\n    return 0;\n\x7d"
    ∃ timeline result,
      admitted settings "cpp" source = .ok (.cpp, none)
        ∧ Tracing.raw?
            (Tracing.attempted .idle settings (Strategy.ofLanguage .idle .cpp) source ""
              (some judge))
          =
        some (.wire stdout false)
        ∧ Timeline.ofRaw (.wire stdout false) 1 = .ok timeline
        ∧ timeline.truncated = true ∧ timeline.steps ≠ []
        ∧ (trace .idle settings "cpp" source "" (some judge)).1 = .ok result
        ∧ result.truncated = false := by
  intro stdout judge settings source
  refine ⟨{ steps := [.initial], truncated := true }, Tracing.outputOnly .cpp "", ?_⟩
  decide +kernel

end Playback
