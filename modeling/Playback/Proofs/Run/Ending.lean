import Playback.Proofs.Run.Truncation
import Playback.Proofs.Text.Lines
import Playback.Proofs.Trace.Parse

/-!
This module contains the proof that the way in which a judged run ends has no part in its steps: it
is told by the error of the last one, or not at all if the trace was cut short.
-/

namespace Playback

namespace Judge

inductive Ending where
  | accepted
  | timedOut
  | failed (message : String)
deriving DecidableEq

namespace Ending

def status : Ending → RunStatus
  | .accepted => .complete
  | .timedOut => .timeout
  | .failed _ => .error

def error? : Ending → Option String
  | .accepted => none
  | .timedOut => some Fault.timeoutMessage
  | .failed message => some message

end Ending

namespace Verdict

/--
The ending that a verdict tells. A time that is over counts for more than anything else.
-/
def ending? (verdict : Verdict) : Option Ending :=
  if verdict.isTimedOut then some .timedOut
  else if verdict.isAccepted then some .accepted
  else verdict.errorText?.map .failed

variable {verdict : Verdict}

theorem errorText?_eq {stderr compileOutput : String} (hstderr : verdict.stderr = .str stderr)
    (hcompileOutput : verdict.compileOutput = .str compileOutput) :
    verdict.errorText?
      =
    if Text.trimmed compileOutput ≠ "" then some (Text.trimmed compileOutput)
    else if Text.trimmed stderr ≠ "" then some (Text.trimmed stderr)
    else some (if verdict.isAccepted then "" else "Status: " ++ verdict.status.display) := by
  unfold errorText?
  rw [hstderr, hcompileOutput]
  simp only [Json.asText?, bne_iff_ne, Option.bind_eq_bind, Option.bind_some, Option.pure_def]

/-
The status is told where nothing else is said.
-/
theorem exists_errorText {stderr compileOutput : String} (hstderr : verdict.stderr = .str stderr)
    (hcompileOutput : verdict.compileOutput = .str compileOutput)
    (hnot : verdict.isAccepted = false) :
    ∃ message, verdict.errorText? = some message ∧ message ≠ "" := by
  rw [errorText?_eq hstderr hcompileOutput, hnot]
  split
  · next hcompiler => exact ⟨_, rfl, hcompiler⟩
  · split
    · next hprogram => exact ⟨_, rfl, hprogram⟩
    · exact ⟨_, rfl, by simp⟩

end Verdict

end Judge

namespace Text

theorem isBlankText_of_marks {stdout : String}
    (h : Record.marks (Record.ofLines (closedLines stdout)) ≠ []) : isBlankText stdout = false := by
  rw [← Bool.not_eq_true]
  intro hblank
  apply h
  unfold isBlankText at hblank
  rw [List.all_eq_true] at hblank
  unfold Record.marks Record.ofLines
  rw [List.filterMap_filterMap, List.filterMap_eq_nil_iff]
  intro line hline
  -- Each mark ends in a colon, and there is none among white space.
  have hcolons : ∀ mark ∈ ["HEAPPUT:", "VARBIND:", "LINEMARK:"], ':' ∈ mark.toList := by decide
  have hmark : ¬ Record.HasMark line := by
    rintro ⟨mark, hmark, hbegins⟩
    have hcolon := hbegins.subset (hcolons mark hmark)
    have hline := (closedLines_prefix_lines stdout).subset hline
    have hcolon := hblank ':' (mem_of_mem_lines hline hcolon (by decide))
    have hnot : isBlank ':' = false := by decide
    rw [hnot] at hcolon
    cases hcolon
  rw [Record.parse_of_not_hasMark hmark]
  rfl

end Text

namespace Strategy

def submission (around : Surroundings) (language : Language) (source stdin : String) :
    Judge.Submission :=
  { source := instrument language source (around.parse source)
    language := judgedAs language
    stdin
    compilerOptions := compilerOptions language }

/--
A judge's answer to the program of a request, whose output is a given text.
-/
structure Judged (language : Language) (source stdin stdout : String) where
  around : Surroundings
  judge? : Option Judge
  verdict : Judge.Verdict
  submit :
    (judge?.getD around.judge).submit (submission around language source stdin) = .ok verdict
  verdict_stdout : verdict.stdout = .str stdout

def attemptOf (raw : RawTrace) (stdout : String) : Judge.Ending → Except Setback Attempt
  | .accepted => .ok { raw, output := .str stdout }
  | .timedOut => .error (.timeout (.whole 0) (.str "") (some raw))
  | .failed message => .error (.midTrace message (some raw))

theorem ofVerdict_of_ending {language : Language} {verdict : Judge.Verdict} {stdout : String}
    {ending : Judge.Ending} (hstdout : verdict.stdout = .str stdout)
    (hblank : Text.isBlankText stdout = false) (hending : verdict.ending? = some ending) :
    ofVerdict language verdict
      =
    attemptOf (.wire stdout (isCumulative language)) stdout ending := by
  unfold ofVerdict
  unfold Judge.Verdict.ending? at hending
  rw [hstdout]
  dsimp only
  split at hending
  · next htimedOut =>
    rw [if_pos htimedOut]
    rw [← Option.some.inj hending]
    rfl
  · next htimedOut =>
    rw [if_neg htimedOut]
    split at hending
    · next haccepted =>
      rw [if_pos haccepted]
      rw [← Option.some.inj hending]
      rfl
    · next haccepted =>
      rw [Option.map_eq_some_iff] at hending
      rcases hending with ⟨message, hmessage, rfl⟩
      rw [if_neg haccepted, hmessage]
      dsimp only
      rw [hblank]
      rfl

namespace Judged

variable {language : Language} {source stdin stdout : String}

theorem attempted_eq (judged : Judged language source stdin stdout)
    (hlanguage : isJudged language = true) (settings : Settings) :
    Tracing.attempted judged.around settings (ofLanguage judged.around language) source stdin
        judged.judge?
      =
    ofVerdict language judged.verdict := by
  have hstrategy :
      ofLanguage judged.around language = Strategy.judged judged.around.parse language := by
    cases language with
    | python => contradiction
    | javascript => contradiction
    | _ => rfl
  have hjudge :
      (if (Strategy.judged judged.around.parse language).requiresJudge && judged.judge?.isNone then
        some judged.around.judge
      else
        judged.judge?)
        =
      some (judged.judge?.getD judged.around.judge) := by
    cases judged.judge? with
    | none => rfl
    | some judge => rfl
  have hsubmit := judged.submit
  unfold submission at hsubmit
  unfold Tracing.attempted
  rw [hstrategy, hjudge]
  unfold Strategy.judged
  dsimp only
  rw [hsubmit]

end Judged

end Strategy

theorem Step.eq_of_error_eq_none (step : Step) (h : step.error = none) :
    { step with error := none } = step := by
  rw [← h]

namespace Tracing

variable {settings : Settings} {timeline : Timeline} {raw : RawTrace}

theorem answer_attemptOf_of_truncated (language : Language) (stdout : String)
    (ending : Judge.Ending) (hraw : Timeline.ofRaw raw settings.maxSteps = .ok timeline)
    (htruncated : timeline.truncated = true) (hlength : 1 < timeline.steps.length) :
    answer language settings (Strategy.attemptOf raw stdout ending)
      =
    .ok (shown language settings timeline timeline.status) := by
  have hleft : raw? (Strategy.attemptOf raw stdout ending) = some raw := by
    cases ending with
    | _ => rfl
  have hsteps : timeline.steps ≠ [] := by
    intro hnil
    simp [hnil] at hlength
  rcases answer_of_truncated language hleft hraw htruncated hsteps
    with ⟨_, ⟨step, hstep, _⟩, _⟩ | ⟨_, hanswer⟩
  · simp [hstep] at hlength
  · exact hanswer

theorem answer_attemptOf_of_not_truncated (language : Language) (stdout : String)
    (ending : Judge.Ending) {front : List Step} {last : Step}
    (hraw : Timeline.ofRaw raw settings.maxSteps = .ok timeline)
    (hstatus : timeline.status = .complete) (htruncated : timeline.truncated = false)
    (hsteps : timeline.steps = front ++ [last]) (hfront : front ≠ []) (hlast : last.error = none) :
    answer language settings (Strategy.attemptOf raw stdout ending)
      =
    .ok
      { language := language.name
        status := ending.status
        truncated := false
        message := ending.error?.getD ""
        steps := front ++ [{ last with error := ending.error? }] } := by
  have hlength : 1 < timeline.steps.length := by
    have := List.length_pos_iff.mpr hfront
    rw [hsteps, List.length_append, List.length_singleton]
    omega
  -- All endings but one put an error on the last step.
  have hbroken (message : String) (status : RunStatus) :
      broken language settings message raw status
        =
      .ok
        { language := language.name
          status
          truncated := false
          message
          steps := front ++ [{ last with error := some message }] } := by
    rw [broken_eq_marked hraw htruncated hlength, hsteps, markLast_concat]
  cases ending with
  | accepted =>
    have houtput : ¬ IsOutputOnly timeline := by
      rintro ⟨step, hstep, _⟩
      simp [hstep] at hlength
    have hne : timeline.steps ≠ [] := by simp [hsteps]
    unfold Strategy.attemptOf answer
    dsimp only
    rw [complete_of_not_isOutputOnly hraw hne houtput, hstatus]
    simp [shown, messageOf, htruncated, hsteps, hlast, last.eq_of_error_eq_none hlast,
      Judge.Ending.error?, Judge.Ending.status]
  | timedOut => exact hbroken Fault.timeoutMessage .timeout
  | failed message => exact hbroken message .error

end Tracing

/--
Whether a judged run is accepted, has run out of time or has failed, its steps are the same. If they
were cut short, nothing else is told either, and otherwise the last step has the error of the ending
and nothing else tells the answers apart.
-/
theorem trace_endings {settings : Settings} {language : Language} {timeline : Timeline}
    {name source stdin stdout stderr compileOutput : String}
    (hlanguage : Strategy.isJudged language = true)
    (hadmitted : admitted settings name source = .ok (language, none))
    (hmaxSteps : 2 ≤ settings.maxSteps)
    (hmarks : Record.marks (Record.ofLines (Text.closedLines stdout)) ≠ [])
    (htimeline :
      Timeline.ofRaw (.wire stdout (Strategy.isCumulative language)) settings.maxSteps
        =
      .ok timeline)
    (accepted timedOut failed : Strategy.Judged language source stdin stdout)
    (haccepted : accepted.verdict.isTimedOut = false ∧ accepted.verdict.isAccepted = true)
    (htimedOut : timedOut.verdict.isTimedOut = true)
    (hfailed : failed.verdict.isTimedOut = false ∧ failed.verdict.isAccepted = false)
    (hstderr : failed.verdict.stderr = .str stderr)
    (hcompileOutput : failed.verdict.compileOutput = .str compileOutput) :
    ∃ whole late broken message,
      (trace accepted.around settings name source stdin accepted.judge?).1 = .ok whole
        ∧ (trace timedOut.around settings name source stdin timedOut.judge?).1 = .ok late
        ∧ (trace failed.around settings name source stdin failed.judge?).1 = .ok broken
        ∧ failed.verdict.errorText? = some message
        ∧ message ≠ ""
        ∧ (timeline.truncated = true →
            whole
                =
              { language := language.name
                status := .complete
                truncated := true
                message := Fault.stepLimitMessage settings.maxSteps
                steps := timeline.steps }
              ∧ late = whole
              ∧ broken = whole
              ∧ ∀ step ∈ whole.steps, step.error = none)
        ∧ (timeline.truncated = false →
            ∃ front last, timeline.steps = front ++ [last]
              ∧ last.error = none
              ∧ whole = { language := language.name, steps := timeline.steps }
              ∧ late
                  =
                { language := language.name
                  status := .timeout
                  message := "Execution timed out"
                  steps := front ++ [{ last with error := some "Execution timed out" }] }
              ∧ broken
                  =
                { language := language.name
                  status := .error
                  message
                  steps := front ++ [{ last with error := some message }] }) := by
  -- There is a step besides the initial one, so the trace never goes for one of mere output.
  have hlength : 1 < timeline.steps.length := by
    have := List.length_pos_iff.mpr hmarks
    rw [Timeline.length_of_ofWire htimeline]
    omega
  have hblank := Text.isBlankText_of_marks hmarks
  have hnone := Timeline.error_of_mem_ofWire htimeline
  have hstatus := Timeline.status_of_ofWire htimeline
  rcases Judge.Verdict.exists_errorText hstderr hcompileOutput hfailed.2
    with ⟨message, hmessage, hne⟩
  have hanswer (judged : Strategy.Judged language source stdin stdout) (ending : Judge.Ending)
      (hending : judged.verdict.ending? = some ending) :
      (trace judged.around settings name source stdin judged.judge?).1
        =
      Tracing.answer language settings
        (Strategy.attemptOf (.wire stdout (Strategy.isCumulative language)) stdout ending) := by
    rw [trace_fst_of_admitted hadmitted]
    change Tracing.answer language settings
      (Tracing.attempted judged.around settings (Strategy.ofLanguage judged.around language) source
        stdin judged.judge?) = _
    rw [judged.attempted_eq hlanguage,
      Strategy.ofVerdict_of_ending judged.verdict_stdout hblank hending]
  have hwhole := hanswer accepted .accepted (by simp [Judge.Verdict.ending?, haccepted])
  have hlate := hanswer timedOut .timedOut (by simp [Judge.Verdict.ending?, htimedOut])
  have hbroken := hanswer failed (.failed message)
    (by simp [Judge.Verdict.ending?, hfailed, hmessage])
  cases htruncated : timeline.truncated with
  | true =>
    rw [Tracing.answer_attemptOf_of_truncated _ _ _ htimeline htruncated hlength]
      at hwhole hlate hbroken
    refine ⟨_, _, _, message, hwhole, hlate, hbroken, hmessage, hne, ?_, by simp⟩
    intro _
    refine ⟨?_, rfl, rfl, hnone⟩
    simp [Tracing.shown, Tracing.messageOf, htruncated, hstatus]
  | false =>
    rcases timeline.steps.eq_nil_or_concat' with hnil | ⟨front, last, hsteps⟩
    · simp [hnil] at hlength
    · have hfront : front ≠ [] := by
        rintro rfl
        simp [hsteps] at hlength
      have hlast : last.error = none := hnone last (by simp [hsteps])
      rw [Tracing.answer_attemptOf_of_not_truncated _ _ _ htimeline hstatus htruncated hsteps hfront
        hlast] at hwhole hlate hbroken
      refine ⟨_, _, _, message, hwhole, hlate, hbroken, hmessage, hne, by simp, ?_⟩
      intro _
      refine ⟨front, last, hsteps, hlast, ?_, rfl, rfl⟩
      rw [hsteps, Judge.Ending.error?, last.eq_of_error_eq_none hlast]
      rfl

theorem trace_endings_exited :
    let stdout := "LINEMARK:3\nhello\n"
    let source := "int main() \x7b\x7d"
    let verdict (status stderr : String) : Judge.Verdict :=
      { stdout := .str stdout, stderr := .str stderr, status := .str status }
    let settings : Settings := { monitor := "monitor", maxSteps := 2 }
    let answer (status stderr : String) : Except Mishap TraceResult :=
      let judge : Judge := { submit := fun _ => .ok (verdict status stderr) }
      (trace .idle settings "c++" source "" (some judge)).1
    let opened : Step :=
      { currentLine := 3
        executedLines := [3]
        frames := [{ name := Timeline.wireFrameName }]
        output := "hello\n" }
    answer "Accepted" "" = .ok { language := "cpp", steps := [.initial, opened] }
      ∧ answer "timeout" ""
          =
        .ok
          { language := "cpp"
            status := .timeout
            message := "Execution timed out"
            steps := [.initial, { opened with error := some "Execution timed out" }] }
      ∧ answer "Runtime Error" "exit 1\n"
          =
        .ok
          { language := "cpp"
            status := .error
            message := "exit 1"
            steps := [.initial, { opened with error := some "exit 1" }] } := by
  intro stdout source verdict settings answer opened
  let judged (status stderr : String) : Strategy.Judged .cpp source "" stdout :=
    { around := .idle
      judge? := some { submit := fun _ => .ok (verdict status stderr) }
      verdict := verdict status stderr
      submit := rfl
      verdict_stdout := rfl }
  have hadmitted : admitted settings "c++" source = .ok (.cpp, none) := by decide +kernel
  have hmarks : Record.marks (Record.ofLines (Text.closedLines stdout)) ≠ [] := by decide +kernel
  have htimeline : Timeline.ofRaw (.wire stdout false) 2 = .ok { steps := [.initial, opened] } := by
    decide +kernel
  have hexit : (verdict "Runtime Error" "exit 1\n").errorText? = some "exit 1" := by decide +kernel
  rcases trace_endings rfl hadmitted (by decide) hmarks htimeline (judged "Accepted" "")
    (judged "timeout" "") (judged "Runtime Error" "exit 1\n") (by decide +kernel)
    (by decide +kernel) (by decide +kernel) rfl rfl
    with ⟨whole, late, broken, message, hwhole, hlate, hbroken, hmessage, _, _, hends⟩
  rw [hexit, Option.some.injEq] at hmessage
  rcases hends rfl with ⟨front, last, hsteps, _, rfl, rfl, rfl⟩
  have hparts : [.initial] ++ [opened] = front ++ [last] := hsteps
  rcases List.append_inj' hparts rfl with ⟨rfl, hlast⟩
  rw [List.cons.injEq] at hlast
  rw [← hlast.1] at hlate hbroken
  rw [← hmessage] at hbroken
  exact ⟨hwhole, hlate, hbroken⟩

end Playback
