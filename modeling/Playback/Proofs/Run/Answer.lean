import Mathlib.Data.List.Basic
import Playback.Run.Tracing

/-!
This module contains what an answer shows: the ways in which it results from the attempt to run a
program.
-/

namespace Playback

def Setback.raw? : Setback → Option RawTrace
  | .timeout _ _ raw? => raw?
  | .midTrace _ raw? => raw?
  | _ => none

def failedRaw? {α : Type} : Except Setback α → Option RawTrace
  | .ok _ => none
  | .error setback => setback.raw?

theorem exists_of_failedRaw?_bind {α β : Type} {x : Except Setback α} {f : α → Except Setback β}
    {raw : RawTrace} (hx : failedRaw? x = none) (h : failedRaw? (x >>= f) = some raw) :
    ∃ a, x = .ok a ∧ failedRaw? (f a) = some raw := by
  cases x with
  | error setback =>
    have : setback.raw? = some raw := h
    rw [failedRaw?, this] at hx
    contradiction
  | ok a => exact ⟨a, rfl, h⟩

namespace Tracing

def raw? : Except Setback Attempt → Option RawTrace
  | .ok attempt => some attempt.raw
  | .error setback => setback.raw?

/--
What a strategy makes of a program. The usual judge takes the place of one that is missed.
-/
def attempted (around : Surroundings) (settings : Settings) (strategy : Strategy)
    (source stdin : String) (judge? : Option Judge) : Except Setback Attempt :=
  let judge? := if strategy.requiresJudge && judge?.isNone then some around.judge else judge?
  (strategy.execute source stdin settings judge?).1

/--
A trace that goes for nothing but output: one step without an error, and word that the run is
complete.
-/
def IsOutputOnly (timeline : Timeline) : Prop :=
  ∃ step, timeline.steps = [step] ∧ step.hasError = false ∧ timeline.status = .complete

variable {language : Language} {settings : Settings} {timeline : Timeline} {result : TraceResult}

theorem run_fst (around : Surroundings) (strategy : Strategy) (source stdin : String)
    (judge? : Option Judge) :
    (run around settings language strategy source stdin judge?).1
      =
    answer language settings (attempted around settings strategy source stdin judge?) := by
  unfold run attempted
  by_cases h : (strategy.requiresJudge && judge?.isNone) = true
  · simp [h]
  · simp [h]

theorem failed_cases {status : RunStatus} {output : Json} {message : String}
    (h : failed language status output message = .ok result) :
    ∃ text, output = .str text
      ∧ result
          =
        { language := language.name, status, message, steps := [.failure text message] } := by
  unfold failed at h
  split at h
  · next text =>
    simp only [Except.ok.injEq] at h
    exact ⟨text, rfl, h.symm⟩
  · contradiction

theorem broken_of_truncated {message : String} {raw : RawTrace} {status : RunStatus}
    (hraw : Timeline.ofRaw raw settings.maxSteps = .ok timeline)
    (htruncated : timeline.truncated = true) :
    broken language settings message raw status
      =
    .ok (shown language settings timeline timeline.status) := by
  unfold broken
  simp [hraw, htruncated, Except.mapError, bind, Except.bind, pure, Except.pure]

theorem broken_of_not_truncated {message : String} {raw : RawTrace} {status : RunStatus}
    (hraw : Timeline.ofRaw raw settings.maxSteps = .ok timeline)
    (htruncated : timeline.truncated = false) (hlength : 1 < timeline.steps.length) :
    broken language settings message raw status
      =
    .ok (shown language settings { timeline with steps := markLast message timeline.steps } status)
      := by
  have hnot : ¬ timeline.steps.length ≤ 1 := by omega
  unfold broken
  simp [hraw, htruncated, hnot, Except.mapError, bind, Except.bind, pure, Except.pure]

theorem broken_cases {message : String} {raw : RawTrace} {status : RunStatus}
    (h : broken language settings message raw status = .ok result) :
    ∃ timeline, Timeline.ofRaw raw settings.maxSteps = .ok timeline ∧
      ((timeline.truncated = true ∧ result = shown language settings timeline timeline.status)
        ∨ (timeline.truncated = false ∧ timeline.steps.length ≤ 1 ∧ ∃ output,
            result
              =
            { language := language.name, status, message, steps := [.failure output message] })
        ∨ (timeline.truncated = false ∧ 1 < timeline.steps.length ∧
            result
              =
            shown language settings
              { timeline with steps := markLast message timeline.steps } status)) := by
  cases hraw : Timeline.ofRaw raw settings.maxSteps with
  | error fault => simp [broken, hraw, Except.mapError, bind, Except.bind] at h
  | ok timeline =>
    refine ⟨timeline, rfl, ?_⟩
    cases htruncated : timeline.truncated with
    | true =>
      rw [broken_of_truncated hraw htruncated, Except.ok.injEq] at h
      exact .inl ⟨rfl, h.symm⟩
    | false =>
      by_cases hlength : 1 < timeline.steps.length
      · rw [broken_of_not_truncated hraw htruncated hlength, Except.ok.injEq] at h
        exact .inr (.inr ⟨rfl, hlength, by rw [← h, htruncated]⟩)
      · have hle : timeline.steps.length ≤ 1 := by omega
        simp only [broken, hraw, htruncated, hle, Except.mapError, bind, Except.bind,
          Bool.false_eq_true, ↓reduceIte] at h
        rcases failed_cases h with ⟨output, _, hresult⟩
        exact .inr (.inl ⟨rfl, hle, output, hresult⟩)

theorem complete_of_isOutputOnly {attempt : Attempt}
    (hraw : Timeline.ofRaw attempt.raw settings.maxSteps = .ok timeline)
    (houtput : IsOutputOnly timeline) :
    ∃ output, complete language settings attempt = .ok (outputOnly language output) := by
  rcases houtput with ⟨step, hsteps, herror, hstatus⟩
  refine ⟨step.output, ?_⟩
  unfold complete
  simp [hraw, hsteps, herror, hstatus, Except.mapError, bind, Except.bind, pure, Except.pure]

theorem complete_of_not_isOutputOnly {attempt : Attempt}
    (hraw : Timeline.ofRaw attempt.raw settings.maxSteps = .ok timeline)
    (hsteps : timeline.steps ≠ []) (houtput : ¬ IsOutputOnly timeline) :
    complete language settings attempt
      =
    .ok (shown language settings timeline timeline.status) := by
  unfold complete
  simp only [hraw, Except.mapError, bind, Except.bind, pure, Except.pure]
  split
  · contradiction
  · next step hstep =>
    rw [if_neg]
    intro h
    simp only [Bool.and_eq_true, Bool.not_eq_true', decide_eq_true_eq] at h
    exact houtput ⟨step, hstep, h.1, h.2⟩
  · rfl

theorem complete_cases {attempt : Attempt} (h : complete language settings attempt = .ok result) :
    ∃ timeline, Timeline.ofRaw attempt.raw settings.maxSteps = .ok timeline ∧
      ((timeline.steps = [] ∧
          failed language .error attempt.output "Tracer produced no steps" = .ok result)
        ∨ (IsOutputOnly timeline ∧ ∃ output, result = outputOnly language output)
        ∨ (timeline.steps ≠ [] ∧ ¬ IsOutputOnly timeline ∧
            result = shown language settings timeline timeline.status)) := by
  cases hraw : Timeline.ofRaw attempt.raw settings.maxSteps with
  | error fault => simp [complete, hraw, Except.mapError, bind, Except.bind] at h
  | ok timeline =>
    refine ⟨timeline, rfl, ?_⟩
    by_cases hsteps : timeline.steps = []
    · simp only [complete, hraw, hsteps, Except.mapError, bind, Except.bind] at h
      exact .inl ⟨hsteps, h⟩
    · by_cases houtput : IsOutputOnly timeline
      · rcases complete_of_isOutputOnly hraw houtput with ⟨output, hcomplete⟩
        rw [hcomplete, Except.ok.injEq] at h
        exact .inr (.inl ⟨houtput, output, h.symm⟩)
      · rw [complete_of_not_isOutputOnly hraw hsteps houtput, Except.ok.injEq] at h
        exact .inr (.inr ⟨hsteps, houtput, h.symm⟩)

/-
A run that failed is answered with the trace it left behind if there is one, and else with the one
step of its failure.
-/
theorem interrupted_cases {setback : Setback}
    (h : interrupted language settings setback = .ok result) :
    (setback.raw? = none ∧ ∃ output message, result.steps = [.failure output message])
      ∨ ∃ raw message status, setback.raw? = some raw
          ∧ broken language settings message raw status = .ok result := by
  unfold interrupted at h
  split at h
  · rcases failed_cases h with ⟨output, _, rfl⟩
    exact .inl ⟨rfl, output, _, rfl⟩
  · exact .inr ⟨_, _, _, rfl, h⟩
  · rcases failed_cases h with ⟨output, _, rfl⟩
    exact .inl ⟨rfl, output, _, rfl⟩
  · rcases failed_cases h with ⟨output, _, rfl⟩
    exact .inl ⟨rfl, output, _, rfl⟩
  · exact .inr ⟨_, _, _, rfl, h⟩
  · contradiction

theorem interrupted_of_truncated {setback : Setback} {raw : RawTrace}
    (hsetback : setback.raw? = some raw)
    (hraw : Timeline.ofRaw raw settings.maxSteps = .ok timeline)
    (htruncated : timeline.truncated = true) :
    interrupted language settings setback
      =
    .ok (shown language settings timeline timeline.status) := by
  unfold interrupted
  split
  all_goals
    simp only [Setback.raw?, Option.some.injEq, reduceCtorEq] at hsetback
  · rw [hsetback]
    exact broken_of_truncated hraw htruncated
  · rw [hsetback]
    exact broken_of_truncated hraw htruncated

theorem markLast_concat (message : String) (steps : List Step) (step : Step) :
    markLast message (steps ++ [step]) = steps ++ [{ step with error := some message }] := by
  induction steps with
  | nil => rfl
  | cons first steps ih =>
    rw [List.cons_append, List.cons_append, ← ih]
    cases steps with
    | nil => rfl
    | cons second steps => rfl

theorem markLast_inj {message other : String} {steps : List Step} (hsteps : steps ≠ [])
    (h : markLast message steps = markLast other steps) : message = other := by
  rcases steps.eq_nil_or_concat' with rfl | ⟨steps, step, rfl⟩
  · contradiction
  · rw [markLast_concat, markLast_concat] at h
    have hlast := List.singleton_inj.mp (List.append_cancel_left h)
    rw [Step.mk.injEq] at hlast
    exact Option.some.inj hlast.2.2.2.2.2

/-
A trace that was not cut short keeps all of its steps, and the last one says what is said about the run.
-/
theorem broken_eq_marked {message : String} {raw : RawTrace} {status : RunStatus}
    (hraw : Timeline.ofRaw raw settings.maxSteps = .ok timeline)
    (htruncated : timeline.truncated = false) (hlength : 1 < timeline.steps.length) :
    broken language settings message raw status
      =
    .ok
      { language := language.name
        status
        message
        steps := markLast message timeline.steps } := by
  rw [broken_of_not_truncated hraw htruncated hlength]
  rcases timeline.steps.eq_nil_or_concat' with hnil | ⟨front, last, hsteps⟩
  · simp [hnil] at hlength
  · rw [hsteps, markLast_concat]
    simp [shown, messageOf, htruncated]

theorem length_markLast (message : String) (steps : List Step) :
    (markLast message steps).length = steps.length := by
  rcases steps.eq_nil_or_concat' with rfl | ⟨steps, step, rfl⟩
  · rfl
  · rw [markLast_concat, List.length_append, List.length_append]
    rfl

end Tracing

/-
The answer to a request is either the step that tells why its program is refused, or what the
strategy of the request makes of the program.
-/
theorem trace_cases {around : Surroundings} {settings : Settings} {name source stdin : String}
    {judge? : Option Judge} {strategy? : Option Strategy} {result : TraceResult}
    (h : (trace around settings name source stdin judge? strategy?).1 = .ok result) :
    (∃ language rejection, admitted settings name source = .ok (language, some rejection)
        ∧ ∃ output message, result.steps = [.failure output message])
      ∨ ∃ language, admitted settings name source = .ok (language, none)
          ∧ Tracing.answer language settings
              (Tracing.attempted around settings
                (strategy?.getD (Strategy.ofLanguage around language)) source stdin judge?)
              =
            .ok result := by
  unfold trace at h
  split at h
  · contradiction
  · next language rejection hadmitted =>
    dsimp only at h
    rcases Tracing.failed_cases h with ⟨output, _, rfl⟩
    exact .inl ⟨language, rejection, hadmitted, output, _, rfl⟩
  · next language hadmitted =>
    rw [Tracing.run_fst] at h
    exact .inr ⟨language, hadmitted, h⟩

theorem trace_fst_of_admitted {around : Surroundings} {settings : Settings} {name source : String}
    {language : Language} (h : admitted settings name source = .ok (language, none))
    (stdin : String) (judge? : Option Judge) (strategy? : Option Strategy) :
    (trace around settings name source stdin judge? strategy?).1
      =
    Tracing.answer language settings
      (Tracing.attempted around settings (strategy?.getD (Strategy.ofLanguage around language))
        source stdin judge?) := by
  unfold trace
  simp only [h]
  rw [Tracing.run_fst]

end Playback
