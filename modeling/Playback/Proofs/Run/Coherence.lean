import Playback.Proofs.Run.Answer
import Playback.Proofs.Trace.Coherence

/-!
This module contains the proof that every answer to a request for a trace shows coherent steps, no
more of them than were asked for.
-/

namespace Playback

theorem Coherent.failure (output message : String) : Coherent [.failure output message] := by
  apply Coherent.singleton
  · apply List.Pairwise.nil
  · apply List.nodup_nil

namespace Tracing

variable {language : Language} {settings : Settings} {result : TraceResult}

theorem coherent_outputOnly (language : Language) (output : String) :
    Coherent (outputOnly language output).steps := by
  apply Coherent.singleton
  · apply List.pairwise_singleton
  · apply List.nodup_nil

/-
An error on the last step is not among what steps keep of each other.
-/
theorem coherent_markLast (message : String) (steps : List Step) (h : Coherent steps) :
    Coherent (markLast message steps) := by
  rcases steps.eq_nil_or_concat' with rfl | ⟨steps, last, rfl⟩
  · exact h
  · rw [markLast_concat]
    constructor
    · have hascending := h.ascending
      rw [List.forall_mem_append, List.forall_mem_singleton] at hascending ⊢
      exact hascending
    · have hdistinct := h.distinct
      rw [List.forall_mem_append, List.forall_mem_singleton] at hdistinct ⊢
      exact hdistinct
    · have hchain := h.chain
      rw [List.isChain_append] at *
      rcases hchain with ⟨hsteps, _, hlast⟩
      refine ⟨hsteps, .singleton _, ?_⟩
      intro step hstep next hnext
      simp only [List.head?_cons, Option.mem_def, Option.some.injEq] at hnext
      rcases hlast step hstep last rfl with ⟨hexecuted, hobjects, houtput⟩
      rw [← hnext]
      exact ⟨hexecuted, hobjects, houtput⟩

structure Sound (settings : Settings) (result : TraceResult) : Prop where
  length : result.steps.length ≤ max 1 settings.maxSteps
  coherent : Coherent result.steps

theorem sound_of_failure {output message : String} (h : result.steps = [.failure output message]) :
    Sound settings result where
  length := by
    rw [h, List.length_singleton]
    omega
  coherent := by
    rw [h]
    apply Coherent.failure

theorem sound_shown {raw : RawTrace} {timeline : Timeline} (hmax : 0 ≤ settings.maxSteps)
    (hraw : Timeline.ofRaw raw settings.maxSteps = .ok timeline) (status : RunStatus) :
    Sound settings (shown language settings timeline status) where
  length := Timeline.length_of_ofRaw_le hraw hmax
  coherent := Timeline.coherent_of_ofRaw hraw

theorem sound_broken {message : String} {raw : RawTrace} {status : RunStatus}
    (hmax : 0 ≤ settings.maxSteps)
    (h : broken language settings message raw status = .ok result) : Sound settings result := by
  rcases broken_cases h with ⟨timeline, hraw, ⟨_, rfl⟩ | ⟨_, _, output, rfl⟩ | ⟨_, _, rfl⟩⟩
  · exact sound_shown hmax hraw timeline.status
  · exact sound_of_failure rfl
  · have hshown : Sound settings (shown language settings timeline status) :=
      sound_shown hmax hraw status
    constructor
    · dsimp only [shown]
      rw [length_markLast]
      exact hshown.length
    · apply coherent_markLast
      exact hshown.coherent

theorem sound_complete {attempt : Attempt} (hmax : 0 ≤ settings.maxSteps)
    (h : complete language settings attempt = .ok result) : Sound settings result := by
  rcases complete_cases h
    with ⟨timeline, hraw, ⟨_, hfailed⟩ | ⟨_, output, rfl⟩ | ⟨_, _, rfl⟩⟩
  · rcases failed_cases hfailed with ⟨output, _, rfl⟩
    exact sound_of_failure rfl
  · constructor
    · simp [outputOnly]
    · apply coherent_outputOnly
  · exact sound_shown hmax hraw timeline.status

theorem sound_answer {attempt : Except Setback Attempt} (hmax : 0 ≤ settings.maxSteps)
    (h : answer language settings attempt = .ok result) : Sound settings result := by
  cases attempt with
  | ok attempt =>
    apply sound_complete hmax
    exact h
  | error setback =>
    rcases interrupted_cases h
      with ⟨_, output, message, hsteps⟩ | ⟨raw, message, status, _, hbroken⟩
    · exact sound_of_failure hsteps
    · exact sound_broken hmax hbroken

end Tracing

/--
Whatever language is traced, and whatever the judge, the engine or the monitor answer, a result has no more
steps than asked for, but for the single step of a failure. Its lines ascend, its ids are distinct, and each
step keeps the lines, ids and output of the one before.
-/
theorem coherent_trace {around : Surroundings} {settings : Settings} {name source stdin : String}
    {judge? : Option Judge} {strategy? : Option Strategy} {result : TraceResult}
    (hmax : 0 ≤ settings.maxSteps)
    (h : (trace around settings name source stdin judge? strategy?).1 = .ok result) :
    result.steps.length ≤ max 1 settings.maxSteps ∧ Coherent result.steps := by
  have hsound : Tracing.Sound settings result := by
    rcases trace_cases h with ⟨_, _, _, output, message, hsteps⟩ | ⟨language, _, hanswer⟩
    · exact Tracing.sound_of_failure hsteps
    · exact Tracing.sound_answer hmax hanswer
  exact ⟨hsound.length, hsound.coherent⟩

theorem coherent_trace_repaired :
    let document :=
      "\x7b\"steps\": [\x7b\"executedLines\": [2, 1], \"objects\": [\x7b\"id\": \"a\"\x7d],"
        ++ "\"output\": \"hi\"\x7d, \x7b\x7d, \x7b\"executedLines\": [3]\x7d]\x7d"
    let around : Surroundings :=
      { Surroundings.idle with perform := fun _ => .finished document "" 0 (.ofInt 0) }
    let settings : Settings := { monitor := "monitor", maxSteps := 2 }
    let shown : Step := { executedLines := [1, 2], objects := [{ id := "a" }], output := "hi" }
    let result : TraceResult :=
      { language := "python"
        truncated := true
        message := "Step limit exceeded (max 2 steps)"
        steps := [shown, shown] }
    (trace around settings "py" "x = 1" "").1 = .ok result
      ∧ result.steps.length ≤ max 1 settings.maxSteps ∧ Coherent result.steps := by
  intro document around settings shown result
  have h : (trace around settings "py" "x = 1" "").1 = .ok result := by decide +kernel
  exact ⟨h, coherent_trace (by decide) h⟩

end Playback
