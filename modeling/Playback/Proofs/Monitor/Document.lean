import Mathlib.Algebra.Ring.Int.Defs
import Playback.Monitor.Job
import Playback.Proofs.Monitor.Report
import Playback.Proofs.Object.Written
import Playback.Run.Strategy

/-!
This module contains which documents come back when they are written by one program and read by another:
those without whole numbers of too many digits, if the traced program holds no floating point number.
-/

namespace Playback

open Json (Plain)

theorem Frame.plain_toJson {frame : Frame} (h : Plain (.obj frame.bindings)) : Plain frame.toJson :=
  frame.admitted_toJson Json.admits_plain h

theorem Step.plain_toJson {step : Step} (hframes : ∀ frame ∈ step.frames, Plain frame.toJson)
    (hobjects : ∀ entry ∈ step.objects, Plain entry.toJson) : Plain step.toJson :=
  step.admitted_toJson Json.admits_plain (fun line _ => .int line) hframes hobjects

theorem Step.plain_failure (output message : String) : Plain (Step.failure output message).toJson := by
  apply plain_toJson
  · unfold failure
    rw [List.forall_mem_singleton]
    exact Frame.plain_toJson (.obj List.nodup_nil (by simp))
  · simp [failure]

namespace Monitor

variable {p : Program} {supply : Supply} {maxSteps : Int}

/-
All that a step shows are values of the program and its objects.
-/
theorem Program.Captures.plain_toJson {step : Step} (hfloats : ∀ v ∈ p.values, v.isFloat = false)
    (h : p.Captures supply maxSteps step) : Plain step.toJson := by
  have hscalar : ∀ v ∈ p.values, ∀ json, Encoder.scalar {} v = .ok json → Plain json := by
    intro v hv json
    exact Value.plain_scalar (hfloats v hv)
  cases h with
  | @event done guarded kind i line bind unbind moment call hactions hmoment hcall hpictures =>
    -- The event may bind variables itself, and then they are among the values of its action.
    have hvalues : moment.values ⊆ p.values := by
      have hmem : (guarded, .event kind i line bind unbind) ∈ p.actions := hactions.subset (by simp)
      rw [hmoment]
      apply List.Subset.trans (Machine.values_move_subset ..)
      rw [List.append_subset]
      constructor
      · exact values_of_action hmem
      · exact values_after_subset supply maxSteps ((List.prefix_append ..).trans hactions)
    apply Step.plain_toJson
    · apply forall₂_right (P := fun frame => Plain frame.toJson) hpictures.frames
      intro member hmember frame hmirrors
      have hmember : member ∈ moment.activations :=
        mem_of_mem_callStack _ _ (Capture.mem_of_mem_userCode hmember)
      apply Frame.plain_toJson
      apply admitted_of_latest Json.admits_plain hmirrors.2
      intro v hv json hshows
      have hheld : v ∈ moment.values := by
        apply Machine.values_of_call hmember
        exact List.map_subset Prod.snd (List.filter_subset_self _) hv
      cases hshows with
      | reference => exact .str _
      | scalar _ hshown => exact hscalar v (hvalues hheld) _ hshown
    · rcases hpictures.objects with ⟨encoder, _, hdescribes⟩
      intro entry hentry
      rcases hdescribes entry hentry with ⟨memory, ⟨past, hpast, rfl⟩, hentry⟩
      apply hentry.admitted Json.admits_plain
      intro v hv
      exact hscalar v (values_after_subset supply maxSteps hpast (List.mem_append_left _ hv))

theorem TraceReport.plain_toJson {report : TraceReport}
    (h : ∀ step ∈ report.steps, Plain step.toJson) : Plain report.toJson := by
  have hsteps : Plain (.arr (report.steps.map Step.toJson)) := by
    apply Plain.arr
    rw [List.forall_mem_map]
    exact h
  apply Plain.obj
  · simp
  · simp [hsteps, Plain.str, Plain.bool]

theorem PlainReport.plain_toJson (report : PlainReport) : Plain report.toJson := by
  apply Plain.obj
  · simp
  · simp [Plain.str]

theorem plain_of_traceReport {m : Machine} {raised : Option Raised} {report : TraceReport}
    (hclosed : p.Closed) (hfloats : ∀ v ∈ p.values, v.isFloat = false)
    (h : p.Ends supply maxSteps m raised) (hreport : traceReport m raised = .ok report) :
    Plain report.toJson := by
  rcases h.recorded hclosed with ⟨c, hc, _, hsound⟩
  have hreported := reported_of_traceReport hc hreport
  apply TraceReport.plain_toJson
  rcases hreported.seen hsound (fun step message hstep => hstep.mark message)
    with hsteps | ⟨_, output, message, hsteps⟩
  · intro step hstep
    exact (hsteps step hstep).plain_toJson hfloats
  · rw [hsteps, List.forall_mem_singleton]
    apply Step.plain_failure

theorem Job.plain_of_run {job : Job} {document : Json} (hclosed : p.Closed)
    (hfloats : ∀ v ∈ p.values, v.isFloat = false) (h : (job.run p).2 = .ok document) :
    Plain document ∧ ∃ fields, document = .obj fields := by
  unfold Job.run at h
  split at h
  · next maxSteps _ =>
    change (runTraced p job.supply maxSteps).2.map TraceReport.toJson = .ok document at h
    cases hreport : (runTraced p job.supply maxSteps).2 with
    | error r =>
      rw [hreport] at h
      contradiction
    | ok report =>
      rw [hreport] at h
      cases h
      exact ⟨plain_of_traceReport hclosed hfloats (.run rfl) hreport, _, rfl⟩
  · change (runPlain p job.supply).2.map PlainReport.toJson = .ok document at h
    cases hreport : (runPlain p job.supply).2 with
    | error r =>
      rw [hreport] at h
      contradiction
    | ok report =>
      rw [hreport] at h
      cases h
      exact ⟨report.plain_toJson, _, rfl⟩

theorem Job.write_eq {job : Job} {document : Json} (h : (job.run p).2 = .ok document) :
    (job.write p).2 = (document.write? none).mapError Raised.ofWriteFault := by
  change (job.run p).2.bind _ = _
  rw [h]
  rfl

theorem Job.monitorDocument_of_write {job : Job} {document : Json} (hclosed : p.Closed)
    (hfloats : ∀ v ∈ p.values, v.isFloat = false) (h : (job.run p).2 = .ok document)
    (settings : Settings) (stderr : String) (exitCode : Int) (elapsed : Binary64) :
    (∃ text fields, (job.write p).2 = .ok text ∧ document = .obj fields
        ∧ Strategy.monitorDocument settings (.finished text stderr exitCode elapsed) = .ok fields)
      ↔ document.isWritable = true := by
  rcases job.plain_of_run hclosed hfloats h with ⟨hplain, fields, rfl⟩
  rw [job.write_eq h, Json.write?]
  constructor
  · rintro ⟨text, _, hwrite, _⟩
    split at hwrite
    · next hwritable => exact hwritable
    · contradiction
  · intro hwritable
    rw [if_pos hwritable]
    refine ⟨_, fields, rfl, rfl, ?_⟩
    unfold Strategy.monitorDocument
    dsimp only
    rw [Json.read_write none hplain hwritable]

/--
What is shown of objects without floating point numbers, be it an answer or an entry, comes back when it is
written and read again exactly if it holds no whole number of too many digits, and so it does if the
objects hold none. It is the same with the document of a run: unless there is such a number in it, it is
written as a text that the document is loaded from, whatever else the run leaves behind.
-/
theorem written_survives_iff (limits : Limits) (uses : List Use) (p : Program) (job : Job)
    (huses : ∀ use ∈ uses, use.Closed) (hp : p.Closed)
    (husesFloats : ∀ use ∈ uses, ∀ v ∈ use.values, v.isFloat = false)
    (hpFloats : ∀ v ∈ p.values, v.isFloat = false) :
    let result := mapThrough (Session.encode limits) {} uses
    let shown :=
      result.2.filterMap Except.toOption ++ result.1.encoder.heap.entries.map HeapEntry.toJson
    (∀ json ∈ shown, json.Survives ↔ json.isWritable = true)
      ∧ ((∀ use ∈ uses, ∀ v ∈ use.values, v.isWritable = true) → ∀ json ∈ shown, json.Survives)
      ∧ ∀ (document : Json) (settings : Settings) (stderr : String) (exitCode : Int) (elapsed : Binary64),
          (job.run p).2 = .ok document →
          ((∃ text fields, (job.write p).2 = .ok text ∧ document = .obj fields
              ∧ Strategy.monitorDocument settings (.finished text stderr exitCode elapsed) = .ok fields)
            ↔ document.isWritable = true) := by
  intro result shown
  have hplain : ∀ json ∈ shown, Plain json := by
    apply Session.admitted_of_encode Json.admits_plain huses
    intro use huse v hv json
    exact Value.plain_scalar (husesFloats use huse v hv)
  have hsurvives : ∀ json ∈ shown, json.Survives ↔ json.isWritable = true := by
    intro json hjson
    exact Json.survives_iff (hplain json hjson)
  refine ⟨hsurvives, ?_, ?_⟩
  · intro hwritable json hjson
    rw [hsurvives json hjson]
    apply Session.admitted_of_encode Json.admits_isWritable huses _ json hjson
    intro use huse v hv json
    exact Value.isWritable_scalar (hwritable use huse v hv)
  · intro document settings stderr exitCode elapsed h
    exact job.monitorDocument_of_write hp hpFloats h settings stderr exitCode elapsed

theorem written_survives_iff_looped :
    let memory : Memory :=
      [("a", { typeName := "list", body := .elements [.ref "b", .int (-7), .text "\u00e9\n"] }),
       ("b", { typeName := "dict", body := .entries [(.text "a", .ref "a"), (.none, .bool true)] })]
    let uses : List Use := [{ memory, value := .ref "a" }, { memory, value := .int (10 ^ 4300) }]
    let result := mapThrough (Session.encode {}) {} uses
    let shown :=
      result.2.filterMap Except.toOption ++ result.1.encoder.heap.entries.map HeapEntry.toJson
    let p : Program :=
      { memory
        activations := [{ name := "<module>", line := some 1 }]
        actions := [(false, .event "line" 0 none [("xs", .ref "a")] [])] }
    let job : Job := { code := .str "", supply := ⟨[]⟩, maxSteps := some 5 }
    let document := (job.run p).2.toOption.getD .null
    let settings : Settings := { monitor := "monitor" }
    (∀ use ∈ uses, use.Closed) ∧ p.Closed
      ∧ (∀ use ∈ uses, ∀ v ∈ use.values, v.isFloat = false) ∧ (∀ v ∈ p.values, v.isFloat = false)
      ∧ (∀ json ∈ shown, json.Survives ↔ json.isWritable = true)
      ∧ (job.run p).2 = .ok document ∧ document.isWritable = true
      ∧ ∃ text fields, (job.write p).2 = .ok text ∧ document = .obj fields
          ∧ Strategy.monitorDocument settings (.finished text "" 0 (.ofInt 0)) = .ok fields := by
  intro memory uses result shown p job document settings
  have huses : ∀ use ∈ uses, use.Closed := by decide
  have hp : p.Closed := by decide
  have husesFloats : ∀ use ∈ uses, ∀ v ∈ use.values, v.isFloat = false := by decide
  have hpFloats : ∀ v ∈ p.values, v.isFloat = false := by decide
  have hrun : (job.run p).2 = .ok document := by decide +kernel
  have hwritable : document.isWritable = true := by decide +kernel
  rcases written_survives_iff {} uses p job huses hp husesFloats hpFloats with ⟨hshown, _, hdocument⟩
  refine ⟨huses, hp, husesFloats, hpFloats, hshown, hrun, hwritable, ?_⟩
  rw [hdocument document settings "" 0 (.ofInt 0) hrun]
  exact hwritable

theorem written_survives_fails :
    let n : Int := 10 ^ 4300
    let uses : List Use := [{ memory := [], value := .int n }]
    let p : Program :=
      { activations := [{ name := "<module>", line := some 1 }]
        actions := [(false, .event "line" 0 none [("n", .int n)] [])] }
    let job : Job := { code := .str "n = 10 ** 4300", supply := ⟨[]⟩, maxSteps := some 5 }
    (∀ use ∈ uses, use.Closed) ∧ (∀ use ∈ uses, ∀ v ∈ use.values, v.isFloat = false)
      ∧ (mapThrough (Session.encode {}) {} uses).2.filterMap Except.toOption = [.int n]
      ∧ ¬ (Json.int n).Survives
      ∧ p.Closed ∧ (∀ v ∈ p.values, v.isFloat = false)
      ∧ (job.write p).2 = .error (Raised.ofWriteFault .tooManyDigits) := by
  intro n uses p job
  refine ⟨by decide, by decide, by decide +kernel, ?_, by decide, by decide, by decide +kernel⟩
  rw [Json.survives_iff (.int n)]
  decide +kernel

end Monitor

end Playback
