import Playback.Proofs.Trace.Coherence

/-!
This module contains the laws of exported steps: whatever is exported is read again as it was, and
steps that are coherent need no repair, so that a timeline comes back from its own export.
-/

namespace Playback

theorem Json.asList?_map {α : Type} {read? : Json → Option α} {write : α → Json} (as : List α)
    (h : ∀ a, read? (write a) = some a) : Json.asList? read? (.arr (as.map write)) = some as := by
  dsimp only [Json.asList?]
  rw [List.mapM_map]
  induction as with
  | nil => rfl
  | cons a as ih =>
    rw [List.mapM_cons, Function.comp_apply, h, ih]
    rfl

theorem Frame.ofJson?_toJson (frame : Frame) : ofJson? frame.toJson = some frame := rfl

theorem HeapEntry.ofJson?_toJson (entry : HeapEntry) : ofJson? entry.toJson = some entry := by
  rcases entry with ⟨id, type, value⟩
  unfold toJson
  dsimp only
  split
  · next h =>
    rw [h]
    rfl
  · rfl

theorem RunStatus.ofJson?_name (status : RunStatus) : ofJson? (.str status.name) = some status := by
  cases status with
  | complete => decide
  | waitingForInput => decide
  | error => decide
  | timeout => decide

theorem Step.ofJson?_toJson (step : Step) : ofJson? step.toJson = some step := by
  rcases step with ⟨currentLine, executedLines, frames, objects, output, error⟩
  have hlines : Json.asList? Json.asInt? (.arr (executedLines.map .int)) = some executedLines := by
    apply Json.asList?_map
    intro line
    rfl
  have hframes := Json.asList?_map frames Frame.ofJson?_toJson
  have hobjects := Json.asList?_map objects HeapEntry.ofJson?_toJson
  unfold ofJson? toJson
  -- Without an error its field is absent, and the names in lower case are never looked for.
  cases error with
  | none =>
    simp [Json.asObject?, Fields.read?, Fields.first?, Fields.get?, List.lookup_cons, Json.asInt?,
      Json.asText?, hlines, hframes, hobjects]
  | some message =>
    simp [Json.asObject?, Fields.read?, Fields.first?, Fields.get?, List.lookup_cons, Json.asInt?,
      Json.asText?, hlines, hframes, hobjects]

theorem Heap.merge_of_prefix (heap : Heap) (entries : List HeapEntry)
    (hkeys : heap.ids <+: entries.map HeapEntry.id) (hnodup : (entries.map HeapEntry.id).Nodup) :
    heap.merge entries = ⟨entries⟩ := by
  have h := foldl_upsert_of_prefix HeapEntry.id entries [] heap.entries hkeys hnodup
  rw [List.nil_append, List.nil_append, ← entries_merge] at h
  exact congrArg Heap.mk h

namespace Timeline

/-
Steps that go on from a last one need no repair.
-/
theorem repair_of_coherent (last : Step) (steps : List Step) (h : Coherent (last :: steps)) :
    repair last.executedLines ⟨last.objects⟩ last.output steps
      =
    (steps, ⟨(steps.getLastD last).objects⟩) := by
  induction steps generalizing last with
  | nil => rfl
  | cons step steps ih =>
    have hextends : last.Extends step := by
      have := h.chain
      rw [List.isChain_cons_cons] at this
      exact this.1
    have hlines : insertLines last.executedLines step.executedLines = step.executedLines := by
      apply insertLines_of_subset
      · exact hextends.executedLines
      · exact h.ascending last (by simp)
      · exact h.ascending step (by simp)
    have hobjects : Heap.merge ⟨last.objects⟩ step.objects = ⟨step.objects⟩ := by
      apply Heap.merge_of_prefix
      · exact hextends.objectIds
      · exact h.distinct step (by simp)
    have houtput : last.output.toList.isPrefixOf step.output.toList = true := by
      rw [List.isPrefixOf_iff_prefix]
      exact hextends.output
    unfold repair
    dsimp only
    rw [hlines, hobjects, houtput, if_pos rfl, ih step h.tail, List.getLastD_cons]

theorem repair_start_of_coherent (steps : List Step) (h : Coherent steps) :
    repair [] {} "" steps = (steps, ⟨(steps.getLastD {}).objects⟩) := by
  apply repair_of_coherent {}
  cases steps with
  | nil => exact .singleton .nil List.nodup_nil
  | cons step steps =>
    have hextends : Step.Extends {} step := by
      constructor
      · apply List.nil_subset
      · apply List.nil_prefix
      · apply List.nil_prefix
    exact h.cons .nil List.nodup_nil hextends

def toJson (timeline : Timeline) : Json :=
  .obj
    [("steps", .arr (timeline.steps.map Step.toJson)), ("status", .str timeline.status.name),
     ("truncated", .bool timeline.truncated)]

theorem ofJson?_toJson (timeline : Timeline) :
    Payload.ofJson? timeline.toJson
      =
    some
      { steps := timeline.steps.map Step.toJson
        status := timeline.status
        truncated := timeline.truncated } := by
  have hsteps : Json.asList? (fun step => step.asObject?.map Json.obj)
      (.arr (timeline.steps.map Step.toJson)) = some (timeline.steps.map Step.toJson) := by
    dsimp only [Json.asList?]
    rw [mapM_asObject?, if_pos]
    simp [Step.toJson, Json.asObject?]
  have hstatus := RunStatus.ofJson?_name timeline.status
  change (Json.asList? _ (.arr (timeline.steps.map Step.toJson))).bind _ = _
  rw [hsteps]
  change (RunStatus.ofJson? (.str timeline.status.name)).bind _ = _
  rw [hstatus]
  rfl

/-
Objects that came up behind the last step are not exported.
-/
theorem ofDocument_toJson (timeline : Timeline) (maxSteps : Int)
    (hcoherent : Coherent timeline.steps) (hlength : timeline.steps.length ≤ maxSteps) :
    ofDocument timeline.toJson maxSteps
      =
    { timeline with heap := ⟨(timeline.steps.getLastD {}).objects⟩ } := by
  have hsteps : (timeline.steps.map Step.toJson).filterMap Step.ofJson? = timeline.steps := by
    rw [List.filterMap_map]
    have : Step.ofJson? ∘ Step.toJson = some := funext Step.ofJson?_toJson
    rw [this, List.filterMap_some]
  have hroom : ¬ maxSteps < timeline.steps.length := by omega
  unfold ofDocument
  rw [ofJson?_toJson]
  dsimp only
  unfold ofPayload
  dsimp only
  rw [hsteps, if_neg hroom, repair_start_of_coherent _ hcoherent]
  simp [hroom]

/--
A timeline is read again from its own export, whatever it was rebuilt from: every step is read as it
was exported, and nothing is left to repair. Only objects that came up behind the last step are lost.
-/
theorem ofRaw_toJson {raw : RawTrace} {maxSteps : Int} {timeline : Timeline}
    (h : ofRaw raw maxSteps = .ok timeline) (hmax : 1 ≤ maxSteps) :
    ofRaw (.document timeline.toJson) maxSteps
        =
      .ok { timeline with heap := ⟨(timeline.steps.getLastD {}).objects⟩ }
      ∧ (∀ step ∈ timeline.steps, Step.ofJson? step.toJson = some step)
      ∧ (repair [] {} "" timeline.steps).1 = timeline.steps := by
  have hcoherent := coherent_of_ofRaw h
  refine ⟨?_, ?_, ?_⟩
  · have hlength := length_of_ofRaw_le h (by omega)
    unfold ofRaw
    dsimp only
    rw [ofDocument_toJson]
    · exact hcoherent
    · omega
  · intro step _
    apply Step.ofJson?_toJson
  · rw [repair_start_of_coherent _ hcoherent]

theorem ofRaw_toJson_repaired :
    let document : Json :=
      .obj
        [("steps",
          .arr
            [.obj
              [("executed_lines", .arr [.str "2", .int 1]),
               ("frames", .arr [.obj [("variables", .obj [("x", .null)])]]),
               ("objects", .arr [.obj [("id", .str "a"), ("value", .null)]]),
               ("output", .str "hi"), ("error", .null)],
             .obj [("output", .null)], .obj [("error", .str "Stopped")], .obj []]),
         ("status", .str "timeout")]
    let timeline : Timeline :=
      { steps :=
          [{ executedLines := [1, 2]
             frames := [{ bindings := [("x", .null)] }]
             objects := [{ id := "a" }]
             output := "hi" },
           { executedLines := [1, 2]
             objects := [{ id := "a" }]
             output := "hi"
             error := some "Stopped" }]
        heap := ⟨[{ id := "a" }]⟩
        status := .timeout
        truncated := true }
    ofRaw (.document document) 2 = .ok timeline
      ∧ ofRaw (.document timeline.toJson) 2 = .ok timeline
      ∧ (∀ step ∈ timeline.steps, Step.ofJson? step.toJson = some step)
      ∧ (repair [] {} "" timeline.steps).1 = timeline.steps := by
  intro document timeline
  have h : ofRaw (.document document) 2 = .ok timeline := by decide +kernel
  exact ⟨h, ofRaw_toJson h (by decide)⟩

end Timeline

end Playback
