import Playback.Proofs.Json.RoundTrip
import Playback.Proofs.Trace.Export
import Playback.Trace.Result

/-!
This module contains what holds of the text that steps and results are written as: a result is read again
from its text, whatever values it shows and however the text is indented.
-/

namespace Playback

section Admitted

variable {P : Json → Prop} (hP : Json.Admits P)
include hP

theorem HeapEntry.admitted_toJson (entry : HeapEntry) (h : P entry.value) : P entry.toJson := by
  unfold toJson
  apply hP.obj
  · split
    · simp
    · simp
  · split
    · simp [hP.str]
    · simp [hP.str, h]

theorem Frame.admitted_toJson (frame : Frame) (h : P (.obj frame.bindings)) : P frame.toJson := by
  apply hP.obj
  · simp
  · simp [h, hP.str]

theorem Step.admitted_toJson (step : Step)
    (hlines : ∀ line ∈ step.currentLine :: step.executedLines, P (.int line))
    (hframes : ∀ frame ∈ step.frames, P frame.toJson)
    (hobjects : ∀ entry ∈ step.objects, P entry.toJson) : P step.toJson := by
  rw [List.forall_mem_cons] at hlines
  have hlines' : P (.arr (step.executedLines.map .int)) := by
    apply hP.arr
    rw [List.forall_mem_map]
    exact hlines.2
  have hframes : P (.arr (step.frames.map Frame.toJson)) := by
    apply hP.arr
    rw [List.forall_mem_map]
    exact hframes
  have hobjects : P (.arr (step.objects.map HeapEntry.toJson)) := by
    apply hP.arr
    rw [List.forall_mem_map]
    exact hobjects
  unfold toJson
  cases step.error with
  | none =>
    apply hP.obj
    · simp
    · simp [hP.str, hlines.1, hlines', hframes, hobjects]
  | some message =>
    apply hP.obj
    · simp
    · simp [hP.str, hlines.1, hlines', hframes, hobjects]

theorem TraceResult.admitted_toJson (result : TraceResult) (hbool : P (.bool result.truncated))
    (hsteps : ∀ step ∈ result.steps, P step.toJson) : P result.toJson := by
  have hsteps : P (.arr (result.steps.map Step.toJson)) := by
    apply hP.arr
    rw [List.forall_mem_map]
    exact hsteps
  apply hP.obj
  · simp
  · simp [hP.str, hbool, hsteps]

end Admitted

def Step.values (step : Step) : List Json :=
  (step.currentLine :: step.executedLines).map .int ++ step.frames.map (fun frame => .obj frame.bindings)
    ++ step.objects.map HeapEntry.value

theorem Step.admitted_of_values {P : Json → Prop} (hP : Json.Admits P) (step : Step)
    (h : ∀ json ∈ step.values, P json) : P step.toJson := by
  unfold values at h
  rw [List.forall_mem_append, List.forall_mem_append, List.forall_mem_map, List.forall_mem_map,
    List.forall_mem_map] at h
  rcases h with ⟨⟨hlines, hframes⟩, hobjects⟩
  exact step.admitted_toJson hP hlines (fun frame hframe => frame.admitted_toJson hP (hframes frame hframe))
    (fun entry hentry => entry.admitted_toJson hP (hobjects entry hentry))

namespace TraceResult

theorem ofJson?_toJson (result : TraceResult) : ofJson? result.toJson = some result := by
  rcases result with ⟨language, status, truncated, message, steps⟩
  have hsteps := Json.asList?_map steps Step.ofJson?_toJson
  unfold ofJson? toJson
  simp [Json.asObject?, Fields.read?, Fields.first?, Fields.get?, List.lookup_cons, Json.asBool?,
    Json.asText?, RunStatus.ofJson?_name, hsteps]

/--
A result can be written with any indent and is read again as it was, if all that it shows can stand in a
text: no floating point number, no whole number of too many digits and no name twice in an object.
-/
theorem ofJson?_read_toText {result : TraceResult}
    (h : ∀ step ∈ result.steps, ∀ json ∈ step.values, json.Plain ∧ json.isWritable = true)
    (indent : Option Int) :
    result.toJson.write? indent = .ok (result.toText indent)
      ∧ ∃ json, Json.read (result.toText indent) = .ok json ∧ ofJson? json = some result := by
  have hplain : result.toJson.Plain := by
    apply result.admitted_toJson Json.admits_plain (.bool _)
    intro step hstep
    exact step.admitted_of_values Json.admits_plain fun json hjson => (h step hstep json hjson).1
  have hwritable : result.toJson.isWritable = true := by
    apply result.admitted_toJson Json.admits_isWritable rfl
    intro step hstep
    exact step.admitted_of_values Json.admits_isWritable fun json hjson => (h step hstep json hjson).2
  constructor
  · rw [Json.write?, if_pos hwritable]
    rfl
  · exact ⟨result.toJson, Json.read_write indent hplain hwritable, ofJson?_toJson result⟩

theorem ofJson?_read_toText_nested :
    let result : TraceResult :=
      { language := "python"
        status := .error
        truncated := true
        message := "\"é\"\n"
        steps :=
          [{ currentLine := 12
             executedLines := [3, 12]
             frames :=
               [{ name := "f"
                  bindings := [("z", .null), ("a", .arr [.null, .obj [], .arr [], .int (-4), .str "\x00"])] }, {}]
             objects :=
               [{ id := "b" }, { id := "a", type := "dict", value := .obj [("k", .obj [("k", .bool false)])] }]
             output := "𝄞\n" },
           { currentLine := 0, error := some "" }] }
    (∀ step ∈ result.steps, ∀ json ∈ step.values, json.Plain ∧ json.isWritable = true)
      ∧ result.toJson.write? (some (-1)) = .ok (result.toText (some (-1)))
      ∧ ∃ json, Json.read (result.toText (some (-1))) = .ok json ∧ ofJson? json = some result := by
  intro result
  have hplain : ∀ step ∈ result.steps, ∀ json ∈ step.values, json.Plain := by
    simp [result, Step.values, or_imp, forall_and, Json.plain_arr_iff, Json.plain_obj_iff,
      Json.Plain.null, Json.Plain.bool, Json.Plain.int, Json.Plain.str]
  have hwritable : ∀ step ∈ result.steps, ∀ json ∈ step.values, json.isWritable = true := by
    decide
  have hvalues : ∀ step ∈ result.steps, ∀ json ∈ step.values, json.Plain ∧ json.isWritable = true :=
    fun step hstep json hjson => ⟨hplain step hstep json hjson, hwritable step hstep json hjson⟩
  exact ⟨hvalues, ofJson?_read_toText hvalues (some (-1))⟩

end TraceResult

end Playback
