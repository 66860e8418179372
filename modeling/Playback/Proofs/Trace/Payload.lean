import Mathlib.Data.List.Basic
import Playback.Trace.Timeline

/-!
This module contains the laws of documents that already hold steps: which of them can be read, and
how many steps are kept of one.
-/

namespace Playback.Timeline

/-
Items that have to be objects are read as they are.
-/
theorem mapM_asObject? (items : List Json) :
    items.mapM (fun item => item.asObject?.map Json.obj)
      =
    if items.all (·.asObject?.isSome) then some items else none := by
  induction items with
  | nil => simp
  | cons item items ih =>
    rw [List.mapM_cons, ih, List.all_cons]
    cases item with
    | obj fields =>
      cases items.all (·.asObject?.isSome) with
      | false => rfl
      | true => rfl
    | _ => rfl

def plainDocument (items : List Json) : Json :=
  .obj [("steps", .arr items), ("status", .str RunStatus.complete.name)]

theorem ofJson?_plainDocument (items : List Json) :
    Payload.ofJson? (plainDocument items)
      =
    (items.mapM fun item => (Json.asObject? item).map Json.obj).map fun steps => { steps } := by
  unfold Payload.ofJson?
  change (items.mapM fun item => (Json.asObject? item).map Json.obj).bind _ = _
  cases items.mapM fun item => (Json.asObject? item).map Json.obj with
  | none => rfl
  | some steps => rfl

theorem ofDocument_plainDocument (items : List Json) (maxSteps : Int) :
    ofDocument (plainDocument items) maxSteps
      =
    if items.all (·.asObject?.isSome) then ofPayload { steps := items } maxSteps else {} := by
  unfold ofDocument
  rw [ofJson?_plainDocument, mapM_asObject?]
  cases items.all (·.asObject?.isSome) with
  | false => rfl
  | true => rfl

theorem length_repair (executed : List Int) (heap : Heap) (output : String) (steps : List Step) :
    (repair executed heap output steps).1.length = steps.length := by
  induction steps generalizing executed heap output with
  | nil => rfl
  | cons step steps ih =>
    unfold repair
    rw [List.length_cons, List.length_cons, ih]

theorem ofPayload_steps (payload : Payload) (maxSteps : Int) :
    (ofPayload payload maxSteps).steps
      =
    (repair [] {} ""
      (if maxSteps < (payload.steps.filterMap Step.ofJson?).length then
        Text.takeUpTo maxSteps (payload.steps.filterMap Step.ofJson?)
      else
        payload.steps.filterMap Step.ofJson?)).1 := by
  simp [ofPayload]

theorem length_ofPayload_le (payload : Payload) (maxSteps : Int) (h : 0 ≤ maxSteps) :
    (ofPayload payload maxSteps).steps.length ≤ maxSteps := by
  rw [ofPayload_steps, length_repair]
  split
  · rw [Text.takeUpTo_of_nonneg h, List.length_take]
    omega
  · omega

/--
Whether the ceiling leaves nothing of a row of steps that goes beyond it: it is zero, or it is
negative and cuts off as many steps as there are.
-/
def CutToNothing (maxSteps : Int) (steps : List Step) : Prop :=
  (maxSteps = 0 ∧ steps ≠ []) ∨ (maxSteps < 0 ∧ steps.length ≤ -maxSteps)

theorem ofPayload_emptied_iff (payload : Payload) (maxSteps : Int)
    (hwhole : payload.truncated = false) :
    ((ofPayload payload maxSteps).truncated = true ∧ (ofPayload payload maxSteps).steps = [])
      ↔
    CutToNothing maxSteps (payload.steps.filterMap Step.ofJson?) := by
  have htruncated : (ofPayload payload maxSteps).truncated
      = decide (maxSteps < (payload.steps.filterMap Step.ofJson?).length) := by
    simp [ofPayload, hwhole]
  unfold CutToNothing
  rw [htruncated, decide_eq_true_eq, ← List.length_eq_zero_iff, ofPayload_steps, length_repair,
    ne_eq, ← List.length_eq_zero_iff]
  generalize payload.steps.filterMap Step.ofJson? = valid
  split
  · rw [Text.length_takeUpTo]
    split
    · omega
    · omega
  · omega

theorem ofDocument_plainDocument_emptied_iff (items : List Json) (maxSteps : Int) :
    ((ofDocument (plainDocument items) maxSteps).truncated = true
        ∧ (ofDocument (plainDocument items) maxSteps).steps = [])
      ↔
    (items.all (·.asObject?.isSome) = true
      ∧ CutToNothing maxSteps (items.filterMap Step.ofJson?)) := by
  rw [ofDocument_plainDocument]
  split
  · next h =>
    rw [ofPayload_emptied_iff _ _ rfl]
    simp [h]
  · next h => simp [h]

end Playback.Timeline
