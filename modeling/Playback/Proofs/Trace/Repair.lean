import Playback.Proofs.Trace.Export

/-!
This module contains what the repair of steps makes of them: every step shows the lines, the objects and
the output of all steps up to it, and steps are left alone exactly if they are coherent.
-/

namespace Playback.Timeline

/--
The output that is shown behind some steps. A step whose output does not go on from what is shown shows
nothing new.
-/
def carriedOutput (seen : List Step) : String :=
  seen.foldl
    (fun shown step => if shown.toList.isPrefixOf step.output.toList then step.output else shown) ""

/--
The lines that some steps have executed, in ascending order.
-/
def executedIn (seen : List Step) : List Int :=
  ascending (seen.flatMap Step.executedLines)

/--
Every object that some steps have shown, in the order in which the objects came up, in its last form.
-/
def objectsIn (seen : List Step) : List HeapEntry :=
  latest HeapEntry.id (seen.flatMap Step.objects)

/--
A step that shows what has been seen up to it. The steps seen end with the step itself.
-/
def showing (seen : List Step) (step : Step) : Step :=
  { step with
    executedLines := executedIn seen
    objects := objectsIn seen
    output := carriedOutput seen }

theorem insertLines_ascending (lines more : List Int) :
    insertLines (ascending lines) more = ascending (lines ++ more) := by
  unfold insertLines
  induction more generalizing lines with
  | nil => rw [List.foldl_nil, List.append_nil]
  | cons line more ih =>
    rw [List.foldl_cons, insertLine_ascending, ih, List.append_assoc, List.singleton_append]

theorem executedIn_nil : executedIn [] = [] := by
  simp [executedIn, ascending]

theorem executedIn_concat (seen : List Step) (step : Step) :
    insertLines (executedIn seen) step.executedLines = executedIn (seen ++ [step]) := by
  unfold executedIn
  rw [insertLines_ascending, List.flatMap_append, List.flatMap_singleton]

theorem objectsIn_concat (seen : List Step) (step : Step) :
    Heap.merge ⟨objectsIn seen⟩ step.objects = ⟨objectsIn (seen ++ [step])⟩ := by
  have hentries := Heap.entries_merge ⟨objectsIn seen⟩ step.objects
  unfold objectsIn at hentries ⊢
  rw [foldl_upsert_latest] at hentries
  rw [List.flatMap_append, List.flatMap_singleton, ← hentries]

theorem carriedOutput_concat (seen : List Step) (step : Step) :
    carriedOutput (seen ++ [step])
      =
    if (carriedOutput seen).toList.isPrefixOf step.output.toList then step.output
    else carriedOutput seen := by
  unfold carriedOutput
  rw [List.foldl_append]
  rfl

/-
Each step is repaired with what the steps in front of it have left behind.
-/
theorem repair_cons (seen : List Step) (step : Step) (steps : List Step) :
    repair (executedIn seen) ⟨objectsIn seen⟩ (carriedOutput seen) (step :: steps)
      =
    let rest := repair (executedIn (seen ++ [step])) ⟨objectsIn (seen ++ [step])⟩
      (carriedOutput (seen ++ [step])) steps
    (showing (seen ++ [step]) step :: rest.1, rest.2) := by
  rw [repair, executedIn_concat, objectsIn_concat, ← carriedOutput_concat]
  rfl

theorem getElem?_repair (seen steps : List Step) (k : Nat) :
    (repair (executedIn seen) ⟨objectsIn seen⟩ (carriedOutput seen) steps).1[k]?
      =
    steps[k]?.map (showing (seen ++ steps.take (k + 1))) := by
  induction steps generalizing seen k with
  | nil => simp [repair]
  | cons step steps ih =>
    rw [repair_cons]
    cases k with
    | zero => simp
    | succ k =>
      have hrest := ih (seen ++ [step]) k
      rw [List.append_assoc, List.singleton_append] at hrest
      rw [List.getElem?_cons_succ, List.getElem?_cons_succ, List.take_succ_cons]
      exact hrest

theorem snd_repair (seen steps : List Step) :
    (repair (executedIn seen) ⟨objectsIn seen⟩ (carriedOutput seen) steps).2
      =
    ⟨objectsIn (seen ++ steps)⟩ := by
  induction steps generalizing seen with
  | nil => rw [List.append_nil, repair]
  | cons step steps ih =>
    rw [repair_cons]
    have hrest := ih (seen ++ [step])
    rw [List.append_assoc, List.singleton_append] at hrest
    exact hrest

/--
The repair of any steps is coherent. Each step shows the lines of all steps up to it in ascending order,
every object of them in its last form, and the output that was carried on, and is otherwise left as it was.
Steps are unchanged as a whole if and only if they were coherent before.
-/
theorem repair_restores (steps : List Step) :
    let repaired := repair [] {} "" steps
    Coherent repaired.1
      ∧ (∀ k, repaired.1[k]? = steps[k]?.map (showing (steps.take (k + 1))))
      ∧ repaired.2 = ⟨objectsIn steps⟩
      ∧ (repaired.1 = steps ↔ Coherent steps) := by
  intro repaired
  have hcoherent : Coherent repaired.1 := coherent_repair steps
  have hstart : repaired = repair (executedIn []) ⟨objectsIn []⟩ (carriedOutput []) steps := by
    rw [executedIn_nil]
    rfl
  refine ⟨hcoherent, ?_, ?_, ?_⟩
  · intro k
    rw [hstart, getElem?_repair, List.nil_append]
  · rw [hstart, snd_repair, List.nil_append]
  · constructor
    · intro hsame
      rw [← hsame]
      exact hcoherent
    · intro h
      have hrepaired : repaired = _ := repair_start_of_coherent steps h
      rw [hrepaired]

/-
A step that shows an object again, an unordered row of lines and output that was cut off.
-/
example :
    (repair [] {} ""
        [{ executedLines := [3, 1, 3], objects := [{ id := "a" }, { id := "b" }], output := "hi" },
          { executedLines := [2], objects := [{ id := "b", type := "list" }], output := "h" }]).1
      =
    [{ executedLines := [1, 3], objects := [{ id := "a" }, { id := "b" }], output := "hi" },
      { executedLines := [1, 2, 3], objects := [{ id := "a" }, { id := "b", type := "list" }],
        output := "hi" }] := by
  decide +kernel

end Playback.Timeline
