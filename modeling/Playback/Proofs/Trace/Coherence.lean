import Mathlib.Data.List.Range
import Playback.Proofs.Trace.Payload
import Playback.Proofs.Trace.Replay

/-!
This module contains what holds from each step of a trace to the next one, and the proof that every
way to rebuild steps ends in steps for which it does.
-/

namespace Playback

structure Step.Extends (earlier later : Step) : Prop where
  executedLines : earlier.executedLines ⊆ later.executedLines
  objectIds : earlier.objectIds <+: later.objectIds
  output : earlier.output.toList <+: later.output.toList

/--
Steps that each keep what the one before has shown, with every line and every object once.
-/
structure Coherent (steps : List Step) : Prop where
  ascending : ∀ step ∈ steps, step.executedLines.Pairwise (· < ·)
  distinct : ∀ step ∈ steps, step.objectIds.Nodup
  chain : steps.IsChain Step.Extends

namespace Coherent

theorem nil : Coherent [] where
  ascending := by simp
  distinct := by simp
  chain := .nil

theorem singleton {step : Step} (hascending : step.executedLines.Pairwise (· < ·))
    (hdistinct : step.objectIds.Nodup) : Coherent [step] where
  ascending := by simpa using hascending
  distinct := by simpa using hdistinct
  chain := .singleton step

theorem cons {step next : Step} {steps : List Step}
    (hascending : step.executedLines.Pairwise (· < ·)) (hdistinct : step.objectIds.Nodup)
    (hextends : step.Extends next) (h : Coherent (next :: steps)) :
    Coherent (step :: next :: steps) where
  ascending := by
    rw [List.forall_mem_cons]
    exact ⟨hascending, h.ascending⟩
  distinct := by
    rw [List.forall_mem_cons]
    exact ⟨hdistinct, h.distinct⟩
  chain := by
    rw [List.isChain_cons_cons]
    exact ⟨hextends, h.chain⟩

theorem tail {step : Step} {steps : List Step} (h : Coherent (step :: steps)) :
    Coherent steps where
  ascending := (List.forall_mem_cons.mp h.ascending).2
  distinct := (List.forall_mem_cons.mp h.distinct).2
  chain := h.chain.tail

end Coherent

namespace Record

theorem printed_prefix {past records : List Record} (h : past <+: records) :
    (printed past).toList <+: (printed records).toList := by
  rcases h with ⟨more, rfl⟩
  unfold printed
  rw [List.filterMap_append, String.join_append, String.toList_append]
  apply List.prefix_append

theorem map_id_objects_prefix {past records : List Record} (h : past <+: records) :
    (objects past).map HeapEntry.id <+: (objects records).map HeapEntry.id := by
  rcases h with ⟨more, rfl⟩
  unfold objects
  rw [List.filterMap_append, ← foldl_upsert_latest]
  apply map_key_prefix_foldl_upsert

theorem nodup_map_id_objects (records : List Record) :
    ((objects records).map HeapEntry.id).Nodup := by
  unfold objects
  have h := foldl_upsert_latest HeapEntry.id [] (records.filterMap object?)
  rw [List.nil_append] at h
  rw [← h]
  apply nodup_foldl_upsert
  simp [latest]

theorem stepAt_extends (cumulative : Bool) (k : Nat) (records : List Record) :
    (stepAt cumulative records k).Extends (stepAt cumulative records (k + 1)) where
  executedLines := by
    rw [stepAt_executedLines, stepAt_executedLines]
    intro line
    have := List.take_subset_take_left (marks records) (Nat.le_succ k)
    simp only [Timeline.mem_ascending, List.mem_map]
    rintro ⟨l, hl, rfl⟩
    exact ⟨l, this hl, rfl⟩
  objectIds := by
    cases k with
    | zero => apply List.nil_prefix
    | succ k =>
      apply map_id_objects_prefix
      apply before_prefix_before
      omega
  output := by
    rw [stepAt_output, stepAt_output]
    apply printed_prefix
    apply before_prefix_before
    omega

theorem stepAt_ascending (cumulative : Bool) (k : Nat) (records : List Record) :
    (stepAt cumulative records k).executedLines.Pairwise (· < ·) := by
  rw [stepAt_executedLines]
  apply Timeline.pairwise_ascending

theorem stepAt_distinct (cumulative : Bool) (k : Nat) (records : List Record) :
    (stepAt cumulative records k).objectIds.Nodup := by
  cases k with
  | zero => apply List.nodup_nil
  | succ k => apply nodup_map_id_objects

theorem coherent_map_stepAt (cumulative : Bool) (count : Nat) (records : List Record) :
    Coherent ((List.range count).map (stepAt cumulative records)) where
  ascending := by
    rw [List.forall_mem_map]
    intro k _
    apply stepAt_ascending
  distinct := by
    rw [List.forall_mem_map]
    intro k _
    apply stepAt_distinct
  chain := by
    rw [List.isChain_map, List.isChain_range]
    intro k _
    apply stepAt_extends

end Record

namespace Heap

theorem entries_merge (heap : Heap) (entries : List HeapEntry) :
    (heap.merge entries).entries
      =
    entries.foldl (fun entries entry => upsert HeapEntry.id entry entries) heap.entries := by
  unfold merge
  induction entries generalizing heap with
  | nil => rfl
  | cons entry entries ih =>
    rw [List.foldl_cons, List.foldl_cons, ih, ← putEntry_eq_upsert]
    rfl

theorem ids_prefix_merge (heap : Heap) (entries : List HeapEntry) :
    heap.ids <+: (heap.merge entries).ids := by
  unfold ids
  rw [entries_merge]
  apply map_key_prefix_foldl_upsert

theorem nodup_ids_merge (heap : Heap) (entries : List HeapEntry) (h : heap.ids.Nodup) :
    (heap.merge entries).ids.Nodup := by
  unfold ids
  rw [entries_merge]
  apply nodup_foldl_upsert
  exact h

end Heap

namespace Timeline

/-
The repaired steps go on from any step that shows the lines, objects and output they are repaired
with.
-/
theorem coherent_cons_repair (last : Step) (steps : List Step)
    (hascending : last.executedLines.Pairwise (· < ·)) (hdistinct : last.objectIds.Nodup) :
    Coherent (last :: (repair last.executedLines ⟨last.objects⟩ last.output steps).1) := by
  induction steps generalizing last with
  | nil => exact .singleton hascending hdistinct
  | cons step steps ih =>
    -- The first repaired step, from which the repair of the others goes on.
    let next : Step :=
      { step with
        executedLines := insertLines last.executedLines step.executedLines
        objects := (Heap.merge ⟨last.objects⟩ step.objects).entries
        output :=
          if last.output.toList.isPrefixOf step.output.toList then step.output else last.output }
    have hextends : last.Extends next := by
      constructor
      · intro line hline
        rw [mem_insertLines]
        exact .inl hline
      · exact Heap.ids_prefix_merge ⟨last.objects⟩ step.objects
      · dsimp only [next]
        split
        · next h =>
          rw [List.isPrefixOf_iff_prefix] at h
          exact h
        · apply List.prefix_rfl
    have hrest : Coherent
        (next :: (repair next.executedLines ⟨next.objects⟩ next.output steps).1) := by
      apply ih
      · apply pairwise_insertLines
        exact hascending
      · apply Heap.nodup_ids_merge ⟨last.objects⟩
        exact hdistinct
    exact hrest.cons hascending hdistinct hextends

theorem coherent_repair (steps : List Step) : Coherent (repair [] {} "" steps).1 := by
  apply Coherent.tail
  apply coherent_cons_repair {}
  · apply List.Pairwise.nil
  · apply List.nodup_nil

theorem coherent_of_ofWire {text : String} {cumulative : Bool} {maxSteps : Int}
    {timeline : Timeline} (h : ofWire text cumulative maxSteps = .ok timeline) :
    Coherent timeline.steps := by
  rw [steps_of_ofWire h]
  apply Record.coherent_map_stepAt

theorem length_of_ofWire {text : String} {cumulative : Bool} {maxSteps : Int}
    {timeline : Timeline} (h : ofWire text cumulative maxSteps = .ok timeline) :
    timeline.steps.length
      =
    min (max 1 maxSteps).toNat
      ((Record.marks (Record.ofLines (Text.closedLines text))).length + 1) := by
  rw [steps_of_ofWire h, List.length_map, List.length_range]

theorem coherent_of_ofRaw {raw : RawTrace} {maxSteps : Int} {timeline : Timeline}
    (h : ofRaw raw maxSteps = .ok timeline) : Coherent timeline.steps := by
  cases raw with
  | wire text cumulative =>
    apply coherent_of_ofWire
    exact h
  | document json =>
    simp only [ofRaw, Except.ok.injEq] at h
    rw [← h]
    unfold ofDocument
    split
    · exact .nil
    · rw [ofPayload_steps]
      apply coherent_repair

theorem length_of_ofRaw_le {raw : RawTrace} {maxSteps : Int} {timeline : Timeline}
    (h : ofRaw raw maxSteps = .ok timeline) (hmax : 0 ≤ maxSteps) :
    timeline.steps.length ≤ max 1 maxSteps := by
  cases raw with
  | wire text cumulative =>
    rw [length_of_ofWire h]
    omega
  | document json =>
    simp only [ofRaw, Except.ok.injEq] at h
    rw [← h]
    unfold ofDocument
    split
    · simp
    · next payload _ =>
      have := length_ofPayload_le payload maxSteps hmax
      omega

end Timeline

end Playback
