import Playback.Monitor.Snapshot
import Playback.Proofs.Object.Texts
import Playback.Proofs.Trace.Coherence

/-!
This module contains what the steps are that are captured of a running program: each shows the variables
of its calls as they are, with every object that they hold among its own, and each keeps what the steps
before it have shown.
-/

namespace Playback

/--
What a step shows of a value. An object is shown by the id of one of the objects of the step.
-/
inductive Step.Shows (step : Step) : Value → Json → Prop where
  | reference {object : Handle} {id : String} (h : id ∈ step.objectIds) :
      Shows step (.ref object) (.str id)
  | scalar {value : Value} {json : Json} (h : value.isReference = false)
      (hshown : Encoder.scalar {} value = .ok json) : Shows step value json

theorem Encoder.Stands.shows {encoder : Encoder} {step : Step} {value : Value} {json : Json}
    (hobjects : step.objects = encoder.heap.entries) (h : encoder.Stands {} ∅ False value json) :
    step.Shows value json := by
  cases h with
  | omitted h => contradiction
  | reference hnamed hknown =>
    apply Step.Shows.reference
    rw [Step.objectIds, hobjects]
    exact hknown.resolve_right (Set.notMem_empty _)
  | scalar h hshown => exact .scalar h hshown

namespace Coherent

theorem concat {steps : List Step} {step : Step} (h : Coherent steps)
    (hextends : (steps.getLastD {}).Extends step)
    (hascending : step.executedLines.Pairwise (· < ·)) (hdistinct : step.objectIds.Nodup) :
    Coherent (steps ++ [step]) where
  ascending := by
    rw [List.forall_mem_append, List.forall_mem_singleton]
    exact ⟨h.ascending, hascending⟩
  distinct := by
    rw [List.forall_mem_append, List.forall_mem_singleton]
    exact ⟨h.distinct, hdistinct⟩
  chain := by
    rcases steps.eq_nil_or_concat' with rfl | ⟨steps, last, rfl⟩
    · exact .singleton step
    · rw [List.getLastD_concat] at hextends
      rw [List.isChain_append]
      refine ⟨h.chain, .singleton step, ?_⟩
      simpa using hextends

end Coherent

namespace Monitor

/--
A frame that shows the variables of a call. Of several variables of one name the last one is shown.
-/
def Mirrors (stands : Value → Json → Prop) (call : Activation) (frame : Frame) : Prop :=
  frame.name = call.shownName
    ∧ List.Forall₂ (Named stands) (latest Prod.fst call.shownLocals) frame.bindings

theorem Mirrors.imp {stands stands' : Value → Json → Prop} {call : Activation} {frame : Frame}
    (himp : ∀ value json, stands value json → stands' value json) (h : Mirrors stands call frame) :
    Mirrors stands' call frame := by
  refine ⟨h.1, h.2.imp ?_⟩
  intro named field hfield
  exact ⟨hfield.1, himp _ _ hfield.2⟩

/--
A step that shows the calls of a program with its output when one of them is at a line. Its objects are
shown as they are, or as they were when they were last seen. An id that an error has left without an entry
may stand among the ids of such an object.
-/
structure Pictures (Source : Memory → Prop) (lost : Set String) (calls : List Activation) (line : Int)
    (output : String) (step : Step) : Prop where
  currentLine : step.currentLine = line
  line_mem : line ∈ step.executedLines
  frames : List.Forall₂ (Mirrors step.Shows) (calls.filter Activation.isUserCode).reverse step.frames
  objects : ∃ encoder : Encoder, encoder.heap.entries = step.objects
    ∧ ∀ entry ∈ step.objects, ∃ memory, Source memory ∧ encoder.Describes {} lost memory entry
  output : step.output = output

def Activation.values (call : Activation) : List Value :=
  call.locals.map Prod.snd

namespace Capture

variable {memory : Memory} {given : List HeapEntry} {Source : Memory → Prop} {pending lost : Set String}

theorem isOk_showCall (hvalues : ∀ v ∈ memory.values, v.hasText = true)
    (hkeys : ∀ key ∈ memory.keys, key.hasText = true) {call : Activation}
    (hcall : ∀ v ∈ call.values, v.hasText = true) (s : Encoder) :
    (showCall memory s call).2.isOk = true := by
  have hshown : call.shownLocals.map Prod.snd ⊆ call.values :=
    List.map_subset Prod.snd (List.filter_subset_self _)
  unfold showCall
  dsimp only
  rw [isOk_map]
  apply isOk_mapUntil
  intro v hv s
  exact Encoder.isOk_encode {} 0 hvalues hkeys s (hcall v (hshown hv))

/-
The variables of a call stand at the depth where none is left out.
-/
theorem showCall_spec (hclosed : memory.Closed) (hsource : Source memory) {call : Activation}
    (hcall : ∀ v ∈ call.values, v.isIn memory = true) (s : Encoder)
    (h : s.Consistent {} given Source pending) :
    s.Continues (showCall memory s call).1
      ∧ Results
          (fun t frame => Encoder.Consistent {} given Source pending t
            ∧ Mirrors (Encoder.Stands {} pending False t) call frame)
          (Encoder.Broken {} given Source pending) (showCall memory s call) := by
  have hshown : call.shownLocals.map Prod.snd ⊆ call.values :=
    List.map_subset Prod.snd (List.filter_subset_self _)
  have hstep : ∀ v ∈ call.shownLocals.map Prod.snd, ∀ (_ : Unit) s,
      Encoder.Consistent {} given Source pending s →
        s.Continues (Encoder.encode memory {} 0 s v).1
          ∧ Results
              (fun t json => Encoder.Consistent {} given Source pending t
                ∧ Encoder.Stands {} pending False t v json)
              (Encoder.Broken {} given Source pending) (Encoder.encode memory {} 0 s v) := by
    intro v hv _ s hs
    rcases Encoder.encode_spec hclosed hsource 0 s v (hcall v (hshown hv)) hs with ⟨hcontinues, hresults⟩
    refine ⟨hcontinues, hresults.imp ?_ id⟩
    rintro json _ ⟨hlast, hstands⟩
    exact ⟨hlast, hstands.imp (fun _ _ h => h) (fun _ h => h) (by decide)⟩
  rcases mapUntil_history (g := fun (m : Unit) _ => m)
    (I := fun _ => Encoder.Consistent {} given Source pending) (R := Encoder.Stands {} pending False)
    Encoder.Continues.refl Encoder.Continues.trans
    (fun hcontinues => Encoder.Stands.mono hcontinues.toExtends) _ hstep () s h
    with ⟨hcontinues, hresults⟩
  refine ⟨hcontinues, hresults.map _ ?_⟩
  rintro values ⟨hlast, hall⟩
  refine ⟨hlast, rfl, ?_⟩
  have hnamed := forall₂_latest (forall₂_zip Prod.fst Prod.snd hall)
  rw [List.map_id'] at hnamed
  rw [Fields.ofList_eq_latest]
  exact hnamed

theorem showCalls_spec (hclosed : memory.Closed) (hsource : Source memory) {calls : List Activation}
    (hcalls : ∀ call ∈ calls, ∀ v ∈ call.values, v.isIn memory = true) (s : Encoder)
    (h : s.Consistent {} given Source pending) :
    s.Continues (mapUntil (showCall memory) s calls).1
      ∧ Results
          (fun t frames => Encoder.Consistent {} given Source pending t
            ∧ List.Forall₂ (Mirrors (Encoder.Stands {} pending False t)) calls frames)
          (Encoder.Broken {} given Source pending) (mapUntil (showCall memory) s calls) := by
  apply mapUntil_history (g := fun (m : Unit) _ => m)
    (I := fun _ => Encoder.Consistent {} given Source pending)
    (R := fun t => Mirrors (Encoder.Stands {} pending False t)) Encoder.Continues.refl
    Encoder.Continues.trans
  · intro s t call frame hcontinues h
    apply h.imp
    intro value json
    exact Encoder.Stands.mono hcontinues.toExtends
  · intro call hcall _
    exact showCall_spec hclosed hsource (hcalls call hcall)
  · exact ()
  · exact h

theorem mem_of_mem_userCode {calls : List Activation} {call : Activation}
    (h : call ∈ (calls.filter Activation.isUserCode).reverse) : call ∈ calls := by
  rw [List.mem_reverse] at h
  exact List.mem_of_mem_filter h

/-
Seen from the entries of earlier dumps, no id is pending when a dump begins, and so none is when it is over.
-/
theorem showCalls_startDump (hclosed : memory.Closed) {calls : List Activation}
    (hcalls : ∀ call ∈ calls, ∀ v ∈ call.values, v.isIn memory = true) (s : Encoder) :
    Results
      (fun t frames => (∀ id ∈ t.visited, id ∈ t.heap.ids)
        ∧ List.Forall₂ (Mirrors (Encoder.Stands {} ∅ False t)) calls frames)
      (fun _ => True) (mapUntil (showCall memory) (s.startDump []) calls) := by
  have hfresh : (s.startDump []).Consistent {} s.heap.entries (memory = ·) ∅ :=
    ⟨by simp [Encoder.startDump], fun entry hentry => .inl hentry⟩
  apply (showCalls_spec hclosed rfl hcalls _ hfresh).2.imp
  · rintro frames _ ⟨hlast, hall⟩
    exact ⟨fun id hid => (hlast.visited id hid).resolve_right (Set.notMem_empty id), hall⟩
  · exact fun _ => trivial

/--
What holds of a capture while nothing is being captured, given the output so far. Lines and ids may be
ahead of the last step, as they are after an error that came up instead of a step.
-/
structure Sound (Source : Memory → Prop) (lost : Set String) (Seen : Step → Prop) (output : String)
    (c : Capture) : Prop where
  length : c.steps.length ≤ max 0 c.maxSteps
  steps : ∀ step ∈ c.steps, step.error = none ∧ Seen step
  coherent : Coherent c.steps
  ascending : c.executed.Pairwise (· < ·)
  executed : (c.steps.getLastD {}).executedLines ⊆ c.executed
  distinct : c.encoder.heap.ids.Nodup
  ids : (c.steps.getLastD {}).objectIds <+: c.encoder.heap.ids
  output : (c.steps.getLastD {}).output.toList <+: output.toList
  encoder : (c.encoder.startDump []).Consistent {} [] Source lost

variable {Seen : Step → Prop} {output : String} {c : Capture}

theorem Sound.start (Source : Memory → Prop) (lost : Set String) (Seen : Step → Prop) (output : String)
    (maxSteps : Int) : Sound Source lost Seen output { maxSteps } where
  length := by simp
  steps := by simp
  coherent := .nil
  ascending := .nil
  executed := List.Subset.refl _
  distinct := List.nodup_nil
  ids := List.prefix_rfl
  output := List.nil_prefix
  encoder := ⟨by simp [Encoder.startDump], by simp [Encoder.startDump]⟩

theorem Sound.write (h : c.Sound Source lost Seen output) (text : String) :
    c.Sound Source lost Seen (output ++ text) :=
  { h with
    output := by
      rw [String.toList_append]
      exact h.output.trans (List.prefix_append ..) }

/-
An error among the variables leaves no step behind, but maybe ids without an entry.
-/
theorem Sound.broken {encoder : Encoder} (h : c.Sound Source lost Seen output) (line : Int)
    (hcontinues : (c.encoder.startDump []).Continues encoder)
    (hbroken : encoder.Broken {} [] Source lost)
    (hlost : ∀ id ∈ encoder.visited, id ∉ encoder.heap.ids → id ∈ lost) :
    Sound Source lost Seen output
      { c with executed := Timeline.insertLine line c.executed, encoder } where
  length := h.length
  steps := h.steps
  coherent := h.coherent
  ascending := Timeline.pairwise_insertLine line c.executed h.ascending
  executed := by
    intro l hl
    simp [h.executed hl]
  distinct := hcontinues.distinct h.distinct
  ids := h.ids.trans hcontinues.ids
  output := h.output
  encoder := by
    have hsettled : encoder.Consistent {} [] Source lost := by
      apply Encoder.Consistent.weaken hbroken
      rintro id (hid | hvisited)
      · exact .inr hid
      · rw [Encoder.Knows, or_iff_not_imp_left]
        exact hlost id hvisited
    exact hsettled.startDump (by simp)

/-
Lines, ids and output of a step are those of the capture, and all three only grow.
-/
theorem Sound.append {encoder : Encoder} {line : Int} {step : Step} (h : c.Sound Source lost Seen output)
    (hroom : c.steps.length < c.maxSteps) (hcontinues : (c.encoder.startDump []).Continues encoder)
    (hlast : encoder.Consistent {} [] Source lost)
    (hlines : step.executedLines = Timeline.insertLine line c.executed)
    (hobjects : step.objects = encoder.heap.entries) (houtput : step.output = output)
    (herror : step.error = none) (hseen : Seen step) :
    Sound Source lost Seen output
      { c with executed := Timeline.insertLine line c.executed, encoder, steps := c.steps ++ [step] } := by
  have hids : step.objectIds = encoder.heap.ids := by rw [Step.objectIds, hobjects, Heap.ids]
  have hnext : (c.steps.getLastD {}).Extends step := by
    refine ⟨?_, ?_, ?_⟩
    · intro l hl
      simp [hlines, h.executed hl]
    · rw [hids]
      exact h.ids.trans hcontinues.ids
    · rw [houtput]
      exact h.output
  have hascending := Timeline.pairwise_insertLine line c.executed h.ascending
  have hdistinct := hcontinues.distinct h.distinct
  constructor
  · rw [List.length_append, List.length_singleton]
    push_cast
    omega
  · rw [List.forall_mem_append, List.forall_mem_singleton]
    exact ⟨h.steps, herror, hseen⟩
  · apply h.coherent.concat hnext
    · rw [hlines]
      exact hascending
    · rw [hids]
      exact hdistinct
  · exact hascending
  · rw [List.getLastD_concat, hlines]
    exact List.Subset.refl _
  · exact hdistinct
  · rw [List.getLastD_concat, hids]
  · rw [List.getLastD_concat, houtput]
  · exact hlast.startDump (by simp)

theorem Sound.snapshot (calls : List Activation) (line : Int) (h : c.Sound Source lost Seen output)
    (hroom : c.steps.length < c.maxSteps) (hclosed : memory.Closed) (hsource : Source memory)
    (hcalls : ∀ call ∈ calls, ∀ v ∈ call.values, v.isIn memory = true)
    (hlost : (c.snapshot memory calls line output).2.isSome →
      ∀ id ∈ (c.snapshot memory calls line output).1.encoder.visited,
        id ∉ (c.snapshot memory calls line output).1.encoder.heap.ids → id ∈ lost)
    (hseen : ∀ step, Pictures Source lost calls line output step → Seen step) :
    (c.snapshot memory calls line output).1.Sound Source lost Seen output := by
  have hshown : ∀ call ∈ (calls.filter Activation.isUserCode).reverse,
      ∀ v ∈ call.values, v.isIn memory = true := fun call hcall => hcalls call (mem_of_mem_userCode hcall)
  rcases showCalls_spec hclosed hsource hshown _ h.encoder with ⟨hcontinues, hresults⟩
  have hframes := showCalls_startDump hclosed hshown c.encoder
  unfold Capture.snapshot at hlost ⊢
  dsimp only at hlost ⊢
  rcases hall : mapUntil (showCall memory) (c.encoder.startDump [])
    (calls.filter Activation.isUserCode).reverse with ⟨encoder, raised | frames⟩
  · rw [hall] at hcontinues hresults hlost
    exact h.broken line hcontinues hresults (hlost rfl)
  · rw [hall] at hcontinues hresults hframes
    apply h.append hroom hcontinues hresults.1 rfl rfl rfl rfl
    apply hseen
    refine ⟨rfl, by simp, ?_, ⟨encoder, rfl, ?_⟩, rfl⟩
    · apply hframes.2.imp
      intro call frame hmirrors
      apply hmirrors.imp
      intro value json hstands
      exact hstands.shows rfl
    · intro entry hentry
      exact (hresults.1.entries entry hentry).resolve_left List.not_mem_nil

/-
A dump in which everything has a text comes to its end, and an object that it has met has an entry then.
-/
theorem settled_snapshot {calls : List Activation} (hclosed : memory.Closed)
    (hvalues : ∀ v ∈ memory.values, v.hasText = true) (hkeys : ∀ key ∈ memory.keys, key.hasText = true)
    (hcalls : ∀ call ∈ calls, ∀ v ∈ call.values, v.isIn memory = true ∧ v.hasText = true) (line : Int)
    (output : String) (c : Capture) :
    ∀ id ∈ (c.snapshot memory calls line output).1.encoder.visited,
      id ∈ (c.snapshot memory calls line output).1.encoder.heap.ids := by
  have hresults := showCalls_startDump hclosed
    (fun call hcall v hv => (hcalls call (mem_of_mem_userCode hcall) v hv).1) c.encoder
  have hok : (mapUntil (showCall memory) (c.encoder.startDump [])
      (calls.filter Activation.isUserCode).reverse).2.isOk = true := by
    apply isOk_mapUntil
    intro call hcall
    exact isOk_showCall hvalues hkeys fun v hv => (hcalls call (mem_of_mem_userCode hcall) v hv).2
  unfold Capture.snapshot
  dsimp only
  rcases hall : mapUntil (showCall memory) (c.encoder.startDump [])
    (calls.filter Activation.isUserCode).reverse with ⟨encoder, raised | frames⟩
  · rw [hall] at hok
    contradiction
  · rw [hall] at hresults
    exact hresults.1

theorem maxSteps_snapshot (memory : Memory) (calls : List Activation) (line : Int) (output : String)
    (c : Capture) : (c.snapshot memory calls line output).1.maxSteps = c.maxSteps := by
  unfold Capture.snapshot
  dsimp only
  split
  · rfl
  · rfl

end Capture

end Monitor

end Playback
