import Playback.Proofs.Monitor.Machine
import Playback.Proofs.Run.Coherence
import Playback.Proofs.Trace.Export

/-!
This module contains the proof that the report of a traced run needs no repair: however the objects change
and the run ends, its steps are within the limit, show what they are captured of, and are read back as
they are.
-/

namespace Playback.Monitor

namespace Machine

def Recorded (maxSteps : Int) (Source : Memory → Prop) (lost : Set String) (Seen : Step → Prop)
    (m : Machine) : Prop :=
  ∃ c, m.capture = some c ∧ c.maxSteps = maxSteps ∧ c.Sound Source lost Seen m.output

/--
The ids that the current dump has handed out without an entry to follow.
-/
def unsettled (m : Machine) : Set String :=
  {id | ∃ c ∈ m.capture, id ∈ c.encoder.visited ∧ id ∉ c.encoder.heap.ids}

theorem unsettled_eq_empty_iff {m : Machine} {c : Capture} (hc : m.capture = some c) :
    m.unsettled = ∅ ↔ ∀ id ∈ c.encoder.visited, id ∈ c.encoder.heap.ids := by
  simp [unsettled, hc, Set.eq_empty_iff_forall_notMem]

theorem unsettled_performGuarded (m : Machine) (guarded : Bool) (action : Action) :
    (m.performGuarded guarded action).1.unsettled = (m.perform action).1.unsettled := by
  rcases m.performGuarded_fst guarded action with heq | ⟨n, heq⟩
  · rw [heq]
  · rw [heq]
    rfl

/-
Where everything has a text, whatever a dump has met has an entry when it is over.
-/
theorem unsettled_report {m : Machine} (h : m.unsettled = ∅) (hclosed : m.Closed)
    (hvalues : ∀ v ∈ m.values, v.hasText = true) (hkeys : ∀ key ∈ m.memory.keys, key.hasText = true)
    (kind : String) (i : Nat) : (m.report kind i).1.unsettled = ∅ := by
  rcases m.report_cases kind i
    with ⟨capture, notes, heq, hsame | ⟨c, hc, hfull⟩ | ⟨c, call, hc, _, _, hnext, _⟩⟩
  · rw [heq, hsame]
    exact h
  · rw [unsettled_eq_empty_iff hc] at h
    rw [heq, unsettled_eq_empty_iff hfull]
    exact h
  · have hcalls : ∀ call ∈ m.callsAt i, ∀ v ∈ call.values, v.isIn m.memory = true ∧ v.hasText = true := by
      intro call hcall v hv
      have hheld := values_of_call (mem_of_mem_callStack _ _ hcall) hv
      exact ⟨hclosed v hheld, hvalues v hheld⟩
    rw [heq, unsettled_eq_empty_iff hnext]
    exact Capture.settled_snapshot (fun v hv => hclosed v (List.mem_append_left _ hv))
      (fun v hv => hvalues v (List.mem_append_left _ hv)) hkeys hcalls (call.line.getD 0) m.output c

theorem unsettled_perform {m : Machine} (h : m.unsettled = ∅) (hclosed : m.Closed)
    (hvalues : ∀ v ∈ m.values, v.hasText = true) (hkeys : ∀ key ∈ m.memory.keys, key.hasText = true)
    {action : Action} (hin : ∀ v ∈ action.values, v.isIn m.memory = true ∧ v.hasText = true) :
    (m.perform action).1.unsettled = ∅ := by
  rcases m.perform_cases action with ⟨kind, i, line, bind, unbind, rfl, heq⟩ | ⟨object, changed, rfl, heq⟩
    | ⟨text, notes, rfl, heq⟩ | ⟨supply, notes, heq⟩
  · have hmoved : ∀ v ∈ (m.move i line bind unbind).values, v.isIn m.memory = true ∧ v.hasText = true :=
      forall_values_move hin fun v hv => ⟨hclosed v hv, hvalues v hv⟩
    have hnext : (m.move i line bind unbind).unsettled = ∅ := h
    rw [heq]
    exact unsettled_report hnext (fun v hv => (hmoved v hv).1) (fun v hv => (hmoved v hv).2) hkeys kind i
  · rw [heq]
    exact h
  · rw [heq]
    exact h
  · rw [heq]
    exact h

namespace Recorded

variable {maxSteps : Int} {Source : Memory → Prop} {lost : Set String} {Seen : Step → Prop} {m : Machine}

theorem report (h : m.Recorded maxSteps Source lost Seen) (hclosed : m.Closed) (hsource : Source m.memory)
    (kind : String) (i : Nat)
    (hlost : (m.report kind i).2.isSome → (m.report kind i).1.unsettled ⊆ lost)
    (hseen : ∀ call step, m.activations[i]? = some call →
      Pictures Source lost (m.callsAt i) (call.line.getD 0) m.output step → Seen step) :
    (m.report kind i).1.Recorded maxSteps Source lost Seen := by
  rcases m.report_cases kind i
    with ⟨capture, notes, heq, hsame | ⟨c, hc, hfull⟩ | ⟨c, call, hc, hcall, hroom, hnext, hraises⟩⟩
  · rw [heq, hsame]
    exact h
  · rcases h with ⟨_, hold, hmax, hsound⟩
    rw [hc, Option.some_inj] at hold
    subst hold
    rw [heq]
    exact ⟨_, hfull, hmax, { hsound with }⟩
  · rcases h with ⟨_, hold, hmax, hsound⟩
    rw [hc, Option.some_inj] at hold
    subst hold
    have hlimit := c.maxSteps_snapshot m.memory (m.callsAt i) (call.line.getD 0) m.output
    rw [hraises, heq] at hlost
    rw [heq]
    refine ⟨_, hnext, hlimit.trans hmax, ?_⟩
    apply hsound.snapshot (m.callsAt i) (call.line.getD 0) hroom
    · intro v hv
      exact hclosed v (List.mem_append_left _ hv)
    · exact hsource
    · intro member hmember v hv
      exact hclosed v (values_of_call (mem_of_mem_callStack _ _ hmember) hv)
    · intro hraised id hvisited hmissing
      exact hlost hraised ⟨_, hnext, hvisited, hmissing⟩
    · intro step
      exact hseen call step hcall

theorem perform (h : m.Recorded maxSteps Source lost Seen) (hclosed : m.Closed)
    (hsource : Source m.memory) {action : Action} (hvalues : ∀ v ∈ action.values, v.isIn m.memory = true)
    (hlost : (m.perform action).2.isSome → (m.perform action).1.unsettled ⊆ lost)
    (hseen : ∀ kind i line bind unbind, action = .event kind i line bind unbind →
      ∀ call step, (m.move i line bind unbind).activations[i]? = some call →
        Pictures Source lost ((m.move i line bind unbind).callsAt i) (call.line.getD 0) m.output step →
          Seen step) :
    (m.perform action).1.Recorded maxSteps Source lost Seen := by
  rcases m.perform_cases action with ⟨kind, i, line, bind, unbind, rfl, heq⟩ | ⟨object, changed, rfl, heq⟩
    | ⟨text, notes, rfl, heq⟩ | ⟨supply, notes, heq⟩
  -- The variables change before the event is reported, which captures nothing yet.
  · have hmoved : (m.move i line bind unbind).Recorded maxSteps Source lost Seen := h
    rw [heq] at hlost ⊢
    apply hmoved.report
    · exact forall_values_move hvalues hclosed
    · exact hsource
    · exact hlost
    · exact hseen kind i line bind unbind rfl
  · rw [heq]
    exact h
  · rcases h with ⟨c, hc, hmax, hsound⟩
    rw [heq]
    exact ⟨c, hc, hmax, hsound.write text⟩
  · rw [heq]
    exact h

theorem performGuarded {action : Action} (guarded : Bool)
    (h : (m.perform action).1.Recorded maxSteps Source lost Seen) :
    (m.performGuarded guarded action).1.Recorded maxSteps Source lost Seen := by
  rcases m.performGuarded_fst guarded action with heq | ⟨n, heq⟩
  · rw [heq]
    exact h
  · rw [heq]
    exact h

end Recorded

end Machine

namespace Program

/--
The objects as they are at some point of a program.
-/
def Reaches (p : Program) (supply : Supply) (maxSteps : Int) (memory : Memory) : Prop :=
  ∃ done, done <+: p.actions ∧ ((p.start supply maxSteps).after done).memory = memory

/--
The ids that a dump has handed out at some point of a program without an entry to follow.
-/
def Lost (p : Program) (supply : Supply) (maxSteps : Int) : Set String :=
  {id | ∃ done, done <+: p.actions ∧ id ∈ ((p.start supply maxSteps).after done).unsettled}

/--
A step that is captured of a program at one of its events.
-/
inductive Captures (p : Program) (supply : Supply) (maxSteps : Int) (step : Step) : Prop where
  | event {done : List (Bool × Action)} {guarded : Bool} {kind : String} {i : Nat}
      {line : Option (Option Int)} {bind : List (String × Value)} {unbind : List String}
      {moment : Machine} {call : Activation}
      (hactions : done ++ [(guarded, .event kind i line bind unbind)] <+: p.actions)
      (hmoment : moment = ((p.start supply maxSteps).after done).move i line bind unbind)
      (hcall : moment.activations[i]? = some call)
      (h : Pictures (p.Reaches supply maxSteps) (p.Lost supply maxSteps) (moment.callsAt i)
        (call.line.getD 0) moment.output step)

variable {p : Program} {supply : Supply} {maxSteps : Int}

theorem recorded_after (hclosed : p.Closed) {done : List (Bool × Action)} (hdone : done <+: p.actions) :
    ((p.start supply maxSteps).after done).Recorded maxSteps (p.Reaches supply maxSteps)
      (p.Lost supply maxSteps) (p.Captures supply maxSteps) := by
  apply after_induction (P := Machine.Recorded maxSteps (p.Reaches supply maxSteps) (p.Lost supply maxSteps)
    (p.Captures supply maxSteps)) _ _ hdone
  · exact ⟨_, rfl, rfl, .start _ _ _ "" maxSteps⟩
  · intro done guarded action hactions ih
    have hpast : done <+: p.actions := (List.prefix_append ..).trans hactions
    have hmem : (guarded, action) ∈ p.actions := hactions.subset (by simp)
    apply Machine.Recorded.performGuarded
    -- What the event shows is judged by the objects as they are when it is reached.
    apply ih.perform (closed_after hclosed supply maxSteps hpast)
    · exact ⟨done, hpast, rfl⟩
    · intro v hv
      exact (isIn_after supply maxSteps hpast v).trans (hclosed v (values_of_action hmem hv))
    · intro _ id hid
      refine ⟨_, hactions, ?_⟩
      rwa [Machine.after_concat, Machine.unsettled_performGuarded]
    · rintro kind i line bind unbind rfl call step hcall hpictures
      exact .event hactions rfl hcall hpictures

theorem unsettled_after (hclosed : p.Closed) (htexts : p.HasTexts) {done : List (Bool × Action)}
    (hdone : done <+: p.actions) : ((p.start supply maxSteps).after done).unsettled = ∅ := by
  apply after_induction (P := fun m => m.unsettled = ∅) _ _ hdone
  · simp [Machine.unsettled, start]
  · intro done guarded action hactions ih
    have hpast : done <+: p.actions := (List.prefix_append ..).trans hactions
    have hmem : (guarded, action) ∈ p.actions := hactions.subset (by simp)
    rw [Machine.unsettled_performGuarded]
    apply Machine.unsettled_perform ih (closed_after hclosed supply maxSteps hpast)
    · exact fun v hv => htexts.1 v (values_after_subset supply maxSteps hpast hv)
    · exact fun key hkey => htexts.2 key (keys_after_subset supply maxSteps hpast hkey)
    · intro v hv
      have hvalue := values_of_action hmem hv
      exact ⟨(isIn_after supply maxSteps hpast v).trans (hclosed v hvalue), htexts.1 v hvalue⟩

theorem lost_eq_empty (hclosed : p.Closed) (htexts : p.HasTexts) : p.Lost supply maxSteps = ∅ := by
  rw [Set.eq_empty_iff_forall_notMem]
  rintro id ⟨done, hdone, hid⟩
  rw [unsettled_after hclosed htexts hdone] at hid
  contradiction

theorem Ends.recorded {m : Machine} {raised : Option Raised} (hclosed : p.Closed)
    (h : p.Ends supply maxSteps m raised) :
    m.Recorded maxSteps (p.Reaches supply maxSteps) (p.Lost supply maxSteps)
      (p.Captures supply maxSteps) := by
  rcases h.eq_after with ⟨done, hdone, rfl⟩
  exact recorded_after hclosed hdone

end Program

theorem markLast_eq (message : String) (steps : List Step) :
    markLast message steps = Tracing.markLast message steps := by
  induction steps with
  | nil => rfl
  | cons step steps ih =>
    cases steps with
    | nil => rfl
    | cons next steps => exact congrArg (List.cons step) ih

/-
A message on the last step is not among what a step was captured of.
-/
theorem Program.Captures.mark {p : Program} {supply : Supply} {maxSteps : Int} {step : Step}
    (message : String) (h : p.Captures supply maxSteps step) :
    p.Captures supply maxSteps { step with error := some message } := by
  cases h with
  | event hactions hmoment hcall h =>
    refine .event hactions hmoment hcall
      ⟨h.currentLine, h.line_mem, h.frames.imp ?_, h.objects, h.output⟩
    intro call frame hmirrors
    apply hmirrors.imp
    intro value json hshows
    cases hshows with
    | reference h => exact .reference h
    | scalar h hshown => exact .scalar h hshown

inductive Reported (c : Capture) : RunStatus → List Step → Prop where
  | captured {status : RunStatus} : Reported c status c.steps
  | marked {message : String} : Reported c .error (markLast message c.steps)
  | uncaptured {output message : String} (h : c.steps = []) :
      Reported c .error [.failure output message]

theorem reported_of_traceReport {m : Machine} {c : Capture} {raised : Option Raised}
    {report : TraceReport} (hc : m.capture = some c) (h : traceReport m raised = .ok report) :
    Reported c report.status report.steps := by
  unfold traceReport at h
  rw [hc] at h
  cases raised with
  | none =>
    cases h
    exact .captured
  | some r =>
    dsimp only at h
    split at h
    · cases h
      exact .captured
    · cases h
      exact .captured
    · cases h
      exact .captured
    · cases h
      rw [Option.getD_some]
      split
      · next hempty =>
        rw [List.isEmpty_iff] at hempty
        exact .uncaptured hempty
      · exact .marked
    · contradiction

namespace Reported

variable {Source : Memory → Prop} {lost : Set String} {Seen : Step → Prop} {output : String} {c : Capture}
  {status : RunStatus} {steps : List Step}

theorem length (hsound : c.Sound Source lost Seen output) (h : Reported c status steps) :
    steps.length ≤ max 1 c.maxSteps := by
  have hlength := hsound.length
  cases h with
  | captured => omega
  | marked =>
    rw [markLast_eq, Tracing.length_markLast]
    omega
  | uncaptured =>
    rw [List.length_singleton]
    omega

theorem coherent (hsound : c.Sound Source lost Seen output) (h : Reported c status steps) :
    Coherent steps := by
  cases h with
  | captured => exact hsound.coherent
  | marked =>
    rw [markLast_eq]
    apply Tracing.coherent_markLast
    exact hsound.coherent
  | uncaptured => apply Coherent.failure

theorem seen (hsound : c.Sound Source lost Seen output)
    (hmark : ∀ step message, Seen step → Seen { step with error := some message })
    (h : Reported c status steps) :
    (∀ step ∈ steps, Seen step)
      ∨ status = .error ∧ ∃ output message, steps = [.failure output message] := by
  have hsteps := fun step hstep => (hsound.steps step hstep).2
  cases h with
  | captured => exact .inl hsteps
  | @marked message =>
    left
    rw [markLast_eq]
    rcases c.steps.eq_nil_or_concat' with heq | ⟨before, last, heq⟩
    · rw [heq]
      exact List.forall_mem_nil _
    · rw [heq, List.forall_mem_append, List.forall_mem_singleton] at hsteps
      rw [heq, Tracing.markLast_concat, List.forall_mem_append, List.forall_mem_singleton]
      exact ⟨hsteps.1, hmark last message hsteps.2⟩
  | uncaptured => exact .inr ⟨rfl, _, _, rfl⟩

end Reported

end Playback.Monitor
