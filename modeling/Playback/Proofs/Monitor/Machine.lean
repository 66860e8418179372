import Playback.Monitor.Program
import Playback.Proofs.Monitor.Capture
import Playback.Proofs.Object.Change

/-!
This module contains what a program leaves alone while it runs: no object comes or goes, and all values and
keys that a machine ever holds are those that its program begins with or brings in.
-/

namespace Playback.Monitor

def Action.values : Action → List Value
  | .event _ _ _ bind _ => bind.map Prod.snd
  | .change _ changed => changed.values
  | _ => []

def Action.keys : Action → List Key
  | .change _ changed => changed.keys
  | _ => []

theorem Activation.values_update_subset (line : Option (Option Int)) (bind : List (String × Value))
    (unbind : List String) (call : Activation) :
    (Machine.update line bind unbind call).values ⊆ bind.map Prod.snd ++ call.values := by
  have hlocals : ∀ locals : List (String × Value),
      (bind.foldl (fun ls new => setEntry (· == new.1) new.1 new.2 ls) locals).map Prod.snd
        ⊆ bind.map Prod.snd ++ locals.map Prod.snd := by
    induction bind with
    | nil =>
      intro locals
      exact List.Subset.refl _
    | cons new bind ih =>
      intro locals
      rw [List.map_cons, List.cons_append]
      apply List.Subset.trans (ih _)
      rw [List.append_subset]
      constructor
      · exact List.subset_cons_of_subset _ (List.subset_append_left _ _)
      · apply List.Subset.trans (map_setEntry_subset _ _ _ _)
        exact List.cons_subset_cons _ (List.subset_append_right _ _)
  exact List.Subset.trans (List.map_subset Prod.snd (List.filter_subset_self _)) (hlocals call.locals)

theorem mem_of_mem_callStack {activations : List Activation} {call : Activation} (fuel i : Nat)
    (h : call ∈ callStack activations fuel i) : call ∈ activations := by
  induction fuel generalizing i with
  | zero =>
    rw [callStack, List.mem_nil_iff] at h
    contradiction
  | succ fuel ih =>
    unfold callStack at h
    split at h
    · rw [List.mem_nil_iff] at h
      contradiction
    · next found hfound =>
      rw [List.mem_cons] at h
      rcases h with heq | hmem
      · rw [heq]
        exact List.mem_of_getElem? hfound
      · split at hmem
        · rw [List.mem_nil_iff] at hmem
          contradiction
        · exact ih _ hmem

namespace Machine

def values (m : Machine) : List Value :=
  m.memory.values ++ m.activations.flatMap Activation.values

theorem values_of_call {m : Machine} {call : Activation} (hcall : call ∈ m.activations) :
    call.values ⊆ m.values := by
  intro v hv
  rw [values, List.mem_append, List.mem_flatMap]
  exact .inr ⟨call, hcall, hv⟩

def Closed (m : Machine) : Prop :=
  ∀ v ∈ m.values, v.isIn m.memory = true

def move (m : Machine) (i : Nat) (line : Option (Option Int)) (bind : List (String × Value))
    (unbind : List String) : Machine :=
  { m with activations := m.activations.modify i (update line bind unbind) }

def callsAt (m : Machine) (i : Nat) : List Activation :=
  callStack m.activations m.activations.length i

/--
Do what all actions say, as happens if every signal that comes up on the way is held back.
-/
def after (m : Machine) (actions : List (Bool × Action)) : Machine :=
  actions.foldl (fun m action => (m.performGuarded action.1 action.2).1) m

theorem after_concat (m : Machine) (actions : List (Bool × Action)) (action : Bool × Action) :
    m.after (actions ++ [action]) = ((m.after actions).performGuarded action.1 action.2).1 :=
  List.foldl_concat ..

/-
A run does what some of the first actions say.
-/
theorem run_eq_after (m : Machine) (actions : List (Bool × Action)) :
    ∃ done, done <+: actions ∧ (m.run actions).1 = m.after done := by
  induction actions generalizing m with
  | nil => exact ⟨[], List.prefix_rfl, rfl⟩
  | cons action actions ih =>
    rcases action with ⟨guarded, action⟩
    unfold run
    rcases hperform : m.performGuarded guarded action with ⟨next, _ | raised⟩
    · rcases ih next with ⟨done, hdone, heq⟩
      refine ⟨(guarded, action) :: done, ?_, ?_⟩
      · rw [List.cons_prefix_cons]
        exact ⟨rfl, hdone⟩
      · dsimp only
        rw [heq, after, after, List.foldl_cons, hperform]
    -- A signal that gets through ends the run, but what its action did before stays done.
    · refine ⟨[(guarded, action)], ?_, ?_⟩
      · rw [List.cons_prefix_cons]
        exact ⟨rfl, List.nil_prefix⟩
      · rw [after, List.foldl_cons, hperform]
        rfl

theorem values_move_subset (m : Machine) (i : Nat) (line : Option (Option Int))
    (bind : List (String × Value)) (unbind : List String) :
    (m.move i line bind unbind).values ⊆ bind.map Prod.snd ++ m.values := by
  intro v hv
  unfold values move at hv
  rw [List.mem_append, List.mem_flatMap] at hv
  rcases hv with hmemory | ⟨call, hcall, hv⟩
  · exact List.mem_append_right _ (List.mem_append_left _ hmemory)
  · rw [List.mem_iff_getElem?] at hcall
    rcases hcall with ⟨j, hj⟩
    rw [List.getElem?_modify, Option.map_eq_map, Option.map_eq_some_iff] at hj
    rcases hj with ⟨old, hold, rfl⟩
    have hkept : old.values ⊆ m.values := values_of_call (List.mem_of_getElem? hold)
    split at hv
    · have hnew := Activation.values_update_subset line bind unbind old hv
      rw [List.mem_append] at hnew ⊢
      exact hnew.imp_right fun h => hkept h
    · exact List.mem_append_right _ (hkept hv)

theorem forall_values_move {m : Machine} {P : Value → Prop} {i : Nat} {line : Option (Option Int)}
    {bind : List (String × Value)} {unbind : List String} (hbind : ∀ v ∈ bind.map Prod.snd, P v)
    (h : ∀ v ∈ m.values, P v) : ∀ v ∈ (m.move i line bind unbind).values, P v := by
  intro v hv
  have hnew := m.values_move_subset i line bind unbind hv
  rw [List.mem_append] at hnew
  exact hnew.elim (hbind v) (h v)

/-
What is captured is no part of what the program holds. A report takes a step of the active calls if there is
room for one.
-/
theorem report_cases (m : Machine) (kind : String) (i : Nat) :
    ∃ capture notes, (m.report kind i).1 = { m with capture, notes }
      ∧ (capture = m.capture
        ∨ (∃ c, m.capture = some c ∧ capture = some { c with truncated := true })
        ∨ ∃ c call, m.capture = some c ∧ m.activations[i]? = some call ∧ c.steps.length < c.maxSteps
          ∧ capture = some (c.snapshot m.memory (m.callsAt i) (call.line.getD 0) m.output).1
          ∧ (m.report kind i).2 = (c.snapshot m.memory (m.callsAt i) (call.line.getD 0) m.output).2) := by
  unfold report
  split
  · next c call hc hcall =>
    rw [hc]
    dsimp only
    split
    · exact ⟨_, _, rfl, .inl hc⟩
    · split
      · exact ⟨_, _, rfl, .inl hc⟩
      · split
        · exact ⟨_, _, rfl, .inr (.inl ⟨c, rfl, rfl⟩)⟩
        · next hroom =>
          unfold callsAt
          rcases hshown : c.snapshot m.memory (callStack m.activations m.activations.length i)
            (call.line.getD 0) m.output with ⟨next, _ | raised⟩
          · refine ⟨_, _, rfl, .inr (.inr ⟨c, call, rfl, hcall, by omega, ?_⟩)⟩
            rw [hshown]
            exact ⟨rfl, rfl⟩
          · refine ⟨_, _, rfl, .inr (.inr ⟨c, call, rfl, hcall, by omega, ?_⟩)⟩
            rw [hshown]
            exact ⟨rfl, rfl⟩
  · exact ⟨_, _, rfl, .inl rfl⟩

/-
Reading and raising leave alone what a program holds and what is captured of it.
-/
theorem perform_cases (m : Machine) (action : Action) :
    (∃ kind i line bind unbind, action = .event kind i line bind unbind
        ∧ m.perform action = (m.move i line bind unbind).report kind i)
      ∨ (∃ object changed, action = .change object changed
        ∧ (m.perform action).1 = { m with memory := m.memory.change object changed })
      ∨ (∃ text notes, action = .write text
        ∧ (m.perform action).1 = { m with output := m.output ++ text, notes })
      ∨ ∃ supply notes, (m.perform action).1 = { m with supply, notes } := by
  cases action with
  | event kind i line bind unbind => exact .inl ⟨kind, i, line, bind, unbind, rfl, rfl⟩
  | change object changed => exact .inr (.inl ⟨object, changed, rfl, rfl⟩)
  | write text => exact .inr (.inr (.inl ⟨text, _, rfl, rfl⟩))
  | readLine limit =>
    unfold perform
    dsimp only
    split
    · exact .inr (.inr (.inr ⟨_, _, rfl⟩))
    · exact .inr (.inr (.inr ⟨m.supply, m.notes, rfl⟩))
  | read limit =>
    unfold perform
    dsimp only
    split
    · exact .inr (.inr (.inr ⟨_, _, rfl⟩))
    · exact .inr (.inr (.inr ⟨m.supply, m.notes, rfl⟩))
  | _ => exact .inr (.inr (.inr ⟨_, _, rfl⟩))

theorem values_perform_subset (m : Machine) (action : Action) :
    (m.perform action).1.values ⊆ action.values ++ m.values := by
  rcases m.perform_cases action with ⟨kind, i, line, bind, unbind, rfl, heq⟩ | ⟨object, changed, rfl, heq⟩
    | ⟨text, notes, rfl, heq⟩ | ⟨supply, notes, heq⟩
  · rcases (m.move i line bind unbind).report_cases kind i with ⟨capture, notes, hreport, _⟩
    rw [heq, hreport]
    exact values_move_subset m i line bind unbind
  · intro v hv
    rw [heq, values, List.mem_append] at hv
    rcases hv with hmemory | hlocals
    · have hnew := Memory.values_change_subset m.memory object changed hmemory
      rw [List.mem_append] at hnew ⊢
      exact hnew.imp_right fun h => List.mem_append_left _ h
    · exact List.mem_append_right _ (List.mem_append_right _ hlocals)
  · rw [heq]
    exact List.Subset.refl _
  · rw [heq]
    exact List.subset_append_right _ _

/-
Nothing but a change of an object brings in keys.
-/
theorem keys_perform_subset (m : Machine) (action : Action) :
    (m.perform action).1.memory.keys ⊆ action.keys ++ m.memory.keys := by
  rcases m.perform_cases action with ⟨kind, i, line, bind, unbind, rfl, heq⟩ | ⟨object, changed, rfl, heq⟩
    | ⟨text, notes, rfl, heq⟩ | ⟨supply, notes, heq⟩
  · rcases (m.move i line bind unbind).report_cases kind i with ⟨capture, notes, hreport, _⟩
    rw [heq, hreport]
    exact List.Subset.refl _
  · rw [heq]
    exact Memory.keys_change_subset m.memory object changed
  · rw [heq]
    exact List.Subset.refl _
  · rw [heq]
    exact List.subset_append_right _ _

theorem isIn_perform (m : Machine) (action : Action) (v : Value) :
    v.isIn (m.perform action).1.memory = v.isIn m.memory := by
  rcases m.perform_cases action with ⟨kind, i, line, bind, unbind, rfl, heq⟩ | ⟨object, changed, rfl, heq⟩
    | ⟨text, notes, rfl, heq⟩ | ⟨supply, notes, heq⟩
  · rcases (m.move i line bind unbind).report_cases kind i with ⟨capture, notes, hreport, _⟩
    rw [heq, hreport]
    rfl
  · rw [heq]
    exact Memory.isIn_change m.memory object changed v
  · rw [heq]
  · rw [heq]

/-
A handler takes note of an error, and that is all that it does.
-/
theorem performGuarded_fst (m : Machine) (guarded : Bool) (action : Action) :
    (m.performGuarded guarded action).1 = (m.perform action).1
      ∨ ∃ n, (m.performGuarded guarded action).1 = (m.perform action).1.note n := by
  unfold performGuarded
  split
  · next heq =>
    rw [heq]
    split
    · exact .inr ⟨_, rfl⟩
    · exact .inl rfl
  · exact .inl rfl

theorem values_performGuarded_subset (m : Machine) (guarded : Bool) (action : Action) :
    (m.performGuarded guarded action).1.values ⊆ action.values ++ m.values := by
  rcases m.performGuarded_fst guarded action with heq | ⟨n, heq⟩
  · rw [heq]
    apply values_perform_subset
  · rw [heq]
    exact m.values_perform_subset action

theorem keys_performGuarded_subset (m : Machine) (guarded : Bool) (action : Action) :
    (m.performGuarded guarded action).1.memory.keys ⊆ action.keys ++ m.memory.keys := by
  rcases m.performGuarded_fst guarded action with heq | ⟨n, heq⟩
  · rw [heq]
    apply keys_perform_subset
  · rw [heq]
    exact m.keys_perform_subset action

theorem isIn_performGuarded (m : Machine) (guarded : Bool) (action : Action) (v : Value) :
    v.isIn (m.performGuarded guarded action).1.memory = v.isIn m.memory := by
  rcases m.performGuarded_fst guarded action with heq | ⟨n, heq⟩
  · rw [heq]
    apply isIn_perform
  · rw [heq]
    exact m.isIn_perform action v

end Machine

namespace Program

def values (p : Program) : List Value :=
  p.memory.values ++ p.activations.flatMap Activation.values ++ p.actions.flatMap fun a => a.2.values

def keys (p : Program) : List Key :=
  p.memory.keys ++ p.actions.flatMap fun a => a.2.keys

theorem values_of_action {p : Program} {guarded : Bool} {action : Action}
    (haction : (guarded, action) ∈ p.actions) : action.values ⊆ p.values := by
  intro v hv
  rw [values, List.mem_append, List.mem_flatMap]
  exact .inr ⟨_, haction, hv⟩

/--
Whether the values of a program lead to nothing but objects that there are.
-/
def Closed (p : Program) : Prop :=
  ∀ v ∈ p.values, v.isIn p.memory = true
deriving Decidable

/--
Whether all values and all keys of a program have a text.
-/
def HasTexts (p : Program) : Prop :=
  (∀ v ∈ p.values, v.hasText = true) ∧ ∀ key ∈ p.keys, key.hasText = true
deriving Decidable

def start (p : Program) (supply : Supply) (maxSteps : Int) : Machine :=
  { memory := p.memory, activations := p.activations, supply, capture := some { maxSteps } }

/--
How a program may come to its end: as its run does, or anywhere with anything raised, after it has held
back every signal on the way.
-/
inductive Ends (p : Program) (supply : Supply) (maxSteps : Int) : Machine → Option Raised → Prop where
  | run {m : Machine} {raised : Option Raised} (h : p.run supply (some { maxSteps }) = (m, raised)) :
      Ends p supply maxSteps m raised
  | resumed {done : List (Bool × Action)} {raised : Option Raised} (h : done <+: p.actions) :
      Ends p supply maxSteps ((p.start supply maxSteps).after done) raised

theorem Ends.eq_after {p : Program} {supply : Supply} {maxSteps : Int} {m : Machine}
    {raised : Option Raised} (h : p.Ends supply maxSteps m raised) :
    ∃ done, done <+: p.actions ∧ m = (p.start supply maxSteps).after done := by
  cases h with
  | run h =>
    have hm := congrArg Prod.fst h
    unfold Program.run at hm
    dsimp only at hm
    split at hm
    · exact ⟨[], List.nil_prefix, hm.symm⟩
    · rcases (p.start supply maxSteps).run_eq_after p.actions with ⟨done, hdone, heq⟩
      refine ⟨done, hdone, ?_⟩
      rw [← heq, ← hm]
      rfl
  | resumed h => exact ⟨_, h, rfl⟩

/-
What holds when a program begins, and after each action if it has held before, holds at every point of the
program. The last action is the one that a machine meets which has done all the others.
-/
theorem after_induction {p : Program} {supply : Supply} {maxSteps : Int} {P : Machine → Prop}
    (hstart : P (p.start supply maxSteps))
    (hstep : ∀ done guarded action, done ++ [(guarded, action)] <+: p.actions →
      P ((p.start supply maxSteps).after done) →
        P (((p.start supply maxSteps).after done).performGuarded guarded action).1)
    {done : List (Bool × Action)} (hdone : done <+: p.actions) : P ((p.start supply maxSteps).after done) := by
  induction done using List.reverseRecOn with
  | nil => exact hstart
  | append_singleton done action ih =>
    rw [Machine.after_concat]
    exact hstep done action.1 action.2 hdone (ih ((List.prefix_append ..).trans hdone))

theorem values_after_subset {p : Program} (supply : Supply) (maxSteps : Int)
    {done : List (Bool × Action)} (hdone : done <+: p.actions) :
    ((p.start supply maxSteps).after done).values ⊆ p.values := by
  apply after_induction (P := fun m => m.values ⊆ p.values) _ _ hdone
  · exact List.subset_append_left _ _
  · intro done guarded action haction ih
    have hmem : (guarded, action) ∈ p.actions := haction.subset (by simp)
    apply List.Subset.trans (Machine.values_performGuarded_subset _ guarded action)
    rw [List.append_subset]
    exact ⟨values_of_action hmem, ih⟩

theorem keys_after_subset {p : Program} (supply : Supply) (maxSteps : Int)
    {done : List (Bool × Action)} (hdone : done <+: p.actions) :
    ((p.start supply maxSteps).after done).memory.keys ⊆ p.keys := by
  apply after_induction (P := fun m => m.memory.keys ⊆ p.keys) _ _ hdone
  · exact List.subset_append_left _ _
  · intro done guarded action haction ih
    have hkeys : action.keys ⊆ p.keys := by
      intro key hkey
      rw [keys, List.mem_append, List.mem_flatMap]
      exact .inr ⟨(guarded, action), haction.subset (by simp), hkey⟩
    apply List.Subset.trans (Machine.keys_performGuarded_subset _ guarded action)
    rw [List.append_subset]
    exact ⟨hkeys, ih⟩

theorem isIn_after {p : Program} (supply : Supply) (maxSteps : Int) {done : List (Bool × Action)}
    (hdone : done <+: p.actions) (v : Value) :
    v.isIn ((p.start supply maxSteps).after done).memory = v.isIn p.memory := by
  apply after_induction (P := fun m => v.isIn m.memory = v.isIn p.memory) _ _ hdone
  · rfl
  · intro done guarded action _ ih
    rw [Machine.isIn_performGuarded]
    exact ih

theorem closed_after {p : Program} (hclosed : p.Closed) (supply : Supply) (maxSteps : Int)
    {done : List (Bool × Action)} (hdone : done <+: p.actions) :
    ((p.start supply maxSteps).after done).Closed := by
  intro v hv
  rw [isIn_after supply maxSteps hdone]
  exact hclosed v (values_after_subset supply maxSteps hdone hv)

end Program

end Playback.Monitor
