import Playback.Proofs.Object.Encoding

/-!
This module contains the condition under which a dump is never broken off: all values and keys that it comes
across have a text.
-/

namespace Playback

def Value.hasText : Value → Bool
  | .unshown _ _ => false
  | _ => true

def Key.hasText (key : Key) : Bool :=
  key.display.isOk

def Body.keys : Body → List Key
  | .entries pairs => pairs.map Prod.fst
  | _ => []

def Memory.keys (memory : Memory) : List Key :=
  memory.flatMap fun entry => entry.2.body.keys

theorem Memory.keys_of_lookup {memory : Memory} {handle : Handle} {object : Object}
    (hlookup : memory.lookup handle = some object) : object.body.keys ⊆ memory.keys := by
  intro key hkey
  rw [keys, List.mem_flatMap]
  exact ⟨(handle, object), mem_of_lookup hlookup, hkey⟩

theorem isOk_mapUntil {σ α β ε : Type} {f : σ → α → σ × Except ε β} (as : List α)
    (hstep : ∀ a ∈ as, ∀ s, (f s a).2.isOk = true) (s : σ) : (mapUntil f s as).2.isOk = true := by
  induction as generalizing s with
  | nil => rfl
  | cons a as ih =>
    rw [List.forall_mem_cons] at hstep
    have hhead := hstep.1 s
    unfold mapUntil
    rcases hfirst : f s a with ⟨t, e | b⟩
    · rw [hfirst] at hhead
      contradiction
    · dsimp only
      rw [isOk_map]
      exact ih hstep.2 t

theorem Body.isOk_of_parts {limits : Limits} {body : Body} (h : ∀ key ∈ body.keys, key.hasText = true)
    {part : Shown × Value} (hpart : part ∈ body.parts limits) : part.1.isOk = true := by
  unfold parts at hpart
  cases body with
  | elements items =>
    rcases List.mem_map.mp hpart with ⟨v, _, rfl⟩
    rfl
  | entries pairs =>
    rcases List.mem_map.mp hpart with ⟨pair, hpair, rfl⟩
    exact h pair.1 (List.mem_map_of_mem (Text.takeUpTo_subset _ _ hpair))
  | fields pairs =>
    rcases List.mem_map.mp hpart with ⟨pair, _, rfl⟩
    rfl

namespace Encoder

theorem isOk_encodeBody (encode : Encoder → Value → Encoder × Except Raised Json) (limits : Limits)
    {body : Body} (h : ∀ key ∈ body.keys, key.hasText = true)
    (hencode : ∀ v ∈ body.values, ∀ s, (encode s v).2.isOk = true) (s : Encoder) :
    (encodeBody encode limits s body).2.isOk = true := by
  unfold encodeBody
  dsimp only
  rw [isOk_map]
  apply isOk_mapUntil
  intro part hpart s
  have hname := Body.isOk_of_parts h hpart
  unfold encodePart
  cases hfirst : part.1 with
  | error raised =>
    rw [hfirst] at hname
    contradiction
  | ok name =>
    dsimp only
    rw [isOk_map]
    exact hencode part.2 (body.kept_subset_values limits (List.mem_map_of_mem hpart)) s

/-
Nothing but a missing text can break off a dump.
-/
theorem isOk_encodeWithin {memory : Memory} (limits : Limits)
    (hvalues : ∀ v ∈ memory.values, v.hasText = true) (hkeys : ∀ key ∈ memory.keys, key.hasText = true)
    (room : Nat) (s : Encoder) {v : Value} (hv : v.hasText = true) :
    (encodeWithin memory limits room s v).2.isOk = true := by
  have hscalar : ∀ v : Value, v.hasText = true → (scalar limits v).isOk = true := by
    intro v hv
    cases v with
    | unshown raised isUserObject => contradiction
    | _ => rfl
  induction room generalizing s v with
  | zero => exact hscalar v hv
  | succ room ih =>
    cases v with
    | ref object =>
      unfold encodeWithin
      rcases s.identify object with ⟨s, id⟩
      dsimp only
      split
      · rfl
      · cases hlookup : memory.lookup object with
        | none => rfl
        | some found =>
          have hbody := isOk_encodeBody (encodeWithin memory limits room) limits
            (fun key hkey => hkeys key (Memory.keys_of_lookup hlookup hkey))
            (fun v hv s => ih s (hvalues v (Memory.values_of_lookup hlookup hv)))
            { s with visited := id :: s.visited }
          dsimp only
          split
          · next hbroken =>
            rw [hbroken] at hbody
            contradiction
          · rfl
    | _ => exact hscalar _ hv

theorem isOk_encode {memory : Memory} (limits : Limits) (depth : Int)
    (hvalues : ∀ v ∈ memory.values, v.hasText = true) (hkeys : ∀ key ∈ memory.keys, key.hasText = true)
    (s : Encoder) {v : Value} (hv : v.hasText = true) : (encode memory limits depth s v).2.isOk = true :=
  isOk_encodeWithin limits hvalues hkeys (roomAt limits depth) s hv

end Encoder

end Playback
