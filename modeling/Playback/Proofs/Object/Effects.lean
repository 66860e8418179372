import Playback.Proofs.Object.Depth

/-!
This module contains the log of what an encoder does to its tables while it encodes a value: each time it
names an object, and each time it writes one down. What the steps of an encoder keep holds of every value
that it encodes, and of every one that an error keeps it from encoding.
-/

namespace Playback

/--
An object that is written down: what it holds then, and the entry for it.
-/
structure Storing where
  object : Handle
  body : Body
  entry : HeapEntry

/--
What an encoder does: it names an object by an id, or writes down an object.
-/
inductive Effect where
  | name (object : Handle) (id : String)
  | store (storing : Storing)

namespace Effect

def naming? : Effect → Option (Handle × String)
  | name object id => some (object, id)
  | store _ => none

def storing? : Effect → Option Storing
  | name _ _ => none
  | store storing => some storing

end Effect

def namings (log : List Effect) : List (Handle × String) :=
  log.filterMap Effect.naming?

def storings (log : List Effect) : List Storing :=
  log.filterMap Effect.storing?

@[simp]
theorem namings_append (log more : List Effect) :
    namings (log ++ more) = namings log ++ namings more :=
  List.filterMap_append

@[simp]
theorem storings_append (log more : List Effect) :
    storings (log ++ more) = storings log ++ storings more :=
  List.filterMap_append

@[simp]
theorem namings_name (object : Handle) (id : String) :
    namings [.name object id] = [(object, id)] :=
  rfl

@[simp]
theorem namings_store (storing : Storing) : namings [.store storing] = [] :=
  rfl

@[simp]
theorem storings_name (object : Handle) (id : String) : storings [.name object id] = [] :=
  rfl

@[simp]
theorem storings_store (storing : Storing) : storings [.store storing] = [storing] :=
  rfl

def effectsThrough {σ α β : Type} (f : σ → α → σ × β) (effects : σ → α → List Effect) (s : σ) :
    List α → List Effect
  | [] => []
  | a :: as => effects s a ++ effectsThrough f effects (f s a).1 as

def effectsUntil {σ α β ε : Type} (f : σ → α → σ × Except ε β) (effects : σ → α → List Effect) (s : σ) :
    List α → List Effect
  | [] => []
  | a :: as =>
    effects s a
      ++ match f s a with
        | (_, .error _) => []
        | (s, .ok _) => effectsUntil f effects s as

section Through

variable {σ α β ε : Type} {effects : σ → α → List Effect}

theorem fst_mapThrough_append {f : σ → α → σ × β} (s : σ) (as bs : List α) :
    (mapThrough f s (as ++ bs)).1 = (mapThrough f (mapThrough f s as).1 bs).1 := by
  induction as generalizing s with
  | nil => rfl
  | cons a as ih => apply ih

/-
What a step keeps of a state and the log that leads to it is kept by all steps.
-/
theorem effectsThrough_induction {f : σ → α → σ × β} {P : List Effect → σ → Prop} (as : List α)
    (hstep : ∀ a ∈ as, ∀ log s, P log s → P (log ++ effects s a) (f s a).1) (log : List Effect) (s : σ)
    (h : P log s) : P (log ++ effectsThrough f effects s as) (mapThrough f s as).1 := by
  induction as generalizing log s with
  | nil =>
    rw [effectsThrough, List.append_nil]
    exact h
  | cons a as ih =>
    rw [List.forall_mem_cons] at hstep
    rw [effectsThrough, ← List.append_assoc]
    apply ih hstep.2
    apply hstep.1
    exact h

theorem effectsUntil_induction {f : σ → α → σ × Except ε β} {P : List Effect → σ → Prop} (as : List α)
    (hstep : ∀ a ∈ as, ∀ log s, P log s → P (log ++ effects s a) (f s a).1) (log : List Effect) (s : σ)
    (h : P log s) : P (log ++ effectsUntil f effects s as) (mapUntil f s as).1 := by
  induction as generalizing log s with
  | nil =>
    rw [effectsUntil, List.append_nil]
    exact h
  | cons a as ih =>
    rw [List.forall_mem_cons] at hstep
    have hhead := hstep.1 log s h
    rw [effectsUntil, mapUntil]
    rcases hfirst : f s a with ⟨t, e | b⟩
    · rw [hfirst] at hhead
      rw [List.append_nil]
      exact hhead
    · rw [hfirst] at hhead
      rw [← List.append_assoc]
      exact ih hstep.2 _ _ hhead

end Through

def Object.storing (found : Object) (object : Handle) (id : String) (value : Json) : Storing where
  object := object
  body := found.body
  entry := { id, type := if found.typeName == "" then Record.defaultType else found.typeName, value }

namespace Encoder

def enter (s : Encoder) (object : Handle) : Encoder :=
  let (s, id) := s.identify object
  { s with visited := id :: s.visited }

def partEffects (effects : Encoder → Value → List Effect) (s : Encoder) (part : Shown × Value) :
    List Effect :=
  match part.1 with
  | .error _ => []
  | .ok _ => effects s part.2

def bodyEffects (encode : Encoder → Value → Encoder × Except Raised Json)
    (effects : Encoder → Value → List Effect) (limits : Limits) (s : Encoder) (body : Body) :
    List Effect :=
  effectsUntil (encodePart encode) (partEffects effects) s (body.parts limits)

theorem partEffects_induction {encode : Encoder → Value → Encoder × Except Raised Json}
    {effects : Encoder → Value → List Effect} {P : List Effect → Encoder → Prop} {part : Shown × Value}
    (hstep : ∀ log s, P log s → P (log ++ effects s part.2) (encode s part.2).1) (log : List Effect)
    (s : Encoder) (h : P log s) : P (log ++ partEffects effects s part) (encodePart encode s part).1 := by
  unfold partEffects encodePart
  cases part.1 with
  | error raised =>
    rw [List.append_nil]
    exact h
  | ok name => exact hstep log s h

theorem bodyEffects_induction {encode : Encoder → Value → Encoder × Except Raised Json}
    {effects : Encoder → Value → List Effect} {P : List Effect → Encoder → Prop}
    (hstep : ∀ log s v, P log s → P (log ++ effects s v) (encode s v).1) (limits : Limits)
    (log : List Effect) (s : Encoder) (body : Body) (h : P log s) :
    P (log ++ bodyEffects encode effects limits s body) (encodeBody encode limits s body).1 := by
  apply effectsUntil_induction
  · intro part _
    apply partEffects_induction
    intro log s
    exact hstep log s part.2
  · exact h

def effects (memory : Memory) (limits : Limits) : Nat → Encoder → Value → List Effect
  | room + 1, s, .ref object =>
    let id := (s.identify object).2
    let inner :=
      if id ∈ s.visited then []
      else
        match memory.lookup object with
        | none => []
        | some found =>
          let encode := encodeWithin memory limits room
          bodyEffects encode (effects memory limits room) limits (s.enter object) found.body
            ++ match (encodeBody encode limits (s.enter object) found.body).2 with
              | .error _ => []
              | .ok value => [.store (found.storing object id value)]
    [.name object id] ++ inner
  | _, _, _ => []

section Induction

variable {memory : Memory} {limits : Limits}

/--
The ways in which a value is encoded. Only an object that the dump has not visited leads further, and it
is written down unless an error comes up among its values.
-/
theorem encodeWithin_induction
    {motive : Nat → Encoder → Value → List Effect → Encoder × Except Raised Json → Prop}
    (plain : ∀ room s v, room = 0 ∨ v.isReference = false → motive room s v [] (s, scalar limits v))
    (seen : ∀ room s object, (s.identify object).2 ∈ s.visited →
      motive (room + 1) s (.ref object) [.name object (s.identify object).2]
        ((s.identify object).1, .ok (.str (s.identify object).2)))
    (missing : ∀ room s object, memory.lookup object = none →
      motive (room + 1) s (.ref object) [.name object (s.identify object).2]
        (s.enter object, .ok (.str (s.identify object).2)))
    (broken : ∀ room s object found last raised,
      (s.identify object).2 ∉ s.visited → memory.lookup object = some found →
      (∀ s v, motive room s v (effects memory limits room s v) (encodeWithin memory limits room s v)) →
      encodeBody (encodeWithin memory limits room) limits (s.enter object) found.body
        = (last, .error raised) →
      motive (room + 1) s (.ref object)
        ([.name object (s.identify object).2]
          ++ bodyEffects (encodeWithin memory limits room) (effects memory limits room) limits
            (s.enter object) found.body)
        (last, .error raised))
    (fresh : ∀ room s object found last value,
      (s.identify object).2 ∉ s.visited → memory.lookup object = some found →
      (∀ s v, motive room s v (effects memory limits room s v) (encodeWithin memory limits room s v)) →
      encodeBody (encodeWithin memory limits room) limits (s.enter object) found.body
        = (last, .ok value) →
      let storing := found.storing object (s.identify object).2 value
      motive (room + 1) s (.ref object)
        ([.name object (s.identify object).2]
          ++ (bodyEffects (encodeWithin memory limits room) (effects memory limits room) limits
                (s.enter object) found.body
            ++ [.store storing]))
        ({ last with heap := last.heap.put storing.entry }, .ok (.str (s.identify object).2)))
    (room : Nat) (s : Encoder) (v : Value) :
    motive room s v (effects memory limits room s v) (encodeWithin memory limits room s v) := by
  induction room generalizing s v with
  | zero => exact plain 0 s v (.inl rfl)
  | succ room ih =>
    cases v with
    | ref object =>
      unfold encodeWithin effects
      dsimp only
      by_cases hvisited : (s.identify object).2 ∈ s.visited
      · have hcontains : (s.identify object).1.visited.contains (s.identify object).2 = true := by
          rw [visited_identify, List.contains_iff_mem]
          exact hvisited
        rw [if_pos hvisited, if_pos hcontains]
        exact seen room s object hvisited
      · have hcontains : ¬ (s.identify object).1.visited.contains (s.identify object).2 = true := by
          rw [visited_identify, List.contains_iff_mem]
          exact hvisited
        rw [if_neg hvisited, if_neg hcontains]
        cases hlookup : memory.lookup object with
        | none => exact missing room s object hlookup
        | some found =>
          have hentered : { (s.identify object).1 with
              visited := (s.identify object).2 :: (s.identify object).1.visited } = s.enter object := rfl
          dsimp only
          rw [hentered]
          rcases hbody : encodeBody (encodeWithin memory limits room) limits (s.enter object) found.body
            with ⟨last, raised | value⟩
          · rw [List.append_nil]
            exact broken room s object found last raised hvisited hlookup ih hbody
          · exact fresh room s object found last value hvisited hlookup ih hbody
    | _ => exact plain (room + 1) s _ (.inr rfl)

end Induction

theorem idOf?_enter (s : Encoder) (object : Handle) :
    (s.enter object).idOf? object = some (s.identify object).2 :=
  idOf?_identify s object

theorem continues_enter (s : Encoder) (object : Handle) : s.Continues (s.enter object) :=
  (continues_identify s object).trans (.visit _ _)

/-
What holds of each value of an object holds of all of them.
-/
theorem appears_encodeBody {encode : Encoder → Value → Encoder × Except Raised Json} {limits : Limits}
    {left : Nat}
    (hencode : ∀ s v, s.Continues (encode s v).1
      ∧ Results (fun t json => t.Appears limits left v json) (fun _ => True) (encode s v))
    (s : Encoder) (body : Body) :
    s.Continues (encodeBody encode limits s body).1
      ∧ Results (fun t json => Displays limits (t.Appears limits left) body json) (fun _ => True)
          (encodeBody encode limits s body) := by
  have hstep : ∀ v ∈ body.values, ∀ (_ : Unit) s, True →
      s.Continues (encode s v).1
        ∧ Results (fun t json => True ∧ t.Appears limits left v json) (fun _ => True) (encode s v) := by
    intro v _ _ s _
    exact ⟨(hencode s v).1, (hencode s v).2.imp (fun _ _ happears => ⟨trivial, happears⟩) id⟩
  rcases encodeBody_spec limits (g := fun (m : Unit) _ => m) (I := fun _ _ => True)
    (R := fun t => t.Appears limits left) Appears.mono (fun _ _ _ => trivial) body hstep () s trivial
    with ⟨hcontinues, hresults⟩
  exact ⟨hcontinues, hresults.imp (fun _ _ hshown => hshown.2) id⟩

theorem appears_encodeWithin (memory : Memory) (limits : Limits) (room : Nat) (s : Encoder)
    (v : Value) :
    s.Continues (encodeWithin memory limits room s v).1
      ∧ Results (fun t json => t.Appears limits room v json) (fun _ => True)
          (encodeWithin memory limits room s v) := by
  apply encodeWithin_induction
    (motive := fun room s v _ result => s.Continues result.1
      ∧ Results (fun t json => t.Appears limits room v json) (fun _ => True) result)
  · intro room s v hplain
    refine ⟨.refl s, ?_⟩
    rcases Bool.eq_false_or_eq_true v.isReference with href | hscalar
    · rcases hplain with rfl | hscalar
      · cases v with
        | ref object => exact .omitted
        | _ => contradiction
      · rw [hscalar] at href
        contradiction
    · apply results_scalar _ trivial
      intro json hshown
      exact .scalar hscalar hshown
  · intro room s object _
    exact ⟨continues_identify s object, .reference (idOf?_identify s object)⟩
  · intro room s object _
    exact ⟨continues_enter s object, .reference (idOf?_enter s object)⟩
  · intro room s object found last raised _ _ ih hbody
    have hinner := (appears_encodeBody ih (s.enter object) found.body).1
    rw [hbody] at hinner
    exact ⟨(continues_enter s object).trans hinner, trivial⟩
  · intro room s object found last value _ _ ih hbody storing
    have hinner := (appears_encodeBody ih (s.enter object) found.body).1
    rw [hbody] at hinner
    have hput : last.Continues { last with heap := last.heap.put storing.entry } := .put last storing.entry
    exact ⟨((continues_enter s object).trans hinner).trans hput,
      .reference ((hinner.trans hput).idOf? (idOf?_enter s object))⟩

/--
Whether an object is written down under the id that it has, as what it holds appears.
-/
structure Stores (limits : Limits) (s : Encoder) (storing : Storing) : Prop where
  id : s.idOf? storing.object = some storing.entry.id
  body : ∃ left, Displays limits (s.Appears limits left) storing.body storing.entry.value

theorem Stores.mono {limits : Limits} {s t : Encoder} {storing : Storing} (hextends : s.Extends t)
    (h : s.Stores limits storing) : t.Stores limits storing where
  id := hextends.idOf? h.id
  body := by
    rcases h.body with ⟨left, hbody⟩
    exact ⟨left, hbody.imp fun _ _ => Appears.mono hextends⟩

theorem stores_storing {memory : Memory} {limits : Limits} {room : Nat} {s last : Encoder}
    {object : Handle} {found : Object} {value : Json}
    (hbody : encodeBody (encodeWithin memory limits room) limits (s.enter object) found.body
      = (last, .ok value)) :
    last.Stores limits (found.storing object (s.identify object).2 value) := by
  rcases appears_encodeBody (appears_encodeWithin memory limits room) (s.enter object) found.body
    with ⟨hinner, hdisplays⟩
  rw [hbody] at hinner hdisplays
  exact ⟨hinner.idOf? (idOf?_enter s object), room, hdisplays⟩

/--
What each step of an encoder keeps of its state and the log that leads there: naming an object, turning
to a dump or an object, and writing down an object.
-/
structure KeptBySteps (limits : Limits) (P : List Effect → Encoder → Prop) : Prop where
  name : ∀ log s object, P log s →
    P (log ++ [.name object (s.identify object).2]) (s.identify object).1
  visit : ∀ log s visited, P log s → P log { s with visited }
  store : ∀ log s storing, s.Stores limits storing → P log s →
    P (log ++ [.store storing]) { s with heap := s.heap.put storing.entry }

theorem KeptBySteps.enter {limits : Limits} {P : List Effect → Encoder → Prop} (h : KeptBySteps limits P)
    (log : List Effect) (s : Encoder) (object : Handle) (hlog : P log s) :
    P (log ++ [.name object (s.identify object).2]) (s.enter object) :=
  h.visit _ _ _ (h.name log s object hlog)

theorem KeptBySteps.encodeWithin {limits : Limits} {P : List Effect → Encoder → Prop}
    (h : KeptBySteps limits P) (memory : Memory) (room : Nat) (s : Encoder) (v : Value) (log : List Effect)
    (hlog : P log s) :
    P (log ++ effects memory limits room s v) (Encoder.encodeWithin memory limits room s v).1 := by
  apply encodeWithin_induction
    (motive := fun _ s _ effects result => ∀ log, P log s → P (log ++ effects) result.1)
  · intro room s v _ log hlog
    rw [List.append_nil]
    exact hlog
  · intro room s object _ log
    exact h.name log s object
  · intro room s object _ log
    exact h.enter log s object
  · intro room s object found last raised _ _ ih hbody log hlog
    have hinner := bodyEffects_induction (fun log t v => ih t v log) limits _ _ found.body
      (h.enter log s object hlog)
    rw [hbody] at hinner
    rw [← List.append_assoc]
    exact hinner
  · intro room s object found last value _ _ ih hbody storing log hlog
    have hinner := bodyEffects_induction (fun log t v => ih t v log) limits _ _ found.body
      (h.enter log s object hlog)
    rw [hbody] at hinner
    rw [← List.append_assoc, ← List.append_assoc]
    exact h.store _ _ _ (stores_storing hbody) hinner
  · exact hlog

end Encoder

end Playback
