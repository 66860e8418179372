import Playback.Proofs.Object.Effects
import Playback.Proofs.Object.Session

/-!
This module contains the proof that ids are stable and unique: an object has one id for as long as its
encoder lives, no two objects share one, and ids are handed out in the order in which the objects are
named first, whatever is encoded and however the objects change.
-/

namespace Playback

/--
Whether a value of an object is shown by an id that its own object is named by, or left out, if it is an
object itself.
-/
def Mentions (log : List Effect) (v : Value) (json : Json) : Prop :=
  ∀ object, v = .ref object →
    json = .str ValueKind.ellipsis ∨ ∃ id, (object, id) ∈ namings log ∧ json = .str id

namespace Encoder

/--
What a log tells of the state that it leads to: which objects have been named, by which ids, that only
their ids have entries, and what the entries show.
-/
structure Tracks (limits : Limits) (log : List Effect) (s : Encoder) : Prop where
  named : s.named = ((namings log).map Prod.fst).eraseDups
  ids : ((namings log).map Prod.snd).eraseDups = (List.range s.named.length).map idOf
  idOf? : ∀ p ∈ namings log, s.idOf? p.1 = some p.2
  heap : ∀ id ∈ s.heap.ids, id ∈ (namings log).map Prod.snd
  stored : ∀ p ∈ storings log, s.Stores limits p

namespace Tracks

variable {limits : Limits} {log : List Effect} {s : Encoder}

theorem start : Tracks limits [] {} where
  named := rfl
  ids := rfl
  idOf? := by simp [namings]
  heap := by simp [Heap.ids]
  stored := by simp [storings]

theorem mem_named_iff (h : Tracks limits log s) (object : Handle) :
    object ∈ s.named ↔ object ∈ (namings log).map Prod.fst := by
  rw [h.named, List.mem_eraseDups]

theorem mem_ids_iff (h : Tracks limits log s) (id : String) :
    id ∈ (namings log).map Prod.snd ↔ ∃ n < s.named.length, idOf n = id := by
  rw [← List.mem_eraseDups, h.ids]
  simp

/-
An object is known by an id exactly if it has been named by it.
-/
theorem idOf?_iff (h : Tracks limits log s) (object : Handle) (id : String) :
    s.idOf? object = some id ↔ (object, id) ∈ namings log := by
  constructor
  · intro hid
    have hmem : object ∈ s.named := by
      unfold Encoder.idOf? at hid
      rw [Option.map_eq_some_iff] at hid
      rcases hid with ⟨n, hn, _⟩
      rw [List.idxOf?_eq_some_iff] at hn
      rcases hn with ⟨hlt, rfl, _⟩
      exact List.getElem_mem hlt
    rw [h.mem_named_iff, List.mem_map] at hmem
    rcases hmem with ⟨⟨_, found⟩, hfound, rfl⟩
    have hsame := h.idOf? _ hfound
    rw [hid, Option.some_inj] at hsame
    rw [hsame]
    exact hfound
  · intro hmem
    exact h.idOf? _ hmem

theorem visit (h : Tracks limits log s) (visited : List String) :
    Tracks limits log { s with visited } where
  named := h.named
  ids := h.ids
  idOf? := h.idOf?
  heap := h.heap
  stored p hp := (h.stored p hp).mono (.visit s visited)

/-
The next id is the one behind all that have been given, so it has not been given yet.
-/
theorem name (h : Tracks limits log s) (object : Handle) :
    Tracks limits (log ++ [.name object (s.identify object).2]) (s.identify object).1 := by
  have hid := idOf?_identify s object
  have hkept : ∀ p ∈ namings log, (s.identify object).1.idOf? p.1 = some p.2 := by
    intro p hp
    exact (continues_identify s object).toExtends.idOf? (h.idOf? p hp)
  have hids : ∀ p ∈ namings (log ++ [.name object (s.identify object).2]),
      (s.identify object).1.idOf? p.1 = some p.2 := by
    rw [namings_append, namings_name, List.forall_mem_append, List.forall_mem_singleton]
    exact ⟨hkept, hid⟩
  refine ⟨?_, ?_, hids, ?_, ?_⟩
  -- An object that has a name keeps its place in the order, and a new one comes last.
  · rw [namings_append, namings_name, List.map_append, List.map_singleton]
    unfold identify
    cases hfind : s.named.idxOf? object with
    | some n =>
      rw [eraseDups_append_of_mem, h.named]
      rw [← h.mem_named_iff, ← List.isSome_idxOf?, hfind]
      rfl
    | none =>
      rw [eraseDups_append_of_not_mem, ← h.named]
      rw [← h.mem_named_iff, ← List.isSome_idxOf?, hfind]
      exact Bool.false_ne_true
  · rw [namings_append, namings_name, List.map_append, List.map_singleton]
    unfold identify
    cases hfind : s.named.idxOf? object with
    | some n =>
      rw [List.idxOf?_eq_some_iff] at hfind
      rw [eraseDups_append_of_mem, h.ids]
      rw [h.mem_ids_iff]
      exact ⟨n, hfind.1, rfl⟩
    | none =>
      rw [eraseDups_append_of_not_mem, h.ids, List.length_append, List.length_singleton,
        List.range_succ, List.map_append, List.map_singleton]
      rw [h.mem_ids_iff]
      rintro ⟨n, hn, heq⟩
      rw [idOf_injective heq] at hn
      exact absurd hn (Nat.lt_irrefl _)
  · intro id hmem
    rw [heap_identify] at hmem
    rw [namings_append, List.map_append]
    exact List.mem_append_left _ (h.heap id hmem)
  · rw [storings_append, storings_name, List.append_nil]
    intro p hp
    exact (h.stored p hp).mono (continues_identify s object).toExtends

theorem store (h : Tracks limits log s) {storing : Storing} (hstores : s.Stores limits storing) :
    Tracks limits (log ++ [.store storing]) { s with heap := s.heap.put storing.entry } := by
  have hput : s.Extends { s with heap := s.heap.put storing.entry } := .put s storing.entry
  have hnamings : namings (log ++ [.store storing]) = namings log := by simp
  constructor
  · rw [hnamings]
    exact h.named
  · rw [hnamings]
    exact h.ids
  · rw [hnamings]
    exact h.idOf?
  · rw [hnamings]
    intro id hmem
    rw [Heap.mem_ids_put] at hmem
    rcases hmem with rfl | hmem
    · exact List.mem_map_of_mem ((h.idOf?_iff _ _).mp hstores.id)
    · exact h.heap id hmem
  · rw [storings_append, storings_store, List.forall_mem_append, List.forall_mem_singleton]
    exact ⟨fun p hp => (h.stored p hp).mono hput, hstores.mono hput⟩

/-
A value that is shown as an id is the object of the id.
-/
theorem mentions (h : Tracks limits log s) {left : Nat} {v : Value} {json : Json}
    (happears : s.Appears limits left v json) : Mentions log v json := by
  rintro object rfl
  cases happears with
  | omitted => exact .inl rfl
  | reference hid => exact .inr ⟨_, (h.idOf?_iff _ _).mp hid, rfl⟩
  | scalar hscalar _ => contradiction

end Tracks

theorem tracks_keptBySteps (limits : Limits) : KeptBySteps limits (Tracks limits) where
  name _ _ object h := h.name object
  visit _ _ visited h := h.visit visited
  store _ _ _ hstores h := h.store hstores

theorem extends_keptBySteps (limits : Limits) (s : Encoder) :
    KeptBySteps limits fun _ t => s.Extends t where
  name _ t object h := h.trans (continues_identify t object).toExtends
  visit _ t visited h := h.trans (.visit t visited)
  store _ t storing _ h := h.trans (.put t storing.entry)

end Encoder

inductive Act where
  /-- A value that stands at a depth is encoded, in a dump of its own or as part of one that goes on. -/
  | encode (value : Value) (depth : Int) (dump : Option Nat)
  | identify (object : Handle)
  | change (memory : Memory)

/--
Whether an act is to be answered by the id of an object.
-/
def Act.Names (limits : Limits) (object : Handle) : Act → Prop
  | encode value depth _ => value = .ref object ∧ depth ≤ limits.maxDepth
  | identify target => target = object
  | change _ => False

/--
An encoder between its uses, and the objects as they are then.
-/
structure Scene where
  session : Session := {}
  memory : Memory := []

namespace Scene

def encoder (scene : Scene) : Encoder :=
  scene.session.encoder

def perform (limits : Limits) (scene : Scene) : Act → Scene × Except Raised Json
  | .encode value depth dump =>
    let use : Use := { memory := scene.memory, value, depth, dump }
    let (session, answer) := scene.session.encode limits use
    ({ scene with session }, answer)
  | .identify object =>
    let (encoder, id) := scene.encoder.identify object
    ({ scene with session := { scene.session with encoder } }, .ok (.str id))
  | .change memory => ({ scene with memory }, .ok .null)

def effects (limits : Limits) (scene : Scene) : Act → List Effect
  | .encode value depth dump =>
    let visited := dump.elim [] scene.session.visited
    Encoder.effects scene.memory limits (Encoder.roomAt limits depth) (scene.encoder.startDump visited)
      value
  | .identify object => [.name object (scene.encoder.identify object).2]
  | .change _ => []

variable (limits : Limits)

theorem perform_kept {P : List Effect → Encoder → Prop} (h : Encoder.KeptBySteps limits P) (act : Act)
    (log : List Effect) (scene : Scene) (hlog : P log scene.encoder) :
    P (log ++ scene.effects limits act) (scene.perform limits act).1.encoder := by
  cases act with
  | encode value depth dump =>
    apply h.encodeWithin
    exact h.visit _ _ _ hlog
  | identify object => exact h.name _ _ object hlog
  | change memory =>
    rw [effects, List.append_nil]
    exact hlog

theorem performAll_kept {P : List Effect → Encoder → Prop} (h : Encoder.KeptBySteps limits P)
    (acts : List Act) (log : List Effect) (scene : Scene) (hlog : P log scene.encoder) :
    P (log ++ effectsThrough (perform limits) (effects limits) scene acts)
      (mapThrough (perform limits) scene acts).1.encoder := by
  apply effectsThrough_induction (P := fun log (scene : Scene) => P log scene.encoder) acts
  · intro act _ log scene
    exact perform_kept limits h act log scene
  · exact hlog

theorem extends_perform (scene : Scene) (act : Act) :
    scene.encoder.Extends (scene.perform limits act).1.encoder :=
  perform_kept limits (Encoder.extends_keptBySteps limits scene.encoder) act [] scene (.refl _)

theorem named_perform (scene : Scene) {act : Act} {object : Handle} {json : Json}
    (h : act.Names limits object) (hanswer : (scene.perform limits act).2 = .ok json) :
    ∃ id, (scene.perform limits act).1.encoder.idOf? object = some id ∧ json = .str id := by
  cases act with
  | encode value depth dump =>
    rcases h with ⟨rfl, hdepth⟩
    have happears := (Encoder.appears_encodeWithin scene.memory limits _ _ _).2.of_ok hanswer
    apply happears.refers
    · rw [ne_eq, Encoder.roomAt_eq_zero_iff]
      exact Int.not_lt.mpr hdepth
    · rfl
  | identify target =>
    cases h
    cases hanswer
    exact ⟨_, Encoder.idOf?_identify _ _, rfl⟩
  | change memory => exact h.elim

theorem named_performAll (scene : Scene) (acts : List Act) :
    List.Forall₂
      (fun act answer => ∀ object json, act.Names limits object → answer = .ok json →
        ∃ id, (mapThrough (perform limits) scene acts).1.encoder.idOf? object = some id ∧ json = .str id)
      acts (mapThrough (perform limits) scene acts).2 := by
  have hall := mapThrough_induction (f := perform limits) (I := fun _ => True)
    (E := fun (s t : Scene) => s.encoder.Extends t.encoder)
    (R := fun (scene : Scene) (act : Act) answer => ∀ object json, act.Names limits object →
      answer = .ok json → ∃ id, scene.encoder.idOf? object = some id ∧ json = .str id)
    (fun _ => .refl _) Encoder.Extends.trans
    (fun hextends hnamed object json hnames hanswer => by
      rcases hnamed object json hnames hanswer with ⟨id, hid, heq⟩
      exact ⟨id, hextends.idOf? hid, heq⟩)
    acts
    (fun act _ scene _ =>
      ⟨trivial, extends_perform limits scene act, fun _ _ => named_perform limits scene⟩)
    scene trivial
  exact hall.2.2

/--
However an encoder is used and whatever becomes of the objects meanwhile, an object is named by the same
id each time, in answers and in entries, and no other object is ever named by it. The ids count up in the
order of the first namings, and an entry stands under the id of its object and stays there.
-/
theorem naming_stable (limits : Limits) (memory : Memory) (before after : List Act) :
    let start : Scene := { memory }
    let earlier := (mapThrough (perform limits) start before).1.encoder
    let run := mapThrough (perform limits) start (before ++ after)
    let encoder := run.1.encoder
    let log := effectsThrough (perform limits) (effects limits) start (before ++ after)
    (∀ p ∈ namings log, ∀ q ∈ namings log, p.1 = q.1 ↔ p.2 = q.2)
      ∧ encoder.named = ((namings log).map Prod.fst).eraseDups
      ∧ ((namings log).map Prod.snd).eraseDups = (List.range encoder.named.length).map Encoder.idOf
      ∧ List.Forall₂
          (fun act answer => ∀ object json, act.Names limits object → answer = .ok json →
            ∃ id, (object, id) ∈ namings log ∧ json = .str id)
          (before ++ after) run.2
      ∧ (∀ p ∈ storings log,
          (p.object, p.entry.id) ∈ namings log ∧ Displays limits (Mentions log) p.body p.entry.value)
      ∧ encoder.heap.ids ⊆ (namings log).map Prod.snd
      ∧ encoder.heap.ids.Nodup
      ∧ earlier.heap.ids <+: encoder.heap.ids := by
  intro start earlier run encoder log
  have htracks : Encoder.Tracks limits log encoder :=
    performAll_kept limits (Encoder.tracks_keptBySteps limits) (before ++ after) [] start .start
  have hstart : start.encoder.Extends encoder :=
    performAll_kept limits (Encoder.extends_keptBySteps limits _) (before ++ after) [] start (.refl _)
  have hearlier : earlier.Extends encoder := by
    have hrest := performAll_kept limits (Encoder.extends_keptBySteps limits earlier) after []
      (mapThrough (perform limits) start before).1 (.refl _)
    rw [← fst_mapThrough_append] at hrest
    exact hrest
  refine ⟨?_, htracks.named, htracks.ids, ?_, ?_, htracks.heap, ?_, hearlier.ids⟩
  · -- Both are told from the last state, in which an object has one id and an id one object.
    intro p hp q hq
    have hpid := htracks.idOf? p hp
    have hqid := htracks.idOf? q hq
    constructor
    · intro heq
      rw [heq, hqid, Option.some_inj] at hpid
      exact hpid.symm
    · intro heq
      rw [← heq] at hqid
      exact Encoder.eq_of_idOf? hpid hqid
  · apply (named_performAll limits start (before ++ after)).imp
    intro act answer hnamed object json hnames hanswer
    rcases hnamed object json hnames hanswer with ⟨id, hid, heq⟩
    exact ⟨id, (htracks.idOf?_iff object id).mp hid, heq⟩
  · intro p hp
    have hstores := htracks.stored p hp
    rcases hstores.body with ⟨left, hbody⟩
    refine ⟨(htracks.idOf?_iff _ _).mp hstores.id, hbody.imp ?_⟩
    intro v json happears
    exact htracks.mentions happears
  · exact hstart.distinct List.nodup_nil

end Scene

end Playback
