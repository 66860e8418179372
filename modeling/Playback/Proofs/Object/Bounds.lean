import Mathlib.Algebra.Ring.GeomSum
import Playback.Proofs.Object.Effects

/-!
This module contains the proof that a dump is finite and small, whatever the objects look like: it writes
every object down once at most, there are no more entries than a tree of its depth and width has nodes, and
an entry shows nothing but short texts, numbers, truth values and ids.
-/

namespace Playback

namespace Heap

theorem merge_append (heap : Heap) (entries more : List HeapEntry) :
    heap.merge (entries ++ more) = (heap.merge entries).merge more :=
  List.foldl_append

theorem get?_merge_of_not_mem (heap : Heap) (entries : List HeapEntry) {id : String}
    (h : id ∉ entries.map HeapEntry.id) : (heap.merge entries).get? id = heap.get? id := by
  induction entries generalizing heap with
  | nil => rfl
  | cons entry entries ih =>
    rw [List.map_cons, List.mem_cons, not_or] at h
    have hne : entry.id ≠ id := fun heq => h.1 heq.symm
    have hput : (heap.merge (entry :: entries)).get? id = ((heap.put entry).merge entries).get? id := rfl
    rw [hput, ih _ h.2, get?_put, if_neg hne]

theorem get?_merge_of_mem (heap : Heap) (entries : List HeapEntry)
    (hnodup : (entries.map HeapEntry.id).Nodup) {entry : HeapEntry} (h : entry ∈ entries) :
    (heap.merge entries).get? entry.id = some entry := by
  rcases List.append_of_mem h with ⟨before, after, rfl⟩
  rw [List.map_append, List.map_cons, List.nodup_append, List.nodup_cons] at hnodup
  rw [merge_append]
  have hput : ((heap.merge before).merge (entry :: after)).get? entry.id
      = (((heap.merge before).put entry).merge after).get? entry.id := rfl
  rw [hput, get?_merge_of_not_mem _ _ hnodup.2.1.1, get?_put, if_pos rfl]

end Heap

theorem Body.length_kept_le {limits : Limits} (hitems : 0 ≤ limits.maxItems) (body : Body) :
    (body.kept limits).length ≤ limits.maxItems.toNat := by
  unfold kept parts
  split
  · simp [Text.takeUpTo_of_nonneg hitems]
  · simp [Text.takeUpTo_of_nonneg hitems]
  · simp [Text.takeUpTo_of_nonneg hitems]

theorem Body.length_shown_le {limits : Limits} (hitems : 0 ≤ limits.maxItems) (body : Body) :
    (body.shown limits).length ≤ limits.maxItems.toNat := by
  apply Nat.le_trans _ (body.length_kept_le hitems)
  unfold shown kept parts
  split
  · simp
  · rw [List.length_map, List.length_map, List.length_map]
    apply Nat.le_trans (length_latest_le _ _)
    exact List.length_filterMap_le _ _
  · rw [List.length_map, List.length_map, List.length_map]
    apply length_latest_le

theorem length_truncated_le {limit : Int} (hlimit : 0 ≤ limit) (s : String) :
    (truncated limit s).length ≤ limit + 3 := by
  unfold truncated
  split
  · rw [String.length_append, String.length_ofList, Text.takeUpTo_of_nonneg hlimit, List.length_take]
    have : ValueKind.ellipsis.length = 3 := rfl
    omega
  · omega

namespace Encoder

/--
What is shown of a value in an entry: a truth value, a number, the id of an object or a short text.
-/
inductive Flat (limits : Limits) (s : Encoder) : Json → Prop where
  | bool (b : Bool) : Flat limits s (.bool b)
  | int (n : Int) : Flat limits s (.int n)
  | float {x : Binary64} (h : x.isFinite = true) : Flat limits s (.float x)
  | id {object : Handle} {id : String} (h : s.idOf? object = some id) : Flat limits s (.str id)
  | text {text : String} (h : text.length ≤ limits.maxText + 3) : Flat limits s (.str text)

structure Shallow (limits : Limits) (s : Encoder) (body : Json) : Prop where
  container : (∃ items, body = .arr items) ∨ ∃ fields, body = .obj fields
  length : body.parts.length ≤ limits.maxItems
  flat : ∀ part ∈ body.parts, Flat limits s part

variable {limits : Limits} {s t u : Encoder}

theorem Flat.mono {json : Json} (hextends : s.Extends t) (h : s.Flat limits json) :
    t.Flat limits json := by
  cases h with
  | bool b => exact .bool b
  | int n => exact .int n
  | float h => exact .float h
  | id h => exact .id (hextends.idOf? h)
  | text h => exact .text h

theorem Shallow.mono {body : Json} (hextends : s.Extends t) (h : s.Shallow limits body) :
    t.Shallow limits body where
  container := h.container
  length := h.length
  flat part hpart := (h.flat part hpart).mono hextends

theorem flat_scalar (htext : 1 ≤ limits.maxText) (s : Encoder) {v : Value} {json : Json}
    (h : scalar limits v = .ok json) : s.Flat limits json := by
  have hshort : ∀ text : String, text.length ≤ 4 → s.Flat limits (.str text) := by
    intro text hlength
    apply Flat.text
    omega
  have htruncated : ∀ text, s.Flat limits (.str (truncated limits.maxText text)) := by
    intro text
    apply Flat.text
    apply length_truncated_le
    omega
  cases v with
  | unshown raised isUserObject => contradiction
  | float x =>
    rw [scalar, Except.ok.injEq] at h
    rw [← h]
    split
    · next hfinite => exact .float hfinite
    · next hfinite =>
      rw [Bool.not_eq_true] at hfinite
      have hname : ∀ text ∈ ["nan", "inf", "-inf"], text.length ≤ 4 := by decide
      exact hshort _ (hname _ (Binary64.toText_of_not_finite hfinite))
  | none =>
    cases h
    exact hshort _ (by decide)
  | bool b =>
    cases h
    exact .bool b
  | int n =>
    cases h
    exact .int n
  | ref object =>
    cases h
    exact hshort _ (by decide)
  | text shown | other shown | plumbing shown =>
    cases h
    exact htruncated shown

theorem Appears.flat {left : Nat} {v : Value} {json : Json} (htext : 1 ≤ limits.maxText)
    (h : s.Appears limits left v json) : s.Flat limits json := by
  cases h with
  | @omitted object => exact flat_scalar (v := .ref object) htext s rfl
  | reference h => exact .id h
  | scalar _ hshown => exact flat_scalar htext s hshown

theorem shallow_of_displays {left : Nat} {body : Body} {json : Json} (hitems : 0 ≤ limits.maxItems)
    (htext : 1 ≤ limits.maxText) (h : Displays limits (s.Appears limits left) body json) :
    s.Shallow limits json where
  container := by
    cases h with
    | elements h => exact .inl ⟨_, rfl⟩
    | entries _ h => exact .inr ⟨_, rfl⟩
    | fields h => exact .inr ⟨_, rfl⟩
  length := by
    have hlength := h.forall₂_parts.length_eq
    have := body.length_shown_le hitems
    omega
  flat := by
    apply forall₂_right (P := s.Flat limits) h.forall₂_parts
    intro _ _ _ happears
    exact happears.flat htext

/--
What a dump does between two states: it goes on from the ids that have been visited, and writes down only
objects that it comes to first, each under the id it has, with what is shown of it.
-/
structure Dumped (limits : Limits) (s t : Encoder) (stored : List Storing) : Prop where
  extension : s.Extends t
  heap : t.heap = s.heap.merge (stored.map Storing.entry)
  visited : s.visited ⊆ t.visited
  first : ∀ p ∈ stored, p.entry.id ∉ s.visited ∧ p.entry.id ∈ t.visited
  distinct : (stored.map fun p => p.entry.id).Nodup
  shown : ∀ p ∈ stored, t.idOf? p.object = some p.entry.id ∧ t.Shallow limits p.entry.value

namespace Dumped

theorem refl (limits : Limits) (s : Encoder) : Dumped limits s s [] where
  extension := .refl s
  heap := rfl
  visited := List.Subset.refl _
  first := by simp
  distinct := List.nodup_nil
  shown := by simp

theorem trans {stored more : List Storing} (hst : Dumped limits s t stored)
    (htu : Dumped limits t u more) : Dumped limits s u (stored ++ more) where
  extension := hst.extension.trans htu.extension
  heap := by rw [List.map_append, Heap.merge_append, htu.heap, hst.heap]
  visited := List.Subset.trans hst.visited htu.visited
  first := by
    rw [List.forall_mem_append]
    constructor
    · intro p hp
      exact ⟨(hst.first p hp).1, htu.visited (hst.first p hp).2⟩
    · intro p hp
      exact ⟨fun hvisited => (htu.first p hp).1 (hst.visited hvisited), (htu.first p hp).2⟩
  distinct := by
    rw [List.map_append, List.nodup_append]
    refine ⟨hst.distinct, htu.distinct, ?_⟩
    intro id hid id' hid' heq
    rw [List.mem_map] at hid hid'
    rcases hid with ⟨p, hp, rfl⟩
    rcases hid' with ⟨q, hq, rfl⟩
    -- What the first part has written down is visited when the second one begins.
    apply (htu.first q hq).1
    rw [← heq]
    exact (hst.first p hp).2
  shown := by
    rw [List.forall_mem_append]
    constructor
    · intro p hp
      have hshown := hst.shown p hp
      exact ⟨htu.extension.idOf? hshown.1, hshown.2.mono htu.extension⟩
    · exact htu.shown

theorem identify (limits : Limits) (s : Encoder) (object : Handle) :
    Dumped limits s (s.identify object).1 [] where
  extension := (continues_identify s object).toExtends
  heap := heap_identify s object
  visited := by
    rw [visited_identify]
    exact List.Subset.refl _
  first := by simp
  distinct := List.nodup_nil
  shown := by simp

theorem enter (limits : Limits) (s : Encoder) (object : Handle) :
    Dumped limits s (s.enter object) [] where
  extension := (continues_enter s object).toExtends
  heap := heap_identify s object
  visited := by
    unfold Encoder.enter
    dsimp only
    rw [visited_identify]
    exact List.subset_cons_self _ _
  first := by simp
  distinct := List.nodup_nil
  shown := by simp

/-
An object is written down when all that it holds has been, and it has not been visited until then.
-/
theorem put {storing : Storing} {stored : List Storing}
    (hid : (s.identify storing.object).2 = storing.entry.id) (hnew : storing.entry.id ∉ s.visited)
    (hinner : Dumped limits (s.enter storing.object) t stored)
    (hshallow : t.Shallow limits storing.entry.value) :
    Dumped limits s { t with heap := t.heap.put storing.entry } (stored ++ [storing]) := by
  have hentered : storing.entry.id ∈ (s.enter storing.object).visited := by
    rw [← hid]
    exact List.mem_cons_self
  have hname : t.idOf? storing.object = some storing.entry.id := by
    rw [← hid]
    exact hinner.extension.idOf? (idOf?_enter s storing.object)
  have hall : Dumped limits s t stored := (Dumped.enter limits s storing.object).trans hinner
  have hput : t.Extends { t with heap := t.heap.put storing.entry } := .put t storing.entry
  refine ⟨hall.extension.trans hput, ?_, hall.visited, ?_, ?_, ?_⟩
  · rw [List.map_append, Heap.merge_append, ← hall.heap]
    rfl
  · rw [List.forall_mem_append, List.forall_mem_singleton]
    exact ⟨hall.first, hnew, hinner.visited hentered⟩
  · rw [List.map_append, List.map_singleton, List.nodup_append]
    refine ⟨hinner.distinct, by simp, ?_⟩
    intro id hmem id' hmem' heq
    rw [List.mem_singleton] at hmem'
    rw [List.mem_map] at hmem
    rcases hmem with ⟨p, hp, rfl⟩
    apply (hinner.first p hp).1
    rw [heq, hmem']
    exact hentered
  · rw [List.forall_mem_append, List.forall_mem_singleton]
    constructor
    · intro p hp
      have hshown := hall.shown p hp
      exact ⟨hput.idOf? hshown.1, hshown.2.mono hput⟩
    · exact ⟨hput.idOf? hname, hshallow.mono hput⟩

theorem mapUntil {α β ε : Type} {f : Encoder → α → Encoder × Except ε β}
    {effects : Encoder → α → List Effect} (as : List α) (s : Encoder)
    (hstep : ∀ s a, Dumped limits s (f s a).1 (storings (effects s a))) :
    Dumped limits s (Playback.mapUntil f s as).1 (storings (effectsUntil f effects s as)) := by
  induction as generalizing s with
  | nil => exact refl limits s
  | cons a as ih =>
    have hhead := hstep s a
    rw [Playback.mapUntil, effectsUntil, storings_append]
    rcases hfirst : f s a with ⟨t, e | b⟩
    · rw [hfirst] at hhead
      exact hhead.trans (refl limits t)
    · rw [hfirst] at hhead
      exact hhead.trans (ih t)

theorem encodeBody {encode : Encoder → Value → Encoder × Except Raised Json}
    {effects : Encoder → Value → List Effect} (s : Encoder) (body : Body)
    (hencode : ∀ s v, Dumped limits s (encode s v).1 (storings (effects s v))) :
    Dumped limits s (Encoder.encodeBody encode limits s body).1
      (storings (bodyEffects encode effects limits s body)) := by
  apply mapUntil
  intro s part
  unfold encodePart partEffects
  cases part.1 with
  | error raised => exact refl limits s
  | ok name => exact hencode s part.2

end Dumped

theorem dumped_encodeWithin (memory : Memory) (hitems : 0 ≤ limits.maxItems)
    (htext : 1 ≤ limits.maxText) (room : Nat) (s : Encoder) (v : Value) :
    Dumped limits s (encodeWithin memory limits room s v).1
      (storings (effects memory limits room s v)) := by
  apply encodeWithin_induction
    (motive := fun _ s _ effects result => Dumped limits s result.1 (storings effects))
  · intro room s v _
    exact .refl limits s
  · intro room s object _
    exact .identify limits s object
  · intro room s object _
    exact .enter limits s object
  · intro room s object found last raised _ _ ih hbody
    have hinner := Dumped.encodeBody (s.enter object) found.body ih
    rw [hbody] at hinner
    rw [storings_append, storings_name, List.nil_append]
    exact (Dumped.enter limits s object).trans hinner
  · intro room s object found last value hnew _ ih hbody storing
    have hinner := Dumped.encodeBody (s.enter object) found.body ih
    rw [hbody] at hinner
    rcases (stores_storing hbody).body with ⟨left, hdisplays⟩
    rw [storings_append, storings_name, List.nil_append, storings_append, storings_store]
    exact hinner.put rfl hnew (shallow_of_displays hitems htext hdisplays)

theorem length_effectsUntil_le {α β ε : Type} (f : Encoder → α → Encoder × Except ε β)
    {effects : Encoder → α → List Effect} {bound : Nat}
    (hbound : ∀ s a, (storings (effects s a)).length ≤ bound) (s : Encoder) (as : List α) :
    (storings (effectsUntil f effects s as)).length ≤ as.length * bound := by
  induction as generalizing s with
  | nil => exact Nat.zero_le _
  | cons a as ih =>
    rw [effectsUntil, storings_append, List.length_append, List.length_cons, Nat.add_one_mul,
      Nat.add_comm]
    apply Nat.add_le_add _ (hbound s a)
    split
    · exact Nat.zero_le _
    · exact ih _

theorem length_bodyEffects_le (encode : Encoder → Value → Encoder × Except Raised Json)
    {effects : Encoder → Value → List Effect} {bound : Nat}
    (hbound : ∀ s v, (storings (effects s v)).length ≤ bound) (limits : Limits) (s : Encoder)
    (body : Body) :
    (storings (bodyEffects encode effects limits s body)).length ≤ (body.kept limits).length * bound := by
  rw [Body.kept, List.length_map]
  apply length_effectsUntil_le
  intro s part
  unfold partEffects
  cases part.1 with
  | error raised => exact Nat.zero_le _
  | ok name => exact hbound s part.2

/-
The entries of a dump are nodes of a tree in which every node has as many children as are shown of an
object.
-/
theorem length_storings_le (memory : Memory) (hitems : 0 ≤ limits.maxItems) (room : Nat) (s : Encoder)
    (v : Value) :
    (storings (effects memory limits room s v)).length
      ≤ ∑ level ∈ Finset.range room, limits.maxItems.toNat ^ level := by
  have hbody : ∀ (room : Nat) (s : Encoder) (body : Body),
      (∀ s v, (storings (effects memory limits room s v)).length
        ≤ ∑ level ∈ Finset.range room, limits.maxItems.toNat ^ level) →
      (storings (bodyEffects (encodeWithin memory limits room) (effects memory limits room) limits s
          body)).length + 1
        ≤ ∑ level ∈ Finset.range (room + 1), limits.maxItems.toNat ^ level := by
    intro room s body ih
    have hinner := length_bodyEffects_le (encodeWithin memory limits room) ih limits s body
    have hwidth := Nat.mul_le_mul_right (∑ level ∈ Finset.range room, limits.maxItems.toNat ^ level)
      (body.length_kept_le hitems)
    rw [geom_sum_succ]
    omega
  apply encodeWithin_induction (motive := fun room _ _ effects _ =>
    (storings effects).length ≤ ∑ level ∈ Finset.range room, limits.maxItems.toNat ^ level)
  · intro room s v _
    exact Nat.zero_le _
  · intro room s object _
    exact Nat.zero_le _
  · intro room s object _
    exact Nat.zero_le _
  · intro room s object found last raised _ _ ih _
    rw [storings_append, storings_name, List.nil_append]
    exact Nat.le_of_succ_le (hbody room _ found.body ih)
  · intro room s object found last value _ _ ih _ storing
    rw [storings_append, storings_name, List.nil_append, storings_append, storings_store,
      List.length_append, List.length_singleton]
    exact hbody room _ found.body ih

/--
A dump stores every object at most once, and no more entries than a tree as deep and as wide as the limits
allow has nodes. It leaves all other entries alone, and each of its own is a list or a map of few values
that are each a truth value, a number, an id or a short text.
-/
theorem encode_bounded (memory : Memory) (limits : Limits) (s : Encoder) (v : Value)
    (hitems : 0 ≤ limits.maxItems) (htext : 1 ≤ limits.maxText) :
    let start := s.startDump []
    let t := (encode memory limits 0 start v).1
    let stored := storings (effects memory limits (roomAt limits 0) start v)
    t.heap = s.heap.merge (stored.map Storing.entry)
      ∧ (stored.map Storing.object).Nodup
      ∧ (stored.map fun p => p.entry.id).Nodup
      ∧ stored.length
        ≤ ∑ level ∈ Finset.range (limits.maxDepth + 1).toNat, limits.maxItems.toNat ^ level
      ∧ (∀ id, id ∉ stored.map (fun p => p.entry.id) → t.heap.get? id = s.heap.get? id)
      ∧ ∀ p ∈ stored,
          t.idOf? p.object = some p.entry.id ∧ t.heap.get? p.entry.id = some p.entry
            ∧ t.Shallow limits p.entry.value := by
  intro start t stored
  have hdumped : Dumped limits start t stored :=
    dumped_encodeWithin memory hitems htext (roomAt limits 0) start v
  have hheap : t.heap = s.heap.merge (stored.map Storing.entry) := hdumped.heap
  have hids : (stored.map Storing.entry).map HeapEntry.id = stored.map fun p => p.entry.id := by
    rw [List.map_map]
    rfl
  have hlength : stored.length
      ≤ ∑ level ∈ Finset.range (limits.maxDepth + 1).toNat, limits.maxItems.toNat ^ level := by
    have hroom : roomAt limits 0 = (limits.maxDepth + 1).toNat := by rw [roomAt, Int.sub_zero]
    rw [← hroom]
    exact length_storings_le memory hitems (roomAt limits 0) start v
  refine ⟨hheap, ?_, hdumped.distinct, hlength, ?_, ?_⟩
  · -- An object has one id only, so it is no more often among the stored ones than its id.
    apply List.Nodup.of_map t.idOf?
    have hnames : (stored.map Storing.object).map t.idOf? = (stored.map fun p => p.entry.id).map some := by
      rw [List.map_map, List.map_map]
      apply List.map_congr_left
      intro p hp
      exact (hdumped.shown p hp).1
    rw [hnames]
    exact hdumped.distinct.map (Option.some_injective _)
  · intro id hid
    rw [hheap, Heap.get?_merge_of_not_mem]
    rw [hids]
    exact hid
  · intro p hp
    refine ⟨(hdumped.shown p hp).1, ?_, (hdumped.shown p hp).2⟩
    rw [hheap, Heap.get?_merge_of_mem]
    · rw [hids]
      exact hdumped.distinct
    · exact List.mem_map_of_mem hp

theorem encode_bounded_cycle :
    let memory : Memory :=
      [("a", { typeName := "list", body := .elements [.ref "b", .text "long", .ref "c"] }),
       ("b",
        { typeName := "Node",
          body := .fields [("__tag", .ref "c"), ("next", .ref "a"), ("last", .ref "c")] }),
       ("c", { typeName := "list", body := .elements [] })]
    let limits : Limits := { maxDepth := 1, maxItems := 2, maxText := 1 }
    let old : HeapEntry := { id := "obj0", type := "list", value := .arr [] }
    let s : Encoder := { heap := { entries := [old] }, named := ["c"] }
    let start := s.startDump []
    let t := (encode memory limits 0 start (.ref "a")).1
    let stored := storings (effects memory limits (roomAt limits 0) start (.ref "a"))
    0 ≤ limits.maxItems ∧ 1 ≤ limits.maxText
      ∧ stored.map Storing.object = ["b", "a"]
      ∧ t.heap.entries
        = [old,
           { id := "obj2", type := "Node", value := .obj [("next", .str "..."), ("last", .str "...")] },
           { id := "obj1", type := "list", value := .arr [.str "obj2", .str "l..."] }]
      ∧ stored.length ≤ ∑ level ∈ Finset.range 2, 2 ^ level
      ∧ (∀ id, id ∉ stored.map (fun p => p.entry.id) → t.heap.get? id = s.heap.get? id)
      ∧ ∀ p ∈ stored,
          t.idOf? p.object = some p.entry.id ∧ t.heap.get? p.entry.id = some p.entry
            ∧ t.Shallow limits p.entry.value := by
  intro memory limits old s start t stored
  have hitems : 0 ≤ limits.maxItems := by decide
  have htext : 1 ≤ limits.maxText := by decide
  rcases encode_bounded memory limits s (.ref "a") hitems htext with ⟨_, _, _, hlength, hothers, hstored⟩
  exact ⟨hitems, htext, by decide +kernel, by decide +kernel, hlength, hothers, hstored⟩

end Encoder

end Playback
