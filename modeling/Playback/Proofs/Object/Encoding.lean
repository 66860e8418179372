import Mathlib.Data.List.Forall2
import Mathlib.Data.Set.Insert
import Playback.Object.Encoder
import Playback.Proofs.Outcome
import Playback.Proofs.Trace.Latest

/-!
This module contains what encoded values stand for. While objects are written down their ids are handed
out before they have an entry, so what is shown of one may lead to any object that has an entry or is
about to get one. Once nothing is being written down, every id that is shown leads to an entry, unless
an error has broken off what was being written down.
-/

namespace Playback

/--
What a step does to a state, and how it relates what it is given to its result, holds of all steps
together if later steps leave earlier relations alone. Next to the state runs a history `m` of it, to
which the steps add.
-/
theorem mapThrough_history {μ σ α β : Type} {f : σ → α → σ × β} {g : μ → α → μ} {I : μ → σ → Prop}
    {E : σ → σ → Prop} {R : σ → α → β → Prop} (hrefl : ∀ s, E s s)
    (htrans : ∀ {s t u}, E s t → E t u → E s u)
    (hmono : ∀ {s t a b}, E s t → R s a b → R t a b) (as : List α)
    (hstep : ∀ a ∈ as, ∀ m s, I m s →
      I (g m a) (f s a).1 ∧ E s (f s a).1 ∧ R (f s a).1 a (f s a).2)
    (m : μ) (s : σ) (h : I m s) :
    I (as.foldl g m) (mapThrough f s as).1 ∧ E s (mapThrough f s as).1
      ∧ List.Forall₂ (R (mapThrough f s as).1) as (mapThrough f s as).2 := by
  induction as generalizing m s with
  | nil => exact ⟨h, hrefl s, .nil⟩
  | cons a as ih =>
    rw [List.forall_mem_cons] at hstep
    rcases hstep.1 m s h with ⟨hnext, hextends, hrelated⟩
    rcases ih hstep.2 _ _ hnext with ⟨hlast, hrest, hall⟩
    exact ⟨hlast, htrans hextends hrest, .cons (hmono hrest hrelated) hall⟩

theorem mapThrough_induction {σ α β : Type} {f : σ → α → σ × β} {I : σ → Prop} {E : σ → σ → Prop}
    {R : σ → α → β → Prop} (hrefl : ∀ s, E s s) (htrans : ∀ {s t u}, E s t → E t u → E s u)
    (hmono : ∀ {s t a b}, E s t → R s a b → R t a b) (as : List α)
    (hstep : ∀ a ∈ as, ∀ s, I s → I (f s a).1 ∧ E s (f s a).1 ∧ R (f s a).1 a (f s a).2)
    (s : σ) (h : I s) :
    I (mapThrough f s as).1 ∧ E s (mapThrough f s as).1
      ∧ List.Forall₂ (R (mapThrough f s as).1) as (mapThrough f s as).2 := by
  apply mapThrough_history (g := fun (m : Unit) _ => m) (I := fun _ => I) (R := R) hrefl htrans hmono
  · intro a ha _
    exact hstep a ha
  · exact ()
  · exact h

/--
What becomes of steps that may fail: something of their result if they get through, or of what they leave
behind.
-/
def Results {σ β ε : Type} (done : σ → β → Prop) (failed : σ → Prop) (result : σ × Except ε β) : Prop :=
  match result.2 with
  | .ok b => done result.1 b
  | .error _ => failed result.1

theorem Results.imp {σ β ε : Type} {done done' : σ → β → Prop} {failed failed' : σ → Prop}
    {result : σ × Except ε β} (h : Results done failed result)
    (hdone : ∀ b, result.2 = .ok b → done result.1 b → done' result.1 b)
    (hfailed : failed result.1 → failed' result.1) : Results done' failed' result := by
  rcases result with ⟨s, e | b⟩
  · exact hfailed h
  · exact hdone b rfl h

theorem Results.map {σ β γ ε : Type} {done : σ → β → Prop} {done' : σ → γ → Prop} {failed : σ → Prop}
    {result : σ × Except ε β} (f : β → γ) (h : Results done failed result)
    (hdone : ∀ b, done result.1 b → done' result.1 (f b)) :
    Results done' failed (result.1, result.2.map f) := by
  rcases result with ⟨s, e | b⟩
  · exact h
  · exact hdone b h

theorem Results.of_ok {σ β ε : Type} {done : σ → β → Prop} {failed : σ → Prop} {result : σ × Except ε β}
    (h : Results done failed result) {b : β} (hok : result.2 = .ok b) : done result.1 b := by
  unfold Results at h
  rw [hok] at h
  exact h

theorem Results.of_isOk {σ β ε : Type} {done : σ → β → Prop} {failed : σ → Prop} {result : σ × Except ε β}
    (h : Results done failed result) (hok : result.2.isOk) :
    ∃ b, result.2 = .ok b ∧ done result.1 b := by
  rcases result with ⟨s, e | b⟩
  · contradiction
  · exact ⟨b, rfl, h⟩

/--
The same of steps that may fail. They end with the first one that does.
-/
theorem mapUntil_history {μ σ α β ε : Type} {f : σ → α → σ × Except ε β} {g : μ → α → μ}
    {I : μ → σ → Prop} {J : σ → Prop} {E : σ → σ → Prop} {R : σ → α → β → Prop} (hrefl : ∀ s, E s s)
    (htrans : ∀ {s t u}, E s t → E t u → E s u)
    (hmono : ∀ {s t a b}, E s t → R s a b → R t a b) (as : List α)
    (hstep : ∀ a ∈ as, ∀ m s, I m s →
      E s (f s a).1 ∧ Results (fun t b => I (g m a) t ∧ R t a b) J (f s a))
    (m : μ) (s : σ) (h : I m s) :
    E s (mapUntil f s as).1
      ∧ Results (fun t bs => I (as.foldl g m) t ∧ List.Forall₂ (R t) as bs) J (mapUntil f s as) := by
  induction as generalizing m s with
  | nil => exact ⟨hrefl s, h, .nil⟩
  | cons a as ih =>
    rw [List.forall_mem_cons] at hstep
    have hhead := hstep.1 m s h
    unfold mapUntil
    rcases hfirst : f s a with ⟨t, e | b⟩
    · rw [hfirst] at hhead
      exact hhead
    · rw [hfirst] at hhead
      rcases hhead with ⟨hextends, hnext, hrelated⟩
      rcases ih hstep.2 _ _ hnext with ⟨hrest, hresults⟩
      refine ⟨htrans hextends hrest, hresults.map (b :: ·) ?_⟩
      rintro bs ⟨hlast, hall⟩
      exact ⟨hlast, .cons (hmono hrest hrelated) hall⟩

def Value.isIn (memory : Memory) : Value → Bool
  | .ref object => (memory.lookup object).isSome
  | _ => true

namespace Body

def values : Body → List Value
  | .elements items => items
  | .entries pairs => pairs.map Prod.snd
  | .fields pairs => pairs.map Prod.snd

def kept (limits : Limits) (body : Body) : List Value :=
  (body.parts limits).map Prod.snd

theorem kept_subset_values (limits : Limits) (body : Body) : body.kept limits ⊆ body.values := by
  unfold kept parts values
  cases body with
  | elements items =>
    rw [List.map_map]
    change List.map id _ ⊆ items
    rw [List.map_id]
    apply Text.takeUpTo_subset
  | entries pairs =>
    rw [List.map_map]
    exact List.map_subset Prod.snd (Text.takeUpTo_subset _ _)
  | fields pairs =>
    rw [List.map_map]
    apply List.map_subset Prod.snd
    exact List.Subset.trans (Text.takeUpTo_subset _ _) (List.filter_subset_self _)

end Body

namespace Memory

def values (memory : Memory) : List Value :=
  memory.flatMap fun entry => entry.2.body.values

/--
Whether objects lead to nothing but each other.
-/
def Closed (memory : Memory) : Prop :=
  ∀ v ∈ memory.values, v.isIn memory = true
deriving Decidable

theorem mem_of_lookup {memory : Memory} {handle : Handle} {object : Object}
    (hlookup : memory.lookup handle = some object) : (handle, object) ∈ memory := by
  rw [List.lookup_eq_some_iff] at hlookup
  rcases hlookup with ⟨before, after, heq, _⟩
  rw [heq]
  simp

theorem values_of_lookup {memory : Memory} {handle : Handle} {object : Object}
    (hlookup : memory.lookup handle = some object) : object.body.values ⊆ memory.values := by
  intro v hv
  rw [values, List.mem_flatMap]
  exact ⟨(handle, object), mem_of_lookup hlookup, hv⟩

end Memory

/--
The entries of a dictionary whose keys have a text, each under it.
-/
def namedEntries (pairs : List (Key × Value)) : List (String × Value) :=
  pairs.filterMap fun pair => pair.1.display.toOption.map (·, pair.2)

def Named (stands : Value → Json → Prop) (named : String × Value) (field : String × Json) : Prop :=
  named.1 = field.1 ∧ stands named.2 field.2

/--
What is shown of an object if `stands` tells what is shown of a value. Of several values under one name
the last one is shown, at the place of the first. All keys of a dictionary that are shown have a text.
-/
inductive Displays (limits : Limits) (stands : Value → Json → Prop) : Body → Json → Prop where
  | elements {items : List Value} {shown : List Json}
      (h : List.Forall₂ stands (Text.takeUpTo limits.maxItems items) shown) :
      Displays limits stands (.elements items) (.arr shown)
  | entries {pairs : List (Key × Value)} {fields : Fields}
      (hnamed : ∀ pair ∈ Text.takeUpTo limits.maxItems pairs, ∃ name, pair.1.display = .ok name)
      (h : List.Forall₂ (Named stands)
        (latest Prod.fst (namedEntries (Text.takeUpTo limits.maxItems pairs))) fields) :
      Displays limits stands (.entries pairs) (.obj fields)
  | fields {pairs : List (String × Value)} {fields : Fields}
      (h : List.Forall₂ (Named stands)
        (latest Prod.fst
          (Text.takeUpTo limits.maxItems (pairs.filter fun pair => !"__".isPrefixOf pair.1))) fields) :
      Displays limits stands (.fields pairs) (.obj fields)

theorem Displays.imp {limits : Limits} {stands stands' : Value → Json → Prop} {body : Body}
    {json : Json} (himp : ∀ value shown, stands value shown → stands' value shown)
    (h : Displays limits stands body json) : Displays limits stands' body json := by
  have hnamed : ∀ named field, Named stands named field → Named stands' named field := by
    intro named field hfield
    exact ⟨hfield.1, himp _ _ hfield.2⟩
  cases h with
  | elements h => exact .elements (h.imp himp)
  | entries hnames h => exact .entries hnames (h.imp hnamed)
  | fields h => exact .fields (h.imp hnamed)

theorem forall₂_upsert {stands : Value → Json → Prop} {named : String × Value}
    {field : String × Json} {values : List (String × Value)} {fields : Fields}
    (h : List.Forall₂ (Named stands) values fields) (hfield : Named stands named field) :
    List.Forall₂ (Named stands) (upsert Prod.fst named values) (upsert Prod.fst field fields) := by
  induction h with
  | nil => exact .cons hfield .nil
  | @cons value head values fields hhead hrest ih =>
    unfold upsert
    rw [← hhead.1, ← hfield.1]
    split
    · exact .cons hfield hrest
    · exact .cons hhead ih

theorem forall₂_latest {stands : Value → Json → Prop} {values : List (String × Value)}
    {fields : Fields} (h : List.Forall₂ (Named stands) values fields) :
    List.Forall₂ (Named stands) (latest Prod.fst values) (latest Prod.fst fields) := by
  have hfold : ∀ start shown, List.Forall₂ (Named stands) start shown →
      List.Forall₂ (Named stands) (values.foldl (fun bs a => upsert Prod.fst a bs) start)
        (fields.foldl (fun bs a => upsert Prod.fst a bs) shown) := by
    induction h with
    | nil =>
      intro start shown hstart
      exact hstart
    | cons hhead _ ih =>
      intro start shown hstart
      exact ih _ _ (forall₂_upsert hstart hhead)
  rw [latest_eq_foldl, latest_eq_foldl]
  exact hfold [] [] .nil

theorem forall₂_zip {α : Type} {stands : Value → Json → Prop} (name : α → String) (value : α → Value)
    {as : List α} {shown : List Json} (h : List.Forall₂ stands (as.map value) shown) :
    List.Forall₂ (Named stands) (as.map fun a => (name a, value a)) ((as.map name).zip shown) := by
  induction as generalizing shown with
  | nil => exact .nil
  | cons a as ih =>
    cases h with
    | cons hhead hrest => exact .cons ⟨rfl, hhead⟩ (ih hrest)

/--
What is shown of a part of an object: its name has a text, and its value is shown.
-/
def Titled (stands : Value → Json → Prop) (part : Shown × Value) (field : String × Json) : Prop :=
  part.1 = .ok field.1 ∧ stands part.2 field.2

theorem forall₂_map_snd {stands : Value → Json → Prop} {parts : List (Shown × Value)} {fields : Fields}
    (h : List.Forall₂ (Titled stands) parts fields) :
    List.Forall₂ stands (parts.map Prod.snd) (fields.map Prod.snd) := by
  rw [List.forall₂_map_left_iff, List.forall₂_map_right_iff]
  exact h.imp fun _ _ htitled => htitled.2

theorem forall₂_namedEntries {stands : Value → Json → Prop} {pairs : List (Key × Value)} {fields : Fields}
    (h : List.Forall₂ (Titled stands) (pairs.map fun pair => (pair.1.display, pair.2)) fields) :
    (∀ pair ∈ pairs, ∃ name, pair.1.display = .ok name)
      ∧ List.Forall₂ (Named stands) (namedEntries pairs) fields := by
  induction pairs generalizing fields with
  | nil =>
    cases h
    exact ⟨by simp, .nil⟩
  | cons pair pairs ih =>
    cases h with
    | @cons _ field _ fields htitled hrest =>
      have hname : pair.1.display = .ok field.1 := htitled.1
      rcases ih hrest with ⟨hnames, hall⟩
      rw [List.forall_mem_cons]
      refine ⟨⟨⟨_, hname⟩, hnames⟩, ?_⟩
      unfold namedEntries
      rw [List.filterMap_cons_some (b := (field.1, pair.2)) (by rw [hname]; rfl)]
      exact .cons ⟨rfl, htitled.2⟩ hall

theorem forall₂_right {α β : Type} {R : α → β → Prop} {P : β → Prop} {as : List α} {bs : List β}
    (h : List.Forall₂ R as bs) (hR : ∀ a ∈ as, ∀ b, R a b → P b) : ∀ b ∈ bs, P b := by
  induction h with
  | nil => simp
  | cons hhead _ ih =>
    rw [List.forall_mem_cons] at hR ⊢
    exact ⟨hR.1 _ hhead, ih hR.2⟩

namespace Heap

theorem ids_prefix_put (heap : Heap) (entry : HeapEntry) : heap.ids <+: (heap.put entry).ids := by
  unfold ids put
  rw [putEntry_eq_upsert]
  apply map_key_prefix_upsert

theorem nodup_ids_put (heap : Heap) (entry : HeapEntry) (h : heap.ids.Nodup) :
    (heap.put entry).ids.Nodup := by
  unfold ids put
  rw [putEntry_eq_upsert]
  apply nodup_upsert
  exact h

theorem mem_ids_put (heap : Heap) (entry : HeapEntry) (id : String) :
    id ∈ (heap.put entry).ids ↔ id = entry.id ∨ id ∈ heap.ids := by
  unfold ids put
  rw [putEntry_eq_upsert, map_key_upsert]
  split
  · next h =>
    rw [iff_or_self]
    rintro rfl
    exact h
  · rw [List.mem_append, List.mem_singleton, or_comm]

theorem mem_entries_put {heap : Heap} {entry old : HeapEntry} (h : old ∈ (heap.put entry).entries) :
    old = entry ∨ old ∈ heap.entries := by
  unfold put at h
  rw [putEntry_eq_upsert] at h
  exact mem_of_mem_upsert HeapEntry.id entry heap.entries h

end Heap

namespace Encoder

/--
What a later state of an encoder keeps of an earlier one: names and ids are never taken back, and no id
gets a second entry.
-/
structure Extends (s t : Encoder) : Prop where
  named : s.named <+: t.named
  ids : s.heap.ids <+: t.heap.ids
  distinct : s.heap.ids.Nodup → t.heap.ids.Nodup

namespace Extends

variable {s t u : Encoder}

theorem refl (s : Encoder) : s.Extends s where
  named := List.prefix_rfl
  ids := List.prefix_rfl
  distinct := id

theorem trans (hst : s.Extends t) (htu : t.Extends u) : s.Extends u where
  named := hst.named.trans htu.named
  ids := hst.ids.trans htu.ids
  distinct := htu.distinct ∘ hst.distinct

theorem name (s : Encoder) (more : List Handle) : s.Extends { s with named := s.named ++ more } where
  named := List.prefix_append ..
  ids := List.prefix_rfl
  distinct := id

theorem put (s : Encoder) (entry : HeapEntry) : s.Extends { s with heap := s.heap.put entry } where
  named := List.prefix_rfl
  ids := Heap.ids_prefix_put s.heap entry
  distinct := Heap.nodup_ids_put s.heap entry

end Extends

/--
What a later state of an encoder keeps within one dump.
-/
structure Continues (s t : Encoder) : Prop extends s.Extends t where
  visited : s.visited ⊆ t.visited

namespace Continues

variable {s t u : Encoder}

theorem refl (s : Encoder) : s.Continues s where
  toExtends := .refl s
  visited := List.Subset.refl _

theorem trans (hst : s.Continues t) (htu : t.Continues u) : s.Continues u where
  toExtends := hst.toExtends.trans htu.toExtends
  visited := List.Subset.trans hst.visited htu.visited

theorem name (s : Encoder) (more : List Handle) : s.Continues { s with named := s.named ++ more } where
  toExtends := .name s more
  visited := List.Subset.refl _

theorem visit (s : Encoder) (id : String) : s.Continues { s with visited := id :: s.visited } where
  toExtends := ⟨List.prefix_rfl, List.prefix_rfl, fun h => h⟩
  visited := List.subset_cons_self _ _

theorem put (s : Encoder) (entry : HeapEntry) : s.Continues { s with heap := s.heap.put entry } where
  toExtends := .put s entry
  visited := List.Subset.refl _

end Continues

/--
Whether an id leads to an object that has an entry or is pending.
-/
def Knows (pending : Set String) (s : Encoder) (id : String) : Prop :=
  id ∈ s.heap.ids ∨ id ∈ pending

/--
What is shown of a value. An object is shown by a known id that it is named by, or it is left out, which
it may be where `omits` holds.
-/
inductive Stands (limits : Limits) (pending : Set String) (omits : Prop) (s : Encoder) :
    Value → Json → Prop where
  | omitted {object : Handle} (h : omits) :
      Stands limits pending omits s (.ref object) (.str ValueKind.ellipsis)
  | reference {object : Handle} {n : Nat} (hnamed : s.named[n]? = some object)
      (hknown : s.Knows pending (idOf n)) :
      Stands limits pending omits s (.ref object) (.str (idOf n))
  | scalar {value : Value} {json : Json} (h : value.isReference = false)
      (hshown : scalar limits value = .ok json) : Stands limits pending omits s value json

/--
Whether an entry shows one of the given objects as it is, under the id that the object is named by.
-/
def Describes (limits : Limits) (pending : Set String) (memory : Memory) (s : Encoder)
    (entry : HeapEntry) : Prop :=
  ∃ n handle object,
    s.named[n]? = some handle ∧ entry.id = idOf n ∧ memory.lookup handle = some object
      ∧ entry.type = (if object.typeName == "" then Record.defaultType else object.typeName)
      ∧ Displays limits (Stands limits pending True s) object.body entry.value

variable {limits : Limits} {pending pending' : Set String} {omits omits' : Prop} {s t : Encoder}

theorem Extends.getElem?_named (h : s.Extends t) {n : Nat} {object : Handle}
    (hnamed : s.named[n]? = some object) : t.named[n]? = some object := by
  rcases h.named with ⟨more, heq⟩
  rw [← heq, List.getElem?_append_left]
  · exact hnamed
  · exact (List.getElem?_eq_some_iff.mp hnamed).1

theorem Extends.knows (h : s.Extends t) {id : String} (hid : s.Knows pending id) :
    t.Knows pending id := by
  apply hid.imp_left
  intro hmem
  exact h.ids.subset hmem

theorem Knows.weaken {id : String} (h : s.Knows pending id) (hpending : pending ⊆ pending') :
    s.Knows pending' id :=
  h.imp_right fun hmem => hpending hmem

theorem Stands.imp {value : Value} {json : Json}
    (hnamed : ∀ (n : Nat) (object : Handle), s.named[n]? = some object → t.named[n]? = some object)
    (hknown : ∀ id, s.Knows pending id → t.Knows pending' id) (homits : omits → omits')
    (h : Stands limits pending omits s value json) :
    Stands limits pending' omits' t value json := by
  cases h with
  | omitted h => exact .omitted (homits h)
  | reference hname hid => exact .reference (hnamed _ _ hname) (hknown _ hid)
  | scalar h hshown => exact .scalar h hshown

theorem Describes.imp {memory : Memory} {entry : HeapEntry}
    (hnamed : ∀ (n : Nat) (object : Handle), s.named[n]? = some object → t.named[n]? = some object)
    (hknown : ∀ id, s.Knows pending id → t.Knows pending' id)
    (h : s.Describes limits pending memory entry) : t.Describes limits pending' memory entry := by
  rcases h with ⟨n, handle, object, hname, hid, hlookup, htype, hdisplays⟩
  refine ⟨n, handle, object, hnamed n handle hname, hid, hlookup, htype, ?_⟩
  apply hdisplays.imp
  intro value json hstands
  exact hstands.imp hnamed hknown id

theorem Stands.mono {value : Value} {json : Json} (hextends : s.Extends t)
    (h : Stands limits pending omits s value json) : Stands limits pending omits t value json := by
  apply h.imp
  · intro n object
    apply hextends.getElem?_named
  · intro id
    apply hextends.knows
  · exact id

theorem Describes.startDump {memory : Memory} {entry : HeapEntry} (visited : List String)
    (h : s.Describes limits pending memory entry) :
    (s.startDump visited).Describes limits pending memory entry := by
  exact Describes.imp (s := s) (fun _ _ hnamed => hnamed) (fun _ hid => hid) h

/--
What holds of an encoder while the objects of the pending ids are being written down. Its entries were
given to it or show objects that come from a source.
-/
structure Consistent (limits : Limits) (given : List HeapEntry) (Source : Memory → Prop)
    (pending : Set String) (s : Encoder) : Prop where
  visited : ∀ id ∈ s.visited, s.Knows pending id
  entries : ∀ entry ∈ s.heap.entries,
    entry ∈ given ∨ ∃ memory, Source memory ∧ s.Describes limits pending memory entry

variable {given : List HeapEntry} {Source : Memory → Prop}

namespace Consistent

/-
Entries stay what they are while the encoder gets to know more.
-/
theorem entries_imp (h : Consistent limits given Source pending s)
    (hnamed : ∀ (n : Nat) (object : Handle), s.named[n]? = some object → t.named[n]? = some object)
    (hknown : ∀ id, s.Knows pending id → t.Knows pending' id) {entry : HeapEntry}
    (hentry : entry ∈ s.heap.entries) :
    entry ∈ given ∨ ∃ memory, Source memory ∧ t.Describes limits pending' memory entry := by
  apply (h.entries entry hentry).imp_right
  rintro ⟨memory, hsource, hdescribes⟩
  exact ⟨memory, hsource, hdescribes.imp hnamed hknown⟩

theorem weaken (h : Consistent limits given Source pending s)
    (hpending : ∀ id ∈ pending, s.Knows pending' id) : Consistent limits given Source pending' s := by
  have hknown : ∀ id, s.Knows pending id → s.Knows pending' id := by
    intro id hid
    exact hid.elim .inl (hpending id)
  constructor
  · intro id hid
    exact hknown id (h.visited id hid)
  · intro entry hentry
    exact h.entries_imp (fun _ _ hnamed => hnamed) hknown hentry

theorem name (h : Consistent limits given Source pending s) (more : List Handle) :
    Consistent limits given Source pending { s with named := s.named ++ more } where
  visited := h.visited
  entries := by
    intro entry
    apply h.entries_imp
    · intro n object
      apply (Extends.name s more).getElem?_named
    · exact fun _ hid => hid

theorem startDump (h : Consistent limits given Source pending s) {visited : List String}
    (hvisited : ∀ id ∈ visited, s.Knows pending id) :
    Consistent limits given Source pending (s.startDump visited) where
  visited := hvisited
  entries := by
    intro entry
    exact h.entries_imp (t := s.startDump visited) (fun _ _ hnamed => hnamed) (fun _ hid => hid)

theorem visit (h : Consistent limits given Source pending s) (id : String) :
    Consistent limits given Source (insert id pending) { s with visited := id :: s.visited } where
  visited := by
    intro visited hvisited
    rw [List.mem_cons] at hvisited
    rcases hvisited with heq | hmem
    · rw [heq]
      exact .inr (Set.mem_insert id pending)
    · exact (h.visited visited hmem).weaken (Set.subset_insert id pending)
  entries := by
    intro entry
    apply h.entries_imp
    · exact fun _ _ hnamed => hnamed
    · intro known hknown
      exact hknown.imp_right (Set.mem_insert_of_mem id)

/-
The entry of an object settles its id, for what is shown of it as well as for what leads to it.
-/
theorem put {memory : Memory} {entry : HeapEntry} (hsource : Source memory)
    (h : Consistent limits given Source (insert entry.id pending) s)
    (hentry : s.Describes limits (insert entry.id pending) memory entry) :
    Consistent limits given Source pending { s with heap := s.heap.put entry } := by
  have hknown : ∀ id, s.Knows (insert entry.id pending) id →
      Encoder.Knows pending { s with heap := s.heap.put entry } id := by
    intro id hid
    unfold Knows at hid ⊢
    rw [Heap.mem_ids_put, or_assoc, or_left_comm, ← Set.mem_insert_iff]
    exact hid
  constructor
  · intro id hid
    exact hknown id (h.visited id hid)
  · intro old hold
    rcases Heap.mem_entries_put hold with heq | hmem
    · rw [heq]
      exact .inr ⟨memory, hsource, Describes.imp (s := s) (fun _ _ hnamed => hnamed) hknown hentry⟩
    · exact h.entries_imp (t := { s with heap := s.heap.put entry }) (fun _ _ hnamed => hnamed) hknown hmem

end Consistent

/--
What an error leaves behind when it breaks off a dump: any id that has been visited may be without an entry.
-/
def Broken (limits : Limits) (given : List HeapEntry) (Source : Memory → Prop) (pending : Set String)
    (s : Encoder) : Prop :=
  Consistent limits given Source (pending ∪ {id | id ∈ s.visited}) s

theorem Consistent.broken (h : Consistent limits given Source pending s) :
    Broken limits given Source pending s := by
  apply h.weaken
  intro id hid
  exact .inr (.inl hid)

theorem Broken.settle {id : String} (h : Broken limits given Source (insert id pending) s)
    (hvisited : id ∈ s.visited) : Broken limits given Source pending s := by
  apply Consistent.weaken h
  rintro known ((heq | hpending) | hknown)
  · rw [heq]
    exact .inr (.inr hvisited)
  · exact .inr (.inl hpending)
  · exact .inr (.inr hknown)

theorem identify_spec (s : Encoder) (object : Handle) :
    ∃ n more,
      s.identify object = ({ s with named := s.named ++ more }, idOf n)
        ∧ (s.named ++ more)[n]? = some object := by
  unfold identify
  cases hfind : s.named.idxOf? object with
  | none =>
    refine ⟨s.named.length, [object], rfl, ?_⟩
    simp
  | some n =>
    rw [List.idxOf?_eq_some_iff] at hfind
    rcases hfind with ⟨hn, heq, _⟩
    refine ⟨n, [], ?_, ?_⟩
    · rw [List.append_nil]
    · rw [List.append_nil, List.getElem?_eq_some_iff]
      exact ⟨hn, heq⟩

theorem results_scalar {done : Encoder → Json → Prop} {failed : Encoder → Prop} {s : Encoder}
    {value : Value} (hdone : ∀ json, scalar limits value = .ok json → done s json) (hfailed : failed s) :
    Results done failed (s, scalar limits value) := by
  cases hshown : scalar limits value with
  | error raised => exact hfailed
  | ok json => exact hdone json hshown

theorem results_encodePart {done : Encoder → Json → Prop} {failed : Encoder → Prop} {E : Encoder → Encoder → Prop}
    {encode : Encoder → Value → Encoder × Except Raised Json} {s : Encoder} {part : Shown × Value}
    (hrefl : E s s) (hfailed : failed s)
    (h : E s (encode s part.2).1 ∧ Results done failed (encode s part.2)) :
    E s (encodePart encode s part).1
      ∧ Results (fun t field => part.1 = .ok field.1 ∧ done t field.2) failed
          (encodePart encode s part) := by
  unfold encodePart
  cases part.1 with
  | error raised => exact ⟨hrefl, hfailed⟩
  | ok name => exact ⟨h.1, h.2.map (name, ·) fun json hjson => ⟨rfl, hjson⟩⟩

theorem displays_form {stands : Value → Json → Prop} {body : Body} {fields : Fields}
    (h : List.Forall₂ (Titled stands) (body.parts limits) fields) :
    Displays limits stands body (body.form fields) := by
  unfold Body.parts at h
  cases body with
  | elements items =>
    have hvalues := forall₂_map_snd h
    rw [List.map_map] at hvalues
    change List.Forall₂ _ (List.map id _) _ at hvalues
    rw [List.map_id] at hvalues
    exact .elements hvalues
  | entries pairs =>
    rcases forall₂_namedEntries h with ⟨hnames, hall⟩
    refine .entries hnames ?_
    rw [Fields.ofList_eq_latest]
    exact forall₂_latest hall
  | fields pairs =>
    refine .fields ?_
    rw [Fields.ofList_eq_latest]
    apply forall₂_latest
    rw [List.forall₂_map_left_iff] at h
    apply h.imp
    rintro pair field ⟨hname, hshown⟩
    exact ⟨Except.ok.inj hname, hshown⟩

/-
What holds of the values of an object that are encoded one after another holds of the object.
-/
theorem encodeBody_spec {μ : Type} {encode : Encoder → Value → Encoder × Except Raised Json}
    (limits : Limits) {g : μ → Value → μ} {I : μ → Encoder → Prop} {J : Encoder → Prop}
    {R : Encoder → Value → Json → Prop}
    (hmono : ∀ {s t v json}, Extends s t → R s v json → R t v json)
    (hfailed : ∀ m s, I m s → J s) (body : Body)
    (hstep : ∀ v ∈ body.values, ∀ m s, I m s →
      s.Continues (encode s v).1 ∧ Results (fun t json => I (g m v) t ∧ R t v json) J (encode s v))
    (m : μ) (s : Encoder) (h : I m s) :
    s.Continues (encodeBody encode limits s body).1
      ∧ Results (fun t json => I ((body.kept limits).foldl g m) t ∧ Displays limits (R t) body json) J
          (encodeBody encode limits s body) := by
  have hparts : ∀ part ∈ body.parts limits, ∀ m s, I m s →
      s.Continues (encodePart encode s part).1
        ∧ Results (fun t field => I (g m part.2) t ∧ Titled (R t) part field) J
            (encodePart encode s part) := by
    intro part hpart m s hs
    have hvalue := body.kept_subset_values limits (List.mem_map_of_mem hpart)
    rcases results_encodePart (.refl s) (hfailed m s hs) (hstep part.2 hvalue m s hs) with ⟨hcontinues, hresults⟩
    refine ⟨hcontinues, hresults.imp ?_ id⟩
    rintro field _ ⟨hname, hnext, hshown⟩
    exact ⟨hnext, hname, hshown⟩
  rcases mapUntil_history (g := fun m (part : Shown × Value) => g m part.2) (R := fun t => Titled (R t))
    Continues.refl Continues.trans
    (fun hcontinues htitled => ⟨htitled.1, hmono hcontinues.toExtends htitled.2⟩) _ hparts m s h
    with ⟨hcontinues, hresults⟩
  refine ⟨hcontinues, hresults.map body.form ?_⟩
  rintro fields ⟨hlast, hall⟩
  rw [Body.kept, List.foldl_map]
  exact ⟨hlast, displays_form hall⟩

/-
The objects that a dump meets are pending until everything they lead to has been written down.
-/
theorem encodeWithin_spec {memory : Memory} (hclosed : memory.Closed) (hsource : Source memory)
    (room : Nat) (pending : Set String) (s : Encoder) (v : Value) (hv : v.isIn memory = true)
    (h : Consistent limits given Source pending s) :
    s.Continues (encodeWithin memory limits room s v).1
      ∧ Results
          (fun t json => Consistent limits given Source pending t
            ∧ Stands limits pending (room = 0) t v json)
          (Broken limits given Source pending) (encodeWithin memory limits room s v) := by
  have hplain : ∀ pending s room v, Consistent limits given Source pending s → v.isReference = false →
      Results
        (fun t json => Consistent limits given Source pending t
          ∧ Stands limits pending (room = 0) t v json)
        (Broken limits given Source pending) (s, scalar limits v) := by
    intro pending s room v h hv
    apply results_scalar _ h.broken
    intro json hshown
    exact ⟨h, .scalar hv hshown⟩
  induction room generalizing pending s v with
  | zero =>
    cases v with
    | ref object => exact ⟨.refl s, h, .omitted rfl⟩
    | _ => exact ⟨.refl s, hplain pending s 0 _ h rfl⟩
  | succ room ih =>
    cases v with
    | ref object =>
      rcases identify_spec s object with ⟨n, more, hidentify, hnamed⟩
      have hnew := h.name more
      have hcontinues := Continues.name s more
      unfold encodeWithin
      rw [hidentify]
      dsimp only
      split
      · next hvisited =>
        refine ⟨hcontinues, hnew, .reference hnamed ?_⟩
        apply hnew.visited
        simpa using hvisited
      · rcases Option.isSome_iff_exists.mp hv with ⟨⟨typeName, body⟩, hlookup⟩
        have hvalues := fun v hv => hclosed v (Memory.values_of_lookup hlookup hv)
        have hstep : ∀ v ∈ body.values, ∀ (_ : Unit) t,
            Consistent limits given Source (insert (idOf n) pending) t →
              t.Continues (encodeWithin memory limits room t v).1
                ∧ Results
                    (fun u json => Consistent limits given Source (insert (idOf n) pending) u
                      ∧ Stands limits (insert (idOf n) pending) True u v json)
                    (Broken limits given Source (insert (idOf n) pending))
                    (encodeWithin memory limits room t v) := by
          intro v hv _ t ht
          rcases ih _ t v (hvalues v hv) ht with ⟨hstep, hresults⟩
          refine ⟨hstep, hresults.imp ?_ id⟩
          rintro json _ ⟨hnext, hstands⟩
          exact ⟨hnext, hstands.imp (fun _ _ hname => hname) (fun _ hid => hid) fun _ => trivial⟩
        rcases encodeBody_spec limits (g := fun (m : Unit) _ => m)
          (I := fun _ => Consistent limits given Source (insert (idOf n) pending))
          (R := Stands limits (insert (idOf n) pending) True) Stands.mono
          (fun _ _ => Consistent.broken) body hstep () _ (hnew.visit (idOf n)) with ⟨hinner, hresults⟩
        have hall := (hcontinues.trans (.visit _ (idOf n))).trans hinner
        rw [hlookup]
        dsimp only
        split
        · next hbroken =>
          rw [hbroken] at hall hinner hresults
          exact ⟨hall, hresults.settle (hinner.visited List.mem_cons_self)⟩
        · next t value hshown =>
          rw [hshown] at hall hinner hresults
          rcases hresults with ⟨hconsistent, hdisplays⟩
          have hname := hinner.getElem?_named hnamed
          refine ⟨hall.trans (.put t _), ?_, ?_⟩
          · exact hconsistent.put hsource ⟨n, object, _, hname, rfl, hlookup, rfl, hdisplays⟩
          · refine .reference hname (.inl ?_)
            exact (Heap.mem_ids_put _ _ _).mpr (.inl rfl)
    | _ => exact ⟨.refl s, hplain pending s (room + 1) _ h rfl⟩

theorem roomAt_eq_zero_iff (limits : Limits) (depth : Int) :
    roomAt limits depth = 0 ↔ limits.maxDepth < depth := by
  unfold roomAt
  omega

theorem encode_spec {memory : Memory} (hclosed : memory.Closed) (hsource : Source memory)
    (depth : Int) (s : Encoder) (v : Value) (hv : v.isIn memory = true)
    (h : Consistent limits given Source pending s) :
    s.Continues (encode memory limits depth s v).1
      ∧ Results
          (fun t json => Consistent limits given Source pending t
            ∧ Stands limits pending (limits.maxDepth < depth) t v json)
          (Broken limits given Source pending) (encode memory limits depth s v) := by
  rw [← roomAt_eq_zero_iff]
  exact encodeWithin_spec hclosed hsource (roomAt limits depth) pending s v hv h

end Encoder

end Playback
