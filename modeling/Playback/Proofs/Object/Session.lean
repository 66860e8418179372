import Mathlib.Logic.Function.Basic
import Playback.Proofs.Object.Texts

/-!
This module contains what holds of an encoder that is used again and again while the objects change, each
time for a dump of its own or as part of one that goes on. Every id that it has shown leads to an entry,
be it in an answer or in an entry that was written down long ago. Only an error can come in between: a use
that raises one has handed out ids for the objects it was about to write down.
-/

namespace Playback

/--
One use of an encoder: the objects as they are then, the value with its depth, and the dump that the use
is part of, if it is not one of its own.
-/
structure Use where
  memory : Memory
  value : Value
  depth : Int := 0
  dump : Option Nat := none

namespace Use

def values (use : Use) : List Value :=
  use.value :: use.memory.values

def Closed (use : Use) : Prop :=
  ∀ v ∈ use.values, v.isIn use.memory = true
deriving Decidable

/--
Whether all values and all keys of dictionaries have a text.
-/
def HasTexts (use : Use) : Prop :=
  (∀ v ∈ use.values, v.hasText = true) ∧ ∀ key ∈ use.memory.keys, key.hasText = true
deriving Decidable

end Use

/--
An encoder between its uses, and the ids that each dump has visited so far.
-/
structure Session where
  encoder : Encoder := {}
  visited : Nat → List String := fun _ => []

namespace Session

def encode (limits : Limits) (session : Session) (use : Use) : Session × Except Raised Json :=
  let visited := use.dump.elim [] session.visited
  let (encoder, answer) :=
    Encoder.encode use.memory limits use.depth (session.encoder.startDump visited) use.value
  ({ encoder
     visited := use.dump.elim session.visited fun dump =>
       Function.update session.visited dump encoder.visited },
    answer)

/--
The ids that have been handed out by uses without an entry to follow, because the use raised an error
before.
-/
def lost (limits : Limits) (session : Session) : List Use → Set String
  | [] => ∅
  | use :: uses =>
    let (next, answer) := session.encode limits use
    {id | answer.isOk = false ∧ id ∈ next.encoder.visited ∧ id ∉ next.encoder.heap.ids}
      ∪ next.lost limits uses

/--
What holds of a session between two uses, when no object is being written down.
-/
structure Settled (limits : Limits) (given : List HeapEntry) (Source : Memory → Prop)
    (lost : Set String) (session : Session) : Prop where
  visited : ∀ dump, ∀ id ∈ session.visited dump, session.encoder.Knows lost id
  entries : ∀ entry ∈ session.encoder.heap.entries,
    entry ∈ given ∨ ∃ memory, Source memory ∧ session.encoder.Describes limits lost memory entry

variable {limits : Limits} {given : List HeapEntry} {Source : Memory → Prop} {session : Session}
  {lost : Set String}

theorem Settled.start (limits : Limits) (heap : Heap) (Source : Memory → Prop) (lost : Set String) :
    Settled limits heap.entries Source lost { encoder := { heap } } where
  visited := by
    intro dump id hid
    rw [List.mem_nil_iff] at hid
    contradiction
  entries := by
    intro entry hentry
    exact .inl hentry

theorem Settled.startDump (h : Settled limits given Source lost session) (dump : Option Nat) :
    Encoder.Consistent limits given Source lost
      (session.encoder.startDump (dump.elim [] session.visited)) where
  visited := by
    intro id hid
    cases dump with
    | none =>
      rw [Encoder.startDump, Option.elim_none, List.mem_nil_iff] at hid
      contradiction
    | some dump => exact h.visited dump id hid
  entries := by
    intro entry hentry
    apply (h.entries entry hentry).imp_right
    rintro ⟨memory, hsource, hdescribes⟩
    exact ⟨memory, hsource, hdescribes.startDump _⟩

theorem encode_spec {use : Use} {uses : List Use} (hclosed : use.Closed) (hsource : Source use.memory)
    (hlost : session.lost limits (use :: uses) ⊆ lost) (h : Settled limits given Source lost session) :
    Settled limits given Source lost (session.encode limits use).1
      ∧ session.encoder.Extends (session.encode limits use).1.encoder
      ∧ ∀ json, (session.encode limits use).2 = .ok json →
          Encoder.Stands limits lost (limits.maxDepth < use.depth)
            (session.encode limits use).1.encoder use.value json := by
  have hvalue := hclosed use.value List.mem_cons_self
  have hmemory : use.memory.Closed := fun v hv => hclosed v (List.mem_cons_of_mem _ hv)
  rcases Encoder.encode_spec hmemory hsource use.depth _ use.value hvalue (h.startDump use.dump)
    with ⟨hcontinues, hresults⟩
  have hlast : Encoder.Consistent limits given Source lost (session.encode limits use).1.encoder := by
    unfold Results at hresults
    split at hresults
    · exact hresults.1
    · next raised hraised =>
      apply Encoder.Consistent.weaken hresults
      rintro id (hid | hvisited)
      · exact .inr hid
      · rw [Encoder.Knows, or_iff_not_imp_left]
        intro hmissing
        apply hlost
        refine .inl ⟨?_, hvisited, hmissing⟩
        change (Encoder.encode _ _ _ _ _).2.isOk = false
        rw [hraised]
        rfl
  refine ⟨⟨?_, hlast.entries⟩, ⟨hcontinues.named, hcontinues.ids, hcontinues.distinct⟩, ?_⟩
  · have hkept : ∀ dump, ∀ id ∈ session.visited dump,
        (session.encode limits use).1.encoder.Knows lost id := by
      intro dump id hid
      apply (h.visited dump id hid).imp_left
      intro hmem
      exact hcontinues.ids.subset hmem
    intro dump id hid
    cases hdump : use.dump with
    | none =>
      apply hkept dump
      simpa [encode, hdump] using hid
    | some shared =>
      by_cases heq : dump = shared
      · exact hlast.visited id (by simpa [encode, hdump, heq] using hid)
      · apply hkept dump
        simpa [encode, hdump, heq] using hid
  · intro json hjson
    exact (hresults.of_ok hjson).2

theorem mapThrough_encode_spec {uses : List Use} (hclosed : ∀ use ∈ uses, use.Closed)
    (hsource : ∀ use ∈ uses, Source use.memory) (session : Session)
    (hlost : session.lost limits uses ⊆ lost) (h : Settled limits given Source lost session) :
    Settled limits given Source lost (mapThrough (encode limits) session uses).1
      ∧ session.encoder.Extends (mapThrough (encode limits) session uses).1.encoder
      ∧ List.Forall₂
          (fun use answer => ∀ json, answer = .ok json →
            (mapThrough (encode limits) session uses).1.encoder.Stands limits lost
              (limits.maxDepth < use.depth) use.value json)
          uses (mapThrough (encode limits) session uses).2 := by
  induction uses generalizing session with
  | nil => exact ⟨h, .refl _, .nil⟩
  | cons use uses ih =>
    rw [List.forall_mem_cons] at hclosed hsource
    rcases encode_spec hclosed.1 hsource.1 hlost h with ⟨hnext, hextends, hstands⟩
    have hrest : (session.encode limits use).1.lost limits uses ⊆ lost :=
      fun id hid => hlost (.inr hid)
    rcases ih hclosed.2 hsource.2 _ hrest hnext with ⟨hlast, hmore, hall⟩
    refine ⟨hlast, hextends.trans hmore, .cons ?_ hall⟩
    intro json hjson
    exact (hstands json hjson).mono hmore

theorem lost_eq_empty {uses : List Use} (session : Session)
    (h : ∀ answer ∈ (mapThrough (encode limits) session uses).2, answer.isOk = true) :
    session.lost limits uses = ∅ := by
  induction uses generalizing session with
  | nil => rfl
  | cons use uses ih =>
    rw [mapThrough, List.forall_mem_cons] at h
    unfold Session.lost
    dsimp only
    rw [ih _ h.2, Set.union_empty, Set.eq_empty_iff_forall_notMem]
    rintro id ⟨hraised, _⟩
    have hok : (session.encode limits use).2.isOk = true := h.1
    rw [hraised] at hok
    contradiction

theorem isOk_mapThrough_encode {uses : List Use} (h : ∀ use ∈ uses, use.HasTexts) (session : Session) :
    ∀ answer ∈ (mapThrough (encode limits) session uses).2, answer.isOk = true := by
  induction uses generalizing session with
  | nil => simp [mapThrough]
  | cons use uses ih =>
    rw [List.forall_mem_cons] at h
    rw [mapThrough, List.forall_mem_cons]
    refine ⟨?_, ih h.2 _⟩
    rcases h.1 with ⟨hvalues, hkeys⟩
    rw [Use.values, List.forall_mem_cons] at hvalues
    exact Encoder.isOk_encode limits use.depth hvalues.2 hkeys _ hvalues.1

/--
However often an encoder is used, and whatever becomes of the objects meanwhile, every answer and every
entry shows references by the ids of objects that have an entry. An answer leaves a reference out only
if it stands too deep. A use that raises an error may lose ids, which are shown all the same, but none are
lost if all uses return, and all of them do if everything they come across has a text.
-/
theorem encode_settled (limits : Limits) (heap : Heap) (uses : List Use)
    (hclosed : ∀ use ∈ uses, use.Closed) :
    let start : Session := { encoder := { heap } }
    let result := mapThrough (encode limits) start uses
    let encoder := result.1.encoder
    let lost := start.lost limits uses
    List.Forall₂
        (fun use answer => ∀ json, answer = .ok json →
          encoder.Stands limits lost (limits.maxDepth < use.depth) use.value json)
        uses result.2
      ∧ (∀ entry ∈ encoder.heap.entries,
          entry ∈ heap.entries ∨ ∃ use ∈ uses, encoder.Describes limits lost use.memory entry)
      ∧ ((∀ answer ∈ result.2, answer.isOk = true) → lost = ∅)
      ∧ ((∀ use ∈ uses, use.HasTexts) → ∀ answer ∈ result.2, answer.isOk = true) := by
  intro start result encoder lost
  -- The objects that an entry shows are those of a use.
  let Source (memory : Memory) : Prop := ∃ use ∈ uses, use.memory = memory
  have hsource : ∀ use ∈ uses, Source use.memory := fun use huse => ⟨use, huse, rfl⟩
  rcases mapThrough_encode_spec hclosed hsource start (Set.Subset.refl lost)
    (.start limits heap Source lost) with ⟨hlast, _, hall⟩
  refine ⟨hall, ?_, lost_eq_empty start, fun htexts => isOk_mapThrough_encode htexts start⟩
  intro entry hentry
  apply (hlast.entries entry hentry).imp_right
  rintro ⟨memory, ⟨use, huse, rfl⟩, hdescribes⟩
  exact ⟨use, huse, hdescribes⟩

theorem encode_settled_cycle :
    let looped : Memory :=
      [("a", { typeName := "list", body := .elements [.ref "b", .int 1] }),
       ("b", { typeName := "dict", body := .entries [(.text "a", .ref "a"), (.none, .ref "c")] }),
       ("c", { typeName := "Node", body := .fields [("next", .ref "a"), ("__tag", .ref "b")] })]
    let changed := looped.change "a" (.setItem (.int 0) (.ref "c"))
    let uses : List Use :=
      [{ memory := looped, value := .ref "a", dump := some 0 },
       { memory := changed, value := .ref "c", depth := 1, dump := some 0 },
       { memory := changed, value := .ref "b", depth := 2 }]
    let limits : Limits := { maxDepth := 1 }
    let start : Session := { encoder := { heap := {} } }
    let result := mapThrough (encode limits) start uses
    let encoder := result.1.encoder
    let lost := start.lost limits uses
    (∀ use ∈ uses, use.Closed) ∧ (∀ use ∈ uses, use.HasTexts)
      ∧ result.2.map Except.toOption = [some (.str "obj0"), some (.str "obj2"), some (.str "...")]
      ∧ encoder.heap.ids = ["obj1", "obj0", "obj2"]
      ∧ lost = ∅
      ∧ List.Forall₂
          (fun use answer => ∀ json, answer = .ok json →
            encoder.Stands limits lost (limits.maxDepth < use.depth) use.value json)
          uses result.2
      ∧ ∀ entry ∈ encoder.heap.entries,
          entry ∈ [] ∨ ∃ use ∈ uses, encoder.Describes limits lost use.memory entry := by
  intro looped changed uses limits start result encoder lost
  have hclosed : ∀ use ∈ uses, use.Closed := by decide
  have htexts : ∀ use ∈ uses, use.HasTexts := by decide
  have hsettled := encode_settled limits {} uses hclosed
  refine ⟨hclosed, htexts, by decide +kernel, by decide +kernel, ?_, ?_, ?_⟩
  -- The uses need not be run to compare the two sides.
  · with_reducible exact hsettled.2.2.1 (hsettled.2.2.2 htexts)
  · with_reducible exact hsettled.1
  · with_reducible exact hsettled.2.1

/-
A key with too many digits has no text, so the dictionary gets no entry. Its id has been handed out by
then, and the next use in the same dump shows it.
-/
example :
    let memory : Memory :=
      [("d", { typeName := "dict", body := .entries [(.int (10 ^ 4300), .int 1)] }),
       ("a", { typeName := "list", body := .elements [.ref "d"] })]
    let uses : List Use :=
      [{ memory, value := .ref "d", dump := some 0 }, { memory, value := .ref "a", dump := some 0 }]
    let result := mapThrough (encode {}) {} uses
    result.2.map Except.toOption = [none, some (.str "obj1")]
      ∧ result.1.encoder.heap.entries = [{ id := "obj1", type := "list", value := .arr [.str "obj0"] }] := by
  decide +kernel

end Session

end Playback
