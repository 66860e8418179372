import Playback.Proofs.Object.Session
import Playback.Proofs.Trace.Written

/-!
This module contains which answers and entries of an encoder come back when they are written and read
again: those without whole numbers of too many digits, if no object holds a floating point number.
-/

namespace Playback

namespace Value

def isFloat : Value → Bool
  | .float _ => true
  | _ => false

def isWritable : Value → Bool
  | .int n => (Json.int n).isWritable
  | _ => true

theorem plain_scalar {v : Value} {limits : Limits} {json : Json} (h : v.isFloat = false)
    (hshown : Encoder.scalar limits v = .ok json) : json.Plain := by
  cases v with
  | bool b =>
    cases hshown
    exact .bool b
  | int n =>
    cases hshown
    exact .int n
  | float x => contradiction
  | unshown raised isUserObject => contradiction
  | _ =>
    cases hshown
    exact .str _

theorem isWritable_scalar {v : Value} {limits : Limits} {json : Json} (h : v.isWritable = true)
    (hshown : Encoder.scalar limits v = .ok json) : json.isWritable = true := by
  cases v with
  | int n =>
    cases hshown
    exact h
  | float x =>
    rw [Encoder.scalar, Except.ok.injEq] at hshown
    rw [← hshown]
    split
    · rfl
    · rfl
  | unshown raised isUserObject => contradiction
  | _ =>
    cases hshown
    rfl

end Value

theorem map_fst_of_forall₂_named {stands : Value → Json → Prop} {values : List (String × Value)}
    {fields : Fields} (h : List.Forall₂ (Named stands) values fields) :
    fields.map Prod.fst = values.map Prod.fst := by
  induction h with
  | nil => rfl
  | cons hhead _ ih => rw [List.map_cons, List.map_cons, ih, hhead.1]

theorem map_namedEntries_subset (pairs : List (Key × Value)) :
    (namedEntries pairs).map Prod.snd ⊆ pairs.map Prod.snd := by
  intro v hv
  unfold namedEntries at hv
  rw [List.map_filterMap, List.mem_filterMap] at hv
  rcases hv with ⟨pair, hpair, hname⟩
  rw [Option.map_map, Option.map_eq_some_iff] at hname
  rcases hname with ⟨_, _, rfl⟩
  exact List.mem_map_of_mem hpair

section Admitted

variable {P : Json → Prop} (hP : Json.Admits P)
include hP

/-
Every name is shown once, so what is shown of several values under one name may be an object.
-/
theorem admitted_of_latest {stands : Value → Json → Prop} {values : List (String × Value)}
    {fields : Fields} (h : List.Forall₂ (Named stands) (latest Prod.fst values) fields)
    (hstands : ∀ v ∈ values.map Prod.snd, ∀ json, stands v json → P json) : P (.obj fields) := by
  apply hP.obj
  · rw [map_fst_of_forall₂_named h, latest_eq_foldl]
    apply nodup_foldl_upsert
    exact List.nodup_nil
  · apply forall₂_right (P := fun field => P field.2) h
    intro named hnamed field hfield
    exact hstands _ (List.mem_map_of_mem (latest_subset _ _ hnamed)) _ hfield.2

theorem Displays.admitted {limits : Limits} {stands : Value → Json → Prop} {body : Body} {json : Json}
    (h : Displays limits stands body json)
    (hstands : ∀ v ∈ body.values, ∀ json, stands v json → P json) : P json := by
  cases h with
  | @elements items shown h =>
    apply hP.arr
    apply forall₂_right (P := P) h
    intro v hv
    exact hstands v (Text.takeUpTo_subset _ _ hv)
  | @entries pairs fields _ h =>
    apply admitted_of_latest hP h
    intro v hv
    exact hstands v (List.map_subset Prod.snd (Text.takeUpTo_subset _ _) (map_namedEntries_subset _ hv))
  | @fields pairs fields h =>
    apply admitted_of_latest hP h
    intro v hv
    have hsubset := List.Subset.trans (Text.takeUpTo_subset limits.maxItems _)
      (List.filter_subset_self (p := fun pair => !"__".isPrefixOf pair.1) (l := pairs))
    exact hstands v (List.map_subset Prod.snd hsubset hv)

namespace Encoder

variable {limits : Limits} {pending : Set String} {omits : Prop} {s : Encoder}

theorem Stands.admitted {v : Value} {json : Json} (h : s.Stands limits pending omits v json)
    (hv : ∀ json, Encoder.scalar limits v = .ok json → P json) : P json := by
  cases h with
  | omitted h => exact hP.str _
  | reference hnamed hknown => exact hP.str _
  | scalar h hshown => exact hv json hshown

theorem Describes.admitted {memory : Memory} {entry : HeapEntry}
    (h : s.Describes limits pending memory entry)
    (hvalues : ∀ v ∈ memory.values, ∀ json, scalar limits v = .ok json → P json) :
    P entry.toJson := by
  rcases h with ⟨n, handle, object, _, _, hlookup, _, hdisplays⟩
  have hvalue : P entry.value := by
    apply hdisplays.admitted hP
    intro v hv json hstands
    exact hstands.admitted hP (hvalues v (Memory.values_of_lookup hlookup hv))
  exact entry.admitted_toJson hP hvalue

end Encoder

namespace Session

theorem admitted_of_encode {limits : Limits} {uses : List Use} (hclosed : ∀ use ∈ uses, use.Closed)
    (hvalues : ∀ use ∈ uses, ∀ v ∈ use.values, ∀ json, Encoder.scalar limits v = .ok json → P json) :
    let result := mapThrough (encode limits) {} uses
    let answers := result.2.filterMap Except.toOption
    ∀ json ∈ answers ++ result.1.encoder.heap.entries.map HeapEntry.toJson, P json := by
  intro result answers
  let Source (memory : Memory) : Prop :=
    ∀ v ∈ memory.values, ∀ json, Encoder.scalar limits v = .ok json → P json
  have hsource : ∀ use ∈ uses, Source use.memory := by
    intro use huse v hv
    exact hvalues use huse v (List.mem_cons_of_mem _ hv)
  rcases mapThrough_encode_spec hclosed hsource {} (Set.Subset.refl _) (.start limits {} Source _)
    with ⟨hlast, _, hall⟩
  rw [List.forall_mem_append, List.forall_mem_map]
  constructor
  · have hanswers : ∀ answer ∈ result.2, ∀ json, answer = .ok json → P json := by
      apply forall₂_right (P := fun answer => ∀ json, answer = .ok json → P json) hall
      intro use huse answer hstands json hjson
      exact (hstands json hjson).admitted hP (hvalues use huse _ List.mem_cons_self)
    intro json hjson
    rw [List.mem_filterMap] at hjson
    rcases hjson with ⟨answer, hanswer, hok⟩
    exact hanswers answer hanswer json (eq_ok_of_toOption hok)
  · intro entry hentry
    rcases (hlast.entries entry hentry).resolve_left List.not_mem_nil with ⟨memory, hmemory, hdescribes⟩
    exact hdescribes.admitted hP hmemory

end Session

end Admitted

end Playback
