import Mathlib.Data.List.Basic
import Mathlib.Data.List.Nodup
import Mathlib.Data.List.Perm.Subperm
import Playback.Trace.Heap

/-!
This module contains the view of entries under keys that fields and heaps share: every key has its
latest entry, at the place where the key came up first.
-/

namespace Playback

variable {α κ : Type} [DecidableEq κ]

/--
Replace the entry of the same key in place, or add the entry at the end.
-/
def upsert (key : α → κ) (a : α) : List α → List α
  | [] => [a]
  | b :: bs => if key b = key a then a :: bs else b :: upsert key a bs

/--
Every key once, in the order in which the keys come up first, with its last entry.
-/
def latest (key : α → κ) (as : List α) : List α :=
  (as.map key).eraseDups.filterMap fun k => as.reverse.find? (key · = k)

theorem Fields.set_eq_upsert (fields : Fields) (name : String) (value : Json) :
    fields.set name value = upsert Prod.fst (name, value) fields := by
  induction fields with
  | nil => rfl
  | cons field fields ih =>
    rcases field with ⟨n, v⟩
    unfold Fields.set upsert
    by_cases h : n = name
    · simp [h]
    · simp [h, ih]

theorem Heap.putEntry_eq_upsert (entry : HeapEntry) (entries : List HeapEntry) :
    Heap.putEntry entry entries = upsert HeapEntry.id entry entries := by
  induction entries with
  | nil => rfl
  | cons e entries ih =>
    unfold Heap.putEntry upsert
    simp only [beq_iff_eq, ih]

theorem map_key_upsert (key : α → κ) (a : α) (bs : List α) :
    (upsert key a bs).map key
      =
    if key a ∈ bs.map key then bs.map key else bs.map key ++ [key a] := by
  induction bs with
  | nil => simp [upsert]
  | cons b bs ih =>
    unfold upsert
    by_cases h : key b = key a
    · simp [h]
    · have : ¬ key a = key b := by
        intro heq
        exact h heq.symm
      simp only [h, ↓reduceIte, List.map_cons, ih, List.mem_cons, this, false_or]
      split <;> simp

theorem map_key_prefix_upsert (key : α → κ) (a : α) (bs : List α) :
    bs.map key <+: (upsert key a bs).map key := by
  rw [map_key_upsert]
  split
  · apply List.prefix_rfl
  · apply List.prefix_append

theorem mem_of_mem_upsert (key : α → κ) (a : α) (bs : List α) {b : α} (h : b ∈ upsert key a bs) :
    b = a ∨ b ∈ bs := by
  induction bs with
  | nil =>
    unfold upsert at h
    rw [List.mem_singleton] at h
    exact .inl h
  | cons c cs ih =>
    unfold upsert at h
    split at h
    · rw [List.mem_cons] at h
      exact h.imp_right (List.mem_cons_of_mem c)
    · rw [List.mem_cons] at h
      rcases h with heq | hmem
      · rw [heq]
        exact .inr List.mem_cons_self
      · exact (ih hmem).imp_right (List.mem_cons_of_mem c)

theorem nodup_upsert (key : α → κ) (a : α) (bs : List α) (h : (bs.map key).Nodup) :
    ((upsert key a bs).map key).Nodup := by
  rw [map_key_upsert]
  split
  · exact h
  · next hmem =>
    rw [List.nodup_append]
    refine ⟨h, by simp, ?_⟩
    intro k hk k' hk'
    rw [List.mem_singleton] at hk'
    rw [hk']
    intro heq
    apply hmem
    rw [← heq]
    exact hk

theorem map_key_prefix_foldl_upsert (key : α → κ) (as bs : List α) :
    bs.map key <+: (as.foldl (fun bs a => upsert key a bs) bs).map key := by
  induction as generalizing bs with
  | nil => apply List.prefix_rfl
  | cons a as ih =>
    apply List.IsPrefix.trans
    · apply map_key_prefix_upsert (a := a)
    · apply ih

theorem nodup_foldl_upsert (key : α → κ) (as bs : List α) (h : (bs.map key).Nodup) :
    ((as.foldl (fun bs a => upsert key a bs) bs).map key).Nodup := by
  induction as generalizing bs with
  | nil => exact h
  | cons a as ih =>
    apply ih
    apply nodup_upsert
    exact h

/-
A row of keys that each have an entry is kept in the form that `upsert` keeps.
-/
theorem upsert_filterMap (key : α → κ) (a : α) (entry : κ → Option α) (ks : List κ)
    (hnodup : ks.Nodup) (hkey : ∀ k ∈ ks, ∃ b, entry k = some b ∧ key b = k) :
    upsert key a (ks.filterMap entry)
      =
    if key a ∈ ks then
      ks.filterMap fun k => if key a = k then some a else entry k
    else
      ks.filterMap entry ++ [a] := by
  induction ks with
  | nil => simp [upsert]
  | cons k ks ih =>
    rw [List.nodup_cons] at hnodup
    rcases hnodup with ⟨hk, hnodup⟩
    rcases hkey k (by simp) with ⟨b, hb, rfl⟩
    specialize ih hnodup (fun k hk => hkey k (by simp [hk]))
    rw [List.filterMap_cons_some hb]
    unfold upsert
    by_cases h : key b = key a
    · rw [h] at hk
      -- The keys are distinct, so the new entry is found under the first one only.
      have : ∀ k ∈ ks, (if key a = k then some a else entry k) = entry k := by
        intro k hmem
        rw [if_neg]
        intro heq
        exact hk (heq ▸ hmem)
      simp [h, List.filterMap_congr this]
    · have : ¬ key a = key b := by
        intro heq
        exact h heq.symm
      simp only [h, ↓reduceIte, ih, List.mem_cons, this, false_or, List.filterMap_cons, hb]
      split <;> simp

theorem find?_reverse_map_key (key : α → κ) (as : List α) (k : κ) (h : k ∈ as.map key) :
    ∃ b, as.reverse.find? (key · = k) = some b ∧ key b = k := by
  cases hfind : as.reverse.find? (key · = k) with
  | none =>
    rw [List.find?_eq_none] at hfind
    rw [List.mem_map] at h
    rcases h with ⟨a, ha, hak⟩
    specialize hfind a (by simp [ha])
    simp [hak] at hfind
  | some b =>
    have := List.find?_some hfind
    simpa using this

theorem nodup_eraseDups (ks : List κ) : ks.eraseDups.Nodup := by
  induction h : ks.length using Nat.strongRecOn generalizing ks with
  | ind n ih =>
    cases ks with
    | nil => simp
    | cons k ks =>
      rw [List.eraseDups_cons, List.nodup_cons]
      constructor
      · simp [List.mem_eraseDups]
      · apply ih _ _ _ rfl
        have := List.length_filter_le (fun b => !b == k) ks
        simp only [List.length_cons] at h
        omega

theorem eraseDups_append_of_mem {k : κ} {ks : List κ} (h : k ∈ ks) :
    (ks ++ [k]).eraseDups = ks.eraseDups := by
  rw [List.eraseDups_append, List.cons_removeAll]
  simp [h]

theorem eraseDups_append_of_not_mem {k : κ} {ks : List κ} (h : k ∉ ks) :
    (ks ++ [k]).eraseDups = ks.eraseDups ++ [k] := by
  rw [List.eraseDups_append, List.cons_removeAll]
  simp [h, List.eraseDups_cons]

theorem latest_append_singleton (key : α → κ) (as : List α) (a : α) :
    latest key (as ++ [a]) = upsert key a (latest key as) := by
  unfold latest
  rw [upsert_filterMap]
  · have hfind : ∀ k, (as ++ [a]).reverse.find? (key · = k)
        = if key a = k then some a else as.reverse.find? (key · = k) := by
      intro k
      by_cases h : key a = k <;> simp [h]
    simp only [hfind, List.map_append, List.map_cons, List.map_nil, List.mem_eraseDups]
    split
    · next hmem => rw [eraseDups_append_of_mem hmem]
    · next hmem =>
      -- A key that is new has no influence on the others.
      have : ∀ k ∈ (as.map key).eraseDups,
          (if key a = k then some a else as.reverse.find? (key · = k))
            =
          as.reverse.find? (key · = k) := by
        intro k hk
        rw [if_neg]
        intro heq
        rw [List.mem_eraseDups] at hk
        exact hmem (heq ▸ hk)
      rw [eraseDups_append_of_not_mem hmem, List.filterMap_append, List.filterMap_congr this]
      simp
  · apply nodup_eraseDups
  · intro k hk
    apply find?_reverse_map_key
    rw [← List.mem_eraseDups]
    exact hk

theorem foldl_upsert_latest (key : α → κ) (as bs : List α) :
    bs.foldl (fun as b => upsert key b as) (latest key as) = latest key (as ++ bs) := by
  induction bs generalizing as with
  | nil => simp
  | cons b bs ih =>
    rw [List.foldl_cons, ← latest_append_singleton, ih]
    simp

theorem latest_eq_foldl (key : α → κ) (as : List α) :
    latest key as = as.foldl (fun bs a => upsert key a bs) [] := by
  have h := foldl_upsert_latest key [] as
  rw [List.nil_append] at h
  rw [← h]
  rfl

theorem latest_subset (key : α → κ) (as : List α) : latest key as ⊆ as := by
  intro a ha
  rw [latest, List.mem_filterMap] at ha
  rcases ha with ⟨k, _, hfind⟩
  exact List.mem_reverse.mp (List.mem_of_find?_eq_some hfind)

theorem length_latest_le (key : α → κ) (as : List α) : (latest key as).length ≤ as.length := by
  have hnodup : ((latest key as).map key).Nodup := by
    rw [latest_eq_foldl]
    apply nodup_foldl_upsert
    exact List.nodup_nil
  exact (hnodup.of_map.subperm (latest_subset key as)).length_le

theorem Fields.ofList_eq_latest (pairs : Fields) : Fields.ofList pairs = latest Prod.fst pairs := by
  unfold Fields.ofList
  rw [latest_eq_foldl]
  simp only [Fields.set_eq_upsert]

theorem upsert_append_of_not_mem (key : α → κ) (a : α) (bs cs : List α) (h : key a ∉ bs.map key) :
    upsert key a (bs ++ cs) = bs ++ upsert key a cs := by
  induction bs with
  | nil => rfl
  | cons b bs ih =>
    rw [List.map_cons, List.mem_cons, not_or] at h
    have : ¬ key b = key a := by
      intro heq
      exact h.1 heq.symm
    rw [List.cons_append, upsert, if_neg this, ih h.2, List.cons_append]

/-
Entries whose keys go on from those of others take their places, one by one.
-/
theorem foldl_upsert_of_prefix (key : α → κ) (as bs cs : List α)
    (hkeys : cs.map key <+: as.map key) (hnodup : ((bs ++ as).map key).Nodup) :
    as.foldl (fun bs a => upsert key a bs) (bs ++ cs) = bs ++ as := by
  -- The induction is on the new entries. Those before are in their places already, in `bs`.
  induction as generalizing bs cs with
  | nil =>
    rw [List.map_nil, List.prefix_nil, List.map_eq_nil_iff] at hkeys
    rw [hkeys]
    rfl
  | cons a as ih =>
    have hsplit : bs ++ a :: as = (bs ++ [a]) ++ as := by simp
    have hnew : key a ∉ bs.map key := by
      rw [List.map_append, List.nodup_append] at hnodup
      intro hmem
      exact hnodup.2.2 _ hmem _ (by simp) rfl
    rw [hsplit] at hnodup
    rw [List.foldl_cons, upsert_append_of_not_mem key a bs cs hnew, hsplit]
    cases cs with
    | nil =>
      have := ih (bs ++ [a]) [] (List.nil_prefix) hnodup
      simpa [upsert] using this
    | cons c cs =>
      rw [List.map_cons, List.map_cons, List.cons_prefix_cons] at hkeys
      have := ih (bs ++ [a]) cs hkeys.2 hnodup
      simpa [upsert, hkeys.1] using this

end Playback
