import Playback.Proofs.Object.Texts

/-!
This module contains what a change of an object leaves alone: no object comes or goes, and all values and
keys are from before if the change does not bring them in.
-/

namespace Playback

theorem map_setEntry_subset {κ : Type} (isKey : κ → Bool) (key : κ) (value : Value)
    (pairs : List (κ × Value)) :
    (setEntry isKey key value pairs).map Prod.snd ⊆ value :: pairs.map Prod.snd := by
  induction pairs with
  | nil => exact List.Subset.refl _
  | cons head pairs ih =>
    unfold setEntry
    split
    · exact List.cons_subset_cons _ (List.subset_cons_self _ _)
    · rw [List.map_cons, List.map_cons, List.cons_subset]
      refine ⟨by simp, ?_⟩
      exact List.Subset.trans ih (List.cons_subset_cons _ (List.subset_cons_self _ _))

theorem map_fst_setEntry_subset {κ : Type} (isKey : κ → Bool) (key : κ) (value : Value)
    (pairs : List (κ × Value)) :
    (setEntry isKey key value pairs).map Prod.fst ⊆ key :: pairs.map Prod.fst := by
  induction pairs with
  | nil => exact List.Subset.refl _
  | cons head pairs ih =>
    unfold setEntry
    split
    · exact List.subset_cons_self _ _
    · rw [List.map_cons, List.map_cons, List.cons_subset]
      refine ⟨by simp, ?_⟩
      exact List.Subset.trans ih (List.cons_subset_cons _ (List.subset_cons_self _ _))

namespace Change

def values : Change → List Value
  | .append v => [v]
  | .setItem _ v => [v]
  | .setField _ v => [v]
  | _ => []

def keys : Change → List Key
  | .setItem key _ => [key]
  | _ => []

theorem keys_apply_subset (change : Change) (body : Body) :
    (change.apply body).keys ⊆ change.keys ++ body.keys := by
  unfold apply
  split
  · exact List.nil_subset _
  · exact List.nil_subset _
  · split
    · exact List.nil_subset _
    · exact List.nil_subset _
  · split
    · exact List.nil_subset _
    · exact List.nil_subset _
  · apply map_fst_setEntry_subset
  · exact List.map_subset Prod.fst (List.filter_subset_self _)
  · exact List.nil_subset _
  · exact List.nil_subset _
  · exact List.subset_append_right _ _

theorem values_apply_subset (change : Change) (body : Body) :
    (change.apply body).values ⊆ change.values ++ body.values := by
  have hkept : body.values ⊆ change.values ++ body.values := List.subset_append_right _ _
  unfold apply
  split
  · exact (List.perm_append_comm).subset
  · exact List.Subset.trans (List.dropLast_subset _) hkept
  · split
    · intro v hv
      exact List.mem_cons.mpr (List.mem_or_eq_of_mem_set hv).symm
    · exact hkept
  · split
    · exact List.Subset.trans List.eraseIdx_subset hkept
    · exact hkept
  · apply map_setEntry_subset
  · exact List.Subset.trans (List.map_subset Prod.snd (List.filter_subset_self _)) hkept
  · apply map_setEntry_subset
  · exact List.Subset.trans (List.map_subset Prod.snd (List.filter_subset_self _)) hkept
  · exact hkept

end Change

namespace Memory

/-
What the objects hold of some kind is from before, or new with the change.
-/
theorem flatMap_change_subset {β : Type} {part : Body → List β} {new : List β} {change : Change}
    (h : ∀ body, part (change.apply body) ⊆ new ++ part body) (memory : Memory) (handle : Handle) :
    (memory.change handle change).flatMap (fun entry => part entry.2.body)
      ⊆ new ++ memory.flatMap fun entry => part entry.2.body := by
  intro b hb
  unfold Memory.change at hb
  rw [List.mem_flatMap] at hb
  rcases hb with ⟨entry, hentry, hb⟩
  rw [List.mem_map] at hentry
  rcases hentry with ⟨old, hold, rfl⟩
  have hpart : part old.2.body ⊆ memory.flatMap fun entry => part entry.2.body := by
    intro b hb
    rw [List.mem_flatMap]
    exact ⟨old, hold, hb⟩
  dsimp only at hb
  split at hb
  · have hnew := h old.2.body hb
    rw [List.mem_append] at hnew ⊢
    exact hnew.imp_right fun hkept => hpart hkept
  · exact List.mem_append_right _ (hpart hb)

theorem values_change_subset (memory : Memory) (handle : Handle) (change : Change) :
    (memory.change handle change).values ⊆ change.values ++ memory.values :=
  flatMap_change_subset change.values_apply_subset memory handle

theorem keys_change_subset (memory : Memory) (handle : Handle) (change : Change) :
    (memory.change handle change).keys ⊆ change.keys ++ memory.keys :=
  flatMap_change_subset change.keys_apply_subset memory handle

theorem isSome_lookup_change (memory : Memory) (handle : Handle) (change : Change) (object : Handle) :
    ((memory.change handle change).lookup object).isSome = (memory.lookup object).isSome := by
  unfold Memory.change
  induction memory with
  | nil => rfl
  | cons entry memory ih =>
    rcases entry with ⟨h, found⟩
    rw [List.map_cons]
    dsimp only
    by_cases heq : object = h
    · split <;> simp [heq]
    · have : (object == h) = false := by simpa using heq
      split <;> simp only [List.lookup_cons, this, ih]

theorem isIn_change (memory : Memory) (handle : Handle) (change : Change) (v : Value) :
    v.isIn (memory.change handle change) = v.isIn memory := by
  cases v with
  | ref object => apply isSome_lookup_change
  | _ => rfl

end Memory

end Playback
