import Mathlib.Data.List.Dedup
import Playback.InputStore
import Playback.Proofs.Number.Rounding

/-!
This module contains what the store of inputs answers after any sequence of calls: what the history of the
calls says, although expired entries are only dropped when somebody asks for them.
-/

namespace Playback

/--
A call of the store, with the time it is made at.
-/
inductive StoreCall where
  | put (time : Rat) (requester stdin : String)
  | get (time : Rat) (requester : String)
  | clear
deriving DecidableEq

namespace StoreCall

def time? : StoreCall → Option Rat
  | .put time _ _ => some time
  | .get time _ => some time
  | .clear => none

def writer? : StoreCall → Option String
  | .put _ requester _ => some requester
  | .get _ _ => none
  | .clear => none

/--
The requesters whose input some calls put, once for each put.
-/
def writers (calls : List StoreCall) : List String :=
  calls.filterMap writer?

@[simp]
theorem writers_nil : writers [] = [] := rfl

@[simp]
theorem writers_put (time : Rat) (requester stdin : String) (calls : List StoreCall) :
    writers (.put time requester stdin :: calls) = requester :: writers calls := rfl

@[simp]
theorem writers_get (time : Rat) (requester : String) (calls : List StoreCall) :
    writers (.get time requester :: calls) = writers calls := rfl

@[simp]
theorem writers_clear (calls : List StoreCall) : writers (.clear :: calls) = writers calls := rfl

/--
Whether no call is made earlier than the one before it, and none later than a time.
-/
def Until (now : Rat) (calls : List StoreCall) : Prop :=
  (calls.filterMap time? ++ [now]).Pairwise (· ≤ ·)

theorem Until.sublist {now : Rat} {calls others : List StoreCall} (h : Until now calls)
    (hsublist : others.Sublist calls) : Until now others :=
  List.Pairwise.sublist ((hsublist.filterMap _).append (List.Sublist.refl _)) h

end StoreCall

namespace InputStore

def perform (store : InputStore) : StoreCall → InputStore
  | .put time requester stdin => store.put time requester stdin
  | .get time requester => (store.get time requester).2
  | .clear => store.clear

def after (maxAge : Number) (maxEntries : Nat) (calls : List StoreCall) : InputStore :=
  calls.foldl perform { maxAge, maxEntries }

/--
The last entry of each requester since the store was cleared, in the order of the calls.
-/
def remember (entries : List StoredInput) : StoreCall → List StoredInput
  | .put time requester stdin =>
    entries.filter (·.requester != requester) ++ [{ requester, time, stdin }]
  | .get _ _ => entries
  | .clear => []

section Recalled

theorem filter_cases {entries : List StoredInput} (h : (entries.map (·.requester)).Nodup)
    (requester : String) :
    (requester ∉ entries.map (·.requester) ∧ entries.filter (·.requester != requester) = entries)
      ∨ ∃ front entry back, entries = front ++ entry :: back ∧ entry.requester = requester
          ∧ entries.filter (·.requester != requester) = front ++ back := by
  induction entries with
  | nil =>
    left
    simp
  | cons entry entries ih =>
    rw [List.map_cons, List.nodup_cons] at h
    rw [List.filter_cons]
    by_cases heq : entry.requester = requester
    · right
      refine ⟨[], entry, entries, rfl, heq, ?_⟩
      have hothers : ∀ other ∈ entries, (other.requester != requester) = true := by
        intro other hother
        rw [bne_iff_ne]
        rintro rfl
        exact h.1 (heq ▸ List.mem_map_of_mem hother)
      simp [heq, List.filter_eq_self.mpr hothers]
    · have hbne : (entry.requester != requester) = true := bne_iff_ne.mpr heq
      rw [if_pos hbne]
      rcases ih h.2 with ⟨hnone, hfilter⟩ | ⟨front, found, back, rfl, hfound, hfilter⟩
      · left
        rw [hfilter, List.map_cons, List.mem_cons]
        exact ⟨fun hmem => hmem.elim (fun h => heq h.symm) hnone, rfl⟩
      · right
        exact ⟨entry :: front, found, back, rfl, hfound, by rw [hfilter, List.cons_append]⟩

/--
Whether entries stand in the order they were put in, none later than a time and none twice.
-/
structure Dated (now : Rat) (entries : List StoredInput) : Prop where
  ordered : entries.Pairwise (·.time ≤ ·.time)
  past : ∀ entry ∈ entries, entry.time ≤ now
  distinct : (entries.map (·.requester)).Nodup

theorem Dated.imp {now later : Rat} {entries : List StoredInput} (h : Dated now entries)
    (hle : now ≤ later) : Dated later entries :=
  ⟨h.ordered, fun entry hentry => (h.past entry hentry).trans hle, h.distinct⟩

theorem Dated.remember {now : Rat} {entries : List StoredInput} (h : Dated now entries) {call : StoreCall}
    (hcall : ∀ time, call.time? = some time → time = now) : Dated now (remember entries call) := by
  cases call with
  | put time requester stdin =>
    obtain rfl := hcall time rfl
    unfold InputStore.remember
    have hsublist := List.filter_sublist (p := (·.requester != requester)) (l := entries)
    constructor
    · rw [List.pairwise_append]
      refine ⟨h.ordered.sublist hsublist, List.pairwise_singleton .., ?_⟩
      intro entry hentry last hlast
      rw [List.mem_singleton.mp hlast]
      exact h.past entry (hsublist.subset hentry)
    · rw [List.forall_mem_append]
      refine ⟨fun entry hentry => h.past entry (hsublist.subset hentry), ?_⟩
      simp
    · rw [List.map_append, List.nodup_append]
      refine ⟨h.distinct.sublist (hsublist.map _), by simp, ?_⟩
      rintro name hname other hother rfl
      rw [List.mem_map] at hname
      rcases hname with ⟨entry, hentry, rfl⟩
      have hne := (List.mem_filter.mp hentry).2
      rw [List.map_singleton, List.mem_singleton] at hother
      simp [hother] at hne
  | get time requester => exact h
  | clear => exact ⟨.nil, by simp [InputStore.remember], by simp [InputStore.remember]⟩

end Recalled

section History

theorem requester_mem_remember_put (time : Rat) (other stdin : String) (entries : List StoredInput)
    (requester : String) :
    requester ∈ (remember entries (.put time other stdin)).map (·.requester)
      ↔
    requester ∈ entries.map (·.requester) ∨ requester = other := by
  rw [remember, List.map_append, List.mem_append, List.map_singleton, List.mem_singleton]
  by_cases heq : requester = other
  · simp [heq]
  · simp only [heq, or_false, List.mem_map, List.mem_filter, bne_iff_ne]
    constructor
    · rintro ⟨entry, ⟨hentry, -⟩, rfl⟩
      exact ⟨entry, hentry, rfl⟩
    · rintro ⟨entry, hentry, rfl⟩
      exact ⟨entry, ⟨hentry, heq⟩, rfl⟩

theorem requester_mem_foldl_remember {requester : String} (calls : List StoreCall)
    (entries : List StoredInput)
    (h : requester ∈ (calls.foldl remember entries).map (·.requester)) :
    requester ∈ entries.map (·.requester) ∨ requester ∈ StoreCall.writers calls := by
  induction calls generalizing entries with
  | nil => exact .inl h
  | cons call calls ih =>
    have hremembered := ih _ h
    cases call with
    | put time other stdin =>
      rw [requester_mem_remember_put] at hremembered
      rw [StoreCall.writers_put, List.mem_cons, ← or_assoc]
      exact hremembered
    | get time other => exact hremembered
    | clear =>
      rcases hremembered with hnone | hcalls
      · contradiction
      · exact .inr hcalls

theorem requester_not_mem_of_clear {requester : String} {behind : List StoreCall}
    (hclear : .clear ∈ behind) (hagain : requester ∉ StoreCall.writers behind)
    (entries : List StoredInput) :
    requester ∉ (behind.foldl remember entries).map (·.requester) := by
  rcases List.append_of_mem hclear with ⟨first, last, rfl⟩
  intro hmem
  rw [List.foldl_append, List.foldl_cons] at hmem
  rcases requester_mem_foldl_remember last _ hmem with hnone | hlast
  · contradiction
  · refine hagain ?_
    rw [StoreCall.writers, List.filterMap_append, List.mem_append]
    exact .inr hlast

/-
An entry that is not put again moves to the front while others are put behind it.
-/
theorem foldl_remember_eq {entry : StoredInput} {behind : List StoreCall} (hclear : .clear ∉ behind)
    (hagain : entry.requester ∉ StoreCall.writers behind) (front back : List StoredInput) :
    ∃ front' back', behind.foldl remember (front ++ entry :: back) = front' ++ entry :: back'
      ∧ ∀ requester, requester ∈ back'.map (·.requester)
          ↔ requester ∈ back.map (·.requester) ∨ requester ∈ StoreCall.writers behind := by
  induction behind generalizing front back with
  | nil =>
    refine ⟨front, back, rfl, fun requester => ?_⟩
    simp
  | cons call behind ih =>
    rw [List.mem_cons, not_or] at hclear
    cases call with
    | put time other stdin =>
      rw [StoreCall.writers_put, List.mem_cons, not_or] at hagain
      have hstays : (entry.requester != other) = true := bne_iff_ne.mpr hagain.1
      have hremember : remember (front ++ entry :: back) (.put time other stdin)
          = front.filter (·.requester != other) ++ entry :: remember back (.put time other stdin) := by
        simp [remember, hstays]
      rcases ih hclear.2 hagain.2 (front.filter (·.requester != other))
          (remember back (.put time other stdin)) with ⟨front', back', hfold, hback⟩
      refine ⟨front', back', ?_, fun requester => ?_⟩
      · rw [List.foldl_cons, hremember, hfold]
      · rw [hback, requester_mem_remember_put, StoreCall.writers_put, List.mem_cons, or_assoc]
    | get time other => exact ih hclear.2 hagain front back
    | clear => exact absurd rfl hclear.1

end History

section Store

theorem find?_spec {store : InputStore} {requester : String} {entry : StoredInput}
    (h : store.find? requester = some entry) : entry ∈ store.entries ∧ entry.requester = requester := by
  unfold find? at h
  have hrequester := List.find?_some h
  exact ⟨List.mem_of_find?_eq_some h, eq_of_beq hrequester⟩

@[simp]
theorem maxAge_perform (store : InputStore) (call : StoreCall) :
    (store.perform call).maxAge = store.maxAge := by
  cases call with
  | put time requester stdin => rfl
  | get time requester =>
    rw [perform, get]
    split
    · rfl
    · split
      · rfl
      · rfl
  | clear => rfl

@[simp]
theorem maxEntries_perform (store : InputStore) (call : StoreCall) :
    (store.perform call).maxEntries = store.maxEntries := by
  cases call with
  | put time requester stdin => rfl
  | get time requester =>
    rw [perform, get]
    split
    · rfl
    · split
      · rfl
      · rfl
  | clear => rfl

theorem size_perform_le (store : InputStore) (call : StoreCall)
    (h : store.size ≤ store.maxEntries.toNat) : (store.perform call).size ≤ store.maxEntries.toNat := by
  cases call with
  | put time requester stdin =>
    rw [perform, put, size, List.length_drop]
    omega
  | get time requester =>
    rw [perform, get]
    split
    · exact h
    · split
      · exact (List.length_filter_le _ _).trans h
      · exact h
  | clear => exact Nat.zero_le _

/-
An entry grows older with time, and among two entries the one that was put earlier is older.
-/
theorem isExpired_mono {store : InputStore} {now later : Rat} {entry other : StoredInput}
    (hpast : entry.time ≤ now) (hlater : now ≤ later) (hearlier : other.time ≤ entry.time)
    (h : store.isExpired now entry = true) : store.isExpired later other = true := by
  refine Number.isExceededBy_mono (floatSum_mono ?_ ?_) h
  · linarith
  · linarith

/--
How a store relates to everything that has been put and not been replaced since. The newest entries are
kept. The older ones are lost, except that some of them may still be in the store if they have expired.
-/
structure Tracks (now : Rat) (store : InputStore) (standing lost dead kept : List StoredInput) : Prop where
  standing_eq : standing = lost ++ kept
  entries_eq : store.entries = dead ++ kept
  dead_lost : dead.Sublist lost
  expired : ∀ entry ∈ dead, store.isExpired now entry = true
  room : kept.length < store.maxEntries.toNat → ∀ entry ∈ lost, store.isExpired now entry = true

namespace Tracks

variable {now : Rat} {store : InputStore} {standing lost dead kept : List StoredInput}

theorem imp {later : Rat} (h : Tracks now store standing lost dead kept) (hdated : Dated now standing)
    (hle : now ≤ later) : Tracks later store standing lost dead kept := by
  have hlost : ∀ entry ∈ lost, store.isExpired now entry = true → store.isExpired later entry = true := by
    intro entry hentry hexpired
    have hmem : entry ∈ standing := h.standing_eq ▸ List.mem_append_left _ hentry
    exact isExpired_mono (hdated.past entry hmem) hle (le_refl _) hexpired
  exact { h with
    expired := fun entry hentry => hlost entry (h.dead_lost.subset hentry) (h.expired entry hentry)
    room := fun hroom entry hentry => hlost entry hentry (h.room hroom entry hentry) }

theorem entries_sublist (h : Tracks now store standing lost dead kept) :
    store.entries.Sublist standing := by
  rw [h.entries_eq, h.standing_eq]
  exact h.dead_lost.append (List.Sublist.refl _)

theorem clear : Tracks now store.clear [] [] [] [] :=
  ⟨rfl, rfl, .slnil, by simp, by simp⟩

theorem distinct_kept (h : Tracks now store standing lost dead kept) (hdated : Dated now standing) :
    (kept.map (·.requester)).Nodup := by
  have hdistinct := hdated.distinct
  rw [h.standing_eq, List.map_append] at hdistinct
  exact hdistinct.of_append_right

theorem put (h : Tracks now store standing lost dead kept) (hdated : Dated now standing)
    (requester stdin : String) :
    ∃ lost' dead' kept',
      Tracks now (store.put now requester stdin) (remember standing (.put now requester stdin)) lost' dead'
        kept' := by
  let others := fun (entry : StoredInput) => entry.requester != requester
  let newest := kept.filter others ++ [{ requester, time := now, stdin }]
  have hentries : (store.erase requester).entries ++ [{ requester, time := now, stdin }]
      = dead.filter others ++ newest := by
    rw [erase, h.entries_eq, List.filter_append, List.append_assoc]
  have hlength : kept.length ≤ newest.length := by
    rw [List.length_append, List.length_singleton]
    rcases filter_cases (h.distinct_kept hdated) requester with
      ⟨-, hfilter⟩ | ⟨front, _, back, hkept, -, hfilter⟩
    · rw [hfilter]
      omega
    · rw [hfilter, hkept, List.length_append, List.length_append, List.length_cons]
      omega
  -- So many of the oldest entries have to make room, the dead ones first.
  let count := (dead.filter others ++ newest).length - store.maxEntries.toNat
  let first := count - (dead.filter others).length
  have hcount : count = (dead.filter others).length + newest.length - store.maxEntries.toNat := by
    rw [← List.length_append]
  refine ⟨lost.filter others ++ newest.take first, (dead.filter others).drop count, newest.drop first, ?_⟩
  constructor
  · rw [List.append_assoc, List.take_append_drop, remember, h.standing_eq, List.filter_append,
      List.append_assoc]
  · rw [InputStore.put, hentries, List.drop_append]
  · exact ((List.drop_sublist _ _).trans (h.dead_lost.filter _)).trans (List.sublist_append_left _ _)
  · intro entry hentry
    exact h.expired entry (List.mem_filter.mp (List.mem_of_mem_drop hentry)).1
  · intro hroom entry hentry
    have hroom' : (newest.drop first).length < store.maxEntries.toNat := hroom
    rw [List.length_drop] at hroom'
    have hnone : first = 0 := by omega
    rw [hnone, List.take_zero, List.append_nil] at hentry
    exact h.room (by omega) entry (List.mem_filter.mp hentry).1

theorem get (h : Tracks now store standing lost dead kept) (hdated : Dated now standing)
    (requester : String) :
    ∃ lost' dead' kept', Tracks now (store.get now requester).2 standing lost' dead' kept' := by
  rw [InputStore.get]
  split
  · exact ⟨lost, dead, kept, h⟩
  · next entry hfind =>
    split
    · next hexpired =>
      let others := fun (entry : StoredInput) => entry.requester != requester
      have hdead : (dead.filter others).Sublist lost := List.filter_sublist.trans h.dead_lost
      rcases filter_cases (h.distinct_kept hdated) requester with
        ⟨-, hfilter⟩ | ⟨front, found, back, hkept, hfound, hfilter⟩
      · refine ⟨lost, dead.filter others, kept, h.standing_eq, ?_, hdead, ?_, h.room⟩
        · rw [erase, h.entries_eq, List.filter_append, hfilter]
        · intro other hother
          exact h.expired other (List.mem_filter.mp hother).1
      · have hsame : found = entry := by
          refine List.inj_on_of_nodup_map hdated.distinct ?_ ?_ ?_
          · rw [h.standing_eq, hkept]
            simp
          · exact h.entries_sublist.subset (find?_spec hfind).1
          · exact hfound.trans (find?_spec hfind).2.symm
        have hstanding : standing = (lost ++ front) ++ found :: back := by
          rw [h.standing_eq, hkept, List.append_assoc]
        -- Whatever was put before an expired entry has expired as well.
        have hearlier : ∀ other ∈ lost ++ front, store.isExpired now other = true := by
          intro other hother
          have hordered := hdated.ordered
          rw [hstanding, List.pairwise_append] at hordered
          have hpast := hdated.past found (by rw [hstanding]; simp)
          exact isExpired_mono hpast (le_refl _) (hordered.2.2 other hother found List.mem_cons_self)
            (hsame ▸ hexpired)
        refine ⟨lost ++ front ++ [found], dead.filter others ++ front, back, ?_, ?_, ?_, ?_, ?_⟩
        · rw [hstanding, List.append_cons]
        · rw [erase, h.entries_eq, List.filter_append, hfilter, List.append_assoc]
        · exact (hdead.append (List.Sublist.refl front)).trans (List.sublist_append_left _ _)
        · rw [List.forall_mem_append]
          refine ⟨fun other hother => h.expired other (List.mem_filter.mp hother).1, ?_⟩
          exact fun other hother => hearlier other (List.mem_append_right _ hother)
        · intro
          rw [List.forall_mem_append]
          refine ⟨hearlier, fun other hother => ?_⟩
          rw [List.mem_singleton.mp hother, hsame]
          exact hexpired
    · exact ⟨lost, dead, kept, h⟩

theorem perform (h : Tracks now store standing lost dead kept) (hdated : Dated now standing)
    {call : StoreCall} (hcall : ∀ time, call.time? = some time → time = now) :
    ∃ lost' dead' kept', Tracks now (store.perform call) (remember standing call) lost' dead' kept' := by
  cases call with
  | put time requester stdin =>
    obtain rfl := hcall time rfl
    exact h.put hdated requester stdin
  | get time requester =>
    obtain rfl := hcall time rfl
    exact h.get hdated requester
  | clear => exact ⟨[], [], [], clear⟩

theorem get_eq_none (h : Tracks now store standing lost dead kept) {requester : String}
    (hnone : requester ∉ standing.map (·.requester)) : (store.get now requester).1 = none := by
  have hfind : store.find? requester = none := by
    rw [InputStore.find?, List.find?_eq_none]
    intro entry hentry heq
    rw [beq_iff_eq] at heq
    exact hnone (heq ▸ List.mem_map_of_mem (h.entries_sublist.subset hentry))
  rw [InputStore.get, hfind]

theorem get_eq (h : Tracks now store standing lost dead kept) (hdated : Dated now standing)
    (hsize : store.size ≤ store.maxEntries.toNat) {front back : List StoredInput} {entry : StoredInput}
    (hstanding : standing = front ++ entry :: back) :
    (store.get now entry.requester).1
      =
    if store.isExpired now entry = false ∧ back.length < store.maxEntries.toNat then some entry.stdin
    else none := by
  have hmem : entry ∈ standing := by
    rw [hstanding]
    exact List.mem_append_right _ List.mem_cons_self
  -- What is in the store is standing, and no requester is standing twice.
  have hsame : ∀ found, store.find? entry.requester = some found → found = entry := by
    intro found hfind
    have hfound := find?_spec hfind
    exact List.inj_on_of_nodup_map hdated.distinct (h.entries_sublist.subset hfound.1) hmem hfound.2
  -- Either the entry is kept with all that stands behind it, or it is lost and all that is kept stands behind
  -- it.
  have hplace : (∃ newer, kept = newer ++ entry :: back) ∨ (entry ∈ lost ∧ kept.length ≤ back.length) := by
    have hsplit := hstanding.symm.trans h.standing_eq
    rw [List.append_eq_append_iff] at hsplit
    rcases hsplit with ⟨newer, hlost, hback⟩ | ⟨newer, -, hkept⟩
    · cases newer with
      | nil => exact .inl ⟨[], hback.symm⟩
      | cons other newer =>
        rw [List.cons_append, List.cons.injEq] at hback
        rw [hlost, hback.1, hback.2]
        exact .inr ⟨by simp, by simp⟩
    · exact .inl ⟨newer, hkept⟩
  rcases hplace with ⟨newer, hkept⟩ | ⟨hlost, hlength⟩
  · have hentry : entry ∈ store.entries := by
      rw [h.entries_eq, hkept]
      simp
    have hroom : back.length < store.maxEntries.toNat := by
      rw [size, h.entries_eq, hkept] at hsize
      simp only [List.length_append, List.length_cons] at hsize
      omega
    have hfind : store.find? entry.requester = some entry := by
      cases hfound : store.find? entry.requester with
      | none =>
        rw [find?, List.find?_eq_none] at hfound
        exact absurd (beq_self_eq_true entry.requester) (hfound entry hentry)
      | some found => rw [hsame found hfound]
    rw [InputStore.get, hfind]
    cases hexpired : store.isExpired now entry with
    | true => simp [hexpired]
    | false => simp [hexpired, hroom]
  · rw [if_neg]
    · cases hfound : store.find? entry.requester with
      | none => rw [InputStore.get, hfound]
      | some found =>
        obtain rfl := hsame found hfound
        -- A lost entry is only found as long as it is among the dead ones.
        have hexpired : store.isExpired now found = true := by
          have hentry := (find?_spec hfound).1
          rw [h.entries_eq, List.mem_append] at hentry
          rcases hentry with hdead | hkept
          · exact h.expired found hdead
          · have hdistinct := hdated.distinct.of_map
            rw [h.standing_eq, List.nodup_append] at hdistinct
            exact absurd rfl (hdistinct.2.2 found hlost found hkept)
        rw [InputStore.get, hfound]
        simp [hexpired]
    · rintro ⟨hfresh, hroom⟩
      rw [h.room (by omega) entry hlost] at hfresh
      contradiction

end Tracks

@[simp]
theorem maxAge_foldl_perform (store : InputStore) (calls : List StoreCall) :
    (calls.foldl perform store).maxAge = store.maxAge := by
  induction calls generalizing store with
  | nil => rfl
  | cons call calls ih => rw [List.foldl_cons, ih, maxAge_perform]

@[simp]
theorem maxEntries_foldl_perform (store : InputStore) (calls : List StoreCall) :
    (calls.foldl perform store).maxEntries = store.maxEntries := by
  induction calls generalizing store with
  | nil => rfl
  | cons call calls ih => rw [List.foldl_cons, ih, maxEntries_perform]

theorem size_foldl_perform_le (store : InputStore) (calls : List StoreCall)
    (h : store.size ≤ store.maxEntries.toNat) :
    (calls.foldl perform store).size ≤ store.maxEntries.toNat := by
  induction calls generalizing store with
  | nil => exact h
  | cons call calls ih =>
    have hstep := size_perform_le store call h
    rw [← maxEntries_perform store call] at hstep ⊢
    exact ih _ hstep

theorem Tracks.foldl_perform {start now : Rat} {store : InputStore}
    {standing lost dead kept : List StoredInput} (h : Tracks start store standing lost dead kept)
    (hdated : Dated start standing) {calls : List StoreCall}
    (hstart : ∀ time ∈ calls.filterMap StoreCall.time? ++ [now], start ≤ time)
    (htimes : StoreCall.Until now calls) :
    (∃ lost' dead' kept',
        Tracks now (calls.foldl InputStore.perform store) (calls.foldl remember standing) lost' dead' kept')
      ∧ Dated now (calls.foldl remember standing) := by
  induction calls generalizing start store standing lost dead kept with
  | nil =>
    have hle : start ≤ now := hstart now (by simp)
    exact ⟨⟨lost, dead, kept, h.imp hdated hle⟩, hdated.imp hle⟩
  | cons call calls ih =>
    unfold StoreCall.Until at htimes
    cases htime : call.time? with
    | none =>
      rw [List.filterMap_cons_none htime] at hstart htimes
      have hcall : ∀ time, call.time? = some time → time = start := by simp [htime]
      rcases h.perform hdated hcall with ⟨lost', dead', kept', hstep⟩
      exact ih hstep (hdated.remember hcall) hstart htimes
    | some time =>
      rw [List.filterMap_cons_some htime, List.cons_append] at hstart htimes
      rw [List.pairwise_cons] at htimes
      have hle : start ≤ time := hstart time List.mem_cons_self
      have hcall : ∀ other, call.time? = some other → other = time := by simp [htime]
      rcases (h.imp hdated hle).perform (hdated.imp hle) hcall with ⟨lost', dead', kept', hstep⟩
      exact ih hstep ((hdated.imp hle).remember hcall) htimes.1 htimes.2

/--
What has been put and not been replaced since, whatever has become of it.
-/
def standing (calls : List StoreCall) : List StoredInput :=
  calls.foldl remember []

variable {maxAge : Number} {maxEntries : Nat} {calls : List StoreCall} {now : Rat}

variable (maxAge maxEntries) in
theorem tracks_after (htimes : StoreCall.Until now calls) :
    (∃ lost dead kept, Tracks now (after maxAge maxEntries calls) (standing calls) lost dead kept)
      ∧ Dated now (standing calls) := by
  have hdated : ∀ time, Dated time [] := fun time => ⟨.nil, by simp, by simp⟩
  have htracks : ∀ time, Tracks time { maxAge, maxEntries } [] [] [] [] :=
    fun time => ⟨rfl, rfl, .slnil, by simp, by simp⟩
  obtain ⟨start, hstart⟩ : ∃ start, ∀ time ∈ calls.filterMap StoreCall.time? ++ [now], start ≤ time := by
    unfold StoreCall.Until at htimes
    cases htime : calls.filterMap StoreCall.time? ++ [now] with
    | nil => simp at htime
    | cons first times =>
      rw [htime, List.pairwise_cons] at htimes
      exact ⟨first, by simpa using htimes.1⟩
  exact (htracks start).foldl_perform (hdated start) hstart htimes

theorem size_after_le : (after maxAge maxEntries calls).size ≤ maxEntries :=
  size_foldl_perform_le { maxAge, maxEntries } calls (Nat.zero_le _)

/-
The entries behind the last put of a requester are those that others have put since.
-/
theorem standing_eq {before behind : List StoreCall} {time : Rat} {requester stdin : String}
    (hclear : .clear ∉ behind) (hagain : requester ∉ StoreCall.writers behind)
    (hdated : Dated now (standing (before ++ .put time requester stdin :: behind))) :
    ∃ front back,
      standing (before ++ .put time requester stdin :: behind)
          = front ++ StoredInput.mk requester time stdin :: back
        ∧ back.length = (StoreCall.writers behind).dedup.length := by
  have hentry : (StoredInput.mk requester time stdin).requester ∉ StoreCall.writers behind := hagain
  rcases foldl_remember_eq hclear hentry ((standing before).filter (·.requester != requester)) [] with
    ⟨front, back, hfold, hback⟩
  have hstanding : standing (before ++ .put time requester stdin :: behind)
      = front ++ StoredInput.mk requester time stdin :: back := by
    rw [standing, List.foldl_append, List.foldl_cons]
    exact hfold
  refine ⟨front, back, hstanding, ?_⟩
  have hdistinct := hdated.distinct
  rw [hstanding, List.map_append, List.map_cons] at hdistinct
  have hperm : (back.map (·.requester)).Perm (StoreCall.writers behind).dedup := by
    rw [List.perm_ext_iff_of_nodup hdistinct.of_append_right.of_cons (List.nodup_dedup _)]
    intro other
    rw [hback, List.mem_dedup]
    simp
  rw [← hperm.length_eq, List.length_map]

@[simp]
theorem maxAge_after : (after maxAge maxEntries calls).maxAge = maxAge :=
  maxAge_foldl_perform _ calls

@[simp]
theorem maxEntries_after : (after maxAge maxEntries calls).maxEntries = maxEntries :=
  maxEntries_foldl_perform _ calls

theorem get_after_eq_none (htimes : StoreCall.Until now calls) {requester : String}
    (hnone : requester ∉ (standing calls).map (·.requester)) :
    ((after maxAge maxEntries calls).get now requester).1 = none := by
  obtain ⟨⟨lost, dead, kept, htracks⟩, -⟩ := tracks_after maxAge maxEntries htimes
  exact htracks.get_eq_none hnone

theorem get_after_eq (htimes : StoreCall.Until now calls) {front back : List StoredInput}
    {entry : StoredInput} (hstanding : standing calls = front ++ entry :: back) :
    ((after maxAge maxEntries calls).get now entry.requester).1
      =
    if maxAge.isExceededBy (floatSum now (-entry.time)) = false ∧ back.length < maxEntries then
      some entry.stdin
    else none := by
  obtain ⟨⟨lost, dead, kept, htracks⟩, hdated⟩ := tracks_after maxAge maxEntries htimes
  have hsize : (after maxAge maxEntries calls).size ≤ (after maxAge maxEntries calls).maxEntries.toNat := by
    rw [maxEntries_after, Int.toNat_natCast]
    exact size_after_le
  rw [htracks.get_eq hdated hsize hstanding, maxEntries_after, Int.toNat_natCast, isExpired, maxAge_after,
    age]

/-
The answers depend on nothing but what has been put and not been replaced since.
-/
theorem get_after_congr {others : List StoreCall} (htimes : StoreCall.Until now calls)
    (htimes' : StoreCall.Until now others) (hstanding : standing others = standing calls)
    (requester : String) :
    ((after maxAge maxEntries others).get now requester).1
      =
    ((after maxAge maxEntries calls).get now requester).1 := by
  by_cases hmem : requester ∈ (standing calls).map (·.requester)
  · rw [List.mem_map] at hmem
    rcases hmem with ⟨entry, hentry, rfl⟩
    rcases List.append_of_mem hentry with ⟨front, back, hsplit⟩
    rw [get_after_eq htimes hsplit, get_after_eq htimes' (hstanding.trans hsplit)]
  · rw [get_after_eq_none htimes hmem, get_after_eq_none htimes' (hstanding ▸ hmem)]

/--
A store is a map of bounded size to the last input of each requester that expires. It answers with the last
input that was put for a requester, unless it has been cleared since, or the age exceeds the greatest one,
or as many others as there is room for have put theirs. It never holds more than there is room for, and
asking it changes no later answer.
-/
theorem get_after (htimes : StoreCall.Until now calls) (requester : String) :
    (∀ before time stdin behind, calls = before ++ .put time requester stdin :: behind →
        requester ∉ StoreCall.writers behind →
        ((after maxAge maxEntries calls).get now requester).1
          = if .clear ∉ behind ∧ maxAge.isExceededBy (floatSum now (-time)) = false
                ∧ (StoreCall.writers behind).dedup.length < maxEntries then some stdin
            else none)
      ∧ (requester ∉ StoreCall.writers calls →
          ((after maxAge maxEntries calls).get now requester).1 = none)
      ∧ (after maxAge maxEntries calls).size ≤ maxEntries
      ∧ ∀ before time other behind, calls = before ++ .get time other :: behind →
          ((after maxAge maxEntries (before ++ behind)).get now requester).1
            = ((after maxAge maxEntries calls).get now requester).1 := by
  refine ⟨?_, ?_, size_after_le, ?_⟩
  · rintro before time stdin behind rfl hagain
    by_cases hclear : .clear ∈ behind
    · -- The clear has taken the entry away, and the requester has put nothing since.
      rw [if_neg (fun h => h.1 hclear)]
      refine get_after_eq_none htimes ?_
      rw [standing, List.foldl_append, List.foldl_cons]
      exact requester_not_mem_of_clear hclear hagain _
    · have hdated := (tracks_after maxAge maxEntries htimes).2
      rcases standing_eq hclear hagain hdated with ⟨front, back, hstanding, hlength⟩
      rw [← hlength, get_after_eq htimes hstanding]
      simp [hclear]
  · intro hnone
    refine get_after_eq_none htimes fun hmem => ?_
    rcases requester_mem_foldl_remember calls [] hmem with hempty | hcalls
    · contradiction
    · exact hnone hcalls
  · rintro before time other behind rfl
    have hsublist : (before ++ behind).Sublist (before ++ .get time other :: behind) :=
      (List.Sublist.refl before).append (List.sublist_cons_self _ _)
    refine get_after_congr htimes (htimes.sublist hsublist) ?_ requester
    rw [standing, standing, List.foldl_append, List.foldl_append, List.foldl_cons]
    rfl

theorem get_after_expired :
    let calls : List StoreCall :=
      [.put 0 "ann" "1\n", .put 1 "bob" "2\n", .get 3 "ann", .put 3 "cid" "3\n", .get 3 "eve"]
    StoreCall.Until 3 calls
      ∧ ((after (.whole 2) 2 calls).get 3 "ann").1 = none
      ∧ ((after (.whole 2) 2 calls).get 3 "bob").1 = some "2\n" := by
  intro calls
  have htimes : StoreCall.Until 3 calls := by
    unfold StoreCall.Until
    decide +kernel
  have hann : ((after (.whole 2) 2 calls).get 3 "ann").1 = _ :=
    (get_after htimes "ann").1 [] 0 "1\n" _ rfl (by decide)
  have hbob : ((after (.whole 2) 2 calls).get 3 "bob").1 = _ :=
    (get_after htimes "bob").1 [.put 0 "ann" "1\n"] 1 "2\n" _ rfl (by decide)
  refine ⟨htimes, ?_, ?_⟩
  · rw [hann, if_neg (by decide +kernel)]
  · rw [hbob, if_pos (by decide +kernel)]

end Store

end InputStore

end Playback
