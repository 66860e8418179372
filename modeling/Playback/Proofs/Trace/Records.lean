import Mathlib.Data.List.DropRight
import Playback.Proofs.Trace.Executed
import Playback.Proofs.Trace.Latest

/-!
This module contains what a row of records says about a run: the lines it reaches, and for each of
them the bindings, the objects and the output.
-/

namespace Playback.Record

def ofLines (lines : List String) : List Record :=
  lines.filterMap fun line => (parse line).toOption

def line? : Record → Option Nat
  | .lineMark line => some line
  | _ => none

def binding? : Record → Option (String × Json)
  | .varBind name rawValue => some (name, cleanValue rawValue)
  | _ => none

/--
The object that a record describes. A payload that cannot be read describes none.
-/
def object? : Record → Option HeapEntry
  | .heapPut id rawJson =>
    match decodePayload rawJson with
    | .error _ => none
    | .ok (type, value) => (HeapEntry.typeName? type).map fun type => { id, type, value }
  | _ => none

def output? : Record → Option String
  | .plainText text => some (text ++ "\n")
  | _ => none

def marks (records : List Record) : List Nat :=
  records.filterMap line?

def bindings (records : List Record) : Fields :=
  latest Prod.fst (records.filterMap binding?)

def objects (records : List Record) : List HeapEntry :=
  latest HeapEntry.id (records.filterMap object?)

def printed (records : List Record) : String :=
  String.join (records.filterMap output?)

/--
The records in front of a line mark, where `k` line marks stand before that one. If there is no such
mark, these are all.
-/
def before : Nat → List Record → List Record
  | _, [] => []
  | k, record :: records =>
    match record.line?, k with
    | none, k => record :: before k records
    | some _, 0 => []
    | some _, k + 1 => record :: before k records

def sinceMark (records : List Record) : List Record :=
  records.rtakeWhile (·.line?.isNone)

/--
The step of a line mark. Step zero is the one before anything has run, and later output goes to a
step up to the next line mark.
-/
def stepAt (cumulative : Bool) (records : List Record) : Nat → Step
  | 0 => { Step.initial with output := printed (before 0 records) }
  | k + 1 =>
    let past := before k records
    { currentLine := (marks records).getD k 0
      executedLines := Timeline.ascending (((marks records).take (k + 1)).map Int.ofNat)
      frames :=
        [{ name := Timeline.wireFrameName
           bindings := bindings (if cumulative then past else sinceMark past) }]
      objects := objects past
      output := printed (before (k + 1) records) }

theorem ofLines_append (lines more : List String) :
    ofLines (lines ++ more) = ofLines lines ++ ofLines more := by
  apply List.filterMap_append

theorem ofLines_cons_of_parse {line : String} {record : Record} (h : parse line = .ok record)
    (lines : List String) : ofLines (line :: lines) = record :: ofLines lines := by
  simp [ofLines, h, Except.toOption]

theorem marks_append (records more : List Record) :
    marks (records ++ more) = marks records ++ marks more := by
  apply List.filterMap_append

theorem marks_ofLines_cons (line : String) (lines : List String) :
    marks (ofLines (line :: lines)) = marks (ofLines [line]) ++ marks (ofLines lines) := by
  rw [← marks_append, ← ofLines_append, List.singleton_append]

theorem marks_concat (records : List Record) (record : Record) :
    marks (records ++ [record]) = marks records ++ record.line?.toList := by
  rw [marks_append]
  unfold marks
  cases h : record.line? <;> simp [h]

theorem bindings_concat (records : List Record) (record : Record) :
    bindings (records ++ [record])
      =
    record.binding?.elim (bindings records) fun binding =>
      (bindings records).set binding.1 binding.2 := by
  unfold bindings
  rw [List.filterMap_append]
  cases h : record.binding? with
  | none => simp [h]
  | some binding => simp [h, latest_append_singleton, Fields.set_eq_upsert]

theorem objects_concat (records : List Record) (record : Record) :
    objects (records ++ [record])
      =
    record.object?.elim (objects records) fun entry => Heap.putEntry entry (objects records) := by
  unfold objects
  rw [List.filterMap_append]
  cases h : record.object? with
  | none => simp [h]
  | some entry => simp [h, latest_append_singleton, Heap.putEntry_eq_upsert]

theorem printed_concat (records : List Record) (record : Record) :
    printed (records ++ [record]) = printed records ++ record.output?.getD "" := by
  unfold printed
  rw [List.filterMap_append, String.join_append]
  cases h : record.output? <;> simp [h]

theorem marks_cons (record : Record) (records : List Record) :
    marks (record :: records) = record.line?.toList ++ marks records := by
  unfold marks
  cases h : record.line? <;> simp [h]

theorem before_cons_of_none {record : Record} (k : Nat) (records : List Record)
    (h : record.line? = none) : before k (record :: records) = record :: before k records := by
  simp [before, h]

theorem before_cons_of_some {record : Record} {line : Nat} (k : Nat) (records : List Record)
    (h : record.line? = some line) :
    before (k + 1) (record :: records) = record :: before k records := by
  simp [before, h]

theorem before_zero_cons {record : Record} {line : Nat} (records : List Record)
    (h : record.line? = some line) : before 0 (record :: records) = [] := by
  simp [before, h]

theorem before_append (k : Nat) (records more : List Record) :
    before k (records ++ more)
      =
    if k < (marks records).length then
      before k records
    else
      records ++ before (k - (marks records).length) more := by
  induction records generalizing k with
  | nil => simp [marks]
  | cons record records ih =>
    rw [List.cons_append, marks_cons]
    cases hline : record.line? with
    | none =>
      rw [before_cons_of_none _ _ hline, before_cons_of_none _ _ hline, ih]
      by_cases h : k < (marks records).length
      · simp [h]
      · simp [h]
    | some line =>
      cases k with
      | zero => simp [before_zero_cons _ hline]
      | succ k =>
        rw [before_cons_of_some _ _ hline, before_cons_of_some _ _ hline, ih]
        by_cases h : k < (marks records).length
        · simp [h]
        · simp [h]

theorem before_eq_self (k : Nat) (records : List Record) (h : (marks records).length ≤ k) :
    before k records = records := by
  have := before_append k records []
  rw [if_neg (by omega)] at this
  simpa [before] using this

theorem before_append_mark (k line : Nat) (records more : List Record)
    (h : k ≤ (marks records).length) :
    before k (records ++ .lineMark line :: more) = before k records := by
  rw [before_append]
  split
  · rfl
  · have : k - (marks records).length = 0 := by omega
    rw [this, before_eq_self k records (by omega)]
    simp [before, line?]

theorem marks_before (k : Nat) (records : List Record) :
    marks (before k records) = (marks records).take k := by
  induction records generalizing k with
  | nil => simp [before, marks]
  | cons record records ih =>
    rw [marks_cons]
    cases hline : record.line? with
    | none =>
      rw [before_cons_of_none _ _ hline, marks_cons, ih, hline]
      rfl
    | some line =>
      cases k with
      | zero => simp [before_zero_cons _ hline, marks]
      | succ k =>
        rw [before_cons_of_some _ _ hline, marks_cons, ih, hline]
        rfl

theorem before_before (j k : Nat) (records : List Record) (h : j ≤ k) :
    before j (before k records) = before j records := by
  induction records generalizing j k with
  | nil => rfl
  | cons record records ih =>
    cases hline : record.line? with
    | none =>
      rw [before_cons_of_none _ _ hline, before_cons_of_none _ _ hline,
        before_cons_of_none _ _ hline, ih]
      exact h
    | some line =>
      cases k with
      | zero =>
        have : j = 0 := by omega
        rw [this, before_zero_cons _ hline]
        rfl
      | succ k =>
        rw [before_cons_of_some _ _ hline]
        cases j with
        | zero => rw [before_zero_cons _ hline, before_zero_cons _ hline]
        | succ j =>
          rw [before_cons_of_some _ _ hline, before_cons_of_some _ _ hline, ih]
          omega

theorem before_prefix (k : Nat) (records : List Record) : before k records <+: records := by
  induction records generalizing k with
  | nil => apply List.prefix_rfl
  | cons record records ih =>
    unfold before
    split
    · rw [List.cons_prefix_cons]
      exact ⟨rfl, ih _⟩
    · apply List.nil_prefix
    · rw [List.cons_prefix_cons]
      exact ⟨rfl, ih _⟩

theorem before_prefix_before (j k : Nat) (records : List Record) (h : j ≤ k) :
    before j records <+: before k records := by
  rw [← before_before j k records h]
  apply before_prefix

theorem sinceMark_concat_of_some {record : Record} {line : Nat} (records : List Record)
    (h : record.line? = some line) : sinceMark (records ++ [record]) = [] := by
  unfold sinceMark
  rw [List.rtakeWhile_concat, h]
  rfl

theorem sinceMark_concat (records : List Record) (record : Record) (h : record.line? = none) :
    sinceMark (records ++ [record]) = sinceMark records ++ [record] := by
  unfold sinceMark
  rw [List.rtakeWhile_concat, if_pos]
  rw [h]
  rfl

theorem stepAt_before (cumulative : Bool) (j k : Nat) (records : List Record) (h : j ≤ k) :
    stepAt cumulative (before k records) j = stepAt cumulative records j := by
  cases j with
  | zero =>
    dsimp only [stepAt]
    rw [before_before 0 k records h]
  | succ j =>
    dsimp only [stepAt]
    rw [before_before j k records (by omega), before_before (j + 1) k records h, marks_before,
      List.take_take]
    have hmin : min (j + 1) k = j + 1 := by omega
    have hget : ((marks records).take k).getD j 0 = (marks records).getD j 0 := by
      rw [List.getD_eq_getElem?_getD, List.getD_eq_getElem?_getD, List.getElem?_take_of_lt]
      omega
    rw [hmin, hget]

theorem stepAt_congr (cumulative : Bool) (k : Nat) (records records' : List Record)
    (h : before k records = before k records') :
    stepAt cumulative records k = stepAt cumulative records' k := by
  rw [← stepAt_before cumulative k k records (by omega), h]
  apply stepAt_before
  omega

theorem stepAt_append (cumulative : Bool) (k : Nat) (records more : List Record)
    (h : k < (marks records).length) :
    stepAt cumulative (records ++ more) k = stepAt cumulative records k := by
  apply stepAt_congr
  rw [before_append, if_pos h]

theorem stepAt_concat_mark (cumulative : Bool) (k line : Nat) (records : List Record)
    (h : k ≤ (marks records).length) :
    stepAt cumulative (records ++ [.lineMark line]) k = stepAt cumulative records k := by
  apply stepAt_congr
  apply before_append_mark
  exact h

theorem stepAt_output (cumulative : Bool) (k : Nat) (records : List Record) :
    (stepAt cumulative records k).output = printed (before k records) := by
  cases k with
  | zero => rfl
  | succ k => rfl

theorem stepAt_executedLines (cumulative : Bool) (k : Nat) (records : List Record) :
    (stepAt cumulative records k).executedLines
      =
    Timeline.ascending (((marks records).take k).map Int.ofNat) := by
  cases k with
  | zero => simp [stepAt, Step.initial, Timeline.ascending]
  | succ k => rfl

theorem stepAt_error (cumulative : Bool) (k : Nat) (records : List Record) :
    (stepAt cumulative records k).error = none := by
  cases k with
  | zero => rfl
  | succ k => rfl

/-
Up to the step of the last line mark, nothing but the output can tell what follows a row of records.
-/
theorem stepAt_append_of_le (cumulative : Bool) (k : Nat) (records more : List Record)
    (h : k ≤ (marks records).length) :
    stepAt cumulative (records ++ more) k
      =
    { stepAt cumulative records k with output := printed (before k (records ++ more)) } := by
  cases k with
  | zero => rfl
  | succ k =>
    have hbefore : before k (records ++ more) = before k records := by
      rw [before_append, if_pos]
      omega
    have hline : (marks records ++ marks more).getD k 0 = (marks records).getD k 0 := by
      rw [List.getD_eq_getElem?_getD, List.getD_eq_getElem?_getD, List.getElem?_append_left]
      omega
    dsimp only [stepAt]
    rw [hbefore, marks_append, hline, List.take_append_of_le_length h]

theorem stepAt_concat_last (cumulative : Bool) (records : List Record) (record : Record)
    (h : record.line? = none) :
    stepAt cumulative (records ++ [record]) (marks records).length
      =
    { stepAt cumulative records (marks records).length with
      output := printed (records ++ [record]) } := by
  rw [stepAt_append_of_le, before_eq_self]
  · simp [marks_concat, h]
  · omega

theorem stepAt_concat_mark_new (cumulative : Bool) (records : List Record) (line : Nat) :
    stepAt cumulative (records ++ [.lineMark line]) ((marks records).length + 1)
      =
    { currentLine := line
      executedLines :=
        Timeline.insertLine line (stepAt cumulative records (marks records).length).executedLines
      frames :=
        [{ name := Timeline.wireFrameName
           bindings := bindings (if cumulative then records else sinceMark records) }]
      objects := objects records
      output := printed records } := by
  have hmarks : marks (records ++ [.lineMark line]) = marks records ++ [line] := marks_concat ..
  have hbefore : before (marks records).length (records ++ [.lineMark line]) = records := by
    rw [before_append_mark, before_eq_self]
    all_goals omega
  have hprinted : printed (records ++ [.lineMark line]) = printed records := by
    simp [printed_concat, output?]
  have hlines : (marks records ++ [line]).map Int.ofNat
      = (marks records).map Int.ofNat ++ [(line : Int)] := List.map_append
  rw [stepAt_executedLines]
  dsimp only [stepAt]
  rw [hbefore, before_eq_self _ (records ++ [lineMark line]), hprinted, hmarks,
    List.take_of_length_le, List.take_of_length_le, hlines, Timeline.insertLine_ascending]
  · simp
  · omega
  · simp
  · simp [hmarks]

end Playback.Record
