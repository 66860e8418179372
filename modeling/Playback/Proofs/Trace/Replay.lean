import Playback.Proofs.Outcome
import Playback.Proofs.Trace.Executed
import Playback.Proofs.Trace.Records

/-!
This module contains the proof that a replay shows what its records say: what each record does to
the state of a replay, what a whole run does to it, and the timeline that results.
-/

namespace Playback.Timeline

namespace Replay

def follow (cumulative : Bool) (replay : Replay) : Record → Except ReplayFault Replay
  | .heapPut id rawJson => replay.putObject id rawJson
  | .varBind name rawValue => .ok (replay.bind name rawValue)
  | .plainText text => .ok (replay.print text)
  | .lineMark line => .ok (replay.reach cumulative line)

theorem run_nil (cumulative : Bool) (room : Nat) (replay : Replay) :
    run cumulative room replay [] = .ok (replay, false) := rfl

theorem run_cons_of_error {line : String} {fault : Text.NumeralFault}
    (hparse : Record.parse line = .error fault) (cumulative : Bool) (room : Nat) (replay : Replay)
    (lines : List String) :
    run cumulative room replay (line :: lines) = .error (.numeral fault) := by
  unfold run
  rw [hparse]

/-
A line is read, and unless it is a line mark for which there is no room, its record is followed.
-/
theorem run_cons_of_parse {line : String} {record : Record}
    (hparse : Record.parse line = .ok record) (cumulative : Bool) (room : Nat) (replay : Replay)
    (lines : List String) :
    run cumulative room replay (line :: lines)
      =
    match record.line?, room with
    | none, room => replay.follow cumulative record >>= (run cumulative room · lines)
    | some _, 0 => .ok (replay, true)
    | some _, left + 1 => replay.follow cumulative record >>= (run cumulative left · lines) := by
  conv =>
    lhs
    unfold run
  rw [hparse]
  cases record with
  | heapPut id rawJson =>
    dsimp only [Record.line?, follow]
    cases replay.putObject id rawJson with
    | error fault => rfl
    | ok next => rfl
  | varBind name rawValue => rfl
  | plainText text => rfl
  | lineMark line =>
    cases room with
    | zero => rfl
    | succ left => rfl

theorem run_cons {cumulative : Bool} {room : Nat} {replay : Replay} {line : String}
    {lines : List String} {result : Replay × Bool}
    (h : run cumulative room replay (line :: lines) = .ok result) :
    ∃ record, Record.parse line = .ok record ∧
      ((record.line? = none ∧ ∃ next,
          replay.follow cumulative record = .ok next ∧ run cumulative room next lines = .ok result)
        ∨ (record.line?.isSome ∧ room = 0 ∧ result = (replay, true))
        ∨ (record.line?.isSome ∧ ∃ next left, room = left + 1 ∧
            replay.follow cumulative record = .ok next
              ∧ run cumulative left next lines = .ok result)) := by
  cases hparse : Record.parse line with
  | error fault =>
    rw [run_cons_of_error hparse] at h
    cases h
  | ok record =>
    refine ⟨record, rfl, ?_⟩
    rw [run_cons_of_parse hparse] at h
    cases hline : record.line? with
    | none =>
      rw [hline] at h
      rcases exists_of_bind_eq_ok h with ⟨next, hnext, hrest⟩
      exact .inl ⟨rfl, next, hnext, hrest⟩
    | some l =>
      rw [hline] at h
      cases room with
      | zero =>
        simp only [Except.ok.injEq] at h
        exact .inr (.inl ⟨rfl, rfl, h.symm⟩)
      | succ left =>
        rcases exists_of_bind_eq_ok h with ⟨next, hnext, hrest⟩
        exact .inr (.inr ⟨rfl, next, left, rfl, hnext, hrest⟩)

/--
What every record keeps, a whole run keeps. A run reads the records up to the line mark for which
there is no room, and all of these can be read.
-/
theorem run_induction {cumulative truncated : Bool} {P : List Record → Replay → Prop}
    (hfollow : ∀ past replay record next,
      P past replay → replay.follow cumulative record = .ok next → P (past ++ [record]) next)
    (lines : List String) (room : Nat) (past : List Record) (replay last : Replay)
    (hrun : run cumulative room replay lines = .ok (last, truncated)) (hstart : P past replay) :
    P (past ++ Record.before room (Record.ofLines lines)) last
      ∧ truncated = decide (room < (Record.marks (Record.ofLines lines)).length)
      ∧ (lines.take (Record.before room (Record.ofLines lines)).length).map Record.parse
          =
        (Record.before room (Record.ofLines lines)).map .ok := by
  -- The induction is on the lines, for any records that have been read in front of them.
  induction lines generalizing room past replay with
  | nil =>
    simp only [run_nil, Except.ok.injEq, Prod.mk.injEq] at hrun
    rcases hrun with ⟨rfl, rfl⟩
    simpa [Record.ofLines, Record.before, Record.marks] using hstart
  | cons line lines ih =>
    rcases run_cons hrun with ⟨record, hparse, hcases⟩
    rw [Record.ofLines_cons_of_parse hparse]
    rcases hcases with ⟨hline, next, hnext, hrest⟩ | ⟨hline, rfl, hresult⟩
        | ⟨hline, next, left, rfl, hnext, hrest⟩
    · have hkept := hfollow past replay record next hstart hnext
      rcases ih room (past ++ [record]) next hrest hkept with ⟨hlast, htruncated, hread⟩
      rw [Record.before_cons_of_none _ _ hline, Record.marks_cons, hline]
      refine ⟨by simpa using hlast, htruncated, ?_⟩
      simp [hparse, hread]
    · -- There is no room for this line mark. What stands behind it is not read.
      rcases Option.isSome_iff_exists.mp hline with ⟨l, hl⟩
      simp only [Prod.mk.injEq] at hresult
      rcases hresult with ⟨rfl, rfl⟩
      rw [Record.before_zero_cons _ hl, Record.marks_cons, hl]
      simpa using hstart
    · rcases Option.isSome_iff_exists.mp hline with ⟨l, hl⟩
      have hkept := hfollow past replay record next hstart hnext
      rcases ih left (past ++ [record]) next hrest hkept with ⟨hlast, htruncated, hread⟩
      rw [Record.before_cons_of_some _ _ hl, Record.marks_cons, hl]
      refine ⟨by simpa using hlast, by simpa using htruncated, ?_⟩
      simp [hparse, hread]

/--
What holds of a replay that has read some records.
-/
structure Shows (cumulative : Bool) (past : List Record) (replay : Replay) : Prop where
  heap : replay.heap.entries = Record.objects past
  pending :
    replay.pending = Record.bindings (if cumulative then past else Record.sinceMark past)
  closed :
    replay.closed.reverse
      =
    (List.range (Record.marks past).length).map (Record.stepAt cumulative past)
  current : replay.current = Record.stepAt cumulative past (Record.marks past).length

theorem Shows.nil (cumulative : Bool) : Shows cumulative [] {} where
  heap := rfl
  pending := by cases cumulative <;> rfl
  closed := rfl
  current := rfl

theorem Shows.steps {cumulative : Bool} {past : List Record} {replay : Replay}
    (h : Shows cumulative past replay) :
    replay.steps
      =
    (List.range ((Record.marks past).length + 1)).map (Record.stepAt cumulative past) := by
  unfold Replay.steps
  rw [List.reverse_cons, h.closed, h.current, List.range_succ, List.map_append]
  rfl

/-
Records between two line marks leave the closed steps alone, and the current step up to its output.
-/
theorem Shows.concat {cumulative : Bool} {past : List Record} {replay next : Replay}
    (record : Record) (hline : record.line? = none) (h : Shows cumulative past replay)
    (hheap :
      next.heap.entries
        =
      record.object?.elim replay.heap.entries fun entry => Heap.putEntry entry replay.heap.entries)
    (hpending :
      next.pending
        =
      record.binding?.elim replay.pending fun binding => replay.pending.set binding.1 binding.2)
    (hclosed : next.closed = replay.closed)
    (hcurrent :
      next.current
        =
      { replay.current with output := replay.current.output ++ record.output?.getD "" }) :
    Shows cumulative (past ++ [record]) next where
  heap := by
    rw [hheap, h.heap, Record.objects_concat]
  pending := by
    rw [hpending, h.pending]
    cases cumulative with
    | false => simp [Record.sinceMark_concat past record hline, Record.bindings_concat]
    | true => simp [Record.bindings_concat]
  closed := by
    rw [hclosed, h.closed, Record.marks_concat, hline]
    simp only [Option.toList_none, List.append_nil]
    -- Each closed step has a line mark behind it that stands in front of the record.
    apply List.map_congr_left
    intro k hk
    rw [Record.stepAt_append]
    exact List.mem_range.mp hk
  current := by
    have hmarks : Record.marks (past ++ [record]) = Record.marks past := by
      simp [Record.marks_concat, hline]
    rw [hmarks, Record.stepAt_concat_last cumulative past record hline, hcurrent, h.current,
      Record.printed_concat, Record.stepAt_output, Record.before_eq_self]
    omega

theorem Shows.reach {cumulative : Bool} {past : List Record} {replay : Replay} (line : Nat)
    (h : Shows cumulative past replay) :
    Shows cumulative (past ++ [.lineMark line]) (replay.reach cumulative line) where
  heap := by
    rw [Record.objects_concat]
    exact h.heap
  pending := by
    cases cumulative with
    | false =>
      have hsince : Record.sinceMark (past ++ [.lineMark line]) = [] :=
        Record.sinceMark_concat_of_some past rfl
      simp [Replay.reach, hsince, Record.bindings, latest]
    | true => simpa [Replay.reach, Record.bindings_concat, Record.binding?] using h.pending
  closed := by
    have hmarks : Record.marks (past ++ [.lineMark line]) = Record.marks past ++ [line] :=
      Record.marks_concat ..
    -- A line mark leaves the steps in front of it as they are.
    have hsteps : ∀ k ∈ List.range ((Record.marks past).length + 1),
        Record.stepAt cumulative past k
          =
        Record.stepAt cumulative (past ++ [.lineMark line]) k := by
      intro k hk
      rw [List.mem_range] at hk
      rw [Record.stepAt_concat_mark]
      omega
    rw [hmarks, List.length_append, List.length_singleton, ← List.map_congr_left hsteps, ← h.steps]
    rfl
  current := by
    have hmarks : Record.marks (past ++ [.lineMark line]) = Record.marks past ++ [line] :=
      Record.marks_concat ..
    have houtput : replay.current.output = Record.printed past := by
      rw [h.current, Record.stepAt_output, Record.before_eq_self]
      omega
    unfold Replay.reach
    rw [hmarks, List.length_append, List.length_singleton, Record.stepAt_concat_mark_new, h.pending,
      h.heap, houtput, h.current]

theorem Shows.follow {cumulative : Bool} {past : List Record} {replay next : Replay}
    (record : Record) (h : Shows cumulative past replay)
    (hnext : replay.follow cumulative record = .ok next) :
    Shows cumulative (past ++ [record]) next := by
  cases record with
  | heapPut id rawJson =>
    unfold Replay.follow putObject at hnext
    cases hpayload : Record.decodePayload rawJson with
    | error fault =>
      -- A payload that cannot be read describes no object, and the replay goes on as it was.
      simp only [hpayload, Except.ok.injEq] at hnext
      rw [← hnext]
      apply h.concat _ rfl
      all_goals simp [Record.object?, Record.binding?, Record.output?, hpayload]
    | ok payload =>
      rcases payload with ⟨type, value⟩
      cases htype : HeapEntry.typeName? type with
      | none => simp [hpayload, htype] at hnext
      | some type =>
        simp only [hpayload, htype, Except.ok.injEq] at hnext
        rw [← hnext]
        apply h.concat _ rfl
        all_goals
          simp [Record.object?, Record.binding?, Record.output?, hpayload, htype, Heap.put]
  | varBind name rawValue =>
    simp only [Replay.follow, Except.ok.injEq] at hnext
    rw [← hnext]
    apply h.concat _ rfl
    all_goals simp [Replay.bind, Record.object?, Record.binding?, Record.output?]
  | plainText text =>
    simp only [Replay.follow, Except.ok.injEq] at hnext
    rw [← hnext]
    apply h.concat _ rfl
    all_goals
      simp [Replay.print, Record.object?, Record.binding?, Record.output?, String.append_assoc]
  | lineMark line =>
    simp only [Replay.follow, Except.ok.injEq] at hnext
    rw [← hnext]
    apply h.reach

theorem Shows.steps_eq {cumulative : Bool} {room : Nat} {records : List Record} {replay : Replay}
    (h : Shows cumulative (Record.before room records) replay) :
    replay.steps
      =
    (List.range (min (room + 1) ((Record.marks records).length + 1))).map
      (Record.stepAt cumulative records) := by
  have hlength : (Record.marks (Record.before room records)).length + 1
      = min (room + 1) ((Record.marks records).length + 1) := by
    rw [Record.marks_before, List.length_take]
    omega
  rw [h.steps, hlength]
  apply List.map_congr_left
  intro k hk
  rw [List.mem_range] at hk
  apply Record.stepAt_before
  omega

end Replay

/-
A text is replayed up to the line mark for which there is no room, or else to its end. Every line in
front of that is readable.
-/
theorem exists_shows_of_ofWire {text : String} {cumulative : Bool} {maxSteps : Int}
    {timeline : Timeline} (h : ofWire text cumulative maxSteps = .ok timeline) :
    let records := Record.ofLines (Text.closedLines text)
    let room := (max 1 maxSteps).toNat - 1
    let read := Record.before room records
    ∃ replay, Replay.Shows cumulative read replay
      ∧ timeline
          =
        { steps := replay.steps
          heap := replay.heap
          truncated := decide (room < (Record.marks records).length) }
      ∧ ((Text.closedLines text).take read.length).map Record.parse = read.map .ok := by
  intro records room read
  unfold ofWire at h
  cases hrun : Replay.run cumulative room {} (Text.closedLines text) with
  | error fault => simp [room, hrun, bind, Except.bind] at h
  | ok result =>
    rcases result with ⟨replay, truncated⟩
    simp only [room, hrun, bind, Except.bind, pure, Except.pure, Except.ok.injEq] at h
    have hfollow : ∀ past replay record next, Replay.Shows cumulative past replay →
        replay.follow cumulative record = .ok next →
        Replay.Shows cumulative (past ++ [record]) next := by
      intro past replay record next hshows
      apply hshows.follow
    rcases Replay.run_induction hfollow _ _ [] _ _ hrun (.nil cumulative)
      with ⟨hshows, htruncated, hread⟩
    rw [List.nil_append] at hshows
    refine ⟨replay, hshows, ?_, hread⟩
    rw [← h, htruncated]

theorem steps_of_ofWire {text : String} {cumulative : Bool} {maxSteps : Int} {timeline : Timeline}
    (h : ofWire text cumulative maxSteps = .ok timeline) :
    let records := Record.ofLines (Text.closedLines text)
    timeline.steps
      =
    (List.range (min (max 1 maxSteps).toNat ((Record.marks records).length + 1))).map
      (Record.stepAt cumulative records) := by
  intro records
  have hceiling : (max 1 maxSteps).toNat - 1 + 1 = (max 1 maxSteps).toNat := by omega
  rcases exists_shows_of_ofWire h with ⟨replay, hshows, htimeline, _⟩
  rw [htimeline, hshows.steps_eq, hceiling]

theorem error_of_mem_ofWire {text : String} {cumulative : Bool} {maxSteps : Int}
    {timeline : Timeline} (h : ofWire text cumulative maxSteps = .ok timeline) :
    ∀ step ∈ timeline.steps, step.error = none := by
  intro step hstep
  rw [steps_of_ofWire h, List.mem_map] at hstep
  rcases hstep with ⟨k, _, rfl⟩
  apply Record.stepAt_error

theorem status_of_ofWire {text : String} {cumulative : Bool} {maxSteps : Int} {timeline : Timeline}
    (h : ofWire text cumulative maxSteps = .ok timeline) : timeline.status = .complete := by
  rcases exists_shows_of_ofWire h with ⟨replay, _, htimeline, _⟩
  rw [htimeline]

/--
The steps of a text are the initial one and one for each line mark, as far as the ceiling on the
count of steps admits. All that is shown is in the records in front of the line mark at which the
replay stops, and each of these stands on a line of its own.
-/
theorem ofRaw_wire_eq_replay {text : String} {cumulative : Bool} {maxSteps : Int}
    {timeline : Timeline} (h : ofRaw (.wire text cumulative) maxSteps = .ok timeline) :
    let records := Record.ofLines (Text.closedLines text)
    let ceiling := (max 1 maxSteps).toNat
    let read := Record.before (ceiling - 1) records
    timeline
      =
    { steps :=
        (List.range (min ceiling ((Record.marks records).length + 1))).map
          (Record.stepAt cumulative records)
      heap := ⟨Record.objects read⟩
      status := .complete
      truncated := decide (ceiling ≤ (Record.marks records).length) }
      ∧ ((Text.closedLines text).take read.length).map Record.parse = read.map .ok := by
  intro records ceiling read
  rcases exists_shows_of_ofWire h with ⟨replay, hshows, htimeline, hread⟩
  refine ⟨?_, hread⟩
  have hceiling : (max 1 maxSteps).toNat - 1 + 1 = ceiling := by omega
  have hlimit : decide ((max 1 maxSteps).toNat - 1 < (Record.marks records).length)
      = decide (ceiling ≤ (Record.marks records).length) := by
    rw [decide_eq_decide, ← hceiling]
    apply Nat.lt_iff_add_one_le
  have hheap : replay.heap = ⟨Record.objects read⟩ := by
    rw [← hshows.heap]
  rw [htimeline, hshows.steps_eq, hceiling, hlimit, hheap]

theorem ofRaw_wire_eq_replay_stopped :
    let text := "HEAPPUT:a:[\nHEAPPUT:a:\x7b\x7d\nVARBIND:x:1\nLINEMARK:7\nhello\nLINEMARK:3\n"
    let records := Record.ofLines (Text.closedLines text)
    let timeline : Timeline :=
      { steps :=
          [.initial,
           { currentLine := 7
             executedLines := [7]
             frames := [{ name := wireFrameName, bindings := [("x", .str "1")] }]
             objects := [{ id := "a" }]
             output := "hello\n" }]
        heap := ⟨[{ id := "a" }]⟩
        truncated := true }
    ofRaw (.wire text false) 2 = .ok timeline
      ∧ timeline
          =
        { steps :=
            (List.range (min 2 ((Record.marks records).length + 1))).map
              (Record.stepAt false records)
          heap := ⟨Record.objects (Record.before 1 records)⟩
          truncated := decide (2 ≤ (Record.marks records).length) } := by
  intro text records timeline
  have h : ofRaw (.wire text false) 2 = .ok timeline := by decide +kernel
  exact ⟨h, (ofRaw_wire_eq_replay h).1⟩

end Playback.Timeline
