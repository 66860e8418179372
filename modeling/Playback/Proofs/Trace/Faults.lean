import Playback.Proofs.Trace.Parse
import Playback.Proofs.Trace.Replay

/-!
This module contains the exact reasons why records cannot be replayed: which lines no replay gets
past, and that a replay fails for nothing but the first of them in front of its end.
-/

namespace Playback

namespace Record

theorem typeName?_eq_none_iff (type : Json) :
    HeapEntry.typeName? type = none ↔ type.isTruthy = true ∧ type.asText? = none := by
  unfold HeapEntry.typeName?
  split
  · next hpresent => simp [hpresent]
  · next habsent => simp [habsent]

/-
The default takes the place of a type that is absent or empty, and it is a text.
-/
theorem typeName?_decodePayload_eq_none_iff (rawJson : String) (type : Json) :
    (∃ value, decodePayload rawJson = .ok (type, value) ∧ HeapEntry.typeName? type = none)
      ↔
    ∃ fields, Json.read rawJson = .ok (.obj fields) ∧ fields.lookup "type" = some type
      ∧ type.isTruthy = true ∧ type.asText? = none := by
  rw [typeName?_eq_none_iff]
  unfold decodePayload
  constructor
  · rintro ⟨value, hdecode, hpresent, htext⟩
    split at hdecode
    · contradiction
    · next fields hread =>
      rw [Except.ok.injEq, Prod.mk.injEq] at hdecode
      refine ⟨fields, hread, ?_, hpresent, htext⟩
      have htype := hdecode.1
      split at htype
      · next hgiven =>
        cases hlookup : fields.lookup "type" with
        | none =>
          rw [hlookup] at hgiven
          contradiction
        | some given =>
          rw [hlookup] at htype
          rw [← htype]
          rfl
      · rw [← htype] at htext
        contradiction
    · contradiction
  · rintro ⟨fields, hread, hlookup, hpresent, htext⟩
    refine ⟨(fields.lookup "value").getD .null, ?_, hpresent, htext⟩
    rw [hread]
    simp [hlookup, hpresent]

/--
Why no replay gets past a line.
-/
inductive Blocks (line : String) : ReplayFault → Prop where
  | numeral (hdigits : Text.maxDigits < (markDigits line).length) :
    Blocks line (.numeral (.tooManyDigits (markDigits line).length))
  | objectType {id rawJson : String} {fields : Fields} {type : Json}
    (hline : parse line = .ok (.heapPut id rawJson))
    (hpayload : Json.read rawJson = .ok (.obj fields)) (htype : fields.lookup "type" = some type)
    (hpresent : type.isTruthy = true) (htext : type.asText? = none) :
    Blocks line (.objectType type)

theorem exists_parse_of_not_blocks {line : String} (h : ∀ fault, ¬ Blocks line fault) :
    ∃ record, parse line = .ok record := by
  cases hparse : parse line with
  | error fault =>
    rw [parse_eq_error_iff] at hparse
    exact absurd (.numeral hparse.1) (h _)
  | ok record => exact ⟨record, rfl⟩

theorem not_blocks_of_parse {line : String} {record : Record} (hparse : parse line = .ok record)
    (hobject : ∀ id rawJson, record = .heapPut id rawJson → record.object?.isSome = true)
    (fault : ReplayFault) : ¬ Blocks line fault := by
  intro h
  cases h with
  | numeral hdigits =>
    have herror := (parse_eq_error_iff line _).mpr ⟨hdigits, rfl⟩
    rw [hparse] at herror
    cases herror
  | @objectType id rawJson fields type hline hpayload htype hpresent htext =>
    rw [hparse, Except.ok.injEq] at hline
    specialize hobject id rawJson hline
    have hdecode := (typeName?_decodePayload_eq_none_iff rawJson type).mpr
      ⟨fields, hpayload, htype, hpresent, htext⟩
    rcases hdecode with ⟨value, hdecode, hnone⟩
    rw [hline] at hobject
    simp [object?, hdecode, hnone] at hobject

end Record

namespace Timeline

namespace Replay

theorem follow_eq_error_iff (cumulative : Bool) (replay : Replay) (record : Record)
    (fault : ReplayFault) :
    replay.follow cumulative record = .error fault
      ↔
    ∃ id rawJson type, record = .heapPut id rawJson ∧ fault = .objectType type
      ∧ ∃ value, Record.decodePayload rawJson = .ok (type, value)
          ∧ HeapEntry.typeName? type = none := by
  cases record with
  | heapPut id rawJson =>
    change replay.putObject id rawJson = .error fault ↔ _
    unfold putObject
    constructor
    · intro h
      split at h
      · contradiction
      · next type value hdecode =>
        split at h
        · next htype =>
          rw [Except.error.injEq] at h
          exact ⟨id, rawJson, type, rfl, h.symm, value, hdecode, htype⟩
        · contradiction
    · rintro ⟨_, _, type, heq, rfl, value, hdecode, htype⟩
      rw [Record.heapPut.injEq] at heq
      rcases heq with ⟨rfl, rfl⟩
      simp [hdecode, htype]
  | varBind name rawValue => simp [follow]
  | plainText text => simp [follow]
  | lineMark line => simp [follow]

theorem run_cons_of_blocks {line : String} {fault : ReplayFault} (h : Record.Blocks line fault)
    (cumulative : Bool) (room : Nat) (replay : Replay) (lines : List String) :
    run cumulative room replay (line :: lines) = .error fault := by
  cases h with
  | numeral hdigits =>
    have hparse : Record.parse line = .error (.tooManyDigits (Record.markDigits line).length) := by
      rw [Record.parse_eq_error_iff]
      exact ⟨hdigits, rfl⟩
    rw [run_cons_of_error hparse]
  | @objectType id rawJson fields type hline hpayload htype hpresent htext =>
    have hfollow : replay.follow cumulative (.heapPut id rawJson) = .error (.objectType type) := by
      rw [follow_eq_error_iff]
      refine ⟨id, rawJson, type, rfl, rfl, ?_⟩
      rw [Record.typeName?_decodePayload_eq_none_iff]
      exact ⟨fields, hpayload, htype, hpresent, htext⟩
    rw [run_cons_of_parse hline, hfollow]
    rfl

theorem blocks_unique {line : String} {fault fault' : ReplayFault}
    (h : Record.Blocks line fault) (h' : Record.Blocks line fault') : fault = fault' := by
  have hrun := run_cons_of_blocks h false 0 {} []
  rw [run_cons_of_blocks h', Except.error.injEq] at hrun
  exact hrun.symm

theorem exists_follow_of_not_blocks {line : String} {record : Record}
    (hparse : Record.parse line = .ok record) (h : ∀ fault, ¬ Record.Blocks line fault)
    (cumulative : Bool) (replay : Replay) :
    ∃ next, replay.follow cumulative record = .ok next := by
  cases hfollow : replay.follow cumulative record with
  | error fault =>
    rw [follow_eq_error_iff] at hfollow
    rcases hfollow with ⟨id, rawJson, type, rfl, rfl, htype⟩
    rw [Record.typeName?_decodePayload_eq_none_iff] at htype
    rcases htype with ⟨fields, hpayload, htype, hpresent, htext⟩
    exact absurd (.objectType hparse hpayload htype hpresent htext) (h _)
  | ok next => exact ⟨next, rfl⟩

/--
The fault of the first line that no replay gets past, if that line stands in front of the line mark
for which there is no room.
-/
def BlockedBy (room : Nat) (lines : List String) (fault : ReplayFault) : Prop :=
  ∃ front line back, lines = front ++ line :: back
    ∧ (Record.marks (Record.ofLines front)).length ≤ room
    ∧ (∀ l ∈ front, ∀ f, ¬ Record.Blocks l f)
    ∧ Record.Blocks line fault

theorem blockedBy_cons_of_blocks {line : String} {fault : ReplayFault}
    (h : Record.Blocks line fault) (room : Nat) (lines : List String) (other : ReplayFault) :
    BlockedBy room (line :: lines) other ↔ fault = other := by
  constructor
  · rintro ⟨front, blocking, back, heq, _, hfront, hblocking⟩
    cases front with
    | nil =>
      rw [List.nil_append, List.cons.injEq] at heq
      rw [← heq.1] at hblocking
      exact blocks_unique h hblocking
    | cons first front =>
      rw [List.cons_append, List.cons.injEq] at heq
      rw [← heq.1] at hfront
      exact absurd h (hfront line (by simp) fault)
  · rintro rfl
    exact ⟨[], line, lines, rfl, Nat.zero_le _, by simp, h⟩

theorem blockedBy_cons_of_not_blocks {line : String} (h : ∀ f, ¬ Record.Blocks line f) (room : Nat)
    (lines : List String) (fault : ReplayFault) :
    BlockedBy room (line :: lines) fault
      ↔
    (Record.marks (Record.ofLines [line])).length ≤ room
      ∧ BlockedBy (room - (Record.marks (Record.ofLines [line])).length) lines fault := by
  have hlength (front : List String) := congrArg List.length (Record.marks_ofLines_cons line front)
  simp only [List.length_append] at hlength
  constructor
  · rintro ⟨front, blocking, back, heq, hroom, hfront, hblocking⟩
    cases front with
    | nil =>
      rw [List.nil_append, List.cons.injEq] at heq
      rw [← heq.1] at hblocking
      exact absurd hblocking (h fault)
    | cons first front =>
      rw [List.cons_append, List.cons.injEq] at heq
      rcases heq with ⟨rfl, rfl⟩
      rw [List.forall_mem_cons] at hfront
      rw [hlength] at hroom
      exact ⟨by omega, front, blocking, back, rfl, by omega, hfront.2, hblocking⟩
  · rintro ⟨hle, front, blocking, back, rfl, hroom, hfront, hblocking⟩
    refine ⟨line :: front, blocking, back, rfl, ?_, ?_, hblocking⟩
    · rw [hlength]
      omega
    · rw [List.forall_mem_cons]
      exact ⟨h, hfront⟩

theorem run_eq_error_iff (cumulative : Bool) (room : Nat) (replay : Replay) (lines : List String)
    (fault : ReplayFault) :
    run cumulative room replay lines = .error fault ↔ BlockedBy room lines fault := by
  induction lines generalizing room replay with
  | nil => simp [run_nil, BlockedBy]
  | cons line lines ih =>
    -- If the first line can be got past, its record decides how much room is left to the others.
    by_cases hline : ∃ f, Record.Blocks line f
    · rcases hline with ⟨f, hline⟩
      rw [run_cons_of_blocks hline, blockedBy_cons_of_blocks hline, Except.error.injEq]
    · rw [not_exists] at hline
      rcases Record.exists_parse_of_not_blocks hline with ⟨record, hparse⟩
      rcases exists_follow_of_not_blocks hparse hline cumulative replay with ⟨next, hnext⟩
      have hmarks : Record.marks (Record.ofLines [line]) = record.line?.toList := by
        rw [Record.ofLines_cons_of_parse hparse, Record.marks_cons]
        exact List.append_nil _
      rw [run_cons_of_parse hparse, hnext, blockedBy_cons_of_not_blocks hline, hmarks]
      cases record.line? with
      | none =>
        change run cumulative room next lines = .error fault ↔ _
        simp [ih]
      | some l =>
        cases room with
        | zero => simp
        | succ left =>
          change run cumulative left next lines = .error fault ↔ _
          simp [ih]

theorem exists_blockedBy (room : Nat) (front back : List String) {line : String}
    {fault : ReplayFault} (hroom : (Record.marks (Record.ofLines front)).length ≤ room)
    (hline : Record.Blocks line fault) : ∃ first, BlockedBy room (front ++ line :: back) first := by
  induction front generalizing room with
  | nil => exact ⟨fault, [], line, back, rfl, hroom, by simp, hline⟩
  | cons l front ih =>
    by_cases hl : ∃ f, Record.Blocks l f
    · rcases hl with ⟨f, hl⟩
      refine ⟨f, ?_⟩
      rw [List.cons_append, blockedBy_cons_of_blocks hl]
    · rw [not_exists] at hl
      rw [Record.marks_ofLines_cons, List.length_append] at hroom
      rcases ih (room - (Record.marks (Record.ofLines [l])).length) (by omega)
        with ⟨first, hfirst⟩
      refine ⟨first, ?_⟩
      rw [List.cons_append, blockedBy_cons_of_not_blocks hl]
      exact ⟨by omega, hfirst⟩

end Replay

theorem ofWire_eq_error_iff (text : String) (cumulative : Bool) (maxSteps : Int)
    (fault : ReplayFault) :
    ofWire text cumulative maxSteps = .error fault
      ↔
    Replay.BlockedBy ((max 1 maxSteps).toNat - 1) (Text.closedLines text) fault := by
  rw [← Replay.run_eq_error_iff cumulative _ {}]
  unfold ofWire
  dsimp only
  cases Replay.run cumulative ((max 1 maxSteps).toNat - 1) {} (Text.closedLines text) with
  | error f => simp [bind, Except.bind]
  | ok result => simp [bind, Except.bind, pure, Except.pure]

theorem exists_ofWire_of_not_blocks {text : String}
    (h : ∀ line ∈ Text.closedLines text, ∀ fault, ¬ Record.Blocks line fault) (cumulative : Bool)
    (maxSteps : Int) : ∃ timeline, ofWire text cumulative maxSteps = .ok timeline := by
  cases hresult : ofWire text cumulative maxSteps with
  | error fault =>
    rw [ofWire_eq_error_iff] at hresult
    rcases hresult with ⟨front, line, back, hlines, _, _, hline⟩
    exact absurd hline (h line (by simp [hlines]) fault)
  | ok timeline => exact ⟨timeline, rfl⟩

/--
A text is replayed exactly where none of its lines up to the last one that is looked at has a line
number of too many digits or an object of a type that is no text, and otherwise the first of these
lines is the fault.
-/
theorem exists_ofRaw_wire_iff (text : String) (cumulative : Bool) (maxSteps : Int) :
    ((∃ timeline, ofRaw (.wire text cumulative) maxSteps = .ok timeline)
        ↔
      ∀ front line back fault, Text.closedLines text = front ++ line :: back →
        (Record.marks (Record.ofLines front)).length < max 1 maxSteps →
        ¬ Record.Blocks line fault)
      ∧ ∀ fault, ofRaw (.wire text cumulative) maxSteps = .error fault
          ↔
        Replay.BlockedBy ((max 1 maxSteps).toNat - 1) (Text.closedLines text) fault := by
  refine ⟨?_, ofWire_eq_error_iff text cumulative maxSteps⟩
  constructor
  · rintro ⟨timeline, htimeline⟩ front line back fault hlines hroom hline
    have hle : (Record.marks (Record.ofLines front)).length ≤ (max 1 maxSteps).toNat - 1 := by
      omega
    rcases Replay.exists_blockedBy _ front back hle hline with ⟨first, hfirst⟩
    rw [← hlines, ← ofWire_eq_error_iff text cumulative] at hfirst
    rw [ofRaw, hfirst] at htimeline
    cases htimeline
  · intro h
    cases hresult : ofRaw (.wire text cumulative) maxSteps with
    | error fault =>
      rcases (ofWire_eq_error_iff text cumulative maxSteps fault).mp hresult
        with ⟨front, line, back, hlines, hroom, _, hline⟩
      exact absurd hline (h front line back fault hlines (by omega))
    | ok timeline => exact ⟨timeline, rfl⟩

theorem exists_ofRaw_wire_fails :
    let text := "HEAPPUT:a:\x7b\"type\":5\x7d\nLINEMARK:1\n"
    ofRaw (.wire text false) defaultMaxSteps = .error (.objectType (.int 5)) := by
  decide +kernel

end Timeline

end Playback
