import Playback.Judge.Remote

/-!
This module contains what one response of a service amounts to: the program is pending, or there is a
verdict on it, or nothing can be made of the response.
-/

namespace Playback.Judge

namespace Response

/--
Whether a request failed in a way that may be gone with the next attempt.
-/
def isTransient : Response → Bool
  | .unreachable isTransient _ => isTransient
  | _ => false

/--
Whether the service has responded at all, be it in order to tell of an error.
-/
def isReply : Response → Bool
  | .json _ | .unreadable _ | .refused _ => true
  | .unreachable _ _ | .badAddress _ => false

def failure? : Response → Option String
  | .unreadable message | .refused message | .unreachable _ message => some message
  | .json _ | .badAddress _ => none

theorem isTransient_of_isReply {response : Response} (h : response.isReply = true) :
    response.isTransient = false := by
  cases response with
  | unreachable isTransient message => contradiction
  | _ => rfl

end Response

namespace Service

/--
The number of the state that a reply says the program is in.
-/
def HasStatusId (reply id : Json) : Prop :=
  ∃ fields, status reply = .ok fields ∧ (fields.get? "id").getD .null = id

/--
Whether a reply says that the program still waits or runs.
-/
def Pending (reply : Json) : Prop :=
  ∃ id, HasStatusId reply id ∧ (id.equalsInt 1 = true ∨ id.equalsInt 2 = true)

def Finished (reply : Json) : Prop :=
  ∃ id, HasStatusId reply id ∧ id.equalsInt 1 = false ∧ id.equalsInt 2 = false

/--
A time that is no number of seconds, and what follows from it.
-/
inductive BadTime : Json → Breakdown → Prop where
  | text {s : String} {fault : Text.NumeralFault} (nonempty : s ≠ "")
      (fails : Text.readDecimal s = .error fault) : BadTime (.str s) (.timeNumeral fault)
  | whole {n : Int} (nonzero : n ≠ 0) (tooLarge : (Binary64.ofInt n).isFinite = false) :
      BadTime (.int n) .timeTooLarge
  | items {items : List Json} (nonempty : items ≠ []) :
      BadTime (.arr items) (.timeKind (.arr items))
  | fields {fields : Fields} (nonempty : fields ≠ []) :
      BadTime (.obj fields) (.timeKind (.obj fields))

/--
A response that nothing can be made of: there is no address to ask, the reply or its status is no object,
or the time of a program that is done is no number.
-/
inductive Flawed : Response → Breakdown → Prop where
  | address {message : String} : Flawed (.badAddress message) (.badAddress message)
  | reply {reply : Json} (kind : reply.asObject? = none) : Flawed (.json reply) .malformedReply
  | status {reply value : Json} (present : reply.field? "status" = some value)
      (truthy : value.isTruthy = true) (kind : value.asObject? = none) :
      Flawed (.json reply) .malformedReply
  | time {reply time : Json} {breakdown : Breakdown} (finished : Finished reply)
      (present : reply.field? "time" = some time) (bad : BadTime time breakdown) :
      Flawed (.json reply) breakdown

theorem isPending_iff (fields : Fields) :
    isPending fields = true
      ↔
    ((fields.get? "id").getD .null).equalsInt 1 = true
      ∨ ((fields.get? "id").getD .null).equalsInt 2 = true := by
  rw [isPending, inQueueId, processingId, Bool.or_eq_true]

theorem pending_iff {reply : Json} {fields : Fields} (h : status reply = .ok fields) :
    Pending reply ↔ isPending fields = true := by
  rw [isPending_iff]
  constructor
  · rintro ⟨id, ⟨others, hothers, rfl⟩, hid⟩
    rw [h, Except.ok.injEq] at hothers
    rw [hothers]
    exact hid
  · intro hid
    exact ⟨_, ⟨fields, h, rfl⟩, hid⟩

theorem finished_iff {reply : Json} {fields : Fields} (h : status reply = .ok fields) :
    Finished reply ↔ isPending fields = false := by
  rw [← Bool.not_eq_true, isPending_iff, not_or, Bool.not_eq_true, Bool.not_eq_true]
  constructor
  · rintro ⟨id, ⟨others, hothers, rfl⟩, hid⟩
    rw [h, Except.ok.injEq] at hothers
    rw [hothers]
    exact hid
  · intro hid
    exact ⟨_, ⟨fields, h, rfl⟩, hid⟩

theorem exists_status_of_finished {reply : Json} (h : Finished reply) :
    ∃ fields, status reply = .ok fields := by
  rcases h with ⟨id, ⟨fields, hfields, _⟩, _⟩
  exact ⟨fields, hfields⟩

theorem status_of_object {reply : Json} {fields : Fields} (h : reply.asObject? = some fields) :
    status reply
      =
    let value := (reply.field? "status").getD .null
    if value.isTruthy then value.asObject?.elim (.error .malformedReply) .ok else .ok [] := by
  have hfield : reply.field? "status" = fields.get? "status" := by
    cases reply with
    | obj others =>
      rw [Json.asObject?, Option.some.injEq] at h
      rw [← h]
      rfl
    | _ => contradiction
  unfold status
  rw [h, hfield]
  rfl

theorem status_eq_error_iff (reply : Json) (breakdown : Breakdown) :
    status reply = .error breakdown
      ↔
    breakdown = .malformedReply
      ∧ (reply.asObject? = none
        ∨ ∃ value, reply.field? "status" = some value ∧ value.isTruthy = true
            ∧ value.asObject? = none) := by
  cases hobject : reply.asObject? with
  | none =>
    have hstatus : status reply = .error .malformedReply := by
      unfold status
      rw [hobject]
      rfl
    rw [hstatus, Except.error.injEq]
    constructor
    · rintro rfl
      exact ⟨rfl, .inl rfl⟩
    · rintro ⟨rfl, _⟩
      rfl
  | some fields =>
    rw [status_of_object hobject]
    cases reply.field? "status" with
    | none => simp [Json.isTruthy]
    | some value =>
      rw [Option.getD_some]
      constructor
      · intro h
        dsimp only at h
        split at h
        · next htruthy =>
          cases hkind : value.asObject? with
          | none =>
            rw [hkind, Option.elim_none, Except.error.injEq] at h
            exact ⟨h.symm, .inr ⟨value, rfl, htruthy, hkind⟩⟩
          | some others =>
            rw [hkind] at h
            contradiction
        · contradiction
      · rintro ⟨rfl, hnone | ⟨other, hother, htruthy, hkind⟩⟩
        · contradiction
        · rw [Option.some.inj hother]
          simp [htruthy, hkind]

theorem milliseconds_eq_error_iff (time : Json) (breakdown : Breakdown) :
    milliseconds time = .error breakdown ↔ BadTime time breakdown := by
  constructor
  · intro h
    unfold milliseconds at h
    split at h
    · next htruthy =>
      cases time with
      | null => contradiction
      | bool b => contradiction
      | float x => contradiction
      | int n =>
        dsimp only at h
        split at h
        · contradiction
        · next hfinite =>
          rw [← Except.error.inj h]
          exact .whole (by simpa [Json.isTruthy] using htruthy) (by simpa using hfinite)
      | str s =>
        dsimp only at h
        split at h
        · contradiction
        · next fault hfault =>
          rw [← Except.error.inj h]
          exact .text (by simpa [Json.isTruthy] using htruthy) hfault
      | arr items =>
        rw [← Except.error.inj h]
        exact .items (by simpa [Json.isTruthy] using htruthy)
      | obj fields =>
        rw [← Except.error.inj h]
        exact .fields (by simpa [Json.isTruthy] using htruthy)
    · contradiction
  · rintro (⟨hne, hfault⟩ | ⟨hne, hfinite⟩ | hne | hne)
    · simp [milliseconds, Json.isTruthy, hne, hfault]
    · simp [milliseconds, Json.isTruthy, hne, hfinite]
    · simp [milliseconds, Json.isTruthy, hne]
    · simp [milliseconds, Json.isTruthy, hne]

theorem verdict_eq_error_iff {reply : Json} {fields : Fields} (h : status reply = .ok fields)
    (breakdown : Breakdown) :
    verdict reply = .error breakdown
      ↔
    ∃ time, reply.field? "time" = some time ∧ BadTime time breakdown := by
  have hmilliseconds : verdict reply = .error breakdown
      ↔ milliseconds ((reply.field? "time").getD .null) = .error breakdown := by
    unfold verdict
    rw [h]
    cases milliseconds ((reply.field? "time").getD .null) with
    | error other => simp only [bind, Except.bind, Except.error.injEq]
    | ok time =>
      simp only [bind, Except.bind, pure, Except.pure]
      exact iff_of_false nofun nofun
  rw [hmilliseconds]
  cases reply.field? "time" with
  | none =>
    rw [Option.getD_none, milliseconds_eq_error_iff]
    exact iff_of_false nofun nofun
  | some time =>
    rw [Option.getD_some, milliseconds_eq_error_iff]
    simp

theorem settled_json {reply : Json} {fields : Fields} (h : status reply = .ok fields) :
    settled (.json reply)
      =
    if isPending fields then .ok none else (verdict reply).map some := by
  unfold settled
  simp only [h, bind, Except.bind, pure, Except.pure]
  split
  · rfl
  · cases verdict reply with
    | error breakdown => rfl
    | ok verdict => rfl

theorem settled_json_of_error {reply : Json} {breakdown : Breakdown}
    (h : status reply = .error breakdown) : settled (.json reply) = .error breakdown := by
  unfold settled
  simp only [h, bind, Except.bind]

theorem flawed_json_iff (reply : Json) (breakdown : Breakdown) :
    Flawed (.json reply) breakdown
      ↔
    status reply = .error breakdown
      ∨ (Finished reply ∧ ∃ time, reply.field? "time" = some time ∧ BadTime time breakdown) := by
  rw [status_eq_error_iff]
  constructor
  · intro h
    cases h with
    | reply kind => exact .inl ⟨rfl, .inl kind⟩
    | status present truthy kind => exact .inl ⟨rfl, .inr ⟨_, present, truthy, kind⟩⟩
    | time finished present bad => exact .inr ⟨finished, _, present, bad⟩
  · rintro (⟨rfl, kind | ⟨value, present, truthy, kind⟩⟩ | ⟨finished, time, present, bad⟩)
    · exact .reply kind
    · exact .status present truthy kind
    · exact .time finished present bad

theorem settled_eq_error_iff (response : Response) (breakdown : Breakdown) :
    settled response = .error breakdown ↔ Flawed response breakdown := by
  cases response with
  | json reply =>
    rw [flawed_json_iff]
    -- Without a status a program is neither pending nor done, so that its time does not matter.
    cases hstatus : status reply with
    | error other =>
      rw [settled_json_of_error hstatus, Except.error.injEq, Except.error.injEq, iff_self_or]
      rintro ⟨hfinished, _⟩
      rcases exists_status_of_finished hfinished with ⟨fields, hfields⟩
      rw [hstatus] at hfields
      contradiction
    | ok fields =>
      rw [settled_json hstatus, finished_iff hstatus, ← verdict_eq_error_iff hstatus]
      cases hpending : isPending fields with
      | true => simp
      | false =>
        cases verdict reply with
        | error other => simp [Except.map]
        | ok verdict => simp [Except.map]
  | unreadable message => exact iff_of_false nofun nofun
  | refused message => exact iff_of_false nofun nofun
  | unreachable isTransient message => exact iff_of_false nofun nofun
  | badAddress message =>
    constructor
    · intro h
      rw [← Except.error.inj h]
      exact .address
    · rintro ⟨⟩
      rfl

/-
The program is pending if and only if there is no verdict and nothing is wrong with the response.
-/
theorem settled_eq_none_iff (response : Response) :
    settled response = .ok none ↔ ∃ reply, response = .json reply ∧ Pending reply := by
  constructor
  · intro h
    cases response with
    | json reply =>
      refine ⟨reply, rfl, ?_⟩
      cases hstatus : status reply with
      | error other =>
        rw [settled_json_of_error hstatus] at h
        contradiction
      | ok fields =>
        rw [pending_iff hstatus]
        rw [settled_json hstatus] at h
        cases hpending : isPending fields with
        | true => rfl
        | false =>
          cases hverdict : verdict reply with
          | error breakdown => simp [hpending, hverdict, Except.map] at h
          | ok verdict => simp [hpending, hverdict, Except.map] at h
    | _ => simp [settled] at h
  · rintro ⟨reply, rfl, id, ⟨fields, hfields, rfl⟩, hid⟩
    rw [settled_json hfields, if_pos ((isPending_iff fields).mpr hid)]

theorem settled_json_eq_some_iff (reply : Json) (given : Verdict) :
    settled (.json reply) = .ok (some given) ↔ Finished reply ∧ verdict reply = .ok given := by
  cases hstatus : status reply with
  | error other =>
    rw [settled_json_of_error hstatus]
    refine iff_of_false nofun ?_
    rintro ⟨hfinished, _⟩
    rcases exists_status_of_finished hfinished with ⟨fields, hfields⟩
    rw [hstatus] at hfields
    contradiction
  | ok fields =>
    rw [settled_json hstatus, finished_iff hstatus]
    cases isPending fields with
    | true => simp
    | false =>
      cases verdict reply with
      | error breakdown => simp [Except.map]
      | ok verdict => simp [Except.map]

theorem settled_eq_some_iff (response : Response) (given : Verdict) :
    settled response = .ok (some given)
      ↔
    (∃ reply, response = .json reply ∧ Finished reply ∧ verdict reply = .ok given)
      ∨ ∃ message, response.failure? = some message ∧ given = pollingFailed message := by
  cases response with
  | json reply => simp [settled_json_eq_some_iff, Response.failure?]
  | badAddress message => simp [settled, Response.failure?]
  | unreadable message => simp [settled, Response.failure?, eq_comm]
  | refused message => simp [settled, Response.failure?, eq_comm]
  | unreachable isTransient message => simp [settled, Response.failure?, eq_comm]

end Service

end Playback.Judge
