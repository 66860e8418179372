import Playback.Proofs.Judge.Reply

/-!
This module contains the course of a submission: which attempt to submit is the last one, how often the
service is asked for the result, and what comes out of it.
-/

namespace Playback.Judge

def attempts (body : Fields) (waits : List Binary64) : List Exchange :=
  waits.flatMap (fun wait => [.post body, .retryWait wait]) ++ [.post body]

def questions (path : String) (wait : Binary64) (count : Nat) : List Exchange :=
  (List.replicate count [Exchange.sleep wait, .get path]).flatten

def resultPath (token : Json) : String :=
  submissionsPath ++ "/" ++ token.display

theorem attempts_cons (body : Fields) (wait : Binary64) (waits : List Binary64) :
    attempts body (wait :: waits) = [.post body, .retryWait wait] ++ attempts body waits := by
  rw [attempts, List.flatMap_cons, List.append_assoc, attempts]

theorem questions_succ (path : String) (wait : Binary64) (count : Nat) :
    questions path wait (count + 1) = [.sleep wait, .get path] ++ questions path wait count := by
  rw [questions, List.replicate_succ, List.flatten_cons, questions]

theorem questions_succ_last (path : String) (wait : Binary64) (count : Nat) :
    questions path wait (count + 1) = questions path wait count ++ [.sleep wait, .get path] := by
  rw [questions, List.replicate_succ', List.flatten_concat, questions]

namespace Service

/--
Whether an attempt to submit is the last one. Attempts are counted from zero.
-/
structure LastAttempt (service : Service) (attempt : Nat) : Prop where
  le : attempt ≤ retryWaits.length
  earlier : ∀ other < attempt, (service.post other).isTransient = true
  enough : attempt < retryWaits.length → (service.post attempt).isTransient = false

/--
Whether the service is asked once more after a question. Questions are counted from zero, and the clock is
read once before the first one in order to set the deadline.
-/
structure AsksOn (service : Service) (deadline : Rat) (poll : Nat) : Prop where
  inTime : service.clock (poll + 1) < deadline
  pending : ∃ reply, service.get poll = .json reply ∧ Pending reply

inductive TurnedDown : Response → String → Prop where
  | failure {response : Response} {message : String} (failure : response.failure? = some message) :
      TurnedDown response message
  | token {reply : Json} {message : String} (missing : token reply = .error message) :
      TurnedDown (.json reply) message

/--
Whether an attempt is the last one and a submission has been taken, with the token of it.
-/
structure Taken (service : Service) (attempt : Nat) (token : Json) : Prop where
  last : service.LastAttempt attempt
  reply : ∃ reply, service.post attempt = .json reply ∧ Service.token reply = .ok token

/--
The course of a submission: its result and what is seen of it.
-/
inductive Course (service : Service) (config : Config) (submission : Submission) (fuel : Nat) :
    Except Breakdown Verdict → List Exchange → Prop where
  | turnedDown {attempt : Nat} {message : String} (last : service.LastAttempt attempt)
      (turnedDown : TurnedDown (service.post attempt) message) :
      Course service config submission fuel (.ok (submissionFailed message))
        (attempts (payload submission) (retryWaits.take attempt))
  | unaddressed {attempt : Nat} {message : String} (last : service.LastAttempt attempt)
      (address : service.post attempt = .badAddress message) :
      Course service config submission fuel (.error (.badAddress message))
        (attempts (payload submission) (retryWaits.take attempt))
  | undecided {attempt : Nat} {token : Json} (taken : service.Taken attempt token)
      (earlier : ∀ poll < fuel, service.AsksOn (deadline config (service.clock 0)) poll) :
      Course service config submission fuel (.error .undecided)
        (attempts (payload submission) (retryWaits.take attempt)
          ++ questions (resultPath token) (Config.seconds config.wait) fuel)
  | late {attempt polls : Nat} {token : Json} (taken : service.Taken attempt token)
      (earlier : ∀ poll < polls, service.AsksOn (deadline config (service.clock 0)) poll)
      (enough : polls < fuel) (expired : deadline config (service.clock 0) ≤ service.clock (polls + 1)) :
      Course service config submission fuel (.ok .late)
        (attempts (payload submission) (retryWaits.take attempt)
          ++ questions (resultPath token) (Config.seconds config.wait) polls)
  | flawed {attempt poll : Nat} {token : Json} {breakdown : Breakdown}
      (taken : service.Taken attempt token)
      (earlier : ∀ other < poll, service.AsksOn (deadline config (service.clock 0)) other)
      (enough : poll < fuel) (inTime : service.clock (poll + 1) < deadline config (service.clock 0))
      (flawed : Flawed (service.get poll) breakdown) :
      Course service config submission fuel (.error breakdown)
        (attempts (payload submission) (retryWaits.take attempt)
          ++ questions (resultPath token) (Config.seconds config.wait) (poll + 1))
  | settled {attempt poll : Nat} {token : Json} {verdict : Verdict}
      (taken : service.Taken attempt token)
      (earlier : ∀ other < poll, service.AsksOn (deadline config (service.clock 0)) other)
      (enough : poll < fuel) (inTime : service.clock (poll + 1) < deadline config (service.clock 0))
      (settled : settled (service.get poll) = .ok (some verdict)) :
      Course service config submission fuel (.ok verdict)
        (attempts (payload submission) (retryWaits.take attempt)
          ++ questions (resultPath token) (Config.seconds config.wait) (poll + 1))

/-
Up to any bound there is a first number without a property, or else it is the bound.
-/
theorem exists_first (p : Nat → Prop) (bound : Nat) :
    ∃ first ≤ bound, (∀ n < first, p n) ∧ (first < bound → ¬ p first) := by
  induction bound with
  | zero => exact ⟨0, by omega, by omega, by omega⟩
  | succ bound ih =>
    rcases ih with ⟨first, hle, hearlier, hfirst⟩
    by_cases hlt : first < bound
    · exact ⟨first, by omega, hearlier, fun _ => hfirst hlt⟩
    · by_cases hp : p first
      · refine ⟨first + 1, by omega, ?_, by omega⟩
        intro n hn
        rcases Nat.lt_succ_iff_lt_or_eq.mp hn with hn | rfl
        · exact hearlier n hn
        · exact hp
      · exact ⟨first, by omega, hearlier, fun _ => hp⟩

theorem exists_lastAttempt (service : Service) : ∃ attempt, service.LastAttempt attempt := by
  rcases exists_first (fun n => (service.post n).isTransient = true) retryWaits.length with
    ⟨attempt, hle, hearlier, hlast⟩
  exact ⟨attempt, hle, hearlier, fun hlt => Bool.not_eq_true _ ▸ hlast hlt⟩

theorem create_of_transient {service : Service} {body : Fields} {attempt : Nat} {wait : Binary64}
    {waits : List Binary64} (h : (service.post attempt).isTransient = true) :
    service.create body attempt (wait :: waits)
      =
    ((service.create body (attempt + 1) waits).1,
      .post body :: .retryWait wait :: (service.create body (attempt + 1) waits).2) := by
  rw [create]
  cases hpost : service.post attempt with
  | unreachable isTransient message =>
    rw [hpost, Response.isTransient] at h
    rw [h]
  | _ => simp [hpost, Response.isTransient] at h

theorem create_of_not_transient {service : Service} {body : Fields} {attempt : Nat}
    {waits : List Binary64} (h : (service.post attempt).isTransient = false) :
    service.create body attempt waits = (service.post attempt, [.post body]) := by
  cases waits with
  | nil => rfl
  | cons wait waits =>
    rw [create]
    cases hpost : service.post attempt with
    | unreachable isTransient message =>
      rw [hpost, Response.isTransient] at h
      rw [h]
    | _ => rfl

theorem create_eq (service : Service) (body : Fields) {waits : List Binary64} {attempt retries : Nat}
    (hle : retries ≤ waits.length)
    (hearlier : ∀ other < retries, (service.post (attempt + other)).isTransient = true)
    (henough : retries < waits.length → (service.post (attempt + retries)).isTransient = false) :
    service.create body attempt waits
      =
    (service.post (attempt + retries), attempts body (waits.take retries)) := by
  -- Each retry uses up one wait, so the attempts go on where the waits do.
  induction waits generalizing attempt retries with
  | nil =>
    have hretries : retries = 0 := by simpa using hle
    rw [hretries]
    rfl
  | cons wait waits ih =>
    cases retries with
    | zero => exact create_of_not_transient (henough (by simp))
    | succ retries =>
      have hadd : ∀ n, attempt + (n + 1) = attempt + 1 + n := by omega
      have hfirst : (service.post attempt).isTransient = true := hearlier 0 (by omega)
      rw [create_of_transient hfirst, @ih (attempt + 1) retries]
      · rw [← hadd retries, List.take_succ_cons, attempts_cons]
        rfl
      · simpa using hle
      · intro other hother
        rw [← hadd]
        exact hearlier (other + 1) (by omega)
      · intro hlt
        rw [← hadd]
        exact henough (by simpa using hlt)

theorem LastAttempt.create {service : Service} {attempt : Nat} (last : service.LastAttempt attempt)
    (body : Fields) :
    service.create body 0 retryWaits
      =
    (service.post attempt, attempts body (retryWaits.take attempt)) := by
  rw [create_eq service body last.le]
  · rw [Nat.zero_add]
  · simpa using last.earlier
  · simpa using last.enough

theorem AsksOn.await {service : Service} {deadline : Rat} {poll : Nat}
    (asksOn : service.AsksOn deadline poll) (path : String) (wait : Binary64) (fuel : Nat) :
    service.await path wait deadline poll (fuel + 1)
      =
    ((service.await path wait deadline (poll + 1) fuel).1,
      [.sleep wait, .get path] ++ (service.await path wait deadline (poll + 1) fuel).2) := by
  rw [Service.await, if_pos asksOn.inTime, (settled_eq_none_iff _).mpr asksOn.pending]
  rfl

/-
The questions that are asked while the program is pending, and those that come later.
-/
theorem await_add (service : Service) (path : String) (wait : Binary64) {deadline : Rat}
    {first count : Nat} (fuel : Nat)
    (h : ∀ poll < count, service.AsksOn deadline (first + poll)) :
    service.await path wait deadline first (count + fuel)
      =
    ((service.await path wait deadline (first + count) fuel).1,
      questions path wait count ++ (service.await path wait deadline (first + count) fuel).2) := by
  induction count generalizing first with
  | zero => simp [questions]
  | succ count ih =>
    have hadd : ∀ n, first + (n + 1) = first + 1 + n := by omega
    have hfuel : count + 1 + fuel = count + fuel + 1 := by omega
    have hfirst : service.AsksOn deadline first := h 0 (by omega)
    -- The other questions are those that are asked from the next one on.
    have hrest : ∀ poll < count, service.AsksOn deadline (first + 1 + poll) := by
      intro poll hpoll
      rw [← hadd]
      exact h (poll + 1) (by omega)
    rw [hfuel, hfirst.await, ih hrest, hadd count, questions_succ, List.append_assoc]

theorem await_of_asksOn (service : Service) (path : String) (wait : Binary64) {deadline : Rat}
    {count : Nat} (fuel : Nat) (h : ∀ poll < count, service.AsksOn deadline poll) :
    service.await path wait deadline 0 (count + fuel)
      =
    ((service.await path wait deadline count fuel).1,
      questions path wait count ++ (service.await path wait deadline count fuel).2) := by
  have hcount : ∀ poll < count, service.AsksOn deadline (0 + poll) := by simpa using h
  have hawait := await_add service path wait fuel hcount
  rwa [Nat.zero_add] at hawait

theorem await_of_late (service : Service) (path : String) (wait : Binary64) {deadline : Rat}
    {poll : Nat} (fuel : Nat) (expired : deadline ≤ service.clock (poll + 1)) :
    service.await path wait deadline poll (fuel + 1) = (.ok .late, []) := by
  rw [await, if_neg (Rat.not_lt.mpr expired)]

theorem await_of_flawed (service : Service) (path : String) (wait : Binary64) {deadline : Rat}
    {poll : Nat} {breakdown : Breakdown} (fuel : Nat) (inTime : service.clock (poll + 1) < deadline)
    (flawed : Flawed (service.get poll) breakdown) :
    service.await path wait deadline poll (fuel + 1)
      =
    (.error breakdown, [.sleep wait, .get path]) := by
  rw [await, if_pos inTime, (settled_eq_error_iff _ _).mpr flawed]

theorem await_of_settled (service : Service) (path : String) (wait : Binary64) {deadline : Rat}
    {poll : Nat} {verdict : Verdict} (fuel : Nat) (inTime : service.clock (poll + 1) < deadline)
    (settled : settled (service.get poll) = .ok (some verdict)) :
    service.await path wait deadline poll (fuel + 1)
      =
    (.ok verdict, [.sleep wait, .get path]) := by
  rw [await, if_pos inTime, settled]

variable {service : Service} {config : Config} {submission : Submission} {fuel : Nat}

theorem submit_of_turnedDown {attempt : Nat} {message : String} (last : service.LastAttempt attempt)
    (h : TurnedDown (service.post attempt) message) :
    service.submit config submission fuel
      =
    (.ok (submissionFailed message), attempts (payload submission) (retryWaits.take attempt)) := by
  unfold submit
  rw [last.create]
  dsimp only
  generalize service.post attempt = response at h
  cases h with
  | failure hfailure =>
    cases response with
    | json reply => contradiction
    | badAddress message => contradiction
    | unreadable message => rw [Option.some.inj hfailure]
    | refused message => rw [Option.some.inj hfailure]
    | unreachable isTransient message => rw [Option.some.inj hfailure]
  | token hmissing =>
    dsimp only
    rw [hmissing]

theorem Taken.submit {attempt : Nat} {token : Json} (taken : service.Taken attempt token) :
    service.submit config submission fuel
      =
    ((service.await (resultPath token) (Config.seconds config.wait)
        (deadline config (service.clock 0)) 0 fuel).1,
      attempts (payload submission) (retryWaits.take attempt)
        ++ (service.await (resultPath token) (Config.seconds config.wait)
          (deadline config (service.clock 0)) 0 fuel).2) := by
  rcases taken with ⟨last, reply, hpost, htoken⟩
  unfold Service.submit
  rw [last.create, hpost]
  dsimp only
  rw [htoken]
  rfl

/-
A course determines the result and what is seen, and each submission has one.
-/
theorem Course.submit {result : Except Breakdown Verdict} {log : List Exchange}
    (course : Course service config submission fuel result log) :
    service.submit config submission fuel = (result, log) := by
  cases course with
  | turnedDown last turnedDown => exact submit_of_turnedDown last turnedDown
  | unaddressed last address =>
    unfold Service.submit
    rw [last.create, address]
  | @undecided attempt token taken earlier =>
    have hawait := await_of_asksOn service (resultPath token) (Config.seconds config.wait) 0 earlier
    rw [Nat.add_zero, await] at hawait
    rw [taken.submit, hawait]
    simp only [List.append_nil]
  | late taken earlier enough expired =>
    rcases Nat.exists_eq_add_of_lt enough with ⟨rest, rfl⟩
    rw [taken.submit, Nat.add_assoc, await_of_asksOn service _ _ _ earlier]
    rw [await_of_late service _ _ rest expired]
    simp only [List.append_nil]
  | flawed taken earlier enough inTime flawed =>
    rcases Nat.exists_eq_add_of_lt enough with ⟨rest, rfl⟩
    rw [taken.submit, Nat.add_assoc, await_of_asksOn service _ _ _ earlier]
    rw [await_of_flawed service _ _ rest inTime flawed, questions_succ_last]
  | settled taken earlier enough inTime settled =>
    rcases Nat.exists_eq_add_of_lt enough with ⟨rest, rfl⟩
    rw [taken.submit, Nat.add_assoc, await_of_asksOn service _ _ _ earlier]
    rw [await_of_settled service _ _ rest inTime settled, questions_succ_last]

theorem turnedDown_or_taken (response : Response) :
    (∃ message, TurnedDown response message) ∨ (∃ message, response = .badAddress message)
      ∨ ∃ reply token, response = .json reply ∧ Service.token reply = .ok token := by
  cases response with
  | badAddress message => exact .inr (.inl ⟨message, rfl⟩)
  | unreadable message => exact .inl ⟨message, .failure rfl⟩
  | refused message => exact .inl ⟨message, .failure rfl⟩
  | unreachable isTransient message => exact .inl ⟨message, .failure rfl⟩
  | json reply =>
    cases htoken : token reply with
    | error message => exact .inl ⟨message, .token htoken⟩
    | ok token => exact .inr (.inr ⟨reply, token, rfl, htoken⟩)

theorem exists_course (service : Service) (config : Config) (submission : Submission) (fuel : Nat) :
    ∃ result log, Course service config submission fuel result log := by
  rcases service.exists_lastAttempt with ⟨attempt, last⟩
  rcases turnedDown_or_taken (service.post attempt) with
    ⟨message, turnedDown⟩ | ⟨message, address⟩ | ⟨reply, token, hpost, htoken⟩
  · exact ⟨_, _, .turnedDown last turnedDown⟩
  · exact ⟨_, _, .unaddressed last address⟩
  · have taken : service.Taken attempt token := ⟨last, reply, hpost, htoken⟩
    -- The first question that is not followed by another one decides, if there is fuel for it.
    rcases exists_first (service.AsksOn (deadline config (service.clock 0))) fuel with
      ⟨poll, hle, earlier, hlast⟩
    rcases Nat.eq_or_lt_of_le hle with rfl | hlt
    · exact ⟨_, _, .undecided taken earlier⟩
    · by_cases inTime : service.clock (poll + 1) < deadline config (service.clock 0)
      · cases hsettled : settled (service.get poll) with
        | error breakdown =>
          have flawed := (settled_eq_error_iff _ _).mp hsettled
          exact ⟨_, _, .flawed taken earlier hlt inTime flawed⟩
        | ok verdict? =>
          cases verdict? with
          | some verdict => exact ⟨_, _, .settled taken earlier hlt inTime hsettled⟩
          | none => exact absurd ⟨inTime, (settled_eq_none_iff _).mp hsettled⟩ (hlast hlt)
      · exact ⟨_, _, .late taken earlier hlt (Rat.not_lt.mp inTime)⟩

theorem submit_eq_iff (result : Except Breakdown Verdict) (log : List Exchange) :
    service.submit config submission fuel = (result, log)
      ↔
    Course service config submission fuel result log := by
  constructor
  · intro h
    rcases exists_course service config submission fuel with ⟨other, otherLog, course⟩
    rw [course.submit, Prod.mk.injEq] at h
    rw [← h.1, ← h.2]
    exact course
  · intro course
    exact course.submit

end Service

end Playback.Judge
