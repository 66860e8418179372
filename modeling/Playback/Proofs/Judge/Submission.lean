import Mathlib.Data.List.Basic
import Playback.Proofs.Judge.Course

/-!
This module contains what is known of each submission to a service: when it is answered at all, how often
it is sent, and that the answer is the first result that there is.
-/

namespace Playback.Judge

namespace Exchange

def isPost : Exchange → Bool
  | .post _ => true
  | _ => false

def isGet : Exchange → Bool
  | .get _ => true
  | _ => false

end Exchange

def posts (log : List Exchange) : Nat :=
  log.countP Exchange.isPost

def polls (log : List Exchange) : Nat :=
  log.countP Exchange.isGet

theorem posts_append (log more : List Exchange) : posts (log ++ more) = posts log + posts more := by
  apply List.countP_append

theorem polls_append (log more : List Exchange) : polls (log ++ more) = polls log + polls more := by
  apply List.countP_append

theorem posts_attempts (body : Fields) (waits : List Binary64) :
    posts (attempts body waits) = waits.length + 1 := by
  induction waits with
  | nil => rfl
  | cons wait waits ih =>
    rw [attempts_cons, posts_append, ih, List.length_cons, Nat.add_comm]
    rfl

theorem polls_attempts (body : Fields) (waits : List Binary64) : polls (attempts body waits) = 0 := by
  induction waits with
  | nil => rfl
  | cons wait waits ih =>
    rw [attempts_cons, polls_append, ih]
    rfl

theorem posts_questions (path : String) (wait : Binary64) (count : Nat) :
    posts (questions path wait count) = 0 := by
  induction count with
  | zero => rfl
  | succ count ih =>
    rw [questions_succ, posts_append, ih]
    rfl

theorem polls_questions (path : String) (wait : Binary64) (count : Nat) :
    polls (questions path wait count) = count := by
  induction count with
  | zero => rfl
  | succ count ih =>
    rw [questions_succ, polls_append, ih, Nat.add_comm]
    rfl

namespace Service

variable {service : Service} {config : Config} {submission : Submission} {fuel : Nat}

/--
The ways in which a submission ends without a verdict: there is no address to submit to, or nothing can be
made of what comes back for a question that is asked in time.
-/
inductive BreaksDown (service : Service) (config : Config) : Breakdown → Prop where
  | address {attempt : Nat} {message : String} (last : service.LastAttempt attempt)
      (address : service.post attempt = .badAddress message) :
      BreaksDown service config (.badAddress message)
  | poll {attempt poll : Nat} {token : Json} {breakdown : Breakdown}
      (taken : service.Taken attempt token)
      (earlier : ∀ other < poll, service.AsksOn (deadline config (service.clock 0)) other)
      (inTime : service.clock (poll + 1) < deadline config (service.clock 0))
      (flawed : Flawed (service.get poll) breakdown) : BreaksDown service config breakdown

/-
Each question is asked before the reading of the clock at which time is over.
-/
theorem le_of_asksOn {deadline : Rat} {reading count : Nat}
    (hover : deadline ≤ service.clock (reading + 1))
    (h : ∀ poll < count, service.AsksOn deadline poll) : count ≤ reading := by
  rw [← Nat.not_lt]
  intro hlt
  exact absurd (h reading hlt).inTime (Rat.not_lt.mpr hover)

theorem lt_of_inTime {deadline : Rat} {reading poll : Nat}
    (hover : deadline ≤ service.clock (reading + 1))
    (earlier : ∀ other < poll, service.AsksOn deadline other)
    (inTime : service.clock (poll + 1) < deadline) : poll < reading := by
  rcases Nat.eq_or_lt_of_le (le_of_asksOn hover earlier) with rfl | hlt
  · exact absurd inTime (Rat.not_lt.mpr hover)
  · exact hlt

theorem BreaksDown.submit {breakdown : Breakdown} {reading : Nat}
    (h : BreaksDown service config breakdown)
    (hover : deadline config (service.clock 0) ≤ service.clock (reading + 1)) (hfuel : reading < fuel) :
    (service.submit config submission fuel).1 = .error breakdown := by
  cases h with
  | address last address => rw [(Course.unaddressed last address).submit]
  | poll taken earlier inTime flawed =>
    have hlt := lt_of_inTime hover earlier inTime
    rw [(Course.flawed taken earlier (Nat.lt_trans hlt hfuel) inTime flawed).submit]

theorem Course.breaksDown {breakdown : Breakdown} {log : List Exchange} {reading : Nat}
    (course : Course service config submission fuel (.error breakdown) log)
    (hover : deadline config (service.clock 0) ≤ service.clock (reading + 1)) (hfuel : reading < fuel) :
    BreaksDown service config breakdown := by
  cases course with
  | unaddressed last address => exact .address last address
  | undecided taken earlier =>
    exact absurd (earlier reading hfuel).inTime (Rat.not_lt.mpr hover)
  | flawed taken earlier enough inTime flawed => exact .poll taken earlier inTime flawed

/--
If time is over at last, a submission is answered unless it breaks down in one of the known ways, and then
with just that breakdown.
-/
theorem submit_answers_iff (service : Service) (config : Config) (submission : Submission)
    {fuel reading : Nat} (hover : deadline config (service.clock 0) ≤ service.clock (reading + 1))
    (hfuel : reading < fuel) :
    ((∃ verdict, (service.submit config submission fuel).1 = .ok verdict)
        ↔
      ∀ breakdown, ¬ BreaksDown service config breakdown)
    ∧ ∀ breakdown,
        (service.submit config submission fuel).1 = .error breakdown
          ↔
        BreaksDown service config breakdown := by
  have herror (breakdown : Breakdown) :
      (service.submit config submission fuel).1 = .error breakdown
        ↔
      BreaksDown service config breakdown := by
    constructor
    · intro h
      have course := (submit_eq_iff _ _).mp (Prod.ext h rfl)
      exact course.breaksDown hover hfuel
    · intro h
      exact h.submit hover hfuel
  refine ⟨?_, herror⟩
  simp only [← herror]
  cases (service.submit config submission fuel).1 with
  | error breakdown => simp
  | ok verdict => simp

theorem submit_answers_iff_printed :
    let done : Json :=
      .obj [("status", .obj [("id", .int 3)]), ("stdout", .str "hi"), ("time", .str "0.5")]
    let service : Service :=
      { post := fun _ => .json (.obj [("token", .str "t")])
        get := fun _ => .json done
        clock := fun reading => reading + 1 }
    deadline {} (service.clock 0) ≤ service.clock (10 + 1)
      ∧ ∀ breakdown, ¬ BreaksDown service {} breakdown := by
  intro done service
  let printed : Verdict :=
    { stdout := .str "hi", status := .str "Unknown", statusId := .int 3, time := .float (.ofInt 500) }
  have hover : deadline {} (service.clock 0) ≤ service.clock (10 + 1) := by decide +kernel
  have hprinted :
      (service.submit {} { source := "print('hi')", language := .python } 11).1 = .ok printed := by
    decide +kernel
  exact ⟨hover, (submit_answers_iff service {} _ hover (by decide)).1.mp ⟨printed, hprinted⟩⟩

/--
A reply that is a list is taken neither for a result nor for a failure.
-/
theorem submit_answers_fails :
    let service : Service :=
      { post := fun _ => .json (.obj [("token", .str "t")])
        get := fun _ => .json (.arr [])
        clock := fun reading => reading + 1 }
    (∀ reading, service.clock reading ≤ service.clock (reading + 1))
      ∧ deadline {} (service.clock 0) ≤ service.clock (10 + 1)
      ∧ ∀ verdict,
          (service.submit {} { source := "x", language := .python } 11).1 ≠ .ok verdict := by
  intro service
  refine ⟨?_, by decide +kernel, ?_⟩
  · intro reading
    exact Rat.add_le_add_right.mpr (Rat.natCast_le_natCast.mpr (Nat.le_succ reading))
  · intro verdict
    have hbroken :
        (service.submit {} { source := "x", language := .python } 11).1 = .error .malformedReply := by
      decide +kernel
    rw [hbroken]
    nofun

theorem LastAttempt.posts_eq {attempt : Nat} (last : service.LastAttempt attempt) (body : Fields) :
    posts (attempts body (retryWaits.take attempt)) = attempt + 1 := by
  rw [posts_attempts, List.length_take, Nat.min_eq_left last.le]

theorem LastAttempt.posts_asked {attempt : Nat} (last : service.LastAttempt attempt) (body : Fields)
    (path : String) (wait : Binary64) (count : Nat) :
    posts (attempts body (retryWaits.take attempt) ++ questions path wait count) = attempt + 1 := by
  rw [posts_append, posts_questions, last.posts_eq, Nat.add_zero]

theorem polls_asked (body : Fields) (waits : List Binary64) (path : String) (wait : Binary64)
    (count : Nat) : polls (attempts body waits ++ questions path wait count) = count := by
  rw [polls_append, polls_attempts, polls_questions, Nat.zero_add]

theorem Taken.token_eq {attempt : Nat} {token reply other : Json} (taken : service.Taken attempt token)
    (hpost : service.post attempt = .json reply) (hother : Service.token reply = .ok other) :
    token = other := by
  rcases taken.reply with ⟨same, hsame, htoken⟩
  rw [hpost, Response.json.injEq] at hsame
  rw [← hsame, hother, Except.ok.injEq] at htoken
  exact htoken.symm

theorem TurnedDown.token_ne {reply token : Json} {message : String}
    (h : TurnedDown (.json reply) message) : Service.token reply ≠ .ok token := by
  cases h with
  | failure hfailure => contradiction
  | token hmissing =>
    rw [hmissing]
    nofun

variable {verdict : Verdict} {log : List Exchange}

/-
In each course there are attempts up to the last one, and then questions, each of them in time.
-/
theorem Course.exists_log {result : Except Breakdown Verdict}
    (course : Course service config submission fuel result log) :
    ∃ attempt path count,
      service.LastAttempt attempt
        ∧ log = attempts (payload submission) (retryWaits.take attempt)
            ++ questions path (Config.seconds config.wait) count
        ∧ ∀ poll < count, service.clock (poll + 1) < deadline config (service.clock 0) := by
  have hnext {poll : Nat}
      (earlier : ∀ other < poll, service.AsksOn (deadline config (service.clock 0)) other)
      (inTime : service.clock (poll + 1) < deadline config (service.clock 0)) :
      ∀ other < poll + 1, service.clock (other + 1) < deadline config (service.clock 0) := by
    intro other hother
    rcases Nat.lt_succ_iff_lt_or_eq.mp hother with hlt | rfl
    · exact (earlier other hlt).inTime
    · exact inTime
  cases course with
  | turnedDown last => exact ⟨_, "", 0, last, (List.append_nil _).symm, nofun⟩
  | unaddressed last => exact ⟨_, "", 0, last, (List.append_nil _).symm, nofun⟩
  | undecided taken earlier =>
    exact ⟨_, _, _, taken.last, rfl, fun poll hpoll => (earlier poll hpoll).inTime⟩
  | late taken earlier =>
    exact ⟨_, _, _, taken.last, rfl, fun poll hpoll => (earlier poll hpoll).inTime⟩
  | flawed taken earlier enough inTime => exact ⟨_, _, _, taken.last, rfl, hnext earlier inTime⟩
  | settled taken earlier enough inTime => exact ⟨_, _, _, taken.last, rfl, hnext earlier inTime⟩

/-
What comes out of the questions, if the submission has been taken: either the last one of them is settled,
or time is over.
-/
theorem Course.answer {reply token : Json}
    (course : Course service config submission fuel (.ok verdict) log)
    (hpost : service.post (posts log - 1) = .json reply) (htoken : Service.token reply = .ok token) :
    log
      =
    attempts (payload submission) (retryWaits.take (posts log - 1))
      ++ questions (resultPath token) (Config.seconds config.wait) (polls log)
    ∧ ((∃ poll, polls log = poll + 1 ∧ Service.settled (service.get poll) = .ok (some verdict)
          ∧ ∀ earlier < poll, ∃ other, service.get earlier = .json other ∧ Pending other)
      ∨ (verdict = .late ∧ deadline config (service.clock 0) ≤ service.clock (polls log + 1)
          ∧ ∀ poll < polls log, ∃ other, service.get poll = .json other ∧ Pending other)) := by
  cases course with
  | turnedDown last turnedDown =>
    rw [last.posts_eq, Nat.add_sub_cancel] at hpost
    rw [hpost] at turnedDown
    exact absurd htoken turnedDown.token_ne
  | late taken earlier enough expired =>
    rw [taken.last.posts_asked, Nat.add_sub_cancel] at hpost ⊢
    rw [polls_asked, taken.token_eq hpost htoken]
    exact ⟨rfl, .inr ⟨rfl, expired, fun poll hpoll => (earlier poll hpoll).pending⟩⟩
  | @settled attempt poll _ _ taken earlier enough inTime settled =>
    rw [taken.last.posts_asked, Nat.add_sub_cancel] at hpost ⊢
    rw [polls_asked, taken.token_eq hpost htoken]
    exact ⟨rfl, .inl ⟨poll, rfl, settled, fun other hother => (earlier other hother).pending⟩⟩

theorem Course.posts_spec {result : Except Breakdown Verdict}
    (course : Course service config submission fuel result log) :
    ∃ attempt, service.LastAttempt attempt ∧ posts log = attempt + 1 := by
  rcases course.exists_log with ⟨attempt, path, count, last, hlog, _⟩
  exact ⟨attempt, last, by rw [hlog, last.posts_asked]⟩

theorem Course.polls_le {result : Except Breakdown Verdict} {reading : Nat}
    (course : Course service config submission fuel result log)
    (hover : deadline config (service.clock 0) ≤ service.clock (reading + 1)) :
    polls log ≤ reading := by
  rcases course.exists_log with ⟨attempt, path, count, last, hlog, inTime⟩
  rw [hlog, polls_asked, ← Nat.not_lt]
  intro hlt
  exact absurd (inTime reading hlt) (Rat.not_lt.mpr hover)

theorem LastAttempt.eq_of_isReply {attempt other : Nat} (last : service.LastAttempt attempt)
    (hle : other ≤ attempt) (hreply : (service.post other).isReply = true) : other = attempt := by
  rcases Nat.eq_or_lt_of_le hle with heq | hlt
  · exact heq
  · have htransient := last.earlier other hlt
    rw [Response.isTransient_of_isReply hreply] at htransient
    contradiction

/-
A settled question that has not failed has got the reply that the verdict is read from.
-/
theorem finished_of_settled {response : Response}
    (hsettled : settled response = .ok (some verdict)) (hfailure : response.failure? = none) :
    ∃ data, response = .json data ∧ Finished data ∧ Service.verdict data = .ok verdict := by
  rcases (settled_eq_some_iff _ _).mp hsettled with hfinished | ⟨message, hmessage, _⟩
  · exact hfinished
  · rw [hfailure] at hmessage
    contradiction

/--
If a submission is answered, it has been sent three times at most, and again only after a failure that may
be gone with the next attempt. No question is asked once time is over. If there is a token and no question
fails, the answer is the first result that there is, or else that the program was late.
-/
theorem submit_first_result (service : Service) (config : Config) (submission : Submission)
    {fuel : Nat} {verdict : Verdict}
    (hanswered : (service.submit config submission fuel).1 = .ok verdict) :
    let log := (service.submit config submission fuel).2
    let limit := deadline config (service.clock 0)
    posts log ≤ 3
      ∧ (∀ attempt, attempt + 1 < posts log → (service.post attempt).isTransient = true)
      ∧ (∀ attempt < posts log, (service.post attempt).isReply = true → posts log = attempt + 1)
      ∧ (∀ reading, limit ≤ service.clock (reading + 1) → polls log ≤ reading)
      ∧ ∀ reply token, service.post (posts log - 1) = .json reply →
          Service.token reply = .ok token →
          log
            =
          attempts (payload submission) (retryWaits.take (posts log - 1))
            ++ questions (resultPath token) (Config.seconds config.wait) (polls log)
          ∧ ((∀ poll < polls log, (service.get poll).failure? = none) →
              (∃ poll data, polls log = poll + 1 ∧ service.get poll = .json data ∧ Finished data
                  ∧ Service.verdict data = .ok verdict
                  ∧ ∀ earlier < poll, ∃ other, service.get earlier = .json other ∧ Pending other)
              ∨ (verdict = .late ∧ limit ≤ service.clock (polls log + 1)
                  ∧ ∀ poll < polls log, ∃ other, service.get poll = .json other ∧ Pending other))
          ∧ ((∀ poll < polls log, ∃ other, service.get poll = .json other ∧ Pending other) →
              verdict = .late) := by
  intro log limit
  have course : Course service config submission fuel (.ok verdict) log :=
    (submit_eq_iff _ _).mp (Prod.ext hanswered rfl)
  clear_value log
  rcases course.posts_spec with ⟨attempt, last, hposts⟩
  refine ⟨?_, ?_, ?_, fun reading hover => course.polls_le hover, ?_⟩
  · rw [hposts]
    exact Nat.succ_le_succ last.le
  · intro other hother
    exact last.earlier other (by omega)
  · intro other hother hreply
    rw [hposts, last.eq_of_isReply (by omega) hreply]
  · intro reply token hpost htoken
    rcases course.answer hpost htoken with ⟨hasked, hanswer⟩
    refine ⟨hasked, ?_, ?_⟩
    · intro hfailure
      rcases hanswer with ⟨poll, hpoll, hsettled, hearlier⟩ | hlate
      · rcases finished_of_settled hsettled (hfailure poll (by omega)) with
          ⟨data, hdata, hfinished, hverdict⟩
        exact .inl ⟨poll, data, hpoll, hdata, hfinished, hverdict, hearlier⟩
      · exact .inr hlate
    · intro hpending
      rcases hanswer with ⟨poll, hpoll, hsettled, _⟩ | ⟨hlate, _⟩
      · rw [(settled_eq_none_iff _).mpr (hpending poll (by omega))] at hsettled
        cases hsettled
      · exact hlate

theorem submit_first_result_retried :
    let pending : Json := .obj [("status", .obj [("id", .int 2)])]
    let done : Json := .obj [("status", .obj [("id", .int 3)]), ("stdout", .str "hi")]
    let service : Service :=
      { post := fun attempt =>
          if attempt = 0 then .unreachable true "refused" else .json (.obj [("token", .str "t")])
        get := fun poll => .json (if poll = 0 then pending else done)
        clock := fun reading => reading + 1 }
    let program : Submission := { source := "print('hi')", language := .python }
    let printed : Verdict := { stdout := .str "hi", status := .str "Unknown", statusId := .int 3 }
    (service.submit {} program 12).1 = .ok printed
      ∧ ∃ poll data, polls (service.submit {} program 12).2 = poll + 1
          ∧ service.get poll = .json data ∧ Finished data ∧ Service.verdict data = .ok printed
          ∧ ∀ earlier < poll, ∃ other, service.get earlier = .json other ∧ Pending other := by
  intro pending done service program printed
  have hanswered : (service.submit {} program 12).1 = .ok printed := by decide +kernel
  have hposts : posts (service.submit {} program 12).2 = 2 := by decide +kernel
  have hpost : service.post (posts (service.submit {} program 12).2 - 1)
      = .json (.obj [("token", .str "t")]) := by
    rw [hposts]
    rfl
  rcases submit_first_result service {} program hanswered with ⟨_, _, _, _, hasked⟩
  rcases (hasked _ _ hpost rfl).2.1 (fun _ _ => rfl) with hfirst | ⟨hlate, _⟩
  · exact ⟨hanswered, hfirst⟩
  · have hne : printed ≠ .late := by decide +kernel
    exact absurd hlate hne

end Service

end Playback.Judge
