import NetworkEnforcer.Lib.Strconv

/-!
# Keeping a flow stream open (`internal/scraper/scraper_helpers.go`)

`runStreamWithReconnect` calls a stream again and again: at most five times in a row as long as no flow
arrives, by `retry.Do`, and without end as long as flows arrive in between.  An `Environment` is one
course of events: what each attempt returns, and from when on the context of the scraper is done.
`retry-go` is a parameter (`Retrier`) of which nothing is known but its documentation: it makes at most the
given number of attempts, stops when `RetryIf` says so or the context is done, and returns an error that
wraps those of the attempts.  `documentedDo` is such a `Do`.

The classification of an error does not look at the context.

* `Round.next` — a round of the loop after another one;
* `made_iff_reaches` — which attempts are made, from what those before them returned;
* `neverAbandoned_iff` — for which courses of events the stream is never abandoned;
* `foreign_deadline_abandons_stream` — a deadline that is not the scraper's ends it.
-/

namespace NetworkEnforcer.Scraper

open NetworkEnforcer.Lib

/-! ## The code -/

/-- An error, with the answers of `errors.Is` for the two errors of a context. -/
structure StreamErr where
  text : String
  isCanceled : Bool := false
  isDeadlineExceeded : Bool := false
  deriving DecidableEq, Repr

def isContextCancellation : Option StreamErr → Bool
  | none => false
  | some err => err.isCanceled || err.isDeadlineExceeded

/-- One call of the stream: its error, and `successfulConnection` when it returns. -/
structure Attempt where
  err : Option StreamErr := none
  received : Bool := false
  deriving DecidableEq, Repr

def maxConsecutiveFailures : Nat := 5

/-- The function given to `retry.RetryIf`. -/
def retryIf (err : StreamErr) (successfulConnection : Bool) : Bool :=
  !(isContextCancellation (some err) || successfulConnection)

/-- The attempt failed in a way that is tried again. -/
def Attempt.Retried (a : Attempt) : Prop := ∃ err, a.err = some err ∧ retryIf err a.received = true

/-- The moments at which the context is looked at, around the `k`-th attempt. -/
def beforeAttempt (k : Nat) : Nat := 3 * k
def afterAttempt (k : Nat) : Nat := 3 * k + 1

/-- What `Do` returns and leaves behind. -/
structure DoResult where
  err : Option StreamErr
  successfulConnection : Bool
  /-- The attempts made so far. -/
  attempts : Nat
  moment : Nat

section Documentation

variable (attempt : Nat → Attempt) (done : Nat → Bool) (k : Nat) (r : DoResult) (j : Nat)

/-- The attempts from the `k`-th on, before the `j`-th, were made and each is tried again. -/
structure RetriedUntil : Prop where
  le : k ≤ j
  bound : j < k + maxConsecutiveFailures
  notDone : ∀ i, k ≤ i → i < j → done (beforeAttempt i) = false
  retried : ∀ i, k ≤ i → i < j → (attempt i).Retried

/-- `Do` ended with the `j`-th attempt: it is not tried again, or the last that is allowed. -/
structure DoEnded : Prop extends RetriedUntil attempt done k j where
  started : done (beforeAttempt j) = false
  last : (attempt j).Retried → j + 1 = k + maxConsecutiveFailures
  attempts : r.attempts = j + 1
  moment : r.moment = afterAttempt j
  successful : r.successfulConnection = (attempt j).received
  /-- The error wraps those of the attempts. -/
  wraps : isContextCancellation r.err = true ↔
    ∃ i, k ≤ i ∧ i ≤ j ∧ isContextCancellation (attempt i).err = true

/-- `Do` stopped in front of the `j`-th attempt, for the context. -/
structure DoStopped : Prop extends RetriedUntil attempt done k j where
  done : done (beforeAttempt j) = true
  attempts : r.attempts = j
  moment : beforeAttempt j ≤ r.moment

end Documentation

/-- `retry-go`: what `Do` returns for these attempts and this context, when its first attempt is the `k`-th. -/
structure Retrier where
  call : (Nat → Attempt) → (Nat → Bool) → Nat → DoResult
  documented : ∀ attempt done k, ∃ j, DoEnded attempt done k (call attempt done k) j ∨
    DoStopped attempt done k (call attempt done k) j

/-- A course of events. -/
structure Environment where
  attempt : Nat → Attempt
  /-- The context is done at this moment. -/
  done : Nat → Bool
  retry : Retrier
  done_mono : ∀ {m n}, m ≤ n → done m = true → done n = true

/-- The `Do` of a round that starts with the `k`-th attempt. -/
def Environment.retryDo (env : Environment) (k : Nat) : DoResult := env.retry.call env.attempt env.done k

/-- The text of the error that is returned; a nil error is printed as `fmt` does. -/
def stoppedText (name : String) (err : Option StreamErr) : String :=
  toLower name ++ " scraper stopped after " ++ formatInt maxConsecutiveFailures ++
    " consecutive failures: " ++ (err.map (·.text)).getD "%!w(<nil>)"

/-- How far `runStreamWithReconnect` has come. -/
inductive Outcome where
  | running (attempts : Nat)
  | returned (err : Option String) (attempts moment : Nat)
  deriving DecidableEq, Repr

def Outcome.attempts : Outcome → Nat
  | .running attempts => attempts
  | .returned _ attempts _ => attempts

/-- The loop of `runStreamWithReconnect`, followed for a number of rounds. -/
def runStreamWithReconnect (env : Environment) (name : String) : (rounds k : Nat) → Outcome
  | 0, k => .running k
  | rounds + 1, k =>
    let r := env.retryDo k
    if isContextCancellation r.err || env.done r.moment then .returned none r.attempts r.moment
    else if !r.successfulConnection then .returned (some (stoppedText name r.err)) r.attempts r.moment
    -- the wait before the next round
    else if env.done (r.moment + 1) then .returned none r.attempts (r.moment + 1)
    else runStreamWithReconnect env name rounds r.attempts

/-! ## What is asked of the loop -/

section

variable (env : Environment) (name : String)

/-- How many attempts in a row, up to the `k`-th and without it, received no flow. -/
def failuresBefore : Nat → Nat
  | 0 => 0
  | k + 1 => if (env.attempt k).received then 0 else failuresBefore k + 1

/-- The stream is never abandoned silently. -/
structure NeverAbandoned : Prop where
  nil_only : ∀ rounds k t, runStreamWithReconnect env name rounds 0 = .returned none k t →
    env.done t = true
  error_only : ∀ rounds text k t,
    runStreamWithReconnect env name rounds 0 = .returned (some text) k t →
      maxConsecutiveFailures ≤ failuresBefore env k
  /-- Until it returns there is at least one attempt a round. -/
  reconnects : ∀ rounds k, runStreamWithReconnect env name rounds 0 = .running k → rounds ≤ k

/-- The `k`-th attempt is made. -/
def Made (k : Nat) : Prop := ∃ rounds, k < (runStreamWithReconnect env name rounds 0).attempts

/-- There is an attempt after the `k`-th, if the context allows it: it did not end with an error of a
context, and received a flow, or failed while not yet five in a row have received none. -/
structure GoesOn (k : Nat) : Prop where
  no_cancellation : isContextCancellation (env.attempt k).err = false
  again : (env.attempt k).received = true ∨
    ((env.attempt k).err ≠ none ∧ failuresBefore env (k + 1) < maxConsecutiveFailures)

/-- The attempts before the `k`-th lead to it, and the context is not done then. -/
def Reaches (k : Nat) : Prop := env.done (beforeAttempt k) = false ∧ ∀ i < k, GoesOn env i

end

/-! ## One call of `Do` -/

variable {env : Environment} {name : String}

lemma Attempt.Retried.received {a : Attempt} (h : a.Retried) : a.received = false := by
  obtain ⟨err, -, hretry⟩ := h
  rw [retryIf, Bool.not_eq_true', Bool.or_eq_false_iff] at hretry
  exact hretry.2

lemma Attempt.Retried.cancelled {a : Attempt} (h : a.Retried) : isContextCancellation a.err = false := by
  obtain ⟨err, herr, hretry⟩ := h
  rw [retryIf, Bool.not_eq_true', Bool.or_eq_false_iff] at hretry
  rw [herr]
  exact hretry.1

lemma Attempt.Retried.err_ne {a : Attempt} (h : a.Retried) : a.err ≠ none := by
  obtain ⟨err, herr, -⟩ := h
  rw [herr]
  exact Option.some_ne_none err

lemma Attempt.retried_of_failed {a : Attempt} (herr : a.err ≠ none) (hcancel : isContextCancellation a.err = false)
    (hreceived : a.received = false) : a.Retried := by
  obtain ⟨err, herr⟩ := Option.ne_none_iff_exists'.1 herr
  refine ⟨err, herr, ?_⟩
  rw [herr] at hcancel
  rw [retryIf, hcancel, hreceived]
  rfl

lemma failuresBefore_succ {k : Nat} (h : (env.attempt k).received = false) :
    failuresBefore env (k + 1) = failuresBefore env k + 1 := by
  simp [failuresBefore, h]

lemma failuresBefore_succ_of_received {k : Nat} (h : (env.attempt k).received = true) :
    failuresBefore env (k + 1) = 0 := by
  simp [failuresBefore, h]

/-- Attempts that are tried again add up. -/
lemma failuresBefore_of_retried {k : Nat} (hfresh : failuresBefore env k = 0) {i : Nat} (hi : k ≤ i)
    (h : ∀ n, k ≤ n → n < i → (env.attempt n).Retried) : failuresBefore env i = i - k := by
  induction i, hi using Nat.le_induction with
  | base => rw [hfresh, Nat.sub_self]
  | succ i hi ih =>
    rw [failuresBefore_succ (h i hi (Nat.lt_succ_self i)).received,
      ih fun n hn hlt => h n hn (Nat.lt_succ_of_lt hlt), Nat.succ_sub hi]

section Do

variable {k j : Nat} {r : DoResult}

/-- Only the last attempt can have ended with an error of a context. -/
lemma DoEnded.cancelled (h : DoEnded env.attempt env.done k r j) :
    isContextCancellation r.err = isContextCancellation (env.attempt j).err := by
  rw [Bool.eq_iff_iff, h.wraps]
  constructor
  · rintro ⟨i, hki, hij, hcancel⟩
    rcases Nat.eq_or_lt_of_le hij with rfl | hlt
    · exact hcancel
    · rw [(h.retried i hki hlt).cancelled] at hcancel
      cases hcancel
  · intro hcancel
    exact ⟨j, h.le, Nat.le_refl j, hcancel⟩

/-- A failure that could be tried again was the fifth in a row. -/
lemma DoEnded.exhausted (h : DoEnded env.attempt env.done k r j) (hfresh : failuresBefore env k = 0)
    (hlast : (env.attempt j).Retried) : failuresBefore env (j + 1) = maxConsecutiveFailures := by
  rw [failuresBefore_succ hlast.received, failuresBefore_of_retried hfresh h.le h.retried]
  have hall := h.last hlast
  have hle := h.le
  omega

lemma DoStopped.moment_done (h : DoStopped env.attempt env.done k r j) : env.done r.moment = true :=
  env.done_mono h.moment h.done

/-- The attempts of a round that are tried again lead on. -/
lemma RetriedUntil.goesOn (h : RetriedUntil env.attempt env.done k j) (hfresh : failuresBefore env k = 0)
    {i : Nat} (hki : k ≤ i) (hij : i < j) : GoesOn env i := by
  have hretried := h.retried i hki hij
  refine ⟨hretried.cancelled, Or.inr ⟨hretried.err_ne, ?_⟩⟩
  rw [failuresBefore_succ hretried.received,
    failuresBefore_of_retried hfresh hki fun n hn hlt => h.retried n hn (Nat.lt_trans hlt hij)]
  have hbound := h.bound
  omega

end Do

/-! ## Round after round -/

/-- After `m` rounds the loop goes on with the `k`-th attempt; the one before it received a flow. -/
structure Round (env : Environment) (name : String) (m k : Nat) : Prop where
  rest : ∀ rounds, runStreamWithReconnect env name (m + rounds) 0 =
    runStreamWithReconnect env name rounds k
  fresh : failuresBefore env k = 0
  le : m ≤ k
  goesOn : ∀ i < k, GoesOn env i

namespace Round

variable {m k j : Nat}

lemma first : Round env name 0 0 where
  rest rounds := by rw [Nat.zero_add]
  fresh := rfl
  le := Nat.le_refl 0
  goesOn i hi := absurd hi (Nat.not_lt_zero i)

/-- A round that the context stops in front of an attempt. -/
lemma run_of_stopped (h : Round env name m k) (hstop : DoStopped env.attempt env.done k (env.retryDo k) j)
    (rounds : Nat) : runStreamWithReconnect env name (m + (rounds + 1)) 0 =
      .returned none j (env.retryDo k).moment := by
  rw [h.rest, runStreamWithReconnect]
  simp only [hstop.moment_done, Bool.or_true, if_true, hstop.attempts]

/-- A round whose last attempt is the `j`-th. -/
lemma run_of_ended (h : Round env name m k) (hend : DoEnded env.attempt env.done k (env.retryDo k) j)
    (rounds : Nat) : runStreamWithReconnect env name (m + (rounds + 1)) 0 =
      if isContextCancellation (env.attempt j).err || env.done (afterAttempt j) then
        .returned none (j + 1) (afterAttempt j)
      else if !(env.attempt j).received then
        .returned (some (stoppedText name (env.retryDo k).err)) (j + 1) (afterAttempt j)
      else if env.done (afterAttempt j + 1) then .returned none (j + 1) (afterAttempt j + 1)
      else runStreamWithReconnect env name rounds (j + 1) := by
  rw [h.rest, runStreamWithReconnect, ← hend.cancelled, ← hend.successful, ← hend.moment,
    ← hend.attempts]

/-- **The next round**, after a stream that was interrupted. -/
lemma next (h : Round env name m k) (hend : DoEnded env.attempt env.done k (env.retryDo k) j)
    (hcancel : isContextCancellation (env.attempt j).err = false)
    (hreceived : (env.attempt j).received = true) (hafter : env.done (afterAttempt j) = false)
    (hpause : env.done (afterAttempt j + 1) = false) : Round env name (m + 1) (j + 1) where
  rest rounds := by
    have hrun := h.run_of_ended hend rounds
    rw [hcancel, hafter, hreceived, hpause] at hrun
    rw [Nat.add_assoc, Nat.add_comm 1 rounds]
    exact hrun
  fresh := failuresBefore_succ_of_received hreceived
  le := Nat.succ_le_succ (Nat.le_trans h.le hend.le)
  goesOn i hi := by
    rcases Nat.lt_or_ge i k with hik | hki
    · exact h.goesOn i hik
    · rcases Nat.eq_or_lt_of_le (Nat.le_of_lt_succ hi) with rfl | hij
      · exact ⟨hcancel, Or.inl hreceived⟩
      · exact hend.goesOn h.fresh hki hij

/-- A round with more attempts after it is followed by another one. -/
lemma next_of_lt (h : Round env name m k) (hend : DoEnded env.attempt env.done k (env.retryDo k) j)
    {rounds : Nat} (hlt : j + 1 < (runStreamWithReconnect env name (m + (rounds + 1)) 0).attempts) :
    Round env name (m + 1) (j + 1) := by
  rw [h.run_of_ended hend] at hlt
  by_cases hreturn : (isContextCancellation (env.attempt j).err || env.done (afterAttempt j)) = true
  · rw [if_pos hreturn] at hlt
    exact absurd hlt (Nat.lt_irrefl _)
  rw [if_neg hreturn] at hlt
  by_cases hfailed : (!(env.attempt j).received) = true
  · rw [if_pos hfailed] at hlt
    exact absurd hlt (Nat.lt_irrefl _)
  rw [if_neg hfailed] at hlt
  by_cases hpause : env.done (afterAttempt j + 1) = true
  · rw [if_pos hpause] at hlt
    exact absurd hlt (Nat.lt_irrefl _)
  rw [Bool.not_eq_true, Bool.or_eq_false_iff] at hreturn
  exact h.next hend hreturn.1 (by simpa using hfailed) hreturn.2 (by simpa using hpause)

lemma made (h : Round env name m k) (hend : DoEnded env.attempt env.done k (env.retryDo k) j) :
    Made env name j := by
  refine ⟨m + (0 + 1), ?_⟩
  rw [h.run_of_ended hend]
  repeat' split
  all_goals exact Nat.lt_succ_self j

/-- The round in which an attempt is made. -/
lemma locate (rounds : Nat) {k₀ : Nat} (h : Round env name m k₀) (hle : k₀ ≤ k)
    (hlt : k < (runStreamWithReconnect env name (m + rounds) 0).attempts) :
    ∃ m' k₁, Round env name m' k₁ ∧ k₁ ≤ k ∧ k < (env.retryDo k₁).attempts := by
  induction rounds generalizing m k₀ with
  | zero =>
    rw [h.rest] at hlt
    have hlt : k < k₀ := hlt
    omega
  | succ rounds ih =>
    by_cases hin : k < (env.retryDo k₀).attempts
    · exact ⟨m, k₀, h, hle, hin⟩
    · obtain ⟨j, hend | hstop⟩ := env.retry.documented env.attempt env.done k₀
      · rw [show (env.retryDo k₀).attempts = j + 1 from hend.attempts] at hin
        have hround := h.next_of_lt hend (Nat.lt_of_le_of_lt (Nat.le_of_not_lt hin) hlt)
        refine ih hround (Nat.le_of_not_lt hin) ?_
        rw [Nat.add_assoc, Nat.add_comm 1 rounds]
        exact hlt
      · rw [h.run_of_stopped hstop, ← hstop.attempts] at hlt
        exact absurd hlt hin

end Round

/-! ## Which attempts are made -/

section Reaches

variable {k : Nat}

lemma Reaches.earlier (h : Reaches env (k + 1)) : Reaches env k := by
  refine ⟨?_, fun i hi => h.2 i (Nat.lt_succ_of_lt hi)⟩
  rw [Bool.eq_false_iff]
  intro hdone
  have hlater := env.done_mono (n := beforeAttempt (k + 1)) (by unfold beforeAttempt; omega) hdone
  rw [h.1] at hlater
  cases hlater

/-- An attempt that is reached belongs to the round after the last flow. -/
def InRound (env : Environment) (name : String) (k : Nat) : Prop :=
  ∃ m k₁, Round env name m k₁ ∧ k₁ ≤ k ∧ ∀ i, k₁ ≤ i → i < k → (env.attempt i).Retried

/-- The `Do` of its round comes as far as the attempt. -/
lemma Reaches.le_of_ended {k₁ j : Nat} (h : Reaches env k) (hfresh : failuresBefore env k₁ = 0)
    (hend : DoEnded env.attempt env.done k₁ (env.retryDo k₁) j)
    (hretried : ∀ i, k₁ ≤ i → i < k → (env.attempt i).Retried) : k ≤ j := by
  by_contra hlt
  have hjk : j < k := Nat.lt_of_not_le hlt
  -- it would have stopped there for the fifth failure
  have hlast := hretried j hend.le hjk
  rcases (h.2 j hjk).again with hreceived | ⟨-, hfew⟩
  · rw [hlast.received] at hreceived
    cases hreceived
  · rw [hend.exhausted hfresh hlast] at hfew
    exact Nat.lt_irrefl _ hfew

lemma Reaches.lt_of_stopped {k₁ j : Nat} (h : Reaches env k)
    (hstop : DoStopped env.attempt env.done k₁ (env.retryDo k₁) j) : k < j := by
  by_contra hle
  have hdone := env.done_mono (n := beforeAttempt k) (by unfold beforeAttempt; omega) hstop.done
  rw [h.1] at hdone
  cases hdone

variable (name) in
lemma Reaches.inRound (h : Reaches env k) : InRound env name k := by
  induction k with
  | zero => exact ⟨0, 0, Round.first, Nat.le_refl 0, fun i _ hi => absurd hi (Nat.not_lt_zero i)⟩
  | succ k ih =>
    have hk := h.earlier
    obtain ⟨m, k₁, hround, hle, hretried⟩ := ih hk
    obtain ⟨hcancel, hagain⟩ := h.2 k (Nat.lt_succ_self k)
    cases hreceived : (env.attempt k).received with
    | false =>
      -- the same round
      have hlast : (env.attempt k).Retried := by
        rcases hagain with hflow | ⟨herr, -⟩
        · rw [hreceived] at hflow
          cases hflow
        · exact Attempt.retried_of_failed herr hcancel hreceived
      refine ⟨m, k₁, hround, Nat.le_succ_of_le hle, fun i hi hlt => ?_⟩
      rcases Nat.eq_or_lt_of_le (Nat.le_of_lt_succ hlt) with rfl | hlt
      · exact hlast
      · exact hretried i hi hlt
    | true =>
      -- the attempt is the last of its round, and another one follows
      have hnot : ¬ (env.attempt k).Retried := fun hr => by
        rw [hr.received] at hreceived
        cases hreceived
      have hclear : ∀ t, t ≤ beforeAttempt (k + 1) → env.done t = false := by
        intro t ht
        rw [Bool.eq_false_iff]
        intro hdone
        have hlater := env.done_mono ht hdone
        rw [h.1] at hlater
        cases hlater
      obtain ⟨j, hend | hstop⟩ := env.retry.documented env.attempt env.done k₁
      · have hkj := hk.le_of_ended hround.fresh hend hretried
        obtain rfl : k = j := by
          rcases Nat.eq_or_lt_of_le hkj with heq | hlt
          · exact heq
          · exact absurd (hend.retried k hle hlt) hnot
        refine ⟨m + 1, k + 1, hround.next hend hcancel hreceived (hclear _ ?_) (hclear _ ?_),
          Nat.le_refl _, fun i hi hlt => absurd hi (Nat.not_le_of_lt hlt)⟩
        · unfold afterAttempt beforeAttempt
          omega
        · unfold afterAttempt beforeAttempt
          omega
      · exact absurd (hstop.retried k hle (hk.lt_of_stopped hstop)) hnot

/-- **Which attempts are made**: those that the ones before them lead to. -/
theorem made_iff_reaches : Made env name k ↔ Reaches env k := by
  constructor
  · rintro ⟨rounds, hlt⟩
    rw [← Nat.zero_add rounds] at hlt
    obtain ⟨m, k₁, hround, hle, hin⟩ := Round.first.locate rounds (Nat.zero_le k) hlt
    obtain ⟨j, hend | hstop⟩ := env.retry.documented env.attempt env.done k₁
    · rw [show (env.retryDo k₁).attempts = j + 1 from hend.attempts] at hin
      have hkj := Nat.le_of_lt_succ hin
      refine ⟨?_, fun i hi => ?_⟩
      · rcases Nat.eq_or_lt_of_le hkj with rfl | hlt
        · exact hend.started
        · exact hend.notDone k hle hlt
      · rcases Nat.lt_or_ge i k₁ with hik | hki
        · exact hround.goesOn i hik
        · exact hend.goesOn hround.fresh hki (Nat.lt_of_lt_of_le hi hkj)
    · rw [show (env.retryDo k₁).attempts = j from hstop.attempts] at hin
      refine ⟨hstop.notDone k hle hin, fun i hi => ?_⟩
      rcases Nat.lt_or_ge i k₁ with hik | hki
      · exact hround.goesOn i hik
      · exact hstop.goesOn hround.fresh hki (Nat.lt_trans hi hin)
  · intro h
    obtain ⟨m, k₁, hround, hle, hretried⟩ := h.inRound name
    obtain ⟨j, hend | hstop⟩ := env.retry.documented env.attempt env.done k₁
    · obtain ⟨rounds, hmade⟩ := hround.made hend
      exact ⟨rounds, Nat.lt_of_le_of_lt (h.le_of_ended hround.fresh hend hretried) hmade⟩
    · refine ⟨m + (0 + 1), ?_⟩
      rw [hround.run_of_stopped hstop]
      exact h.lt_of_stopped hstop

end Reaches

/-! ## When the stream is not abandoned -/

/-- What is asked of one attempt that is reached, as long as the context is not done: no error of a context,
and no end without an error before a flow, unless it is the fifth failure in a row. -/
structure AttemptFits (env : Environment) (k : Nat) : Prop where
  no_cancellation : isContextCancellation (env.attempt k).err = false
  no_nil : (env.attempt k).err = none →
    (env.attempt k).received = true ∨ maxConsecutiveFailures ≤ failuresBefore env (k + 1)

lemma Attempt.Retried.fits {k : Nat} (h : (env.attempt k).Retried) : AttemptFits env k := by
  exact ⟨h.cancelled, fun hnil => absurd hnil h.err_ne⟩

/-- What is asked of one outcome. -/
def Accounted (env : Environment) (rounds : Nat) : Outcome → Prop
  | .running k => rounds ≤ k
  | .returned none _ t => env.done t = true
  | .returned (some _) k _ => maxConsecutiveFailures ≤ failuresBefore env k

lemma neverAbandoned_of_accounted
    (h : ∀ rounds, Accounted env rounds (runStreamWithReconnect env name rounds 0)) :
    NeverAbandoned env name where
  nil_only rounds k t hrun := by
    have hacc := h rounds
    rw [hrun] at hacc
    exact hacc
  error_only rounds text k t hrun := by
    have hacc := h rounds
    rw [hrun] at hacc
    exact hacc
  reconnects rounds k hrun := by
    have hacc := h rounds
    rw [hrun] at hacc
    exact hacc

/-- From any round on, if every attempt that is reached fits. -/
theorem Round.accounted
    (hfits : ∀ k, Reaches env k → env.done (afterAttempt k) = false → AttemptFits env k)
    (rounds : Nat) {m k : Nat} (h : Round env name m k) :
    Accounted env (m + rounds) (runStreamWithReconnect env name (m + rounds) 0) := by
  induction rounds generalizing m k with
  | zero =>
    rw [h.rest]
    exact h.le
  | succ rounds ih =>
    obtain ⟨j, hend | hstop⟩ := env.retry.documented env.attempt env.done k
    · cases hafter : env.done (afterAttempt j) with
      | true =>
        rw [h.run_of_ended hend, hafter, Bool.or_true, if_pos rfl]
        exact hafter
      | false =>
        obtain ⟨hcancel, hnil⟩ := hfits j (made_iff_reaches.1 (h.made hend)) hafter
        cases hreceived : (env.attempt j).received with
        | false =>
          rw [h.run_of_ended hend, hcancel, hafter, hreceived]
          show maxConsecutiveFailures ≤ failuresBefore env (j + 1)
          cases herr : (env.attempt j).err with
          | none =>
            rcases hnil herr with hflow | hfive
            · rw [hreceived] at hflow
              cases hflow
            · exact hfive
          | some err =>
            -- an ordinary failure ends the round only as the fifth
            have hfailed : (env.attempt j).err ≠ none := by
              rw [herr]
              exact Option.some_ne_none err
            exact (hend.exhausted h.fresh (Attempt.retried_of_failed hfailed hcancel hreceived)).ge
        | true =>
          cases hpause : env.done (afterAttempt j + 1) with
          | true =>
            rw [h.run_of_ended hend, hcancel, hafter, hreceived, hpause]
            exact hpause
          | false =>
            have hnext := ih (h.next hend hcancel hreceived hafter hpause)
            rw [Nat.add_assoc, Nat.add_comm 1 rounds] at hnext
            exact hnext
    · rw [h.run_of_stopped hstop]
      exact hstop.moment_done

theorem neverAbandoned_of_fits
    (hfits : ∀ k, Reaches env k → env.done (afterAttempt k) = false → AttemptFits env k) :
    NeverAbandoned env name := by
  refine neverAbandoned_of_accounted fun rounds => ?_
  have hfirst : Round env name 0 0 := Round.first
  have hacc := hfirst.accounted hfits rounds
  rw [Nat.zero_add] at hacc
  exact hacc

/-- An attempt that is reached fits, if the stream is never abandoned. -/
theorem NeverAbandoned.fits (h : NeverAbandoned env name) {k : Nat} (hreach : Reaches env k)
    (hafter : env.done (afterAttempt k) = false) : AttemptFits env k := by
  obtain ⟨m, k₁, hround, hle, hretried⟩ := hreach.inRound name
  obtain ⟨j, hend | hstop⟩ := env.retry.documented env.attempt env.done k₁
  · rcases Nat.eq_or_lt_of_le (hreach.le_of_ended hround.fresh hend hretried) with rfl | hkj
    · -- the attempt is the last one of its round, so that the loop decides by it
      have hrun := hround.run_of_ended hend 0
      rw [hafter, Bool.or_false] at hrun
      have hcancel : isContextCancellation (env.attempt k).err = false := by
        rw [Bool.eq_false_iff]
        intro htrue
        rw [if_pos htrue] at hrun
        have hdone := h.nil_only _ _ _ hrun
        rw [hafter] at hdone
        cases hdone
      refine ⟨hcancel, fun _ => ?_⟩
      cases hreceived : (env.attempt k).received with
      | true => exact Or.inl rfl
      | false =>
        rw [hcancel, hreceived] at hrun
        exact Or.inr (h.error_only _ _ _ _ hrun)
    · exact (hend.retried k hle hkj).fits
  · exact (hstop.retried k hle (hreach.lt_of_stopped hstop)).fits

/-- **When the stream is never abandoned silently**: exactly if every attempt that those before it lead to
fits, as long as the context of the scraper is not done. -/
theorem neverAbandoned_iff (env : Environment) (name : String) :
    NeverAbandoned env name ↔
      ∀ k, Reaches env k → env.done (afterAttempt k) = false →
        isContextCancellation (env.attempt k).err = false ∧
          ((env.attempt k).err = none →
            (env.attempt k).received = true ∨ maxConsecutiveFailures ≤ failuresBefore env (k + 1)) := by
  constructor
  · intro h k hreach hafter
    have hfits := h.fits hreach hafter
    exact ⟨hfits.no_cancellation, hfits.no_nil⟩
  · intro h
    refine neverAbandoned_of_fits fun k hreach hafter => ?_
    obtain ⟨hcancel, hnil⟩ := h k hreach hafter
    exact ⟨hcancel, hnil⟩

/-- **Streams that end without an error only when the context is done**, as those of both scrapers do:
what is left is the error of a context that is not the scraper's. -/
theorem neverAbandoned_iff_of_nil_done
    (hstream : ∀ k, (env.attempt k).err = none → env.done (afterAttempt k) = true) :
    NeverAbandoned env name ↔
      ∀ k, Reaches env k → env.done (afterAttempt k) = false →
        isContextCancellation (env.attempt k).err = false := by
  constructor
  · exact fun h k hreach hafter => (h.fits hreach hafter).no_cancellation
  · intro h
    refine neverAbandoned_of_fits fun k hreach hafter => ?_
    refine ⟨h k hreach hafter, fun hnil => ?_⟩
    rw [hstream k hnil] at hafter
    cases hafter

/-! ## A `Do` as documented -/

/-- The error of `Do`, which wraps those of the attempts. -/
def joinErrs (retryText : List String → String) (errs : List StreamErr) : StreamErr where
  text := retryText (errs.map (·.text))
  isCanceled := errs.any (·.isCanceled)
  isDeadlineExceeded := errs.any (·.isDeadlineExceeded)

section Documented

variable (cause : StreamErr) (retryText : List String → String) (attempt : Nat → Attempt) (done : Nat → Bool)

/-- `Do` from the `k`-th attempt on, with the retries that are left and the errors so far.  The context is
looked at before every attempt, and its error is added to those of the attempts. -/
def documentedDo (retries k : Nat) (errs : List StreamErr) : DoResult :=
  let received := (attempt k).received
  if done (beforeAttempt k) then
    { err := some (joinErrs retryText (errs ++ [cause])), successfulConnection := false, attempts := k,
      moment := afterAttempt k }
  else
    match (attempt k).err with
    | none =>
      { err := none, successfulConnection := received, attempts := k + 1, moment := afterAttempt k }
    | some err =>
      let failed : DoResult :=
        { err := some (joinErrs retryText (errs ++ [err])), successfulConnection := received,
          attempts := k + 1, moment := afterAttempt k }
      if retryIf err received then
        match retries with
        | 0 => failed
        | retries + 1 => documentedDo retries (k + 1) (errs ++ [err])
      else failed

variable {cause retryText attempt done}

lemma isContextCancellation_joinErrs {errs : List StreamErr}
    (herrs : ∀ e ∈ errs, isContextCancellation (some e) = false) (err : StreamErr) :
    isContextCancellation (some (joinErrs retryText (errs ++ [err]))) = isContextCancellation (some err) := by
  have hnone : ∀ e ∈ errs, e.isCanceled = false ∧ e.isDeadlineExceeded = false :=
    fun e he => Bool.or_eq_false_iff.1 (herrs e he)
  have hcanceled : errs.any (·.isCanceled) = false := by
    simpa using fun e he => (hnone e he).1
  have hdeadline : errs.any (·.isDeadlineExceeded) = false := by
    simpa using fun e he => (hnone e he).2
  simp [isContextCancellation, joinErrs, List.any_append, hcanceled, hdeadline]

variable {k₀ k retries : Nat} {errs : List StreamErr}

lemma documentedDo_of_done (huntil : RetriedUntil attempt done k₀ k) (hdone : done (beforeAttempt k) = true) :
    DoStopped attempt done k₀ (documentedDo cause retryText attempt done retries k errs) k := by
  unfold documentedDo
  rw [if_pos hdone]
  exact ⟨huntil, hdone, rfl, Nat.le_succ _⟩

/-- The attempt is the last one: it is not tried again, or no retry is left. -/
lemma documentedDo_of_last (huntil : RetriedUntil attempt done k₀ k) (hdone : done (beforeAttempt k) = false)
    (hk : k + retries + 1 = k₀ + maxConsecutiveFailures) (hlast : ¬ (attempt k).Retried ∨ retries = 0)
    (herrs : ∀ e ∈ errs, isContextCancellation (some e) = false) :
    DoEnded attempt done k₀ (documentedDo cause retryText attempt done retries k errs) k := by
  have hexhausted : (attempt k).Retried → k + 1 = k₀ + maxConsecutiveFailures := by
    intro hr
    have hzero := hlast.resolve_left fun hnot => hnot hr
    omega
  -- the attempts before it have not ended with an error of a context
  have hwraps : ∀ r : DoResult, isContextCancellation r.err = isContextCancellation (attempt k).err →
      (isContextCancellation r.err = true ↔
        ∃ i, k₀ ≤ i ∧ i ≤ k ∧ isContextCancellation (attempt i).err = true) := by
    intro r hr
    rw [hr]
    constructor
    · exact fun h => ⟨k, huntil.le, Nat.le_refl k, h⟩
    · rintro ⟨i, hi, hik, hcancel⟩
      rcases Nat.eq_or_lt_of_le hik with rfl | hlt
      · exact hcancel
      · rw [(huntil.retried i hi hlt).cancelled] at hcancel
        cases hcancel
  cases herr : (attempt k).err with
  | none =>
    have hdo : documentedDo cause retryText attempt done retries k errs =
        { err := none, successfulConnection := (attempt k).received, attempts := k + 1,
          moment := afterAttempt k } := by
      rw [documentedDo]
      simp [hdone, herr]
    rw [hdo]
    exact ⟨huntil, hdone, hexhausted, rfl, rfl, rfl, hwraps _ (by rw [herr])⟩
  | some err =>
    have hdo : documentedDo cause retryText attempt done retries k errs =
        { err := some (joinErrs retryText (errs ++ [err])), successfulConnection := (attempt k).received,
          attempts := k + 1, moment := afterAttempt k } := by
      rw [documentedDo]
      by_cases hretry : retryIf err (attempt k).received = true
      · obtain rfl : retries = 0 := hlast.resolve_left fun hnot => hnot ⟨err, herr, hretry⟩
        simp [hdone, herr, hretry]
      · simp [hdone, herr, hretry]
    rw [hdo]
    refine ⟨huntil, hdone, hexhausted, rfl, rfl, rfl, hwraps _ ?_⟩
    rw [herr]
    exact isContextCancellation_joinErrs herrs err

lemma documentedDo_documented (huntil : RetriedUntil attempt done k₀ k)
    (hk : k + retries + 1 = k₀ + maxConsecutiveFailures)
    (herrs : ∀ e ∈ errs, isContextCancellation (some e) = false) :
    ∃ j, DoEnded attempt done k₀ (documentedDo cause retryText attempt done retries k errs) j ∨
      DoStopped attempt done k₀ (documentedDo cause retryText attempt done retries k errs) j := by
  induction retries generalizing k errs with
  | zero =>
    cases hdone : done (beforeAttempt k) with
    | true => exact ⟨k, Or.inr (documentedDo_of_done huntil hdone)⟩
    | false => exact ⟨k, Or.inl (documentedDo_of_last huntil hdone hk (Or.inr rfl) herrs)⟩
  | succ retries ih =>
    cases hdone : done (beforeAttempt k) with
    | true => exact ⟨k, Or.inr (documentedDo_of_done huntil hdone)⟩
    | false =>
      by_cases hr : (attempt k).Retried
      · have hcancel := hr.cancelled
        obtain ⟨err, herr, hretry⟩ := id hr
        rw [herr] at hcancel
        have hdo : documentedDo cause retryText attempt done (retries + 1) k errs =
            documentedDo cause retryText attempt done retries (k + 1) (errs ++ [err]) := by
          rw [documentedDo]
          simp [hdone, herr, hretry]
        rw [hdo]
        refine ih ⟨Nat.le_succ_of_le huntil.le, by omega, fun i hi hlt => ?_, fun i hi hlt => ?_⟩ (by omega) ?_
        · rcases Nat.eq_or_lt_of_le (Nat.le_of_lt_succ hlt) with rfl | hlt
          · exact hdone
          · exact huntil.notDone i hi hlt
        · rcases Nat.eq_or_lt_of_le (Nat.le_of_lt_succ hlt) with rfl | hlt
          · exact hr
          · exact huntil.retried i hi hlt
        · intro e he
          rcases List.mem_append.1 he with he | he
          · exact herrs e he
          · rw [List.mem_singleton.1 he]
            exact hcancel
      · exact ⟨k, Or.inl (documentedDo_of_last huntil hdone hk (Or.inl hr) herrs)⟩

end Documented

/-- With the errors of the attempts and of the context, one a line. -/
def Retrier.lines (cause : StreamErr) : Retrier where
  call attempt done k :=
    documentedDo cause (fun texts => "\n".intercalate texts) attempt done (maxConsecutiveFailures - 1) k []
  documented attempt done k := by
    refine documentedDo_documented ⟨Nat.le_refl k, by unfold maxConsecutiveFailures; omega, ?_, ?_⟩ rfl
      fun e he => absurd he List.not_mem_nil
    · exact fun i hi hlt => absurd hi (Nat.not_le_of_lt hlt)
    · exact fun i hi hlt => absurd hi (Nat.not_le_of_lt hlt)

/-- A deadline of the certificate source, in the first attempt, while the context of the scraper is never
done. -/
def foreignDeadline : Environment where
  attempt _ :=
    { err := some { text := "failed to obtain TLS material for Hubble Relay: context deadline exceeded"
                    isDeadlineExceeded := true } }
  done _ := false
  retry := .lines { text := "context canceled", isCanceled := true }
  done_mono h := by simp

/-- **A deadline that is not the scraper's ends the stream**: nil is returned after one attempt, while the
context is not done. -/
theorem foreign_deadline_abandons_stream :
    runStreamWithReconnect foreignDeadline "Cilium" 1 0 = .returned none 1 (afterAttempt 0) ∧
      (∀ t, foreignDeadline.done t = false) ∧ ¬ NeverAbandoned foreignDeadline "Cilium" := by
  have hrun : runStreamWithReconnect foreignDeadline "Cilium" 1 0 = .returned none 1 (afterAttempt 0) := by
    decide +kernel
  refine ⟨hrun, fun _ => rfl, fun h => ?_⟩
  have hdone := h.nil_only _ _ _ hrun
  cases hdone

end NetworkEnforcer.Scraper
