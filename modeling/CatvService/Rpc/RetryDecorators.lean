import CatvService.Library.Retry
import Mathlib.Algebra.Order.Field.Rat
import Mathlib.Data.NNRat.Defs

/-!
# The retry decorators

`retry` and `retry_run` of `api/utils.py`.

The two decorators run the same loop around the wrapped function `f`; they differ in the exceptions
they catch, in where the message goes and in their defaults.  The loop is `fRetry`, with these
three as parameters.  What the successive calls of `f` do is a sequence: call number `i`, counted
from 0, returns a value or raises an exception.

* `fRetry_eq`: when every failure is caught, the loop makes `Retry.attempts` calls, hands on what
  the last of them does, and leaves a fixed timeline of calls and sleeps;
* `retry_asOftenAsNeeded`: so both decorators call the function exactly as often as needed.
-/

namespace CatvService.Rpc

/-- What a wrapped function does that can be seen from outside.  The seconds slept are those that
`time.sleep` takes, which are not negative. -/
inductive RetryEvent where
  | call
  | warning (message : String)
  | print (message : String)
  | sleep (seconds : ℚ≥0)
  deriving DecidableEq

/-- How the wrapped function ends, and what it did until then. -/
@[ext] structure RetryRun (ε α : Type*) where
  result : Except ε α
  events : List RetryEvent

variable {ε α : Type*}

/-- `"%s, Retrying in %d seconds..." % (str(e), mdelay)`; `%d` cuts the fraction off. -/
def retryMessage (str : ε → String) (e : ε) (mdelay : ℚ≥0) : String :=
  str e ++ ", Retrying in " ++ toString (mdelay.num / mdelay.den) ++ " seconds..."

/-- The loop of `f_retry`: `mtries` and `mdelay` are its counters, `calls` is the number of calls
already made.  The last attempt is made outside of the `while`, so nothing catches its
exception. -/
def fRetry (str : ε → String) (caught : ε → Bool) (report : String → List RetryEvent)
    (backoff : ℚ≥0) (f : ℕ → Except ε α) : ℕ → ℚ≥0 → ℕ → RetryRun ε α
  | mtries + 2, mdelay, calls =>
      match f calls with
      | .ok value => ⟨.ok value, [.call]⟩
      | .error e =>
          if caught e then
            let rest :=
              fRetry str caught report backoff f (mtries + 1) (mdelay * backoff) (calls + 1)
            ⟨rest.result,
              .call :: (report (retryMessage str e mdelay) ++ .sleep mdelay :: rest.events)⟩
          else ⟨.error e, [.call]⟩
  | _, _, calls => ⟨f calls, [.call]⟩

/-- `retry(ExceptionToCheck, tries, delay, backoff, logger)`; `logger` says whether one is given. -/
def retry (str : ε → String) (ExceptionToCheck : ε → Bool) (tries : ℕ := 4) (delay : ℚ≥0 := 3)
    (backoff : ℚ≥0 := 2) (logger : Bool := false) (f : ℕ → Except ε α) : RetryRun ε α :=
  fRetry str ExceptionToCheck (fun message => if logger then [.warning message] else []) backoff f
    tries delay 0

/-- `retry_run(tries, delay, backoff)`; `isException` says which exceptions `except Exception`
catches. -/
def retryRun (str : ε → String) (isException : ε → Bool) (tries : ℕ := 5) (delay : ℚ≥0 := 15)
    (backoff : ℚ≥0 := 2) (f : ℕ → Except ε α) : RetryRun ε α :=
  fRetry str isException (fun message => [.print message]) backoff f tries delay 0

/-! ## Calls and sleeps -/

/-- Whether a call returns. -/
def returns (f : ℕ → Except ε α) (i : ℕ) : Bool :=
  (f i).isOk

/-- The calls and sleeps of a run, without its messages. -/
def timeline (events : List RetryEvent) : List RetryEvent :=
  events.filter fun event => event = .call || event matches .sleep _

/-- The number of calls of the wrapped function. -/
def callCount (events : List RetryEvent) : ℕ :=
  events.count .call

/-- Calls number `0, …, n - 1`, and the sleeps between them. -/
def schedule (delay backoff : ℚ≥0) (n : ℕ) : List RetryEvent :=
  Retry.rounds (fun i => [.call, .sleep (delay * backoff ^ i)]) (n - 1) ++ [.call]

/-- A run calls the function as often as needed: until the first success, but at most `tries`
times.  It ends as its last call does, and it sleeps between the calls for
`delay`, `delay * backoff`, `delay * backoff ^ 2` and so on. -/
def AsOftenAsNeeded (f : ℕ → Except ε α) (tries : ℕ) (delay backoff : ℚ≥0)
    (run : RetryRun ε α) : Prop :=
  (callCount run.events : ℕ∞) = min (Retry.firstSuccess (returns f)) tries ∧
    (∀ k : ℕ, Retry.firstSuccess (returns f) = k → k ≤ tries →
      ∃ value, f (k - 1) = .ok value ∧ run.result = .ok value) ∧
    ((tries : ℕ∞) < Retry.firstSuccess (returns f) →
      ∃ e, f (tries - 1) = .error e ∧ run.result = .error e) ∧
    timeline run.events = schedule delay backoff (callCount run.events)

section Timeline

variable {events : List RetryEvent}

theorem callCount_timeline : callCount (timeline events) = callCount events :=
  List.count_filter (by decide)

theorem callCount_schedule {delay backoff : ℚ≥0} {n : ℕ} (hn : 0 < n) :
    callCount (schedule delay backoff n) = n := by
  have hrounds : ∀ m, (Retry.rounds (fun i => [RetryEvent.call, .sleep (delay * backoff ^ i)])
      m).count .call = m := by
    intro m
    induction m with
    | zero => rfl
    | succ m ih =>
        rw [Retry.rounds_succ, List.count_append, ih]
        simp
  rw [callCount, schedule, List.count_append, hrounds]
  simp only [List.count_singleton_self]
  omega

/-- The first call and the first sleep, before a schedule that starts with the next delay. -/
theorem schedule_succ {delay backoff : ℚ≥0} {n : ℕ} (hn : 0 < n) :
    schedule delay backoff (n + 1) =
      .call :: .sleep delay :: schedule (delay * backoff) backoff n := by
  obtain ⟨n, rfl⟩ : ∃ m, n = m + 1 := ⟨n - 1, by omega⟩
  have hshift : (fun i => [RetryEvent.call, .sleep (delay * backoff ^ (i + 1))]) =
      fun i => [RetryEvent.call, .sleep (delay * backoff * backoff ^ i)] := by
    funext i
    rw [pow_succ', mul_assoc]
  simp only [schedule, Nat.add_sub_cancel]
  rw [Retry.rounds_succ', hshift]
  simp

end Timeline

/-! ## The loop -/

section Loop

variable {str : ε → String} {caught : ε → Bool} {report : String → List RetryEvent}
  {f : ℕ → Except ε α}

theorem returns_eq_false_of_error {i : ℕ} {e : ε} (h : f i = .error e) : returns f i = false := by
  rw [returns, h]
  rfl

theorem returns_eq_true_of_ok {i : ℕ} {value : α} (h : f i = .ok value) : returns f i = true := by
  rw [returns, h]
  rfl

/-- **The loop.**  When it catches every failure, it makes the attempts that a bounded retry makes:
the result is that of the last one, and the sleeps grow by `backoff`. -/
theorem fRetry_eq (hcaught : ∀ i e, f i = .error e → caught e = true)
    (hreport : ∀ message, timeline (report message) = []) (backoff : ℚ≥0) (tries : ℕ)
    (mdelay : ℚ≥0) (calls : ℕ) :
    (fRetry str caught report backoff f (tries + 1) mdelay calls).result =
        f (calls + Retry.attempts (fun i => returns f (calls + i)) (tries + 1) - 1) ∧
      timeline (fRetry str caught report backoff f (tries + 1) mdelay calls).events =
        schedule mdelay backoff
          (Retry.attempts (fun i => returns f (calls + i)) (tries + 1)) := by
  induction tries generalizing mdelay calls with
  | zero =>
      -- only the attempt outside of the `while` is left
      have hone : Retry.attempts (fun i => returns f (calls + i)) 1 = 1 :=
        le_antisymm Retry.attempts_le (Retry.attempts_pos Nat.zero_lt_one)
      rw [hone]
      exact ⟨rfl, rfl⟩
  | succ tries ih =>
      cases hcall : f calls with
      | ok value =>
          have hfirst : returns f (calls + 0) = true := returns_eq_true_of_ok hcall
          rw [Retry.attempts_succ_of_success hfirst, Nat.add_sub_cancel, hcall]
          simp only [fRetry, hcall]
          exact ⟨trivial, rfl⟩
      | error e =>
          obtain ⟨hresult, hevents⟩ := ih (mdelay * backoff) (calls + 1)
          have hfirst : returns f (calls + 0) = false := returns_eq_false_of_error hcall
          have hshift : (fun i => returns f (calls + (i + 1))) =
              fun i => returns f (calls + 1 + i) := by
            funext i
            congr 1
            omega
          have hpos : 0 < Retry.attempts (fun i => returns f (calls + 1 + i)) (tries + 1) :=
            Retry.attempts_pos (Nat.succ_pos tries)
          rw [Retry.attempts_succ_of_failure hfirst, hshift, schedule_succ hpos, ← hevents]
          simp only [fRetry, hcall, hcaught calls e hcall, if_true]
          constructor
          · rw [hresult]
            congr 1
            omega
          · have hmessage := hreport (retryMessage str e mdelay)
            rw [timeline] at hmessage ⊢
            simp [timeline, hmessage]

theorem fRetry_asOftenAsNeeded (hcaught : ∀ i e, f i = .error e → caught e = true)
    (hreport : ∀ message, timeline (report message) = []) {tries : ℕ} (htries : 1 ≤ tries)
    (delay backoff : ℚ≥0) :
    AsOftenAsNeeded f tries delay backoff
      (fRetry str caught report backoff f tries delay 0) := by
  obtain ⟨budget, rfl⟩ : ∃ budget, tries = budget + 1 := ⟨tries - 1, by omega⟩
  obtain ⟨hresult, hevents⟩ := @fRetry_eq _ _ str _ _ _ hcaught hreport backoff budget delay 0
  simp only [Nat.zero_add] at hresult hevents
  have hpos : 0 < Retry.attempts (returns f) (budget + 1) := Retry.attempts_pos htries
  have hcount : callCount (fRetry str caught report backoff f (budget + 1) delay 0).events =
      Retry.attempts (returns f) (budget + 1) := by
    rw [← callCount_timeline, hevents, callCount_schedule hpos]
  refine ⟨?_, fun k hk hle => ?_, fun hlt => ?_, ?_⟩
  · rw [hcount, Retry.attempts_eq_min]
  · rcases Retry.exists_first_or_forall_failure (returns f) (budget + 1) with
      ⟨i, hi, hsuccess, hfail⟩ | hfail
    · obtain ⟨value, hvalue⟩ := Retry.exists_ok_of_isOk hsuccess
      obtain rfl : i + 1 = k := by
        rw [Retry.firstSuccess_eq hsuccess hfail] at hk
        exact_mod_cast hk
      rw [Retry.attempts_eq_of_first hi hsuccess hfail] at hresult
      exact ⟨value, hvalue, hresult.trans hvalue⟩
    · have hlt := Retry.lt_firstSuccess hfail
      rw [hk] at hlt
      exact absurd hle (not_le.mpr (by exact_mod_cast hlt))
  · rcases Retry.exists_first_or_forall_failure (returns f) (budget + 1) with
      ⟨i, hi, hsuccess, hfail⟩ | hfail
    · rw [Retry.firstSuccess_eq hsuccess hfail] at hlt
      have : budget + 1 < i + 1 := by exact_mod_cast hlt
      omega
    · obtain ⟨e, he⟩ := Retry.exists_error_of_isOk (hfail budget (Nat.lt_succ_self budget))
      rw [Retry.attempts_eq_budget hfail] at hresult
      exact ⟨e, he, hresult.trans he⟩
  · rw [hevents, hcount]

end Loop

/-! ## The two decorators -/

/-- **The retry decorators.**  When every failure of the wrapped function is of the caught type,
both call it until its first success, but at most `tries` times, hand on what the last call does,
and sleep `delay * backoff ^ i` after failure number `i` if another call follows. -/
theorem retry_asOftenAsNeeded (str : ε → String) (f : ℕ → Except ε α) (tries : ℕ)
    (htries : 1 ≤ tries) (delay backoff : ℚ≥0) :
    (∀ (ExceptionToCheck : ε → Bool) (logger : Bool),
      (∀ i e, f i = .error e → ExceptionToCheck e = true) →
        AsOftenAsNeeded f tries delay backoff
          (retry str ExceptionToCheck tries delay backoff logger f)) ∧
      ∀ isException : ε → Bool, (∀ i e, f i = .error e → isException e = true) →
        AsOftenAsNeeded f tries delay backoff
          (retryRun str isException tries delay backoff f) := by
  constructor
  · intro ExceptionToCheck logger hcaught
    refine fRetry_asOftenAsNeeded hcaught (fun message => ?_) htries delay backoff
    cases logger <;> rfl
  · intro isException hcaught
    exact fRetry_asOftenAsNeeded hcaught (fun message => rfl) htries delay backoff

/-- A call that fails twice with an exception of the caught type and then returns. -/
def thirdTime : ℕ → Except String ℕ
  | 0 => .error "server closed the connection unexpectedly"
  | 1 => .error "connection refused"
  | _ => .ok 200

theorem retry_asOftenAsNeeded_thirdTime :
    AsOftenAsNeeded thirdTime 4 3 2 (retry id (fun _ => true) 4 3 2 true thirdTime) ∧
      AsOftenAsNeeded thirdTime 5 15 2 (retryRun id (fun _ => true) 5 15 2 thirdTime) :=
  ⟨(retry_asOftenAsNeeded id thirdTime 4 (by decide) 3 2).1 (fun _ => true) true fun _ _ _ => rfl,
    (retry_asOftenAsNeeded id thirdTime 5 (by decide) 15 2).2 (fun _ => true) fun _ _ _ => rfl⟩

example : (retryRun id (fun _ => true) 5 15 2 thirdTime).events =
    [.call, .print "server closed the connection unexpectedly, Retrying in 15 seconds...",
      .sleep 15, .call, .print "connection refused, Retrying in 30 seconds...", .sleep 30,
      .call] := by
  decide +kernel

end CatvService.Rpc
