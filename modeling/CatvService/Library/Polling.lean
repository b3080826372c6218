import Mathlib.Data.Nat.Find
import Mathlib.Order.Monotone.Basic

/-!
# Polling until a deadline

A poll looks at a clock, gives up once the deadline has come, reads a signal, and pauses for a while
if the signal says nothing yet.  When its rounds take place is not up to the poll: a `Schedule` is
any sequence of rounds in which time does not go back and each pause takes at least as long as it
should.

* `exists_poll_eq`: the pauses use up the time to the deadline, so the poll ends in one of a fixed
  number of rounds, the first that has a reason to;
* `poll_answer_iff`: what it returns is the first answer that it reads, if it looked at the clock
  before the deadline just then;
* `exists_poll_of_prompt`: where every round is up to `slack` late, an answer that is there a pause
  and a slack before the deadline is returned, and soon.
-/

namespace Polling

/-- The times at which the rounds look at the clock and read the signal. -/
structure Schedule (start pause : ℕ) where
  check : ℕ → ℕ
  read : ℕ → ℕ
  start_le : start ≤ check 0
  check_le : ∀ i, check i ≤ read i
  pause_le : ∀ i, read i + pause ≤ check (i + 1)

/-- The round in which a poll ends, and its answer, if it did not give up. -/
structure Ending (α : Type*) where
  round : ℕ
  answer : Option α

variable {α : Type*} {start pause : ℕ}

/-- The poll from a round on, with fuel for so many rounds. -/
def poll (schedule : Schedule start pause) (deadline : ℕ) (signal : ℕ → Option α) :
    ℕ → ℕ → Option (Ending α)
  | 0, _ => none
  | fuel + 1, i =>
      if deadline ≤ schedule.check i then some ⟨i, none⟩
      else
        match signal (schedule.read i) with
        | some a => some ⟨i, some a⟩
        | none => poll schedule deadline signal fuel (i + 1)

/-- The round has a reason to end the poll. -/
def Stops (schedule : Schedule start pause) (deadline : ℕ) (signal : ℕ → Option α) (i : ℕ) : Prop :=
  deadline ≤ schedule.check i ∨ signal (schedule.read i) ≠ none

/-- Every step of the poll is up to `slack` late. -/
structure Schedule.Prompt (schedule : Schedule start pause) (slack : ℕ) : Prop where
  check_zero : schedule.check 0 ≤ start + slack
  read_le : ∀ i, schedule.read i ≤ schedule.check i + slack
  check_succ : ∀ i, schedule.check (i + 1) ≤ schedule.read i + pause + slack

variable {schedule : Schedule start pause} {deadline fuel i n : ℕ} {signal : ℕ → Option α}

/-! ## The rounds -/

theorem Schedule.elapsed_le (schedule : Schedule start pause) (i : ℕ) :
    start + pause * i ≤ schedule.check i := by
  induction i with
  | zero => simpa using schedule.start_le
  | succ i ih =>
      calc start + pause * (i + 1) = start + pause * i + pause := by
            rw [Nat.mul_succ, Nat.add_assoc]
        _ ≤ schedule.read i + pause := Nat.add_le_add_right (ih.trans (schedule.check_le i)) pause
        _ ≤ schedule.check (i + 1) := schedule.pause_le i

theorem Schedule.check_mono (schedule : Schedule start pause) : Monotone schedule.check := by
  apply monotone_nat_of_le_succ
  intro i
  have hread := schedule.check_le i
  have hpause := schedule.pause_le i
  omega

theorem poll_of_not_stops (h : ¬ Stops schedule deadline signal i) :
    poll schedule deadline signal (fuel + 1) i = poll schedule deadline signal fuel (i + 1) := by
  obtain ⟨hclock, hsignal⟩ := not_or.mp h
  rw [poll, if_neg hclock, not_not.mp hsignal]

theorem poll_of_stops (h : Stops schedule deadline signal i) :
    poll schedule deadline signal (fuel + 1) i =
      some ⟨i, if deadline ≤ schedule.check i then none else signal (schedule.read i)⟩ := by
  rw [poll]
  split
  · rfl
  · rename_i hclock
    obtain ⟨a, ha⟩ := Option.ne_none_iff_exists'.mp (h.resolve_left hclock)
    rw [ha]

/-- The poll ends in the first round that has a reason to. -/
theorem poll_eq_of_first (hstops : Stops schedule deadline signal (i + n))
    (hfirst : ∀ j < n, ¬ Stops schedule deadline signal (i + j)) (hfuel : n < fuel) :
    poll schedule deadline signal fuel i = some ⟨i + n,
      if deadline ≤ schedule.check (i + n) then none else signal (schedule.read (i + n))⟩ := by
  induction n generalizing fuel i with
  | zero =>
      obtain ⟨fuel, rfl⟩ := Nat.exists_eq_add_one_of_ne_zero (Nat.ne_of_gt hfuel)
      exact poll_of_stops hstops
  | succ n ih =>
      obtain ⟨fuel, rfl⟩ :=
        Nat.exists_eq_add_one_of_ne_zero (Nat.ne_of_gt (Nat.zero_lt_of_lt hfuel))
      have hnext : ∀ j, i + 1 + j = i + (j + 1) := fun j => by omega
      have hgo : ¬ Stops schedule deadline signal i := hfirst 0 (Nat.succ_pos n)
      rw [poll_of_not_stops hgo, ← hnext n]
      apply ih
      · rwa [hnext]
      · intro j hj
        rw [hnext]
        exact hfirst (j + 1) (Nat.succ_lt_succ hj)
      · exact Nat.lt_of_succ_lt_succ hfuel

/-- **A poll ends**: once its pauses make up the time to the deadline, some round had a reason to
end it, and the first of them did. -/
theorem exists_poll_eq (schedule : Schedule start pause) (signal : ℕ → Option α)
    (hrounds : deadline ≤ start + pause * n) (hfuel : n < fuel) :
    ∃ i ≤ n, Stops schedule deadline signal i ∧ (∀ j < i, ¬ Stops schedule deadline signal j) ∧
      poll schedule deadline signal fuel 0 = some ⟨i,
        if deadline ≤ schedule.check i then none else signal (schedule.read i)⟩ := by
  classical
  have hlast : Stops schedule deadline signal n := .inl (hrounds.trans (schedule.elapsed_le n))
  have hstops : ∃ i, Stops schedule deadline signal i := ⟨n, hlast⟩
  have hle : Nat.find hstops ≤ n := Nat.find_min' hstops hlast
  have hfirst : ∀ j < Nat.find hstops, ¬ Stops schedule deadline signal j :=
    fun j hj => Nat.find_min hstops hj
  refine ⟨Nat.find hstops, hle, Nat.find_spec hstops, hfirst, ?_⟩
  have hspec : Stops schedule deadline signal (0 + Nat.find hstops) := by
    rw [Nat.zero_add]
    exact Nat.find_spec hstops
  have hbefore : ∀ j < Nat.find hstops, ¬ Stops schedule deadline signal (0 + j) := by
    intro j hj
    rw [Nat.zero_add]
    exact hfirst j hj
  have hpoll := poll_eq_of_first hspec hbefore (Nat.lt_of_le_of_lt hle hfuel)
  rwa [Nat.zero_add] at hpoll

/-! ## The answer -/

/-- The answer is the first that a round reads, and the round looks at the clock before the
deadline. -/
def FirstAnswer (schedule : Schedule start pause) (deadline : ℕ) (signal : ℕ → Option α) (a : α) :
    Prop :=
  ∃ i, schedule.check i < deadline ∧ signal (schedule.read i) = some a ∧
    ∀ j < i, signal (schedule.read j) = none

/-- **What a poll answers.**  It is the first answer that is read before the deadline. -/
theorem poll_answer_iff (hrounds : deadline ≤ start + pause * n) (hfuel : n < fuel)
    {ending : Ending α} (hpoll : poll schedule deadline signal fuel 0 = some ending) (a : α) :
    ending.answer = some a ↔ FirstAnswer schedule deadline signal a := by
  obtain ⟨i, -, hstops, hfirst, heq⟩ := exists_poll_eq schedule signal hrounds hfuel
  obtain rfl := Option.some.inj (hpoll.symm.trans heq)
  have hsilent : ∀ j < i, signal (schedule.read j) = none :=
    fun j hj => not_not.mp (not_or.mp (hfirst j hj)).2
  constructor
  · intro hanswer
    by_cases hclock : deadline ≤ schedule.check i
    · rw [if_pos hclock] at hanswer
      cases hanswer
    · rw [if_neg hclock] at hanswer
      exact ⟨i, not_le.mp hclock, hanswer, hsilent⟩
  · rintro ⟨k, hclock, hanswer, hbefore⟩
    -- a round before `k` reads nothing and is earlier, so it does not end the poll
    have heq : i = k := by
      rcases Nat.lt_trichotomy i k with hlt | heq | hgt
      · rcases hstops with hlate | hread
        · have := schedule.check_mono hlt.le
          omega
        · exact absurd (hbefore i hlt) hread
      · exact heq
      · rw [hsilent k hgt] at hanswer
        cases hanswer
    subst heq
    exact (if_neg (not_le.mpr hclock)).trans hanswer

/-- **An answer is not missed.**  Where the steps are prompt, and from some time on there is an
answer, the only one, a poll whose deadline is a pause and a slack behind that time returns it; and
it has read it within a pause and twice the slack. -/
theorem exists_poll_of_prompt {slack time : ℕ} {a : α} (hprompt : schedule.Prompt slack)
    (hrounds : deadline ≤ start + pause * n) (hfuel : n < fuel)
    (honly : ∀ t b, signal t = some b → b = a) (hthere : ∀ t, time ≤ t → signal t = some a)
    (hstart : start + slack < deadline) (htime : time + pause + slack ≤ deadline) :
    ∃ i, poll schedule deadline signal fuel 0 = some ⟨i, some a⟩ ∧
      schedule.read i ≤ max start (time + pause) + 2 * slack := by
  obtain ⟨i, -, hstops, hfirst, heq⟩ := exists_poll_eq schedule signal hrounds hfuel
  have hcheck : schedule.check i < deadline ∧
      schedule.check i ≤ max start (time + pause) + slack := by
    cases i with
    | zero =>
        have hzero := hprompt.check_zero
        omega
    | succ i =>
        -- the round before read nothing, so it read before the answer was there
        have hearly : schedule.read i < time := by
          by_contra hlate
          have hnone := not_not.mp (not_or.mp (hfirst i (Nat.lt_succ_self i))).2
          rw [hthere _ (not_lt.mp hlate)] at hnone
          cases hnone
        have hnext := hprompt.check_succ i
        omega
  have hclock : ¬ deadline ≤ schedule.check i := not_le.mpr hcheck.1
  obtain ⟨b, hb⟩ := Option.ne_none_iff_exists'.mp (hstops.resolve_left hclock)
  rw [if_neg hclock, hb, honly _ b hb] at heq
  refine ⟨i, heq, ?_⟩
  have hread := hprompt.read_le i
  omega

/-- A poll gives up when there is no answer until the deadline and a slack. -/
theorem poll_answer_of_late {slack : ℕ} (hprompt : schedule.Prompt slack)
    (hrounds : deadline ≤ start + pause * n) (hfuel : n < fuel)
    (hlate : ∀ t < deadline + slack, signal t = none) {ending : Ending α}
    (hpoll : poll schedule deadline signal fuel 0 = some ending) : ending.answer = none := by
  apply Option.eq_none_iff_forall_ne_some.mpr
  intro a hanswer
  obtain ⟨i, hclock, hread, -⟩ := (poll_answer_iff hrounds hfuel hpoll a).mp hanswer
  have hle := hprompt.read_le i
  rw [hlate _ (by omega)] at hread
  cases hread

end Polling
