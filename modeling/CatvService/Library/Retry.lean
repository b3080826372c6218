import Mathlib.Data.ENat.Lattice
import Mathlib.Algebra.BigOperators.Group.List.Basic

/-!
# Bounded retry

A call that can fail is made again until it succeeds or until its attempts are used up.  The
attempts are numbered from 0, and which of them would succeed is a sequence `succeeds`.

* `attempts_eq_min`: the number of attempts made is the position of the first success, or the whole
  budget if that comes first;
* `rounds` puts a log together from what each attempt leaves in it, and `countP_rounds_le_one_iff`
  says when an event that an attempt leaves at most once is left at most once by all of them;
* `Work` is the work of one attempt: what it leaves in the log and how it ends.
-/

namespace Retry

/-- The number of attempts made when at most `budget` are allowed. -/
def attempts (succeeds : ℕ → Bool) : ℕ → ℕ
  | 0 => 0
  | budget + 1 =>
      if succeeds 0 then 1 else attempts (fun i => succeeds (i + 1)) budget + 1

/-- The position of the first success, counted from 1, and `⊤` if there is none. -/
noncomputable def firstSuccess (succeeds : ℕ → Bool) : ℕ∞ :=
  ⨅ i ∈ {i | succeeds i = true}, ((i + 1 : ℕ) : ℕ∞)

/-- What the first `n` attempts leave in a log, when attempt `i` leaves `round i`. -/
def rounds {β : Type*} (round : ℕ → List β) (n : ℕ) : List β :=
  (List.range n).flatMap round

section Attempts

variable {succeeds : ℕ → Bool} {budget i : ℕ}

theorem attempts_succ_of_success (h : succeeds 0 = true) : attempts succeeds (budget + 1) = 1 := by
  simp [attempts, h]

theorem attempts_succ_of_failure (h : succeeds 0 = false) :
    attempts succeeds (budget + 1) = attempts (fun i => succeeds (i + 1)) budget + 1 := by
  simp [attempts, h]

theorem attempts_le : attempts succeeds budget ≤ budget := by
  induction budget generalizing succeeds with
  | zero => exact Nat.le_refl 0
  | succ budget ih =>
      cases h : succeeds 0 with
      | true =>
          rw [attempts_succ_of_success h]
          omega
      | false =>
          rw [attempts_succ_of_failure h]
          exact Nat.succ_le_succ ih

theorem attempts_pos (hbudget : 0 < budget) : 0 < attempts succeeds budget := by
  cases budget with
  | zero => exact absurd hbudget (Nat.lt_irrefl 0)
  | succ budget =>
      cases h : succeeds 0 with
      | true => simp [attempts_succ_of_success h]
      | false => simp [attempts_succ_of_failure h]

/-- An attempt is made when the budget allows it and no attempt before it succeeds. -/
theorem lt_attempts_iff :
    i < attempts succeeds budget ↔ i < budget ∧ ∀ j < i, succeeds j = false := by
  induction budget generalizing succeeds i with
  | zero => simp [attempts]
  | succ budget ih =>
      cases h : succeeds 0 with
      | true =>
          rw [attempts_succ_of_success h]
          constructor
          · intro hi
            exact ⟨by omega, fun j hj => by omega⟩
          · rintro ⟨-, hfail⟩
            by_contra hi
            exact absurd (hfail 0 (by omega)) (by simp [h])
      | false =>
          rw [attempts_succ_of_failure h]
          cases i with
          | zero => exact ⟨fun _ => ⟨by omega, fun j hj => by omega⟩, fun _ => by omega⟩
          | succ i =>
              rw [Nat.succ_lt_succ_iff, Nat.succ_lt_succ_iff, ih]
              -- the attempts from 1 on are those of the shifted sequence
              refine and_congr_right fun _ => ⟨fun hfail j hj => ?_, fun hfail j hj => ?_⟩
              · cases j with
                | zero => exact h
                | succ j => exact hfail j (by omega)
              · exact hfail (j + 1) (by omega)

theorem attempts_eq_of_first (hi : i < budget) (hsuccess : succeeds i = true)
    (hfail : ∀ j < i, succeeds j = false) : attempts succeeds budget = i + 1 := by
  have hmade : i < attempts succeeds budget := lt_attempts_iff.mpr ⟨hi, hfail⟩
  by_contra hne
  have hmore : i + 1 < attempts succeeds budget := by omega
  have := (lt_attempts_iff.mp hmore).2 i (Nat.lt_succ_self i)
  simp [hsuccess] at this

theorem attempts_eq_budget (hfail : ∀ j < budget, succeeds j = false) :
    attempts succeeds budget = budget := by
  apply le_antisymm attempts_le
  by_contra hlt
  have hmade := lt_attempts_iff.mpr ⟨not_le.mp hlt, fun j hj => hfail j (hj.trans (not_le.mp hlt))⟩
  exact lt_irrefl _ hmade

/-- Either one of the allowed attempts is the first that succeeds, or all of them fail. -/
theorem exists_first_or_forall_failure (succeeds : ℕ → Bool) (budget : ℕ) :
    (∃ i < budget, succeeds i = true ∧ ∀ j < i, succeeds j = false) ∨
      ∀ j < budget, succeeds j = false := by
  induction budget with
  | zero => exact .inr fun j hj => absurd hj (Nat.not_lt_zero j)
  | succ budget ih =>
      rcases ih with ⟨i, hi, hfirst⟩ | hfail
      · exact .inl ⟨i, by omega, hfirst⟩
      · cases h : succeeds budget with
        | true => exact .inl ⟨budget, by omega, h, hfail⟩
        | false =>
            refine .inr fun j hj => ?_
            rcases Nat.lt_succ_iff_lt_or_eq.mp hj with hj | rfl
            · exact hfail j hj
            · exact h

theorem firstSuccess_eq (hsuccess : succeeds i = true) (hfail : ∀ j < i, succeeds j = false) :
    firstSuccess succeeds = (i + 1 : ℕ) := by
  apply le_antisymm
  · exact iInf₂_le i hsuccess
  · refine le_iInf₂ fun j hj => ?_
    have hle : i ≤ j := by
      by_contra hlt
      exact absurd (hfail j (not_le.mp hlt)) (by simpa using hj)
    exact_mod_cast Nat.succ_le_succ hle

theorem lt_firstSuccess (hfail : ∀ j < budget, succeeds j = false) :
    (budget : ℕ∞) < firstSuccess succeeds := by
  refine lt_of_lt_of_le (b := ((budget + 1 : ℕ) : ℕ∞))
    (by exact_mod_cast Nat.lt_succ_self budget) ?_
  refine le_iInf₂ fun j hj => ?_
  have hle : budget ≤ j := by
    by_contra hlt
    exact absurd (hfail j (not_le.mp hlt)) (by simpa using hj)
  exact_mod_cast Nat.succ_le_succ hle

/-- **The number of attempts.**  It is the position of the first success, or the budget if the
budget is smaller. -/
theorem attempts_eq_min :
    (attempts succeeds budget : ℕ∞) = min (firstSuccess succeeds) budget := by
  rcases exists_first_or_forall_failure succeeds budget with ⟨i, hi, hsuccess, hfail⟩ | hfail
  · have hle : ((i + 1 : ℕ) : ℕ∞) ≤ budget := by exact_mod_cast hi
    rw [attempts_eq_of_first hi hsuccess hfail, firstSuccess_eq hsuccess hfail, min_eq_left hle]
  · rw [attempts_eq_budget hfail, min_eq_right (lt_firstSuccess hfail).le]

end Attempts

/-! ## The log -/

section Rounds

variable {β : Type*} {round : ℕ → List β} {n : ℕ}

theorem rounds_zero : rounds round 0 = [] := rfl

theorem rounds_succ : rounds round (n + 1) = rounds round n ++ round n := by
  simp [rounds, List.range_succ]

/-- The first round stands before those of the attempts from 1 on. -/
theorem rounds_succ' : rounds round (n + 1) = round 0 ++ rounds (fun i => round (i + 1)) n := by
  simp [rounds, List.range_succ_eq_map, List.flatMap_map]

variable {p : β → Bool} {leaves : ℕ → Bool}

theorem countP_rounds_eq_zero_iff
    (hround : ∀ i, (round i).countP p = if leaves i then 1 else 0) :
    (rounds round n).countP p = 0 ↔ ∀ i < n, leaves i = false := by
  induction n with
  | zero => simp [rounds_zero]
  | succ n ih =>
      rw [rounds_succ, List.countP_append, Nat.add_eq_zero_iff, ih, hround n]
      constructor
      · rintro ⟨hbefore, hlast⟩ i hi
        rcases Nat.lt_succ_iff_lt_or_eq.mp hi with hi | rfl
        · exact hbefore i hi
        · simpa using hlast
      · intro hall
        exact ⟨fun i hi => hall i (by omega), by simp [hall n (Nat.lt_succ_self n)]⟩

/-- **At most one.**  When each attempt leaves at most one event of a kind, all of them together
leave at most one exactly when no two of them leave one. -/
theorem countP_rounds_le_one_iff
    (hround : ∀ i, (round i).countP p = if leaves i then 1 else 0) :
    (rounds round n).countP p ≤ 1 ↔
      ∀ i j, i < j → j < n → leaves i = true → leaves j = false := by
  induction n with
  | zero => simp [rounds_zero]
  | succ n ih =>
      rw [rounds_succ, List.countP_append, hround n]
      cases hn : leaves n with
      | false =>
          simp only [Bool.false_eq_true, if_false, Nat.add_zero]
          rw [ih]
          constructor
          · intro hall i j hij hj hi
            rcases Nat.lt_succ_iff_lt_or_eq.mp hj with hj | rfl
            · exact hall i j hij hj hi
            · exact hn
          · intro hall i j hij hj
            exact hall i j hij (by omega)
      | true =>
          -- the last attempt leaves one, so none before it may
          have hzero : (rounds round n).countP p + 1 ≤ 1 ↔ (rounds round n).countP p = 0 := by
            omega
          simp only [if_true]
          rw [hzero, countP_rounds_eq_zero_iff hround]
          constructor
          · intro hnone i j hij hj hi
            rw [hnone i (by omega)] at hi
            exact absurd hi Bool.false_ne_true
          · intro hall i hi
            by_contra hleaves
            have := hall i n hi (Nat.lt_succ_self n) (by simpa using hleaves)
            simp [hn] at this

end Rounds

/-! ## The work of one attempt -/

theorem exists_ok_of_isOk {ε α : Type*} {x : Except ε α} (h : x.isOk = true) :
    ∃ value, x = .ok value := by
  cases x with
  | ok value => exact ⟨value, rfl⟩
  | error e => exact absurd h Bool.false_ne_true

theorem exists_error_of_isOk {ε α : Type*} {x : Except ε α} (h : x.isOk = false) :
    ∃ e, x = .error e := by
  cases x with
  | ok value => exact absurd h.symm Bool.false_ne_true
  | error e => exact ⟨e, rfl⟩

/-- What a piece of work leaves in the log, and how it ends. -/
structure Work (β ε : Type*) (α : Type) where
  events : List β
  result : Except ε α

namespace Work

variable {β ε : Type*} {α γ : Type}

instance : Monad (Work β ε) where
  pure value := ⟨[], .ok value⟩
  bind x f :=
    match x.result with
    | .ok value => ⟨x.events ++ (f value).events, (f value).result⟩
    | .error e => ⟨x.events, .error e⟩

/-- An operation that appears in the log whatever comes of it. -/
def perform (event : β) (answer : Except ε α) : Work β ε α :=
  ⟨[event], answer⟩

/-- A step that leaves nothing in the log. -/
def silent (answer : Except ε α) : Work β ε α :=
  ⟨[], answer⟩

theorem bind_of_ok {x : Work β ε α} {f : α → Work β ε γ} {value : α} (h : x.result = .ok value) :
    x >>= f = ⟨x.events ++ (f value).events, (f value).result⟩ := by
  simp only [bind, h]

theorem bind_of_error {x : Work β ε α} {f : α → Work β ε γ} {e : ε} (h : x.result = .error e) :
    x >>= f = ⟨x.events, .error e⟩ := by
  simp only [bind, h]

end Work

end Retry
