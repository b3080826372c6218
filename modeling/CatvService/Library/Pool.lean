import Mathlib.Data.List.Basic
import Mathlib.Data.List.Indexes

/-!
# Collecting what the workers of a pool return

`pool.map(f, jobs)` runs a function on every job.  It raises if one of the jobs raised; otherwise
the lists that the jobs returned are appended to what was there before.
-/

namespace Pool

variable {α σ : Type*}

/-- What a job comes to: it returns `None` or a list, or it raises. -/
inductive Outcome (α : Type*) where
  | nothing
  | list (items : List α)
  | raised

namespace Outcome

/-- The job raised. -/
def hasRaised : Outcome α → Bool
  | .raised => true
  | _ => false

/-- What the job contributes. -/
def toList : Outcome α → List α
  | .list items => items
  | _ => []

/-- The job did not raise, and everything it contributes satisfies `p`. -/
def Sound (p : α → Prop) (outcome : Outcome α) : Prop :=
  outcome.hasRaised = false ∧ ∀ x ∈ outcome.toList, p x

variable {p : α → Prop}

@[simp] theorem sound_nothing : (Outcome.nothing : Outcome α).Sound p :=
  ⟨rfl, fun x hx => by cases hx⟩

@[simp] theorem sound_list_iff {items : List α} : (Outcome.list items).Sound p ↔ ∀ x ∈ items, p x :=
  ⟨fun hsound => hsound.2, fun hitems => ⟨rfl, hitems⟩⟩

@[simp] theorem not_sound_raised : ¬ (Outcome.raised : Outcome α).Sound p := by
  intro hsound
  cases hsound.1

end Outcome

/-- The contributions of all jobs behind what was there before, `none` if `pool.map` raises. -/
def gather (initial : List α) (outcomes : List (Outcome α)) : Option (List α) :=
  if outcomes.any Outcome.hasRaised then none
  else some (initial ++ outcomes.flatMap Outcome.toList)

/-- The outcomes of the jobs, each with its place in the list. -/
def mapJobs (run : ℕ → σ → Outcome α) (jobs : List σ) : List (Outcome α) :=
  jobs.mapIdx run

theorem mapJobs_cons (run : ℕ → σ → Outcome α) (job : σ) (jobs : List σ) :
    mapJobs run (job :: jobs) = run 0 job :: mapJobs (fun i => run (i + 1)) jobs :=
  List.mapIdx_cons

theorem forall_mem_mapJobs {run : ℕ → σ → Outcome α} {jobs : List σ} {q : Outcome α → Prop} :
    (∀ outcome ∈ mapJobs run jobs, q outcome) ↔
      ∀ i job, jobs[i]? = some job → q (run i job) := by
  constructor
  · intro hall i job hjob
    obtain ⟨hi, hget⟩ := List.getElem?_eq_some_iff.mp hjob
    exact hall _ (List.mem_mapIdx.mpr ⟨i, hi, by rw [hget]⟩)
  · intro hall outcome houtcome
    obtain ⟨i, hi, rfl⟩ := List.mem_mapIdx.mp houtcome
    exact hall i jobs[i] (List.getElem?_eq_getElem hi)

theorem gather_nil (initial : List α) : gather initial [] = some initial := by
  simp [gather]

/-- The pool does not raise exactly if no job has, and then its result is made of both parts. -/
theorem gather_eq_some_iff {initial result : List α} {outcomes : List (Outcome α)} :
    gather initial outcomes = some result ↔
      (∀ outcome ∈ outcomes, outcome.hasRaised = false) ∧
        result = initial ++ outcomes.flatMap Outcome.toList := by
  have hraised : (∀ outcome ∈ outcomes, outcome.hasRaised = false) ↔
      ¬ outcomes.any Outcome.hasRaised = true := by
    rw [Bool.not_eq_true, List.any_eq_false]
    simp only [Bool.not_eq_true]
  rw [hraised]
  unfold gather
  split
  · rename_i hany
    exact ⟨fun hnone => (by cases hnone), fun hboth => absurd hany hboth.1⟩
  · rename_i hany
    rw [Option.some_inj, eq_comm]
    exact ⟨fun heq => ⟨hany, heq⟩, fun hboth => hboth.2⟩

theorem gather_of_empty {initial : List α} {outcomes : List (Outcome α)}
    (hempty : ∀ outcome ∈ outcomes, outcome = .list []) :
    gather initial outcomes = some initial := by
  have hnil : outcomes.flatMap Outcome.toList = [] := by
    refine List.flatMap_eq_nil_iff.mpr fun outcome houtcome => ?_
    rw [hempty outcome houtcome]
    rfl
  refine gather_eq_some_iff.mpr ⟨fun outcome houtcome => ?_, by rw [hnil, List.append_nil]⟩
  rw [hempty outcome houtcome]
  rfl

/-- What was there before is kept, and everything behind it satisfies `p`, exactly when every job is
sound. -/
theorem gather_sound_iff {p : α → Prop} {initial : List α} {outcomes : List (Outcome α)} :
    (∃ appended, gather initial outcomes = some (initial ++ appended) ∧ ∀ x ∈ appended, p x) ↔
      ∀ outcome ∈ outcomes, outcome.Sound p := by
  constructor
  · intro hgather outcome houtcome
    obtain ⟨appended, hsome, happended⟩ := hgather
    obtain ⟨hraised, heq⟩ := gather_eq_some_iff.mp hsome
    rw [List.append_cancel_left_eq] at heq
    subst heq
    exact ⟨hraised outcome houtcome,
      fun x hx => happended x (List.mem_flatMap.mpr ⟨outcome, houtcome, hx⟩)⟩
  · intro hsound
    refine ⟨outcomes.flatMap Outcome.toList,
      gather_eq_some_iff.mpr ⟨fun outcome houtcome => (hsound outcome houtcome).1, rfl⟩, ?_⟩
    intro x hx
    obtain ⟨outcome, houtcome, hmem⟩ := List.mem_flatMap.mp hx
    exact (hsound outcome houtcome).2 x hmem

/-- The same for jobs that are run by their places. -/
theorem gather_mapJobs_sound_iff {p : α → Prop} {initial : List α} {run : ℕ → σ → Outcome α}
    {jobs : List σ} :
    (∃ appended, gather initial (mapJobs run jobs) = some (initial ++ appended) ∧
        ∀ x ∈ appended, p x) ↔
      ∀ i job, jobs[i]? = some job → (run i job).Sound p :=
  gather_sound_iff.trans forall_mem_mapJobs

end Pool
