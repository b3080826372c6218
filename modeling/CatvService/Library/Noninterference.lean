import Mathlib.Data.List.Basic

/-!
# Purged runs

An observer does not see every action of a system.  Whether an action is shown to him may depend on
the state; `purge` is the run with the hidden actions taken out.

The rule to show that hidden actions do not interfere is a simulation between the two runs
(`Unwinding`): a hidden action of the first run keeps the states related although the second one
does not make it, a shown action keeps them related when both make it.  Then the runs end in related
states (`Unwinding.run_purge`), and whatever is a function of the relation is the same in both.
-/

namespace Noninterference

variable {σ α : Type*}

def run (step : σ → α → σ) (start : σ) (actions : List α) : σ :=
  actions.foldl step start

/-- The shown actions of a run. -/
def purge (step : σ → α → σ) (shown : σ → α → Bool) : σ → List α → List α
  | _, [] => []
  | s, action :: actions =>
      if shown s action then action :: purge step shown (step s action) actions
      else purge step shown (step s action) actions

/-- Every action of the run is taken in a state where it meets the condition. -/
def Meets (step : σ → α → σ) (condition : σ → α → Prop) : σ → List α → Prop
  | _, [] => True
  | s, action :: actions => condition s action ∧ Meets step condition (step s action) actions

/-- The states of a run and of its purged run stay related, as long as the actions of the first one
meet a condition. -/
structure Unwinding (step : σ → α → σ) (shown : σ → α → Bool) (condition : σ → α → Prop)
    (mirrors : σ → σ → Prop) : Prop where
  hidden : ∀ s t action, mirrors s t → condition s action → shown s action = false →
    mirrors (step s action) t
  same : ∀ s t action, mirrors s t → condition s action → shown s action = true →
    mirrors (step s action) (step t action)

theorem run_cons (step : σ → α → σ) (s : σ) (action : α) (actions : List α) :
    run step s (action :: actions) = run step (step s action) actions := rfl

/-- **A run and its purged run end in related states.** -/
theorem Unwinding.run_purge {step : σ → α → σ} {shown : σ → α → Bool}
    {condition : σ → α → Prop} {mirrors : σ → σ → Prop}
    (hunwinding : Unwinding step shown condition mirrors) {s t : σ} {actions : List α}
    (hmirrors : mirrors s t) (hmeets : Meets step condition s actions) :
    mirrors (run step s actions) (run step t (purge step shown s actions)) := by
  induction actions generalizing s t with
  | nil => exact hmirrors
  | cons action actions ih =>
      obtain ⟨hcondition, hmeets⟩ := hmeets
      rw [run_cons, purge]
      cases hshown : shown s action with
      | true => exact ih (hunwinding.same s t action hmirrors hcondition hshown) hmeets
      | false => exact ih (hunwinding.hidden s t action hmirrors hcondition hshown) hmeets

end Noninterference
