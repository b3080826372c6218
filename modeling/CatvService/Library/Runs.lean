import Mathlib.Data.List.Basic
import Mathlib.Data.List.Induction
import Mathlib.Data.Nat.Notation

/-!
# Runs of a guarded transition system

A system is a step function `σ → α → Option σ`: the action says which party moves and what its
environment answers, and `none` says that the action is not possible in the state.  A run is the
list of its actions, oldest first.

Two rules turn facts about one step into facts about whole runs.  `Run.invariant` is the usual
induction.  `Run.iff_allMeet` is its exact form: when a step keeps a property exactly if it is taken
under a condition, then a run keeps the property exactly if all its steps are taken under it.
-/

namespace Runs

variable {σ α : Type*}

/-- The run that takes `actions` from `start` ends in the given state. -/
inductive Run (step : σ → α → Option σ) (start : σ) : List α → σ → Prop where
  | start : Run step start [] start
  | next {actions : List α} {s t : σ} {action : α} (hrun : Run step start actions s)
      (hstep : step s action = some t) : Run step start (actions ++ [action]) t

/-- Every entry of the list stands in the relation to the list of the entries before it. -/
def AllAfter (relation : List α → α → Prop) (entries : List α) : Prop :=
  ∀ earlier entry later, entries = earlier ++ entry :: later → relation earlier entry

/-- Every step of the run is taken in a state where its action meets the condition. -/
def AllMeet (step : σ → α → Option σ) (start : σ) (condition : σ → α → Prop)
    (actions : List α) : Prop :=
  AllAfter (fun earlier action => ∀ s, Run step start earlier s → condition s action) actions

/-- The property holds in every state that the run goes through. -/
def AllReach (step : σ → α → Option σ) (start : σ) (property : σ → Prop)
    (actions : List α) : Prop :=
  ∀ earlier later s, actions = earlier ++ later → Run step start earlier s → property s

/-- The end of a run, computed. -/
def exec (step : σ → α → Option σ) : σ → List α → Option σ
  | s, [] => some s
  | s, action :: actions => (step s action).bind fun t => exec step t actions

theorem allAfter_nil {relation : List α → α → Prop} : AllAfter relation [] := by
  intro earlier entry later hentries
  simp at hentries

theorem append_singleton_eq_iff {entries earlier later : List α} {last entry : α} :
    entries ++ [last] = earlier ++ entry :: later ↔
      (∃ more, later = more ++ [last] ∧ entries = earlier ++ entry :: more) ∨
        (later = [] ∧ earlier = entries ∧ entry = last) := by
  constructor
  · intro hentries
    rcases List.eq_nil_or_concat later with rfl | ⟨more, other, rfl⟩
    · obtain ⟨rfl, rfl⟩ : entries = earlier ∧ last = entry := by simpa using hentries
      exact .inr ⟨rfl, rfl, rfl⟩
    · rw [List.concat_eq_append, ← List.cons_append, ← List.append_assoc] at hentries
      obtain ⟨rfl, rfl⟩ : entries = earlier ++ entry :: more ∧ last = other := by
        simpa using List.append_inj' hentries rfl
      exact .inl ⟨more, List.concat_eq_append, rfl⟩
  · rintro (⟨more, rfl, rfl⟩ | ⟨rfl, rfl, rfl⟩)
    · simp
    · rfl

theorem allAfter_append_singleton_iff {relation : List α → α → Prop} {entries : List α}
    {last : α} :
    AllAfter relation (entries ++ [last]) ↔ AllAfter relation entries ∧ relation entries last := by
  constructor
  · intro hall
    refine ⟨fun earlier entry later hentries => ?_, hall entries last [] rfl⟩
    exact hall earlier entry (later ++ [last]) (by simp [hentries])
  · rintro ⟨hall, hlast⟩ earlier entry later hentries
    rcases append_singleton_eq_iff.mp hentries with ⟨more, -, hmore⟩ | ⟨-, rfl, rfl⟩
    · exact hall earlier entry more hmore
    · exact hlast

/-- A relation that more earlier entries do not break holds in a list that is put together from
lists in which it holds. -/
theorem AllAfter.append {relation : List α → α → Prop} {first second : List α}
    (hmono : ∀ more earlier entry, relation earlier entry → relation (more ++ earlier) entry)
    (hfirst : AllAfter relation first) (hsecond : AllAfter relation second) :
    AllAfter relation (first ++ second) := by
  induction second using List.reverseRecOn with
  | nil => simpa using hfirst
  | append_singleton second last ih =>
      obtain ⟨hbefore, hlast⟩ := allAfter_append_singleton_iff.mp hsecond
      rw [← List.append_assoc, allAfter_append_singleton_iff]
      exact ⟨ih hbefore, hmono first second last hlast⟩

section Rules

variable {step : σ → α → Option σ} {start s t : σ} {actions : List α} {action : α}
  {condition : σ → α → Prop}

theorem Run.append {more : List α} (hfirst : Run step start actions s)
    (hsecond : Run step s more t) : Run step start (actions ++ more) t := by
  induction hsecond with
  | start => simpa using hfirst
  | next _ hstep ih =>
      rw [← List.append_assoc]
      exact .next ih hstep

theorem Run.single (hstep : step s action = some t) : Run step s [action] t :=
  .next .start hstep

theorem run_of_exec (hexec : exec step start actions = some t) : Run step start actions t := by
  induction actions generalizing start with
  | nil =>
      cases hexec
      exact .start
  | cons action actions ih =>
      obtain ⟨s, hstep, hrest⟩ := Option.bind_eq_some_iff.mp hexec
      exact (Run.single hstep).append (ih hrest)

theorem run_nil_iff : Run step start [] t ↔ t = start := by
  constructor
  · generalize hactions : ([] : List α) = actions
    intro hrun
    cases hrun with
    | start => rfl
    | next _ _ => simp at hactions
  · rintro rfl
    exact .start

theorem run_append_singleton_iff :
    Run step start (actions ++ [action]) t ↔
      ∃ s, Run step start actions s ∧ step s action = some t := by
  constructor
  · generalize hactions : actions ++ [action] = all
    intro hrun
    cases hrun with
    | start => simp at hactions
    | next hrun hstep =>
        obtain ⟨rfl, rfl⟩ : actions = _ ∧ action = _ := by simpa using hactions
        exact ⟨_, hrun, hstep⟩
  · rintro ⟨s, hrun, hstep⟩
    exact .next hrun hstep

/-- The actions of a run determine where it ends. -/
theorem Run.unique (hs : Run step start actions s) (ht : Run step start actions t) : s = t := by
  induction hs generalizing t with
  | start => exact (run_nil_iff.mp ht).symm
  | next _ hstep ih =>
      obtain ⟨u, hrun, hstep'⟩ := run_append_singleton_iff.mp ht
      rw [ih hrun, hstep'] at hstep
      exact (Option.some.inj hstep).symm

/-! ## The induction over a run -/

theorem Run.invariant {inv : σ → Prop} (hrun : Run step start actions t) (hstart : inv start)
    (hstep : ∀ s action t, inv s → step s action = some t → inv t) : inv t := by
  induction hrun with
  | start => exact hstart
  | next _ h ih => exact hstep _ _ _ ih h

theorem allMeet_append_singleton_iff (hrun : Run step start actions s) :
    AllMeet step start condition (actions ++ [action]) ↔
      AllMeet step start condition actions ∧ condition s action := by
  unfold AllMeet
  rw [allAfter_append_singleton_iff]
  refine and_congr_right fun _ => ⟨fun hlast => hlast s hrun, fun hlast t ht => ?_⟩
  rwa [← hrun.unique ht]

theorem AllMeet.of_append {more : List α}
    (hall : AllMeet step start condition (actions ++ more)) :
    AllMeet step start condition actions := by
  intro earlier action later hactions
  exact hall earlier action (later ++ more) (by simp [hactions])

/-- A property that holds at the end of every run whose steps meet the condition holds throughout
such a run. -/
theorem AllMeet.allReach {property : σ → Prop} (hall : AllMeet step start condition actions)
    (hend : ∀ {actions s}, Run step start actions s → AllMeet step start condition actions →
      property s) : AllReach step start property actions := by
  rintro earlier later s rfl hrun
  exact hend hrun hall.of_append

/-- If, in states that satisfy the invariant, a step ends in a good state exactly when it starts in
one and meets the condition, then a run ends in a good state exactly when all its steps meet the
condition. -/
theorem Run.iff_allMeet (inv good : σ → Prop) (hrun : Run step start actions t)
    (hinv : inv start) (hgood : good start)
    (hinv_step : ∀ s action t, inv s → step s action = some t → inv t)
    (hgood_step : ∀ s action t, inv s → step s action = some t →
      (good t ↔ good s ∧ condition s action)) :
    good t ↔ AllMeet step start condition actions := by
  induction hrun with
  | start => exact ⟨fun _ => allAfter_nil, fun _ => hgood⟩
  | next hrun hstep ih =>
      rw [hgood_step _ _ _ (hrun.invariant hinv hinv_step) hstep, ih,
        allMeet_append_singleton_iff hrun]

end Rules

/-! ## The parties of a system -/

theorem mem_set_or_eq {β : Type*} {entries : List β} {index : ℕ} {old entry : β}
    (hold : entries[index]? = some old) (new : β) (hentry : entry ∈ entries) :
    entry ∈ entries.set index new ∨ entry = old := by
  obtain ⟨other, hother⟩ := List.mem_iff_getElem?.mp hentry
  by_cases hindex : index = other
  · subst hindex
    rw [hold] at hother
    exact .inr (Option.some.inj hother).symm
  · refine .inl (List.mem_iff_getElem?.mpr ⟨other, ?_⟩)
    rw [List.getElem?_set_ne hindex, hother]

/-- When one entry of a list is replaced, the count of a kind of entry changes by that entry. -/
theorem countP_set_add {β : Type*} (kind : β → Bool) {entries : List β} {index : ℕ} {old : β}
    (hold : entries[index]? = some old) (new : β) :
    (entries.set index new).countP kind + (if kind old then 1 else 0) =
      entries.countP kind + if kind new then 1 else 0 := by
  obtain ⟨hlt, rfl⟩ := List.getElem?_eq_some_iff.mp hold
  rw [List.countP_set hlt]
  have hpos : (if kind entries[index] then 1 else 0) ≤ entries.countP kind := by
    split
    · rename_i hkind
      exact List.countP_pos_iff.mpr ⟨_, List.getElem_mem hlt, hkind⟩
    · exact Nat.zero_le _
  omega

end Runs
