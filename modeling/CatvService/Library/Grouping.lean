import Mathlib.Algebra.BigOperators.Group.List.Basic
import Mathlib.Algebra.Order.Group.Multiset
import Mathlib.Data.List.DropRight
import Mathlib.Data.List.SplitBy

/-!
# Grouping a list by a key

The keys of a list in the order in which they first occur, the first element under each of them, and
all the elements under each of them.  A loop that fills an insertion-ordered dictionary builds its
groups one element after another, so the lemmas say what one more element at the end changes.

`itertools.groupby` is another grouping: it ends a group where the key changes, so that a key can
have several groups, of which the last one is the last run of adjacent elements with the key.
-/

namespace Grouping

variable {α κ M : Type*} [DecidableEq κ]

/-- The keys of a list, in the order in which they first occur. -/
def firstKeys (key : α → κ) (xs : List α) : List κ :=
  (xs.map key).eraseDups

/-- The elements under a key, in their order. -/
def group (key : α → κ) (xs : List α) (k : κ) : List α :=
  xs.filter fun x => key x = k

variable {key : α → κ} {xs : List α} {x : α} {k : κ}

@[simp] theorem mem_firstKeys : k ∈ firstKeys key xs ↔ ∃ x ∈ xs, key x = k := by
  simp [firstKeys]

theorem firstKeys_concat_of_mem (hmem : key x ∈ firstKeys key xs) :
    firstKeys key (xs ++ [x]) = firstKeys key xs := by
  have hmem' : key x ∈ xs.map key := by simpa [firstKeys] using hmem
  have hremove : List.removeAll [key x] (xs.map key) = [] := by
    simpa [List.removeAll] using hmem'
  rw [firstKeys, List.map_append, List.eraseDups_append, List.map_singleton, hremove]
  simp [firstKeys]

theorem firstKeys_concat_of_notMem (hnot : key x ∉ firstKeys key xs) :
    firstKeys key (xs ++ [x]) = firstKeys key xs ++ [key x] := by
  have hnot' : key x ∉ xs.map key := by simpa [firstKeys] using hnot
  have hremove : List.removeAll [key x] (xs.map key) = [key x] := by
    simpa [List.removeAll] using hnot'
  rw [firstKeys, List.map_append, List.eraseDups_append, List.map_singleton, hremove]
  simp [firstKeys, List.eraseDups_cons]

/-! ## The first element under each key -/

/-- The elements whose key has not been seen before. -/
def firstsFrom (key : α → κ) (seen : List κ) : List α → List α
  | [] => []
  | x :: xs =>
      if key x ∈ seen then firstsFrom key seen xs else x :: firstsFrom key (key x :: seen) xs

/-- The first element under each key, in their order. -/
def firsts (key : α → κ) (xs : List α) : List α :=
  firstsFrom key [] xs

theorem mem_firstsFrom {seen : List κ} :
    x ∈ firstsFrom key seen xs ↔
      key x ∉ seen ∧ xs.find? (fun y => decide (key y = key x)) = some x := by
  induction xs generalizing seen with
  | nil => simp [firstsFrom]
  | cons y xs ih =>
      unfold firstsFrom
      by_cases hseen : key y ∈ seen
      · rw [if_pos hseen, ih]
        refine and_congr_right fun hnew => ?_
        have hne : key y ≠ key x := fun heq => hnew (heq ▸ hseen)
        simp [hne]
      · rw [if_neg hseen, List.mem_cons, ih]
        by_cases heq : key y = key x
        · have hnew : key x ∉ seen := heq ▸ hseen
          simp [heq, hnew, eq_comm]
        · have hne : x ≠ y := fun hxy => heq (congrArg key hxy.symm)
          simp [heq, hne, Ne.symm heq]

/-- An element is kept exactly when it is the first one under its key. -/
theorem mem_firsts :
    x ∈ firsts key xs ↔ xs.find? (fun y => decide (key y = key x)) = some x := by
  simp [firsts, mem_firstsFrom]

theorem mem_of_mem_firsts (hx : x ∈ firsts key xs) : x ∈ xs :=
  List.mem_of_find?_eq_some (mem_firsts.mp hx)

theorem exists_mem_firsts (hx : x ∈ xs) : ∃ first ∈ firsts key xs, key first = key x := by
  obtain ⟨first, hfirst⟩ : ∃ first, xs.find? (fun y => decide (key y = key x)) = some first :=
    Option.isSome_iff_exists.mp (List.find?_isSome.mpr ⟨x, hx, by simp⟩)
  have hkey : key first = key x := by simpa using List.find?_some hfirst
  exact ⟨first, mem_firsts.mpr (by rw [hkey]; exact hfirst), hkey⟩

theorem nodup_map_firstsFrom (key : α → κ) (seen : List κ) (xs : List α) :
    ((firstsFrom key seen xs).map key).Nodup := by
  induction xs generalizing seen with
  | nil => exact List.nodup_nil
  | cons y xs ih =>
      unfold firstsFrom
      split
      · exact ih seen
      · refine List.nodup_cons.mpr ⟨fun hmem => ?_, ih _⟩
        obtain ⟨x, hx, hkey⟩ := List.mem_map.mp hmem
        exact (mem_firstsFrom.mp hx).1 (hkey ▸ List.mem_cons_self)

theorem nodup_map_firsts (key : α → κ) (xs : List α) : ((firsts key xs).map key).Nodup :=
  nodup_map_firstsFrom key [] xs

/-! ## All the elements under a key -/

theorem group_concat_self (key : α → κ) (xs : List α) (x : α) :
    group key (xs ++ [x]) (key x) = group key xs (key x) ++ [x] := by
  simp [group]

theorem group_concat_of_ne (hne : key x ≠ k) : group key (xs ++ [x]) k = group key xs k := by
  simp [group, hne]

theorem group_eq_nil_of_notMem (hnot : k ∉ firstKeys key xs) : group key xs k = [] := by
  simpa [group] using hnot

theorem group_eq_singleton (hnodup : (xs.map key).Nodup) (hmem : x ∈ xs) :
    group key xs (key x) = [x] := by
  induction xs with
  | nil => cases hmem
  | cons y xs ih =>
      rw [List.map_cons, List.nodup_cons] at hnodup
      rcases List.mem_cons.mp hmem with rfl | hmem
      · have hrest : group key xs (key x) = [] := by
          simpa [group] using fun z hz heq => hnodup.1 (List.mem_map.mpr ⟨z, hz, heq⟩)
        simpa [group] using hrest
      · have hne : key y ≠ key x := fun heq => hnodup.1 (heq ▸ List.mem_map_of_mem hmem)
        rw [← ih hnodup.2 hmem]
        simp [group, hne]

/-- The totals of the groups add up to the total of the list. -/
theorem sum_map_group [AddCommMonoid M] (key : α → κ) (f : α → M) (xs : List α) :
    ((firstKeys key xs).map fun k => ((group key xs k).map f).sum).sum = (xs.map f).sum := by
  induction hn : xs.length using Nat.strongRecOn generalizing xs with
  | ind n ih =>
      cases xs with
      | nil => simp [firstKeys]
      | cons x xs =>
          -- the group of the first key is taken out, and the other groups are those of the rest
          let others := xs.filter fun y => !decide (key y = key x)
          have hkeys : firstKeys key (x :: xs) = key x :: firstKeys key others := by
            simp [firstKeys, List.eraseDups_cons, List.filter_map, others, Function.comp_def,
              beq_eq_decide]
          have hgroup : ∀ k ∈ firstKeys key others, group key (x :: xs) k = group key others k := by
            intro k hk
            obtain ⟨y, hy, rfl⟩ := mem_firstKeys.mp hk
            have hne : key y ≠ key x := by simpa [others] using (List.mem_filter.mp hy).2
            simp only [group, others, List.filter_filter, List.filter_cons, decide_eq_true_eq,
              Ne.symm hne, if_false]
            refine List.filter_congr fun z _ => ?_
            by_cases hz : key z = key y <;> simp [hz, hne]
          have hlength : others.length < n := by
            subst hn
            exact Nat.lt_succ_of_le (List.length_filter_le _ _)
          have hrest := ih _ hlength others rfl
          have hsplit : ((xs.filter fun y => key y = key x).map f).sum + (others.map f).sum =
              (xs.map f).sum := by
            rw [← List.sum_append, ← List.map_append]
            exact ((List.filter_append_perm _ xs).map f).sum_eq
          calc ((firstKeys key (x :: xs)).map fun k => ((group key (x :: xs) k).map f).sum).sum
              = ((group key (x :: xs) (key x)).map f).sum +
                  ((firstKeys key others).map fun k => ((group key others k).map f).sum).sum := by
                rw [hkeys, List.map_cons, List.sum_cons]
                congr 2
                exact List.map_congr_left fun k hk => by rw [hgroup k hk]
            _ = ((group key (x :: xs) (key x)).map f).sum + (others.map f).sum := by rw [hrest]
            _ = f x + (((xs.filter fun y => key y = key x).map f).sum + (others.map f).sum) := by
                simp [group, add_assoc]
            _ = ((x :: xs).map f).sum := by rw [hsplit, List.map_cons, List.sum_cons]

theorem sum_map_singleton (xs : List α) : (xs.map fun x => ({x} : Multiset α)).sum = ↑xs := by
  induction xs with
  | nil => rfl
  | cons x xs ih => rw [List.map_cons, List.sum_cons, ih, Multiset.singleton_add, Multiset.cons_coe]

/-- The groups have all the elements, each of them once. -/
theorem flatMap_group_perm (key : α → κ) (xs : List α) :
    ((firstKeys key xs).flatMap (group key xs)).Perm xs := by
  have hcoe : ∀ keys : List κ,
      (keys.map fun k => ((group key xs k : List α) : Multiset α)).sum =
        ↑(keys.flatMap (group key xs)) := by
    intro keys
    induction keys with
    | nil => rfl
    | cons k keys ih => rw [List.map_cons, List.sum_cons, ih, List.flatMap_cons, Multiset.coe_add]
  have htotal := sum_map_group key (fun x => ({x} : Multiset α)) xs
  simp only [sum_map_singleton, hcoe] at htotal
  exact Multiset.coe_eq_coe.mp htotal

/-- The groups of the first `n` numbers have the elements with a smaller key. -/
theorem flatMap_range_group_perm (key : α → ℕ) (xs : List α) (n : ℕ) :
    ((List.range n).flatMap (group key xs)).Perm (xs.filter fun x => key x < n) := by
  induction n with
  | zero => simp
  | succ n ih =>
      have hbelow : (xs.filter fun x => key x < n + 1).filter (fun x => key x < n) =
          xs.filter fun x => key x < n := by
        rw [List.filter_filter]
        refine List.filter_congr fun x _ => ?_
        rw [← Bool.decide_and, decide_eq_decide]
        omega
      have hnew : (xs.filter fun x => key x < n + 1).filter (fun x => !decide (key x < n)) =
          group key xs n := by
        rw [List.filter_filter, group]
        refine List.filter_congr fun x _ => ?_
        rw [← decide_not, ← Bool.decide_and, decide_eq_decide]
        omega
      rw [List.range_succ, List.flatMap_append, List.flatMap_singleton]
      refine .trans ?_ (List.filter_append_perm (fun x => decide (key x < n)) _)
      rw [hbelow, hnew]
      exact ih.append_right _

/-! ## Runs of adjacent elements -/

/-- `itertools.groupby`: the runs of adjacent elements with the same key, each with its key. -/
def groupby (key : α → κ) (xs : List α) : List (κ × List α) :=
  (xs.splitBy fun x y => decide (key x = key y)).attach.map fun run =>
    (key (run.1.head (List.ne_nil_of_mem_splitBy run.2)), run.1)

/-- The last run of adjacent elements with the key. -/
def lastRun (key : α → κ) (k : κ) (xs : List α) : List α :=
  (xs.rdropWhile fun x => decide (key x ≠ k)).rtakeWhile fun x => decide (key x = k)

theorem mem_lastRun (hx : x ∈ lastRun key k xs) : x ∈ xs ∧ key x = k := by
  refine ⟨?_, by simpa using List.mem_rtakeWhile_imp hx⟩
  exact (List.rdropWhile_prefix _ xs).subset ((List.rtakeWhile_suffix _ _).subset hx)

theorem lastRun_eq_nil_iff : lastRun key k xs = [] ↔ ∀ x ∈ xs, key x ≠ k := by
  constructor
  · intro hnil x hx
    by_contra hkey
    have hdrop : xs.rdropWhile (fun x => decide (key x ≠ k)) ≠ [] := by
      rw [Ne, List.rdropWhile_eq_nil_iff]
      exact fun hall => of_decide_eq_true (hall x hx) hkey
    -- what is left ends with an element that has the key
    have hlast := List.rdropWhile_last_not _ _ hdrop
    have htake := List.rtakeWhile_eq_nil_iff.mp hnil hdrop
    simp only [decide_eq_true_eq, not_not] at hlast htake
    exact htake hlast
  · intro hall
    rw [lastRun, List.rdropWhile_eq_nil_iff.mpr fun x hx => decide_eq_true (hall x hx),
      List.rtakeWhile_nil]

theorem lastRun_append_of_ne {front run : List α} (hrun : ∀ x ∈ run, key x ≠ k) :
    lastRun key k (front ++ run) = lastRun key k front := by
  induction run using List.reverseRecOn with
  | nil => rw [List.append_nil]
  | append_singleton run x ih =>
      have hx : key x ≠ k := hrun x (by simp)
      rw [← List.append_assoc, lastRun, List.rdropWhile_concat_pos _ _ _ (by simpa using hx)]
      exact ih fun y hy => hrun y (List.mem_append_left _ hy)

theorem lastRun_append_self {front run : List α} (hrun : ∀ x ∈ run, key x = k) (hne : run ≠ [])
    (hfront : ∀ x ∈ front.getLast?, key x ≠ k) : lastRun key k (front ++ run) = run := by
  have hdrop : ((front ++ run).rdropWhile fun x => decide (key x ≠ k)) = front ++ run := by
    rw [List.rdropWhile_eq_self_iff]
    intro happend
    rw [List.getLast_append_of_ne_nil _ hne]
    simpa using hrun _ (List.getLast_mem hne)
  rw [lastRun, hdrop]
  clear hdrop hne
  induction run using List.reverseRecOn with
  | nil =>
      rw [List.append_nil, List.rtakeWhile_eq_nil_iff]
      intro hne
      simpa using hfront _ (List.getLast_mem_getLast? hne)
  | append_singleton run x ih =>
      have hx : key x = k := hrun x (by simp)
      rw [← List.append_assoc, List.rtakeWhile_concat_pos _ _ _ (by simpa using hx), ih]
      exact fun y hy => hrun y (List.mem_append_left _ hy)

/-- The runs together are the list. -/
theorem flatten_groupby (key : α → κ) (xs : List α) :
    ((groupby key xs).map Prod.snd).flatten = xs := by
  simp [groupby, Function.comp_def]

theorem key_eq_of_mem_run {run : List α}
    (hrun : run ∈ xs.splitBy fun x y => decide (key x = key y)) (hx : x ∈ run) :
    key x = key (run.head (List.ne_nil_of_mem_splitBy hrun)) := by
  have hchain := List.isChain_of_mem_splitBy hrun
  simp only [decide_eq_true_eq] at hchain
  cases run with
  | nil => cases hx
  | cons first rest =>
      rcases List.mem_cons.mp hx with rfl | hrest
      · rfl
      · have hkeys : (key first :: rest.map key).IsChain (· = ·) :=
          (List.isChain_map key).mpr hchain
        exact (hkeys.rel_cons (List.mem_map_of_mem hrest)).symm

/-- Groups of elements that follow each other: none is empty, and the elements of each have its
key. -/
def AreGroups (key : α → κ) (groups : List (κ × List α)) : Prop :=
  ∀ group ∈ groups, group.2 ≠ [] ∧ ∀ x ∈ group.2, key x = group.1

theorem areGroups_groupby (key : α → κ) (xs : List α) : AreGroups key (groupby key xs) := by
  intro group hgroup
  obtain ⟨⟨run, hrun⟩, -, rfl⟩ := List.mem_map.mp hgroup
  exact ⟨List.ne_nil_of_mem_splitBy hrun, fun x hx => key_eq_of_mem_run hrun hx⟩

/-- Two runs that follow each other have different keys. -/
theorem isChain_groupby (key : α → κ) (xs : List α) :
    (groupby key xs).IsChain fun group next => group.1 ≠ next.1 := by
  have hsplit := List.isChain_getLast_head_splitBy (fun x y => decide (key x = key y)) xs
  rw [groupby, List.isChain_map, List.isChain_attach]
  refine hsplit.imp_of_mem_imp fun run next hrun hnext => ?_
  rintro ⟨hne, hne', hkeys⟩
  refine ⟨hrun, hnext, ?_⟩
  rw [decide_eq_false_iff_not, key_eq_of_mem_run hrun (List.getLast_mem hne)] at hkeys
  exact hkeys

omit [DecidableEq κ] in
theorem AreGroups.key_getLast {groups : List (κ × List α)} (hgroups : AreGroups key groups)
    (hx : x ∈ (groups.map Prod.snd).flatten.getLast?) :
    ∃ group ∈ groups.getLast?, key x = group.1 := by
  cases groups using List.reverseRecOn with
  | nil => cases hx
  | append_singleton groups group =>
      obtain ⟨hne, hkeys⟩ := hgroups group (by simp)
      refine ⟨group, by simp, hkeys x ?_⟩
      rw [List.map_append, List.flatten_append, List.map_singleton, List.flatten_singleton,
        List.getLast?_append_of_ne_nil _ hne] at hx
      exact List.mem_of_mem_getLast? hx

/-- The last group with a key is the last run of the elements with it. -/
theorem AreGroups.find?_reverse {groups : List (κ × List α)} (hgroups : AreGroups key groups)
    (hchain : groups.IsChain fun group next => group.1 ≠ next.1) (k : κ) :
    groups.reverse.find? (fun group => decide (group.1 = k)) =
      if lastRun key k (groups.map Prod.snd).flatten = [] then none
      else some (k, lastRun key k (groups.map Prod.snd).flatten) := by
  induction groups using List.reverseRecOn with
  | nil => rfl
  | append_singleton groups group ih =>
      obtain ⟨hne, hkeys⟩ := hgroups group (by simp)
      have hfront : AreGroups key groups := fun other hother =>
        hgroups other (List.mem_append_left _ hother)
      simp only [List.reverse_append, List.reverse_singleton, List.singleton_append,
        List.find?_cons, List.map_append, List.flatten_append, List.map_singleton,
        List.flatten_singleton]
      by_cases hkey : group.1 = k
      · -- the elements in front end with another key
        have hother : ∀ x ∈ (groups.map Prod.snd).flatten.getLast?, key x ≠ k := by
          intro x hx
          obtain ⟨other, hlast, hx⟩ := hfront.key_getLast hx
          have hne : other.1 ≠ group.1 := (List.isChain_append.mp hchain).2.2 other hlast group rfl
          rw [hx, ← hkey]
          exact hne
        rw [lastRun_append_self (fun x hx => (hkeys x hx).trans hkey) hne hother, if_neg hne,
          decide_eq_true hkey, ← hkey]
      · rw [lastRun_append_of_ne fun x hx => (hkeys x hx).trans_ne hkey]
        simpa [hkey] using ih hfront hchain.left_of_append

/-- **The last of the groups with a key is the last run of adjacent elements with it.** -/
theorem find?_reverse_groupby (key : α → κ) (xs : List α) (k : κ) :
    (groupby key xs).reverse.find? (fun group => decide (group.1 = k)) =
      if lastRun key k xs = [] then none else some (k, lastRun key k xs) := by
  have hlast := (areGroups_groupby key xs).find?_reverse (isChain_groupby key xs) k
  rwa [flatten_groupby] at hlast

/-- Keys that are told apart by another key give the same runs. -/
theorem lastRun_comp {ι : Type*} [DecidableEq ι] {f : κ → ι} (hf : Function.Injective f)
    (key : α → κ) (k : κ) (xs : List α) :
    lastRun (fun x => f (key x)) (f k) xs = lastRun key k xs := by
  simp only [lastRun, ne_eq, hf.eq_iff]

end Grouping
