import CatvService.Graph.Shedding
import Mathlib.Algebra.BigOperators.Field
import Mathlib.Algebra.Order.BigOperators.Group.Finset
import Mathlib.Data.Rat.Floor
import Mathlib.Tactic.IntervalCases
import Mathlib.Tactic.Linarith
import Mathlib.Tactic.NormNum
import Mathlib.Tactic.Positivity
import Mathlib.Tactic.Ring

/-!
# The shedding is greedy, bounded and connected

`limit_connected_edges` with exact ratios.  The table holds the first ten odd numbers over a
hundred, so the `n` ratios that are in use are `(2 d - 1) / n²`, and they add up to one: each round
rounds its share up, and all rounds together keep less than one edge per depth too many
(`sum_share_lt`).

A round appends to what is kept the first edges of its group, by falling sum, that touch an edge
kept before (`limitGroup_exact`).  As every edge is in one group, the later rounds leave alone what
a round has decided, so what is kept in the end still shows every round
(`greedyRound_of_limitGroups`).  And since a round only takes what touches, what is kept hangs
together as soon as the edges of the first depth do.
-/

namespace CatvService.Graph

open Dictionary PyValue Relation

/-! ## Shares -/

/-- `ratio_depth[depth - 1]`. -/
def ratioOf (maxDepth depth : ℤ) : ℚ :=
  (2 * depth - 1) / maxDepth ^ 2

/-- `ceil(ratio_depth[depth - 1] * api_settings.CATV_MAX_SCALED_NODES)`. -/
def share (settings : ApiSettings) (maxDepth depth : ℤ) : ℕ :=
  ⌈ratioOf maxDepth depth * settings.catvMaxScaledNodes⌉.toNat

theorem ratioDepth_exact {maxDepth : ℤ} (hpos : 1 ≤ maxDepth) (hle : maxDepth ≤ 10) :
    ratioDepth .exact maxDepth =
      .ok ((List.range maxDepth.toNat).map fun i : ℕ => ratioOf maxDepth (i + 1)) := by
  interval_cases maxDepth
  all_goals
    simp [ratioDepth, ratioTable, sliceTo, ratioOf, FloatOps.exact, List.range_succ]
    try norm_num

theorem ratioOf_nonneg {maxDepth depth : ℤ} (hpos : 1 ≤ depth) : 0 ≤ ratioOf maxDepth depth := by
  have hdepth : (1 : ℚ) ≤ depth := by exact_mod_cast hpos
  unfold ratioOf
  apply div_nonneg
  · linarith
  · positivity

theorem listIndex_ratioOf {maxDepth depth : ℤ} (hpos : 1 ≤ depth) (hle : depth ≤ maxDepth) :
    listIndex ((List.range maxDepth.toNat).map fun i : ℕ => ratioOf maxDepth (i + 1)) (depth - 1) =
      .ok (ratioOf maxDepth depth) := by
  have hlt : (depth - 1).toNat <
      ((List.range maxDepth.toNat).map fun i : ℕ => ratioOf maxDepth (i + 1)).length := by
    rw [List.length_map, List.length_range]
    omega
  rw [listIndex_of_lt (by omega) hlt, List.getElem_map, List.getElem_range]
  have hcast : (((depth - 1).toNat : ℕ) : ℤ) + 1 = depth := by omega
  rw [hcast]

/-- The first `n` odd numbers over `n²` add up to one. -/
theorem sum_ratioOf {maxDepth : ℕ} (hpos : 1 ≤ maxDepth) :
    ∑ i ∈ Finset.range maxDepth, ratioOf maxDepth (i + 1) = 1 := by
  have hodd : ∀ n : ℕ, ∑ i ∈ Finset.range n, (2 * ((i : ℤ) + 1 : ℤ) - 1 : ℚ) = (n : ℚ) ^ 2 := by
    intro n
    induction n with
    | zero => simp
    | succ n ih =>
        rw [Finset.sum_range_succ, ih]
        push_cast
        ring
  have hne : (maxDepth : ℚ) ^ 2 ≠ 0 := by positivity
  unfold ratioOf
  rw [← Finset.sum_div, hodd, Int.cast_natCast, div_self hne]

/-- **All shares together are less than one edge per depth too many.** -/
theorem sum_share_lt (settings : ApiSettings) {maxDepth : ℕ} (hpos : 1 ≤ maxDepth) :
    ∑ i ∈ Finset.range maxDepth, share settings maxDepth (i + 1) <
      settings.catvMaxScaledNodes + maxDepth := by
  have hround : ∀ i ∈ Finset.range maxDepth, (share settings maxDepth (i + 1) : ℚ) <
      ratioOf maxDepth (i + 1) * settings.catvMaxScaledNodes + 1 := by
    intro i _
    have hnonneg : 0 ≤ ratioOf maxDepth (i + 1) * settings.catvMaxScaledNodes := by
      apply mul_nonneg
      · exact ratioOf_nonneg (by omega)
      · positivity
    have hceil : ((share settings maxDepth (i + 1) : ℕ) : ℤ) =
        ⌈ratioOf maxDepth (i + 1) * settings.catvMaxScaledNodes⌉ :=
      Int.toNat_of_nonneg (Int.ceil_nonneg hnonneg)
    calc (share settings maxDepth (i + 1) : ℚ)
        = ((share settings maxDepth (i + 1) : ℕ) : ℤ) := by norm_cast
      _ = ⌈ratioOf maxDepth (i + 1) * settings.catvMaxScaledNodes⌉ := by rw [hceil]
      _ < ratioOf maxDepth (i + 1) * settings.catvMaxScaledNodes + 1 := Int.ceil_lt_add_one _
  have hsum : (∑ i ∈ Finset.range maxDepth, share settings maxDepth (i + 1) : ℚ) <
      settings.catvMaxScaledNodes + maxDepth := by
    calc (∑ i ∈ Finset.range maxDepth, share settings maxDepth (i + 1) : ℚ)
        < ∑ i ∈ Finset.range maxDepth,
            (ratioOf maxDepth (i + 1) * settings.catvMaxScaledNodes + 1) :=
          Finset.sum_lt_sum_of_nonempty (Finset.nonempty_range_iff.mpr (by omega)) hround
      _ = settings.catvMaxScaledNodes + maxDepth := by
          rw [Finset.sum_add_distrib, ← Finset.sum_mul, sum_ratioOf hpos]
          simp
  exact_mod_cast hsum

/-! ## One round -/

/-- What a round may take: any edge at the first depth, and behind it an edge at one of the given
addresses. -/
def IsCandidate (ends : Finset String) (depth : ℤ) (key : String × String) : Prop :=
  depth ≠ 1 → key.1 ∈ ends ∨ key.2 ∈ ends

instance (ends : Finset String) (depth : ℤ) (key : String × String) :
    Decidable (IsCandidate ends depth key) :=
  inferInstanceAs (Decidable (_ → _))

/-- The candidates of a round, in the order of the group. -/
def candidates (ends : Finset String) (depth : ℤ) (group : EdgeDict) :
    List ((String × String) × Edge) :=
  group.entries.filter fun item => IsCandidate ends depth item.1

variable {settings : ApiSettings} {ratios : List ℚ} {maxDepth depth : ℤ}
  {limited result group : EdgeDict} {groups : List (ℤ × EdgeDict)}

theorem nodup_keys_candidates (ends : Finset String) (depth : ℤ) (group : EdgeDict) :
    ((candidates ends depth group).map Prod.fst).Nodup :=
  group.nodup.sublist (List.filter_sublist.map Prod.fst)

/-- A round appends the first of its candidates, as many as its share. -/
theorem limitGroup_exact (settings : ApiSettings)
    (hratio : listIndex ratios (depth - 1) = .ok (ratioOf maxDepth depth))
    (hpos : 1 ≤ depth) (hnew : ∀ key ∈ group.keys, key ∉ limited.keys) :
    ∃ result, limitGroup .exact settings ratios limited depth group = .ok result ∧
      result.entries = limited.entries ++
        (candidates (endpoints limited) depth group).take (share settings maxDepth depth) := by
  have hcount : ¬ ⌈ratioOf maxDepth depth * settings.catvMaxScaledNodes⌉ < 0 := by
    rw [not_lt]
    apply Int.ceil_nonneg
    exact mul_nonneg (ratioOf_nonneg hpos) (Nat.cast_nonneg _)
  have hcandidates : (if depth ≠ 1 then
      group.entries.filter fun item =>
        item.1.1 ∈ endpoints limited ∨ item.1.2 ∈ endpoints limited
      else group.entries) = candidates (endpoints limited) depth group := by
    unfold candidates IsCandidate
    by_cases hone : depth = 1
    · simp [hone]
    · simp [hone]
  have htake : take ⌈FloatOps.exact.mul (ratioOf maxDepth depth) settings.catvMaxScaledNodes⌉
      (if depth ≠ 1 then
        group.entries.filter fun item =>
          item.1.1 ∈ endpoints limited ∨ item.1.2 ∈ endpoints limited
        else group.entries) =
      .ok ((candidates (endpoints limited) depth group).take (share settings maxDepth depth)) := by
    rw [hcandidates]
    exact if_neg hcount
  have hshare : (candidates (endpoints limited) depth group).take
      (share settings maxDepth depth) ⊆ group.entries :=
    fun _ hitem => (List.mem_filter.mp (List.mem_of_mem_take hitem)).1
  have hitems := Dict.entries_ofItems (((List.take_sublist (share settings maxDepth depth)
    (candidates (endpoints limited) depth group)).map Prod.fst).nodup
      (nodup_keys_candidates (endpoints limited) depth group))
  refine ⟨limited.update (Dict.ofItems ((candidates (endpoints limited) depth group).take
    (share settings maxDepth depth))), ?_, ?_⟩
  · exact bind_eq_ok_iff.mpr ⟨_, hratio, bind_eq_ok_iff.mpr ⟨_, htake, rfl⟩⟩
  · rw [Dict.entries_update, hitems]
    intro key hkey
    obtain ⟨item, hitem, rfl⟩ := Dict.mem_keys_ofItems.mp hkey
    exact hnew item.1 (List.mem_map_of_mem (hshare hitem))

/-! ## All rounds -/

/-- No edge is in two groups. -/
def Separate (groups : List (ℤ × EdgeDict)) : Prop :=
  groups.Pairwise fun first second => ∀ key ∈ first.2.keys, key ∉ second.2.keys

/-- Every round has its ratio. -/
def HasRatios (ratios : List ℚ) (maxDepth : ℤ) (groups : List (ℤ × EdgeDict)) : Prop :=
  ∀ entry ∈ groups, 1 ≤ entry.1 ∧
    listIndex ratios (entry.1 - 1) = .ok (ratioOf maxDepth entry.1)

/-- What the rounds append comes from their groups, and is no more than their shares. -/
structure Appended (settings : ApiSettings) (maxDepth : ℤ) (groups : List (ℤ × EdgeDict))
    (items : List ((String × String) × Edge)) : Prop where
  within : ∀ item ∈ items, ∃ entry ∈ groups, item ∈ entry.2.entries
  length_le : items.length ≤ (groups.map fun entry => share settings maxDepth entry.1).sum

theorem limitGroups_exact (settings : ApiSettings) (hratios : HasRatios ratios maxDepth groups)
    (hseparate : Separate groups)
    (hnew : ∀ entry ∈ groups, ∀ key ∈ entry.2.keys, key ∉ limited.keys) :
    ∃ result items, limitGroups .exact settings ratios groups limited = .ok result ∧
      result.entries = limited.entries ++ items ∧ Appended settings maxDepth groups items := by
  induction groups generalizing limited with
  | nil =>
      exact ⟨limited, [], rfl, (List.append_nil _).symm, ⟨fun _ hitem => (by cases hitem), le_rfl⟩⟩
  | cons entry groups ih =>
      obtain ⟨depth, group⟩ := entry
      obtain ⟨hpos, hratio⟩ := hratios _ List.mem_cons_self
      obtain ⟨hfirst, hrest⟩ := List.pairwise_cons.mp hseparate
      obtain ⟨next, hnext, hentries⟩ :=
        limitGroup_exact settings hratio hpos (hnew _ List.mem_cons_self)
      have hround : ∀ item ∈ (candidates (endpoints limited) depth group).take
          (share settings maxDepth depth), item ∈ group.entries :=
        fun _ hitem => (List.mem_filter.mp (List.mem_of_mem_take hitem)).1
      have hnew' : ∀ other ∈ groups, ∀ key ∈ other.2.keys, key ∉ next.keys := by
        intro other hother key hkey hmem
        rw [Dict.keys, hentries, List.map_append] at hmem
        rcases List.mem_append.mp hmem with hold | hround'
        · exact hnew other (List.mem_cons_of_mem _ hother) key hkey hold
        · obtain ⟨item, hitem, rfl⟩ := List.mem_map.mp hround'
          exact hfirst other hother item.1 (List.mem_map_of_mem (hround item hitem)) hkey
      obtain ⟨result, items, hresult, hmore, happended⟩ :=
        ih (fun other hother => hratios other (List.mem_cons_of_mem _ hother)) hrest hnew'
      refine ⟨result, (candidates (endpoints limited) depth group).take
        (share settings maxDepth depth) ++ items,
      bind_eq_ok_iff.mpr ⟨next, hnext, hresult⟩, ?_, ?_, ?_⟩
      · rw [hmore, hentries, List.append_assoc]
      · intro item hitem
        rcases List.mem_append.mp hitem with hitem | hitem
        · exact ⟨(depth, group), List.mem_cons_self, hround item hitem⟩
        · obtain ⟨entry, hentry, hmem⟩ := happended.within item hitem
          exact ⟨entry, List.mem_cons_of_mem _ hentry, hmem⟩
      · rw [List.length_append, List.map_cons, List.sum_cons]
        exact Nat.add_le_add (List.length_take_le _ _) happended.length_le

/-! ## What a round has decided -/

/-- The addresses at the ends of the edges that are kept from the given groups. -/
def endsFrom (before : List (ℤ × EdgeDict)) (kept : EdgeDict) : Finset String :=
  endpoints (kept.filter fun entry => before.any fun group => decide (entry.1 ∈ group.2.keys))

/-- A round has kept the edges with the largest sums among its candidates, as many as it may. -/
structure GreedyRound (count : ℕ) (ends : Finset String) (depth : ℤ) (group kept : EdgeDict) :
    Prop where
  candidates : ∀ key ∈ group.keys, key ∈ kept.keys → IsCandidate ends depth key
  largest : ∀ key edge other rival, group.get? key = some edge → key ∈ kept.keys →
    group.get? other = some rival → IsCandidate ends depth other → other ∉ kept.keys →
      rival.sum ≤ edge.sum
  full : (group.keys.filter fun key => key ∈ kept.keys).length =
    min count (group.keys.filter fun key => IsCandidate ends depth key).length

theorem mem_candidates {ends : Finset String} {item : (String × String) × Edge} :
    item ∈ candidates ends depth group ↔
      group.get? item.1 = some item.2 ∧ IsCandidate ends depth item.1 := by
  rw [candidates, List.mem_filter, decide_eq_true_iff]
  exact and_congr_left fun _ => Dict.mem_entries_iff

theorem greedyRound_of_take {count : ℕ} {ends : Finset String} {kept : EdgeDict}
    (hsorted : group.entries.Pairwise fun first second => second.2.sum ≤ first.2.sum)
    (hkept : ∀ key ∈ group.keys, key ∈ kept.keys ↔
      key ∈ ((candidates ends depth group).take count).map Prod.fst) :
    GreedyRound count ends depth group kept := by
  have hcandidates : (candidates ends depth group).Pairwise
      fun first second => second.2.sum ≤ first.2.sum := hsorted.sublist List.filter_sublist
  rw [← List.take_append_drop count (candidates ends depth group), List.pairwise_append]
    at hcandidates
  obtain ⟨-, -, hlargest⟩ := hcandidates
  refine ⟨fun key hkey hmem => ?_, fun key edge other rival hedge hmem hrival hcandidate hnot => ?_,
    ?_⟩
  · obtain ⟨item, hitem, rfl⟩ := List.mem_map.mp ((hkept key hkey).mp hmem)
    exact (mem_candidates.mp (List.mem_of_mem_take hitem)).2
  · have hkey : key ∈ group.keys := Dict.mem_keys_iff.mpr ⟨edge, hedge⟩
    obtain ⟨item, hitem, rfl⟩ := List.mem_map.mp ((hkept key hkey).mp hmem)
    have hget := (mem_candidates.mp (List.mem_of_mem_take hitem)).1
    obtain rfl := Option.some.inj (hget.symm.trans hedge)
    have hother : (other, rival) ∈ candidates ends depth group :=
      mem_candidates.mpr ⟨hrival, hcandidate⟩
    rw [← List.take_append_drop count (candidates ends depth group)] at hother
    rcases List.mem_append.mp hother with htaken | hdropped
    · have hin : other ∈ ((candidates ends depth group).take count).map Prod.fst :=
        List.mem_map_of_mem htaken
      exact absurd ((hkept other (Dict.mem_keys_iff.mpr ⟨rival, hrival⟩)).mpr hin) hnot
    · exact hlargest item hitem (other, rival) hdropped
  · have hperm : (group.keys.filter fun key => key ∈ kept.keys).Perm
        (((candidates ends depth group).take count).map Prod.fst) := by
      rw [List.perm_ext_iff_of_nodup]
      · intro key
        rw [List.mem_filter, decide_eq_true_iff]
        constructor
        · rintro ⟨hkey, hmem⟩
          exact (hkept key hkey).mp hmem
        · intro hmem
          obtain ⟨item, hitem, rfl⟩ := List.mem_map.mp hmem
          have hget := (mem_candidates.mp (List.mem_of_mem_take hitem)).1
          have hkey : item.1 ∈ group.keys := Dict.mem_keys_iff.mpr ⟨item.2, hget⟩
          exact ⟨hkey, (hkept item.1 hkey).mpr hmem⟩
      · exact group.nodup.filter _
      · exact ((List.take_sublist _ _).map Prod.fst).nodup (nodup_keys_candidates ends depth group)
    have hlength : (group.keys.filter fun key => IsCandidate ends depth key).length =
        (candidates ends depth group).length := by
      rw [Dict.keys, List.filter_map, List.length_map]
      rfl
    rw [hperm.length_eq, List.length_map, List.length_take, hlength]

theorem limitGroups_append (ops : FloatOps) (settings : ApiSettings) (ratios : List ℚ)
    (before after : List (ℤ × EdgeDict)) (limited : EdgeDict) :
    limitGroups ops settings ratios (before ++ after) limited =
      limitGroups ops settings ratios before limited >>= limitGroups ops settings ratios after := by
  induction before generalizing limited with
  | nil => rfl
  | cons entry before ih =>
      obtain ⟨depth, group⟩ := entry
      rw [List.cons_append, limitGroups, limitGroups]
      cases limitGroup ops settings ratios limited depth group with
      | error e => rfl
      | ok next => exact ih next

theorem mem_keys_of_appended {items : List ((String × String) × Edge)} {key : String × String}
    (happended : Appended settings maxDepth groups items) (hkey : key ∈ items.map Prod.fst) :
    ∃ entry ∈ groups, key ∈ entry.2.keys := by
  obtain ⟨item, hitem, rfl⟩ := List.mem_map.mp hkey
  obtain ⟨entry, hentry, hmem⟩ := happended.within item hitem
  exact ⟨entry, hentry, List.mem_map_of_mem hmem⟩

/-- What a run has kept, cut at one of its rounds: the edges from the groups before the round, those
of the round, and those from the groups behind it. -/
structure Cut (count : ℕ) (before : List (ℤ × EdgeDict)) (depth : ℤ) (group : EdgeDict)
    (after : List (ℤ × EdgeDict)) (first kept : EdgeDict) (later : List (String × String)) :
    Prop where
  keys : kept.keys =
    first.keys ++ ((candidates (endpoints first) depth group).take count).map Prod.fst ++ later
  fromBefore : ∀ key ∈ first.keys, ∃ entry ∈ before, key ∈ entry.2.keys
  fromAfter : ∀ key ∈ later, ∃ entry ∈ after, key ∈ entry.2.keys

theorem mem_keys_of_mem_take {count : ℕ} {ends : Finset String} {key : String × String}
    (hkey : key ∈ ((candidates ends depth group).take count).map Prod.fst) : key ∈ group.keys := by
  obtain ⟨item, hitem, rfl⟩ := List.mem_map.mp hkey
  exact List.mem_map_of_mem (List.mem_filter.mp (List.mem_of_mem_take hitem)).1

/-- A run is cut into the run up to a round, the round, and the run behind it. -/
theorem exists_cut {before after : List (ℤ × EdgeDict)}
    (hratios : HasRatios ratios maxDepth (before ++ (depth, group) :: after))
    (hseparate : Separate (before ++ (depth, group) :: after))
    (hresult : limitGroups .exact settings ratios (before ++ (depth, group) :: after) Dict.empty =
      .ok result) :
    ∃ first later,
      Cut (share settings maxDepth depth) before depth group after first result later := by
  obtain ⟨hbefore, hrest, hacross⟩ := List.pairwise_append.mp hseparate
  obtain ⟨hafter, hseparate'⟩ := List.pairwise_cons.mp hrest
  obtain ⟨hpos, hratio⟩ := hratios (depth, group) (by simp)
  have hempty : ∀ entry ∈ before, ∀ key ∈ entry.2.keys, key ∉ (Dict.empty : EdgeDict).keys :=
    fun _ _ _ _ => List.not_mem_nil
  obtain ⟨first, kept, hfirst, hkept, happended⟩ := limitGroups_exact settings
    (fun entry hentry => hratios entry (List.mem_append_left _ hentry)) hbefore hempty
  have hfirstKeys : ∀ key ∈ first.keys, ∃ entry ∈ before, key ∈ entry.2.keys := by
    intro key hkey
    rw [Dict.keys, hkept] at hkey
    exact mem_keys_of_appended happended hkey
  have hnew : ∀ key ∈ group.keys, key ∉ first.keys := by
    intro key hkey hmem
    obtain ⟨entry, hentry, hin⟩ := hfirstKeys key hmem
    exact hacross entry hentry _ List.mem_cons_self key hin hkey
  obtain ⟨next, hnext, hround⟩ := limitGroup_exact settings hratio hpos hnew
  have hnextKeys : next.keys = first.keys ++ ((candidates (endpoints first) depth group).take
      (share settings maxDepth depth)).map Prod.fst := by
    rw [Dict.keys, hround, List.map_append]
    rfl
  have hnew' : ∀ entry ∈ after, ∀ key ∈ entry.2.keys, key ∉ next.keys := by
    intro entry hentry key hkey hmem
    rw [hnextKeys] at hmem
    rcases List.mem_append.mp hmem with hold | hin
    · obtain ⟨other, hother, hin⟩ := hfirstKeys key hold
      exact hacross other hother entry (List.mem_cons_of_mem _ hentry) key hin hkey
    · exact hafter entry hentry key (mem_keys_of_mem_take hin) hkey
  obtain ⟨final, later, hfinal, hlater, happended'⟩ := limitGroups_exact settings
    (fun entry hentry => hratios entry (by simp [hentry])) hseparate' hnew'
  obtain rfl : final = result := by
    rw [limitGroups_append] at hresult
    have hrun : limitGroups .exact settings ratios before Dict.empty >>=
        limitGroups .exact settings ratios ((depth, group) :: after) = .ok final :=
      bind_eq_ok_iff.mpr ⟨first, hfirst, bind_eq_ok_iff.mpr ⟨next, hnext, hfinal⟩⟩
    exact Except.ok.inj (hrun.symm.trans hresult)
  refine ⟨first, later.map Prod.fst, ?_, hfirstKeys, fun key hkey => ?_⟩
  · rw [← hnextKeys, Dict.keys, hlater, List.map_append]
    rfl
  · exact mem_keys_of_appended happended' hkey

namespace Cut

variable {count : ℕ} {before after : List (ℤ × EdgeDict)} {first kept : EdgeDict}
  {later : List (String × String)}

theorem endsFrom_eq (hcut : Cut count before depth group after first kept later)
    (hseparate : Separate (before ++ (depth, group) :: after)) :
    endsFrom before kept = endpoints first := by
  obtain ⟨-, -, hacross⟩ := List.pairwise_append.mp hseparate
  ext address
  unfold endsFrom
  rw [mem_endpoints, mem_endpoints, Dict.keys_filter
    (fun key => before.any fun group => decide (key ∈ group.2.keys))]
  refine exists_congr fun key => and_congr_left fun _ => ?_
  rw [List.mem_filter, hcut.keys, List.any_eq_true]
  refine ⟨fun ⟨hmem, entry, hentry, hin⟩ => ?_, fun hmem => ?_⟩
  · rw [decide_eq_true_iff] at hin
    rcases List.mem_append.mp hmem with hmem | hmem
    · rcases List.mem_append.mp hmem with hmem | hmem
      · exact hmem
      · exact absurd (mem_keys_of_mem_take hmem)
          (hacross entry hentry _ List.mem_cons_self key hin)
    · obtain ⟨other, hother, hin'⟩ := hcut.fromAfter key hmem
      exact absurd hin' (hacross entry hentry other (List.mem_cons_of_mem _ hother) key hin)
  · obtain ⟨entry, hentry, hin⟩ := hcut.fromBefore key hmem
    exact ⟨List.mem_append_left _ (List.mem_append_left _ hmem), entry, hentry,
      decide_eq_true hin⟩

/-- Of the group of the round, what the round has taken is kept, and nothing else. -/
theorem mem_keys_iff (hcut : Cut count before depth group after first kept later)
    (hseparate : Separate (before ++ (depth, group) :: after)) {key : String × String}
    (hkey : key ∈ group.keys) :
    key ∈ kept.keys ↔
      key ∈ ((candidates (endpoints first) depth group).take count).map Prod.fst := by
  obtain ⟨-, hrest, hacross⟩ := List.pairwise_append.mp hseparate
  obtain ⟨hafter, -⟩ := List.pairwise_cons.mp hrest
  rw [hcut.keys]
  refine ⟨fun hmem => ?_, fun hmem => List.mem_append_left _ (List.mem_append_right _ hmem)⟩
  rcases List.mem_append.mp hmem with hmem | hmem
  · rcases List.mem_append.mp hmem with hmem | hmem
    · obtain ⟨entry, hentry, hin⟩ := hcut.fromBefore key hmem
      exact absurd hkey (hacross entry hentry _ List.mem_cons_self key hin)
    · exact hmem
  · obtain ⟨entry, hentry, hin⟩ := hcut.fromAfter key hmem
    exact absurd hin (hafter entry hentry key hkey)

end Cut

/-- **What is kept in the end shows that every round was greedy.** -/
theorem greedyRound_of_limitGroups {before after : List (ℤ × EdgeDict)}
    (hratios : HasRatios ratios maxDepth (before ++ (depth, group) :: after))
    (hseparate : Separate (before ++ (depth, group) :: after))
    (hsorted : group.entries.Pairwise fun first second => second.2.sum ≤ first.2.sum)
    (hresult : limitGroups .exact settings ratios (before ++ (depth, group) :: after) Dict.empty =
      .ok result) :
    GreedyRound (share settings maxDepth depth) (endsFrom before result) depth group result := by
  obtain ⟨first, later, hcut⟩ := exists_cut hratios hseparate hresult
  rw [hcut.endsFrom_eq hseparate]
  exact greedyRound_of_take hsorted fun key hkey => hcut.mem_keys_iff hseparate hkey

/-! ## What is kept hangs together -/

/-- Two addresses with a kept edge between them. -/
def Linked (kept : EdgeDict) (first second : String) : Prop :=
  (first, second) ∈ kept.keys ∨ (second, first) ∈ kept.keys

/-- Both ends of an edge are connected to the root through kept edges. -/
def Connected (kept : EdgeDict) (root : String) (key : String × String) : Prop :=
  ReflTransGen (Linked kept) root key.1 ∧ ReflTransGen (Linked kept) root key.2

/-- An edge with one end at a connected address is connected. -/
theorem connected_of_touches {kept : EdgeDict} {root address : String} {key : String × String}
    (hkey : key ∈ kept.keys) (htouches : key.1 = address ∨ key.2 = address)
    (haddress : ReflTransGen (Linked kept) root address) : Connected kept root key := by
  rcases htouches with rfl | rfl
  · exact ⟨haddress, haddress.tail (.inl hkey)⟩
  · exact ⟨haddress.tail (.inr hkey), haddress⟩

/-- **If the edges of the first depth touch the root, what is kept is connected to it.**  The
induction is on the groups before an edge: it touches an edge from one of them. -/
theorem connected_of_greedy {count : ℤ → ℕ} {kept : EdgeDict} {root : String}
    (hwithin : ∀ key ∈ kept.keys, ∃ entry ∈ groups, key ∈ entry.2.keys)
    (hgreedy : ∀ before depth group after, groups = before ++ (depth, group) :: after →
      GreedyRound (count depth) (endsFrom before kept) depth group kept)
    (hroot : ∀ group, (1, group) ∈ groups → ∀ key ∈ group.keys, key.1 = root ∨ key.2 = root) :
    ∀ key ∈ kept.keys, Connected kept root key := by
  have hprefix : ∀ before after, groups = before ++ after → ∀ entry ∈ before,
      ∀ key ∈ entry.2.keys, key ∈ kept.keys → Connected kept root key := by
    intro before
    induction before using List.reverseRecOn with
    | nil => exact fun _ _ _ hentry => (by cases hentry)
    | append_singleton before entry ih =>
        intro after hgroups other hother key hkey hmem
        rw [List.append_assoc] at hgroups
        rcases List.mem_append.mp hother with hother | hother
        · exact ih _ hgroups other hother key hkey hmem
        · obtain rfl := List.mem_singleton.mp hother
          obtain ⟨depth, group⟩ := other
          have hcandidate := (hgreedy before depth group after hgroups).candidates key hkey hmem
          by_cases hone : depth = 1
          · subst hone
            have htouches := hroot group (hgroups ▸ by simp) key hkey
            exact connected_of_touches hmem htouches .refl
          · have hends : ∀ address ∈ endsFrom before kept,
                ReflTransGen (Linked kept) root address := by
              intro address haddress
              obtain ⟨previous, hprevious, hend⟩ := mem_endpoints.mp haddress
              rw [Dict.keys_filter (fun key => before.any fun group => decide (key ∈ group.2.keys)),
                List.mem_filter, List.any_eq_true] at hprevious
              obtain ⟨hkept, source, hsource, hin⟩ := hprevious
              obtain ⟨hfirst, hsecond⟩ :=
                ih _ hgroups source hsource previous (by simpa using hin) hkept
              rcases hend with rfl | rfl
              · exact hfirst
              · exact hsecond
            rcases hcandidate hone with hend | hend
            · exact connected_of_touches hmem (.inl rfl) (hends _ hend)
            · exact connected_of_touches hmem (.inr rfl) (hends _ hend)
  intro key hkey
  obtain ⟨entry, hentry, hin⟩ := hwithin key hkey
  exact hprefix groups [] (List.append_nil _).symm entry hentry key hin hkey

/-! ## Sorted groups -/

theorem entries_sortedGroup (group : EdgeDict) :
    (Dict.ofItems (sortedItems group)).entries = sortedItems group :=
  Dict.entries_ofItems (((List.mergeSort_perm _ _).map Prod.fst).nodup_iff.mpr group.nodup)

theorem keys_sortedGroup_perm (group : EdgeDict) :
    (Dict.ofItems (sortedItems group)).keys.Perm group.keys := by
  rw [Dict.keys, entries_sortedGroup]
  exact (List.mergeSort_perm _ _).map Prod.fst

theorem get?_sortedGroup (group : EdgeDict) (key : String × String) :
    (Dict.ofItems (sortedItems group)).get? key = group.get? key := by
  ext edge
  rw [← Dict.mem_entries_iff, ← Dict.mem_entries_iff, entries_sortedGroup]
  exact (List.mergeSort_perm _ _).mem_iff

theorem pairwise_sortedGroup (group : EdgeDict) :
    (Dict.ofItems (sortedItems group)).entries.Pairwise
      fun first second => second.2.sum ≤ first.2.sum := by
  rw [entries_sortedGroup]
  refine (List.pairwise_mergeSort (fun a b c hab hbc => ?_) (fun a b => ?_) _).imp ?_
  · simp only [decide_eq_true_iff] at hab hbc ⊢
    exact hbc.trans hab
  · simpa using le_total b.2.sum a.2.sum
  · exact fun h => of_decide_eq_true h

theorem GreedyRound.of_sorted {count : ℕ} {ends : Finset String} {kept : EdgeDict}
    (hround : GreedyRound count ends depth (Dict.ofItems (sortedItems group)) kept) :
    GreedyRound count ends depth group kept := by
  have hperm := keys_sortedGroup_perm group
  refine ⟨fun key hkey => hround.candidates key (hperm.mem_iff.mpr hkey), ?_, ?_⟩
  · intro key edge other rival hedge hkept hrival
    rw [← get?_sortedGroup] at hedge hrival
    exact hround.largest key edge other rival hedge hkept hrival
  · rw [← (hperm.filter _).length_eq, ← (hperm.filter _).length_eq]
    exact hround.full

theorem endsFrom_congr {before others : List (ℤ × EdgeDict)} {kept : EdgeDict}
    (hkeys : ∀ key, (∃ entry ∈ before, key ∈ entry.2.keys) ↔ ∃ entry ∈ others, key ∈ entry.2.keys) :
    endsFrom before kept = endsFrom others kept := by
  unfold endsFrom
  have hany : (fun key => before.any fun group => decide (key ∈ group.2.keys)) =
      fun key => others.any fun group => decide (key ∈ group.2.keys) := by
    funext key
    rw [Bool.eq_iff_iff]
    simpa using hkeys key
  simp only [congrFun hany]

/-! ## The shedding -/

/-- The shares of the groups.  Their depths are distinct, so each share is counted once. -/
theorem sum_shares_lt (settings : ApiSettings) {groups : DepthGroups} {maxDepth : ℕ}
    (hpos : 1 ≤ maxDepth) (hrange : ∀ depth ∈ groups.keys, 1 ≤ depth ∧ depth ≤ maxDepth) :
    (groups.entries.map fun entry => share settings maxDepth entry.1).sum <
      settings.catvMaxScaledNodes + maxDepth := by
  have hsubset : groups.keys.toFinset ⊆
      (Finset.range maxDepth).image fun i : ℕ => (i : ℤ) + 1 := by
    intro depth hdepth
    obtain ⟨hone, hle⟩ := hrange depth (List.mem_toFinset.mp hdepth)
    refine Finset.mem_image.mpr ⟨(depth - 1).toNat, Finset.mem_range.mpr (by omega), by omega⟩
  have hinjective : Set.InjOn (fun i : ℕ => (i : ℤ) + 1) (Finset.range maxDepth) :=
    fun i _ j _ hij => by simpa using hij
  calc (groups.entries.map fun entry => share settings maxDepth entry.1).sum
      = (groups.keys.map (share settings maxDepth)).sum := by
        rw [Dict.keys, List.map_map]
        rfl
    _ = ∑ depth ∈ groups.keys.toFinset, share settings maxDepth depth :=
        (List.sum_toFinset _ groups.nodup).symm
    _ ≤ ∑ depth ∈ (Finset.range maxDepth).image fun i : ℕ => (i : ℤ) + 1,
          share settings maxDepth depth := Finset.sum_le_sum_of_subset hsubset
    _ = ∑ i ∈ Finset.range maxDepth, share settings maxDepth (i + 1) :=
        Finset.sum_image hinjective
    _ < settings.catvMaxScaledNodes + maxDepth := sum_share_lt settings hpos

theorem separate_groupByDepth (edges : EdgeDict) (mode : Mode) :
    Separate (groupByDepth edges mode).entries := by
  have hdistinct : (groupByDepth edges mode).entries.Pairwise fun first second =>
      first.1 ≠ second.1 := List.pairwise_map.mp (groupByDepth edges mode).nodup
  refine hdistinct.imp_of_mem ?_
  intro first second hfirst hsecond hne key hkey hmem
  obtain ⟨edge, hedge⟩ := Dict.mem_keys_iff.mp hkey
  obtain ⟨other, hother⟩ := Dict.mem_keys_iff.mp hmem
  obtain ⟨hget, hdepth⟩ := inGroup_groupByDepth.mp ⟨first.2, Dict.mem_entries_iff.mp hfirst, hedge⟩
  obtain ⟨hget', hdepth'⟩ :=
    inGroup_groupByDepth.mp ⟨second.2, Dict.mem_entries_iff.mp hsecond, hother⟩
  obtain rfl := Option.some.inj (hget.symm.trans hget')
  exact hne (hdepth.symm.trans hdepth')

theorem separate_sortPerDepth {groups : DepthGroups} (hseparate : Separate groups.entries) :
    Separate (sortPerDepth groups).entries := by
  refine List.pairwise_map.mpr (hseparate.imp fun hdisjoint key hkey hmem => ?_)
  rw [(keys_sortedGroup_perm _).mem_iff] at hkey hmem
  exact hdisjoint key hkey hmem

theorem hasRatios_sortPerDepth {groups : DepthGroups}
    (hrange : ∀ depth ∈ groups.keys, 1 ≤ depth ∧ depth ≤ maxDepth) :
    HasRatios ((List.range maxDepth.toNat).map fun i : ℕ => ratioOf maxDepth (i + 1)) maxDepth
      (sortPerDepth groups).entries := by
  intro entry hentry
  obtain ⟨original, horiginal, rfl⟩ := List.mem_map.mp hentry
  obtain ⟨hpos, hle⟩ := hrange original.1 (List.mem_map_of_mem horiginal)
  exact ⟨hpos, listIndex_ratioOf hpos hle⟩

theorem greedyRound_of_sortPerDepth {groups : DepthGroups} {before after : List (ℤ × EdgeDict)}
    (hsplit : groups.entries = before ++ (depth, group) :: after)
    (hratios : HasRatios ratios maxDepth (sortPerDepth groups).entries)
    (hseparate : Separate (sortPerDepth groups).entries)
    (hresult : limitGroups .exact settings ratios (sortPerDepth groups).entries Dict.empty =
      .ok result) :
    GreedyRound (share settings maxDepth depth) (endsFrom before result) depth group result := by
  have hentries : (sortPerDepth groups).entries =
      before.map (fun entry => (entry.1, Dict.ofItems (sortedItems entry.2))) ++
        (depth, Dict.ofItems (sortedItems group)) ::
          after.map fun entry => (entry.1, Dict.ofItems (sortedItems entry.2)) := by
    show groups.entries.map (fun entry => (entry.1, Dict.ofItems (sortedItems entry.2))) = _
    rw [hsplit, List.map_append, List.map_cons]
  rw [hentries] at hratios hseparate hresult
  have hround := greedyRound_of_limitGroups hratios hseparate (pairwise_sortedGroup group) hresult
  have hends : endsFrom (before.map fun entry => (entry.1, Dict.ofItems (sortedItems entry.2)))
      result = endsFrom before result := by
    refine endsFrom_congr fun key => ?_
    simp [(keys_sortedGroup_perm _).mem_iff]
  rw [hends] at hround
  exact hround.of_sorted

theorem inGroup_of_appended {groups : DepthGroups} {items : List ((String × String) × Edge)}
    (happended : Appended settings maxDepth (sortPerDepth groups).entries items)
    {key : String × String} {edge : Edge} (hmem : (key, edge) ∈ items) :
    ∃ depth, InGroup groups depth key edge := by
  obtain ⟨entry, hentry, hin⟩ := happended.within _ hmem
  obtain ⟨original, horiginal, rfl⟩ := List.mem_map.mp hentry
  rw [Dict.mem_entries_iff, get?_sortedGroup] at hin
  exact ⟨original.1, original.2, Dict.mem_entries_iff.mp horiginal, hin⟩

/-- It is less than one edge per depth too many. -/
theorem length_lt_of_appended {groups : DepthGroups} {items : List ((String × String) × Edge)}
    (hpos : 1 ≤ maxDepth) (hrange : ∀ depth ∈ groups.keys, 1 ≤ depth ∧ depth ≤ maxDepth)
    (happended : Appended settings maxDepth (sortPerDepth groups).entries items) :
    (items.length : ℤ) < settings.catvMaxScaledNodes + maxDepth := by
  obtain ⟨n, rfl⟩ := Int.eq_ofNat_of_zero_le (show 0 ≤ maxDepth by omega)
  have hbound : items.length < settings.catvMaxScaledNodes + n := by
    calc items.length
        ≤ ((sortPerDepth groups).entries.map fun entry => share settings n entry.1).sum :=
          happended.length_le
      _ = (groups.entries.map fun entry => share settings n entry.1).sum := by
          show ((groups.entries.map fun entry =>
            (entry.1, Dict.ofItems (sortedItems entry.2))).map _).sum = _
          rw [List.map_map]
          rfl
      _ < settings.catvMaxScaledNodes + n := sum_shares_lt settings (by omega) hrange
  exact_mod_cast hbound

/-- What `limit_connected_edges` has kept of its groups. -/
structure Shed (settings : ApiSettings) (maxDepth : ℤ) (groups : DepthGroups) (limited : EdgeDict) :
    Prop where
  within : ∀ key edge, limited.get? key = some edge → ∃ depth, InGroup groups depth key edge
  greedy : ∀ before depth group after, groups.entries = before ++ (depth, group) :: after →
    GreedyRound (share settings maxDepth depth) (endsFrom before limited) depth group limited
  bounded : (limited.entries.length : ℤ) < settings.catvMaxScaledNodes + maxDepth
  connected : ∀ root, (∀ key edge, InGroup groups 1 key edge → key.1 = root ∨ key.2 = root) →
    ∀ key ∈ limited.keys, Connected limited root key

/-- **The shedding is greedy, bounded and connected.** -/
theorem limitConnectedEdges_greedy (settings : ApiSettings) {groups : DepthGroups}
    (hne : groups.keys ≠ []) (hrange : ∀ depth ∈ groups.keys, 1 ≤ depth ∧ depth ≤ 10)
    (hseparate : Separate groups.entries) :
    ∃ maxDepth ratios limited, groups.keys.max? = some maxDepth ∧
      ratioDepth .exact maxDepth = .ok ratios ∧
      (∀ depth ∈ groups.keys, 0 ≤ depth - 1 ∧ depth - 1 < ratios.length) ∧
      limitConnectedEdges .exact settings (sortPerDepth groups) = .ok limited ∧
      Shed settings maxDepth groups limited := by
  obtain ⟨maxDepth, hmax⟩ := Option.isSome_iff_exists.mp (List.isSome_max?_of_ne_nil hne)
  obtain ⟨hmem, hgreatest⟩ := List.max?_eq_some_iff.mp hmax
  obtain ⟨hpos, hle⟩ := hrange maxDepth hmem
  have hdepths : ∀ depth ∈ groups.keys, 1 ≤ depth ∧ depth ≤ maxDepth :=
    fun depth hdepth => ⟨(hrange depth hdepth).1, hgreatest depth hdepth⟩
  have hratios := ratioDepth_exact hpos hle
  have hhas := hasRatios_sortPerDepth hdepths
  have hseparate' := separate_sortPerDepth hseparate
  have hempty : ∀ entry ∈ (sortPerDepth groups).entries, ∀ key ∈ entry.2.keys,
      key ∉ (Dict.empty : EdgeDict).keys := fun _ _ _ _ => List.not_mem_nil
  obtain ⟨limited, items, hlimited, hitems, happended⟩ :=
    limitGroups_exact settings hhas hseparate' hempty
  rw [Dict.empty, List.nil_append] at hitems
  have hwithin : ∀ key edge, limited.get? key = some edge →
      ∃ depth, InGroup groups depth key edge := by
    intro key edge hedge
    rw [← Dict.mem_entries_iff, hitems] at hedge
    exact inGroup_of_appended happended hedge
  have hgreedy : ∀ before depth group after, groups.entries = before ++ (depth, group) :: after →
      GreedyRound (share settings maxDepth depth) (endsFrom before limited) depth group limited :=
    fun before depth group after hsplit =>
      greedyRound_of_sortPerDepth hsplit hhas hseparate' hlimited
  refine ⟨maxDepth, _, limited, hmax, hratios, fun depth hdepth => ?_, ?_, hwithin, hgreedy, ?_, ?_⟩
  · obtain ⟨hone, htop⟩ := hdepths depth hdepth
    rw [List.length_map, List.length_range]
    omega
  · have hkeys : (sortPerDepth groups).keys.max? = some maxDepth := by
      rw [sortPerDepth, Dict.keys_map, hmax]
    unfold limitConnectedEdges
    rw [hkeys]
    exact bind_eq_ok_iff.mpr ⟨_, hratios, hlimited⟩
  · rw [hitems]
    exact length_lt_of_appended hpos hdepths happended
  · intro root hroot
    refine connected_of_greedy (fun key hkey => ?_) hgreedy fun group hgroup key hkey => ?_
    · obtain ⟨edge, hedge⟩ := Dict.mem_keys_iff.mp hkey
      obtain ⟨depth, group, hgroup, hget⟩ := hwithin key edge hedge
      exact ⟨(depth, group), Dict.mem_entries_iff.mpr hgroup, Dict.mem_keys_iff.mpr ⟨edge, hget⟩⟩
    · obtain ⟨edge, hedge⟩ := Dict.mem_keys_iff.mp hkey
      exact hroot key edge ⟨group, Dict.mem_entries_iff.mp hgroup, hedge⟩

/-- Two hops from a root, the outer one first: its group comes first and so it is not kept, as
nothing is that it could touch. -/
theorem limitConnectedEdges_greedy_two :
    let groups := groupByDepth (Dict.ofItems [(("b", "c"), ⟨"1_1", 5, 1, 2, [], 2, 1⟩),
      (("a", "b"), ⟨"0_1", 2, 0, 1, [], 1, 1⟩)]) .distribution
    groups.keys = [2, 1] ∧
      ∃ maxDepth ratios limited, groups.keys.max? = some maxDepth ∧
        ratioDepth .exact maxDepth = .ok ratios ∧
        (∀ depth ∈ groups.keys, 0 ≤ depth - 1 ∧ depth - 1 < ratios.length) ∧
        limitConnectedEdges .exact ⟨7, 10⟩ (sortPerDepth groups) = .ok limited ∧
        Shed ⟨7, 10⟩ maxDepth groups limited :=
  ⟨by decide, limitConnectedEdges_greedy ⟨7, 10⟩ (by decide) (by decide)
    (separate_groupByDepth _ _)⟩

end CatvService.Graph
