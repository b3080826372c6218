import CatvService.Graph.Edges

/-!
# When the shedding of edges raises

The table of `limit_connected_edges` has ten ratios, and what a round looks up in it is the depth of
its group less one, where a negative number counts from the end.  So the shedding raises exactly if
some group is outside the slice that the greatest depth has cut (`exists_limitConnectedEdges_iff`):
for a greatest depth between 1 and 10 the slice has as many ratios, for any greater one it has ten.
-/

namespace CatvService.Graph

open Dictionary PyValue

/-! ## The ratios -/

/-- The number of ratios when the groups go up to the given depth. -/
def ratioCount (maxDepth : ℤ) : ℕ :=
  (sliceTo ratioTable maxDepth).length

/-- The slice for the given greatest depth has a ratio for the depth. -/
def HasRatio (maxDepth depth : ℤ) : Prop :=
  -(ratioCount maxDepth : ℤ) ≤ depth - 1 ∧ depth - 1 < ratioCount maxDepth

/-- The depths have a greatest one, and its slice has a ratio for each of them. -/
def Sheddable (depths : List ℤ) : Prop :=
  ∃ top ∈ depths, ∀ depth ∈ depths, depth ≤ top ∧ HasRatio top depth

instance (maxDepth depth : ℤ) : Decidable (HasRatio maxDepth depth) :=
  inferInstanceAs (Decidable (_ ∧ _))

theorem sheddable_congr {depths others : List ℤ} (hmem : ∀ depth, depth ∈ depths ↔ depth ∈ others) :
    Sheddable depths ↔ Sheddable others := by
  unfold Sheddable
  simp only [hmem]

/-- Depths from 1 up to at most 10 can be shed. -/
theorem sheddable_of_le {depths : List ℤ} (hne : depths ≠ [])
    (hrange : ∀ depth ∈ depths, 1 ≤ depth ∧ depth ≤ 10) : Sheddable depths := by
  obtain ⟨top, htop⟩ := Option.isSome_iff_exists.mp (List.isSome_max?_of_ne_nil hne)
  obtain ⟨hmem, hgreatest⟩ := List.max?_eq_some_iff.mp htop
  obtain ⟨hpos, hle⟩ := hrange top hmem
  have hcount : (ratioCount top : ℤ) = top := by
    simp [ratioCount, sliceTo, ratioTable, not_lt.mpr (show 0 ≤ top by omega)]
    omega
  refine ⟨top, hmem, fun depth hdepth => ⟨hgreatest depth hdepth, ?_, ?_⟩⟩
  · have hdepthPos := (hrange depth hdepth).1
    omega
  · have hdepthLe := hgreatest depth hdepth
    omega

theorem exists_listIndex_iff {α : Type*} {items : List α} {i : ℤ} :
    (∃ x, listIndex items i = .ok x) ↔ -(items.length : ℤ) ≤ i ∧ i < items.length := by
  unfold listIndex
  by_cases hneg : i < 0
  · simp only [hneg, if_true]
    by_cases hlow : i + items.length < 0
    · rw [if_pos hlow]
      exact iff_of_false (by simp) (by omega)
    · rw [if_neg hlow, List.getElem?_eq_getElem (by omega)]
      exact iff_of_true ⟨_, rfl⟩ (by omega)
  · simp only [hneg, if_false]
    by_cases hlt : i.toNat < items.length
    · rw [List.getElem?_eq_getElem hlt]
      exact iff_of_true ⟨_, rfl⟩ (by omega)
    · rw [List.getElem?_eq_none (by omega)]
      exact iff_of_false (by simp) (by omega)

theorem mem_of_listIndex {α : Type*} {items : List α} {i : ℤ} {x : α}
    (hx : listIndex items i = .ok x) : x ∈ items := by
  unfold listIndex at hx
  dsimp only at hx
  generalize (if i < 0 then i + (items.length : ℤ) else i) = index at hx
  split at hx
  · cases hx
  · split at hx
    · rename_i hget
      cases hx
      exact List.mem_of_getElem? hget
    · cases hx

/-! ## The rounds -/

variable {ops : FloatOps} {settings : ApiSettings} {ratios : List ℚ}

theorem exists_limitGroup_iff (hratios : ∀ x ∈ ratios, 0 ≤ x) (limited group : EdgeDict)
    (depth : ℤ) :
    (∃ result, limitGroup ops settings ratios limited depth group = .ok result) ↔
      ∃ ratio, listIndex ratios (depth - 1) = .ok ratio := by
  constructor
  · rintro ⟨result, hresult⟩
    obtain ⟨ratio, hratio, -⟩ := bind_eq_ok_iff.mp hresult
    exact ⟨ratio, hratio⟩
  · rintro ⟨ratio, hratio⟩
    exact exists_limitGroup hratio (hratios ratio (mem_of_listIndex hratio)) limited group

theorem exists_limitGroups_iff (hratios : ∀ x ∈ ratios, 0 ≤ x) (groups : List (ℤ × EdgeDict))
    (limited : EdgeDict) :
    (∃ result, limitGroups ops settings ratios groups limited = .ok result) ↔
      ∀ entry ∈ groups, ∃ ratio, listIndex ratios (entry.1 - 1) = .ok ratio := by
  induction groups generalizing limited with
  | nil => exact iff_of_true ⟨limited, rfl⟩ (by simp)
  | cons entry groups ih =>
      obtain ⟨depth, group⟩ := entry
      rw [List.forall_mem_cons, ← exists_limitGroup_iff hratios limited group depth]
      constructor
      · rintro ⟨result, hresult⟩
        obtain ⟨next, hnext, hrest⟩ := bind_eq_ok_iff.mp hresult
        exact ⟨⟨next, hnext⟩, (ih next).mp ⟨result, hrest⟩⟩
      · rintro ⟨⟨next, hnext⟩, hrest⟩
        obtain ⟨result, hresult⟩ := (ih next).mpr hrest
        exact ⟨result, bind_eq_ok_iff.mpr ⟨next, hnext, hresult⟩⟩

/-- **The shedding of some groups raises nothing exactly if their depths can be shed.** -/
theorem exists_limitConnectedEdges_iff (ops : FloatOps) (settings : ApiSettings)
    (groups : DepthGroups) :
    (∃ limited, limitConnectedEdges ops settings groups = .ok limited) ↔ Sheddable groups.keys := by
  unfold limitConnectedEdges
  cases hmax : groups.keys.max? with
  | none =>
      rw [List.max?_eq_none_iff] at hmax
      exact iff_of_false (by simp) (by simp [Sheddable, hmax])
  | some maxDepth =>
      obtain ⟨hmem, hgreatest⟩ := List.max?_eq_some_iff.mp hmax
      obtain ⟨ratios, hratios, hlength, hnonneg⟩ := exists_ratioDepth ops maxDepth
      have hrounds : (∃ limited, (do
          let ratios ← ratioDepth ops maxDepth
          limitGroups ops settings ratios groups.entries Dict.empty) = .ok limited) ↔
            ∀ depth ∈ groups.keys, HasRatio maxDepth depth := by
        simp only [hratios, bind, Except.bind]
        rw [exists_limitGroups_iff hnonneg]
        simp only [exists_listIndex_iff, hlength, Dict.keys, List.forall_mem_map]
        rfl
      refine hrounds.trans ⟨fun hall => ?_, fun hshed => ?_⟩
      · exact ⟨maxDepth, hmem, fun depth hdepth => ⟨hgreatest depth hdepth, hall depth hdepth⟩⟩
      · obtain ⟨top, htop, hall⟩ := hshed
        obtain rfl : top = maxDepth := le_antisymm (hgreatest top htop) (hall maxDepth hmem).1
        exact fun depth hdepth => (hall depth hdepth).2

/-! ## The depths of the groups -/

theorem mem_keys_addToGroup {mode : Mode} {groups : DepthGroups}
    {item : (String × String) × Edge} {depth : ℤ} :
    depth ∈ (addToGroup mode groups item).keys ↔
      depth ∈ groups.keys ∨ shiftedDepth mode item.2 = depth := by
  unfold addToGroup
  exact Dict.mem_keys_set

/-- There is a group for the depth of every edge, and no other. -/
theorem mem_keys_groupByDepth {edges : EdgeDict} {mode : Mode} {depth : ℤ} :
    depth ∈ (groupByDepth edges mode).keys ↔
      ∃ key edge, edges.get? key = some edge ∧ shiftedDepth mode edge = depth := by
  have hfold : ∀ (items : List ((String × String) × Edge)) (groups : DepthGroups),
      depth ∈ (items.foldl (addToGroup mode) groups).keys ↔
        depth ∈ groups.keys ∨ ∃ item ∈ items, shiftedDepth mode item.2 = depth := by
    intro items
    induction items with
    | nil => simp
    | cons item items ih =>
        intro groups
        rw [List.foldl_cons, ih, mem_keys_addToGroup, or_assoc]
        simp
  unfold groupByDepth
  rw [hfold]
  simp [Dict.mem_entries_iff]

/-- The edge is in the group of the given depth. -/
def InGroup (groups : DepthGroups) (depth : ℤ) (key : String × String) (edge : Edge) : Prop :=
  ∃ group, groups.get? depth = some group ∧ group.get? key = some edge

theorem inGroup_addToGroup {mode : Mode} {groups : DepthGroups}
    {item : (String × String) × Edge} {depth : ℤ} {key : String × String} {edge : Edge} :
    InGroup (addToGroup mode groups item) depth key edge ↔
      if shiftedDepth mode item.2 = depth ∧ item.1 = key then item.2 = edge
      else InGroup groups depth key edge := by
  unfold InGroup addToGroup
  simp only [Dict.get?_set]
  by_cases hdepth : shiftedDepth mode item.2 = depth
  · subst hdepth
    simp only [if_true, Option.some.injEq, exists_eq_left', Dict.get?_set, true_and]
    by_cases hkey : item.1 = key
    · simp [hkey]
    · simp only [hkey, if_false]
      cases groups.get? (shiftedDepth mode item.2) with
      | none => simp
      | some group => simp
  · simp [hdepth]

/-- **The groups hold the edges, each in the group of its depth.** -/
theorem inGroup_groupByDepth {edges : EdgeDict} {mode : Mode} {depth : ℤ}
    {key : String × String} {edge : Edge} :
    InGroup (groupByDepth edges mode) depth key edge ↔
      edges.get? key = some edge ∧ shiftedDepth mode edge = depth := by
  have hfold : ∀ (items : List ((String × String) × Edge)) (groups : DepthGroups),
      (items.map Prod.fst).Nodup → (∀ item ∈ items, ∀ e, ¬ InGroup groups depth item.1 e) →
        (InGroup (items.foldl (addToGroup mode) groups) depth key edge ↔
          InGroup groups depth key edge ∨
            ((key, edge) ∈ items ∧ shiftedDepth mode edge = depth)) := by
    intro items
    induction items with
    | nil => simp
    | cons item items ih =>
        intro groups hnodup hnew
        obtain ⟨hfirst, hrest⟩ := List.nodup_cons.mp hnodup
        have hnew' : ∀ other ∈ items, ∀ e,
            ¬ InGroup (addToGroup mode groups item) depth other.1 e := by
          intro other hother e hin
          have hne : item.1 ≠ other.1 := fun heq => hfirst (heq ▸ List.mem_map_of_mem hother)
          rw [inGroup_addToGroup, if_neg fun h => hne h.2] at hin
          exact hnew other (List.mem_cons_of_mem _ hother) e hin
        rw [List.foldl_cons, ih _ hrest hnew', inGroup_addToGroup, List.mem_cons]
        by_cases hitem : shiftedDepth mode item.2 = depth ∧ item.1 = key
        · obtain ⟨hdepth, rfl⟩ := hitem
          have hold : ¬ InGroup groups depth item.1 edge := hnew item List.mem_cons_self edge
          have hother : (item.1, edge) ∉ items :=
            fun hmem => hfirst (List.mem_map.mpr ⟨_, hmem, rfl⟩)
          rw [if_pos ⟨hdepth, rfl⟩]
          simp only [hold, hother, false_or, or_false, false_and, Prod.ext_iff, true_and]
          constructor
          · rintro rfl
            exact ⟨rfl, hdepth⟩
          · exact fun h => h.1.symm
        · have hne : ¬ ((key, edge) = item ∧ shiftedDepth mode edge = depth) := by
            rintro ⟨rfl, hdepth⟩
            exact hitem ⟨hdepth, rfl⟩
          rw [if_neg hitem, or_and_right]
          exact or_congr_right (by simp [hne])
  unfold groupByDepth
  rw [hfold _ _ edges.nodup (by simp [InGroup]), Dict.mem_entries_iff]
  simp [InGroup]

/-- The graph of a dictionary of edges is shed without an error exactly if the depths of the edges
can be shed. -/
theorem exists_makeLossyGraph_iff (ops : FloatOps) (settings : ApiSettings) (nc : NodesCollection)
    (edges : EdgeDict) (mode : Mode) :
    (∃ graph, makeLossyGraph ops settings nc edges mode = .ok graph) ↔
      Sheddable (groupByDepth edges mode).keys := by
  have hkeys : (sortPerDepth (groupByDepth edges mode)).keys = (groupByDepth edges mode).keys :=
    Dict.keys_map _ _
  rw [← hkeys, ← exists_limitConnectedEdges_iff ops settings]
  unfold makeLossyGraph
  constructor
  · rintro ⟨graph, hgraph⟩
    obtain ⟨limited, hlimited, -⟩ := bind_eq_ok_iff.mp hgraph
    exact ⟨limited, hlimited⟩
  · rintro ⟨limited, hlimited⟩
    exact ⟨_, bind_eq_ok_iff.mpr ⟨limited, hlimited, rfl⟩⟩

end CatvService.Graph
