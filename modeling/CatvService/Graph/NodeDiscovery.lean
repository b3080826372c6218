import CatvService.Graph.HopLevels
import Mathlib.Order.Bounds.Basic

/-!
# Node discovery

What `assign_nodes` makes of a list of rows.  The generator drops the rows whose outer end it has
seen, and it has seen the wallet from the start; so the nodes are the wallet and the other outer
ends in the order of their first appearance.

`assignNodes_discovery` puts the parts together: the addresses, the ids, the levels, the counts per
inner end, and the least level over all rows of an address when the depths ascend.
-/

namespace CatvService.Graph

open Dictionary PyText PyValue

/-- The wallet, and the outer ends of the rows, each where it appears first. -/
def appearances (mode : Mode) (first : Transaction) (rest : List Transaction) : List String :=
  (mode.inner first :: (first :: rest).map mode.outer).eraseDups

/-- The distances from the wallet that the rows with the given outer end would give its node. -/
def distances (mode : Mode) (tokenType : String) (result : List Transaction) (address : String) :
    Set ℤ :=
  {distance | ∃ row ∈ result, mode.outer row = address ∧
    distance = |outerLevel mode tokenType row.depth|}

/-- What `assign_nodes` makes of its rows. -/
structure Discovery (mode : Mode) (tokenType : String) (first : Transaction)
    (rest : List Transaction) (nc : NodesCollection) (volumeCount : Dict String ℕ) : Prop where
  /-- One node for each address, in order of first appearance. -/
  keys : nc.nodes.keys = appearances mode first rest
  address : ∀ key node, nc.getNode key = some node → node.address = key
  /-- The ids `0, mode * 1, mode * 2, …` without gaps. -/
  ids : nc.nodes.values.map Node.id = (List.range nc.count).map fun n : ℕ => mode.toInt * n
  root_level : (nc.getNode (mode.inner first)).map Node.level = some 0
  /-- The first row that has the address as its outer end determines the level. -/
  level : ∀ key node, key ≠ mode.inner first → nc.getNode key = some node →
    ∃ row, (first :: rest).find? (fun row => mode.outer row = key) = some row ∧
      node.level = outerLevel mode tokenType row.depth
  volume : volumeCount.values.sum + 1 = nc.count
  /-- With ascending depths the node is as near as any of its rows puts it. -/
  nearest : (∀ row ∈ first :: rest, 0 ≤ row.depth) →
    ((first :: rest).Pairwise fun row other => row.depth ≤ other.depth) →
      ∀ key node, key ≠ mode.inner first → nc.getNode key = some node →
        IsLeast (distances mode tokenType (first :: rest) key) |node.level|

/-! ## The addresses -/

/-- The generator yields the keys it has not been told to leave out, each once. -/
theorem map_uniqfyGenerator_eq {Row : Type} (addrKey : Row → String) (exclusions : Finset String)
    (rows : List Row) :
    (uniqfyGenerator addrKey exclusions rows).map addrKey =
      ((rows.map addrKey).filter fun key => key ∉ exclusions).eraseDups := by
  induction rows generalizing exclusions with
  | nil => rfl
  | cons row rows ih =>
      rw [uniqfyGenerator, List.map_cons]
      split
      · rename_i hseen
        rw [ih, List.filter_cons_of_neg (by simpa using hseen)]
      · rename_i hnew
        rw [List.map_cons, ih, List.filter_cons_of_pos (by simpa using hnew), List.eraseDups_cons,
          List.filter_filter]
        -- the key of this row is excluded from now on
        have hinsert : ∀ key, decide (key ∉ insert (addrKey row) exclusions) =
            (!key == addrKey row && decide (key ∉ exclusions)) := by
          intro key
          by_cases hkey : key = addrKey row <;> simp [hkey]
        simp only [hinsert]

theorem appearances_eq (mode : Mode) (first : Transaction) (rest : List Transaction) :
    appearances mode first rest = mode.inner first ::
      (uniqfyGenerator mode.outer {mode.inner first} (first :: rest)).map mode.outer := by
  rw [appearances, List.eraseDups_cons, map_uniqfyGenerator_eq]
  congr 3
  funext key
  by_cases hkey : key = mode.inner first <;> simp [hkey]

section Sides

variable {mode : Mode} {tokenType : String} {first : Transaction} {rest : List Transaction}
  {root : Node} {nodes : List Node} {nc : NodesCollection} {level : ℤ → ℤ}

theorem SideNodes.keys (hside : SideNodes level mode first rest root nodes nc) :
    nc.nodes.keys = appearances mode first rest := by
  have haddresses := map_address_of_forall₂ (hside.made.imp fun _ _ hmade => hmade.1)
  rw [appearances_eq, ← haddresses, ← hside.root_address, Dict.keys,
    hside.entries, List.map_cons, List.map_map]
  rfl

theorem SideNodes.count (hside : SideNodes level mode first rest root nodes nc) :
    nc.count = nodes.length + 1 := by
  rw [NodesCollection.count, hside.entries, List.length_cons, List.length_map]

theorem SideNodes.values_ids (hside : SideNodes level mode first rest root nodes nc) :
    nc.nodes.values.map Node.id = (List.range nc.count).map fun n : ℕ => mode.toInt * n := by
  have hzero : (0 : ℤ) = mode.toInt * (0 : ℕ) := by simp
  calc nc.nodes.values.map Node.id
      = 0 :: numbers mode 1 nodes.length := hside.toListed.values_ids hside.root_id
    _ = numbers mode 0 (nodes.length + 1) := by rw [numbers_succ, ← hzero]
    _ = (List.range nc.count).map fun n : ℕ => mode.toInt * n := by
        rw [numbers, ← List.range_eq_range', hside.count]

theorem SideNodes.root_level_eq (hside : SideNodes level mode first rest root nodes nc) :
    (nc.getNode (mode.inner first)).map Node.level = some 0 := by
  have hget : nc.getNode (mode.inner first) = some root := by
    rw [NodesCollection.getNode, ← Dict.mem_entries_iff, hside.entries, hside.root_address]
    exact List.mem_cons_self
  rw [hget, Option.map_some, hside.root_level]

end Sides

/-! ## The nearest row -/

section Nearest

variable {mode : Mode} {tokenType : String}

theorem abs_outerLevel_le {depth deeper : ℤ} (hdepth : 0 ≤ depth) (hle : depth ≤ deeper) :
    |outerLevel mode tokenType depth| ≤ |outerLevel mode tokenType deeper| := by
  cases mode with
  | distribution =>
      change |depth| ≤ |deeper|
      rwa [abs_of_nonneg hdepth, abs_of_nonneg (hdepth.trans hle)]
  | source =>
      simp only [outerLevel]
      split
      · rw [abs_neg, abs_neg, abs_of_nonneg (by omega), abs_of_nonneg (by omega)]
        omega
      · rwa [abs_neg, abs_neg, abs_of_nonneg hdepth, abs_of_nonneg (hdepth.trans hle)]

/-- When the depths ascend, the first row of an address is its nearest one. -/
theorem depth_le_of_find? {rows : List Transaction} {row : Transaction} {address : String}
    (hascending : rows.Pairwise fun row other => row.depth ≤ other.depth)
    (hfind : rows.find? (fun row => mode.outer row = address) = some row) {other : Transaction}
    (hother : other ∈ rows) (houter : mode.outer other = address) : row.depth ≤ other.depth := by
  obtain ⟨-, before, after, rfl, hbefore⟩ := List.find?_eq_some_iff_append.mp hfind
  rcases List.mem_append.mp hother with hearlier | hlater
  · have hne := hbefore other hearlier
    simp [houter] at hne
  · rcases List.mem_cons.mp hlater with rfl | hlater
    · exact le_rfl
    · have hrest := (List.pairwise_append.mp hascending).2.1
      exact (List.pairwise_cons.mp hrest).1 other hlater

theorem isLeast_distances {rows : List Transaction} {row : Transaction} {address : String}
    (hnonneg : ∀ row ∈ rows, 0 ≤ row.depth)
    (hascending : rows.Pairwise fun row other => row.depth ≤ other.depth)
    (hfind : rows.find? (fun row => mode.outer row = address) = some row) :
    IsLeast (distances mode tokenType rows address) |outerLevel mode tokenType row.depth| := by
  have hrow : row ∈ rows := List.mem_of_find?_eq_some hfind
  refine ⟨⟨row, hrow, by simpa using List.find?_some hfind, rfl⟩, ?_⟩
  rintro distance ⟨other, hother, houter, rfl⟩
  exact abs_outerLevel_le (hnonneg row hrow) (depth_le_of_find? hascending hfind hother houter)

end Nearest

/-! ## The discovery -/

/-- **Node discovery.**  `assign_nodes` makes one node for the wallet and each other outer end, in
order of first appearance and numbered without gaps.  The first row of an address sets its level,
which is the nearest one when the depths ascend from 0, and the counts of the inner ends add up to
the nodes without the wallet. -/
theorem assignNodes_discovery (mode : Mode) (tokenType : String) (first : Transaction)
    (rest : List Transaction) :
    ∃ nc volumeCount, assignNodes (first :: rest) mode tokenType = .ok (nc, volumeCount) ∧
      Discovery mode tokenType first rest nc volumeCount := by
  obtain ⟨nc, volumeCount, hnodes, -⟩ := assignNodes_cons first rest mode tokenType
  obtain ⟨nodes, hside, hsum⟩ := sideNodes_of_assignNodes hnodes
  have hlevel : ∀ key node, key ≠ mode.inner first → nc.getNode key = some node →
      ∃ row, (first :: rest).find? (fun row => mode.outer row = key) = some row ∧
        node.level = outerLevel mode tokenType row.depth := by
    intro key node hne hnode
    obtain ⟨number, row, hfind, rfl⟩ := exists_outerNode_of_assignNodes hnodes hnode hne
    exact ⟨row, hfind, (madeFrom_outerNode mode tokenType number row).2⟩
  have hvolume : volumeCount.values.sum + 1 = nc.count := by rw [hside.count, hsum]
  refine ⟨nc, volumeCount, hnodes, hside.keys, fun key node => hside.address, hside.values_ids,
    hside.root_level_eq, hlevel, hvolume, fun hnonneg hascending key node hne hnode => ?_⟩
  obtain ⟨row, hfind, heq⟩ := hlevel key node hne hnode
  rw [heq]
  exact isLeast_distances hnonneg hascending hfind

end CatvService.Graph
