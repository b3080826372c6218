import CatvService.Graph.Aggregation
import CatvService.Graph.Report

/-!
# A report loses no transfer

What becomes of the rows on their way into the merged report, with exact arithmetic.  The rows
themselves are passed on in their order (`Transfer` is what no stage touches, `depth` is mirrored on
the source side), and every row is in the data of exactly one edge, so that the sums of the edges
add up to the amounts of the rows.  The shedding only concerns the edges that are drawn, and those
are edges of the full list.
-/

namespace CatvService.Graph

open Dictionary Grouping PyText PyValue

/-! ## The rows -/

/-- What a row says of its transfer. -/
structure Transfer where
  sender : String
  receiver : String
  amount : ℚ
  txHash : String
  txTime : String
  depth : ℤ
  deriving DecidableEq

def Transaction.transfer (row : Transaction) : Transfer :=
  ⟨row.sender, row.receiver, row.amount, row.txHash, row.txTime, row.depth⟩

/-- The depth of a row in the report. -/
def reportDepth (mode : Mode) (tokenType : String) (depth : ℤ) : ℤ :=
  match mode with
  | .distribution => depth
  | .source => if upper tokenType = "ETH" then (depth + 1) * -1 else depth * -1

/-- The transfers that a side contributes to the report. -/
def reportTransfers (result : List Transaction) (mode : Mode) (tokenType : String) :
    List Transfer :=
  (withAmounts result mode tokenType).map fun row =>
    { row.transfer with depth := reportDepth mode tokenType row.depth }

@[simp] theorem transfer_annotateItem (node : Node) (row : Transaction) :
    (annotateItem node row).transfer = row.transfer := by
  unfold annotateItem
  simp only
  split
  · rfl
  · split <;> rfl

theorem transfers_annotate (state : Annotating) (item : Indicator) :
    (annotate state item).itemList.map Transaction.transfer =
      state.itemList.map Transaction.transfer := by
  unfold annotate
  simp only
  split
  · rfl
  · split
    · rfl
    · split
      · rfl
      · rw [List.map_map]
        exact List.map_congr_left fun row _ => transfer_annotateItem _ row

theorem transfers_updateAnnotations (nc : NodesCollection) (itemList : List Transaction)
    (indicators : List Indicator) :
    (updateAnnotations nc itemList indicators).2.map Transaction.transfer =
      itemList.map Transaction.transfer := by
  have hfold : ∀ state : Annotating, (indicators.foldl annotate state).itemList.map
      Transaction.transfer = state.itemList.map Transaction.transfer := by
    induction indicators with
    | nil => exact fun _ => rfl
    | cons item indicators ih =>
        intro state
        rw [List.foldl_cons, ih, transfers_annotate]
  exact hfold ⟨nc, itemList, []⟩

/-! ## The edges -/

/-- The edges hold the rows, each row once: there is one edge for every pair of sender and receiver,
in the order in which the pairs first occur, and it has the numbers of its ends, the data of the
rows between them in their order, and their sum. -/
structure Accounts (mode : Mode) (nodeEnum : Dict String ℤ) (rows : List Transaction)
    (edges : List Edge) : Prop where
  length : edges.length = (firstKeys Transaction.pair rows).length
  edge : ∀ (i : ℕ) (pair : String × String), (firstKeys Transaction.pair rows)[i]? = some pair →
    ∃ edge, edges[i]? = some edge ∧
      Aggregates mode nodeEnum i pair (group Transaction.pair rows pair) edge
  data : (edges.flatMap Edge.data).Perm (rows.map Transaction.datum)
  sum : (edges.map Edge.sum).sum = totalAmount rows

/-- The same, with the numbers that the nodes of the side were given. -/
def SideAccounts (mode : Mode) (tokenType : String) (rows : List Transaction)
    (edges : List Edge) : Prop :=
  ∃ nc volumeCount, assignNodes rows mode tokenType = .ok (nc, volumeCount) ∧
    Accounts mode nc.getNodeEnum rows edges

variable {mode : Mode} {nodeEnum : Dict String ℤ} {done rows : List Transaction} {counter : ℕ}
  {edges result : EdgeDict}

/-- The entry at a place has the edge of the pair at that place. -/
theorem Built.entry (hbuilt : Built mode nodeEnum done counter edges) {i : ℕ}
    {entry : (String × String) × Edge} (hentry : edges.entries[i]? = some entry) :
    Aggregates mode nodeEnum i entry.1 (group Transaction.pair done entry.1) entry.2 := by
  have hkey : edges.keys[i]? = some entry.1 := by
    rw [Dict.keys, List.getElem?_map, hentry, Option.map_some]
  obtain ⟨edge, hedge, haggregates⟩ := hbuilt.edge i entry.1 hkey
  obtain rfl : entry.2 = edge :=
    Option.some_inj.mp
      ((Dict.mem_entries_iff.mp (List.mem_of_getElem? hentry)).symm.trans hedge)
  exact haggregates

/-- The edges, pair by pair, hold the rows grouped by their pairs. -/
theorem Built.accounts (hbuilt : Built mode nodeEnum done counter edges) :
    Accounts mode nodeEnum done edges.values where
  length := by
    rw [← hbuilt.keys, Dict.values, Dict.keys, List.length_map, List.length_map]
  edge := by
    intro i pair hpair
    rw [← hbuilt.keys, Dict.keys, List.getElem?_map] at hpair
    obtain ⟨entry, hentry, rfl⟩ := Option.map_eq_some_iff.mp hpair
    refine ⟨entry.2, ?_, hbuilt.entry hentry⟩
    rw [Dict.values, List.getElem?_map, hentry, Option.map_some]
  data := by
    have hdata : ∀ entry ∈ edges.entries,
        entry.2.data = (group Transaction.pair done entry.1).map Transaction.datum := by
      intro entry hentry
      obtain ⟨i, hi⟩ := List.getElem?_of_mem hentry
      exact (hbuilt.entry hi).data
    have hflat : edges.values.flatMap Edge.data =
        ((firstKeys Transaction.pair done).flatMap (group Transaction.pair done)).map
          Transaction.datum := by
      calc edges.values.flatMap Edge.data
          = edges.entries.flatMap fun entry => entry.2.data := by
            rw [Dict.values, List.flatMap_map]
        _ = edges.entries.flatMap fun entry =>
              (group Transaction.pair done entry.1).map Transaction.datum :=
            List.flatMap_congr hdata
        _ = edges.keys.flatMap fun key =>
              (group Transaction.pair done key).map Transaction.datum := by
            rw [Dict.keys, List.flatMap_map]
        _ = ((firstKeys Transaction.pair done).flatMap (group Transaction.pair done)).map
              Transaction.datum := by
            rw [hbuilt.keys, List.map_flatMap]
    rw [hflat]
    exact (flatMap_group_perm Transaction.pair done).map _
  sum := hbuilt.sum_eq

theorem accounts_of_assignEdges
    (hresult : assignEdges .exact rows mode nodeEnum = .ok result) :
    Accounts mode nodeEnum rows result.values := by
  obtain ⟨counter, hbuilt⟩ := (built_nil mode nodeEnum).addEdges hresult
  rw [List.nil_append] at hbuilt
  exact hbuilt.accounts

/-! ## What is drawn -/

/-- The edges of one dictionary are edges of another. -/
def PartOf (part whole : EdgeDict) : Prop :=
  ∀ key edge, part.get? key = some edge → whole.get? key = some edge

theorem PartOf.values {part whole : EdgeDict} (hpart : PartOf part whole) {edge : Edge}
    (hedge : edge ∈ part.values) : edge ∈ whole.values := by
  obtain ⟨key, hget⟩ := Dict.mem_values_iff.mp hedge
  exact Dict.mem_values_iff.mpr ⟨key, hpart key edge hget⟩

theorem partOf_limitGroups {ops : FloatOps} {settings : ApiSettings} {ratios : List ℚ}
    {groups : List (ℤ × EdgeDict)} {limited : EdgeDict} (hlimited : PartOf limited edges)
    (hgroups : ∀ entry ∈ groups, PartOf entry.2 edges)
    (hresult : limitGroups ops settings ratios groups limited = .ok result) :
    PartOf result edges := by
  induction groups generalizing limited with
  | nil =>
      cases hresult
      exact hlimited
  | cons entry groups ih =>
      obtain ⟨depth, group⟩ := entry
      rw [List.forall_mem_cons] at hgroups
      obtain ⟨next, hnext, hrest⟩ := bind_eq_ok_iff.mp hresult
      refine ih ?_ hgroups.2 hrest
      obtain ⟨modified, rfl, hmodified⟩ := limitGroup_eq_ok hnext
      intro key edge hget
      rcases Dict.get?_update hget with hnew | hold
      · exact hgroups.1 key edge (hmodified _ (Dict.mem_of_get?_ofItems hnew)).1
      · exact hlimited key edge hold

theorem partOf_limitConnectedEdges {ops : FloatOps} {settings : ApiSettings}
    (hresult : limitConnectedEdges ops settings (sortPerDepth (groupByDepth edges mode)) =
      .ok result) : PartOf result edges := by
  unfold limitConnectedEdges at hresult
  split at hresult
  · cases hresult
  · obtain ⟨ratios, -, hresult⟩ := bind_eq_ok_iff.mp hresult
    refine partOf_limitGroups (fun key edge hget => ?_) ?_ hresult
    · simp at hget
    · intro entry hentry key edge hget
      obtain ⟨group, hgroup, hsub⟩ := get?_sortPerDepth (Dict.mem_entries_iff.mp hentry)
      exact within_groupByDepth edges mode _ _ hgroup key edge (hsub key edge hget)

/-! ## One side -/

/-- What a side passes on. -/
structure SideConserved (result : List Transaction) (mode : Mode) (tokenType : String)
    (track : TrackResult) : Prop where
  transfers : track.itemList.map Transaction.transfer = reportTransfers result mode tokenType
  accounts : SideAccounts mode tokenType (withAmounts result mode tokenType) track.edgeList
  drawn : ∀ edge ∈ track.graphEdgeList, edge ∈ track.edgeList

theorem transfers_shiftSourceDepth (result : List Transaction) (mode : Mode) (tokenType : String) :
    (if mode = .source then shiftSourceDepth (withAmounts result mode tokenType) tokenType
      else withAmounts result mode tokenType).map Transaction.transfer =
        reportTransfers result mode tokenType := by
  cases mode with
  | distribution => rfl
  | source =>
      rw [if_pos rfl, shiftSourceDepth, reportTransfers, List.map_map]
      refine List.map_congr_left fun row _ => ?_
      simp only [Function.comp_apply, reportDepth]
      split <;> rfl

theorem sideConserved_generateNodesEdges {settings : ApiSettings} {result : List Transaction}
    {mode : Mode} {buildLossyGraph : Bool} {tokenType : String}
    {side : TrackResult × NodesCollection}
    (hside : generateNodesEdges .exact settings result mode buildLossyGraph tokenType = .ok side) :
    SideConserved result mode tokenType side.1 := by
  obtain ⟨first, -, hside⟩ := bind_eq_ok_iff.mp hside
  obtain ⟨⟨nc, volumeCount⟩, hnodes, hside⟩ := bind_eq_ok_iff.mp hside
  obtain ⟨edges, hedges, hside⟩ := bind_eq_ok_iff.mp hside
  have hdrawn : ∀ limited : EdgeDict, PartOf limited edges →
      ∀ edge ∈ (if limited.entries ≠ [] then limited else edges).values, edge ∈ edges.values := by
    intro limited hpart edge hedge
    split at hedge
    · exact hpart.values hedge
    · exact hedge
  have haccounts :
      SideAccounts mode tokenType (withAmounts result mode tokenType) edges.values :=
    ⟨nc, volumeCount, hnodes, accounts_of_assignEdges hedges⟩
  -- the list of all edges is the same with and without shedding
  simp only at hside
  split at hside
  · obtain ⟨shed, hshed, hside⟩ := bind_eq_ok_iff.mp hside
    obtain ⟨limited, hlimited, hshed⟩ := bind_eq_ok_iff.mp hshed
    cases hshed
    cases hside
    exact ⟨transfers_shiftSourceDepth result mode tokenType, haccounts,
      hdrawn limited (partOf_limitConnectedEdges hlimited)⟩
  · cases hside
    exact ⟨transfers_shiftSourceDepth result mode tokenType, haccounts,
      hdrawn Dict.empty fun key edge hget => by simp at hget⟩

theorem SideConserved.setAnnotationsFromDb {result : List Transaction} {mode : Mode}
    {tokenType : String} {side : TrackResult × NodesCollection}
    (hside : SideConserved result mode tokenType side.1) (indicators : List Indicator) :
    SideConserved result mode tokenType (setAnnotationsFromDb side indicators) where
  transfers := (transfers_updateAnnotations _ _ _).trans hside.transfers
  accounts := hside.accounts
  drawn := hside.drawn

theorem SideConserved.picked {result : List Transaction} {mode : Mode} {tokenType : String}
    {track : TrackResult} (hside : SideConserved result mode tokenType track) :
    ∀ edge ∈ track.picked.2, edge ∈ track.edgeList := by
  unfold TrackResult.picked
  split
  · exact hside.drawn
  · exact fun _ hedge => hedge

/-! ## The report -/

/-- **A report loses no transfer.** Whenever a report is made, lossy or not and whatever the
indicators are, it lists the transfers of both sides in their order; its edges are those of the two
sides, each of which carries the data and the sum of exactly the rows between its ends; and the
edges that are drawn are among them. -/
theorem reportGraph_conserves {settings : ApiSettings} {tokenType : String}
    {buildLossyGraph : Bool} {dist source : List Transaction}
    {distIndicators sourceIndicators : List Indicator} {graph : GraphDict}
    (hgraph : reportGraph .exact settings tokenType buildLossyGraph dist source distIndicators
      sourceIndicators = .ok (some graph)) :
    graph.itemList.map Transaction.transfer =
        reportTransfers dist .distribution tokenType ++ reportTransfers source .source tokenType ∧
      (∃ distEdges sourceEdges, graph.edgeList = distEdges ++ sourceEdges ∧
        SideAccounts .distribution tokenType (withAmounts dist .distribution tokenType)
          distEdges ∧
        SideAccounts .source tokenType (withAmounts source .source tokenType) sourceEdges) ∧
      ∀ edge ∈ graph.graphEdgeList, edge ∈ graph.edgeList := by
  simp only [reportGraph, bind_eq_ok_iff] at hgraph
  obtain ⟨distSide, hdist, sourceSide, hsource, hgraph⟩ := hgraph
  cases hgraph
  have hd := (sideConserved_generateNodesEdges hdist).setAnnotationsFromDb distIndicators
  have hs := (sideConserved_generateNodesEdges hsource).setAnnotationsFromDb sourceIndicators
  simp only [mergeGraphs]
  refine ⟨?_, ⟨_, _, rfl, hd.accounts, hs.accounts⟩, ?_⟩
  · rw [List.map_append, hd.transfers, hs.transfers]
  · intro edge hedge
    rcases List.mem_append.mp hedge with hmem | hmem
    · exact List.mem_append_left _ (hd.picked edge hmem)
    · exact List.mem_append_right _ (hs.picked edge hmem)

theorem reportGraph_conserves_sample :
    ∃ graph, reportGraph .exact ⟨500, 1⟩ "ETH" true sampleDist sampleSource [sampleIndicator] [] =
        .ok (some graph) ∧
      graph.itemList.map Transaction.transfer =
          reportTransfers sampleDist .distribution "ETH" ++
            reportTransfers sampleSource .source "ETH" ∧
        (∃ distEdges sourceEdges, graph.edgeList = distEdges ++ sourceEdges ∧
          SideAccounts .distribution "ETH" (withAmounts sampleDist .distribution "ETH")
            distEdges ∧
          SideAccounts .source "ETH" (withAmounts sampleSource .source "ETH") sourceEdges) ∧
        ∀ edge ∈ graph.graphEdgeList, edge ∈ graph.edgeList := by
  obtain ⟨dist, hdist, -⟩ :=
    sideOk_sampleDist.setAnnotationsFromDb_anchored ⟨500, 1⟩ true [sampleIndicator]
  obtain ⟨source, hsource, -⟩ :=
    sideOk_sampleSource.setAnnotationsFromDb_anchored ⟨500, 1⟩ true []
  have hgraph : reportGraph .exact ⟨500, 1⟩ "ETH" true sampleDist sampleSource [sampleIndicator]
      [] = .ok (some (mergeGraphs (setAnnotationsFromDb source [])
        (setAnnotationsFromDb dist [sampleIndicator]))) := by
    simp only [reportGraph, hdist, hsource, bind, Except.bind]
    rfl
  exact ⟨_, hgraph, reportGraph_conserves hgraph⟩

end CatvService.Graph
