import CatvService.Graph.Edges

/-!
# The report graph

`generate_nodes_edges` of `api/catvutils/graphtools.py` for each side, the annotation of its nodes
from the indicator service, and the merge of the two sides: `update_annotations`,
`set_annotations_from_db` and `make_graph_dict` of `api/catvutils/tracking_results.py`.

The merge drops the first node of the source side, because the wallet is already the first node of
the distribution side.  This is right as long as the wallet is first on both sides, in the full node
list and in the filtered one (`Rooted`), and all ids that edges mention have a node (`Enumerated`).
Annotation adds aliases and keeps all ids (`SameIds`); the filter keeps the ends of the kept edges,
among which the wallet is.
-/

namespace CatvService.Graph

open Dictionary PyText PyValue

/-! ## One side -/

/-- `track_result`; `volumeCount` stands under `volume_count_1` or `volume_count_-1`. -/
structure TrackResult where
  itemList : List Transaction
  nodeList : List Node
  keys : List String
  nodeEnum : Dict String ℤ
  edgeList : List Edge
  volumeCount : Dict String ℕ
  graphNodeList : List Node
  graphEdgeList : List Edge

/-- `add_missing_keys(result, mode)`. -/
def addMissingKeys (result : List Transaction) (mode : Mode) : List Transaction :=
  result.map fun row =>
    match mode with
    | .distribution => { row with amount := row.sentAmount }
    | .source => { row with amount := row.receivedAmount }

/-- The rows with their amounts. -/
def withAmounts (result : List Transaction) (mode : Mode) (tokenType : String) :
    List Transaction :=
  if upper tokenType ∈ ["XRP", "XLM"] then addMissingKeys result mode else result

/-- `depth_shift_for_source` or `reverse_source_depth`. -/
def shiftSourceDepth (result : List Transaction) (tokenType : String) : List Transaction :=
  result.map fun row =>
    if upper tokenType = "ETH" then { row with depth := (row.depth + 1) * -1 }
    else { row with depth := row.depth * -1 }

/-- `generate_nodes_edges(result, mode, build_lossy_graph, token_type)`. -/
def generateNodesEdges (ops : FloatOps) (settings : ApiSettings) (result : List Transaction)
    (mode : Mode) (buildLossyGraph : Bool) (tokenType : String) :
    Except PyErr (TrackResult × NodesCollection) := do
  let first ← listIndex result 0
  let result := withAmounts result mode tokenType
  let (nc, volumeCount) ← assignNodes result mode tokenType
  let edges ← assignEdges ops result mode nc.getNodeEnum
  let result := if mode = .source then shiftSourceDepth result tokenType else result
  let (limitedEdges, limitedNodes, nc) ←
    if settings.catvGraphNodesCutoff < nc.count ∧ buildLossyGraph then
      makeLossyGraph ops settings nc edges mode
    else pure (Dict.empty, [], nc)
  let limitedEdges := if limitedEdges.entries ≠ [] then limitedEdges else edges
  return (
    { itemList := result
      nodeList := nc.nodes.values
      keys := first.keys
      nodeEnum := nc.getNodeEnum
      edgeList := edges.values
      volumeCount := volumeCount
      graphNodeList := limitedNodes
      graphEdgeList := limitedEdges.values },
    nc)

/-- The depth groups of a side. -/
def depthGroups (ops : FloatOps) (result : List Transaction) (mode : Mode) (tokenType : String) :
    Except PyErr DepthGroups := do
  let result := withAmounts result mode tokenType
  let (nc, _) ← assignNodes result mode tokenType
  let edges ← assignEdges ops result mode nc.getNodeEnum
  return groupByDepth edges mode

/-! ## Annotation -/

/-- What an indicator does to the node it names, once the node is not an exchange. -/
def Node.categorise (node : Node) (item : Indicator) : Node :=
  let annotation := item.annotation.getD ""
  if item.securityCategory = "graylist" then
    if annotation ≠ "" then Node.setGroupFromAnnotation { node with annotation := annotation }
    else { node with group := "No Tag", annotation := "" }
  else
    { node with
      annotation := annotation
      group :=
        if contains "Exchange" annotation ∨ contains "DEX" annotation then "Exchange & DEX"
        else item.securityCategory }

/-- The rows take over the annotation of a node. -/
def annotateItem (node : Node) (row : Transaction) : Transaction :=
  let row :=
    { row with
      senderInfo := { row.senderInfo with annotation := some (row.senderInfo.annotation.getD "") }
      receiverInfo :=
        { row.receiverInfo with annotation := some (row.receiverInfo.annotation.getD "") } }
  if lower row.sender = lower node.address then
    { row with senderInfo := { row.senderInfo with annotation := some node.annotation } }
  else if lower row.receiver = lower node.address then
    { row with receiverInfo := { row.receiverInfo with annotation := some node.annotation } }
  else row

/-- What the loop of `update_annotations` carries. -/
structure Annotating where
  nc : NodesCollection
  itemList : List Transaction
  seenIndicators : List String

/-- The node that an indicator names. -/
def NodesCollection.findPattern (nc : NodesCollection) (pattern : String) : Option Node :=
  match nc.getNode (lower pattern) with
  | some node => some node
  | none => nc.getNode pattern

/-- One round of `update_annotations`. -/
def annotate (state : Annotating) (item : Indicator) : Annotating :=
  let pattern := lower item.pattern
  if pattern ∈ state.seenIndicators then state
  else
    match state.nc.findPattern item.pattern with
    | none => state
    | some node =>
        let node := { node with trdbInfo := some item }
        if node.group = "Exchange & DEX" then
          { state with
            nc := state.nc.modify node
            seenIndicators := state.seenIndicators ++ [pattern] }
        else
          let node := node.categorise item
          { nc := (state.nc.modify node).updateNode pattern node
            itemList := state.itemList.map (annotateItem node)
            seenIndicators := state.seenIndicators ++ [pattern] }

/-- `update_annotations(nc, item_list, token_type)`, with the indicators that the RPC returns. -/
def updateAnnotations (nc : NodesCollection) (itemList : List Transaction)
    (indicators : List Indicator) : NodesCollection × List Transaction :=
  let state := indicators.foldl annotate ⟨nc, itemList, []⟩
  (state.nc, state.itemList)

/-- `set_annotations_from_db` for one side. -/
def setAnnotationsFromDb (side : TrackResult × NodesCollection) (indicators : List Indicator) :
    TrackResult :=
  let (trackingResults, nc) := side
  let (updatedNc, updatedItemList) := updateAnnotations nc trackingResults.itemList indicators
  let filteredNc := updatedNc.filterUpdateNodes
  { trackingResults with
    nodeList := updatedNc.nodes.values
    itemList := updatedItemList
    graphNodeList := filteredNc.nodes.values
    nodeEnum := filteredNc.getNodeEnum }

/-! ## The merge -/

/-- The result of `make_graph_dict`; the counts are there for the sides that are there. -/
structure GraphDict where
  itemList : List Transaction
  keys : List String
  nodeList : List Node
  graphNodeList : List Node
  edgeList : List Edge
  graphEdgeList : List Edge
  nodeEnum : Dict String ℤ
  sendCount : Option (Dict String ℕ)
  receiveCount : Option (Dict String ℕ)

/-- `graph_dict.update(track_result)`, with the count renamed. -/
def TrackResult.toGraphDict (track : TrackResult) (mode : Mode) : GraphDict where
  itemList := track.itemList
  keys := track.keys
  nodeList := track.nodeList
  graphNodeList := track.graphNodeList
  edgeList := track.edgeList
  graphEdgeList := track.graphEdgeList
  nodeEnum := track.nodeEnum
  sendCount := if mode = .distribution then some track.volumeCount else none
  receiveCount := if mode = .source then some track.volumeCount else none

/-- The nodes and edges that a side contributes to the graph that is drawn. -/
def TrackResult.picked (track : TrackResult) : List Node × List Edge :=
  if track.graphNodeList ≠ [] then (track.graphNodeList, track.graphEdgeList)
  else (track.nodeList, track.edgeList)

/-- The merged graph. -/
def mergeGraphs (source dist : TrackResult) : GraphDict where
  itemList := dist.itemList ++ source.itemList
  keys := dist.keys
  -- the original node is the first entry in both dist and source
  nodeList := dist.nodeList ++ source.nodeList.drop 1
  graphNodeList := dist.picked.1 ++ source.picked.1.drop 1
  edgeList := dist.edgeList ++ source.edgeList
  graphEdgeList := dist.picked.2 ++ source.picked.2
  nodeEnum := dist.nodeEnum.update source.nodeEnum
  sendCount := some dist.volumeCount
  receiveCount := some source.volumeCount

/-- `make_graph_dict()`: a side that was skipped or has no rows is absent. -/
def makeGraphDict : Option TrackResult → Option TrackResult → Option GraphDict
  | some source, some dist => some (mergeGraphs source dist)
  | none, some dist => some (dist.toGraphDict .distribution)
  | some source, none => some (source.toGraphDict .source)
  | none, none => none

/-- A report over both sides: the graph data of each side, the annotations that the indicator
service sends for each, and the merge. -/
def reportGraph (ops : FloatOps) (settings : ApiSettings) (tokenType : String)
    (buildLossyGraph : Bool) (dist source : List Transaction)
    (distIndicators sourceIndicators : List Indicator) : Except PyErr (Option GraphDict) := do
  let distSide ← generateNodesEdges ops settings dist .distribution buildLossyGraph tokenType
  let sourceSide ← generateNodesEdges ops settings source .source buildLossyGraph tokenType
  return makeGraphDict (some (setAnnotationsFromDb sourceSide sourceIndicators))
    (some (setAnnotationsFromDb distSide distIndicators))

/-- The ends of the edges are ids of nodes. -/
def Referential (edges : List Edge) (nodes : List Node) : Prop :=
  ∀ edge ∈ edges, edge.source ∈ nodes.map Node.id ∧ edge.target ∈ nodes.map Node.id

/-- What a report asks of the rows of a side: the first row touches the wallet, every row hangs on
the wallet or on another row, the depth groups lie in `1..10`, and the edges of group 1 touch the
wallet. -/
structure SideOk (ops : FloatOps) (tokenType : String) (mode : Mode) (wallet : String)
    (result : List Transaction) : Prop where
  first : ∃ row rest, result = row :: rest ∧ mode.inner row = wallet
  closed : ∀ row ∈ result,
    mode.inner row = wallet ∨ ∃ other ∈ result, mode.outer other = mode.inner row
  range : ∀ groups, depthGroups ops result mode tokenType = .ok groups →
    ∀ depth ∈ groups.keys, 1 ≤ depth ∧ depth ≤ 10
  touches : ∀ groups, depthGroups ops result mode tokenType = .ok groups →
    ∀ group, groups.get? 1 = some group → ∀ key ∈ group.keys, key.1 = wallet ∨ key.2 = wallet

/-! ## What annotation and filtering keep -/

/-- Every key keeps its number. -/
def SameIds (before after : NodesCollection) : Prop :=
  ∀ key id, before.getNodeEnum.get? key = some id → after.getNodeEnum.get? key = some id

theorem getNodeEnum_get? (nc : NodesCollection) (key : String) :
    nc.getNodeEnum.get? key = (nc.nodes.get? key).map Node.id :=
  Dict.get?_map _ _ _

theorem Enumerated.mono {before after : NodesCollection} {edges : EdgeDict}
    (henum : Enumerated before.getNodeEnum edges) (hsame : SameIds before after) :
    Enumerated after.getNodeEnum edges := by
  intro key edge hedge
  obtain ⟨hsource, htarget⟩ := henum key edge hedge
  exact ⟨hsame _ _ hsource, hsame _ _ htarget⟩

/-- What a change of a collection keeps: its first key, the numbers of its keys, and the keys that
its filter will let through. -/
structure Preserves (before after : NodesCollection) : Prop where
  head : ∀ key, before.nodes.keys.head? = some key → after.nodes.keys.head? = some key
  ids : SameIds before after
  edgeKeys : after.edgeKeys = before.edgeKeys

theorem Preserves.refl (nc : NodesCollection) : Preserves nc nc :=
  ⟨fun _ hhead => hhead, fun _ _ hid => hid, rfl⟩

theorem Preserves.trans {first second third : NodesCollection} (h₁ : Preserves first second)
    (h₂ : Preserves second third) : Preserves first third :=
  ⟨fun key hhead => h₂.head key (h₁.head key hhead),
    fun key id hid => h₂.ids key id (h₁.ids key id hid), h₂.edgeKeys.trans h₁.edgeKeys⟩

theorem Preserves.rooted {before after : NodesCollection} {wallet : String}
    (hpreserves : Preserves before after) (hrooted : Rooted before.nodes wallet) :
    Rooted after.nodes wallet := by
  refine ⟨hpreserves.head wallet hrooted.head, ?_⟩
  rw [← getNodeEnum_get?]
  apply hpreserves.ids
  rw [getNodeEnum_get?]
  exact hrooted.root

theorem preserves_modify (nc : NodesCollection) (node : Node) : Preserves nc (nc.modify node) := by
  refine ⟨fun key hhead => ?_, fun key id hid => ?_, rfl⟩
  · rw [NodesCollection.modify, Dict.keys_map]
    exact hhead
  · rw [getNodeEnum_get?] at hid ⊢
    rw [NodesCollection.modify, Dict.get?_map, Option.map_map]
    obtain ⟨other, hother, rfl⟩ := Option.map_eq_some_iff.mp hid
    rw [hother, Option.map_some, Function.comp_apply]
    split
    · rename_i hsame
      rw [hsame]
    · rfl

/-- A key that is set holds a node that was there, under this key or, if there was none, under
another one. -/
theorem preserves_updateNode {nc : NodesCollection} {key : String} {node : Node}
    (hkey : ∀ id, nc.getNodeEnum.get? key = some id → node.id = id) :
    Preserves nc (nc.updateNode key node) := by
  refine ⟨fun first hhead => Dict.head?_keys_set hhead _ _, fun other id hid => ?_, rfl⟩
  rw [getNodeEnum_get?, NodesCollection.updateNode, Dict.get?_set]
  split
  · rename_i heq
    rw [← heq] at hid
    rw [Option.map_some, hkey id hid]
  · rw [← getNodeEnum_get?]
    exact hid

@[simp] theorem Node.categorise_id (node : Node) (item : Indicator) :
    (node.categorise item).id = node.id := by
  unfold Node.categorise
  simp only
  split
  · split <;> rfl
  · rfl

theorem findPattern_id {nc : NodesCollection} {pattern : String} {node : Node}
    (hfind : nc.findPattern pattern = some node) {id : ℤ}
    (hid : nc.getNodeEnum.get? (lower pattern) = some id) : node.id = id := by
  rw [getNodeEnum_get?] at hid
  obtain ⟨found, hfound, rfl⟩ := Option.map_eq_some_iff.mp hid
  unfold NodesCollection.findPattern NodesCollection.getNode at hfind
  rw [hfound] at hfind
  cases hfind
  rfl

/-- The node that a pattern names is changed, and found under the lower-case pattern from then
on. -/
theorem preserves_replace {nc : NodesCollection} {pattern : String} {old node : Node}
    (hfind : nc.findPattern pattern = some old) (hsame : node.id = old.id) :
    Preserves nc ((nc.modify node).updateNode (lower pattern) node) := by
  refine (preserves_modify nc node).trans (preserves_updateNode fun id hid => ?_)
  cases hold : nc.getNodeEnum.get? (lower pattern) with
  | some before =>
      -- the update of the object has not changed the number under the key
      rw [(preserves_modify nc node).ids _ before hold] at hid
      cases hid
      rw [hsame]
      exact findPattern_id hfind hold
  | none =>
      rw [getNodeEnum_get?] at hold hid
      rw [NodesCollection.modify, Dict.get?_map, Option.map_eq_none_iff.mp hold] at hid
      cases hid

theorem preserves_annotate (state : Annotating) (item : Indicator) :
    Preserves state.nc (annotate state item).nc := by
  unfold annotate
  simp only
  split
  · exact Preserves.refl _
  · cases hfind : state.nc.findPattern item.pattern with
    | none => exact Preserves.refl _
    | some node =>
        simp only
        split
        · exact preserves_modify _ _
        · exact preserves_replace hfind (Node.categorise_id _ _)

theorem preserves_updateAnnotations (nc : NodesCollection) (itemList : List Transaction)
    (indicators : List Indicator) :
    Preserves nc (updateAnnotations nc itemList indicators).1 := by
  have hfold : ∀ state : Annotating, Preserves state.nc (indicators.foldl annotate state).nc := by
    induction indicators with
    | nil => exact fun state => Preserves.refl _
    | cons item indicators ih =>
        exact fun state => (preserves_annotate state item).trans (ih _)
  exact hfold ⟨nc, itemList, []⟩

/-! ### The two lists of a side -/

/-- The wallet is first, and the ends of the edges have numbers. -/
structure Anchored (wallet : String) (nodes : Dict String Node) (edges : List Edge) : Prop where
  rooted : Rooted nodes wallet
  ends : ∀ edge ∈ edges, ∃ sender receiver, (nodes.get? sender).map Node.id = some edge.source ∧
    (nodes.get? receiver).map Node.id = some edge.target

theorem Enumerated.anchored {wallet : String} {nc : NodesCollection} {edges : EdgeDict}
    (hrooted : Rooted nc.nodes wallet) (henum : Enumerated nc.getNodeEnum edges) :
    Anchored wallet nc.nodes edges.values := by
  refine ⟨hrooted, fun edge hedge => ?_⟩
  obtain ⟨key, hget⟩ := Dict.mem_values_iff.mp hedge
  obtain ⟨hsource, htarget⟩ := henum key edge hget
  rw [getNodeEnum_get?] at hsource htarget
  exact ⟨key.1, key.2, hsource, htarget⟩

theorem mem_ids_of_get? {nodes : Dict String Node} {key : String} {id : ℤ}
    (hget : (nodes.get? key).map Node.id = some id) : id ∈ nodes.values.map Node.id := by
  obtain ⟨node, hnode, rfl⟩ := Option.map_eq_some_iff.mp hget
  exact List.mem_map.mpr ⟨node, Dict.mem_values_iff.mpr ⟨key, hnode⟩, rfl⟩

/-- The first node of the source side may go: it is the wallet, which the distribution side has. -/
theorem referential_merge {wallet : String} {dist source : Dict String Node}
    {distEdges sourceEdges : List Edge} (hdist : Anchored wallet dist distEdges)
    (hsource : Anchored wallet source sourceEdges) :
    Referential (distEdges ++ sourceEdges) (dist.values ++ source.values.drop 1) := by
  have hleft : ∀ {key : String} {id : ℤ}, (dist.get? key).map Node.id = some id →
      id ∈ (dist.values ++ source.values.drop 1).map Node.id := by
    intro key id hget
    rw [List.map_append]
    exact List.mem_append_left _ (mem_ids_of_get? hget)
  have hright : ∀ {key : String} {id : ℤ}, (source.get? key).map Node.id = some id →
      id ∈ (dist.values ++ source.values.drop 1).map Node.id := by
    intro key id hget
    by_cases hkey : key = wallet
    · -- the wallet has number 0 on both sides
      rw [hkey, hsource.rooted.root] at hget
      exact hleft (hget ▸ hdist.rooted.root)
    · obtain ⟨node, hnode, rfl⟩ := Option.map_eq_some_iff.mp hget
      have htail := Dict.mem_tail_values hsource.rooted.head hkey hnode
      rw [List.map_append, List.drop_one]
      exact List.mem_append_right _ (List.mem_map.mpr ⟨node, htail, rfl⟩)
  intro edge hedge
  rcases List.mem_append.mp hedge with hedge | hedge
  · obtain ⟨_, _, hfrom, hto⟩ := hdist.ends edge hedge
    exact ⟨hleft hfrom, hleft hto⟩
  · obtain ⟨_, _, hfrom, hto⟩ := hsource.ends edge hedge
    exact ⟨hright hfrom, hright hto⟩

/-- The filter of a collection lets the wallet and the ends of the given edges through. -/
structure LetsThrough (wallet : String) (edgeKeys : Finset String) (edges : EdgeDict) : Prop where
  wallet_mem : edgeKeys.Nonempty → wallet ∈ edgeKeys
  ends_mem : edgeKeys.Nonempty → ∀ key ∈ edges.keys, key.1 ∈ edgeKeys ∧ key.2 ∈ edgeKeys

theorem rooted_filter {nodes : Dict String Node} {wallet : String} {edgeKeys : Finset String}
    (hrooted : Rooted nodes wallet) (hwallet : wallet ∈ edgeKeys) :
    Rooted (nodes.filter fun entry => entry.1 ∈ edgeKeys) wallet := by
  obtain ⟨hhead, hroot⟩ := hrooted
  constructor
  · rw [Dict.keys_filter (fun key => decide (key ∈ edgeKeys)) nodes]
    cases hkeys : nodes.keys with
    | nil =>
        rw [hkeys] at hhead
        cases hhead
    | cons key keys =>
        rw [hkeys] at hhead
        obtain rfl : key = wallet := by simpa using hhead
        simp [hwallet]
  · obtain ⟨node, hnode, hid⟩ := Option.map_eq_some_iff.mp hroot
    have hkept : (nodes.filter fun entry => decide (entry.1 ∈ edgeKeys)).get? wallet = some node :=
      Dict.get?_filter_eq_some_iff.mpr ⟨hnode, by simpa using hwallet⟩
    rw [hkept, Option.map_some, hid]

/-- The filtered collection is as good for the edges that it is filtered for. -/
theorem anchored_filterUpdateNodes {wallet : String} {nc : NodesCollection} {edges : EdgeDict}
    (hrooted : Rooted nc.nodes wallet) (henum : Enumerated nc.getNodeEnum edges)
    (hlets : LetsThrough wallet nc.edgeKeys edges) :
    Anchored wallet nc.filterUpdateNodes.nodes edges.values := by
  unfold NodesCollection.filterUpdateNodes
  split
  · rename_i hnonempty
    refine ⟨rooted_filter hrooted (hlets.wallet_mem hnonempty), fun edge hedge => ?_⟩
    obtain ⟨key, hget⟩ := Dict.mem_values_iff.mp hedge
    obtain ⟨hsource, htarget⟩ := henum key edge hget
    obtain ⟨hfirst, hsecond⟩ :=
      hlets.ends_mem hnonempty key (Dict.mem_keys_iff.mpr ⟨edge, hget⟩)
    have hkept : ∀ {address : String} {id : ℤ}, nc.getNodeEnum.get? address = some id →
        address ∈ nc.edgeKeys →
          ((nc.nodes.filter fun entry => decide (entry.1 ∈ nc.edgeKeys)).get? address).map Node.id =
            some id := by
      intro address id hid hmem
      rw [getNodeEnum_get?] at hid
      obtain ⟨node, hnode, rfl⟩ := Option.map_eq_some_iff.mp hid
      have hfilter : (nc.nodes.filter fun entry => decide (entry.1 ∈ nc.edgeKeys)).get? address =
          some node := Dict.get?_filter_eq_some_iff.mpr ⟨hnode, by simpa using hmem⟩
      rw [hfilter, Option.map_some]
    exact ⟨key.1, key.2, hkept hsource hfirst, hkept htarget hsecond⟩
  · exact henum.anchored hrooted

/-! ## The report -/

theorem exists_withAmounts_eq_map (result : List Transaction) (mode : Mode) (tokenType : String) :
    ∃ fill : Transaction → Transaction, withAmounts result mode tokenType = result.map fill ∧
      ∀ row, (fill row).sender = row.sender ∧ (fill row).receiver = row.receiver ∧
        (fill row).depth = row.depth := by
  unfold withAmounts
  split
  · refine ⟨_, rfl, fun row => ?_⟩
    cases mode <;> exact ⟨rfl, rfl, rfl⟩
  · exact ⟨id, (List.map_id _).symm, fun _ => ⟨rfl, rfl, rfl⟩⟩

/-- The nodes and the edges of a side: neither step raises, the wallet is first, and every edge has
the numbers of its ends. -/
theorem SideOk.exists_edges {ops : FloatOps} {tokenType wallet : String} {mode : Mode}
    {result : List Transaction} (hside : SideOk ops tokenType mode wallet result) :
    ∃ nc volumeCount edges,
      assignNodes (withAmounts result mode tokenType) mode tokenType = .ok (nc, volumeCount) ∧
      assignEdges ops (withAmounts result mode tokenType) mode nc.getNodeEnum = .ok edges ∧
      Rooted nc.nodes wallet ∧ nc.edgeKeys = ∅ ∧ Enumerated nc.getNodeEnum edges ∧
      edges.entries ≠ [] := by
  obtain ⟨first, rest, rfl, hfirst⟩ := hside.first
  obtain ⟨fill, hfill, hends⟩ := exists_withAmounts_eq_map (first :: rest) mode tokenType
  have hinner : ∀ row, mode.inner (fill row) = mode.inner row := by
    intro row
    cases mode with
    | distribution => exact (hends row).1
    | source => exact (hends row).2.1
  have houter : ∀ row, mode.outer (fill row) = mode.outer row := by
    intro row
    cases mode with
    | distribution => exact (hends row).2.1
    | source => exact (hends row).1
  obtain ⟨nc, volumeCount, hnodes, hrooted, hedgeKeys, hkeys⟩ :=
    assignNodes_cons (fill first) (rest.map fill) mode tokenType
  rw [hinner, hfirst] at hrooted
  have houter_mem : ∀ row ∈ first :: rest, mode.outer row ∈ nc.nodes.keys := by
    intro row hrow
    rw [← houter]
    exact hkeys (fill row) (List.mem_map_of_mem hrow)
  have hinner_mem : ∀ row ∈ first :: rest, mode.inner row ∈ nc.nodes.keys := by
    intro row hrow
    rcases hside.closed row hrow with hwallet | ⟨other, hother, heq⟩
    · rw [hwallet]
      exact List.mem_of_mem_head? (by rw [hrooted.head]; rfl)
    · exact heq ▸ houter_mem other hother
  have hnumbers : ∀ row ∈ (first :: rest).map fill,
      row.sender ∈ nc.getNodeEnum.keys ∧ row.receiver ∈ nc.getNodeEnum.keys := by
    intro filled hfilled
    obtain ⟨row, hrow, rfl⟩ := List.mem_map.mp hfilled
    have henum : nc.getNodeEnum.keys = nc.nodes.keys := Dict.keys_map _ _
    rw [(hends row).1, (hends row).2.1, henum]
    cases mode with
    | distribution => exact ⟨hinner_mem row hrow, houter_mem row hrow⟩
    | source => exact ⟨houter_mem row hrow, hinner_mem row hrow⟩
  -- the rows are closed under the search: every end has a node, so no lookup of the loop raises
  obtain ⟨edges, hedges, henum, hpairs⟩ := assignEdges_of_mem ops mode hnumbers
  refine ⟨nc, volumeCount, edges, ?_, ?_, hrooted, hedgeKeys, henum, ?_⟩
  · rw [hfill]
    exact hnodes
  · rw [hfill]
    exact hedges
  · intro hnil
    have hmem := hpairs (fill first) List.mem_cons_self
    rw [Dict.keys, hnil] at hmem
    cases hmem

theorem SideOk.generateNodesEdges_ok {ops : FloatOps} {tokenType wallet : String} {mode : Mode}
    {result : List Transaction} (hside : SideOk ops tokenType mode wallet result)
    (settings : ApiSettings) (buildLossyGraph : Bool) :
    ∃ track nc edges graphEdges,
      generateNodesEdges ops settings result mode buildLossyGraph tokenType = .ok (track, nc) ∧
      track.edgeList = edges.values ∧ track.graphEdgeList = graphEdges.values ∧
      Rooted nc.nodes wallet ∧ Enumerated nc.getNodeEnum edges ∧
      Enumerated nc.getNodeEnum graphEdges ∧ LetsThrough wallet nc.edgeKeys graphEdges := by
  obtain ⟨nc, volumeCount, edges, hnodes, hedges, hrooted, hedgeKeys, henum, hne⟩ :=
    hside.exists_edges
  obtain ⟨first, rest, rfl, -⟩ := hside.first
  have hfirst : listIndex (first :: rest) 0 = .ok first := rfl
  have hgroups : depthGroups ops (first :: rest) mode tokenType =
      .ok (groupByDepth edges mode) := by
    unfold depthGroups
    simp only [hnodes, hedges, bind, Except.bind]
    rfl
  unfold generateNodesEdges
  simp only [hfirst, hnodes, hedges, bind, Except.bind]
  -- without shedding there are no edge keys, and the filter lets everything through
  by_cases hlossy : settings.catvGraphNodesCutoff < nc.count ∧ buildLossyGraph
  · obtain ⟨limited, hlimited, hkept⟩ := limitConnectedEdges_kept ops settings hne
      (hside.range _ hgroups) (hside.touches _ hgroups)
    rw [if_pos hlossy, makeLossyGraph]
    simp only [hlimited, bind, Except.bind, pure, Except.pure]
    refine ⟨_, _, edges, if limited.entries ≠ [] then limited else edges, rfl, rfl, rfl, hrooted,
      henum, ?_, ?_⟩
    · split
      · exact fun key edge hedge => henum key edge (hkept.within key edge hedge)
      · exact henum
    · have hnonempty : (endpoints limited).Nonempty → limited.keys ≠ [] := by
        rintro ⟨address, haddress⟩ hnil
        obtain ⟨key, hkey, -⟩ := mem_endpoints.mp haddress
        rw [hnil] at hkey
        cases hkey
      refine ⟨fun h => hkept.wallet_mem (hnonempty h), fun h key hkey => ?_⟩
      have hentries : limited.entries ≠ [] := fun hnil => hnonempty h (by rw [Dict.keys, hnil]; rfl)
      rw [if_pos hentries] at hkey
      exact ⟨mem_endpoints.mpr ⟨key, hkey, .inl rfl⟩, mem_endpoints.mpr ⟨key, hkey, .inr rfl⟩⟩
  · rw [if_neg hlossy]
    refine ⟨_, nc, edges, edges, rfl, rfl, rfl, hrooted, henum, henum, ?_, ?_⟩
    · rw [hedgeKeys]
      exact fun h => absurd h (by simp)
    · rw [hedgeKeys]
      exact fun h => absurd h (by simp)

/-- After annotation and filtering, a side is anchored twice: with all its nodes and edges, and with
those that it picks for the graph that is drawn. -/
theorem SideOk.setAnnotationsFromDb_anchored {ops : FloatOps} {tokenType wallet : String}
    {mode : Mode} {result : List Transaction} (hside : SideOk ops tokenType mode wallet result)
    (settings : ApiSettings) (buildLossyGraph : Bool) (indicators : List Indicator) :
    ∃ side, generateNodesEdges ops settings result mode buildLossyGraph tokenType = .ok side ∧
      ∃ nodes picked : Dict String Node, ∃ edges,
        (setAnnotationsFromDb side indicators).nodeList = nodes.values ∧
        (setAnnotationsFromDb side indicators).edgeList = edges ∧
        Anchored wallet nodes edges ∧
        ∃ pickedEdges,
          (setAnnotationsFromDb side indicators).picked = (picked.values, pickedEdges) ∧
          Anchored wallet picked pickedEdges := by
  obtain ⟨track, nc, edges, graphEdges, hside', hedges, hgraphEdges, hrooted, henum, hgraphEnum,
    hlets⟩ := hside.generateNodesEdges_ok settings buildLossyGraph
  have hpreserves := preserves_updateAnnotations nc track.itemList indicators
  set updated := (updateAnnotations nc track.itemList indicators).1 with hupdated
  have hrooted' : Rooted updated.nodes wallet := hpreserves.rooted hrooted
  have hlets' : LetsThrough wallet updated.edgeKeys graphEdges := by
    rw [hpreserves.edgeKeys]
    exact hlets
  have hfiltered : Anchored wallet updated.filterUpdateNodes.nodes graphEdges.values :=
    anchored_filterUpdateNodes hrooted' (hgraphEnum.mono hpreserves.ids) hlets'
  refine ⟨(track, nc), hside', updated.nodes, updated.filterUpdateNodes.nodes, edges.values, rfl,
    hedges, (henum.mono hpreserves.ids).anchored hrooted', graphEdges.values, ?_, hfiltered⟩
  -- the filtered list has the wallet in it, so it is the one that is picked
  have hne : updated.filterUpdateNodes.nodes.values ≠ [] := by
    obtain ⟨node, hnode, -⟩ := Option.map_eq_some_iff.mp hfiltered.rooted.root
    exact List.ne_nil_of_mem (Dict.mem_values_iff.mpr ⟨wallet, hnode⟩)
  have hgraph : (setAnnotationsFromDb (track, nc) indicators).graphNodeList =
      updated.filterUpdateNodes.nodes.values := rfl
  unfold TrackResult.picked
  rw [hgraph, if_pos hne]
  exact congrArg _ hgraphEdges

/-- **The merged report is a graph: all edges of the full lists and all edges of the drawn lists end
in nodes of the same lists.** -/
theorem reportGraph_referential (ops : FloatOps) (settings : ApiSettings)
    {tokenType wallet : String} (buildLossyGraph : Bool) {dist source : List Transaction}
    (hdist : SideOk ops tokenType .distribution wallet dist)
    (hsource : SideOk ops tokenType .source wallet source)
    (distIndicators sourceIndicators : List Indicator) :
    ∃ graph, reportGraph ops settings tokenType buildLossyGraph dist source distIndicators
        sourceIndicators = .ok (some graph) ∧
      Referential graph.edgeList graph.nodeList ∧
        Referential graph.graphEdgeList graph.graphNodeList := by
  obtain ⟨distSide, hdistSide, nodes, picked, edges, hnodes, hedges, hfull, pickedEdges, hpicked,
    hdrawn⟩ := hdist.setAnnotationsFromDb_anchored settings buildLossyGraph distIndicators
  obtain ⟨sourceSide, hsourceSide, nodes', picked', edges', hnodes', hedges', hfull', pickedEdges',
    hpicked', hdrawn'⟩ :=
    hsource.setAnnotationsFromDb_anchored settings buildLossyGraph sourceIndicators
  refine ⟨mergeGraphs (setAnnotationsFromDb sourceSide sourceIndicators)
    (setAnnotationsFromDb distSide distIndicators), ?_, ?_, ?_⟩
  · unfold reportGraph
    simp only [hdistSide, hsourceSide, bind, Except.bind]
    rfl
  · have hmerge := referential_merge hfull hfull'
    rw [← hnodes, ← hnodes', ← hedges, ← hedges'] at hmerge
    exact hmerge
  · have hmerge := referential_merge hdrawn hdrawn'
    simp only [mergeGraphs, hpicked, hpicked']
    exact hmerge

/-! ### A wallet with one transfer in and two out -/

def sampleDist : List Transaction :=
  [sampleRow "0xW" "0xA" 5 1, sampleRow "0xA" "0xB" 4 2]

def sampleSource : List Transaction :=
  [sampleRow "0xC" "0xW" 7 0]

def sampleIndicator : Indicator :=
  ⟨"0xA", "17", "blacklist", "cryptoaddr", "eth", some "Phishing"⟩

/-- Where the groups of the edges are known, the conditions on them are conditions on one
dictionary. -/
theorem SideOk.of_groups {ops : FloatOps} {tokenType wallet : String} {mode : Mode}
    {result : List Transaction} {groups : DepthGroups}
    (hgroups : depthGroups ops result mode tokenType = .ok groups)
    (hfirst : ∃ row rest, result = row :: rest ∧ mode.inner row = wallet)
    (hclosed : ∀ row ∈ result,
      mode.inner row = wallet ∨ ∃ other ∈ result, mode.outer other = mode.inner row)
    (hrange : ∀ depth ∈ groups.keys, 1 ≤ depth ∧ depth ≤ 10)
    (htouches : ∀ keys, (groups.get? 1).map Dict.keys = some keys →
      ∀ key ∈ keys, key.1 = wallet ∨ key.2 = wallet) :
    SideOk ops tokenType mode wallet result := by
  refine ⟨hfirst, hclosed, fun other hother => ?_, fun other hother group hgroup => ?_⟩
  · obtain rfl := Except.ok.inj (hgroups.symm.trans hother)
    exact hrange
  · obtain rfl := Except.ok.inj (hgroups.symm.trans hother)
    refine htouches group.keys ?_
    rw [hgroup]
    rfl

theorem sideOk_sampleDist : SideOk FloatOps.exact "ETH" .distribution "0xW" sampleDist := by
  obtain ⟨groups, hgroups, hkeys, hone⟩ : ∃ groups,
      depthGroups FloatOps.exact sampleDist .distribution "ETH" = .ok groups ∧
        groups.keys = [1, 2] ∧
          (groups.get? 1).map Dict.keys = some [("0xW", "0xA")] := ⟨_, rfl, rfl, rfl⟩
  refine .of_groups hgroups ⟨_, _, rfl, rfl⟩ (by decide) ?_ ?_
  · rw [hkeys]
    decide
  · intro keys hget
    obtain rfl := Option.some.inj (hone.symm.trans hget)
    decide

theorem sideOk_sampleSource : SideOk FloatOps.exact "ETH" .source "0xW" sampleSource := by
  obtain ⟨groups, hgroups, hkeys, hone⟩ : ∃ groups,
      depthGroups FloatOps.exact sampleSource .source "ETH" = .ok groups ∧ groups.keys = [1] ∧
        (groups.get? 1).map Dict.keys = some [("0xC", "0xW")] := ⟨_, rfl, rfl, rfl⟩
  refine .of_groups hgroups ⟨_, _, rfl, rfl⟩ (by decide) ?_ ?_
  · rw [hkeys]
    decide
  · intro keys hget
    obtain rfl := Option.some.inj (hone.symm.trans hget)
    decide

theorem reportGraph_referential_sample :
    ∃ graph, reportGraph FloatOps.exact ⟨500, 1⟩ "ETH" true sampleDist sampleSource
        [sampleIndicator] [] = .ok (some graph) ∧
      Referential graph.edgeList graph.nodeList ∧
        Referential graph.graphEdgeList graph.graphNodeList :=
  reportGraph_referential FloatOps.exact ⟨500, 1⟩ true sideOk_sampleDist sideOk_sampleSource
    [sampleIndicator] []

end CatvService.Graph
