import CatvService.Graph.Shedding
import Mathlib.Data.List.Chain
import Mathlib.Data.List.Find

/-!
# The graph of a path search

`generate_nodes_edges_ethcoinpath`, `generate_nodes_edges_btccoinpath` and `assign_nodes_btc_path`
of `api/catvutils/graphtools.py`.

The hops of all paths are put into one list that has every transaction once.  So a hop that shares
its transaction with an earlier one is left out; it only has an edge if another hop with the same
two ends is the first one of its transaction.  If this holds of all hops, the kept hops are closed
under the search, since every path is connected, and then every end has a node (`keepsHops_iff`).
-/

namespace CatvService.Graph

open Dictionary PyValue

/-! ## Paths -/

/-- A hop of a path: a row, and the values of its transaction. -/
structure Hop extends Transaction where
  txValueIn : Option ℚ
  txValueOut : Option ℚ
  deriving DecidableEq

/-- An element of the answer to a path search; its `depth` is only read for the source side. -/
structure PathInfo where
  depth : Option Json
  path : List Hop

/-- The hops of all paths. -/
def hopsOf (result : List PathInfo) : List Hop :=
  result.flatMap PathInfo.path

/-- `if path['tx_hash'] not in seen_tx_hash: …`. -/
def addHop (state : List Hop × List String) (hop : Hop) : List Hop × List String :=
  if hop.txHash ∈ state.2 then state else (state.1 ++ [hop], state.2 ++ [hop.txHash])

/-- `item_list`. -/
def itemList (result : List PathInfo) : List Hop :=
  (result.foldl (fun state info => info.path.foldl addHop state) ([], [])).1

/-- `depth_shift_for_source(result)`, on the elements of the answer. -/
def depthShiftForSource (result : List PathInfo) : Except PyErr (List PathInfo) :=
  result.mapM fun info =>
    match info.depth with
    | none => .ok info
    | some depth => do
        let depth ← depth.toInt
        return { info with depth := some (.int ((depth + 1) * -1)) }

/-- `if mode == -1: depth_shift_for_source(result)`. -/
def shiftDepths (result : List PathInfo) (mode : Mode) : Except PyErr (List PathInfo) :=
  if mode = .source then depthShiftForSource result else .ok result

/-! ## Nodes -/

/-- The node of the outer end of a hop, with the values of the transaction as its amounts. -/
def outerPathNode (mode : Mode) (counter : ℕ) (hop : Hop) : Node :=
  let info := mode.outerInfo hop.toTransaction
  Node.new (mode.toInt * counter) (mode.outer hop.toTransaction) (info.annotation.getD "")
    (info.type.getD "Wallet") ((hop.depth + mode.depthOffset) * mode.toInt)
    (some (info.balance.getD 0)) (some (hop.txValueIn.getD 0)) (some (hop.txValueOut.getD 0))

/-- `assign_nodes_btc_path(result, mode)`. -/
def assignNodesBtcPath (result : List Hop) (mode : Mode) :
    Except PyErr (NodesCollection × Dict String ℕ) :=
  match result with
  | [] => .error .indexError
  | first :: _ =>
      addNodesWith (fun counter hop => .ok (outerPathNode mode counter hop))
        (fun hop => mode.inner hop.toTransaction) 1
        (uniqfyGenerator (fun hop => mode.outer hop.toTransaction)
          {mode.inner first.toTransaction} result)
        (NodesCollection.empty.addNode (rootNode mode first.toTransaction), Dict.empty)

/-! ## Graphs -/

/-- `track_result` of a path search. -/
structure PathTrackResult where
  itemList : List Hop
  nodeList : List Node
  keys : List String
  nodeEnum : Dict String ℤ
  edgeList : List Edge
  volumeCount : Dict String ℕ
  graphNodeList : List Node
  graphEdgeList : List Edge

/-- The limited edges and nodes, where the graph is shed. -/
def limitGraph (ops : FloatOps) (settings : ApiSettings) (nc : NodesCollection) (edges : EdgeDict)
    (mode : Mode) (buildLossyGraph : Bool) :
    Except PyErr (EdgeDict × List Node × NodesCollection) :=
  if settings.catvGraphNodesCutoff < nc.count ∧ buildLossyGraph then
    makeLossyGraph ops settings nc edges mode
  else .ok (Dict.empty, [], nc)

/-- What the two functions have in common. -/
def generateNodesEdgesPath
    (assign : List Hop → Mode → Except PyErr (NodesCollection × Dict String ℕ))
    (ops : FloatOps) (settings : ApiSettings) (result : List PathInfo) (mode : Mode)
    (buildLossyGraph : Bool) : Except PyErr (PathTrackResult × NodesCollection) := do
  let info ← listIndex result 0
  let first ← listIndex info.path 0
  let items := itemList result
  let (nc, volumeCount) ← assign items mode
  let edges ← assignEdges ops (items.map Hop.toTransaction) mode nc.getNodeEnum
  let _ ← shiftDepths result mode
  let (limitedEdges, limitedNodes, nc) ← limitGraph ops settings nc edges mode buildLossyGraph
  let limitedEdges := if limitedEdges.entries ≠ [] then limitedEdges else edges
  return (
    { itemList := items
      nodeList := nc.nodes.values
      keys := first.keys
      nodeEnum := nc.getNodeEnum
      edgeList := edges.values
      volumeCount := volumeCount
      graphNodeList := limitedNodes
      graphEdgeList := limitedEdges.values },
    nc)

/-- `generate_nodes_edges_ethcoinpath(result, mode, build_lossy_graph)`. -/
def generateNodesEdgesEthcoinpath :=
  generateNodesEdgesPath fun items mode => assignNodes (items.map Hop.toTransaction) mode "ETH"

/-- `generate_nodes_edges_btccoinpath(result, mode, build_lossy_graph)`. -/
def generateNodesEdgesBtccoinpath :=
  generateNodesEdgesPath assignNodesBtcPath

/-- A hop has an edge from the node of its sender to the node of its receiver. -/
def HasEdge (hop : Hop) (nodes : List Node) (edges : List Edge) : Prop :=
  ∃ edge ∈ edges, ∃ sender ∈ nodes, ∃ receiver ∈ nodes,
    sender.address = hop.sender ∧ receiver.address = hop.receiver ∧
      edge.source = sender.id ∧ edge.target = receiver.id

/-- No error is raised, and every hop of every path has an edge. -/
def KeepsHops (outcome : Except PyErr (PathTrackResult × NodesCollection))
    (result : List PathInfo) : Prop :=
  ∃ track nc, outcome = .ok (track, nc) ∧
    ∀ hop ∈ hopsOf result, HasEdge hop track.nodeList track.edgeList

/-- What a path search returns: paths that start at the same address and are connected. -/
structure PathSearch (start : String) (result : List PathInfo) : Prop where
  ne_nil : result ≠ []
  start : ∀ info ∈ result, ∃ first rest, info.path = first :: rest ∧ first.sender = start
  connected : ∀ info ∈ result, info.path.IsChain fun hop next => hop.receiver = next.sender

/-! ## The hops that are kept -/

/-- The hop is the first one of its transaction. -/
def Opens (hops : List Hop) (hop : Hop) : Prop :=
  hops.find? (fun other => other.txHash = hop.txHash) = some hop

instance (hops : List Hop) (hop : Hop) : Decidable (Opens hops hop) :=
  inferInstanceAs (Decidable (_ = _))

/-- The hop is the first one with its ends among those that are the first ones of their
transactions. -/
def Draws (hops : List Hop) (hop : Hop) : Prop :=
  hops.find? (fun other => Opens hops other ∧ other.pair = hop.pair) = some hop

instance (hops : List Hop) (hop : Hop) : Decidable (Draws hops hop) :=
  inferInstanceAs (Decidable (_ = _))

/-- The depths of the hops whose depths become those of edges. -/
def drawnDepths (hops : List Hop) : List ℤ :=
  (hops.filter fun hop => Draws hops hop).map fun hop => hop.depth

/-- The addresses of some hops. -/
def addresses (hops : List Hop) : Finset String :=
  (hops.flatMap fun hop => [hop.sender, hop.receiver]).toFinset

/-- Every hop has its ends in common with a hop that is the first one of its transaction, and where
the graph is shed, the depths of its edges can be shed. -/
structure Lossless (settings : ApiSettings) (buildLossyGraph : Bool) (hops : List Hop) : Prop where
  opens : ∀ hop ∈ hops, ∃ other ∈ hops, other.pair = hop.pair ∧ Opens hops other
  shed : buildLossyGraph = true → settings.catvGraphNodesCutoff < (addresses hops).card →
    Sheddable (drawnDepths hops)

theorem foldl_addHop (hops items : List Hop) (seen : List String) :
    (hops.foldl addHop (items, seen)).1 =
      items ++ uniqfyGenerator (fun hop => hop.txHash) seen.toFinset hops := by
  induction hops generalizing items seen with
  | nil => exact (List.append_nil items).symm
  | cons hop hops ih =>
      rw [List.foldl_cons, addHop]
      unfold uniqfyGenerator
      simp only [List.mem_toFinset]
      split
      · exact ih items seen
      · rw [ih, List.toFinset_append, List.append_assoc]
        congr 2
        rw [Finset.union_comm]
        rfl

/-- The item list has the hops whose transactions have not been seen. -/
theorem itemList_eq (result : List PathInfo) :
    itemList result = uniqfyGenerator (fun hop => hop.txHash) ∅ (hopsOf result) := by
  have hfold : itemList result = ((hopsOf result).foldl addHop ([], [])).1 := by
    rw [hopsOf, List.foldl_flatMap]
    rfl
  rw [hfold, foldl_addHop]
  rfl

variable {result : List PathInfo} {hop : Hop}

theorem mem_itemList : hop ∈ itemList result ↔ hop ∈ hopsOf result ∧ Opens (hopsOf result) hop := by
  have hfind : ∀ key, (itemList result).find? (fun other => other.txHash = key) =
      (hopsOf result).find? fun other => other.txHash = key := by
    intro key
    rw [itemList_eq]
    exact find?_uniqfyGenerator (Finset.notMem_empty key) _
  have hnodup : ((itemList result).map fun hop => hop.txHash).Nodup := by
    rw [itemList_eq]
    exact nodup_uniqfyGenerator _ _ _
  constructor
  · intro hmem
    have hsome : ((itemList result).find? fun other => other.txHash = hop.txHash).isSome := by
      rw [List.find?_isSome]
      exact ⟨hop, hmem, by simp⟩
    obtain ⟨other, hother⟩ := Option.isSome_iff_exists.mp hsome
    have heq : other = hop := by
      refine List.inj_on_of_nodup_map hnodup (List.mem_of_find?_eq_some hother) hmem ?_
      simpa using List.find?_some hother
    subst heq
    rw [hfind] at hother
    exact ⟨List.mem_of_find?_eq_some hother, hother⟩
  · rintro ⟨-, hopens⟩
    have hother : (itemList result).find? (fun other => other.txHash = hop.txHash) = some hop := by
      rw [hfind]
      exact hopens
    exact List.mem_of_find?_eq_some hother

/-- What is searched for among the rows of a generator is searched for among all rows that are the
first ones with their keys. -/
theorem find?_uniqfyGenerator_of_first {Row : Type} [DecidableEq Row] {addrKey : Row → String}
    (p : Row → Bool) (exclusions : Finset String) (rows : List Row) :
    (uniqfyGenerator addrKey exclusions rows).find? p =
      rows.find? fun row => (addrKey row ∉ exclusions ∧
        rows.find? (fun other => addrKey other = addrKey row) = some row) ∧ p row := by
  induction rows generalizing exclusions with
  | nil => rfl
  | cons row rows ih =>
      unfold uniqfyGenerator
      -- a row with another key is the first one behind the head if it is with the head
      have hne : ∀ other, addrKey other ≠ addrKey row →
          (row :: rows).find? (fun entry => addrKey entry = addrKey other) =
            rows.find? fun entry => addrKey entry = addrKey other := by
        intro other hother
        rw [List.find?_cons_of_neg (by simpa using hother.symm)]
      split
      · rename_i hseen
        rw [ih, List.find?_cons_of_neg (by simp [hseen])]
        refine List.find?_congr fun other _ => ?_
        by_cases hkey : addrKey other = addrKey row
        · simp [hkey, hseen]
        · rw [hne other hkey]
      · rename_i hnew
        by_cases hp : p row = true
        · rw [List.find?_cons_of_pos hp, List.find?_cons_of_pos (by simp [hnew, hp])]
        · rw [List.find?_cons_of_neg hp, List.find?_cons_of_neg (by simp [hp]), ih]
          refine List.find?_congr fun other _ => ?_
          by_cases hkey : addrKey other = addrKey row
          · have hhead : (row :: rows).find? (fun entry => addrKey entry = addrKey other) =
                some row := List.find?_cons_of_pos (by simp [hkey])
            have hdiffers : row = other → ¬ p other = true := by
              rintro rfl
              exact hp
            rw [hhead]
            simp [hkey]
            exact fun _ heq => by simpa using hdiffers heq
          · rw [hne other hkey]
            simp [hkey]

/-! ## The edges of the kept hops -/

theorem mem_drawnDepths {edges : EdgeDict} (hdepths : ∀ key, (edges.get? key).map Edge.depth =
      (((itemList result).map Hop.toTransaction).find? fun row => row.pair = key).map
        Transaction.depth) {depth : ℤ} :
    depth ∈ (groupByDepth edges .distribution).keys ↔ depth ∈ drawnDepths (hopsOf result) := by
  have hfind : ∀ key, (edges.get? key).map Edge.depth =
      ((hopsOf result).find? fun hop => Opens (hopsOf result) hop ∧ hop.pair = key).map
        fun hop => hop.depth := by
    intro key
    rw [hdepths, List.find?_map, Option.map_map, itemList_eq, find?_uniqfyGenerator_of_first]
    simp only [Finset.notMem_empty, not_false_eq_true, true_and, Bool.decide_and,
      Bool.decide_eq_true]
    rfl
  rw [mem_keys_groupByDepth, drawnDepths, List.mem_map]
  constructor
  · rintro ⟨key, edge, hget, rfl⟩
    have hkey := hfind key
    rw [hget, Option.map_some, eq_comm, Option.map_eq_some_iff] at hkey
    obtain ⟨hop, hhop, hdepth⟩ := hkey
    have hholds := List.find?_some hhop
    simp only [decide_eq_true_eq] at hholds
    have hdraws : Draws (hopsOf result) hop := by
      unfold Draws
      rw [hholds.2]
      exact hhop
    exact ⟨hop, List.mem_filter.mpr ⟨List.mem_of_find?_eq_some hhop, by simpa using hdraws⟩, hdepth⟩
  · rintro ⟨hop, hmem, rfl⟩
    obtain ⟨-, hdraws⟩ := List.mem_filter.mp hmem
    have hdraws' : Draws (hopsOf result) hop := by simpa using hdraws
    have hkey := hfind hop.pair
    unfold Draws at hdraws'
    rw [hdraws', Option.map_some] at hkey
    obtain ⟨edge, hedge, hdepth⟩ := Option.map_eq_some_iff.mp hkey
    exact ⟨hop.pair, edge, hedge, hdepth⟩

/-! ## Which hops have edges -/

theorem limitGraph_nodes {ops : FloatOps} {settings : ApiSettings} {nc nc' : NodesCollection}
    {edges limited : EdgeDict} {mode : Mode} {buildLossyGraph : Bool} {nodes : List Node}
    (hgraph : limitGraph ops settings nc edges mode buildLossyGraph = .ok (limited, nodes, nc')) :
    nc'.nodes = nc.nodes := by
  unfold limitGraph at hgraph
  split at hgraph
  · obtain ⟨_, -, hreturn⟩ := bind_eq_ok_iff.mp hgraph
    cases hreturn
    rfl
  · cases hgraph
    rfl

/-- It raises nothing unless it takes place, and then exactly if the depths can be shed. -/
theorem exists_limitGraph_iff (ops : FloatOps) {settings : ApiSettings} {nc : NodesCollection}
    {edges : EdgeDict} {mode : Mode} {buildLossyGraph : Bool} :
    (∃ graph, limitGraph ops settings nc edges mode buildLossyGraph = .ok graph) ↔
      (buildLossyGraph = true → settings.catvGraphNodesCutoff < nc.count →
        Sheddable (groupByDepth edges mode).keys) := by
  unfold limitGraph
  by_cases hlossy : settings.catvGraphNodesCutoff < nc.count ∧ buildLossyGraph = true
  · rw [if_pos hlossy, exists_makeLossyGraph_iff]
    exact ⟨fun hshed _ _ => hshed, fun hshed => hshed hlossy.2 hlossy.1⟩
  · rw [if_neg hlossy]
    exact iff_of_true ⟨_, rfl⟩ fun hbuild hcutoff => absurd ⟨hcutoff, hbuild⟩ hlossy

variable {assign : List Hop → Mode → Except PyErr (NodesCollection × Dict String ℕ)}
  {ops : FloatOps} {settings : ApiSettings} {buildLossyGraph : Bool} {start : String}

/-- What a path search gives depends on three things: the nodes, the edges, and whether the shedding
raises. -/
theorem exists_generateNodesEdgesPath_iff {nc : NodesCollection} {volumeCount : Dict String ℕ}
    (hpaths : PathSearch start result)
    (hassign : assign (itemList result) .distribution = .ok (nc, volumeCount))
    (holds : List Node → List Edge → Prop) :
    (∃ track nc', generateNodesEdgesPath assign ops settings result .distribution buildLossyGraph =
        .ok (track, nc') ∧ holds track.nodeList track.edgeList) ↔
      ∃ edges, assignEdges ops ((itemList result).map Hop.toTransaction) .distribution
          nc.getNodeEnum = .ok edges ∧
        (buildLossyGraph = true → settings.catvGraphNodesCutoff < nc.count →
          Sheddable (groupByDepth edges .distribution).keys) ∧
        holds nc.nodes.values edges.values := by
  simp only [← exists_limitGraph_iff ops]
  constructor
  · rintro ⟨track, nc', houtcome, hholds⟩
    simp only [generateNodesEdgesPath, bind_eq_ok_iff] at houtcome
    obtain ⟨_, -, _, -, ⟨nc₀, _⟩, hassign', edges, hedges, _, -, ⟨_, _, nc₁⟩, hgraph, hreturn⟩ :=
      houtcome
    rw [hassign] at hassign'
    cases hassign'
    cases hreturn
    rw [limitGraph_nodes hgraph] at hholds
    exact ⟨edges, hedges, ⟨_, hgraph⟩, hholds⟩
  · rintro ⟨edges, hedges, ⟨⟨limited, nodes, nc'⟩, hgraph⟩, hholds⟩
    obtain ⟨info, rest, rfl⟩ := List.exists_cons_of_ne_nil hpaths.ne_nil
    obtain ⟨first, more, hpath, -⟩ := hpaths.start info List.mem_cons_self
    have hfirst : listIndex info.path 0 = .ok first := by
      rw [hpath]
      rfl
    rw [← limitGraph_nodes hgraph] at hholds
    unfold generateNodesEdgesPath
    exact ⟨_, _, bind_eq_ok_iff.mpr ⟨info, rfl, bind_eq_ok_iff.mpr ⟨first, hfirst,
      bind_eq_ok_iff.mpr ⟨_, hassign, bind_eq_ok_iff.mpr ⟨edges, hedges,
        bind_eq_ok_iff.mpr ⟨_, rfl, bind_eq_ok_iff.mpr ⟨_, hgraph, rfl⟩⟩⟩⟩⟩⟩, hholds⟩

/-- A hop of a connected path starts where the path starts or where another hop ends. -/
theorem sender_of_isChain {first : Hop} {rest : List Hop}
    (hchain : (first :: rest).IsChain fun hop next => hop.receiver = next.sender)
    (hhop : hop ∈ first :: rest) :
    hop.sender = first.sender ∨ ∃ previous ∈ first :: rest, previous.receiver = hop.sender := by
  induction rest generalizing first with
  | nil =>
      obtain rfl : hop = first := by simpa using hhop
      exact .inl rfl
  | cons next rest ih =>
      obtain ⟨hnext, hchain⟩ := List.isChain_cons_cons.mp hchain
      rcases List.mem_cons.mp hhop with rfl | hhop
      · exact .inl rfl
      · right
        rcases ih hchain hhop with hsender | ⟨previous, hprevious, hsender⟩
        · exact ⟨first, List.mem_cons_self, hnext.trans hsender.symm⟩
        · exact ⟨previous, List.mem_cons_of_mem _ hprevious, hsender⟩

theorem PathSearch.sender (hpaths : PathSearch start result) (hhop : hop ∈ hopsOf result) :
    hop.sender = start ∨ ∃ previous ∈ hopsOf result, previous.receiver = hop.sender := by
  obtain ⟨info, hinfo, hmem⟩ := List.mem_flatMap.mp hhop
  obtain ⟨first, rest, hpath, rfl⟩ := hpaths.start info hinfo
  rw [hpath] at hmem
  have hchain := hpaths.connected info hinfo
  rw [hpath] at hchain
  rcases sender_of_isChain hchain hmem with hsender | ⟨previous, hprevious, hsender⟩
  · exact .inl hsender
  · exact .inr ⟨previous, List.mem_flatMap.mpr ⟨info, hinfo, hpath ▸ hprevious⟩, hsender⟩

/-- The first hop of the first path is kept. -/
theorem PathSearch.exists_itemList (hpaths : PathSearch start result) :
    ∃ first rest, itemList result = first :: rest ∧ first.sender = start := by
  obtain ⟨info, others, rfl⟩ := List.exists_cons_of_ne_nil hpaths.ne_nil
  obtain ⟨first, rest, hpath, hstart⟩ := hpaths.start info List.mem_cons_self
  have hhops : hopsOf (info :: others) = first :: (rest ++ hopsOf others) := by
    simp [hopsOf, hpath]
  refine ⟨first, uniqfyGenerator (fun hop => hop.txHash) (insert first.txHash ∅)
    (rest ++ hopsOf others), ?_, hstart⟩
  rw [itemList_eq, hhops]
  exact if_neg (Finset.notMem_empty _)

theorem Valid.eq_address {nc : NodesCollection} {node : Node} {key : String} (hvalid : Valid nc)
    (hget : nc.getNodeEnum.get? key = some node.id) (hnode : node ∈ nc.nodes.values) :
    key = node.address := by
  rw [NodesCollection.getNodeEnum, Dict.get?_map] at hget
  obtain ⟨found, hfound, hid⟩ := Option.map_eq_some_iff.mp hget
  obtain ⟨other, hother⟩ := Dict.mem_values_iff.mp hnode
  rw [hvalid.address other node hother]
  exact hvalid.key_eq hfound hother hid

/-- The pair of an edge between the nodes of two addresses is that of the addresses. -/
theorem Valid.get?_of_hasEdge {nc : NodesCollection} {edges : EdgeDict} (hvalid : Valid nc)
    (henum : Enumerated nc.getNodeEnum edges) (hhas : HasEdge hop nc.nodes.values edges.values) :
    ∃ edge, edges.get? hop.pair = some edge := by
  obtain ⟨edge, hedge, sender, hsender, receiver, hreceiver, hfrom, hto, hsource, htarget⟩ := hhas
  obtain ⟨key, hget⟩ := Dict.mem_values_iff.mp hedge
  obtain ⟨hkeySource, hkeyTarget⟩ := henum key edge hget
  rw [hsource] at hkeySource
  rw [htarget] at hkeyTarget
  have hkey : key = hop.pair := by
    refine Prod.ext ?_ ?_
    · exact (hvalid.eq_address hkeySource hsender).trans hfrom
    · exact (hvalid.eq_address hkeyTarget hreceiver).trans hto
  exact ⟨edge, hkey ▸ hget⟩

theorem Valid.hasEdge {nc : NodesCollection} {edges : EdgeDict} {edge : Edge} (hvalid : Valid nc)
    (henum : Enumerated nc.getNodeEnum edges) (hget : edges.get? hop.pair = some edge) :
    HasEdge hop nc.nodes.values edges.values := by
  have hnode : ∀ {key id}, nc.getNodeEnum.get? key = some id →
      ∃ node ∈ nc.nodes.values, node.address = key ∧ id = node.id := by
    intro key id hid
    rw [NodesCollection.getNodeEnum, Dict.get?_map] at hid
    obtain ⟨node, hnode, rfl⟩ := Option.map_eq_some_iff.mp hid
    exact ⟨node, Dict.mem_values_iff.mpr ⟨key, hnode⟩, hvalid.address key node hnode, rfl⟩
  obtain ⟨hsource, htarget⟩ := henum hop.pair edge hget
  obtain ⟨sender, hsender, hfrom, hsourceId⟩ := hnode hsource
  obtain ⟨receiver, hreceiver, hto, htargetId⟩ := hnode htarget
  exact ⟨edge, Dict.mem_values_iff.mpr ⟨hop.pair, hget⟩, sender, hsender, receiver, hreceiver,
    hfrom, hto, hsourceId, htargetId⟩

/-- The nodes of the kept hops: the start and the receivers, each under its address and with a
number of its own. -/
def AssignsNodes (assign : List Hop → Mode → Except PyErr (NodesCollection × Dict String ℕ)) :
    Prop :=
  ∀ first rest, ∃ nc volumeCount,
    assign (first :: rest) .distribution = .ok (nc, volumeCount) ∧
      Valid nc ∧
        ∀ address, address ∈ nc.nodes.keys ↔
          address = first.sender ∨ ∃ hop ∈ first :: rest, hop.receiver = address

theorem assignsNodes_eth :
    AssignsNodes fun items mode => assignNodes (items.map Hop.toTransaction) mode "ETH" := by
  intro first rest
  obtain ⟨nc, volumeCount, hnodes, -⟩ := assignNodes_cons first.toTransaction
    (rest.map Hop.toTransaction) .distribution "ETH"
  obtain ⟨nodes, hloop, -⟩ := loopNodes_of_assignNodes hnodes
  refine ⟨nc, volumeCount, hnodes, hloop.valid rfl, fun address => ?_⟩
  rw [hloop.mem_keys_iff (makes_outerNode .distribution "ETH"), ← List.map_cons]
  simp only [List.mem_map, exists_exists_and_eq_and]
  rfl

theorem makes_outerPathNode (mode : Mode) :
    Makes mode (fun hop => mode.outer hop.toTransaction)
      fun counter hop => .ok (outerPathNode mode counter hop) where
  id := by
    rintro counter hop made ⟨⟩
    rfl
  address := by
    rintro counter hop made ⟨⟩
    rfl

theorem assignsNodes_btc : AssignsNodes assignNodesBtcPath := by
  intro first rest
  have hmade : ∀ (counter : ℕ) (hop : Hop), ∃ made,
      (.ok (outerPathNode .distribution counter hop) : Except PyErr Node) = .ok made :=
    fun counter hop => ⟨outerPathNode .distribution counter hop, rfl⟩
  obtain ⟨⟨nc, volumeCount⟩, hnodes⟩ := exists_addNodesWith hmade
    (fun hop => Mode.distribution.inner hop.toTransaction)
    (uniqfyGenerator (fun hop => Mode.distribution.outer hop.toTransaction)
      {Mode.distribution.inner first.toTransaction} (first :: rest)) 1
    (NodesCollection.empty.addNode (rootNode .distribution first.toTransaction), Dict.empty)
  obtain ⟨nodes, hloop, -⟩ := exists_loopNodes (makes_outerPathNode .distribution)
    (rootNode .distribution first.toTransaction) hnodes
  exact ⟨nc, volumeCount, hnodes, hloop.valid rfl,
    fun address => hloop.mem_keys_iff (makes_outerPathNode .distribution)⟩

/-- Where every hop has its ends in common with a kept one, the kept hops have all addresses. -/
theorem PathSearch.mem_addresses (hpaths : PathSearch start result)
    (hopens : ∀ hop ∈ hopsOf result, ∃ other ∈ hopsOf result, other.pair = hop.pair ∧
      Opens (hopsOf result) other) {address : String} :
    address ∈ addresses (hopsOf result) ↔
      address = start ∨ ∃ hop ∈ itemList result, hop.receiver = address := by
  have hkept : ∀ hop ∈ hopsOf result, ∃ other ∈ itemList result, other.receiver = hop.receiver := by
    intro hop hhop
    obtain ⟨other, hother, hpair, hopen⟩ := hopens hop hhop
    exact ⟨other, mem_itemList.mpr ⟨hother, hopen⟩, congrArg Prod.snd hpair⟩
  have hmem : address ∈ addresses (hopsOf result) ↔
      ∃ hop ∈ hopsOf result, address = hop.sender ∨ address = hop.receiver := by
    simp [addresses]
  rw [hmem]
  constructor
  · rintro ⟨hop, hhop, rfl | rfl⟩
    · rcases hpaths.sender hhop with hsender | ⟨previous, hprevious, hsender⟩
      · exact .inl hsender
      · obtain ⟨other, hother, hreceiver⟩ := hkept previous hprevious
        exact .inr ⟨other, hother, hreceiver.trans hsender⟩
    · obtain ⟨other, hother, hreceiver⟩ := hkept hop hhop
      exact .inr ⟨other, hother, hreceiver⟩
  · rintro (rfl | ⟨hop, hhop, rfl⟩)
    · obtain ⟨first, rest, hitems, hsender⟩ := hpaths.exists_itemList
      have hfirst : first ∈ itemList result := hitems ▸ List.mem_cons_self
      exact ⟨first, (mem_itemList.mp hfirst).1, .inl hsender.symm⟩
    · exact ⟨hop, (mem_itemList.mp hhop).1, .inr rfl⟩

theorem PathSearch.count_eq (hpaths : PathSearch start result) {nc : NodesCollection}
    (hkeys : ∀ address, address ∈ nc.nodes.keys ↔
      address = start ∨ ∃ hop ∈ itemList result, hop.receiver = address)
    (hopens : ∀ hop ∈ hopsOf result, ∃ other ∈ hopsOf result, other.pair = hop.pair ∧
      Opens (hopsOf result) other) :
    nc.count = (addresses (hopsOf result)).card := by
  have haddresses : nc.nodes.keys.toFinset = addresses (hopsOf result) := by
    ext address
    rw [List.mem_toFinset, hkeys, hpaths.mem_addresses hopens]
  calc nc.count = nc.nodes.keys.length := (List.length_map _).symm
    _ = nc.nodes.keys.toFinset.card := (List.toFinset_card_of_nodup nc.nodes.nodup).symm
    _ = (addresses (hopsOf result)).card := by rw [haddresses]

/-- An edge comes from a kept hop with the same ends. -/
theorem exists_opens_of_get? {edges : EdgeDict} {edge : Edge}
    (hdepths : ∀ key, (edges.get? key).map Edge.depth =
      (((itemList result).map Hop.toTransaction).find? fun row => row.pair = key).map
        Transaction.depth) (hget : edges.get? hop.pair = some edge) :
    ∃ other ∈ hopsOf result, other.pair = hop.pair ∧ Opens (hopsOf result) other := by
  have hfind := hdepths hop.pair
  rw [hget, Option.map_some, eq_comm, Option.map_eq_some_iff] at hfind
  obtain ⟨row, hrow, -⟩ := hfind
  obtain ⟨other, hother, rfl⟩ := List.mem_map.mp (List.mem_of_find?_eq_some hrow)
  obtain ⟨hmem, hopen⟩ := mem_itemList.mp hother
  have hpair : other.pair = hop.pair := by simpa using List.find?_some hrow
  exact ⟨other, hmem, hpair, hopen⟩

theorem exists_assignEdges (ops : FloatOps) {nodeEnum : Dict String ℤ}
    (hends : ∀ address ∈ addresses (hopsOf result), address ∈ nodeEnum.keys) :
    ∃ edges,
      assignEdges ops ((itemList result).map Hop.toTransaction) .distribution nodeEnum = .ok edges ∧
        ∀ hop ∈ itemList result, hop.pair ∈ edges.keys := by
  have hrows : ∀ row ∈ (itemList result).map Hop.toTransaction,
      row.sender ∈ nodeEnum.keys ∧ row.receiver ∈ nodeEnum.keys := by
    intro row hrow
    obtain ⟨hop, hhop, rfl⟩ := List.mem_map.mp hrow
    have hmem := (mem_itemList.mp hhop).1
    constructor
    · exact hends hop.sender (by simpa [addresses] using ⟨hop, hmem, .inl rfl⟩)
    · exact hends hop.receiver (by simpa [addresses] using ⟨hop, hmem, .inr rfl⟩)
  obtain ⟨edges, hedges, -, hpairs⟩ := assignEdges_of_mem ops .distribution hrows
  exact ⟨edges, hedges, fun hop hhop => hpairs hop.toTransaction (List.mem_map_of_mem hhop)⟩

theorem keepsHops_generateNodesEdgesPath_iff (hassigns : AssignsNodes assign)
    (hpaths : PathSearch start result) :
    KeepsHops (generateNodesEdgesPath assign ops settings result .distribution buildLossyGraph)
      result ↔ Lossless settings buildLossyGraph (hopsOf result) := by
  obtain ⟨first, rest, hitems, hstart⟩ := hpaths.exists_itemList
  obtain ⟨nc, volumeCount, hassign, hvalid, hkeys⟩ := hassigns first rest
  rw [← hitems] at hassign hkeys
  rw [hstart] at hkeys
  unfold KeepsHops
  rw [exists_generateNodesEdgesPath_iff hpaths hassign fun nodes edges =>
    ∀ hop ∈ hopsOf result, HasEdge hop nodes edges]
  constructor
  · rintro ⟨edges, hedges, hshed, hhas⟩
    obtain ⟨henum, hdepths⟩ := assignEdges_eq_ok hedges
    have hopens : ∀ hop ∈ hopsOf result, ∃ other ∈ hopsOf result, other.pair = hop.pair ∧
        Opens (hopsOf result) other := by
      intro hop hhop
      obtain ⟨edge, hget⟩ := hvalid.get?_of_hasEdge henum (hhas hop hhop)
      exact exists_opens_of_get? hdepths hget
    refine ⟨hopens, fun hbuild hcutoff => ?_⟩
    rw [← hpaths.count_eq hkeys hopens] at hcutoff
    exact (sheddable_congr fun _ => mem_drawnDepths hdepths).mp (hshed hbuild hcutoff)
  · rintro ⟨hopens, hshed⟩
    have hends : ∀ address ∈ addresses (hopsOf result), address ∈ nc.getNodeEnum.keys := by
      intro address hmem
      have henumKeys : nc.getNodeEnum.keys = nc.nodes.keys := Dict.keys_map _ _
      rw [henumKeys, hkeys]
      exact (hpaths.mem_addresses hopens).mp hmem
    obtain ⟨edges, hedges, hpairs⟩ := exists_assignEdges ops hends
    obtain ⟨henum, hdepths⟩ := assignEdges_eq_ok hedges
    refine ⟨edges, hedges, fun hbuild hcutoff => ?_, fun hop hhop => ?_⟩
    · rw [hpaths.count_eq hkeys hopens] at hcutoff
      exact (sheddable_congr fun _ => mem_drawnDepths hdepths).mpr (hshed hbuild hcutoff)
    · obtain ⟨other, hother, hpair, hopen⟩ := hopens hop hhop
      have hmem := hpairs other (mem_itemList.mpr ⟨hother, hopen⟩)
      rw [hpair] at hmem
      obtain ⟨edge, hget⟩ := Dict.mem_keys_iff.mp hmem
      exact hvalid.hasEdge henum hget

/-- **The graph of a path search has all hops exactly if none is lost with its transaction.** -/
theorem keepsHops_iff (ops : FloatOps) (settings : ApiSettings) (buildLossyGraph : Bool)
    (hpaths : PathSearch start result) :
    (KeepsHops (generateNodesEdgesEthcoinpath ops settings result .distribution buildLossyGraph)
        result ↔ Lossless settings buildLossyGraph (hopsOf result)) ∧
      (KeepsHops (generateNodesEdgesBtccoinpath ops settings result .distribution buildLossyGraph)
        result ↔ Lossless settings buildLossyGraph (hopsOf result)) :=
  ⟨keepsHops_generateNodesEdgesPath_iff assignsNodes_eth hpaths,
    keepsHops_generateNodesEdgesPath_iff assignsNodes_btc hpaths⟩

/-! ### Two paths of two hops -/

def samplePathHop (txHash sender receiver : String) (depth : ℤ) : Hop :=
  { sampleRow sender receiver 5 depth with txHash := txHash, txValueIn := none, txValueOut := none }

/-- Two paths from the same address, whose first hops are in the given transactions. -/
def samplePaths (first second : String) : List PathInfo :=
  [⟨none, [samplePathHop first "0xW" "0xA" 1, samplePathHop "0xf2" "0xA" "0xB" 2]⟩,
    ⟨none, [samplePathHop second "0xW" "0xC" 1, samplePathHop "0xf4" "0xC" "0xD" 2]⟩]

theorem pathSearch_samplePaths (first second : String) :
    PathSearch "0xW" (samplePaths first second) where
  ne_nil := List.cons_ne_nil _ _
  start := by simp [samplePaths, samplePathHop, sampleRow]
  connected := by simp [samplePaths, samplePathHop, sampleRow]

theorem keepsHops_iff_samplePaths :
    (KeepsHops (generateNodesEdgesEthcoinpath .exact ⟨500, 1⟩ (samplePaths "0xf1" "0xf3")
        .distribution true) (samplePaths "0xf1" "0xf3") ↔
      Lossless ⟨500, 1⟩ true (hopsOf (samplePaths "0xf1" "0xf3"))) ∧
    (KeepsHops (generateNodesEdgesBtccoinpath .exact ⟨500, 1⟩ (samplePaths "0xf1" "0xf3")
        .distribution true) (samplePaths "0xf1" "0xf3") ↔
      Lossless ⟨500, 1⟩ true (hopsOf (samplePaths "0xf1" "0xf3"))) :=
  keepsHops_iff .exact ⟨500, 1⟩ true (pathSearch_samplePaths "0xf1" "0xf3")

/-- One transaction pays two addresses: the second hop of it is left out, and the hop behind it has
no node to start from. -/
theorem not_keepsHops_samplePaths :
    PathSearch "0xW" (samplePaths "0xf1" "0xf1") ∧
      ¬ KeepsHops (generateNodesEdgesEthcoinpath .exact ⟨500, 1000⟩ (samplePaths "0xf1" "0xf1")
        .distribution true) (samplePaths "0xf1" "0xf1") ∧
      ¬ KeepsHops (generateNodesEdgesBtccoinpath .exact ⟨500, 1000⟩ (samplePaths "0xf1" "0xf1")
        .distribution true) (samplePaths "0xf1" "0xf1") := by
  refine ⟨pathSearch_samplePaths "0xf1" "0xf1", ?_, ?_⟩
  · rintro ⟨track, nc, houtcome, -⟩
    have hraises : generateNodesEdgesEthcoinpath .exact ⟨500, 1000⟩ (samplePaths "0xf1" "0xf1")
        .distribution true = .error (.keyError "0xC") := rfl
    rw [hraises] at houtcome
    cases houtcome
  · rintro ⟨track, nc, houtcome, -⟩
    have hraises : generateNodesEdgesBtccoinpath .exact ⟨500, 1000⟩ (samplePaths "0xf1" "0xf1")
        .distribution true = .error (.keyError "0xC") := rfl
    rw [hraises] at houtcome
    cases houtcome

end CatvService.Graph
