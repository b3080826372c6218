import CatvService.Graph.CoinpathSide
import CatvService.Graph.Shedding

/-!
# Hop numbers: the level of a node and the group of its edge

The level of a node is computed from the depth of the row that discovered it, with an offset that
depends on the side and the token type.  `group_by_depth` computes the group of the edge from the
same depth, with an offset that depends on the side only.  So the two agree on the distribution side
and on the source side of Ethereum.  On the source side of any other token type, and of a coinpath,
the group is one more than the hop (`agreesAt_iff`): no edge of the first hop is in group 1, and
nothing is shed.
-/

namespace CatvService.Graph

open Dictionary PyText PyValue

/-! ## The row that discovers a node -/

/-- The row is the first with its outer end, which is not the wallet. -/
structure Discovers (rows : List Transaction) (mode : Mode) (row : Transaction) : Prop where
  first : rows.find? (fun other => mode.outer other = mode.outer row) = some row
  not_wallet : ∀ first ∈ rows.head?, mode.outer row ≠ mode.inner first

variable {rows : List Transaction} {mode : Mode} {row : Transaction}

theorem mem_uniqfyGenerator_iff {first : Transaction} {rest : List Transaction} :
    row ∈ uniqfyGenerator mode.outer {mode.inner first} (first :: rest) ↔
      Discovers (first :: rest) mode row := by
  constructor
  · intro hmem
    have hnew := outer_notMem_of_mem_uniqfyGenerator hmem
    refine ⟨find?_of_mem_uniqfyGenerator hmem, fun head hhead => ?_⟩
    obtain rfl := Option.some.inj hhead
    simpa using hnew
  · intro hdiscovers
    have hnew : mode.outer row ∉ ({mode.inner first} : Finset String) := by
      simpa using hdiscovers.not_wallet first rfl
    have hfind := hdiscovers.first
    rw [← find?_uniqfyGenerator hnew] at hfind
    exact List.mem_of_find?_eq_some hfind

/-- A row that discovers its outer end is the first row of its edge. -/
theorem Discovers.find?_pair (hdiscovers : Discovers rows mode row) :
    rows.find? (fun other => other.pair = row.pair) = some row := by
  obtain ⟨-, before, after, rfl, hbefore⟩ :=
    List.find?_eq_some_iff_append.mp hdiscovers.first
  refine List.find?_eq_some_iff_append.mpr ⟨by simp, before, after, rfl, fun other hother => ?_⟩
  have houter : mode.outer other ≠ mode.outer row := by simpa using hbefore other hother
  have hpair : other.pair ≠ row.pair := by
    intro heq
    obtain ⟨hsender, hreceiver⟩ := Prod.mk.inj heq
    cases mode with
    | distribution => exact houter hreceiver
    | source => exact houter hsender
  simpa using hpair

/-- The levels of a side: 0 for the wallet, and that of its row for a node that a row discovers. -/
structure HasLevels (level : ℤ → ℤ) (rows : List Transaction) (mode : Mode)
    (nc : NodesCollection) : Prop where
  discovered : ∀ row, Discovers rows mode row →
    ∃ node, nc.getNode (mode.outer row) = some node ∧ node.level = level row.depth
  only : ∀ address node, nc.getNode address = some node →
    node.level = 0 ∨ ∃ row, Discovers rows mode row ∧ mode.outer row = address

/-- What the nodes of a side are made of: the wallet, and one node for each row that the generator
yields, numbered from 1 on. -/
structure SideNodes (level : ℤ → ℤ) (mode : Mode) (first : Transaction) (rest : List Transaction)
    (root : Node) (nodes : List Node) (nc : NodesCollection) : Prop
    extends Listed mode root nodes nc where
  root_address : root.address = mode.inner first
  root_level : root.level = 0
  root_id : root.id = 0
  made : List.Forall₂ (MadeFrom mode level)
    (uniqfyGenerator mode.outer {mode.inner first} (first :: rest)) nodes

section Nodes

variable {level : ℤ → ℤ} {first : Transaction} {rest : List Transaction} {root : Node}
  {nodes : List Node} {nc : NodesCollection}

theorem SideNodes.hasLevels (hside : SideNodes level mode first rest root nodes nc) :
    HasLevels level (first :: rest) mode nc := by
  constructor
  · intro row hdiscovers
    obtain ⟨node, hnode, haddress, hlevel⟩ := exists_mem_of_forall₂ hside.made
      (mem_uniqfyGenerator_iff.mpr hdiscovers)
    refine ⟨node, ?_, hlevel⟩
    rw [NodesCollection.getNode, ← Dict.mem_entries_iff, hside.entries, ← haddress]
    exact List.mem_cons_of_mem _ (List.mem_map_of_mem hnode)
  · intro address node hget
    rw [NodesCollection.getNode, ← Dict.mem_entries_iff, hside.entries] at hget
    rcases List.mem_cons.mp hget with heq | hmem
    · obtain ⟨-, rfl⟩ := Prod.mk.inj heq
      exact .inl hside.root_level
    · obtain ⟨other, hother, heq⟩ := List.mem_map.mp hmem
      obtain ⟨rfl, rfl⟩ := Prod.mk.inj heq
      obtain ⟨row, hrow, haddress, -⟩ := exists_mem_of_forall₂ hside.made.flip hother
      exact .inr ⟨row, mem_uniqfyGenerator_iff.mp hrow, haddress.symm⟩

end Nodes

/-! ## The two functions -/

/-- What a side is made from: the rows of `generate_nodes_edges` with a token type, or those of
`generate_nodes_edges_coinpath`. -/
inductive SideCall where
  | nodesEdges (tokenType : String) (result : List Transaction)
  | coinpath (result : List CoinpathRow)

namespace SideCall

/-- The rows as the nodes and edges are made from them. -/
def result (call : SideCall) (mode : Mode) : List Transaction :=
  match call with
  | .nodesEdges tokenType result => withAmounts result mode tokenType
  | .coinpath result => result.map CoinpathRow.toTransaction

/-- `assign_nodes` or `assign_nodes_btc_coinpath`. -/
def nodes (call : SideCall) (mode : Mode) : Except PyErr (NodesCollection × Dict String ℕ) :=
  match call with
  | .nodesEdges tokenType result => assignNodes (withAmounts result mode tokenType) mode tokenType
  | .coinpath result => assignNodesBtcCoinpath result mode

/-- The nodes and the edges of the side, as the shedding finds them. -/
def prepare (ops : FloatOps) (call : SideCall) (mode : Mode) :
    Except PyErr (NodesCollection × EdgeDict) := do
  let (nc, _) ← call.nodes mode
  let edges ← assignEdges ops (call.result mode) mode nc.getNodeEnum
  return (nc, edges)

/-- `generate_nodes_edges` or `generate_nodes_edges_coinpath`. -/
def generate (ops : FloatOps) (settings : ApiSettings) (call : SideCall) (mode : Mode)
    (buildLossyGraph : Bool) : Except PyErr (TrackResult × NodesCollection) :=
  match call with
  | .nodesEdges tokenType result =>
      generateNodesEdges ops settings result mode buildLossyGraph tokenType
  | .coinpath result => generateNodesEdgesCoinpath ops settings result mode buildLossyGraph

/-- The level of a node, by the depth of the row that discovered it. -/
def level (call : SideCall) (mode : Mode) : ℤ → ℤ :=
  match call with
  | .nodesEdges tokenType _ => outerLevel mode tokenType
  | .coinpath _ => fun depth => depth * mode.toInt

/-- The level and the group agree for a row of this depth. -/
def AgreesAt (call : SideCall) (mode : Mode) (depth : ℤ) : Prop :=
  match mode, call with
  | .distribution, _ => 0 ≤ depth
  | .source, .nodesEdges tokenType _ => upper tokenType = "ETH" ∧ -1 ≤ depth
  | .source, .coinpath _ => False

end SideCall

/-- The group of an edge whose first row has the given depth. -/
def groupNumber (mode : Mode) (depth : ℤ) : ℤ :=
  match mode with
  | .distribution => depth
  | .source => depth + 1

theorem shiftedDepth_eq (mode : Mode) (edge : Edge) :
    shiftedDepth mode edge = groupNumber mode edge.depth := by
  cases mode with
  | distribution => rfl
  | source => rfl

/-- **On the source side, only Ethereum has the offset of the groups in its levels.** -/
theorem agreesAt_iff (call : SideCall) (mode : Mode) (depth : ℤ) :
    call.AgreesAt mode depth ↔ |call.level mode depth| = groupNumber mode depth := by
  cases mode with
  | distribution =>
      have hlevel : call.level .distribution depth = depth := by
        cases call with
        | nodesEdges tokenType result => rfl
        | coinpath result => simp [SideCall.level, Mode.toInt]
      rw [hlevel, groupNumber, abs_eq_self]
      cases call with
      | nodesEdges tokenType result => rfl
      | coinpath result => rfl
  | source =>
      cases call with
      | nodesEdges tokenType result =>
          by_cases heth : upper tokenType = "ETH"
          · simp only [SideCall.AgreesAt, SideCall.level, outerLevel, groupNumber, heth, if_true,
              true_and, abs_neg, abs_eq_self]
            omega
          · simp only [SideCall.AgreesAt, SideCall.level, outerLevel, groupNumber, heth, if_false,
              false_and, abs_neg, false_iff]
            rcases abs_cases depth with ⟨habs, -⟩ | ⟨habs, -⟩
            · omega
            · omega
      | coinpath result =>
          simp only [SideCall.AgreesAt, SideCall.level, groupNumber, Mode.toInt, mul_neg, mul_one,
            abs_neg, false_iff]
          rcases abs_cases depth with ⟨habs, -⟩ | ⟨habs, -⟩
          · omega
          · omega

/-- The generator reads nothing of a row but its key. -/
theorem map_uniqfyGenerator {Row Row' : Type} (f : Row → Row') (addrKey : Row' → String)
    (exclusions : Finset String) (rows : List Row) :
    (uniqfyGenerator (fun row => addrKey (f row)) exclusions rows).map f =
      uniqfyGenerator addrKey exclusions (rows.map f) := by
  induction rows generalizing exclusions with
  | nil => rfl
  | cons row rows ih =>
      rw [List.map_cons, uniqfyGenerator, uniqfyGenerator]
      split
      · exact ih exclusions
      · rw [List.map_cons, ih]

theorem sideNodes_of_assignNodes {first : Transaction} {rest : List Transaction}
    {tokenType : String} {nc : NodesCollection} {counts : Dict String ℕ}
    (hnodes : assignNodes (first :: rest) mode tokenType = .ok (nc, counts)) :
    ∃ nodes, SideNodes (outerLevel mode tokenType) mode first rest (rootNode mode first) nodes nc ∧
      counts.values.sum = nodes.length := by
  obtain ⟨nodes, hloop, hsum⟩ := loopNodes_of_assignNodes hnodes
  refine ⟨nodes, ⟨hloop.toListed, rfl, rfl, rfl, hloop.made.imp fun row made hmade => ?_⟩, hsum⟩
  obtain ⟨number, hnode⟩ := hmade
  cases hnode
  exact madeFrom_outerNode mode tokenType number row

theorem sideNodes_of_assignNodesBtcCoinpath {first : CoinpathRow} {rest : List CoinpathRow}
    {nc : NodesCollection} {counts : Dict String ℕ}
    (hnodes : assignNodesBtcCoinpath (first :: rest) mode = .ok (nc, counts)) :
    ∃ root nodes, SideNodes (fun depth => depth * mode.toInt) mode first.toTransaction
      (rest.map CoinpathRow.toTransaction) root nodes nc := by
  obtain ⟨root, hroot, hresult⟩ := bind_eq_ok_iff.mp hnodes
  simp only [coinpathRoot, bind_eq_ok_iff] at hroot
  obtain ⟨annotationText, -, type, -, hroot⟩ := hroot
  obtain rfl := Except.ok.inj hroot
  obtain ⟨nodes, hloop, -⟩ := exists_loopNodes (makes_coinpathNode mode)
    (BTCNode.new 0 (mode.inner first.toTransaction) annotationText type 0 (some 0) none none)
    hresult
  refine ⟨_, nodes, hloop.toListed, rfl, rfl, rfl, ?_⟩
  rw [← List.map_cons, ← map_uniqfyGenerator, List.forall₂_map_left_iff]
  refine hloop.made.imp fun row made hmade => ?_
  obtain ⟨number, hnode⟩ := hmade
  exact (madeFrom_coinpathNode hnode).1

/-- **Both functions make their nodes in the same way.** -/
theorem SideCall.exists_sideNodes {call : SideCall} {nc : NodesCollection} {counts : Dict String ℕ}
    (hnodes : call.nodes mode = .ok (nc, counts)) :
    ∃ first rest root nodes, call.result mode = first :: rest ∧
      SideNodes (call.level mode) mode first rest root nodes nc := by
  cases call with
  | nodesEdges tokenType result =>
      change assignNodes (withAmounts result mode tokenType) mode tokenType =
        .ok (nc, counts) at hnodes
      cases hrows : withAmounts result mode tokenType with
      | nil =>
          rw [hrows] at hnodes
          cases hnodes
      | cons first rest =>
          rw [hrows] at hnodes
          obtain ⟨nodes, hside, -⟩ := sideNodes_of_assignNodes hnodes
          exact ⟨first, rest, rootNode mode first, nodes, hrows, hside⟩
  | coinpath result =>
      cases result with
      | nil => cases hnodes
      | cons first rest =>
          obtain ⟨root, nodes, hside⟩ := sideNodes_of_assignNodesBtcCoinpath hnodes
          exact ⟨first.toTransaction, rest.map CoinpathRow.toTransaction, root, nodes, rfl, hside⟩

/-! ## The depth of an edge -/

/-- The group numbers of the first rows of all edges. -/
def firstGroups (rows : List Transaction) (mode : Mode) : List ℤ :=
  (rows.filter fun row => rows.find? (fun other => other.pair = row.pair) = some row).map
    fun row => groupNumber mode row.depth

theorem mem_keys_groupByDepth_iff {ops : FloatOps} {nodeEnum : Dict String ℤ} {edges : EdgeDict}
    (hedges : assignEdges ops rows mode nodeEnum = .ok edges) (number : ℤ) :
    number ∈ (groupByDepth edges mode).keys ↔ number ∈ firstGroups rows mode := by
  rw [mem_keys_groupByDepth]
  constructor
  · rintro ⟨key, edge, hedge, rfl⟩
    have hdepth := (assignEdges_eq_ok hedges).2 key
    rw [hedge, Option.map_some] at hdepth
    obtain ⟨row, hfind, hrow⟩ := Option.map_eq_some_iff.mp hdepth.symm
    have hpair : row.pair = key := by simpa using List.find?_some hfind
    refine List.mem_map.mpr ⟨row, List.mem_filter.mpr ⟨List.mem_of_find?_eq_some hfind, ?_⟩, ?_⟩
    · rw [hpair]
      exact decide_eq_true hfind
    · rw [shiftedDepth_eq, hrow]
  · intro hmem
    obtain ⟨row, hrow, rfl⟩ := List.mem_map.mp hmem
    have hfind := of_decide_eq_true (List.mem_filter.mp hrow).2
    have hdepth := (assignEdges_eq_ok hedges).2 row.pair
    rw [hfind, Option.map_some] at hdepth
    obtain ⟨edge, hedge, hrow⟩ := Option.map_eq_some_iff.mp hdepth
    exact ⟨row.pair, edge, hedge, by rw [shiftedDepth_eq, hrow]⟩

/-! ## What the shedding needs to keep an edge -/

/-- What floating point numbers do with the first ratio of the table: times a positive number it is
positive, and times zero it is zero. -/
structure FirstShares (ops : FloatOps) : Prop where
  pos : ∀ maxDepth ratios ratio (n : ℕ), ratioDepth ops maxDepth = .ok ratios →
    listIndex ratios 0 = .ok ratio → 0 < n → 0 < ops.mul ratio n
  zero : ∀ ratio, ops.mul ratio 0 = 0

variable {ops : FloatOps} {settings : ApiSettings} {ratios : List ℚ}

/-- **If anything is shed at all, there is a group 1.** -/
theorem exists_group_one_of_shed {groups : List (ℤ × EdgeDict)} {limited result : EdgeDict}
    (hresult : limitGroups ops settings ratios groups limited = .ok result)
    (hempty : limited.keys = []) (hne : result.keys ≠ []) : 1 ∈ groups.map Prod.fst := by
  induction groups generalizing limited with
  | nil =>
      obtain rfl := Except.ok.inj hresult
      exact absurd hempty hne
  | cons entry groups ih =>
      obtain ⟨depth, group⟩ := entry
      obtain ⟨next, hnext, hrest⟩ := bind_eq_ok_iff.mp hresult
      by_cases hone : depth = 1
      · exact hone ▸ List.mem_cons_self
      · -- no edge touches what is kept, as nothing is
        obtain ⟨modified, rfl, hcandidates⟩ := limitGroup_eq_ok hnext
        have hmodified : modified = [] := by
          refine List.eq_nil_iff_forall_not_mem.mpr fun item hitem => ?_
          have hnone : ∀ address, address ∉ endpoints limited := by
            simp [mem_endpoints, hempty]
          rcases (hcandidates item hitem).2 hone with hend | hend
          · exact hnone _ hend
          · exact hnone _ hend
        rw [hmodified] at hrest
        exact List.mem_cons_of_mem _ (ih hrest hempty)

theorem keys_limitGroups_of_zero (hops : FirstShares ops) (hzero : settings.catvMaxScaledNodes = 0)
    {groups : List (ℤ × EdgeDict)} {limited result : EdgeDict}
    (hresult : limitGroups ops settings ratios groups limited = .ok result) :
    result.keys = limited.keys := by
  induction groups generalizing limited with
  | nil =>
      obtain rfl := Except.ok.inj hresult
      rfl
  | cons entry groups ih =>
      obtain ⟨depth, group⟩ := entry
      obtain ⟨next, hnext, hrest⟩ := bind_eq_ok_iff.mp hresult
      obtain ⟨ratio, -, hround⟩ := bind_eq_ok_iff.mp hnext
      obtain ⟨modified, htake, hupdate⟩ := bind_eq_ok_iff.mp hround
      rw [hzero, Nat.cast_zero, hops.zero, Int.ceil_zero] at htake
      have hmodified : modified = [] := (Except.ok.inj htake).symm
      obtain rfl := Except.ok.inj hupdate
      rw [ih hrest, hmodified]
      rfl

theorem mem_keys_limitGroups {groups : List (ℤ × EdgeDict)} {limited result : EdgeDict}
    (hresult : limitGroups ops settings ratios groups limited = .ok result)
    {key : String × String} (hkey : key ∈ limited.keys) : key ∈ result.keys := by
  induction groups generalizing limited with
  | nil =>
      obtain rfl := Except.ok.inj hresult
      exact hkey
  | cons entry groups ih =>
      obtain ⟨next, hnext, hrest⟩ := bind_eq_ok_iff.mp hresult
      obtain ⟨modified, rfl, -⟩ := limitGroup_eq_ok hnext
      exact ih hrest (Dict.mem_keys_update.mpr (.inl hkey))

theorem keys_limitGroups_ne_nil {groups : List (ℤ × EdgeDict)} {group limited result : EdgeDict}
    (hshare : ∀ ratio, listIndex ratios 0 = .ok ratio →
      0 < ops.mul ratio settings.catvMaxScaledNodes)
    (hgroup : (1, group) ∈ groups) (hne : group.entries ≠ [])
    (hresult : limitGroups ops settings ratios groups limited = .ok result) :
    result.keys ≠ [] := by
  induction groups generalizing limited with
  | nil => cases hgroup
  | cons entry groups ih =>
      obtain ⟨next, hnext, hrest⟩ := bind_eq_ok_iff.mp hresult
      rcases List.mem_cons.mp hgroup with rfl | hgroup
      · obtain ⟨ratio, hratio, hround⟩ := bind_eq_ok_iff.mp hnext
        obtain ⟨modified, htake, hupdate⟩ := bind_eq_ok_iff.mp hround
        have hcount : 0 < ⌈ops.mul ratio settings.catvMaxScaledNodes⌉ :=
          Int.ceil_pos.mpr (hshare ratio hratio)
        obtain ⟨item, rest, hitems⟩ := List.exists_cons_of_ne_nil hne
        obtain ⟨count, hcount'⟩ := Nat.exists_eq_succ_of_ne_zero
          (show (⌈ops.mul ratio settings.catvMaxScaledNodes⌉).toNat ≠ 0 by omega)
        have hmodified : modified = item :: rest.take count := by
          have htaken := Except.ok.inj ((if_neg (not_lt.mpr hcount.le)).symm.trans htake)
          rw [← htaken, hcount', hitems]
          rfl
        obtain rfl := Except.ok.inj hupdate
        have hkept : item.1 ∈ (limited.update (Dict.ofItems modified)).keys := by
          rw [Dict.mem_keys_update, Dict.mem_keys_ofItems, hmodified]
          exact .inr ⟨item, List.mem_cons_self, rfl⟩
        exact List.ne_nil_of_mem (mem_keys_limitGroups hrest hkept)
      · exact ih hgroup hrest

theorem limitConnectedEdges_eq_ok {groups : DepthGroups} {limited : EdgeDict}
    (hlimited : limitConnectedEdges ops settings groups = .ok limited) :
    ∃ maxDepth ratios, ratioDepth ops maxDepth = .ok ratios ∧
      limitGroups ops settings ratios groups.entries Dict.empty = .ok limited := by
  unfold limitConnectedEdges at hlimited
  split at hlimited
  · cases hlimited
  · rename_i maxDepth _
    obtain ⟨ratios, hratios, hgroups⟩ := bind_eq_ok_iff.mp hlimited
    exact ⟨maxDepth, ratios, hratios, hgroups⟩

/-- `make_lossy_graph` raises nothing and keeps some edges. -/
def ShedsSome (ops : FloatOps) (settings : ApiSettings) (nc : NodesCollection) (edges : EdgeDict)
    (mode : Mode) : Prop :=
  ∃ limited nodes nc', makeLossyGraph ops settings nc edges mode = .ok (limited, nodes, nc') ∧
    limited.entries ≠ []

/-- **The shedding keeps some edges exactly if the depths can be shed, one of them is 1, and there
is a share to keep.** -/
theorem shedsSome_iff (hops : FirstShares ops) (nc : NodesCollection) (edges : EdgeDict) :
    ShedsSome ops settings nc edges mode ↔ Sheddable (groupByDepth edges mode).keys ∧
      1 ∈ (groupByDepth edges mode).keys ∧ 0 < settings.catvMaxScaledNodes := by
  have hkeys : (sortPerDepth (groupByDepth edges mode)).keys = (groupByDepth edges mode).keys :=
    Dict.keys_map _ _
  have hentries : ∀ limited : EdgeDict, limited.entries ≠ [] ↔ limited.keys ≠ [] :=
    fun limited => (List.map_eq_nil_iff (f := Prod.fst)).not.symm
  constructor
  · rintro ⟨limited, nodes, nc', hgraph, hne⟩
    rw [hentries] at hne
    refine ⟨(exists_makeLossyGraph_iff ops settings nc edges mode).mp ⟨_, hgraph⟩, ?_, ?_⟩
    · obtain ⟨kept, hlimited, hreturn⟩ := bind_eq_ok_iff.mp hgraph
      cases hreturn
      obtain ⟨maxDepth, ratios, -, hgroups⟩ := limitConnectedEdges_eq_ok hlimited
      rw [← hkeys]
      exact exists_group_one_of_shed hgroups rfl hne
    · obtain ⟨kept, hlimited, hreturn⟩ := bind_eq_ok_iff.mp hgraph
      cases hreturn
      obtain ⟨maxDepth, ratios, -, hgroups⟩ := limitConnectedEdges_eq_ok hlimited
      by_contra hzero
      exact hne (keys_limitGroups_of_zero hops (by omega) hgroups)
  · rintro ⟨hshed, hone, hpos⟩
    obtain ⟨⟨limited, nodes, nc'⟩, hgraph⟩ :=
      (exists_makeLossyGraph_iff ops settings nc edges mode).mpr hshed
    refine ⟨limited, nodes, nc', hgraph, (hentries limited).mpr ?_⟩
    obtain ⟨kept, hlimited, hreturn⟩ := bind_eq_ok_iff.mp hgraph
    cases hreturn
    obtain ⟨maxDepth, ratios, hratios, hgroups⟩ := limitConnectedEdges_eq_ok hlimited
    obtain ⟨key, edge, hedge, hdepth⟩ := mem_keys_groupByDepth.mp hone
    obtain ⟨group, hgroup, hget⟩ := inGroup_groupByDepth.mpr ⟨hedge, hdepth⟩
    have hsorted : (sortPerDepth (groupByDepth edges mode)).get? 1 =
        some (Dict.ofItems (sortedItems group)) := by
      rw [sortPerDepth, Dict.get?_map, hgroup]
      rfl
    have hmem : key ∈ (Dict.ofItems (sortedItems group)).keys := by
      rw [Dict.mem_keys_ofItems]
      exact ⟨(key, edge), List.mem_mergeSort.mpr (Dict.mem_entries_iff.mpr hget), rfl⟩
    refine keys_limitGroups_ne_nil (fun ratio hratio => ?_) (Dict.mem_entries_iff.mpr hsorted)
      ((hentries _).mpr (List.ne_nil_of_mem hmem)) hgroups
    exact hops.pos maxDepth ratios ratio _ hratios hratio hpos

theorem firstShares_exact : FirstShares .exact where
  pos := by
    intro maxDepth ratios ratio n hratios hratio hn
    have hpos : ∀ x ∈ ratioTable, 0 < x := by simp [ratioTable]
    have hratioPos : 0 < ratio := by
      have hmem := mem_of_listIndex hratio
      unfold ratioDepth at hratios
      simp only [FloatOps.exact, List.map_id_fun, id_eq] at hratios
      split at hratios
      · split at hratios
        · cases hratios
        · obtain rfl := Except.ok.inj hratios
          obtain ⟨x, hx, rfl⟩ := List.mem_map.mp hmem
          have hsum : 0 < (sliceTo ratioTable maxDepth).sum :=
            List.sum_pos _ (fun y hy => hpos y (List.mem_of_mem_take hy)) (List.ne_nil_of_mem hx)
          exact div_pos (hpos x (List.mem_of_mem_take hx)) hsum
      · obtain rfl := Except.ok.inj hratios
        exact hpos ratio hmem
    exact mul_pos hratioPos (by exact_mod_cast hn)
  zero := fun ratio => mul_zero ratio

/-! ## Agreement -/

/-- The hop numbers of a side agree: an edge whose first row discovered its outer node is in the
group of the level of the node, in particular an edge of the first hop is in group 1, and if the
levels are within ten hops, the shedding raises nothing and keeps some edges. -/
structure HopNumbersAgree (ops : FloatOps) (settings : ApiSettings) (mode : Mode)
    (rows : List Transaction) (nc : NodesCollection) (edges : EdgeDict) : Prop where
  agree : ∀ key edge row node, edges.get? key = some edge →
    rows.find? (fun other => other.pair = key) = some row → Discovers rows mode row →
      nc.getNode (mode.outer row) = some node →
        InGroup (groupByDepth edges mode) |node.level| key edge
  firstHop : ∀ key edge row node, edges.get? key = some edge →
    rows.find? (fun other => other.pair = key) = some row → Discovers rows mode row →
      nc.getNode (mode.outer row) = some node → |node.level| = 1 →
        InGroup (groupByDepth edges mode) 1 key edge
  shed : (∀ address node, nc.getNode address = some node → -10 ≤ node.level ∧ node.level ≤ 10) →
    ShedsSome ops settings nc edges mode

/-- When they do: every row that discovers a node has a depth at which level and group agree, and if
these depths are within ten hops, the groups of all edges can be shed and group 1 is one of them. -/
structure HopsAgreeOn (settings : ApiSettings) (call : SideCall) (mode : Mode) : Prop where
  discovering : ∀ row, Discovers (call.result mode) mode row → call.AgreesAt mode row.depth
  shed : (∀ row, Discovers (call.result mode) mode row → groupNumber mode row.depth ≤ 10) →
    Sheddable (firstGroups (call.result mode) mode) ∧ 1 ∈ firstGroups (call.result mode) mode ∧
      0 < settings.catvMaxScaledNodes

theorem exists_edge_of_discovers {nodeEnum : Dict String ℤ} {edges : EdgeDict}
    (hedges : assignEdges ops rows mode nodeEnum = .ok edges) (hrow : Discovers rows mode row) :
    ∃ edge, edges.get? row.pair = some edge ∧ edge.depth = row.depth := by
  have hdepth := (assignEdges_eq_ok hedges).2 row.pair
  rw [hrow.find?_pair, Option.map_some] at hdepth
  exact Option.map_eq_some_iff.mp hdepth

theorem inGroup_iff_agreesAt {call : SideCall} {nodeEnum : Dict String ℤ} {edges : EdgeDict}
    {edge : Edge} {node : Node} (hlevels : HasLevels (call.level mode) rows mode nc)
    (hedges : assignEdges ops rows mode nodeEnum = .ok edges) (hrow : Discovers rows mode row)
    (hedge : edges.get? row.pair = some edge) (hnode : nc.getNode (mode.outer row) = some node) :
    InGroup (groupByDepth edges mode) |node.level| row.pair edge ↔
      call.AgreesAt mode row.depth := by
  obtain ⟨other, hother, hdepth⟩ := exists_edge_of_discovers hedges hrow
  obtain rfl := Option.some.inj (hother.symm.trans hedge)
  obtain ⟨found, hfound, hlevel⟩ := hlevels.discovered row hrow
  obtain rfl := Option.some.inj (hfound.symm.trans hnode)
  rw [inGroup_groupByDepth, shiftedDepth_eq, hdepth, hlevel, agreesAt_iff, and_iff_right hedge,
    eq_comm]

/-- Where levels and groups agree, the levels are within ten hops exactly if the groups are. -/
theorem levels_le_iff {call : SideCall} (hlevels : HasLevels (call.level mode) rows mode nc)
    (hagrees : ∀ row, Discovers rows mode row → call.AgreesAt mode row.depth) :
    (∀ address node, nc.getNode address = some node → -10 ≤ node.level ∧ node.level ≤ 10) ↔
      ∀ row, Discovers rows mode row → groupNumber mode row.depth ≤ 10 := by
  refine ⟨fun hrange row hrow => ?_, fun hrange address node hget => ?_⟩
  · obtain ⟨node, hnode, hlevel⟩ := hlevels.discovered row hrow
    rw [← (agreesAt_iff call mode row.depth).mp (hagrees row hrow), ← hlevel]
    exact abs_le.mpr (hrange _ node hnode)
  · rcases hlevels.only address node hget with hzero | ⟨row, hrow, rfl⟩
    · omega
    · obtain ⟨other, hother, hlevel⟩ := hlevels.discovered row hrow
      obtain rfl := Option.some.inj (hother.symm.trans hget)
      have habs := (agreesAt_iff call mode row.depth).mp (hagrees row hrow)
      rw [← hlevel] at habs
      exact abs_le.mp (habs ▸ hrange row hrow)

/-- **The levels of the nodes and the groups of their edges agree on no source side but that of
Ethereum.** -/
theorem hopNumbersAgree_iff {ops : FloatOps} (hops : FirstShares ops) (settings : ApiSettings)
    {call : SideCall} {mode : Mode} {nc : NodesCollection} {edges : EdgeDict}
    (hprepare : call.prepare ops mode = .ok (nc, edges)) :
    HopNumbersAgree ops settings mode (call.result mode) nc edges ↔
      HopsAgreeOn settings call mode := by
  obtain ⟨⟨collection, counts⟩, hnodes, hprepare'⟩ := bind_eq_ok_iff.mp hprepare
  obtain ⟨found, hedges, hreturn⟩ := bind_eq_ok_iff.mp hprepare'
  cases hreturn
  obtain ⟨first, rest, root, nodes, hresult, hside⟩ := SideCall.exists_sideNodes hnodes
  have hlevels : HasLevels (call.level mode) (call.result mode) mode nc := hresult ▸ hside.hasLevels
  have hgroups : Sheddable (groupByDepth edges mode).keys ↔
      Sheddable (firstGroups (call.result mode) mode) :=
    sheddable_congr fun depth => mem_keys_groupByDepth_iff hedges depth
  have hshed : ShedsSome ops settings nc edges mode ↔
      Sheddable (firstGroups (call.result mode) mode) ∧ 1 ∈ firstGroups (call.result mode) mode ∧
        0 < settings.catvMaxScaledNodes := by
    rw [shedsSome_iff hops, hgroups, mem_keys_groupByDepth_iff hedges]
  constructor
  · intro hagree
    have hagrees : ∀ row, Discovers (call.result mode) mode row →
        call.AgreesAt mode row.depth := by
      intro row hrow
      obtain ⟨edge, hedge, -⟩ := exists_edge_of_discovers hedges hrow
      obtain ⟨node, hnode, -⟩ := hlevels.discovered row hrow
      apply (inGroup_iff_agreesAt hlevels hedges hrow hedge hnode).mp
      exact hagree.agree row.pair edge row node hedge hrow.find?_pair hrow hnode
    exact ⟨hagrees, fun hrange =>
      hshed.mp (hagree.shed ((levels_le_iff hlevels hagrees).mpr hrange))⟩
  · intro hon
    have hagree : ∀ key edge row node, edges.get? key = some edge →
        (call.result mode).find? (fun other => other.pair = key) = some row →
          Discovers (call.result mode) mode row → nc.getNode (mode.outer row) = some node →
            InGroup (groupByDepth edges mode) |node.level| key edge := by
      intro key edge row node hedge hfind hrow hnode
      obtain rfl : row.pair = key := by simpa using List.find?_some hfind
      apply (inGroup_iff_agreesAt hlevels hedges hrow hedge hnode).mpr
      exact hon.discovering row hrow
    refine ⟨hagree, fun key edge row node hedge hfind hrow hnode hone => ?_, fun hrange => ?_⟩
    · exact hone ▸ hagree key edge row node hedge hfind hrow hnode
    · exact hshed.mpr (hon.shed ((levels_le_iff hlevels hon.discovering).mp hrange))

/-- The end of both functions, from the shedding on, raises nothing exactly if the shedding does
not, where there is one. -/
theorem exists_shed_iff {β : Type} {nc : NodesCollection} {edges : EdgeDict} {mode : Mode}
    {buildLossyGraph : Bool} {rest : EdgeDict × List Node × NodesCollection → Except PyErr β}
    (hrest : ∀ graph, ∃ side, rest graph = .ok side) :
    (∃ side, (if settings.catvGraphNodesCutoff < nc.count ∧ buildLossyGraph then
        makeLossyGraph ops settings nc edges mode >>= rest
        else pure (Dict.empty, [], nc) >>= rest) = .ok side) ↔
      (settings.catvGraphNodesCutoff < nc.count ∧ buildLossyGraph →
        Sheddable (groupByDepth edges mode).keys) := by
  by_cases hcutoff : settings.catvGraphNodesCutoff < nc.count ∧ buildLossyGraph
  · rw [if_pos hcutoff, forall_prop_of_true hcutoff, ← exists_makeLossyGraph_iff ops settings nc]
    refine ⟨fun ⟨side, hside⟩ => ?_, fun ⟨graph, hgraph⟩ => ?_⟩
    · obtain ⟨graph, hgraph, -⟩ := bind_eq_ok_iff.mp hside
      exact ⟨graph, hgraph⟩
    · obtain ⟨side, hside⟩ := hrest graph
      exact ⟨side, bind_eq_ok_iff.mpr ⟨graph, hgraph, hside⟩⟩
  · obtain ⟨side, hside⟩ := hrest (Dict.empty, [], nc)
    rw [if_neg hcutoff]
    exact iff_of_true ⟨side, hside⟩ fun h => absurd h hcutoff

/-- The side is made exactly if its nodes and edges are, and its shedding raises nothing. -/
theorem exists_generate_iff {call : SideCall} {mode : Mode} {buildLossyGraph : Bool} :
    (∃ side, call.generate ops settings mode buildLossyGraph = .ok side) ↔
      ∃ nc edges, call.prepare ops mode = .ok (nc, edges) ∧
        (settings.catvGraphNodesCutoff < nc.count ∧ buildLossyGraph →
          Sheddable (groupByDepth edges mode).keys) := by
  constructor
  · rintro ⟨side, hside⟩
    cases call with
    | nodesEdges tokenType result =>
        obtain ⟨first, -, hside⟩ := bind_eq_ok_iff.mp hside
        obtain ⟨⟨nc, counts⟩, hnodes, hside⟩ := bind_eq_ok_iff.mp hside
        obtain ⟨edges, hedges, hside⟩ := bind_eq_ok_iff.mp hside
        refine ⟨nc, edges, bind_eq_ok_iff.mpr ⟨_, hnodes, bind_eq_ok_iff.mpr ⟨_, hedges, rfl⟩⟩, ?_⟩
        exact (exists_shed_iff fun _ => ⟨_, rfl⟩).mp ⟨side, hside⟩
    | coinpath result =>
        obtain ⟨first, -, hside⟩ := bind_eq_ok_iff.mp hside
        obtain ⟨⟨nc, counts⟩, hnodes, hside⟩ := bind_eq_ok_iff.mp hside
        obtain ⟨edges, hedges, hside⟩ := bind_eq_ok_iff.mp hside
        refine ⟨nc, edges, bind_eq_ok_iff.mpr ⟨_, hnodes, bind_eq_ok_iff.mpr ⟨_, hedges, rfl⟩⟩, ?_⟩
        exact (exists_shed_iff fun _ => ⟨_, rfl⟩).mp ⟨side, hside⟩
  · rintro ⟨nc, edges, hprepare, hshed⟩
    obtain ⟨⟨nc', counts⟩, hnodes, hprepare⟩ := bind_eq_ok_iff.mp hprepare
    obtain ⟨edges', hedges, hreturn⟩ := bind_eq_ok_iff.mp hprepare
    cases hreturn
    cases call with
    | nodesEdges tokenType result =>
        cases result with
        | nil =>
            have hnil : withAmounts [] mode tokenType = [] := by simp [withAmounts, addMissingKeys]
            change assignNodes (withAmounts [] mode tokenType) mode tokenType = _ at hnodes
            rw [hnil] at hnodes
            cases hnodes
        | cons first rest =>
            obtain ⟨side, hside⟩ := (exists_shed_iff fun _ => ⟨_, rfl⟩).mpr hshed
            exact ⟨side, bind_eq_ok_iff.mpr ⟨first, rfl, bind_eq_ok_iff.mpr ⟨_, hnodes,
              bind_eq_ok_iff.mpr ⟨_, hedges, hside⟩⟩⟩⟩
    | coinpath result =>
        cases result with
        | nil => cases hnodes
        | cons first rest =>
            obtain ⟨side, hside⟩ := (exists_shed_iff fun _ => ⟨_, rfl⟩).mpr hshed
            exact ⟨side, bind_eq_ok_iff.mpr ⟨first, rfl, bind_eq_ok_iff.mpr ⟨_, hnodes,
              bind_eq_ok_iff.mpr ⟨_, hedges, hside⟩⟩⟩⟩

/-- A transfer to the wallet, one hop away on the source side. -/
def sampleSender : List Transaction := [sampleRow "LbFrom" "LbWallet" 3 1]

/-- On Litecoin the sender is at level -1, its edge in group 2, and no edge is kept. -/
theorem not_hopNumbersAgree_litecoin :
    ∃ nc edges,
      SideCall.prepare .exact (.nodesEdges "LTC" sampleSender) .source = .ok (nc, edges) ∧
      (nc.getNode "LbFrom").map Node.level = some (-1) ∧
      (groupByDepth edges .source).keys = [2] ∧
      ¬ HopNumbersAgree .exact ⟨500, 1000⟩ .source
        (SideCall.result (.nodesEdges "LTC" sampleSender) .source) nc edges := by
  refine ⟨_, _, rfl, rfl, rfl, fun hagree => ?_⟩
  have hdiscovers : Discovers (SideCall.result (.nodesEdges "LTC" sampleSender) .source) .source
      (sampleRow "LbFrom" "LbWallet" 3 1) := by
    refine ⟨rfl, fun first hfirst => ?_⟩
    obtain rfl : sampleRow "LbFrom" "LbWallet" 3 1 = first := Option.some.inj hfirst
    decide
  obtain ⟨group, hgroup, -⟩ :=
    hagree.agree ("LbFrom", "LbWallet") _ _ _ rfl rfl hdiscovers rfl
  cases hgroup

/-- On Ethereum the depth of such a transfer is 0. -/
theorem hopNumbersAgree_ethereum :
    ∃ nc edges,
      SideCall.prepare .exact (.nodesEdges "ETH" sampleSource) .source = .ok (nc, edges) ∧
      (HopNumbersAgree .exact ⟨500, 1000⟩ .source
          (SideCall.result (.nodesEdges "ETH" sampleSource) .source) nc edges ↔
        HopsAgreeOn ⟨500, 1000⟩ (.nodesEdges "ETH" sampleSource) .source) :=
  ⟨_, _, rfl, hopNumbersAgree_iff firstShares_exact ⟨500, 1000⟩ rfl⟩

end CatvService.Graph
