import CatvService.Graph.Report

/-!
# One side of a coinpath report

`generate_nodes_edges_coinpath` of `api/catvutils/graphtools.py`.  It differs from
`generate_nodes_edges` in its nodes: they have no group for contracts, the keys of the ends of a row
must be there, and the level of a node is the depth of its row on either side, without an offset.
-/

namespace CatvService.Graph

open Dictionary PyText PyValue

/-- A row of a coinpath: `tx_value_in` and `tx_value_out` besides the keys of the other rows. -/
structure CoinpathRow extends Transaction where
  txValueIn : Option ℚ
  txValueOut : Option ℚ
  deriving DecidableEq

/-- The prefix of the keys of the outer end. -/
def Mode.outerName : Mode → String
  | .distribution => "receiver"
  | .source => "sender"

/-- The prefix of the keys of the inner end. -/
def Mode.innerName : Mode → String
  | .distribution => "sender"
  | .source => "receiver"

/-- `row[key]`, where `value` is what the row has under the key. -/
def required {α : Type} (key : String) (value : Option α) : Except PyErr α :=
  match value with
  | some value => .ok value
  | none => .error (.keyError key)

/-- `BTCNode.set_group_from_annotation`. -/
def BTCNode.setGroupFromAnnotation (node : Node) : Node :=
  let annotationList := split ", " node.annotation
  { node with
    group :=
      if "Scamming" ∈ annotationList ∨ "Phishing" ∈ annotationList then "Suspicious"
      else if "Dex" ∈ annotationList ∨ contains "Exchange" node.annotation then "Exchange & DEX"
      else if node.annotation ≠ "" then "Annotated"
      else "No Tag" }

/-- `BTCNode(id=…, address=…, annotation=…, type=…, depth=…, balance=…, amount_in=…,
amount_out=…)`. -/
def BTCNode.new (id : ℤ) (address annotation type : String) (depth : ℤ)
    (balance amountIn amountOut : Option ℚ) : Node :=
  BTCNode.setGroupFromAnnotation
    (Node.new id address annotation type depth balance amountIn amountOut)

/-- The node of the outer end of a row. -/
def coinpathNode (mode : Mode) (counter : ℕ) (row : CoinpathRow) : Except PyErr Node := do
  let info := mode.outerInfo row.toTransaction
  let annotationText ← required (mode.outerName ++ "_annotation") info.annotation
  let type ← required (mode.outerName ++ "_type") info.type
  let amountIn ← required "tx_value_in" row.txValueIn
  let amountOut ← required "tx_value_out" row.txValueOut
  return BTCNode.new (mode.toInt * counter) (mode.outer row.toTransaction) annotationText type
    (row.depth * mode.toInt) (some (info.balance.getD 0)) (some amountIn) (some amountOut)

/-- The node of the wallet: the inner end of the first row. -/
def coinpathRoot (mode : Mode) (first : CoinpathRow) : Except PyErr Node := do
  let info := mode.innerInfo first.toTransaction
  let annotationText ← required (mode.innerName ++ "_annotation") info.annotation
  let type ← required (mode.innerName ++ "_type") info.type
  return BTCNode.new 0 (mode.inner first.toTransaction) annotationText type 0 (some 0) none none

/-- `assign_nodes_btc_coinpath(result, mode)`. -/
def assignNodesBtcCoinpath (result : List CoinpathRow) (mode : Mode) :
    Except PyErr (NodesCollection × Dict String ℕ) :=
  match result with
  | [] => .error .indexError
  | first :: _ => do
      let root ← coinpathRoot mode first
      addNodesWith (coinpathNode mode) (fun row => mode.inner row.toTransaction) 1
        (uniqfyGenerator (fun row => mode.outer row.toTransaction)
          {mode.inner first.toTransaction} result)
        (NodesCollection.empty.addNode root, Dict.empty)

/-- `depth_shift_btc(result, mode)`. -/
def depthShiftBtc (result : List Transaction) (mode : Mode) : List Transaction :=
  result.map fun row => { row with depth := row.depth * mode.toInt }

/-- `generate_nodes_edges_coinpath(result, mode, build_lossy_graph)`. -/
def generateNodesEdgesCoinpath (ops : FloatOps) (settings : ApiSettings)
    (result : List CoinpathRow) (mode : Mode) (buildLossyGraph : Bool) :
    Except PyErr (TrackResult × NodesCollection) := do
  let first ← listIndex result 0
  let (nc, volumeCount) ← assignNodesBtcCoinpath result mode
  let rows := result.map CoinpathRow.toTransaction
  let edges ← assignEdges ops rows mode nc.getNodeEnum
  let rows := if mode = .source then depthShiftBtc rows mode else rows
  let (limitedEdges, limitedNodes, nc) ←
    if settings.catvGraphNodesCutoff < nc.count ∧ buildLossyGraph then
      makeLossyGraph ops settings nc edges mode
    else pure (Dict.empty, [], nc)
  let limitedEdges := if limitedEdges.entries ≠ [] then limitedEdges else edges
  return (
    { itemList := rows
      nodeList := nc.nodes.values
      keys := first.keys
      nodeEnum := nc.getNodeEnum
      edgeList := edges.values
      volumeCount := volumeCount
      graphNodeList := limitedNodes
      graphEdgeList := limitedEdges.values },
    nc)

/-! ## The nodes that a side gets -/

/-- The node is that of the outer end of the row, at the given level. -/
def MadeFrom (mode : Mode) (level : ℤ → ℤ) (row : Transaction) (node : Node) : Prop :=
  node.address = mode.outer row ∧ node.level = level row.depth

/-- The level of a node of `assign_nodes`, by the depth of its row. -/
def outerLevel (mode : Mode) (tokenType : String) (depth : ℤ) : ℤ :=
  match mode with
  | .distribution => depth
  | .source => if upper tokenType = "ETH" then -(depth + 1) else -depth

theorem madeFrom_outerNode (mode : Mode) (tokenType : String) (counter : ℕ) (row : Transaction) :
    MadeFrom mode (outerLevel mode tokenType) row (outerNode mode tokenType counter row) := by
  refine ⟨outerNode_address mode tokenType counter row, ?_⟩
  cases mode with
  | distribution =>
      simp [outerNode, outerLevel, Node.new, Node.setGroupFromAnnotation, Mode.toInt,
        Mode.depthOffset]
  | source =>
      by_cases heth : upper tokenType = "ETH"
      · simp [outerNode, outerLevel, heth, Node.new, Node.setGroupFromAnnotation, Mode.toInt,
          Mode.depthOffset]
      · simp [outerNode, outerLevel, heth, Node.new, Node.setGroupFromAnnotation, Mode.toInt,
          Mode.depthOffset]

theorem madeFrom_coinpathNode {mode : Mode} {counter : ℕ} {row : CoinpathRow} {node : Node}
    (hnode : coinpathNode mode counter row = .ok node) :
    MadeFrom mode (fun depth => depth * mode.toInt) row.toTransaction node ∧
      node.id = mode.toInt * counter := by
  simp only [coinpathNode, bind_eq_ok_iff] at hnode
  obtain ⟨annotationText, -, type, -, amountIn, -, amountOut, -, hnode⟩ := hnode
  obtain rfl := Except.ok.inj hnode
  exact ⟨⟨rfl, rfl⟩, rfl⟩

theorem makes_coinpathNode (mode : Mode) :
    Makes mode (fun row => mode.outer row.toTransaction) (coinpathNode mode) where
  id := fun _ _ _ hnode => (madeFrom_coinpathNode hnode).2
  address := fun _ _ _ hnode => (madeFrom_coinpathNode hnode).1.1

end CatvService.Graph
