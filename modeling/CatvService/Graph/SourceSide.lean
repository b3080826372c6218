import CatvService.Graph.Report
import CatvService.Pipeline.Stages

/-!
# The source side of a report that Tracer serves

`TracerAPIInterface._process_response` negates the depths of inbound rows, and
`generate_nodes_edges` expects them as the other upstream sends them: it negates the levels of the
source side itself, and the depths of the item list as well.  So the sign of a Tracer row is turned
twice (`depth_itemList_sourceGraph`, `level_sourceGraph`): the senders of the wallet end up at the
levels of its receivers, one level short on Ethereum, where an offset is added to the negated depth.
-/

namespace CatvService.Graph

open Dictionary Pipeline PyText PyValue

/-! ## From the reply of Tracer to the report -/

/-- What the amounts of a row count as in the sums of the graph, a missing one included.  The graph
module reads them as numbers; nothing here depends on which. -/
abbrev Reading := Option Json → ℚ

/-- An amount of a row that may be missing. -/
def numberAt (reading : Reading) (key : String) (rest : Obj) : Option ℚ :=
  (Entries.get? key rest).map fun value => reading (some value)

/-- A text of a row. -/
def textAt (key : String) (rest : Obj) : String :=
  match Entries.get? key rest with
  | some (.str s) => s
  | _ => ""

/-- The keys of one end of a row. -/
def endInfo (reading : Reading) (side : String) (annotationText type : Option String)
    (rest : Obj) : EndInfo where
  annotation := annotationText
  type := type
  balance := numberAt reading (side ++ "_balance") rest
  amountIn := numberAt reading (side ++ "_amount_in") rest
  amountOut := numberAt reading (side ++ "_amount_out") rest

/-- A row of the pipeline as the graph module reads it. -/
def graphRow (reading : Reading) (row : Row) : Transaction where
  sender := row.sender
  receiver := row.receiver
  senderInfo := endInfo reading "sender" row.senderAnnotation row.senderType row.rest
  receiverInfo := endInfo reading "receiver" row.receiverAnnotation row.receiverType row.rest
  amount := reading (Entries.get? "amount" row.rest)
  sentAmount := reading (Entries.get? "sent_amount" row.rest)
  receivedAmount := reading (Entries.get? "received_amount" row.rest)
  txHash := row.txHash
  txTime := textAt "tx_time" row.rest
  depth := row.depth
  keys := ["depth", "tx_hash", "sender", "receiver"] ++ row.rest.map Prod.fst

/-- The rows that `get_transactions` returns for the source side of a report, when Tracer sends
`response`. -/
def sourceRows (response : List Row) : Except PyErr (List Row) := do
  let transformed ← (response.map (processTransaction true 0)).mapM transformTransaction
  return transformed.filter fun row => decide (row.receiver ≠ "")

/-- The source side of the report over these rows. -/
def sourceGraph (reading : Reading) (ops : FloatOps) (settings : ApiSettings) (tokenType : String)
    (buildLossyGraph : Bool) (response : List Row) :
    Except PyErr (TrackResult × NodesCollection) := do
  let rows ← sourceRows response
  generateNodesEdges ops settings (rows.map (graphRow reading)) .source buildLossyGraph tokenType

/-- The transfers of a reply that reach the report, as Tracer sent them. -/
def received (response : List Row) : List Row :=
  response.filter fun row => decide (row.receiver ≠ "")

/-- The source side of a report is on the source side: the level of every node but the wallet's is
the negated hop depth of the row that discovered it, and the item list has the negated hop
depths. -/
structure StaysOnSource (response : List Row) (track : TrackResult) (nc : NodesCollection) :
    Prop where
  levels : ∀ address node, nc.getNode address = some node →
    (received response).head?.map Row.receiver ≠ some address →
      ∃ raw, (received response).find? (fun raw => raw.sender = address) = some raw ∧
        node.level = -raw.depth ∧ node.level < 0
  items : List.Forall₂ (fun raw item => Transaction.depth item = -raw.depth ∧ item.depth < 0)
    (received response) track.itemList

/-! ## What the stages do to a depth -/

/-- These are the rows of `get_transactions`, as far as Tracer serves the chain and can be read. -/
theorem getTransactions_eq_sourceRows {chain : GraphQL.Chain} {answers : Answers} {tx : Row}
    {response rows : List Row} (hchain : usesTracerFirst chain = true)
    (hreply : answers.tracer = .transactions (tx :: response))
    (hrows : sourceRows (tx :: response) = .ok rows) :
    getTransactions chain false true answers = ⟨.rows rows, true⟩ := by
  simp only [sourceRows, bind_eq_ok_iff] at hrows
  obtain ⟨transformed, htransformed, hrows⟩ := hrows
  obtain rfl := Except.ok.inj hrows
  have hdata : tracerData answers true false =
      some (processTransaction true 0 tx :: response.map (processTransaction true 0)) := by
    simp [tracerData, hreply, processResponse]
  rw [List.map_cons] at htransformed
  unfold getTransactions
  simp only [hchain, if_true, hdata, htransformed]

/-- The rows of the report: the transfers of the reply, with negated depths. -/
theorem sourceRows_eq_ok {response rows : List Row} (hrows : sourceRows response = .ok rows) :
    rows = (received response).map fun raw =>
      settled transformTransaction (processTransaction true 0 raw) := by
  simp only [sourceRows, bind_eq_ok_iff] at hrows
  obtain ⟨transformed, htransformed, hrows⟩ := hrows
  obtain rfl := Except.ok.inj hrows
  obtain ⟨-, rfl⟩ := mapM_eq_ok_iff.mp htransformed
  have hreceiver : ∀ raw : Row,
      (settled transformTransaction (processTransaction true 0 raw)).receiver = raw.receiver :=
    fun raw => keepsKeys_transformTransaction.receiver _
  rw [List.map_map, List.filter_map, received]
  simp only [Function.comp_def, hreceiver]

/-- The row of the graph module for a transfer of the reply. -/
def sourceRow (reading : Reading) (raw : Row) : Transaction :=
  graphRow reading (settled transformTransaction (processTransaction true 0 raw))

@[simp] theorem sourceRow_sender (reading : Reading) (raw : Row) :
    (sourceRow reading raw).sender = raw.sender :=
  keepsKeys_transformTransaction.sender _

@[simp] theorem sourceRow_receiver (reading : Reading) (raw : Row) :
    (sourceRow reading raw).receiver = raw.receiver :=
  keepsKeys_transformTransaction.receiver _

@[simp] theorem sourceRow_depth (reading : Reading) (raw : Row) :
    (sourceRow reading raw).depth = -raw.depth := by
  calc (sourceRow reading raw).depth
      = (processTransaction true 0 raw).depth := depth_settled_transformTransaction _
    _ = -raw.depth := by simp [processTransaction]

theorem generateNodesEdges_eq_ok {ops : FloatOps} {settings : ApiSettings}
    {result : List Transaction} {mode : Mode} {buildLossyGraph : Bool} {tokenType : String}
    {track : TrackResult} {nc : NodesCollection}
    (hside : generateNodesEdges ops settings result mode buildLossyGraph tokenType =
      .ok (track, nc)) :
    result ≠ [] ∧
      track.itemList = (if mode = .source then
        shiftSourceDepth (withAmounts result mode tokenType) tokenType
        else withAmounts result mode tokenType) ∧
      ∃ all volumeCount, assignNodes (withAmounts result mode tokenType) mode tokenType =
        .ok (all, volumeCount) ∧ nc.nodes = all.nodes := by
  simp only [generateNodesEdges, bind_eq_ok_iff] at hside
  obtain ⟨first, hfirst, ⟨all, volumeCount⟩, hnodes, edges, -, hside⟩ := hside
  refine ⟨?_, ?_⟩
  · rintro rfl
    cases hfirst
  · split at hside
    · simp only [makeLossyGraph, bind_eq_ok_iff] at hside
      obtain ⟨_, ⟨limited, -, hlossy⟩, hside⟩ := hside
      cases hlossy
      cases hside
      exact ⟨rfl, all, volumeCount, hnodes, rfl⟩
    · cases hside
      exact ⟨rfl, all, volumeCount, hnodes, rfl⟩

/-- The number that the item list and the levels are short of the hop depth. -/
def depthDefect (tokenType : String) : ℤ :=
  if upper tokenType = "ETH" then 1 else 0

/-- The depth of an item: the hop depth, with the sign of the other side. -/
def shownDepth (tokenType : String) (raw : Row) : ℤ :=
  raw.depth - depthDefect tokenType

/-! ## Depths and levels of the report -/

variable {reading : Reading} {ops : FloatOps} {settings : ApiSettings} {tokenType : String}
  {buildLossyGraph : Bool} {response : List Row} {track : TrackResult} {nc : NodesCollection}

theorem sourceGraph_eq_ok
    (hgraph : sourceGraph reading ops settings tokenType buildLossyGraph response =
      .ok (track, nc)) :
    received response ≠ [] ∧ ∃ fill : Transaction → Transaction,
      (∀ row, (fill row).sender = row.sender ∧ (fill row).receiver = row.receiver ∧
        (fill row).depth = row.depth) ∧
      track.itemList =
        shiftSourceDepth ((received response).map fun raw => fill (sourceRow reading raw))
          tokenType ∧
      ∃ all volumeCount,
        assignNodes ((received response).map fun raw => fill (sourceRow reading raw)) .source
            tokenType = .ok (all, volumeCount) ∧ nc.nodes = all.nodes := by
  simp only [sourceGraph, bind_eq_ok_iff] at hgraph
  obtain ⟨rows, hrows, hside⟩ := hgraph
  have hresult : rows.map (graphRow reading) = (received response).map (sourceRow reading) := by
    rw [sourceRows_eq_ok hrows, List.map_map]
    rfl
  rw [hresult] at hside
  obtain ⟨hne, hitems, all, volumeCount, hnodes, hnc⟩ := generateNodesEdges_eq_ok hside
  obtain ⟨fill, hfill, hkeeps⟩ :=
    exists_withAmounts_eq_map ((received response).map (sourceRow reading)) .source tokenType
  rw [hfill, List.map_map] at hitems hnodes
  refine ⟨fun hnil => hne (by rw [hnil]; rfl), fill, hkeeps, hitems, all, volumeCount, hnodes, hnc⟩

/-- **The item list has the hop depths with the sign of the distribution side.** -/
theorem depth_itemList_sourceGraph
    (hgraph : sourceGraph reading ops settings tokenType buildLossyGraph response =
      .ok (track, nc)) :
    track.itemList.map Transaction.depth = (received response).map (shownDepth tokenType) := by
  obtain ⟨-, fill, hkeeps, hitems, -⟩ := sourceGraph_eq_ok hgraph
  rw [hitems, shiftSourceDepth, List.map_map, List.map_map]
  refine List.map_congr_left fun raw _ => ?_
  simp only [Function.comp_apply, shownDepth, depthDefect]
  split
  · simp only [(hkeeps _).2.2, sourceRow_depth]
    omega
  · simp only [(hkeeps _).2.2, sourceRow_depth]
    omega

/-- **Every node but the wallet's is at the level of a receiver of the wallet.** -/
theorem level_sourceGraph
    (hgraph : sourceGraph reading ops settings tokenType buildLossyGraph response =
      .ok (track, nc))
    {address : String} {node : Node} (hnode : nc.getNode address = some node)
    (hwallet : (received response).head?.map Row.receiver ≠ some address) :
    ∃ raw, (received response).find? (fun raw => raw.sender = address) = some raw ∧
      node.level = shownDepth tokenType raw := by
  obtain ⟨hne, fill, hkeeps, -, all, volumeCount, hnodes, hnc⟩ := sourceGraph_eq_ok hgraph
  rw [NodesCollection.getNode, hnc] at hnode
  cases hreceived : received response with
  | nil => exact absurd hreceived hne
  | cons first rest =>
      rw [hreceived] at hnodes hwallet
      have hinner : Mode.inner .source (fill (sourceRow reading first)) = first.receiver :=
        (hkeeps _).2.1.trans (sourceRow_receiver reading first)
      have hne : address ≠ Mode.inner .source (fill (sourceRow reading first)) := by
        rw [hinner]
        rintro rfl
        exact hwallet rfl
      obtain ⟨number, row, hfind, rfl⟩ := exists_outerNode_of_assignNodes hnodes hnode hne
      -- the row that discovered the node is that of the first transfer of its address
      have hfind' : ((first :: rest).map fun raw => fill (sourceRow reading raw)).find?
          (fun row => Mode.outer .source row = address) = some row := hfind
      rw [List.find?_map] at hfind'
      obtain ⟨raw, hraw, rfl⟩ := Option.map_eq_some_iff.mp hfind'
      have houter : ∀ raw, Mode.outer .source (fill (sourceRow reading raw)) = raw.sender :=
        fun raw => (hkeeps _).1.trans (sourceRow_sender reading raw)
      simp only [Function.comp_def, houter] at hraw
      refine ⟨raw, hraw, ?_⟩
      have hdepth : (fill (sourceRow reading raw)).depth = -raw.depth :=
        (hkeeps _).2.2.trans (sourceRow_depth reading raw)
      by_cases heth : upper tokenType = "ETH"
      · simp [outerNode, heth, Mode.toInt, Mode.depthOffset, Node.new, Node.setGroupFromAnnotation,
          hdepth, shownDepth, depthDefect]
        omega
      · simp [outerNode, heth, Mode.toInt, Mode.depthOffset, Node.new, Node.setGroupFromAnnotation,
          hdepth, shownDepth, depthDefect]

theorem not_shownDepth_eq_neg (tokenType : String) (raw : Row) :
    ¬ (shownDepth tokenType raw = -raw.depth ∧ shownDepth tokenType raw < 0) := by
  unfold shownDepth depthDefect
  split <;> omega

/-- **The source side of a report that Tracer serves never stays on the source side.** -/
theorem not_staysOnSource (reading : Reading) (ops : FloatOps) (settings : ApiSettings)
    (tokenType : String) (buildLossyGraph : Bool) (response : List Row) :
    ¬ ∃ track nc,
      sourceGraph reading ops settings tokenType buildLossyGraph response = .ok (track, nc) ∧
        StaysOnSource response track nc := by
  rintro ⟨track, nc, hgraph, hstays⟩
  have hdepths := depth_itemList_sourceGraph hgraph
  have hitems := hstays.items
  cases hreceived : received response with
  | nil => exact (sourceGraph_eq_ok hgraph).1 hreceived
  | cons first rest =>
      rw [hreceived] at hitems hdepths
      cases hlist : track.itemList with
      | nil =>
          rw [hlist] at hitems
          cases hitems
      | cons item items =>
          rw [hlist] at hitems hdepths
          obtain ⟨hneg, -⟩ := List.forall₂_cons.mp hitems
          obtain ⟨hfirst, -⟩ := List.cons.inj hdepths
          exact not_shownDepth_eq_neg tokenType first (hfirst ▸ hneg)

/-- A transfer to a wallet, one hop away. -/
def sampleHop : Row where
  depth := 1
  txHash := "0xf1"
  sender := "0xA"
  receiver := "0xW"
  senderAnnotation := none
  receiverAnnotation := none
  senderType := none
  receiverType := none
  rest := [("amount", .int 3), ("tx_time", .str "2023-05-01T10:20:30Z")]

/-- Whole numbers as they are. -/
def sampleReading : Reading
  | some (.int z) => z
  | _ => 0

/-- On BSC the sender of this transfer is at level 1, and the item has depth 1. -/
theorem not_staysOnSource_sampleHop :
    (∀ raw ∈ [sampleHop], 1 ≤ raw.depth) ∧
      ∃ track nc,
        sourceGraph sampleReading .exact ⟨500, 500⟩ "BSC" true [sampleHop] = .ok (track, nc) ∧
        (nc.getNode "0xA").map Node.level = some 1 ∧
          track.itemList.map Transaction.depth = [1] ∧ ¬ StaysOnSource [sampleHop] track nc := by
  refine ⟨by decide, _, _, rfl, ?_⟩
  refine ⟨rfl, rfl, fun hstays => ?_⟩
  obtain ⟨⟨-, hneg⟩, -⟩ := List.forall₂_cons.mp hstays.items
  exact absurd hneg (by decide)

end CatvService.Graph
