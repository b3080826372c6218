import CatvService.Library.Dict
import CatvService.Library.Value
import Mathlib.Algebra.Order.Group.Unbundled.Abs
import Mathlib.Data.Finset.Card

/-!
# The nodes of a report graph

`Node`, `NodesCollection` and `assign_nodes` of `api/catvutils/graphtools.py`.

A collection is an insertion-ordered dictionary from addresses to node objects.  An object may sit
under two keys, so an update of the object is an update of all entries that hold it; the `id` of a
node tells the objects of one collection apart.

The first entry is always the wallet of the first row, with id 0 (`Rooted`), and every other entry
is the outer end of some row.
-/

namespace CatvService.Graph

open Dictionary PyText PyValue

/-- The keys of a row that start with `sender_` or with `receiver_`. -/
structure EndInfo where
  annotation : Option String
  type : Option String
  balance : Option ℚ
  amountIn : Option ℚ
  amountOut : Option ℚ
  deriving DecidableEq

/-- A row of a tracking result.  `sentAmount` and `receivedAmount` are the amounts of the rows of
chains whose rows come without `amount`; `keys` is the list of the row's keys. -/
structure Transaction where
  sender : String
  receiver : String
  senderInfo : EndInfo
  receiverInfo : EndInfo
  amount : ℚ
  sentAmount : ℚ
  receivedAmount : ℚ
  txHash : String
  txTime : String
  depth : ℤ
  keys : List String
  deriving DecidableEq

/-- A row of a chain whose rows come with `amount`, without annotations. -/
def sampleRow (sender receiver : String) (amount : ℚ) (depth : ℤ) : Transaction where
  sender := sender
  receiver := receiver
  senderInfo := ⟨none, none, none, none, none⟩
  receiverInfo := ⟨none, none, none, none, none⟩
  amount := amount
  sentAmount := amount
  receivedAmount := amount
  txHash := "0xf1"
  txTime := "2023-05-01T10:20:30"
  depth := depth
  keys := ["sender", "receiver", "amount", "depth", "tx_hash", "tx_time"]

/-- `mode`: 1 for the distribution side, -1 for the source side. -/
inductive Mode where
  | distribution
  | source
  deriving DecidableEq, Repr

namespace Mode

/-- The number that the code uses. -/
def toInt : Mode → ℤ
  | .distribution => 1
  | .source => -1

/-- `row[inner]`. -/
def inner (mode : Mode) (row : Transaction) : String :=
  match mode with
  | .distribution => row.sender
  | .source => row.receiver

/-- `row[outer]`. -/
def outer (mode : Mode) (row : Transaction) : String :=
  match mode with
  | .distribution => row.receiver
  | .source => row.sender

def innerInfo (mode : Mode) (row : Transaction) : EndInfo :=
  match mode with
  | .distribution => row.senderInfo
  | .source => row.receiverInfo

def outerInfo (mode : Mode) (row : Transaction) : EndInfo :=
  match mode with
  | .distribution => row.receiverInfo
  | .source => row.senderInfo

/-- `DIST_DEPTH_OFFSET` or `SOURCE_DEPTH_OFFSET`. -/
def depthOffset : Mode → ℤ
  | .distribution => 0
  | .source => 1

end Mode

/-- An entry of the list of indicators that `RPCClientCATVFetchIndicators` sends; `uid` as text. -/
structure Indicator where
  pattern : String
  uid : String
  securityCategory : String
  patternType : String
  patternSubtype : String
  annotation : Option String
  deriving DecidableEq

/-- A node object. -/
structure Node where
  id : ℤ
  address : String
  annotation : String
  type : String
  level : ℤ
  label : String
  balance : Option ℚ
  amountIn : Option ℚ
  amountOut : Option ℚ
  trdbInfo : Option Indicator
  group : String
  deriving DecidableEq

/-- `Node.set_group_from_annotation`. -/
def Node.setGroupFromAnnotation (node : Node) : Node :=
  let annotationList := split ", " node.annotation
  { node with
    group :=
      if "Scamming" ∈ annotationList ∨ "Phishing" ∈ annotationList then "Suspicious"
      else if "Dex" ∈ annotationList ∨ contains "Exchange" node.annotation then "Exchange & DEX"
      else if node.type ≠ "Wallet" then "Smart Contract"
      else if node.annotation ≠ "" then "Annotated"
      else "No Tag" }

/-- `Node(id=…, address=…, annotation=…, type=…, depth=…, balance=…, amount_in=…, amount_out=…)`. -/
def Node.new (id : ℤ) (address annotation type : String) (depth : ℤ)
    (balance amountIn amountOut : Option ℚ) : Node :=
  Node.setGroupFromAnnotation
    { id := id
      address := address
      annotation := annotation
      type := type
      level := depth
      label := takeChars 8 address
      balance := balance
      amountIn := amountIn
      amountOut := amountOut
      trdbInfo := none
      group := "" }

/-- `NodesCollection`. -/
structure NodesCollection where
  nodes : Dict String Node
  edgeKeys : Finset String

namespace NodesCollection

def empty : NodesCollection :=
  ⟨Dict.empty, ∅⟩

def count (nc : NodesCollection) : ℕ :=
  nc.nodes.entries.length

/-- `nc.get_node(address)`. -/
def getNode (nc : NodesCollection) (address : String) : Option Node :=
  nc.nodes.get? address

/-- `nc.add_node(node)`. -/
def addNode (nc : NodesCollection) (node : Node) : NodesCollection :=
  { nc with nodes := nc.nodes.set node.address node }

/-- `nc.get_node_enum()`. -/
def getNodeEnum (nc : NodesCollection) : Dict String ℤ :=
  nc.nodes.map Node.id

/-- `nc.update_node(key, node)`. -/
def updateNode (nc : NodesCollection) (key : String) (node : Node) : NodesCollection :=
  { nc with nodes := nc.nodes.set key node }

/-- The object that `node` stands for becomes `node`, under every key that holds it. -/
def modify (nc : NodesCollection) (node : Node) : NodesCollection :=
  { nc with nodes := nc.nodes.map fun other => if other.id = node.id then node else other }

/-- `nc.filter_update_nodes()`. -/
def filterUpdateNodes (nc : NodesCollection) : NodesCollection :=
  if nc.edgeKeys.Nonempty then
    { nc with nodes := nc.nodes.filter fun entry => entry.1 ∈ nc.edgeKeys }
  else nc

end NodesCollection

/-- `uniqfy_generator(seq, addr_key, exclusions)`: the rows whose key has not been seen. -/
def uniqfyGenerator {Row : Type} (addrKey : Row → String) : Finset String → List Row → List Row
  | _, [] => []
  | exclusions, row :: rows =>
      if addrKey row ∈ exclusions then uniqfyGenerator addrKey exclusions rows
      else row :: uniqfyGenerator addrKey (insert (addrKey row) exclusions) rows

/-- The node of the outer end of a row. -/
def outerNode (mode : Mode) (tokenType : String) (counter : ℕ) (row : Transaction) : Node :=
  let info := mode.outerInfo row
  let node := Node.new (mode.toInt * counter) (mode.outer row) (info.annotation.getD "")
    (info.type.getD "Wallet") ((row.depth + mode.depthOffset) * mode.toInt)
    (some |info.balance.getD 0|) (some |info.amountIn.getD 0|) (some |info.amountOut.getD 0|)
  if mode = .source ∧ upper tokenType ≠ "ETH" then { node with level := node.level + 1 }
  else node

/-- The loop of `assign_nodes` and of its variants over the rows that `uniqfy_generator` yields, for
nodes of any kind: the collection and the counts of the inner ends. -/
def addNodesWith {Row : Type} (node : ℕ → Row → Except PyErr Node) (inner : Row → String) :
    ℕ → List Row → NodesCollection × Dict String ℕ →
      Except PyErr (NodesCollection × Dict String ℕ)
  | _, [], state => .ok state
  | counter, row :: rows, (nc, volumeCount) => do
      let made ← node counter row
      addNodesWith node inner (counter + 1) rows
        (nc.addNode made,
          volumeCount.set (inner row) ((volumeCount.get? (inner row)).getD 0 + 1))

/-- The node of the wallet: the inner end of the first row. -/
def rootNode (mode : Mode) (first : Transaction) : Node :=
  let info := mode.innerInfo first
  Node.new 0 (mode.inner first) (info.annotation.getD "") (info.type.getD "Wallet") 0 none none none

/-- `assign_nodes(result, mode, token_type)`. -/
def assignNodes (result : List Transaction) (mode : Mode) (tokenType : String) :
    Except PyErr (NodesCollection × Dict String ℕ) :=
  match result with
  | [] => .error .indexError
  | first :: _ =>
      addNodesWith (fun counter row => .ok (outerNode mode tokenType counter row)) mode.inner 1
        (uniqfyGenerator mode.outer {mode.inner first} result)
        (NodesCollection.empty.addNode (rootNode mode first), Dict.empty)

/-! ## The rows that the generator yields -/

theorem outer_notMem_of_mem_uniqfyGenerator {Row : Type} {addrKey : Row → String}
    {exclusions : Finset String} {rows : List Row} {row : Row}
    (hmem : row ∈ uniqfyGenerator addrKey exclusions rows) : addrKey row ∉ exclusions := by
  induction rows generalizing exclusions with
  | nil => cases hmem
  | cons head rows ih =>
      unfold uniqfyGenerator at hmem
      split at hmem
      · exact ih hmem
      · rename_i hnew
        rcases List.mem_cons.mp hmem with rfl | hmem
        · exact hnew
        · exact fun h => ih hmem (Finset.mem_insert_of_mem h)

/-- The generator yields no other rows. -/
theorem mem_of_mem_uniqfyGenerator {Row : Type} {addrKey : Row → String}
    {exclusions : Finset String} {rows : List Row} {row : Row}
    (hmem : row ∈ uniqfyGenerator addrKey exclusions rows) : row ∈ rows := by
  induction rows generalizing exclusions with
  | nil => cases hmem
  | cons head rows ih =>
      unfold uniqfyGenerator at hmem
      split at hmem
      · exact List.mem_cons_of_mem _ (ih hmem)
      · rcases List.mem_cons.mp hmem with rfl | hmem
        · exact List.mem_cons_self
        · exact List.mem_cons_of_mem _ (ih hmem)

/-- The generator leaves out no key that it was not told to leave out. -/
theorem exists_mem_uniqfyGenerator {Row : Type} {addrKey : Row → String}
    {exclusions : Finset String} {rows : List Row} {row : Row} (hmem : row ∈ rows)
    (hnew : addrKey row ∉ exclusions) :
    ∃ other ∈ uniqfyGenerator addrKey exclusions rows, addrKey other = addrKey row := by
  induction rows generalizing exclusions with
  | nil => cases hmem
  | cons head rows ih =>
      unfold uniqfyGenerator
      split
      · rename_i hseen
        rcases List.mem_cons.mp hmem with rfl | hmem
        · exact absurd hseen hnew
        · exact ih hmem hnew
      · by_cases hkey : addrKey row = addrKey head
        · exact ⟨head, List.mem_cons_self, hkey.symm⟩
        · rcases List.mem_cons.mp hmem with rfl | hmem
          · exact absurd rfl hkey
          · have hnew' : addrKey row ∉ insert (addrKey head) exclusions := by
              simp [hkey, hnew]
            obtain ⟨other, hother, heq⟩ := ih hmem hnew'
            exact ⟨other, List.mem_cons_of_mem _ hother, heq⟩

theorem exists_mem_of_forall₂ {α β : Type} {R : α → β → Prop} {xs : List α} {ys : List β} {x : α}
    (hxs : List.Forall₂ R xs ys) (hx : x ∈ xs) : ∃ y ∈ ys, R x y := by
  induction hxs with
  | nil => cases hx
  | cons hfirst _ ih =>
      rcases List.mem_cons.mp hx with rfl | hx
      · exact ⟨_, List.mem_cons_self, hfirst⟩
      · obtain ⟨y, hy, hrel⟩ := ih hx
        exact ⟨y, List.mem_cons_of_mem _ hy, hrel⟩

theorem nodup_uniqfyGenerator {Row : Type} (addrKey : Row → String) (exclusions : Finset String)
    (rows : List Row) :
    ((uniqfyGenerator addrKey exclusions rows).map addrKey).Nodup := by
  induction rows generalizing exclusions with
  | nil => exact List.nodup_nil
  | cons row rows ih =>
      unfold uniqfyGenerator
      split
      · exact ih exclusions
      · rw [List.map_cons, List.nodup_cons]
        refine ⟨fun hmem => ?_, ih _⟩
        obtain ⟨other, hother, heq⟩ := List.mem_map.mp hmem
        exact outer_notMem_of_mem_uniqfyGenerator hother (heq ▸ Finset.mem_insert_self _ _)

/-- The generator yields the first row of every key. -/
theorem find?_uniqfyGenerator {Row : Type} {addrKey : Row → String} {exclusions : Finset String}
    {key : String} (hnew : key ∉ exclusions) (rows : List Row) :
    (uniqfyGenerator addrKey exclusions rows).find? (fun row => addrKey row = key) =
      rows.find? fun row => addrKey row = key := by
  induction rows generalizing exclusions with
  | nil => rfl
  | cons row rows ih =>
      unfold uniqfyGenerator
      split
      · rename_i hseen
        have hne : addrKey row ≠ key := fun heq => hnew (heq ▸ hseen)
        rw [ih hnew, List.find?_cons_of_neg (by simpa using hne)]
      · by_cases heq : addrKey row = key
        · rw [List.find?_cons_of_pos (by simpa using heq),
            List.find?_cons_of_pos (by simpa using heq)]
        · have hnew' : key ∉ insert (addrKey row) exclusions := by
            simp [Ne.symm heq, hnew]
          rw [List.find?_cons_of_neg (by simpa using heq),
            List.find?_cons_of_neg (by simpa using heq), ih hnew']

theorem find?_of_mem_uniqfyGenerator {Row : Type} {addrKey : Row → String}
    {exclusions : Finset String} {rows : List Row} {row : Row}
    (hmem : row ∈ uniqfyGenerator addrKey exclusions rows) :
    rows.find? (fun other => addrKey other = addrKey row) = some row := by
  rw [← find?_uniqfyGenerator (outer_notMem_of_mem_uniqfyGenerator hmem)]
  have hnodup := nodup_uniqfyGenerator addrKey exclusions rows
  obtain ⟨before, after, hsplit⟩ := List.append_of_mem hmem
  rw [hsplit, List.map_append, List.map_cons] at hnodup
  rw [hsplit, List.find?_eq_some_iff_append]
  refine ⟨by simp, before, after, rfl, fun other hother => ?_⟩
  have hdisjoint := (List.nodup_append.mp hnodup).2.2
  simpa using hdisjoint _ (List.mem_map_of_mem hother) _ List.mem_cons_self

/-! ## What a loop adds -/

/-- The ids that a loop gives. -/
def numbers (mode : Mode) (counter count : ℕ) : List ℤ :=
  (List.range' counter count).map fun n : ℕ => mode.toInt * n

theorem numbers_succ (mode : Mode) (counter count : ℕ) :
    numbers mode counter (count + 1) = mode.toInt * counter :: numbers mode (counter + 1) count :=
  rfl

theorem numbers_pos {mode : Mode} {counter count : ℕ} (hcounter : 0 < counter) {number : ℤ}
    (hnumber : number ∈ numbers mode counter count) : 0 < mode.toInt * number := by
  obtain ⟨n, hn, rfl⟩ := List.mem_map.mp hnumber
  have hle : counter ≤ n := (List.mem_range'_1.mp hn).1
  cases mode with
  | distribution =>
      simp only [Mode.toInt, one_mul]
      omega
  | source =>
      simp only [Mode.toInt, neg_mul, one_mul, neg_neg]
      omega

theorem nodup_numbers (mode : Mode) (counter count : ℕ) : (numbers mode counter count).Nodup := by
  have hrange : (List.range' counter count).Nodup := List.nodup_range'
  refine hrange.map fun m n hmn => ?_
  cases mode with
  | distribution => simpa [Mode.toInt] using hmn
  | source => simpa [Mode.toInt] using hmn

/-- What a collection that was made by `add_node` is: its keys are the addresses of its nodes, and
the ids are distinct. -/
structure Valid (nc : NodesCollection) : Prop where
  address : ∀ key node, nc.getNode key = some node → node.address = key
  ids : (nc.nodes.values.map Node.id).Nodup

/-- Two keys of one id are one key. -/
theorem Valid.key_eq {nc : NodesCollection} (hvalid : Valid nc) {key other : String}
    {node found : Node} (hkey : nc.getNode key = some node) (hother : nc.getNode other = some found)
    (hid : node.id = found.id) : key = other := by
  have hids := hvalid.ids
  rw [Dict.values, List.map_map] at hids
  have hentries := List.inj_on_of_nodup_map hids (Dict.mem_entries_iff.mpr hkey)
    (Dict.mem_entries_iff.mpr hother) hid
  exact congrArg Prod.fst hentries

/-- The collection starts with the wallet, which has id 0. -/
structure Rooted (nodes : Dict String Node) (wallet : String) : Prop where
  head : nodes.keys.head? = some wallet
  root : (nodes.get? wallet).map Node.id = some 0

theorem nodes_foldl_addNode (nodes : List Node) (nc : NodesCollection) :
    (nodes.foldl NodesCollection.addNode nc).nodes =
      (nodes.map fun node => (node.address, node)).foldl (fun d item => d.set item.1 item.2)
        nc.nodes := by
  induction nodes generalizing nc with
  | nil => rfl
  | cons node nodes ih => exact ih (nc.addNode node)

theorem edgeKeys_foldl_addNode (nodes : List Node) (nc : NodesCollection) :
    (nodes.foldl NodesCollection.addNode nc).edgeKeys = nc.edgeKeys := by
  induction nodes generalizing nc with
  | nil => rfl
  | cons node nodes ih => exact ih (nc.addNode node)

section Loop

variable {Row : Type} {mode : Mode} {outer inner : Row → String}
  {node : ℕ → Row → Except PyErr Node} {rows : List Row} {root : Node} {nodes : List Node}
  {nc : NodesCollection} {counts : Dict String ℕ}

/-- What is made from a row is a node of its outer end with the number of the counter. -/
structure Makes (mode : Mode) (outer : Row → String) (node : ℕ → Row → Except PyErr Node) :
    Prop where
  id : ∀ counter row made, node counter row = .ok made → made.id = mode.toInt * counter
  address : ∀ counter row made, node counter row = .ok made → made.address = outer row

theorem exists_addNodesWith (hnode : ∀ counter row, ∃ made, node counter row = .ok made)
    (inner : Row → String) (rows : List Row) (counter : ℕ)
    (state : NodesCollection × Dict String ℕ) :
    ∃ after, addNodesWith node inner counter rows state = .ok after := by
  induction rows generalizing counter state with
  | nil => exact ⟨state, rfl⟩
  | cons row rows ih =>
      obtain ⟨made, hmade⟩ := hnode counter row
      obtain ⟨after, hafter⟩ := ih (counter + 1) (state.1.addNode made,
        state.2.set (inner row) ((state.2.get? (inner row)).getD 0 + 1))
      exact ⟨after, bind_eq_ok_iff.mpr ⟨made, hmade, hafter⟩⟩

/-- **What a loop does**, unless it raises: it makes a node for each row, adds the nodes one after
another, and counts one for each of them. -/
theorem addNodesWith_eq_ok (hmakes : Makes mode outer node) {counter : ℕ}
    {before after : NodesCollection × Dict String ℕ}
    (hresult : addNodesWith node inner counter rows before = .ok after) :
    ∃ nodes, List.Forall₂ (fun row made => ∃ number, node number row = .ok made) rows nodes ∧
      nodes.map Node.id = numbers mode counter rows.length ∧
      after.1 = nodes.foldl NodesCollection.addNode before.1 ∧
      after.2.values.sum = before.2.values.sum + rows.length := by
  induction rows generalizing counter before with
  | nil =>
      cases hresult
      exact ⟨[], .nil, rfl, rfl, rfl⟩
  | cons row rows ih =>
      obtain ⟨made, hmade, hrest⟩ := bind_eq_ok_iff.mp hresult
      obtain ⟨nodes, hnodes, hids, hcollection, hsum⟩ := ih hrest
      refine ⟨made :: nodes, .cons ⟨counter, hmade⟩ hnodes, ?_, hcollection, ?_⟩
      · rw [List.map_cons, hmakes.id counter row made hmade, hids, List.length_cons, numbers_succ]
      · rw [hsum, Dict.sum_values_increment, List.length_cons]
        omega

/-- The collection has the node of the wallet and then the others, numbered from 1 on, each under
its address. -/
structure Listed (mode : Mode) (root : Node) (nodes : List Node) (nc : NodesCollection) : Prop where
  ids : nodes.map Node.id = numbers mode 1 nodes.length
  entries : nc.nodes.entries = (root.address, root) :: nodes.map fun node => (node.address, node)

/-- What a loop leaves beside the node of the wallet: one node for each row that the generator
yields, in their order. -/
structure LoopNodes (mode : Mode) (outer : Row → String) (node : ℕ → Row → Except PyErr Node)
    (rows : List Row) (root : Node) (nodes : List Node) (nc : NodesCollection) : Prop
    extends Listed mode root nodes nc where
  made : List.Forall₂ (fun row made => ∃ number, node number row = .ok made)
    (uniqfyGenerator outer {root.address} rows) nodes
  edgeKeys : nc.edgeKeys = ∅

theorem map_address_of_forall₂
    (hmade : List.Forall₂ (fun row made => made.address = outer row) rows nodes) :
    nodes.map Node.address = rows.map outer := by
  induction hmade with
  | nil => rfl
  | cons hfirst _ ih => rw [List.map_cons, List.map_cons, hfirst, ih]

theorem Makes.map_address (hmakes : Makes mode outer node)
    (hmade : List.Forall₂ (fun row made => ∃ number, node number row = .ok made) rows nodes) :
    nodes.map Node.address = rows.map outer := by
  refine map_address_of_forall₂ (hmade.imp fun row made hnode => ?_)
  obtain ⟨number, hnode⟩ := hnode
  exact hmakes.address number row made hnode

/-- The loop of an `assign_nodes`, which starts with the node of the wallet. -/
theorem exists_loopNodes (hmakes : Makes mode outer node) (root : Node)
    (hresult : addNodesWith node inner 1 (uniqfyGenerator outer {root.address} rows)
      (NodesCollection.empty.addNode root, Dict.empty) = .ok (nc, counts)) :
    ∃ nodes, LoopNodes mode outer node rows root nodes nc ∧ counts.values.sum = nodes.length := by
  obtain ⟨nodes, hmade, hids, hcollection, hsum⟩ := addNodesWith_eq_ok hmakes hresult
  have haddresses := hmakes.map_address hmade
  have hkeys : (nodes.map fun node => (node.address, node)).map Prod.fst =
      (uniqfyGenerator outer {root.address} rows).map outer := by
    rw [List.map_map]
    exact haddresses
  rw [hmade.length_eq] at hids hsum
  refine ⟨nodes, ⟨⟨hids, ?_⟩, hmade, ?_⟩, hsum.trans (Nat.zero_add _)⟩
  · change nc = _ at hcollection
    rw [hcollection, nodes_foldl_addNode]
    refine Dict.entries_foldl_set (hkeys ▸ nodup_uniqfyGenerator _ _ _) fun item hitem => ?_
    -- the generator has the wallet among its exclusions
    obtain ⟨row, hrow, heq⟩ := List.mem_map.mp (hkeys ▸ List.mem_map_of_mem hitem)
    have hnew := outer_notMem_of_mem_uniqfyGenerator hrow
    have hsingle : (NodesCollection.empty.addNode root).nodes.keys = [root.address] := rfl
    rw [hsingle, List.mem_singleton, ← heq]
    simpa using hnew
  · change nc = _ at hcollection
    rw [hcollection, edgeKeys_foldl_addNode]
    rfl

namespace Listed

theorem rooted (hlisted : Listed mode root nodes nc) (hroot : root.id = 0) :
    Rooted nc.nodes root.address where
  head := by
    rw [Dict.keys, hlisted.entries]
    rfl
  root := by
    have hmem : (root.address, root) ∈ nc.nodes.entries := hlisted.entries ▸ List.mem_cons_self
    rw [Dict.mem_entries_iff.mp hmem, Option.map_some, hroot]

theorem address (hlisted : Listed mode root nodes nc) {key : String} {found : Node}
    (hget : nc.getNode key = some found) : found.address = key := by
  have hmem : (key, found) ∈ nc.nodes.entries := Dict.mem_entries_iff.mpr hget
  rw [hlisted.entries] at hmem
  rcases List.mem_cons.mp hmem with heq | hmem
  · obtain ⟨rfl, rfl⟩ := Prod.mk.inj heq
    rfl
  · obtain ⟨other, -, heq⟩ := List.mem_map.mp hmem
    obtain ⟨rfl, rfl⟩ := Prod.mk.inj heq
    rfl

theorem values_ids (hlisted : Listed mode root nodes nc) (hroot : root.id = 0) :
    nc.nodes.values.map Node.id = 0 :: numbers mode 1 nodes.length := by
  rw [Dict.values, hlisted.entries, List.map_cons, List.map_cons, hroot, ← hlisted.ids]
  simp

theorem valid (hlisted : Listed mode root nodes nc) (hroot : root.id = 0) : Valid nc where
  address := fun _ _ => hlisted.address
  ids := by
    rw [hlisted.values_ids hroot, List.nodup_cons]
    refine ⟨fun hzero => ?_, nodup_numbers mode 1 nodes.length⟩
    have hlt := numbers_pos Nat.one_pos hzero
    rw [mul_zero] at hlt
    exact lt_irrefl 0 hlt

end Listed

namespace LoopNodes

/-- The addresses are the wallet and the outer ends of the rows. -/
theorem mem_keys_iff (hmakes : Makes mode outer node)
    (hloop : LoopNodes mode outer node rows root nodes nc) {address : String} :
    address ∈ nc.nodes.keys ↔ address = root.address ∨ ∃ row ∈ rows, outer row = address := by
  have haddresses := hmakes.map_address hloop.made
  have hkeys : nc.nodes.keys = root.address ::
      (uniqfyGenerator outer {root.address} rows).map outer := by
    rw [Dict.keys, hloop.entries, List.map_cons, List.map_map, ← haddresses]
    rfl
  rw [hkeys, List.mem_cons, List.mem_map]
  constructor
  · rintro (heq | ⟨row, hrow, heq⟩)
    · exact .inl heq
    · exact .inr ⟨row, mem_of_mem_uniqfyGenerator hrow, heq⟩
  · rintro (heq | ⟨row, hrow, rfl⟩)
    · exact .inl heq
    · by_cases hwallet : outer row = root.address
      · exact .inl hwallet
      · exact .inr (exists_mem_uniqfyGenerator hrow (by simpa using hwallet))

/-- Every node but the wallet's is made from the first row that has its address there. -/
theorem exists_row (hmakes : Makes mode outer node)
    (hloop : LoopNodes mode outer node rows root nodes nc) {address : String} {found : Node}
    (hget : nc.nodes.get? address = some found) (hne : address ≠ root.address) :
    ∃ number row, rows.find? (fun row => outer row = address) = some row ∧
      node number row = .ok found := by
  have hmem : (address, found) ∈ nc.nodes.entries := Dict.mem_entries_iff.mpr hget
  rw [hloop.entries] at hmem
  rcases List.mem_cons.mp hmem with heq | hmem
  · exact absurd (Prod.mk.inj heq).1 hne
  · obtain ⟨other, hother, heq⟩ := List.mem_map.mp hmem
    obtain ⟨rfl, rfl⟩ := Prod.mk.inj heq
    obtain ⟨row, hrow, number, hnode⟩ := exists_mem_of_forall₂ hloop.made.flip hother
    refine ⟨number, row, ?_, hnode⟩
    rw [hmakes.address number row other hnode]
    exact find?_of_mem_uniqfyGenerator hrow

end LoopNodes

end Loop

/-! ## The nodes of `assign_nodes` -/

theorem outerNode_address (mode : Mode) (tokenType : String) (counter : ℕ) (row : Transaction) :
    (outerNode mode tokenType counter row).address = mode.outer row := by
  unfold outerNode
  split <;> rfl

theorem outerNode_id (mode : Mode) (tokenType : String) (counter : ℕ) (row : Transaction) :
    (outerNode mode tokenType counter row).id = mode.toInt * counter := by
  unfold outerNode
  split <;> rfl

theorem makes_outerNode (mode : Mode) (tokenType : String) :
    Makes mode mode.outer fun counter row => .ok (outerNode mode tokenType counter row) where
  id := by
    rintro counter row made ⟨⟩
    exact outerNode_id mode tokenType counter row
  address := by
    rintro counter row made ⟨⟩
    exact outerNode_address mode tokenType counter row

theorem loopNodes_of_assignNodes {first : Transaction} {rest : List Transaction} {mode : Mode}
    {tokenType : String} {nc : NodesCollection} {counts : Dict String ℕ}
    (hnodes : assignNodes (first :: rest) mode tokenType = .ok (nc, counts)) :
    ∃ nodes, LoopNodes mode mode.outer
        (fun counter row => .ok (outerNode mode tokenType counter row)) (first :: rest)
        (rootNode mode first) nodes nc ∧ counts.values.sum = nodes.length :=
  exists_loopNodes (makes_outerNode mode tokenType) (rootNode mode first) hnodes

/-- The nodes of a list of rows: they start with the wallet, the filter of edge keys is empty, and
the outer end of every row is among them. -/
theorem assignNodes_cons (first : Transaction) (rest : List Transaction) (mode : Mode)
    (tokenType : String) :
    ∃ nc volumeCount, assignNodes (first :: rest) mode tokenType = .ok (nc, volumeCount) ∧
      Rooted nc.nodes (mode.inner first) ∧ nc.edgeKeys = ∅ ∧
        ∀ row ∈ first :: rest, mode.outer row ∈ nc.nodes.keys := by
  have hmade : ∀ (counter : ℕ) (row : Transaction), ∃ made,
      (.ok (outerNode mode tokenType counter row) : Except PyErr Node) = .ok made :=
    fun counter row => ⟨outerNode mode tokenType counter row, rfl⟩
  obtain ⟨⟨nc, counts⟩, hnodes⟩ := exists_addNodesWith hmade mode.inner
    (uniqfyGenerator mode.outer {mode.inner first} (first :: rest)) 1
    (NodesCollection.empty.addNode (rootNode mode first), Dict.empty)
  obtain ⟨nodes, hloop, -⟩ := loopNodes_of_assignNodes hnodes
  refine ⟨nc, counts, hnodes, hloop.rooted rfl, hloop.edgeKeys, fun row hrow => ?_⟩
  exact (hloop.mem_keys_iff (makes_outerNode mode tokenType)).mpr (.inr ⟨row, hrow, rfl⟩)

/-- Every node but the wallet's is the outer node of the first row that has its address there. -/
theorem exists_outerNode_of_assignNodes {first : Transaction} {rest : List Transaction}
    {mode : Mode} {tokenType address : String} {nc : NodesCollection}
    {volumeCount : Dict String ℕ} {node : Node}
    (hnodes : assignNodes (first :: rest) mode tokenType = .ok (nc, volumeCount))
    (hget : nc.nodes.get? address = some node) (hne : address ≠ mode.inner first) :
    ∃ number row, (first :: rest).find? (fun row => mode.outer row = address) = some row ∧
      node = outerNode mode tokenType number row := by
  obtain ⟨nodes, hloop, -⟩ := loopNodes_of_assignNodes hnodes
  obtain ⟨number, row, hfind, hnode⟩ :=
    hloop.exists_row (makes_outerNode mode tokenType) hget hne
  exact ⟨number, row, hfind, (Except.ok.inj hnode).symm⟩

end CatvService.Graph
