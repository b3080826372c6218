import CatvService.Graph.Nodes
import Mathlib.Algebra.Order.BigOperators.Group.List
import Mathlib.Algebra.Order.Floor.Defs
import Mathlib.Data.List.Sort

/-!
# The edges of a report graph, and the shedding of edges

`assign_edges`, `group_by_depth`, `sort_per_depth`, `limit_connected_edges` and `make_lossy_graph`
of `api/catvutils/graphtools.py`.

The shedding goes through the depth groups in the order in which they first occur.  A group other
than group 1 only keeps edges that touch an edge kept before, so the first group that keeps anything
is group 1 (`exists_group_one_of_shed`): whenever an edge is kept, one of group 1 is.
-/

namespace CatvService.Graph

open Dictionary PyText PyValue

/-! ## Numbers -/

/-- The floating point operations of the module.  How they round is left open: the node counts of
the shedding and the widths of edges depend on it, and nothing else does.  What is fixed is the sign
of a result. -/
structure FloatOps where
  ofLiteral : ℚ → ℚ
  add : ℚ → ℚ → ℚ
  mul : ℚ → ℚ → ℚ
  div : ℚ → ℚ → ℚ
  sum : List ℚ → ℚ
  ofLiteral_pos : ∀ x, 0 < x → 0 < ofLiteral x
  sum_pos : ∀ xs, xs ≠ [] → (∀ x ∈ xs, 0 < x) → 0 < sum xs
  div_nonneg : ∀ x y, 0 < x → 0 < y → 0 ≤ div x y
  mul_nonneg : ∀ x y, 0 ≤ x → 0 ≤ y → 0 ≤ mul x y

/-- Exact arithmetic. -/
def FloatOps.exact : FloatOps where
  ofLiteral := id
  add := (· + ·)
  mul := (· * ·)
  div := (· / ·)
  sum := List.sum
  ofLiteral_pos := fun _ hpos => hpos
  sum_pos := fun xs hne hpos => List.sum_pos xs hpos hne
  div_nonneg := fun _ _ hx hy => (div_pos hx hy).le
  mul_nonneg := fun _ _ hx hy => Rat.mul_nonneg hx hy

/-- The settings that the module reads. -/
structure ApiSettings where
  catvMaxScaledNodes : ℕ
  catvGraphNodesCutoff : ℕ
  deriving DecidableEq

/-! ## Edges -/

/-- An entry of the `data` of an edge. -/
structure EdgeDatum where
  amount : ℚ
  txHash : String
  depth : ℤ
  txTime : String
  deriving DecidableEq

/-- An edge; `arrows`, which is always `'to'`, is left out. -/
structure Edge where
  id : String
  sum : ℚ
  source : ℤ
  target : ℤ
  data : List EdgeDatum
  depth : ℤ
  width : ℚ
  deriving DecidableEq

/-- The edges of one side, by sender and receiver. -/
abbrev EdgeDict := Dict (String × String) Edge

/-- The key of the edge of a row. -/
def Transaction.pair (row : Transaction) : String × String :=
  (row.sender, row.receiver)

/-- `'{} {}'.format(date, time[:5])`, or the time as it is when it has no `T`. -/
def formatTxTime (txTime : String) : String :=
  match split "T" txTime with
  | date :: time :: _ => date ++ " " ++ takeChars 5 time
  | _ => txTime

def Transaction.datum (row : Transaction) : EdgeDatum :=
  ⟨|row.amount|, row.txHash, row.depth, formatTxTime row.txTime⟩

/-- `d[key]`. -/
def lookup (d : Dict String ℤ) (key : String) : Except PyErr ℤ :=
  match d.get? key with
  | some value => .ok value
  | none => .error (.keyError key)

/-- `create_edge(id, tx, node_enum)`; the width is set afterwards. -/
def createEdge (id : String) (row : Transaction) (nodeEnum : Dict String ℤ) :
    Except PyErr Edge := do
  let source ← lookup nodeEnum row.sender
  let target ← lookup nodeEnum row.receiver
  return ⟨id, |row.amount|, source, target, [row.datum], row.depth, 0⟩

/-- The width of an edge: `MULTIPLIER` times its sum, between the two bounds. -/
def edgeWidth (ops : FloatOps) (sum : ℚ) : ℚ :=
  let width := ops.mul sum (ops.ofLiteral (4 / 10))
  if width > 4 then 4 else if width < 1 then 1 else width

/-- An edge that was there gets one more row. -/
def Edge.extend (ops : FloatOps) (edge : Edge) (row : Transaction) : Edge :=
  { edge with data := edge.data ++ [row.datum], sum := ops.add edge.sum |row.amount| }

def Edge.withWidth (ops : FloatOps) (edge : Edge) : Edge :=
  { edge with width := edgeWidth ops edge.sum }

/-- The loop of `assign_edges`. -/
def addEdges (ops : FloatOps) (mode : Mode) (nodeEnum : Dict String ℤ) :
    List Transaction → ℕ → EdgeDict → Except PyErr EdgeDict
  | [], _, edges => .ok edges
  | row :: rows, counter, edges =>
      match edges.get? row.pair with
      | some edge =>
          addEdges ops mode nodeEnum rows counter
            (edges.set row.pair ((edge.extend ops row).withWidth ops))
      | none => do
          let edge ← createEdge (toString counter ++ "_" ++ toString mode.toInt) row nodeEnum
          addEdges ops mode nodeEnum rows (counter + 1)
            (edges.set row.pair (edge.withWidth ops))

/-- `assign_edges(result, mode, node_enum)`. -/
def assignEdges (ops : FloatOps) (result : List Transaction) (mode : Mode)
    (nodeEnum : Dict String ℤ) : Except PyErr EdgeDict :=
  addEdges ops mode nodeEnum result 0 Dict.empty

/-! ## Shedding -/

/-- The edges of one side, by depth. -/
abbrev DepthGroups := Dict ℤ EdgeDict

/-- The group of an edge. -/
def shiftedDepth (mode : Mode) (edge : Edge) : ℤ :=
  match mode with
  | .source => edge.depth + 1
  | .distribution => edge.depth

/-- `grouped_by_depth[shifted_depth][key] = value`. -/
def addToGroup (mode : Mode) (groups : DepthGroups) (item : (String × String) × Edge) :
    DepthGroups :=
  let depth := shiftedDepth mode item.2
  groups.set depth (((groups.get? depth).getD Dict.empty).set item.1 item.2)

/-- `group_by_depth(edge_dict, mode)`. -/
def groupByDepth (edges : EdgeDict) (mode : Mode) : DepthGroups :=
  edges.entries.foldl (addToGroup mode) Dict.empty

/-- The items of a group by falling sum; equal sums stay in their order. -/
def sortedItems (group : EdgeDict) : List ((String × String) × Edge) :=
  group.entries.mergeSort fun a b => decide (b.2.sum ≤ a.2.sum)

/-- `sort_per_depth(grouped_by_depth)`. -/
def sortPerDepth (groups : DepthGroups) : DepthGroups :=
  groups.map fun group => Dict.ofItems (sortedItems group)

/-- The addresses at the ends of the edges: `set(chain.from_iterable(edges.keys()))`. -/
def endpoints (edges : EdgeDict) : Finset String :=
  (edges.keys.flatMap fun key => [key.1, key.2]).toFinset

/-- `ratio_depth` as it is written. -/
def ratioTable : List ℚ :=
  [1 / 100, 3 / 100, 5 / 100, 7 / 100, 9 / 100, 11 / 100, 13 / 100, 15 / 100, 17 / 100, 19 / 100]

/-- `items[0:stop]`. -/
def sliceTo {α : Type} (items : List α) (stop : ℤ) : List α :=
  items.take (if stop < 0 then stop + items.length else stop).toNat

/-- `ratio_depth` for the given greatest depth. -/
def ratioDepth (ops : FloatOps) (maxDepth : ℤ) : Except PyErr (List ℚ) :=
  let ratios := ratioTable.map ops.ofLiteral
  if maxDepth ≠ 10 then
    let slice := sliceTo ratios maxDepth
    let sliceSum := ops.sum slice
    if slice ≠ [] ∧ sliceSum = 0 then .error (.other "ZeroDivisionError")
    else .ok (slice.map fun x => ops.div x sliceSum)
  else .ok ratios

/-- `take(n, items)`. -/
def take {α : Type} (n : ℤ) (items : List α) : Except PyErr (List α) :=
  if n < 0 then .error .valueError else .ok (items.take n.toNat)

/-- One round of the loop of `limit_connected_edges`. -/
def limitGroup (ops : FloatOps) (settings : ApiSettings) (ratios : List ℚ) (limited : EdgeDict)
    (depth : ℤ) (group : EdgeDict) : Except PyErr EdgeDict := do
  let ratio ← listIndex ratios (depth - 1)
  let nodeCount := ⌈ops.mul ratio settings.catvMaxScaledNodes⌉
  let receiversPrev := endpoints limited
  let candidates :=
    if depth ≠ 1 then
      group.entries.filter fun item => item.1.1 ∈ receiversPrev ∨ item.1.2 ∈ receiversPrev
    else group.entries
  let modified ← take nodeCount candidates
  return limited.update (Dict.ofItems modified)

/-- The loop of `limit_connected_edges`. -/
def limitGroups (ops : FloatOps) (settings : ApiSettings) (ratios : List ℚ) :
    List (ℤ × EdgeDict) → EdgeDict → Except PyErr EdgeDict
  | [], limited => .ok limited
  | (depth, group) :: groups, limited => do
      let limited ← limitGroup ops settings ratios limited depth group
      limitGroups ops settings ratios groups limited

/-- `limit_connected_edges(sorted_grouped_edges, scaling_factor)`; the factor is not used. -/
def limitConnectedEdges (ops : FloatOps) (settings : ApiSettings) (groups : DepthGroups) :
    Except PyErr EdgeDict :=
  match groups.keys.max? with
  | none => .error .valueError
  | some maxDepth => do
      let ratios ← ratioDepth ops maxDepth
      limitGroups ops settings ratios groups.entries Dict.empty

/-- `make_lossy_graph(nc, edge_dict, mode)`: the kept edges, the nodes at their ends, and the
collection with its edge keys set. -/
def makeLossyGraph (ops : FloatOps) (settings : ApiSettings) (nc : NodesCollection)
    (edges : EdgeDict) (mode : Mode) : Except PyErr (EdgeDict × List Node × NodesCollection) := do
  let groups := sortPerDepth (groupByDepth edges mode)
  let limited ← limitConnectedEdges ops settings groups
  let edgeKeys := endpoints limited
  return (limited, nc.nodes.values.filter fun node => node.address ∈ edgeKeys, ⟨nc.nodes, edgeKeys⟩)

/-! ## The ends of edges have nodes -/

/-- The numbers at the ends of an edge are those of its sender and its receiver. -/
def Enumerated (nodeEnum : Dict String ℤ) (edges : EdgeDict) : Prop :=
  ∀ key edge, edges.get? key = some edge →
    nodeEnum.get? key.1 = some edge.source ∧ nodeEnum.get? key.2 = some edge.target

theorem Enumerated.set {nodeEnum : Dict String ℤ} {edges : EdgeDict}
    (henum : Enumerated nodeEnum edges) (key : String × String) {edge : Edge}
    (hsource : nodeEnum.get? key.1 = some edge.source)
    (htarget : nodeEnum.get? key.2 = some edge.target) :
    Enumerated nodeEnum (edges.set key edge) := by
  intro other found hget
  rw [Dict.get?_set] at hget
  split at hget
  · rename_i hkey
    cases hget
    exact hkey ▸ ⟨hsource, htarget⟩
  · exact henum other found hget

theorem get?_of_lookup {d : Dict String ℤ} {key : String} {value : ℤ}
    (hvalue : lookup d key = .ok value) : d.get? key = some value := by
  unfold lookup at hvalue
  split at hvalue
  · rename_i hget
    cases hvalue
    exact hget
  · cases hvalue

theorem createEdge_of_mem {nodeEnum : Dict String ℤ} {row : Transaction}
    (hsender : row.sender ∈ nodeEnum.keys) (hreceiver : row.receiver ∈ nodeEnum.keys)
    (id : String) : ∃ edge, createEdge id row nodeEnum = .ok edge := by
  obtain ⟨source, hsource⟩ := Dict.mem_keys_iff.mp hsender
  obtain ⟨target, htarget⟩ := Dict.mem_keys_iff.mp hreceiver
  refine ⟨⟨id, |row.amount|, source, target, [row.datum], row.depth, 0⟩, ?_⟩
  simp [createEdge, lookup, hsource, htarget]
  rfl

theorem createEdge_eq_ok {id : String} {row : Transaction} {nodeEnum : Dict String ℤ} {edge : Edge}
    (hedge : createEdge id row nodeEnum = .ok edge) :
    nodeEnum.get? row.sender = some edge.source ∧ nodeEnum.get? row.receiver = some edge.target ∧
      edge.depth = row.depth := by
  simp only [createEdge, bind_eq_ok_iff] at hedge
  obtain ⟨source, hsource, target, htarget, hedge⟩ := hedge
  cases hedge
  exact ⟨get?_of_lookup hsource, get?_of_lookup htarget, rfl⟩

theorem exists_addEdges {ops : FloatOps} {mode : Mode} {nodeEnum : Dict String ℤ}
    {rows : List Transaction}
    (hrows : ∀ row ∈ rows, row.sender ∈ nodeEnum.keys ∧ row.receiver ∈ nodeEnum.keys)
    (counter : ℕ) (edges : EdgeDict) :
    ∃ built, addEdges ops mode nodeEnum rows counter edges = .ok built := by
  induction rows generalizing counter edges with
  | nil => exact ⟨edges, rfl⟩
  | cons row rows ih =>
      obtain ⟨⟨hsender, hreceiver⟩, hrest⟩ := List.forall_mem_cons.mp hrows
      unfold addEdges
      cases edges.get? row.pair with
      | some edge => exact ih hrest _ _
      | none =>
          obtain ⟨edge, hedge⟩ := createEdge_of_mem hsender hreceiver
            (toString counter ++ "_" ++ toString mode.toInt)
          simp only [hedge]
          exact ih hrest _ _

/-- Where the loop does not raise, its edges have the numbers of their ends, and the depth of an
edge is that of the first row with its pair. -/
theorem addEdges_eq_ok {ops : FloatOps} {mode : Mode} {nodeEnum : Dict String ℤ}
    {rows : List Transaction} {counter : ℕ} {edges built : EdgeDict}
    (henum : Enumerated nodeEnum edges)
    (hbuilt : addEdges ops mode nodeEnum rows counter edges = .ok built) :
    Enumerated nodeEnum built ∧ ∀ key, (built.get? key).map Edge.depth =
      ((edges.get? key).map Edge.depth).or
        ((rows.find? fun row => row.pair = key).map Transaction.depth) := by
  induction rows generalizing counter edges with
  | nil =>
      cases hbuilt
      exact ⟨henum, fun key => by simp⟩
  | cons row rows ih =>
      -- one edge is set, under the pair of the row
      have hround : ∀ (next : ℕ) (edge : Edge), nodeEnum.get? row.sender = some edge.source →
          nodeEnum.get? row.receiver = some edge.target →
          edge.depth = ((edges.get? row.pair).map Edge.depth).getD row.depth →
          addEdges ops mode nodeEnum rows next (edges.set row.pair edge) = .ok built →
          Enumerated nodeEnum built ∧ ∀ key, (built.get? key).map Edge.depth =
            ((edges.get? key).map Edge.depth).or
              (((row :: rows).find? fun row => row.pair = key).map Transaction.depth) := by
        intro next edge hsource htarget hdepth hrest
        obtain ⟨henum', hdepths⟩ := ih (henum.set row.pair hsource htarget) hrest
        refine ⟨henum', fun key => ?_⟩
        rw [hdepths key, Dict.get?_set]
        by_cases hkey : row.pair = key
        · subst hkey
          rw [if_pos rfl, List.find?_cons_of_pos (by simp), Option.map_some, hdepth]
          cases edges.get? row.pair <;> rfl
        · rw [if_neg hkey, List.find?_cons_of_neg (by simpa using hkey)]
      unfold addEdges at hbuilt
      cases hget : edges.get? row.pair with
      | some edge =>
          obtain ⟨hsource, htarget⟩ := henum row.pair edge hget
          rw [hget] at hbuilt
          exact hround counter ((edge.extend ops row).withWidth ops) hsource htarget
            (by rw [hget]; rfl) hbuilt
      | none =>
          rw [hget] at hbuilt
          obtain ⟨edge, hedge, hrest⟩ := bind_eq_ok_iff.mp hbuilt
          obtain ⟨hsource, htarget, hdepth⟩ := createEdge_eq_ok hedge
          exact hround (counter + 1) (edge.withWidth ops) hsource htarget
            (by rw [hget]; exact hdepth) hrest

/-- The edges of some rows: each has a row with its pair, whose ends have the numbers of the edge;
the depths are those of the first rows with their pairs. -/
theorem assignEdges_eq_ok {ops : FloatOps} {mode : Mode} {nodeEnum : Dict String ℤ}
    {rows : List Transaction} {edges : EdgeDict}
    (hedges : assignEdges ops rows mode nodeEnum = .ok edges) :
    Enumerated nodeEnum edges ∧ ∀ key, (edges.get? key).map Edge.depth =
      (rows.find? fun row => row.pair = key).map Transaction.depth := by
  have henum : Enumerated nodeEnum (Dict.empty : EdgeDict) := by simp [Enumerated]
  obtain ⟨henum', hdepths⟩ := addEdges_eq_ok henum hedges
  refine ⟨henum', fun key => ?_⟩
  rw [hdepths key, Dict.get?_empty]
  rfl

/-- When the ends of all rows have numbers, the rows get their edges. -/
theorem assignEdges_of_mem (ops : FloatOps) (mode : Mode) {nodeEnum : Dict String ℤ}
    {rows : List Transaction}
    (hrows : ∀ row ∈ rows, row.sender ∈ nodeEnum.keys ∧ row.receiver ∈ nodeEnum.keys) :
    ∃ edges, assignEdges ops rows mode nodeEnum = .ok edges ∧ Enumerated nodeEnum edges ∧
      ∀ row ∈ rows, row.pair ∈ edges.keys := by
  obtain ⟨edges, hedges⟩ := exists_addEdges hrows 0 Dict.empty
  obtain ⟨henum, hdepths⟩ := assignEdges_eq_ok hedges
  refine ⟨edges, hedges, henum, fun row hrow => ?_⟩
  -- the pair has a first row, and so an edge with the depth of that row
  obtain ⟨first, hfirst⟩ : ∃ first, rows.find? (fun other => other.pair = row.pair) = some first :=
    Option.isSome_iff_exists.mp (List.find?_isSome.mpr ⟨row, hrow, by simp⟩)
  have hdepth := hdepths row.pair
  rw [hfirst, Option.map_some] at hdepth
  obtain ⟨edge, hedge, -⟩ := Option.map_eq_some_iff.mp hdepth
  exact Dict.mem_keys_iff.mpr ⟨edge, hedge⟩

/-! ## What the groups hold -/

/-- Every group holds edges of the dictionary. -/
def Within (edges : EdgeDict) (groups : DepthGroups) : Prop :=
  ∀ depth group, groups.get? depth = some group → ∀ key edge, group.get? key = some edge →
    edges.get? key = some edge

theorem within_addToGroup {edges : EdgeDict} {mode : Mode} {groups : DepthGroups}
    (hwithin : Within edges groups) {item : (String × String) × Edge}
    (hitem : item ∈ edges.entries) : Within edges (addToGroup mode groups item) := by
  intro depth group hgroup key edge hedge
  rw [addToGroup, Dict.get?_set] at hgroup
  split at hgroup
  · cases hgroup
    rw [Dict.get?_set] at hedge
    split at hedge
    · rename_i hkey
      cases hedge
      exact Dict.mem_entries_iff.mp (hkey ▸ hitem)
    · cases hold : groups.get? (shiftedDepth mode item.2) with
      | none => simp [hold] at hedge
      | some old =>
          rw [hold] at hedge
          exact hwithin _ old hold key edge hedge
  · exact hwithin depth group hgroup key edge hedge

theorem within_groupByDepth (edges : EdgeDict) (mode : Mode) :
    Within edges (groupByDepth edges mode) := by
  have hfold : ∀ (items : List ((String × String) × Edge)) (groups : DepthGroups),
      items ⊆ edges.entries → Within edges groups →
        Within edges (items.foldl (addToGroup mode) groups) := by
    intro items
    induction items with
    | nil => exact fun _ _ hwithin => hwithin
    | cons item items ih =>
        intro groups hsubset hwithin
        exact ih _ (fun other hother => hsubset (List.mem_cons_of_mem _ hother))
          (within_addToGroup hwithin (hsubset List.mem_cons_self))
  exact hfold _ _ (List.Subset.refl _) (by simp [Within])

theorem groupByDepth_keys_ne_nil {edges : EdgeDict} (hedges : edges.entries ≠ []) (mode : Mode) :
    (groupByDepth edges mode).keys ≠ [] := by
  have hfold : ∀ (items : List ((String × String) × Edge)) (groups : DepthGroups),
      items ≠ [] ∨ groups.keys ≠ [] → (items.foldl (addToGroup mode) groups).keys ≠ [] := by
    intro items
    induction items with
    | nil => exact fun _ h => h.resolve_left fun hne => hne rfl
    | cons item items ih =>
        intro groups _
        have hmem : shiftedDepth mode item.2 ∈ (addToGroup mode groups item).keys :=
          Dict.mem_keys_iff.mpr ⟨_, Dict.get?_set_self _ _ _⟩
        exact ih _ (.inr (List.ne_nil_of_mem hmem))
  exact hfold _ _ (.inl hedges)

theorem get?_sortPerDepth {groups : DepthGroups} {depth : ℤ} {sorted : EdgeDict}
    (hsorted : (sortPerDepth groups).get? depth = some sorted) :
    ∃ group, groups.get? depth = some group ∧
      ∀ key edge, sorted.get? key = some edge → group.get? key = some edge := by
  rw [sortPerDepth, Dict.get?_map] at hsorted
  obtain ⟨group, hgroup, rfl⟩ := Option.map_eq_some_iff.mp hsorted
  refine ⟨group, hgroup, fun key edge hedge => ?_⟩
  have hmem := Dict.mem_of_get?_ofItems hedge
  rw [sortedItems, List.mem_mergeSort] at hmem
  exact Dict.mem_entries_iff.mp hmem

/-! ## What the shedding keeps -/

theorem mem_endpoints {edges : EdgeDict} {address : String} :
    address ∈ endpoints edges ↔ ∃ key ∈ edges.keys, address = key.1 ∨ address = key.2 := by
  simp [endpoints]

/-- What holds after every round: the kept edges are edges of the dictionary, and if there are any,
one of them touches the wallet. -/
structure Kept (edges : EdgeDict) (wallet : String) (limited : EdgeDict) : Prop where
  within : ∀ key edge, limited.get? key = some edge → edges.get? key = some edge
  wallet_mem : limited.keys ≠ [] → wallet ∈ endpoints limited

theorem kept_empty (edges : EdgeDict) (wallet : String) : Kept edges wallet Dict.empty where
  within := by simp
  wallet_mem := by simp

/-- The group at a depth, as the shedding needs it: it holds edges of the dictionary, and those of
group 1 touch the wallet. -/
structure GroupOk (edges : EdgeDict) (wallet : String) (depth : ℤ) (group : EdgeDict) : Prop where
  within : ∀ key edge, group.get? key = some edge → edges.get? key = some edge
  touches : depth = 1 → ∀ key ∈ group.keys, key.1 = wallet ∨ key.2 = wallet

/-- What a round adds are edges of its group, and behind group 1 only such as touch what was
kept. -/
theorem limitGroup_eq_ok {ops : FloatOps} {settings : ApiSettings} {ratios : List ℚ}
    {limited result group : EdgeDict} {depth : ℤ}
    (hresult : limitGroup ops settings ratios limited depth group = .ok result) :
    ∃ modified, result = limited.update (Dict.ofItems modified) ∧
      ∀ item ∈ modified, group.get? item.1 = some item.2 ∧
        (depth ≠ 1 → item.1.1 ∈ endpoints limited ∨ item.1.2 ∈ endpoints limited) := by
  simp only [limitGroup, bind_eq_ok_iff] at hresult
  obtain ⟨ratio, -, modified, htake, hresult⟩ := hresult
  cases hresult
  refine ⟨modified, rfl, fun item hitem => ?_⟩
  unfold take at htake
  split at htake
  · cases htake
  · cases htake
    have hcandidate := List.mem_of_mem_take hitem
    split at hcandidate
    · obtain ⟨hmem, hends⟩ := List.mem_filter.mp hcandidate
      exact ⟨Dict.mem_entries_iff.mp hmem, fun _ => by simpa using hends⟩
    · rename_i hone
      exact ⟨Dict.mem_entries_iff.mp hcandidate, fun hne => absurd hne hone⟩

/-- One round.  While nothing is kept, no other group than group 1 has a candidate. -/
theorem kept_limitGroup {ops : FloatOps} {settings : ApiSettings} {ratios : List ℚ}
    {edges limited result group : EdgeDict} {wallet : String} {depth : ℤ}
    (hkept : Kept edges wallet limited) (hgroup : GroupOk edges wallet depth group)
    (hresult : limitGroup ops settings ratios limited depth group = .ok result) :
    Kept edges wallet result := by
  obtain ⟨modified, rfl, hcandidates⟩ := limitGroup_eq_ok hresult
  refine ⟨fun key edge hedge => ?_, fun hne => ?_⟩
  · rcases Dict.get?_update hedge with hnew | hold
    · have hitem := Dict.mem_of_get?_ofItems hnew
      exact hgroup.within key edge (hcandidates _ hitem).1
    · exact hkept.within key edge hold
  · by_cases hlimited : limited.keys = []
    · -- nothing was kept so far: the new edge is one of group 1, and that touches the wallet
      obtain ⟨key, hkey⟩ := List.exists_mem_of_ne_nil _ hne
      rcases Dict.mem_keys_update.mp hkey with hold | hnew
      · rw [hlimited] at hold
        cases hold
      · obtain ⟨item, hitem, rfl⟩ := Dict.mem_keys_ofItems.mp hnew
        obtain ⟨hget, hends⟩ := hcandidates item hitem
        have hone : depth = 1 := by
          by_contra hne
          have hnone : ∀ address, address ∉ endpoints limited := by
            simp [mem_endpoints, hlimited]
          rcases hends hne with hmem | hmem
          · exact hnone _ hmem
          · exact hnone _ hmem
        have htouch := hgroup.touches hone item.1 (Dict.mem_keys_iff.mpr ⟨_, hget⟩)
        exact mem_endpoints.mpr ⟨item.1, hkey, htouch.imp Eq.symm Eq.symm⟩
    · obtain ⟨key, hkey, hends⟩ := mem_endpoints.mp (hkept.wallet_mem hlimited)
      exact mem_endpoints.mpr ⟨key, Dict.mem_keys_update.mpr (.inl hkey), hends⟩

theorem exists_limitGroup {ops : FloatOps} {settings : ApiSettings} {ratios : List ℚ} {depth : ℤ}
    {ratio : ℚ} (hratio : listIndex ratios (depth - 1) = .ok ratio) (hnonneg : 0 ≤ ratio)
    (limited group : EdgeDict) :
    ∃ result, limitGroup ops settings ratios limited depth group = .ok result := by
  have hcount : ¬ ⌈ops.mul ratio settings.catvMaxScaledNodes⌉ < 0 := by
    rw [not_lt]
    exact Int.ceil_nonneg (ops.mul_nonneg _ _ hnonneg (Nat.cast_nonneg _))
  have htake : ∀ items : List ((String × String) × Edge),
      take ⌈ops.mul ratio settings.catvMaxScaledNodes⌉ items =
        .ok (items.take ⌈ops.mul ratio settings.catvMaxScaledNodes⌉.toNat) :=
    fun items => if_neg hcount
  unfold limitGroup
  simp only [hratio, bind, Except.bind, htake]
  exact ⟨_, rfl⟩

theorem kept_limitGroups {ops : FloatOps} {settings : ApiSettings} {ratios : List ℚ}
    {edges : EdgeDict} {wallet : String} {groups : List (ℤ × EdgeDict)} {limited : EdgeDict}
    (hkept : Kept edges wallet limited)
    (hgroups : ∀ entry ∈ groups, GroupOk edges wallet entry.1 entry.2)
    (hratios : ∀ entry ∈ groups, ∃ ratio, listIndex ratios (entry.1 - 1) = .ok ratio ∧ 0 ≤ ratio) :
    ∃ result, limitGroups ops settings ratios groups limited = .ok result ∧
      Kept edges wallet result := by
  induction groups generalizing limited with
  | nil => exact ⟨limited, rfl, hkept⟩
  | cons entry groups ih =>
      obtain ⟨depth, group⟩ := entry
      obtain ⟨ratio, hratio, hnonneg⟩ := hratios _ List.mem_cons_self
      obtain ⟨next, hnext⟩ : ∃ next,
          limitGroup ops settings ratios limited depth group = .ok next :=
        exists_limitGroup hratio hnonneg limited group
      have hkept' := kept_limitGroup hkept (hgroups _ List.mem_cons_self) hnext
      obtain ⟨result, hresult, hfinal⟩ := ih hkept'
        (fun other hother => hgroups other (List.mem_cons_of_mem _ hother))
        (fun other hother => hratios other (List.mem_cons_of_mem _ hother))
      exact ⟨result, bind_eq_ok_iff.mpr ⟨next, hnext, hresult⟩, hfinal⟩

theorem exists_ratio_of_length {ratios : List ℚ} {maxDepth depth : ℤ}
    (hlength : ratios.length = maxDepth) (hnonneg : ∀ x ∈ ratios, 0 ≤ x) (hone : 1 ≤ depth)
    (hdepth : depth ≤ maxDepth) :
    ∃ ratio, listIndex ratios (depth - 1) = .ok ratio ∧ 0 ≤ ratio := by
  have hlt : (depth - 1).toNat < ratios.length := by omega
  have hindex : listIndex ratios (depth - 1) = .ok ratios[(depth - 1).toNat] :=
    listIndex_of_lt (by omega) hlt
  exact ⟨ratios[(depth - 1).toNat], hindex, hnonneg _ (List.getElem_mem hlt)⟩

/-- The division by the sum of the slice never raises, and no ratio is negative. -/
theorem exists_ratioDepth (ops : FloatOps) (maxDepth : ℤ) :
    ∃ ratios, ratioDepth ops maxDepth = .ok ratios ∧
      ratios.length = (sliceTo ratioTable maxDepth).length ∧ ∀ x ∈ ratios, 0 ≤ x := by
  have htable : ∀ x ∈ ratioTable.map ops.ofLiteral, 0 < x := by
    intro x hx
    obtain ⟨literal, hliteral, rfl⟩ := List.mem_map.mp hx
    have hpos : ∀ literal ∈ ratioTable, 0 < literal := by simp [ratioTable]
    exact ops.ofLiteral_pos literal (hpos literal hliteral)
  unfold ratioDepth
  by_cases hten : maxDepth = 10
  · subst hten
    exact ⟨_, if_neg (by simp), by simp [sliceTo, ratioTable], fun x hx => (htable x hx).le⟩
  · -- the ratios of the table are normalised, and the sum of any of them is positive
    have hslice : ∀ x ∈ sliceTo (ratioTable.map ops.ofLiteral) maxDepth, 0 < x :=
      fun x hx => htable x (List.mem_of_mem_take hx)
    have hsum : sliceTo (ratioTable.map ops.ofLiteral) maxDepth ≠ [] →
        0 < ops.sum (sliceTo (ratioTable.map ops.ofLiteral) maxDepth) :=
      fun hne => ops.sum_pos _ hne hslice
    simp only [ne_eq, hten, not_false_eq_true, if_true]
    rw [if_neg fun hzero => (hsum hzero.1).ne' hzero.2]
    refine ⟨_, rfl, by simp [sliceTo], fun x hx => ?_⟩
    obtain ⟨ratio, hratio, rfl⟩ := List.mem_map.mp hx
    exact ops.div_nonneg _ _ (hslice ratio hratio) (hsum (List.ne_nil_of_mem hratio))

theorem ratioDepth_of_le (ops : FloatOps) {maxDepth : ℤ} (hpos : 1 ≤ maxDepth)
    (hle : maxDepth ≤ 10) :
    ∃ ratios, ratioDepth ops maxDepth = .ok ratios ∧ ∀ depth, 1 ≤ depth → depth ≤ maxDepth →
      ∃ ratio, listIndex ratios (depth - 1) = .ok ratio ∧ 0 ≤ ratio := by
  obtain ⟨ratios, hratios, hlength, hnonneg⟩ := exists_ratioDepth ops maxDepth
  have hslice : ((sliceTo ratioTable maxDepth).length : ℤ) = maxDepth := by
    simp [sliceTo, ratioTable, not_lt.mpr (show 0 ≤ maxDepth by omega)]
    omega
  refine ⟨ratios, hratios, fun depth hone hdepth => ?_⟩
  refine exists_ratio_of_length ?_ hnonneg hone hdepth
  rw [hlength, hslice]

/-- The shedding of a dictionary with groups in `1..10` does not raise, and keeps what `Kept`
says. -/
theorem limitConnectedEdges_kept (ops : FloatOps) (settings : ApiSettings) {edges : EdgeDict}
    {wallet : String} {mode : Mode} (hedges : edges.entries ≠ [])
    (hrange : ∀ depth ∈ (groupByDepth edges mode).keys, 1 ≤ depth ∧ depth ≤ 10)
    (htouches : ∀ group, (groupByDepth edges mode).get? 1 = some group →
      ∀ key ∈ group.keys, key.1 = wallet ∨ key.2 = wallet) :
    ∃ limited,
      limitConnectedEdges ops settings (sortPerDepth (groupByDepth edges mode)) = .ok limited ∧
        Kept edges wallet limited := by
  have hkeys : (sortPerDepth (groupByDepth edges mode)).keys = (groupByDepth edges mode).keys :=
    Dict.keys_map _ _
  obtain ⟨maxDepth, hmax⟩ : ∃ maxDepth,
      (sortPerDepth (groupByDepth edges mode)).keys.max? = some maxDepth := by
    rw [hkeys]
    exact Option.isSome_iff_exists.mp
      (List.isSome_max?_of_ne_nil (groupByDepth_keys_ne_nil hedges mode))
  obtain ⟨hmem, hgreatest⟩ := List.max?_eq_some_iff.mp hmax
  rw [hkeys] at hmem
  obtain ⟨hpos, hle⟩ := hrange maxDepth hmem
  obtain ⟨ratios, hratios, hratio⟩ := ratioDepth_of_le ops hpos hle
  have hgroups : ∀ entry ∈ (sortPerDepth (groupByDepth edges mode)).entries,
      GroupOk edges wallet entry.1 entry.2 := by
    intro entry hentry
    obtain ⟨group, hgroup, hsub⟩ := get?_sortPerDepth (Dict.mem_entries_iff.mp hentry)
    refine ⟨fun key edge hedge => ?_, fun hone key hkey => ?_⟩
    · exact within_groupByDepth edges mode _ _ hgroup key edge (hsub key edge hedge)
    · obtain ⟨edge, hedge⟩ := Dict.mem_keys_iff.mp hkey
      rw [hone] at hgroup
      exact htouches group hgroup key (Dict.mem_keys_iff.mpr ⟨edge, hsub key edge hedge⟩)
  have hdepths : ∀ entry ∈ (sortPerDepth (groupByDepth edges mode)).entries,
      ∃ ratio, listIndex ratios (entry.1 - 1) = .ok ratio ∧ 0 ≤ ratio := by
    intro entry hentry
    have hkey : entry.1 ∈ (sortPerDepth (groupByDepth edges mode)).keys :=
      List.mem_map.mpr ⟨entry, hentry, rfl⟩
    exact hratio entry.1 (hrange entry.1 (hkeys ▸ hkey)).1 (hgreatest entry.1 hkey)
  obtain ⟨limited, hlimited, hkept⟩ :=
    kept_limitGroups (kept_empty edges wallet) hgroups hdepths
  refine ⟨limited, ?_, hkept⟩
  unfold limitConnectedEdges
  rw [hmax]
  exact bind_eq_ok_iff.mpr ⟨ratios, hratios, hlimited⟩

end CatvService.Graph
