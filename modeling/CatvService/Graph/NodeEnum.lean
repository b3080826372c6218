import CatvService.Graph.Annotations
import CatvService.Graph.HopLevels

/-!
# The node numbers of the merged report

`set_annotations_from_db` takes `node_list` from a collection before it is filtered by its edge
keys, and `node_enum` after that; `make_graph_dict` joins the lists of the two sides and merges
their numbers, where the source side wins.  So `node_enum` gives the id of a node exactly if its
address passes the filter of its own side, and on the distribution side, if the source side does not
number the address itself (`enumAgrees_iff`): as the ids of the sides have different signs, it may
do so for the wallet only.
-/

namespace CatvService.Graph

open Dictionary PyText PyValue Runs

variable {nc : NodesCollection} {node found : Node} {key : String} {value : ℤ × String}
  {itemList : List Transaction} {done indicators : List Indicator} {item : Indicator}
  {state : Annotating}

/-! ## What the keys stand for after the annotation -/

/-- The id and the address that a key stands for after the annotation: those of the node that it had
before, or, when it had none, those of the node that is annotated with the key as its pattern. -/
def StandsFor (nc : NodesCollection) (indicators : List Indicator) (key : String)
    (value : ℤ × String) : Prop :=
  (footing nc).get? key = some value ∨ ((footing nc).get? key = none ∧
    ∃ item node, Annotates nc indicators item node ∧ lower item.pattern = key ∧
      (node.id, node.address) = value)

theorem get?_footing (nc : NodesCollection) (key : String) :
    (footing nc).get? key = (nc.getNode key).map fun node => (node.id, node.address) :=
  Dict.get?_map _ _ _

/-- Whatever a key stands for is a node that was there before, under its address. -/
theorem StandsFor.exists_node (hvalid : Valid nc) (hstands : StandsFor nc indicators key value) :
    ∃ node, nc.getNode value.2 = some node ∧ node.id = value.1 := by
  rcases hstands with hget | ⟨-, item, node, ⟨earlier, later, -, hfirst, -⟩, -, rfl⟩
  · rw [get?_footing] at hget
    obtain ⟨node, hnode, rfl⟩ := Option.map_eq_some_iff.mp hget
    exact ⟨node, by rwa [hvalid.address key node hnode], rfl⟩
  · obtain ⟨key, hkey, -⟩ := exists_key_of_findPattern hfirst.found
    exact ⟨node, by rwa [hvalid.address key node hkey], rfl⟩

theorem standsFor_address (hvalid : Valid nc) (hnode : nc.getNode key = some node)
    (indicators : List Indicator) : StandsFor nc indicators key (node.id, key) := by
  left
  rw [get?_footing, hnode, Option.map_some, hvalid.address key node hnode]

/-- The value under a key of the collection does not depend on the indicators. -/
theorem standsFor_iff_of_mem (hget : (footing nc).get? key = some value) (other : ℤ × String) :
    StandsFor nc indicators key other ↔ other = value := by
  unfold StandsFor
  rw [hget]
  simp only [Option.some.injEq, reduceCtorEq, false_and, or_false, eq_comm]

/-- Nodes of one id have one address, since that is how they were before. -/
theorem address_eq_of_id_eq (hvalid : Valid nc)
    (hstate : ∀ key value, (footing state.nc).get? key = some value → StandsFor nc done key value)
    (hfind : state.nc.findPattern item.pattern = some found) (hid : node.id = found.id)
    (haddress : node.address = found.address) (key : String) (old : Node)
    (hold : state.nc.getNode key = some old) (hsame : old.id = node.id) :
    old.address = node.address := by
  obtain ⟨source, hsource, -⟩ := exists_key_of_findPattern hfind
  have hvalue : ∀ key node, state.nc.getNode key = some node →
      StandsFor nc done key (node.id, node.address) := by
    intro key node hnode
    apply hstate
    rw [get?_footing, hnode, Option.map_some]
  obtain ⟨first, hfirst, hfirstId⟩ := (hvalue key old hold).exists_node hvalid
  obtain ⟨second, hsecond, hsecondId⟩ := (hvalue source found hsource).exists_node hvalid
  rw [haddress]
  exact hvalid.key_eq hfirst hsecond (hfirstId.trans (hsame.trans (hid.trans hsecondId.symm)))

theorem standsFor_append_of_exchange
    (hitem : ∀ node, FirstFor nc done item node → node.group = "Exchange & DEX") :
    StandsFor nc (done ++ [item]) key value ↔ StandsFor nc done key value := by
  unfold StandsFor
  simp only [annotates_append_iff_of_exchange hitem]

theorem standsFor_append_of_ne (hne : lower item.pattern ≠ key) :
    StandsFor nc (done ++ [item]) key value ↔ StandsFor nc done key value := by
  unfold StandsFor
  refine or_congr_right (and_congr_right fun _ => ⟨?_, ?_⟩)
  · rintro ⟨other, found, hannotates, hlower, hvalue⟩
    rcases annotates_append_singleton_iff.mp hannotates with hold | ⟨rfl, -⟩
    · exact ⟨other, found, hold, hlower, hvalue⟩
    · exact absurd hlower hne
  · rintro ⟨other, found, hannotates, hlower, hvalue⟩
    exact ⟨other, found, annotates_append_singleton_iff.mpr (.inl hannotates), hlower, hvalue⟩

theorem standsFor_append_self (hfirst : FirstFor nc done item node)
    (hgroup : node.group ≠ "Exchange & DEX")
    (hnew : ∀ other found, Annotates nc done other found →
      lower other.pattern ≠ lower item.pattern) :
    StandsFor nc (done ++ [item]) (lower item.pattern) value ↔ (node.id, node.address) = value := by
  cases hget : (footing nc).get? (lower item.pattern) with
  | some old =>
      -- the key was there, so it is where the pattern was found
      rw [standsFor_iff_of_mem hget]
      rw [get?_footing] at hget
      obtain ⟨first, hnode, rfl⟩ := Option.map_eq_some_iff.mp hget
      have hfound := hfirst.found
      unfold NodesCollection.findPattern at hfound
      rw [hnode] at hfound
      obtain rfl := Option.some.inj hfound
      exact eq_comm
  | none =>
      refine ⟨fun hstands => ?_, fun heq => .inr ⟨hget, item, node, ?_, rfl, heq⟩⟩
      · obtain ⟨-, other, found, hannotates, hlower, rfl⟩ :=
          hstands.resolve_left fun hold => absurd (hget.symm.trans hold) nofun
        rcases annotates_append_singleton_iff.mp hannotates with hold | ⟨rfl, hfound, -⟩
        · exact absurd hlower (hnew other found hold)
        · obtain rfl := Option.some.inj (hfirst.found.symm.trans hfound.found)
          rfl
      · exact annotates_append_singleton_iff.mpr (.inr ⟨rfl, hfirst, hgroup⟩)

theorem footing_annotate_get? (hvalid : Valid nc) (hfollows : Follows nc itemList done state)
    (hstate : ∀ key value, (footing state.nc).get? key = some value ↔ StandsFor nc done key value)
    (key : String) (value : ℤ × String) :
    (footing (annotate state item).nc).get? key = some value ↔
      StandsFor nc (done ++ [item]) key value := by
  have hsame : ∀ {node found : Node}, state.nc.findPattern item.pattern = some found →
      node.id = found.id → node.address = found.address → ∀ key old,
        state.nc.getNode key = some old → old.id = node.id → old.address = node.address :=
    fun hfind => address_eq_of_id_eq hvalid (fun key value => (hstate key value).mp) hfind
  generalize hnext : annotate state item = next
  have hround := hnext ▸ round_annotate state item
  cases hround with
  | seen hseen =>
      rw [standsFor_append_of_exchange fun node hfirst =>
        absurd hseen (hfollows.firstFor_iff.mp hfirst).1, hstate]
  | missing hnew hfind =>
      rw [standsFor_append_of_exchange fun node hfirst => ?_, hstate]
      have hfound := (hfollows.firstFor_iff.mp hfirst).2
      rw [hfind] at hfound
      cases hfound
  | exchange node hnew hfind hgroup =>
      have hmodify : footing (state.nc.modify { node with trdbInfo := some item }) =
          footing state.nc := footing_modify (hsame hfind rfl rfl)
      rw [standsFor_append_of_exchange fun other hfirst => ?_, ← hstate]
      · exact hmodify ▸ Iff.rfl
      · have hfound := (hfollows.firstFor_iff.mp hfirst).2
        exact Option.some.inj (hfind.symm.trans hfound) ▸ hgroup
  | annotated node hnew hfind hgroup =>
      have hid : (annotatedNode node item).id = node.id := Node.categorise_id _ _
      have haddress : (annotatedNode node item).address = node.address :=
        Node.categorise_address _ _
      have hfirst : FirstFor nc done item node := hfollows.firstFor_iff.mpr ⟨hnew, hfind⟩
      have hset : footing ((state.nc.modify (annotatedNode node item)).updateNode
          (lower item.pattern) (annotatedNode node item)) =
            (footing state.nc).set (lower item.pattern) (node.id, node.address) := by
        rw [← footing_modify (hsame hfind hid haddress), ← hid, ← haddress]
        exact Dict.map_set _ _ _ _
      rw [hset, Dict.get?_set]
      by_cases hkey : lower item.pattern = key
      · subst hkey
        rw [if_pos rfl, Option.some.injEq, standsFor_append_self hfirst hgroup]
        intro other found hannotates hlower
        exact hnew (hlower ▸ hfollows.seen_of_annotates hannotates)
      · rw [if_neg hkey, hstate, standsFor_append_of_ne hkey]

/-- **After the annotation, the keys stand for what `StandsFor` says.** -/
theorem get?_footing_updateAnnotations (hvalid : Valid nc) (itemList : List Transaction)
    (indicators : List Indicator) (key : String) (value : ℤ × String) :
    (footing (updateAnnotations nc itemList indicators).1).get? key = some value ↔
      StandsFor nc indicators key value := by
  unfold updateAnnotations
  induction indicators using List.reverseRecOn generalizing key value with
  | nil =>
      refine ⟨.inl, fun hstands => ?_⟩
      rcases hstands with hget | ⟨-, item, node, ⟨earlier, later, hsplit, -⟩, -⟩
      · exact hget
      · simp at hsplit
  | append_singleton indicators item ih =>
      rw [List.foldl_append]
      exact footing_annotate_get? hvalid (follows_updateAnnotations hvalid itemList indicators) ih
        key value

theorem StandsFor.unique (hvalid : Valid nc) {other : ℤ × String}
    (hstands : StandsFor nc indicators key value) (hother : StandsFor nc indicators key other) :
    value = other := by
  rw [← get?_footing_updateAnnotations hvalid []] at hstands hother
  exact Option.some.inj (hstands.symm.trans hother)

/-! ## The numbers of a side -/

/-- The nodes of a side: the wallet comes first and has id 0, the ids of the others are positive on
the distribution side and negative on the source side. -/
structure SideNumbered (mode : Mode) (wallet : String) (nc : NodesCollection) : Prop where
  valid : Valid nc
  entries : ∃ root rest, nc.nodes.entries = (wallet, root) :: rest ∧ root.id = 0 ∧
    ∀ entry ∈ rest, 0 < mode.toInt * entry.2.id

theorem SideNumbered.nonneg {mode : Mode} {wallet : String}
    (hnumbered : SideNumbered mode wallet nc)
    (hnode : nc.getNode key = some node) : 0 ≤ mode.toInt * node.id := by
  obtain ⟨root, rest, hentries, hroot, hrest⟩ := hnumbered.entries
  have hmem : (key, node) ∈ nc.nodes.entries := Dict.mem_entries_iff.mpr hnode
  rw [hentries] at hmem
  rcases List.mem_cons.mp hmem with heq | hmem
  · obtain ⟨-, rfl⟩ := Prod.mk.inj heq
    rw [hroot, mul_zero]
  · exact (hrest _ hmem).le

theorem StandsFor.nonneg {mode : Mode} {wallet : String}
    (hstands : StandsFor nc indicators key value) (hnumbered : SideNumbered mode wallet nc) :
    0 ≤ mode.toInt * value.1 := by
  obtain ⟨node, hnode, hid⟩ := hstands.exists_node hnumbered.valid
  rw [← hid]
  exact hnumbered.nonneg hnode

theorem SideNodes.numbered {level : ℤ → ℤ} {mode : Mode} {first : Transaction}
    {rest : List Transaction} {root : Node} {nodes : List Node}
    (hside : SideNodes level mode first rest root nodes nc) :
    SideNumbered mode (mode.inner first) nc := by
  refine ⟨hside.valid hside.root_id, root, nodes.map fun node => (node.address, node), ?_,
    hside.root_id, fun entry hentry => ?_⟩
  · rw [hside.entries, hside.root_address]
  · obtain ⟨node, hnode, rfl⟩ := List.mem_map.mp hentry
    exact numbers_pos Nat.one_pos (hside.ids ▸ List.mem_map_of_mem hnode)

/-- What a side is made of, shed or not. -/
theorem SideCall.generate_eq_ok {ops : FloatOps} {settings : ApiSettings} {call : SideCall}
    {mode : Mode} {buildLossyGraph : Bool} {track : TrackResult}
    (hside : call.generate ops settings mode buildLossyGraph = .ok (track, nc)) :
    ∃ all counts, call.nodes mode = .ok (all, counts) ∧ nc.nodes = all.nodes := by
  have hlossy : ∀ (all : NodesCollection) (edges : EdgeDict) (c : Prop) [Decidable c]
      (rest : EdgeDict × List Node × NodesCollection →
        Except PyErr (TrackResult × NodesCollection)),
      (∀ graph, ∃ made, rest graph = .ok (made, graph.2.2)) →
      (if c then makeLossyGraph ops settings all edges mode >>= rest
        else pure (Dict.empty, [], all) >>= rest) = .ok (track, nc) → nc.nodes = all.nodes := by
    intro all edges c _ rest hrest hresult
    split at hresult
    · obtain ⟨graph, hgraph, hresult⟩ := bind_eq_ok_iff.mp hresult
      obtain ⟨limited, -, hreturn⟩ := bind_eq_ok_iff.mp hgraph
      obtain ⟨made, hmade⟩ := hrest graph
      cases hreturn
      obtain ⟨-, rfl⟩ := Prod.mk.inj (Except.ok.inj (hmade.symm.trans hresult))
      rfl
    · obtain ⟨graph, hgraph, hresult⟩ := bind_eq_ok_iff.mp hresult
      obtain ⟨made, hmade⟩ := hrest graph
      cases hgraph
      obtain ⟨-, rfl⟩ := Prod.mk.inj (Except.ok.inj (hmade.symm.trans hresult))
      rfl
  cases call with
  | nodesEdges tokenType result =>
      obtain ⟨first, -, hside⟩ := bind_eq_ok_iff.mp hside
      obtain ⟨⟨all, counts⟩, hnodes, hside⟩ := bind_eq_ok_iff.mp hside
      obtain ⟨edges, -, hside⟩ := bind_eq_ok_iff.mp hside
      exact ⟨all, counts, hnodes, hlossy all edges _ _ (fun _ => ⟨_, rfl⟩) hside⟩
  | coinpath result =>
      obtain ⟨first, -, hside⟩ := bind_eq_ok_iff.mp hside
      obtain ⟨⟨all, counts⟩, hnodes, hside⟩ := bind_eq_ok_iff.mp hside
      obtain ⟨edges, -, hside⟩ := bind_eq_ok_iff.mp hside
      exact ⟨all, counts, hnodes, hlossy all edges _ _ (fun _ => ⟨_, rfl⟩) hside⟩

theorem SideNumbered.congr {mode : Mode} {wallet : String} {all : NodesCollection}
    (hnumbered : SideNumbered mode wallet all) (hnodes : nc.nodes = all.nodes) :
    SideNumbered mode wallet nc := by
  obtain ⟨⟨haddress, hids⟩, hentries⟩ := hnumbered
  refine ⟨⟨fun key node hnode => haddress key node ?_, hnodes ▸ hids⟩, hnodes ▸ hentries⟩
  rwa [NodesCollection.getNode, ← hnodes]

/-- **The nodes of a side are numbered from the wallet on.** -/
theorem SideCall.numbered {ops : FloatOps} {settings : ApiSettings} {call : SideCall} {mode : Mode}
    {buildLossyGraph : Bool} {track : TrackResult}
    (hside : call.generate ops settings mode buildLossyGraph = .ok (track, nc)) :
    ∃ wallet, SideNumbered mode wallet nc := by
  obtain ⟨all, counts, hnodes, heq⟩ := SideCall.generate_eq_ok hside
  obtain ⟨first, rest, root, nodes, -, hmade⟩ := SideCall.exists_sideNodes hnodes
  exact ⟨mode.inner first, hmade.numbered.congr heq⟩

/-! ## The merged report -/

/-- The filter of the collection lets the address through. -/
def Passes (nc : NodesCollection) (address : String) : Prop :=
  nc.edgeKeys.Nonempty → address ∈ nc.edgeKeys

/-- The id that `node_enum` of a side gives a key: that of the key after the annotation, if the
filter lets it through. -/
def NumberedAs (nc : NodesCollection) (indicators : List Indicator) (key : String) (id : ℤ) :
    Prop :=
  (∃ address, StandsFor nc indicators key (id, address)) ∧ Passes nc key

/-- `node_enum` has the id of every node of `node_list`. -/
def EnumAgrees (graph : GraphDict) : Prop :=
  ∀ node ∈ graph.nodeList, graph.nodeEnum.get? node.address = some node.id

/-- When it does.  An address of the distribution side that the source side numbers is the wallet on
both, any other passes the filter of the distribution side; and the nodes of the source side but the
first pass its filter, or are the wallet under one more key, which the distribution side numbers. -/
structure EnumAgreesOn (dist source : NodesCollection)
    (distIndicators sourceIndicators : List Indicator) : Prop where
  distNodes : ∀ address node, dist.getNode address = some node →
    (∀ id, NumberedAs source sourceIndicators address id → node.id = 0 ∧ id = 0) ∧
    ((∀ id, ¬ NumberedAs source sourceIndicators address id) → Passes dist address)
  sourceNodes : ∀ key value, source.nodes.keys.head? ≠ some key →
    StandsFor source sourceIndicators key value →
      Passes source value.2 ∨ (value.1 = 0 ∧ NumberedAs dist distIndicators value.2 0)

/-- The nodes after the annotation, by the values that their keys stand for. -/
theorem exists_getNode_iff (hvalid : Valid nc) (itemList : List Transaction) :
    (∃ node, (updateAnnotations nc itemList indicators).1.getNode key = some node ∧
      (node.id, node.address) = value) ↔ StandsFor nc indicators key value := by
  rw [← get?_footing_updateAnnotations hvalid itemList indicators, get?_footing,
    Option.map_eq_some_iff]

theorem get?_nodeEnum_iff (hvalid : Valid nc) (track : TrackResult) (id : ℤ) :
    (setAnnotationsFromDb (track, nc) indicators).nodeEnum.get? key = some id ↔
      NumberedAs nc indicators key id := by
  have hids : ∀ other, (updateAnnotations nc track.itemList indicators).1.getNodeEnum.get? key =
      some other ↔ ∃ address, StandsFor nc indicators key (other, address) := by
    intro other
    simp only [← exists_getNode_iff hvalid track.itemList, getNodeEnum_get?, Option.map_eq_some_iff,
      Prod.mk.injEq]
    constructor
    · rintro ⟨node, hnode, hid⟩
      exact ⟨node.address, node, hnode, hid, rfl⟩
    · rintro ⟨address, node, hnode, hid, -⟩
      exact ⟨node, hnode, hid⟩
  have hedgeKeys := (preserves_updateAnnotations nc track.itemList indicators).edgeKeys
  change (updateAnnotations nc track.itemList indicators).1.filterUpdateNodes.getNodeEnum.get? key =
    some id ↔ _
  unfold NumberedAs Passes
  rw [← hids, ← hedgeKeys]
  generalize (updateAnnotations nc track.itemList indicators).1 = updated
  unfold NodesCollection.filterUpdateNodes
  split
  · rename_i hnonempty
    rw [getNodeEnum_get?, getNodeEnum_get?, Option.map_eq_some_iff, Option.map_eq_some_iff]
    simp only [Dict.get?_filter_eq_some_iff, decide_eq_true_iff, hnonempty, true_imp_iff]
    constructor
    · rintro ⟨node, ⟨hnode, hmem⟩, hid⟩
      exact ⟨⟨node, hnode, hid⟩, hmem⟩
    · rintro ⟨⟨node, hnode, hid⟩, hmem⟩
      exact ⟨node, ⟨hnode, hmem⟩, hid⟩
  · rename_i hempty
    exact (and_iff_left fun h => absurd h hempty).symm

section Merge

variable {dist source : TrackResult × NodesCollection} {wallet wallet' : String}
  {distIndicators sourceIndicators : List Indicator}

/-- The source side wins. -/
theorem get?_merged_nodeEnum_iff (hdist : Valid dist.2) (hsource : Valid source.2) (id : ℤ) :
    (mergeGraphs (setAnnotationsFromDb source sourceIndicators)
        (setAnnotationsFromDb dist distIndicators)).nodeEnum.get? key = some id ↔
      NumberedAs source.2 sourceIndicators key id ∨
        ((∀ other, ¬ NumberedAs source.2 sourceIndicators key other) ∧
          NumberedAs dist.2 distIndicators key id) := by
  simp only [mergeGraphs, Dict.get?_update_eq, Option.or_eq_some_iff,
    ← get?_nodeEnum_iff hdist dist.1, ← get?_nodeEnum_iff hsource source.1,
    Option.eq_none_iff_forall_ne_some, ne_eq]

theorem forall_dist_nodes_iff (hdist : Valid dist.2) (p : ℤ → String → Prop) :
    (∀ node ∈ (setAnnotationsFromDb dist distIndicators).nodeList, p node.id node.address) ↔
      ∀ address node, dist.2.getNode address = some node → p node.id address := by
  constructor
  · intro hall address node hnode
    obtain ⟨changed, hchanged, heq⟩ := (exists_getNode_iff hdist dist.1.itemList).mpr
      (standsFor_address hdist hnode distIndicators)
    obtain ⟨hid, haddress⟩ := Prod.mk.inj heq
    rw [← hid, ← haddress]
    exact hall changed (Dict.mem_values_iff.mpr ⟨address, hchanged⟩)
  · intro hall changed hchanged
    obtain ⟨key, hget⟩ := Dict.mem_values_iff.mp hchanged
    have hstands := (exists_getNode_iff hdist dist.1.itemList).mp ⟨changed, hget, rfl⟩
    obtain ⟨node, hnode, hid⟩ := hstands.exists_node hdist
    have hnode' := hall changed.address node hnode
    rwa [hid] at hnode'

theorem forall_source_nodes_iff (hsource : SideNumbered .source wallet source.2)
    (p : ℤ → String → Prop) :
    (∀ node ∈ (setAnnotationsFromDb source sourceIndicators).nodeList.drop 1,
        p node.id node.address) ↔
      ∀ key value, source.2.nodes.keys.head? ≠ some key →
        StandsFor source.2 sourceIndicators key value → p value.1 value.2 := by
  have hhead : (updateAnnotations source.2 source.1.itemList sourceIndicators).1.nodes.keys.head? =
      source.2.nodes.keys.head? := by
    obtain ⟨root, rest, hentries, -⟩ := hsource.entries
    have hwallet : source.2.nodes.keys.head? = some wallet := by
      rw [Dict.keys, hentries]
      rfl
    rw [hwallet]
    exact (preserves_updateAnnotations source.2 source.1.itemList sourceIndicators).head
      wallet hwallet
  constructor
  · intro hall key value hne hstands
    obtain ⟨changed, hchanged, rfl⟩ :=
      (exists_getNode_iff hsource.valid source.1.itemList).mpr hstands
    exact hall changed (Dict.mem_values_drop_one_iff.mpr ⟨key, hhead ▸ hne, hchanged⟩)
  · intro hall changed hchanged
    obtain ⟨key, hne, hget⟩ := Dict.mem_values_drop_one_iff.mp hchanged
    exact hall key (changed.id, changed.address) (hhead ▸ hne)
      ((exists_getNode_iff hsource.valid source.1.itemList).mp ⟨changed, hget, rfl⟩)

theorem get?_merged_iff_of_dist (hdist : SideNumbered .distribution wallet dist.2)
    (hsource : SideNumbered .source wallet' source.2) {address : String} {node : Node}
    (hnode : dist.2.getNode address = some node) :
    (mergeGraphs (setAnnotationsFromDb source sourceIndicators)
        (setAnnotationsFromDb dist distIndicators)).nodeEnum.get? address = some node.id ↔
      (∀ id, NumberedAs source.2 sourceIndicators address id → node.id = 0 ∧ id = 0) ∧
      ((∀ id, ¬ NumberedAs source.2 sourceIndicators address id) → Passes dist.2 address) := by
  have hstands := standsFor_address hdist.valid hnode distIndicators
  rw [get?_merged_nodeEnum_iff hdist.valid hsource.valid]
  constructor
  · rintro (hnumbered | ⟨hnone, hnumbered⟩)
    · -- both signs at once: the id is zero
      refine ⟨fun id hid => ?_, fun hnone => absurd hnumbered (hnone _)⟩
      obtain ⟨⟨other, hother⟩, -⟩ := hnumbered
      obtain ⟨⟨other', hother'⟩, -⟩ := hid
      have heq : id = node.id := congrArg Prod.fst (hother'.unique hsource.valid hother)
      have hle := hother.nonneg hsource
      have hge := hstands.nonneg hdist
      simp only [Mode.toInt] at hle hge
      omega
    · exact ⟨fun id hid => absurd hid (hnone id), fun _ => hnumbered.2⟩
  · rintro ⟨hsome, hnone⟩
    by_cases hex : ∃ id, NumberedAs source.2 sourceIndicators address id
    · obtain ⟨id, hid⟩ := hex
      obtain ⟨hnodeZero, hidZero⟩ := hsome id hid
      exact .inl (hnodeZero ▸ hidZero ▸ hid)
    · have hall := not_exists.mp hex
      exact .inr ⟨hall, ⟨address, hstands⟩, hnone hall⟩

theorem get?_merged_iff_of_source (hdist : SideNumbered .distribution wallet dist.2)
    (hsource : SideNumbered .source wallet' source.2)
    (hstands : StandsFor source.2 sourceIndicators key value) :
    (mergeGraphs (setAnnotationsFromDb source sourceIndicators)
        (setAnnotationsFromDb dist distIndicators)).nodeEnum.get? value.2 = some value.1 ↔
      Passes source.2 value.2 ∨ (value.1 = 0 ∧ NumberedAs dist.2 distIndicators value.2 0) := by
  obtain ⟨id, address⟩ := value
  obtain ⟨node, hnode, rfl⟩ := hstands.exists_node hsource.valid
  have hhere := standsFor_address hsource.valid hnode sourceIndicators
  rw [get?_merged_nodeEnum_iff hdist.valid hsource.valid]
  constructor
  · rintro (hnumbered | ⟨-, hnumbered⟩)
    · exact .inl hnumbered.2
    · obtain ⟨other, hother⟩ := hnumbered.1
      have hle := hhere.nonneg hsource
      have hge := hother.nonneg hdist
      simp only [Mode.toInt] at hle hge
      have hzero : node.id = 0 := by omega
      exact .inr ⟨hzero, hzero ▸ hnumbered⟩
  · intro hor
    by_cases hpasses : Passes source.2 address
    · exact .inl ⟨⟨address, hhere⟩, hpasses⟩
    · obtain ⟨hzero, hnumbered⟩ := hor.resolve_left hpasses
      refine .inr ⟨fun other hother => hpasses hother.2, ?_⟩
      have hid : node.id = 0 := hzero
      rw [hid]
      exact hnumbered

/-- **The numbers of the merged report.** -/
theorem enumAgrees_iff_of_numbered (hdist : SideNumbered .distribution wallet dist.2)
    (hsource : SideNumbered .source wallet' source.2) :
    EnumAgrees (mergeGraphs (setAnnotationsFromDb source sourceIndicators)
        (setAnnotationsFromDb dist distIndicators)) ↔
      EnumAgreesOn dist.2 source.2 distIndicators sourceIndicators := by
  have hsplit : EnumAgrees (mergeGraphs (setAnnotationsFromDb source sourceIndicators)
      (setAnnotationsFromDb dist distIndicators)) ↔ _ := List.forall_mem_append
  rw [hsplit, forall_dist_nodes_iff hdist.valid fun id address =>
      (mergeGraphs (setAnnotationsFromDb source sourceIndicators)
        (setAnnotationsFromDb dist distIndicators)).nodeEnum.get? address = some id,
    forall_source_nodes_iff hsource fun id address =>
      (mergeGraphs (setAnnotationsFromDb source sourceIndicators)
        (setAnnotationsFromDb dist distIndicators)).nodeEnum.get? address = some id]
  constructor
  · rintro ⟨hdistAll, hsourceAll⟩
    refine ⟨fun address node hnode => ?_, fun key value hne hstands => ?_⟩
    · exact (get?_merged_iff_of_dist hdist hsource hnode).mp (hdistAll address node hnode)
    · exact (get?_merged_iff_of_source hdist hsource hstands).mp (hsourceAll key value hne hstands)
  · rintro ⟨hdistAll, hsourceAll⟩
    refine ⟨fun address node hnode => ?_, fun key value hne hstands => ?_⟩
    · exact (get?_merged_iff_of_dist hdist hsource hnode).mpr (hdistAll address node hnode)
    · exact (get?_merged_iff_of_source hdist hsource hstands).mpr (hsourceAll key value hne hstands)

/-- **`node_enum` agrees with `node_list` exactly if no address but the wallet is numbered by both
sides, and all nodes pass the filters.** -/
theorem enumAgrees_iff {ops : FloatOps} {settings : ApiSettings} {distCall sourceCall : SideCall}
    {buildLossyGraph : Bool}
    (hdist : distCall.generate ops settings .distribution buildLossyGraph = .ok dist)
    (hsource : sourceCall.generate ops settings .source buildLossyGraph = .ok source)
    (distIndicators sourceIndicators : List Indicator) :
    (∃ graph, makeGraphDict (some (setAnnotationsFromDb source sourceIndicators))
        (some (setAnnotationsFromDb dist distIndicators)) = some graph ∧ EnumAgrees graph) ↔
      EnumAgreesOn dist.2 source.2 distIndicators sourceIndicators := by
  obtain ⟨wallet, hdistNumbered⟩ := SideCall.numbered hdist
  obtain ⟨wallet', hsourceNumbered⟩ := SideCall.numbered hsource
  rw [← enumAgrees_iff_of_numbered hdistNumbered hsourceNumbered]
  constructor
  · rintro ⟨graph, hgraph, hagrees⟩
    obtain rfl := Option.some.inj hgraph
    exact hagrees
  · exact fun hagrees => ⟨_, rfl, hagrees⟩

end Merge

/-! ### An address on both sides -/

/-- A transfer back to the wallet. -/
def samplePayback : List Transaction := [sampleRow "0xA" "0xW" 2 0]

/-- The receiver has id 1 in the list, and number -1. -/
theorem not_enumAgrees_payback :
    ∃ dist source,
      SideCall.generate .exact ⟨500, 1000⟩ (.nodesEdges "ETH" sampleDist) .distribution true =
        .ok dist ∧
      SideCall.generate .exact ⟨500, 1000⟩ (.nodesEdges "ETH" samplePayback) .source true =
        .ok source ∧
      ¬ ∃ graph, makeGraphDict (some (setAnnotationsFromDb source []))
        (some (setAnnotationsFromDb dist [])) = some graph ∧ EnumAgrees graph := by
  refine ⟨_, _, rfl, rfl, ?_⟩
  rintro ⟨graph, hgraph, hagrees⟩
  obtain rfl := Option.some.inj hgraph
  have hnode := hagrees (outerNode .distribution "ETH" 1 (sampleRow "0xW" "0xA" 5 1))
    (List.mem_cons_of_mem _ List.mem_cons_self)
  exact absurd hnode (by decide)

theorem enumAgrees_payback :
    ∃ dist source,
      SideCall.generate .exact ⟨500, 1000⟩ (.nodesEdges "ETH" sampleDist) .distribution true =
        .ok dist ∧
      SideCall.generate .exact ⟨500, 1000⟩ (.nodesEdges "ETH" samplePayback) .source true =
        .ok source ∧
      ((∃ graph, makeGraphDict (some (setAnnotationsFromDb source []))
          (some (setAnnotationsFromDb dist [])) = some graph ∧ EnumAgrees graph) ↔
        EnumAgreesOn dist.2 source.2 [] []) := by
  obtain ⟨dist, hdist⟩ : ∃ dist, SideCall.generate .exact ⟨500, 1000⟩
      (.nodesEdges "ETH" sampleDist) .distribution true = .ok dist := ⟨_, rfl⟩
  obtain ⟨source, hsource⟩ : ∃ source, SideCall.generate .exact ⟨500, 1000⟩
      (.nodesEdges "ETH" samplePayback) .source true = .ok source := ⟨_, rfl⟩
  exact ⟨dist, source, hdist, hsource, enumAgrees_iff hdist hsource [] []⟩

end CatvService.Graph
