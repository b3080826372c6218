import CatvService.Labels.LabelMap
import CatvService.Reports.MultiReport

/-!
# One report

`CATVReportView.get` of `api/views.py`, with `_apply_user_labels_to_nodes` and the lists of
`ProcessNodeList`.  The nodes of the result file get the labels of the users, and are then listed by
their level, on each side up to the depth that the request was made with; that depth is read back
from the text that the serializer writes for it.

`get_eq_report` follows the labels from the requests that gave them to the nodes that show them:
whatever the order in which the database serves the rows, a node shows a label that some user has
given to its address and not taken back, and the lists have every node within the depths, each once.
-/

namespace CatvService.ReportView

open Dictionary Grouping Labels MultiReport PyText PyValue

/-! ## The view -/

/-- A node of a result file. -/
structure ViewNode where
  address : String
  level : ℤ
  group : String
  userLabel : Option String
  /-- The other fields. -/
  others : Obj

/-- The content of a result file: `"False"`, or a report, with its nodes or with the key that is
missing on the way to them. -/
inductive ResultFile where
  | notGenerated
  | report (nodeList : Except String (List ViewNode)) (messages : Entries String String)
      (others : Obj)

/-- `label_mapping`, from the rows in the order in which the database serves them. -/
def labelMapping (nodeLabels : List CatvNodeLabelModel) : Dict String String :=
  Dict.ofItems (nodeLabels.map fun label => (label.walletAddress, label.label))

/-- `_apply_user_labels_to_nodes`, on one node. -/
def applyLabel (mapping : Dict String String) (node : ViewNode) : ViewNode :=
  match mapping.get? node.address with
  | some label => { node with userLabel := some label, group := "User Label" }
  | none => node

/-- The text of the depths that the lists are made for. -/
def depthText : DepthField → String
  | .number depth => toString depth ++ " / " ++ toString depth
  | .text depths => depths

/-- A `ProcessNodeList`. -/
structure ProcessNodeList where
  nodeList : List ViewNode
  srcDepth : ℤ
  distDepth : ℤ

def ProcessNodeList.ofDepths (nodeList : List ViewNode) (depths : String) :
    Except PyErr ProcessNodeList := do
  let srcDepth ← intAt (split " / " depths) 0
  let distDepth ← intAt (split " / " depths) 1
  return ⟨nodeList, srcDepth, distDepth⟩

/-- `get_src_node_lists`, after `create_node_list_by_depth`. -/
def ProcessNodeList.srcNodeLists (process : ProcessNodeList) : List (List ViewNode) :=
  if process.srcDepth > 0 then
    let srcNodes := process.nodeList.filter fun node => node.level < 0
    (List.range (process.srcDepth.toNat + 1)).map fun srcLevel =>
      srcNodes.filter fun node => node.level.natAbs = srcLevel
  else []

/-- `get_dist_node_lists`, after `create_node_list_by_depth`. -/
def ProcessNodeList.distNodeLists (process : ProcessNodeList) : List (List ViewNode) :=
  if process.distDepth > 0 then
    let distNodes := process.nodeList.filter fun node => node.level > 0
    (List.range (process.distDepth.toNat + 1)).map fun distLevel : ℕ =>
      distNodes.filter fun node => node.level = (distLevel : ℤ)
  else []

/-- What the client is answered. -/
inductive Answer where
  | notReady
  | report (nodeList : List ViewNode) (srcNodeLists distNodeLists : List (List ViewNode))
      (messages : Entries String String) (others : Obj) (depth : DepthField)

/-- `CATVReportView.get`, for a request with its parameters, the rows that the database serves for
its uid and the file of its result; a missing file raises a `SuspiciousOperation`. -/
def get (gettext : String → String) (params : SearchParams)
    (nodeLabels : List CatvNodeLabelModel) (body : Option ResultFile) : Except PyErr Answer :=
  match body with
  | none => .ok .notReady
  | some .notGenerated => .ok .notReady
  | some (.report (.error key) _ _) => .error (.keyError key)
  | some (.report (.ok nodes) messages others) => do
      let nodeList := nodes.map (applyLabel (labelMapping nodeLabels))
      let process ← ProcessNodeList.ofDepths nodeList (depthText (getDepth params))
      return .report nodeList process.srcNodeLists process.distNodeLists
        (messages.map fun message => (message.1, gettext message.2)) others (getDepth params)

/-! ## The depths -/

/-- The depths of a search; a path search has one for both sides. -/
def depthsOf (params : SearchParams) : ℤ × ℤ :=
  if 0 < params.depth.getD 0 then (params.depth.getD 0, params.depth.getD 0)
  else (params.sourceDepth.getD 0, params.distributionDepth.getD 0)

/-- The text of two depths comes apart at its separator. -/
theorem split_depthText (source distribution : ℤ) :
    split " / " (toString source ++ " / " ++ toString distribution) =
      [toString source, toString distribution] := by
  have hblank : ∀ z : ℤ, ' ' ∉ (toString z).toList :=
    fun z hmem => absurd (not_space_of_mem_toString hmem).1 (by decide)
  have hlast : ¬ [' ', '/', ' '] <:+: (toString distribution).toList :=
    fun hoccurs => hblank distribution (hoccurs.subset List.mem_cons_self)
  have htext : (toString source ++ " / " ++ toString distribution).toList =
      (toString source).toList ++ ([' ', '/', ' '] ++ (toString distribution).toList) := by
    simp [String.toList_append]
  have hseparator : " / ".toList = [' ', '/', ' '] := rfl
  unfold split
  rw [htext, hseparator, splitFrom_append_of_notMem (hblank source), splitFrom_of_not_infix hlast]
  simp

theorem ofDepths_eq_ok (nodeList : List ViewNode) (source distribution : ℤ) :
    ProcessNodeList.ofDepths nodeList (toString source ++ " / " ++ toString distribution) =
      .ok ⟨nodeList, source, distribution⟩ := by
  refine bind_eq_ok_iff.mpr ⟨source, ?_, bind_eq_ok_iff.mpr ⟨distribution, ?_, rfl⟩⟩
  · rw [split_depthText]
    exact intAt_eq_ok rfl (parseInt_toString_self source)
  · rw [split_depthText]
    exact intAt_eq_ok rfl (parseInt_toString_self distribution)

theorem ofDepths_depthText {params : SearchParams} (hparams : params.isEmpty = false)
    (nodeList : List ViewNode) :
    ProcessNodeList.ofDepths nodeList (depthText (getDepth params)) =
      .ok ⟨nodeList, (depthsOf params).1, (depthsOf params).2⟩ := by
  unfold getDepth depthsOf
  rw [hparams, if_neg Bool.false_ne_true]
  split
  · exact ofDepths_eq_ok nodeList _ _
  · exact ofDepths_eq_ok nodeList _ _

/-! ## The lists by level -/

/-- The lists of one side, outwards from the level 0: each has the nodes of its level, in the order
of the report, and together they have the nodes within the depth, each of them once. -/
structure ByLevel (nodes : List ViewNode) (outward : ViewNode → ℤ) (depth : ℤ)
    (lists : List (List ViewNode)) : Prop where
  length : lists.length = if 0 < depth then depth.toNat + 1 else 0
  level : ∀ (k : ℕ) (list : List ViewNode), lists[k]? = some list →
    list = nodes.filter fun node => 0 < outward node ∧ outward node = k
  complete : lists.flatten.Perm
    (nodes.filter fun node => 0 < outward node ∧ outward node ≤ depth)

/-- The lists of one side, for whatever says how far out a node is. -/
theorem byLevel_of_range {nodes : List ViewNode} {outward : ViewNode → ℤ} {depth : ℤ}
    (hdepth : 0 < depth) :
    ByLevel nodes outward depth ((List.range (depth.toNat + 1)).map fun level =>
      group (fun node => (outward node).toNat) (nodes.filter fun node => 0 < outward node)
        level) where
  length := by rw [if_pos hdepth, List.length_map, List.length_range]
  level := by
    intro k list hlist
    rw [List.getElem?_map, Option.map_eq_some_iff] at hlist
    obtain ⟨level, hlevel, rfl⟩ := hlist
    obtain ⟨hlt, hindex⟩ := List.getElem?_eq_some_iff.mp hlevel
    obtain rfl : k = level := (List.getElem_range hlt).symm.trans hindex
    rw [group, List.filter_filter]
    refine List.filter_congr fun node _ => ?_
    rw [← Bool.decide_and, decide_eq_decide]
    omega
  complete := by
    rw [← List.flatMap_def]
    refine (flatMap_range_group_perm _ _ _).trans (List.Perm.of_eq ?_)
    rw [List.filter_filter]
    refine List.filter_congr fun node _ => ?_
    rw [← Bool.decide_and, decide_eq_decide]
    omega

theorem byLevel_nil {nodes : List ViewNode} {outward : ViewNode → ℤ} {depth : ℤ}
    (hdepth : ¬ 0 < depth) : ByLevel nodes outward depth [] where
  length := by rw [if_neg hdepth, List.length_nil]
  level := fun _ _ hlist => nomatch hlist
  complete := by
    refine List.Perm.of_eq (List.filter_eq_nil_iff.mpr fun node _ => ?_).symm
    rw [decide_eq_true_eq]
    omega

theorem byLevel_srcNodeLists (process : ProcessNodeList) :
    ByLevel process.nodeList (fun node => -node.level) process.srcDepth process.srcNodeLists := by
  unfold ProcessNodeList.srcNodeLists
  split
  · rename_i hdepth
    convert byLevel_of_range hdepth using 3
    rw [group, List.filter_filter, List.filter_filter]
    refine List.filter_congr fun node _ => ?_
    rw [← Bool.decide_and, ← Bool.decide_and, decide_eq_decide]
    omega
  · rename_i hdepth
    exact byLevel_nil hdepth

theorem byLevel_distNodeLists (process : ProcessNodeList) :
    ByLevel process.nodeList ViewNode.level process.distDepth process.distNodeLists := by
  unfold ProcessNodeList.distNodeLists
  split
  · rename_i hdepth
    convert byLevel_of_range hdepth using 3
    rw [group, List.filter_filter, List.filter_filter]
    refine List.filter_congr fun node _ => ?_
    rw [← Bool.decide_and, ← Bool.decide_and, decide_eq_decide]
    omega
  · rename_i hdepth
    exact byLevel_nil hdepth

/-! ## The labels -/

/-- A node as it is shown: with a label that some user has given to its address, or unchanged if
there is none. -/
def Shows (labels : LabelMap) (uid : String) (node shown : ViewNode) : Prop :=
  (∃ userId label, labels ⟨uid, node.address, userId⟩ = some label ∧
      shown = { node with userLabel := some label, group := "User Label" }) ∨
    (∀ userId, labels ⟨uid, node.address, userId⟩ = none) ∧ shown = node

variable {table : LabelTable} {uid : String} {nodeLabels : List CatvNodeLabelModel}

theorem shows_applyLabel (hsound : Sound table)
    (hserved : nodeLabels.Perm (table.rows.filter fun row => row.uid = uid)) (node : ViewNode) :
    Shows table.labelMap uid node (applyLabel (labelMapping nodeLabels) node) := by
  have hmem : ∀ row, row ∈ nodeLabels ↔ row ∈ table.rows ∧ row.uid = uid := by
    intro row
    rw [hserved.mem_iff, List.mem_filter, decide_eq_true_eq]
  unfold applyLabel
  split
  · rename_i label hget
    obtain ⟨row, hrow, hpair⟩ := List.mem_map.mp (Dict.mem_of_get?_ofItems hget)
    obtain ⟨hwallet, hlabel⟩ := Prod.mk.inj hpair
    obtain ⟨htable, huid⟩ := (hmem row).mp hrow
    refine .inl ⟨row.userId, label, (labelMap_eq_some_iff hsound).mpr ⟨row, htable, ?_, hlabel⟩,
      rfl⟩
    rw [CatvNodeLabelModel.key, huid, hwallet]
  · rename_i hget
    refine .inr ⟨fun userId => labelMap_eq_none_iff.mpr fun row hrow hkey => ?_, rfl⟩
    have hwallet : row.walletAddress = node.address := congrArg LabelKey.walletAddress hkey
    have huid : row.uid = uid := congrArg LabelKey.uid hkey
    have hkeys : node.address ∈ (labelMapping nodeLabels).keys :=
      Dict.mem_keys_ofItems.mpr ⟨_, List.mem_map_of_mem ((hmem row).mpr ⟨hrow, huid⟩), hwallet⟩
    obtain ⟨label, hlabel⟩ := Dict.mem_keys_iff.mp hkeys
    rw [hlabel] at hget
    cases hget

/-! ## The answer -/

/-- A user labels a wallet, then another one does, and the first one changes its label. -/
def twoUsers : List LabelRequest :=
  [.post 1 (some "r") (some "0xa") (some "mixer"), .post 2 (some "r") (some "0xa") (some "shop"),
    .post 1 (some "r") (some "0xa") (some "bridge")]

/-- **Whatever the users did to the labels before**, a report shows each node with a label that is
given and not taken back, and lists it at its level. -/
theorem get_eq_report (requests : List LabelRequest)
    (hserved : nodeLabels.Perm
      ((serve .empty requests).1.rows.filter fun row => row.uid = uid))
    {params : SearchParams} (hparams : params.isEmpty = false) (gettext : String → String)
    (nodes : List ViewNode) (messages : Entries String String) (others : Obj) :
    ∃ nodeList src dist,
      get gettext params nodeLabels (some (.report (.ok nodes) messages others)) =
        .ok (.report nodeList src dist (messages.map fun message => (message.1, gettext message.2))
          others (getDepth params)) ∧
      List.Forall₂ (Shows ((serve .empty requests).2.foldl LabelMap.apply fun _ => none) uid)
        nodes nodeList ∧
      ByLevel nodeList (fun node => -node.level) (depthsOf params).1 src ∧
      ByLevel nodeList ViewNode.level (depthsOf params).2 dist := by
  let nodeList := nodes.map (applyLabel (labelMapping nodeLabels))
  let process : ProcessNodeList := ⟨nodeList, (depthsOf params).1, (depthsOf params).2⟩
  refine ⟨nodeList, process.srcNodeLists, process.distNodeLists, ?_, ?_,
    byLevel_srcNodeLists process, byLevel_distNodeLists process⟩
  · exact bind_eq_ok_iff.mpr ⟨process, ofDepths_depthText hparams nodeList, rfl⟩
  · have hlabels := labelMap_foldl sound_empty requests
    rw [show LabelTable.empty.labelMap = fun _ => none from rfl] at hlabels
    rw [← hlabels]
    refine List.forall₂_map_right_iff.mpr (List.forall₂_same.mpr fun node _ => ?_)
    exact shows_applyLabel (sound_serve sound_empty requests) hserved node

theorem get_eq_report_twoUsers :
    ∃ nodeList src dist,
      get id ⟨some 2, none, none, []⟩ [⟨2, "r", "0xa", 2, "shop"⟩, ⟨1, "r", "0xa", 1, "bridge"⟩]
          (some (.report (.ok [⟨"0xa", -1, "No Tag", none, []⟩, ⟨"0xb", 0, "Main", none, []⟩]) []
            [])) =
        .ok (.report nodeList src dist [] [] (.number 2)) ∧
      List.Forall₂ (Shows ((serve .empty twoUsers).2.foldl LabelMap.apply fun _ => none) "r")
        [⟨"0xa", -1, "No Tag", none, []⟩, ⟨"0xb", 0, "Main", none, []⟩] nodeList ∧
      ByLevel nodeList (fun node => -node.level) 2 src ∧ ByLevel nodeList ViewNode.level 2 dist :=
  get_eq_report twoUsers (by decide +kernel) rfl id _ [] []

end CatvService.ReportView
