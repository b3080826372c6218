import CatvService.Library.Csv
import CatvService.Library.Value
import CatvService.Reports.WalletTotals
import Mathlib.Algebra.BigOperators.Group.Finset.Basic
import Mathlib.Data.List.Dedup

/-!
# The labels of an uploaded CSV

`find_main_token_symbol` and `match_report_labels_from_csv` of `api/utils.py`: the rows of the CSV
are matched against the nodes of a report, the nodes get the labels, and the totals of the matched
wallets are added up.

The nodes are looked up in a dictionary by address, and a dictionary keeps one node of each address,
the last one (`get?_nodeDict_eq_some_iff`), while the node list of a report of both sides may have
an address twice.  `labelsReach_iff` says which node lists get all labels.  The wallets, on the
other hand, are a list with one entry for each matched row, so an address that the CSV has twice is
counted twice; `countsOnce_iff` says when the totals are right.
-/

namespace CatvService.Reports

open Dictionary PyText PyValue

/-! ## Nodes, rows and errors -/

/-- A node of a report.  In `depth`, `label` and `group` a missing key is `None`; `level` and `id`
have a default where the key is missing, so there `none` is the missing key. -/
structure ReportNode where
  address : Option String
  depth : Option ℤ
  level : Option (Option ℤ)
  id : Option (Option ℤ)
  label : Option String
  group : Option String
  /-- The other entries. -/
  others : Obj

namespace ReportNode

/-- The key of the node in `node_dict`, if it has one. -/
def key (node : ReportNode) : Option String :=
  (node.address.filter (· ≠ "")).map lower

/-- `node["label"] = label; node["group"] = "User Label"`. -/
def setUserLabel (label : String) (node : ReportNode) : ReportNode :=
  { node with label := some label, group := some "User Label" }

/-- The depth that a matched wallet is given. -/
def walletDepth (node : ReportNode) : Option ℤ :=
  match node.depth with
  | some depth => some depth
  | none => node.level.getD (some 0)

@[simp] theorem key_setUserLabel (label : String) (node : ReportNode) :
    (node.setUserLabel label).key = node.key :=
  rfl

end ReportNode

/-- What the function raises. -/
inductive MatchError where
  | valueError (message : String)
  | csvError (error : Csv.CsvError)
  deriving DecidableEq

/-- The two cells of a row that are read, trimmed. -/
structure LabelRow where
  address : String
  label : String
  deriving DecidableEq

/-- `(row.get(field) or "").strip()`. -/
def cell (field : String) (row : Dict String (Option String)) : String :=
  trim (((row.get? field).getD none).getD "")

/-- A row with a wallet address; the loop goes on at once where there is none. -/
def labelRow? (row : Dict String (Option String)) : Option LabelRow :=
  if cell "wallet_address" row = "" then none
  else some ⟨cell "wallet_address" row, cell "label" row⟩

/-- The rows of the CSV that the loop looks up. -/
def labelRows (csvContent : String) : Except Csv.CsvError (List LabelRow) :=
  (Csv.dictRows (Csv.splitlines csvContent)).map fun rows => rows.filterMap labelRow?

/-! ## `find_main_token_symbol` -/

/-- `token_counts`. -/
def tokenCounts (sampleItems : List ReportItem) : Dict String ℕ :=
  sampleItems.foldl (fun tokenCounts item =>
    if item.symbol = "" then tokenCounts
    else tokenCounts.set item.symbol ((tokenCounts.get? item.symbol).getD 0 + 1)) Dict.empty

/-- `find_main_token_symbol(item_list)`. -/
def findMainTokenSymbol (itemList : List ReportItem) : Except MatchError String :=
  if itemList = [] then .error (.valueError "Cannot determine chain type: item_list is empty")
  else
    match (tokenCounts (itemList.take 20)).entries with
    | first :: rest =>
        .ok (rest.foldl (fun best entry => if best.2 < entry.2 then entry else best) first).1
    | [] =>
        .error (.valueError "Cannot determine chain type: no token symbols found in item_list")

/-! ## `match_report_labels_from_csv` -/

/-- `node_dict`, where a node is its position in the list. -/
def nodeDict (nodeList : List ReportNode) : Dict String ℕ :=
  Dict.ofItems (nodeList.zipIdx.filterMap fun node => node.1.key.map fun key => (key, node.2))

/-- An entry of `matched_wallets_info`. -/
structure MatchedWallet where
  address : String
  depth : Option ℤ
  id : Option ℤ
  label : String
  deriving DecidableEq

/-- What the totals read of a matched wallet. -/
def MatchedWallet.wallet (wallet : MatchedWallet) : Wallet :=
  ⟨wallet.address, wallet.depth, none⟩

/-- What the loop over the rows changes. -/
structure MatchState where
  nodeList : List ReportNode
  matchedWalletsInfo : List MatchedWallet
  updatedCount : ℕ

/-- One round of the loop. -/
def matchRow (nodeDict : Dict String ℕ) (state : MatchState) (row : LabelRow) : MatchState :=
  match nodeDict.get? (lower row.address) with
  | none => state
  | some i =>
      match state.nodeList[i]? with
      | none => state
      | some node =>
          { nodeList := state.nodeList.modify i (ReportNode.setUserLabel row.label)
            matchedWalletsInfo := state.matchedWalletsInfo ++
              [⟨row.address, node.walletDepth, node.id.getD (some 0), row.label⟩]
            updatedCount := state.updatedCount + 1 }

/-- The first pass over the rows. -/
def matchRows (nodeList : List ReportNode) (rows : List LabelRow) : MatchState :=
  rows.foldl (matchRow (nodeDict nodeList)) ⟨nodeList, [], 0⟩

/-- What the function returns; a wallet comes with its `total_amount`. -/
structure MatchResult where
  nodeList : List ReportNode
  wallets : List (MatchedWallet × ℚ)
  totalAmount : ℚ
  updatedCount : ℕ

/-- The totals are calculated once for all matched wallets. -/
def totalsDict (itemList : List ReportItem) (mainSymbol : String) (wallets : List MatchedWallet) :
    Dict String ℚ :=
  calculateWalletsTotalAmounts itemList (wallets.map MatchedWallet.wallet) mainSymbol

/-- The second pass, and the result. -/
def matchResult (itemList : List ReportItem) (mainSymbol : String) (state : MatchState) :
    MatchResult :=
  let wallets := state.matchedWalletsInfo.map fun wallet =>
    (wallet, ((totalsDict itemList mainSymbol state.matchedWalletsInfo).get?
      (lower wallet.address)).getD 0)
  ⟨state.nodeList, wallets, (wallets.map Prod.snd).sum, state.updatedCount⟩

/-- `reader.fieldnames` has to have the two columns. -/
def checkFields (csvContent : String) : Except MatchError Unit := do
  let fieldnames ← (Csv.fieldnames (Csv.splitlines csvContent)).mapError .csvError
  if "wallet_address" ∈ fieldnames ∧ "label" ∈ fieldnames then .ok ()
  else .error (.valueError "CSV must contain 'wallet_address' and 'label' columns.")

/-- `match_report_labels_from_csv(csv_content, node_list, item_list)`. -/
def matchReportLabelsFromCsv (csvContent : String) (nodeList : List ReportNode)
    (itemList : List ReportItem) : Except MatchError MatchResult :=
  if csvContent = "" then .ok ⟨nodeList, [], 0, 0⟩
  else do
    checkFields csvContent
    let mainSymbol ← findMainTokenSymbol itemList
    let rows ← (labelRows csvContent).mapError .csvError
    .ok (matchResult itemList mainSymbol (matchRows nodeList rows))

/-! ## What the CSV says -/

/-- The label of the last row with an address. -/
def lastLabel (rows : List LabelRow) (address : String) : Option String :=
  (rows.filter fun row => lower row.address = address).getLast?.map LabelRow.label

/-- The label that the CSV has for a node, if it has one. -/
def labelFor (rows : List LabelRow) (node : ReportNode) : Option String :=
  node.key.bind (lastLabel rows)

/-- The node as it should be after the CSV has been applied. -/
def relabelled (rows : List LabelRow) (node : ReportNode) : ReportNode :=
  match labelFor rows node with
  | some label => node.setUserLabel label
  | none => node

/-- The rows of a CSV that is read without an error. -/
def csvRows (csvContent : String) : List LabelRow :=
  match labelRows csvContent with
  | .ok rows => rows
  | .error _ => []

/-- Every node whose address the CSV has is given the label of the last such row and the group of
user labels, and every other node is left as it was. -/
def LabelsReach (csvContent : String) (nodeList : List ReportNode) (result : MatchResult) : Prop :=
  result.nodeList = nodeList.map (relabelled (csvRows csvContent))

/-- The node has the label already that the CSV has for it, if it has one. -/
def Labelled (rows : List LabelRow) (node : ReportNode) : Prop :=
  ∀ label, labelFor rows node = some label →
    node.label = some label ∧ node.group = some "User Label"

/-! ## The last node of an address -/

variable {nodeList : List ReportNode} {rows : List LabelRow} {k : String} {i : ℕ}

theorem get?_nodeDict_append (nodeList : List ReportNode) (node : ReportNode) (k : String) :
    (nodeDict (nodeList ++ [node])).get? k =
      if node.key = some k then some nodeList.length else (nodeDict nodeList).get? k := by
  unfold nodeDict Dict.ofItems
  rw [List.zipIdx_append, List.filterMap_append, List.foldl_append]
  cases hkey : node.key with
  | none => simp [hkey]
  | some key => simp [hkey, Dict.get?_set]

/-- What the dictionary has under an address is a node with the address, and no node behind it has
the address. -/
theorem last_of_get?_nodeDict (hget : (nodeDict nodeList).get? k = some i) :
    (∃ node, nodeList[i]? = some node ∧ node.key = some k) ∧
      ∀ j other, nodeList[j]? = some other → i < j → other.key ≠ some k := by
  induction nodeList using List.reverseRecOn with
  | nil => exact absurd hget (by simp [nodeDict, Dict.ofItems])
  | append_singleton nodeList node ih =>
      rw [get?_nodeDict_append] at hget
      split at hget
      · rename_i hkey
        obtain rfl := Option.some.inj hget
        refine ⟨⟨node, List.getElem?_concat_length, hkey⟩, fun j other hother hlt => ?_⟩
        have hj := (List.getElem?_eq_some_iff.mp hother).1
        rw [List.length_append, List.length_singleton] at hj
        omega
      · rename_i hkey
        obtain ⟨⟨found, hfound, hfoundKey⟩, hlast⟩ := ih hget
        have hi := (List.getElem?_eq_some_iff.mp hfound).1
        refine ⟨⟨found, ?_, hfoundKey⟩, fun j other hother hlt => ?_⟩
        · rw [List.getElem?_append_left hi]
          exact hfound
        · rcases Nat.lt_or_ge j nodeList.length with hj | hj
          · rw [List.getElem?_append_left hj] at hother
            exact hlast j other hother hlt
          · rw [List.getElem?_append_right hj, List.getElem?_singleton] at hother
            split at hother
            · exact Option.some.inj hother ▸ hkey
            · cases hother

theorem exists_get?_nodeDict {node : ReportNode} (hnode : nodeList[i]? = some node)
    (hkey : node.key = some k) : ∃ j, (nodeDict nodeList).get? k = some j ∧ i ≤ j := by
  induction nodeList using List.reverseRecOn with
  | nil => cases hnode
  | append_singleton nodeList last ih =>
      rw [get?_nodeDict_append]
      have hi := (List.getElem?_eq_some_iff.mp hnode).1
      rw [List.length_append, List.length_singleton] at hi
      split
      · exact ⟨_, rfl, by omega⟩
      · rename_i hlast
        rcases Nat.lt_or_ge i nodeList.length with hlt | hge
        · rw [List.getElem?_append_left hlt] at hnode
          exact ih hnode
        · obtain rfl : i = nodeList.length := by omega
          rw [List.getElem?_concat_length] at hnode
          exact absurd (Option.some.inj hnode ▸ hkey) hlast

/-! ## The loop over the rows -/

theorem lastLabel_append (rows : List LabelRow) (row : LabelRow) (address : String) :
    lastLabel (rows ++ [row]) address =
      if lower row.address = address then some row.label else lastLabel rows address := by
  unfold lastLabel
  by_cases hrow : lower row.address = address
  · simp [List.filter_append, hrow]
  · simp [List.filter_append, hrow]

theorem relabelled_append_of_eq {node : ReportNode} {row : LabelRow}
    (hkey : node.key = some (lower row.address)) :
    relabelled (rows ++ [row]) node = (relabelled rows node).setUserLabel row.label := by
  unfold relabelled labelFor
  rw [hkey, Option.bind_some, Option.bind_some, lastLabel_append, if_pos rfl]
  cases lastLabel rows (lower row.address) with
  | none => rfl
  | some label => rfl

theorem relabelled_append_of_ne {node : ReportNode} {row : LabelRow}
    (hkey : node.key ≠ some (lower row.address)) :
    relabelled (rows ++ [row]) node = relabelled rows node := by
  have hlabel : labelFor (rows ++ [row]) node = labelFor rows node := by
    unfold labelFor
    cases hnode : node.key with
    | none => rfl
    | some key =>
        have hne : lower row.address ≠ key := fun h => hkey (hnode.trans (congrArg some h.symm))
        rw [Option.bind_some, Option.bind_some, lastLabel_append, if_neg hne]
  unfold relabelled
  rw [hlabel]

/-- The node at a position is the one that the dictionary has under its address. -/
def LookedUp (nodeList : List ReportNode) (i : ℕ) (node : ReportNode) : Prop :=
  node.key.bind (nodeDict nodeList).get? = some i

instance (nodeList : List ReportNode) (i : ℕ) (node : ReportNode) :
    Decidable (LookedUp nodeList i node) :=
  inferInstanceAs (Decidable (_ = _))

theorem matchRows_append (nodeList : List ReportNode) (rows : List LabelRow) (row : LabelRow) :
    matchRows nodeList (rows ++ [row]) =
      matchRow (nodeDict nodeList) (matchRows nodeList rows) row := by
  unfold matchRows
  rw [List.foldl_append]
  rfl

theorem matchRow_of_none {nodeDict : Dict String ℕ} {row : LabelRow}
    (hget : nodeDict.get? (lower row.address) = none) (state : MatchState) :
    matchRow nodeDict state row = state := by
  unfold matchRow
  rw [hget]

theorem nodeList_matchRow_of_some {nodeDict : Dict String ℕ} {row : LabelRow}
    (hget : nodeDict.get? (lower row.address) = some i) (state : MatchState) :
    (matchRow nodeDict state row).nodeList =
      state.nodeList.modify i (ReportNode.setUserLabel row.label) := by
  unfold matchRow
  rw [hget]
  cases hnode : state.nodeList[i]? with
  | none =>
      simp only [hnode]
      exact (List.modify_eq_self (List.getElem?_eq_none_iff.mp hnode)).symm
  | some node => simp only [hnode]

/-- After some rows, the nodes that the dictionary has are labelled as these rows say, and the
others are as they were. -/
theorem getElem?_nodeList_matchRows (nodeList : List ReportNode) (rows : List LabelRow) (i : ℕ) :
    (matchRows nodeList rows).nodeList[i]? = nodeList[i]?.map fun node =>
      if LookedUp nodeList i node then relabelled rows node else node := by
  induction rows using List.reverseRecOn with
  | nil =>
      have hnil : ∀ node, relabelled [] node = node := by
        intro node
        unfold relabelled labelFor
        cases node.key with
        | none => rfl
        | some key => rfl
      simp [hnil, matchRows]
  | append_singleton rows row ih =>
      rw [matchRows_append]
      -- a row of another address says nothing about the node
      have hother : ∀ node, (nodeDict nodeList).get? (lower row.address) ≠ some i →
          (if LookedUp nodeList i node then relabelled (rows ++ [row]) node else node) =
            if LookedUp nodeList i node then relabelled rows node else node := by
        intro node hne
        split
        · rename_i hlooked
          refine relabelled_append_of_ne fun hkey => hne ?_
          unfold LookedUp at hlooked
          rwa [hkey] at hlooked
        · rfl
      cases hget : (nodeDict nodeList).get? (lower row.address) with
      | none =>
          rw [matchRow_of_none hget, ih]
          exact Option.map_congr fun node _ => (hother node (hget ▸ nofun)).symm
      | some j =>
          rw [nodeList_matchRow_of_some hget, List.getElem?_modify, ih]
          by_cases hji : j = i
          · subst hji
            obtain ⟨⟨node, hnode, hkey⟩, -⟩ := last_of_get?_nodeDict hget
            have hlooked : LookedUp nodeList j node := by
              unfold LookedUp
              rw [hkey]
              exact hget
            rw [hnode]
            simp [hlooked, relabelled_append_of_eq hkey]
          · have hne : (nodeDict nodeList).get? (lower row.address) ≠ some i :=
              fun h => hji (Option.some.inj (hget.symm.trans h))
            simp only [hji, if_false, hother _ hne]
            exact id_map' _

/-! ## Which nodes get their labels -/

/-- What the function returns is the result of both passes, with the main token of the items. -/
theorem result_eq_of_match {csvContent : String} {itemList : List ReportItem} {result : MatchResult}
    (hresult : matchReportLabelsFromCsv csvContent nodeList itemList = .ok result) :
    csvContent = "" ∧ result = ⟨nodeList, [], 0, 0⟩ ∨
      ∃ mainSymbol, findMainTokenSymbol itemList = .ok mainSymbol ∧
        result = matchResult itemList mainSymbol (matchRows nodeList (csvRows csvContent)) := by
  unfold matchReportLabelsFromCsv at hresult
  split at hresult
  · rename_i hempty
    cases hresult
    exact .inl ⟨hempty, rfl⟩
  · simp only [bind_eq_ok_iff] at hresult
    obtain ⟨-, -, mainSymbol, hsymbol, rows, hrows, hok⟩ := hresult
    cases hok
    refine .inr ⟨mainSymbol, hsymbol, ?_⟩
    unfold csvRows
    cases hread : labelRows csvContent with
    | error e =>
        rw [hread] at hrows
        cases hrows
    | ok read =>
        rw [hread] at hrows
        cases hrows
        rfl

theorem nodeList_eq_of_match {csvContent : String} {itemList : List ReportItem}
    {result : MatchResult}
    (hresult : matchReportLabelsFromCsv csvContent nodeList itemList = .ok result) :
    result.nodeList = (matchRows nodeList (csvRows csvContent)).nodeList := by
  rcases result_eq_of_match hresult with ⟨rfl, rfl⟩ | ⟨mainSymbol, -, rfl⟩
  · rfl
  · rfl

theorem relabelled_eq_self_iff {node : ReportNode} :
    relabelled rows node = node ↔ Labelled rows node := by
  unfold relabelled Labelled
  cases hlabel : labelFor rows node with
  | none => simp
  | some label =>
      simp only [Option.some.injEq, forall_eq']
      refine ⟨fun heq => ?_, fun hlabelled => ?_⟩
      · rw [← heq]
        exact ⟨rfl, rfl⟩
      · unfold ReportNode.setUserLabel
        rw [← hlabelled.1, ← hlabelled.2]

/-- A node that has another one of its address behind it has its label already. -/
def EarlierLabelled (csvContent : String) (nodeList : List ReportNode) : Prop :=
  nodeList.Pairwise fun node other => node.key = other.key → Labelled (csvRows csvContent) node

theorem exists_key_of_labelFor {node : ReportNode} {label : String}
    (hlabel : labelFor rows node = some label) : ∃ k, node.key = some k := by
  obtain ⟨k, hkey, -⟩ := Option.bind_eq_some_iff.mp hlabel
  exact ⟨k, hkey⟩

/-- **The labels reach all nodes exactly if the nodes that are not the last of their address have
theirs already.** -/
theorem labelsReach_iff {csvContent : String} {nodeList : List ReportNode}
    {itemList : List ReportItem} {result : MatchResult}
    (hresult : matchReportLabelsFromCsv csvContent nodeList itemList = .ok result) :
    LabelsReach csvContent nodeList result ↔ EarlierLabelled csvContent nodeList := by
  unfold LabelsReach EarlierLabelled
  rw [nodeList_eq_of_match hresult, List.pairwise_iff_getElem]
  set rows := csvRows csvContent
  refine ⟨fun hreach i j hi hj hij hkeys label hlabel => ?_, fun hearlier => ?_⟩
  · -- the dictionary does not have the earlier one of two nodes
    obtain ⟨k, hkey⟩ := exists_key_of_labelFor hlabel
    have hnot : ¬ LookedUp nodeList i nodeList[i] := by
      intro hlooked
      unfold LookedUp at hlooked
      rw [hkey] at hlooked
      have hlast := (last_of_get?_nodeDict hlooked).2
      exact hlast j nodeList[j] (List.getElem?_eq_getElem hj) hij (hkeys ▸ hkey)
    have hnode := getElem?_nodeList_matchRows nodeList rows i
    rw [hreach, List.getElem?_map, List.getElem?_eq_getElem hi, Option.map_some, Option.map_some,
      if_neg hnot] at hnode
    exact relabelled_eq_self_iff.mp (Option.some.inj hnode) label hlabel
  · refine List.ext_getElem? fun i => ?_
    rw [getElem?_nodeList_matchRows, List.getElem?_map]
    refine Option.map_congr fun node hnode => ?_
    split
    · rfl
    · rename_i hnot
      refine (relabelled_eq_self_iff.mpr fun label hlabel => ?_).symm
      obtain ⟨k, hkey⟩ := exists_key_of_labelFor hlabel
      obtain ⟨j, hget, hij⟩ := exists_get?_nodeDict hnode hkey
      have hne : i ≠ j := by
        rintro rfl
        apply hnot
        unfold LookedUp
        rw [hkey]
        exact hget
      obtain ⟨⟨other, hother, hotherKey⟩, -⟩ := last_of_get?_nodeDict hget
      obtain ⟨hi, rfl⟩ := List.getElem?_eq_some_iff.mp hnode
      obtain ⟨hj, rfl⟩ := List.getElem?_eq_some_iff.mp hother
      exact hearlier i j hi hj (by omega) (hkey.trans hotherKey.symm) label hlabel

/-! ### A wallet on both sides -/

def sampleNode (id : ℤ) (address : String) (depth : ℤ) : ReportNode :=
  ⟨some address, none, some (some depth), some (some id), some "", some "No Tag", []⟩

def sampleTransfer (sender receiver : String) (amount : ℚ) : ReportItem :=
  ⟨sender, receiver, "ETH", amount, some "t1", none, none, none⟩

def sampleTransfers : List ReportItem :=
  [sampleTransfer "0xShop" "0xWallet" 2, sampleTransfer "0xWallet" "0xShop" 3]

/-- The CSV names the wallet that has been searched. -/
def rootCsv : String :=
  "wallet_address,label\n0xWALLET,Mine"

def bothSides : List ReportNode :=
  [sampleNode 0 "0xWallet" 0, sampleNode 1 "0xShop" 1, sampleNode (-1) "0xShop" (-1)]

theorem match_rootCsv :
    matchReportLabelsFromCsv rootCsv bothSides sampleTransfers =
      .ok (matchResult sampleTransfers "ETH" (matchRows bothSides [⟨"0xWALLET", "Mine"⟩])) :=
  rfl

theorem labelsReach_rootCsv :
    LabelsReach rootCsv bothSides
        (matchResult sampleTransfers "ETH" (matchRows bothSides [⟨"0xWALLET", "Mine"⟩])) ↔
      EarlierLabelled rootCsv bothSides :=
  labelsReach_iff match_rootCsv

/-- The CSV names the wallet that is on both sides; only its node on the source side is labelled. -/
def shopCsv : String :=
  "wallet_address,label\n0xshop,Shop"

theorem not_labelsReach_shopCsv :
    ∃ result, matchReportLabelsFromCsv shopCsv bothSides sampleTransfers = .ok result ∧
      result.nodeList.map ReportNode.label = [some "", some "", some "Shop"] ∧
      ¬ LabelsReach shopCsv bothSides result := by
  refine ⟨_, rfl, rfl, fun hreach => ?_⟩
  have hlabels := congrArg (List.map ReportNode.label) hreach
  exact absurd hlabels (by decide)

/-! ## The wallets -/

/-- Some node has the address. -/
def HasNode (nodeList : List ReportNode) (address : String) : Prop :=
  some address ∈ nodeList.map ReportNode.key

instance (nodeList : List ReportNode) (address : String) : Decidable (HasNode nodeList address) :=
  inferInstanceAs (Decidable (_ ∈ _))

/-- The addresses of the rows that a node has, in lower case. -/
def matchedAddresses (csvContent : String) (nodeList : List ReportNode) : List String :=
  ((csvRows csvContent).map fun row => lower row.address).filter fun address =>
    HasNode nodeList address

/-- The different addresses of the wallets of a result. -/
def MatchResult.addresses (result : MatchResult) : Finset String :=
  (result.wallets.map fun wallet => lower wallet.1.address).toFinset

/-- The total that is calculated for an address. -/
def addressTotal (itemList : List ReportItem) (result : MatchResult) (address : String) : ℚ :=
  match findMainTokenSymbol itemList with
  | .ok mainSymbol =>
      ((totalsDict itemList mainSymbol (result.wallets.map Prod.fst)).get? address).getD 0
  | .error _ => 0

/-- Every address of a matched wallet counts once. -/
structure CountsOnce (itemList : List ReportItem) (result : MatchResult) : Prop where
  total : result.totalAmount = ∑ address ∈ result.addresses, addressTotal itemList result address
  count : result.updatedCount = result.addresses.card

theorem get?_nodeDict_eq_none_iff : (nodeDict nodeList).get? k = none ↔ ¬ HasNode nodeList k := by
  refine ⟨fun hnone hmem => ?_, fun hnot => ?_⟩
  · obtain ⟨node, hmem, hkey⟩ := List.mem_map.mp hmem
    obtain ⟨i, hnode⟩ := List.mem_iff_getElem?.mp hmem
    obtain ⟨j, hget, -⟩ := exists_get?_nodeDict hnode hkey
    exact absurd (hnone.symm.trans hget) nofun
  · refine Option.eq_none_iff_forall_ne_some.mpr fun i hget => hnot ?_
    obtain ⟨⟨node, hnode, hkey⟩, -⟩ := last_of_get?_nodeDict hget
    exact List.mem_map.mpr ⟨node, List.mem_of_getElem? hnode, hkey⟩

/-- After some rows, there is one wallet for each row whose address a node has. -/
theorem wallets_matchRows (nodeList : List ReportNode) (rows : List LabelRow) :
    ((matchRows nodeList rows).matchedWalletsInfo.map fun wallet => lower wallet.address) =
        (rows.map fun row => lower row.address).filter (fun address => HasNode nodeList address) ∧
      (matchRows nodeList rows).updatedCount =
        (matchRows nodeList rows).matchedWalletsInfo.length := by
  induction rows using List.reverseRecOn with
  | nil => exact ⟨rfl, rfl⟩
  | append_singleton rows row ih =>
      obtain ⟨hwallets, hcount⟩ := ih
      rw [matchRows_append, List.map_append, List.filter_append, ← hwallets]
      cases hget : (nodeDict nodeList).get? (lower row.address) with
      | none =>
          have hnot := get?_nodeDict_eq_none_iff.mp hget
          rw [matchRow_of_none hget]
          exact ⟨by simp [hnot], hcount⟩
      | some i =>
          have hmem : HasNode nodeList (lower row.address) := by
            by_contra hnot
            exact absurd (hget.symm.trans (get?_nodeDict_eq_none_iff.mpr hnot)) nofun
          obtain ⟨⟨node, hnode, -⟩, -⟩ := last_of_get?_nodeDict hget
          have hnow := getElem?_nodeList_matchRows nodeList rows i
          rw [hnode, Option.map_some] at hnow
          unfold matchRow
          rw [hget]
          simp only [hnow]
          exact ⟨by simp [hmem], by simp [hcount]⟩

/-- The wallets of a result are those of the rows that a node has, each with the total of its
address, and both numbers are taken over all of them. -/
theorem spec_of_match {csvContent : String} {itemList : List ReportItem} {result : MatchResult}
    (hresult : matchReportLabelsFromCsv csvContent nodeList itemList = .ok result) :
    (result.wallets.map fun wallet => lower wallet.1.address) =
        matchedAddresses csvContent nodeList ∧
      result.totalAmount =
        ((matchedAddresses csvContent nodeList).map (addressTotal itemList result)).sum ∧
      result.updatedCount = (matchedAddresses csvContent nodeList).length := by
  rcases result_eq_of_match hresult with ⟨rfl, rfl⟩ | ⟨mainSymbol, hsymbol, rfl⟩
  · exact ⟨rfl, rfl, rfl⟩
  · obtain ⟨hwallets, hcount⟩ := wallets_matchRows nodeList (csvRows csvContent)
    unfold matchedAddresses
    rw [← hwallets]
    refine ⟨?_, ?_, ?_⟩
    · simp [matchResult]
    · simp [matchResult, addressTotal, hsymbol, Function.comp_def]
    · simp [matchResult, hcount]

/-- **Every wallet counts once exactly if no address of a node is in the CSV twice.** -/
theorem countsOnce_iff {csvContent : String} {nodeList : List ReportNode}
    {itemList : List ReportItem} {result : MatchResult}
    (hresult : matchReportLabelsFromCsv csvContent nodeList itemList = .ok result) :
    CountsOnce itemList result ↔ (matchedAddresses csvContent nodeList).Nodup := by
  obtain ⟨hwallets, htotal, hcount⟩ := spec_of_match hresult
  have haddresses : result.addresses = (matchedAddresses csvContent nodeList).toFinset :=
    congrArg List.toFinset hwallets
  refine ⟨fun honce => ?_, fun hnodup => ⟨?_, ?_⟩⟩
  · have hcard := honce.count
    rw [hcount, haddresses] at hcard
    exact Multiset.toFinset_card_eq_card_iff_nodup.mp hcard.symm
  · rw [htotal, haddresses, List.sum_toFinset _ hnodup]
  · rw [hcount, haddresses, List.toFinset_card_of_nodup hnodup]

theorem countsOnce_rootCsv :
    CountsOnce sampleTransfers
        (matchResult sampleTransfers "ETH" (matchRows bothSides [⟨"0xWALLET", "Mine"⟩])) ↔
      (matchedAddresses rootCsv bothSides).Nodup :=
  countsOnce_iff match_rootCsv

/-- The same wallet in two casings. -/
def twiceCsv : String :=
  "wallet_address,label\n0xWallet,Mine\n0xWALLET,Mine"

theorem match_twiceCsv :
    matchReportLabelsFromCsv twiceCsv bothSides sampleTransfers =
      .ok (matchResult sampleTransfers "ETH"
        (matchRows bothSides [⟨"0xWallet", "Mine"⟩, ⟨"0xWALLET", "Mine"⟩])) :=
  rfl

theorem not_countsOnce_twiceCsv :
    ∃ result, matchReportLabelsFromCsv twiceCsv bothSides sampleTransfers = .ok result ∧
      result.totalAmount = 6 ∧ result.updatedCount = 2 ∧
      ¬ CountsOnce sampleTransfers result := by
  refine ⟨_, match_twiceCsv, by decide +kernel, rfl, fun honce => ?_⟩
  exact absurd honce.count (by decide)

end CatvService.Reports
