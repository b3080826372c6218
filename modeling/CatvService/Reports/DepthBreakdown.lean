import CatvService.Library.Dict
import CatvService.Library.Grouping
import CatvService.Library.Text
import CatvService.Library.Value
import Mathlib.Algebra.Order.Ring.Rat
import Mathlib.Data.List.MinMax
import Mathlib.Order.Bounds.Basic

/-!
# The depth breakdown

`CatvMetrics.generate_metrics` of `api/catvutils/metrics.py`, with exact amounts.

The items of a side are grouped with `itertools.groupby`, which ends a group where the depth
changes, and each group overwrites what an earlier group of the same depth has recorded.  So what is
recorded for a depth in the end is the maximum of the last run of adjacent items of the depth
(`sentAmount_eq_some_iff`, `receivedAmount_eq_some_iff`), which is the maximum of all its items when
no item of the depth is above that run, and only then (`trueMaxima_iff`).
-/

namespace CatvService.Reports

open Dictionary Grouping PyText PyValue

/-! ## Data -/

/-- An entry of `item_list`. -/
structure MetricsItem where
  depth : ℤ
  amount : ℚ
  txHash : String
  sender : String
  receiver : String
  deriving DecidableEq

/-- An entry of `node_list`. -/
structure MetricsNode where
  level : ℤ
  group : String
  address : String
  balance : ℚ
  amountIn : ℚ
  annotation : String
  deriving DecidableEq

/-- The argument of `generate_metrics`: `operator.gt` for the side of the positive depths,
`operator.lt` for that of the negative ones. -/
inductive CompareOperator where
  | gt
  | lt
  deriving DecidableEq

/-- `compare_operator(depth, 0)`. -/
def CompareOperator.holds : CompareOperator → ℤ → Bool
  | .gt, depth => decide (depth > 0)
  | .lt, depth => decide (depth < 0)

/-- `{"tx_hash": …, "amount": …}`. -/
structure HighestTx where
  txHash : String
  amount : ℚ
  deriving DecidableEq

/-- `{"address": …, "amount": …}`. -/
structure WalletAmount where
  address : String
  amount : ℚ
  deriving DecidableEq

/-- `{"address": …, "balance": …}`. -/
structure WalletBalance where
  address : String
  balance : ℚ
  deriving DecidableEq

/-- `highest_by_depth`: the depths as texts, under each of them `sent` and `received`. -/
abbrev Breakdown := Dict String (Dict String HighestTx)

/-- What `generate_metrics` returns; without a wallet `max_sender` and `max_receiver` are `{}`. -/
structure Metrics where
  blacklisted : List WalletBalance
  exchange : List String
  depthBreakdown : Breakdown
  maxSender : Option WalletAmount
  maxReceiver : Option WalletAmount

/-! ## The function -/

/-- One round of `pick_n_unique`: the keys seen, and the elements picked. -/
def pickRound {α κ : Type} [DecidableEq κ] (key : α → κ) (n : ℕ) (picked : List α) (item : α) :
    List α :=
  if picked.length = n then picked
  else if key item ∈ picked.map key then picked else picked ++ [item]

/-- `pick_n_unique`. -/
def pickNUnique {α κ : Type} [DecidableEq κ] (items : List α) (key : α → κ) (n : ℕ) : List α :=
  items.foldl (pickRound key n) []

/-- `max(items, key=key)`: the first of the greatest elements. -/
def maxBy {α : Type} (key : α → ℚ) (items : List α) : Except PyErr α :=
  match items.argmax key with
  | some item => .ok item
  | none => .error .valueError

/-- `sorted(items, key=key, reverse=True)`. -/
def sortedReverse {α : Type} (key : α → ℚ) (items : List α) : List α :=
  items.mergeSort fun a b => decide (key b ≤ key a)

/-- `black_wallets_top`. -/
def blackWalletsTop (segNodeList : List MetricsNode) : List WalletBalance :=
  let blackWallets := segNodeList.filter fun node => node.group = "Blacklist"
  let blackWalletsTop := sortedReverse MetricsNode.balance blackWallets
  (pickNUnique blackWalletsTop MetricsNode.address 10).map fun wallet =>
    ⟨wallet.address, wallet.balance⟩

/-- `skip_words`. -/
def skipWords : List String :=
  ["exchange", "wallet", "exchange wallet", "user wallet", "fiat gateway", "proxy contract", "defi",
    "dex"]

/-- `clean_name` of a wallet. -/
def cleanName (wallet : MetricsNode) : String :=
  let wordList := (split "," wallet.annotation).map trim
  let cleanName := (wordList.find? fun word => lower word ∉ skipWords).getD "Generic"
  let cleanName := String.ofList (cleanName.toList.map fun c => if c = '_' then ' ' else c)
  (split " " cleanName).headD ""

/-- `exchange_wallets_clean`. -/
def exchangeWalletsClean (segNodeList : List MetricsNode) : Dict String String :=
  let exchangeWallets := segNodeList.filter fun node => node.group = "Exchange & DEX"
  let exchangeWalletsTop := (sortedReverse MetricsNode.amountIn exchangeWallets).take 15
  exchangeWalletsTop.foldl
    (fun clean wallet =>
      if cleanName wallet ≠ "Generic" then clean.set (cleanName wallet) (cleanName wallet)
      else clean)
    Dict.empty

/-- One round of the loop over the groups of a depth. -/
def recordGroup (op : CompareOperator) (highestByDepth : Breakdown)
    (group : String × List MetricsItem) : Except PyErr Breakdown := do
  let (level, items) := group
  let maxSentItem ← maxBy MetricsItem.amount items
  let highest : HighestTx := ⟨maxSentItem.txHash, maxSentItem.amount⟩
  let highestByDepth := highestByDepth.setIn level "sent" highest
  let depth ← match parseInt level with
    | some depth => .ok depth
    | none => .error .valueError
  let intLevel := |depth|
  if intLevel > 1 then
    let depthKey := toString (intLevel - 1)
    let depthKey := if op = .gt then depthKey else "-" ++ depthKey
    return highestByDepth.setIn depthKey "received" highest
  else return highestByDepth

/-- `highest_by_depth`. -/
def highestByDepth (op : CompareOperator) (segItemList : List MetricsItem) :
    Except PyErr Breakdown :=
  (groupby (fun item => toString item.depth) segItemList).foldlM (recordGroup op) Dict.empty

/-- `item["amount"] if abs(item["depth"]) > 1 else 0`. -/
def MetricsItem.hopAmount (item : MetricsItem) : ℚ :=
  if |item.depth| > 1 then item.amount else 0

/-- `grouped_by_sender` and `grouped_by_receiver`. -/
def groupedBy (wallet : MetricsItem → String) (segItemList : List MetricsItem) :
    List WalletAmount :=
  (firstKeys wallet segItemList).map fun address =>
    ⟨address, ((group wallet segItemList address).map MetricsItem.hopAmount).sum⟩

/-- `self.seg_item_list`. -/
def segItemList (op : CompareOperator) (itemList : List MetricsItem) : List MetricsItem :=
  itemList.filter fun item => op.holds item.depth

/-- `self.seg_node_list`. -/
def segNodeList (op : CompareOperator) (nodeList : List MetricsNode) : List MetricsNode :=
  nodeList.filter fun node => op.holds node.level

/-- `generate_metrics`. -/
def generateMetrics (op : CompareOperator) (itemList : List MetricsItem)
    (nodeList : List MetricsNode) : Except PyErr Metrics :=
  let items := segItemList op itemList
  let nodes := segNodeList op nodeList
  if nodes = [] then .ok ⟨[], [], Dict.empty, none, none⟩
  else do
    let depthBreakdown ← highestByDepth op items
    let maxSender ← maxBy WalletAmount.amount (groupedBy MetricsItem.sender items)
    let maxReceiver ← maxBy WalletAmount.amount (groupedBy MetricsItem.receiver items)
    return ⟨blackWalletsTop nodes, (exchangeWalletsClean nodes).keys.take 10, depthBreakdown,
      some maxSender, some maxReceiver⟩

/-! ## The wallets -/

theorem nodup_pickNUnique {α κ : Type} [DecidableEq κ] (items : List α) (key : α → κ) (n : ℕ) :
    ((pickNUnique items key n).map key).Nodup ∧ (pickNUnique items key n).length ≤ n := by
  unfold pickNUnique
  induction items using List.reverseRecOn with
  | nil => exact ⟨List.nodup_nil, Nat.zero_le n⟩
  | append_singleton items item ih =>
      obtain ⟨hnodup, hlength⟩ := ih
      rw [List.foldl_append, List.foldl_cons, List.foldl_nil, pickRound]
      split_ifs with hfull hseen
      · exact ⟨hnodup, hlength⟩
      · exact ⟨hnodup, hlength⟩
      · refine ⟨?_, by rw [List.length_append, List.length_singleton]; omega⟩
        rw [List.map_append, List.map_singleton, List.nodup_append]
        refine ⟨hnodup, List.nodup_singleton _, fun a ha b hb hab => hseen ?_⟩
        rw [List.mem_singleton] at hb
        rw [← hb, ← hab]
        exact ha

/-- At most ten wallets are listed, no address twice. -/
theorem nodup_blackWalletsTop (nodes : List MetricsNode) :
    ((blackWalletsTop nodes).map WalletBalance.address).Nodup ∧
      (blackWalletsTop nodes).length ≤ 10 := by
  have hpicked := nodup_pickNUnique
    (sortedReverse MetricsNode.balance (nodes.filter fun node => node.group = "Blacklist"))
    MetricsNode.address 10
  rw [blackWalletsTop, List.map_map, List.length_map]
  exact hpicked

/-! ## What the loop records -/

namespace CompareOperator

/-- The depth one hop further from the wallet. -/
def further : CompareOperator → ℤ → ℤ
  | .gt, depth => depth + 1
  | .lt, depth => depth - 1

variable {op : CompareOperator} {depth : ℤ}

/-- One hop nearer to the wallet than a depth there is a depth of the same side when it is not the
first one, and its key is the one that the loop builds. -/
theorem exists_nearer (hdepth : op.holds depth = true) (hhop : |depth| > 1) :
    ∃ nearer, op.further nearer = depth ∧
      (if op = .gt then toString (|depth| - 1) else "-" ++ toString (|depth| - 1)) =
        toString nearer := by
  cases op with
  | gt =>
      have hpos : depth > 0 := of_decide_eq_true hdepth
      refine ⟨depth - 1, by rw [further]; omega, ?_⟩
      rw [if_pos rfl, abs_of_pos hpos]
  | lt =>
      have hneg : depth < 0 := of_decide_eq_true hdepth
      refine ⟨depth + 1, by rw [further]; omega, ?_⟩
      rw [if_neg (by decide), neg_append_toString (by omega), abs_of_neg hneg]
      congr 1
      omega

theorem further_injective (op : CompareOperator) : Function.Injective op.further := by
  cases op with
  | gt => exact add_left_injective 1
  | lt => exact sub_left_injective

theorem hop_further (hdepth : op.holds depth = true) : |op.further depth| > 1 := by
  cases op with
  | gt =>
      have hpos : depth > 0 := of_decide_eq_true hdepth
      rw [further, abs_of_pos (by omega)]
      omega
  | lt =>
      have hneg : depth < 0 := of_decide_eq_true hdepth
      rw [further, abs_of_neg (by omega)]
      omega

end CompareOperator

theorem maxBy_ok {α : Type} (key : α → ℚ) {items : List α} (hne : items ≠ []) :
    ∃ best, items.argmax key = some best ∧ maxBy key items = .ok best := by
  have hsome : items.argmax key ≠ none := mt List.argmax_eq_none.mp hne
  obtain ⟨best, hbest⟩ := Option.ne_none_iff_exists'.mp hsome
  exact ⟨best, hbest, by rw [maxBy, hbest]⟩

/-- The entry of an item. -/
def MetricsItem.highest (item : MetricsItem) : HighestTx :=
  ⟨item.txHash, item.amount⟩

/-- The entry of the item with the greatest amount. -/
def highestOf (items : List MetricsItem) : Option HighestTx :=
  (items.argmax MetricsItem.amount).map MetricsItem.highest

variable {op : CompareOperator}

/-- A group is recorded as sent at its depth, and as received one hop nearer to the wallet. -/
theorem recordGroup_ok {depth : ℤ} (hdepth : op.holds depth = true) {items : List MetricsItem}
    (hne : items ≠ []) (breakdown : Breakdown) :
    ∃ recorded, recordGroup op breakdown (toString depth, items) = .ok recorded ∧
      ∀ d, op.holds d = true →
        recorded.getIn (toString d) "sent" =
          (if depth = d then highestOf items else breakdown.getIn (toString d) "sent") ∧
        recorded.getIn (toString d) "received" =
          (if depth = op.further d then highestOf items
            else breakdown.getIn (toString d) "received") := by
  obtain ⟨best, hbest, hmax⟩ := maxBy_ok MetricsItem.amount hne
  have hhighest : highestOf items = some best.highest := by rw [highestOf, hbest, Option.map_some]
  have hkey : ∀ a b : ℤ, toString a = toString b ↔ a = b := fun a b => toString_int_injective.eq_iff
  have hsent : "sent" ≠ "received" := by decide
  unfold recordGroup
  simp only [hmax, parseInt_toString_self, hhighest]
  by_cases hhop : |depth| > 1
  · obtain ⟨nearer, hnearer, hdepthKey⟩ := CompareOperator.exists_nearer hdepth hhop
    refine ⟨_, if_pos hhop, fun d hd => ?_⟩
    rw [hdepthKey]
    rw [← hnearer]
    simp only [Dict.getIn_setIn, hkey, (CompareOperator.further_injective op).eq_iff, hsent,
      hsent.symm, and_true, and_false, if_false]
    exact ⟨rfl, rfl⟩
  · refine ⟨_, if_neg hhop, fun d hd => ?_⟩
    have hfirst : depth ≠ op.further d := fun heq => hhop (heq ▸ CompareOperator.hop_further hd)
    simp only [Dict.getIn_setIn, hkey, hfirst, hsent, and_true, and_false, if_false]
    rfl

/-- The entry of the last group of a depth. -/
def lastHighest (groups : List (String × List MetricsItem)) (depth : ℤ) : Option HighestTx :=
  (groups.reverse.find? fun group => decide (group.1 = toString depth)).bind fun group =>
    highestOf group.2

theorem lastHighest_concat (groups : List (String × List MetricsItem)) (depth d : ℤ)
    (items : List MetricsItem) :
    lastHighest (groups ++ [(toString depth, items)]) d =
      if depth = d then highestOf items else lastHighest groups d := by
  rw [lastHighest, List.reverse_append, List.reverse_singleton, List.singleton_append,
    List.find?_cons]
  by_cases hdepth : depth = d
  · rw [hdepth, decide_eq_true rfl, if_pos rfl]
    rfl
  · rw [decide_eq_false fun heq => hdepth (toString_int_injective heq), if_neg hdepth]
    rfl

/-- The loop leaves, for each depth, the entries of the last group of the depth and of the last
group one hop further. -/
theorem foldlM_recordGroup {groups : List (String × List MetricsItem)}
    (hgroups : ∀ group ∈ groups, group.2 ≠ [] ∧
      ∃ depth, op.holds depth = true ∧ group.1 = toString depth) :
    ∃ breakdown, groups.foldlM (recordGroup op) Dict.empty = .ok breakdown ∧
      ∀ d, op.holds d = true →
        breakdown.getIn (toString d) "sent" = lastHighest groups d ∧
        breakdown.getIn (toString d) "received" = lastHighest groups (op.further d) := by
  induction groups using List.reverseRecOn with
  | nil => exact ⟨Dict.empty, rfl, fun d _ => ⟨rfl, rfl⟩⟩
  | append_singleton groups group ih =>
      obtain ⟨breakdown, hfold, hbreakdown⟩ := ih fun other hother =>
        hgroups other (List.mem_append_left _ hother)
      obtain ⟨level, items⟩ := group
      obtain ⟨hne, depth, hdepth, rfl⟩ := hgroups (level, items) (by simp)
      obtain ⟨recorded, hrecord, hrecorded⟩ := recordGroup_ok hdepth hne breakdown
      refine ⟨recorded, ?_, fun d hd => ?_⟩
      · rw [List.foldlM_append, hfold]
        exact (bind_pure _).trans hrecord
      · obtain ⟨hsent, hreceived⟩ := hrecorded d hd
        obtain ⟨hsent', hreceived'⟩ := hbreakdown d hd
        rw [hsent, hreceived, lastHighest_concat, lastHighest_concat, hsent', hreceived']
        exact ⟨rfl, rfl⟩

theorem holds_of_mem_segItemList {itemList : List MetricsItem} {item : MetricsItem}
    (hitem : item ∈ segItemList op itemList) : op.holds item.depth = true :=
  (List.mem_filter.mp hitem).2

theorem lastHighest_groupby (items : List MetricsItem) (depth : ℤ) :
    lastHighest (groupby (fun item => toString item.depth) items) depth =
      highestOf (lastRun MetricsItem.depth depth items) := by
  have hrun : lastRun (fun item : MetricsItem => toString item.depth) (toString depth) items =
      lastRun MetricsItem.depth depth items := lastRun_comp toString_int_injective _ _ _
  rw [lastHighest, find?_reverse_groupby, hrun]
  split
  · rename_i hnil
    rw [hnil]
    rfl
  · rfl

/-- **What is recorded for a depth in the end.** -/
theorem highestByDepth_ok (op : CompareOperator) (itemList : List MetricsItem) :
    ∃ breakdown, highestByDepth op (segItemList op itemList) = .ok breakdown ∧
      ∀ d, op.holds d = true →
        breakdown.getIn (toString d) "sent" =
          highestOf (lastRun MetricsItem.depth d (segItemList op itemList)) ∧
        breakdown.getIn (toString d) "received" =
          highestOf (lastRun MetricsItem.depth (op.further d) (segItemList op itemList)) := by
  have hgroups : ∀ group ∈ groupby (fun item => toString item.depth) (segItemList op itemList),
      group.2 ≠ [] ∧ ∃ depth, op.holds depth = true ∧ group.1 = toString depth := by
    intro group hgroup
    obtain ⟨hne, hkeys⟩ := areGroups_groupby _ _ group hgroup
    obtain ⟨item, hitem⟩ := List.exists_mem_of_ne_nil _ hne
    have hmem : item ∈ segItemList op itemList := by
      rw [← flatten_groupby (fun item => toString item.depth) (segItemList op itemList)]
      exact List.mem_flatten.mpr ⟨group.2, List.mem_map_of_mem hgroup, hitem⟩
    exact ⟨hne, item.depth, holds_of_mem_segItemList hmem, (hkeys item hitem).symm⟩
  obtain ⟨breakdown, hfold, hbreakdown⟩ := foldlM_recordGroup hgroups
  refine ⟨breakdown, hfold, fun d hd => ?_⟩
  rw [← lastHighest_groupby, ← lastHighest_groupby]
  exact hbreakdown d hd

/-! ## When the maxima are true -/

/-- The `sent` amount recorded for a depth. -/
def Metrics.sentAmount (metrics : Metrics) (depth : ℤ) : Option ℚ :=
  (metrics.depthBreakdown.getIn (toString depth) "sent").map HighestTx.amount

/-- The `received` amount recorded for a depth. -/
def Metrics.receivedAmount (metrics : Metrics) (depth : ℤ) : Option ℚ :=
  (metrics.depthBreakdown.getIn (toString depth) "received").map HighestTx.amount

/-- The amounts of the items of a depth. -/
def amountsAt (items : List MetricsItem) (depth : ℤ) : Set ℚ :=
  MetricsItem.amount '' {item | item ∈ items ∧ item.depth = depth}

/-- For each depth of the side, what is recorded as sent is the greatest amount of the depth, and
what is recorded as received is the greatest amount one hop further; nothing is recorded where there
is no item. -/
structure TrueMaxima (op : CompareOperator) (itemList : List MetricsItem) (metrics : Metrics) :
    Prop where
  sent : ∀ depth amount, op.holds depth = true → (metrics.sentAmount depth = some amount ↔
    IsGreatest (amountsAt (segItemList op itemList) depth) amount)
  received : ∀ depth amount, op.holds depth = true → (metrics.receivedAmount depth = some amount ↔
    IsGreatest (amountsAt (segItemList op itemList) (op.further depth)) amount)

/-- What is recorded for a depth of the side is of the last run of the depth, and of the last run
one hop further. -/
def RecordsLastRuns (op : CompareOperator) (itemList : List MetricsItem) (metrics : Metrics) :
    Prop :=
  ∀ d, op.holds d = true →
    metrics.sentAmount d =
      (highestOf (lastRun MetricsItem.depth d (segItemList op itemList))).map HighestTx.amount ∧
    metrics.receivedAmount d =
      (highestOf (lastRun MetricsItem.depth (op.further d) (segItemList op itemList))).map
        HighestTx.amount

/-- No item is above all items of the last run of its depth. -/
def LastRunsHighest (items : List MetricsItem) : Prop :=
  ∀ item ∈ items, ∃ last ∈ lastRun MetricsItem.depth item.depth items, item.amount ≤ last.amount

instance (items : List MetricsItem) : Decidable (LastRunsHighest items) :=
  inferInstanceAs (Decidable (∀ item ∈ items, ∃ last ∈ _, _))

theorem amount_highestOf_eq_some_iff {items : List MetricsItem} {amount : ℚ} :
    (highestOf items).map HighestTx.amount = some amount ↔
      IsGreatest (MetricsItem.amount '' {item | item ∈ items}) amount := by
  cases hmax : items.argmax MetricsItem.amount with
  | none =>
      obtain rfl := List.argmax_eq_none.mp hmax
      simp [highestOf, IsGreatest]
  | some best =>
      have hgreatest : IsGreatest (MetricsItem.amount '' {item | item ∈ items}) best.amount := by
        refine ⟨⟨best, List.argmax_mem hmax, rfl⟩, ?_⟩
        rintro _ ⟨item, hitem, rfl⟩
        exact List.le_of_mem_argmax hitem hmax
      rw [highestOf, hmax, Option.map_some, Option.map_some, Option.some_inj]
      exact ⟨fun heq => heq ▸ hgreatest, fun h => hgreatest.unique h⟩

/-- When no item is above the last run of its depth, the last run has the greatest amount. -/
theorem LastRunsHighest.isGreatest_iff {items : List MetricsItem} (hlast : LastRunsHighest items)
    (depth : ℤ) (amount : ℚ) :
    IsGreatest (MetricsItem.amount '' {item | item ∈ lastRun MetricsItem.depth depth items})
        amount ↔
      IsGreatest (amountsAt items depth) amount := by
  have hsubset : MetricsItem.amount '' {item | item ∈ lastRun MetricsItem.depth depth items} ⊆
      amountsAt items depth := Set.image_mono fun item hitem => mem_lastRun hitem
  constructor
  · rintro ⟨hmem, hupper⟩
    refine ⟨hsubset hmem, ?_⟩
    rintro _ ⟨item, ⟨hitem, rfl⟩, rfl⟩
    obtain ⟨last, hrun, hle⟩ := hlast item hitem
    exact hle.trans (hupper ⟨last, hrun, rfl⟩)
  · rintro ⟨⟨item, ⟨hitem, rfl⟩, rfl⟩, hupper⟩
    obtain ⟨last, hrun, hle⟩ := hlast item hitem
    have heq : item.amount = last.amount := le_antisymm hle (hupper (hsubset ⟨last, hrun, rfl⟩))
    rw [heq] at hupper ⊢
    exact ⟨⟨last, hrun, rfl⟩, fun amount hamount => hupper (hsubset hamount)⟩

theorem groupedBy_ne_nil (wallet : MetricsItem → String) {items : List MetricsItem}
    (hne : items ≠ []) : groupedBy wallet items ≠ [] := by
  obtain ⟨item, hitem⟩ := List.exists_mem_of_ne_nil _ hne
  have hkey : wallet item ∈ firstKeys wallet items := mem_firstKeys.mpr ⟨item, hitem, rfl⟩
  exact mt List.map_eq_nil_iff.mp (List.ne_nil_of_mem hkey)

theorem generateMetrics_of_nil {nodeList : List MetricsNode} (hseg : segNodeList op nodeList ≠ [])
    {itemList : List MetricsItem} (hnil : segItemList op itemList = []) :
    generateMetrics op itemList nodeList = .error .valueError := by
  rw [generateMetrics, if_neg hseg, hnil]
  rfl

/-- With an item on the side, what is recorded are the greatest amounts of the last runs. -/
theorem generateMetrics_ok {nodeList : List MetricsNode} (hseg : segNodeList op nodeList ≠ [])
    {itemList : List MetricsItem} (hne : segItemList op itemList ≠ []) :
    ∃ metrics, generateMetrics op itemList nodeList = .ok metrics ∧
      RecordsLastRuns op itemList metrics := by
  obtain ⟨breakdown, hloop, hbreakdown⟩ := highestByDepth_ok op itemList
  obtain ⟨sender, -, hsender⟩ :=
    maxBy_ok WalletAmount.amount (groupedBy_ne_nil MetricsItem.sender hne)
  obtain ⟨receiver, -, hreceiver⟩ :=
    maxBy_ok WalletAmount.amount (groupedBy_ne_nil MetricsItem.receiver hne)
  rw [generateMetrics, if_neg hseg, hloop, hsender, hreceiver]
  refine ⟨_, rfl, fun d hd => ?_⟩
  obtain ⟨hsent, hreceived⟩ := hbreakdown d hd
  exact ⟨congrArg _ hsent, congrArg _ hreceived⟩

/-- What is recorded of the last runs is true when they are the highest, and only then. -/
theorem trueMaxima_iff {itemList : List MetricsItem} {metrics : Metrics}
    (hrecorded : RecordsLastRuns op itemList metrics) :
    TrueMaxima op itemList metrics ↔ LastRunsHighest (segItemList op itemList) := by
  constructor
  · intro htrue item hitem
    have hdepth := holds_of_mem_segItemList hitem
    -- the run of the item's depth is not empty, and its maximum is what is recorded
    have hrun : lastRun MetricsItem.depth item.depth (segItemList op itemList) ≠ [] :=
      fun hnil => lastRun_eq_nil_iff.mp hnil item hitem rfl
    obtain ⟨best, hbest, -⟩ := maxBy_ok MetricsItem.amount hrun
    have hsent : metrics.sentAmount item.depth = some best.amount := by
      rw [(hrecorded item.depth hdepth).1, highestOf, hbest]
      rfl
    have hgreatest := (htrue.sent item.depth best.amount hdepth).mp hsent
    exact ⟨best, List.argmax_mem hbest, hgreatest.2 ⟨item, ⟨hitem, rfl⟩, rfl⟩⟩
  · intro hlast
    refine ⟨fun depth amount hdepth => ?_, fun depth amount hdepth => ?_⟩
    · rw [(hrecorded depth hdepth).1, amount_highestOf_eq_some_iff]
      exact hlast.isGreatest_iff depth amount
    · rw [(hrecorded depth hdepth).2, amount_highestOf_eq_some_iff]
      exact hlast.isGreatest_iff (op.further depth) amount

/-- **`generate_metrics` returns a breakdown exactly when the side has an item, and its maxima are
true exactly when no item is above the last run of its depth.** -/
theorem depthBreakdown_trueMaxima_iff (op : CompareOperator) (itemList : List MetricsItem)
    (nodeList : List MetricsNode) (hseg : segNodeList op nodeList ≠ []) :
    ((∃ metrics, generateMetrics op itemList nodeList = .ok metrics) ↔
      segItemList op itemList ≠ []) ∧
    ((∀ metrics, generateMetrics op itemList nodeList = .ok metrics →
        TrueMaxima op itemList metrics) ↔
      LastRunsHighest (segItemList op itemList)) := by
  by_cases hnil : segItemList op itemList = []
  · -- nothing is returned, and there is no item that could be above a run
    rw [generateMetrics_of_nil hseg hnil, hnil]
    refine ⟨⟨fun hok => ?_, fun hne => absurd rfl hne⟩, fun _ item hitem => ?_, fun _ _ hok => ?_⟩
    · obtain ⟨_, hmetrics⟩ := hok
      cases hmetrics
    · cases hitem
    · cases hok
  · obtain ⟨metrics, hok, hrecorded⟩ := generateMetrics_ok hseg hnil
    have htrue := trueMaxima_iff hrecorded
    rw [hok]
    refine ⟨⟨fun _ => hnil, fun _ => ⟨metrics, rfl⟩⟩, fun hall => ?_, fun hlast other hother => ?_⟩
    · exact htrue.mp (hall metrics rfl)
    · cases hother
      exact htrue.mpr hlast

/-- The last run of a depth that returns after another one has the greatest amount. -/
theorem depthBreakdown_trueMaxima_iff_returning :
    (∃ metrics, generateMetrics .lt
      [⟨-1, 3, "0x1", "w", "a"⟩, ⟨-2, 7, "0x2", "a", "b"⟩, ⟨-1, 10, "0x3", "w", "c"⟩]
      [⟨-1, "Exchange & DEX", "a", 1, 3, "Exchange, Kraken_4"⟩] = .ok metrics) ∧
    ∀ metrics, generateMetrics .lt
      [⟨-1, 3, "0x1", "w", "a"⟩, ⟨-2, 7, "0x2", "a", "b"⟩, ⟨-1, 10, "0x3", "w", "c"⟩]
      [⟨-1, "Exchange & DEX", "a", 1, 3, "Exchange, Kraken_4"⟩] = .ok metrics →
        TrueMaxima .lt
          [⟨-1, 3, "0x1", "w", "a"⟩, ⟨-2, 7, "0x2", "a", "b"⟩, ⟨-1, 10, "0x3", "w", "c"⟩] metrics :=
  ⟨(depthBreakdown_trueMaxima_iff .lt _ _ (by decide)).1.mpr (by decide),
    (depthBreakdown_trueMaxima_iff .lt _ _ (by decide)).2.mpr (by decide)⟩

/-- A row of the first hop behind one of the second hop: the lower amount is recorded. -/
theorem not_trueMaxima_rowBehind :
    ∃ metrics, generateMetrics .gt
      [⟨1, 10, "0x1", "w", "a"⟩, ⟨2, 7, "0x2", "a", "b"⟩, ⟨1, 3, "0x3", "w", "c"⟩]
      [⟨1, "Exchange & DEX", "a", 1, 3, "Exchange, Kraken_4"⟩] = .ok metrics ∧
      metrics.sentAmount 1 = some 3 ∧
      ¬ TrueMaxima .gt
        [⟨1, 10, "0x1", "w", "a"⟩, ⟨2, 7, "0x2", "a", "b"⟩, ⟨1, 3, "0x3", "w", "c"⟩] metrics := by
  have hseg : segNodeList .gt [⟨1, "Exchange & DEX", "a", 1, 3, "Exchange, Kraken_4"⟩] ≠ [] := by
    decide
  have hne : segItemList .gt
      [⟨1, 10, "0x1", "w", "a"⟩, ⟨2, 7, "0x2", "a", "b"⟩, ⟨1, 3, "0x3", "w", "c"⟩] ≠ [] := by
    decide
  obtain ⟨metrics, hok, hrecorded⟩ := generateMetrics_ok hseg hne
  have hsent : metrics.sentAmount 1 = some 3 := (hrecorded 1 rfl).1.trans (by decide)
  refine ⟨metrics, hok, hsent, fun htrue => ?_⟩
  have hgreatest := (htrue.sent 1 3 rfl).mp hsent
  have hle : (10 : ℚ) ≤ 3 := hgreatest.2 ⟨⟨1, 10, "0x1", "w", "a"⟩, ⟨by decide, rfl⟩, rfl⟩
  exact absurd hle (by decide)

end CatvService.Reports
