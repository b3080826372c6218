import CatvService.GraphQL.Flatten

/-!
# No transfer is lost

What `flatten_node` makes of an item, on every chain that has a query template: exactly one row,
with the depth, the hash and the ends of the item (`flattenNode_keeps`).  The only items without a
row are those that pay a coinbase, on three chains, and those whose numbers cannot be read.

`exists_flattenNode_iff_appends` is the condition for a row, `rowOf_flattenNode` what the row has of
its item.  The row carries a type for both ends on all chains but XRP, XLM and LUNC.
-/

namespace CatvService.GraphQL

open PyValue Dictionary

/-! ## What a row should have -/

/-- The amounts of the receiver are numbers, where they are present. -/
structure ReadsAmounts (item : Json) : Prop where
  amountOut : Reads item ["receiver", "amountOut"]
  amountIn : Reads item ["receiver", "amountIn"]
  balance : Reads item ["receiver", "balance"]

/-- The receiver is a coinbase without an address. -/
def PaysCoinbase (item : Json) : Prop :=
  (safeGet item ["receiver", "type"] .null).eq (.str "coinbase") = true ∧
    (safeGet item ["receiver", "address"] .null).truthy = false

/-- The chains whose rows hold the amounts of the receiver. -/
def Chain.hasSmartContracts (chain : Chain) : Bool :=
  chain.tracesSwaps || decide (chain ∈ [.bnb, .trx, .eos])

/-- The item comes to a row: its depth is a number, the amounts are where the chain's rows hold
them, and it is none of the dropped payments. -/
structure Appends (chain : Chain) (item : Json) : Prop where
  depth : ∃ depth, (safeGet item ["depth"] (.int 0)).toInt = .ok depth
  amounts : chain.hasSmartContracts = true → ReadsAmounts item
  kept : ¬ (chain ∈ [.btc, .doge, .dash] ∧ PaysCoinbase item)

/-- The address of an end.  On ZEC the type stands in for a missing one. -/
def endOf (chain : Chain) (key : String) (item : Json) : Json :=
  let address := safeGet item [key, "address"] (.str "")
  if chain = .zec then zecEnd address (safeGet item [key, "type"] (.str "unknown")) else address

/-- The type of an end, `none` where the rows of the chain have no types. -/
def endType? (chain : Chain) (key : String) (item : Json) : Option Json :=
  match chain with
  | .xrp | .xlm | .lunc | .other _ => none
  | .ada => some (.str "unknown")
  | .btc | .bch | .ltc | .doge | .zec | .dash | .bnb | .trx | .eos =>
      some (safeGet item [key, "type"] (.str "unknown"))
  | .eth | .klay | .bsc | .ftm | .pol | .avax =>
      some (safeGet item [key, "smartContract", "contractType"] (.str "Wallet"))

/-- The row is that of the item. -/
structure RowOf (chain : Chain) (initialDepth : ℤ) (item : Json) (row : FlatRow) : Prop where
  depth : ∃ depth, (safeGet item ["depth"] (.int 0)).toInt = .ok depth ∧
    row.depth = depth + initialDepth
  txHash : row.txHash = safeGet item ["transaction", "hash"] (.str "")
  sender : row.sender = endOf chain "sender" item
  receiver : row.receiver = endOf chain "receiver" item
  senderType : Entries.get? "sender_type" row.rest = endType? chain "sender" item
  receiverType : Entries.get? "receiver_type" row.rest = endType? chain "receiver" item

variable {chain : Chain} {initialDepth : ℤ} {item tokenAddress : Json} {base row : FlatRow}
  {flattened : Flattened}

/-! ## The rows of the branches -/

theorem baseRow_eq_ok (hbase : baseRow initialDepth item = .ok base) :
    ∃ depth, (safeGet item ["depth"] (.int 0)).toInt = .ok depth ∧ base = {
      depth := depth + initialDepth
      txHash := safeGet item ["transaction", "hash"] (.str "")
      sender := safeGet item ["sender", "address"] (.str "")
      receiver := safeGet item ["receiver", "address"] (.str "")
      senderAnnotation := safeGet item ["sender", "annotation"] (.str "")
      receiverAnnotation := safeGet item ["receiver", "annotation"] (.str "")
      rest := [] } := by
  obtain ⟨depth, hdepth, hrow⟩ := bind_eq_ok_iff.mp hbase
  exact ⟨depth, hdepth, (Except.ok.inj hrow).symm⟩

/-- The keys that `smartContractRow` adds, under the amounts that it has read. -/
theorem smartContractRow_eq_update {common smart : FlatRow}
    (hsmart : smartContractRow common item = .ok smart) :
    ∃ amountOut amountIn balance : Json, smart = common.update [
      ("token_id", safeGet item ["currency", "tokenId"] (.str "")),
      ("token_type", safeGet item ["currency", "tokenType"] (.str "")),
      ("receiver_receivers_count", safeGet item ["receiver", "receiversCount"] (.int 0)),
      ("receiver_senders_count", safeGet item ["receiver", "sendersCount"] (.int 0)),
      ("receiver_first_tx_at", safeGet item ["receiver", "firstTxAt", "time"] .null),
      ("receiver_last_tx_at", safeGet item ["receiver", "lastTxAt", "time"] .null),
      ("receiver_amount_out", amountOut),
      ("receiver_amount_in", amountIn),
      ("receiver_balance", balance)] := by
  obtain ⟨amountOut, -, hsmart⟩ := bind_eq_ok_iff.mp hsmart
  obtain ⟨amountIn, -, hsmart⟩ := bind_eq_ok_iff.mp hsmart
  obtain ⟨balance, -, hsmart⟩ := bind_eq_ok_iff.mp hsmart
  exact ⟨.float amountOut, .float amountIn, .float balance, (Except.ok.inj hsmart).symm⟩

/-- XRP and XLM: the tags that may follow are no types. -/
theorem rowOf_rippleStellarRow (hchain : chain = .xrp ∨ chain = .xlm)
    (hbase : baseRow initialDepth item = .ok base) :
    RowOf chain initialDepth item (rippleStellarRow chain base item) := by
  obtain ⟨depth, hdepth, rfl⟩ := baseRow_eq_ok hbase
  unfold rippleStellarRow
  dsimp only
  rcases hchain with rfl | rfl
  · rw [if_pos rfl]
    split <;> split <;> exact ⟨⟨depth, hdepth, rfl⟩, rfl, rfl, rfl, rfl, rfl⟩
  · exact ⟨⟨depth, hdepth, rfl⟩, rfl, rfl, rfl, rfl, rfl⟩

/-- **A row has its depth, its hash, its ends and their types from its item.** -/
theorem rowOf_flattenBranch (hbase : baseRow initialDepth item = .ok base)
    (hbranch : flattenBranch chain base item tokenAddress = .ok (some flattened)) :
    RowOf chain initialDepth item flattened.row := by
  have hbaseRow := hbase
  obtain ⟨depth, hdepth, rfl⟩ := baseRow_eq_ok hbase
  cases chain with
  | xrp =>
      cases hbranch
      exact rowOf_rippleStellarRow (.inl rfl) hbaseRow
  | xlm =>
      cases hbranch
      exact rowOf_rippleStellarRow (.inr rfl) hbaseRow
  | lunc =>
      cases hbranch
      exact ⟨⟨depth, hdepth, rfl⟩, rfl, rfl, rfl, rfl, rfl⟩
  | btc | bch | ltc | ada | doge | zec | dash =>
      unfold flattenBranch at hbranch
      dsimp only at hbranch
      split at hbranch
      · cases hbranch
      · cases hbranch
        exact ⟨⟨depth, hdepth, rfl⟩, rfl, rfl, rfl, rfl, rfl⟩
  | eth | klay | bsc | ftm | pol | avax | bnb | trx | eos =>
      obtain ⟨smart, hsmart, hrow⟩ := bind_eq_ok_iff.mp hbranch
      obtain ⟨amountOut, amountIn, balance, rfl⟩ := smartContractRow_eq_update hsmart
      cases hrow
      exact ⟨⟨depth, hdepth, rfl⟩, rfl, rfl, rfl, rfl, rfl⟩
  | other code =>
      obtain ⟨smart, -, hrow⟩ := bind_eq_ok_iff.mp hbranch
      cases hrow

/-- **A row has its depth, its hash, its ends and their types from its item.** -/
theorem rowOf_flattenNode
    (hflatten : flattenNode chain initialDepth item tokenAddress = some flattened) :
    RowOf chain initialDepth item flattened.row := by
  obtain ⟨base, hbase, hbranch⟩ := flattenNode_eq_some_iff_steps.mp hflatten
  exact rowOf_flattenBranch hbase hbranch

/-! ## Which items come to a row -/

theorem readsAmounts_iff (base : FlatRow) :
    ReadsAmounts item ↔ ∃ smart, smartContractRow base item = .ok smart := by
  rw [exists_smartContractRow_iff]
  exact ⟨fun hreads => ⟨hreads.amountOut, hreads.amountIn, hreads.balance⟩,
    fun hreads => ⟨hreads.1, hreads.2.1, hreads.2.2⟩⟩

theorem dropsCoinbase_iff :
    dropsCoinbase chain item = true ↔ chain ∈ [.btc, .doge, .dash] ∧ PaysCoinbase item := by
  unfold dropsCoinbase PaysCoinbase
  rw [Bool.and_eq_true, Bool.and_eq_true, decide_eq_true_eq, Bool.not_eq_true']

theorem exists_smart_iff {rowFor : FlatRow → Flattened} :
    (∃ flattened, (do
      let smart ← smartContractRow base item
      return some (rowFor smart)) = Except.ok (some flattened)) ↔ ReadsAmounts item := by
  rw [readsAmounts_iff base]
  constructor
  · intro hexists
    obtain ⟨flattened, hrow⟩ := hexists
    obtain ⟨smart, hsmart, -⟩ := bind_eq_ok_iff.mp hrow
    exact ⟨smart, hsmart⟩
  · intro hexists
    obtain ⟨smart, hsmart⟩ := hexists
    exact ⟨rowFor smart, bind_eq_ok_iff.mpr ⟨smart, hsmart, rfl⟩⟩

theorem exists_flattenBranch_iff {template : TemplateKey}
    (htemplate : chain.template? = some template) :
    (∃ flattened, flattenBranch chain base item tokenAddress = .ok (some flattened)) ↔
      (chain.hasSmartContracts = true → ReadsAmounts item) ∧
        ¬ (chain ∈ [.btc, .doge, .dash] ∧ PaysCoinbase item) := by
  rw [← dropsCoinbase_iff]
  cases chain with
  | xrp | xlm | lunc => exact iff_of_true ⟨_, rfl⟩ ⟨nofun, nofun⟩
  | btc | bch | ltc | ada | doge | zec | dash =>
      unfold flattenBranch
      dsimp only
      split
      · rename_i hdrops
        exact iff_of_false nofun fun hkept => hkept.2 hdrops
      · rename_i hkept
        exact iff_of_true ⟨_, rfl⟩ ⟨nofun, hkept⟩
  | eth | klay | bsc | ftm | pol | avax | bnb | trx | eos =>
      refine exists_smart_iff.trans ⟨fun hreads => ⟨fun _ => hreads, nofun⟩, fun hreads => ?_⟩
      exact hreads.1 rfl
  | other code => cases htemplate

/-- **The items that come to a row.** -/
theorem exists_flattenNode_iff_appends {template : TemplateKey}
    (htemplate : chain.template? = some template) :
    (∃ flattened, flattenNode chain initialDepth item tokenAddress = some flattened) ↔
      Appends chain item := by
  have hbranch : ∀ base, (∃ flattened,
      flattenBranch chain base item tokenAddress = .ok (some flattened)) ↔
        (chain.hasSmartContracts = true → ReadsAmounts item) ∧
          ¬ (chain ∈ [.btc, .doge, .dash] ∧ PaysCoinbase item) :=
    fun base => exists_flattenBranch_iff htemplate
  simp only [flattenNode_eq_some_iff_steps]
  constructor
  · intro hexists
    obtain ⟨flattened, base, hbase, hrow⟩ := hexists
    obtain ⟨hamounts, hkept⟩ := (hbranch base).mp ⟨flattened, hrow⟩
    exact ⟨exists_baseRow_iff.mp ⟨base, hbase⟩, hamounts, hkept⟩
  · intro happends
    obtain ⟨base, hbase⟩ := exists_baseRow_iff.mpr happends.depth
    obtain ⟨flattened, hrow⟩ := (hbranch base).mpr ⟨happends.amounts, happends.kept⟩
    exact ⟨flattened, base, hbase, hrow⟩

/-! ## The law -/

/-- **No transfer is lost.**  On every chain with a query template, an item whose numbers can be
read comes to one row, unless it pays a coinbase on BTC, DOGE or DASH.  The row has the depth of the
item plus the offset, and its hash and its ends; on ZEC the type of an end may stand in for its
address. Swaps are looked for on six chains only. -/
theorem flattenNode_keeps {template : TemplateKey} (htemplate : chain.template? = some template)
    {depth : ℤ} (hdepth : (safeGet item ["depth"] (.int 0)).toInt = .ok depth)
    (hamounts : ReadsAmounts item) (initialDepth : ℤ) (tokenAddress : Json) :
    (flattenNode chain initialDepth item tokenAddress = none ↔
      chain ∈ [.btc, .doge, .dash] ∧ PaysCoinbase item) ∧
    ∀ flattened, flattenNode chain initialDepth item tokenAddress = some flattened →
      flattened.row.depth = depth + initialDepth ∧
      flattened.row.txHash = safeGet item ["transaction", "hash"] (.str "") ∧
      (chain ≠ .zec →
        flattened.row.sender = safeGet item ["sender", "address"] (.str "") ∧
          flattened.row.receiver = safeGet item ["receiver", "address"] (.str "")) ∧
      (chain = .zec →
        flattened.row.sender = zecEnd (safeGet item ["sender", "address"] (.str ""))
            (safeGet item ["sender", "type"] (.str "unknown")) ∧
          flattened.row.receiver = zecEnd (safeGet item ["receiver", "address"] (.str ""))
            (safeGet item ["receiver", "type"] (.str "unknown"))) ∧
      (flattened.isSwap = true → chain ∈ [.eth, .klay, .bsc, .ftm, .pol, .avax]) := by
  constructor
  · rw [Option.eq_none_iff_forall_ne_some, ← not_exists, exists_flattenNode_iff_appends htemplate]
    constructor
    · intro hlost
      by_contra hkept
      exact hlost ⟨⟨depth, hdepth⟩, fun _ => hamounts, hkept⟩
    · intro hdrops happends
      exact happends.kept hdrops
  · intro flattened hflatten
    have hrow := rowOf_flattenNode hflatten
    obtain ⟨raw, hraw, hoffset⟩ := hrow.depth
    rw [hdepth] at hraw
    cases hraw
    refine ⟨hoffset, hrow.txHash, ?_, ?_, ?_⟩
    · intro hchain
      exact ⟨hrow.sender.trans (if_neg hchain), hrow.receiver.trans (if_neg hchain)⟩
    · intro hchain
      exact ⟨hrow.sender.trans (if_pos hchain), hrow.receiver.trans (if_pos hchain)⟩
    · intro hswap
      exact of_decide_eq_true ((flattenNode_eq_some hflatten).2 hswap).1

/-- A transfer between two shielded addresses. -/
def shieldedItem : Json :=
  .dict [("depth", .int 1), ("transaction", .dict [("hash", .str "0xf1")]),
    ("sender", .dict [("address", .str "<shielded>"), ("type", .str "shielded")]),
    ("receiver", .dict [("address", .str "<shielded>"), ("type", .str "shielded")])]

theorem readsAmounts_shieldedItem : ReadsAmounts shieldedItem :=
  ⟨⟨_, rfl⟩, ⟨_, rfl⟩, ⟨_, rfl⟩⟩

theorem flattenNode_keeps_shieldedItem :
    ¬ (Chain.zec ∈ [.btc, .doge, .dash] ∧ PaysCoinbase shieldedItem) ∧
      flattenNode .zec 2 shieldedItem .null ≠ none := by
  have hnone : flattenNode .zec 2 shieldedItem .null = none ↔
      Chain.zec ∈ [.btc, .doge, .dash] ∧ PaysCoinbase shieldedItem :=
    (flattenNode_keeps rfl rfl readsAmounts_shieldedItem 2 .null).1
  have hkept : ¬ (Chain.zec ∈ [.btc, .doge, .dash] ∧ PaysCoinbase shieldedItem) := nofun
  exact ⟨hkept, fun hlost => hkept (hnone.mp hlost)⟩

/-- On ZEC the row has the type of a shielded end in place of its address. -/
theorem sender_ne_shieldedItem :
    ∃ flattened, flattenNode .zec 0 shieldedItem .null = some flattened ∧
      flattened.row.sender ≠ safeGet shieldedItem ["sender", "address"] (.str "") := by
  exact ⟨_, rfl, fun heq => absurd (Json.str.inj heq) (by decide)⟩

end CatvService.GraphQL
