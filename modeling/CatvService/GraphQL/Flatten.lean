import CatvService.GraphQL.Query

/-!
# Rows of a coinpath answer

`flatten_node` turns one item of a `coinpath` answer into a flat row and collects the items that
look like swaps.  The keys that every chain has are fields of `FlatRow`; what else a chain puts into
its rows stands in `rest`, under the source's keys and in its order.
-/

namespace CatvService.GraphQL

open PyValue PyText Dictionary

/-! ## `safe_get` -/

/-- A step of a path: a key of a dictionary or an index of a list. -/
inductive Key where
  | name (key : String)
  | position (i : ℕ)
  deriving DecidableEq, Repr

instance : Coe String Key := ⟨.name⟩

instance (n : ℕ) : OfNat Key n := ⟨.position n⟩

/-- What `safe_get` finds, `none` where it returns the default. -/
def safeGet? (value : Json) : List Key → Option Json
  | [] => some value
  | key :: keys =>
      let next := match value, key with
        | .dict entries, .name key => Entries.get? key entries
        | .list items, .position i => items[i]?
        | _, _ => none
      match next with
      | some value => if value.isMissing then none else safeGet? value keys
      | none => none

/-- `safe_get(value, *keys, default=default)`. -/
def safeGet (value : Json) (keys : List Key) (default : Json) : Json :=
  (safeGet? value keys).getD default

/-! ## `is_swaps` -/

/-- `dex_keywords`. -/
def dexKeywords : List String :=
  ["dex", "swap", "exchange", "uniswap", "sushiswap", "pancakeswap"]

/-- The loop over the keywords, with the text of the annotation.  The contract type is lowered only
where that has none of them. -/
def mentions (text : String) (contractType : Json) : List String → Except PyErr Bool
  | [] => .ok false
  | keyword :: keywords =>
      if contains keyword text then .ok true
      else do
        if contains keyword (← contractType.lower) then return true
        mentions text contractType keywords

/-- The body of `is_swaps`. -/
def isSwapsBody (item : Json) : Except PyErr Bool := do
  let receiver := (← item.get "receiver").getD (.dict [])
  let annotation := (← receiver.get "annotation").getD .null
  let annotation ← if annotation.truthy then annotation.lower else pure ""
  let smartContract := (← receiver.get "smartContract").getD .null
  let contractType ←
    if smartContract.truthy then do
      pure ((← smartContract.get "contractType").getD (.str ""))
    else pure (.str "")
  if contractType.truthy then mentions annotation contractType dexKeywords
  else return false

/-- `is_swaps(item)`. -/
def isSwaps (item : Json) : Bool :=
  match isSwapsBody item with
  | .ok answer => answer
  | .error _ => false

/-! ## `flatten_node` -/

/-- The dictionary of one transfer. -/
structure FlatRow where
  depth : ℤ
  txHash : Json
  sender : Json
  receiver : Json
  senderAnnotation : Json
  receiverAnnotation : Json
  rest : Obj

/-- What `flatten_node` appends: a row, and whether the item is appended to `possible_swaps`. -/
structure Flattened where
  row : FlatRow
  isSwap : Bool

/-- `current_iter_dict` at its start. -/
def baseRow (initialDepth : ℤ) (item : Json) : Except PyErr FlatRow := do
  let depth ← (safeGet item ["depth"] (.int 0)).toInt
  return {
    depth := depth + initialDepth
    txHash := safeGet item ["transaction", "hash"] (.str "")
    sender := safeGet item ["sender", "address"] (.str "")
    receiver := safeGet item ["receiver", "address"] (.str "")
    senderAnnotation := safeGet item ["sender", "annotation"] (.str "")
    receiverAnnotation := safeGet item ["receiver", "annotation"] (.str "")
    rest := [] }

/-- `current_iter_dict.update(entries)`, for keys that are new. -/
def FlatRow.update (row : FlatRow) (entries : Obj) : FlatRow :=
  { row with rest := row.rest ++ entries }

/-- XRP and XLM processing. -/
def rippleStellarRow (chain : Chain) (base : FlatRow) (item : Json) : FlatRow :=
  let row := base.update [
    ("tx_time", safeGet item ["transaction", "time", "time"] (.str "")),
    ("sent_amount", safeGet item ["amountFrom"] (.int 0)),
    ("sent_tx_value", safeGet item ["transaction", "valueFrom"] (.int 0)),
    ("sent_currency", safeGet item ["currencyFrom", "symbol"] (.str "")),
    ("received_amount", safeGet item ["amountTo"] (.int 0)),
    ("received_tx_value", safeGet item ["transaction", "valueTo"] (.int 0)),
    ("received_currency", safeGet item ["currencyTo", "symbol"] (.str "")),
    ("operation_type", safeGet item ["operation"] (.str "")),
    ("receiver_receive_from_count", safeGet item ["receiver", "receiversCount"] (.int 0)),
    ("receiver_send_to_count", safeGet item ["receiver", "sendersCount"] (.int 0)),
    ("receiver_first_transfer_at", safeGet item ["receiver", "firstTransferAt", "time"] .null),
    ("receiver_last_transfer_at", safeGet item ["receiver", "lastTransferAt", "time"] .null)]
  if chain = .xrp then
    let destTag := safeGet item ["destinationTag"] .null
    let row := if destTag.truthy then row.update [("destination_tag", destTag)] else row
    let sourceTag := safeGet item ["sourceTag"] .null
    if sourceTag.truthy then row.update [("source_tag", sourceTag)] else row
  else row

/-- The common fields of the other chains. -/
def commonRow (base : FlatRow) (item : Json) : FlatRow :=
  base.update [
    ("symbol", safeGet item ["currency", "symbol"] (.str "")),
    ("amount", safeGet item ["amount"] (.int 0)),
    ("amount_usd", safeGet item ["amount_usd"] (.int 0))]

/-- LUNC processing. -/
def terraRow (common : FlatRow) (item : Json) : FlatRow :=
  common.update [
    ("tx_time", safeGet item ["block", "timestamp", "time"] (.str "")),
    ("tx_value", safeGet item ["transaction", "value"] (.int 0))]

/-- The item has no receiver because it pays a coinbase, on the chains that drop such items. -/
def dropsCoinbase (chain : Chain) (item : Json) : Bool :=
  decide (chain ∈ [.btc, .doge, .dash]) &&
    ((safeGet item ["receiver", "type"] .null).eq (.str "coinbase") &&
      !(safeGet item ["receiver", "address"] .null).truthy)

/-- An end of a ZEC transfer: a missing address is replaced by the type. -/
def zecEnd (address type : Json) : Json :=
  let address := if address.eq (.str "") && type.truthy then type else address
  if address.eq (.str "<shielded>") && type.eq (.str "shielded") then .str "shielded" else address

/-- Bitcoin-like chains processing. -/
def bitcoinRow (chain : Chain) (common : FlatRow) (item : Json) : FlatRow :=
  let row := common.update [
    ("tx_time", safeGet item ["transactions", 0, "timestamp"] (.str "")),
    ("tx_value_in", safeGet item ["transaction", "valueIn"] (.int 0)),
    ("tx_value_out", safeGet item ["transaction", "valueOut"] (.int 0))]
  if chain = .ada then
    row.update [("sender_type", .str "unknown"), ("receiver_type", .str "unknown")]
  else
    let senderType := safeGet item ["sender", "type"] (.str "unknown")
    let receiverType := safeGet item ["receiver", "type"] (.str "unknown")
    let row := row.update [("sender_type", senderType), ("receiver_type", receiverType)]
    if chain = .zec then
      { row with
        sender := zecEnd row.sender senderType
        receiver := zecEnd row.receiver receiverType }
    else row

/-- Smart contract chains common fields.  A receiver amount that is no number raises. -/
def smartContractRow (common : FlatRow) (item : Json) : Except PyErr FlatRow := do
  let amountOut ← (safeGet item ["receiver", "amountOut"] (.int 0)).toFloat
  let amountIn ← (safeGet item ["receiver", "amountIn"] (.int 0)).toFloat
  let balance ← (safeGet item ["receiver", "balance"] (.int 0)).toFloat
  return common.update [
    ("token_id", safeGet item ["currency", "tokenId"] (.str "")),
    ("token_type", safeGet item ["currency", "tokenType"] (.str "")),
    ("receiver_receivers_count", safeGet item ["receiver", "receiversCount"] (.int 0)),
    ("receiver_senders_count", safeGet item ["receiver", "sendersCount"] (.int 0)),
    ("receiver_first_tx_at", safeGet item ["receiver", "firstTxAt", "time"] .null),
    ("receiver_last_tx_at", safeGet item ["receiver", "lastTxAt", "time"] .null),
    ("receiver_amount_out", .float amountOut),
    ("receiver_amount_in", .float amountIn),
    ("receiver_balance", .float balance)]

/-- Ethereum-like chains. -/
def ethereumRow (smart : FlatRow) (item tokenAddress : Json) : FlatRow :=
  smart.update [
    ("token", tokenAddress),
    ("tx_time", safeGet item ["transactions", 0, "timestamp"] (.str "")),
    ("sender_type", safeGet item ["sender", "smartContract", "contractType"] (.str "Wallet")),
    ("receiver_type", safeGet item ["receiver", "smartContract", "contractType"] (.str "Wallet"))]

/-- BNB, TRX, EOS chains. -/
def binanceTronRow (smart : FlatRow) (item token : Json) : FlatRow :=
  smart.update [
    ("tx_time", safeGet item ["transaction", "time", "time"] (.str "")),
    ("sender_type", safeGet item ["sender", "type"] (.str "unknown")),
    ("receiver_type", safeGet item ["receiver", "type"] (.str "unknown")),
    ("token", token)]

/-- The chains on which `flatten_node` looks for swaps. -/
def Chain.tracesSwaps (chain : Chain) : Bool :=
  decide (chain ∈ [.eth, .klay, .bsc, .ftm, .pol, .avax])

/-- The branches of `flatten_node`, by chain. -/
def flattenBranch (chain : Chain) (base : FlatRow) (item tokenAddress : Json) :
    Except PyErr (Option Flattened) :=
  let common := commonRow base item
  match chain with
  | .xrp | .xlm => .ok (some ⟨rippleStellarRow chain base item, false⟩)
  | .lunc => .ok (some ⟨terraRow common item, false⟩)
  | .btc | .bch | .ltc | .ada | .doge | .zec | .dash =>
      if dropsCoinbase chain item then .ok none
      else .ok (some ⟨bitcoinRow chain common item, false⟩)
  | .eth | .klay | .bsc | .ftm | .pol | .avax => do
      let smart ← smartContractRow common item
      return some ⟨ethereumRow smart item tokenAddress, isSwaps item⟩
  | .bnb | .trx => do
      let smart ← smartContractRow common item
      return some ⟨binanceTronRow smart item tokenAddress, false⟩
  | .eos => do
      let smart ← smartContractRow common item
      return some ⟨binanceTronRow smart item (safeGet item ["currency", "name"] (.str "")), false⟩
  | .other _ => do
      -- the fields are computed, then no branch appends the row
      let _ ← smartContractRow common item
      return none

/-- `flatten_node(initial_depth, item, flattened_response, possible_swaps, token_address)`: what it
appends.  An exception is caught and nothing is appended. -/
def flattenNode (chain : Chain) (initialDepth : ℤ) (item tokenAddress : Json) : Option Flattened :=
  match (do flattenBranch chain (← baseRow initialDepth item) item tokenAddress) with
  | .ok flattened => flattened
  | .error _ => none

/-! ## What a row keeps of its item -/

theorem safeGet_of_get {item value : Json} {key : String} (hget : item.get key = .ok (some value))
    (hvalue : value.isMissing = false) (default : Json) : safeGet item [key] default = value := by
  cases item with
  | dict entries =>
      have hentry : Entries.get? key entries = some value := by simpa [Json.get] using hget
      simp [safeGet, safeGet?, hentry, hvalue]
  | _ => cases hget

variable {chain : Chain} {initialDepth : ℤ} {item tokenAddress : Json} {base row : FlatRow}
  {flattened : Flattened}

theorem depth_rippleStellarRow (chain : Chain) (base : FlatRow) (item : Json) :
    (rippleStellarRow chain base item).depth = base.depth := by
  unfold rippleStellarRow
  dsimp only
  split
  · split <;> split <;> rfl
  · rfl

theorem depth_bitcoinRow (chain : Chain) (common : FlatRow) (item : Json) :
    (bitcoinRow chain common item).depth = common.depth := by
  unfold bitcoinRow
  dsimp only
  split
  · rfl
  · split <;> rfl

theorem smartContractRow_eq_ok (hsmart : smartContractRow base item = .ok row) :
    ∃ entries, row = base.update entries := by
  obtain ⟨amountOut, -, hsmart⟩ := bind_eq_ok_iff.mp hsmart
  obtain ⟨amountIn, -, hsmart⟩ := bind_eq_ok_iff.mp hsmart
  obtain ⟨balance, -, hsmart⟩ := bind_eq_ok_iff.mp hsmart
  cases hsmart
  exact ⟨_, rfl⟩

/-- Every branch keeps the depth, and only the Ethereum-like one reports a swap. -/
theorem flattenBranch_eq_some
    (hbranch : flattenBranch chain base item tokenAddress = .ok (some flattened)) :
    flattened.row.depth = base.depth ∧
      (flattened.isSwap = true → chain.tracesSwaps = true ∧ isSwaps item = true) := by
  unfold flattenBranch at hbranch
  dsimp only at hbranch
  split at hbranch
  -- XRP and XLM, LUNC, the UTXO chains, the six Ethereum-like ones, then BNB, TRX and EOS, and last
  -- the chains that no branch appends a row for
  case h_1 | h_2 =>
    cases hbranch
    exact ⟨depth_rippleStellarRow _ _ _, by simp⟩
  case h_3 =>
    cases hbranch
    exact ⟨rfl, by simp⟩
  case h_4 | h_5 | h_6 | h_7 | h_8 | h_9 | h_10 =>
    split at hbranch
    · cases hbranch
    · cases hbranch
      exact ⟨depth_bitcoinRow _ _ _, by simp⟩
  case h_11 | h_12 | h_13 | h_14 | h_15 | h_16 =>
    obtain ⟨smart, hsmart, hrow⟩ := bind_eq_ok_iff.mp hbranch
    obtain ⟨entries, rfl⟩ := smartContractRow_eq_ok hsmart
    cases hrow
    exact ⟨rfl, fun hswap => ⟨rfl, hswap⟩⟩
  case h_17 | h_18 | h_19 =>
    obtain ⟨smart, hsmart, hrow⟩ := bind_eq_ok_iff.mp hbranch
    obtain ⟨entries, rfl⟩ := smartContractRow_eq_ok hsmart
    cases hrow
    exact ⟨rfl, by simp⟩
  case h_20 =>
    obtain ⟨smart, -, hrow⟩ := bind_eq_ok_iff.mp hbranch
    cases hrow

/-- A row is made in two steps, and an exception of either leaves none. -/
theorem flattenNode_eq_some_iff_steps :
    flattenNode chain initialDepth item tokenAddress = some flattened ↔
      ∃ base, baseRow initialDepth item = .ok base ∧
        flattenBranch chain base item tokenAddress = .ok (some flattened) := by
  unfold flattenNode
  constructor
  · intro hflatten
    split at hflatten
    · rename_i result hresult
      subst hflatten
      exact bind_eq_ok_iff.mp hresult
    · cases hflatten
  · intro hsteps
    rw [bind_eq_ok_iff.mpr hsteps]

/-- A row's depth is the item's own depth plus the offset. -/
theorem flattenNode_eq_some
    (hflatten : flattenNode chain initialDepth item tokenAddress = some flattened) :
    (∃ depth, (safeGet item ["depth"] (.int 0)).toInt = .ok depth ∧
      flattened.row.depth = depth + initialDepth) ∧
      (flattened.isSwap = true → chain.tracesSwaps = true ∧ isSwaps item = true) := by
  obtain ⟨base, hbase, hbranch⟩ := flattenNode_eq_some_iff_steps.mp hflatten
  obtain ⟨hdepth, hswap⟩ := flattenBranch_eq_some hbranch
  obtain ⟨depth, hint, hrow⟩ := bind_eq_ok_iff.mp hbase
  cases hrow
  exact ⟨⟨depth, hint, hdepth⟩, hswap⟩

/-! ## Rows of the chains with swaps -/

theorem cases_of_tracesSwaps (hchain : chain.tracesSwaps = true) :
    chain = .eth ∨ chain = .klay ∨ chain = .bsc ∨ chain = .ftm ∨ chain = .pol ∨ chain = .avax := by
  simpa [Chain.tracesSwaps] using hchain

/-- `float(safe_get(item, *keys, default=0))` does not raise. -/
def Reads (item : Json) (keys : List Key) : Prop :=
  ∃ x, (safeGet item keys (.int 0)).toFloat = .ok x

/-- The row of an Ethereum-like chain is made of these four steps. -/
theorem flattenNode_eq_some_iff (hchain : chain.tracesSwaps = true) :
    flattenNode chain initialDepth item tokenAddress = some flattened ↔
      ∃ base smart, baseRow initialDepth item = .ok base ∧
        smartContractRow (commonRow base item) item = .ok smart ∧
        flattened = ⟨ethereumRow smart item tokenAddress, isSwaps item⟩ := by
  have hbranch : ∀ base, flattenBranch chain base item tokenAddress =
      (smartContractRow (commonRow base item) item >>= fun smart =>
        .ok (some ⟨ethereumRow smart item tokenAddress, isSwaps item⟩)) := by
    intro base
    rcases cases_of_tracesSwaps hchain with rfl | rfl | rfl | rfl | rfl | rfl <;> rfl
  rw [flattenNode_eq_some_iff_steps]
  simp only [hbranch]
  constructor
  · intro hsteps
    obtain ⟨base, hbase, hrow⟩ := hsteps
    obtain ⟨smart, hsmart, heq⟩ := bind_eq_ok_iff.mp hrow
    cases heq
    exact ⟨base, smart, hbase, hsmart, rfl⟩
  · intro hsteps
    obtain ⟨base, smart, hbase, hsmart, rfl⟩ := hsteps
    exact ⟨base, hbase, bind_eq_ok_iff.mpr ⟨smart, hsmart, rfl⟩⟩

theorem exists_baseRow_iff :
    (∃ base, baseRow initialDepth item = .ok base) ↔
      ∃ depth, (safeGet item ["depth"] (.int 0)).toInt = .ok depth := by
  constructor
  · intro hexists
    obtain ⟨base, hbase⟩ := hexists
    obtain ⟨depth, hdepth, -⟩ := bind_eq_ok_iff.mp hbase
    exact ⟨depth, hdepth⟩
  · intro hexists
    obtain ⟨depth, hdepth⟩ := hexists
    exact ⟨_, bind_eq_ok_iff.mpr ⟨depth, hdepth, rfl⟩⟩

theorem exists_smartContractRow_iff :
    (∃ smart, smartContractRow base item = .ok smart) ↔
      Reads item ["receiver", "amountOut"] ∧ Reads item ["receiver", "amountIn"] ∧
        Reads item ["receiver", "balance"] := by
  constructor
  · intro hexists
    obtain ⟨smart, hsmart⟩ := hexists
    obtain ⟨amountOut, hout, hsmart⟩ := bind_eq_ok_iff.mp hsmart
    obtain ⟨amountIn, hin, hsmart⟩ := bind_eq_ok_iff.mp hsmart
    obtain ⟨balance, hbalance, -⟩ := bind_eq_ok_iff.mp hsmart
    exact ⟨⟨amountOut, hout⟩, ⟨amountIn, hin⟩, ⟨balance, hbalance⟩⟩
  · intro hreads
    obtain ⟨⟨amountOut, hout⟩, ⟨amountIn, hin⟩, ⟨balance, hbalance⟩⟩ := hreads
    exact ⟨_, bind_eq_ok_iff.mpr ⟨amountOut, hout, bind_eq_ok_iff.mpr ⟨amountIn, hin,
      bind_eq_ok_iff.mpr ⟨balance, hbalance, rfl⟩⟩⟩⟩

/-- A row is made exactly when the depth and the three amounts of the receiver can be read. -/
theorem exists_flattenNode_iff (hchain : chain.tracesSwaps = true) :
    (∃ flattened, flattenNode chain initialDepth item tokenAddress = some flattened) ↔
      (∃ depth, (safeGet item ["depth"] (.int 0)).toInt = .ok depth) ∧
        Reads item ["receiver", "amountOut"] ∧ Reads item ["receiver", "amountIn"] ∧
          Reads item ["receiver", "balance"] := by
  simp only [flattenNode_eq_some_iff hchain]
  constructor
  · intro hexists
    obtain ⟨flattened, base, smart, hbase, hsmart, -⟩ := hexists
    exact ⟨exists_baseRow_iff.mp ⟨base, hbase⟩, exists_smartContractRow_iff.mp ⟨smart, hsmart⟩⟩
  · intro hreads
    obtain ⟨base, hbase⟩ := exists_baseRow_iff.mpr hreads.1
    obtain ⟨smart, hsmart⟩ := exists_smartContractRow_iff.mpr hreads.2
    exact ⟨_, base, smart, hbase, hsmart, rfl⟩

theorem ends_of_flattenNode (hchain : chain.tracesSwaps = true)
    (hflatten : flattenNode chain initialDepth item tokenAddress = some flattened) :
    flattened.row.sender = safeGet item ["sender", "address"] (.str "") ∧
      flattened.row.receiver = safeGet item ["receiver", "address"] (.str "") := by
  obtain ⟨base, smart, hbase, hsmart, rfl⟩ := (flattenNode_eq_some_iff hchain).mp hflatten
  obtain ⟨entries, rfl⟩ := smartContractRow_eq_ok hsmart
  obtain ⟨depth, -, hrow⟩ := bind_eq_ok_iff.mp hbase
  cases hrow
  exact ⟨rfl, rfl⟩

end CatvService.GraphQL
