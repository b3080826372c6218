import CatvService.GraphQL.Flatten
import CatvService.Library.Pool

/-!
# Following a swap

`process_swap` asks the exchange which currency a swap was turned into, appends a reversed row for
it and queries `coinpath` again from the swap's sender.  `get_tx_with_swaps` does this for all the
swaps of an answer in a thread pool and appends what they contribute.

The nested query is a parameter here; `call_graphql_endpoint` ties the knot.  The workers of a pool
share the bounds `self.depth` and `self.limit`, so what a nested query finds there depends on the
schedule.  No schedule is fixed: every worker starts from the session of its call, and the endpoint
that it is given says what the others have written meanwhile.
-/

namespace CatvService.GraphQL

open PyValue Dictionary

/-! ## `modify_swap_data` -/

/-- `str(v)`.  A number is kept, since all that is done with its text is `float`, which reads the
number back; the text of a container is abbreviated, since `float` takes neither. -/
def pyStr : Json → Json
  | .null => .str "None"
  | .bool b => .str (if b then "True" else "False")
  | .list _ => .str "[…]"
  | .dict _ => .str "\x7b…\x7d"
  | v => v

/-- The dictionary of a new end of a swap, from that of the old one. -/
def swapEndEntries (original : Obj) (newAmount : Json) : Obj :=
  [("address", (Entries.get? "address" original).getD (.str "")),
    ("annotation", (Entries.get? "annotation" original).getD .null),
    ("type", (Entries.get? "type" original).getD (.str "Wallet")),
    ("receiversCount", (Entries.get? "receiversCount" original).getD .null),
    ("sendersCount", (Entries.get? "sendersCount" original).getD .null),
    ("amountOut", pyStr newAmount),
    ("amountIn", pyStr newAmount),
    ("balance", (Entries.get? "balance" original).getD (.str "0.0")),
    ("firstTxAt", (Entries.get? "firstTxAt" original).getD .null),
    ("lastTxAt", (Entries.get? "lastTxAt" original).getD .null),
    ("smartContract", (Entries.get? "smartContract" original).getD .null)]

/-- The new end of a swap.  Only a dictionary has `get`. -/
def swapEnd (original newAmount : Json) : Except PyErr Json :=
  match original with
  | .dict entries => .ok (.dict (swapEndEntries entries newAmount))
  | _ => .error .attributeError

/-- What `update_amount_fields` does with an entry whose value is no container. -/
def updateScalar (newVal : Json) (key : String) (v : Json) : Except PyErr Json :=
  if key ∈ ["amount", "value", "txValue"] then .float <$> newVal.toFloat
  else if key ∈ ["amountOut", "amountIn"] then .ok (pyStr newVal)
  else .ok v

mutual

/-- `update_amount_fields(obj, new_val)`.  Lists are not entered. -/
def updateAmountFields (newVal : Json) : Json → Except PyErr Json
  | .dict entries => do return .dict (← updateAmountEntries newVal entries)
  | v => .ok v

/-- Its loop over the keys of a dictionary. -/
def updateAmountEntries (newVal : Json) : List (String × Json) → Except PyErr Obj
  | [] => .ok []
  | (key, v) :: entries => do
      let updated ← (if v.isContainer then updateAmountFields newVal v
        else updateScalar newVal key v)
      return (key, updated) :: (← updateAmountEntries newVal entries)

end

/-- `default_currency`. -/
def defaultCurrency : Obj :=
  [("name", .str ""), ("symbol", .str ""), ("tokenId", .str ""), ("tokenType", .str ""),
    ("address", .str "")]

/-- `modified_swap['currency']`. -/
def swapCurrency (newCurrency : Json) : Obj :=
  match newCurrency with
  | .dict entries => if entries.isEmpty then defaultCurrency else defaultCurrency.update entries
  | _ => defaultCurrency

/-- `v[key] = value`. -/
def setItem (v : Json) (key : String) (value : Json) : Except PyErr Json :=
  match v with
  | .dict entries => .ok (.dict (Entries.set key value entries))
  | _ => .error .typeError

/-- `tx['txValue'] = new_amount; tx['amount'] = new_amount`. -/
def setTransaction (newAmount tx : Json) : Except PyErr Json := do
  setItem (← setItem tx "txValue" newAmount) "amount" newAmount

/-- The loop over `modified_swap['transactions']`.  The keys of a dictionary and the characters of a
text cannot be assigned to. -/
def updateTransactions (newAmount transactions : Json) : Except PyErr Json :=
  match transactions with
  | .list items => .list <$> items.mapM (setTransaction newAmount)
  | .dict entries => if entries.isEmpty then .ok transactions else .error .typeError
  | .str s => if s = "" then .ok transactions else .error .typeError
  | _ => .error .typeError

/-- The copy of the swap with its ends exchanged. -/
def reverseEnds (swap newAmount : Json) : Except PyErr Json := do
  let originalSender := (← swap.get "sender").getD (.dict [])
  let originalReceiver := (← swap.get "receiver").getD (.dict [])
  let swap ← setItem swap "sender" (← swapEnd originalReceiver newAmount)
  setItem swap "receiver" (← swapEnd originalSender newAmount)

/-- `if key in v: v[key] = f(v[key])`. -/
def setPresent (v : Json) (key : String) (f : Json → Except PyErr Json) : Except PyErr Json := do
  match ← v.get key with
  | some old => setItem v key (← f old)
  | none => return v

/-- The fields that `modify_swap_data` sets after the amounts. -/
def setSwapFields (swap newAmount newAmountUsd newCurrency : Json) : Except PyErr Json := do
  let swap ← setPresent swap "amount_usd" fun _ => .ok newAmountUsd
  let swap ← setItem swap "currency" (.dict (swapCurrency newCurrency))
  let swap ← setPresent swap "transaction" fun transaction => setItem transaction "value" newAmount
  setPresent swap "transactions" (updateTransactions newAmount)

/-- The body of `modify_swap_data`. -/
def modifySwapBody (swap newAmount newAmountUsd newCurrency : Json) : Except PyErr Json := do
  let reversed ← reverseEnds swap newAmount
  let updated ← updateAmountFields newAmount reversed
  setSwapFields updated newAmount newAmountUsd newCurrency

/-- `modify_swap_data(swap, new_amount, new_amount_usd, new_currency)`: `None` after an
exception. -/
def modifySwapData (swap newAmount newAmountUsd newCurrency : Json) : Json :=
  match modifySwapBody swap newAmount newAmountUsd newCurrency with
  | .ok modified => modified
  | .error _ => .null

/-! ## `process_swap` -/

/-- What a request comes to. -/
inductive Reply where
  /-- A timeout, a connection error, a status other than 200 or a body that is not JSON. -/
  | failed
  /-- Any other exception of the library. -/
  | raised
  | answered (document : Json)

/-- What `process_swap` reads of the last trade of a swap. -/
structure DexTrade where
  finalCurrencyAddress : Json
  fromTime : Json
  newAmount : Json
  newAmountUsd : Json
  newCurrency : Json

/-- `self.chain.lower() in ('eth', 'bsc')`. -/
def Chain.isEthOrBsc (chain : Chain) : Bool :=
  decide (PyText.lower chain.code ∈ ["eth", "bsc"])

/-- `v.replace('T', ' ').replace('Z', '')`. -/
def spacedTime (v : Json) : Except PyErr Json :=
  match v with
  | .str s =>
      .ok (.str (String.ofList
        ((s.toList.map fun c => if c = 'T' then ' ' else c).filter fun c => decide (c ≠ 'Z'))))
  | _ => .error .attributeError

/-- `dex_trades`. -/
def dexTradesOf (chain : Chain) (response : Json) : Except PyErr Json := do
  let data ← response.item "data"
  if chain.isEthOrBsc then (← data.item "EVM").item "DEXTrades"
  else (← data.item (← chain.lookup Chain.networkForResponse?)).item "dexTrades"

/-- `initial_smartcontract_address`. -/
def contractOf (chain : Chain) (trade : Json) : Except PyErr Json := do
  if chain.isEthOrBsc then (← (← trade.item "Trade").item "Dex").item "SmartContract"
  else (← (← trade.item "smartContract").item "address").item "address"

/-- The last trade of an answer of the `EVM` dataset. -/
def evmTrade (trade : Json) : Except PyErr DexTrade := do
  let sell ← (← trade.item "Trade").item "Sell"
  let currency ← sell.item "Currency"
  let finalCurrencyAddress ← currency.item "SmartContract"
  let fromTime ← spacedTime (← (← trade.item "Block").item "Time")
  let newAmount ← (← sell.item "Amount").toFloat
  let newAmountUsd ← (← sell.item "AmountInUSD").toFloat
  let name ← currency.item "Name"
  let symbol ← currency.item "Symbol"
  return {
    finalCurrencyAddress := finalCurrencyAddress
    fromTime := fromTime
    newAmount := .float newAmount
    newAmountUsd := .float newAmountUsd
    newCurrency := .dict [("name", name), ("symbol", symbol), ("address", finalCurrencyAddress)] }

/-- The last trade of an answer of the other endpoint. -/
def plainTrade (trade : Json) : Except PyErr DexTrade := do
  let currency ← trade.item "sellCurrency"
  let finalCurrencyAddress ← currency.item "address"
  let fromTime ← (← (← trade.item "block").item "timestamp").item "time"
  let newAmount ← trade.item "sellAmount"
  let newAmountUsd ← trade.item "sell_amount_usd"
  let name ← currency.item "name"
  let symbol ← currency.item "symbol"
  return {
    finalCurrencyAddress := finalCurrencyAddress
    fromTime := fromTime
    newAmount := newAmount
    newAmountUsd := newAmountUsd
    newCurrency := .dict [("name", name), ("symbol", symbol), ("address", finalCurrencyAddress)] }

/-- What `process_swap` makes of the answer of the exchange: `none` where it returns `None`, because
there is no trade or the first one is with another contract than the swap's receiver. -/
def readDexTrades (chain : Chain) (swap response : Json) : Except PyErr (Option DexTrade) := do
  let dexTrades ← dexTradesOf chain response
  let count ← dexTrades.len
  if count < 1 then return none
  let first ← dexTrades.index 0
  let initialSmartcontractAddress ← contractOf chain first
  let receiver ← swap.item "receiver"
  let receiverAddress ← receiver.item "address"
  if !initialSmartcontractAddress.eq receiverAddress then return none
  let last ← dexTrades.index (-1)
  some <$> (if chain.isEthOrBsc then evmTrade last else plainTrade last)

/-- `v - 1`. -/
def lessOne (v : Json) : Except PyErr ℤ :=
  match v with
  | .bool b => .ok ((if b then 1 else 0) - 1)
  | .int z => .ok (z - 1)
  -- no float comes here: the `depth` of the schema is an `Int`
  | .float _ => .error .valueError
  | _ => .error .typeError

/-- What `process_swap` takes from the swap before its `try`. -/
structure SwapStart where
  txHash : Json
  initialDepth : ℤ
  sender : Json

/-- The lines of `process_swap` before its `try`.  The query text is made for every chain that has
its networks. -/
def swapStart (chain : Chain) (swap : Json) : Except PyErr SwapStart := do
  let transaction ← swap.item "transaction"
  let txHash ← transaction.item "hash"
  let depth ← swap.item "depth"
  let initialDepth ← lessOne depth
  let sender ← swap.item "sender"
  let address ← sender.item "address"
  let _ ← chain.lookup Chain.networkForResponse?
  let _ ← chain.lookup Chain.networkForQuery?
  return ⟨txHash, initialDepth, address⟩

/-- An element of a list that `call_graphql_endpoint` returns: a row, or a member of a document that
was returned in place of rows. -/
inductive Element where
  | row (row : FlatRow)
  | raw (value : Json)

/-- The row has a sender and a receiver. -/
def FlatRow.hasEnds (row : FlatRow) : Bool :=
  row.sender.truthy && row.receiver.truthy

/-- The element is a row with a sender and a receiver. -/
def Element.hasEnds : Element → Bool
  | .row flat => flat.hasEnds
  | .raw _ => false

/-- What `call_graphql_endpoint` comes to. -/
inductive CallResult where
  | list (elements : List Element)
  /-- `None`, or a document that is not a list. -/
  | other (document : Json)
  | raised

/-- What `process_swap` comes to. -/
abbrev SwapResult := Pool.Outcome Element

/-- The row that `process_swap` makes of the swap itself. -/
def swapRow (chain : Chain) (swap : Json) (trade : DexTrade) : List Element :=
  let node := modifySwapData swap trade.newAmount trade.newAmountUsd trade.newCurrency
  match flattenNode chain 0 node trade.finalCurrencyAddress with
  | some flattened => [.row flattened.row]
  | none => []

/-- `response + results`, or the `[]` of the handler. -/
def joinNested (response : List Element) (results : CallResult) : SwapResult :=
  match results with
  | .list elements => .list (response ++ elements)
  | .other _ => .list []
  | .raised => .list []

/-- The arguments of the nested `call_graphql_endpoint`. -/
structure NestedCall where
  address : Json
  tokenAddress : Json
  fromTime : Json
  initialDepth : ℤ

/-- What one swap is about to do: its result is known, or it is a nested call whose result is
appended to the swap's own row. -/
inductive SwapPlan where
  | done (result : SwapResult)
  | nested (response : List Element) (call : NestedCall)

/-- `process_swap(swap)` up to the nested call. -/
def swapPlan (chain : Chain) (dexTrades : Json → Reply) (swap : Json) : SwapPlan :=
  match swapStart chain swap with
  | .error _ => .done .raised
  | .ok start =>
      match dexTrades start.txHash with
      | .failed => .done (.list [])
      | .raised => .done (.list [])
      | .answered document =>
          match readDexTrades chain swap document with
          | .error _ => .done (.list [])
          | .ok none => .done .nothing
          | .ok (some trade) =>
              .nested (swapRow chain swap trade)
                ⟨start.sender, trade.finalCurrencyAddress, trade.fromTime, start.initialDepth⟩

/-- A nested `call_graphql_endpoint`, with the session that its worker has.  `none` means that it
does not come back within the nesting allowed to it. -/
abbrev Endpoint := Session → NestedCall → Option (CallResult × Session)

/-- `process_swap(swap)`. -/
def processSwap (chain : Chain) (endpoint : Endpoint) (dexTrades : Json → Reply) (swap : Json)
    (session : Session) : Option (SwapResult × Session) :=
  let session := match swapStart chain swap with
    | .ok _ => session.post
    | .error _ => session
  match swapPlan chain dexTrades swap with
  | .done result => some (result, session)
  | .nested response call => do
      let (results, session) ← endpoint session call
      return (joinNested response results, session)

/-! ## `get_tx_with_swaps` -/

/-- `pool.map(self.process_swap, possible_swaps)`, the `i`-th swap with its own endpoint.  All
requests are counted; the bounds that the pool leaves are not read again. -/
def mapSwaps (chain : Chain) (endpoint : ℕ → Endpoint) (dexTrades : ℕ → Json → Reply) :
    List Json → ℕ → Session → Option (List SwapResult × Session)
  | [], _, session => some ([], session)
  | swap :: swaps, i, session => do
      let (result, own) ← processSwap chain (endpoint i) (dexTrades i) swap session
      let (results, others) ← mapSwaps chain endpoint dexTrades swaps (i + 1) session
      return (result :: results, others.posted (own.requests - session.requests))

/-- The rest of `get_tx_with_swaps`, once every swap is processed.  If `pool.map` raises, the
handler returns `None`. -/
def collectSwaps (initialData : List Element) (results : List SwapResult) : CallResult :=
  match Pool.gather initialData results with
  | some elements => .list elements
  | none => .other .null

/-- `get_tx_with_swaps(initial_data, possible_swaps)`. -/
def getTxWithSwaps (chain : Chain) (endpoint : ℕ → Endpoint) (dexTrades : ℕ → Json → Reply)
    (initialData : List Element) (possibleSwaps : List Json) (session : Session) :
    Option (CallResult × Session) := do
  let (results, session) ← mapSwaps chain endpoint dexTrades possibleSwaps 0 session
  return (collectSwaps initialData results, session)

/-- Without swaps nothing is requested and the rows are returned as they are. -/
theorem getTxWithSwaps_nil (chain : Chain) (endpoint : ℕ → Endpoint)
    (dexTrades : ℕ → Json → Reply) (initialData : List Element) (session : Session) :
    getTxWithSwaps chain endpoint dexTrades initialData [] session =
      some (.list initialData, session) := by
  show some (collectSwaps initialData [], session) = _
  rw [collectSwaps, Pool.gather_nil]

end CatvService.GraphQL
