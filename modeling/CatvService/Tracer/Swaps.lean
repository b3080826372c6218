import CatvService.Library.Pool
import CatvService.Library.Value

/-!
# Following a swap through Tracer

`_process_swap` appends the reverse of a swap to the rows that a nested `get_transactions` returns,
and `_get_tx_with_swaps` does this for all swaps of an answer.  A row is a dictionary here: Tracer's
rows are handed on as they come.

`keepsRows_iff_swapSound` says when the given rows are kept and all others have both ends.
-/

namespace CatvService.Tracer

open PyValue Dictionary

/-- The arguments of the nested `get_transactions` that depend on the swap.  The others are fixed:
`tx_limit = 1000`, `depth_limit = 5`, `till_time = datetime.now()`, `source = False`,
`chain = 'ETH'`. -/
structure NestedCall where
  address : Json
  depth : Json
  fromTime : Json
  tokenAddress : Json

/-- What a nested `get_transactions` comes to: it returns a list or another value, or it raises. -/
inductive NestedResult where
  | list (rows : List Json)
  | other (value : Json)
  | raised

/-- The lines of `_process_swap` before its `try`. -/
def swapStart (swap : Json) : Except PyErr NestedCall := do
  let address ← swap.item "sender"
  let fromTime ← swap.item "tx_time"
  let depth ← swap.item "depth"
  let swapInfo ← swap.item "swap_info"
  let tokenOut ← swapInfo.item "token_out"
  let tokenAddress ← tokenOut.item "address"
  return ⟨address, depth, fromTime, tokenAddress⟩

/-- `v.get(key, default)`. -/
def getD (v : Json) (key : String) (default : Json) : Except PyErr Json := do
  return (← v.get key).getD default

/-- The row that leads back from the exchange, from the entries of the swap. -/
def reverseRow (tx tokenOut : Obj) (amount : PyText.PyFloat) : Json :=
  .dict [("depth", (Entries.get? "depth" tx).getD .null),
    ("tx_hash", (Entries.get? "tx_hash" tx).getD .null),
    ("tx_time", (Entries.get? "tx_time" tx).getD .null),
    ("sender", (Entries.get? "receiver" tx).getD .null),
    ("receiver", (Entries.get? "sender" tx).getD .null),
    ("sender_annotation", (Entries.get? "receiver_annotation" tx).getD (.str "")),
    ("receiver_annotation", (Entries.get? "sender_annotation" tx).getD (.str "")),
    ("token", .dict [("address", (Entries.get? "address" tokenOut).getD (.str "")),
      ("symbol", (Entries.get? "symbol" tokenOut).getD (.str ""))]),
    ("token_type", .str "ERC20"),
    ("token_id", .str ""),
    ("amount", .float amount),
    ("amount_usd", .int 0),
    ("sender_type", (Entries.get? "receiver_type" tx).getD (.str "Generic")),
    ("receiver_type", (Entries.get? "sender_type" tx).getD (.str "Wallet")),
    ("is_swap", .bool true)]

/-- `create_reverse_swap_transactions(tx)`: `None` without a token that came out. -/
def createReverseSwapTransactions (tx : Json) : Except PyErr Json := do
  let swapInfo ← getD tx "swap_info" (.dict [])
  let tokenOut ← getD swapInfo "token_out" (.dict [])
  match tx, tokenOut with
  | .dict entries, .dict token =>
      if token.isEmpty then return .null
      let amountOut ← getD swapInfo "amount_out" (.int 0)
      let amount ← amountOut.toFloat
      return reverseRow entries token amount
  | _, _ => return .null

/-- `_process_swap(swap)`, given the outcome of its nested call. -/
def processSwap (nested : NestedCall → NestedResult) (swap : Json) : Pool.Outcome Json :=
  match swapStart swap with
  | .error _ => .raised
  | .ok call =>
      match createReverseSwapTransactions swap with
      | .error _ => .list []
      | .ok swapNode =>
          match nested call with
          | .list rows => .list (swapNode :: rows)
          | .other _ => .list []
          | .raised => .list []

/-- `_get_tx_with_swaps(initial_data, possible_swaps)`: `none` for `None`. -/
def getTxWithSwaps (nested : ℕ → NestedCall → NestedResult)
    (initialData possibleSwaps : List Json) :
    Option (List Json) :=
  Pool.gather initialData (Pool.mapJobs (fun i => processSwap (nested i)) possibleSwaps)

/-! ## When the rows are kept -/

/-- The row is a dictionary with a sender and a receiver. -/
def hasEnds : Json → Bool
  | .dict entries =>
      ((Entries.get? "sender" entries).getD .null).truthy &&
        ((Entries.get? "receiver" entries).getD .null).truthy
  | _ => false

/-- The swap has the fields that are read before the `try`; and where its amount is a number and the
nested query returns a list, both its addresses are there and all rows of the list have both
ends. -/
def SwapSound (nested : NestedCall → NestedResult) (swap : Json) : Prop :=
  ∃ call, swapStart swap = .ok call ∧
    ∀ swapInfo amountOut amount rows, swap.item "swap_info" = .ok swapInfo →
      getD swapInfo "amount_out" (.int 0) = .ok amountOut → amountOut.toFloat = .ok amount →
        nested call = .list rows →
        hasEnds swap = true ∧ ∀ row ∈ rows, hasEnds row = true

variable {nested : NestedCall → NestedResult} {swap : Json}

theorem exists_parts {call : NestedCall} (hstart : swapStart swap = .ok call) :
    ∃ entries swapInfo tokenOut tokenAddress, swap = .dict entries ∧
      Entries.get? "swap_info" entries = some (.dict swapInfo) ∧
      Entries.get? "token_out" swapInfo = some (.dict tokenOut) ∧
      Entries.get? "address" tokenOut = some tokenAddress := by
  obtain ⟨address, -, hstart⟩ := bind_eq_ok_iff.mp hstart
  obtain ⟨fromTime, -, hstart⟩ := bind_eq_ok_iff.mp hstart
  obtain ⟨depth, -, hstart⟩ := bind_eq_ok_iff.mp hstart
  obtain ⟨swapInfo, hswapInfo, hstart⟩ := bind_eq_ok_iff.mp hstart
  obtain ⟨tokenOut, htokenOut, hstart⟩ := bind_eq_ok_iff.mp hstart
  obtain ⟨tokenAddress, htokenAddress, -⟩ := bind_eq_ok_iff.mp hstart
  obtain ⟨entries, rfl, hgetInfo⟩ := Json.item_eq_ok hswapInfo
  obtain ⟨info, rfl, hgetOut⟩ := Json.item_eq_ok htokenOut
  obtain ⟨out, rfl, hgetAddress⟩ := Json.item_eq_ok htokenAddress
  exact ⟨entries, info, out, tokenAddress, rfl, hgetInfo, hgetOut, hgetAddress⟩

theorem getD_dict (entries : Obj) (key : String) (default : Json) :
    getD (.dict entries) key default = .ok ((Entries.get? key entries).getD default) := rfl

/-- A swap that was read has a token that came out, so its reverse is only refused for its
amount. -/
theorem createReverseSwapTransactions_eq {entries swapInfo tokenOut : Obj} {tokenAddress : Json}
    (hswapInfo : Entries.get? "swap_info" entries = some (.dict swapInfo))
    (htokenOut : Entries.get? "token_out" swapInfo = some (.dict tokenOut))
    (haddress : Entries.get? "address" tokenOut = some tokenAddress) :
    createReverseSwapTransactions (.dict entries) =
      ((Entries.get? "amount_out" swapInfo).getD (.int 0)).toFloat >>= fun amount =>
        .ok (reverseRow entries tokenOut amount) := by
  cases tokenOut with
  | nil => cases haddress
  | cons entry token =>
      have hgetInfo : getD (.dict entries) "swap_info" (.dict []) = .ok (.dict swapInfo) := by
        rw [getD_dict, hswapInfo]
        rfl
      have hgetOut : getD (.dict swapInfo) "token_out" (.dict []) =
          .ok (.dict (entry :: token)) := by
        rw [getD_dict, htokenOut]
        rfl
      unfold createReverseSwapTransactions
      simp only [bind, Except.bind, hgetInfo, hgetOut]
      rfl

theorem hasEnds_reverseRow (entries tokenOut : Obj) (amount : PyText.PyFloat) :
    hasEnds (reverseRow entries tokenOut amount) = hasEnds (.dict entries) := by
  show (_ && _) = (_ && _)
  exact Bool.and_comm _ _

theorem sound_processSwap_iff :
    (processSwap nested swap).Sound (fun row => hasEnds row = true) ↔ SwapSound nested swap := by
  unfold processSwap SwapSound
  cases hstart : swapStart swap with
  | error e => simp
  | ok call =>
      simp only [Except.ok.injEq, exists_eq_left']
      obtain ⟨entries, info, out, tokenAddress, rfl, hinfo, hout, haddress⟩ := exists_parts hstart
      have hitem : (Json.dict entries).item "swap_info" = .ok (.dict info) := Json.item_dict hinfo
      rw [createReverseSwapTransactions_eq hinfo hout haddress]
      cases hamount : ((Entries.get? "amount_out" info).getD (.int 0)).toFloat with
      | error e =>
          -- the reversal raises inside the `try`, and the swap contributes nothing
          refine ⟨fun _ swapInfo amountOut amount rows hinfo' hout' hfloat => ?_, fun _ => by
            simp [bind, Except.bind]⟩
          rw [hitem] at hinfo'
          cases hinfo'
          rw [getD_dict] at hout'
          cases hout'
          rw [hamount] at hfloat
          cases hfloat
      | ok amount =>
          constructor
          · intro hsound swapInfo amountOut amount' rows _ _ _ hnested
            simp only [bind, Except.bind, hnested, Pool.Outcome.sound_list_iff,
              List.forall_mem_cons, hasEnds_reverseRow] at hsound
            exact hsound
          · intro hall
            simp only [bind, Except.bind]
            cases hnested : nested call with
            | list rows =>
                have hends :=
                  hall (.dict info) _ amount rows hitem (getD_dict _ _ _) hamount hnested
                rw [Pool.Outcome.sound_list_iff, List.forall_mem_cons, hasEnds_reverseRow]
                exact hends
            | other value => simp
            | raised => simp

/-- `_get_tx_with_swaps` returns a list that begins with the initial rows, and behind them come rows
with both ends. -/
def KeepsRows (nested : ℕ → NestedCall → NestedResult) (initialData possibleSwaps : List Json) :
    Prop :=
  ∃ appended, getTxWithSwaps nested initialData possibleSwaps = some (initialData ++ appended) ∧
    ∀ row ∈ appended, hasEnds row = true

/-- **What the swaps add on the Tracer side.** -/
theorem keepsRows_iff_swapSound {nested : ℕ → NestedCall → NestedResult}
    {initialData swaps : List Json} :
    KeepsRows nested initialData swaps ↔
      ∀ i swap, swaps[i]? = some swap → SwapSound (nested i) swap := by
  unfold KeepsRows getTxWithSwaps
  rw [Pool.gather_mapJobs_sound_iff]
  simp only [sound_processSwap_iff]

end CatvService.Tracer
