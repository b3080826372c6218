import CatvService.GraphQL.DepthLimit
import CatvService.GraphQL.SwapRows
import CatvService.Tracer.Swaps

/-!
# Rows around a bad swap

Both upstream interfaces follow the swaps of an answer and append what they find.  The rows that
were fetched before are kept, and only rows with both ends are appended, exactly when every swap is
sound: a single one that lacks a field outside the `try` costs all rows.
-/

namespace CatvService.Pipeline

open PyValue

/-- **A bad swap and the rows already fetched.**  On both sides the rows are kept and those appended
have both ends exactly when every swap is sound. -/
theorem keepsRows_iff (chain : GraphQL.Chain) (dexTrades : ℕ → Json → GraphQL.Reply)
    (nested : ℕ → GraphQL.NestedCall → GraphQL.CallResult) (initialData : List GraphQL.Element)
    (swaps : List Json) (session : GraphQL.Session)
    (hswaps : swaps ≠ [] → chain.tracesSwaps = true)
    (tracerNested : ℕ → Tracer.NestedCall → Tracer.NestedResult)
    (tracerData tracerSwaps : List Json) :
    (GraphQL.KeepsRows chain dexTrades nested initialData swaps session ↔
      ∀ i swap, swaps[i]? = some swap → GraphQL.SwapSound chain (dexTrades i) (nested i) swap) ∧
    (Tracer.KeepsRows tracerNested tracerData tracerSwaps ↔
      ∀ i swap, tracerSwaps[i]? = some swap → Tracer.SwapSound (tracerNested i) swap) :=
  ⟨GraphQL.keepsRows_iff_swapSound hswaps, Tracer.keepsRows_iff_swapSound⟩

/-- A row that was fetched before. -/
def fetchedRow : GraphQL.FlatRow where
  depth := 1
  txHash := .str "0xf0"
  sender := .str "0xa0"
  receiver := .str "0xa1"
  senderAnnotation := .str ""
  receiverAnnotation := .str ""
  rest := []

/-- A swap with a transaction and an amount. -/
def swapItem (transaction : Json) : Json :=
  .dict [("depth", .int 1), ("amount", .int 25), ("transaction", transaction),
    ("sender", .dict [("address", .str "0xa1")]),
    ("receiver", .dict [("address", .str "0xd1"), ("annotation", .str "Uniswap V2: Router"),
      ("smartContract", .dict [("contractType", .str "DEX")])])]

/-- An answer of the exchange whose sold amount is null. -/
def nullAmountDocument : Json :=
  .dict [("data", .dict [("ethereum", .dict [("dexTrades", .list [.dict [
    ("block", .dict [("timestamp", .dict [("time", GraphQL.sampleDate)])]),
    ("smartContract", .dict [("address", .dict [("address", .str "0xd1")])]),
    ("sellAmount", .null), ("sell_amount_usd", .null),
    ("sellCurrency", .dict [("address", .str "0xc1"), ("name", .str "Tether"),
      ("symbol", .str "USDT")])]])])])]

/-- A swap of Tracer without a time. -/
def timelessSwap : Json :=
  .dict [("depth", .int 1), ("sender", .str "0xa1"), ("receiver", .str "0xd1"),
    ("swap_info", .dict [("token_out", .dict [("address", .str "0xc1"), ("symbol", .str "USDT")]),
      ("amount_out", .int 25)])]

theorem keepsRows_iff_klay :
    (GraphQL.KeepsRows .klay (fun _ _ => .failed) (fun _ _ => .list []) [.row fetchedRow]
        [swapItem (.dict [("hash", .str "0xf1")])] ⟨5, 100, 1⟩ ↔
      ∀ (i : ℕ) swap, [swapItem (.dict [("hash", .str "0xf1")])][i]? = some swap →
        GraphQL.SwapSound .klay (fun _ => .failed) (fun _ => .list []) swap) ∧
    (Tracer.KeepsRows (fun _ _ => .raised) [] [timelessSwap] ↔
      ∀ (i : ℕ) swap, [timelessSwap][i]? = some swap →
        Tracer.SwapSound (fun _ => .raised) swap) :=
  keepsRows_iff .klay _ _ _ _ _ (fun _ => rfl) (fun _ _ => .raised) [] [timelessSwap]

/-- A swap without a transaction costs the rows, one whose amount is null adds a row without ends,
and a swap of Tracer without a time costs the rows. -/
theorem not_keepsRows_samples :
    ¬ GraphQL.KeepsRows .eth (fun _ _ => .failed) (fun _ _ => .list []) [.row fetchedRow]
        [swapItem .null] ⟨5, 100, 1⟩ ∧
      ¬ GraphQL.KeepsRows .klay (fun _ _ => .answered nullAmountDocument) (fun _ _ => .list [])
        [.row fetchedRow] [swapItem (.dict [("hash", .str "0xf1")])] ⟨5, 100, 1⟩ ∧
      ¬ Tracer.KeepsRows (fun _ _ => .list []) [.dict [("sender", .str "0xa0")]]
        [timelessSwap] := by
  refine ⟨?_, ?_, ?_⟩
  · intro hkeeps
    obtain ⟨appended, session, hrun, -⟩ := hkeeps
    cases hrun
  · intro hkeeps
    obtain ⟨appended, session, hrun, hends⟩ := hkeeps
    cases hrun
    exact absurd (hends _ List.mem_cons_self) (by decide)
  · intro hkeeps
    obtain ⟨appended, hrun, -⟩ := hkeeps
    cases hrun

end CatvService.Pipeline
