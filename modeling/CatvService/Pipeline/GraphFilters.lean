import CatvService.Pipeline.CkQuery

/-!
# The two graph filters, exactly

`filter_exchange_transactions` and `filter_transaction_path` of `api/api_views.py` share the shape
of their search: `dfs` and `dfst` recurse over the rows from several roots, with one visited set for
all of them.  The recursion never nests deeper than there are rows, so both filters return; and what
they return is the list of the rows with certain hashes, in the order of the rows.

* `filterExchangeTransactions_exact`: the hashes that do not occur beyond an exchange;
* `filterTransactionPath_exact`: the listed hashes and those that occur on the way from them, around
  the victim.
-/

namespace CatvService.Pipeline

open Search Relation

variable {direction : Direction} {txns : List Row} {txHashes : List String} {victim : String}

/-! ## The recursion -/

theorem visitAll?_graphOf {fuel : ℕ} (hfuel : txns.length < fuel) (roots : List String)
    (state : State String String) :
    visitAll? (graphOf direction txns) fuel roots state =
      some (visitAll (graphOf direction txns) fuel roots state) :=
  visitAll?_eq_some mem_inner_of_graphOf_ne_nil roots (card_inner_lt hfuel)

/-- `filter_exchange_transactions(txns, direction)`, if `dfs` nests no deeper than the fuel. -/
def filterExchangeTransactions? (fuel : ℕ) (txns : List Row) (direction : Direction) :
    Option (List Row) := do
  let state ← visitAll? (graphOf direction txns) fuel (exchangeRoots direction txns) ⟨∅, ∅⟩
  return txns.filter fun txn => decide (txn.txHash ∉ state.labels)

/-- The outer ends of the rows with a listed hash, in order. -/
def listedRoots (direction : Direction) (txns : List Row) (txHashes : List String) : List String :=
  (txns.filter fun txn => decide (txn.txHash ∈ txHashes)).map direction.outer

/-- `txns_to_add` after the first loop. -/
def listedHashes (txns : List Row) (txHashes : List String) : Finset String :=
  ((txns.filter fun txn => decide (txn.txHash ∈ txHashes)).map Row.txHash).toFinset

/-- `filter_transaction_path(txns, direction, tx_hashes, victim_address)`, if `dfst` nests no deeper
than the fuel. -/
def filterTransactionPath? (fuel : ℕ) (txns : List Row) (direction : Direction)
    (txHashes : List String) (victim : String) : Option (List Row) := do
  let state ← visitAll? (graphOf direction txns) fuel (listedRoots direction txns txHashes)
    ⟨{victim}, listedHashes txns txHashes⟩
  return txns.filter fun txn => decide (txn.txHash ∈ state.labels)

/-! ## The exchange filter -/

/-- The filter of the pipeline is the one that returns. -/
theorem filterExchangeTransactions?_eq_some {fuel : ℕ} (hfuel : txns.length < fuel) :
    filterExchangeTransactions? fuel txns direction =
      some (filterExchangeTransactions txns direction) := by
  unfold filterExchangeTransactions? filterExchangeTransactions
  rw [visitAll?_graphOf hfuel]
  refine congrArg some (List.filter_congr fun row _ => ?_)
  rw [decide_eq_decide, mem_labels_exchangeRoots hfuel, mem_txnsToRemove]

open Classical in
/-- **The rows that `filter_exchange_transactions` keeps.**  It returns, and what it returns are the
rows whose hash is not that of a row with its inner end beyond an exchange. -/
theorem filterExchangeTransactions_exact (txns : List Row) (direction : Direction) :
    ∀ fuel > txns.length, filterExchangeTransactions? fuel txns direction =
      some (txns.filter fun row => ∀ other ∈ txns, other.txHash = row.txHash →
        ¬ Beyond direction txns (direction.inner other)) := by
  intro fuel hfuel
  unfold filterExchangeTransactions?
  rw [visitAll?_graphOf hfuel]
  refine congrArg some (List.filter_congr fun row _ => ?_)
  rw [decide_eq_decide, mem_labels_exchangeRoots hfuel]
  push Not
  rfl

open Classical in
theorem filterExchangeTransactions_exact_payback :
    filterExchangeTransactions? 4 payback .outbound =
      some (payback.filter fun row => ∀ other ∈ payback, other.txHash = row.txHash →
        ¬ Beyond .outbound payback (Direction.outbound.inner other)) :=
  filterExchangeTransactions_exact payback .outbound 4 (by decide)

/-! ## The path filter -/

/-- A set of addresses that contains the outer ends of the rows with a listed hash, and is closed
under following rows.  The victim is left out both times. -/
structure Follows (direction : Direction) (txns : List Row) (txHashes : List String)
    (victim : String) (addresses : Set String) : Prop where
  listed : ∀ row ∈ txns, row.txHash ∈ txHashes → direction.outer row ≠ victim →
    direction.outer row ∈ addresses
  step : ∀ row ∈ txns, direction.inner row ∈ addresses → direction.outer row ≠ victim →
    direction.outer row ∈ addresses

/-- The least such set. -/
def onPath (direction : Direction) (txns : List Row) (txHashes : List String) (victim : String) :
    Set String :=
  ⋂₀ {addresses | Follows direction txns txHashes victim addresses}

theorem follows_onPath : Follows direction txns txHashes victim
    (onPath direction txns txHashes victim) where
  listed := by
    intro row hrow hhash hne addresses hfollows
    exact hfollows.listed row hrow hhash hne
  step := by
    intro row hrow hinner hne addresses hfollows
    have hclosed : Follows direction txns txHashes victim addresses := hfollows
    exact hclosed.step row hrow (hinner addresses hfollows) hne

theorem mem_listedRoots {address : String} :
    address ∈ listedRoots direction txns txHashes ↔
      ∃ row ∈ txns, row.txHash ∈ txHashes ∧ direction.outer row = address := by
  simp [listedRoots, and_assoc]

theorem mem_listedHashes {row : Row} (hrow : row ∈ txns) :
    row.txHash ∈ listedHashes txns txHashes ↔ row.txHash ∈ txHashes := by
  unfold listedHashes
  rw [List.mem_toFinset]
  constructor
  · intro hmem
    obtain ⟨other, hother, hhash⟩ := List.mem_map.mp hmem
    rw [← hhash]
    simpa using (List.mem_filter.mp hother).2
  · intro hmem
    exact List.mem_map.mpr ⟨row, List.mem_filter.mpr ⟨hrow, by simpa using hmem⟩, rfl⟩

/-- The search around the victim reaches the least set, whichever root comes first. -/
theorem mem_onPath_iff {address : String} :
    address ∈ onPath direction txns txHashes victim ↔
      ∃ root ∈ listedRoots direction txns txHashes,
        Reaches (graphOf direction txns) {victim} root address := by
  constructor
  · intro hmem
    have hfollows : Follows direction txns txHashes victim {address |
        ∃ root ∈ listedRoots direction txns txHashes,
          Reaches (graphOf direction txns) {victim} root address} := by
      refine ⟨fun row hrow hhash hne => ?_, fun row hrow hinner hne => ?_⟩
      · refine ⟨direction.outer row, mem_listedRoots.mpr ⟨row, hrow, hhash, rfl⟩, ?_⟩
        exact Reaches.refl (by simpa using hne)
      · obtain ⟨root, hroot, hreach⟩ := hinner
        have hhop : Hop (graphOf direction txns) {victim} (direction.inner row)
            (direction.outer row) :=
          ⟨hreach.target_notMem, by simpa using hne, row.txHash,
            mem_graphOf.mpr ⟨row, hrow, rfl, rfl, rfl⟩⟩
        exact ⟨root, hroot, hreach.1, hreach.2.tail hhop⟩
    exact hmem _ hfollows
  · rintro ⟨root, hroot, hfresh, hpath⟩
    obtain ⟨row, hrow, hhash, rfl⟩ := mem_listedRoots.mp hroot
    induction hpath with
    | refl => exact follows_onPath.listed row hrow hhash (by simpa using hfresh)
    | tail _ hhop ih =>
        obtain ⟨-, hne, _, hedge⟩ := hhop
        obtain ⟨next, hnext, rfl, -, rfl⟩ := mem_graphOf.mp hedge
        exact follows_onPath.step next hnext ih (by simpa using hne)

theorem mem_labels_listedRoots {fuel : ℕ} (hfuel : txns.length < fuel) {hashes : Finset String}
    {hash : String} :
    hash ∈ (visitAll (graphOf direction txns) fuel (listedRoots direction txns txHashes)
        ⟨{victim}, hashes⟩).labels ↔
      hash ∈ hashes ∨ ∃ row ∈ txns, row.txHash = hash ∧
        direction.inner row ∈ onPath direction txns txHashes victim := by
  rw [(explored_visitAll_graphOf hfuel _ _).mem_labels_iff]
  refine or_congr_right ?_
  constructor
  · rintro ⟨root, hroot, address, hreach, next, hedge⟩
    obtain ⟨row, hrow, rfl, hhash, -⟩ := mem_graphOf.mp hedge
    exact ⟨row, hrow, hhash, mem_onPath_iff.mpr ⟨root, hroot, hreach⟩⟩
  · rintro ⟨row, hrow, hhash, hmem⟩
    obtain ⟨root, hroot, hreach⟩ := mem_onPath_iff.mp hmem
    exact ⟨root, hroot, direction.inner row, hreach, direction.outer row,
      mem_graphOf.mpr ⟨row, hrow, rfl, hhash, rfl⟩⟩

/-- The filter of the pipeline is the one that returns. -/
theorem filterTransactionPath?_eq_some {fuel : ℕ} (hfuel : txns.length < fuel) :
    filterTransactionPath? fuel txns direction txHashes victim =
      some (filterTransactionPath txns direction txHashes victim) := by
  unfold filterTransactionPath? filterTransactionPath txnsToAdd
  rw [visitAll?_graphOf hfuel]
  refine congrArg some (List.filter_congr fun row _ => ?_)
  rw [decide_eq_decide, mem_labels_listedRoots hfuel]
  exact (mem_labels_listedRoots (Nat.lt_succ_self txns.length)).symm

open Classical in
/-- **The rows that `filter_transaction_path` keeps.**  It returns, and what it returns are the rows
whose hash is listed or is that of a row with its inner end on the way from a listed one. -/
theorem filterTransactionPath_exact (txns : List Row) (direction : Direction)
    (txHashes : List String) (victim : String) :
    ∀ fuel > txns.length, filterTransactionPath? fuel txns direction txHashes victim =
      some (txns.filter fun row => row.txHash ∈ txHashes ∨ ∃ other ∈ txns,
        other.txHash = row.txHash ∧
          direction.inner other ∈ onPath direction txns txHashes victim) := by
  intro fuel hfuel
  unfold filterTransactionPath?
  rw [visitAll?_graphOf hfuel]
  refine congrArg some (List.filter_congr fun row hrow => ?_)
  rw [decide_eq_decide, mem_labels_listedRoots hfuel]
  exact or_congr_left (mem_listedHashes hrow)

open Classical in
/-- From the payment to the exchange: its payback is on the way, and what the victim pays is not. -/
theorem filterTransactionPath_exact_payback :
    filterTransactionPath? 4 payback .outbound ["0x2"] "victim" =
      some (payback.filter fun row => row.txHash ∈ ["0x2"] ∨ ∃ other ∈ payback,
        other.txHash = row.txHash ∧
          Direction.outbound.inner other ∈ onPath .outbound payback ["0x2"] "victim") :=
  filterTransactionPath_exact payback .outbound ["0x2"] "victim" 4 (by decide)

example : (filterTransactionPath payback .outbound ["0x2"] "victim").map Row.txHash =
    ["0x2", "0x3"] := by decide

end CatvService.Pipeline
