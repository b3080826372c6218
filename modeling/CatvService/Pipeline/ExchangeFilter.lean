import CatvService.Library.Search
import CatvService.Pipeline.Row

/-!
# The exchange cut-off

`filter_exchange_transactions` searches outwards from every address whose annotation marks it as an
exchange, collects the hashes of the transfers it passes, and drops every row with one of these
hashes.  `dfs` shares its visited set and its hash set between all the calls, and the graph may be
cyclic.

* `Beyond`: an address is reachable from an exchange along rows, zero or more;
* `mem_filterExchangeTransactions`: a row stays exactly when no row with its hash starts at such an
  address;
* `present_iff_of_preExchange`: what this means for the flow in front of the exchanges.
-/

namespace CatvService.Pipeline

open Search Relation

/-- The adjacency lists that the first loop builds: `graph[txn[inner]]` lists
`(txn['tx_hash'], txn[outer])` in row order. -/
def graphOf (direction : Direction) (txns : List Row) : Adjacency String String :=
  fun address => (txns.filter fun txn => decide (direction.inner txn = address)).map
    fun txn => (txn.txHash, direction.outer txn)

/-- `'exchange' in tx.get(f'{outer}_annotation', '').lower()`. -/
def marksExchange (direction : Direction) (txn : Row) : Bool :=
  PyText.contains "exchange" (PyText.lower (direction.outerAnnotation txn))

/-- `dfs(address, visited, txns_to_remove, graph)`. -/
def dfs (graph : Adjacency String String) (fuel : ℕ) (address : String)
    (state : State String String) : State String String :=
  visit graph fuel address state

/-- `txns_to_remove` after the second loop.  The search never nests deeper than there are rows. -/
def txnsToRemove (direction : Direction) (txns : List Row) : Finset String :=
  let graph := graphOf direction txns
  (txns.foldl (fun state tx =>
    if marksExchange direction tx then dfs graph (txns.length + 1) (direction.outer tx) state
    else state) ⟨∅, ∅⟩).labels

/-- `filter_exchange_transactions(txns, direction)`. -/
def filterExchangeTransactions (txns : List Row) (direction : Direction) : List Row :=
  let remove := txnsToRemove direction txns
  txns.filter fun txn => decide (txn.txHash ∉ remove)

/-! ## Addresses beyond an exchange -/

variable {direction : Direction} {txns : List Row}

/-- Some row leads from `a` to `b`, inner end to outer end. -/
def Leads (direction : Direction) (txns : List Row) (a b : String) : Prop :=
  ∃ row ∈ txns, direction.inner row = a ∧ direction.outer row = b

/-- Some row marks `e` as an exchange. -/
def IsExchange (direction : Direction) (txns : List Row) (e : String) : Prop :=
  ∃ row ∈ txns, direction.outer row = e ∧ marksExchange direction row = true

instance (e : String) : Decidable (IsExchange direction txns e) :=
  inferInstanceAs (Decidable (∃ row ∈ txns, _ ∧ _))

/-- `a` is reachable from an exchange along rows, zero or more. -/
def Beyond (direction : Direction) (txns : List Row) (a : String) : Prop :=
  ∃ e, IsExchange direction txns e ∧ ReflTransGen (Leads direction txns) e a

theorem mem_graphOf {address hash next : String} :
    (hash, next) ∈ graphOf direction txns address ↔
      ∃ row ∈ txns, direction.inner row = address ∧ row.txHash = hash ∧
        direction.outer row = next := by
  simp [graphOf, and_assoc]

theorem hop_empty_iff {a b : String} :
    Hop (graphOf direction txns) ∅ a b ↔ Leads direction txns a b := by
  constructor
  · rintro ⟨-, -, hash, hedge⟩
    obtain ⟨row, hrow, hinner, -, houter⟩ := mem_graphOf.mp hedge
    exact ⟨row, hrow, hinner, houter⟩
  · rintro ⟨row, hrow, hinner, houter⟩
    exact ⟨by simp, by simp, row.txHash, mem_graphOf.mpr ⟨row, hrow, hinner, rfl, houter⟩⟩

theorem reaches_empty_iff {a b : String} :
    Reaches (graphOf direction txns) ∅ a b ↔ ReflTransGen (Leads direction txns) a b := by
  have hrel : Hop (graphOf direction txns) ∅ = Leads direction txns := by
    funext a b
    exact propext hop_empty_iff
  simp [Reaches, hrel]

/-- The addresses that the second loop hands to `dfs`, in order. -/
def exchangeRoots (direction : Direction) (txns : List Row) : List String :=
  (txns.filter (marksExchange direction)).map direction.outer

theorem mem_exchangeRoots {e : String} :
    e ∈ exchangeRoots direction txns ↔ IsExchange direction txns e := by
  simp only [exchangeRoots, IsExchange, List.mem_map, List.mem_filter]
  constructor
  · rintro ⟨row, ⟨hrow, hmarks⟩, houter⟩
    exact ⟨row, hrow, houter, hmarks⟩
  · rintro ⟨row, hrow, houter, hmarks⟩
    exact ⟨row, ⟨hrow, hmarks⟩, houter⟩

theorem mem_inner_of_graphOf_ne_nil (address : String) (hne : graphOf direction txns address ≠ []) :
    address ∈ (txns.map direction.inner).toFinset := by
  obtain ⟨⟨hash, next⟩, hedge⟩ := List.exists_mem_of_ne_nil _ hne
  obtain ⟨row, hrow, hinner, -⟩ := mem_graphOf.mp hedge
  rw [List.mem_toFinset]
  exact List.mem_map.mpr ⟨row, hrow, hinner⟩

theorem card_inner_lt {fuel : ℕ} (hfuel : txns.length < fuel) :
    (txns.map direction.inner).toFinset.card < fuel :=
  calc (txns.map direction.inner).toFinset.card
      ≤ (txns.map direction.inner).length := List.toFinset_card_le _
    _ = txns.length := List.length_map _
    _ < fuel := hfuel

theorem explored_visitAll_graphOf {fuel : ℕ} (hfuel : txns.length < fuel) (roots : List String)
    (state : State String String) :
    Explored (graphOf direction txns) [] roots state
      (visitAll (graphOf direction txns) fuel roots state) :=
  explored_visitAll mem_inner_of_graphOf_ne_nil roots (card_inner_lt hfuel)

theorem txnsToRemove_eq (direction : Direction) (txns : List Row) :
    txnsToRemove direction txns =
      (visitAll (graphOf direction txns) (txns.length + 1) (exchangeRoots direction txns)
        ⟨∅, ∅⟩).labels := by
  rw [txnsToRemove, visitAll, exchangeRoots, List.foldl_map, List.foldl_filter]
  rfl

/-- The search from the exchanges finds the hashes of the rows that start beyond one. -/
theorem mem_labels_exchangeRoots {fuel : ℕ} (hfuel : txns.length < fuel) {hash : String} :
    hash ∈ (visitAll (graphOf direction txns) fuel (exchangeRoots direction txns) ⟨∅, ∅⟩).labels ↔
      ∃ row ∈ txns, row.txHash = hash ∧ Beyond direction txns (direction.inner row) := by
  rw [(explored_visitAll_graphOf hfuel _ _).mem_labels_iff]
  simp only [Finset.notMem_empty, false_or, reaches_empty_iff, mem_exchangeRoots]
  constructor
  · rintro ⟨e, hexchange, a, hpath, next, hedge⟩
    obtain ⟨row, hrow, hinner, hhash, -⟩ := mem_graphOf.mp hedge
    exact ⟨row, hrow, hhash, e, hexchange, hinner ▸ hpath⟩
  · rintro ⟨row, hrow, hhash, e, hexchange, hpath⟩
    exact ⟨e, hexchange, direction.inner row, hpath, direction.outer row,
      mem_graphOf.mpr ⟨row, hrow, rfl, hhash, rfl⟩⟩

theorem mem_txnsToRemove {hash : String} :
    hash ∈ txnsToRemove direction txns ↔
      ∃ row ∈ txns, row.txHash = hash ∧ Beyond direction txns (direction.inner row) := by
  rw [txnsToRemove_eq]
  exact mem_labels_exchangeRoots (Nat.lt_succ_self _)

/-- **What the cut-off keeps.** -/
theorem mem_filterExchangeTransactions {row : Row} :
    row ∈ filterExchangeTransactions txns direction ↔
      row ∈ txns ∧ ∀ other ∈ txns, other.txHash = row.txHash →
        ¬ Beyond direction txns (direction.inner other) := by
  simp [filterExchangeTransactions, mem_txnsToRemove]

/-- Where no row ends at the inner end of another, there is nothing beyond the exchanges. -/
theorem filterExchangeTransactions_eq_self
    (hends : ∀ row ∈ txns, ∀ other ∈ txns, direction.inner row ≠ direction.outer other) :
    filterExchangeTransactions txns direction = txns := by
  have hbeyond : ∀ row ∈ txns, ¬ Beyond direction txns (direction.inner row) := by
    intro row hrow hbeyond
    obtain ⟨e, ⟨marked, hmarked, houter, -⟩, hpath⟩ := hbeyond
    rcases reflTransGen_iff_eq_or_transGen.mp hpath with heq | hpath
    · exact hends row hrow marked hmarked (heq.trans houter.symm)
    · obtain ⟨_, -, last, hlast, -, houter⟩ := TransGen.tail'_iff.mp hpath
      exact hends row hrow last hlast houter.symm
  refine List.filter_eq_self.mpr fun row hrow => ?_
  rw [decide_eq_true_iff, mem_txnsToRemove]
  intro hremoved
  obtain ⟨other, hother, -, hbad⟩ := hremoved
  exact hbeyond other hother hbad

/-! ## The flow in front of the exchanges -/

/-- A path of rows from `v` to `a` on which no address, `v` and `a` included, is an exchange. -/
def PreExchange (txns : List Row) (v a : String) : Prop :=
  ¬ IsExchange .outbound txns v ∧
    ReflTransGen (fun x y => Leads .outbound txns x y ∧ ¬ IsExchange .outbound txns y) v a

theorem PreExchange.not_isExchange {v a : String} (hpre : PreExchange txns v a) :
    ¬ IsExchange .outbound txns a := by
  obtain ⟨hv, hpath⟩ := hpre
  cases hpath with
  | refl => exact hv
  | tail _ hstep => exact hstep.2

/-- An address that is no exchange lies beyond one only along at least one row. -/
theorem beyond_iff_of_not_isExchange {a : String} (hnot : ¬ IsExchange direction txns a) :
    Beyond direction txns a ↔
      ∃ e, IsExchange direction txns e ∧ TransGen (Leads direction txns) e a := by
  constructor
  · rintro ⟨e, hexchange, hpath⟩
    rcases reflTransGen_iff_eq_or_transGen.mp hpath with heq | hpath
    · exact absurd (heq ▸ hexchange) hnot
    · exact ⟨e, hexchange, hpath⟩
  · rintro ⟨e, hexchange, hpath⟩
    exact ⟨e, hexchange, hpath.to_reflTransGen⟩

/-- **The pre-exchange flow under the cut-off.**  A row whose sender is reached from the start
address without passing an exchange stays exactly when no exchange leads back to its sender and no
row of another sender that shares its hash starts beyond an exchange. -/
theorem present_iff_of_preExchange (txns : List Row) (v : String) (row : Row) (hrow : row ∈ txns)
    (hpre : PreExchange txns v row.sender) :
    row ∈ filterExchangeTransactions txns .outbound ↔
      (∀ e, IsExchange .outbound txns e → ¬ TransGen (Leads .outbound txns) e row.sender) ∧
        ∀ other ∈ txns, other.txHash = row.txHash → other.sender ≠ row.sender →
          ¬ Beyond .outbound txns other.sender := by
  have hsender : Beyond .outbound txns row.sender ↔
      ∃ e, IsExchange .outbound txns e ∧ TransGen (Leads .outbound txns) e row.sender :=
    beyond_iff_of_not_isExchange hpre.not_isExchange
  rw [mem_filterExchangeTransactions]
  constructor
  · rintro ⟨-, hkept⟩
    refine ⟨fun e hexchange hpath => ?_, fun other hother hhash _ => hkept other hother hhash⟩
    exact hkept row hrow rfl (hsender.mpr ⟨e, hexchange, hpath⟩)
  · rintro ⟨hback, hshared⟩
    refine ⟨hrow, fun other hother hhash => ?_⟩
    by_cases heq : other.sender = row.sender
    · show ¬ Beyond .outbound txns other.sender
      rw [heq, hsender]
      rintro ⟨e, hexchange, hpath⟩
      exact hback e hexchange hpath
    · exact hshared other hother hhash heq

/-! ### A deposit to an exchange that pays back -/

/-- A row with the keys that the filter reads. -/
def sampleRow (txHash sender receiver receiverAnnotation : String) : Row where
  depth := 1
  txHash := txHash
  sender := sender
  receiver := receiver
  senderAnnotation := some ""
  receiverAnnotation := some receiverAnnotation
  senderType := some "Wallet"
  receiverType := some "Wallet"
  rest := []

/-- The victim pays a mule and an exchange; the exchange pays the victim back. -/
def payback : List Row :=
  [sampleRow "0x1" "victim" "mule" "", sampleRow "0x2" "victim" "desk" "Exchange Wallet",
    sampleRow "0x3" "desk" "victim" ""]

/-- The victim pays a mule in the transaction in which the exchange pays a stranger. -/
def sharedHash : List Row :=
  [sampleRow "0x1" "victim" "mule" "", sampleRow "0x2" "mule" "desk" "Exchange Wallet",
    sampleRow "0x1" "desk" "stranger" ""]

theorem preExchange_start {txns : List Row} {v : String} (hv : ¬ IsExchange .outbound txns v) :
    PreExchange txns v v :=
  ⟨hv, .refl⟩

theorem present_iff_of_preExchange_payback :
    sampleRow "0x1" "victim" "mule" "" ∈ filterExchangeTransactions payback .outbound ↔
      (∀ e, IsExchange .outbound payback e → ¬ TransGen (Leads .outbound payback) e "victim") ∧
        ∀ other ∈ payback, other.txHash = "0x1" → other.sender ≠ "victim" →
          ¬ Beyond .outbound payback other.sender :=
  present_iff_of_preExchange payback "victim" (sampleRow "0x1" "victim" "mule" "")
    (List.mem_cons_self ..) (preExchange_start (by decide))

/-- Both the cycle and the shared hash remove a row in front of the exchange. -/
theorem preExchange_removed :
    (∃ row ∈ payback, PreExchange payback "victim" row.sender ∧
      row ∉ filterExchangeTransactions payback .outbound) ∧
    ∃ row ∈ sharedHash, PreExchange sharedHash "victim" row.sender ∧
      row ∉ filterExchangeTransactions sharedHash .outbound := by
  have hpayback : (filterExchangeTransactions payback .outbound).map Row.txHash = [] := by decide
  have hshared : (filterExchangeTransactions sharedHash .outbound).map Row.txHash = ["0x2"] := by
    decide
  refine ⟨⟨sampleRow "0x1" "victim" "mule" "", List.mem_cons_self ..,
    preExchange_start (by decide), fun hmem => ?_⟩, ⟨sampleRow "0x1" "victim" "mule" "",
    List.mem_cons_self .., preExchange_start (by decide), fun hmem => ?_⟩⟩
  · have hhash := List.mem_map_of_mem (f := Row.txHash) hmem
    rw [hpayback] at hhash
    simp at hhash
  · have hhash := List.mem_map_of_mem (f := Row.txHash) hmem
    rw [hshared] at hhash
    simp [sampleRow] at hhash

end CatvService.Pipeline
