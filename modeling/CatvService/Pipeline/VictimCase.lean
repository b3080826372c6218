import CatvService.Pipeline.GraphFilters

/-!
# The letter case of the victim's address

On the chains of `is_eth_based_wallet` the letter case of an address says nothing.
`fetch_transactions` selects the source rows of the victim without regard to it.
`filter_transaction_path` puts the victim's address into the visited set as it is, so another
spelling is no barrier: two spellings give the same rows as long as the flow that returns to one of
them leads to nothing new (`caseBlind_iff`).
-/

namespace CatvService.Pipeline

open PyText GraphQL Search

/-! ## The two stages -/

/-- `filtered_src`, for a victim. -/
def filteredSrc (request : Request) (chain : Chain) (victim : String) (sourceRes : List Row) :
    List Row :=
  sourceRes.filter fun tx => isVictimAddress { request with address := victim } chain tx.sender

/-- Two victims get the same source rows and the same rows on the path. -/
structure CaseBlind (request : Request) (chain : Chain) (sourceRes txns : List Row)
    (direction : Direction) (txHashes : List String) (victim other : String) : Prop where
  source : filteredSrc request chain victim sourceRes = filteredSrc request chain other sourceRes
  path : filterTransactionPath txns direction txHashes victim =
    filterTransactionPath txns direction txHashes other

variable {direction : Direction} {txns : List Row} {txHashes : List String} {victim other : String}

section Flow

variable (direction txns txHashes)

/-- The flow from the rows with a listed hash reaches the address around a barrier. -/
def FlowsTo (barrier : Finset String) (address : String) : Prop :=
  ∃ root ∈ listedRoots direction txns txHashes,
    Reaches (graphOf direction txns) barrier root address

/-- The hash is listed, or is that of a row that the flow reaches around a barrier. -/
def OnFlow (barrier : Finset String) (hash : String) : Prop :=
  hash ∈ txHashes ∨ ∃ row ∈ txns, row.txHash = hash ∧
    FlowsTo direction txns txHashes barrier (direction.inner row)

/-- If the flow returns to the victim, around the other address, every row that it leads to from
there has the hash of a row that it reaches without the victim. -/
def ReturnsSafely (victim other : String) : Prop :=
  FlowsTo direction txns txHashes {other} victim →
    ∀ row ∈ txns, Reaches (graphOf direction txns) {other} victim (direction.inner row) →
      OnFlow direction txns txHashes {victim} row.txHash

end Flow

/-! ## The source rows -/

/-- The selection of the source rows does not depend on the letter case. -/
theorem filteredSrc_eq {chain : Chain} (hchain : isEthBasedWallet chain.code = true)
    (hcase : lower victim = lower other) (request : Request) (sourceRes : List Row) :
    filteredSrc request chain victim sourceRes = filteredSrc request chain other sourceRes := by
  apply List.filter_congr
  intro tx _
  unfold isVictimAddress
  rw [if_pos hchain, if_pos hchain, hcase]

/-! ## The rows on the path -/

theorem mem_txnsToAdd_iff {row : Row} (hrow : row ∈ txns) :
    row.txHash ∈ txnsToAdd direction txns txHashes victim ↔
      OnFlow direction txns txHashes {victim} row.txHash := by
  refine (mem_labels_listedRoots (Nat.lt_succ_self txns.length)).trans ?_
  refine or_congr (mem_listedHashes hrow) ?_
  simp only [mem_onPath_iff, FlowsTo]

theorem filter_eq_filter_iff {α : Type*} {p q : α → Bool} {items : List α} :
    items.filter p = items.filter q ↔ ∀ x ∈ items, p x = q x := by
  constructor
  · intro heq x hx
    have hmem : x ∈ items.filter p ↔ x ∈ items.filter q := by
      rw [heq]
    rw [List.mem_filter, List.mem_filter, and_iff_right hx, and_iff_right hx] at hmem
    exact Bool.eq_iff_iff.mpr hmem
  · exact List.filter_congr

theorem filterTransactionPath_eq_iff :
    filterTransactionPath txns direction txHashes victim =
        filterTransactionPath txns direction txHashes other ↔
      ∀ row ∈ txns, OnFlow direction txns txHashes {victim} row.txHash ↔
        OnFlow direction txns txHashes {other} row.txHash := by
  unfold filterTransactionPath
  rw [filter_eq_filter_iff]
  refine forall₂_congr fun row hrow => ?_
  rw [decide_eq_decide, mem_txnsToAdd_iff hrow, mem_txnsToAdd_iff hrow]

theorem FlowsTo.mono {small large : Finset String} {address : String} (hsubset : small ⊆ large)
    (hflows : FlowsTo direction txns txHashes large address) :
    FlowsTo direction txns txHashes small address := by
  obtain ⟨root, hroot, hreach⟩ := hflows
  exact ⟨root, hroot, hreach.mono hsubset⟩

/-- What is on the flow around the other address is on the flow around the victim exactly if the
flow returns safely to the victim. -/
theorem onFlow_imp_iff_returnsSafely :
    (∀ row ∈ txns, OnFlow direction txns txHashes {other} row.txHash →
        OnFlow direction txns txHashes {victim} row.txHash) ↔
      ReturnsSafely direction txns txHashes victim other := by
  constructor
  · intro hall hreturns row hrow hreach
    obtain ⟨root, hroot, hflow⟩ := hreturns
    exact hall row hrow (.inr ⟨row, hrow, rfl, root, hroot, hflow.trans hreach⟩)
  · intro hsafe row _ hflow
    rcases hflow with hlisted | ⟨next, hnext, hhash, root, hroot, hreach⟩
    · exact .inl hlisted
    · rw [← hhash]
      -- the way to the row passes the victim, or it does not
      rcases hreach.avoids_or_passes victim with havoids | ⟨hfirst, hsecond⟩
      · have hflows : FlowsTo direction txns txHashes {victim} (direction.inner next) :=
          FlowsTo.mono (by simp) ⟨root, hroot, havoids⟩
        exact .inr ⟨next, hnext, rfl, hflows⟩
      · exact hsafe ⟨root, hroot, hfirst⟩ next hnext hsecond

/-- **Two spellings of the victim's address give the same rows exactly when the flow returns safely
to each of them.** -/
theorem caseBlind_iff {chain : Chain} (hchain : isEthBasedWallet chain.code = true)
    (hcase : lower victim = lower other) (request : Request) (sourceRes txns : List Row)
    (direction : Direction) (txHashes : List String) :
    CaseBlind request chain sourceRes txns direction txHashes victim other ↔
      ReturnsSafely direction txns txHashes victim other ∧
        ReturnsSafely direction txns txHashes other victim := by
  rw [← onFlow_imp_iff_returnsSafely, ← onFlow_imp_iff_returnsSafely]
  constructor
  · intro hblind
    have hiff := filterTransactionPath_eq_iff.mp hblind.path
    exact ⟨fun row hrow => (hiff row hrow).mpr, fun row hrow => (hiff row hrow).mp⟩
  · intro hsafe
    refine ⟨filteredSrc_eq hchain hcase request sourceRes, filterTransactionPath_eq_iff.mpr ?_⟩
    intro row hrow
    exact ⟨hsafe.2 row hrow, hsafe.1 row hrow⟩

/-- What the victim has paid comes back, and goes on to another address. -/
def returningFlow : List Row :=
  [sampleRow "0xf1" "0xab" "0x01" "", sampleRow "0xf2" "0x01" "0xab" "",
    sampleRow "0xf3" "0xab" "0x02" ""]

/-- A request for the address in lower case. -/
def lowerCaseRequest : Request where
  address := "0xab"
  threatAddress := none
  querySource := none
  txnHashes := .ok ["0xf1"]
  limit := "100"
  depthLimit := "5"
  fromDate := "2023-01-01"
  tillDate := "2023-12-31"
  token := none

theorem caseBlind_iff_returningFlow :
    CaseBlind lowerCaseRequest .eth [] returningFlow .outbound ["0xf1"] "0xab" "0xAB" ↔
      ReturnsSafely .outbound returningFlow ["0xf1"] "0xab" "0xAB" ∧
        ReturnsSafely .outbound returningFlow ["0xf1"] "0xAB" "0xab" :=
  caseBlind_iff (by decide) (by decide) lowerCaseRequest [] returningFlow .outbound ["0xf1"]

/-- The address in lower case is a barrier for the flow, in upper case it is none. -/
theorem not_caseBlind_returningFlow :
    lower "0xab" = lower "0xAB" ∧
      ¬ CaseBlind lowerCaseRequest .eth [] returningFlow .outbound ["0xf1"] "0xab" "0xAB" := by
  refine ⟨by decide, fun hblind => ?_⟩
  have hlower : (filterTransactionPath returningFlow .outbound ["0xf1"] "0xab").map Row.txHash =
      ["0xf1", "0xf2"] := by decide
  have hupper : (filterTransactionPath returningFlow .outbound ["0xf1"] "0xAB").map Row.txHash =
      ["0xf1", "0xf2", "0xf3"] := by decide
  rw [hblind.path, hupper] at hlower
  exact absurd hlower (by decide)

end CatvService.Pipeline
