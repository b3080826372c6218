import CatvService.Pipeline.GraphFilters
import CatvService.Pipeline.Stages

/-!
# The response of a ck query

`ck_query` from end to end: which of the transfers that the upstreams have sent stand in the
response.

Of each direction the rows with the right sign of their depth are left, and of those the ones whose
hash is not that of a row beyond an exchange; with hashes to follow, of both together the ones whose
hash is listed or that of a row on the way from a listed one.  Beyond and on the way are notions of
the graph of the rows, without a search.  `ckQuery_eq_selection_iff` says that the response is this
selection, and when there is one; `transfers_sublist` that it makes up no transfer.
-/

namespace CatvService.Pipeline

open PyValue

/-! ## The selection -/

/-- The rows of a direction that its sign filter lets through. -/
abbrev directed (direction : Direction) (rows : List Row) : List Row :=
  rows.filter (inDirection direction)

/-- The row is on the right side of the victim, and none with its hash starts beyond an exchange. -/
def Kept (direction : Direction) (rows : List Row) (row : Row) : Prop :=
  inDirection direction row = true ∧ ∀ other ∈ directed direction rows,
    other.txHash = row.txHash → ¬ Beyond direction (directed direction rows) (direction.inner other)

/-- There is nothing to follow, or the hash of the row is listed or that of a row on the way. -/
def Selected (victim : String) (txnHashes : List String) (rows : List Row) (row : Row) : Prop :=
  txnHashes = [] ∨ row.txHash ∈ txnHashes ∨ ∃ other ∈ rows, other.txHash = row.txHash ∧
    other.sender ∈ onPath .outbound rows txnHashes victim

open Classical in
/-- The rows of both directions that are kept, with the depths of the response. -/
noncomputable def keptRows (isVictimDex : Bool) (src dist : List Row) : List Row :=
  offsetDepths isVictimDex (src.filter fun row => Kept .inbound src row)
    (dist.filter fun row => Kept .outbound dist row)

open Classical in
/-- The rows of the response. -/
noncomputable def selection (victim : String) (isVictimDex : Bool) (txnHashes : List String)
    (src dist : List Row) : List Row :=
  (keptRows isVictimDex src dist).filter fun row =>
    Selected victim txnHashes (keptRows isVictimDex src dist) row

variable {env : Environment} {request : Request} {chain : GraphQL.Chain} {isVictimDex : Bool}
  {usedTracer : Bool} {txnHashes : List String} {src dist rows : List Row}

/-! ## The filters -/

open Classical in
/-- The sign filter and the cut-off, in terms of the graph. -/
theorem survivors_eq (direction : Direction) (rows : List Row) :
    survivors direction rows = rows.filter fun row => Kept direction rows row := by
  rw [survivors, filterExchangeTransactions, List.filter_filter]
  apply List.filter_congr
  intro row _
  rw [Bool.eq_iff_iff, Bool.and_eq_true, decide_eq_true_eq, decide_eq_true_eq, mem_txnsToRemove,
    Kept, and_comm]
  refine and_congr_right fun _ => ?_
  push Not
  rfl

open Classical in
theorem filterTransactionPath_eq (victim : String) (hne : txnHashes ≠ []) (rows : List Row) :
    filterTransactionPath rows .outbound txnHashes victim =
      rows.filter fun row => Selected victim txnHashes rows row := by
  apply List.filter_congr
  intro row hrow
  rw [decide_eq_decide, Selected, or_iff_right hne]
  exact (mem_labels_listedRoots (Nat.lt_succ_self rows.length)).trans
    (or_congr_left (mem_listedHashes hrow))

open Classical in
/-- With nothing to follow every row is selected. -/
theorem pathFilter_eq (victim : String) (txnHashes : List String) (rows : List Row) :
    (if txnHashes.isEmpty then rows else filterTransactionPath rows .outbound txnHashes victim) =
      rows.filter fun row => Selected victim txnHashes rows row := by
  split
  · rename_i hnone
    refine (List.filter_eq_self.mpr fun row _ => ?_).symm
    exact decide_eq_true (.inl (List.isEmpty_iff.mp hnone))
  · rename_i hsome
    exact filterTransactionPath_eq victim (fun hnil => hsome (List.isEmpty_iff.mpr hnil)) rows

/-- What a query does with hashes is what it does without, and the path filter behind it. -/
theorem processTransactions_eq :
    processTransactions env request chain isVictimDex usedTracer txnHashes src dist = do
      let rows ← processTransactions env request chain isVictimDex usedTracer [] src dist
      return if txnHashes.isEmpty then rows
        else filterTransactionPath rows .outbound txnHashes request.address := by
  unfold processTransactions
  split
  · simp [bind, Except.bind, pure, Except.pure, filterTransactionPath]
  · simp only [bind_assoc, pure_bind, List.isEmpty_nil, if_true]

/-- Where no upstream has sent a row there is nothing to label, and no stage is run. -/
def StagesPass (env : Environment) (chain : GraphQL.Chain) (usedTracer : Bool)
    (all : List Row) : Prop :=
  all = [] ∨ StagesSucceed env chain usedTracer all

/-- The rows of the response, when no stage raises. -/
theorem processTransactions_eq_ok_iff_selection :
    processTransactions env request chain isVictimDex usedTracer txnHashes src dist = .ok rows ↔
      StagesPass env chain usedTracer (src ++ dist) ∧
        selection request.address isVictimDex txnHashes
          (src.map (labelled env chain usedTracer (src ++ dist)))
          (dist.map (labelled env chain usedTracer (src ++ dist))) = rows := by
  by_cases hempty : src ++ dist = []
  · obtain ⟨rfl, rfl⟩ := List.append_eq_nil_iff.mp hempty
    have hnone : selection request.address isVictimDex txnHashes [] [] = [] := by
      simp [selection, keptRows, offsetDepths]
    simp [processTransactions, StagesPass, hnone]
  · rw [processTransactions_eq, bind_eq_ok_iff, StagesPass, or_iff_right hempty]
    simp only [processTransactions_eq_ok_iff hempty, pathFilter_eq, survivors_eq, and_assoc,
      exists_and_left, exists_eq_left', pure, Except.pure, Except.ok.injEq]
    rfl

/-! ## The query -/

theorem ckQuery_eq_rows_iff_body :
    ckQuery env request chain = .rows rows ↔ ckQueryBody env request chain = .ok (.rows rows) := by
  unfold ckQuery
  split
  · rename_i result hbody
    rw [hbody, Except.ok.injEq]
  · rename_i error hbody
    simp [hbody]

/-- **The response.**  A query answers with rows exactly when its hashes can be read, the call for
the outgoing transfers has brought rows, and no stage raises; and the rows are the selection of
what the two calls have brought. -/
theorem ckQuery_eq_selection_iff :
    ckQuery env request chain = .rows rows ↔
      ∃ txnHashes transactions dist, request.hashes = .ok txnHashes ∧
        fetchTransactions env request chain (Pipeline.isVictimDex env request) =
          .ok transactions ∧ transactions.dist = .rows dist ∧
        StagesPass env chain transactions.usedTracer (transactions.src ++ dist) ∧
        selection request.address (Pipeline.isVictimDex env request) txnHashes
          (transactions.src.map
            (labelled env chain transactions.usedTracer (transactions.src ++ dist)))
          (dist.map (labelled env chain transactions.usedTracer (transactions.src ++ dist))) =
            rows := by
  rw [ckQuery_eq_rows_iff_body, ckQueryBody, bind_eq_ok_iff]
  simp only [bind_eq_ok_iff]
  constructor
  · intro hbody
    obtain ⟨txnHashes, hhashes, transactions, hfetch, hrows⟩ := hbody
    split at hrows
    · rename_i dist hdist
      obtain ⟨rows', hprocess, hrows⟩ := bind_eq_ok_iff.mp hrows
      cases hrows
      exact ⟨txnHashes, transactions, dist, hhashes, hfetch, hdist,
        processTransactions_eq_ok_iff_selection.mp hprocess⟩
    · obtain ⟨errors, -, hrows⟩ := bind_eq_ok_iff.mp hrows
      split at hrows
      · obtain ⟨response, -, hrows⟩ := bind_eq_ok_iff.mp hrows
        cases hrows
      · cases hrows
    · cases hrows
    · cases hrows
  · intro hrows
    obtain ⟨txnHashes, transactions, dist, hhashes, hfetch, hdist, hprocess⟩ := hrows
    refine ⟨txnHashes, hhashes, transactions, hfetch, ?_⟩
    rw [hdist]
    exact bind_eq_ok_iff.mpr
      ⟨rows, processTransactions_eq_ok_iff_selection.mpr hprocess, rfl⟩

/-! ## No transfer is made up -/

theorem map_transferOf_offsetDepths (isVictimDex : Bool) (src dist : List Row) :
    (offsetDepths isVictimDex src dist).map transferOf = (src ++ dist).map transferOf := by
  unfold offsetDepths
  split
  · rw [List.map_append, List.map_append, List.map_map, List.map_map]
    rfl
  · rfl

theorem map_transferOf_selection_sublist (victim : String) (isVictimDex : Bool)
    (txnHashes : List String) (src dist : List Row) :
    ((selection victim isVictimDex txnHashes src dist).map transferOf).Sublist
      ((src ++ dist).map transferOf) := by
  have hkept : ((keptRows isVictimDex src dist).map transferOf).Sublist
      ((src ++ dist).map transferOf) := by
    rw [keptRows, map_transferOf_offsetDepths]
    exact (List.filter_sublist.append List.filter_sublist).map _
  exact (List.filter_sublist.map _).trans hkept

/-- The transfers of a response are transfers that the calls have brought, as often at most and in
the same order. -/
theorem transfers_sublist (hquery : ckQuery env request chain = .rows rows) :
    ∃ transactions dist,
      fetchTransactions env request chain (Pipeline.isVictimDex env request) = .ok transactions ∧
        transactions.dist = .rows dist ∧
        (rows.map transferOf).Sublist ((transactions.src ++ dist).map transferOf) := by
  obtain ⟨txnHashes, transactions, dist, -, hfetch, hdist, -, rfl⟩ :=
    ckQuery_eq_selection_iff.mp hquery
  refine ⟨transactions, dist, hfetch, hdist, ?_⟩
  apply (map_transferOf_selection_sublist _ _ _ _ _).trans
  rw [← List.map_append, List.map_map]
  exact (List.map_congr_left fun row _ => (labelled_keeps row).2) ▸ List.Sublist.refl _

end CatvService.Pipeline
