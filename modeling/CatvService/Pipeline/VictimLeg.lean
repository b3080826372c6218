import CatvService.Pipeline.Stages

/-!
# The leg from the victim to the threat

The sign of an inbound depth is turned in three places: by `_process_response`, by
`fetch_transactions_with_source`, and after the cut-off if the victim is a DEX; a sign filter stands
before the last one.  A row of Bitquery is turned twice and comes out as it went in.  A row of
Tracer arrives at the filter with the sign of its hop depth, and the filter drops it.

* `ckQuery_eq_rows_iff`: a query goes through its stages with the rows that were served;
* `shows_iff_served`: a transfer is shown with depth 1 exactly when the stages succeed and the
  cut-off leaves a served row of it whose depth is 1;
* `keepsLegs_iff`: the two upstreams side by side.
-/

namespace CatvService.Pipeline

open PyValue PyText Dictionary GraphQL

/-! ## Queries that ask in both directions -/

/-- The call of one direction around the threat. -/
def threatCall (request : Request) (chain : Chain) (threat : String) (source : Bool) : Call :=
  callFor request chain threat (if source then .int 1 else .int 5) source

/-- A query whose victim is treated as a DEX, with a threat and without hashes, both of whose calls
are answered with rows, the inbound ones of positive raw depth.  (A call may also come to an error
document, with which the query ends.)  That the rows are a `Row` says that no annotation of Tracer's
is `null`. -/
structure LegRun where
  env : Environment
  request : Request
  chain : Chain
  threat : String
  dist : List Row
  src : List Row
  victimIsDex : isVictimDex env request = true
  threatGiven : request.threat? = some threat
  noHashes : request.hashes = .ok []
  distServed : (serve env (threatCall request chain threat false)).fetched = .rows dist
  srcServed : (serve env (threatCall request chain threat true)).fetched = .rows src
  positive : ∀ row ∈ rawInbound chain (env.answers (threatCall request chain threat true)),
    0 < row.depth

namespace LegRun

variable (run : LegRun)

/-- What the upstreams answer to the inbound call. -/
def answers : Answers :=
  run.env.answers (threatCall run.request run.chain run.threat true)

/-- Tracer serves the inbound call. -/
def FromTracer : Prop :=
  tracerServes run.chain true run.answers ≠ none

/-- `api_used` is `tracer` after both calls. -/
def usedTracer : Bool :=
  (serve run.env (threatCall run.request run.chain run.threat false)).usedTracer ||
    (serve run.env (threatCall run.request run.chain run.threat true)).usedTracer

/-- The inbound transfers as they were sent. -/
def raw : List Row :=
  rawInbound run.chain run.answers

/-- The row has the victim as its sender. -/
def fromVictim (row : Row) : Bool :=
  isVictimAddress run.request run.chain row.sender

/-- `bloxy_res_src`. -/
def bloxyResSrc : List Row :=
  (run.src.map negateDepth).filter run.fromVictim

/-- The row as the cut-off of this query sees it. -/
def label : Row → Row :=
  labelled run.env run.chain run.usedTracer (run.bloxyResSrc ++ run.dist)

/-- No stage of this query raises. -/
def Succeeds : Prop :=
  StagesSucceed run.env run.chain run.usedTracer (run.bloxyResSrc ++ run.dist)

/-- **The legs from the victim to the threat**: the inbound rows of raw depth 1 that the victim sent
and that the cut-off of the victim's inbound rows leaves. -/
def legs : List Row :=
  (filterExchangeTransactions ((run.raw.filter run.fromVictim).map run.label) .inbound).filter
    fun row => decide (row.depth = 1)

/-- The final result has a row of this transfer whose depth is 1. -/
def Shows (transfer : Transfer) : Prop :=
  ∃ rows, ckQuery run.env run.request run.chain = .rows rows ∧
    ∃ out ∈ rows, out.depth = 1 ∧ transferOf out = transfer

/-- Every leg is in the final result. -/
def KeepsLegs : Prop :=
  ∀ leg ∈ run.legs, run.Shows (transferOf leg)

/-- The row has a receiver, the victim as its sender and a positive depth. -/
def leavesVictim (row : Row) : Bool :=
  decide (0 < row.depth) && run.fromVictim row && decide (row.receiver ≠ "")

/-- The rows of depth 1 that the victim sent among those that were appended when swaps were
followed, as far as the cut-off leaves them. -/
def echoes : List Row :=
  (filterExchangeTransactions ((swapRows run.answers).filter run.leavesVictim) .inbound).filter
    fun row => decide (row.depth = 1)

theorem fetchTransactions_eq :
    fetchTransactions run.env run.request run.chain true =
      .ok ⟨.rows run.dist, run.bloxyResSrc, run.usedTracer⟩ := by
  have haddress : determineAddressToUse run.request true = (run.threat, .int 1, .int 5) := by
    simp [determineAddressToUse, run.threatGiven]
  have hdist := run.distServed
  have hsrc := run.srcServed
  unfold threatCall at hdist hsrc
  unfold fetchTransactions
  simp only [haddress, if_true]
  simp only [Bool.false_eq_true, if_false, if_true] at hdist hsrc
  rw [hdist, hsrc]
  rfl

/-- **A query goes through its stages with the rows that were served.** -/
theorem ckQuery_eq_rows_iff {rows : List Row} :
    ckQuery run.env run.request run.chain = .rows rows ↔
      processTransactions run.env run.request run.chain true run.usedTracer [] run.bloxyResSrc
        run.dist = .ok rows := by
  unfold ckQuery ckQueryBody
  simp only [run.noHashes, run.victimIsDex, run.fetchTransactions_eq, bind, Except.bind]
  cases processTransactions run.env run.request run.chain true run.usedTracer [] run.bloxyResSrc
    run.dist with
  | error e => simp
  | ok results => simp [pure, Except.pure]

theorem depth_add_one_ne_one {row : Row} {rows : List Row} (hrow : row ∈ survivors .outbound rows) :
    row.depth + 1 ≠ 1 := by
  have hmem : row ∈ rows.filter (inDirection .outbound) :=
    (mem_filterExchangeTransactions.mp hrow).1
  have hdepth : 1 ≤ row.depth := by
    simpa [inDirection] using (List.mem_filter.mp hmem).2
  omega

/-- **What is shown with depth 1.** -/
theorem shows_iff {transfer : Transfer} :
    run.Shows transfer ↔ run.Succeeds ∧
      ∃ row ∈ survivors .inbound (run.bloxyResSrc.map run.label),
        (negateDepth row).depth = 1 ∧ transferOf row = transfer := by
  unfold Shows
  simp only [ckQuery_eq_rows_iff]
  by_cases hne : run.bloxyResSrc ++ run.dist = []
  · obtain ⟨hsrc, hdist⟩ := List.append_eq_nil_iff.mp hne
    rw [hsrc, hdist]
    constructor
    · intro hshown
      obtain ⟨rows, hrows, out, hout, -⟩ := hshown
      cases hrows
      cases hout
    · intro hkept
      obtain ⟨-, row, hrow, -⟩ := hkept
      cases hrow
  · simp only [processTransactions_eq_ok_iff hne, offsetDepths, if_true]
    constructor
    · intro hshown
      obtain ⟨_, ⟨hsucceeds, rfl⟩, out, hout, hdepth, htransfer⟩ := hshown
      refine ⟨hsucceeds, ?_⟩
      rcases List.mem_append.mp hout with hout | hout
      · obtain ⟨row, hrow, rfl⟩ := List.mem_map.mp hout
        exact ⟨row, hrow, hdepth, htransfer⟩
      · obtain ⟨row, hrow, rfl⟩ := List.mem_map.mp hout
        exact absurd hdepth (depth_add_one_ne_one hrow)
    · intro hkept
      obtain ⟨hsucceeds, row, hrow, hdepth, htransfer⟩ := hkept
      exact ⟨_, ⟨hsucceeds, rfl⟩, negateDepth row,
        List.mem_append_left _ (List.mem_map_of_mem hrow), hdepth, htransfer⟩

theorem depth_label (row : Row) : (run.label row).depth = row.depth :=
  (labelled_keeps row).1

theorem transferOf_label (row : Row) : transferOf (run.label row) = transferOf row :=
  (labelled_keeps row).2

theorem map_label_bloxyResSrc :
    run.bloxyResSrc.map run.label =
      ((run.src.filter run.fromVictim).map run.label).map negateDepth := by
  unfold bloxyResSrc
  rw [List.filter_map, List.map_map, List.map_map]
  exact List.map_congr_left fun row _ => labelled_negateDepth row

/-- The same with the signs of the served rows: the depth is turned twice around the filter. -/
theorem shows_iff_served {transfer : Transfer} :
    run.Shows transfer ↔ run.Succeeds ∧
      ∃ row ∈ filterExchangeTransactions (((run.src.filter run.fromVictim).map run.label).filter
        fun row => decide (0 < row.depth)) .inbound, row.depth = 1 ∧ transferOf row = transfer := by
  rw [shows_iff, map_label_bloxyResSrc]
  unfold survivors
  rw [filter_inbound_map_negateDepth, keepsKeys_negateDepth.filterExchangeTransactions_map]
  simp only [List.mem_map, exists_exists_and_eq_and, negateDepth_negateDepth]
  rfl

theorem mem_legs {row : Row} :
    row ∈ run.legs ↔
      row ∈ filterExchangeTransactions ((run.raw.filter run.fromVictim).map run.label) .inbound ∧
        row.depth = 1 := by
  simp [legs]

/-- **Served by Bitquery**: what is shown are the legs, unless a stage raises. -/
theorem shows_iff_of_bitquery (hserves : ¬ run.FromTracer) {transfer : Transfer} :
    run.Shows transfer ↔ run.Succeeds ∧ ∃ leg ∈ run.legs, transferOf leg = transfer := by
  have hnone : tracerServes run.chain true run.answers = none := not_not.mp hserves
  have hraw : run.raw = run.src := by
    have hserved : (getTransactions run.chain true true run.answers).fetched = .rows run.src :=
      run.srcServed
    rw [getTransactions_of_bitquery hnone] at hserved
    unfold raw rawInbound
    rw [hnone, hserved]
    rfl
  have hpositive : ∀ row ∈ (run.src.filter run.fromVictim).map run.label, 0 < row.depth := by
    intro row hrow
    obtain ⟨served, hserved, rfl⟩ := List.mem_map.mp hrow
    rw [depth_label]
    have hmem : served ∈ run.raw := hraw ▸ (List.mem_filter.mp hserved).1
    exact run.positive served hmem
  rw [shows_iff_served, List.filter_eq_self.mpr (by simpa using hpositive), ← hraw]
  simp only [mem_legs, and_assoc]

theorem mem_echoes {row : Row} :
    row ∈ run.echoes ↔
      row ∈ filterExchangeTransactions ((swapRows run.answers).filter run.leavesVictim) .inbound ∧
        row.depth = 1 := by
  simp [echoes]

/-- Of the rows that Tracer serves only those of swaps have a positive depth: `_process_response`
negates the depth of every transfer that was sent. -/
theorem filter_leavesVictim_of_tracer {rows : List Row}
    (hsome : tracerServes run.chain true run.answers = some rows) :
    rows.filter run.leavesVictim =
      ((swapRows run.answers).filter run.leavesVictim).map (settled transformTransaction) := by
  have hkeeps : run.leavesVictim ∘ settled transformTransaction = run.leavesVictim := by
    funext tx
    show run.leavesVictim (settled transformTransaction tx) = run.leavesVictim tx
    rw [settled_transformTransaction]
    rfl
  have hraw : run.raw = run.answers.tracer.sent := by
    unfold raw rawInbound
    rw [hsome]
  have hnone : (run.answers.tracer.sent.map (processTransaction true 0)).filter
      run.leavesVictim = [] := by
    rw [List.filter_eq_nil_iff]
    intro row hrow
    obtain ⟨tx, htx, rfl⟩ := List.mem_map.mp hrow
    have hmem : tx ∈ run.raw := hraw ▸ htx
    have hpositive : 0 < tx.depth := run.positive tx hmem
    have hdepth : ¬ 0 < (processTransaction true 0 tx).depth := by
      simp only [processTransaction, if_true, add_zero]
      omega
    simp [leavesVictim, hdepth]
  rw [tracerServes_eq_some hsome, List.filter_map, hkeeps, List.filter_append, hnone,
    List.nil_append]

/-- **Served by Tracer**: no leg gets through, and what is shown was appended for a swap. -/
theorem shows_iff_of_tracer (hserves : run.FromTracer) {transfer : Transfer} :
    run.Shows transfer ↔ run.Succeeds ∧ ∃ echo ∈ run.echoes, transferOf echo = transfer := by
  obtain ⟨rows, hsome⟩ := Option.ne_none_iff_exists'.mp hserves
  have hserved : serve run.env (threatCall run.request run.chain run.threat true) =
      ⟨.rows (rows.filter fun row => decide (row.receiver ≠ "")), true⟩ :=
    getTransactions_of_tracer hsome
  have hlabel : run.label = id := by
    have hused : run.usedTracer = true := by
      unfold usedTracer
      rw [hserved, Bool.or_true]
    unfold label
    rw [hused, labelled_true]
  have hsrc : run.src = rows.filter fun row => decide (row.receiver ≠ "") := by
    have hsrcServed := run.srcServed
    rw [hserved] at hsrcServed
    exact (Fetched.rows.inj hsrcServed).symm
  have hlate : ((run.src.filter run.fromVictim).map run.label).filter
      (fun row => decide (0 < row.depth)) =
        ((swapRows run.answers).filter run.leavesVictim).map (settled transformTransaction) := by
    rw [hlabel, List.map_id, hsrc, List.filter_filter, List.filter_filter]
    exact run.filter_leavesVictim_of_tracer hsome
  rw [shows_iff_served, hlate, keepsKeys_transformTransaction.filterExchangeTransactions_map]
  simp only [List.mem_map, exists_exists_and_eq_and, mem_echoes, and_assoc,
    depth_settled_transformTransaction]
  refine and_congr_right fun _ => exists_congr fun row => ?_
  have htransfer : transferOf (settled transformTransaction row) = transferOf row := by
    rw [settled_transformTransaction]
    rfl
  rw [htransfer]

/-! ## Both upstreams -/

/-- The transfers of the legs. -/
def legTransfers : Finset Transfer :=
  (run.legs.map transferOf).toFinset

/-- The transfers of the legs that are in the final result. -/
def shownLegs : Set Transfer :=
  {transfer | transfer ∈ run.legTransfers ∧ run.Shows transfer}

/-- No leg is at stake; or no stage raises and, where Tracer served the inbound call, following a
swap has brought every leg once more. -/
def SparesLegs : Prop :=
  run.legs = [] ∨ run.Succeeds ∧
    (run.FromTracer → ∀ leg ∈ run.legs, ∃ echo ∈ run.echoes, transferOf echo = transferOf leg)

/-- The two runs answer the same request with the same inbound transfers at the same raw depths. -/
structure SameQuery (run other : LegRun) : Prop where
  request : other.request = run.request
  chain : other.chain = run.chain
  transfers : other.raw.map (fun row => (transferOf row, row.depth)) =
    run.raw.map fun row => (transferOf row, row.depth)

theorem keepsLegs_iff_sparesLegs : run.KeepsLegs ↔ run.SparesLegs := by
  unfold KeepsLegs SparesLegs
  by_cases hlegs : run.legs = []
  · simp [hlegs]
  · obtain ⟨first, hfirst⟩ := List.exists_mem_of_ne_nil _ hlegs
    by_cases hserves : run.FromTracer
    · simp only [run.shows_iff_of_tracer hserves, hlegs, false_or, hserves, true_imp_iff]
      constructor
      · intro hkeeps
        exact ⟨(hkeeps first hfirst).1, fun leg hleg => (hkeeps leg hleg).2⟩
      · intro hspared leg hleg
        exact ⟨hspared.1, hspared.2 leg hleg⟩
    · simp only [run.shows_iff_of_bitquery hserves, hlegs, false_or, hserves, false_imp_iff,
        and_true]
      constructor
      · intro hkeeps
        exact (hkeeps first hfirst).1
      · intro hsucceeds leg hleg
        exact ⟨hsucceeds, leg, hleg, rfl⟩

theorem KeepsLegs.shownLegs_eq {run : LegRun} (hkeeps : run.KeepsLegs) :
    run.shownLegs = {transfer | transfer ∈ run.legTransfers} := by
  ext transfer
  refine ⟨fun hshown => hshown.1, fun hmem => ⟨hmem, ?_⟩⟩
  have hlegs : transfer ∈ run.legs.map transferOf := List.mem_toFinset.mp hmem
  obtain ⟨leg, hleg, rfl⟩ := List.mem_map.mp hlegs
  exact hkeeps leg hleg

/-- No transfer that the victim sent ends at a sender of such transfers. -/
def NoSelfTransfer : Prop :=
  ∀ row ∈ run.raw, ∀ other ∈ run.raw, run.fromVictim row = true → run.fromVictim other = true →
    row.receiver ≠ other.sender

theorem mem_legTransfers (hself : run.NoSelfTransfer) {transfer : Transfer} :
    transfer ∈ run.legTransfers ↔
      isVictimAddress run.request run.chain transfer.sender = true ∧
        (transfer, 1) ∈ run.raw.map fun row => (transferOf row, row.depth) := by
  have hends : ∀ row ∈ (run.raw.filter run.fromVictim).map run.label,
      ∀ other ∈ (run.raw.filter run.fromVictim).map run.label,
        Direction.inbound.inner row ≠ Direction.inbound.outer other := by
    intro row hrow other hother
    obtain ⟨sent, hsent, rfl⟩ := List.mem_map.mp hrow
    obtain ⟨sent', hsent', rfl⟩ := List.mem_map.mp hother
    rw [List.mem_filter] at hsent hsent'
    have hreceiver : (run.label sent).receiver = sent.receiver :=
      congrArg Transfer.receiver (run.transferOf_label sent)
    have hsender : (run.label sent').sender = sent'.sender :=
      congrArg Transfer.sender (run.transferOf_label sent')
    show (run.label sent).receiver ≠ (run.label sent').sender
    rw [hreceiver, hsender]
    exact hself sent hsent.1 sent' hsent'.1 hsent.2 hsent'.2
  simp only [legTransfers, legs, filterExchangeTransactions_eq_self hends, List.mem_toFinset,
    List.mem_map, List.mem_filter, decide_eq_true_iff, Prod.mk.injEq]
  constructor
  · intro hmem
    obtain ⟨_, ⟨⟨sent, ⟨hraw, hvictim⟩, rfl⟩, hdepth⟩, rfl⟩ := hmem
    rw [depth_label] at hdepth
    rw [transferOf_label]
    exact ⟨hvictim, sent, hraw, rfl, hdepth⟩
  · intro hsent
    obtain ⟨hvictim, sent, hraw, rfl, hdepth⟩ := hsent
    exact ⟨run.label sent, ⟨⟨sent, ⟨hraw, hvictim⟩, rfl⟩, (run.depth_label sent).trans hdepth⟩,
      run.transferOf_label sent⟩

theorem SameQuery.exists_raw {run other : LegRun} (hsame : run.SameQuery other) {row : Row}
    (hrow : row ∈ other.raw) : ∃ sent ∈ run.raw, transferOf sent = transferOf row := by
  have hmem : (transferOf row, row.depth) ∈ run.raw.map fun row => (transferOf row, row.depth) := by
    rw [← hsame.transfers]
    exact List.mem_map_of_mem hrow
  obtain ⟨sent, hsent, heq⟩ := List.mem_map.mp hmem
  exact ⟨sent, hsent, congrArg Prod.fst heq⟩

theorem SameQuery.noSelfTransfer {run other : LegRun} (hsame : run.SameQuery other)
    (hself : run.NoSelfTransfer) : other.NoSelfTransfer := by
  intro row hrow row' hrow' hvictim hvictim'
  obtain ⟨sent, hsent, heq⟩ := hsame.exists_raw hrow
  obtain ⟨sent', hsent', heq'⟩ := hsame.exists_raw hrow'
  unfold fromVictim at hvictim hvictim'
  rw [hsame.request, hsame.chain] at hvictim hvictim'
  have hsender : sent.sender = row.sender := congrArg Transfer.sender heq
  have hsender' : sent'.sender = row'.sender := congrArg Transfer.sender heq'
  have hreceiver : sent.receiver = row.receiver := congrArg Transfer.receiver heq
  rw [← hreceiver, ← hsender']
  refine hself sent hsent sent' hsent' ?_ ?_
  · unfold fromVictim
    rw [hsender, hvictim]
  · unfold fromVictim
    rw [hsender', hvictim']

/-- The cut-offs of both runs then leave the same transfers. -/
theorem SameQuery.legTransfers_eq {run other : LegRun} (hsame : run.SameQuery other)
    (hself : run.NoSelfTransfer) : run.legTransfers = other.legTransfers := by
  ext transfer
  rw [run.mem_legTransfers hself, other.mem_legTransfers (hsame.noSelfTransfer hself),
    hsame.request, hsame.chain, hsame.transfers]

/-- Tracer alone brings nothing to depth 1: without rows of swaps there is nothing to show. -/
theorem not_shows_of_tracer {run : LegRun} (hserves : run.FromTracer)
    (hswaps : swapRows run.answers = []) (transfer : Transfer) : ¬ run.Shows transfer := by
  intro hshows
  obtain ⟨-, echo, hecho, -⟩ := (run.shows_iff_of_tracer hserves).mp hshows
  have hmem := (mem_filterExchangeTransactions.mp (run.mem_echoes.mp hecho).1).1
  rw [hswaps] at hmem
  cases hmem

end LegRun

/-- **The leg from the victim to the threat, whichever upstream answered.**  A run keeps its legs
exactly when `SparesLegs` holds.  Two runs on the same transfers, one behind each upstream, keep
theirs and agree on them exactly when it holds for both and their cut-offs leave the same transfers,
which they do if no transfer of the victim goes back to it. -/
theorem keepsLegs_iff (run : LegRun) :
    (run.KeepsLegs ↔ run.SparesLegs) ∧
      ∀ other : LegRun, run.SameQuery other →
        (run.KeepsLegs ∧ other.KeepsLegs ∧ run.shownLegs = other.shownLegs ↔
          run.SparesLegs ∧ other.SparesLegs ∧ run.legTransfers = other.legTransfers) ∧
        (run.NoSelfTransfer → run.legTransfers = other.legTransfers) := by
  refine ⟨run.keepsLegs_iff_sparesLegs, fun other hsame => ⟨?_, hsame.legTransfers_eq⟩⟩
  rw [← run.keepsLegs_iff_sparesLegs, ← other.keepsLegs_iff_sparesLegs]
  refine and_congr_right fun hkeeps => and_congr_right fun hother => ?_
  rw [hkeeps.shownLegs_eq, hother.shownLegs_eq]
  constructor
  · intro hsets
    ext transfer
    exact Set.ext_iff.mp hsets transfer
  · intro htransfers
    rw [htransfers]

/-! ### One transfer behind either upstream -/

/-- A request for the way from a DEX to a threat. -/
def legRequest : Request where
  address := "0x1111111111111111111111111111111111111111"
  threatAddress := some "0x2222222222222222222222222222222222222222"
  querySource := some "true"
  txnHashes := .ok []
  limit := "10000"
  depthLimit := "2"
  fromDate := "2024-01-01"
  tillDate := "2024-02-01T00:00:00"
  token := none

/-- The transfer from the victim to the threat, as Tracer sends it. -/
def legTransaction : Row where
  depth := 1
  txHash := "0xf1"
  sender := "0x1111111111111111111111111111111111111111"
  receiver := "0x2222222222222222222222222222222222222222"
  senderAnnotation := some ""
  receiverAnnotation := some ""
  senderType := some "Wallet"
  receiverType := some "Wallet"
  rest := [("amount", .int 25), ("token", .null), ("tx_time", .str "2024-01-02T00:00:00Z")]

/-- The same transfer, as the interface of Bitquery returns it. -/
def legFlatRow : FlatRow where
  depth := 1
  txHash := .str "0xf1"
  sender := .str "0x1111111111111111111111111111111111111111"
  receiver := .str "0x2222222222222222222222222222222222222222"
  senderAnnotation := .str ""
  receiverAnnotation := .str ""
  rest := [("sender_type", .str "Wallet"), ("receiver_type", .str "Wallet")]

/-- Nothing is annotated, and the addresses, which have no letters, are their own checksums. -/
def legEnvironment (inbound : Answers) : Environment where
  checkIfVictimDex := fun _ => false
  answers := fun call =>
    if call.source then inbound else ⟨.transactions [], fun _ => .list [], .list [], .list []⟩
  toChecksumAddress := .ok
  fetchAnnotations := fun _ _ => .ok []

/-- Tracer knows the transfer. -/
def tracerAnswers : Answers :=
  ⟨.transactions [legTransaction], fun _ => .list [], .list [], .list []⟩

/-- Tracer fails, and Bitquery knows the transfer. -/
def bitqueryAnswers : Answers :=
  ⟨.raised, fun _ => .list [], .list [.row legFlatRow], .list []⟩

/-- The query whose inbound call Tracer serves. -/
def tracerRun : LegRun where
  env := legEnvironment tracerAnswers
  request := legRequest
  chain := .eth
  threat := "0x2222222222222222222222222222222222222222"
  dist := []
  src := [settled transformTransaction (processTransaction true 0 legTransaction)]
  victimIsDex := by decide
  threatGiven := by decide
  noHashes := rfl
  distServed := rfl
  srcServed := rfl
  positive := by
    intro row hrow
    have hmem : row ∈ [legTransaction] := hrow
    rw [List.mem_singleton.mp hmem]
    decide

/-- The query whose inbound call Bitquery serves. -/
def bitqueryRun : LegRun where
  env := legEnvironment bitqueryAnswers
  request := legRequest
  chain := .eth
  threat := "0x2222222222222222222222222222222222222222"
  dist := []
  src := (rowOfFlat legFlatRow).toList
  victimIsDex := by decide
  threatGiven := by decide
  noHashes := rfl
  distServed := rfl
  srcServed := rfl
  positive := by
    intro row hrow
    have hmem : row ∈ (rowOfFlat legFlatRow).toList := hrow
    have hdepth : ∀ row ∈ (rowOfFlat legFlatRow).toList, row.depth = 1 := by decide
    rw [hdepth row hmem]
    decide

theorem sameQuery_tracerRun : tracerRun.SameQuery bitqueryRun :=
  ⟨rfl, rfl, rfl⟩

theorem keepsLegs_iff_sample :
    (tracerRun.KeepsLegs ∧ bitqueryRun.KeepsLegs ∧ tracerRun.shownLegs = bitqueryRun.shownLegs ↔
      tracerRun.SparesLegs ∧ bitqueryRun.SparesLegs ∧
        tracerRun.legTransfers = bitqueryRun.legTransfers) :=
  ((keepsLegs_iff tracerRun).2 bitqueryRun sameQuery_tracerRun).1

theorem succeeds_bitqueryRun : bitqueryRun.Succeeds := by
  have hchecksum : ∀ address, checksumAddress bitqueryRun.env bitqueryRun.chain address =
      .ok address := by
    intro address
    unfold checksumAddress
    split
    · rfl
    · rfl
  have hchecksums : ∀ row ∈ bitqueryRun.bloxyResSrc ++ bitqueryRun.dist,
      (∃ address, checksumAddress bitqueryRun.env bitqueryRun.chain row.sender = .ok address) ∧
        ∃ address, checksumAddress bitqueryRun.env bitqueryRun.chain row.receiver = .ok address :=
    fun row _ => ⟨⟨_, hchecksum row.sender⟩, ⟨_, hchecksum row.receiver⟩⟩
  obtain ⟨addrList, haddresses⟩ := exists_createAddressList_iff.mpr hchecksums
  have htypes : ∀ row ∈ bitqueryRun.bloxyResSrc ++ bitqueryRun.dist,
      row.senderType.isSome ∧ row.receiverType.isSome := by decide
  exact ⟨hchecksums, fun _ => ⟨addrList, [], haddresses, rfl,
    fun row hrow => ⟨fun _ => (htypes row hrow).1, fun _ => (htypes row hrow).2⟩⟩⟩

/-- Behind Tracer the query loses the transfer that it shows behind Bitquery. -/
theorem not_keepsLegs_tracerRun :
    ¬ tracerRun.KeepsLegs ∧ bitqueryRun.KeepsLegs ∧
      tracerRun.shownLegs ≠ bitqueryRun.shownLegs := by
  have hlost : ∀ transfer, ¬ tracerRun.Shows transfer :=
    LegRun.not_shows_of_tracer (Option.ne_none_iff_isSome.mpr rfl) rfl
  have hkept : bitqueryRun.KeepsLegs :=
    bitqueryRun.keepsLegs_iff_sparesLegs.mpr
      (.inr ⟨succeeds_bitqueryRun, fun hserves => absurd rfl hserves⟩)
  have htracer : transferOf legTransaction ∈ tracerRun.legTransfers := by decide
  have hbitquery : transferOf legTransaction ∈ bitqueryRun.legTransfers := by decide
  refine ⟨fun hkeeps => ?_, hkept, fun hsame => ?_⟩
  · have hshown : transferOf legTransaction ∈ tracerRun.shownLegs := by
      rw [hkeeps.shownLegs_eq]
      exact htracer
    exact hlost _ hshown.2
  · have hshown : transferOf legTransaction ∈ tracerRun.shownLegs := by
      rw [hsame, hkept.shownLegs_eq]
      exact hbitquery
    exact hlost _ hshown.2

end CatvService.Pipeline
