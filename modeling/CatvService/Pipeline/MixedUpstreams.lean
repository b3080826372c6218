import CatvService.Library.Runs
import CatvService.Pipeline.VictimLeg

/-!
# Annotations when the calls are served by different upstreams

Both calls of a query go through one interface, and whichever got data from Tracer leaves `tracer`
in its `api_used`; no call ever writes the other value back.  So once both threads have completed,
the field is `tracer` exactly if one of them has written it, in whatever order (`apiUsed_of_run`).

The field is then read for both lists.  A list of Bitquery goes into the exchange filter as Bitquery
sent it if the other call used Tracer, and even if the call itself did, with data that could not be
transformed (`annotatesBitquery_iff`).
-/

namespace CatvService.Pipeline

open PyValue PyText Dictionary GraphQL Runs

/-! ## Two threads and one interface -/

/-- `api_used`. -/
inductive ApiUsed where
  | bitquery
  | tracer
  deriving DecidableEq, Repr

/-- The calls of a query. -/
inductive Thread where
  | dist
  | src
  deriving DecidableEq, Repr

section Query

variable (env : Environment) (request : Request) (chain : Chain)

/-- The arguments of a call. -/
def callOf (thread : Thread) : Call :=
  let (address, sourceDepth, distDepth) :=
    determineAddressToUse request (isVictimDex env request)
  match thread with
  | .dist => callFor request chain address distDepth false
  | .src => callFor request chain address sourceDepth true

/-- What a call returns, and whether it writes `tracer`. -/
def servedTo (thread : Thread) : Served :=
  serve env (callOf env request chain thread)

/-- The calls that are made: the second one only for a victim that is treated as a DEX. -/
def threads : List Thread :=
  if isVictimDex env request then [.dist, .src] else [.dist]

/-- The interface, and the threads that have not completed. -/
structure Interface where
  apiUsed : ApiUsed
  running : List Thread

/-- `CoinpathAPIInterface(True)`, with all threads started. -/
def Interface.started : Interface :=
  ⟨.bitquery, threads env request⟩

/-- A thread completes its call. -/
def complete (interface : Interface) (thread : Thread) : Option Interface :=
  if thread ∈ interface.running then
    some {
      apiUsed := if (servedTo env request chain thread).usedTracer then .tracer
        else interface.apiUsed
      running := interface.running.erase thread }
  else none

/-- Some call has written `tracer`. -/
def UsesTracer : Prop :=
  ∃ thread ∈ threads env request, (servedTo env request chain thread).usedTracer = true

/-! ## Before the exchange filter -/

/-- The rows of one direction, of the two lists. -/
def rowsOf (src dist : List Row) (direction : Direction) : List Row :=
  match direction with
  | .inbound => src
  | .outbound => dist

/-- What `filter_exchange_transactions` is called with in one direction, for two lists. -/
def labelledRows (usedTracer : Bool) (src dist : List Row) (direction : Direction) :
    Except PyErr (List Row) := do
  let addrList ← createAddressList env chain (src ++ dist)
  let annotationDict ← annotationDict env chain usedTracer addrList
  let annotated ← annotated usedTracer annotationDict (rowsOf src dist direction)
  return annotated.filter (inDirection direction)

/-- What `filter_exchange_transactions` is called with in one direction of a query. -/
def rowsAtFilter (apiUsed : ApiUsed) (direction : Direction) : Except PyErr (List Row) := do
  let _ ← request.hashes
  let transactions ← fetchTransactions env request chain (isVictimDex env request)
  match transactions.dist with
  | .rows dist =>
      if (transactions.src ++ dist).isEmpty then .ok []
      else labelledRows env chain (apiUsed = .tracer) transactions.src dist direction
  | _ => .error .typeError

/-- The rows that the calls have returned, with the senders and the depths that the source side
gets. -/
def transfersOf (direction : Direction) : List Row :=
  match direction with
  | .inbound =>
      if isVictimDex env request then
        ((servedTo env request chain .src).fetched.sent.map negateDepth).filter fun tx =>
          isVictimAddress request chain tx.sender
      else []
  | .outbound => (servedTo env request chain .dist).fetched.sent

/-- What `fetch_annotations` gives for the addresses of a query. -/
def fetchedAnnotations : Except PyErr (Entries String Details) := do
  let addrList ← createAddressList env chain
    (transfersOf env request chain .inbound ++ transfersOf env request chain .outbound)
  env.fetchAnnotations addrList chain

/-- Bitquery has served the call of a direction. -/
def ServedByBitquery (direction : Direction) : Prop :=
  match direction with
  | .inbound => tracerServes chain true (env.answers (callOf env request chain .src)) = none
  | .outbound => tracerServes chain false (env.answers (callOf env request chain .dist)) = none

/-- The row has the annotations that `annotate_transactions` assigns. -/
def Carries (dict : Entries String Details) (row : Row) : Prop :=
  ∃ labelled, annotateTransaction dict row = .ok labelled ∧
    row.senderAnnotation = labelled.senderAnnotation ∧
      row.receiverAnnotation = labelled.receiverAnnotation

/-- Every row of Bitquery that reaches the exchange filter has the fetched annotations. -/
def AnnotatesBitquery (apiUsed : ApiUsed) : Prop :=
  ∀ direction, ServedByBitquery env request chain direction →
    ∀ rows, rowsAtFilter env request chain apiUsed direction = .ok rows →
      ∀ row ∈ rows, ∃ dict, fetchedAnnotations env request chain = .ok dict ∧ Carries dict row

/-- Nothing raises before the rows are annotated. -/
structure Collects : Prop where
  hashes : ∃ hashes, request.hashes = .ok hashes
  dist : ∃ rows, (servedTo env request chain .dist).fetched = .rows rows
  src : isVictimDex env request = true → (servedTo env request chain .src).fetched ≠ .unusable
  addresses : ∃ addrList, createAddressList env chain
    (transfersOf env request chain .inbound ++ transfersOf env request chain .outbound) =
      .ok addrList

/-- No call has written `tracer`, or what Bitquery has sent is as it would be annotated. -/
def SparesAnnotations : Prop :=
  UsesTracer env request chain → Collects env request chain →
    ∀ direction, ServedByBitquery env request chain direction →
      ∀ row ∈ transfersOf env request chain direction, inDirection direction row = true →
        ∃ dict, fetchedAnnotations env request chain = .ok dict ∧ Carries dict row

end Query

variable {env : Environment} {request : Request} {chain : Chain}

/-! ## The field after both calls -/

/-- What holds while threads complete: the field says what the completed ones have written. -/
structure Tracks (env : Environment) (request : Request) (chain : Chain) (interface : Interface) :
    Prop where
  subset : interface.running ⊆ threads env request
  nodup : interface.running.Nodup
  apiUsed : interface.apiUsed = .tracer ↔ ∃ thread ∈ threads env request,
    thread ∉ interface.running ∧ (servedTo env request chain thread).usedTracer = true

theorem tracks_started : Tracks env request chain (Interface.started env request) where
  subset := List.Subset.refl _
  nodup := by
    unfold Interface.started threads
    split <;> decide
  apiUsed := by
    refine iff_of_false (by simp [Interface.started]) ?_
    rintro ⟨thread, hthread, hnot, -⟩
    exact hnot hthread

theorem Tracks.complete {interface next : Interface} {thread : Thread}
    (htracks : Tracks env request chain interface)
    (hstep : complete env request chain interface thread = some next) :
    Tracks env request chain next := by
  unfold Pipeline.complete at hstep
  split at hstep
  · rename_i hmem
    obtain rfl := Option.some.inj hstep
    refine ⟨List.Subset.trans List.erase_subset htracks.subset, htracks.nodup.erase thread, ?_⟩
    simp only [htracks.nodup.mem_erase_iff, not_and_or, not_not]
    by_cases hused : (servedTo env request chain thread).usedTracer = true
    · rw [if_pos hused]
      exact iff_of_true rfl ⟨thread, htracks.subset hmem, .inl rfl, hused⟩
    · rw [if_neg hused, htracks.apiUsed]
      constructor
      · rintro ⟨other, hother, hnot, hwrites⟩
        exact ⟨other, hother, .inr hnot, hwrites⟩
      · rintro ⟨other, hother, rfl | hnot, hwrites⟩
        · exact absurd hwrites hused
        · exact ⟨other, hother, hnot, hwrites⟩
  · cases hstep

/-- **Whatever the order in which the calls complete, the field is `tracer` exactly if one of them
has written it.** -/
theorem apiUsed_of_run {order : List Thread} {interface : Interface}
    (hrun : Run (complete env request chain) (Interface.started env request) order interface)
    (hdone : interface.running = []) :
    interface.apiUsed = .tracer ↔ UsesTracer env request chain := by
  have htracks : Tracks env request chain interface :=
    hrun.invariant tracks_started fun _ _ _ htracks hstep => htracks.complete hstep
  rw [htracks.apiUsed, hdone]
  simp [UsesTracer]

/-! ## What the query is made of -/

/-- The value that the model of the query computes for the field is the one of every run. -/
theorem fetchTransactions_usedTracer {transactions : Transactions}
    (hfetch : fetchTransactions env request chain (isVictimDex env request) = .ok transactions) :
    transactions.usedTracer = true ↔ UsesTracer env request chain := by
  unfold fetchTransactions at hfetch
  unfold UsesTracer threads servedTo callOf
  cases hdex : isVictimDex env request with
  | false =>
      rw [hdex] at hfetch
      simp only [Bool.false_eq_true, if_false] at hfetch
      obtain rfl := Except.ok.inj hfetch
      simp
  | true =>
      rw [hdex] at hfetch
      simp only [if_true] at hfetch
      obtain ⟨_, -, hreturn⟩ := bind_eq_ok_iff.mp hfetch
      obtain rfl := Except.ok.inj hreturn
      simp

theorem fetchTransactionsWithSource_rows_iff {dist src : Fetched} {rows srcRows : List Row} :
    fetchTransactionsWithSource dist src = .ok (.rows rows, srcRows) ↔
      dist = .rows rows ∧ src ≠ .unusable ∧ srcRows = src.sent.map negateDepth := by
  unfold fetchTransactionsWithSource
  cases dist with
  | unusable => simp
  | errors errors => simp
  | empty => cases src <;> simp
  | rows distRows =>
      cases src with
      | unusable => simp
      | errors errors => simp [Fetched.sent, eq_comm]
      | empty => simp [Fetched.sent, eq_comm]
      | rows sent => simp [Fetched.sent, eq_comm]

theorem fetchTransactions_rows_iff {src dist : List Row} :
    (∃ usedTracer, fetchTransactions env request chain (isVictimDex env request) =
        .ok ⟨.rows dist, src, usedTracer⟩) ↔
      (servedTo env request chain .dist).fetched = .rows dist ∧
        (isVictimDex env request = true →
          (servedTo env request chain .src).fetched ≠ .unusable) ∧
        src = transfersOf env request chain .inbound := by
  unfold fetchTransactions transfersOf servedTo callOf
  cases hdex : isVictimDex env request with
  | false => simp [pure, Except.pure, eq_comm]
  | true =>
      simp only [if_true, true_imp_iff]
      constructor
      · rintro ⟨usedTracer, hfetch⟩
        obtain ⟨⟨distRes, sourceRes⟩, hlists, hreturn⟩ := bind_eq_ok_iff.mp hfetch
        obtain ⟨rfl, rfl, -⟩ := Transactions.mk.inj (Except.ok.inj hreturn)
        obtain ⟨hdist, hsrc, rfl⟩ := fetchTransactionsWithSource_rows_iff.mp hlists
        exact ⟨hdist, hsrc, rfl⟩
      · rintro ⟨hdist, hsrc, rfl⟩
        exact ⟨_, bind_eq_ok_iff.mpr
          ⟨_, fetchTransactionsWithSource_rows_iff.mpr ⟨hdist, hsrc, rfl⟩, rfl⟩⟩

/-- The rows in front of the exchange filter are those that the query goes on with: what it returns
is what the filter and the later steps leave of them. -/
theorem processTransactions_eq_ok {isVictimDex usedTracer : Bool} {txnHashes : List String}
    {src dist rows : List Row} (hne : (src ++ dist).isEmpty = false)
    (hrows : processTransactions env request chain isVictimDex usedTracer txnHashes src dist =
      .ok rows) :
    ∃ inbound outbound,
      labelledRows env chain usedTracer src dist .inbound = .ok inbound ∧
      labelledRows env chain usedTracer src dist .outbound = .ok outbound ∧
      rows ⊆ offsetDepths isVictimDex (filterExchangeTransactions inbound .inbound)
        (filterExchangeTransactions outbound .outbound) := by
  unfold processTransactions at hrows
  rw [hne] at hrows
  simp only [Bool.false_eq_true, if_false, bind_eq_ok_iff,
    annotateAndFilterTransactions_eq_ok_iff] at hrows
  obtain ⟨addrList, haddresses, dict, hdict, _, ⟨distLabels, hdist, rfl⟩, _,
    ⟨srcLabels, hsrc, rfl⟩, hreturn⟩ := hrows
  refine ⟨srcLabels.filter (inDirection .inbound),
    distLabels.filter (inDirection .outbound), ?_, ?_,
    ?_⟩
  · exact bind_eq_ok_iff.mpr ⟨addrList, haddresses, bind_eq_ok_iff.mpr ⟨dict, hdict,
      bind_eq_ok_iff.mpr ⟨srcLabels, hsrc, rfl⟩⟩⟩
  · exact bind_eq_ok_iff.mpr ⟨addrList, haddresses, bind_eq_ok_iff.mpr ⟨dict, hdict,
      bind_eq_ok_iff.mpr ⟨distLabels, hdist, rfl⟩⟩⟩
  · obtain rfl := Except.ok.inj hreturn
    intro row hrow
    split at hrow
    · exact hrow
    · exact (List.mem_filter.mp hrow).1

/-! ## What reaches the exchange filter -/

theorem rowsOf_transfersOf (env : Environment) (request : Request) (chain : Chain)
    (direction : Direction) :
    rowsOf (transfersOf env request chain .inbound) (transfersOf env request chain .outbound)
      direction = transfersOf env request chain direction := by
  cases direction <;> rfl

theorem transfersOf_outbound {dist : List Row}
    (hdist : (servedTo env request chain .dist).fetched = .rows dist) :
    transfersOf env request chain .outbound = dist := by
  unfold transfersOf
  rw [hdist]
  rfl

theorem append_ne_nil_of_mem_annotated {usedTracer : Bool} {dict : Entries String Details}
    {src dist labels : List Row} {direction : Direction} {row : Row}
    (hlabels : annotated usedTracer dict (rowsOf src dist direction) = .ok labels)
    (hmem : row ∈ labels) : ¬ (src ++ dist).isEmpty = true := by
  obtain ⟨-, rfl⟩ := annotated_eq_ok_iff.mp hlabels
  obtain ⟨sent, hsent, -⟩ := List.mem_map.mp hmem
  rw [List.isEmpty_iff]
  intro hnil
  obtain ⟨rfl, rfl⟩ := List.append_eq_nil_iff.mp hnil
  cases direction <;> cases hsent

theorem mem_labelledRows_iff {usedTracer : Bool} {src dist : List Row} {direction : Direction}
    {row : Row} :
    (∃ rows, labelledRows env chain usedTracer src dist direction = .ok rows ∧ row ∈ rows) ↔
      ∃ addrList dict labels,
        createAddressList env chain (src ++ dist) = .ok addrList ∧
        annotationDict env chain usedTracer addrList = .ok dict ∧
        annotated usedTracer dict (rowsOf src dist direction) = .ok labels ∧
        row ∈ labels ∧ inDirection direction row = true := by
  simp only [labelledRows, bind_eq_ok_iff]
  constructor
  · rintro ⟨rows, ⟨addrList, haddresses, dict, hdict, labels, hlabels, hreturn⟩, hrow⟩
    obtain rfl := Except.ok.inj hreturn
    obtain ⟨hmem, hdirection⟩ := List.mem_filter.mp hrow
    exact ⟨addrList, dict, labels, haddresses, hdict, hlabels, hmem, hdirection⟩
  · rintro ⟨addrList, dict, labels, haddresses, hdict, hlabels, hmem, hdirection⟩
    exact ⟨_, ⟨addrList, haddresses, dict, hdict, labels, hlabels, rfl⟩,
      List.mem_filter.mpr ⟨hmem, hdirection⟩⟩

/-- The rows in front of the filter: nothing has raised, and the rows of the right sign are
annotated unless the field says `tracer`. -/
theorem mem_rowsAtFilter_iff {apiUsed : ApiUsed} {direction : Direction} {row : Row} :
    (∃ rows, rowsAtFilter env request chain apiUsed direction = .ok rows ∧ row ∈ rows) ↔
      Collects env request chain ∧ ∃ addrList dict labels,
        createAddressList env chain (transfersOf env request chain .inbound ++
          transfersOf env request chain .outbound) = .ok addrList ∧
        annotationDict env chain (apiUsed = .tracer) addrList = .ok dict ∧
        annotated (apiUsed = .tracer) dict (transfersOf env request chain direction) = .ok labels ∧
        row ∈ labels ∧ inDirection direction row = true := by
  unfold rowsAtFilter
  simp only [bind_eq_ok_iff]
  constructor
  · rintro ⟨rows, ⟨hashes, hhashes, ⟨fetched, src, usedTracer⟩, hfetch, hrows⟩, hrow⟩
    cases fetched with
    | unusable => cases hrows
    | errors errors => cases hrows
    | empty => cases hrows
    | rows dist =>
        obtain ⟨hdist, hsrc, rfl⟩ := fetchTransactions_rows_iff.mp ⟨usedTracer, hfetch⟩
        dsimp only at hrows
        split at hrows
        · obtain rfl := Except.ok.inj hrows
          cases hrow
        · rw [← transfersOf_outbound hdist] at hrows
          obtain ⟨addrList, dict, labels, haddresses, hdict, hlabels, hkept⟩ :=
            mem_labelledRows_iff.mp ⟨rows, hrows, hrow⟩
          rw [rowsOf_transfersOf] at hlabels
          exact ⟨⟨⟨hashes, hhashes⟩, ⟨dist, hdist⟩, hsrc, ⟨addrList, haddresses⟩⟩, addrList, dict,
            labels, haddresses, hdict, hlabels, hkept⟩
  · rintro ⟨⟨⟨hashes, hhashes⟩, ⟨dist, hdist⟩, hsrc, -⟩, addrList, dict, labels, haddresses, hdict,
      hlabels, hmem, hdirection⟩
    obtain ⟨usedTracer, hfetch⟩ := fetchTransactions_rows_iff.mpr ⟨hdist, hsrc, rfl⟩
    obtain rfl := transfersOf_outbound hdist
    rw [← rowsOf_transfersOf] at hlabels
    obtain ⟨rows, hrows, hrow⟩ :=
      mem_labelledRows_iff.mpr
        ⟨addrList, dict, labels, haddresses, hdict, hlabels, hmem, hdirection⟩
    refine ⟨rows, ⟨hashes, hhashes, _, hfetch, ?_⟩, hrow⟩
    dsimp only
    rw [if_neg (append_ne_nil_of_mem_annotated hlabels hmem)]
    exact hrows

/-- An annotated row has its annotations, since annotating changes nothing that it reads. -/
theorem carries_of_annotateTransaction {dict : Entries String Details} {d row : Row}
    (hrow : annotateTransaction dict d = .ok row) : Carries dict row := by
  simp only [annotateTransaction, bind_eq_ok_iff] at hrow
  obtain ⟨sender, hsender, receiver, hreceiver, heq⟩ := hrow
  obtain rfl := Except.ok.inj heq
  unfold Carries annotateTransaction
  simp only [hsender, hreceiver, bind, Except.bind]
  exact ⟨_, rfl, rfl, rfl⟩

/-- **Rows of Bitquery are annotated, in whatever order the calls complete, exactly if no call has
written `tracer` or Bitquery happens to send the fetched annotations.** -/
theorem annotatesBitquery_iff {order : List Thread} {interface : Interface}
    (hrun : Run (complete env request chain) (Interface.started env request) order interface)
    (hdone : interface.running = []) :
    AnnotatesBitquery env request chain interface.apiUsed ↔
      SparesAnnotations env request chain := by
  have hfield := apiUsed_of_run hrun hdone
  by_cases huses : UsesTracer env request chain
  · rw [hfield.mpr huses]
    constructor
    · intro hannotates _ hcollects direction hserved row hrow hdirection
      obtain ⟨addrList, haddresses⟩ := hcollects.addresses
      have hreaches : ∃ rows, rowsAtFilter env request chain .tracer direction = .ok rows ∧
          row ∈ rows :=
        mem_rowsAtFilter_iff.mpr ⟨hcollects, addrList, [], transfersOf env request chain direction,
          haddresses, rfl, rfl, hrow, hdirection⟩
      obtain ⟨rows, hrows, hmem⟩ := hreaches
      exact hannotates direction hserved rows hrows row hmem
    · intro hspares direction hserved rows hrows row hrow
      obtain ⟨hcollects, addrList, dict, labels, -, -, hlabels, hmem, hdirection⟩ :=
        mem_rowsAtFilter_iff.mp ⟨rows, hrows, hrow⟩
      obtain rfl := Except.ok.inj hlabels
      exact hspares huses hcollects direction hserved row hmem hdirection
  · refine iff_of_true ?_ fun huses' => absurd huses' huses
    intro direction hserved rows hrows row hrow
    obtain ⟨hcollects, addrList, dict, labels, haddresses, hdict, hlabels, hmem, hdirection⟩ :=
      mem_rowsAtFilter_iff.mp ⟨rows, hrows, hrow⟩
    have hfalse : decide (interface.apiUsed = .tracer) = false :=
      decide_eq_false (mt hfield.mp huses)
    rw [hfalse] at hdict hlabels
    refine ⟨dict, bind_eq_ok_iff.mpr ⟨addrList, haddresses, hdict⟩, ?_⟩
    obtain ⟨hall, rfl⟩ := mapM_eq_ok_iff.mp hlabels
    obtain ⟨sent, hsent, rfl⟩ := List.mem_map.mp hmem
    obtain ⟨labelled, hlabelled⟩ := hall sent hsent
    rw [settled_eq hlabelled]
    exact carries_of_annotateTransaction hlabelled

/-! ### Outgoing transfers of Bitquery next to incoming ones of Tracer -/

/-- A transfer from the threat to an exchange, which Bitquery does not annotate. -/
def exchangeFlatRow : FlatRow :=
  { legFlatRow with
    sender := .str "0x2222222222222222222222222222222222222222"
    receiver := .str "0x3333333333333333333333333333333333333333" }

/-- What the annotation service knows of the exchange. -/
def exchangeAnnotations : Entries String Details :=
  [("0x3333333333333333333333333333333333333333", ⟨"Binance Exchange", .str "whitelist"⟩)]

/-- Tracer fails on the outgoing transfers and knows the incoming one. -/
def mixedEnvironment : Environment :=
  { legEnvironment tracerAnswers with
    answers := fun call =>
      if call.source then tracerAnswers
      else ⟨.raised, fun _ => .list [], .list [.row exchangeFlatRow], .list []⟩
    fetchAnnotations := fun _ _ => .ok exchangeAnnotations }

theorem annotatesBitquery_iff_mixed :
    ∃ interface, Run (complete mixedEnvironment legRequest .eth)
        (Interface.started mixedEnvironment legRequest) [.src, .dist] interface ∧
      (AnnotatesBitquery mixedEnvironment legRequest .eth interface.apiUsed ↔
        SparesAnnotations mixedEnvironment legRequest .eth) := by
  have hexec : exec (complete mixedEnvironment legRequest .eth)
      (Interface.started mixedEnvironment legRequest) [.src, .dist] = some ⟨.tracer, []⟩ := rfl
  exact ⟨_, run_of_exec hexec, annotatesBitquery_iff (run_of_exec hexec) rfl⟩

/-- In both orders the field says `tracer`, and the row to the exchange goes into the filter without
its annotation. -/
theorem not_annotatesBitquery_mixed :
    Run (complete mixedEnvironment legRequest .eth) (Interface.started mixedEnvironment legRequest)
        [.dist, .src] ⟨.tracer, []⟩ ∧
      Run (complete mixedEnvironment legRequest .eth)
        (Interface.started mixedEnvironment legRequest)
        [.src, .dist] ⟨.tracer, []⟩ ∧
      ¬ AnnotatesBitquery mixedEnvironment legRequest .eth .tracer := by
  refine ⟨run_of_exec rfl, run_of_exec rfl, fun hannotates => ?_⟩
  obtain ⟨row, hrow⟩ : ∃ row, rowOfFlat exchangeFlatRow = some row := ⟨_, rfl⟩
  have hrows : rowsAtFilter mixedEnvironment legRequest .eth .tracer .outbound = .ok [row] := by
    obtain rfl := Option.some.inj hrow
    rfl
  obtain ⟨dict, hdict, labelled, hlabelled, -, hreceiver⟩ :=
    hannotates .outbound rfl [row] hrows row List.mem_cons_self
  have hfetched : fetchedAnnotations mixedEnvironment legRequest .eth = .ok exchangeAnnotations :=
    rfl
  obtain rfl := Except.ok.inj (hfetched.symm.trans hdict)
  obtain rfl := Option.some.inj hrow
  obtain rfl := Except.ok.inj hlabelled
  have hsame : "" = "Binance Exchange" := Option.some.inj hreceiver
  exact absurd hsame (by decide)

end CatvService.Pipeline
