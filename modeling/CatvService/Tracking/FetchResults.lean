import CatvService.Library.Runs
import CatvService.GraphQL.DepthLimit
import CatvService.Tracking.UpstreamQuestion
import Mathlib.Logic.Function.Basic

/-!
# The stored transactions

`TrackingResults.fetch_results` of `api/catvutils/tracking_results.py`, with the two tables
`BloxySource` and `BloxyDistribution` that it reads before it asks upstream and writes afterwards.

Calls run in parallel, in the two threads of a request and in several processes.  A call is two
steps: it looks into its table, and it answers or joins the calls that wait for upstream; later
upstream answers it, and its rows may be saved.  Reads go to a replica, so a lookup sees some
initial part of the table.

Upstream is asked by `CoinpathAPIInterface.get_transactions`, with the arguments in the positions
that `UpstreamQuestion` is about: nothing is asked, an empty list comes back, and an empty list is
not saved.  So the tables stay as they were, and what is answered from them is sound for want of
answers (`sound_of_run`).  The lookup itself would not be: `covers_iff_of_selects` is what it leaves
open.
-/

namespace CatvService.FetchResults

open Dates GraphQL Pipeline PyValue Runs Tracer UpstreamQuestion

/-! ## `get_transactions` -/

/-- `transaction_data`: the rows of Tracer, or what `call_graphql_endpoint` returns. -/
inductive TransactionData where
  | tracer (rows : List Row)
  | bitquery (elements : List Element)
  | document (document : Json)

namespace TransactionData

def truthy : TransactionData → Bool
  | .tracer rows => !rows.isEmpty
  | .bitquery elements => !elements.isEmpty
  | .document v => v.truthy

/-- `len(transaction_data)`. -/
def len : TransactionData → Except PyErr ℕ
  | .tracer rows => .ok rows.length
  | .bitquery elements => .ok elements.length
  | .document v => v.len

end TransactionData

/-- What the two services do during a call of `get_transactions`.  Bitquery may be called twice, and
the calls below each of the two may nest `nesting` deep. -/
structure Services where
  tracer : TraceRequest → TracerReply
  bitquery : Upstream
  bitqueryWithoutToken : Upstream
  nesting : ℕ

/-- The rows that Tracer serves.  Swaps are followed in requests of the API only. -/
def tracerRows (services : Services) (source : Bool) (request : TraceRequest) : Option (List Row) :=
  match services.tracer request with
  | .raised => none
  | .transactions transactions =>
      match processResponse (fun _ => .nothing) transactions source 0 false with
      | some (tx :: txs) =>
          match (tx :: txs).mapM transformTransaction with
          | .ok rows => some (rows.filter fun row => decide (row.receiver ≠ ""))
          | .error _ => none
      | _ => none

/-- `'errors' in results and results['errors'] and …`: whether the call is repeated without the
token. -/
def repeatsWithoutToken (results : CallResult) : Except PyErr Bool :=
  match results with
  | .list elements => if elements.any isErrorsKey then .error .typeError else .ok false
  | .other (.dict entries) =>
      match Dictionary.Entries.get? "errors" entries with
      | some errors => retriesWithoutToken errors
      | none => .ok false
  | .other (.str s) => if PyText.contains "errors" s then .error .typeError else .ok false
  | .other _ => .error .typeError
  | .raised => .error (.other "call_graphql_endpoint")

/-- What a call of `call_graphql_endpoint` is for its caller. -/
def dataOf (results : CallResult) : Except PyErr TransactionData :=
  match results with
  | .list elements => .ok (.bitquery elements)
  | .other document => .ok (.document document)
  | .raised => .error (.other "call_graphql_endpoint")

/-- What comes back from Bitquery; `none` if nothing does within the nesting. -/
def bitqueryData (services : Services)
    (address limit depthLimit source chain fromTime tillTime tokenAddress : Arg) :
    Option (Except PyErr TransactionData) :=
  match interfaceOf limit depthLimit source chain tillTime with
  | .error e => some (.error e)
  | .ok self => do
      let (results, session) ← callFromStart services.bitquery self services.nesting address.toJson
        tokenAddress.toJson fromTime.toJson
      match repeatsWithoutToken results with
      | .error e => some (.error e)
      | .ok false => some (dataOf results)
      | .ok true => do
          let (results, _) ← callGraphqlEndpoint services.bitqueryWithoutToken self
            services.nesting [] session ⟨address.toJson, .null, fromTime.toJson, 0⟩
          some (dataOf results)

/-- `CoinpathAPIInterface().get_transactions(address, limit, depth_limit, source, chain, from_time,
till_time, token_address)`: Tracer is asked first where there is a request for it. -/
def getTransactions (services : Services)
    (address limit depthLimit source chain fromTime tillTime tokenAddress : Arg) :
    Option (Except PyErr TransactionData) :=
  let question := UpstreamQuestion.getTransactions ((services.bitquery.randint [] 0).val + 1)
    address limit depthLimit source chain fromTime tillTime tokenAddress
  match question.tracer.bind (tracerRows services source.toJson.truthy) with
  | some rows => some (.ok (.tracer rows))
  | none =>
      bitqueryData services address limit depthLimit source chain fromTime tillTime tokenAddress

/-! ## `fetch_results` -/

/-- `BloxySource` or `BloxyDistribution`. -/
inductive BloxyDbClass where
  | bloxySource
  | bloxyDistribution
  deriving DecidableEq, Repr

/-- The attributes of a `TrackingResults` object that the call reads. -/
structure TrackingResults where
  walletAddress : String
  sourceDepth : Option ℤ
  distributionDepth : Option ℤ
  transactionLimit : Option ℤ
  fromDate : String
  toDate : String
  tokenAddress : Option String
  forceLookup : Bool
  chain : String
  deriving DecidableEq

/-- A call of `fetch_results`. -/
structure Call where
  self : TrackingResults
  limit : ℤ
  saveToDb : Bool
  forSource : Bool
  deriving DecidableEq

/-- A row of either table.  Its `id` is its position in the table; `updated`, which only breaks
ties between equal ids, is left out. -/
structure BloxyRow where
  address : String
  depthLimit : Option ℤ
  transactionLimit : Option ℤ
  fromTime : DateTime
  tillTime : DateTime
  result : TransactionData
  tokenAddress : Option String

/-- What a call that does not raise leaves with its caller: the data, the text it put under its
direction in `error_messages`, and what it added to `ext_api_calls`. -/
structure Reply where
  transactionData : Option TransactionData
  errorMessage : Option String
  extApiCalls : ℕ

/-- What happens to a call, in the order of the history. -/
inductive Event where
  /-- The call saved `result` as the row `id` of its table. -/
  | saved (call : Call) (id : ℕ) (result : TransactionData)
  /-- The call answered from the row `id` of its table. -/
  | answeredFromDb (call : Call) (id : ℕ) (reply : Reply)
  | answeredFromUpstream (call : Call) (reply : Reply)
  | raised (call : Call)

/-- The tables, the calls that wait for upstream, and the history. -/
structure State where
  table : BloxyDbClass → List BloxyRow
  waiting : List Call
  history : List Event

/-- A call looks into the first `visible` rows of its table, or the services answer the call at
`index`; what it then saves may be refused by the database. -/
inductive Action where
  | look (call : Call) (visible : ℕ)
  | finish (index : ℕ) (services : Services) (saveRaises : Bool)

namespace Call

def dbClass (call : Call) : BloxyDbClass :=
  if call.forSource then .bloxySource else .bloxyDistribution

def depthLimit (call : Call) : Option ℤ :=
  if call.forSource then call.self.sourceDepth else call.self.distributionDepth

/-- `aware_from_date` and `aware_to_date`; the time zone is UTC, so no date is refused. -/
def window (call : Call) : Except PyErr (DateTime × DateTime) := do
  let fromDate ← strptimeDay call.self.fromDate
  let toDate ← strptimeDay call.self.toDate
  return (fromDate, toDate)

/-- The text of both error messages. -/
def missingMessage (call : Call) : String :=
  "Missing " ++ (if call.forSource then "source" else "distribution") ++
    " results for the wallet address within the date range specified"

/-- The row of `save_bloxy_result`. -/
def bloxyRow (call : Call) (window : DateTime × DateTime) (result : TransactionData) :
    BloxyRow where
  address := call.self.walletAddress
  depthLimit := call.depthLimit
  transactionLimit := call.self.transactionLimit
  fromTime := window.1
  tillTime := window.2
  result := result
  tokenAddress := call.self.tokenAddress

/-- The filter of the lookup. -/
def Selects (call : Call) (window : DateTime × DateTime) (row : BloxyRow) : Prop :=
  row.address = call.self.walletAddress ∧ row.depthLimit = call.depthLimit ∧
    row.transactionLimit = call.self.transactionLimit ∧
    row.tokenAddress = call.self.tokenAddress ∧ window.1 ≤ row.fromTime ∧ row.tillTime ≤ window.2

instance (call : Call) (window : DateTime × DateTime) (row : BloxyRow) :
    Decidable (call.Selects window row) :=
  inferInstanceAs (Decidable (_ ∧ _))

/-- `filter(…).order_by('-id', …)[0:1]`: the selected row with the greatest id, with that id. -/
def dbResults (call : Call) (window : DateTime × DateTime) (rows : List BloxyRow) :
    Option (BloxyRow × ℕ) :=
  (rows.zipIdx.filter fun entry => call.Selects window entry.1).getLast?

/-- The rows that the call answers with before it asks upstream. -/
def stored (call : Call) (window : DateTime × DateTime) (rows : List BloxyRow) :
    Except PyErr (Option (ℕ × TransactionData)) :=
  if call.self.forceLookup then return none
  else
    match call.dbResults window rows with
    | none => return none
    | some (row, id) => do
        if (← row.result.len) = 0 then return none else return some (id, row.result)

/-- `get_results_from_bloxy(coinpath, depth_limit, till_date_extend, …)`. -/
def getResultsFromBloxy (call : Call) (services : Services) :
    Option (Except PyErr TransactionData) :=
  getTransactions services (.text call.self.walletAddress) (.number call.limit)
    ((call.depthLimit.map Arg.number).getD .none) (.text call.self.fromDate)
    (.text (tillDateExtend call.self.toDate)) (Arg.ofOption call.self.tokenAddress)
    (.flag call.forSource) (.text call.self.chain)

end Call

namespace State

/-- No rows, no calls. -/
def initial : State :=
  ⟨fun _ => [], [], []⟩

/-- An event is recorded. -/
def record (s : State) (event : Event) : State :=
  { s with history := s.history ++ [event] }

/-- `save_bloxy_result`, recorded in the history. -/
def save (s : State) (call : Call) (window : DateTime × DateTime) (result : TransactionData) :
    State :=
  { s with
    table := Function.update s.table call.dbClass
      (s.table call.dbClass ++ [call.bloxyRow window result])
    history := s.history ++ [.saved call (s.table call.dbClass).length result] }

/-- The `except` of the `try`. -/
def handle (s : State) (call : Call) : PyErr → State
  | .indexError => s.record (.answeredFromUpstream call ⟨none, some call.missingMessage, 0⟩)
  | _ => s.record (.raised call)

/-- A call gets what upstream sends, saves it if it may and if there is anything to save, and
returns. -/
def finish (s : State) (call : Call) (window : DateTime × DateTime) (saveRaises : Bool) :
    Except PyErr TransactionData → State
  | .error e => s.handle call e
  | .ok data =>
      let message := if data.truthy then none else some call.missingMessage
      let answered : Event := .answeredFromUpstream call ⟨some data, message, 1⟩
      if call.saveToDb && data.truthy then
        if saveRaises then s.record (.raised call)
        else (s.save call window data).record answered
      else s.record answered

end State

/-- One step of `fetch_results`.  A call with a date that cannot be read raises before its `try`. -/
def step (s : State) : Action → Option State
  | .look call visible =>
      match call.window with
      | .error _ => some (s.record (.raised call))
      | .ok window =>
          match call.stored window ((s.table call.dbClass).take visible) with
          | .error e => some (s.handle call e)
          | .ok (some (id, result)) =>
              some (s.record (.answeredFromDb call id ⟨some result, none, 0⟩))
          | .ok none => some { s with waiting := s.waiting ++ [call] }
  | .finish index services saveRaises => do
      let call ← s.waiting[index]?
      let window ← call.window.toOption
      let result ← call.getResultsFromBloxy services
      return { s with waiting := s.waiting.eraseIdx index }.finish call window saveRaises result

/-! ## Soundness -/

/-- The saving call asked for the same wallet, direction, depth, transaction limit, token address
and chain, over a window that covers the window of the reading call. -/
structure Covers (saving reading : Call) : Prop where
  walletAddress : saving.self.walletAddress = reading.self.walletAddress
  forSource : saving.forSource = reading.forSource
  depthLimit : saving.depthLimit = reading.depthLimit
  transactionLimit : saving.self.transactionLimit = reading.self.transactionLimit
  tokenAddress : saving.self.tokenAddress = reading.self.tokenAddress
  chain : saving.self.chain = reading.self.chain
  window : ∃ stored requested, saving.window = .ok stored ∧ reading.window = .ok requested ∧
    stored.1 ≤ requested.1 ∧ requested.2 ≤ stored.2

/-- Rows that are read from a table were saved by an earlier call that covers the reading one. -/
def Justified (earlier : List Event) : Event → Prop
  | .answeredFromDb call id reply =>
      ∃ saving result, .saved saving id result ∈ earlier ∧ reply.transactionData = some result ∧
        Covers saving call
  | _ => True

/-- All answers from the tables are justified. -/
def Sound (history : List Event) : Prop :=
  AllAfter Justified history

/-! ### What upstream sends -/

variable {services : Services} {call saving : Call} {s t : State} {action : Action}

theorem getTransactions_of_question
    {address limit depthLimit source chain fromTime tillTime tokenAddress : Arg}
    (hquestion : UpstreamQuestion.getTransactions ((services.bitquery.randint [] 0).val + 1) address
      limit depthLimit source chain fromTime tillTime tokenAddress = ⟨none, none⟩)
    {result : Except PyErr TransactionData}
    (hresult : getTransactions services address limit depthLimit source chain fromTime tillTime
      tokenAddress = some result) :
    (∃ e, result = .error e) ∨ result = .ok (.bitquery []) := by
  have htracer := congrArg Question.tracer hquestion
  have hbitquery := congrArg Question.bitquery hquestion
  unfold getTransactions at hresult
  dsimp only at hresult
  rw [htracer] at hresult
  unfold bitqueryData at hresult
  unfold UpstreamQuestion.getTransactions at hbitquery
  cases hself : interfaceOf limit depthLimit source chain tillTime with
  | error e =>
      simp only [hself, Option.bind_none] at hresult
      cases hresult
      exact .inl ⟨e, rfl⟩
  | ok self =>
      simp only [hself, Option.bind_none] at hresult hbitquery
      cases hnesting : services.nesting with
      | zero =>
          -- a call that may not nest at all does not come back
          rw [hnesting] at hresult
          cases hresult
      | succ nesting =>
          rw [hnesting, callFromStart_of_firstQuery services.bitquery nesting hbitquery] at hresult
          cases hresult
          exact .inr rfl

/-- What comes back for a report is nothing to save. -/
theorem getResultsFromBloxy_eq_some {result : Except PyErr TransactionData}
    (hresult : call.getResultsFromBloxy services = some result) :
    (∃ e, result = .error e) ∨ result = .ok (.bitquery []) :=
  getTransactions_of_question (getTransactions_tillDateExtend _ _ _ _ _ call.self.toDate _ _ _)
    hresult

/-! ### What one step does -/

/-- The events that neither save rows nor read them. -/
def Event.Plain : Event → Prop
  | .saved _ _ _ => False
  | .answeredFromDb _ _ _ => False
  | .answeredFromUpstream _ _ => True
  | .raised _ => True

/-- Nothing is stored, and nothing has been read from the tables. -/
structure Empty (s : State) : Prop where
  table : ∀ cls, s.table cls = []
  history : ∀ event ∈ s.history, event.Plain

theorem empty_initial : Empty State.initial :=
  ⟨fun _ => rfl, fun event hevent => by cases hevent⟩

theorem Empty.record (hempty : Empty s) {event : Event} (hplain : event.Plain) :
    Empty (s.record event) := by
  refine ⟨hempty.table, fun other hother => ?_⟩
  rcases List.mem_append.mp hother with hold | hnew
  · exact hempty.history other hold
  · rw [List.mem_singleton.mp hnew]
    exact hplain

theorem Empty.handle (hempty : Empty s) (call : Call) (e : PyErr) : Empty (s.handle call e) := by
  unfold State.handle
  split
  · exact hempty.record trivial
  · exact hempty.record trivial

theorem stored_nil (call : Call) (window : DateTime × DateTime) :
    call.stored window [] = .ok none := by
  unfold Call.stored
  split <;> rfl

theorem empty_step (s : State) (action : Action) (t : State) (hempty : Empty s)
    (hstep : step s action = some t) : Empty t := by
  cases action with
  | look call visible =>
      unfold step at hstep
      dsimp only at hstep
      cases hwindow : call.window with
      | error e =>
          rw [hwindow] at hstep
          cases hstep
          exact hempty.record trivial
      | ok window =>
          rw [hwindow, hempty.table, List.take_nil] at hstep
          dsimp only at hstep
          rw [stored_nil] at hstep
          cases hstep
          exact ⟨hempty.table, hempty.history⟩
  | finish index services saveRaises =>
      obtain ⟨call, -, hstep⟩ := Option.bind_eq_some_iff.mp hstep
      obtain ⟨window, -, hstep⟩ := Option.bind_eq_some_iff.mp hstep
      obtain ⟨result, hresult, hstep⟩ := Option.bind_eq_some_iff.mp hstep
      cases hstep
      have hwaiting : Empty { s with waiting := s.waiting.eraseIdx index } :=
        ⟨hempty.table, hempty.history⟩
      rcases getResultsFromBloxy_eq_some hresult with ⟨e, rfl⟩ | rfl
      · exact hwaiting.handle call e
      · -- an empty list is returned, but not saved
        have hnothing : (call.saveToDb && (TransactionData.bitquery []).truthy) = false :=
          Bool.and_false _
        unfold State.finish
        simp only [hnothing]
        exact hwaiting.record trivial

/-! ### The law of the stored rows -/

/-- Where nothing has been read from the tables, nothing can be unsound. -/
theorem Empty.sound (hempty : Empty s) : Sound s.history := by
  intro earlier event later hhistory
  have hplain : event.Plain := hempty.history event (by rw [hhistory]; simp)
  cases event with
  | answeredFromDb call id reply => exact hplain.elim
  | _ => trivial

/-- **In every run of calls, what is answered from the tables was stored by a call that covers the
reading one; but no call ever stores anything.** -/
theorem sound_of_run {actions : List Action} (hrun : Run step State.initial actions s) :
    Sound s.history ∧ ∀ cls, s.table cls = [] := by
  have hempty : Empty s := hrun.invariant empty_initial empty_step
  exact ⟨hempty.sound, hempty.table⟩

/-- What the lookup leaves open: a selected row comes from a call that covers the reading one
exactly if that call was for the same direction and chain, and its window, which the filter puts
inside the requested one, is the requested one. -/
theorem covers_iff_of_selects {stored requested : DateTime × DateTime} {result : TransactionData}
    (hstored : saving.window = .ok stored) (hrequested : call.window = .ok requested)
    (hselects : call.Selects requested (saving.bloxyRow stored result)) :
    Covers saving call ↔ saving.forSource = call.forSource ∧ saving.self.chain = call.self.chain ∧
      stored.1 ≤ requested.1 ∧ requested.2 ≤ stored.2 := by
  obtain ⟨hwallet, hdepth, hlimit, htoken, -, -⟩ := hselects
  constructor
  · intro hcovers
    obtain ⟨stored', requested', hstored', hrequested', hfrom, hto⟩ := hcovers.window
    rw [hstored] at hstored'
    rw [hrequested] at hrequested'
    cases hstored'
    cases hrequested'
    exact ⟨hcovers.forSource, hcovers.chain, hfrom, hto⟩
  · rintro ⟨hsource, hchain, hfrom, hto⟩
    exact ⟨hwallet, hsource, hdepth, hlimit, htoken, hchain,
      ⟨stored, requested, hstored, hrequested, hfrom, hto⟩⟩

/-! ### A report that is asked for twice -/

/-- A call for the inbound transactions of one wallet. -/
def sampleCall (chain fromDate toDate : String) : Call where
  self :=
    { walletAddress := "0x00000000000000000000000000000000000000aa"
      sourceDepth := some 3
      distributionDepth := some 3
      transactionLimit := some 1000
      fromDate := fromDate
      toDate := toDate
      tokenAddress := some "0x0000000000000000000000000000000000000000"
      forceLookup := false
      chain := chain }
  limit := 10000
  saveToDb := true
  forSource := true

/-- Services that have a transfer for every request. -/
def sampleServices : Services where
  tracer := fun _ => .transactions [⟨1, "0xf1", "0xa1", "0xb1", none, none, none, none,
    [("amount", .int 1), ("tx_time", .str "2023-06-15T00:00:00Z")]⟩]
  bitquery := sampleUpstream .eth fun _ _ _ => some [samplePayment 1]
  bitqueryWithoutToken := sampleUpstream .eth fun _ _ _ => some [samplePayment 1]
  nesting := 1

/-- A month is asked for and then the year around it, each with an answer of the services. -/
def sampleActions : List Action :=
  [.look (sampleCall "ETH" "2023-06-01" "2023-06-30") 0, .finish 0 sampleServices false,
    .look (sampleCall "ETH" "2023-01-01" "2023-12-31") 1, .finish 0 sampleServices false]

theorem sound_of_run_sampleActions :
    ∃ s, Run step State.initial sampleActions s ∧ Sound s.history ∧ ∀ cls, s.table cls = [] := by
  have hexec : (exec step State.initial sampleActions).isSome = true := by decide +kernel
  obtain ⟨s, hs⟩ := Option.isSome_iff_exists.mp hexec
  exact ⟨s, run_of_exec hs, sound_of_run (run_of_exec hs)⟩

end CatvService.FetchResults
