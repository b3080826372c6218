import CatvService.GraphQL.Endpoint
import CatvService.Pipeline.Row

/-!
# The coinpath interface

`CoinpathAPIInterface.get_transactions` serves a call from Tracer on some chains and from Bitquery
otherwise, or where Tracer has nothing or fails.  The two upstreams give the depth of an inbound row
different signs: `_process_response` negates it, `flatten_node` does not.

A row of either upstream is a `Row` here.  `Row.rest` holds the keys that only one of them sends; a
row of Bitquery whose fields are no texts is not usable, and neither is a document in place of rows
(`Fetched.unusable`): what the caller does with it raises.
-/

namespace CatvService.Pipeline

open PyValue Dictionary GraphQL

/-! ## Tracer -/

/-- `unwanted_fields` of `_process_response`. -/
def unwantedFields : List String :=
  ["chain_id", "block_height", "direction", "original_value", "tracked_value", "pending_value",
    "receiver_sender_type"]

/-- What the loop of `_process_response` makes of a transaction: the offset is added to the depth,
which is negated for inbound rows. -/
def processTransaction (source : Bool) (depth : ℤ) (transaction : Row) : Row :=
  let offset := transaction.depth + depth
  { transaction with
    depth := if source then -offset else offset
    rest := transaction.rest.filter fun entry => decide (entry.1 ∉ unwantedFields) }

/-- `transaction.get('is_swap') and transaction.get('swap_info')`. -/
def isSwapTransaction (transaction : Row) : Bool :=
  ((Entries.get? "is_swap" transaction.rest).getD .null).truthy &&
    ((Entries.get? "swap_info" transaction.rest).getD .null).truthy

/-- `_process_response(response_data, source, depth, is_ck_request)`.  What each swap comes to is
given; `none` is the `None` of `_get_tx_with_swaps`. -/
def processResponse (swapOutcome : Row → Pool.Outcome Row) (transactions : List Row) (source : Bool)
    (depth : ℤ) (isCkRequest : Bool) : Option (List Row) :=
  let processed := transactions.map (processTransaction source depth)
  if isCkRequest then
    Pool.gather processed ((processed.filter isSwapTransaction).map swapOutcome)
  else some processed

/-- What the request to Tracer comes to. -/
inductive TracerReply where
  | raised
  | transactions (transactions : List Row)

/-- `should_use_tracer_first`. -/
def usesTracerFirst (chain : Chain) : Bool :=
  decide (chain ∈ [.eth, .bsc, .ftm, .pol, .other "ETC", .trx, .btc, .klay])

/-- `tx["tx_time"].replace("Z", "+00:00")`. -/
def offsetTime (v : Json) : Except PyErr Json :=
  match v with
  | .str s => .ok (.str (String.ofList
      (s.toList.flatMap fun c => if c = 'Z' then "+00:00".toList else [c])))
  | _ => .error .attributeError

/-- `transformed_tx["token"]`. -/
def tokenAddress (rest : Obj) : Except PyErr Json :=
  match Entries.get? "token" rest with
  | none => .ok (.str "")
  | some .null => .ok (.str "")
  | some token => token.item "address"

/-- `transform_transaction_data`, for one transaction: it writes keys that only Tracer sends. -/
def transformTransaction (tx : Row) : Except PyErr Row := do
  let amount ← (← (Json.dict tx.rest).item "amount").toFloat
  let token ← tokenAddress tx.rest
  let txTime ← offsetTime (← (Json.dict tx.rest).item "tx_time")
  return { tx with
    rest := Entries.set "tx_time" txTime
      (Entries.set "token" token (Entries.set "amount" (.float amount) tx.rest)) }

/-! ## Bitquery -/

/-- A field that must be a text. -/
def textOf (v : Json) : Option String :=
  match v with
  | .str s => some s
  | _ => none

/-- A key that some chains do not send: absent, or a text. -/
def typeOf (key : String) (rest : Obj) : Option (Option String) :=
  match Entries.get? key rest with
  | none => some none
  | some v => (textOf v).map some

/-- The flat row with its texts, and `none` if one of them is no text. -/
def rowOfFlat (flat : FlatRow) : Option Row := do
  return {
    depth := flat.depth
    txHash := ← textOf flat.txHash
    sender := ← textOf flat.sender
    receiver := ← textOf flat.receiver
    senderAnnotation := some (← textOf flat.senderAnnotation)
    receiverAnnotation := some (← textOf flat.receiverAnnotation)
    senderType := ← typeOf "sender_type" flat.rest
    receiverType := ← typeOf "receiver_type" flat.rest
    rest := flat.rest }

/-- The same for an element of the list that `call_graphql_endpoint` returns. -/
def rowOfElement (element : Element) : Option Row :=
  match element with
  | .row flat => rowOfFlat flat
  | .raw _ => none

/-- The element is the text `errors`. -/
def isErrorsKey : Element → Bool
  | .raw (.str s) => decide (s = "errors")
  | _ => false

/-- What `get_transactions` returns. -/
inductive Fetched where
  | rows (rows : List Row)
  /-- `'errors' in bloxy_res`, with what `bloxy_res['errors']` comes to. -/
  | errors (errors : Except PyErr Json)
  /-- An empty document. -/
  | empty
  /-- Anything else: the first use of it raises, or the call itself did. -/
  | unusable

/-- The result of `call_graphql_endpoint` as its caller can use it.  The keys of a nested document
that were taken for rows may have left the text `errors` in a list. -/
def fetchedOf (result : CallResult) : Fetched :=
  match result with
  | .list elements =>
      if elements.any isErrorsKey then .errors (.error .typeError)
      else
        match elements.mapM rowOfElement with
        | some rows => .rows rows
        | none => .unusable
  | .other (.dict entries) =>
      match Entries.get? "errors" entries with
      | some errors => .errors (.ok errors)
      | none => if entries.isEmpty then .empty else .unusable
  | .other (.str s) =>
      if PyText.contains "errors" s then .errors (.error .typeError)
      else if s = "" then .empty
      else .unusable
  | .other _ => .unusable
  | .raised => .unusable

/-- `errors[0]`. -/
def firstError (errors : Json) : Except PyErr Json :=
  match errors with
  | .str s =>
      match s.toList with
      | [] => .error .indexError
      | c :: _ => .ok (.str (String.singleton c))
  | _ => errors.index 0

/-- `text in v`. -/
def textIn (text : String) (v : Json) : Except PyErr Bool :=
  match v with
  | .str s => .ok (PyText.contains text s)
  | .list items => .ok (items.any fun item => item.eq (.str text))
  | .dict entries => .ok (Entries.get? text entries).isSome
  | _ => .error .typeError

/-- The message of the first error: `none` if `'message' in results['errors'][0]` is false. -/
def errorMessage (errors : Json) : Except PyErr (Option Json) := do
  let first ← firstError errors
  if ← textIn "message" first then
    return some (← first.item "message")
  else return none

/-- Whether the error says that the token was not found. -/
def retriesWithoutToken (errors : Json) : Except PyErr Bool := do
  if errors.truthy then
    match ← errorMessage errors with
    | some message => textIn "Failed to find token" message
    | none => return false
  else return false

/-- What `get_transactions` returns from Bitquery.  The call is repeated without the token if the
error says that it was not found. -/
def bitqueryFetched (first withoutToken : CallResult) : Fetched :=
  match fetchedOf first with
  | .errors (.ok errors) =>
      match retriesWithoutToken errors with
      | .ok true => fetchedOf withoutToken
      | .ok false => .errors (.ok errors)
      | .error _ => .unusable
  | .errors (.error _) => .unusable
  | fetched => fetched

/-! ## `get_transactions` -/

/-- What the upstreams answer to one call. -/
structure Answers where
  tracer : TracerReply
  swapOutcome : Row → Pool.Outcome Row
  bitquery : CallResult
  bitqueryWithoutToken : CallResult

/-- `transaction_data`: what `TracerAPIInterface.get_transactions` returns. -/
def tracerData (answers : Answers) (source isCkRequest : Bool) : Option (List Row) :=
  match answers.tracer with
  | .raised => none
  | .transactions transactions =>
      processResponse answers.swapOutcome transactions source 0 isCkRequest

/-- What `get_transactions` returns, and whether it sets `api_used` to `tracer`. -/
structure Served where
  fetched : Fetched
  usedTracer : Bool

/-- `CoinpathAPIInterface.get_transactions`. -/
def getTransactions (chain : Chain) (isCkRequest source : Bool) (answers : Answers) : Served :=
  let bitquery := bitqueryFetched answers.bitquery answers.bitqueryWithoutToken
  if usesTracerFirst chain then
    match tracerData answers source isCkRequest with
    | none => ⟨bitquery, false⟩
    | some [] => ⟨bitquery, false⟩
    | some (tx :: txs) =>
        -- `api_used` is set before the rows are transformed
        match (tx :: txs).mapM transformTransaction with
        | .ok rows => ⟨.rows (rows.filter fun row => decide (row.receiver ≠ "")), true⟩
        | .error _ => ⟨bitquery, true⟩
  else ⟨bitquery, false⟩

/-! ## Who served a call -/

variable {chain : Chain}

/-- The rows that a call gets from Tracer, `none` where Bitquery serves it. -/
def tracerServes (chain : Chain) (source : Bool) (answers : Answers) : Option (List Row) :=
  if usesTracerFirst chain then
    match tracerData answers source true with
    | some (tx :: txs) => ((tx :: txs).mapM transformTransaction).toOption
    | _ => none
  else none

/-- The transfers of a reply of Tracer. -/
def TracerReply.sent : TracerReply → List Row
  | .raised => []
  | .transactions txs => txs

/-- The rows that were fetched. -/
def Fetched.sent : Fetched → List Row
  | .rows txs => txs
  | _ => []

/-- The inbound transfers as the upstream that served the call sent them, with their raw depths. -/
def rawInbound (chain : Chain) (answers : Answers) : List Row :=
  match tracerServes chain true answers with
  | some _ => answers.tracer.sent
  | none => (bitqueryFetched answers.bitquery answers.bitqueryWithoutToken).sent

theorem tracerServes_eq_some_iff {source : Bool} {answers : Answers} {rows : List Row} :
    tracerServes chain source answers = some rows ↔
      usesTracerFirst chain = true ∧ ∃ tx txs, tracerData answers source true = some (tx :: txs) ∧
        (tx :: txs).mapM transformTransaction = .ok rows := by
  unfold tracerServes
  split
  · rename_i hfirst
    simp only [hfirst, true_and]
    split
    · rename_i tx txs hdata
      rw [hdata]
      have hsome : ((tx :: txs).mapM transformTransaction).toOption = some rows ↔
          (tx :: txs).mapM transformTransaction = .ok rows := by
        cases (tx :: txs).mapM transformTransaction with
        | error e => simp [Except.toOption]
        | ok results => simp [Except.toOption]
      rw [hsome]
      constructor
      · intro hmapM
        exact ⟨tx, txs, rfl, hmapM⟩
      · intro hserved
        obtain ⟨_, _, heq, hmapM⟩ := hserved
        obtain ⟨rfl, rfl⟩ := List.cons.inj (Option.some.inj heq)
        exact hmapM
    · rename_i hdata
      refine ⟨fun hfalse => (by cases hfalse), fun hserved => ?_⟩
      obtain ⟨tx, txs, heq, -⟩ := hserved
      exact absurd heq (hdata tx txs)
  · rename_i hfirst
    simp [hfirst]

theorem getTransactions_of_tracer {source : Bool} {answers : Answers} {rows : List Row}
    (hserves : tracerServes chain source answers = some rows) :
    getTransactions chain true source answers =
      ⟨.rows (rows.filter fun row => decide (row.receiver ≠ "")), true⟩ := by
  obtain ⟨hfirst, tx, txs, hdata, hmapM⟩ := tracerServes_eq_some_iff.mp hserves
  unfold getTransactions
  simp only [hfirst, if_true, hdata, hmapM]

/-- Everything else is fetched from Bitquery, also where Tracer was used and its rows could not be
transformed. -/
theorem getTransactions_of_bitquery {source : Bool} {answers : Answers}
    (hserves : tracerServes chain source answers = none) :
    (getTransactions chain true source answers).fetched =
      bitqueryFetched answers.bitquery answers.bitqueryWithoutToken := by
  unfold getTransactions
  split
  · rename_i hfirst
    split
    · rfl
    · rfl
    · rename_i tx txs hdata
      split
      · rename_i rows hmapM
        have hsome : tracerServes chain source answers = some rows :=
          tracerServes_eq_some_iff.mpr ⟨hfirst, tx, txs, hdata, hmapM⟩
        rw [hserves] at hsome
        cases hsome
      · rfl
  · rfl

/-- The rows that were appended when the swaps of an inbound reply of Tracer were followed. -/
def swapRows (answers : Answers) : List Row :=
  (((answers.tracer.sent.map (processTransaction true 0)).filter isSwapTransaction).map
    answers.swapOutcome).flatMap Pool.Outcome.toList

theorem tracerData_eq_some {answers : Answers} {data : List Row}
    (hdata : tracerData answers true true = some data) :
    data = answers.tracer.sent.map (processTransaction true 0) ++ swapRows answers := by
  unfold tracerData at hdata
  split at hdata
  · cases hdata
  · rename_i txs hreply
    simp only [processResponse, if_true] at hdata
    rw [(Pool.gather_eq_some_iff.mp hdata).2]
    simp only [swapRows, hreply, TracerReply.sent]

/-- What Tracer serves of an inbound call: its transfers with negated depths, then the rows of the
swaps, all of them transformed. -/
theorem tracerServes_eq_some {answers : Answers} {rows : List Row}
    (hserves : tracerServes chain true answers = some rows) :
    rows = (answers.tracer.sent.map (processTransaction true 0) ++ swapRows answers).map
      (settled transformTransaction) := by
  obtain ⟨-, tx, txs, hdata, hmapM⟩ := tracerServes_eq_some_iff.mp hserves
  have hall : tx :: txs = answers.tracer.sent.map (processTransaction true 0) ++ swapRows answers :=
    tracerData_eq_some hdata
  have hrows : (tx :: txs).map (settled transformTransaction) = rows := (mapM_eq_ok_iff.mp hmapM).2
  rw [← hrows, hall]

end CatvService.Pipeline
