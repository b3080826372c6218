import CatvService.Pipeline.Coinpath
import CatvService.Pipeline.ExchangeFilter

/-!
# The ck query

`ck_query` asks for the outgoing transfers of an address, and for the incoming ones as well if the
victim is treated as a DEX, annotates both lists, cuts them off at exchanges and joins them.  All
calls go through one `CoinpathAPIInterface`, so `api_used` says whether any of them used Tracer.

The lists are dictionaries that the functions write to; here every function returns them anew.
-/

namespace CatvService.Pipeline

open PyValue PyText Dictionary GraphQL Search

/-! ## The request -/

/-- `request.GET`. -/
structure Request where
  address : String
  threatAddress : Option String
  querySource : Option String
  /-- `json.loads(params.get('txn_hashes', '[]'))`. -/
  txnHashes : Except PyErr (List String)
  limit : String
  depthLimit : String
  fromDate : String
  tillDate : String
  token : Option String

/-- `get_bool_param(params, key)`. -/
def getBoolParam (value : Option String) : Bool :=
  match value with
  | none => false
  | some s => decide (lower s = "true")

/-- `params['txn_hashes']`. -/
def Request.hashes (request : Request) : Except PyErr (List String) := do
  let txnHashes ← request.txnHashes
  return if txnHashes = ["not_available"] then [] else txnHashes

/-- `Constants.CATV_API["UTXO_CHAINS"]`. -/
def utxoChains : List String :=
  ["BTC", "LTC", "BCH", "ADA", "DASH", "DOGE", "ZEC"]

/-- `_get_token(chain, params)`.  The quorum chains only rename the parameter. -/
def getToken (chain : Chain) (request : Request) : Option String :=
  if upper chain.code ∈ utxoChains then none else request.token

/-- `is_eth_based_wallet(pattern_subtype)`. -/
def isEthBasedWallet (patternSubtype : String) : Bool :=
  decide (patternSubtype ∈ [
    "ETH", "BSC", "KLAY", "FTM", "POL", "ETC", "AVAX",
    "ARB", "ARBNOVA", "OP", "BASE", "LINEA", "BLAST", "SCROLL",
    "MANTLE", "OPBNB", "BTT", "CELO", "FRAXTAL", "GNOSIS", "MEMECORE",
    "MOONBEAM", "MOONRIVER", "TAIKO", "XDC", "APECHAIN", "WORLD", "SONIC",
    "UNICHAIN", "ABSTRACT", "BERACHAIN", "SWELLCHAIN", "MONAD", "HYPEREVM",
    "KATANA", "SEI", "STABLE", "PLASMA"])

/-! ## What lies outside -/

/-- The arguments of a call of `get_transactions`. -/
structure Call where
  address : String
  limit : String
  depthLimit : Json
  source : Bool
  chain : Chain
  fromDate : String
  tillDate : String
  token : Option String

/-- An entry of `annotation_dict`. -/
structure Details where
  annotation : String
  securityCategory : Json

/-- What the services and libraries answer during a query. -/
structure Environment where
  checkIfVictimDex : String → Bool
  answers : Call → Answers
  toChecksumAddress : String → Except PyErr String
  /-- The addresses come as a list in the order of a set. -/
  fetchAnnotations : Finset String → Chain → Except PyErr (Entries String Details)

variable (env : Environment) (request : Request) (chain : Chain)

/-- `is_victim_dex`. -/
def isVictimDex : Bool :=
  if getBoolParam request.querySource then true else env.checkIfVictimDex request.address

/-! ## `fetch_transactions` -/

/-- The threat address, if one is given. -/
def Request.threat? (request : Request) : Option String :=
  match request.threatAddress with
  | none => none
  | some threat => if threat ≠ "" ∧ threat ≠ "not_available" then some threat else none

/-- `determine_address_to_use`: the address and its depths as source and as destination. -/
def determineAddressToUse (isVictimDex : Bool) : String × Json × Json :=
  match isVictimDex, request.threat? with
  | true, some threat => (threat, .int 1, .int 5)
  | _, _ => (request.address, .int 2, .str request.depthLimit)

/-- The arguments that `fetch_transactions` gives to a call. -/
def callFor (address : String) (depthLimit : Json) (source : Bool) : Call where
  address := address
  limit := request.limit
  depthLimit := depthLimit
  source := source
  chain := chain
  fromDate := request.fromDate
  tillDate := request.tillDate
  token := getToken chain request

/-- A call through `coinpath`, which is made with `is_ck_request`. -/
def serve (call : Call) : Served :=
  getTransactions call.chain true call.source (env.answers call)

/-- `item["depth"] = -1 * item["depth"]`. -/
def negateDepth (item : Row) : Row :=
  { item with depth := -1 * item.depth }

/-- `fetch_transactions_with_source`, after both calls. -/
def fetchTransactionsWithSource (dist src : Fetched) : Except PyErr (Fetched × List Row) :=
  match dist with
  | .unusable => .error .typeError
  | .errors _ => .ok (dist, [])
  | .rows _ | .empty =>
      match src with
      | .unusable => .error .typeError
      | .errors _ | .empty => .ok (dist, [])
      | .rows rows => .ok (dist, rows.map negateDepth)

/-- The test of `filtered_src`, of a sender. -/
def isVictimAddress (sender : String) : Bool :=
  if isEthBasedWallet chain.code then decide (lower sender = lower request.address)
  else decide (sender = request.address)

/-- What `fetch_transactions` returns, and whether `api_used` is `tracer` afterwards. -/
structure Transactions where
  dist : Fetched
  src : List Row
  usedTracer : Bool

/-- `fetch_transactions`. -/
def fetchTransactions (isVictimDex : Bool) : Except PyErr Transactions := do
  let (address, sourceDepth, distDepth) := determineAddressToUse request isVictimDex
  let dist := serve env (callFor request chain address distDepth false)
  if isVictimDex then
    let src := serve env (callFor request chain address sourceDepth true)
    let (distRes, sourceRes) ← fetchTransactionsWithSource dist.fetched src.fetched
    let filteredSrc := sourceRes.filter fun tx => isVictimAddress request chain tx.sender
    return ⟨distRes, filteredSrc, dist.usedTracer || src.usedTracer⟩
  else return ⟨dist.fetched, [], dist.usedTracer⟩

/-! ## Annotations -/

/-- `Web3.to_checksum_address(address)` on the chains that have checksums. -/
def checksumAddress (address : String) : Except PyErr String :=
  if isEthBasedWallet (upper chain.code) then env.toChecksumAddress address else .ok address

/-- `create_address_list`. -/
def createAddressList (bloxyRes : List Row) : Except PyErr (Finset String) := do
  let senders ← bloxyRes.mapM fun a => checksumAddress env chain a.sender
  let receivers ← bloxyRes.mapM fun a => checksumAddress env chain a.receiver
  return (senders ++ receivers).toFinset

/-- `annotation_dict`. -/
def annotationDict (usedTracer : Bool) (addrList : Finset String) :
    Except PyErr (Entries String Details) :=
  if usedTracer then .ok [] else env.fetchAnnotations addrList chain

/-- `annotation_dict.get(address.lower(), {"annotation": "", "security_category": ""})`. -/
def detailsOf (annotationDict : Entries String Details) (address : String) : Details :=
  (Entries.get? (lower address) annotationDict).getD ⟨"", .str ""⟩

/-- The annotation of one end: the type stands in for it if it is a DEX.  The type is read only
where there is no annotation. -/
def endAnnotation (typeKey : String) (details : Details) (type : Option String) :
    Except PyErr String :=
  if details.annotation = "" then
    match type with
    | none => .error (.keyError typeKey)
    | some type => if lower type = "dex" then .ok type else .ok ""
  else .ok details.annotation

/-- The loop body of `annotate_transactions`. -/
def annotateTransaction (annotationDict : Entries String Details) (d : Row) : Except PyErr Row := do
  let senderDetails := detailsOf annotationDict d.sender
  let receiverDetails := detailsOf annotationDict d.receiver
  let senderAnnotation ← endAnnotation "sender_type" senderDetails d.senderType
  let receiverAnnotation ← endAnnotation "receiver_type" receiverDetails d.receiverType
  return { d with
    senderAnnotation := some senderAnnotation
    receiverAnnotation := some receiverAnnotation
    rest := Entries.set "receiver_security_category" receiverDetails.securityCategory
      (Entries.set "sender_security_category" senderDetails.securityCategory d.rest) }

/-- `annotate_transactions`, where Tracer was not used. -/
def annotated (usedTracer : Bool) (annotationDict : Entries String Details)
    (transactions : List Row) : Except PyErr (List Row) :=
  if usedTracer then .ok transactions else transactions.mapM (annotateTransaction annotationDict)

/-- The sign of the depth that a direction lets through. -/
def inDirection (direction : Direction) (tx : Row) : Bool :=
  match direction with
  | .inbound => decide (tx.depth < 0)
  | .outbound => decide (1 ≤ tx.depth)

/-- `annotate_and_filter_transactions`. -/
def annotateAndFilterTransactions (usedTracer : Bool) (annotationDict : Entries String Details)
    (transactions : List Row) (direction : Direction) : Except PyErr (List Row) := do
  let annotated ← annotated usedTracer annotationDict transactions
  return filterExchangeTransactions (annotated.filter (inDirection direction)) direction

/-! ## `filter_transaction_path` -/

/-- `txns_to_add` after both loops.  Every row with one of the hashes is searched from: its outer
end was put into `address_to_skip` before. -/
def txnsToAdd (direction : Direction) (txns : List Row) (txHashes : List String) (victim : String) :
    Finset String :=
  let listed := txns.filter fun txn => decide (txn.txHash ∈ txHashes)
  (visitAll (graphOf direction txns) (txns.length + 1) (listed.map direction.outer)
    ⟨{victim}, (listed.map Row.txHash).toFinset⟩).labels

/-- `filter_transaction_path(txns, direction, tx_hashes, victim_address)`. -/
def filterTransactionPath (txns : List Row) (direction : Direction) (txHashes : List String)
    (victim : String) : List Row :=
  let add := txnsToAdd direction txns txHashes victim
  txns.filter fun txn => decide (txn.txHash ∈ add)

/-! ## `ck_query` -/

/-- `extract_error_type`. -/
def extractErrorType (message : Json) : Except PyErr String := do
  if ← textIn "ActiveRecord::ActiveRecordError" message then return "MemoryLimitExceeded"
  if ← textIn "Net::ReadTimeout" message then return "ReadTimeout"
  if ← textIn "It is not possible to execute 2 simultaneous requests" message then
    return "ConcurrencyLimitExceeded"
  if ← textIn "Bitquery request timed out" message then return "BitqueryRequestTimedOut"
  if ← textIn "Ck Transactions limit exceeded" message then return "CkTransactionsLimitExceeded"
  return "UnknownError"

/-- `build_error_response`, of what `bitquery_res['errors']` is. -/
def buildErrorResponse (errors : Json) : Except PyErr Json := do
  let details ← firstError errors
  let message ← details.item "message"
  let errorType ← extractErrorType message
  return .dict [("error", .dict [
    ("type", .str errorType),
    ("message", message),
    ("query_id", (← details.get "query_id").getD (.str "")),
    ("path", (← details.get "path").getD (.list []))])]

/-- What `ck_query` returns. -/
inductive CkResult where
  | rows (rows : List Row)
  /-- The response of `handle_bloxy_errors`, with status 502. -/
  | errorResponse (body : Json)
  /-- `False`. -/
  | failed

/-- The depths of `filtered_src_txns` and `filtered_dist_txns` if the victim is a DEX. -/
def offsetDepths (isVictimDex : Bool) (src dist : List Row) : List Row :=
  if isVictimDex then
    src.map negateDepth ++ dist.map fun item => { item with depth := item.depth + 1 }
  else src ++ dist

/-- `ck_query` from `all_transactions` on. -/
def processTransactions (isVictimDex usedTracer : Bool) (txnHashes : List String)
    (src dist : List Row) : Except PyErr (List Row) :=
  if (src ++ dist).isEmpty then .ok []
  else do
    let addrList ← createAddressList env chain (src ++ dist)
    let annotationDict ← annotationDict env chain usedTracer addrList
    let filteredDist ← annotateAndFilterTransactions usedTracer annotationDict dist .outbound
    let filteredSrc ← annotateAndFilterTransactions usedTracer annotationDict src .inbound
    let bloxyRes := offsetDepths isVictimDex filteredSrc filteredDist
    return if txnHashes.isEmpty then bloxyRes
      else filterTransactionPath bloxyRes .outbound txnHashes request.address

/-- The body of `ck_query`. -/
def ckQueryBody : Except PyErr CkResult := do
  let txnHashes ← request.hashes
  let isVictimDex := isVictimDex env request
  let transactions ← fetchTransactions env request chain isVictimDex
  match transactions.dist with
  | .rows dist =>
      return .rows (← processTransactions env request chain isVictimDex transactions.usedTracer
        txnHashes transactions.src dist)
  | .errors errors =>
      let errors ← errors
      if errors.truthy then return .errorResponse (← buildErrorResponse errors)
      else throw .typeError
  | .empty | .unusable => throw .typeError

/-- `ck_query(request, chain)`. -/
def ckQuery : CkResult :=
  match ckQueryBody env request chain with
  | .ok result => result
  | .error _ => .failed

end CatvService.Pipeline
