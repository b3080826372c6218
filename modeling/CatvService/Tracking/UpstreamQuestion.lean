import CatvService.Pipeline.Coinpath
import CatvService.Tracer.Requests
import CatvService.Validation.PublicQuery

/-!
# What the report route asks upstream

`TrackingResults.fetch_results` of `api/catvutils/tracking_results.py` and `catv_query` of
`api/api_views.py` both ask through `CoinpathAPIInterface.get_transactions`, with its eight
arguments given by position.

The two calls do not agree on the positions.  That of the report has the end of the window where the
chain belongs, the token where the window begins, the direction where it ends, and the chain where
the token belongs; the end of a window is no chain (`chainOf_tillDateExtend`), so nothing is asked
at all.
-/

namespace CatvService.UpstreamQuestion

open Dates GraphQL PyText PyValue Tracer Validation

/-! ## The arguments -/

/-- A value that one of the routes passes. -/
inductive Arg where
  | none
  | flag (b : Bool)
  | number (z : ℤ)
  | text (s : String)
  deriving DecidableEq

namespace Arg

def toJson : Arg → Json
  | .none => .null
  | .flag b => .bool b
  | .number z => .int z
  | .text s => .str s

/-- `str(arg)`. -/
def print : Arg → String
  | .none => "None"
  | .flag b => if b then "True" else "False"
  | .number z => toString z
  | .text s => s

/-- A parameter that may be missing. -/
def ofOption : Option String → Arg
  | .none => .none
  | .some s => .text s

end Arg

/-- The chains with a template. -/
def namedChains : List Chain :=
  [.eth, .klay, .bsc, .ftm, .pol, .avax, .btc, .bch, .ltc, .doge, .zec, .dash, .xrp, .xlm, .bnb,
    .trx, .eos, .ada, .lunc]

/-- The chain that an argument is taken for; nothing but a text prints as a code. -/
def chainOf (chain : Arg) : Chain :=
  (namedChains.find? fun named => decide (named.code = chain.print)).getD (.other chain.print)

/-! ## The question -/

/-- What a call of `get_transactions` asks: the request to Tracer, if Tracer is asked, and the first
query to Bitquery, if one can be formed; it is sent where Tracer is not asked or has nothing. -/
@[ext] structure Question where
  tracer : Option TraceRequest
  bitquery : Option Query

/-- `GraphQLInterface(chain, source, depth_limit, till_time, limit)`. -/
def interfaceOf (limit depthLimit source chain tillTime : Arg) : Except PyErr GraphQLInterface := do
  let depth ← depthLimit.toJson.toInt
  let limit ← limit.toJson.toInt
  return {
    chain := chainOf chain
    source := source.toJson.truthy
    originalDepth := depth
    originalLimit := limit
    tillTime := tillTimeOf tillTime.print }

/-- The first query of `call_graphql_endpoint(address, token_address, from_time, 0)`. -/
def firstQuery (self : GraphQLInterface) (randomSeconds : ℕ)
    (address tokenAddress fromTime : Json) :
    Option Query :=
  if 0 ≥ self.originalDepth then none
  else graphqlQueryBuilder self (Session.start self) randomSeconds address tokenAddress fromTime

/-- `CoinpathAPIInterface().get_transactions(address, limit, depth_limit, source, chain, from_time,
till_time, token_address)`, as far as what is asked. -/
def getTransactions (randomSeconds : ℕ)
    (address limit depthLimit source chain fromTime tillTime tokenAddress : Arg) : Question where
  tracer :=
    if Pipeline.usesTracerFirst (chainOf chain) then
      (traceRequest {
        address := address.toJson
        depthLimit := depthLimit.toJson
        fromTime := fromTime.toJson
        tillTime := tillTime.print
        tokenAddress := tokenAddress.toJson
        source := source.toJson.truthy
        chain := chain.print
        isCkRequest := false }).toOption
    else none
  bitquery :=
    match interfaceOf limit depthLimit source chain tillTime with
    | .ok self =>
        firstQuery self randomSeconds address.toJson tokenAddress.toJson fromTime.toJson
    | .error _ => none

/-! ## The two routes -/

/-- What a user may ask for on either route.  The numbers come as texts in the parameters of the
API. -/
structure Values where
  walletAddress : String
  chain : Chain
  fromDate : String
  toDate : String
  tokenAddress : Option String
  depth : ℤ
  depthParam : String
  limit : ℤ
  limitParam : String
  forSource : Bool
  hasTemplate : chain.template?.isSome = true
  fromDay : ∃ day, strptimeDay fromDate = .ok day
  toDay : ∃ day, strptimeDay toDate = .ok day
  depthParam_reads : parseInt depthParam = some depth
  limitParam_reads : parseInt limitParam = some limit

/-- `till_date_extend`. -/
def tillDateExtend (toDate : String) : String :=
  toDate ++ "T23:59:59"

/-- `get_results_from_bloxy`, up to the answer. -/
def getResultsFromBloxy (values : Values) (randomSeconds : ℕ) : Question :=
  getTransactions randomSeconds (.text values.walletAddress) (.number values.limit)
    (.number values.depth) (.text values.fromDate) (.text (tillDateExtend values.toDate))
    (Arg.ofOption values.tokenAddress) (.flag values.forSource) (.text values.chain.code)

/-- `fetch_results`, where it asks upstream. -/
def fetchResults (values : Values) (randomSeconds : ℕ) : Except PyErr Question := do
  let _ ← strptimeDay values.fromDate
  let _ ← strptimeDay values.toDate
  return getResultsFromBloxy values randomSeconds

/-- `catv_query`, up to the answer; its route is `inbound` or `outbound`. -/
def catvQuery (values : Values) (randomSeconds : ℕ) : Question :=
  getTransactions randomSeconds (.text values.walletAddress) (.text values.limitParam)
    (.text values.depthParam) (.flag values.forSource) (.text values.chain.code)
    (.text values.fromDate) (.text values.toDate)
    (Arg.ofOption (getToken values.chain values.tokenAddress))

/-- Both routes ask the same. -/
def AsksSameQuestion (values : Values) (randint : Fin 59) : Prop :=
  fetchResults values (randint.val + 1) = .ok (catvQuery values (randint.val + 1))

/-! ## What the report asks -/

variable {values : Values} {self : GraphQLInterface} {randomSeconds : ℕ}

theorem chainOf_of_long {s : String} (hlong : 4 < s.length) : chainOf (.text s) = .other s := by
  have hshort : ∀ named ∈ namedChains, named.code.length ≤ 4 := by decide
  -- all named chains have codes of at most four characters
  have hnone : namedChains.find? (fun named => decide (named.code = s)) = none := by
    refine List.find?_eq_none.mpr fun named hnamed hcode => ?_
    have hle := hshort named hnamed
    rw [of_decide_eq_true hcode] at hle
    omega
  show (namedChains.find? fun named => decide (named.code = s)).getD (.other s) = .other s
  rw [hnone]
  rfl

theorem chainOf_tillDateExtend (toDate : String) :
    chainOf (.text (tillDateExtend toDate)) = .other (tillDateExtend toDate) := by
  refine chainOf_of_long ?_
  have hlength : "T23:59:59".length = 9 := by decide
  rw [tillDateExtend, String.length_append, hlength]
  omega

theorem firstQuery_of_template?_eq_none (hnone : self.chain.template? = none)
    (address tokenAddress fromTime : Json) :
    firstQuery self randomSeconds address tokenAddress fromTime = none := by
  unfold firstQuery
  split
  · rfl
  · cases hbuild : graphqlQueryBuilder self (Session.start self) randomSeconds address tokenAddress
      fromTime with
    | none => rfl
    | some query =>
        have htemplate := (graphqlQueryBuilder_eq_some hbuild).1
        rw [hnone] at htemplate
        cases htemplate

/-- A call without a first query comes back empty-handed, and nothing has been sent. -/
theorem callFromStart_of_firstQuery (upstream : Upstream) (fuel : ℕ)
    {address tokenAddress fromTime : Json}
    (hnone :
      firstQuery self ((upstream.randint [] 0).val + 1) address tokenAddress fromTime = none) :
    callFromStart upstream self (fuel + 1) address tokenAddress fromTime =
      some (.list [], Session.start self) := by
  unfold firstQuery at hnone
  rw [callFromStart_succ]
  split at hnone
  · rename_i hdepth
    rw [if_pos hdepth]
  · rename_i hdepth
    have hattempt : ∀ endpoint, attempt upstream self endpoint []
        ⟨address, tokenAddress, fromTime, 0⟩ 0 self.originalDepth self.originalLimit
        (Session.start self) = .returned (some (.list [], Session.start self)) := by
      intro endpoint
      have hbuild : graphqlQueryBuilder self (upstream.found [] (0 + 1)
          ((Session.start self).bound self.originalDepth self.originalLimit))
          ((upstream.randint [] 0).val + 1) address tokenAddress fromTime = none := hnone
      unfold attempt
      dsimp only
      rw [hbuild]
      rfl
    rw [if_neg hdepth]
    unfold attempts
    rw [hattempt]

/-- A call that has the end of a window in the place of the chain asks nothing. -/
theorem getTransactions_tillDateExtend (randomSeconds : ℕ)
    (address limit depthLimit source : Arg) (toDate : String)
    (fromTime tillTime tokenAddress : Arg) :
    getTransactions randomSeconds address limit depthLimit source (.text (tillDateExtend toDate))
      fromTime tillTime tokenAddress = ⟨none, none⟩ := by
  -- the end of a window is longer than the one other name that Tracer serves first
  have hlong : tillDateExtend toDate ≠ "ETC" := by
    intro heq
    have hlength := congrArg String.length heq
    have hnine : "T23:59:59".length = 9 := by decide
    have hthree : "ETC".length = 3 := by decide
    rw [tillDateExtend, String.length_append, hnine, hthree] at hlength
    omega
  unfold getTransactions
  rw [chainOf_tillDateExtend]
  congr 1
  -- Tracer does not serve the end of a window, and no template is known for it
  · rw [if_neg]
    simpa [Pipeline.usesTracerFirst] using hlong
  · split
    · rename_i self hself
      refine firstQuery_of_template?_eq_none ?_ _ _ _
      obtain ⟨depth, -, hself⟩ := bind_eq_ok_iff.mp hself
      obtain ⟨limit, -, hself⟩ := bind_eq_ok_iff.mp hself
      cases hself
      show (chainOf (.text (tillDateExtend toDate))).template? = none
      rw [chainOf_tillDateExtend]
      rfl
    · rfl

/-- **The report asks nothing.** -/
theorem fetchResults_eq (values : Values) (randomSeconds : ℕ) :
    fetchResults values randomSeconds = .ok ⟨none, none⟩ := by
  obtain ⟨fromDay, hfrom⟩ := values.fromDay
  obtain ⟨toDay, hto⟩ := values.toDay
  have hquestion : getResultsFromBloxy values randomSeconds = ⟨none, none⟩ :=
    getTransactions_tillDateExtend _ _ _ _ _ values.toDate _ _ _
  unfold fetchResults
  rw [hfrom, hto, hquestion]
  rfl

/-! ## What the API asks -/

theorem chainOf_code {chain : Chain} (htemplate : chain.template?.isSome = true) :
    chainOf (.text chain.code) = chain := by
  cases chain with
  | other code => cases htemplate
  | _ => decide

/-- The interface that a call for the values is made with. -/
def apiInterface (values : Values) : GraphQLInterface where
  chain := values.chain
  source := values.forSource
  originalDepth := values.depth
  originalLimit := values.limit
  tillTime := tillTimeOf values.toDate

theorem interfaceOf_values (values : Values) :
    interfaceOf (.text values.limitParam) (.text values.depthParam) (.flag values.forSource)
      (.text values.chain.code) (.text values.toDate) = .ok (apiInterface values) := by
  unfold interfaceOf
  rw [chainOf_code values.hasTemplate]
  simp only [Arg.toJson, Json.toInt, values.depthParam_reads, values.limitParam_reads]
  rfl

theorem tracer_catvQuery_eq_none_iff :
    (catvQuery values randomSeconds).tracer = none ↔
      Pipeline.usesTracerFirst values.chain = false := by
  unfold catvQuery getTransactions
  rw [chainOf_code values.hasTemplate]
  cases hfirst : Pipeline.usesTracerFirst values.chain with
  | false => simp
  | true =>
      have hstart : ∃ start, startDatetime (.str values.fromDate) = .ok start := by
        unfold startDatetime
        split
        · exact ⟨_, rfl⟩
        · exact ⟨_, rfl⟩
      obtain ⟨start, hstart⟩ := hstart
      simp [traceRequest, Arg.toJson, hstart, bind, Except.bind, pure, Except.pure,
        Except.toOption]

/-- Bitquery can be asked whenever there is a depth to ask for. -/
theorem bitquery_catvQuery_eq_none_iff (hseconds : randomSeconds < 60) :
    (catvQuery values randomSeconds).bitquery = none ↔ values.depth ≤ 0 := by
  obtain ⟨day, hday⟩ := values.fromDay
  obtain ⟨fromTime, hfromTime⟩ := exists_validateDate hday hseconds
  obtain ⟨template, htemplate⟩ := Option.isSome_iff_exists.mp values.hasTemplate
  unfold catvQuery getTransactions
  rw [interfaceOf_values]
  show firstQuery (apiInterface values) randomSeconds _ _ (.str values.fromDate) = none ↔ _
  unfold firstQuery
  by_cases hdepth : values.depth ≤ 0
  -- the guard compares the offset of the first call, zero, with the depth
  · rw [if_pos (show 0 ≥ (apiInterface values).originalDepth from hdepth)]
    exact ⟨fun _ => hdepth, fun _ => rfl⟩
  · rw [if_neg (show ¬ 0 ≥ (apiInterface values).originalDepth from hdepth)]
    have hchain : (apiInterface values).chain.template? = some template := htemplate
    obtain ⟨query, hquery⟩ := exists_query hchain hfromTime (Session.start (apiInterface values))
      (Arg.text values.walletAddress).toJson
      (Arg.ofOption (getToken values.chain values.tokenAddress)).toJson
    rw [hquery]
    exact ⟨nofun, fun hle => absurd hle hdepth⟩

/-- **The two routes ask the same exactly when neither asks anything: Tracer is not asked on the
chain, and there is no depth to ask Bitquery for.** -/
theorem asksSameQuestion_iff (values : Values) (randint : Fin 59) :
    AsksSameQuestion values randint ↔
      Pipeline.usesTracerFirst values.chain = false ∧ values.depth ≤ 0 := by
  have hseconds : randint.val + 1 < 60 := by omega
  have htracer : (catvQuery values (randint.val + 1)).tracer = none ↔ _ :=
    tracer_catvQuery_eq_none_iff
  unfold AsksSameQuestion
  rw [fetchResults_eq, ← htracer, ← bitquery_catvQuery_eq_none_iff hseconds, Except.ok.injEq]
  constructor
  · intro hsame
    rw [← hsame]
    exact ⟨rfl, rfl⟩
  · intro hnone
    exact Question.ext hnone.1.symm hnone.2.symm

/-! ### A report on an Ethereum wallet -/

/-- Two hops out of a wallet in 2023. -/
def sampleValues : Values where
  walletAddress := sampleAddress
  chain := .eth
  fromDate := "2023-01-01"
  toDate := "2023-12-31"
  tokenAddress := none
  depth := 2
  depthParam := "2"
  limit := 10000
  limitParam := "10000"
  forSource := false
  hasTemplate := rfl
  fromDay := ⟨_, rfl⟩
  toDay := ⟨_, rfl⟩
  depthParam_reads := by decide +kernel
  limitParam_reads := by decide +kernel

/-- The API asks Tracer for the wallet, and the report asks nothing. -/
theorem not_asksSameQuestion_sampleValues :
    fetchResults sampleValues 1 = .ok ⟨none, none⟩ ∧
      ((catvQuery sampleValues 1).tracer.map TraceRequest.endpoint) = some "trace-outbound" ∧
      ¬ AsksSameQuestion sampleValues 0 := by
  have hreport := fetchResults_eq sampleValues 1
  have hapi : ((catvQuery sampleValues 1).tracer.map TraceRequest.endpoint) =
      some "trace-outbound" := rfl
  refine ⟨hreport, hapi, fun hsame => ?_⟩
  have hnone : fetchResults sampleValues 1 = .ok (catvQuery sampleValues 1) := hsame
  rw [hreport] at hnone
  rw [← Except.ok.inj hnone] at hapi
  cases hapi

end CatvService.UpstreamQuestion
