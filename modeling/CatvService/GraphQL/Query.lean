import CatvService.Library.Dates

/-!
# Queries of the GraphQL interface

What `_graphql_query_builder` puts into a `coinpath` query.  `GraphQLInterface` holds what the
constructor fixes, `Session` the attributes that `call_graphql_endpoint` overwrites between
attempts.  Every template carries `depth: {lteq: $depth}`, so a query is kept as the parameters that
its template is filled with.
-/

namespace CatvService.GraphQL

open PyValue Dates

/-- `chain`: the codes of `CHAIN_TEMPLATE_MAPPING`, or another text. -/
inductive Chain where
  | eth
  | klay
  | bsc
  | ftm
  | pol
  | avax
  | btc
  | bch
  | ltc
  | doge
  | zec
  | dash
  | xrp
  | xlm
  | bnb
  | trx
  | eos
  | ada
  | lunc
  | other (code : String)
  deriving DecidableEq, Repr

/-- The keys of `CATV_QUERY_TEMPLATES`. -/
inductive TemplateKey where
  | ethereumLike
  | bitcoinLike
  | rippleStellar
  | binanceTron
  | eos
  | cardano
  | terra
  deriving DecidableEq, Repr

namespace Chain

/-- `CHAIN_TEMPLATE_MAPPING`. -/
def template? : Chain → Option TemplateKey
  | .eth | .klay | .bsc | .ftm | .pol | .avax => some .ethereumLike
  | .btc | .bch | .ltc | .doge | .zec | .dash => some .bitcoinLike
  | .xrp | .xlm => some .rippleStellar
  | .bnb | .trx => some .binanceTron
  | .eos => some .eos
  | .ada => some .cardano
  | .lunc => some .terra
  | .other _ => none

/-- `NETWORK_CHAIN_MAPPING_FOR_QUERY`. -/
def networkForQuery? : Chain → Option String
  | .lunc => some "terra"
  | .klay => some "klaytn"
  | .bsc => some "bsc"
  | .bnb => some "binance"
  | .trx => some "tron"
  | .eos => some "eos"
  | .xlm => some "stellar"
  | .xrp => some "ripple"
  | .ltc => some "litecoin"
  | .bch => some "bitcash"
  | .ada => some "cardano"
  | .ftm => some "fantom"
  | .pol => some "matic"
  | .avax => some "avalanche"
  | .doge => some "dogecoin"
  | .zec => some "zcash"
  | .dash => some "dash"
  | .eth => some "ethereum"
  | .btc => some "bitcoin"
  | .other _ => none

/-- `NETWORK_CHAIN_MAPPING_FOR_RESPONSE`. -/
def networkForResponse? : Chain → Option String
  | .lunc => some "cosmos"
  | .klay | .ftm | .pol | .avax | .bsc | .eth => some "ethereum"
  | .bnb => some "binance"
  | .trx => some "tron"
  | .eos => some "eos"
  | .xlm => some "stellar"
  | .xrp => some "ripple"
  | .btc | .ltc | .bch | .doge | .zec | .dash => some "bitcoin"
  | .ada => some "cardano"
  | .other _ => none

/-- `GRAPHQL_CURRENCY_MAPPING`. -/
def currency? : Chain → Option String
  | .trx => some "TRX"
  | .bnb => some "BNB"
  | .klay => some "KLAY"
  | .bsc => some "BNB"
  | .eth => some "ETH"
  | _ => none

/-- The text of the code. -/
def code : Chain → String
  | .eth => "ETH"
  | .klay => "KLAY"
  | .bsc => "BSC"
  | .ftm => "FTM"
  | .pol => "POL"
  | .avax => "AVAX"
  | .btc => "BTC"
  | .bch => "BCH"
  | .ltc => "LTC"
  | .doge => "DOGE"
  | .zec => "ZEC"
  | .dash => "DASH"
  | .xrp => "XRP"
  | .xlm => "XLM"
  | .bnb => "BNB"
  | .trx => "TRX"
  | .eos => "EOS"
  | .ada => "ADA"
  | .lunc => "LUNC"
  | .other code => code

end Chain

/-- `mapping[key]`, for a mapping by chain. -/
def Chain.lookup {α : Type*} (chain : Chain) (mapping : Chain → Option α) : Except PyErr α :=
  match mapping chain with
  | some value => .ok value
  | none => .error (.keyError chain.code)

/-- What `GraphQLInterface.__init__` fixes. -/
structure GraphQLInterface where
  chain : Chain
  source : Bool
  originalDepth : ℤ
  originalLimit : ℤ
  tillTime : String

/-- `self.depth` and `self.limit` as a call finds them, and the number of requests sent so far. -/
structure Session where
  depth : ℤ
  limit : ℤ
  requests : ℕ

namespace Session

/-- `__init__`. -/
def start (self : GraphQLInterface) : Session :=
  ⟨self.originalDepth, self.originalLimit, 0⟩

/-- `self.depth = current_depth; self.limit = current_limit`. -/
def bound (session : Session) (depth limit : ℤ) : Session :=
  { session with depth := depth, limit := limit }

/-- `n` times `requests.post(…)`. -/
def posted (session : Session) (n : ℕ) : Session :=
  { session with requests := session.requests + n }

/-- `requests.post(…)`. -/
def post (session : Session) : Session :=
  session.posted 1

end Session

/-- A `coinpath` query: the parameters of its template.  `currency` is the token of its currency
filter. -/
structure Query where
  template : TemplateKey
  network : String
  direction : String
  address : Json
  depth : ℤ
  fromTime : String
  tillTime : String
  limit : ℤ
  currency : Option Json
  tags : String

/-- The token that stands for a chain's own coin. -/
def zeroAddress : String :=
  "0x0000000000000000000000000000000000000000"

/-- The currency filter of the token-supporting chains. -/
def currencyOf (chain : Chain) (tokenAddress : Json) : Option Json :=
  if tokenAddress.truthy && !tokenAddress.eq (.str zeroAddress) then some tokenAddress
  else if chain ∈ [.ftm, .pol, .avax] then none
  else chain.currency?.map .str

/-- `_get_template_and_params(address, token_address, from_time)`. -/
def getTemplateAndParams (self : GraphQLInterface) (session : Session)
    (address tokenAddress : Json) (fromTime : String) : Except PyErr Query := do
  let templateKey ← self.chain.lookup Chain.template?
  let networkForResponse ← self.chain.lookup Chain.networkForResponse?
  let networkForQuery ← self.chain.lookup Chain.networkForQuery?
  return {
    template := templateKey
    network := networkForResponse ++ " (network: " ++ networkForQuery ++ ")"
    direction := if self.source then "inbound" else "outbound"
    address := address
    depth := session.depth
    fromTime := fromTime
    tillTime := self.tillTime
    limit := session.limit
    currency :=
      if templateKey ∈ [.ethereumLike, .binanceTron] then currencyOf self.chain tokenAddress
      else none
    tags :=
      if templateKey = .rippleStellar ∧ self.chain = .xrp then "destinationTag sourceTag" else "" }

/-- `utils.validate_dateformat_and_randomize_seconds(value, '%Y-%m-%dT%H:%M:%S')`, with what
`random.randint(1, 59)` gives. -/
def validateDateformatAndRandomizeSeconds (value : Json) (randomSeconds : ℕ) :
    Except PyErr String :=
  match value with
  | .str text => do
      let date ← match strptimeSeconds text with
        | .ok date => pure date
        | .error _ => strptimeDay text
      return (← date.addSeconds randomSeconds).strftime
  | _ => .error .typeError

/-- `_graphql_query_builder(address, token_address, from_time)`. -/
def graphqlQueryBuilder (self : GraphQLInterface) (session : Session) (randomSeconds : ℕ)
    (address tokenAddress fromTime : Json) : Option Query :=
  match (do
    let fromTime ← validateDateformatAndRandomizeSeconds fromTime randomSeconds
    getTemplateAndParams self session address tokenAddress fromTime) with
  | .ok query => some query
  | .error _ => none

/-! ## What a query carries -/

variable {self : GraphQLInterface} {session : Session} {randomSeconds : ℕ}
  {address tokenAddress fromTime : Json} {query : Query}

/-- Only a chain with a template is ever queried, and the query carries the session's bounds. -/
theorem graphqlQueryBuilder_eq_some
    (hbuild : graphqlQueryBuilder self session randomSeconds address tokenAddress fromTime =
      some query) :
    self.chain.template? = some query.template ∧ query.depth = session.depth ∧
      query.limit = session.limit := by
  unfold graphqlQueryBuilder at hbuild
  split at hbuild
  · rename_i built hbuilt
    cases hbuild
    obtain ⟨text, -, hparams⟩ := bind_eq_ok_iff.mp hbuilt
    obtain ⟨template, htemplate, hparams⟩ := bind_eq_ok_iff.mp hparams
    obtain ⟨networkForResponse, -, hparams⟩ := bind_eq_ok_iff.mp hparams
    obtain ⟨networkForQuery, -, hparams⟩ := bind_eq_ok_iff.mp hparams
    cases hparams
    refine ⟨?_, rfl, rfl⟩
    unfold Chain.lookup at htemplate
    split at htemplate
    · rename_i key hkey
      cases htemplate
      exact hkey
    · cases htemplate
  · cases hbuild

/-- A chain with a template has its networks too: the query is built for every valid date. -/
theorem exists_query {template : TemplateKey} {text : String}
    (htemplate : self.chain.template? = some template)
    (hdate : validateDateformatAndRandomizeSeconds fromTime randomSeconds = .ok text)
    (session : Session) (address tokenAddress : Json) :
    ∃ query, graphqlQueryBuilder self session randomSeconds address tokenAddress fromTime =
      some query := by
  unfold graphqlQueryBuilder getTemplateAndParams Chain.lookup
  rw [hdate]
  cases hchain : self.chain with
  | other code => simp [hchain, Chain.template?] at htemplate
  | _ => exact ⟨_, rfl⟩

theorem exists_validateDate {text : String} {day : DateTime} (hday : strptimeDay text = .ok day)
    (hseconds : randomSeconds < 60) :
    ∃ fromTime, validateDateformatAndRandomizeSeconds (.str text) randomSeconds = .ok fromTime := by
  unfold strptimeDay at hday
  split at hday
  · rename_i year month dayOfMonth hfield
    have hnot : strptimeSeconds text = .error .valueError := by
      unfold strptimeSeconds
      rw [hfield]
      rfl
    have hnew : ∃ moment, day.addSeconds randomSeconds = .ok moment := by
      unfold DateTime.new at hday
      split at hday
      · rename_i hrange
        cases hday
        have hmoment : InRange year month dayOfMonth 0 0 (0 + randomSeconds) :=
          ⟨hrange.1, hrange.2.1, hrange.2.2.1, by omega, by omega, by omega⟩
        have hlt : 0 + randomSeconds < 60 := by omega
        exact ⟨_, (if_pos hlt).trans (dif_pos hmoment)⟩
      · cases hday
    obtain ⟨moment, hmoment⟩ := hnew
    refine ⟨moment.strftime, ?_⟩
    unfold validateDateformatAndRandomizeSeconds strptimeDay
    simp only [hnot, hfield, hday]
    show (day.addSeconds randomSeconds >>= fun moment => Except.ok moment.strftime) = _
    rw [hmoment]
    rfl
  · cases hday

end CatvService.GraphQL
