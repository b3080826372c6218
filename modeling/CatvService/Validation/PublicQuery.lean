import CatvService.GraphQL.Query
import CatvService.Validation.TokenPatterns

/-!
# What a public request puts into a query

`CatvOutbound` and `CatvInbound` of `api/api_views.py`: `validate_addr`, `catv_query` and the query
that `_graphql_query_builder` makes of the parameters.

The parameters reach the template by different routes.  Address and token pass the pattern of the
chain, which leaves only a line feed at the end; the first date is read and written again, the two
bounds are numbers, and the second date goes in as it is.  So the literals of a query are closed
exactly if the second date breaks none and no line feed comes through the patterns
(`confined_iff_harmless`).
-/

namespace CatvService.Validation

open Dates GraphQL PyText PyValue Regex

/-! ## The checks -/

/-- A request; the address is required, and the chain is in upper case. -/
structure PublicRequest where
  chain : Chain
  address : String
  token : Option String
  fromDate : Option String
  tillDate : Option String
  depthLimit : Option String
  limit : Option String

/-- `SUPPORTED_NETWORKS`. -/
def supportedNetworks : List Chain :=
  [.btc, .eth, .ltc, .trx, .eos, .xlm, .ada, .bnb, .bch, .xrp, .bsc, .klay, .dash, .doge, .zec,
    .ftm, .pol, .avax]

/-- `UTXO_CHAINS`. -/
def utxoChains : List String :=
  ["BTC", "LTC", "BCH", "ADA", "DASH", "DOGE", "ZEC"]

/-- `QUORUM_CHAINS`. -/
def quorumChains : List String :=
  ["XRP", "XLM"]

/-- `coindata[chain]['networkList'][chain]['addressRegex']` of the supported chains:

* `^(0x)[0-9A-Fa-f]{40}$`
* `^[13][a-km-zA-HJ-NP-Z1-9]{25,34}$|^(bc1)[0-9A-Za-z]{39,59}$`
* `^(L|M|3)[A-Za-z0-9]{33}$|^(ltc1)[0-9A-Za-z]{39}$`
* `^T[1-9A-HJ-NP-Za-km-z]{33}$`
* `^[1-5a-z\.]{1,12}$`
* `^G[A-D]{1}[A-Z2-7]{54}$`
* `^(([0-9A-Za-z]{57,59})|([0-9A-Za-z]{100,104}))$`
* `^(bnb1)[0-9a-z]{38}$`
* `^[13][a-km-zA-HJ-NP-Z1-9]{25,34}$|^[0-9A-Za-z]{42,42}$`
* `^r[1-9A-HJ-NP-Za-km-z]{25,34}$`
* `^[X|7][0-9A-Za-z]{33}$`
* `^(D|A|9)[a-km-zA-HJ-NP-Z1-9]{33,34}$`
* `^(t)[A-Za-z0-9]{34}$` -/
def addressRegex : Chain → Option Pattern
  | .eth | .bsc | .klay | .ftm | .pol | .avax => some evmPattern
  | .btc => some (.alt (anchoredPattern (oneOf ['1', '3']) (.chars base58 25 (some 34)))
      (anchoredPattern (.text "bc1") (.chars alphanumerics 39 (some 59))))
  | .ltc => some (.alt (anchoredPattern (oneOf ['L', 'M', '3']) (exactly 33 alphanumerics))
      (anchoredPattern (.text "ltc1") (exactly 39 alphanumerics)))
  | .trx => some (anchoredPattern (.text "T") (exactly 33 base58))
  | .eos => some (anchoredPattern (.text "")
      (.chars [('1', '5'), ('a', 'z'), ('.', '.')] 1 (some 12)))
  | .xlm => some (anchoredPattern (.text "G")
      (.seq (exactly 1 [('A', 'D')]) (exactly 54 [('A', 'Z'), ('2', '7')])))
  | .ada => some (anchoredPattern (.text "")
      (.alt (.chars alphanumerics 57 (some 59)) (.chars alphanumerics 100 (some 104))))
  | .bnb => some (anchoredPattern (.text "bnb1") (exactly 38 [('0', '9'), ('a', 'z')]))
  | .bch => some (.alt (anchoredPattern (oneOf ['1', '3']) (.chars base58 25 (some 34)))
      (anchoredPattern (.text "") (.chars alphanumerics 42 (some 42))))
  | .xrp => some (anchoredPattern (.text "r") (.chars base58 25 (some 34)))
  | .dash => some dashPattern
  | .doge => some (anchoredPattern (oneOf ['D', 'A', '9']) (.chars base58 33 (some 34)))
  | .zec => some (anchoredPattern (.text "t") (exactly 34 alphanumerics))
  | .lunc | .other _ => none

/-- Whether `validate_addr` has the token matched: both lists of chains are in upper case. -/
def checksToken (chain : Chain) (token : String) : Bool :=
  decide (token ≠ "" ∧ lower chain.code ∉ utxoChains ∧
    lower chain.code ∉ quorumChains.filter (· ≠ "XLM") ∧ token ≠ zeroAddress)

/-- `validate_addr(addr, chain, token=token)` returns the address. -/
def validateAddr (addr : String) (chain : Chain) (token : String) : Bool :=
  match addressRegex chain with
  | none => false
  | some regex =>
      decide (addr ≠ "" ∧ chain ∈ supportedNetworks) && regex.isMatch addr &&
        (!checksToken chain token || regex.isMatch token)

/-- The view's check: a missing token is the zero address. -/
def PublicRequest.Valid (request : PublicRequest) : Prop :=
  validateAddr request.address request.chain (request.token.getD zeroAddress) = true

instance (request : PublicRequest) : Decidable request.Valid :=
  inferInstanceAs (Decidable (_ = true))

/-! ## The query -/

/-- `_get_token(chain, params)`.  The two kinds of chains that have a token differ in the name that
the parameter keeps. -/
def getToken (chain : Chain) (token : Option String) : Option String :=
  if upper chain.code ∈ utxoChains then none else token

/-- `str(till_time).replace(" ", "T")`. -/
def tillTimeOf (tillDate : String) : String :=
  String.ofList (tillDate.toList.map fun c => if c = ' ' then 'T' else c)

/-- The query that `catv_query` has built for a request, when the attempts have come to `session`;
`None` for the token of the request is what the call is repeated with. -/
def publicQuery (request : PublicRequest) (source : Bool) (session : Session) (randomSeconds : ℕ) :
    Option Query := do
  let token := getToken request.chain request.token
  let limit ← parseInt (← request.limit)
  let depth ← parseInt (← request.depthLimit)
  let fromDate ← request.fromDate
  let tillDate ← request.tillDate
  graphqlQueryBuilder ⟨request.chain, source, depth, limit, tillTimeOf tillDate⟩ session
    randomSeconds (.str request.address) ((token.map Json.str).getD .null) (.str fromDate)

/-- The text that a parameter is substituted by. -/
def substituted : Json → List String
  | .str s => [s]
  | _ => []

/-- The texts that the parameters of a request are substituted by. -/
def queryValues (query : Query) : List String :=
  [query.fromTime, query.tillTime, toString query.depth, toString query.limit] ++
    substituted query.address ++ query.currency.toList.flatMap substituted

/-- The characters that end a literal: quote, braces and line breaks. -/
def breaking : List Char :=
  ['"', '\x7b', '\x7d', '\n', '\r']

/-- A text that stays inside its literal. -/
def Closed (cs : List Char) : Prop :=
  ∀ c ∈ cs, c ∉ breaking

/-- Every value is confined to its own literal. -/
def Confined (query : Query) : Prop :=
  ∀ value ∈ queryValues query, Closed value.toList

/-- The chain has a currency filter in its template. -/
def filtersCurrency (chain : Chain) : Bool :=
  decide (chain.template? = some .ethereumLike ∨ chain.template? = some .binanceTron)

/-- The second date has no character that ends a literal, and neither the address nor a token that
goes into the query ends in a line feed. -/
def Harmless (request : PublicRequest) : Prop :=
  (∀ tillDate ∈ request.tillDate, Closed tillDate.toList) ∧
    request.address.toList.getLast? ≠ some '\n' ∧
      (filtersCurrency request.chain = true →
        ∀ token ∈ request.token, token.toList.getLast? ≠ some '\n')

/-! ## Texts that stay inside their literals -/

instance (cs : List Char) : Decidable (Closed cs) :=
  decidable_of_iff (cs.all (fun c => decide (c ∉ breaking)) = true) (by simp [Closed])

theorem closed_append {cs more : List Char} :
    Closed (cs ++ more) ↔ Closed cs ∧ Closed more := by
  simp [Closed, or_imp, forall_and]

theorem closed_toString_nat (n : ℕ) : Closed (toString n).toList := by
  intro c hc hbreaking
  have hmem : c ∈ Nat.toDigits 10 n := by simpa using hc
  have hdigit : c.isDigit = true :=
    Nat.isDigit_of_mem_toDigits (by decide : 0 < 10) (by decide) hmem
  have hnone : breaking.all (fun c => !c.isDigit) = true := by decide
  have hnot := List.all_eq_true.mp hnone c hbreaking
  rw [hdigit] at hnot
  cases hnot

theorem closed_toString_int (z : ℤ) : Closed (toString z).toList := by
  cases z with
  | ofNat n => exact closed_toString_nat n
  | negSucc n =>
      have htext : (toString (Int.negSucc n)).toList = '-' :: (toString (n + 1)).toList := by
        simp [toString, Int.repr]
      rw [htext]
      exact List.forall_mem_cons.mpr ⟨by decide, closed_toString_nat (n + 1)⟩

theorem closed_twoDigits (n : ℕ) : Closed (twoDigits n).toList := by
  unfold twoDigits
  split
  · rw [String.toList_append, closed_append]
    exact ⟨by decide, closed_toString_nat n⟩
  · exact closed_toString_nat n

theorem closed_strftime (date : DateTime) : Closed date.strftime.toList := by
  have hdash : Closed "-".toList := by decide
  have hcolon : Closed ":".toList := by decide
  have htee : Closed "T".toList := by decide
  simp only [DateTime.strftime, String.toList_append, closed_append]
  exact ⟨⟨⟨⟨⟨⟨⟨⟨⟨⟨closed_toString_nat _, hdash⟩, closed_twoDigits _⟩, hdash⟩, closed_twoDigits _⟩,
    htee⟩, closed_twoDigits _⟩, hcolon⟩, closed_twoDigits _⟩, hcolon⟩, closed_twoDigits _⟩

/-- The second date goes in as it is, with another letter for its blanks. -/
theorem closed_tillTimeOf (tillDate : String) :
    Closed (tillTimeOf tillDate).toList ↔ Closed tillDate.toList := by
  unfold tillTimeOf
  rw [String.toList_ofList]
  constructor
  · intro hclosed c hc hbreaking
    refine hclosed c (List.mem_map.mpr ⟨c, hc, if_neg ?_⟩) hbreaking
    rintro rfl
    exact absurd hbreaking (by decide)
  · intro hclosed c hc
    obtain ⟨other, hother, rfl⟩ := List.mem_map.mp hc
    split
    · decide
    · exact hclosed other hother

/-! ## What the patterns of the chains let through -/

/-- Letters, digits, the dot of EOS and the bar of DASH. -/
def chainClass : CharClass :=
  ('.', '.') :: ('|', '|') :: alphanumerics

theorem within_and_anchored_addressRegex {chain : Chain} {regex : Pattern}
    (hregex : addressRegex chain = some regex) :
    regex.within chainClass = true ∧ regex.anchored = true := by
  cases chain <;> cases hregex <;> exact ⟨rfl, rfl⟩

/-- A text that the pattern of a chain matches breaks its literal only with a line feed at its
end. -/
theorem closed_iff_of_isMatch {chain : Chain} {regex : Pattern} {s : String}
    (hregex : addressRegex chain = some regex) (hmatch : regex.isMatch s = true) :
    Closed s.toList ↔ s.toList.getLast? ≠ some '\n' := by
  obtain ⟨hwithin, hanchored⟩ := within_and_anchored_addressRegex hregex
  obtain ⟨body, hbody, hs⟩ := exists_body_of_isMatch hwithin hanchored hmatch
  have hclosed : Closed body := by
    intro c hc hbreaking
    have hnone : breaking.all (fun c => !chainClass.has c) = true := by decide
    have hnot := List.all_eq_true.mp hnone c hbreaking
    rw [hbody c hc] at hnot
    cases hnot
  constructor
  · intro htext hlast
    exact htext '\n' (List.mem_of_getLast? hlast) (by decide)
  · intro hlast
    rcases hs with hs | hs
    · rw [hs]
      exact hclosed
    · rw [hs] at hlast
      exact absurd (List.getLast?_concat) hlast

/-- The two lists of chains are in upper case, so every token is matched that is not the zero
address. -/
theorem checksToken_of_supported {chain : Chain} (hchain : chain ∈ supportedNetworks)
    (token : String) : checksToken chain token = decide (token ≠ "" ∧ token ≠ zeroAddress) := by
  have hlower : ∀ chain ∈ supportedNetworks, lower chain.code ∉ utxoChains ∧
      lower chain.code ∉ quorumChains.filter (· ≠ "XLM") := by decide
  obtain ⟨hutxo, hquorum⟩ := hlower chain hchain
  unfold checksToken
  exact decide_eq_decide.mpr ⟨fun ⟨hne, _, _, hzero⟩ => ⟨hne, hzero⟩,
    fun ⟨hne, hzero⟩ => ⟨hne, hutxo, hquorum, hzero⟩⟩

theorem PublicRequest.Valid.exists_regex {request : PublicRequest} (hvalid : request.Valid) :
    ∃ regex, addressRegex request.chain = some regex ∧ regex.isMatch request.address = true ∧
      ∀ token ∈ request.token, token ≠ "" → token ≠ zeroAddress → regex.isMatch token = true := by
  unfold PublicRequest.Valid validateAddr at hvalid
  split at hvalid
  · cases hvalid
  · rename_i regex hregex
    simp only [Bool.and_eq_true, Bool.or_eq_true, Bool.not_eq_true', decide_eq_true_eq] at hvalid
    obtain ⟨⟨⟨-, hchain⟩, haddress⟩, htoken⟩ := hvalid
    refine ⟨regex, hregex, haddress, fun token hmem hne hzero => ?_⟩
    rw [Option.mem_def.mp hmem, Option.getD_some, checksToken_of_supported hchain] at htoken
    exact htoken.resolve_left (by simp [hne, hzero])

/-! ## The values of the query -/

variable {request : PublicRequest} {source : Bool} {session : Session} {randomSeconds : ℕ}
  {query : Query}

theorem exists_strftime {value : Json} {text : String}
    (hdate : validateDateformatAndRandomizeSeconds value randomSeconds = .ok text) :
    ∃ date : DateTime, text = date.strftime := by
  unfold validateDateformatAndRandomizeSeconds at hdate
  split at hdate
  · rename_i raw
    have hwritten : ∀ date : Except PyErr DateTime, (do
        let date ← date
        return (← date.addSeconds randomSeconds).strftime) = .ok text →
          ∃ date : DateTime, text = date.strftime := by
      intro date hok
      obtain ⟨first, -, hok⟩ := bind_eq_ok_iff.mp hok
      obtain ⟨later, -, hok⟩ := bind_eq_ok_iff.mp hok
      exact ⟨later, (Except.ok.inj hok).symm⟩
    cases hseconds : strptimeSeconds raw with
    | ok date =>
        rw [hseconds] at hdate
        exact hwritten (.ok date) hdate
    | error e =>
        rw [hseconds] at hdate
        exact hwritten (strptimeDay raw) hdate
  · cases hdate

/-- What the currency filter of a query is substituted by. -/
def currencyValues (request : PublicRequest) : List String :=
  if filtersCurrency request.chain = true then
    (currencyOf request.chain
      (((getToken request.chain request.token).map Json.str).getD .null)).toList.flatMap substituted
  else []

/-- The values of a query: a date that has been written again, the second date, two numbers, the
address and the currency. -/
theorem publicQuery_eq_some
    (hquery : publicQuery request source session randomSeconds = some query) :
    ∃ tillDate, request.tillDate = some tillDate ∧ ∃ date : DateTime,
      queryValues query = [date.strftime, tillTimeOf tillDate, toString session.depth,
        toString session.limit, request.address] ++ currencyValues request := by
  unfold publicQuery at hquery
  simp only [Option.bind_eq_bind, Option.bind_eq_some_iff] at hquery
  obtain ⟨_, -, _, -, _, -, _, -, fromDate, -, tillDate, htill, hbuild⟩ := hquery
  refine ⟨tillDate, htill, ?_⟩
  unfold graphqlQueryBuilder at hbuild
  split at hbuild
  · rename_i built hbuilt
    obtain rfl := Option.some.inj hbuild
    obtain ⟨fromTime, hfrom, hparams⟩ := bind_eq_ok_iff.mp hbuilt
    obtain ⟨template, htemplate, hparams⟩ := bind_eq_ok_iff.mp hparams
    obtain ⟨_, -, hparams⟩ := bind_eq_ok_iff.mp hparams
    obtain ⟨_, -, hparams⟩ := bind_eq_ok_iff.mp hparams
    obtain rfl := Except.ok.inj hparams
    obtain ⟨date, rfl⟩ := exists_strftime hfrom
    refine ⟨date, ?_⟩
    have hkey : request.chain.template? = some template := by
      unfold Chain.lookup at htemplate
      split at htemplate
      · rename_i key hkey
        rw [hkey, Except.ok.inj htemplate]
      · cases htemplate
    have hfilters : template ∈ [TemplateKey.ethereumLike, .binanceTron] ↔
        filtersCurrency request.chain = true := by
      simp [filtersCurrency, hkey]
    unfold queryValues currencyValues
    by_cases hfilter : filtersCurrency request.chain = true
    · simp only [hfilters.mpr hfilter, hfilter, if_true]
      rfl
    · simp only [mt hfilters.mp hfilter, hfilter, if_false]
      rfl
  · cases hbuild

theorem closed_default (chain : Chain) :
    ∀ value ∈ (if chain ∈ [Chain.ftm, .pol, .avax] then none
      else chain.currency?.map Json.str).toList.flatMap substituted, Closed value.toList := by
  cases chain <;> first
    | decide
    | simp [Chain.currency?]

theorem currencyOf_str {chain : Chain} {token : String} (hne : token ≠ "")
    (hzero : token ≠ zeroAddress) : currencyOf chain (.str token) = some (.str token) := by
  simp [currencyOf, Json.truthy, Json.eq, hne, hzero]

/-- The currency filter keeps to its literal unless a token that goes into it ends in a line
feed. -/
theorem closed_currencyValues_iff (hvalid : request.Valid) :
    (∀ value ∈ currencyValues request, Closed value.toList) ↔
      (filtersCurrency request.chain = true →
        ∀ token ∈ request.token, token.toList.getLast? ≠ some '\n') := by
  by_cases hfilter : filtersCurrency request.chain = true
  · have hutxo : ∀ chain, filtersCurrency chain = true → upper chain.code ∉ utxoChains := by
      intro chain hchain
      cases chain <;> first
        | decide
        | cases hchain
    have htoken : getToken request.chain request.token = request.token :=
      if_neg (hutxo _ hfilter)
    unfold currencyValues
    rw [if_pos hfilter, htoken]
    simp only [hfilter, true_imp_iff]
    cases hrequest : request.token with
    | none => exact iff_of_true (closed_default request.chain) (by simp)
    | some token =>
        by_cases hdefault : token = "" ∨ token = zeroAddress
        · -- the token is not used, and it does not end in a line feed
          have hcurrency : currencyOf request.chain (.str token) =
              if request.chain ∈ [Chain.ftm, .pol, .avax] then none
              else request.chain.currency?.map Json.str := by
            rcases hdefault with rfl | rfl
            · rfl
            · exact if_neg (by decide)
          have hlast : ∀ other ∈ some token, other.toList.getLast? ≠ some '\n' := by
            rintro other ⟨⟩
            rcases hdefault with rfl | rfl <;> decide
          rw [Option.map_some, Option.getD_some, hcurrency]
          exact iff_of_true (closed_default request.chain) hlast
        · push Not at hdefault
          obtain ⟨regex, hregex, -, hmatch⟩ := hvalid.exists_regex
          have hmatch' := hmatch token (by rw [hrequest]; rfl) hdefault.1 hdefault.2
          rw [Option.map_some, Option.getD_some, currencyOf_str hdefault.1 hdefault.2]
          simpa [substituted] using closed_iff_of_isMatch hregex hmatch'
  · unfold currencyValues
    rw [if_neg hfilter]
    exact iff_of_true (by simp) fun h => absurd h hfilter

/-- **The query of a request that was checked keeps every value in its literal exactly if the
request is harmless.** -/
theorem confined_iff_harmless (hvalid : request.Valid)
    (hquery : publicQuery request source session randomSeconds = some query) :
    Confined query ↔ Harmless request := by
  obtain ⟨tillDate, htill, date, hvalues⟩ := publicQuery_eq_some hquery
  obtain ⟨regex, hregex, hmatch, -⟩ := hvalid.exists_regex
  have hsplit : Confined query ↔ Closed (tillTimeOf tillDate).toList ∧
      Closed request.address.toList ∧ ∀ value ∈ currencyValues request, Closed value.toList := by
    unfold Confined
    rw [hvalues]
    simp only [List.forall_mem_append, List.forall_mem_cons, closed_strftime, closed_toString_int,
      true_and, and_assoc]
    simp
  have htillDate : (∀ tillDate ∈ request.tillDate, Closed tillDate.toList) ↔
      Closed tillDate.toList := by
    rw [htill]
    simp
  rw [hsplit, closed_tillTimeOf, closed_iff_of_isMatch hregex hmatch,
    closed_currencyValues_iff hvalid, Harmless, htillDate]

/-- A request for an address of ETH. -/
def sampleRequest (address tillDate : String) : PublicRequest where
  chain := .eth
  address := address
  token := none
  fromDate := some "2023-01-01"
  tillDate := some tillDate
  depthLimit := some "2"
  limit := some "100"

theorem exists_query_sample (tillDate : String) (address : String) :
    ∃ query, publicQuery (sampleRequest address tillDate) false ⟨2, 100, 0⟩ 7 = some query :=
  Option.isSome_iff_exists.mp rfl

theorem confined_iff_harmless_sample :
    ∃ query, publicQuery (sampleRequest sampleAddress "2023-12-31") false ⟨2, 100, 0⟩ 7 =
        some query ∧
      (Confined query ↔ Harmless (sampleRequest sampleAddress "2023-12-31")) := by
  obtain ⟨query, hquery⟩ := exists_query_sample "2023-12-31" sampleAddress
  exact ⟨query, hquery, confined_iff_harmless (by decide +kernel) hquery⟩

/-- A second date that closes its literal and the argument around it, and an address with a line
feed. -/
theorem not_confined_tillDate :
    ((sampleRequest sampleAddress "2023-12-31\"\x7d").Valid ∧
      ∃ query, publicQuery (sampleRequest sampleAddress "2023-12-31\"\x7d") false ⟨2, 100, 0⟩ 7 =
        some query ∧ ¬ Confined query) ∧
      (sampleRequest (sampleAddress ++ "\n") "2023-12-31").Valid ∧
        ∃ query, publicQuery (sampleRequest (sampleAddress ++ "\n") "2023-12-31") false
          ⟨2, 100, 0⟩ 7 = some query ∧ ¬ Confined query := by
  constructor
  · obtain ⟨query, hquery⟩ := exists_query_sample "2023-12-31\"\x7d" sampleAddress
    refine ⟨by decide +kernel, query, hquery, fun hconfined => ?_⟩
    obtain ⟨tillDate, htill, date, hvalues⟩ := publicQuery_eq_some hquery
    obtain rfl := Option.some.inj htill
    have hclosed : Closed (tillTimeOf "2023-12-31\"\x7d").toList :=
      hconfined _ (by rw [hvalues]; simp)
    exact absurd ((closed_tillTimeOf _).mp hclosed) (by decide +kernel)
  · obtain ⟨query, hquery⟩ := exists_query_sample "2023-12-31" (sampleAddress ++ "\n")
    refine ⟨by decide +kernel, query, hquery, fun hconfined => ?_⟩
    obtain ⟨_, -, date, hvalues⟩ := publicQuery_eq_some hquery
    have hclosed : Closed (sampleAddress ++ "\n").toList :=
      hconfined _ (by rw [hvalues]; exact List.mem_append_left _ (by simp [sampleRequest]))
    exact absurd hclosed (by decide +kernel)

end CatvService.Validation
