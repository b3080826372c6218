import CatvService.GraphQL.Endpoint

/-!
# The depth limit and the end of the recursion

Which interfaces keep the rows within the depth limit, and which calls come to an end, whatever an
upstream that honours the bound of every query answers.

Neither holds where swaps are followed.  The nested query of a swap has the same bound as the first
one, and its rows are moved by the raw depth of the swap, so they may lie beyond the limit.  The
offset of a nested call is made of one answer only and does not grow along the recursion: a swap of
raw depth one is always followed with offset zero, and the guard never stops it.
-/

namespace CatvService.GraphQL

open PyValue

/-! ## Sample answers -/

/-- A date that the query builder accepts. -/
def sampleDate : Json := .str "2023-01-01 00:00:00"

/-- A transfer to an address. -/
def sampleTransfer (depth : ℤ) (receiver : PyValue.Obj) : Json :=
  .dict [("depth", .int depth), ("transaction", .dict [("hash", .str "0xf1")]),
    ("sender", .dict [("address", .str "0xa1")]), ("receiver", .dict receiver)]

/-- A transfer to a wallet. -/
def samplePayment (depth : ℤ) : Json :=
  sampleTransfer depth [("address", .str "0xb1")]

/-- A transfer to an exchange contract. -/
def sampleSwap (depth : ℤ) : Json :=
  sampleTransfer depth [("address", .str "0xd1"), ("annotation", .str "Uniswap V2: Router"),
    ("smartContract", .dict [("contractType", .str "DEX")])]

/-- An answer to a `coinpath` query. -/
def coinpathDocument (chain : Chain) (items : List Json) : Json :=
  .dict [("data",
    .dict [(chain.networkForResponse?.getD "", .dict [("coinpath", .list items)])])]

/-- An answer to a `dexTrades` query: the receiver of `sampleSwap` sold another token. -/
def dexTradesDocument (chain : Chain) : Json :=
  if chain.isEthOrBsc then
    .dict [("data", .dict [("EVM", .dict [("DEXTrades", .list [.dict [
      ("Block", .dict [("Time", .str "2023-01-01T00:00:00Z")]),
      ("Trade", .dict [("Dex", .dict [("SmartContract", .str "0xd1")]),
        ("Sell", .dict [("Amount", .str "25"), ("AmountInUSD", .str "25"),
          ("Currency", .dict [("Name", .str "Tether"), ("Symbol", .str "USDT"),
            ("SmartContract", .str "0xc1")])])])]])])])]
  else
    .dict [("data",
      .dict [(chain.networkForResponse?.getD "", .dict [("dexTrades", .list [.dict [
        ("block", .dict [("timestamp", .dict [("time", sampleDate)])]),
        ("smartContract", .dict [("address", .dict [("address", .str "0xd1")])]),
        ("sellAmount", .int 25), ("sell_amount_usd", .int 25),
        ("sellCurrency", .dict [("address", .str "0xc1"), ("name", .str "Tether"),
          ("symbol", .str "USDT")])]])])])]

/-- The upstream that answers some attempts with the items it is given, fails at the others, and
knows of one trade; no worker writes while another one reads. -/
def sampleUpstream (chain : Chain) (items : List ℕ → ℕ → Query → Option (List Json)) :
    Upstream where
  coinpath := fun path attempt query =>
    match items path attempt query with
    | some items => .answered (coinpathDocument chain items)
    | none => .failed
  dexTrades := fun _ _ _ => .answered (dexTradesDocument chain)
  randint := fun _ _ => 0
  written := fun _ _ => none

variable {self : GraphQLInterface} {chain : Chain}

theorem found_sampleUpstream (chain : Chain) (items : List ℕ → ℕ → Query → Option (List Json))
    (path : List ℕ) (moment : ℕ) (session : Session) :
    (sampleUpstream chain items).found path moment session = session := by
  cases path <;> rfl

theorem coinpathItems_coinpathDocument {template : TemplateKey}
    (htemplate : chain.template? = some template) (items : List Json) :
    coinpathItems chain (coinpathDocument chain items) = .ok items := by
  cases chain with
  | other code => cases htemplate
  | _ => rfl

/-- The items of an answer are the ones that the upstream is given for the attempt. -/
theorem items_of_coinpath {template : TemplateKey}
    (htemplate : self.chain.template? = some template)
    {items : List ℕ → ℕ → Query → Option (List Json)} {path : List ℕ} {attempt : ℕ} {query : Query}
    {response : Json} {answer : List Json}
    (hreply : (sampleUpstream self.chain items).coinpath path attempt query = .answered response)
    (hanswer : coinpathItems self.chain response = .ok answer) :
    items path attempt query = some answer := by
  unfold sampleUpstream at hreply
  dsimp only at hreply
  split at hreply
  · rename_i sent hsent
    cases hreply
    rw [coinpathItems_coinpathDocument htemplate] at hanswer
    cases hanswer
    exact hsent
  · cases hreply

theorem honours_sampleUpstream {template : TemplateKey}
    (htemplate : self.chain.template? = some template)
    {items : List ℕ → ℕ → Query → Option (List Json)}
    (hitems : ∀ path attempt query answer, items path attempt query = some answer →
      ∀ item ∈ answer, ∃ depth receiver, item = sampleTransfer depth receiver ∧
        1 ≤ depth ∧ depth ≤ query.depth) :
    Honours (sampleUpstream self.chain items) self := by
  intro path attempt query response answer hreply hanswer item hitem
  obtain ⟨depth, receiver, rfl, hdepth⟩ :=
    hitems path attempt query answer (items_of_coinpath htemplate hreply hanswer) item hitem
  exact ⟨depth, rfl, hdepth⟩

/-- The call for the nested query of `sampleSwap`. -/
def sampleCall (initialDepth : ℤ) : NestedCall :=
  ⟨.str "0xa1", .str "0xc1", sampleDate, initialDepth⟩

theorem template?_of_tracesSwaps (hchain : chain.tracesSwaps = true) :
    chain.template? = some .ethereumLike := by
  rcases cases_of_tracesSwaps hchain with rfl | rfl | rfl | rfl | rfl | rfl <;> rfl

theorem swapStart_sampleSwap (hchain : chain.tracesSwaps = true) (depth : ℤ) :
    swapStart chain (sampleSwap depth) = .ok ⟨.str "0xf1", depth - 1, .str "0xa1"⟩ := by
  rcases cases_of_tracesSwaps hchain with rfl | rfl | rfl | rfl | rfl | rfl <;> rfl

theorem swapPlan_sampleSwap (hchain : chain.tracesSwaps = true) (depth : ℤ) :
    ∃ response, swapPlan chain (fun _ => .answered (dexTradesDocument chain)) (sampleSwap depth) =
      .nested response (sampleCall (depth - 1)) := by
  rcases cases_of_tracesSwaps hchain with rfl | rfl | rfl | rfl | rfl | rfl <;>
    exact ⟨_, rfl⟩

theorem flattenNode_samplePayment {template : TemplateKey}
    (htemplate : chain.template? = some template) (initialDepth depth : ℤ) (tokenAddress : Json) :
    ∃ flattened, flattenNode chain initialDepth (samplePayment depth) tokenAddress =
      some flattened ∧ flattened.isSwap = false := by
  cases chain with
  | other code => cases htemplate
  | _ => exact ⟨_, rfl, rfl⟩

theorem flattenNode_sampleSwap (hchain : chain.tracesSwaps = true) (initialDepth depth : ℤ)
    (tokenAddress : Json) :
    ∃ flattened, flattenNode chain initialDepth (sampleSwap depth) tokenAddress =
      some flattened ∧ flattened.isSwap = true := by
  rcases cases_of_tracesSwaps hchain with rfl | rfl | rfl | rfl | rfl | rfl <;>
    exact ⟨_, rfl, rfl⟩

/-! ## Runs on the samples -/

variable {items : List ℕ → ℕ → Query → Option (List Json)} {path : List ℕ} {call : NestedCall}
  {session : Session} {answer : List Json} {template : TemplateKey}

/-- Every attempt of a call with the sample date sends a query with the bound of the attempt. -/
theorem exists_sampleQuery (htemplate : self.chain.template? = some template)
    (hdate : call.fromTime = sampleDate) (session : Session) :
    ∃ query, graphqlQueryBuilder self session 1 call.address call.tokenAddress call.fromTime =
      some query ∧ query.depth = session.depth := by
  obtain ⟨text, htext⟩ : ∃ text, validateDateformatAndRandomizeSeconds sampleDate 1 = .ok text :=
    ⟨_, rfl⟩
  rw [← hdate] at htext
  obtain ⟨query, hquery⟩ := exists_query htemplate htext session call.address call.tokenAddress
  exact ⟨query, hquery, (graphqlQueryBuilder_eq_some hquery).2.1⟩

theorem attempt_of_some (htemplate : self.chain.template? = some template)
    (hdate : call.fromTime = sampleDate) {retryCount : ℕ} {currentDepth : ℤ}
    (hitems : ∀ query : Query, query.depth = currentDepth →
      items path retryCount query = some answer) (currentLimit : ℤ) (session : Session) :
    ∃ session', session'.depth = currentDepth ∧ ∀ endpoint,
      attempt (sampleUpstream self.chain items) self endpoint path call retryCount currentDepth
        currentLimit session = .returned (processItems (sampleUpstream self.chain items) self
          endpoint path call answer session') := by
  obtain ⟨query, hquery, hbound⟩ :=
    exists_sampleQuery htemplate hdate (session.bound currentDepth currentLimit)
  have hreply : (sampleUpstream self.chain items).coinpath path retryCount query =
      .answered (coinpathDocument self.chain answer) := by
    simp only [sampleUpstream, hitems query hbound]
  have hseconds : ((sampleUpstream self.chain items).randint path retryCount).val + 1 = 1 := rfl
  refine ⟨(session.bound currentDepth currentLimit).post, rfl, ?_⟩
  intro endpoint
  unfold attempt
  simp only [found_sampleUpstream, hseconds, hquery, hreply,
    coinpathItems_coinpathDocument htemplate]

theorem attempt_of_none (htemplate : self.chain.template? = some template)
    (hdate : call.fromTime = sampleDate) {retryCount : ℕ}
    (hitems : ∀ query, items path retryCount query = none) (currentDepth currentLimit : ℤ)
    (session : Session) :
    ∃ session', ∀ endpoint, attempt (sampleUpstream self.chain items) self endpoint path call
      retryCount currentDepth currentLimit session = .failed session' := by
  obtain ⟨query, hquery, -⟩ :=
    exists_sampleQuery htemplate hdate (session.bound currentDepth currentLimit)
  have hreply : (sampleUpstream self.chain items).coinpath path retryCount query = .failed := by
    simp only [sampleUpstream, hitems query]
  have hseconds : ((sampleUpstream self.chain items).randint path retryCount).val + 1 = 1 := rfl
  refine ⟨(session.bound currentDepth currentLimit).post, ?_⟩
  intro endpoint
  unfold attempt
  simp only [found_sampleUpstream, hseconds, hquery, hreply]

theorem callGraphqlEndpoint_of_answer (htemplate : self.chain.template? = some template)
    (hguard : call.initialDepth < session.depth) (hdate : call.fromTime = sampleDate)
    (hitems : ∀ query : Query, query.depth = self.originalDepth →
      items path 0 query = some answer) (fuel : ℕ) :
    ∃ session', session'.depth = self.originalDepth ∧
      callGraphqlEndpoint (sampleUpstream self.chain items) self (fuel + 1) path session call =
        processItems (sampleUpstream self.chain items) self
          (callGraphqlEndpoint (sampleUpstream self.chain items) self fuel) path call answer
          session' := by
  obtain ⟨session', hbound, hattempt⟩ :=
    attempt_of_some htemplate hdate hitems self.originalLimit session
  refine ⟨session', hbound, ?_⟩
  unfold callGraphqlEndpoint attempts
  dsimp only
  rw [found_sampleUpstream, if_neg (not_le.mpr hguard), hattempt]

theorem callGraphqlEndpoint_of_retry (htemplate : self.chain.template? = some template)
    (hguard : call.initialDepth < session.depth) (hdate : call.fromTime = sampleDate)
    (hfailed : ∀ query, items path 0 query = none)
    (hitems : ∀ query : Query, query.depth = max 2 (self.originalDepth / 2) →
      items path 1 query = some answer) (fuel : ℕ) :
    ∃ session', callGraphqlEndpoint (sampleUpstream self.chain items) self (fuel + 1) path session
        call = processItems (sampleUpstream self.chain items) self
          (callGraphqlEndpoint (sampleUpstream self.chain items) self fuel) path call answer
          session' := by
  obtain ⟨session₁, hfirst⟩ :=
    attempt_of_none htemplate hdate hfailed self.originalDepth self.originalLimit session
  obtain ⟨session₂, -, hsecond⟩ :=
    attempt_of_some htemplate hdate hitems (max 100 (self.originalLimit / 2)) session₁
  refine ⟨session₂, ?_⟩
  unfold callGraphqlEndpoint maxRetries attempts
  dsimp only
  rw [found_sampleUpstream, if_neg (not_le.mpr hguard), hfirst]
  unfold attempts
  simp only [Nat.zero_add, hsecond]

theorem processItems_samplePayment {upstream : Upstream} {endpoint : List ℕ → Endpoint}
    (htemplate : self.chain.template? = some template) (depth : ℤ) :
    ∃ row, row.depth = depth + call.initialDepth ∧
      processItems upstream self endpoint path call [samplePayment depth] session =
        some (.list [.row row], session) := by
  obtain ⟨flattened, hflatten, hswap⟩ :=
    flattenNode_samplePayment htemplate call.initialDepth depth call.tokenAddress
  obtain ⟨⟨raw, hraw, hdepth⟩, -⟩ := flattenNode_eq_some hflatten
  obtain rfl : depth = raw := by
    rw [samplePayment, sampleTransfer, safeGet_of_get rfl rfl] at hraw
    cases hraw
    rfl
  refine ⟨flattened.row, hdepth, ?_⟩
  have hrows : flattenedResponse self.chain call.initialDepth call.tokenAddress
      [samplePayment depth] = [.row flattened.row] := by
    simp [flattenedResponse, hflatten]
  have hswaps : possibleSwaps self.chain call.initialDepth call.tokenAddress
      [samplePayment depth] = [] := by
    simp [possibleSwaps, hflatten, hswap]
  unfold processItems
  rw [hrows, hswaps]
  exact getTxWithSwaps_nil _ _ _ _ _

/-- A single swap is followed, and what its call returns is appended. -/
theorem processItems_sampleSwap (hchain : self.chain.tracesSwaps = true) (depth : ℤ)
    (endpoint : List ℕ → Endpoint) :
    ∃ first response, processItems (sampleUpstream self.chain items) self endpoint path call
        [sampleSwap depth] session =
      (endpoint (0 :: path) session.post (sampleCall (depth - 1))).map fun outcome =>
        (collectSwaps [first] [joinNested response outcome.1],
          session.posted (outcome.2.requests - session.requests)) := by
  obtain ⟨flattened, hflatten, hswap⟩ :=
    flattenNode_sampleSwap hchain call.initialDepth depth call.tokenAddress
  obtain ⟨response, hplan⟩ := swapPlan_sampleSwap hchain depth
  refine ⟨.row flattened.row, response, ?_⟩
  have hrows : flattenedResponse self.chain call.initialDepth call.tokenAddress
      [sampleSwap depth] = [.row flattened.row] := by
    simp [flattenedResponse, hflatten]
  have hswaps : possibleSwaps self.chain call.initialDepth call.tokenAddress
      [sampleSwap depth] = [sampleSwap depth] := by
    simp [possibleSwaps, hflatten, hswap]
  have hprocess : ∀ endpoint : Endpoint, processSwap self.chain endpoint
      (fun _ => .answered (dexTradesDocument self.chain)) (sampleSwap depth) session =
        (endpoint session.post (sampleCall (depth - 1))).map fun outcome =>
          (joinNested response outcome.1, outcome.2) := by
    intro endpoint
    unfold processSwap
    rw [swapStart_sampleSwap hchain, hplan]
    show (endpoint session.post (sampleCall (depth - 1))).bind _ = _
    cases endpoint session.post (sampleCall (depth - 1)) <;> rfl
  unfold processItems getTxWithSwaps
  rw [hrows, hswaps, mapSwaps]
  show ((processSwap self.chain (endpoint (0 :: path))
    (fun _ => .answered (dexTradesDocument self.chain)) (sampleSwap depth) session).bind _).bind _ =
      _
  rw [hprocess]
  cases endpoint (0 :: path) session.post (sampleCall (depth - 1)) <;> rfl

/-! ## The depth limit -/

/-- The items of an upstream that fails at first and answers the retry with a payment two hops
away. -/
def lateItems (_path : List ℕ) (attempt : ℕ) (query : Query) : Option (List Json) :=
  if attempt = 1 ∧ 2 ≤ query.depth then some [samplePayment 2] else none

/-- The items of an upstream that answers the first call with a swap two hops away and every nested
one with a payment as far away as the query allows. -/
def farItems (path : List ℕ) (_attempt : ℕ) (query : Query) : Option (List Json) :=
  if query.depth < 2 then none
  else if path = [] then some [sampleSwap 2] else some [samplePayment query.depth]

theorem honours_lateItems (htemplate : self.chain.template? = some template) :
    Honours (sampleUpstream self.chain lateItems) self := by
  refine honours_sampleUpstream htemplate ?_
  intro path attempt query answer hanswer item hitem
  unfold lateItems at hanswer
  split at hanswer
  · rename_i hlate
    cases hanswer
    rw [List.mem_singleton.mp hitem]
    exact ⟨2, _, rfl, by omega, hlate.2⟩
  · cases hanswer

theorem honours_farItems (htemplate : self.chain.template? = some template) :
    Honours (sampleUpstream self.chain farItems) self := by
  refine honours_sampleUpstream htemplate ?_
  intro path attempt query answer hanswer item hitem
  unfold farItems at hanswer
  split at hanswer
  · cases hanswer
  · rename_i hdepth
    split at hanswer
    · cases hanswer
      rw [List.mem_singleton.mp hitem]
      exact ⟨2, _, rfl, by omega, by omega⟩
    · cases hanswer
      rw [List.mem_singleton.mp hitem]
      exact ⟨query.depth, _, rfl, by omega, by omega⟩

/-- With limit one the retry asks for depth two. -/
theorem not_respectsDepth_of_one (htemplate : self.chain.template? = some template)
    (hone : self.originalDepth = 1) : ¬ RespectsDepth self := by
  intro hrespects
  have hstart : (0 : ℤ) < (Session.start self).depth := by
    show 0 < self.originalDepth
    omega
  have hretry : ∀ query : Query, query.depth = max 2 (self.originalDepth / 2) →
      lateItems [] 1 query = some [samplePayment 2] := by
    intro query hquery
    exact if_pos ⟨rfl, by omega⟩
  obtain ⟨session, hcall⟩ := callGraphqlEndpoint_of_retry htemplate hstart
    (rfl : (NestedCall.mk (.str "0xa1") (.str "") sampleDate 0).fromTime = sampleDate)
    (fun query => if_neg (by omega)) hretry 0
  obtain ⟨row, hrow, hprocess⟩ := processItems_samplePayment htemplate 2
  rw [hprocess] at hcall
  have hwithin := hrespects _ (honours_lateItems htemplate) 1 _ _ _ _ _ hcall row
    (List.mem_singleton.mpr rfl)
  simp only at hrow
  omega

/-- With a larger limit the nested query of a swap leads beyond it. -/
theorem not_respectsDepth_of_tracesSwaps (hchain : self.chain.tracesSwaps = true)
    (hlimit : 2 ≤ self.originalDepth) : ¬ RespectsDepth self := by
  intro hrespects
  have htemplate : self.chain.template? = some .ethereumLike := template?_of_tracesSwaps hchain
  have hstart : (0 : ℤ) < (Session.start self).depth := by
    show 0 < self.originalDepth
    omega
  have hfirst : ∀ query : Query, query.depth = self.originalDepth →
      farItems [] 0 query = some [sampleSwap 2] := by
    intro query hquery
    unfold farItems
    rw [if_neg (by omega), if_pos rfl]
  have hsecond : ∀ query : Query, query.depth = self.originalDepth →
      farItems [0] 0 query = some [samplePayment self.originalDepth] := by
    intro query hquery
    unfold farItems
    rw [if_neg (by omega), if_neg (by simp), hquery]
  -- the first call returns the swap and follows it with offset one
  obtain ⟨session₁, hdepth₁, houter⟩ := callGraphqlEndpoint_of_answer htemplate hstart
    (rfl : (NestedCall.mk (.str "0xa1") (.str "") sampleDate 0).fromTime = sampleDate) hfirst 1
  obtain ⟨first, response, hprocess⟩ := processItems_sampleSwap hchain 2
    (callGraphqlEndpoint (sampleUpstream self.chain farItems) self 1)
  -- the nested one asks for the whole limit again
  have hguard : (sampleCall (2 - 1)).initialDepth < session₁.post.depth := by
    show (2 - 1 : ℤ) < session₁.depth
    omega
  obtain ⟨session₂, -, hinner⟩ := callGraphqlEndpoint_of_answer htemplate hguard rfl hsecond 0
  obtain ⟨row, hrow, hpayment⟩ := processItems_samplePayment htemplate self.originalDepth
  rw [hpayment] at hinner
  rw [hprocess, hinner] at houter
  have hwithin := hrespects _ (honours_farItems htemplate) 2 _ _ _ _ _ houter row (by
    simp [mem_rows_list, collectSwaps, joinNested, Pool.gather, Pool.Outcome.hasRaised,
      Pool.Outcome.toList])
  have hoffset : (sampleCall (2 - 1)).initialDepth = 1 := rfl
  omega

/-- **Who keeps the depth limit.**  An interface with a positive limit returns only rows within it,
whatever an honouring upstream does, exactly when its chain is never queried, or when the limit is
at least two and the chain is not one whose swaps are followed.  On every chain, a limit of at least
two is kept with an upstream that answers no swaps. -/
theorem respectsDepth_iff (self : GraphQLInterface) (hlimit : 1 ≤ self.originalDepth) :
    (RespectsDepth self ↔
      self.chain.template? = none ∨ (2 ≤ self.originalDepth ∧ self.chain.tracesSwaps = false)) ∧
    ∀ upstream, Honours upstream self → 2 ≤ self.originalDepth → SwapFree upstream self →
      KeepsWithin upstream self := by
  refine ⟨⟨?_, ?_⟩, fun upstream hhonours hfloor hfree =>
    keepsWithin_of_swapFree hfree hhonours hfloor⟩
  · intro hrespects
    by_contra hnot
    rw [not_or, not_and, Bool.not_eq_false, ← ne_eq, Option.ne_none_iff_exists'] at hnot
    obtain ⟨⟨template, htemplate⟩, htraces⟩ := hnot
    by_cases hone : self.originalDepth = 1
    · exact not_respectsDepth_of_one htemplate hone hrespects
    · exact not_respectsDepth_of_tracesSwaps (htraces (by omega)) (by omega) hrespects
  · intro hcondition upstream hhonours
    rcases hcondition with hnone | ⟨hfloor, htraces⟩
    · exact keepsWithin_of_template?_eq_none hnone
    · exact keepsWithin_of_swapFree (swapFree_of_not_tracesSwaps htraces) hhonours hfloor

/-- An interface with a chain and a limit. -/
def sampleInterface (chain : Chain) (depthLimit : ℤ) : GraphQLInterface where
  chain := chain
  source := false
  originalDepth := depthLimit
  originalLimit := 10000
  tillTime := "2023-12-31T00:00:00"

theorem respectsDepth_iff_btc :
    (RespectsDepth (sampleInterface .btc 5) ↔
      Chain.template? .btc = none ∨ (2 ≤ (5 : ℤ) ∧ Chain.tracesSwaps .btc = false)) ∧
    ∀ upstream, Honours upstream (sampleInterface .btc 5) → 2 ≤ (5 : ℤ) →
      SwapFree upstream (sampleInterface .btc 5) → KeepsWithin upstream (sampleInterface .btc 5) :=
  respectsDepth_iff (sampleInterface .btc 5) (by decide)

theorem not_respectsDepth_samples :
    ¬ RespectsDepth (sampleInterface .btc 1) ∧ ¬ RespectsDepth (sampleInterface .eth 2) :=
  ⟨not_respectsDepth_of_one (rfl : Chain.template? .btc = some .bitcoinLike) rfl,
    not_respectsDepth_of_tracesSwaps rfl (by decide)⟩

/-! ## The end of the recursion -/

/-- The items of an upstream that answers every call with a swap one hop away. -/
def loopItems (_path : List ℕ) (_attempt : ℕ) (query : Query) : Option (List Json) :=
  if 1 ≤ query.depth then some [sampleSwap 1] else none

theorem honours_loopItems (htemplate : self.chain.template? = some template) :
    Honours (sampleUpstream self.chain loopItems) self := by
  refine honours_sampleUpstream htemplate ?_
  intro path attempt query answer hanswer item hitem
  unfold loopItems at hanswer
  split at hanswer
  · rename_i hdepth
    cases hanswer
    rw [List.mem_singleton.mp hitem]
    exact ⟨1, _, rfl, le_refl _, hdepth⟩
  · cases hanswer

/-- The offset of every nested call is zero, so the guard lets all of them pass: no bound on the
nesting is enough. -/
theorem callGraphqlEndpoint_loopItems (hchain : self.chain.tracesSwaps = true)
    (hlimit : 1 ≤ self.originalDepth) (fuel : ℕ) (path : List ℕ) (session : Session)
    (call : NestedCall) (hguard : call.initialDepth < session.depth)
    (hdate : call.fromTime = sampleDate) :
    callGraphqlEndpoint (sampleUpstream self.chain loopItems) self fuel path session call =
      none := by
  induction fuel generalizing path session call with
  | zero => rfl
  | succ fuel ih =>
      have hanswer : ∀ query : Query, query.depth = self.originalDepth →
          loopItems path 0 query = some [sampleSwap 1] := by
        intro query hquery
        exact if_pos (by omega)
      obtain ⟨session', hdepth, hcall⟩ := callGraphqlEndpoint_of_answer
        (template?_of_tracesSwaps hchain) hguard hdate hanswer fuel
      obtain ⟨first, response, hprocess⟩ := processItems_sampleSwap hchain 1
        (callGraphqlEndpoint (sampleUpstream self.chain loopItems) self fuel)
      have hnested : (sampleCall (1 - 1)).initialDepth < session'.post.depth := by
        show (1 - 1 : ℤ) < session'.depth
        omega
      rw [hcall, hprocess, ih (0 :: path) _ _ hnested rfl]
      rfl

/-- A call that follows swaps need not come back. -/
theorem not_terminates_of_tracesSwaps (hchain : self.chain.tracesSwaps = true)
    (hlimit : 1 ≤ self.originalDepth) : ¬ Terminates self := by
  intro hterminates
  obtain ⟨fuel, outcome, hcall⟩ := hterminates _
    (honours_loopItems (template?_of_tracesSwaps hchain)) (.str "0xa1") (.str "") sampleDate
  have hguard : (0 : ℤ) < (Session.start self).depth := by
    show 0 < self.originalDepth
    omega
  rw [callFromStart, callGraphqlEndpoint_loopItems hchain hlimit fuel [] _ _ hguard rfl] at hcall
  cases hcall

/-- **When swap tracing terminates.**  Every call of an interface comes back, whatever an honouring
upstream does, exactly when the limit keeps it from sending anything or its chain is not one whose
swaps are followed.  On every chain, every call comes back with an upstream that answers no
swaps. -/
theorem terminates_iff (self : GraphQLInterface) :
    (Terminates self ↔ self.originalDepth ≤ 0 ∨ self.chain.tracesSwaps = false) ∧
    ∀ upstream, SwapFree upstream self → ComesBack upstream self := by
  refine ⟨⟨?_, ?_⟩, fun upstream hfree => comesBack_of_swapFree hfree⟩
  · intro hterminates
    by_contra hnot
    rw [not_or, not_le, Bool.not_eq_false] at hnot
    exact not_terminates_of_tracesSwaps hnot.2 (by omega) hterminates
  · intro hcondition upstream hhonours
    rcases hcondition with hlimit | htraces
    · intro address tokenAddress fromTime
      refine ⟨1, (.list [], Session.start self), ?_⟩
      rw [callFromStart_succ]
      exact if_pos hlimit
    · exact comesBack_of_swapFree (swapFree_of_not_tracesSwaps htraces)

theorem not_terminates_eth : ¬ Terminates (sampleInterface .eth 3) :=
  not_terminates_of_tracesSwaps rfl (by decide)

end CatvService.GraphQL
