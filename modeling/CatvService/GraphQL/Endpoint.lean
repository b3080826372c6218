import CatvService.GraphQL.Swap
import Mathlib.Tactic.Linarith

/-!
# The coinpath endpoint

`call_graphql_endpoint` asks for the transfers of an address, asks once more with smaller bounds
when the request fails, and hands the swaps of the answer to `get_tx_with_swaps`, whose
`process_swap` calls it again.  The upstream is arbitrary: it may fail at any attempt and answer
every request as it likes.  A request is addressed by the path of swaps that leads to its call.

The calls below the first one run in the workers of pools and share the bounds of the interface.
What a call finds there is arbitrary too, at its guard and at each of its queries, so that nothing
is said about one schedule of the workers only.

Two questions are settled for every interface, over all upstreams that honour the bound of the
query:

* `respectsDepth_iff`: are all the returned rows within the depth limit;
* `terminates_iff`: does the recursion come to an end.
-/

namespace CatvService.GraphQL

open PyValue

/-- Everything the endpoint gets from outside: the answers to its requests, the random seconds of
its dates, and what other workers have written into the bounds since the call set them or was
started, if any has.  `coinpath` is addressed by call and attempt, `dexTrades` by call and swap,
`written` by call and moment: zero is the guard, `a + 1` the query of the attempt `a`. -/
structure Upstream where
  coinpath : List ℕ → ℕ → Query → Reply
  dexTrades : List ℕ → ℕ → Json → Reply
  randint : List ℕ → ℕ → Fin 59
  written : List ℕ → ℕ → Option (ℤ × ℤ)

/-- The session as a call finds it.  The first call has the interface for itself. -/
def Upstream.found (upstream : Upstream) (path : List ℕ) (moment : ℕ) (session : Session) :
    Session :=
  match path, upstream.written path moment with
  | [], _ => session
  | _ :: _, none => session
  | _ :: _, some (depth, limit) => session.bound depth limit

/-- `response["data"][network]["coinpath"]`, as the loop goes through it. -/
def coinpathItems (chain : Chain) (response : Json) : Except PyErr (List Json) := do
  let data ← response.item "data"
  let network ← data.item (← chain.lookup Chain.networkForResponse?)
  (← network.item "coinpath").iter

/-- `flattened_response` after the loop. -/
def flattenedResponse (chain : Chain) (initialDepth : ℤ) (tokenAddress : Json)
    (items : List Json) : List Element :=
  items.filterMap fun item =>
    (flattenNode chain initialDepth item tokenAddress).map fun flattened => .row flattened.row

/-- `possible_swaps` after the loop. -/
def possibleSwaps (chain : Chain) (initialDepth : ℤ) (tokenAddress : Json) (items : List Json) :
    List Json :=
  items.filter fun item =>
    match flattenNode chain initialDepth item tokenAddress with
    | some flattened => flattened.isSwap
    | none => false

/-- What the last handler does with an answer that could not be read: it returns the answer, unless
looking for `errors` in it raises. -/
def unreadResponse (response : Json) : CallResult :=
  match response with
  | .dict _ => .other response
  | .list items =>
      if items.any fun item => item.eq (.str "errors") then .raised else .list (items.map .raw)
  | .str s => if PyText.contains "errors" s then .raised else .other response
  | _ => .raised

/-- `self.max_retries`. -/
def maxRetries : ℕ := 1

variable (upstream : Upstream) (self : GraphQLInterface)

/-- What is done with the items of an answer: the loop that flattens them, and
`get_tx_with_swaps`. -/
def processItems (endpoint : List ℕ → Endpoint) (path : List ℕ) (call : NestedCall)
    (items : List Json) (session : Session) : Option (CallResult × Session) :=
  getTxWithSwaps self.chain (fun i => endpoint (i :: path)) (upstream.dexTrades path)
    (flattenedResponse self.chain call.initialDepth call.tokenAddress items)
    (possibleSwaps self.chain call.initialDepth call.tokenAddress items) session

/-- What one attempt comes to: `call_graphql_endpoint` returns, or the attempt failed and may be
repeated. -/
inductive AttemptOutcome where
  | returned (outcome : Option (CallResult × Session))
  | failed (session : Session)

/-- One round of the loop of `call_graphql_endpoint`. -/
def attempt (endpoint : List ℕ → Endpoint) (path : List ℕ) (call : NestedCall) (retryCount : ℕ)
    (currentDepth currentLimit : ℤ) (session : Session) : AttemptOutcome :=
  let session := upstream.found path (retryCount + 1) (session.bound currentDepth currentLimit)
  match graphqlQueryBuilder self session ((upstream.randint path retryCount).val + 1)
      call.address call.tokenAddress call.fromTime with
  | none => .returned (some (.list [], session))
  | some query =>
      let session := session.post
      match upstream.coinpath path retryCount query with
      | .failed => .failed session
      -- `response` is not bound yet when the handler reads it
      | .raised => .returned (some (.raised, session))
      | .answered response =>
          match coinpathItems self.chain response with
          | .error _ => .returned (some (unreadResponse response, session))
          | .ok items => .returned (processItems upstream self endpoint path call items session)

/-- The loop of `call_graphql_endpoint`, from the attempt `retry_count` on. -/
def attempts (endpoint : List ℕ → Endpoint) (path : List ℕ) (call : NestedCall) :
    ℕ → ℕ → ℤ → ℤ → Session → Option (CallResult × Session)
  | retriesLeft, retryCount, currentDepth, currentLimit, session =>
      match
        attempt upstream self endpoint path call retryCount currentDepth currentLimit session with
      | .returned outcome => outcome
      | .failed session =>
          match retriesLeft with
          | 0 => some (.list [], session)
          | retriesLeft + 1 =>
              attempts endpoint path call retriesLeft (retryCount + 1)
                (max 2 (currentDepth / 2)) (max 100 (currentLimit / 2)) session

/-- `call_graphql_endpoint(address, token_address, from_time, initial_depth)`.  The first argument
bounds how deep calls may nest: `none` is the outcome of a call that nests deeper. -/
def callGraphqlEndpoint : ℕ → List ℕ → Endpoint
  | 0, _, _, _ => none
  | fuel + 1, path, session, call =>
      let session := upstream.found path 0 session
      if call.initialDepth ≥ session.depth then some (.list [], session)
      else attempts upstream self (callGraphqlEndpoint fuel) path call maxRetries 0
        self.originalDepth self.originalLimit session

/-- The call that `get_transactions` makes: on a new interface, with offset zero. -/
def callFromStart (fuel : ℕ) (address tokenAddress fromTime : Json) :
    Option (CallResult × Session) :=
  callGraphqlEndpoint upstream self fuel [] (Session.start self)
    ⟨address, tokenAddress, fromTime, 0⟩

/-- The rows of a returned list. -/
def CallResult.rows : CallResult → List FlatRow
  | .list elements => elements.filterMap fun element =>
      match element with
      | .row row => some row
      | .raw _ => none
  | _ => []

/-! ## What is asked of the endpoint -/

/-- The upstream honours `depth: {lteq: n}`: the items of an answer have a raw depth in `1..n`. -/
def Honours : Prop :=
  ∀ path attempt query response items,
    upstream.coinpath path attempt query = .answered response →
      coinpathItems self.chain response = .ok items →
        ∀ item ∈ items, ∃ depth, item.get "depth" = .ok (some (.int depth)) ∧
          1 ≤ depth ∧ depth ≤ query.depth

/-- Every row that a call returns lies within the depth limit. -/
def KeepsWithin : Prop :=
  ∀ fuel address tokenAddress fromTime result session,
    callFromStart upstream self fuel address tokenAddress fromTime = some (result, session) →
      ∀ row ∈ result.rows, 1 ≤ row.depth ∧ row.depth ≤ self.originalDepth

/-- Every call comes back: some bound on the nesting is enough.  A call then has sent as many
requests as its last session counts. -/
def ComesBack : Prop :=
  ∀ address tokenAddress fromTime,
    ∃ fuel outcome, callFromStart upstream self fuel address tokenAddress fromTime = some outcome

/-- The interface keeps its rows within the limit, whatever an honouring upstream does. -/
def RespectsDepth : Prop :=
  ∀ upstream, Honours upstream self → KeepsWithin upstream self

/-- The calls of the interface come back, whatever an honouring upstream does. -/
def Terminates : Prop :=
  ∀ upstream, Honours upstream self → ComesBack upstream self

/-- No answer holds a swap that `flatten_node` would collect. -/
def SwapFree : Prop :=
  ∀ path attempt query response items,
    upstream.coinpath path attempt query = .answered response →
      coinpathItems self.chain response = .ok items →
        ∀ item ∈ items, self.chain.tracesSwaps = true → isSwaps item = false

variable {upstream self} {chain : Chain} {path : List ℕ} {call : NestedCall}
  {retriesLeft retryCount : ℕ} {currentDepth currentLimit : ℤ} {session : Session}

/-- The first call finds the bounds that it was made with. -/
theorem callFromStart_succ (upstream : Upstream) (self : GraphQLInterface) (fuel : ℕ)
    (address tokenAddress fromTime : Json) :
    callFromStart upstream self (fuel + 1) address tokenAddress fromTime =
      if 0 ≥ self.originalDepth then some (.list [], Session.start self)
      else attempts upstream self (callGraphqlEndpoint upstream self fuel) []
        ⟨address, tokenAddress, fromTime, 0⟩ maxRetries 0 self.originalDepth self.originalLimit
        (Session.start self) :=
  rfl

/-! ## One attempt -/

theorem rows_unreadResponse (response : Json) : (unreadResponse response).rows = [] := by
  unfold unreadResponse
  split
  · rfl
  · split
    · rfl
    · simp [CallResult.rows]
  · split <;> rfl
  · rfl

/-- An attempt fails, or returns without rows, or hands the items of an answer on.  Which of these
it does, the nested calls have no influence on. -/
theorem attempt_cases (upstream : Upstream) (self : GraphQLInterface) (path : List ℕ)
    (call : NestedCall) (retryCount : ℕ) (currentDepth currentLimit : ℤ) (session : Session) :
    (∃ session', ∀ endpoint, attempt upstream self endpoint path call retryCount currentDepth
        currentLimit session = .failed session') ∨
      (∃ outcome, outcome.1.rows = [] ∧ ∀ endpoint, attempt upstream self endpoint path call
        retryCount currentDepth currentLimit session = .returned (some outcome)) ∨
      ∃ query response items session', self.chain.template? = some query.template ∧
        (path = [] → query.depth = currentDepth) ∧
        upstream.coinpath path retryCount query = .answered response ∧
        coinpathItems self.chain response = .ok items ∧
        ∀ endpoint, attempt upstream self endpoint path call retryCount currentDepth currentLimit
          session = .returned (processItems upstream self endpoint path call items session') := by
  unfold attempt
  dsimp only
  split
  · exact .inr (.inl ⟨_, rfl, fun _ => rfl⟩)
  · rename_i query hbuild
    cases hreply : upstream.coinpath path retryCount query with
    | failed => exact .inl ⟨_, fun _ => rfl⟩
    | raised => exact .inr (.inl ⟨_, rfl, fun _ => rfl⟩)
    -- an answer that cannot be read is returned as it is, and has no rows
    | answered response =>
        cases hitems : coinpathItems self.chain response with
        | error e =>
            refine .inr (.inl ⟨(unreadResponse response,
              (upstream.found path (retryCount + 1)
                (session.bound currentDepth currentLimit)).post), rows_unreadResponse response, ?_⟩)
            intro endpoint
            simp only [hitems]
        | ok items =>
            obtain ⟨htemplate, hdepth, -⟩ := graphqlQueryBuilder_eq_some hbuild
            refine .inr (.inr ⟨query, response, items, (upstream.found path (retryCount + 1)
              (session.bound currentDepth currentLimit)).post, htemplate, ?_, hreply, hitems, ?_⟩)
            · rintro rfl
              exact hdepth
            · intro endpoint
              simp only [hitems]

/-- The loop returns without rows, or hands the items of an answer on whose bound is the first one
or covered by the floor of the retries. -/
theorem attempts_cases (upstream : Upstream) (self : GraphQLInterface) (path : List ℕ)
    (call : NestedCall) (retriesLeft retryCount : ℕ) (currentDepth currentLimit : ℤ)
    (session : Session) :
    (∃ outcome, outcome.1.rows = [] ∧ ∀ endpoint, attempts upstream self endpoint path call
        retriesLeft retryCount currentDepth currentLimit session = some outcome) ∨
      ∃ attempt query response items session', self.chain.template? = some query.template ∧
        (path = [] → query.depth ≤ max 2 currentDepth) ∧
        upstream.coinpath path attempt query = .answered response ∧
        coinpathItems self.chain response = .ok items ∧
        ∀ endpoint, attempts upstream self endpoint path call retriesLeft retryCount currentDepth
          currentLimit session = processItems upstream self endpoint path call items session' := by
  induction retriesLeft generalizing retryCount currentDepth currentLimit session with
  | zero =>
      unfold attempts
      rcases attempt_cases upstream self path call retryCount currentDepth currentLimit session with
        ⟨session', hfailed⟩ | ⟨outcome, hrows, hreturned⟩ |
        ⟨query, response, items, session', htemplate, hdepth, hreply, hitems, hanswered⟩
      · exact .inl ⟨(.list [], session'), rfl, fun endpoint => by rw [hfailed]⟩
      · exact .inl ⟨outcome, hrows, fun endpoint => by rw [hreturned]⟩
      · refine .inr ⟨retryCount, query, response, items, session', htemplate, ?_, hreply, hitems,
          fun endpoint => by rw [hanswered]⟩
        intro hpath
        have hsame := hdepth hpath
        omega
  | succ retriesLeft ih =>
      unfold attempts
      rcases attempt_cases upstream self path call retryCount currentDepth currentLimit session with
        ⟨session', hfailed⟩ | ⟨outcome, hrows, hreturned⟩ |
        ⟨query, response, items, session', htemplate, hdepth, hreply, hitems, hanswered⟩
      · simp only [hfailed]
        -- the next attempt asks for at most half, but never for less than two
        rcases ih (retryCount + 1) (max 2 (currentDepth / 2)) (max 100 (currentLimit / 2))
          session' with
          hplain | ⟨attempt, query, response, items, session'', htemplate, hdepth, hrest⟩
        · exact .inl hplain
        · refine .inr ⟨attempt, query, response, items, session'', htemplate, ?_, hrest⟩
          intro hpath
          have hle := hdepth hpath
          omega
      · exact .inl ⟨outcome, hrows, fun endpoint => by rw [hreturned]⟩
      · refine .inr ⟨retryCount, query, response, items, session', htemplate, ?_, hreply, hitems,
          fun endpoint => by rw [hanswered]⟩
        intro hpath
        have hsame := hdepth hpath
        omega

/-! ## The bound on the nesting is harmless -/

/-- Every outcome of the first endpoint is one of the second. -/
def Endpoint.Le (endpoint larger : Endpoint) : Prop :=
  ∀ session call outcome, endpoint session call = some outcome →
    larger session call = some outcome

section Mono

variable {endpoint larger : ℕ → Endpoint}

theorem processSwap_mono {endpoint larger : Endpoint} (hle : endpoint.Le larger)
    {dexTrades : Json → Reply} {swap : Json} {session : Session}
    {outcome : SwapResult × Session}
    (hrun : processSwap chain endpoint dexTrades swap session = some outcome) :
    processSwap chain larger dexTrades swap session = some outcome := by
  unfold processSwap at hrun ⊢
  dsimp only at hrun ⊢
  split
  · rename_i result hplan
    rw [hplan] at hrun
    exact hrun
  · rename_i response call hplan
    rw [hplan] at hrun
    obtain ⟨nested, hnested, hjoin⟩ := Option.bind_eq_some_iff.mp hrun
    exact Option.bind_eq_some_iff.mpr ⟨nested, hle _ _ _ hnested, hjoin⟩

theorem mapSwaps_mono (hle : ∀ i, (endpoint i).Le (larger i)) {dexTrades : ℕ → Json → Reply}
    {swaps : List Json} {i : ℕ} {session : Session} {outcome : List SwapResult × Session}
    (hrun : mapSwaps chain endpoint dexTrades swaps i session = some outcome) :
    mapSwaps chain larger dexTrades swaps i session = some outcome := by
  induction swaps generalizing i session outcome with
  | nil => exact hrun
  | cons swap swaps ih =>
      obtain ⟨first, hfirst, hrest⟩ := Option.bind_eq_some_iff.mp hrun
      obtain ⟨others, hothers, hpure⟩ := Option.bind_eq_some_iff.mp hrest
      exact Option.bind_eq_some_iff.mpr ⟨first, processSwap_mono (hle i) hfirst,
        Option.bind_eq_some_iff.mpr ⟨others, ih hothers, hpure⟩⟩

theorem processItems_mono {endpoint larger : List ℕ → Endpoint}
    (hle : ∀ path, (endpoint path).Le (larger path)) {items : List Json}
    {outcome : CallResult × Session}
    (hrun : processItems upstream self endpoint path call items session = some outcome) :
    processItems upstream self larger path call items session = some outcome := by
  obtain ⟨results, hresults, hpure⟩ := Option.bind_eq_some_iff.mp hrun
  exact Option.bind_eq_some_iff.mpr
    ⟨results, mapSwaps_mono (fun i => hle (i :: path)) hresults, hpure⟩

theorem attempts_mono {endpoint larger : List ℕ → Endpoint}
    (hle : ∀ path, (endpoint path).Le (larger path)) {outcome : CallResult × Session}
    (hrun : attempts upstream self endpoint path call retriesLeft retryCount currentDepth
      currentLimit session = some outcome) :
    attempts upstream self larger path call retriesLeft retryCount currentDepth currentLimit
      session = some outcome := by
  rcases attempts_cases upstream self path call retriesLeft retryCount currentDepth currentLimit
    session with ⟨plain, -, hplain⟩ | ⟨_, _, _, items, session', -, -, -, -, hitems⟩
  · rw [hplain] at hrun ⊢
    exact hrun
  · rw [hitems] at hrun ⊢
    exact processItems_mono hle hrun

theorem callGraphqlEndpoint_succ (fuel : ℕ) (path : List ℕ) :
    (callGraphqlEndpoint upstream self fuel path).Le
      (callGraphqlEndpoint upstream self (fuel + 1) path) := by
  induction fuel generalizing path with
  | zero =>
      intro session call outcome hrun
      cases hrun
  | succ fuel ih =>
      intro session call outcome hrun
      unfold callGraphqlEndpoint at hrun ⊢
      dsimp only at hrun ⊢
      split at hrun
      · rename_i hguard
        rw [if_pos hguard]
        exact hrun
      · rename_i hguard
        rw [if_neg hguard]
        exact attempts_mono ih hrun

/-- A call that comes back within a bound on the nesting has the same outcome under every larger
one. -/
theorem callFromStart_mono {fuel larger : ℕ} (hle : fuel ≤ larger)
    {address tokenAddress fromTime : Json} {outcome : CallResult × Session}
    (hrun : callFromStart upstream self fuel address tokenAddress fromTime = some outcome) :
    callFromStart upstream self larger address tokenAddress fromTime = some outcome := by
  induction larger, hle using Nat.le_induction with
  | base => exact hrun
  | succ larger hle ih => exact callGraphqlEndpoint_succ larger [] _ _ _ ih

end Mono

/-! ## Without swaps -/

theorem swapFree_of_not_tracesSwaps (hchain : self.chain.tracesSwaps = false) :
    SwapFree upstream self := by
  intro path attempt query response items _ _ item _ htraces
  rw [hchain] at htraces
  cases htraces

theorem possibleSwaps_eq_nil {initialDepth : ℤ} {tokenAddress : Json} {items : List Json}
    (hplain : ∀ item ∈ items, chain.tracesSwaps = true → isSwaps item = false) :
    possibleSwaps chain initialDepth tokenAddress items = [] := by
  unfold possibleSwaps
  rw [List.filter_eq_nil_iff]
  intro item hitem
  split
  · rename_i flattened hflatten
    intro hswap
    obtain ⟨htraces, hswaps⟩ := (flattenNode_eq_some hflatten).2 hswap
    rw [hplain item hitem htraces] at hswaps
    cases hswaps
  · simp

theorem processItems_of_swapFree {endpoint : List ℕ → Endpoint} {items : List Json}
    (hplain : ∀ item ∈ items, self.chain.tracesSwaps = true → isSwaps item = false) :
    processItems upstream self endpoint path call items session =
      some (.list (flattenedResponse self.chain call.initialDepth call.tokenAddress items),
        session) := by
  unfold processItems
  rw [possibleSwaps_eq_nil hplain]
  exact getTxWithSwaps_nil _ _ _ _ _

theorem mem_rows_list {elements : List Element} {row : FlatRow} :
    row ∈ (CallResult.list elements).rows ↔ .row row ∈ elements := by
  unfold CallResult.rows
  rw [List.mem_filterMap]
  constructor
  · rintro ⟨element, helement, heq⟩
    cases element with
    | row other =>
        cases heq
        exact helement
    | raw value => cases heq
  · intro hmem
    exact ⟨_, hmem, rfl⟩

theorem depth_of_mem_flattenedResponse {bound : ℤ} {tokenAddress : Json} {items : List Json}
    (hitems : ∀ item ∈ items, ∃ depth, item.get "depth" = .ok (some (.int depth)) ∧
      1 ≤ depth ∧ depth ≤ bound) {row : FlatRow}
    (hrow : .row row ∈ flattenedResponse chain 0 tokenAddress items) :
    1 ≤ row.depth ∧ row.depth ≤ bound := by
  obtain ⟨item, hitem, hmap⟩ := List.mem_filterMap.mp hrow
  obtain ⟨flattened, hflatten, heq⟩ := Option.map_eq_some_iff.mp hmap
  cases heq
  obtain ⟨depth, hget, hpos, hle⟩ := hitems item hitem
  obtain ⟨⟨raw, hraw, hdepth⟩, -⟩ := flattenNode_eq_some hflatten
  rw [safeGet_of_get hget rfl] at hraw
  cases hraw
  rw [hdepth]
  omega

theorem comesBack_of_swapFree (hfree : SwapFree upstream self) : ComesBack upstream self := by
  intro address tokenAddress fromTime
  refine ⟨1, ?_⟩
  rw [callFromStart_succ]
  split
  · exact ⟨_, rfl⟩
  · rcases attempts_cases upstream self [] ⟨address, tokenAddress, fromTime, 0⟩ maxRetries 0
      self.originalDepth self.originalLimit (Session.start self) with
      ⟨plain, -, hplain⟩ | ⟨_, _, _, items, session', -, -, hreply, hitems, hprocess⟩
    · exact ⟨plain, hplain _⟩
    · rw [hprocess, processItems_of_swapFree (hfree _ _ _ _ _ hreply hitems)]
      exact ⟨_, rfl⟩

/-- A row of a call comes from an answer to one of its queries. -/
theorem exists_reply_of_mem_rows {fuel : ℕ} {address tokenAddress fromTime : Json}
    {result : CallResult} {session : Session} {row : FlatRow}
    (hrun : callFromStart upstream self fuel address tokenAddress fromTime = some (result, session))
    (hrow : row ∈ result.rows) :
    ∃ endpoint attempt query response items session', self.chain.template? = some query.template ∧
      query.depth ≤ max 2 self.originalDepth ∧
      upstream.coinpath [] attempt query = .answered response ∧
      coinpathItems self.chain response = .ok items ∧
      processItems upstream self endpoint [] ⟨address, tokenAddress, fromTime, 0⟩ items session' =
        some (result, session) := by
  cases fuel with
  | zero => cases hrun
  | succ fuel =>
      rw [callFromStart_succ] at hrun
      split at hrun
      · cases hrun
        cases hrow
      · rcases attempts_cases upstream self [] ⟨address, tokenAddress, fromTime, 0⟩ maxRetries 0
          self.originalDepth self.originalLimit (Session.start self) with
          ⟨plain, hrows, hplain⟩ |
          ⟨attempt, query, response, items, session', htemplate, hdepth, hreply, hitems, hprocess⟩
        · rw [hplain] at hrun
          cases hrun
          rw [hrows] at hrow
          cases hrow
        · rw [hprocess] at hrun
          exact ⟨_, attempt, query, response, items, session', htemplate, hdepth rfl, hreply,
            hitems, hrun⟩

/-- Without swaps every row of a call lies within the limit, if that is at least the floor of the
retries. -/
theorem keepsWithin_of_swapFree (hfree : SwapFree upstream self)
    (hhonours : Honours upstream self) (hfloor : 2 ≤ self.originalDepth) :
    KeepsWithin upstream self := by
  intro fuel address tokenAddress fromTime result session hrun row hrow
  obtain ⟨_, _, query, _, items, _, -, hdepth, hreply, hitems, hprocess⟩ :=
    exists_reply_of_mem_rows hrun hrow
  rw [processItems_of_swapFree (hfree _ _ _ _ _ hreply hitems)] at hprocess
  cases hprocess
  have hwithin : 1 ≤ row.depth ∧ row.depth ≤ query.depth :=
    depth_of_mem_flattenedResponse (hhonours _ _ _ _ _ hreply hitems) (mem_rows_list.mp hrow)
  omega

/-- A chain without a template is never queried, and no row is returned. -/
theorem keepsWithin_of_template?_eq_none (hnone : self.chain.template? = none) :
    KeepsWithin upstream self := by
  intro fuel address tokenAddress fromTime result session hrun row hrow
  obtain ⟨_, _, query, _, _, _, htemplate, -⟩ := exists_reply_of_mem_rows hrun hrow
  rw [hnone] at htemplate
  cases htemplate

end CatvService.GraphQL
