import CatvService.GraphQL.Endpoint
import Mathlib.Logic.Relation

/-!
# The calls of a run

A run of `call_graphql_endpoint` is a tree of calls: each goes through the items of one answer and
makes a nested call for each of its swaps whose trade is found.  This module names the calls of a
run and what each of them gets from its answer and from its swaps.
-/

namespace CatvService.GraphQL

open PyValue

variable (upstream : Upstream) (self : GraphQLInterface)

/-! ## The calls of a run -/

/-- What an attempt reads before any swap is followed. -/
inductive Reading where
  | failed (session : Session)
  | nothing
  | items (items : List Json) (session : Session)

/-- One attempt of `call_graphql_endpoint`, as far as the items of its answer. -/
def reading (path : List ℕ) (call : NestedCall) (retryCount : ℕ) (currentDepth currentLimit : ℤ)
    (session : Session) : Reading :=
  let session := upstream.found path (retryCount + 1) (session.bound currentDepth currentLimit)
  match graphqlQueryBuilder self session ((upstream.randint path retryCount).val + 1) call.address
      call.tokenAddress call.fromTime with
  | none => .nothing
  | some query =>
      match upstream.coinpath path retryCount query with
      | .failed => .failed session.post
      | .raised => .nothing
      | .answered response =>
          match coinpathItems self.chain response with
          | .error _ => .nothing
          | .ok items => .items items session.post

/-- The items that the loop of `call_graphql_endpoint` goes through and the session it has by then,
from the attempt `retry_count` on; `none` if it returns without. -/
def answered (path : List ℕ) (call : NestedCall) :
    ℕ → ℕ → ℤ → ℤ → Session → Option (List Json × Session)
  | retriesLeft, retryCount, currentDepth, currentLimit, session =>
      match reading upstream self path call retryCount currentDepth currentLimit session with
      | .nothing => none
      | .items items session => some (items, session)
      | .failed session =>
          match retriesLeft with
          | 0 => none
          | retriesLeft + 1 =>
              answered path call retriesLeft (retryCount + 1) (max 2 (currentDepth / 2))
                (max 100 (currentLimit / 2)) session

/-- A call of `call_graphql_endpoint` in a run; its nested calls may nest `nesting` deep. -/
structure CallState where
  nesting : ℕ
  path : List ℕ
  session : Session
  call : NestedCall

namespace CallState

/-- What the call comes to. -/
def run (state : CallState) : Option (CallResult × Session) :=
  callGraphqlEndpoint upstream self (state.nesting + 1) state.path state.session state.call

/-- The items of the answer to the call, if its guard lets it ask. -/
def answer (state : CallState) : Option (List Json × Session) :=
  let session := upstream.found state.path 0 state.session
  if state.call.initialDepth ≥ session.depth then none
  else answered upstream self state.path state.call maxRetries 0 self.originalDepth
    self.originalLimit session

/-- The endpoint of the nested calls. -/
def nested (state : CallState) (i : ℕ) : Endpoint :=
  callGraphqlEndpoint upstream self state.nesting (i :: state.path)

/-- The swaps of an answer to the call. -/
def swaps (state : CallState) (items : List Json) : List Json :=
  possibleSwaps self.chain state.call.initialDepth state.call.tokenAddress items

end CallState

/-- The call comes to its `i`-th swap, with the session that its answer leaves. -/
def Follows (state : CallState) (i : ℕ) (swap : Json) (session : Session) : Prop :=
  ∃ items, state.answer upstream self = some (items, session) ∧
    (state.swaps self items)[i]? = some swap

/-- The trade of the `i`-th swap is found. -/
def TradeFound (state : CallState) (i : ℕ) (swap : Json) (start : SwapStart) (trade : DexTrade) :
    Prop :=
  swapStart self.chain swap = .ok start ∧
    ∃ document, upstream.dexTrades state.path i start.txHash = .answered document ∧
      readDexTrades self.chain swap document = .ok (some trade)

/-- The arguments of the call that is nested below a swap. -/
def callBelow (start : SwapStart) (trade : DexTrade) : NestedCall :=
  ⟨start.sender, trade.finalCurrencyAddress, trade.fromTime, start.initialDepth⟩

/-- The nested call of the `i`-th swap, which is processed with the given session. -/
def CallState.below (state : CallState) (i : ℕ) (session : Session) (call : NestedCall) :
    CallState :=
  ⟨state.nesting - 1, i :: state.path, session.post, call⟩

/-- One of the swaps of a call makes a nested call. -/
def NestedStep (state next : CallState) : Prop :=
  ∃ i swap session start trade, Follows upstream self state i swap session ∧
    TradeFound upstream self state i swap start trade ∧ 0 < state.nesting ∧
    next = state.below i session (callBelow start trade)

/-- The call that `get_transactions` makes. -/
def CallState.ofStart (self : GraphQLInterface) (nesting : ℕ)
    (address tokenAddress fromTime : Json) : CallState :=
  ⟨nesting, [], Session.start self, ⟨address, tokenAddress, fromTime, 0⟩⟩

variable {upstream self} {chain : Chain} {path : List ℕ} {call : NestedCall} {session : Session}
  {state : CallState} {swap item : Json} {i : ℕ}

theorem run_ofStart (upstream : Upstream) (self : GraphQLInterface) (nesting : ℕ)
    (address tokenAddress fromTime : Json) :
    (CallState.ofStart self nesting address tokenAddress fromTime).run upstream self =
      callFromStart upstream self (nesting + 1) address tokenAddress fromTime :=
  rfl

/-! ## Rows of a call -/

/-- The items are those of an answer. -/
def Sent (upstream : Upstream) (self : GraphQLInterface) (path : List ℕ) (items : List Json) :
    Prop :=
  ∃ attempt query response, upstream.coinpath path attempt query = .answered response ∧
    coinpathItems self.chain response = .ok items

/-- An attempt does with its reading what the nested calls have no influence on. -/
theorem attempt_of_reading (upstream : Upstream) (self : GraphQLInterface) (path : List ℕ)
    (call : NestedCall) (retryCount : ℕ) (currentDepth currentLimit : ℤ) (session : Session) :
    (∃ session', reading upstream self path call retryCount currentDepth currentLimit session =
        .failed session' ∧ ∀ endpoint, attempt upstream self endpoint path call retryCount
          currentDepth currentLimit session = .failed session') ∨
      (reading upstream self path call retryCount currentDepth currentLimit session = .nothing ∧
        ∃ outcome, outcome.1.rows = [] ∧ ∀ endpoint, attempt upstream self endpoint path call
          retryCount currentDepth currentLimit session = .returned (some outcome)) ∨
      ∃ items session', reading upstream self path call retryCount currentDepth currentLimit
          session = .items items session' ∧ Sent upstream self path items ∧
        ∀ endpoint, attempt upstream self endpoint path call retryCount currentDepth currentLimit
          session = .returned (processItems upstream self endpoint path call items session') := by
  unfold reading attempt
  dsimp only
  cases hquery : graphqlQueryBuilder self
      (upstream.found path (retryCount + 1) (session.bound currentDepth currentLimit))
      ((upstream.randint path retryCount).val + 1) call.address call.tokenAddress call.fromTime with
  | none => exact .inr (.inl ⟨rfl, _, rfl, fun _ => rfl⟩)
  | some query =>
      dsimp only
      cases hreply : upstream.coinpath path retryCount query with
      | failed => exact .inl ⟨_, rfl, fun _ => rfl⟩
      | raised => exact .inr (.inl ⟨rfl, _, rfl, fun _ => rfl⟩)
      | answered response =>
          dsimp only
          cases hitems : coinpathItems self.chain response with
          | error e => exact .inr (.inl ⟨rfl, _, rows_unreadResponse response, fun _ => rfl⟩)
          | ok items =>
              exact .inr (.inr ⟨items, _, rfl, ⟨retryCount, query, response, hreply, hitems⟩,
                fun _ => rfl⟩)

theorem attempts_of_answered (upstream : Upstream) (self : GraphQLInterface) (path : List ℕ)
    (call : NestedCall) (retriesLeft retryCount : ℕ) (currentDepth currentLimit : ℤ)
    (session : Session) :
    (answered upstream self path call retriesLeft retryCount currentDepth currentLimit session =
        none ∧ ∃ outcome, outcome.1.rows = [] ∧
          ∀ endpoint, attempts upstream self endpoint path call
          retriesLeft retryCount currentDepth currentLimit session = some outcome) ∨
      ∃ items session', answered upstream self path call retriesLeft retryCount currentDepth
          currentLimit session = some (items, session') ∧ Sent upstream self path items ∧
        ∀ endpoint, attempts upstream self endpoint path call retriesLeft retryCount currentDepth
          currentLimit session = processItems upstream self endpoint path call items session' := by
  induction retriesLeft generalizing retryCount currentDepth currentLimit session with
  | zero =>
      unfold answered attempts
      rcases attempt_of_reading upstream self path call retryCount currentDepth currentLimit
        session with
        ⟨session', hreading, hattempt⟩ | ⟨hreading, outcome, hrows, hattempt⟩ |
        ⟨items, session', hreading, hsent, hattempt⟩
      · exact .inl ⟨by rw [hreading], (.list [], session'), rfl, fun endpoint => by rw [hattempt]⟩
      · exact .inl ⟨by rw [hreading], outcome, hrows, fun endpoint => by rw [hattempt]⟩
      · exact .inr ⟨items, session', by rw [hreading], hsent, fun endpoint => by rw [hattempt]⟩
  | succ retriesLeft ih =>
      unfold answered attempts
      rcases attempt_of_reading upstream self path call retryCount currentDepth currentLimit
        session with
        ⟨session', hreading, hattempt⟩ | ⟨hreading, outcome, hrows, hattempt⟩ |
        ⟨items, session', hreading, hsent, hattempt⟩
      · simp only [hreading, hattempt]
        -- both functions go on with the smaller bounds
        exact ih (retryCount + 1) (max 2 (currentDepth / 2)) (max 100 (currentLimit / 2)) session'
      · exact .inl ⟨by rw [hreading], outcome, hrows, fun endpoint => by rw [hattempt]⟩
      · exact .inr ⟨items, session', by rw [hreading], hsent, fun endpoint => by rw [hattempt]⟩

theorem run_of_answer (upstream : Upstream) (self : GraphQLInterface) (state : CallState) :
    (state.answer upstream self = none ∧
        ∃ outcome, outcome.1.rows = [] ∧ state.run upstream self = some outcome) ∨
      ∃ items session', state.answer upstream self = some (items, session') ∧
        Sent upstream self state.path items ∧
        state.run upstream self =
          processItems upstream self (callGraphqlEndpoint upstream self state.nesting) state.path
            state.call items session' := by
  unfold CallState.run CallState.answer callGraphqlEndpoint
  dsimp only
  by_cases hguard : state.call.initialDepth ≥ (upstream.found state.path 0 state.session).depth
  · rw [if_pos hguard, if_pos hguard]
    -- the guard returns before anything is asked
    exact .inl ⟨rfl, _, rfl, rfl⟩
  · rw [if_neg hguard, if_neg hguard]
    rcases attempts_of_answered upstream self state.path state.call maxRetries 0 self.originalDepth
      self.originalLimit (upstream.found state.path 0 state.session) with
      ⟨hnone, outcome, hrows, hattempts⟩ | ⟨items, session', hsome, hsent, hattempts⟩
    · exact .inl ⟨hnone, outcome, hrows, hattempts _⟩
    · exact .inr ⟨items, session', hsome, hsent, hattempts _⟩

/-- What the pool collects was contributed by one of the swaps. -/
theorem exists_processSwap_of_mem {endpoint : ℕ → Endpoint} {dexTrades : ℕ → Json → Reply}
    {swaps : List Json} {k : ℕ} {session' : Session} {results : List SwapResult}
    {result : SwapResult}
    (hrun : mapSwaps chain endpoint dexTrades swaps k session = some (results, session'))
    (hresult : result ∈ results) :
    ∃ i swap session₁, swaps[i]? = some swap ∧
      processSwap chain (endpoint (k + i)) (dexTrades (k + i)) swap session =
        some (result, session₁) := by
  induction swaps generalizing k session' results with
  | nil =>
      cases hrun
      cases hresult
  | cons swap swaps ih =>
      obtain ⟨⟨first, session₁⟩, hfirst, hrest⟩ := Option.bind_eq_some_iff.mp hrun
      obtain ⟨⟨others, session₂⟩, hothers, hpure⟩ := Option.bind_eq_some_iff.mp hrest
      cases hpure
      rcases List.mem_cons.mp hresult with rfl | hlater
      · exact ⟨0, swap, session₁, rfl, hfirst⟩
      · obtain ⟨i, later, session₃, hlater', hprocess⟩ := ih hothers hlater
        refine ⟨i + 1, later, session₃, hlater', ?_⟩
        have hplace : k + (i + 1) = k + 1 + i := by omega
        rw [hplace]
        exact hprocess

/-- A list is returned if `pool.map` does not raise, and it is made of both parts. -/
theorem eq_append_of_collectSwaps {initialData elements : List Element} {results : List SwapResult}
    (hcollect : collectSwaps initialData results = .list elements) :
    elements = initialData ++ results.flatMap Pool.Outcome.toList := by
  unfold collectSwaps at hcollect
  split at hcollect
  · rename_i collected hgather
    cases hcollect
    exact (Pool.gather_eq_some_iff.mp hgather).2
  · cases hcollect

theorem exists_list_of_mem_rows {result : CallResult} {row : FlatRow} (hrow : row ∈ result.rows) :
    ∃ elements, result = .list elements ∧ .row row ∈ elements := by
  cases result with
  | list elements => exact ⟨elements, rfl, mem_rows_list.mp hrow⟩
  | other document => cases hrow
  | raised => cases hrow

/-- **The rows of a call are those of its answer and those that its swaps contribute.** -/
theorem exists_of_mem_rows {result : CallResult} {session' : Session} {row : FlatRow}
    (hrun : state.run upstream self = some (result, session')) (hrow : row ∈ result.rows) :
    ∃ items start, state.answer upstream self = some (items, start) ∧
      Sent upstream self state.path items ∧
      ((∃ item ∈ items, ∃ flattened, flattenNode self.chain state.call.initialDepth item
          state.call.tokenAddress = some flattened ∧ flattened.row = row) ∨
        ∃ i swap session₁ session₂ outcome, Follows upstream self state i swap session₁ ∧
          processSwap self.chain (state.nested upstream self i) (upstream.dexTrades state.path i)
            swap session₁ = some (outcome, session₂) ∧ .row row ∈ outcome.toList) := by
  rcases run_of_answer upstream self state with
    ⟨-, outcome, hrows, hstate⟩ | ⟨items, start, hanswer, hsent, hstate⟩
  · rw [hstate] at hrun
    cases hrun
    rw [hrows] at hrow
    cases hrow
  · refine ⟨items, start, hanswer, hsent, ?_⟩
    rw [hstate] at hrun
    obtain ⟨⟨results, session₂⟩, hmap, hcollect⟩ := Option.bind_eq_some_iff.mp hrun
    obtain ⟨elements, hlist, hmem⟩ := exists_list_of_mem_rows hrow
    rw [hlist] at hcollect
    rw [eq_append_of_collectSwaps (congrArg Prod.fst (Option.some.inj hcollect))] at hmem
    -- the rows of the items come first, the contributions behind them
    rcases List.mem_append.mp hmem with hplain | hswap
    · obtain ⟨item, hitem, hmapped⟩ := List.mem_filterMap.mp hplain
      obtain ⟨flattened, hflatten, heq⟩ := Option.map_eq_some_iff.mp hmapped
      cases heq
      exact .inl ⟨item, hitem, flattened, hflatten, rfl⟩
    · obtain ⟨outcome, houtcome, hmem⟩ := List.mem_flatMap.mp hswap
      obtain ⟨i, swap, session₁, hget, hprocess⟩ := exists_processSwap_of_mem hmap houtcome
      rw [Nat.zero_add] at hprocess
      exact .inr ⟨i, swap, start, session₁, outcome, ⟨items, hanswer, hget⟩, hprocess, hmem⟩

theorem run_of_answer_eq_some {items : List Json} {first : Session}
    (hanswer : state.answer upstream self = some (items, first)) :
    Sent upstream self state.path items ∧
      state.run upstream self = processItems upstream self
        (callGraphqlEndpoint upstream self state.nesting) state.path state.call items first := by
  rcases run_of_answer upstream self state with ⟨hnone, -⟩ | ⟨items', first', hsome, hsent, hstate⟩
  · rw [hnone] at hanswer
    cases hanswer
  · rw [hanswer] at hsome
    cases hsome
    exact ⟨hsent, hstate⟩

theorem mem_rows_of_mem_answer {items : List Json} {first session' : Session}
    {elements : List Element}
    (hanswer : state.answer upstream self = some (items, first))
    (hrun : state.run upstream self = some (.list elements, session')) (hitem : item ∈ items)
    {flattened : Flattened} (hflatten : flattenNode self.chain state.call.initialDepth item
      state.call.tokenAddress = some flattened) : .row flattened.row ∈ elements := by
  rw [(run_of_answer_eq_some hanswer).2] at hrun
  obtain ⟨⟨results, session₂⟩, -, hcollect⟩ := Option.bind_eq_some_iff.mp hrun
  rw [eq_append_of_collectSwaps (congrArg Prod.fst (Option.some.inj hcollect))]
  refine List.mem_append_left _ (List.mem_filterMap.mpr ⟨item, hitem, ?_⟩)
  rw [hflatten]
  rfl

/-! ## What a swap contributes -/

theorem exists_own_of_follows (hfollows : Follows upstream self state i swap session) :
    ∃ items own, state.answer upstream self = some (items, session) ∧ swap ∈ items ∧
      flattenNode self.chain state.call.initialDepth swap state.call.tokenAddress = some own ∧
      own.isSwap = true := by
  obtain ⟨items, hanswer, hget⟩ := hfollows
  obtain ⟨hitem, hswap⟩ := List.mem_filter.mp (List.mem_of_getElem? hget)
  split at hswap
  · rename_i own hown
    exact ⟨items, own, hanswer, hitem, hown, hswap⟩
  · cases hswap

variable {start : SwapStart} {trade : DexTrade} {result : SwapResult} {session' : Session}

theorem swapPlan_of_tradeFound (hfound : TradeFound upstream self state i swap start trade) :
    swapPlan self.chain (upstream.dexTrades state.path i) swap =
      .nested (swapRow self.chain swap trade) (callBelow start trade) := by
  obtain ⟨hstart, document, hreply, hread⟩ := hfound
  unfold swapPlan
  rw [hstart]
  dsimp only
  rw [hreply]
  dsimp only
  rw [hread]
  rfl

/-- A swap is followed by a nested call where its trade is found, and contributes nothing
elsewhere. -/
theorem swapPlan_cases (upstream : Upstream) (self : GraphQLInterface) (state : CallState) (i : ℕ)
    (swap : Json) :
    (∃ result : SwapResult, swapPlan self.chain (upstream.dexTrades state.path i) swap =
        .done result ∧ result.toList = []) ∨
      ∃ start trade, TradeFound upstream self state i swap start trade := by
  unfold swapPlan
  cases hstart : swapStart self.chain swap with
  | error e => exact .inl ⟨_, rfl, rfl⟩
  | ok start =>
      dsimp only
      cases hreply : upstream.dexTrades state.path i start.txHash with
      | failed => exact .inl ⟨_, rfl, rfl⟩
      | raised => exact .inl ⟨_, rfl, rfl⟩
      | answered document =>
          dsimp only
          cases hread : readDexTrades self.chain swap document with
          | error e => exact .inl ⟨_, rfl, rfl⟩
          | ok found =>
              cases found with
              | none => exact .inl ⟨_, rfl, rfl⟩
              | some trade => exact .inr ⟨start, trade, hstart, document, hreply, hread⟩

theorem processSwap_of_tradeFound (hfound : TradeFound upstream self state i swap start trade)
    (session : Session) :
    processSwap self.chain (state.nested upstream self i) (upstream.dexTrades state.path i) swap
        session =
      (state.nested upstream self i session.post (callBelow start trade)).bind fun outcome =>
        some (joinNested (swapRow self.chain swap trade) outcome.1, outcome.2) := by
  unfold processSwap
  rw [swapPlan_of_tradeFound hfound, hfound.1]
  rfl

/-- **What a swap contributes** is the row that is made of it and what the nested call returns. -/
theorem exists_of_mem_contribution
    (hprocess : processSwap self.chain (state.nested upstream self i)
      (upstream.dexTrades state.path i) swap session = some (result, session'))
    {element : Element} (helement : element ∈ result.toList) :
    ∃ start trade elements, TradeFound upstream self state i swap start trade ∧
      state.nested upstream self i session.post (callBelow start trade) =
        some (.list elements, session') ∧
      (element ∈ swapRow self.chain swap trade ∨ element ∈ elements) := by
  rcases swapPlan_cases upstream self state i swap with
    ⟨done, hplan, hempty⟩ | ⟨start, trade, hfound⟩
  · unfold processSwap at hprocess
    rw [hplan] at hprocess
    cases hprocess
    rw [hempty] at helement
    cases helement
  · rw [processSwap_of_tradeFound hfound] at hprocess
    obtain ⟨⟨nested, session₁⟩, hnested, hjoin⟩ := Option.bind_eq_some_iff.mp hprocess
    cases hjoin
    cases nested with
    | list elements => exact ⟨start, trade, elements, hfound, hnested, List.mem_append.mp helement⟩
    -- without a list the handler drops the reversed row as well
    | other document => cases helement
    | raised => cases helement

/-- A nested call that comes back is one of the calls of the run. -/
theorem run_below {call : NestedCall} {outcome : CallResult × Session}
    (hnested : state.nested upstream self i session call = some outcome) :
    0 < state.nesting ∧ ∀ session₀ : Session, session₀.post = session →
      (state.below i session₀ call).run upstream self = some outcome := by
  unfold CallState.nested at hnested
  cases hnesting : state.nesting with
  | zero =>
      rw [hnesting] at hnested
      cases hnested
  | succ nesting =>
      refine ⟨Nat.succ_pos nesting, ?_⟩
      intro session₀ hsession
      unfold CallState.run CallState.below
      dsimp only
      rw [hsession, hnesting]
      rw [hnesting] at hnested
      exact hnested

end CatvService.GraphQL
