import CatvService.Library.Dates
import CatvService.Pipeline.Coinpath
import CatvService.Tracer.Requests
import CatvService.Tracer.Swaps

/-!
# The nested requests to Tracer

A chain-keeper request has the swaps of its answer followed: `_process_swap` of
`api/catvutils/tracer_interface.py` calls `get_transactions` again, with the chain, the direction
and the end of the window written out in its own body.

The end is `datetime.now()`, which prints with a blank between date and time, and `get_transactions`
appends a time to it; so no nested request has a well-formed end (`not_isTimestamp_endDatetime`), on
any chain.  `staysOnChain_iff` says when there is no nested request, and when the rows have the sign
of their direction then.
-/

namespace CatvService.Tracer

open Dates Dictionary PyText PyValue Regex

/-! ## The rows of an answer -/

/-- A transaction of an answer: its depth, and the other entries. -/
structure Transaction where
  depth : ℤ
  rest : Obj

namespace Transaction

def toJson (tx : Transaction) : Json :=
  .dict (("depth", .int tx.depth) :: tx.rest)

/-- What the loop of `_process_response` makes of a transaction. -/
def processed (source : Bool) (depth : ℤ) (tx : Transaction) : Transaction :=
  let offset := tx.depth + depth
  { depth := if source then -offset else offset
    rest := tx.rest.filter fun entry => decide (entry.1 ∉ Pipeline.unwantedFields) }

/-- `transaction.get('is_swap') and transaction.get('swap_info')`. -/
def isSwap (tx : Transaction) : Bool :=
  ((Entries.get? "is_swap" tx.rest).getD .null).truthy &&
    ((Entries.get? "swap_info" tx.rest).getD .null).truthy

end Transaction

/-! ## The nested call -/

/-- What `datetime.now()` returns. -/
structure Now where
  time : DateTime
  microsecond : ℕ

/-- A number with zeros in front of it. -/
def padded (width n : ℕ) : String :=
  String.ofList (List.replicate (width - (toString n).length) '0') ++ toString n

/-- `str(now)`. -/
def Now.print (now : Now) : String :=
  padded 4 now.time.year ++ "-" ++ padded 2 now.time.month ++ "-" ++ padded 2 now.time.day ++ " " ++
    padded 2 now.time.hour ++ ":" ++ padded 2 now.time.minute ++ ":" ++ padded 2 now.time.second ++
    if now.microsecond = 0 then "" else "." ++ padded 6 now.microsecond

/-- The arguments of the nested `get_transactions`; the limit is not part of the request. -/
def nestedArguments (now : Now) (call : NestedCall) : TraceArguments where
  address := call.address
  depthLimit := .int 5
  fromTime := call.fromTime
  tillTime := now.print
  tokenAddress := call.tokenAddress
  source := false
  chain := "ETH"
  isCkRequest := false

/-- The nested `get_transactions`, given what Tracer answers.  The depth of a swap has been added up
by then, so it is an integer. -/
def nestedTransactions (now : Now) (answer : TraceRequest → Except PyErr (List Transaction))
    (call : NestedCall) : NestedResult :=
  match call.depth, traceRequest (nestedArguments now call) with
  | .int depth, .ok request =>
      match answer request with
      | .ok transactions => .list (transactions.map fun tx => (tx.processed false depth).toJson)
      | .error _ => .raised
  | _, _ => .raised

/-- The request that `_process_swap(swap)` sends, if it gets that far. -/
def requestOfSwap (now : Now) (swap : Json) : Option TraceRequest :=
  match swapStart swap, createReverseSwapTransactions swap with
  | .ok call, .ok _ => (traceRequest (nestedArguments now call)).toOption
  | _, _ => none

/-- The clock and Tracer, as each of the swaps meets them. -/
structure Service where
  now : ℕ → Now
  answer : ℕ → TraceRequest → Except PyErr (List Transaction)

/-- `swap_transactions`: the same dictionaries as in the rows, so they have been processed. -/
def swapsOf (source : Bool) (transactions : List Transaction) : List Json :=
  ((transactions.map (Transaction.processed source 0)).filter Transaction.isSwap).map
    Transaction.toJson

/-- `_process_response` of a chain-keeper request, which starts with depth zero. -/
def chainKeeperRows (service : Service) (source : Bool) (transactions : List Transaction) :
    Option (List Json) :=
  getTxWithSwaps (fun i => nestedTransactions (service.now i) (service.answer i))
    (transactions.map fun tx => (tx.processed source 0).toJson) (swapsOf source transactions)

/-! ## What is asked of the requests and the rows -/

def digits : CharClass := [('0', '9')]

/-- `^\d{4}-\d{2}-\d{2}T\d{2}:\d{2}:\d{2}(\.\d+)?(Z|[+-]\d{2}:\d{2})$`. -/
def isoPattern : Pattern :=
  .seq .start (.seq (.chars digits 4 (some 4)) (.seq (.text "-") (.seq (.chars digits 2 (some 2))
    (.seq (.text "-") (.seq (.chars digits 2 (some 2)) (.seq (.text "T")
    (.seq (.chars digits 2 (some 2)) (.seq (.text ":") (.seq (.chars digits 2 (some 2))
    (.seq (.text ":") (.seq (.chars digits 2 (some 2))
    (.seq (.opt (.seq (.text ".") (.chars digits 1 none)))
    (.seq (.alt (.text "Z") (.seq (.chars [('+', '+'), ('-', '-')] 1 (some 1))
      (.seq (.chars digits 2 (some 2)) (.seq (.text ":") (.chars digits 2 (some 2))))))
    .stop)))))))))))))

/-- The text is a timestamp of ISO 8601. -/
def IsTimestamp (s : String) : Prop :=
  isoPattern.isMatch s = true ∧ '\n' ∉ s.toList

/-- The text of a start, where it is one. -/
def StartTime.text : StartTime → Option String
  | .asGiven (.str s) => some s
  | .startOfDay (.str s) => some (s ++ "T00:00:00.000Z")
  | _ => none

/-- The request is for the chain, over a well-formed window. -/
structure OnChain (chain : String) (request : TraceRequest) : Prop where
  chainId : request.chainId = (getChainInfo chain).chainId
  chainType : request.chainType = (getChainInfo chain).chainType
  start : ∃ text, request.startDatetime.text = some text ∧ IsTimestamp text
  stop : IsTimestamp request.endDatetime

/-- The depth of the row is at least one, and with the sign of its direction. -/
def HasSign (source : Bool) (row : Json) : Prop :=
  ∃ depth, row.item "depth" = .ok (.int depth) ∧ if source then depth ≤ -1 else 1 ≤ depth

/-- The nested requests are on the chain of the request, and the rows have the sign of its
direction. -/
def StaysOnChain (chain : String) (source : Bool) (service : Service)
    (transactions : List Transaction) : Prop :=
  (∀ i swap request, (swapsOf source transactions)[i]? = some swap →
    requestOfSwap (service.now i) swap = some request → OnChain chain request) ∧
  ∀ rows, chainKeeperRows service source transactions = some rows →
    ∀ row ∈ rows, HasSign source row

/-- The swap can be read and reversed, and its time is one that the request can begin with. -/
def Followed (swap : Json) : Prop :=
  ∃ call reversed start, swapStart swap = .ok call ∧
    createReverseSwapTransactions swap = .ok reversed ∧ startDatetime call.fromTime = .ok start

/-- No swap is followed; and unless one of them cannot even be read, all raw depths are positive. -/
structure NothingFollowed (source : Bool) (transactions : List Transaction) : Prop where
  notFollowed : ∀ swap ∈ swapsOf source transactions, ¬ Followed swap
  depths : (∀ swap ∈ swapsOf source transactions, ∃ call, swapStart swap = .ok call) →
    ∀ tx ∈ transactions, 1 ≤ tx.depth

/-! ## The nested requests -/

variable {now : Now} {swap : Json} {request : TraceRequest} {source : Bool} {service : Service}
  {transactions : List Transaction}

theorem traceRequest_nestedArguments (now : Now) (call : NestedCall) :
    (∃ request, traceRequest (nestedArguments now call) = .ok request) ↔
      ∃ start, startDatetime call.fromTime = .ok start := by
  unfold traceRequest
  simp only [nestedArguments, bind_eq_ok_iff]
  constructor
  · intro hok
    obtain ⟨_, start, hstart, -⟩ := hok
    exact ⟨start, hstart⟩
  · intro hok
    obtain ⟨start, hstart⟩ := hok
    exact ⟨_, start, hstart, rfl⟩

theorem exists_requestOfSwap_iff :
    (∃ request, requestOfSwap now swap = some request) ↔ Followed swap := by
  unfold requestOfSwap Followed
  cases hstart : swapStart swap with
  | error e => simp
  | ok call =>
      cases hreversed : createReverseSwapTransactions swap with
      | error e => simp
      | ok reversed =>
          have htime := traceRequest_nestedArguments now call
          cases hrequest : traceRequest (nestedArguments now call) with
          | error e => simpa [hrequest, Except.toOption] using htime
          | ok request => simpa [hrequest, Except.toOption] using htime

theorem exists_call_of_requestOfSwap (hrequest : requestOfSwap now swap = some request) :
    ∃ call, traceRequest (nestedArguments now call) = .ok request := by
  unfold requestOfSwap at hrequest
  split at hrequest
  · rename_i call _ _ _
    refine ⟨call, ?_⟩
    cases htrace : traceRequest (nestedArguments now call) with
    | error e => simp [htrace, Except.toOption] at hrequest
    | ok r => simpa [htrace, Except.toOption] using hrequest
  · cases hrequest

/-- **Every nested request is for Ethereum.** -/
theorem chain_of_requestOfSwap (hrequest : requestOfSwap now swap = some request) :
    request.chainId = 1 ∧ request.chainType = "evm" := by
  obtain ⟨call, hok⟩ := exists_call_of_requestOfSwap hrequest
  obtain ⟨start, -, hrequest⟩ := bind_eq_ok_iff.mp hok
  cases hrequest
  exact ⟨rfl, rfl⟩

theorem mem_print (now : Now) : ' ' ∈ now.print.toList := by
  unfold Now.print
  simp only [String.toList_append, List.mem_append]
  simp

/-- **No nested request has a well-formed end.** -/
theorem not_isTimestamp_endDatetime (hrequest : requestOfSwap now swap = some request) :
    ¬ IsTimestamp request.endDatetime := by
  intro htimestamp
  have hend : ' ' ∈ request.endDatetime.toList := by
    obtain ⟨call, hok⟩ := exists_call_of_requestOfSwap hrequest
    obtain ⟨start, -, hrequest⟩ := bind_eq_ok_iff.mp hok
    cases hrequest
    show ' ' ∈ (now.print ++ "T23:59:59Z").toList
    rw [String.toList_append]
    exact List.mem_append_left _ (mem_print now)
  -- the printed clock has a blank in it, and the pattern takes none
  have hwithin : isoPattern.within
      [('0', '9'), ('-', '-'), ('T', 'T'), (':', ':'), ('.', '.'), ('Z', 'Z'), ('+', '+')] =
        true := by
    decide
  obtain ⟨body, hbody, hs⟩ := exists_body_of_isMatch hwithin rfl htimestamp.1
  rcases hs with hs | hs
  · rw [hs] at hend
    exact absurd (hbody ' ' hend) (by decide)
  · exact htimestamp.2 (by rw [hs]; simp)

theorem processSwap_of_not_followed {call : NestedCall} (hstart : swapStart swap = .ok call)
    (hnot : ¬ Followed swap) (answer : TraceRequest → Except PyErr (List Transaction)) :
    processSwap (nestedTransactions now answer) swap = .list [] := by
  unfold processSwap
  rw [hstart]
  cases hreversed : createReverseSwapTransactions swap with
  | error e => rfl
  | ok reversed =>
      have hnone : ∀ request, traceRequest (nestedArguments now call) ≠ .ok request := by
        intro request hrequest
        obtain ⟨start, htime⟩ := (traceRequest_nestedArguments now call).mp ⟨request, hrequest⟩
        exact hnot ⟨call, reversed, start, hstart, hreversed, htime⟩
      have hraised : nestedTransactions now answer call = .raised := by
        unfold nestedTransactions
        split
        · rename_i hrequest
          exact absurd hrequest (hnone _)
        · rfl
      simp only [hraised]

/-! ## The rows -/

theorem chainKeeperRows_of_not_followed
    (hnot : ∀ swap ∈ swapsOf source transactions, ¬ Followed swap)
    (hread : ∀ swap ∈ swapsOf source transactions, ∃ call, swapStart swap = .ok call) :
    chainKeeperRows service source transactions =
      some (transactions.map fun tx => (tx.processed source 0).toJson) := by
  refine Pool.gather_of_empty (Pool.forall_mem_mapJobs.mpr fun i swap hswap => ?_)
  have hmem := List.mem_of_getElem? hswap
  obtain ⟨call, hstart⟩ := hread swap hmem
  exact processSwap_of_not_followed hstart (hnot swap hmem) _

/-- Where there are rows, all swaps can be read. -/
theorem exists_swapStart_of_rows {rows : List Json}
    (hrows : chainKeeperRows service source transactions = some rows) :
    ∀ swap ∈ swapsOf source transactions, ∃ call, swapStart swap = .ok call := by
  intro swap hmem
  obtain ⟨i, hswap⟩ := List.getElem?_of_mem hmem
  -- an exception before the `try` of a swap ends the whole pool
  have hnotRaised := Pool.forall_mem_mapJobs.mp (Pool.gather_eq_some_iff.mp hrows).1 i swap hswap
  cases hstart : swapStart swap with
  | ok call => exact ⟨call, rfl⟩
  | error e =>
      simp only [processSwap, hstart] at hnotRaised
      cases hnotRaised

/-- A processed transaction has the sign of its direction exactly when its raw depth is positive. -/
theorem hasSign_processed_iff {tx : Transaction} :
    HasSign source (tx.processed source 0).toJson ↔ 1 ≤ tx.depth := by
  have hitem : (tx.processed source 0).toJson.item "depth" =
      .ok (.int (tx.processed source 0).depth) := rfl
  unfold HasSign
  rw [hitem]
  cases source with
  | false =>
      simp only [Except.ok.injEq, Json.int.injEq, exists_eq_left', Bool.false_eq_true, if_false]
      show 1 ≤ tx.depth + 0 ↔ _
      omega
  | true =>
      simp only [Except.ok.injEq, Json.int.injEq, exists_eq_left', if_true]
      show -(tx.depth + 0) ≤ -1 ↔ _
      omega

/-- **The nested requests stay on the chain, and the rows on their side of zero, exactly when no
swap is followed, and all raw depths are positive unless a swap cannot be read.** -/
theorem staysOnChain_iff (chain : String) (source : Bool) (service : Service)
    (transactions : List Transaction) :
    StaysOnChain chain source service transactions ↔ NothingFollowed source transactions := by
  constructor
  · intro hstays
    obtain ⟨hrequests, hrows⟩ := hstays
    have hnot : ∀ swap ∈ swapsOf source transactions, ¬ Followed swap := by
      intro swap hmem hfollowed
      -- a swap that is followed sends a request, and its end is malformed
      obtain ⟨i, hswap⟩ := List.getElem?_of_mem hmem
      obtain ⟨request, hrequest⟩ := exists_requestOfSwap_iff.mpr hfollowed
      exact not_isTimestamp_endDatetime hrequest (hrequests i swap request hswap hrequest).stop
    refine ⟨hnot, fun hread tx htx => ?_⟩
    have hsign := hrows _ (chainKeeperRows_of_not_followed hnot hread)
      (tx.processed source 0).toJson (List.mem_map_of_mem htx)
    exact hasSign_processed_iff.mp hsign
  · intro hnothing
    refine ⟨fun i swap request hswap hrequest => ?_, fun rows hrows row hrow => ?_⟩
    · exact absurd (exists_requestOfSwap_iff.mp ⟨request, hrequest⟩)
        (hnothing.notFollowed swap (List.mem_of_getElem? hswap))
    · have hread := exists_swapStart_of_rows hrows
      rw [chainKeeperRows_of_not_followed hnothing.notFollowed hread, Option.some_inj] at hrows
      subst hrows
      obtain ⟨tx, htx, rfl⟩ := List.mem_map.mp hrow
      exact hasSign_processed_iff.mpr (hnothing.depths hread tx htx)

/-! ### A swap on BSC -/

/-- A swap of one hop. -/
def sampleTransaction : Transaction where
  depth := 1
  rest := [("tx_hash", .str "0xf1"), ("tx_time", .str "2023-06-01T00:00:00Z"),
    ("sender", .str "0xa1"), ("receiver", .str "0xd1"), ("is_swap", .bool true),
    ("swap_info", .dict [("token_out", .dict [("address", .str "0xc1"), ("symbol", .str "CAKE")]),
      ("amount_out", .int 25)])]

/-- The first afternoon of 2024, and no nested rows. -/
def sampleService : Service where
  now _ := ⟨⟨2024, 1, 1, 15, 30, 0, by decide⟩, 0⟩
  answer _ _ := .ok []

/-- The swap of a request on BSC is followed on Ethereum, until `2024-01-01 15:30:00T23:59:59Z`. -/
theorem not_staysOnChain_sample :
    (requestOfSwap (sampleService.now 0) ((sampleTransaction.processed false 0).toJson)).map
        (fun request => (request.chainId, request.endDatetime)) =
      some (1, "2024-01-01 15:30:00T23:59:59Z") ∧
    (getChainInfo "BSC").chainId = 56 ∧
      ¬ StaysOnChain "BSC" false sampleService [sampleTransaction] := by
  have hrequest : (requestOfSwap (sampleService.now 0)
      ((sampleTransaction.processed false 0).toJson)).map
        (fun request => (request.chainId, request.endDatetime)) =
      some (1, "2024-01-01 15:30:00T23:59:59Z") := by
    decide +kernel
  have hbsc : (getChainInfo "BSC").chainId = 56 := by decide
  refine ⟨hrequest, hbsc, fun hstays => ?_⟩
  obtain ⟨request, hsome, -⟩ := Option.map_eq_some_iff.mp hrequest
  have hchain := (hstays.1 0 _ request rfl hsome).chainId
  rw [hbsc, (chain_of_requestOfSwap hsome).1] at hchain
  cases hchain

end CatvService.Tracer
