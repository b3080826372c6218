import CatvService.GraphQL.ReversedSwap

/-!
# What the swaps add to the rows

`get_tx_with_swaps` keeps the rows it is given and appends rows with both ends exactly when every
swap is sound: it has the fields that are read before the `try`, and where its exchange is found and
its nested query returns a list, it reverses well and the nested rows have both ends
(`keepsRows_iff_swapSound`).  The nested queries are inputs here, as the answers of the exchange
are.
-/

namespace CatvService.GraphQL

open PyValue Dictionary

variable {chain : Chain} {dexTrades : Json → Reply} {nested : NestedCall → CallResult} {swap : Json}

/-! ## One swap -/

/-- What `process_swap` comes to, given the outcome of its nested call. -/
def swapOutcome (chain : Chain) (dexTrades : Json → Reply) (nested : NestedCall → CallResult)
    (swap : Json) : SwapResult :=
  match swapPlan chain dexTrades swap with
  | .done result => result
  | .nested response call => joinNested response (nested call)

/-- The swap has its parts, and its row has both ends. -/
def Reverses (swap newAmount : Json) : Prop :=
  ∃ entries sender receiver transaction depth, swap = .dict entries ∧
    SwapParts entries sender receiver transaction depth ∧
    ReversesWell entries sender receiver depth newAmount

/-- The swap has the fields that are read before the `try`; and where the exchange answers with a
trade of its receiver and the nested query with a list, the swap reverses well and all elements of
the list are rows with both ends. -/
def SwapSound (chain : Chain) (dexTrades : Json → Reply) (nested : NestedCall → CallResult)
    (swap : Json) : Prop :=
  ∃ start, swapStart chain swap = .ok start ∧
    ∀ document trade elements, dexTrades start.txHash = .answered document →
      readDexTrades chain swap document = .ok (some trade) →
        nested ⟨start.sender, trade.finalCurrencyAddress, trade.fromTime, start.initialDepth⟩ =
          .list elements →
        Reverses swap trade.newAmount ∧ ∀ element ∈ elements, element.hasEnds = true

theorem receiver_of_readDexTrades {document : Json} {trade : DexTrade}
    (hread : readDexTrades chain swap document = .ok (some trade)) :
    ∃ receiver address, swap.item "receiver" = .ok receiver ∧
      receiver.item "address" = .ok address := by
  obtain ⟨dexTrades, -, hread⟩ := bind_eq_ok_iff.mp hread
  obtain ⟨count, -, hread⟩ := bind_eq_ok_iff.mp hread
  split at hread
  · cases hread
  · obtain ⟨first, -, hread⟩ := bind_eq_ok_iff.mp hread
    obtain ⟨contract, -, hread⟩ := bind_eq_ok_iff.mp hread
    obtain ⟨receiver, hreceiver, hread⟩ := bind_eq_ok_iff.mp hread
    obtain ⟨address, haddress, -⟩ := bind_eq_ok_iff.mp hread
    exact ⟨receiver, address, hreceiver, haddress⟩

theorem exists_swapParts {start : SwapStart} {document : Json} {trade : DexTrade}
    (hstart : swapStart chain swap = .ok start)
    (hread : readDexTrades chain swap document = .ok (some trade)) :
    ∃ entries sender receiver transaction depth, swap = .dict entries ∧
      SwapParts entries sender receiver transaction depth := by
  obtain ⟨transaction, htransaction, hstart⟩ := bind_eq_ok_iff.mp hstart
  obtain ⟨txHash, htxHash, hstart⟩ := bind_eq_ok_iff.mp hstart
  obtain ⟨depth, hdepth, hstart⟩ := bind_eq_ok_iff.mp hstart
  obtain ⟨initialDepth, hnumber, hstart⟩ := bind_eq_ok_iff.mp hstart
  obtain ⟨sender, hsender, hstart⟩ := bind_eq_ok_iff.mp hstart
  obtain ⟨address, haddress, -⟩ := bind_eq_ok_iff.mp hstart
  obtain ⟨receiver, receiverAddress, hreceiver, hreceiverAddress⟩ := receiver_of_readDexTrades hread
  obtain ⟨entries, rfl, hgetTransaction⟩ := Json.item_eq_ok htransaction
  obtain ⟨_, hentries, hgetDepth⟩ := Json.item_eq_ok hdepth
  cases hentries
  obtain ⟨_, hentries, hgetSender⟩ := Json.item_eq_ok hsender
  cases hentries
  obtain ⟨_, hentries, hgetReceiver⟩ := Json.item_eq_ok hreceiver
  cases hentries
  obtain ⟨transaction, rfl, -⟩ := Json.item_eq_ok htxHash
  obtain ⟨sender, rfl, -⟩ := Json.item_eq_ok haddress
  obtain ⟨receiver, rfl, -⟩ := Json.item_eq_ok hreceiverAddress
  exact ⟨entries, sender, receiver, transaction, depth, rfl,
    ⟨hgetSender, hgetReceiver, hgetTransaction, hgetDepth, ⟨_, hnumber⟩⟩⟩

theorem parts_unique {entries sender receiver transaction sender' receiver' transaction' : Obj}
    {depth depth' : Json} (hparts : SwapParts entries sender receiver transaction depth)
    (hparts' : SwapParts entries sender' receiver' transaction' depth') :
    sender = sender' ∧ receiver = receiver' ∧ depth = depth' := by
  have hsender := hparts.hasSender.symm.trans hparts'.hasSender
  have hreceiver := hparts.hasReceiver.symm.trans hparts'.hasReceiver
  have hdepth := hparts.hasDepth.symm.trans hparts'.hasDepth
  cases hsender
  cases hreceiver
  cases hdepth
  exact ⟨rfl, rfl, rfl⟩

/-- The row of a swap whose exchange was found has both ends exactly when the swap reverses well. -/
theorem swapRow_hasEnds_iff_reverses (hchain : chain.tracesSwaps = true) {start : SwapStart}
    {document : Json} {trade : DexTrade} (hstart : swapStart chain swap = .ok start)
    (hread : readDexTrades chain swap document = .ok (some trade)) :
    (∀ element ∈ swapRow chain swap trade, element.hasEnds = true) ↔
      Reverses swap trade.newAmount := by
  obtain ⟨entries, sender, receiver, transaction, depth, rfl, hparts⟩ :=
    exists_swapParts hstart hread
  rw [swapRow_hasEnds_iff hchain hparts]
  constructor
  · intro hwell
    exact ⟨entries, sender, receiver, transaction, depth, rfl, hparts, hwell⟩
  · intro hreverses
    obtain ⟨_, sender', receiver', transaction', depth', hentries, hparts', hwell⟩ := hreverses
    cases hentries
    obtain ⟨rfl, rfl, rfl⟩ := parts_unique hparts hparts'
    exact hwell

theorem sound_joinNested_iff (hchain : chain.tracesSwaps = true) {start : SwapStart}
    {document : Json} {trade : DexTrade} (hstart : swapStart chain swap = .ok start)
    (hread : readDexTrades chain swap document = .ok (some trade)) :
    (joinNested (swapRow chain swap trade) (nested ⟨start.sender, trade.finalCurrencyAddress,
        trade.fromTime, start.initialDepth⟩)).Sound (fun element => element.hasEnds = true) ↔
      ∀ document' trade elements, document = document' →
        readDexTrades chain swap document' = .ok (some trade) →
          nested ⟨start.sender, trade.finalCurrencyAddress, trade.fromTime, start.initialDepth⟩ =
            .list elements →
          Reverses swap trade.newAmount ∧ ∀ element ∈ elements, element.hasEnds = true := by
  have hrow := swapRow_hasEnds_iff_reverses hchain hstart hread
  constructor
  · intro hsound document' trade' elements heq hread' hnested
    obtain rfl : trade = trade' := by
      rw [← heq, hread] at hread'
      cases hread'
      rfl
    rw [hnested, joinNested, Pool.Outcome.sound_list_iff, List.forall_mem_append] at hsound
    exact ⟨hrow.mp hsound.1, hsound.2⟩
  · intro hall
    cases hnested : nested ⟨start.sender, trade.finalCurrencyAddress, trade.fromTime,
        start.initialDepth⟩ with
    | list elements =>
        obtain ⟨hreverses, helements⟩ := hall document trade elements rfl hread hnested
        rw [joinNested, Pool.Outcome.sound_list_iff, List.forall_mem_append]
        exact ⟨hrow.mpr hreverses, helements⟩
    -- a nested call without a list costs the contribution, not the rows
    | other document => simp [joinNested]
    | raised => simp [joinNested]

/-- What a swap contributes is in order exactly when the swap is sound. -/
theorem sound_swapOutcome_iff (hchain : chain.tracesSwaps = true) :
    (swapOutcome chain dexTrades nested swap).Sound (fun element => element.hasEnds = true) ↔
      SwapSound chain dexTrades nested swap := by
  unfold swapOutcome swapPlan SwapSound
  cases hstart : swapStart chain swap with
  | error e => simp
  | ok start =>
      simp only [Except.ok.injEq, exists_eq_left']
      cases hreply : dexTrades start.txHash with
      | failed => simp
      | raised => simp
      | answered document =>
          simp only [Reply.answered.injEq]
          cases hread : readDexTrades chain swap document with
          | error e =>
              refine ⟨fun _ document' trade elements heq hread' => ?_, fun _ => by simp⟩
              rw [← heq, hread] at hread'
              cases hread'
          | ok found =>
              cases found with
              | none =>
                  refine ⟨fun _ document' trade elements heq hread' => ?_, fun _ => by simp⟩
                  rw [← heq, hread] at hread'
                  cases hread'
              | some trade => exact sound_joinNested_iff hchain hstart hread

/-! ## All swaps -/

section All

variable {dexTrades : ℕ → Json → Reply} {nested : ℕ → NestedCall → CallResult}

/-- With the outcomes of the nested calls given, the swaps have their outcomes one by one. -/
theorem exists_mapSwaps (chain : Chain) (dexTrades : ℕ → Json → Reply)
    (nested : ℕ → NestedCall → CallResult) (swaps : List Json) (i : ℕ) (session : Session) :
    ∃ session',
      mapSwaps chain (fun i session call => some (nested i call, session)) dexTrades swaps i
      session = some (Pool.mapJobs (fun k => swapOutcome chain (dexTrades (i + k)) (nested (i + k)))
        swaps, session') := by
  induction swaps generalizing i session with
  | nil => exact ⟨session, rfl⟩
  | cons swap swaps ih =>
      obtain ⟨session₁, hswap⟩ : ∃ session₁, processSwap chain
          (fun session call => some (nested i call, session)) (dexTrades i) swap session =
            some (swapOutcome chain (dexTrades i) (nested i) swap, session₁) := by
        unfold processSwap swapOutcome
        cases swapPlan chain (dexTrades i) swap <;> exact ⟨_, rfl⟩
      obtain ⟨session₂, hrest⟩ := ih (i + 1) session
      have hshift : ∀ k, i + 1 + k = i + (k + 1) := by
        intro k
        omega
      simp only [hshift] at hrest
      refine ⟨session₂.posted (session₁.requests - session.requests), ?_⟩
      rw [mapSwaps, hswap, Pool.mapJobs_cons]
      show (mapSwaps _ _ _ _ _ session).bind _ = _
      rw [hrest]
      rfl

/-- `get_tx_with_swaps` returns a list that begins with the initial rows, and behind them come rows
with both ends. -/
def KeepsRows (chain : Chain) (dexTrades : ℕ → Json → Reply) (nested : ℕ → NestedCall → CallResult)
    (initialData : List Element) (possibleSwaps : List Json) (session : Session) : Prop :=
  ∃ appended session', getTxWithSwaps chain (fun i session call => some (nested i call, session))
      dexTrades initialData possibleSwaps session =
        some (.list (initialData ++ appended), session') ∧
    ∀ element ∈ appended, element.hasEnds = true

theorem keepsRows_iff_gather {initialData : List Element} {swaps : List Json} {session : Session} :
    KeepsRows chain dexTrades nested initialData swaps session ↔
      ∃ appended, Pool.gather initialData
          (Pool.mapJobs (fun i => swapOutcome chain (dexTrades i) (nested i)) swaps) =
            some (initialData ++ appended) ∧
        ∀ element ∈ appended, element.hasEnds = true := by
  obtain ⟨session', hmap⟩ := exists_mapSwaps chain dexTrades nested swaps 0 session
  simp only [Nat.zero_add] at hmap
  have hrun : getTxWithSwaps chain (fun i session call => some (nested i call, session)) dexTrades
      initialData swaps session = some (collectSwaps initialData
        (Pool.mapJobs (fun i => swapOutcome chain (dexTrades i) (nested i)) swaps), session') := by
    unfold getTxWithSwaps
    rw [hmap]
    rfl
  unfold KeepsRows
  rw [hrun]
  unfold collectSwaps
  constructor
  · intro hkeeps
    obtain ⟨appended, _, hresult, hends⟩ := hkeeps
    refine ⟨appended, ?_, hends⟩
    split at hresult
    · rename_i elements helements
      cases hresult
      exact helements
    · cases hresult
  · intro hgather
    obtain ⟨appended, hgather, hends⟩ := hgather
    exact ⟨appended, session', by rw [hgather], hends⟩

/-- **What the swaps add on the GraphQL side.**  The swaps come from `flatten_node`, which collects
them on some chains only. -/
theorem keepsRows_iff_swapSound {initialData : List Element} {swaps : List Json} {session : Session}
    (hswaps : swaps ≠ [] → chain.tracesSwaps = true) :
    KeepsRows chain dexTrades nested initialData swaps session ↔
      ∀ i swap, swaps[i]? = some swap → SwapSound chain (dexTrades i) (nested i) swap := by
  rw [keepsRows_iff_gather, Pool.gather_mapJobs_sound_iff]
  cases swaps with
  | nil => simp
  | cons swap swaps =>
      have hchain : chain.tracesSwaps = true := hswaps (List.cons_ne_nil _ _)
      simp only [sound_swapOutcome_iff hchain]

end All

end CatvService.GraphQL
