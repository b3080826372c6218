import CatvService.GraphQL.CallTree
import CatvService.GraphQL.DepthLimit
import CatvService.GraphQL.SwapRows

/-!
# Depths along nested swaps

`process_swap` hands the raw depth of a swap on as the offset of its nested call, and gives the
reversed row the raw depth itself.  The row of the swap has the raw depth plus the offset of its own
call.  The three agree where that offset is zero, in the first call and below a swap of raw depth
one; everywhere else the rows that a swap contributes may lie before its own.

`depthLaw_of_depthsKept` says so for whole runs, however deep they nest.
-/

namespace CatvService.GraphQL

open PyValue Dictionary Relation

variable (upstream : Upstream) (self : GraphQLInterface)

/-! ## The law and its condition -/

/-- `int(safe_get(item, "depth", default=0))`. -/
def rawDepth (item : Json) : Except PyErr ℤ :=
  (safeGet item ["depth"] (.int 0)).toInt

/-- All raw depths of all answers are at least one. -/
def RawDepthsPositive : Prop :=
  ∀ path items, Sent upstream self path items →
    ∀ item ∈ items, ∀ depth, rawDepth item = .ok depth → 1 ≤ depth

/-- No row that `process_swap` contributes for a swap lies before the row of the swap. -/
def NeverBackwards (state : CallState) (i : ℕ) (swap : Json) (session : Session) : Prop :=
  ∀ own result session',
    flattenNode self.chain state.call.initialDepth swap state.call.tokenAddress = some own →
    processSwap self.chain (state.nested upstream self i) (upstream.dexTrades state.path i) swap
      session = some (result, session') →
    ∀ row, .row row ∈ result.toList → own.row.depth ≤ row.depth

/-- This is so for all swaps of a call and of the calls nested in it. -/
def DepthLaw (state : CallState) : Prop :=
  ∀ reached, ReflTransGen (NestedStep upstream self) state reached →
    ∀ i swap session, Follows upstream self reached i swap session →
      NeverBackwards upstream self reached i swap session

/-- The amounts of the reversed swap are numbers, so that a row is made of it. -/
def ReadsReversed (swap : Json) (trade : DexTrade) : Prop :=
  ReadsAmount (pyStr trade.newAmount) ∧ Reads swap ["sender", "balance"]

/-- The swap can be modified; and if its own call has an offset, then no row is made of the reversed
swap, and the items of the nested answer that become rows have raw depths beyond that offset. -/
def KeepsDepth (state : CallState) (i : ℕ) (swap : Json) (session : Session) (start : SwapStart)
    (trade : DexTrade) : Prop :=
  (∃ node, modifySwapBody swap trade.newAmount trade.newAmountUsd trade.newCurrency = .ok node) ∧
    (0 < state.call.initialDepth →
      ¬ ReadsReversed swap trade ∧
        ∀ items first, (state.below i session (callBelow start trade)).answer upstream self =
            some (items, first) →
          ∀ item ∈ items, ∀ flattened depth,
            flattenNode self.chain start.initialDepth item trade.finalCurrencyAddress =
              some flattened →
            rawDepth item = .ok depth → state.call.initialDepth < depth)

/-- This is so wherever a call of the run, or one nested in it, finds the trade of a swap. -/
def DepthsKept (state : CallState) : Prop :=
  ∀ reached, ReflTransGen (NestedStep upstream self) state reached →
    ∀ i swap session start trade, Follows upstream self reached i swap session →
      TradeFound upstream self reached i swap start trade →
        KeepsDepth upstream self reached i swap session start trade

variable {upstream self} {chain : Chain} {session session' : Session} {state : CallState}
  {swap item : Json} {i : ℕ} {start : SwapStart} {trade : DexTrade}

/-! ## Offsets -/

/-- A depth is the same as an `int` and as an operand. -/
theorem eq_of_lessOne {v : Json} {z raw : ℤ} (hless : lessOne v = .ok z)
    (hraw : v.toInt = .ok raw) : z = raw - 1 := by
  cases v with
  | bool b =>
      cases hless
      cases hraw
      rfl
  | int depth =>
      cases hless
      cases hraw
      rfl
  | _ => cases hless

theorem exists_depth_of_tradeFound (hfound : TradeFound upstream self state i swap start trade) :
    ∃ entries sender receiver transaction depth, swap = .dict entries ∧
      SwapParts entries sender receiver transaction depth ∧
      lessOne depth = .ok start.initialDepth := by
  obtain ⟨hstart, document, -, hread⟩ := hfound
  obtain ⟨entries, sender, receiver, transaction, depth, rfl, hparts⟩ :=
    exists_swapParts hstart hread
  refine ⟨entries, sender, receiver, transaction, depth, rfl, hparts, ?_⟩
  obtain ⟨_, -, hstart⟩ := bind_eq_ok_iff.mp hstart
  obtain ⟨_, -, hstart⟩ := bind_eq_ok_iff.mp hstart
  obtain ⟨_, hdepth, hstart⟩ := bind_eq_ok_iff.mp hstart
  obtain ⟨_, hentries, hget⟩ := Json.item_eq_ok hdepth
  cases hentries
  rw [hparts.hasDepth] at hget
  cases hget
  obtain ⟨initialDepth, hless, hstart⟩ := bind_eq_ok_iff.mp hstart
  obtain ⟨_, -, hstart⟩ := bind_eq_ok_iff.mp hstart
  obtain ⟨_, -, hstart⟩ := bind_eq_ok_iff.mp hstart
  obtain ⟨_, -, hstart⟩ := bind_eq_ok_iff.mp hstart
  obtain ⟨_, -, hstart⟩ := bind_eq_ok_iff.mp hstart
  cases hstart
  exact hless

theorem rawDepth_dict {entries : Obj} {depth : Json} {z : ℤ}
    (hget : Entries.get? "depth" entries = some depth) (hless : lessOne depth = .ok z) :
    rawDepth (.dict entries) = depth.toInt := by
  have hmissing : depth.isMissing = false := by
    cases depth with
    | null => cases hless
    | str s => cases hless
    | _ => rfl
  have hdepth : (Json.dict entries).get "depth" = .ok (some depth) := congrArg Except.ok hget
  unfold rawDepth
  rw [safeGet_of_get hdepth hmissing]

/-- The offset of a nested call is the raw depth of its swap less one, whatever the offset of the
swap's own call. -/
theorem initialDepth_of_tradeFound (hfound : TradeFound upstream self state i swap start trade)
    {raw : ℤ} (hraw : rawDepth swap = .ok raw) : start.initialDepth = raw - 1 := by
  obtain ⟨entries, _, _, _, depth, rfl, hparts, hless⟩ := exists_depth_of_tradeFound hfound
  rw [rawDepth_dict hparts.hasDepth hless] at hraw
  exact eq_of_lessOne hless hraw

/-! ## The reversed row -/

theorem mem_swapRow {row : FlatRow} :
    .row row ∈ swapRow chain swap trade ↔ ∃ flattened,
      flattenNode chain 0 (modifySwapData swap trade.newAmount trade.newAmountUsd trade.newCurrency)
        trade.finalCurrencyAddress = some flattened ∧ flattened.row = row := by
  unfold swapRow
  dsimp only
  cases flattenNode chain 0
    (modifySwapData swap trade.newAmount trade.newAmountUsd trade.newCurrency)
    trade.finalCurrencyAddress with
  | none => simp
  | some flattened => simp [eq_comm]

theorem exists_row_of_mem_swapRow {element : Element}
    (helement : element ∈ swapRow chain swap trade) : ∃ row, element = .row row := by
  unfold swapRow at helement
  dsimp only at helement
  split at helement
  · exact ⟨_, List.mem_singleton.mp helement⟩
  · cases helement

/-- The reversed row of a swap that can be modified has the raw depth of the swap. -/
theorem depth_of_mem_swapRow (hfound : TradeFound upstream self state i swap start trade)
    (hmodify : ∃ node, modifySwapBody swap trade.newAmount trade.newAmountUsd trade.newCurrency =
      .ok node)
    {raw : ℤ} (hraw : rawDepth swap = .ok raw) {row : FlatRow}
    (hrow : .row row ∈ swapRow self.chain swap trade) : row.depth = raw := by
  obtain ⟨entries, sender, receiver, _, depth, rfl, hparts, hless⟩ :=
    exists_depth_of_tradeFound hfound
  obtain ⟨modified, hmodify⟩ := hmodify
  obtain ⟨flattened, hflatten, rfl⟩ := mem_swapRow.mp hrow
  obtain ⟨⟨depth', hdepth', hflat⟩, -⟩ := flattenNode_eq_some hflatten
  -- the modified swap keeps the depth
  obtain ⟨node, rfl, hnode⟩ := get?_of_modifySwapBody hparts.hasSender hparts.hasReceiver hmodify
  have hget : Entries.get? "depth" (reversedEntries entries sender receiver trade.newAmount) =
      some depth :=
    (get?_reversedEntries (by decide) (by decide) trade.newAmount).trans hparts.hasDepth
  obtain ⟨kept, hupdate, hkept⟩ := hnode "depth" depth (by decide) hget
  obtain ⟨-, rfl⟩ := eq_of_updateAmount_depth hparts.isNumber hupdate
  have hsame : rawDepth (.dict node) = .ok depth' := by
    unfold modifySwapData at hdepth'
    rw [hmodify] at hdepth'
    exact hdepth'
  rw [rawDepth_dict hkept hless, ← rawDepth_dict hparts.hasDepth hless, hraw] at hsame
  cases hsame
  rw [hflat, add_zero]

theorem swapRow_eq_nil_iff (hchain : self.chain.tracesSwaps = true)
    (hfound : TradeFound upstream self state i swap start trade)
    (hmodify : ∃ node, modifySwapBody swap trade.newAmount trade.newAmountUsd trade.newCurrency =
      .ok node)
    {raw : ℤ} (hraw : rawDepth swap = .ok raw) :
    swapRow self.chain swap trade = [] ↔ ¬ ReadsReversed swap trade := by
  obtain ⟨entries, sender, receiver, _, depth, rfl, hparts, hless⟩ :=
    exists_depth_of_tradeFound hfound
  obtain ⟨modified, hmodify⟩ := hmodify
  rw [rawDepth_dict hparts.hasDepth hless] at hraw
  have hbalance : Reads (.dict entries) ["sender", "balance"] ↔
      ReadsAmount ((Entries.get? "balance" sender).getD (.str "0.0")) := by
    cases hget : Entries.get? "balance" sender with
    | none =>
        have hdefault : ReadsAmount (.str "0.0") := .inr ⟨.num 0, by decide +kernel⟩
        simp [Reads, safeGet, safeGet?, hparts.hasSender, hget, Json.isMissing, Json.toFloat_zero,
          hdefault]
    | some balance => exact reads_two_iff hparts.hasSender hget
  have hrow := (flattenNode_modified hchain hparts hmodify trade.finalCurrencyAddress).1
  rw [← hbalance] at hrow
  unfold swapRow modifySwapData
  rw [hmodify]
  dsimp only
  cases hflatten : flattenNode self.chain 0 modified trade.finalCurrencyAddress with
  | none =>
      rw [hflatten] at hrow
      -- the depth is a number, so only the amounts can keep the row from being made
      refine ⟨fun _ hreads => ?_, fun _ => rfl⟩
      obtain ⟨flattened, hfalse⟩ := hrow.mpr ⟨⟨raw, hraw⟩, hreads⟩
      cases hfalse
  | some flattened =>
      have hreads : ReadsReversed (.dict entries) trade := (hrow.mp ⟨flattened, hflatten⟩).2
      simp [hreads]

theorem exists_mem_swapRow_of_error (hchain : chain.tracesSwaps = true)
    (hmodify : ¬ ∃ node, modifySwapBody swap trade.newAmount trade.newAmountUsd trade.newCurrency =
      .ok node) : ∃ row, .row row ∈ swapRow chain swap trade ∧ row.depth = 0 := by
  obtain ⟨flattened, hflatten, -⟩ := flattenNode_null hchain trade.finalCurrencyAddress
  obtain ⟨⟨depth, hdepth, hflat⟩, -⟩ := flattenNode_eq_some hflatten
  cases hdepth
  refine ⟨flattened.row, mem_swapRow.mpr ⟨flattened, ?_, rfl⟩, hflat⟩
  unfold modifySwapData
  cases hbody : modifySwapBody swap trade.newAmount trade.newAmountUsd trade.newCurrency with
  | ok node => exact absurd ⟨node, hbody⟩ hmodify
  | error e => exact hflatten

/-! ## The depths of the rows of a call -/

/-- The row of a swap that a call comes to: its raw depth is at least one, and the offset of the
call is added to it. -/
theorem exists_raw_of_follows (hpositive : RawDepthsPositive upstream self)
    (hfollows : Follows upstream self state i swap session) :
    self.chain.tracesSwaps = true ∧ ∃ own raw,
      flattenNode self.chain state.call.initialDepth swap state.call.tokenAddress = some own ∧
      rawDepth swap = .ok raw ∧ 1 ≤ raw ∧ own.row.depth = raw + state.call.initialDepth := by
  obtain ⟨items, own, hanswer, hitem, hown, hswap⟩ := exists_own_of_follows hfollows
  obtain ⟨⟨raw, hraw, hdepth⟩, htraces⟩ := flattenNode_eq_some hown
  exact ⟨(htraces hswap).1, own, raw, hown, hraw,
    hpositive state.path items (run_of_answer_eq_some hanswer).1 swap hitem raw hraw, hdepth⟩

/-- Where the swaps keep the law, the rows of a call lie no nearer than those of its answer. -/
theorem le_depth_of_mem_rows {low : ℤ} {result : CallResult}
    (hlaw : ∀ i swap session, Follows upstream self state i swap session →
      NeverBackwards upstream self state i swap session)
    (hanswer : ∀ items start, state.answer upstream self = some (items, start) →
      ∀ item ∈ items, ∀ flattened, flattenNode self.chain state.call.initialDepth item
        state.call.tokenAddress = some flattened → low ≤ flattened.row.depth)
    (hrun : state.run upstream self = some (result, session')) :
    ∀ row ∈ result.rows, low ≤ row.depth := by
  intro row hrow
  obtain ⟨items, first, hsome, -, hrow⟩ := exists_of_mem_rows hrun hrow
  rcases hrow with ⟨item, hitem, flattened, hflatten, rfl⟩ |
    ⟨i, swap, session₁, session₂, outcome, hfollows, hprocess, hmem⟩
  · exact hanswer items first hsome item hitem flattened hflatten
  · -- the swap has a row of its own in the answer, and what it contributes lies behind that
    obtain ⟨items', own, hsome', hitem, hown, -⟩ := exists_own_of_follows hfollows
    calc low ≤ own.row.depth := hanswer items' session₁ hsome' swap hitem own hown
      _ ≤ row.depth := hlaw i swap session₁ hfollows own outcome session₂ hown hprocess row hmem

/-! ## One swap -/

/-- **One swap.**  It keeps the law if its trade keeps the depth and the swaps of its nested call
keep the law. -/
theorem neverBackwards_of_keepsDepth (hpositive : RawDepthsPositive upstream self)
    (hfollows : Follows upstream self state i swap session)
    (hkeeps : ∀ start trade, TradeFound upstream self state i swap start trade →
      KeepsDepth upstream self state i swap session start trade)
    (hbelow : ∀ start trade, TradeFound upstream self state i swap start trade → 0 < state.nesting →
      ∀ k inner session', Follows upstream self (state.below i session (callBelow start trade)) k
        inner session' → NeverBackwards upstream self
          (state.below i session (callBelow start trade)) k inner session') :
    NeverBackwards upstream self state i swap session := by
  intro own result session' hown hprocess row hrow
  obtain ⟨hchain, own', raw, hown', hraw, hpos, hdepth⟩ := exists_raw_of_follows hpositive hfollows
  rw [hown] at hown'
  cases hown'
  obtain ⟨start, trade, elements, hfound, hnested, hmem⟩ := exists_of_mem_contribution hprocess hrow
  obtain ⟨hmodify, hoffset⟩ := hkeeps start trade hfound
  rcases hmem with hreversed | hinner
  · by_cases hzero : 0 < state.call.initialDepth
    · -- behind an offset there is no reversed row
      rw [(swapRow_eq_nil_iff hchain hfound hmodify hraw).mpr (hoffset hzero).1] at hreversed
      cases hreversed
    · have hsame : row.depth = raw := depth_of_mem_swapRow hfound hmodify hraw hreversed
      omega
  · obtain ⟨hnesting, hrun⟩ := run_below hnested
    refine le_depth_of_mem_rows (hbelow start trade hfound hnesting) ?_ (hrun session rfl) row
      (mem_rows_list.mpr hinner)
    intro items first hanswer item hitem flattened hflatten
    obtain ⟨⟨depth, hitemDepth, hflat⟩, -⟩ := flattenNode_eq_some hflatten
    have hitemPos : 1 ≤ depth :=
      hpositive _ items (run_of_answer_eq_some hanswer).1 item hitem depth hitemDepth
    have hstart : (callBelow start trade).initialDepth = raw - 1 :=
      initialDepth_of_tradeFound hfound hraw
    have hmoved : flattened.row.depth = depth + (callBelow start trade).initialDepth := hflat
    -- without an offset positive depths are enough; with one, the answer has to lie beyond it
    by_cases hzero : 0 < state.call.initialDepth
    · have hbeyond : state.call.initialDepth < depth :=
        (hoffset hzero).2 items first hanswer item hitem flattened depth hflatten hitemDepth
      omega
    · omega

/-- Conversely, a swap that keeps the law keeps the depth, if its nested call returns a list. -/
theorem keepsDepth_of_neverBackwards (hpositive : RawDepthsPositive upstream self)
    (hoffset : 0 ≤ state.call.initialDepth)
    (hfollows : Follows upstream self state i swap session)
    (hfound : TradeFound upstream self state i swap start trade) {elements : List Element}
    (hnested : state.nested upstream self i session.post (callBelow start trade) =
      some (.list elements, session'))
    (hnever : NeverBackwards upstream self state i swap session) :
    KeepsDepth upstream self state i swap session start trade := by
  obtain ⟨hchain, own, raw, hown, hraw, hpos, hdepth⟩ := exists_raw_of_follows hpositive hfollows
  have hprocess : processSwap self.chain (state.nested upstream self i)
      (upstream.dexTrades state.path i) swap session =
        some (.list (swapRow self.chain swap trade ++ elements), session') := by
    rw [processSwap_of_tradeFound hfound, hnested]
    rfl
  -- the law, for the row of the swap and the rows of the list alike
  have hbehind : ∀ row, .row row ∈ swapRow self.chain swap trade ++ elements →
      raw + state.call.initialDepth ≤ row.depth := by
    intro row hrow
    rw [← hdepth]
    exact hnever own _ session' hown hprocess row hrow
  have hmodify : ∃ node, modifySwapBody swap trade.newAmount trade.newAmountUsd trade.newCurrency =
      .ok node := by
    by_contra hfails
    -- a failed modification leaves a row of depth zero, in front of every swap
    obtain ⟨row, hrow, hzero⟩ := exists_mem_swapRow_of_error hchain hfails
    have hle := hbehind row (List.mem_append_left _ hrow)
    omega
  refine ⟨hmodify, fun hbeyond => ⟨?_, ?_⟩⟩
  · rw [← swapRow_eq_nil_iff hchain hfound hmodify hraw, List.eq_nil_iff_forall_not_mem]
    intro element helement
    obtain ⟨row, rfl⟩ := exists_row_of_mem_swapRow helement
    have hsame : row.depth = raw := depth_of_mem_swapRow hfound hmodify hraw helement
    have hle := hbehind row (List.mem_append_left _ helement)
    omega
  · intro items first hanswer item hitem flattened depth hflatten hitemDepth
    obtain ⟨⟨depth', hdepth', hflat⟩, -⟩ := flattenNode_eq_some hflatten
    rw [show (safeGet item ["depth"] (.int 0)).toInt = .ok depth from hitemDepth] at hdepth'
    cases hdepth'
    have hstart : start.initialDepth = raw - 1 := initialDepth_of_tradeFound hfound hraw
    have hrow : .row flattened.row ∈ elements :=
      mem_rows_of_mem_answer hanswer ((run_below hnested).2 session rfl) hitem hflatten
    have hle := hbehind flattened.row (List.mem_append_right _ hrow)
    omega

/-! ## Whole runs -/

/-- The swaps of a call keep the law, by induction on how deep the calls nest. -/
theorem neverBackwards_of_depthsKept (hpositive : RawDepthsPositive upstream self)
    (hkept : DepthsKept upstream self state) :
    ∀ i swap session, Follows upstream self state i swap session →
      NeverBackwards upstream self state i swap session := by
  induction hnesting : state.nesting generalizing state with
  | zero =>
      intro i swap session hfollows
      refine neverBackwards_of_keepsDepth hpositive hfollows
        (fun start trade hfound => hkept state .refl i swap session start trade hfollows hfound) ?_
      intro start trade _ hpos
      -- calls nest no deeper, so there is no call below
      omega
  | succ nesting ih =>
      intro i swap session hfollows
      refine neverBackwards_of_keepsDepth hpositive hfollows
        (fun start trade hfound => hkept state .refl i swap session start trade hfollows hfound) ?_
      intro start trade hfound hpos
      have hstep : NestedStep upstream self state (state.below i session (callBelow start trade)) :=
        ⟨i, swap, session, start, trade, hfollows, hfound, hpos, rfl⟩
      -- the condition holds in the run below, which nests one level less
      have hless : (state.below i session (callBelow start trade)).nesting = nesting := by
        show state.nesting - 1 = nesting
        omega
      exact ih (fun reached hreached => hkept reached (.head hstep hreached)) hless

theorem initialDepth_nonneg_of_reached (hpositive : RawDepthsPositive upstream self) {nesting : ℕ}
    {address tokenAddress fromTime : Json} (hreached : ReflTransGen (NestedStep upstream self)
      (.ofStart self nesting address tokenAddress fromTime) state) :
    0 ≤ state.call.initialDepth := by
  induction hreached with
  | refl => exact le_refl _
  | tail _ hstep _ =>
      obtain ⟨i, swap, session, start, trade, hfollows, hfound, -, rfl⟩ := hstep
      obtain ⟨-, own, raw, -, hraw, hpos, -⟩ := exists_raw_of_follows hpositive hfollows
      have hoffset : (callBelow start trade).initialDepth = raw - 1 :=
        initialDepth_of_tradeFound hfound hraw
      show 0 ≤ (callBelow start trade).initialDepth
      omega

/-! ## Runs on the samples -/

/-- An upstream that honours the bound of its queries answers positive depths. -/
theorem rawDepthsPositive_of_honours (hhonours : Honours upstream self) :
    RawDepthsPositive upstream self := by
  intro path items hsent item hitem depth hdepth
  obtain ⟨attempt, query, response, hreply, hitems⟩ := hsent
  obtain ⟨sent, hget, hpos, -⟩ :=
    hhonours path attempt query response items hreply hitems item hitem
  unfold rawDepth at hdepth
  rw [safeGet_of_get hget rfl] at hdepth
  cases hdepth
  exact hpos

section Samples

variable {template : TemplateKey} {items : List ℕ → ℕ → Query → Option (List Json)}
  {answer : List Json} {path : List ℕ}

theorem items_of_sent (htemplate : self.chain.template? = some template)
    (hsent : Sent (sampleUpstream self.chain items) self path answer) :
    ∃ attempt query, items path attempt query = some answer := by
  obtain ⟨attempt, query, response, hreply, hanswer⟩ := hsent
  exact ⟨attempt, query, items_of_coinpath htemplate hreply hanswer⟩

theorem exists_answer (htemplate : self.chain.template? = some template)
    (hguard : state.call.initialDepth < state.session.depth)
    (hdate : state.call.fromTime = sampleDate)
    (hitems : ∀ query : Query, query.depth = self.originalDepth →
      items state.path 0 query = some answer) :
    ∃ first, first.depth = self.originalDepth ∧
      state.answer (sampleUpstream self.chain items) self = some (answer, first) := by
  obtain ⟨query, hquery, hbound⟩ := exists_sampleQuery htemplate hdate
    (state.session.bound self.originalDepth self.originalLimit)
  have hreply : (sampleUpstream self.chain items).coinpath state.path 0 query =
      .answered (coinpathDocument self.chain answer) := by
    simp only [sampleUpstream, hitems query hbound]
  have hseconds : ((sampleUpstream self.chain items).randint state.path 0).val + 1 = 1 := rfl
  refine ⟨(state.session.bound self.originalDepth self.originalLimit).post, rfl, ?_⟩
  unfold CallState.answer answered reading
  dsimp only
  rw [found_sampleUpstream, if_neg (not_le.mpr hguard)]
  simp only [found_sampleUpstream, hseconds, hquery, hreply,
    coinpathItems_coinpathDocument htemplate]

theorem follows_sampleSwap (hchain : self.chain.tracesSwaps = true) {depth : ℤ} {first : Session}
    (hanswer : state.answer upstream self = some ([sampleSwap depth], first)) :
    Follows upstream self state 0 (sampleSwap depth) first := by
  obtain ⟨flattened, hflatten, hswap⟩ :=
    flattenNode_sampleSwap hchain state.call.initialDepth depth state.call.tokenAddress
  refine ⟨[sampleSwap depth], hanswer, ?_⟩
  have hswaps : state.swaps self [sampleSwap depth] = [sampleSwap depth] := by
    simp [CallState.swaps, possibleSwaps, hflatten, hswap]
  rw [hswaps]
  rfl

theorem exists_tradeFound_sampleSwap (hchain : self.chain.tracesSwaps = true)
    (items : List ℕ → ℕ → Query → Option (List Json)) (state : CallState) (i : ℕ) (depth : ℤ) :
    ∃ start trade, TradeFound (sampleUpstream self.chain items) self state i (sampleSwap depth)
      start trade ∧ callBelow start trade = sampleCall (depth - 1) := by
  obtain ⟨response, hplan⟩ := swapPlan_sampleSwap hchain depth
  rcases swapPlan_cases (sampleUpstream self.chain items) self state i (sampleSwap depth) with
    ⟨result, hdone, -⟩ | ⟨start, trade, hfound⟩
  · cases hplan.symm.trans hdone
  · have hcall : SwapPlan.nested response (sampleCall (depth - 1)) =
        .nested (swapRow self.chain (sampleSwap depth) trade) (callBelow start trade) :=
      hplan.symm.trans (swapPlan_of_tradeFound hfound)
    exact ⟨start, trade, hfound, (SwapPlan.nested.inj hcall).2.symm⟩

theorem exists_follows_sampleSwap (hchain : self.chain.tracesSwaps = true)
    (hguard : state.call.initialDepth < state.session.depth)
    (hdate : state.call.fromTime = sampleDate) {depth : ℤ}
    (hitems : ∀ query : Query, query.depth = self.originalDepth →
      items state.path 0 query = some [sampleSwap depth]) :
    ∃ first start trade, first.depth = self.originalDepth ∧
      Follows (sampleUpstream self.chain items) self state 0 (sampleSwap depth) first ∧
      TradeFound (sampleUpstream self.chain items) self state 0 (sampleSwap depth) start trade ∧
      callBelow start trade = sampleCall (depth - 1) := by
  obtain ⟨first, hfirst, hanswer⟩ :=
    exists_answer (template?_of_tracesSwaps hchain) hguard hdate hitems
  obtain ⟨start, trade, hfound, hcall⟩ :=
    exists_tradeFound_sampleSwap hchain items state 0 depth
  exact ⟨first, start, trade, hfirst, follows_sampleSwap hchain hanswer, hfound, hcall⟩

theorem exists_nestedStep_sampleSwap (hchain : self.chain.tracesSwaps = true)
    (hnesting : 0 < state.nesting) (hguard : state.call.initialDepth < state.session.depth)
    (hdate : state.call.fromTime = sampleDate) {depth : ℤ}
    (hitems : ∀ query : Query, query.depth = self.originalDepth →
      items state.path 0 query = some [sampleSwap depth]) :
    ∃ first, first.depth = self.originalDepth ∧
      NestedStep (sampleUpstream self.chain items) self state
        (state.below 0 first (sampleCall (depth - 1))) := by
  obtain ⟨first, start, trade, hfirst, hfollows, hfound, hcall⟩ :=
    exists_follows_sampleSwap hchain hguard hdate hitems
  exact ⟨first, hfirst, 0, _, first, start, trade, hfollows, hfound, hnesting, by rw [hcall]⟩

theorem exists_call_samplePayment (htemplate : self.chain.template? = some template)
    {session : Session} {call : NestedCall} (hguard : call.initialDepth < session.depth)
    (hdate : call.fromTime = sampleDate) {depth : ℤ}
    (hitems : ∀ query : Query, query.depth = self.originalDepth →
      items path 0 query = some [samplePayment depth]) :
    ∃ row session', callGraphqlEndpoint (sampleUpstream self.chain items) self 1 path session call =
      some (.list [.row row], session') := by
  obtain ⟨session', -, hcall⟩ := callGraphqlEndpoint_of_answer htemplate hguard hdate hitems 0
  obtain ⟨row, -, hpayment⟩ := processItems_samplePayment htemplate depth
  exact ⟨row, session', hcall.trans hpayment⟩

theorem newAmount_of_tradeFound (hchain : self.chain = .eth) {depth : ℤ}
    (hfound : TradeFound (sampleUpstream self.chain items) self state i (sampleSwap depth) start
      trade) : ∃ x, trade.newAmount = .float x := by
  obtain ⟨-, document, hreply, hread⟩ := hfound
  cases hreply
  rw [hchain] at hread
  cases hread
  exact ⟨_, rfl⟩

/-- The first call of the samples. -/
def sampleStart (nesting : ℕ) : CallState :=
  .ofStart (sampleInterface .eth 5) nesting (.str "0xa1") (.str "") sampleDate

/-- Where only the first answer holds a swap, the depth is kept. -/
theorem depthsKept_farItems (nesting : ℕ) :
    DepthsKept (sampleUpstream .eth farItems) (sampleInterface .eth 5) (sampleStart nesting) := by
  intro reached hreached i swap session start trade hfollows hfound
  have htemplate : (sampleInterface .eth 5).chain.template? = some .ethereumLike := rfl
  obtain ⟨items, own, hanswer, hitem, hown, hswap⟩ := exists_own_of_follows hfollows
  obtain ⟨attempt, query, hitems⟩ := items_of_sent htemplate (run_of_answer_eq_some hanswer).1
  unfold farItems at hitems
  split at hitems
  · cases hitems
  · cases hreached.cases_tail with
    | inl hstart =>
        -- the first call has no offset
        rw [hstart] at hitems ⊢
        cases hitems
        obtain rfl := List.mem_singleton.mp hitem
        refine ⟨?_, fun hoffset => absurd hoffset (lt_irrefl _)⟩
        obtain ⟨x, hamount⟩ := newAmount_of_tradeFound rfl hfound
        rw [hamount]
        exact ⟨_, rfl⟩
    | inr hstep =>
        obtain ⟨before, -, k, outer, session', start', trade', -, -, -, rfl⟩ := hstep
        cases hitems
        obtain rfl := List.mem_singleton.mp hitem
        -- the calls below are answered with payments, which are not followed
        obtain ⟨flattened, hflatten, hplain⟩ :=
          flattenNode_samplePayment htemplate (callBelow start' trade').initialDepth query.depth
            (callBelow start' trade').tokenAddress
        cases hflatten.symm.trans hown
        rw [hplain] at hswap
        cases hswap

/-- The items of an upstream that answers with a swap three hops away, then with one that is one hop
away, and then with a payment. -/
def nearerItems (path : List ℕ) (_attempt : ℕ) (query : Query) : Option (List Json) :=
  if query.depth < 3 then none
  else if path = [] then some [sampleSwap 3]
  else if path = [0] then some [sampleSwap 1]
  else some [samplePayment 1]

theorem honours_nearerItems :
    Honours (sampleUpstream .eth nearerItems) (sampleInterface .eth 5) := by
  have htemplate : (sampleInterface .eth 5).chain.template? = some .ethereumLike := rfl
  refine honours_sampleUpstream htemplate ?_
  intro path attempt query answer hanswer item hitem
  unfold nearerItems at hanswer
  split at hanswer
  · cases hanswer
  · rename_i hdepth
    split at hanswer
    · cases hanswer
      rw [List.mem_singleton.mp hitem]
      exact ⟨3, _, rfl, by omega, by omega⟩
    · split at hanswer
      · cases hanswer
        rw [List.mem_singleton.mp hitem]
        exact ⟨1, _, rfl, by omega, by omega⟩
      · cases hanswer
        rw [List.mem_singleton.mp hitem]
        exact ⟨1, _, rfl, by omega, by omega⟩

/-- A found trade of a sample can be modified and reversed. -/
theorem readsReversed_sampleSwap (hchain : self.chain = .eth) {depth : ℤ}
    (hfound : TradeFound (sampleUpstream self.chain items) self state i (sampleSwap depth) start
      trade) : ReadsReversed (sampleSwap depth) trade := by
  obtain ⟨x, hamount⟩ := newAmount_of_tradeFound hchain hfound
  unfold ReadsReversed
  rw [hamount]
  exact ⟨.inr ⟨x, rfl⟩, ⟨_, rfl⟩⟩

end Samples

/-! ## The law -/

/-- **Depths along nested swaps.**  With raw depths of at least one, no swap of a run leads
backwards, however deep the calls nest, if wherever the trade of a swap is found the depth is kept.
And where the nested call of a swap returns a list, this is also necessary. -/
theorem depthLaw_of_depthsKept (hpositive : RawDepthsPositive upstream self) (nesting : ℕ)
    (address tokenAddress fromTime : Json) :
    (DepthsKept upstream self (.ofStart self nesting address tokenAddress fromTime) →
      DepthLaw upstream self (.ofStart self nesting address tokenAddress fromTime)) ∧
    (DepthLaw upstream self (.ofStart self nesting address tokenAddress fromTime) →
      ∀ reached, ReflTransGen (NestedStep upstream self)
        (.ofStart self nesting address tokenAddress fromTime) reached →
        ∀ i swap session start trade elements session',
          Follows upstream self reached i swap session →
          TradeFound upstream self reached i swap start trade →
          reached.nested upstream self i session.post (callBelow start trade) =
            some (.list elements, session') →
          KeepsDepth upstream self reached i swap session start trade) := by
  constructor
  · intro hkept reached hreached
    exact neverBackwards_of_depthsKept hpositive
      fun later hlater => hkept later (hreached.trans hlater)
  · intro hlaw reached hreached i swap session start trade elements session' hfollows hfound hnested
    exact keepsDepth_of_neverBackwards hpositive (initialDepth_nonneg_of_reached hpositive hreached)
      hfollows hfound hnested (hlaw reached hreached i swap session hfollows)

theorem depthLaw_farItems :
    DepthLaw (sampleUpstream .eth farItems) (sampleInterface .eth 5) (sampleStart 3) :=
  (depthLaw_of_depthsKept (rawDepthsPositive_of_honours (honours_farItems
    (rfl : (sampleInterface .eth 5).chain.template? = some .ethereumLike))) 3 _ _ _).1
    (depthsKept_farItems 3)

/-- The nested swap has a row of depth three and a reversed row of depth one. -/
theorem not_depthLaw_nearerItems :
    RawDepthsPositive (sampleUpstream .eth nearerItems) (sampleInterface .eth 5) ∧
      ¬ DepthLaw (sampleUpstream .eth nearerItems) (sampleInterface .eth 5) (sampleStart 2) := by
  have hpositive := rawDepthsPositive_of_honours honours_nearerItems
  refine ⟨hpositive, ?_⟩
  intro hlaw
  have hchain : (sampleInterface .eth 5).chain.tracesSwaps = true := rfl
  have hitems : ∀ path, ∀ query : Query, query.depth = (sampleInterface .eth 5).originalDepth →
      nearerItems path 0 query = if path = [] then some [sampleSwap 3]
        else if path = [0] then some [sampleSwap 1] else some [samplePayment 1] := by
    intro path query hquery
    have hfive : query.depth = 5 := hquery
    unfold nearerItems
    rw [if_neg (by omega)]
  -- the first call follows a swap of depth three, so the nested call has offset two
  obtain ⟨first, hfirst, hstep⟩ := exists_nestedStep_sampleSwap hchain
    (by decide : 0 < (sampleStart 2).nesting) (by decide) rfl (hitems [])
  -- it follows a swap of depth one, and the call below that returns a payment
  have hguard : ((sampleStart 2).below 0 first (sampleCall (3 - 1))).call.initialDepth <
      ((sampleStart 2).below 0 first (sampleCall (3 - 1))).session.depth := by
    show (3 - 1 : ℤ) < first.depth
    rw [hfirst]
    decide
  obtain ⟨second, start, trade, hsecond, hfollows, hfound, hcall⟩ :=
    exists_follows_sampleSwap hchain hguard rfl (hitems [0])
  have hlast : (sampleCall (1 - 1)).initialDepth < second.post.depth := by
    show (1 - 1 : ℤ) < second.depth
    rw [hsecond]
    decide
  obtain ⟨row, third, hrun⟩ :=
    exists_call_samplePayment (template?_of_tracesSwaps hchain) hlast rfl (hitems [0, 0])
  rw [← hcall] at hrun
  have hoffset : 0 < ((sampleStart 2).below 0 first (sampleCall (3 - 1))).call.initialDepth := by
    show (0 : ℤ) < 3 - 1
    decide
  have hkeeps := keepsDepth_of_neverBackwards hpositive hoffset.le hfollows hfound hrun
    (hlaw _ (.single hstep) 0 _ second hfollows)
  exact (hkeeps.2 hoffset).1 (readsReversed_sampleSwap rfl hfound)

end CatvService.GraphQL
