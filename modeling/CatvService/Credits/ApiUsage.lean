import CatvService.Library.Runs
import Mathlib.Tactic.Ring
import Mathlib.Tactic.Linarith

/-!
# The credits of an API key

The three routes of `api/api_views.py` that deliver data against the credits of an API key, as one
system: the balance behind the two RPCs, the cached copy of the user record, and any number of
requests, each of which moves through the steps of its route while the others move through theirs.

`credits_required` comes back in every user record and is a parameter.  The usage RPC deducts it
atomically and answers whether it did; `consume_key` returns that answer and `update_usage` drops
it, so a request that was not paid for is answered like one that was.  `credit_safety` says which
runs keep within the balance.
-/

namespace CatvService.ApiUsage

open Runs

/-! ## The model -/

/-- The routes that charge a key. -/
inductive ApiView where
  | catvOutbound
  | catvInbound
  | catvReportLink
  deriving DecidableEq, Repr

/-- What the checks read of the user record: `api_user[0]['status'] == 'approved'` and
`credits['credits_left']`. -/
structure ApiUser where
  approved : Bool
  creditsLeft : ℕ
  deriving DecidableEq, Repr

/-- The answers that deliver nothing. -/
inductive ErrorResponse where
  | unauthorized
  | invalidParameters
  | insufficientCredit
  | tooManyRequests
  | invalidAddress
  | noDataFound
  | internalServerError
  | catvReportTimedOut
  | catvReportFailed
  | serverError
  deriving DecidableEq, Repr

/-- Where a request is.  From the answer of the usage RPC on, `paid` remembers that answer. -/
inductive Phase where
  /-- `get_user_details` reads the cache next. -/
  | started
  /-- The cache had nothing: the validator RPC is next. -/
  | asking
  /-- The validator sent a record, which is cached next. -/
  | caching (user : ApiUser)
  /-- `get_user_details` has returned. -/
  | identified (user : Option ApiUser)
  /-- The checks are passed; the data or the report is fetched next. -/
  | fetching
  /-- There is something to deliver: `update_usage` is next. -/
  | charging
  /-- The usage RPC answered `True`: `API_CACHE.delete` is next. -/
  | paidFor
  /-- `update_usage` has returned. -/
  | answering (paid : Bool)
  | delivered (paid : Bool)
  | failed (paid : Bool)
  | refused (response : ErrorResponse)
  deriving DecidableEq, Repr

structure Request where
  view : ApiView
  phase : Phase
  deriving DecidableEq, Repr

/-- The balance of the key, `API_CACHE.get(key)`, and the requests in order of arrival. -/
structure State where
  balance : ℕ
  cache : Option ApiUser
  requests : List Request

/-- How the validator RPC ends. -/
inductive ValidatorAnswer where
  | raised
  | failed
  | user (approved : Bool)
  deriving DecidableEq, Repr

/-- The checks of a request that do not depend on the user record. -/
structure Checks where
  parametersValid : Bool
  rateLimited : Bool
  addressValid : Bool
  deriving DecidableEq, Repr

/-- How the fetch ends: rows or a released report, no rows or a failed report, a report that is
not finished in time, or an exception. -/
inductive FetchOutcome where
  | ready
  | nothing
  | timedOut
  | raised
  deriving DecidableEq, Repr

/-- One step of the request at `index`, or an arrival, or the end of the 12 hours of the cache. -/
inductive Action where
  | arrive (view : ApiView)
  | readCache (index : ℕ)
  | validate (index : ℕ) (answer : ValidatorAnswer)
  | writeCache (index : ℕ)
  | check (index : ℕ) (checks : Checks)
  | fetch (index : ℕ) (outcome : FetchOutcome)
  | charge (index : ℕ)
  | deleteCache (index : ℕ)
  | respond (index : ℕ) (raises : Bool)
  | expire
  deriving DecidableEq, Repr

/-- The key with balance `balance`, before any request. -/
def State.initial (balance : ℕ) : State :=
  ⟨balance, none, []⟩

/-- A request goes on to `phase`. -/
def State.move (s : State) (index : ℕ) (view : ApiView) (phase : Phase) : State :=
  { s with requests := s.requests.set index ⟨view, phase⟩ }

/-- What the route answers to an exception. -/
def ApiView.exceptionResponse : ApiView → ErrorResponse
  | .catvOutbound => .internalServerError
  | .catvInbound => .internalServerError
  | .catvReportLink => .serverError

/-- The checks between `get_user_details` and the fetch.  `CATVReportLinkView` only evaluates the
record, which raises when there is none. -/
def ApiView.refusal (creditsRequired : ℕ) (user : Option ApiUser) (checks : Checks) :
    ApiView → Option ErrorResponse
  | .catvReportLink => if user.isNone then some .serverError else none
  | _ =>
      match user with
      | none => some .unauthorized
      | some user =>
          if ¬ user.approved then some .unauthorized
          else if ¬ checks.parametersValid then some .invalidParameters
          else if user.creditsLeft < creditsRequired then some .insufficientCredit
          else if checks.rateLimited then some .tooManyRequests
          else if ¬ checks.addressValid then some .invalidAddress
          else none

/-- The phase after the fetch. -/
def ApiView.fetched (view : ApiView) : FetchOutcome → Phase
  | .ready => .charging
  | .raised => .refused view.exceptionResponse
  | .nothing =>
      match view with
      | .catvReportLink => .refused .catvReportFailed
      | _ => .refused .noDataFound
  | .timedOut =>
      match view with
      | .catvReportLink => .refused .catvReportTimedOut
      | _ => .refused .internalServerError

/-- One step of the system. -/
def step (creditsRequired : ℕ) (s : State) : Action → Option State
  | .arrive view => some { s with requests := s.requests ++ [⟨view, .started⟩] }
  | .expire => some { s with cache := none }
  | .readCache index =>
      match s.requests[index]? with
      | some ⟨view, .started⟩ =>
          match s.cache with
          | some user => some (s.move index view (.identified (some user)))
          | none => some (s.move index view .asking)
      | _ => none
  | .validate index answer =>
      match s.requests[index]? with
      | some ⟨view, .asking⟩ =>
          match answer with
          | .raised => some (s.move index view (.refused view.exceptionResponse))
          | .failed => some (s.move index view (.identified none))
          | .user approved => some (s.move index view (.caching ⟨approved, s.balance⟩))
      | _ => none
  | .writeCache index =>
      match s.requests[index]? with
      | some ⟨view, .caching user⟩ =>
          some { s.move index view (.identified (some user)) with cache := some user }
      | _ => none
  | .check index checks =>
      match s.requests[index]? with
      | some ⟨view, .identified user⟩ =>
          match view.refusal creditsRequired user checks with
          | some response => some (s.move index view (.refused response))
          | none => some (s.move index view .fetching)
      | _ => none
  | .fetch index outcome =>
      match s.requests[index]? with
      | some ⟨view, .fetching⟩ => some (s.move index view (view.fetched outcome))
      | _ => none
  | .charge index =>
      match s.requests[index]? with
      | some ⟨view, .charging⟩ =>
          -- the RPC deducts and answers `True`, or does nothing and answers something else
          if creditsRequired ≤ s.balance then
            some { s.move index view .paidFor with balance := s.balance - creditsRequired }
          else some (s.move index view (.answering false))
      | _ => none
  | .deleteCache index =>
      match s.requests[index]? with
      | some ⟨view, .paidFor⟩ => some { s.move index view (.answering true) with cache := none }
      | _ => none
  | .respond index raises =>
      match s.requests[index]? with
      | some ⟨view, .answering paid⟩ =>
          some (s.move index view (if raises then .failed paid else .delivered paid))
      | _ => none

/-! ## What is delivered and what is paid -/

/-- What the usage RPC answered to the request, if it was asked. -/
def Phase.charged : Phase → Option Bool
  | .paidFor => some true
  | .answering paid => some paid
  | .delivered paid => some paid
  | .failed paid => some paid
  | _ => none

/-- The response carries data or a report URL. -/
def Phase.isDelivered : Phase → Bool
  | .delivered _ => true
  | _ => false

/-- The number of requests to which the usage RPC has given the answer. -/
def State.charged (s : State) (answer : Bool) : ℕ :=
  s.requests.countP fun request => request.phase.charged == some answer

/-- The number of responses that deliver. -/
def State.deliveries (s : State) : ℕ :=
  s.requests.countP fun request => request.phase.isDelivered

/-- Nothing is on its way, and nothing was lost, between a charge and its response. -/
def State.Settled (s : State) : Prop :=
  ∀ request ∈ s.requests, request.phase.charged.isSome → request.phase.isDelivered

/-- The step is no charge, or the balance covers it. -/
def Funded (creditsRequired : ℕ) (s : State) : Action → Prop
  | .charge _ => creditsRequired ≤ s.balance
  | _ => True

theorem State.charged_move {s : State} {index : ℕ} {view : ApiView} {old : Phase}
    (hold : s.requests[index]? = some ⟨view, old⟩) (new : Phase) (answer : Bool) :
    (s.move index view new).charged answer + (if old.charged == some answer then 1 else 0) =
      s.charged answer + if new.charged == some answer then 1 else 0 :=
  countP_set_add (fun request : Request => request.phase.charged == some answer) hold ⟨view, new⟩

/-- A move between phases that remember the same answer changes no count. -/
theorem State.charged_move_of_eq {s : State} {index : ℕ} {view : ApiView} {old new : Phase}
    (hold : s.requests[index]? = some ⟨view, old⟩) (hcharged : new.charged = old.charged)
    (answer : Bool) : (s.move index view new).charged answer = s.charged answer := by
  have hmove := State.charged_move hold new answer
  rw [hcharged] at hmove
  exact Nat.add_right_cancel hmove

theorem ApiView.charged_fetched (view : ApiView) (outcome : FetchOutcome) :
    (view.fetched outcome).charged = none := by
  cases outcome <;> cases view <;> rfl

/-- The accounts are the same. -/
structure Quiet (s t : State) : Prop where
  balance : t.balance = s.balance
  charged : ∀ answer, t.charged answer = s.charged answer

/-- What a step can do to the accounts: nothing, or a charge that is paid, or a charge that is
not. -/
inductive Effect (creditsRequired : ℕ) (s t : State) : Action → Prop where
  | quiet {action : Action} (hquiet : Quiet s t) (haction : Funded creditsRequired s action) :
      Effect creditsRequired s t action
  | paid {index : ℕ} (hfunded : creditsRequired ≤ s.balance)
      (hbalance : t.balance = s.balance - creditsRequired)
      (hpaid : t.charged true = s.charged true + 1)
      (hunpaid : t.charged false = s.charged false) : Effect creditsRequired s t (.charge index)
  | unpaid {index : ℕ} (hunfunded : s.balance < creditsRequired)
      (hbalance : t.balance = s.balance) (hpaid : t.charged true = s.charged true)
      (hunpaid : t.charged false = s.charged false + 1) :
      Effect creditsRequired s t (.charge index)

/-- A request that moves between phases with the same answer leaves the accounts alone, whatever
becomes of the cache. -/
theorem quiet_move {s : State} {index : ℕ} {view : ApiView} {old new : Phase}
    (hold : s.requests[index]? = some ⟨view, old⟩) (hcharged : new.charged = old.charged)
    (cache : Option ApiUser) : Quiet s { s.move index view new with cache := cache } :=
  ⟨rfl, fun answer => State.charged_move_of_eq hold hcharged answer⟩

theorem step_effect {creditsRequired : ℕ} {s t : State} {action : Action}
    (hstep : step creditsRequired s action = some t) : Effect creditsRequired s t action := by
  cases action with
  | arrive view =>
      cases hstep
      refine .quiet ⟨rfl, fun answer => ?_⟩ trivial
      simp [State.charged, Phase.charged]
  | expire =>
      cases hstep
      exact .quiet ⟨rfl, fun _ => rfl⟩ trivial
  | readCache index =>
      simp only [step] at hstep
      split at hstep
      · rename_i view hrequest
        split at hstep
        all_goals
          cases hstep
          exact .quiet (quiet_move hrequest (by rfl) s.cache) trivial
      · cases hstep
  | validate index answer =>
      simp only [step] at hstep
      split at hstep
      · rename_i view hrequest
        split at hstep
        all_goals
          cases hstep
          exact .quiet (quiet_move hrequest (by rfl) s.cache) trivial
      · cases hstep
  | writeCache index =>
      simp only [step] at hstep
      split at hstep
      · rename_i view user hrequest
        cases hstep
        exact .quiet (quiet_move hrequest (by rfl) (some user)) trivial
      · cases hstep
  | check index checks =>
      simp only [step] at hstep
      split at hstep
      · rename_i view user hrequest
        split at hstep
        all_goals
          cases hstep
          exact .quiet (quiet_move hrequest (by rfl) s.cache) trivial
      · cases hstep
  | fetch index outcome =>
      -- fetching charges nothing yet, whatever comes of it
      simp only [step] at hstep
      split at hstep
      · rename_i view hrequest
        cases hstep
        exact .quiet (quiet_move hrequest (view.charged_fetched outcome) s.cache) trivial
      · cases hstep
  | charge index =>
      simp only [step] at hstep
      split at hstep
      · rename_i view hrequest
        split at hstep
        -- the RPC deducts, or answers something else than `True`
        · rename_i hfunded
          cases hstep
          have hmove := State.charged_move hrequest .paidFor
          exact .paid hfunded rfl (hmove true) (hmove false)
        · rename_i hunfunded
          cases hstep
          have hmove := State.charged_move hrequest (.answering false)
          exact .unpaid (Nat.lt_of_not_le hunfunded) rfl (hmove true) (hmove false)
      · cases hstep
  | deleteCache index =>
      simp only [step] at hstep
      split at hstep
      · rename_i view hrequest
        cases hstep
        exact .quiet (quiet_move hrequest (by rfl) none) trivial
      · cases hstep
  | respond index raises =>
      simp only [step] at hstep
      split at hstep
      · rename_i view paid hrequest
        cases hstep
        refine .quiet (quiet_move hrequest ?_ s.cache) trivial
        cases raises <;> rfl
      · cases hstep

/-! ## Credit safety -/

/-- The accounts of a key that started with `balance`: what is left and what was paid make up the
whole, and once a charge was refused the rest is below the price. -/
structure Accounted (creditsRequired balance : ℕ) (s : State) : Prop where
  total : s.balance + s.charged true * creditsRequired = balance
  spent : 0 < s.charged false → s.balance < creditsRequired

theorem accounted_initial (creditsRequired balance : ℕ) :
    Accounted creditsRequired balance (State.initial balance) where
  total := by simp [State.initial, State.charged]
  spent := by simp [State.initial, State.charged]

theorem accounted_step {creditsRequired balance : ℕ} (s : State) (action : Action) (t : State)
    (haccounted : Accounted creditsRequired balance s)
    (hstep : step creditsRequired s action = some t) : Accounted creditsRequired balance t := by
  obtain ⟨htotal, hspent⟩ := haccounted
  cases step_effect hstep with
  | quiet hquiet _ =>
      refine ⟨?_, ?_⟩
      · rw [hquiet.balance, hquiet.charged]
        exact htotal
      · rw [hquiet.balance, hquiet.charged]
        exact hspent
  | paid hfunded hbalance hpaid hunpaid =>
      refine ⟨?_, fun hpos => ?_⟩
      · rw [hbalance, hpaid, Nat.add_mul, Nat.one_mul]
        omega
      · rw [hunpaid] at hpos
        exact absurd hfunded (Nat.not_le_of_lt (hspent hpos))
  | unpaid hunfunded hbalance hpaid hunpaid =>
      refine ⟨?_, fun _ => ?_⟩
      · rw [hbalance, hpaid]
        exact htotal
      · rw [hbalance]
        exact hunfunded

theorem charged_false_eq_zero_iff {creditsRequired balance : ℕ} {actions : List Action} {s : State}
    (hrun : Run (step creditsRequired) (State.initial balance) actions s) :
    s.charged false = 0 ↔
      AllMeet (step creditsRequired) (State.initial balance) (Funded creditsRequired) actions := by
  refine hrun.iff_allMeet (Accounted creditsRequired balance) (fun s => s.charged false = 0)
    (accounted_initial creditsRequired balance) ?_ accounted_step ?_
  · simp [State.initial, State.charged]
  · intro s action t _ hstep
    cases step_effect hstep with
    | quiet hquiet haction =>
        rw [hquiet.charged]
        exact ⟨fun h => ⟨h, haction⟩, fun h => h.1⟩
    | paid hfunded _ _ hunpaid =>
        rw [hunpaid]
        exact ⟨fun h => ⟨h, hfunded⟩, fun h => h.1⟩
    | unpaid hunfunded _ _ hunpaid =>
        rw [hunpaid]
        refine ⟨fun h => absurd h (Nat.succ_ne_zero _), fun h => ?_⟩
        exact absurd h.2 (Nat.not_le_of_lt hunfunded)

theorem Phase.isDelivered_le (phase : Phase) :
    (if phase.isDelivered then 1 else 0) ≤
      (if phase.charged == some true then 1 else 0) +
        (if phase.charged == some false then 1 else 0) := by
  cases phase with
  | answering paid => cases paid <;> decide
  | delivered paid => cases paid <;> decide
  | failed paid => cases paid <;> decide
  | paidFor => decide
  | _ => exact Nat.zero_le _

theorem Phase.isDelivered_eq {phase : Phase}
    (hsettled : phase.charged.isSome → phase.isDelivered) :
    (if phase.isDelivered then 1 else 0) =
      (if phase.charged == some true then 1 else 0) +
        (if phase.charged == some false then 1 else 0) := by
  cases phase with
  | delivered paid => cases paid <;> decide
  | paidFor => exact absurd (hsettled rfl) (by decide)
  | answering paid => exact absurd (hsettled rfl) (by simp [Phase.isDelivered])
  | failed paid => exact absurd (hsettled rfl) (by simp [Phase.isDelivered])
  | _ => rfl

/-- What is delivered was charged before, with one answer or the other. -/
theorem deliveries_le (s : State) : s.deliveries ≤ s.charged true + s.charged false := by
  unfold State.deliveries State.charged
  induction s.requests with
  | nil => simp
  | cons request requests ih =>
      have hhead := request.phase.isDelivered_le
      simp only [List.countP_cons]
      omega

theorem State.Settled.deliveries_eq {s : State} (hsettled : s.Settled) :
    s.deliveries = s.charged true + s.charged false := by
  unfold State.Settled at hsettled
  unfold State.deliveries State.charged
  generalize s.requests = requests at hsettled ⊢
  induction requests with
  | nil => simp
  | cons request requests ih =>
      have hrest := ih fun other hother => hsettled other (List.mem_cons_of_mem _ hother)
      have hhead := Phase.isDelivered_eq (hsettled request List.mem_cons_self)
      simp only [List.countP_cons]
      omega

/-- The deliveries so far do not exceed what `balance` pays for. -/
def Safe (creditsRequired balance : ℕ) (s : State) : Prop :=
  s.deliveries * creditsRequired ≤ balance

instance (creditsRequired balance : ℕ) (s : State) : Decidable (Safe creditsRequired balance s) :=
  inferInstanceAs (Decidable (_ ≤ _))

theorem safe_of_allMeet {creditsRequired balance : ℕ} {actions : List Action} {s : State}
    (hrun : Run (step creditsRequired) (State.initial balance) actions s)
    (hfunded : AllMeet (step creditsRequired) (State.initial balance) (Funded creditsRequired)
      actions) : Safe creditsRequired balance s := by
  have haccounted := hrun.invariant (accounted_initial creditsRequired balance) accounted_step
  have hunpaid := (charged_false_eq_zero_iff hrun).mpr hfunded
  have hle := deliveries_le s
  rw [hunpaid, Nat.add_zero] at hle
  calc s.deliveries * creditsRequired
      ≤ s.charged true * creditsRequired := Nat.mul_le_mul_right _ hle
    _ ≤ balance := by
        have := haccounted.total
        omega

/-- Once everything that was charged is delivered, one refused charge has cost more than there
was. -/
theorem not_safe_of_refused {creditsRequired balance : ℕ} {s : State}
    (haccounted : Accounted creditsRequired balance s) (hsettled : s.Settled)
    (hrefused : 0 < s.charged false) : ¬ Safe creditsRequired balance s := by
  intro hsafe
  unfold Safe at hsafe
  rw [hsettled.deliveries_eq] at hsafe
  have hspent := haccounted.spent hrefused
  have hcost : s.charged true * creditsRequired + creditsRequired ≤
      (s.charged true + s.charged false) * creditsRequired := by
    rw [← Nat.succ_mul]
    exact Nat.mul_le_mul_right _ (by omega)
  have htotal := haccounted.total
  omega

/-- **A run keeps within the balance in every state as long as no request is charged while the
balance is below the price; and a run that has delivered all it has charged keeps within the balance
only so.** -/
theorem credit_safety {creditsRequired balance : ℕ} {actions : List Action} {s : State}
    (hrun : Run (step creditsRequired) (State.initial balance) actions s) :
    (AllMeet (step creditsRequired) (State.initial balance) (Funded creditsRequired) actions →
      AllReach (step creditsRequired) (State.initial balance) (Safe creditsRequired balance)
        actions) ∧
    (s.Settled → Safe creditsRequired balance s →
      AllMeet (step creditsRequired) (State.initial balance) (Funded creditsRequired) actions) := by
  refine ⟨fun hfunded => hfunded.allReach safe_of_allMeet, fun hsettled hsafe => ?_⟩
  rw [← charged_false_eq_zero_iff hrun]
  have haccounted := hrun.invariant (accounted_initial creditsRequired balance) accounted_step
  by_contra hrefused
  exact not_safe_of_refused haccounted hsettled (Nat.pos_of_ne_zero hrefused) hsafe

/-! ### Deliveries that nothing pays for -/

/-- All steps of the request at `index` whose user record comes from the validator. -/
def askedSteps (index : ℕ) : List Action :=
  [.readCache index, .validate index (.user true), .writeCache index,
    .check index ⟨true, false, true⟩, .fetch index .ready]

/-- One data request, paid and answered. -/
def paidRequest : List Action :=
  .arrive .catvOutbound :: askedSteps 0 ++ [.charge 0, .deleteCache 0, .respond 0 false]

/-- One report link, asked for with nothing left. -/
def unpaidReportLink : List Action :=
  .arrive .catvReportLink :: askedSteps 0 ++ [.charge 0, .respond 0 false]

/-- Two data requests, the second of which is checked against the record that the first one
cached. -/
def checkedTwice : List Action :=
  .arrive .catvOutbound :: .arrive .catvInbound :: askedSteps 0 ++
    [.readCache 1, .check 1 ⟨true, false, true⟩, .fetch 1 .ready, .charge 0, .deleteCache 0,
      .respond 0 false, .charge 1, .respond 1 false]

theorem credit_safety_paidRequest :
    ∃ s, Run (step 20) (State.initial 20) paidRequest s ∧
      (AllMeet (step 20) (State.initial 20) (Funded 20) paidRequest →
        AllReach (step 20) (State.initial 20) (Safe 20 20) paidRequest) ∧
      (s.Settled → Safe 20 20 s → AllMeet (step 20) (State.initial 20) (Funded 20) paidRequest) :=
  ⟨_, run_of_exec rfl, credit_safety (run_of_exec rfl)⟩

/-- A report URL is released to a key without credits, and two answers to a key with credits for
one. -/
theorem not_safe_unpaid :
    (∃ s, Run (step 20) (State.initial 0) unpaidReportLink s ∧ ¬ Safe 20 0 s) ∧
      ∃ s, Run (step 20) (State.initial 20) checkedTwice s ∧ ¬ Safe 20 20 s :=
  ⟨⟨_, run_of_exec rfl, by decide⟩, ⟨_, run_of_exec rfl, by decide⟩⟩

end CatvService.ApiUsage
