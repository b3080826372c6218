import CatvService.Library.Retry
import CatvService.Library.Runs
import CatvService.Library.Value

/-!
# Replies to usage requests

`AMQPCATVConsuming` of `api/rpc/RPCServer.py`, with `ensure_db_connections` of `api/utils.py`.

A delivered message asks for the usage of a user.  Its handler queries the database, publishes the
reply and acknowledges the message; the decorator runs the handler again, up to three times, when
anything in it raises.  What the database and the broker do in each attempt is a sequence of
`Answers`.  What goes to standard output is left out.

* `attempt_events` says what one attempt leaves in the log;
* `ackedAfterReply_handleDelivery`: a message is acknowledged only after its reply;
* `atMostOneReply_handleDelivery_iff`: at most one reply is published exactly when no attempt
  whose acknowledgement fails is followed by an attempt that replies again.
-/

namespace CatvService.Rpc

open PyValue Retry

/-- An exception, by the arm of `ensure_db_connections` that catches it: `OperationalError` and
`InterfaceError`, or any other. -/
inductive Raised where
  | database
  | other
  deriving DecidableEq

/-- The body of a reply: `str(response)`, or the number 0. -/
inductive ReplyBody where
  | text (response : String)
  | zero
  deriving DecidableEq

/-- The arguments of `basic_publish`. -/
structure Reply where
  routingKey : String
  correlationId : String
  body : ReplyBody
  deriving DecidableEq

/-- A call that leaves the process.  `basic_publish` and `basic_ack` come with whether they
returned. -/
inductive UsageEvent where
  | ensureConnection (dbAlias : String)
  | execute (tz dateRange user : Json)
  | basicPublish (reply : Reply) (returned : Bool)
  | basicAck (deliveryTag : ℕ) (returned : Bool)
  | closeOldConnections
  | sleep (seconds : ℕ)

abbrev UsageWork := Work UsageEvent Raised

/-! ## The decorator -/

/-- The calls of `ensure_connection`, one for each alias. -/
def ensureConnections (connects : String → Except Raised Unit) : List String → UsageWork Unit
  | [] => pure ()
  | dbAlias :: aliases => do
      Work.perform (.ensureConnection dbAlias) (connects dbAlias)
      ensureConnections connects aliases

/-- What the two `except` arms do before the next attempt. -/
def recovery : Raised → List UsageEvent
  | .database => [.closeOldConnections, .sleep 5]
  | .other => [.closeOldConnections, .sleep 5]

/-- `while retries < max_retries`, with `left` as what is missing to `max_retries`. -/
def ensureLoop {α : Type} (attempt : ℕ → UsageWork α) : ℕ → ℕ → List UsageEvent × Option α
  | 0, _ => ([], none)
  | left + 1, retries =>
      match (attempt retries).result with
      | .ok value => ((attempt retries).events, some value)
      | .error e =>
          let rest := ensureLoop attempt left (retries + 1)
          ((attempt retries).events ++ recovery e ++ rest.1, rest.2)

/-- `ensure_db_connections(*db_aliases)`: what the wrapped function leaves in the log, and what it
returns.  `connects` and `func` are numbered by the attempt. -/
def ensureDbConnections {α : Type} (dbAliases : List String)
    (connects : ℕ → String → Except Raised Unit) (func : ℕ → UsageWork α) :
    List UsageEvent × Option α :=
  let maxRetries := 3
  ensureLoop (fun retries => do
    ensureConnections (connects retries) dbAliases
    func retries) maxRetries 0

/-! ## The handler -/

/-- What the database and the broker do in one attempt.  `fetchall` is the text of the rows of the
usage query, or what the query raises. -/
structure Answers where
  ensureConnection : String → Except Raised Unit
  fetchall : Except Raised String
  basicPublish : Except Raised Unit
  basicAck : Except Raised Unit

/-- A delivered message.  `literalEval` is `ast.literal_eval(body.decode('utf-8'))`. -/
structure Delivery where
  replyTo : String
  correlationId : String
  deliveryTag : ℕ
  literalEval : Except Raised Json

/-- The evaluated body and the three values that the handler takes from it. -/
structure UsageRequest where
  result : Json
  user : Json
  tz : Json
  dateRange : Json

/-- `result[key]`. -/
def resultItem (result : Json) (key : String) : Except Raised Json :=
  (result.item key).mapError fun _ => .other

/-- The first four lines of the handler. -/
def readRequest (delivery : Delivery) : Except Raised UsageRequest := do
  let result ← delivery.literalEval
  let user ← resultItem result "user_id"
  let tz ← resultItem result "tz"
  let dateRange ← resultItem result "date_range"
  return ⟨result, user, tz, dateRange⟩

/-- `catv_usage(user, tz, date_range)`: the text of the rows, and `none` for `False`, which it
returns when the query raises. -/
def catvUsage (fetchall : Except Raised String) (user tz dateRange : Json) :
    UsageWork (Option String) :=
  ⟨[.execute tz dateRange user], .ok fetchall.toOption⟩

/-- `str(response)`. -/
def strResponse : Option String → String
  | some rows => rows
  | none => "False"

def basicPublish (answer : Except Raised Unit) (reply : Reply) : UsageWork Unit :=
  Work.perform (.basicPublish reply answer.isOk) answer

def basicAck (answer : Except Raised Unit) (deliveryTag : ℕ) : UsageWork Unit :=
  Work.perform (.basicAck deliveryTag answer.isOk) answer

/-- `on_request_portal_catv_call(ch, method, props, body)`. -/
def onRequestPortalCatvCall (answers : Answers) (delivery : Delivery) : UsageWork Unit := do
  let request ← Work.silent (readRequest delivery)
  let response ← catvUsage answers.fetchall request.user request.tz request.dateRange
  if request.result.truthy then
    basicPublish answers.basicPublish
      ⟨delivery.replyTo, delivery.correlationId, .text (strResponse response)⟩
    basicAck answers.basicAck delivery.deliveryTag
  else
    basicPublish answers.basicPublish ⟨delivery.replyTo, delivery.correlationId, .zero⟩
    basicAck answers.basicAck delivery.deliveryTag

/-- The log of one delivered message, and what the decorated handler returns. -/
def handleDelivery (answers : ℕ → Answers) (delivery : Delivery) :
    List UsageEvent × Option Unit :=
  ensureDbConnections ["default"] (fun retries => (answers retries).ensureConnection)
    fun retries => onRequestPortalCatvCall (answers retries) delivery

/-! ## Replies and acknowledgements -/

/-- A published reply with the given correlation id. -/
def isReplyTo (correlationId : String) : UsageEvent → Bool
  | .basicPublish reply returned => returned && reply.correlationId = correlationId
  | _ => false

def isAck : UsageEvent → Bool
  | .basicAck _ _ => true
  | _ => false

/-- At most one reply to the delivery is published. -/
def AtMostOneReply (delivery : Delivery) (events : List UsageEvent) : Prop :=
  events.countP (isReplyTo delivery.correlationId) ≤ 1

/-- Whenever the message is acknowledged, a reply to it was published before. -/
def AckedAfterReply (delivery : Delivery) (events : List UsageEvent) : Prop :=
  Runs.AllAfter (fun earlier event => isAck event = true →
    ∃ reply ∈ earlier, isReplyTo delivery.correlationId reply = true) events

/-- The attempt publishes a reply: the body can be read, the connection is there, and
`basic_publish` returns. -/
def replies (delivery : Delivery) (answers : Answers) : Bool :=
  (readRequest delivery).isOk && (answers.ensureConnection "default").isOk &&
    answers.basicPublish.isOk

/-- The attempt also acknowledges the message, which ends the retries. -/
def completes (delivery : Delivery) (answers : Answers) : Bool :=
  replies delivery answers && answers.basicAck.isOk

/-- The condition under which the delivery gets at most one reply: while the message is not
acknowledged, none of the three attempts replies after another one has replied. -/
def NeverRepliesAgain (delivery : Delivery) (answers : ℕ → Answers) : Prop :=
  ∀ i j, i < j → j < 3 → (∀ k < j, completes delivery (answers k) = false) →
    replies delivery (answers i) = true → replies delivery (answers j) = false

/-! ## One attempt -/

section Attempt

variable {answers : Answers} {delivery : Delivery}

/-- One pass of the loop: the connection, then the handler. -/
def attemptWork (answers : Answers) (delivery : Delivery) : UsageWork Unit := do
  ensureConnections answers.ensureConnection ["default"]
  onRequestPortalCatvCall answers delivery

/-- Neither a published reply nor an acknowledgement. -/
def Quiet (delivery : Delivery) (events : List UsageEvent) : Prop :=
  ∀ event ∈ events, isReplyTo delivery.correlationId event = false ∧ isAck event = false

/-- A body that the three items can be taken from is a dictionary that is not empty, so the
handler never takes its `else`. -/
theorem truthy_of_readRequest {request : UsageRequest} (h : readRequest delivery = .ok request) :
    request.result.truthy = true := by
  obtain ⟨result, -, h⟩ := bind_eq_ok_iff.mp h
  obtain ⟨user, huser, h⟩ := bind_eq_ok_iff.mp h
  obtain ⟨tz, -, h⟩ := bind_eq_ok_iff.mp h
  obtain ⟨dateRange, -, h⟩ := bind_eq_ok_iff.mp h
  obtain rfl : (⟨result, user, tz, dateRange⟩ : UsageRequest) = request := Except.ok.inj h
  cases result with
  | dict entries =>
      cases entries with
      | nil => simp [resultItem, Json.item, Except.mapError] at huser
      | cons entry rest => rfl
  | _ => simp [resultItem, Json.item, Except.mapError] at huser

theorem onRequestPortalCatvCall_of_readRequest (answers : Answers) {request : UsageRequest}
    (h : readRequest delivery = .ok request) :
    ∃ reply : Reply, reply.correlationId = delivery.correlationId ∧
      onRequestPortalCatvCall answers delivery =
        ⟨.execute request.tz request.dateRange request.user ::
          (basicPublish answers.basicPublish reply >>= fun _ =>
            basicAck answers.basicAck delivery.deliveryTag).events,
          (basicPublish answers.basicPublish reply >>= fun _ =>
            basicAck answers.basicAck delivery.deliveryTag).result⟩ := by
  refine ⟨⟨delivery.replyTo, delivery.correlationId,
    .text (strResponse answers.fetchall.toOption)⟩, rfl, ?_⟩
  have hread : (Work.silent (readRequest delivery) : UsageWork UsageRequest).result =
      .ok request := h
  rw [onRequestPortalCatvCall, Work.bind_of_ok hread, Work.bind_of_ok rfl, truthy_of_readRequest h]
  simp [Work.silent, catvUsage]

/-- The connection check is the first entry of the log, and the handler runs if it returns. -/
theorem attemptWork_of_connection
    (h : answers.ensureConnection "default" = .ok ()) :
    attemptWork answers delivery =
      ⟨.ensureConnection "default" :: (onRequestPortalCatvCall answers delivery).events,
        (onRequestPortalCatvCall answers delivery).result⟩ := by
  have hconnects : (ensureConnections answers.ensureConnection ["default"]).result = .ok () := by
    rw [ensureConnections, Work.bind_of_ok h]
    rfl
  have hevents : (ensureConnections answers.ensureConnection ["default"]).events =
      [.ensureConnection "default"] := by
    rw [ensureConnections, Work.bind_of_ok h]
    rfl
  rw [attemptWork, Work.bind_of_ok hconnects, hevents]
  rfl

theorem attemptWork_of_not_replies (h : replies delivery answers = false) :
    Quiet delivery (attemptWork answers delivery).events ∧
      ∃ e, (attemptWork answers delivery).result = .error e := by
  cases hconnection : answers.ensureConnection "default" with
  | error e =>
      have hconnects : (ensureConnections answers.ensureConnection ["default"]) =
          ⟨[.ensureConnection "default"], .error e⟩ := Work.bind_of_error hconnection
      rw [attemptWork, Work.bind_of_error (congrArg Work.result hconnects), hconnects]
      exact ⟨by simp [Quiet, isReplyTo, isAck], e, rfl⟩
  | ok _ =>
      rw [attemptWork_of_connection hconnection]
      cases hread : readRequest delivery with
      | error e =>
          have hsilent : (Work.silent (readRequest delivery) : UsageWork UsageRequest).result =
              .error e := hread
          rw [onRequestPortalCatvCall, Work.bind_of_error hsilent]
          exact ⟨by simp [Quiet, isReplyTo, isAck, Work.silent], e, rfl⟩
      | ok request =>
          obtain ⟨e, hpublish⟩ : ∃ e, answers.basicPublish = .error e := by
            apply exists_error_of_isOk
            rw [replies, hread, hconnection] at h
            exact h
          obtain ⟨reply, -, hhandler⟩ := onRequestPortalCatvCall_of_readRequest answers hread
          have hreply : (basicPublish answers.basicPublish reply).result = .error e := hpublish
          rw [hhandler, Work.bind_of_error hreply]
          refine ⟨?_, e, rfl⟩
          simp [Quiet, isReplyTo, isAck, basicPublish, Work.perform, hpublish, Except.isOk,
            Except.toBool]

theorem attemptWork_of_replies (h : replies delivery answers = true) :
    ∃ before reply, Quiet delivery before ∧ reply.correlationId = delivery.correlationId ∧
      attemptWork answers delivery =
        ⟨before ++ [.basicPublish reply true,
          .basicAck delivery.deliveryTag answers.basicAck.isOk], answers.basicAck⟩ := by
  obtain ⟨hboth, hpublish⟩ : _ ∧ answers.basicPublish.isOk = true := Bool.and_eq_true_iff.mp h
  obtain ⟨hread, hconnection⟩ := Bool.and_eq_true_iff.mp hboth
  obtain ⟨request, hread⟩ := exists_ok_of_isOk hread
  obtain ⟨⟨⟩, hconnection⟩ := exists_ok_of_isOk hconnection
  obtain ⟨⟨⟩, hpublish⟩ := exists_ok_of_isOk hpublish
  obtain ⟨reply, hreply, hhandler⟩ := onRequestPortalCatvCall_of_readRequest answers hread
  have hreturns : (basicPublish answers.basicPublish reply).result = .ok () := hpublish
  refine ⟨[.ensureConnection "default", .execute request.tz request.dateRange request.user], reply,
    by simp [Quiet, isReplyTo, isAck], hreply, ?_⟩
  rw [attemptWork_of_connection hconnection, hhandler, Work.bind_of_ok hreturns, hpublish]
  rfl

end Attempt

/-! ## The attempts -/

/-- What an attempt leaves in the log, together with the recovery from its exception. -/
def roundEvents {α : Type} (work : UsageWork α) : List UsageEvent :=
  match work.result with
  | .ok _ => work.events
  | .error e => work.events ++ recovery e

theorem ensureLoop_events {α : Type} (attempt : ℕ → UsageWork α) (left retries : ℕ) :
    (ensureLoop attempt left retries).1 =
      rounds (fun i => roundEvents (attempt (retries + i)))
        (attempts (fun i => (attempt (retries + i)).result.isOk) left) := by
  induction left generalizing retries with
  | zero => rfl
  | succ left ih =>
      cases hresult : (attempt retries).result with
      | ok value =>
          have hfirst : (attempt (retries + 0)).result.isOk = true := by
            rw [Nat.add_zero, hresult]
            rfl
          rw [attempts_succ_of_success hfirst]
          simp only [ensureLoop, hresult]
          simp [rounds, roundEvents, hresult]
      | error e =>
          have hfirst : (attempt (retries + 0)).result.isOk = false := by
            rw [Nat.add_zero, hresult]
            rfl
          have hshift : ∀ i, attempt (retries + (i + 1)) = attempt (retries + 1 + i) := by
            intro i
            congr 1
            omega
          rw [attempts_succ_of_failure hfirst, rounds_succ']
          simp only [hshift, ensureLoop, hresult, ih (retries + 1)]
          simp [roundEvents, hresult]

section Delivery

variable {delivery : Delivery}

theorem isOk_attemptWork (answers : Answers) :
    (attemptWork answers delivery).result.isOk = completes delivery answers := by
  cases h : replies delivery answers with
  | false =>
      obtain ⟨-, e, hresult⟩ := attemptWork_of_not_replies h
      rw [hresult, completes, h]
      rfl
  | true =>
      obtain ⟨before, reply, -, -, hwork⟩ := attemptWork_of_replies h
      rw [hwork, completes, h]
      rfl

theorem handleDelivery_events (answers : ℕ → Answers) :
    (handleDelivery answers delivery).1 =
      rounds (fun i => roundEvents (attemptWork (answers i) delivery))
        (attempts (fun i => completes delivery (answers i)) 3) := by
  rw [handleDelivery, ensureDbConnections, ensureLoop_events]
  simp only [Nat.zero_add, ← isOk_attemptWork]
  rfl

theorem quiet_recovery (e : Raised) : Quiet delivery (recovery e) := by
  cases e <;> simp [Quiet, recovery, isReplyTo, isAck]

theorem Quiet.append {first second : List UsageEvent} (hfirst : Quiet delivery first)
    (hsecond : Quiet delivery second) : Quiet delivery (first ++ second) := by
  intro event hevent
  rcases List.mem_append.mp hevent with hevent | hevent
  · exact hfirst event hevent
  · exact hsecond event hevent

/-- What an attempt and the recovery after it leave in the log. -/
theorem roundEvents_cases (answers : Answers) :
    (replies delivery answers = false ∧ Quiet delivery (roundEvents (attemptWork answers delivery)))
    ∨ (replies delivery answers = true ∧ ∃ before reply returned after, Quiet delivery before ∧
      Quiet delivery after ∧ reply.correlationId = delivery.correlationId ∧
      roundEvents (attemptWork answers delivery) =
        before ++ [.basicPublish reply true, .basicAck delivery.deliveryTag returned] ++
          after) := by
  cases h : replies delivery answers with
  | false =>
      obtain ⟨hquiet, e, hresult⟩ := attemptWork_of_not_replies h
      refine .inl ⟨rfl, ?_⟩
      rw [roundEvents, hresult]
      exact hquiet.append (quiet_recovery e)
  | true =>
      obtain ⟨before, reply, hbefore, hreply, hwork⟩ := attemptWork_of_replies h
      refine .inr ⟨rfl, before, reply, answers.basicAck.isOk, ?_⟩
      rw [roundEvents, hwork]
      cases answers.basicAck with
      | ok _ => exact ⟨[], hbefore, by simp [Quiet], hreply, by simp⟩
      | error e => exact ⟨recovery e, hbefore, quiet_recovery e, hreply, rfl⟩

theorem Quiet.countP_eq_zero {events : List UsageEvent} (h : Quiet delivery events) :
    events.countP (isReplyTo delivery.correlationId) = 0 :=
  List.countP_eq_zero.mpr fun event hevent => by simp [(h event hevent).1]

theorem countP_roundEvents (answers : Answers) :
    (roundEvents (attemptWork answers delivery)).countP (isReplyTo delivery.correlationId) =
      if replies delivery answers then 1 else 0 := by
  rcases roundEvents_cases answers with
    ⟨hnone, hquiet⟩ | ⟨hreplies, before, reply, returned, after, hbefore, hafter, hreply, hevents⟩
  · rw [hquiet.countP_eq_zero, hnone]
    rfl
  · rw [hevents, hreplies, List.countP_append, List.countP_append, hbefore.countP_eq_zero,
      hafter.countP_eq_zero]
    simp [isReplyTo, hreply]

/-! ## The delivery -/

theorem Quiet.ackedAfterReply {events : List UsageEvent} (h : Quiet delivery events) :
    AckedAfterReply delivery events := by
  rintro earlier event later rfl hack
  have := (h event (by simp)).2
  simp [hack] at this

theorem AckedAfterReply.append {first second : List UsageEvent}
    (hfirst : AckedAfterReply delivery first) (hsecond : AckedAfterReply delivery second) :
    AckedAfterReply delivery (first ++ second) := by
  refine Runs.AllAfter.append (fun more earlier event h hack => ?_) hfirst hsecond
  obtain ⟨reply, hreply, hpublished⟩ := h hack
  exact ⟨reply, List.mem_append_right more hreply, hpublished⟩

theorem ackedAfterReply_roundEvents (answers : Answers) :
    AckedAfterReply delivery (roundEvents (attemptWork answers delivery)) := by
  rcases roundEvents_cases answers with
    ⟨-, hquiet⟩ | ⟨-, before, reply, returned, after, hbefore, hafter, hreply, hevents⟩
  · exact hquiet.ackedAfterReply
  · rw [hevents]
    have hreplied : isReplyTo delivery.correlationId (.basicPublish reply true) = true := by
      simp [isReplyTo, hreply]
    -- the acknowledgement comes right after the reply
    have hpair : AckedAfterReply delivery
        [.basicPublish reply true, .basicAck delivery.deliveryTag returned] := by
      change Runs.AllAfter _
        (([] ++ [UsageEvent.basicPublish reply true]) ++ [UsageEvent.basicAck _ returned])
      rw [Runs.allAfter_append_singleton_iff, Runs.allAfter_append_singleton_iff]
      refine ⟨⟨Runs.allAfter_nil, fun hack => ?_⟩, fun _ => ?_⟩
      · simp [isAck] at hack
      · exact ⟨_, List.mem_singleton_self _, hreplied⟩
    exact (hbefore.ackedAfterReply.append hpair).append hafter.ackedAfterReply

/-- A message is acknowledged only after a reply to it was published. -/
theorem ackedAfterReply_handleDelivery (answers : ℕ → Answers) :
    AckedAfterReply delivery (handleDelivery answers delivery).1 := by
  rw [handleDelivery_events]
  generalize attempts (fun i => completes delivery (answers i)) 3 = n
  induction n with
  | zero => exact Runs.allAfter_nil
  | succ n ih =>
      rw [rounds_succ]
      exact ih.append (ackedAfterReply_roundEvents (answers n))

theorem atMostOneReply_handleDelivery_iff (answers : ℕ → Answers) :
    AtMostOneReply delivery (handleDelivery answers delivery).1 ↔
      NeverRepliesAgain delivery answers := by
  rw [AtMostOneReply, handleDelivery_events,
    countP_rounds_le_one_iff fun i => countP_roundEvents (answers i)]
  -- attempt `j` is made when `j < 3` and none before it completes
  simp only [lt_attempts_iff, and_imp]
  rfl

end Delivery

/-- **At most one reply per usage request.**  One delivered message gets at most one reply, and is
acknowledged only after a reply, exactly when no attempt whose reply could not be acknowledged is
followed by an attempt that replies. -/
theorem handleDelivery_repliesOnce_iff (answers : ℕ → Answers) (delivery : Delivery) :
    AtMostOneReply delivery (handleDelivery answers delivery).1 ∧
        AckedAfterReply delivery (handleDelivery answers delivery).1 ↔
      NeverRepliesAgain delivery answers := by
  rw [atMostOneReply_handleDelivery_iff]
  exact and_iff_left (ackedAfterReply_handleDelivery answers)

/-- A request for the usage of the last 30 days. -/
def usageDelivery : Delivery where
  replyTo := "amq.gen-JzTY20BRgKO"
  correlationId := "8f7c2d1e"
  deliveryTag := 7
  literalEval := .ok (.dict [("user_id", .int 42), ("tz", .str "UTC"), ("date_range", .int 30)])

/-- The first acknowledgement fails; everything else works. -/
def firstAckLost (i : ℕ) : Answers where
  ensureConnection := fun _ => .ok ()
  fetchall := .ok "[(datetime.date(2023, 5, 1), 3)]"
  basicPublish := .ok ()
  basicAck := if i = 0 then .error .other else .ok ()

/-- The handler runs again after the failed acknowledgement, and the reply is published twice. -/
theorem not_atMostOneReply_firstAckLost :
    ¬ AtMostOneReply usageDelivery (handleDelivery firstAckLost usageDelivery).1 := by
  unfold AtMostOneReply
  decide +kernel

end CatvService.Rpc
