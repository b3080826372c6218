import CatvService.Library.Runs
import CatvService.Models
import Mathlib.Data.List.Infix

/-!
# Submissions, their records and their credits

The three routes that put one job into a queue: `submit_catv_request` and the re-submission of
`CATVReportView.put`, which share `CatvRequestTask`, and `CATVKYTInternalView.post`.

Every route is a list of operations, each committed by itself: the job is enqueued, the status and
the result are saved in one transaction, the credits are deducted by RPC.  The routes take them in
different orders.  An operation may fail, before or after it has taken effect, and then the route
stops.  Any number of submissions advance in any order, and consumers read between any two steps.

The order decides what can be relied upon: what has taken effect is always an initial part of the
route's list (`InOrder`), so a later operation of the list implies the earlier ones.
-/

namespace CatvService.CatvRequest

open Runs

/-! ## The model -/

/-- The separately committed operations of a submission. -/
inductive Operation where
  /-- `job_queue_class.objects.create` -/
  | enqueue
  /-- The transaction that creates the status and the result. -/
  | save
  /-- `RPCClientUpdateUsageCatvCall().call` -/
  | updateUsage
  deriving DecidableEq, Repr

/-- The routes, with what only they know. -/
inductive Route (Doc : Type*) where
  /-- `submit_catv_request`; with `is_api` the caller charges the key itself, later. -/
  | submitCatvRequest (isApi : Bool)
  /-- `CATVReportView.put` -/
  | reportPut
  /-- `CATVKYTInternalView.post` -/
  | kyt (kytReportId tracerData : Doc)
  deriving DecidableEq

/-- What a submission is made of.  For `kyt`, `searchType`, `isLegacy` and `isBountyTrack` are not
read. -/
structure Request (Doc : Type*) where
  route : Route Doc
  messageId : Uuid
  userId : ℕ
  tokenType : String
  searchType : CatvSearchType
  searchParams : Doc
  isLegacy : Bool
  isBountyTrack : Bool
  deriving DecidableEq

/-- A submission on its way: the operations that have taken effect, those still to come, and the
one at which it stopped, if any. -/
structure Submission (Doc : Type*) where
  request : Request Doc
  effects : List Operation
  todo : List Operation
  stoppedAt : Option Operation
  deriving DecidableEq

/-- How an operation ends.  An exception may hide that it took effect; the usage RPC may also
decline. -/
inductive Outcome where
  | done
  | declined
  | raisedBefore
  | raisedAfter
  deriving DecidableEq, Repr

structure State (Doc : Type*) where
  db : Database Doc
  submissions : List (Submission Doc)

inductive Action (Doc : Type*) where
  | submit (request : Request Doc)
  | advance (index : ℕ) (outcome : Outcome)
  deriving DecidableEq

variable {Doc : Type*}

/-- The operations of a route, in its order. -/
def Route.operations : Route Doc → List Operation
  | .submitCatvRequest isApi => if isApi then [.enqueue, .save] else [.enqueue, .save, .updateUsage]
  | .reportPut => [.enqueue, .save, .updateUsage]
  | .kyt _ _ => [.updateUsage, .save, .enqueue]

/-- The submission of `CATVKYTInternalView`. -/
def Route.isKyt : Route Doc → Bool
  | .kyt _ _ => true
  | _ => false

/-- The queue that the job goes to. -/
def Request.jobQueueClass (request : Request Doc) : JobQueueClass :=
  match request.route with
  | .kyt _ _ => .catvNeoJobQueue
  | _ => if request.isLegacy then .catvJobQueue else .catvNeoJobQueue

/-- The job row: `message_body` of `CatvRequestTask.run`, or that of `CATVKYTInternalView.post`. -/
def Request.job (request : Request Doc) : JobQueueRow Doc where
  message :=
    match request.route with
    | .kyt kytReportId tracerData =>
        { messageId := request.messageId
          userId := request.userId
          tokenType := request.tokenType
          searchType := some .flow
          source := some "kyt"
          kytReportId := some kytReportId
          tracerData := some tracerData
          searchParams := request.searchParams }
    | _ =>
        { messageId := request.messageId
          userId := request.userId
          tokenType := request.tokenType
          searchType := some request.searchType
          source := none
          kytReportId := none
          tracerData := none
          searchParams := request.searchParams }
  retriesRemaining := 1

/-- The status row: that of `CatvRequestTask.save`, or that of `CATVKYTInternalView.post`, which
leaves the two flags at their defaults. -/
def Request.taskRecord (request : Request Doc) : CatvRequestStatus Doc :=
  match request.route with
  | .kyt _ _ =>
      .new request.messageId request.searchParams request.userId request.tokenType false false
  | _ =>
      .new request.messageId request.searchParams request.userId request.tokenType request.isLegacy
        request.isBountyTrack

/-- What an operation does to the tables. -/
def Request.apply (request : Request Doc) : Operation → Database Doc → Database Doc
  | .enqueue, db => db.createJobs request.jobQueueClass [request.job]
  | .save, db =>
      (db.createStatuses [request.taskRecord]).createResults [.new request.taskRecord]
  | .updateUsage, db => db

/-- A submission before its first operation. -/
def Request.start (request : Request Doc) : Submission Doc :=
  ⟨request, [], request.route.operations, none⟩

def State.initial : State Doc :=
  ⟨Database.empty, []⟩

/-- The submission at `index` becomes `submission`, and the tables become `db`. -/
def State.put (s : State Doc) (index : ℕ) (submission : Submission Doc) (db : Database Doc) :
    State Doc :=
  ⟨db, s.submissions.set index submission⟩

/-- One step of the system. -/
def step (s : State Doc) : Action Doc → Option (State Doc)
  | .submit request => some { s with submissions := s.submissions ++ [request.start] }
  | .advance index outcome =>
      match s.submissions[index]? with
      | none => none
      | some submission =>
          match submission.todo with
          | [] => none
          | operation :: rest =>
              match outcome with
              | .done =>
                  some (s.put index
                    { submission with effects := submission.effects ++ [operation], todo := rest }
                    (submission.request.apply operation s.db))
              | .declined =>
                  -- `kyt` answers 403; the other routes print the answer, and have nothing left
                  if operation = .updateUsage then
                    some (s.put index
                      { submission with todo := [], stoppedAt := some operation } s.db)
                  else none
              | .raisedBefore =>
                  some (s.put index
                    { submission with todo := [], stoppedAt := some operation } s.db)
              | .raisedAfter =>
                  some (s.put index
                    { submission with
                      effects := submission.effects ++ [operation]
                      todo := []
                      stoppedAt := some operation }
                    (submission.request.apply operation s.db))

/-! ## The two properties -/

/-- A status row and a result row with this message id. -/
def Database.HasRecords (db : Database Doc) (messageId : Uuid) : Prop :=
  (∃ row ∈ db.catvRequestStatus, row.uid = messageId) ∧
    ∃ row ∈ db.catvResult, row.request = messageId

/-- Every row of a job queue has its records. -/
def QueueRecorded (s : State Doc) : Prop :=
  ∀ cls, ∀ row ∈ s.db.jobQueue cls, Database.HasRecords s.db row.message.messageId

/-- The submission has a queue row. -/
def Queued (s : State Doc) (request : Request Doc) : Prop :=
  request.job ∈ s.db.jobQueue request.jobQueueClass

/-- Every submission whose credits were deducted has a queue row. -/
def ChargedQueued (s : State Doc) : Prop :=
  ∀ submission ∈ s.submissions, .updateUsage ∈ submission.effects → Queued s submission.request

/-- What the order of the operations guarantees in every visible state.  A queue row of the KYT
route has its records, and so has one of the other routes once its save has committed; a submission
that has come to its end without a failure has both.  Charged credits have a queue row with records,
except that a charged KYT submission may be short of its enqueue or have stopped. -/
structure Consistent (s : State Doc) : Prop where
  queue : ∀ cls, ∀ row ∈ s.db.jobQueue cls, ∃ submission ∈ s.submissions,
    submission.request.jobQueueClass = cls ∧ submission.request.job = row ∧
      (submission.request.route.isKyt ∨ .save ∈ submission.effects →
        Database.HasRecords s.db row.message.messageId)
  finished : ∀ submission ∈ s.submissions, submission.todo = [] → submission.stoppedAt = none →
    Queued s submission.request ∧ Database.HasRecords s.db submission.request.messageId
  charged : ∀ submission ∈ s.submissions, .updateUsage ∈ submission.effects →
    Queued s submission.request ∧ Database.HasRecords s.db submission.request.messageId ∨
      submission.request.route.isKyt ∧
        (.enqueue ∈ submission.todo ∨ submission.stoppedAt.isSome)

/-! ## What one step does -/

/-- Nothing is taken out of a table. -/
structure Grows (before after : Database Doc) : Prop where
  jobQueue : ∀ cls, before.jobQueue cls ⊆ after.jobQueue cls
  catvRequestStatus : before.catvRequestStatus ⊆ after.catvRequestStatus
  catvResult : before.catvResult ⊆ after.catvResult

theorem Grows.refl (db : Database Doc) : Grows db db :=
  ⟨fun _ => List.Subset.refl _, List.Subset.refl _, List.Subset.refl _⟩

theorem jobQueue_enqueue (request : Request Doc) (db : Database Doc) (cls : JobQueueClass) :
    (request.apply .enqueue db).jobQueue cls =
      if cls = request.jobQueueClass then db.jobQueue cls ++ [request.job]
      else db.jobQueue cls := by
  simp only [Request.apply]
  split
  · rename_i heq
    rw [heq, Database.jobQueue_createJobs_self]
  · rename_i hne
    rw [Database.jobQueue_createJobs_of_ne _ _ _ hne]

theorem grows_apply (request : Request Doc) (operation : Operation) (db : Database Doc) :
    Grows db (request.apply operation db) := by
  cases operation with
  | enqueue =>
      refine ⟨fun cls => ?_, List.Subset.refl _, List.Subset.refl _⟩
      rw [jobQueue_enqueue]
      split
      · exact List.subset_append_left _ _
      · exact List.Subset.refl _
  | save =>
      refine ⟨fun _ => List.Subset.refl _, ?_, ?_⟩
      · exact List.subset_append_left _ _
      · exact List.subset_append_left _ _
  | updateUsage => exact Grows.refl db

/-- The rows of an operation that has taken effect. -/
def Request.Took (request : Request Doc) (db : Database Doc) : Operation → Prop
  | .enqueue => request.job ∈ db.jobQueue request.jobQueueClass
  | .save => request.taskRecord ∈ db.catvRequestStatus ∧
      CatvResult.new request.taskRecord ∈ db.catvResult
  | .updateUsage => True

theorem took_apply (request : Request Doc) (operation : Operation) (db : Database Doc) :
    request.Took (request.apply operation db) operation := by
  cases operation with
  | enqueue =>
      unfold Request.Took
      rw [jobQueue_enqueue, if_pos rfl]
      simp
  | save => simp [Request.Took, Request.apply]
  | updateUsage => trivial

theorem Request.Took.mono {request : Request Doc} {before after : Database Doc}
    {operation : Operation} (htook : request.Took before operation) (hgrows : Grows before after) :
    request.Took after operation := by
  cases operation with
  | enqueue => exact hgrows.jobQueue _ htook
  | save => exact ⟨hgrows.catvRequestStatus htook.1, hgrows.catvResult htook.2⟩
  | updateUsage => trivial

/-- A submission stops, or its next operation takes effect and it goes on or stops. -/
inductive Moves (submission : Submission Doc) (db : Database Doc) :
    Submission Doc → Database Doc → Prop where
  | stopped {operation : Operation} {rest : List Operation}
      (htodo : submission.todo = operation :: rest) :
      Moves submission db { submission with todo := [], stoppedAt := some operation } db
  | done {operation : Operation} {rest : List Operation}
      (htodo : submission.todo = operation :: rest) :
      Moves submission db
        { submission with effects := submission.effects ++ [operation], todo := rest }
        (submission.request.apply operation db)
  | raisedAfter {operation : Operation} {rest : List Operation}
      (htodo : submission.todo = operation :: rest) :
      Moves submission db
        { submission with
          effects := submission.effects ++ [operation]
          todo := []
          stoppedAt := some operation }
        (submission.request.apply operation db)

/-- A step starts a submission or moves one. -/
theorem step_cases {s t : State Doc} {action : Action Doc} (hstep : step s action = some t) :
    (∃ request : Request Doc, t = { s with submissions := s.submissions ++ [request.start] }) ∨
      ∃ index submission moved db, s.submissions[index]? = some submission ∧
        Moves submission s.db moved db ∧ t = s.put index moved db := by
  cases action with
  | submit request => exact .inl ⟨request, (Option.some.inj hstep).symm⟩
  | advance index outcome =>
      simp only [step] at hstep
      split at hstep
      · cases hstep
      · rename_i submission hsubmission
        split at hstep
        · cases hstep
        · rename_i operation rest htodo
          refine .inr ⟨index, submission, ?_⟩
          cases outcome with
          | done => exact ⟨_, _, hsubmission, .done htodo, (Option.some.inj hstep).symm⟩
          | declined =>
              simp only at hstep
              split at hstep
              · exact ⟨_, _, hsubmission, .stopped htodo, (Option.some.inj hstep).symm⟩
              · cases hstep
          | raisedBefore => exact ⟨_, _, hsubmission, .stopped htodo, (Option.some.inj hstep).symm⟩
          | raisedAfter =>
              exact ⟨_, _, hsubmission, .raisedAfter htodo, (Option.some.inj hstep).symm⟩

section Moves

variable {submission moved : Submission Doc} {db after : Database Doc}

theorem Moves.request_eq (hmoves : Moves submission db moved after) :
    moved.request = submission.request := by
  cases hmoves <;> rfl

theorem Moves.effects_subset (hmoves : Moves submission db moved after) :
    submission.effects ⊆ moved.effects := by
  cases hmoves with
  | stopped => exact List.Subset.refl _
  | done => exact List.subset_append_left _ _
  | raisedAfter => exact List.subset_append_left _ _

theorem Moves.grows (hmoves : Moves submission db moved after) : Grows db after := by
  cases hmoves with
  | stopped => exact Grows.refl db
  | done => exact grows_apply _ _ db
  | raisedAfter => exact grows_apply _ _ db

theorem Moves.mem_jobQueue (hmoves : Moves submission db moved after) {cls : JobQueueClass}
    {row : JobQueueRow Doc} (hrow : row ∈ after.jobQueue cls) :
    row ∈ db.jobQueue cls ∨
      submission.request.jobQueueClass = cls ∧ submission.request.job = row ∧
        .enqueue ∈ moved.effects := by
  have happly : ∀ operation : Operation,
      row ∈ (submission.request.apply operation db).jobQueue cls →
      row ∈ db.jobQueue cls ∨ submission.request.jobQueueClass = cls ∧
        submission.request.job = row ∧ operation = .enqueue := by
    intro operation hmem
    cases operation with
    | enqueue =>
        rw [jobQueue_enqueue] at hmem
        split at hmem
        · rename_i hclass
          rcases List.mem_append.mp hmem with hmem | hmem
          · exact .inl hmem
          · exact .inr ⟨hclass.symm, (List.mem_singleton.mp hmem).symm, rfl⟩
        · exact .inl hmem
    | save => exact .inl hmem
    | updateUsage => exact .inl hmem
  cases hmoves with
  | stopped => exact .inl hrow
  | done =>
      refine (happly _ hrow).imp_right ?_
      rintro ⟨hclass, hjob, rfl⟩
      exact ⟨hclass, hjob, by simp⟩
  | raisedAfter =>
      refine (happly _ hrow).imp_right ?_
      rintro ⟨hclass, hjob, rfl⟩
      exact ⟨hclass, hjob, by simp⟩

theorem Moves.took (hmoves : Moves submission db moved after)
    (htook : ∀ operation ∈ submission.effects, submission.request.Took db operation) :
    ∀ operation ∈ moved.effects, moved.request.Took after operation := by
  have hold : ∀ operation ∈ submission.effects, moved.request.Took after operation := by
    intro operation hmem
    rw [hmoves.request_eq]
    exact (htook operation hmem).mono hmoves.grows
  intro operation hmem
  cases hmoves with
  | stopped => exact hold operation hmem
  | done =>
      rcases List.mem_append.mp hmem with hmem | hmem
      · exact hold operation hmem
      · rw [List.mem_singleton.mp hmem]
        exact took_apply _ _ db
  | raisedAfter =>
      rcases List.mem_append.mp hmem with hmem | hmem
      · exact hold operation hmem
      · rw [List.mem_singleton.mp hmem]
        exact took_apply _ _ db

end Moves

/-! ## What holds in every state -/

/-- What has taken effect and what is to come make up the route, or the submission has stopped and
what has taken effect is an initial part of the route. -/
def InOrder (submission : Submission Doc) : Prop :=
  submission.effects ++ submission.todo = submission.request.route.operations ∨
    submission.todo = [] ∧ submission.stoppedAt.isSome ∧
      submission.effects <+: submission.request.route.operations

theorem Moves.inOrder {submission moved : Submission Doc} {db after : Database Doc}
    (hmoves : Moves submission db moved after) (horder : InOrder submission) : InOrder moved := by
  have hroute : ∀ operation rest, submission.todo = operation :: rest →
      submission.effects ++ operation :: rest = submission.request.route.operations := by
    intro operation rest htodo
    rcases horder with horder | ⟨hnil, -, -⟩
    · rwa [htodo] at horder
    · rw [htodo] at hnil
      cases hnil
  cases hmoves with
  | stopped htodo =>
      refine .inr ⟨rfl, rfl, ?_⟩
      rw [← hroute _ _ htodo]
      exact List.prefix_append _ _
  | done htodo =>
      refine .inl ?_
      rw [← hroute _ _ htodo]
      simp
  | raisedAfter htodo =>
      refine .inr ⟨rfl, rfl, ?_⟩
      rw [← hroute _ _ htodo]
      simp

/-- The tables and the submissions tell the same story. -/
structure Recorded (s : State Doc) : Prop where
  inOrder : ∀ submission ∈ s.submissions, InOrder submission
  took : ∀ submission ∈ s.submissions, ∀ operation ∈ submission.effects,
    submission.request.Took s.db operation
  job : ∀ cls, ∀ row ∈ s.db.jobQueue cls, ∃ submission ∈ s.submissions,
    submission.request.jobQueueClass = cls ∧ submission.request.job = row ∧
      .enqueue ∈ submission.effects

theorem recorded_initial : Recorded (State.initial : State Doc) where
  inOrder := by simp [State.initial]
  took := by simp [State.initial]
  job := by simp [State.initial, Database.empty]

theorem recorded_step (s : State Doc) (action : Action Doc) (t : State Doc)
    (hrecorded : Recorded s) (hstep : step s action = some t) : Recorded t := by
  rcases step_cases hstep with ⟨request, rfl⟩ | ⟨index, submission, moved, db, hold, hmoves, rfl⟩
  · refine ⟨fun other hmem => ?_, fun other hmem => ?_, fun cls row hrow => ?_⟩
    · rcases List.mem_append.mp hmem with hmem | hmem
      · exact hrecorded.inOrder other hmem
      · rw [List.mem_singleton.mp hmem]
        exact .inl rfl
    · rcases List.mem_append.mp hmem with hmem | hmem
      · exact hrecorded.took other hmem
      · rw [List.mem_singleton.mp hmem]
        exact fun _ hnone => absurd hnone List.not_mem_nil
    · obtain ⟨other, hmem, hrest⟩ := hrecorded.job cls row hrow
      exact ⟨other, List.mem_append_left _ hmem, hrest⟩
  · -- one submission moves, the others keep what they have
    have hmember : submission ∈ s.submissions := List.mem_of_getElem? hold
    have hmoved : moved ∈ s.submissions.set index moved :=
      List.mem_set (List.getElem?_eq_some_iff.mp hold).1 moved
    refine ⟨fun other hmem => ?_, fun other hmem => ?_, fun cls row hrow => ?_⟩
    · rcases List.mem_or_eq_of_mem_set hmem with hmem | rfl
      · exact hrecorded.inOrder other hmem
      · exact hmoves.inOrder (hrecorded.inOrder submission hmember)
    · rcases List.mem_or_eq_of_mem_set hmem with hmem | rfl
      · exact fun operation heffect =>
          (hrecorded.took other hmem operation heffect).mono hmoves.grows
      · exact hmoves.took (hrecorded.took submission hmember)
    · rcases hmoves.mem_jobQueue hrow with hrow | ⟨hclass, hjob, heffect⟩
      · obtain ⟨other, hmem, hclass, hjob, heffect⟩ := hrecorded.job cls row hrow
        rcases mem_set_or_eq hold moved hmem with hmem | rfl
        · exact ⟨other, hmem, hclass, hjob, heffect⟩
        · rw [← hmoves.request_eq] at hclass hjob
          exact ⟨moved, hmoved, hclass, hjob, hmoves.effects_subset heffect⟩
      · rw [← hmoves.request_eq] at hclass hjob
        exact ⟨moved, hmoved, hclass, hjob, heffect⟩

/-! ## Consistency -/

theorem InOrder.isPrefix {submission : Submission Doc} (horder : InOrder submission) :
    submission.effects <+: submission.request.route.operations := by
  rcases horder with horder | ⟨-, -, hinit⟩
  · rw [← horder]
    exact List.prefix_append _ _
  · exact hinit

theorem Route.operations_of_isKyt {route : Route Doc} (hkyt : route.isKyt) :
    route.operations = [.updateUsage, .save, .enqueue] := by
  cases route with
  | kyt kytReportId tracerData => rfl
  | _ => cases hkyt

theorem Route.operations_of_not_isKyt {route : Route Doc} (hkyt : ¬ route.isKyt) :
    route.operations <+: [.enqueue, .save, .updateUsage] := by
  cases route with
  | submitCatvRequest isApi =>
      cases isApi with
      | true => exact ⟨[.updateUsage], rfl⟩
      | false => exact List.prefix_refl _
  | reportPut => exact List.prefix_refl _
  | kyt kytReportId tracerData => exact absurd rfl hkyt

/-- Of three operations in order, the last one to take effect has the others behind it. -/
theorem mem_of_prefix_of_last_mem {effects : List Operation} {first second last : Operation}
    (hinit : effects <+: [first, second, last]) (hfirst : first ≠ last) (hsecond : second ≠ last)
    (hlast : last ∈ effects) : first ∈ effects ∧ second ∈ effects := by
  obtain ⟨later, hlater⟩ := hinit
  rcases effects with - | ⟨a, - | ⟨b, - | ⟨c, rest⟩⟩⟩
  · cases hlast
  · obtain rfl : last = a := by simpa using hlast
    exact absurd (by simpa using (List.cons.inj hlater).1) hfirst.symm
  · simp only [List.cons_append, List.cons.injEq] at hlater
    obtain ⟨rfl, rfl, -⟩ := hlater
    simp [hfirst.symm, hsecond.symm] at hlast
  · simp only [List.cons_append, List.cons.injEq] at hlater
    obtain ⟨rfl, rfl, -⟩ := hlater
    simp

theorem Request.job_messageId (request : Request Doc) :
    request.job.message.messageId = request.messageId := by
  obtain ⟨route, _⟩ := request
  cases route <;> rfl

theorem Request.taskRecord_uid (request : Request Doc) :
    request.taskRecord.uid = request.messageId := by
  obtain ⟨route, _⟩ := request
  cases route <;> rfl

/-- A save that has committed has left the records. -/
theorem Recorded.hasRecords {s : State Doc} (hrecorded : Recorded s) {submission : Submission Doc}
    (hmem : submission ∈ s.submissions) (hsave : .save ∈ submission.effects) :
    Database.HasRecords s.db submission.request.messageId := by
  obtain ⟨hstatus, hresult⟩ := hrecorded.took submission hmem .save hsave
  exact ⟨⟨_, hstatus, submission.request.taskRecord_uid⟩,
    ⟨_, hresult, submission.request.taskRecord_uid⟩⟩

/-- Every route enqueues its job and saves its records. -/
theorem Route.mem_operations (route : Route Doc) :
    .enqueue ∈ route.operations ∧ .save ∈ route.operations := by
  cases route with
  | submitCatvRequest isApi => cases isApi <;> simp [Route.operations]
  | reportPut => simp [Route.operations]
  | kyt kytReportId tracerData => simp [Route.operations]

/-- A submission that has come to its end without a failure has gone all the way. -/
theorem InOrder.effects_eq {submission : Submission Doc} (horder : InOrder submission)
    (htodo : submission.todo = []) (hstopped : submission.stoppedAt = none) :
    submission.effects = submission.request.route.operations := by
  rcases horder with horder | ⟨-, hfailed, -⟩
  · rwa [htodo, List.append_nil] at horder
  · rw [hstopped] at hfailed
    cases hfailed

theorem Recorded.consistent {s : State Doc} (hrecorded : Recorded s) : Consistent s := by
  refine ⟨fun cls row hrow => ?_, fun submission hmem htodo hstopped => ?_,
    fun submission hmem hcharged => ?_⟩
  · obtain ⟨submission, hmem, hclass, hjob, henqueue⟩ := hrecorded.job cls row hrow
    refine ⟨submission, hmem, hclass, hjob, fun hroute => ?_⟩
    rw [← hjob, Request.job_messageId]
    apply hrecorded.hasRecords hmem
    rcases hroute with hkyt | hsave
    · have hinit := (hrecorded.inOrder submission hmem).isPrefix
      rw [Route.operations_of_isKyt hkyt] at hinit
      exact (mem_of_prefix_of_last_mem hinit (by decide) (by decide) henqueue).2
    · exact hsave
  · have heffects := (hrecorded.inOrder submission hmem).effects_eq htodo hstopped
    obtain ⟨henqueue, hsave⟩ := submission.request.route.mem_operations
    rw [← heffects] at henqueue hsave
    exact ⟨hrecorded.took submission hmem .enqueue henqueue, hrecorded.hasRecords hmem hsave⟩
  · have horder := hrecorded.inOrder submission hmem
    by_cases hkyt : submission.request.route.isKyt
    · -- the enqueue has taken effect, or is still to come, or will not come any more
      by_cases henqueue : .enqueue ∈ submission.effects
      · have hinit := horder.isPrefix
        rw [Route.operations_of_isKyt hkyt] at hinit
        have hsave := (mem_of_prefix_of_last_mem hinit (by decide) (by decide) henqueue).2
        exact .inl ⟨hrecorded.took submission hmem .enqueue henqueue,
          hrecorded.hasRecords hmem hsave⟩
      · refine .inr ⟨hkyt, ?_⟩
        rcases horder with horder | ⟨-, hstopped, -⟩
        · have hmem' : .enqueue ∈ submission.effects ++ submission.todo := by
            rw [horder, Route.operations_of_isKyt hkyt]
            decide
          exact .inl ((List.mem_append.mp hmem').resolve_left henqueue)
        · exact .inr hstopped
    · -- the deduction is the last operation of these routes
      have hinit := horder.isPrefix.trans (Route.operations_of_not_isKyt hkyt)
      obtain ⟨henqueue, hsave⟩ :=
        mem_of_prefix_of_last_mem hinit (by decide) (by decide) hcharged
      exact .inl ⟨hrecorded.took submission hmem .enqueue henqueue,
        hrecorded.hasRecords hmem hsave⟩

/-- **In every state that a consumer can see, jobs and charged credits are backed as far as the
order of the routes' operations goes.** -/
theorem consistent_of_run {actions : List (Action Doc)} {s : State Doc}
    (hrun : Run step State.initial actions s) : Consistent s :=
  (hrun.invariant recorded_initial recorded_step).consistent

/-! ### Between the steps, and after a failure -/

/-- A request over the portal or over the KYT route. -/
def sampleRequest (route : Route String) : Request String where
  route := route
  messageId := 1
  userId := 7
  tokenType := "ETH"
  searchType := .flow
  searchParams := "{}"
  isLegacy := true
  isBountyTrack := false

/-- A portal submission from its first operation to its last. -/
def sampleActions : List (Action String) :=
  [.submit (sampleRequest (.submitCatvRequest false)), .advance 0 .done, .advance 0 .done,
    .advance 0 .done]

theorem consistent_of_run_portal : ∃ s, Run step State.initial sampleActions s ∧ Consistent s := by
  obtain ⟨s, hexec⟩ : ∃ s, exec step State.initial sampleActions = some s := ⟨_, rfl⟩
  exact ⟨s, run_of_exec hexec, consistent_of_run (run_of_exec hexec)⟩

/-- A consumer sees the job of a portal submission before its records; and a KYT submission has paid
before it has a job, and keeps nothing if its save fails. -/
theorem not_queueRecorded_not_chargedQueued :
    (∃ s : State String, Run step State.initial
        [.submit (sampleRequest (.submitCatvRequest false)), .advance 0 .done] s ∧
        ¬ QueueRecorded s) ∧
      ∃ s : State String, Run step State.initial
        [.submit (sampleRequest (.kyt "report" "tracer")), .advance 0 .done,
          .advance 0 .raisedBefore] s ∧ ¬ ChargedQueued s := by
  refine ⟨⟨_, run_of_exec rfl, fun hrecorded => ?_⟩, ⟨_, run_of_exec rfl, fun hqueued => ?_⟩⟩
  · obtain ⟨⟨row, hrow, -⟩, -⟩ := hrecorded .catvJobQueue
      (sampleRequest (.submitCatvRequest false)).job List.mem_cons_self
    cases hrow
  · have hjob := hqueued _ List.mem_cons_self List.mem_cons_self
    cases hjob

end CatvService.CatvRequest
