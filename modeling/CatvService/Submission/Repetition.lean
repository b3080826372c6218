import CatvService.Submission.Resubmission
import Mathlib.Data.List.Pairwise

/-!
# Repeating a report over and over

The routes of the two modules on `CatvRequestTask` as one system: submissions and repetitions by any
users advance in any order, a step of theirs may fail, other routes save statuses of their own, and
the statuses are written to meanwhile.

A repetition reads what it asks for off the status row of the request that it repeats, which may be
a repetition itself: the token type by way of its display name, the search type from the
parameters.  Nothing gets lost on the way: `asks_original` says that every job asks for what the
submission at the root of its repetitions has asked for.
-/

namespace CatvService.Repetition

open CatvRequest PyValue Resubmission Runs

/-! ## The system -/

inductive Action where
  /-- `submit_catv_request`, for the portal or, with `is_api`, for a report link. -/
  | submit (created : Created) (isApi : Bool)
  /-- `CATVReportView.put` on the request `uid`. -/
  | put (uid : Uuid) (caller : Caller) (flags : Flags) (messageId : Uuid) (terraAccess : Bool)
  /-- The next operation of a submission. -/
  | advance (index : ℕ) (outcome : Outcome)
  /-- `CATVCSVUpload.post` and `CATVKYTInternalView.post` save their statuses; their jobs are left
  out. -/
  | saveOthers (rows : List (CatvRequestStatus Obj))
  /-- A consumer sets the status of a request, or its user labels it. -/
  | update (uid : Uuid) (status : CatvTaskStatusType) (labels : List String)

/-- The task of `submit_catv_request`. -/
def submitted (created : Created) (isApi : Bool) : Request Obj :=
  { created.request with route := .submitCatvRequest isApi }

/-- `CatvRequestStatus.objects.get(uid=…)`. -/
def lookup (db : Database Obj) (uid : Uuid) : Option (CatvRequestStatus Obj) :=
  db.catvRequestStatus.find? fun record => record.uid = uid

/-- The row after an update. -/
def updated (uid : Uuid) (status : CatvTaskStatusType) (labels : List String)
    (record : CatvRequestStatus Obj) : CatvRequestStatus Obj :=
  if record.uid = uid then { record with status := status, labels := labels } else record

def step (s : State Obj) : Action → Option (State Obj)
  | .submit created isApi => CatvRequest.step s (.submit (submitted created isApi))
  | .put uid caller flags messageId terraAccess =>
      match lookup s.db uid with
      | none => some s
      | some obj =>
          match Resubmission.put obj caller flags messageId terraAccess with
          | .ok (some request) => CatvRequest.step s (.submit request)
          -- no access to LUNC, or an exception before the task is made
          | .ok none => some s
          | .error _ => some s
  | .advance index outcome => CatvRequest.step s (.advance index outcome)
  | .saveOthers rows => some { s with db := s.db.createStatuses rows }
  | .update uid status labels =>
      some { s with db := { s.db with
        catvRequestStatus := s.db.catvRequestStatus.map (updated uid status labels) } }

/-! ## Questions -/

/-- What is searched for. -/
structure Question where
  tokenType : String
  searchType : CatvSearchType
  params : Obj

/-- The question of a task. -/
def questionOf (request : Request Obj) : Question :=
  ⟨request.tokenType, request.searchType, request.searchParams⟩

/-- The question that a repetition reads off a status row. -/
def storedQuestion (record : CatvRequestStatus Obj) : Question :=
  ⟨record.tokenType, searchTypeOf record.params, record.params⟩

/-- The job asks the question, and has nothing else to go by. -/
def Asks (job : JobQueueRow Obj) (question : Question) : Prop :=
  job.message =
    { messageId := job.message.messageId
      userId := job.message.userId
      tokenType := question.tokenType
      searchType := some question.searchType
      source := none
      kytReportId := none
      tracerData := none
      searchParams := question.params }

/-- The action is the first to ask the question, under the message id. -/
def Originates (messageId : Uuid) (question : Question) : Action → Prop
  | .submit created _ => created.messageId = messageId ∧ questionOf created.request = question
  | .saveOthers rows => ∃ row ∈ rows, row.uid = messageId ∧ storedQuestion row = question
  | _ => False

/-- The request `uid` repeats the request `root`, or a repetition of it, or it is that request. -/
inductive Descends (actions : List Action) (root : Uuid) : Uuid → Prop where
  | root : Descends actions root root
  | put {uid : Uuid} {caller : Caller} {flags : Flags} {messageId : Uuid} {terraAccess : Bool}
      (hdescends : Descends actions root uid)
      (hput : .put uid caller flags messageId terraAccess ∈ actions) :
      Descends actions root messageId

/-- The question was asked first under the id `root`, and the request goes back to that one. -/
def RootedAt (actions : List Action) (root messageId : Uuid) (question : Question) : Prop :=
  ∃ origin ∈ actions, Originates root question origin ∧ Descends actions root messageId

/-- The question was asked first at the root of the request. -/
def Inherits (actions : List Action) (messageId : Uuid) (question : Question) : Prop :=
  ∃ root, RootedAt actions root messageId question

variable {actions : List Action} {action : Action} {s t : State Obj} {request : Request Obj}
  {question : Question} {messageId : Uuid}

theorem Descends.mono {more : List Action} {root uid : Uuid} (hdescends : Descends actions root uid)
    (hsub : actions ⊆ more) : Descends more root uid := by
  induction hdescends with
  | root => exact .root
  | put _ hput ih => exact .put ih (hsub hput)

theorem Inherits.mono {more : List Action} (hinherits : Inherits actions messageId question)
    (hsub : actions ⊆ more) : Inherits more messageId question := by
  obtain ⟨root, origin, horigin, hfirst, hdescends⟩ := hinherits
  exact ⟨root, origin, hsub horigin, hfirst, hdescends.mono hsub⟩

/-! ## What a task keeps of its question -/

/-- The task is one of `CatvRequestTask`, and what it saves is good for a repetition. -/
structure IsTask (request : Request Obj) : Prop where
  route : request.route.isKyt = false
  searchType : searchTypeOf request.searchParams = request.searchType

theorem isTask_submitted (created : Created) (isApi : Bool) : IsTask (submitted created isApi) where
  route := rfl
  searchType := searchTypeOf_of_validated created.validated

theorem value_eq_of_tokenOfValue {value : String} {tokenType : CatvTokens}
    (htoken : tokenOfValue value = .ok tokenType) : tokenType.value = value := by
  unfold tokenOfValue at htoken
  split at htoken
  · rename_i token hfind
    obtain rfl := Except.ok.inj htoken
    simpa using List.find?_some hfind
  · cases htoken

/-- **A repetition asks for what is stored.** -/
theorem put_eq_ok_some {obj : CatvRequestStatus Obj} {caller : Caller} {flags : Flags}
    {terraAccess : Bool}
    (hput : Resubmission.put obj caller flags messageId terraAccess = .ok (some request)) :
    IsTask request ∧ request.messageId = messageId ∧ questionOf request = storedQuestion obj := by
  unfold Resubmission.put at hput
  obtain ⟨tokenType, htoken, hrest⟩ := bind_eq_ok_iff.mp hput
  simp only [get?_reverseTokenMap] at hrest
  split at hrest
  · cases hrest
  · cases hrest
    refine ⟨⟨rfl, rfl⟩, rfl, ?_⟩
    simp only [questionOf, storedQuestion, value_eq_of_tokenOfValue htoken]

theorem asks_job (htask : IsTask request) : Asks request.job (questionOf request) := by
  have hroute := htask.route
  unfold Asks CatvRequest.Request.job questionOf
  cases hkind : request.route with
  | submitCatvRequest isApi => rfl
  | reportPut => rfl
  | kyt kytReportId tracerData =>
      rw [hkind] at hroute
      cases hroute

theorem storedQuestion_taskRecord (htask : IsTask request) :
    storedQuestion request.taskRecord = questionOf request := by
  have hroute := htask.route
  unfold storedQuestion questionOf CatvRequest.Request.taskRecord
  cases hkind : request.route with
  | submitCatvRequest isApi => simp [CatvRequestStatus.new, htask.searchType]
  | reportPut => simp [CatvRequestStatus.new, htask.searchType]
  | kyt kytReportId tracerData =>
      rw [hkind] at hroute
      cases hroute

/-! ## The invariant -/

/-- The jobs, the status rows and the tasks on their way have the questions of their roots. -/
structure Lineage (actions : List Action) (s : State Obj) : Prop where
  jobs : ∀ cls, ∀ job ∈ s.db.jobQueue cls, ∃ question, Asks job question ∧
    Inherits actions job.message.messageId question
  records : ∀ record ∈ s.db.catvRequestStatus,
    Inherits actions record.uid (storedQuestion record)
  tasks : ∀ submission ∈ s.submissions, IsTask submission.request ∧
    Inherits actions submission.request.messageId (questionOf submission.request)

theorem Lineage.mono {more : List Action} (hlineage : Lineage actions s) (hsub : actions ⊆ more) :
    Lineage more s where
  jobs cls job hjob := by
    obtain ⟨question, hasks, hinherits⟩ := hlineage.jobs cls job hjob
    exact ⟨question, hasks, hinherits.mono hsub⟩
  records record hrecord := (hlineage.records record hrecord).mono hsub
  tasks submission hsubmission :=
    (hlineage.tasks submission hsubmission).imp_right fun hinherits => hinherits.mono hsub

theorem lineage_initial : Lineage [] State.initial where
  jobs := by simp [State.initial, Database.empty]
  records := by simp [State.initial, Database.empty]
  tasks := by simp [State.initial]

/-- A task is made. -/
theorem Lineage.start (hlineage : Lineage actions s) (htask : IsTask request)
    (hinherits : Inherits actions request.messageId (questionOf request)) :
    Lineage actions { s with submissions := s.submissions ++ [request.start] } where
  jobs := hlineage.jobs
  records := hlineage.records
  tasks submission hsubmission := by
    rcases List.mem_append.mp hsubmission with hold | hnew
    · exact hlineage.tasks submission hold
    · rw [List.mem_singleton.mp hnew]
      exact ⟨htask, hinherits⟩

/-- A step forward starts no submission. -/
theorem exists_put_of_advance {index : ℕ} {outcome : Outcome}
    (hstep : CatvRequest.step s (.advance index outcome) = some t) :
    ∃ moved db, t = s.put index moved db := by
  simp only [CatvRequest.step] at hstep
  repeat' split at hstep
  all_goals first
    | exact ⟨_, _, (Option.some.inj hstep).symm⟩
    | cases hstep

theorem moves_of_advance {index : ℕ} {outcome : Outcome}
    (hstep : CatvRequest.step s (.advance index outcome) = some t) :
    ∃ other submission moved db, s.submissions[other]? = some submission ∧
      Moves submission s.db moved db ∧ t = s.put other moved db := by
  rcases step_cases hstep with ⟨request, rfl⟩ | hmoves
  · obtain ⟨moved, db, hput⟩ := exists_put_of_advance hstep
    have hlength := congrArg (fun state => state.submissions.length) hput
    simp [State.put] at hlength
  · exact hmoves

theorem mem_catvRequestStatus_of_moves {submission moved : Submission Obj} {db after : Database Obj}
    (hmoves : Moves submission db moved after) {record : CatvRequestStatus Obj}
    (hrecord : record ∈ after.catvRequestStatus) :
    record ∈ db.catvRequestStatus ∨ record = submission.request.taskRecord := by
  have happly : ∀ operation : Operation,
      record ∈ (submission.request.apply operation db).catvRequestStatus →
        record ∈ db.catvRequestStatus ∨ record = submission.request.taskRecord := by
    intro operation hmem
    cases operation with
    | enqueue => exact .inl hmem
    | save => exact (List.mem_append.mp hmem).imp_right List.mem_singleton.mp
    | updateUsage => exact .inl hmem
  cases hmoves with
  | stopped => exact .inl hrecord
  | done => exact happly _ hrecord
  | raisedAfter => exact happly _ hrecord

theorem Lineage.moves {index : ℕ} {submission moved : Submission Obj} {db : Database Obj}
    (hlineage : Lineage actions s) (hsubmission : s.submissions[index]? = some submission)
    (hmoves : Moves submission s.db moved db) : Lineage actions (s.put index moved db) := by
  obtain ⟨htask, hinherits⟩ :=
    hlineage.tasks submission (List.mem_of_getElem? hsubmission)
  refine ⟨fun cls job hjob => ?_, fun record hrecord => ?_, fun other hother => ?_⟩
  · rcases hmoves.mem_jobQueue hjob with hold | ⟨-, rfl, -⟩
    · exact hlineage.jobs cls job hold
    · refine ⟨_, asks_job htask, ?_⟩
      rwa [Request.job_messageId]
  · rcases mem_catvRequestStatus_of_moves hmoves hrecord with hold | rfl
    · exact hlineage.records record hold
    · rwa [storedQuestion_taskRecord htask, Request.taskRecord_uid]
  · rcases List.mem_or_eq_of_mem_set hother with hold | rfl
    · exact hlineage.tasks other hold
    · rw [hmoves.request_eq]
      exact ⟨htask, hinherits⟩

theorem mem_append_singleton : action ∈ actions ++ [action] :=
  List.mem_append_right _ (List.mem_singleton_self action)

/-- **One step.** -/
theorem Lineage.step (hlineage : Lineage actions s) (hstep : Repetition.step s action = some t) :
    Lineage (actions ++ [action]) t := by
  have hold : Lineage (actions ++ [action]) s := hlineage.mono (List.subset_append_left _ _)
  cases action with
  | submit created isApi =>
      obtain rfl := Option.some.inj hstep
      exact hold.start (isTask_submitted created isApi)
        ⟨created.messageId, _, mem_append_singleton, ⟨rfl, rfl⟩, .root⟩
  | put uid caller flags messageId terraAccess =>
      simp only [Repetition.step] at hstep
      split at hstep
      · cases hstep
        exact hold
      · rename_i obj hlookup
        split at hstep
        · rename_i request hput
          obtain ⟨htask, rfl, hquestion⟩ := put_eq_ok_some hput
          obtain rfl := Option.some.inj hstep
          refine hold.start htask ?_
          -- the row that was read has its root, and the task is one repetition away from it
          obtain ⟨root, origin, horigin, hfirst, hdescends⟩ :=
            hold.records obj (List.mem_of_find?_eq_some hlookup)
          have huid : obj.uid = uid := by simpa using List.find?_some hlookup
          rw [huid] at hdescends
          rw [hquestion]
          exact ⟨root, origin, horigin, hfirst, hdescends.put mem_append_singleton⟩
        · cases hstep
          exact hold
        · cases hstep
          exact hold
  | advance index outcome =>
      obtain ⟨other, submission, moved, db, hsubmission, hmoves, rfl⟩ := moves_of_advance hstep
      exact hold.moves hsubmission hmoves
  | saveOthers rows =>
      obtain rfl := Option.some.inj hstep
      refine ⟨hold.jobs, fun record hrecord => ?_, hold.tasks⟩
      rcases List.mem_append.mp hrecord with hbefore | hnew
      · exact hold.records record hbefore
      · exact ⟨record.uid, _, mem_append_singleton, ⟨record, hnew, rfl, rfl⟩, .root⟩
  | update uid status labels =>
      obtain rfl := Option.some.inj hstep
      refine ⟨hold.jobs, fun record hrecord => ?_, hold.tasks⟩
      obtain ⟨before, hbefore, rfl⟩ := List.mem_map.mp hrecord
      have hkept := hold.records before hbefore
      unfold updated
      split
      · exact hkept
      · exact hkept

theorem lineage_of_run (hrun : Run step State.initial actions s) : Lineage actions s := by
  induction hrun with
  | start => exact lineage_initial
  | next _ hstep ih => exact ih.step hstep

/-! ## The root -/

/-- The message ids that an action draws. -/
def Action.drawn : Action → List Uuid
  | .submit created _ => [created.messageId]
  | .put _ _ _ messageId _ => [messageId]
  | .saveOthers rows => rows.map CatvRequestStatus.uid
  | _ => []

/-- No message id is drawn twice. -/
def Fresh (actions : List Action) : Prop :=
  (actions.flatMap Action.drawn).Nodup

theorem Fresh.eq_of_mem_drawn (hfresh : Fresh actions) {first second : Action}
    (hfirst : first ∈ actions) (hsecond : second ∈ actions)
    (hdrawn : messageId ∈ first.drawn) (hagain : messageId ∈ second.drawn) : first = second := by
  by_contra hne
  have hsymm : Std.Symm (Function.onFun List.Disjoint Action.drawn) :=
    ⟨fun _ _ hdisjoint _ hleft hright => hdisjoint hright hleft⟩
  exact (List.nodup_flatMap.mp hfresh).2.forall hfirst hsecond hne hdrawn hagain

theorem mem_drawn_of_originates (horiginates : Originates messageId question action) :
    messageId ∈ action.drawn := by
  cases action with
  | submit created isApi => exact List.mem_singleton.mpr horiginates.1.symm
  | saveOthers rows =>
      obtain ⟨row, hrow, rfl, -⟩ := horiginates
      exact List.mem_map_of_mem hrow
  | put uid caller flags messageId terraAccess => exact horiginates.elim
  | advance index outcome => exact horiginates.elim
  | update uid status labels => exact horiginates.elim

/-- An id under which a question is asked first is that of no repetition. -/
theorem Fresh.not_put (hfresh : Fresh actions) (horigin : action ∈ actions)
    (horiginates : Originates messageId question action) {uid : Uuid} {caller : Caller}
    {flags : Flags} {terraAccess : Bool} :
    .put uid caller flags messageId terraAccess ∉ actions := by
  intro hput
  have heq := hfresh.eq_of_mem_drawn horigin hput (mem_drawn_of_originates horiginates)
    (List.mem_singleton_self messageId)
  rw [heq] at horiginates
  exact horiginates

/-- What is asked first under an id is one question. -/
theorem Fresh.question_unique (hfresh : Fresh actions) {other : Question} {first second : Action}
    (hfirst : first ∈ actions) (horiginates : Originates messageId question first)
    (hsecond : second ∈ actions) (hagain : Originates messageId other second) :
    other = question := by
  obtain rfl := hfresh.eq_of_mem_drawn hfirst hsecond (mem_drawn_of_originates horiginates)
    (mem_drawn_of_originates hagain)
  cases first with
  | submit created isApi => exact hagain.2.symm.trans horiginates.2
  | saveOthers rows =>
      obtain ⟨row, hrow, huid, rfl⟩ := horiginates
      obtain ⟨row', hrow', huid', rfl⟩ := hagain
      have hnodup : (rows.map CatvRequestStatus.uid).Nodup :=
        (List.nodup_flatMap.mp hfresh).1 _ hfirst
      rw [List.inj_on_of_nodup_map hnodup hrow' hrow (huid'.trans huid.symm)]
  | put uid caller flags messageId terraAccess => exact horiginates.elim
  | advance index outcome => exact horiginates.elim
  | update uid status labels => exact horiginates.elim

/-- A request has one root. -/
theorem Fresh.root_unique (hfresh : Fresh actions) {root other : Uuid} {first second : Action}
    {asked : Question} (hfirst : first ∈ actions) (hroot : Originates root question first)
    (hsecond : second ∈ actions) (hother : Originates other asked second)
    (hdescends : Descends actions root messageId) (hagain : Descends actions other messageId) :
    other = root := by
  induction hdescends with
  | root =>
      cases hagain with
      | root => rfl
      | put _ hput => exact absurd hput (hfresh.not_put hfirst hroot)
  | @put uid caller flags messageId terraAccess _ hput ih =>
      cases hagain with
      | root => exact absurd hput (hfresh.not_put hsecond hother)
      | put hbefore hput' =>
          -- both repetitions are the one that has drawn the id
          have heq := hfresh.eq_of_mem_drawn hput hput' (List.mem_singleton_self messageId)
            (List.mem_singleton_self messageId)
          injection heq with huid
          exact ih (huid ▸ hbefore)

theorem Fresh.rootedAt_unique (hfresh : Fresh actions) {root other : Uuid} {asked : Question}
    (hrooted : RootedAt actions root messageId question)
    (hother : RootedAt actions other messageId asked) : other = root ∧ asked = question := by
  obtain ⟨first, hfirst, horiginates, hdescends⟩ := hrooted
  obtain ⟨second, hsecond, hagain, hdescends'⟩ := hother
  obtain rfl := hfresh.root_unique hfirst horiginates hsecond hagain hdescends hdescends'
  exact ⟨rfl, hfresh.question_unique hfirst horiginates hsecond hagain⟩

/-- **Every job asks for what the submission at the root of its repetitions has asked for**, however
often and by whomever it was repeated, and has nothing else to go by.  If no message id is drawn
twice, it has no other root. -/
theorem asks_original (hrun : Run step State.initial actions s) {cls : JobQueueClass}
    {job : JobQueueRow Obj} (hjob : job ∈ s.db.jobQueue cls) :
    ∃ root question, Asks job question ∧
      RootedAt actions root job.message.messageId question ∧
      (Fresh actions → ∀ other asked,
        RootedAt actions other job.message.messageId asked → other = root ∧ asked = question) := by
  obtain ⟨question, hasks, root, hrooted⟩ := (lineage_of_run hrun).jobs cls job hjob
  exact ⟨root, question, hasks, hrooted, fun hfresh _ _ => hfresh.rootedAt_unique hrooted⟩

/-! ### A repetition of a repetition -/

/-- A search is submitted, and someone else repeats it; then the repetition is repeated before its
credits are deducted. -/
def repeatedTwice : List Action :=
  [.submit sampleCreated false, .advance 0 .done, .advance 0 .done,
    .put 1 ⟨⟨8, some "u8", none⟩, "key", none⟩ ⟨some "false", none⟩ 2 true,
    .advance 1 .done, .advance 1 .done, .put 2 sampleCaller ⟨none, none⟩ 3 true,
    .update 2 .released ["done"], .advance 2 .raisedAfter]

theorem exec_repeatedTwice :
    ∃ s job, exec step State.initial repeatedTwice = some s ∧
      job ∈ s.db.jobQueue .catvJobQueue ∧ job.message.messageId = 3 :=
  ⟨_, _, rfl, List.mem_cons_of_mem _ (List.mem_singleton_self _), rfl⟩

theorem fresh_repeatedTwice : Fresh repeatedTwice := by
  unfold Fresh
  decide

theorem rootedAt_repeatedTwice :
    RootedAt repeatedTwice 1 3 (questionOf sampleCreated.request) :=
  ⟨.submit sampleCreated false, List.mem_cons_self, ⟨rfl, rfl⟩,
    (Descends.root.put (List.mem_of_getElem? (i := 3) rfl)).put
      (List.mem_of_getElem? (i := 6) rfl)⟩

/-- **The last job asks for the search that was submitted first.** -/
theorem asks_original_repeatedTwice :
    ∃ s job, Run step State.initial repeatedTwice s ∧ job ∈ s.db.jobQueue .catvJobQueue ∧
      job.message.messageId = 3 ∧ Asks job (questionOf sampleCreated.request) := by
  obtain ⟨s, job, hexec, hjob, hid⟩ := exec_repeatedTwice
  obtain ⟨root, question, hasks, -, hunique⟩ := asks_original (run_of_exec hexec) hjob
  rw [hid] at hunique
  obtain ⟨-, rfl⟩ := hunique fresh_repeatedTwice _ _ rootedAt_repeatedTwice
  exact ⟨s, job, run_of_exec hexec, hjob, hid, hasks⟩

end CatvService.Repetition
