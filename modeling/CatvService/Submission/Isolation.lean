import CatvService.Library.Noninterference
import CatvService.Submission.Resubmission

/-!
# What a user sees of the others

The table of the request statuses with everything that changes it: submissions and repetitions,
`CATVRequestDetailView.patch`, and the consumers, which set the status and write to the error log;
and the three views on it: `CATVRequestsView.list`, `RequestSearchView.list` and
`CATVRequestDetailView.get`.

All three views select by the user, so what one user does is not seen by another.  `views_purge`
says it of whole runs: without the actions of the other users, a user would see the same requests in
the same order, only the primary keys would differ.  Two things are assumed of the run: the uids are
fresh, and the user does not repeat a request of another user, which the code does not prevent.
-/

namespace CatvService.Isolation

open CatvRequest Dictionary Noninterference PyText PyValue Resubmission

/-! ## The tables -/

/-- A row of `CatvRequestStatus` with its primary key. -/
structure StatusRow where
  id : ℕ
  record : CatvRequestStatus Obj

/-- A row of `ConsumerErrorLogs`; its foreign key is kept as the uid of the request. -/
structure ErrorLog where
  request : Uuid
  userErrorMessage : String
  loggedTime : ℕ

/-- The tables, in the order of their primary keys. -/
structure Tables where
  requests : List StatusRow
  nextId : ℕ
  errorLogs : List ErrorLog

def Tables.empty : Tables :=
  ⟨[], 1, []⟩

def Tables.records (tables : Tables) : List (CatvRequestStatus Obj) :=
  tables.requests.map StatusRow.record

/-- `CatvRequestStatus.objects.get(uid=…)`. -/
def Tables.lookup (tables : Tables) (uid : Uuid) : Option (CatvRequestStatus Obj) :=
  tables.records.find? fun record => record.uid = uid

/-- `task.save()`; the uid is unique in the table. -/
def Tables.save (tables : Tables) (record : CatvRequestStatus Obj) : Tables :=
  if (tables.lookup record.uid).isSome then tables
  else
    { tables with
      requests := tables.requests ++ [⟨tables.nextId, record⟩]
      nextId := tables.nextId + 1 }

/-- `UPDATE … WHERE uid`. -/
def Tables.modify (tables : Tables) (uid : Uuid)
    (f : CatvRequestStatus Obj → CatvRequestStatus Obj) : Tables :=
  { tables with requests := tables.requests.map fun row =>
      if row.record.uid = uid then { row with record := f row.record } else row }

/-- What happens to the tables. -/
inductive Action where
  /-- A `CatvRequestTask` is saved. -/
  | submit (request : Request Obj)
  /-- `CATVReportView.put` on the request `uid`. -/
  | put (uid : Uuid) (caller : Caller) (flags : Flags) (messageId : Uuid) (terraAccess : Bool)
  /-- `CATVRequestDetailView.patch` on the request `uid`. -/
  | patch (uid : Uuid) (userId : ℕ) (labels : List String)
  /-- A consumer sets the status of a request. -/
  | setStatus (uid : Uuid) (status : CatvTaskStatusType)
  /-- A consumer logs an error of a request. -/
  | logError (log : ErrorLog)

/-- `CATVRequestDetailView.get_object`. -/
def getObject (tables : Tables) (userId : ℕ) (uid : Uuid) :
    Except PyErr (CatvRequestStatus Obj) :=
  match tables.lookup uid with
  | none => .error (.other "FileNotFound")
  | some obj => if obj.userId ≠ userId then .error (.other "NotAllowedError") else .ok obj

def step (tables : Tables) : Action → Tables
  | .submit request => tables.save request.taskRecord
  | .put uid caller flags messageId terraAccess =>
      match tables.lookup uid with
      | none => tables
      | some obj =>
          match Resubmission.put obj caller flags messageId terraAccess with
          | .ok (some request) => tables.save request.taskRecord
          | _ => tables
  | .patch uid userId labels =>
      match getObject tables userId uid with
      | .error _ => tables
      | .ok _ =>
          -- each label is a `varchar(100)`
          if labels.any fun label => 100 < label.length then tables
          else tables.modify uid fun obj => { obj with labels := labels }
  | .setStatus uid status => tables.modify uid fun obj => { obj with status := status }
  | .logError log =>
      if (tables.lookup log.request).isSome then
        { tables with errorLogs := tables.errorLogs ++ [log] }
      else tables

/-! ## The views -/

/-- What `CATVRequestListSerializer` reads. -/
structure Item where
  id : ℕ
  record : CatvRequestStatus Obj
  /-- The annotation of the list; the other views have none. -/
  errorMessage : Option String

/-- The item without its primary key. -/
def Item.content (item : Item) : CatvRequestStatus Obj × Option String :=
  (item.record, item.errorMessage)

/-- The member of `CatvTaskStatusType` with the value. -/
def statusOfValue (value : String) : Option CatvTaskStatusType :=
  if value = "progress" then some .progress
  else if value = "released" then some .released
  else if value = "failed" then some .failed
  else none

/-- The filter that a `status` parameter asks for. -/
def statusFilter (status : Option String) : Except PyErr (CatvRequestStatus Obj → Bool) :=
  match status with
  | none => .ok fun _ => true
  | some "" => .ok fun _ => true
  | some value =>
      match statusOfValue value with
      | none => .error (.other "ValidationError")
      | some status => .ok fun record => record.status = status

/-- The message of the log of the request that is latest in time. -/
def latestMessage (logs : List ErrorLog) : Option String :=
  (logs.foldl (fun (latest : Option ErrorLog) log =>
    match latest with
    | none => some log
    | some other => if other.loggedTime < log.loggedTime then some log else some other)
      none).map ErrorLog.userErrorMessage

/-- `error_message`. -/
def errorMessage (logs : List ErrorLog) (record : CatvRequestStatus Obj) : String :=
  if record.status = .failed then
    (latestMessage (logs.filter fun log => log.request = record.uid)).getD
      "Something went wrong! Please try again."
  else ""

/-- `CATVRequestsView.list`, before it is cut into pages. -/
def listRequests (tables : Tables) (userId : ℕ) (status : Option String)
    (isBtRequest : Option String) : Except PyErr (List Item) := do
  let isBt := flagOf (isBtRequest.getD "False")
  let filter ← statusFilter status
  let rows := tables.requests.filter fun row =>
    row.record.userId = userId && filter row.record && row.record.isBountyTrack = isBt
  return rows.reverse.map fun row =>
    ⟨row.id, row.record, some (errorMessage tables.errorLogs row.record)⟩

/-- How the database matches a text with the columns of a request, case-insensitively. -/
structure Lookups where
  /-- `params__icontains` -/
  params : String → Obj → Bool
  /-- `labels__arrayilike` -/
  labels : String → List String → Bool

/-- `matching_tokens`. -/
def matchingTokens (query : String) : List CatvTokens :=
  (reverseTokenMap.map Prod.snd).filter fun token =>
    contains (lower query) (lower token.value) ||
      contains (lower query) (lower (determineWalletType token))

/-- What the search selects. -/
def matchesQuery (lookups : Lookups) (query : String) (record : CatvRequestStatus Obj) : Bool :=
  lookups.params query record.params || lookups.labels query record.labels ||
    (matchingTokens query).any fun token => record.tokenType = token.value

/-- `order_key`, as whether the keys ascend. -/
def ascending (orderBy : String) : Except PyErr Bool := do
  let direction ← listIndex (split "_" orderBy) 1
  return direction = "asc"

/-- `RequestSearchView.list`, before it is cut into pages. -/
def searchRequests (lookups : Lookups) (tables : Tables) (userId : ℕ) (searchType : Option String)
    (query status orderBy : Option String) : Except PyErr (List Item) := do
  let asc ← ascending (orderBy.getD "id_desc")
  if searchType.getD "catv" ≠ "catv" then .error (.other "ValidationError")
  else if query.getD "" = "" then .error (.other "ValidationError")
  else if (query.getD "").length > 1024 then .error (.other "ValidationError")
  else
    let filter ← statusFilter status
    let rows := tables.requests.filter fun row =>
      matchesQuery lookups (query.getD "") row.record && filter row.record &&
        row.record.userId = userId
    return (if asc then rows else rows.reverse).map fun row => ⟨row.id, row.record, none⟩

/-! ## Who sees an action -/

/-- The user whose requests an action is about. -/
def Action.subject (tables : Tables) : Action → Option ℕ
  | .submit request => some request.taskRecord.userId
  | .put _ caller _ _ _ => some caller.user.userId
  | .patch _ userId _ => some userId
  | .setStatus uid _ => (tables.lookup uid).map CatvRequestStatus.userId
  | .logError log => (tables.lookup log.request).map CatvRequestStatus.userId

def shown (userId : ℕ) (tables : Tables) (action : Action) : Bool :=
  action.subject tables = some userId

/-- A uid that is drawn is new, and the user repeats his own requests only. -/
def Proper (userId : ℕ) (tables : Tables) : Action → Prop
  | .submit request => tables.lookup request.taskRecord.uid = none
  | .put uid caller _ messageId _ =>
      tables.lookup messageId = none ∧
        (caller.user.userId = userId → ∀ obj, tables.lookup uid = some obj → obj.userId = userId)
  | _ => True

/-- The records of a user. -/
def Tables.own (tables : Tables) (userId : ℕ) : List (CatvRequestStatus Obj) :=
  tables.records.filter fun record => record.userId = userId

/-- The tables of a run and what they are without the other users. -/
structure Mirrors (userId : ℕ) (full alone : Tables) : Prop where
  unique : (full.records.map CatvRequestStatus.uid).Nodup
  logged : ∀ log ∈ full.errorLogs, full.lookup log.request ≠ none
  loggedAlone : ∀ log ∈ alone.errorLogs, alone.lookup log.request ≠ none
  records : alone.records = full.own userId
  logs : ∀ record ∈ full.own userId,
    alone.errorLogs.filter (fun log => log.request = record.uid) =
      full.errorLogs.filter (fun log => log.request = record.uid)

/-! ## The operations on the tables -/

variable {tables full alone : Tables} {uid : Uuid} {userId : ℕ} {record : CatvRequestStatus Obj}
  {f : CatvRequestStatus Obj → CatvRequestStatus Obj}

theorem lookup_eq_none_iff :
    tables.lookup uid = none ↔ ∀ record ∈ tables.records, record.uid ≠ uid := by
  rw [Tables.lookup, List.find?_eq_none]
  simp only [decide_eq_true_eq, ne_eq]

theorem lookup_eq_some_iff (hunique : (tables.records.map CatvRequestStatus.uid).Nodup) :
    tables.lookup uid = some record ↔ record ∈ tables.records ∧ record.uid = uid := by
  constructor
  · intro hlookup
    exact ⟨List.mem_of_find?_eq_some hlookup, by simpa using List.find?_some hlookup⟩
  · rintro ⟨hrecord, rfl⟩
    obtain ⟨other, hother⟩ : ∃ other, tables.lookup record.uid = some other := by
      apply Option.ne_none_iff_exists'.mp
      intro hnone
      exact lookup_eq_none_iff.mp hnone record hrecord rfl
    have huid : other.uid = record.uid := by simpa using List.find?_some hother
    rw [hother, List.inj_on_of_nodup_map hunique (List.mem_of_find?_eq_some hother) hrecord huid]

theorem records_save (hnew : tables.lookup record.uid = none) :
    (tables.save record).records = tables.records ++ [record] := by
  have hnot : ¬ (tables.lookup record.uid).isSome = true := by simp [hnew]
  rw [Tables.save, if_neg hnot, Tables.records, List.map_append, List.map_singleton]
  rfl

theorem errorLogs_save : (tables.save record).errorLogs = tables.errorLogs := by
  unfold Tables.save
  split <;> rfl

theorem records_modify : (tables.modify uid f).records =
    tables.records.map fun record => if record.uid = uid then f record else record := by
  simp only [Tables.records, Tables.modify, List.map_map]
  refine List.map_congr_left fun row _ => ?_
  simp only [Function.comp_apply]
  split <;> rfl

/-- A change of a record leaves its uid and its user. -/
structure Keeps (f : CatvRequestStatus Obj → CatvRequestStatus Obj) : Prop where
  uid : ∀ record, (f record).uid = record.uid
  userId : ∀ record, (f record).userId = record.userId

theorem map_uid_modify (hkeeps : Keeps f) :
    (tables.modify uid f).records.map CatvRequestStatus.uid =
      tables.records.map CatvRequestStatus.uid := by
  rw [records_modify, List.map_map]
  refine List.map_congr_left fun record _ => ?_
  rw [Function.comp_apply]
  split
  · exact hkeeps.uid record
  · rfl

theorem lookup_eq_none_iff_notMem :
    tables.lookup uid = none ↔ uid ∉ tables.records.map CatvRequestStatus.uid := by
  rw [lookup_eq_none_iff, List.mem_map]
  push Not
  rfl

theorem lookup_modify_eq_none_iff (hkeeps : Keeps f) (other : Uuid) :
    (tables.modify uid f).lookup other = none ↔ tables.lookup other = none := by
  rw [lookup_eq_none_iff_notMem, lookup_eq_none_iff_notMem, map_uid_modify hkeeps]

theorem own_modify (hkeeps : Keeps f) : (tables.modify uid f).own userId =
    (tables.own userId).map fun record => if record.uid = uid then f record else record := by
  rw [Tables.own, records_modify, List.filter_map, Tables.own]
  congr 1
  refine List.filter_congr fun record _ => ?_
  rw [Function.comp_apply]
  split
  · rw [hkeeps.userId]
  · rfl

theorem own_modify_of_forall_ne (hkeeps : Keeps f)
    (hforeign : ∀ record ∈ tables.own userId, record.uid ≠ uid) :
    (tables.modify uid f).own userId = tables.own userId := by
  rw [own_modify hkeeps]
  refine (List.map_congr_left fun record hrecord => ?_).trans (List.map_id' _)
  exact if_neg (hforeign record hrecord)

/-! ## The two runs -/

theorem Mirrors.lookup (hmirrors : Mirrors userId full alone) (uid : Uuid) :
    alone.lookup uid = (full.lookup uid).filter fun record => record.userId = userId := by
  have hunique : (alone.records.map CatvRequestStatus.uid).Nodup := by
    rw [hmirrors.records]
    exact hmirrors.unique.sublist (List.filter_sublist.map _)
  apply Option.ext
  intro record
  rw [lookup_eq_some_iff hunique, Option.filter_eq_some_iff, lookup_eq_some_iff hmirrors.unique,
    hmirrors.records, Tables.own, List.mem_filter, decide_eq_true_eq]
  exact and_right_comm

/-- What is not found in the full tables is not found alone. -/
theorem Mirrors.lookup_eq_none (hmirrors : Mirrors userId full alone)
    (hnone : full.lookup uid = none) : alone.lookup uid = none := by
  rw [hmirrors.lookup, hnone]
  rfl

theorem Mirrors.lookup_of_own (hmirrors : Mirrors userId full alone)
    (hlookup : full.lookup uid = some record) (huser : record.userId = userId) :
    alone.lookup uid = some record := by
  rw [hmirrors.lookup, hlookup]
  exact Option.filter_eq_some_iff.mpr ⟨rfl, decide_eq_true huser⟩

theorem logged_save (hlogged : ∀ log ∈ tables.errorLogs, tables.lookup log.request ≠ none)
    (hnew : tables.lookup record.uid = none) :
    ∀ log ∈ (tables.save record).errorLogs, (tables.save record).lookup log.request ≠ none := by
  intro log hlog hnone
  rw [errorLogs_save] at hlog
  refine hlogged log hlog (lookup_eq_none_iff.mpr fun other hother => ?_)
  refine lookup_eq_none_iff.mp hnone other ?_
  rw [records_save hnew]
  exact List.mem_append_left _ hother

theorem unique_save (hunique : (tables.records.map CatvRequestStatus.uid).Nodup)
    (hnew : tables.lookup record.uid = none) :
    ((tables.save record).records.map CatvRequestStatus.uid).Nodup := by
  rw [records_save hnew, List.map_append, List.map_singleton, List.nodup_append]
  refine ⟨hunique, List.nodup_singleton _, fun uid huid other hother => ?_⟩
  rw [List.mem_singleton.mp hother]
  rintro rfl
  exact lookup_eq_none_iff_notMem.mp hnew huid

theorem own_save (hnew : tables.lookup record.uid = none) :
    (tables.save record).own userId =
      tables.own userId ++ if record.userId = userId then [record] else [] := by
  rw [Tables.own, records_save hnew, List.filter_append, Tables.own]
  congr 1
  by_cases huser : record.userId = userId
  · rw [if_pos huser]
    exact List.filter_eq_self.mpr fun other hother => by simp [List.mem_singleton.mp hother, huser]
  · rw [if_neg huser]
    exact List.filter_eq_nil_iff.mpr fun other hother => by
      simp [List.mem_singleton.mp hother, huser]

/-- A request of another user is saved. -/
theorem Mirrors.save_hidden (hmirrors : Mirrors userId full alone)
    (hnew : full.lookup record.uid = none) (huser : record.userId ≠ userId) :
    Mirrors userId (full.save record) alone := by
  have hown : (full.save record).own userId = full.own userId := by
    rw [own_save hnew, if_neg huser, List.append_nil]
  refine ⟨unique_save hmirrors.unique hnew, logged_save hmirrors.logged hnew, hmirrors.loggedAlone,
    ?_, ?_⟩
  · rw [hown, hmirrors.records]
  · rw [hown, errorLogs_save]
    exact hmirrors.logs

/-- A request of the user is saved. -/
theorem Mirrors.save_same (hmirrors : Mirrors userId full alone)
    (hnew : full.lookup record.uid = none) (huser : record.userId = userId) :
    Mirrors userId (full.save record) (alone.save record) := by
  have hnewAlone := hmirrors.lookup_eq_none hnew
  have hown : (full.save record).own userId = full.own userId ++ [record] := by
    rw [own_save hnew, if_pos huser]
  refine ⟨unique_save hmirrors.unique hnew, logged_save hmirrors.logged hnew,
    logged_save hmirrors.loggedAlone hnewAlone, ?_, ?_⟩
  · rw [hown, records_save hnewAlone, hmirrors.records]
  · intro other hother
    rw [errorLogs_save, errorLogs_save]
    rw [hown] at hother
    rcases List.mem_append.mp hother with hold | hlast
    · exact hmirrors.logs other hold
    · -- no log is about a request that was not there
      obtain rfl := List.mem_singleton.mp hlast
      have hnone : ∀ logs : List ErrorLog, ∀ tables : Tables, tables.lookup other.uid = none →
          (∀ log ∈ logs, tables.lookup log.request ≠ none) →
            logs.filter (fun log => log.request = other.uid) = [] := by
        intro logs tables hnew hlogged
        refine List.filter_eq_nil_iff.mpr fun log hlog heq => hlogged log hlog ?_
        rw [of_decide_eq_true heq, hnew]
      rw [hnone _ alone hnewAlone hmirrors.loggedAlone, hnone _ full hnew hmirrors.logged]

/-- A request of another user, or of nobody, is changed. -/
theorem Mirrors.modify_hidden (hmirrors : Mirrors userId full alone) (hkeeps : Keeps f)
    (hforeign : ∀ record, full.lookup uid = some record → record.userId ≠ userId) :
    Mirrors userId (full.modify uid f) alone := by
  have hown : (full.modify uid f).own userId = full.own userId := by
    refine own_modify_of_forall_ne hkeeps fun record hrecord huid => ?_
    obtain ⟨hmem, huser⟩ := List.mem_filter.mp hrecord
    exact hforeign record ((lookup_eq_some_iff hmirrors.unique).mpr ⟨hmem, huid⟩)
      (of_decide_eq_true huser)
  refine ⟨?_, fun log hlog hnone => ?_, hmirrors.loggedAlone, ?_, ?_⟩
  · rw [map_uid_modify hkeeps]
    exact hmirrors.unique
  · exact hmirrors.logged log hlog ((lookup_modify_eq_none_iff hkeeps _).mp hnone)
  · rw [hown, hmirrors.records]
  · rw [hown]
    exact hmirrors.logs

/-- A request of the user is changed. -/
theorem Mirrors.modify_same (hmirrors : Mirrors userId full alone) (hkeeps : Keeps f) (uid : Uuid) :
    Mirrors userId (full.modify uid f) (alone.modify uid f) := by
  refine ⟨?_, fun log hlog hnone => ?_, fun log hlog hnone => ?_, ?_, ?_⟩
  · rw [map_uid_modify hkeeps]
    exact hmirrors.unique
  · exact hmirrors.logged log hlog ((lookup_modify_eq_none_iff hkeeps _).mp hnone)
  · exact hmirrors.loggedAlone log hlog ((lookup_modify_eq_none_iff hkeeps _).mp hnone)
  · rw [own_modify hkeeps, records_modify, hmirrors.records]
  · intro changed hchanged
    rw [own_modify hkeeps] at hchanged
    obtain ⟨record, hrecord, rfl⟩ := List.mem_map.mp hchanged
    have huid : (if record.uid = uid then f record else record).uid = record.uid := by
      split
      · exact hkeeps.uid record
      · rfl
    rw [huid]
    exact hmirrors.logs record hrecord

theorem Mirrors.log_hidden (hmirrors : Mirrors userId full alone) {log : ErrorLog}
    (hrecord : full.lookup log.request = some record) (huser : record.userId ≠ userId) :
    Mirrors userId { full with errorLogs := full.errorLogs ++ [log] } alone := by
  refine ⟨hmirrors.unique, fun other hother => ?_, hmirrors.loggedAlone, hmirrors.records,
    fun own hown => ?_⟩
  · rcases List.mem_append.mp hother with hold | hlast
    · exact hmirrors.logged other hold
    · obtain rfl := List.mem_singleton.mp hlast
      exact fun hnone => Option.some_ne_none record (hrecord.symm.trans hnone)
  · obtain ⟨hmem, hownUser⟩ := List.mem_filter.mp hown
    have hne : ¬ log.request = own.uid := by
      intro heq
      have hfound := (lookup_eq_some_iff hmirrors.unique).mpr ⟨hmem, heq.symm⟩
      rw [hrecord] at hfound
      exact huser (Option.some.inj hfound ▸ of_decide_eq_true hownUser)
    rw [List.filter_append, List.filter_singleton, decide_eq_false hne, cond_false,
      List.append_nil]
    exact hmirrors.logs own hown

theorem Mirrors.log_same (hmirrors : Mirrors userId full alone) {log : ErrorLog}
    (hfull : full.lookup log.request ≠ none) (halone : alone.lookup log.request ≠ none) :
    Mirrors userId { full with errorLogs := full.errorLogs ++ [log] }
      { alone with errorLogs := alone.errorLogs ++ [log] } := by
  refine ⟨hmirrors.unique, fun other hother => ?_, fun other hother => ?_, hmirrors.records,
    fun own hown => ?_⟩
  · rcases List.mem_append.mp hother with hold | hlast
    · exact hmirrors.logged other hold
    · exact List.mem_singleton.mp hlast ▸ hfull
  · rcases List.mem_append.mp hother with hold | hlast
    · exact hmirrors.loggedAlone other hold
    · exact List.mem_singleton.mp hlast ▸ halone
  · rw [List.filter_append, List.filter_append]
    exact congrArg (· ++ _) (hmirrors.logs own hown)

theorem shown_eq_false_iff {action : Action} :
    shown userId tables action = false ↔ action.subject tables ≠ some userId := by
  rw [shown, decide_eq_false_iff_not]

/-- Who repeats a request is the user of the new one. -/
theorem put_eq_some {obj : CatvRequestStatus Obj} {caller : Caller} {flags : Flags}
    {messageId : Uuid} {terraAccess : Bool} {request : Request Obj}
    (hput : Resubmission.put obj caller flags messageId terraAccess = .ok (some request)) :
    request.taskRecord.uid = messageId ∧ request.taskRecord.userId = caller.user.userId := by
  obtain ⟨storedType, -, hput⟩ := bind_eq_ok_iff.mp hput
  dsimp only at hput
  split at hput
  · cases hput
  · split at hput
    · cases hput
    · obtain rfl := Option.some.inj (Except.ok.inj hput)
      exact ⟨rfl, rfl⟩

theorem keeps_labels (labels : List String) :
    Keeps fun obj => { obj with labels := labels } :=
  ⟨fun _ => rfl, fun _ => rfl⟩

theorem keeps_status (status : CatvTaskStatusType) :
    Keeps fun obj => { obj with status := status } :=
  ⟨fun _ => rfl, fun _ => rfl⟩

theorem step_patch_of_ne {labels : List String}
    (hne : ∀ obj, tables.lookup uid = some obj → obj.userId ≠ userId) :
    step tables (.patch uid userId labels) = tables := by
  simp only [step, getObject]
  cases hlookup : tables.lookup uid with
  | none => rfl
  | some obj =>
      simp only [if_pos (hne obj hlookup)]

theorem step_patch_of_eq {labels : List String} {obj : CatvRequestStatus Obj}
    (hlookup : tables.lookup uid = some obj) (huser : obj.userId = userId) :
    step tables (.patch uid userId labels) =
      if labels.any fun label => 100 < label.length then tables
      else tables.modify uid fun obj => { obj with labels := labels } := by
  have howner : ¬ obj.userId ≠ userId := not_not.mpr huser
  simp only [step, getObject, hlookup, if_neg howner]

theorem unwinding (userId : ℕ) :
    Unwinding step (shown userId) (Proper userId) (Mirrors userId) where
  hidden := by
    intro full alone action hmirrors hproper hshown
    rw [shown_eq_false_iff] at hshown
    cases action with
    | submit request =>
        have huser : request.taskRecord.userId ≠ userId := fun h => hshown (congrArg some h)
        exact hmirrors.save_hidden hproper huser
    | put uid caller flags messageId terraAccess =>
        have huser : caller.user.userId ≠ userId := fun h => hshown (congrArg some h)
        simp only [step]
        split
        · exact hmirrors
        · split
          · rename_i hput
            obtain ⟨huid, hcaller⟩ := put_eq_some hput
            exact hmirrors.save_hidden (huid ▸ hproper.1) (hcaller ▸ huser)
          · exact hmirrors
    | patch uid other labels =>
        have huser : other ≠ userId := fun h => hshown (congrArg some h)
        by_cases hown : ∃ obj, full.lookup uid = some obj ∧ obj.userId = other
        · obtain ⟨obj, hlookup, rfl⟩ := hown
          rw [step_patch_of_eq hlookup rfl]
          split
          · exact hmirrors
          · refine hmirrors.modify_hidden (keeps_labels labels) fun found hfound => ?_
            rwa [← Option.some.inj (hlookup.symm.trans hfound)]
        · rw [step_patch_of_ne fun obj hlookup huser => hown ⟨obj, hlookup, huser⟩]
          exact hmirrors
    | setStatus uid status =>
        refine hmirrors.modify_hidden (keeps_status status) fun found hfound huser => hshown ?_
        simp only [Action.subject, hfound, Option.map_some, huser]
    | logError log =>
        simp only [step]
        cases hlookup : full.lookup log.request with
        | none => exact hmirrors
        | some record =>
            refine hmirrors.log_hidden hlookup fun huser => hshown ?_
            simp only [Action.subject, hlookup, Option.map_some, huser]
  same := by
    intro full alone action hmirrors hproper hshown
    have hsubject : action.subject full = some userId := of_decide_eq_true hshown
    cases action with
    | submit request => exact hmirrors.save_same hproper (Option.some.inj hsubject)
    | put uid caller flags messageId terraAccess =>
        have huser : caller.user.userId = userId := Option.some.inj hsubject
        simp only [step]
        cases hlookup : full.lookup uid with
        | none =>
            rw [hmirrors.lookup_eq_none hlookup]
            exact hmirrors
        | some obj =>
            rw [hmirrors.lookup_of_own hlookup (hproper.2 huser obj hlookup)]
            dsimp only
            split
            · rename_i hput
              obtain ⟨huid, hcaller⟩ := put_eq_some hput
              exact hmirrors.save_same (huid ▸ hproper.1) (hcaller.trans huser)
            · exact hmirrors
    | patch uid other labels =>
        obtain rfl : other = userId := Option.some.inj hsubject
        by_cases hown : ∃ obj, full.lookup uid = some obj ∧ obj.userId = other
        · obtain ⟨obj, hlookup, huser⟩ := hown
          rw [step_patch_of_eq hlookup huser,
            step_patch_of_eq (hmirrors.lookup_of_own hlookup huser) huser]
          split
          · exact hmirrors
          · exact hmirrors.modify_same (keeps_labels labels) uid
        · have halone : ∀ obj, alone.lookup uid = some obj → obj.userId ≠ other := by
            intro obj hlookup huser
            rw [hmirrors.lookup] at hlookup
            exact hown ⟨obj, (Option.filter_eq_some_iff.mp hlookup).1, huser⟩
          rw [step_patch_of_ne fun obj hlookup huser => hown ⟨obj, hlookup, huser⟩,
            step_patch_of_ne halone]
          exact hmirrors
    | setStatus uid status => exact hmirrors.modify_same (keeps_status status) uid
    | logError log =>
        obtain ⟨record, hlookup, huser⟩ := Option.map_eq_some_iff.mp hsubject
        have halone := hmirrors.lookup_of_own hlookup huser
        simp only [step, hlookup, halone, Option.isSome_some, if_true]
        refine hmirrors.log_same (fun hnone => ?_) fun hnone => ?_
        · exact Option.some_ne_none record (hlookup.symm.trans hnone)
        · exact Option.some_ne_none record (halone.symm.trans hnone)

/-! ## What the user sees -/

/-- The rows that a view selects, as the records of the user that it selects. -/
theorem map_record_filter (tables : Tables) (userId : ℕ)
    (selects : CatvRequestStatus Obj → Bool)
    (hselects : ∀ record, selects record = true → record.userId = userId) :
    (tables.requests.filter fun row => selects row.record).map StatusRow.record =
      (tables.own userId).filter selects := by
  rw [Tables.own, List.filter_filter, Tables.records, List.filter_map]
  refine congrArg _ (List.filter_congr fun row _ => ?_)
  rw [Function.comp_apply]
  cases hselected : selects row.record with
  | false => rfl
  | true => simp [hselects row.record hselected]

theorem Mirrors.own_alone (hmirrors : Mirrors userId full alone) :
    alone.own userId = full.own userId := by
  rw [Tables.own, hmirrors.records]
  exact List.filter_eq_self.mpr fun record hrecord => (List.mem_filter.mp hrecord).2

theorem Mirrors.errorMessage (hmirrors : Mirrors userId full alone)
    (hrecord : record ∈ full.own userId) :
    errorMessage full.errorLogs record = errorMessage alone.errorLogs record := by
  unfold Isolation.errorMessage
  rw [hmirrors.logs record hrecord]

/-- The contents of what a view makes of the rows it selects, in their order or reversed. -/
theorem map_content (rows : List StatusRow) (message : CatvRequestStatus Obj → Option String) :
    (rows.map fun row => (⟨row.id, row.record, message row.record⟩ : Item)).map Item.content =
      (rows.map StatusRow.record).map fun record => (record, message record) := by
  rw [List.map_map, List.map_map]
  rfl

/-- Both tables have the same rows for a view, up to their keys. -/
theorem Mirrors.map_record_filter (hmirrors : Mirrors userId full alone)
    {selects : CatvRequestStatus Obj → Bool}
    (hselects : ∀ record, selects record = true → record.userId = userId) :
    (full.requests.filter fun row => selects row.record).map StatusRow.record =
      (alone.requests.filter fun row => selects row.record).map StatusRow.record := by
  rw [Isolation.map_record_filter full userId selects hselects,
    Isolation.map_record_filter alone userId selects hselects, hmirrors.own_alone]

theorem Mirrors.listRequests (hmirrors : Mirrors userId full alone)
    (status isBtRequest : Option String) :
    (Isolation.listRequests full userId status isBtRequest).map (List.map Item.content) =
      (Isolation.listRequests alone userId status isBtRequest).map (List.map Item.content) := by
  unfold Isolation.listRequests
  cases statusFilter status with
  | error e => rfl
  | ok filter =>
      let selects : CatvRequestStatus Obj → Bool := fun record =>
        record.userId = userId && filter record &&
          record.isBountyTrack = flagOf (isBtRequest.getD "False")
      have hselects : ∀ record, selects record = true → record.userId = userId := by
        intro record hselected
        simp only [selects, Bool.and_eq_true, decide_eq_true_eq] at hselected
        exact hselected.1.1
      let rows : Tables → List StatusRow := fun tables =>
        tables.requests.filter fun row => selects row.record
      let message : Tables → CatvRequestStatus Obj → Option String := fun tables record =>
        some (Isolation.errorMessage tables.errorLogs record)
      have hsame : (rows full).map StatusRow.record = (rows alone).map StatusRow.record :=
        hmirrors.map_record_filter hselects
      have hown : ∀ record ∈ ((rows full).map StatusRow.record).reverse,
          (record, message full record) = (record, message alone record) := by
        intro record hrecord
        rw [List.mem_reverse, Isolation.map_record_filter full userId selects hselects] at hrecord
        simp only [message, hmirrors.errorMessage (List.mem_of_mem_filter hrecord)]
      refine congrArg Except.ok ?_
      calc _ = ((rows full).reverse.map StatusRow.record).map fun record =>
              (record, message full record) := map_content _ (message full)
        _ = ((rows full).map StatusRow.record).reverse.map fun record =>
              (record, message alone record) := by
            rw [List.map_reverse, List.map_congr_left hown]
        _ = ((rows alone).reverse.map StatusRow.record).map fun record =>
              (record, message alone record) := by
            rw [hsame]
            exact congrArg _ List.map_reverse.symm
        _ = _ := (map_content _ (message alone)).symm

theorem Mirrors.searchRequests (hmirrors : Mirrors userId full alone) (lookups : Lookups)
    (searchType query status orderBy : Option String) :
    (Isolation.searchRequests lookups full userId searchType query status orderBy).map
        (List.map Item.content) =
      (Isolation.searchRequests lookups alone userId searchType query status orderBy).map
        (List.map Item.content) := by
  unfold Isolation.searchRequests
  cases ascending (orderBy.getD "id_desc") with
  | error e => rfl
  | ok asc =>
      simp only [bind, Except.bind]
      split
      · rfl
      · split
        · rfl
        · split
          · rfl
          · cases statusFilter status with
            | error e => rfl
            | ok filter =>
                let selects : CatvRequestStatus Obj → Bool := fun record =>
                  matchesQuery lookups (query.getD "") record && filter record &&
                    record.userId = userId
                have hselects : ∀ record, selects record = true → record.userId = userId := by
                  intro record hselected
                  simp only [selects, Bool.and_eq_true, decide_eq_true_eq] at hselected
                  exact hselected.2
                have hsame := hmirrors.map_record_filter hselects
                refine congrArg Except.ok ?_
                rw [map_content _ fun _ => none, map_content _ fun _ => none]
                cases asc with
                | true => exact congrArg _ hsame
                | false =>
                    refine congrArg _ ?_
                    rw [if_neg Bool.false_ne_true, if_neg Bool.false_ne_true, List.map_reverse,
                      List.map_reverse]
                    exact congrArg List.reverse hsame

theorem mirrors_empty (userId : ℕ) : Mirrors userId .empty .empty :=
  ⟨List.nodup_nil, fun _ hlog => (nomatch hlog), fun _ hlog => (nomatch hlog), rfl, fun _ _ => rfl⟩

/-- **Users do not see each other**: without the actions of the others a user would see the same
lists, the same search results and the same details of his requests, up to the primary keys. -/
theorem views_purge {userId : ℕ} {actions : List Action}
    (hproper : Meets step (Proper userId) .empty actions) (lookups : Lookups) :
    let full := run step .empty actions
    let alone := run step .empty (purge step (shown userId) .empty actions)
    (∀ status isBtRequest,
      (listRequests full userId status isBtRequest).map (List.map Item.content) =
        (listRequests alone userId status isBtRequest).map (List.map Item.content)) ∧
      (∀ searchType query status orderBy,
        (searchRequests lookups full userId searchType query status orderBy).map
            (List.map Item.content) =
          (searchRequests lookups alone userId searchType query status orderBy).map
            (List.map Item.content)) ∧
      ∀ uid record, getObject full userId uid = .ok record ↔
        getObject alone userId uid = .ok record := by
  intro full alone
  have hmirrors : Mirrors userId full alone := (unwinding userId).run_purge (mirrors_empty userId)
    hproper
  refine ⟨hmirrors.listRequests, hmirrors.searchRequests lookups, fun uid record => ?_⟩
  have hobject : ∀ tables : Tables, getObject tables userId uid = .ok record ↔
      (tables.lookup uid).filter (fun record => record.userId = userId) = some record := by
    intro tables
    unfold getObject
    cases tables.lookup uid with
    | none => simp
    | some obj =>
        rw [Option.filter_some]
        by_cases huser : obj.userId = userId
        · simp [huser]
        · simp [huser]
  rw [hobject, hobject, hmirrors.lookup, Option.filter_filter]
  simp only [Bool.and_self]

/-- Two users submit the same search; the second one labels his request and tries to label the other
one, which fails and is repeated. -/
def sampleActions : List Action :=
  [.submit sampleCreated.request,
    .submit { sampleCreated.request with messageId := 2, userId := 8 },
    .patch 2 8 ["mine"], .patch 1 8 ["mine too"], .setStatus 1 .failed,
    .logError ⟨1, "Too many transactions.", 5⟩, .put 1 sampleCaller sampleCreated.flags 3 false]

theorem views_purge_sample :
    let full := run step .empty sampleActions
    let alone := run step .empty (purge step (shown 7) .empty sampleActions)
    let lookups : Lookups := ⟨fun _ _ => true, fun _ _ => true⟩
    (∀ status isBtRequest,
      (listRequests full 7 status isBtRequest).map (List.map Item.content) =
        (listRequests alone 7 status isBtRequest).map (List.map Item.content)) ∧
      (∀ searchType query status orderBy,
        (searchRequests lookups full 7 searchType query status orderBy).map
            (List.map Item.content) =
          (searchRequests lookups alone 7 searchType query status orderBy).map
            (List.map Item.content)) ∧
      ∀ uid record, getObject full 7 uid = .ok record ↔ getObject alone 7 uid = .ok record := by
  have hown : ∀ obj, Tables.lookup (run step .empty (sampleActions.take 6)) 1 = some obj →
      obj.userId = 7 := by
    rintro obj ⟨⟩
    rfl
  have hproper : Meets step (Proper 7) .empty sampleActions :=
    ⟨rfl, rfl, trivial, trivial, trivial, trivial, ⟨rfl, fun _ => hown⟩, trivial⟩
  exact views_purge hproper _

end CatvService.Isolation
