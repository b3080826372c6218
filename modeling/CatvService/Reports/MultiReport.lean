import CatvService.Library.Text
import CatvService.Library.Value
import CatvService.Models
import Mathlib.Data.List.Dedup
import Mathlib.Data.List.Sort

/-!
# Several reports at once

`CATVMultiReportView.get` of `api/views.py` with `CATVRequestListSerializer.get_depth`: the result
rows of the requests, ordered by their files, are zipped with the records of the files, and the
items of all files are merged, each with the id of a request.

The rows are one for each request, the records one for each file, so from the first shared file on
the two lists are out of step.  The depth of a path search is a number, which cannot be split, and
without any row the variables of the loop are never set.  `succeeds_iff` says exactly when the
merged report is the right one.
-/

namespace CatvService.MultiReport

open Dictionary PyText PyValue

/-! ## The depth of a request -/

/-- The stored parameters of a request; the depths are integers where they are there. -/
structure SearchParams where
  depth : Option ℤ
  sourceDepth : Option ℤ
  distributionDepth : Option ℤ
  /-- The other parameters. -/
  others : Obj

/-- `bool(obj.params)`. -/
def SearchParams.isEmpty (params : SearchParams) : Bool :=
  params.depth.isNone && params.sourceDepth.isNone && params.distributionDepth.isNone &&
    params.others.isEmpty

/-- What the serializer has under `depth`. -/
inductive DepthField where
  | number (depth : ℤ)
  | text (depths : String)
  deriving DecidableEq

/-- `get_depth`. -/
def getDepth (params : SearchParams) : DepthField :=
  if params.isEmpty then .text ""
  else if 0 < params.depth.getD 0 then .number (params.depth.getD 0)
  else
    .text (toString (params.sourceDepth.getD 0) ++ " / " ++
      toString (params.distributionDepth.getD 0))

/-- `serializer.data["depth"].split('/')`. -/
def DepthField.split : DepthField → Except PyErr (List String)
  | .number _ => .error .attributeError
  | .text depths => .ok (PyText.split "/" depths)

/-- `int(depth_arr[i])`. -/
def intAt (depthArr : List String) (i : ℤ) : Except PyErr ℤ := do
  let text ← listIndex depthArr i
  match parseInt text with
  | some depth => .ok depth
  | none => .error .valueError

/-- The two entries of `is_dist_value` and `is_source_value`. -/
def DepthField.values (depth : DepthField) : Except PyErr (ℤ × ℤ) := do
  let depthArr ← depth.split
  let isDist ← intAt depthArr 1
  let isSource ← intAt depthArr 0
  return (isDist, isSource)

/-! ## Requests, files and services -/

/-- A request with its id, its uid and its parameters. -/
structure ReportRequest where
  id : ℕ
  uid : Uuid
  params : SearchParams
  /-- The other fields, as the serializer has them. -/
  others : Obj

/-- A row of `CatvResult` with its request. -/
structure ResultRow where
  request : ReportRequest
  resultFileId : Option ℕ

/-- `serializer.data`. -/
structure RequestData where
  id : ℕ
  depth : DepthField
  others : Obj

/-- `CATVRequestListSerializer(request).data`. -/
def serialize (request : ReportRequest) : RequestData :=
  ⟨request.id, getDepth request.params, request.others⟩

/-- The content of a result file. -/
structure ReportFile where
  itemList : List Obj
  messages : Entries String String
  /-- The other entries. -/
  others : Obj

/-- A record of the file service. -/
structure FileRecord where
  id : ℕ
  uid : String

/-- What the view gets from the database, the file service, the bucket and the translations. -/
structure World where
  /-- The rows of `CatvResult`. -/
  catvResults : List ResultRow
  /-- How an id of the query is read; an id that is no UUID raises a `ValidationError`. -/
  toUuid : String → Option Uuid
  /-- `get_objects` -/
  getObjects : List Uuid → List ResultRow
  /-- The uids of the files in the service. -/
  fileUid : ℕ → String
  /-- `RPCClientFetchResultFileList().call` -/
  fetchResultFileList : List ℕ → List FileRecord
  /-- `get_gcs_file`, by the uid in the name of the file; a missing file raises a
  `SuspiciousOperation`. -/
  getGcsFile : String → Option ReportFile
  gettext : String → String

/-! ## `CATVMultiReportView.get` -/

/-- `main_ids`. -/
def mainIds (ids : String) : List String :=
  (PyText.split "," ids).map trim

/-- The loop that collects `result_file_ids`; a row without a file ends it. -/
def resultFileIds (catvResults : List ResultRow) : Option (List ℕ) :=
  catvResults.mapM fun obj => obj.resultFileId.filter (· ≠ 0)

/-- `item.update({'id': id})`. -/
def tag (id : ℕ) (item : Obj) : Obj :=
  Entries.set "id" (.int id) item

/-- `results["messages"][k] = _(v)`. -/
def ReportFile.translate (gettext : String → String) (results : ReportFile) : ReportFile :=
  { results with messages := results.messages.map fun message => (message.1, gettext message.2) }

/-- The variables of the loop; `results` and `serializer` are set by its rounds only. -/
structure LoopState where
  finalResult : List Obj
  isDistValue : List ℤ
  isSourceValue : List ℤ
  last : Option (ReportFile × RequestData)

/-- How the loop ends before its time. -/
inductive Stop where
  | notReady
  | raised (error : PyErr)

/-- One round of the loop. -/
def addReport (world : World) (state : LoopState) (pair : ResultRow × FileRecord) :
    Except Stop LoopState :=
  match world.getGcsFile pair.2.uid with
  | none => .error .notReady
  | some file =>
      let results := file.translate world.gettext
      let data := serialize pair.1.request
      match data.depth.values with
      | .error e => .error (.raised e)
      | .ok (isDist, isSource) =>
          .ok
            { finalResult := state.finalResult ++ results.itemList.map (tag data.id)
              isDistValue := state.isDistValue ++ [isDist]
              isSourceValue := state.isSourceValue ++ [isSource]
              last := some (results, data) }

/-- What the client is answered: that there are no results yet, or the results of the last round
with the merged items. -/
inductive Answer where
  | notReady
  | report (results : ReportFile) (isDistValue isSourceValue : List ℤ) (requestParams : RequestData)

/-- What follows the loop. -/
def finish : Except Stop LoopState → Except PyErr Answer
  | .error .notReady => .ok .notReady
  | .error (.raised e) => .error e
  | .ok state =>
      match state.last with
      | none => .error .unboundLocalError
      | some (results, data) =>
          .ok (.report { results with itemList := state.finalResult } state.isDistValue
            state.isSourceValue data)

/-- `CATVMultiReportView.get`. -/
def get (world : World) (ids : Option String) : Except PyErr Answer :=
  match ids with
  | none => .error .unboundLocalError
  | some ids =>
      match (mainIds ids).mapM world.toUuid with
      | none => .error (.other "ValidationError")
      | some uids =>
          let catvResults := world.getObjects uids
          match resultFileIds catvResults with
          | none => .ok .notReady
          | some resultFileIds =>
              let resultFiles := world.fetchResultFileList resultFileIds
              finish ((catvResults.zip resultFiles).foldlM (addReport world) ⟨[], [], [], none⟩)

/-! ## What the services promise and what the report should be -/

/-- The different ids, in ascending order. -/
def distinctAscending (ids : List ℕ) : List ℕ :=
  ids.dedup.insertionSort (· ≤ ·)

namespace World

variable (world : World)

/-- The result rows of some requests. -/
def requested (uids : List Uuid) : List ResultRow :=
  world.catvResults.filter fun row => row.request.uid ∈ uids

/-- The content of the file with an id. -/
def fileOf (id : ℕ) : Option ReportFile :=
  world.getGcsFile (world.fileUid id)

/-- The result file of a row. -/
def ownFile (row : ResultRow) : Option ReportFile :=
  row.resultFileId.bind world.fileOf

/-- The query returns the rows in the order of their files, rows of one file in any order, and the
file service returns one record for each file, in the order of their ids. -/
structure Lawful : Prop where
  perm : ∀ uids, (world.getObjects uids).Perm (world.requested uids)
  sorted : ∀ uids, (world.getObjects uids).Pairwise fun row other =>
    ∀ i ∈ row.resultFileId, ∀ j ∈ other.resultFileId, i ≤ j
  records : ∀ ids, world.fetchResultFileList ids =
    (distinctAscending ids).map fun id => ⟨id, world.fileUid id⟩

/-- The row has a result file. -/
def Ready (row : ResultRow) : Prop :=
  ∃ id file, row.resultFileId = some id ∧ id ≠ 0 ∧ world.fileOf id = some file

end World

/-- The report is made of the items of the requests, each with the id of a request whose own file
has it. -/
structure Attributes (world : World) (uids : List Uuid) (results : ReportFile) : Prop where
  tagged : ∀ item ∈ results.itemList, ∃ row ∈ world.requested uids,
    ∃ own, world.ownFile row = some own ∧
      ∃ original ∈ own.itemList, item = tag row.request.id original
  complete : ∀ row ∈ world.requested uids, ∀ own, world.ownFile row = some own →
    ∀ original ∈ own.itemList, ∃ id, tag id original ∈ results.itemList

/-- The view answers with such a report. -/
def Succeeds (world : World) (uids : List Uuid) (answer : Except PyErr Answer) : Prop :=
  ∃ results isDistValue isSourceValue requestParams,
    answer = .ok (.report results isDistValue isSourceValue requestParams) ∧
      Attributes world uids results

/-- The parameters of a flow search: there are some, and they have no `depth`, or none above
zero. -/
def SearchParams.IsFlow (params : SearchParams) : Prop :=
  params.isEmpty = false ∧ params.depth.getD 0 ≤ 0

/-- The rows of the query, each with the id at its place in the ascending list of the different
files. -/
def zipped (world : World) (uids : List Uuid) : List (ResultRow × ℕ) :=
  let catvResults := world.getObjects uids
  catvResults.zip (distinctAscending (catvResults.filterMap ResultRow.resultFileId))

/-- There is a row; the rows with a file at their place are flow searches, and what the file at
their place has, a file of their own request has as well, the `id` of the item apart. -/
structure MatchesFiles (world : World) (uids : List Uuid) : Prop where
  nonempty : world.requested uids ≠ []
  flow : ∀ pair ∈ zipped world uids, pair.1.request.params.IsFlow
  holds : ∀ pair ∈ zipped world uids, ∀ file, world.fileOf pair.2 = some file →
    ∀ item ∈ file.itemList, ∃ row ∈ world.requested uids, row.request.id = pair.1.request.id ∧
      ∃ own, world.ownFile row = some own ∧
        ∃ original ∈ own.itemList, tag row.request.id original = tag row.request.id item

/-! ## Depths -/

theorem split_depths (source distribution : ℤ) :
    PyText.split "/" (toString source ++ " / " ++ toString distribution) =
      [String.ofList ((toString source).toList ++ [' ']),
        String.ofList (' ' :: (toString distribution).toList)] := by
  have hsource : '/' ∉ (toString source).toList ++ [' '] := by
    rw [List.mem_append, List.mem_singleton, not_or]
    exact ⟨fun hmem => (not_space_of_mem_toString hmem).2 rfl, by decide⟩
  have hdistribution : '/' ∉ ' ' :: (toString distribution).toList := by
    rw [List.mem_cons, not_or]
    exact ⟨by decide, fun hmem => (not_space_of_mem_toString hmem).2 rfl⟩
  have htext : (toString source ++ " / " ++ toString distribution).toList =
      ((toString source).toList ++ [' ']) ++ '/' :: (' ' :: (toString distribution).toList) := by
    simp [String.toList_append]
  unfold PyText.split
  rw [htext]
  exact (splitFrom_append_cons hsource _ []).trans
    (congrArg _ (splitFrom_of_notMem hdistribution []))

theorem intAt_eq_ok {depthArr : List String} {i : ℤ} {text : String} {depth : ℤ}
    (hindex : listIndex depthArr i = .ok text) (hparse : parseInt text = some depth) :
    intAt depthArr i = .ok depth :=
  bind_eq_ok_iff.mpr ⟨text, hindex, by rw [hparse]⟩

theorem values_text (source distribution : ℤ) :
    (DepthField.text (toString source ++ " / " ++ toString distribution)).values =
      .ok (distribution, source) := by
  have hblank : ∀ c ∈ [' '], isSpace c = true := fun c hc => List.mem_singleton.mp hc ▸ rfl
  have hnone : ∀ c ∈ ([] : List Char), isSpace c = true := nofun
  have hsource := parseInt_toString hnone hblank source
  have hdistribution := parseInt_toString hblank hnone distribution
  rw [List.append_nil] at hdistribution
  refine bind_eq_ok_iff.mpr ⟨_, congrArg Except.ok (split_depths source distribution), ?_⟩
  refine bind_eq_ok_iff.mpr ⟨distribution, intAt_eq_ok rfl hdistribution, ?_⟩
  exact bind_eq_ok_iff.mpr ⟨source, intAt_eq_ok rfl hsource, rfl⟩

/-- The depths of a flow search can be read, and no other ones. -/
theorem exists_values_iff (params : SearchParams) :
    (∃ values, (getDepth params).values = .ok values) ↔ params.IsFlow := by
  unfold getDepth SearchParams.IsFlow
  split
  · rename_i hempty
    refine ⟨fun ⟨values, hvalues⟩ => ?_, fun hflow => ?_⟩
    · exact absurd hvalues (show Except.error PyErr.indexError ≠ Except.ok values from nofun)
    · exact absurd (hempty.symm.trans hflow.1) Bool.noConfusion
  · rename_i hempty
    split
    · rename_i hpositive
      refine ⟨fun ⟨values, hvalues⟩ => ?_, fun hflow => absurd hflow.2 (not_le.mpr hpositive)⟩
      exact absurd hvalues (show Except.error PyErr.attributeError ≠ Except.ok values from nofun)
    · rename_i hpositive
      exact ⟨fun _ => ⟨Bool.eq_false_iff.mpr hempty, not_lt.mp hpositive⟩,
        fun _ => ⟨_, values_text _ _⟩⟩

/-! ## The loop -/

variable {world : World} {uids : List Uuid}

theorem spec_of_addReport {state after : LoopState} {pair : ResultRow × FileRecord}
    (hround : addReport world state pair = .ok after) :
    ∃ file, world.getGcsFile pair.2.uid = some file ∧ pair.1.request.params.IsFlow ∧
      after.finalResult = state.finalResult ++ file.itemList.map (tag pair.1.request.id) ∧
      after.last ≠ none := by
  unfold addReport at hround
  cases hfile : world.getGcsFile pair.2.uid with
  | none =>
      rw [hfile] at hround
      cases hround
  | some file =>
      rw [hfile] at hround
      cases hvalues : (getDepth pair.1.request.params).values with
      | error e =>
          simp only [serialize, hvalues] at hround
          cases hround
      | ok values =>
          simp only [serialize, hvalues] at hround
          cases hround
          exact ⟨file, rfl, (exists_values_iff _).mp ⟨values, hvalues⟩, rfl, Option.some_ne_none _⟩

theorem exists_addReport {pair : ResultRow × FileRecord} {file : ReportFile}
    (hfile : world.getGcsFile pair.2.uid = some file) (hflow : pair.1.request.params.IsFlow)
    (state : LoopState) : ∃ after, addReport world state pair = .ok after := by
  obtain ⟨values, hvalues⟩ := (exists_values_iff _).mpr hflow
  unfold addReport
  rw [hfile]
  simp only [serialize, hvalues]
  exact ⟨_, rfl⟩

/-- A loop that comes to its end has seen flow searches only, and has the items of the files, each
with the id of the request beside its file. -/
theorem spec_of_loop {pairs : List (ResultRow × FileRecord)} {state after : LoopState}
    (hloop : pairs.foldlM (addReport world) state = .ok after) :
    (∀ pair ∈ pairs, pair.1.request.params.IsFlow) ∧
      (∀ item, item ∈ after.finalResult ↔ item ∈ state.finalResult ∨
        ∃ pair ∈ pairs, ∃ file, world.getGcsFile pair.2.uid = some file ∧
          ∃ original ∈ file.itemList, item = tag pair.1.request.id original) ∧
      (after.last = none ↔ pairs = [] ∧ state.last = none) := by
  induction pairs generalizing state with
  | nil =>
      cases hloop
      simp
  | cons pair pairs ih =>
      rw [List.foldlM_cons] at hloop
      obtain ⟨next, hround, hrest⟩ := bind_eq_ok_iff.mp hloop
      obtain ⟨file, hfile, hflow, hadded, hlast⟩ := spec_of_addReport hround
      obtain ⟨hflows, hitems, hnone⟩ := ih hrest
      refine ⟨List.forall_mem_cons.mpr ⟨hflow, hflows⟩, fun item => ?_, ?_⟩
      · rw [hitems, hadded, List.mem_append, List.mem_map, List.exists_mem_cons_iff, or_assoc]
        simp only [hfile, Option.some.injEq, exists_eq_left', eq_comm (a := item)]
      · rw [hnone]
        exact ⟨fun h => absurd h.2 hlast, fun h => absurd h.1 (List.cons_ne_nil _ _)⟩

theorem exists_loop {pairs : List (ResultRow × FileRecord)}
    (hfiles : ∀ pair ∈ pairs, ∃ file, world.getGcsFile pair.2.uid = some file)
    (hflows : ∀ pair ∈ pairs, pair.1.request.params.IsFlow) (state : LoopState) :
    ∃ after, pairs.foldlM (addReport world) state = .ok after := by
  induction pairs generalizing state with
  | nil => exact ⟨state, rfl⟩
  | cons pair pairs ih =>
      rw [List.forall_mem_cons] at hfiles hflows
      obtain ⟨file, hfile⟩ := hfiles.1
      obtain ⟨next, hround⟩ := exists_addReport hfile hflows.1 state
      obtain ⟨after, hrest⟩ := ih hfiles.2 hflows.2 next
      rw [List.foldlM_cons]
      exact ⟨after, bind_eq_ok_iff.mpr ⟨next, hround, hrest⟩⟩

/-! ## The zipped lists -/

theorem mem_distinctAscending {ids : List ℕ} {id : ℕ} : id ∈ distinctAscending ids ↔ id ∈ ids := by
  unfold distinctAscending
  rw [List.mem_insertionSort, List.mem_dedup]

theorem length_distinctAscending_le (ids : List ℕ) :
    (distinctAscending ids).length ≤ ids.length := by
  unfold distinctAscending
  rw [List.length_insertionSort]
  exact (List.dedup_sublist ids).length_le

theorem resultFileIds_eq_some {rows : List ResultRow} (hready : ∀ row ∈ rows, world.Ready row) :
    resultFileIds rows = some (rows.filterMap ResultRow.resultFileId) := by
  induction rows with
  | nil => rfl
  | cons row rows ih =>
      rw [List.forall_mem_cons] at hready
      obtain ⟨id, file, hid, hne, -⟩ := hready.1
      have hrest := ih hready.2
      have hfilter : row.resultFileId.filter (· ≠ 0) = some id := by
        rw [hid]
        simp [Option.filter, hne]
      unfold resultFileIds at hrest ⊢
      rw [List.mapM_cons, hrest, hfilter, List.filterMap_cons_some hid]
      rfl

/-- Every file of a requested row has a place beside a row. -/
theorem exists_mem_zipped {row : ResultRow} {id : ℕ} (hrow : row ∈ world.getObjects uids)
    (hid : row.resultFileId = some id) : ∃ pair ∈ zipped world uids, pair.2 = id := by
  have hlength : (distinctAscending ((world.getObjects uids).filterMap
      ResultRow.resultFileId)).length ≤ (world.getObjects uids).length :=
    (length_distinctAscending_le _).trans (List.length_filterMap_le _ _)
  have hmem : id ∈ (zipped world uids).map Prod.snd := by
    unfold zipped
    rw [List.map_snd_zip hlength, mem_distinctAscending]
    exact List.mem_filterMap.mpr ⟨row, hrow, hid⟩
  exact List.mem_map.mp hmem

theorem exists_file_of_mem_zipped {pair : ResultRow × ℕ} (hpair : pair ∈ zipped world uids) :
    pair.1 ∈ world.getObjects uids ∧
      ∃ row ∈ world.getObjects uids, row.resultFileId = some pair.2 := by
  obtain ⟨hrow, hid⟩ := List.of_mem_zip hpair
  exact ⟨hrow, List.mem_filterMap.mp (mem_distinctAscending.mp hid)⟩

/-! ## When the report is right -/

theorem get_eq_finish (hworld : world.Lawful) {ids : String}
    (hids : (mainIds ids).mapM world.toUuid = some uids)
    (hready : ∀ row ∈ world.requested uids, world.Ready row) :
    get world (some ids) =
      finish (((zipped world uids).map fun pair =>
        (pair.1, (⟨pair.2, world.fileUid pair.2⟩ : FileRecord))).foldlM (addReport world)
          ⟨[], [], [], none⟩) := by
  have hrows := resultFileIds_eq_some fun row hrow =>
    hready row ((hworld.perm uids).mem_iff.mp hrow)
  unfold get zipped
  simp only [hids, hrows]
  rw [hworld.records, List.zip_map_right]
  rfl

/-- An item of a file, with the id of the request beside the file. -/
def Merged (world : World) (uids : List Uuid) (item : Obj) : Prop :=
  ∃ pair ∈ zipped world uids, ∃ file, world.fileOf pair.2 = some file ∧
    ∃ original ∈ file.itemList, item = tag pair.1.request.id original

/-- A report has the merged items, and the rows beside a file are flow searches. -/
theorem spec_of_get (hworld : world.Lawful) {ids : String}
    (hids : (mainIds ids).mapM world.toUuid = some uids)
    (hready : ∀ row ∈ world.requested uids, world.Ready row) {results : ReportFile}
    {isDistValue isSourceValue : List ℤ} {requestParams : RequestData}
    (hget : get world (some ids) = .ok (.report results isDistValue isSourceValue requestParams)) :
    zipped world uids ≠ [] ∧ (∀ pair ∈ zipped world uids, pair.1.request.params.IsFlow) ∧
      ∀ item, item ∈ results.itemList ↔ Merged world uids item := by
  rw [get_eq_finish hworld hids hready] at hget
  unfold finish at hget
  split at hget
  · cases hget
  · cases hget
  · rename_i state hloop
    obtain ⟨hflows, hitems, hnone⟩ := spec_of_loop hloop
    split at hget
    · cases hget
    · rename_i file data hlast
      cases hget
      refine ⟨fun hnil => ?_, fun pair hpair => ?_, fun item => ?_⟩
      · rw [hnone.mpr ⟨by rw [hnil, List.map_nil], rfl⟩] at hlast
        cases hlast
      · exact hflows _ (List.mem_map_of_mem hpair)
      · refine (hitems item).trans ((or_iff_right List.not_mem_nil).trans ⟨?_, ?_⟩)
        · rintro ⟨_, hmem, hitem⟩
          obtain ⟨pair, hpair, rfl⟩ := List.mem_map.mp hmem
          exact ⟨pair, hpair, hitem⟩
        · rintro ⟨pair, hpair, hitem⟩
          exact ⟨_, List.mem_map_of_mem hpair, hitem⟩

theorem exists_get (hworld : world.Lawful) {ids : String}
    (hids : (mainIds ids).mapM world.toUuid = some uids)
    (hready : ∀ row ∈ world.requested uids, world.Ready row) (hne : zipped world uids ≠ [])
    (hflows : ∀ pair ∈ zipped world uids, pair.1.request.params.IsFlow) :
    ∃ results isDistValue isSourceValue requestParams,
      get world (some ids) = .ok (.report results isDistValue isSourceValue requestParams) := by
  rw [get_eq_finish hworld hids hready]
  have hfiles : ∀ pair ∈ (zipped world uids).map fun pair =>
      (pair.1, (⟨pair.2, world.fileUid pair.2⟩ : FileRecord)),
      ∃ file, world.getGcsFile pair.2.uid = some file := by
    intro record hrecord
    obtain ⟨pair, hpair, rfl⟩ := List.mem_map.mp hrecord
    obtain ⟨-, row, hrow, hid⟩ := exists_file_of_mem_zipped hpair
    obtain ⟨id, file, hid', -, hfile⟩ := hready row ((hworld.perm uids).mem_iff.mp hrow)
    obtain rfl := Option.some.inj (hid.symm.trans hid')
    exact ⟨file, hfile⟩
  obtain ⟨after, hloop⟩ := exists_loop hfiles
    (fun record hrecord => by
      obtain ⟨pair, hpair, rfl⟩ := List.mem_map.mp hrecord
      exact hflows pair hpair) ⟨[], [], [], none⟩
  have hlast : after.last ≠ none := fun h =>
    hne (List.map_eq_nil_iff.mp ((spec_of_loop hloop).2.2.mp h).1)
  obtain ⟨⟨file, data⟩, hsome⟩ := Option.ne_none_iff_exists'.mp hlast
  rw [hloop]
  unfold finish
  simp only [hsome]
  exact ⟨_, _, _, _, rfl⟩

theorem tag_inj {id id' : ℕ} {item item' : Obj} (heq : tag id item = tag id' item') : id = id' := by
  have hget := congrArg (Entries.get? "id") heq
  unfold tag at hget
  rw [Entries.get?_set_self, Entries.get?_set_self] at hget
  exact Int.ofNat.inj (Json.int.inj (Option.some.inj hget))

/-- **The merged report is right exactly if there is a row, no row beside a file is a path search,
and the files are beside requests that have their items.** -/
theorem succeeds_iff {world : World} (hworld : world.Lawful) {ids : String} {uids : List Uuid}
    (hids : (mainIds ids).mapM world.toUuid = some uids)
    (hready : ∀ row ∈ world.requested uids, world.Ready row) :
    Succeeds world uids (get world (some ids)) ↔ MatchesFiles world uids := by
  have hmem : ∀ row, row ∈ world.getObjects uids ↔ row ∈ world.requested uids :=
    fun row => (hworld.perm uids).mem_iff
  refine ⟨fun hsucceeds => ?_, fun hmatches => ?_⟩
  · obtain ⟨results, isDist, isSource, data, hanswer, hattributes⟩ := hsucceeds
    obtain ⟨hne, hflows, hitems⟩ := spec_of_get hworld hids hready hanswer
    refine ⟨?_, hflows, fun pair hpair file hfile item hitem => ?_⟩
    · obtain ⟨pair, hpair⟩ := List.exists_mem_of_ne_nil _ hne
      exact List.ne_nil_of_mem ((hmem _).mp (exists_file_of_mem_zipped hpair).1)
    · have hmerged := (hitems (tag pair.1.request.id item)).mpr
        ⟨pair, hpair, file, hfile, item, hitem, rfl⟩
      obtain ⟨row, hrow, own, hown, original, horiginal, heq⟩ := hattributes.tagged _ hmerged
      have hid := tag_inj heq
      exact ⟨row, hrow, hid.symm, own, hown, original, horiginal, hid ▸ heq.symm⟩
  · have hne : zipped world uids ≠ [] := by
      obtain ⟨row, hrow⟩ := List.exists_mem_of_ne_nil _ hmatches.nonempty
      obtain ⟨id, file, hid, -⟩ := hready row hrow
      obtain ⟨pair, hpair, -⟩ := exists_mem_zipped ((hmem row).mpr hrow) hid
      exact List.ne_nil_of_mem hpair
    obtain ⟨results, isDist, isSource, data, hanswer⟩ :=
      exists_get hworld hids hready hne hmatches.flow
    obtain ⟨-, -, hitems⟩ := spec_of_get hworld hids hready hanswer
    refine ⟨results, isDist, isSource, data, hanswer, ⟨fun item hitem => ?_, ?_⟩⟩
    · obtain ⟨pair, hpair, file, hfile, original, horiginal, rfl⟩ := (hitems item).mp hitem
      obtain ⟨row, hrow, hid, own, hown, found, hfound, heq⟩ :=
        hmatches.holds pair hpair file hfile original horiginal
      exact ⟨row, hrow, own, hown, found, hfound, by rw [heq, hid]⟩
    · intro row hrow own hown original horiginal
      obtain ⟨id, hid, hfile⟩ := Option.bind_eq_some_iff.mp hown
      obtain ⟨pair, hpair, rfl⟩ := exists_mem_zipped ((hmem row).mpr hrow) hid
      exact ⟨pair.1.request.id, (hitems _).mpr ⟨pair, hpair, own, hfile, original, horiginal, rfl⟩⟩

/-! ## Requests with files of their own -/

/-- Beside its own number every row stands in the list of the files. -/
theorem resultFileId_of_mem_zip {rows : List ResultRow} (hready : ∀ row ∈ rows, world.Ready row)
    {pair : ResultRow × ℕ} (hpair : pair ∈ rows.zip (rows.filterMap ResultRow.resultFileId)) :
    pair.1.resultFileId = some pair.2 := by
  induction rows with
  | nil => cases hpair
  | cons row rows ih =>
      rw [List.forall_mem_cons] at hready
      obtain ⟨id, file, hid, -⟩ := hready.1
      rw [List.filterMap_cons_some hid, List.zip_cons_cons, List.mem_cons] at hpair
      rcases hpair with rfl | hpair
      · exact hid
      · exact ih hready.2 hpair

/-- Where no two requests share a file, the two lists are in step. -/
theorem matchesFiles_of_nodup (hworld : world.Lawful)
    (hready : ∀ row ∈ world.requested uids, world.Ready row) (hne : world.requested uids ≠ [])
    (hflows : ∀ row ∈ world.requested uids, row.request.params.IsFlow)
    (hnodup : ((world.getObjects uids).filterMap ResultRow.resultFileId).Nodup) :
    MatchesFiles world uids := by
  have hmem : ∀ row, row ∈ world.getObjects uids ↔ row ∈ world.requested uids :=
    fun row => (hworld.perm uids).mem_iff
  have hsorted : ((world.getObjects uids).filterMap ResultRow.resultFileId).Pairwise (· ≤ ·) :=
    List.pairwise_filterMap.mpr (hworld.sorted uids)
  have hzipped : zipped world uids = (world.getObjects uids).zip
      ((world.getObjects uids).filterMap ResultRow.resultFileId) := by
    refine congrArg (List.zip _) ?_
    unfold distinctAscending
    rw [hnodup.dedup, hsorted.insertionSort_eq]
  refine ⟨hne, fun pair hpair => hflows _ ((hmem _).mp (exists_file_of_mem_zipped hpair).1), ?_⟩
  intro pair hpair file hfile item hitem
  have hrow := (exists_file_of_mem_zipped hpair).1
  rw [hzipped] at hpair
  have hid := resultFileId_of_mem_zip (fun row hrow => hready row ((hmem row).mp hrow)) hpair
  refine ⟨pair.1, (hmem _).mp hrow, rfl, file, ?_, item, hitem, rfl⟩
  exact Option.bind_eq_some_iff.mpr ⟨pair.2, hid, hfile⟩

/-! ### Shared files and path searches -/

def sampleItem (txHash : String) : Obj :=
  [("tx_hash", .str txHash)]

def sampleFile (txHash : String) : ReportFile :=
  ⟨[sampleItem txHash], [], []⟩

def flowParams : SearchParams :=
  ⟨none, some 2, some 3, []⟩

def pathParams : SearchParams :=
  ⟨some 5, none, none, []⟩

/-- The requests 1 and 2 share a file; request 4 is a path search. -/
def sampleResults : List ResultRow :=
  [⟨⟨1, 11, flowParams, []⟩, some 1⟩, ⟨⟨2, 12, flowParams, []⟩, some 1⟩,
    ⟨⟨3, 13, flowParams, []⟩, some 2⟩, ⟨⟨4, 14, pathParams, []⟩, some 3⟩]

def sampleWorld : World where
  catvResults := sampleResults
  toUuid := fun text => (parseInt text).map Int.toNat
  getObjects := fun uids => sampleResults.filter fun row => row.request.uid ∈ uids
  fileUid := fun id => toString id
  fetchResultFileList := fun ids => (distinctAscending ids).map fun id => ⟨id, toString id⟩
  getGcsFile := fun uid => some (sampleFile uid)
  gettext := id

theorem lawful_sampleWorld : sampleWorld.Lawful where
  perm := fun _ => List.Perm.refl _
  sorted := fun uids => by
    refine List.Pairwise.filter _ ?_
    simp [sampleResults]
  records := fun _ => rfl

theorem ready_sampleWorld (uids : List Uuid) :
    ∀ row ∈ sampleWorld.requested uids, sampleWorld.Ready row := by
  intro row hrow
  have hmem : row ∈ sampleResults := (List.mem_filter.mp hrow).1
  simp only [sampleResults, List.mem_cons, List.not_mem_nil, or_false] at hmem
  rcases hmem with rfl | rfl | rfl | rfl <;> exact ⟨_, _, rfl, by decide, rfl⟩

theorem succeeds_sampleWorld :
    Succeeds sampleWorld [11, 13] (get sampleWorld (some "11, 13")) ↔
      MatchesFiles sampleWorld [11, 13] :=
  succeeds_iff lawful_sampleWorld (by decide) (ready_sampleWorld _)

/-- Of the requests 1, 2 and 3, the second one gets the items of the file of the third one; a path
search does not get through at all. -/
theorem not_succeeds_sampleWorld :
    ¬ Succeeds sampleWorld [11, 12, 13] (get sampleWorld (some "11, 12, 13")) ∧
      get sampleWorld (some "14") = .error .attributeError := by
  refine ⟨?_, rfl⟩
  rintro ⟨results, isDist, isSource, data, hanswer, hattributes⟩
  obtain ⟨-, -, hitems⟩ :=
    spec_of_get lawful_sampleWorld (by decide) (ready_sampleWorld [11, 12, 13]) hanswer
  have hmerged : Merged sampleWorld [11, 12, 13] (tag 2 (sampleItem "2")) :=
    ⟨(⟨⟨2, 12, flowParams, []⟩, some 1⟩, 2), List.mem_cons_of_mem _ List.mem_cons_self,
      sampleFile "2", rfl, _, List.mem_cons_self, rfl⟩
  obtain ⟨row, hrow, own, hown, original, horiginal, heq⟩ :=
    hattributes.tagged _ ((hitems _).mpr hmerged)
  have hid := tag_inj heq
  have hmem : row ∈ sampleResults := (List.mem_filter.mp hrow).1
  simp only [sampleResults, List.mem_cons, List.not_mem_nil, or_false] at hmem
  rcases hmem with rfl | rfl | rfl | rfl
  · cases hid
  · obtain rfl := Option.some.inj hown
    obtain rfl := List.mem_singleton.mp horiginal
    have hhash := congrArg (Entries.get? "tx_hash") heq
    exact absurd (Json.str.inj (Option.some.inj hhash)) (by decide)
  · cases hid
  · cases hid

end CatvService.MultiReport
