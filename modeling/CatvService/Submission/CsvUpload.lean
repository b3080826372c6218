import CatvService.Library.Slicing
import CatvService.Models

/-!
# CSV bulk submission

`CATVCSVUpload.post` from the processed frame on: the credit check, the three parallel lists of
rows, the transaction that inserts them in chunks, and the billing call.

Each chunk comprehension strides by 100 and slices 50 rows, so the rows `50..99`, `150..199`, … of
every upload are never inserted, while the billing call carries the length of the whole upload.
`insertChunks_eq` says what reaches the tables; `post_faithful_iff` is the resulting law.
-/

namespace CatvService.CsvUpload

open Slicing

/-- A record of the processed frame: the required columns of the CSV. -/
structure CsvRecord where
  tokenType : String
  walletAddress : String
  sourceDepth : ℤ
  distributionDepth : ℤ
  fromDate : String
  toDate : String
  tokenAddress : String
  transactionLimit : ℤ
  deriving DecidableEq

/-- The parts of the user record that the route reads. -/
structure UserDetails where
  userId : ℕ
  userUid : String
  creditsLeft : ℤ
  /-- `usage.credits_requirement.catv` -/
  creditsPerAddr : ℤ
  deriving DecidableEq

/-- The parts of the request that the route reads after the CSV has been processed. -/
structure CsvRequest where
  user : UserDetails
  token : String
  timestamp : String
  isLegacy : Bool
  isBountyTrack : Bool
  deriving DecidableEq

/-- The body sent to `rpc_csv_catv_update_usage_call`. -/
structure CsvUsageCall where
  id : ℕ
  token : String
  timestamp : String
  uid : String
  csvRecords : ℕ
  creditsRequired : ℤ
  isBountyTrack : Bool
  deriving DecidableEq

/-- What the client is answered. -/
inductive CsvResponse where
  | error (message : String)
  | submitted (records : List CsvRecord) (message : String)
  deriving DecidableEq

/-- What one call of the route does: the tables after it, the billing call it made, if any, and
the answer. -/
structure Outcome where
  db : Database CsvRecord
  usageCall : Option CsvUsageCall
  response : CsvResponse

/-- `csv_job_queue_class`. -/
def csvJobQueueClass (isLegacy : Bool) : JobQueueClass :=
  if isLegacy then .catvCsvJobQueue else .catvNeoCsvJobQueue

/-- The job queue entry of one record. -/
def jobEntry (request : CsvRequest) (messageId : Uuid) (params : CsvRecord) :
    JobQueueRow CsvRecord where
  message :=
    { messageId := messageId
      userId := request.user.userId
      tokenType := params.tokenType
      searchType := none
      source := none
      kytReportId := none
      tracerData := none
      searchParams := params }
  retriesRemaining := 1

/-- The request status entry of one record. -/
def statusEntry (request : CsvRequest) (messageId : Uuid) (params : CsvRecord) :
    CatvRequestStatus CsvRecord :=
  .new messageId params request.user.userId params.tokenType request.isLegacy
    request.isBountyTrack

/-- The result entry of one record. -/
def resultEntry (request : CsvRequest) (messageId : Uuid) (params : CsvRecord) : CatvResult :=
  .new (statusEntry request messageId params)

/-- The list that the loop over `records` builds from one kind of entry; `uuid4 i` is the message
id drawn for record `i`. -/
def entries {α : Type} (entry : Uuid → CsvRecord → α) (uuid4 : ℕ → Uuid)
    (records : List CsvRecord) : List α :=
  records.mapIdx fun i params => entry (uuid4 i) params

/-- `[rows[i:i + 50] for i in range(0, len(rows), 100)]`. -/
def chunks {α : Type} (rows : List α) : List (List α) :=
  strided 50 100 rows

/-- The body of the transaction. -/
def insertChunks (request : CsvRequest) (uuid4 : ℕ → Uuid) (records : List CsvRecord)
    (db : Database CsvRecord) : Database CsvRecord :=
  let cls := csvJobQueueClass request.isLegacy
  let db := (chunks (entries (jobEntry request) uuid4 records)).foldl
    (fun db chunk => db.createJobs cls chunk) db
  let db := (chunks (entries (statusEntry request) uuid4 records)).foldl
    (fun db chunk => db.createStatuses chunk) db
  (chunks (entries (resultEntry request) uuid4 records)).foldl
    (fun db chunk => db.createResults chunk) db

/-- `CATVCSVUpload.post`, from the processed frame on. -/
def post (request : CsvRequest) (uuid4 : ℕ → Uuid) (records : List CsvRecord)
    (db : Database CsvRecord) : Outcome :=
  let finalLength := records.length
  if finalLength = 0 then
    ⟨db, none, .error "No valid entries found after processing"⟩
  else if request.user.creditsLeft < finalLength * request.user.creditsPerAddr then
    ⟨db, none, .error ("You do not have sufficient usage credits to process this CSV. " ++
      "Please purchase more credits to continue.")⟩
  else
    ⟨insertChunks request uuid4 records db,
      some
        { id := request.user.userId
          token := request.token
          timestamp := request.timestamp
          uid := request.user.userUid
          csvRecords := finalLength
          creditsRequired := request.user.creditsPerAddr
          isBountyTrack := request.isBountyTrack },
      .submitted records
        (toString finalLength ++ " Addresses are successfully submitted for report generation.")⟩

/-- The route gets past its own checks. -/
def Accepts (request : CsvRequest) (records : List CsvRecord) : Prop :=
  records ≠ [] ∧ records.length * request.user.creditsPerAddr ≤ request.user.creditsLeft

instance (request : CsvRequest) (records : List CsvRecord) : Decidable (Accepts request records) :=
  inferInstanceAs (Decidable (_ ∧ _))

/-- Each table has exactly one new row per record, with one message id across the three tables,
and the number billed is the number of new rows of each kind. -/
def Faithful (request : CsvRequest) (uuid4 : ℕ → Uuid) (records : List CsvRecord)
    (before : Database CsvRecord) (outcome : Outcome) : Prop :=
  ∃ jobs statuses results call,
    outcome.db.jobQueue (csvJobQueueClass request.isLegacy) =
        before.jobQueue (csvJobQueueClass request.isLegacy) ++ jobs ∧
      outcome.db.catvRequestStatus = before.catvRequestStatus ++ statuses ∧
      outcome.db.catvResult = before.catvResult ++ results ∧
      outcome.usageCall = some call ∧
      jobs.Perm (entries (jobEntry request) uuid4 records) ∧
      statuses.Perm (entries (statusEntry request) uuid4 records) ∧
      results.Perm (entries (resultEntry request) uuid4 records) ∧
      call.csvRecords = jobs.length ∧ call.csvRecords = statuses.length ∧
      call.csvRecords = results.length

/-! ## What the transaction inserts -/

/-- The rows of one kind that the chunks of `entries` hold between them. -/
def inserted {α : Type} (entry : Uuid → CsvRecord → α) (uuid4 : ℕ → Uuid)
    (records : List CsvRecord) : List α :=
  (chunks (entries entry uuid4 records)).flatten

/-- The chunks of a kind, created one after another, append `inserted` to its table. -/
theorem insertChunks_eq (request : CsvRequest) (uuid4 : ℕ → Uuid) (records : List CsvRecord)
    (db : Database CsvRecord) :
    insertChunks request uuid4 records db =
      ((db.createJobs (csvJobQueueClass request.isLegacy)
        (inserted (jobEntry request) uuid4 records)).createStatuses
          (inserted (statusEntry request) uuid4 records)).createResults
            (inserted (resultEntry request) uuid4 records) := by
  unfold insertChunks inserted
  simp only [foldl_pieces (fun db => Database.createJobs_nil db _)
      (fun db jobs more => Database.createJobs_append db _ jobs more),
    foldl_pieces Database.createStatuses_nil Database.createStatuses_append,
    foldl_pieces Database.createResults_nil Database.createResults_append]

theorem length_entries {α : Type} (entry : Uuid → CsvRecord → α) (uuid4 : ℕ → Uuid)
    (records : List CsvRecord) : (entries entry uuid4 records).length = records.length := by
  simp [entries]

/-- A kind of row is inserted once per record exactly when the upload fits into one chunk. -/
theorem inserted_perm_iff {α : Type} (entry : Uuid → CsvRecord → α) (uuid4 : ℕ → Uuid)
    (records : List CsvRecord) :
    (inserted entry uuid4 records).Perm (entries entry uuid4 records) ↔ records.length ≤ 50 := by
  rw [inserted, chunks, flatten_strided_perm_iff (by omega), length_entries]

theorem post_of_accepts {request : CsvRequest} {records : List CsvRecord}
    (haccepts : Accepts request records) (uuid4 : ℕ → Uuid) (db : Database CsvRecord) :
    (post request uuid4 records db).db = insertChunks request uuid4 records db ∧
      ∃ call, (post request uuid4 records db).usageCall = some call ∧
        call.csvRecords = records.length := by
  obtain ⟨hne, hcredits⟩ := haccepts
  have hlength : records.length ≠ 0 := fun hzero => hne (List.eq_nil_of_length_eq_zero hzero)
  have henough : ¬ request.user.creditsLeft < records.length * request.user.creditsPerAddr :=
    not_lt.mpr hcredits
  unfold post
  rw [if_neg hlength, if_neg henough]
  exact ⟨rfl, _, rfl, rfl⟩

theorem charge_le_creditsLeft {request : CsvRequest} {uuid4 : ℕ → Uuid} {records : List CsvRecord}
    {db : Database CsvRecord} {call : CsvUsageCall}
    (hcall : (post request uuid4 records db).usageCall = some call) :
    call.csvRecords * call.creditsRequired ≤ request.user.creditsLeft := by
  unfold post at hcall
  by_cases hlength : records.length = 0
  · rw [if_pos hlength] at hcall
    cases hcall
  · rw [if_neg hlength] at hcall
    by_cases henough : request.user.creditsLeft < records.length * request.user.creditsPerAddr
    · rw [if_pos henough] at hcall
      cases hcall
    · rw [if_neg henough] at hcall
      rw [← Option.some.inj hcall]
      exact not_lt.mp henough

/-! ## The law of the route -/

theorem faithful_of_length_le {request : CsvRequest} {records : List CsvRecord}
    (haccepts : Accepts request records) (uuid4 : ℕ → Uuid) (db : Database CsvRecord)
    (hlength : records.length ≤ 50) :
    Faithful request uuid4 records db (post request uuid4 records db) := by
  obtain ⟨hdb, call, hcall, hbilled⟩ := post_of_accepts haccepts uuid4 db
  have hperm {α : Type} (entry : Uuid → CsvRecord → α) :
      (inserted entry uuid4 records).Perm (entries entry uuid4 records) :=
    (inserted_perm_iff entry uuid4 records).mpr hlength
  have hcount {α : Type} (entry : Uuid → CsvRecord → α) :
      call.csvRecords = (inserted entry uuid4 records).length := by
    rw [hbilled, (hperm entry).length_eq, length_entries]
  refine ⟨inserted (jobEntry request) uuid4 records, inserted (statusEntry request) uuid4 records,
    inserted (resultEntry request) uuid4 records, call, ?_, ?_, ?_, hcall, hperm _, hperm _,
    hperm _, hcount _, hcount _, hcount _⟩
  all_goals rw [hdb, insertChunks_eq]; simp

theorem length_le_of_faithful {request : CsvRequest} {records : List CsvRecord}
    (haccepts : Accepts request records) (uuid4 : ℕ → Uuid) (db : Database CsvRecord)
    (hfaithful : Faithful request uuid4 records db (post request uuid4 records db)) :
    records.length ≤ 50 := by
  obtain ⟨jobs, statuses, results, call, hjobs, -, -, -, hperm, -⟩ := hfaithful
  rw [(post_of_accepts haccepts uuid4 db).1, insertChunks_eq] at hjobs
  have heq : inserted (jobEntry request) uuid4 records = jobs := by
    simpa using hjobs
  exact (inserted_perm_iff (jobEntry request) uuid4 records).mp (heq ▸ hperm)

/-- **An accepted upload is queued and billed row for row exactly when it has at most 50
records.** -/
theorem post_faithful_iff (request : CsvRequest) (uuid4 : ℕ → Uuid) (records : List CsvRecord)
    (db : Database CsvRecord) (haccepts : Accepts request records) :
    Faithful request uuid4 records db (post request uuid4 records db) ↔ records.length ≤ 50 :=
  ⟨length_le_of_faithful haccepts uuid4 db, faithful_of_length_le haccepts uuid4 db⟩

/-! ### An upload of 51 wallets -/

/-- A wallet of the upload: 40 hexadecimal digits, the last two of which number it. -/
def sampleWallet (i : ℕ) : String :=
  "0x" ++ String.ofList (List.replicate 38 'a' ++ [Nat.digitChar (i / 10), Nat.digitChar (i % 10)])

/-- One record per wallet, over five hops on both sides. -/
def sampleRecords (n : ℕ) : List CsvRecord :=
  (List.range n).map fun i =>
    { tokenType := "ETH"
      walletAddress := sampleWallet i
      sourceDepth := 5
      distributionDepth := 5
      fromDate := "2023-01-01"
      toDate := "2023-12-31"
      tokenAddress := "0x0000000000000000000000000000000000000000"
      transactionLimit := 1000 }

/-- A user with enough credits for 51 records at 20 credits each. -/
def sampleRequest : CsvRequest where
  user := { userId := 7, userUid := "user-7", creditsLeft := 2000, creditsPerAddr := 20 }
  token := "token"
  timestamp := "1700000000"
  isLegacy := true
  isBountyTrack := false

theorem accepts_sampleRecords {n : ℕ} (hpos : 0 < n) (hle : n ≤ 100) :
    Accepts sampleRequest (sampleRecords n) := by
  have hlength : (sampleRecords n).length = n := by simp [sampleRecords]
  refine ⟨List.ne_nil_of_length_pos (by rw [hlength]; exact hpos), ?_⟩
  rw [hlength]
  show (n : ℤ) * 20 ≤ 2000
  omega

theorem post_faithful_iff_two :
    Accepts sampleRequest (sampleRecords 2) ∧
      (Faithful sampleRequest id (sampleRecords 2) Database.empty
        (post sampleRequest id (sampleRecords 2) Database.empty) ↔
          (sampleRecords 2).length ≤ 50) :=
  ⟨accepts_sampleRecords (by omega) (by omega),
    post_faithful_iff sampleRequest id (sampleRecords 2) Database.empty
      (accepts_sampleRecords (by omega) (by omega))⟩

/-- Of 51 accepted records only 50 are queued, and 51 are billed. -/
theorem not_faithful_sampleRecords :
    Accepts sampleRequest (sampleRecords 51) ∧
      ¬ Faithful sampleRequest id (sampleRecords 51) Database.empty
        (post sampleRequest id (sampleRecords 51) Database.empty) := by
  have haccepts : Accepts sampleRequest (sampleRecords 51) :=
    accepts_sampleRecords (by omega) (by omega)
  refine ⟨haccepts, fun hfaithful => ?_⟩
  have hlength := length_le_of_faithful haccepts id Database.empty hfaithful
  simp [sampleRecords] at hlength

end CatvService.CsvUpload
