import Mathlib.Data.List.Basic
import Mathlib.Logic.Function.Basic

/-!
# The tables of the service

The rows of `api/models.py` that the submission routes write: the four job queues, the request
status and the result; and the enumerations of their columns.  `Doc` is the type of the documents
that `JSONField` columns hold.

A row carries the columns that are written or read by the modelled routes; columns that only the
database fills in (`id`, `created`, `updated`) are left out.
-/

namespace CatvService

/-- `uuid.UUID`.  Its `hex` text is one-to-one, so both are kept as the number. -/
abbrev Uuid := ℕ

/-- `CatvTokens`. -/
inductive CatvTokens where
  | eth | btc | tron | ltc | bch | xrp | eos | xlm | bnb | ada | bsc | klay | lunc | ftm | avax
  | doge | zec | dash | pol | sol | arb | arbnova | op | base | linea | blast | scroll | mantle
  | opbnb | btt | celo | fraxtal | gnosis | memecore | moonbeam | moonriver | taiko | xdc
  | apechain | world | sonic | unichain | abstract | berachain | swellchain | monad | hyperevm
  | katana | sei | stable | plasma
  deriving DecidableEq, Repr

/-- `token.value`. -/
def CatvTokens.value : CatvTokens → String
  | .eth => "ETH"
  | .btc => "BTC"
  | .tron => "TRX"
  | .ltc => "LTC"
  | .bch => "BCH"
  | .xrp => "XRP"
  | .eos => "EOS"
  | .xlm => "XLM"
  | .bnb => "BNB"
  | .ada => "ADA"
  | .bsc => "BSC"
  | .klay => "KLAY"
  | .lunc => "LUNC"
  | .ftm => "FTM"
  | .avax => "AVAX"
  | .doge => "DOGE"
  | .zec => "ZEC"
  | .dash => "DASH"
  | .pol => "POL"
  | .sol => "SOL"
  | .arb => "ARB"
  | .arbnova => "ARBNOVA"
  | .op => "OP"
  | .base => "BASE"
  | .linea => "LINEA"
  | .blast => "BLAST"
  | .scroll => "SCROLL"
  | .mantle => "MANTLE"
  | .opbnb => "OPBNB"
  | .btt => "BTT"
  | .celo => "CELO"
  | .fraxtal => "FRAXTAL"
  | .gnosis => "GNOSIS"
  | .memecore => "MEMECORE"
  | .moonbeam => "MOONBEAM"
  | .moonriver => "MOONRIVER"
  | .taiko => "TAIKO"
  | .xdc => "XDC"
  | .apechain => "APECHAIN"
  | .world => "WORLD"
  | .sonic => "SONIC"
  | .unichain => "UNICHAIN"
  | .abstract => "ABSTRACT"
  | .berachain => "BERACHAIN"
  | .swellchain => "SWELLCHAIN"
  | .monad => "MONAD"
  | .hyperevm => "HYPEREVM"
  | .katana => "KATANA"
  | .sei => "SEI"
  | .stable => "STABLE"
  | .plasma => "PLASMA"

/-- `CatvTaskStatusType`. -/
inductive CatvTaskStatusType where
  | progress
  | released
  | failed
  deriving DecidableEq, Repr

/-- `CatvSearchType`. -/
inductive CatvSearchType where
  | path
  | flow
  deriving DecidableEq, Repr

/-- The `message` document of a job queue row.  The keys that only one route writes are optional. -/
structure JobMessage (Doc : Type*) where
  messageId : Uuid
  userId : ℕ
  tokenType : String
  searchType : Option CatvSearchType
  source : Option String
  kytReportId : Option Doc
  tracerData : Option Doc
  searchParams : Doc
  deriving DecidableEq

/-- The job queue models.  They have the same columns. -/
inductive JobQueueClass where
  | catvJobQueue
  | catvNeoJobQueue
  | catvCsvJobQueue
  | catvNeoCsvJobQueue
  deriving DecidableEq, Repr

/-- A row of a job queue. -/
structure JobQueueRow (Doc : Type*) where
  message : JobMessage Doc
  retriesRemaining : ℕ
  deriving DecidableEq

/-- A row of `CatvRequestStatus`. -/
structure CatvRequestStatus (Doc : Type*) where
  uid : Uuid
  params : Doc
  status : CatvTaskStatusType
  userId : ℕ
  labels : List String
  tokenType : String
  isLegacy : Bool
  isBountyTrack : Bool
  deriving DecidableEq

/-- A row of `CatvResult`.  Its foreign key is kept as the `uid` of the request it points to. -/
structure CatvResult where
  request : Uuid
  resultFileId : Option ℕ
  deriving DecidableEq

/-- `CatvRequestStatus(uid=…, params=…, user_id=…, token_type=…, is_legacy=…, is_bounty_track=…)`,
the other columns at their defaults. -/
def CatvRequestStatus.new {Doc : Type*} (uid : Uuid) (params : Doc) (userId : ℕ)
    (tokenType : String) (isLegacy isBountyTrack : Bool) : CatvRequestStatus Doc :=
  ⟨uid, params, .progress, userId, [], tokenType, isLegacy, isBountyTrack⟩

/-- `CatvResult(request=status)`. -/
def CatvResult.new {Doc : Type*} (request : CatvRequestStatus Doc) : CatvResult :=
  ⟨request.uid, none⟩

/-- The tables, each in insertion order. -/
structure Database (Doc : Type*) where
  jobQueue : JobQueueClass → List (JobQueueRow Doc)
  catvRequestStatus : List (CatvRequestStatus Doc)
  catvResult : List CatvResult

namespace Database

variable {Doc : Type*}

/-- No rows. -/
def empty : Database Doc :=
  ⟨fun _ => [], [], []⟩

/-- `cls.objects.bulk_create(rows)` for a job queue model. -/
def createJobs (db : Database Doc) (cls : JobQueueClass) (rows : List (JobQueueRow Doc)) :
    Database Doc :=
  { db with jobQueue := Function.update db.jobQueue cls (db.jobQueue cls ++ rows) }

/-- `CatvRequestStatus.objects.bulk_create(rows)`. -/
def createStatuses (db : Database Doc) (rows : List (CatvRequestStatus Doc)) : Database Doc :=
  { db with catvRequestStatus := db.catvRequestStatus ++ rows }

/-- `CatvResult.objects.bulk_create(rows)`. -/
def createResults (db : Database Doc) (rows : List CatvResult) : Database Doc :=
  { db with catvResult := db.catvResult ++ rows }

section Lemmas

variable (db : Database Doc) (cls : JobQueueClass) (jobs : List (JobQueueRow Doc))
  (statuses : List (CatvRequestStatus Doc)) (results : List CatvResult)

@[simp] theorem jobQueue_createJobs_self :
    (db.createJobs cls jobs).jobQueue cls = db.jobQueue cls ++ jobs := by
  simp [createJobs]

theorem jobQueue_createJobs_of_ne {other : JobQueueClass} (hne : other ≠ cls) :
    (db.createJobs cls jobs).jobQueue other = db.jobQueue other := by
  simp [createJobs, hne]

@[simp] theorem catvRequestStatus_createJobs :
    (db.createJobs cls jobs).catvRequestStatus = db.catvRequestStatus := rfl

@[simp] theorem catvResult_createJobs : (db.createJobs cls jobs).catvResult = db.catvResult := rfl

@[simp] theorem jobQueue_createStatuses :
    (db.createStatuses statuses).jobQueue = db.jobQueue := rfl

@[simp] theorem catvRequestStatus_createStatuses :
    (db.createStatuses statuses).catvRequestStatus = db.catvRequestStatus ++ statuses := rfl

@[simp] theorem catvResult_createStatuses :
    (db.createStatuses statuses).catvResult = db.catvResult := rfl

@[simp] theorem jobQueue_createResults : (db.createResults results).jobQueue = db.jobQueue := rfl

@[simp] theorem catvRequestStatus_createResults :
    (db.createResults results).catvRequestStatus = db.catvRequestStatus := rfl

@[simp] theorem catvResult_createResults :
    (db.createResults results).catvResult = db.catvResult ++ results := rfl

theorem createJobs_nil : db.createJobs cls [] = db := by
  simp [createJobs]

theorem createJobs_append (more : List (JobQueueRow Doc)) :
    (db.createJobs cls jobs).createJobs cls more = db.createJobs cls (jobs ++ more) := by
  simp [createJobs]

theorem createStatuses_nil : db.createStatuses [] = db := by
  simp [createStatuses]

theorem createStatuses_append (more : List (CatvRequestStatus Doc)) :
    (db.createStatuses statuses).createStatuses more = db.createStatuses (statuses ++ more) := by
  simp [createStatuses]

theorem createResults_nil : db.createResults [] = db := by
  simp [createResults]

theorem createResults_append (more : List CatvResult) :
    (db.createResults results).createResults more = db.createResults (results ++ more) := by
  simp [createResults]

end Lemmas
end Database
end CatvService
