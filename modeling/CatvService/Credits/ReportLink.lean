import CatvService.Credits.ApiUsage
import CatvService.Library.Polling
import CatvService.Library.Value
import CatvService.Models

/-!
# The report link

`CATVReportLinkView` of `api/api_views.py` submits a request and waits for its report:
`check_status` reads the status of the row every seven seconds for a minute and a half, and the key
is charged only for a report that was read as released.

Nothing is assumed of when the rounds of the loop take place but what the sleeps make sure of, and
nothing of the row, which a consumer writes meanwhile.  Times are counted in a unit of which `tick`
make a second.

* `post_spec`: the loop ends in the fourteenth round at the latest, and charges the key exactly if
  the first status other than `progress` that it reads before the deadline is `released`;
* `checkStatus_of_prompt`: what becomes of a report that is finished at some time, if no step of the
  loop is late by more than a given slack.
-/

namespace CatvService.ReportLink

open PyValue Polling ApiUsage

/-! ## The model -/

/-- How `check_status` ends, if it does not raise the `TimeoutError` of its own. -/
inductive Checked where
  | released
  | failed
  | raised (e : PyErr)
  deriving DecidableEq, Repr

/-- `timedelta(minutes=1.5)`. -/
def timeout (tick : ℕ) : ℕ :=
  90 * tick

/-- The rounds of `check_status` from a time on. -/
abbrev Rounds (start tick : ℕ) := Schedule start (7 * tick)

variable {start tick : ℕ}

/-- The loop of `check_status` from round `i` on, with fuel for so many rounds.  What
`refresh_from_db` makes of the row at a time is `refresh`. -/
def checkStatus (rounds : Rounds start tick) (refresh : ℕ → Except PyErr CatvTaskStatusType) :
    ℕ → ℕ → Option (Ending Checked)
  | 0, _ => none
  | fuel + 1, i =>
      if start + timeout tick ≤ rounds.check i then some ⟨i, none⟩
      else
        match refresh (rounds.read i) with
        | .error e => some ⟨i, some (.raised e)⟩
        | .ok .progress => checkStatus rounds refresh fuel (i + 1)
        | .ok .released => some ⟨i, some .released⟩
        | .ok .failed => some ⟨i, some .failed⟩

/-- `api_settings`. -/
structure ApiSettings where
  catvReportBaseUrl : String
  catvNeoReportBaseUrl : String

/-- `get_catv_report_url(is_legacy)`. -/
def getCatvReportUrl (settings : ApiSettings) (isLegacy : Bool) (requestUid : String) : String :=
  (if isLegacy then settings.catvReportBaseUrl else settings.catvNeoReportBaseUrl) ++
    "/" ++ requestUid

def catvReportTimedOut : String :=
  "The API request timed out due to extensive processing time." ++
    " Please try again with a lower 'depth' or 'transaction_limit'."

def catvReportSuccess : String :=
  "CATV Report generated successfully."

def catvReportFailed : String :=
  "CATV Report generation failed for the input wallet address. Please try again."

/-- The body of a response, without the `request_params`, which are those of the request. -/
structure LinkBody where
  status : Bool
  requestUid : String
  reportUrl : Option String
  message : String
  deriving DecidableEq, Repr

/-- Whether `update_usage` is called, and the response; an error is the text of a `ServerError`. -/
structure LinkAnswer where
  charged : Bool
  response : Except String LinkBody

/-- What `post` does behind `check_status`, where `updateUsage` is how `update_usage` ends. -/
def answer (settings : ApiSettings) (isLegacy : Bool) (requestUid : String)
    (updateUsage : Except PyErr Unit) : Option Checked → LinkAnswer
  | none => ⟨false, .ok ⟨false, requestUid, none, catvReportTimedOut⟩⟩
  | some .released =>
      match updateUsage with
      | .ok () =>
          ⟨true, .ok ⟨true, requestUid, some (getCatvReportUrl settings isLegacy requestUid),
            catvReportSuccess⟩⟩
      | .error _ => ⟨true, .error serverError⟩
  | some .failed => ⟨false, .ok ⟨false, requestUid, none, catvReportFailed⟩⟩
  | some (.raised e) =>
      -- `except TimeoutError` takes those of the database for its own
      if e = .other "TimeoutError" then ⟨false, .ok ⟨false, requestUid, none, catvReportTimedOut⟩⟩
      else ⟨false, .error serverError⟩
where
  serverError : String :=
    "Something went wrong while submitting your request. Please try again later."

/-- The fetch of a report link among those of the other routes. -/
def fetchOutcome : Option Checked → FetchOutcome
  | none => .timedOut
  | some .released => .ready
  | some .failed => .nothing
  | some (.raised e) => if e = .other "TimeoutError" then .timedOut else .raised

/-- Before the deadline the loop reads the row, and `found` is the first that is not `progress`. -/
def ReadsFirst (rounds : Rounds start tick) (refresh : ℕ → Except PyErr CatvTaskStatusType)
    (found : Except PyErr CatvTaskStatusType) : Prop :=
  ∃ i, rounds.check i < start + timeout tick ∧ refresh (rounds.read i) = found ∧
    ∀ j < i, refresh (rounds.read j) = .ok .progress

/-! ## The loop as a poll -/

/-- What a status that is read says about the report. -/
def settled : Except PyErr CatvTaskStatusType → Option Checked
  | .error e => some (.raised e)
  | .ok .progress => none
  | .ok .released => some .released
  | .ok .failed => some .failed

theorem settled_eq_none_iff {found : Except PyErr CatvTaskStatusType} :
    settled found = none ↔ found = .ok .progress := by
  rcases found with e | (_ | _ | _) <;> simp [settled]

theorem settled_eq_released_iff {found : Except PyErr CatvTaskStatusType} :
    settled found = some .released ↔ found = .ok .released := by
  rcases found with e | (_ | _ | _) <;> simp [settled]

variable (rounds : Rounds start tick) (refresh : ℕ → Except PyErr CatvTaskStatusType)

/-- `check_status` polls the row. -/
theorem checkStatus_eq_poll (fuel i : ℕ) :
    checkStatus rounds refresh fuel i =
      poll rounds (start + timeout tick) (fun t => settled (refresh t)) fuel i := by
  induction fuel generalizing i with
  | zero => rfl
  | succ fuel ih =>
      rw [checkStatus, poll]
      split
      · rfl
      · rcases hread : refresh (rounds.read i) with e | (_ | _ | _)
        · simp only [settled]
        · simp only [settled]
          exact ih (i + 1)
        · simp only [settled]
        · simp only [settled]

theorem timeout_le (start tick : ℕ) : start + timeout tick ≤ start + 7 * tick * 13 := by
  unfold timeout
  omega

/-- The loop ends, and not later than in the round that is behind thirteen pauses. -/
theorem exists_checkStatus_eq (more : ℕ) :
    ∃ ending, checkStatus rounds refresh (more + 14) 0 = some ending ∧ ending.round ≤ 13 := by
  obtain ⟨i, hle, -, -, hpoll⟩ := exists_poll_eq rounds (fun t => settled (refresh t))
    (timeout_le start tick) (show 13 < more + 14 by omega)
  rw [← checkStatus_eq_poll] at hpoll
  exact ⟨_, hpoll, hle⟩

variable {rounds refresh}

theorem checkStatus_released_iff {more : ℕ} {ending : Ending Checked}
    (hloop : checkStatus rounds refresh (more + 14) 0 = some ending) :
    ending.answer = some .released ↔ ReadsFirst rounds refresh (.ok .released) := by
  rw [checkStatus_eq_poll] at hloop
  rw [poll_answer_iff (timeout_le start tick) (by omega) hloop]
  simp only [FirstAnswer, settled_eq_released_iff, settled_eq_none_iff, ReadsFirst]

/-! ## What is charged and delivered -/

section Answer

variable {settings : ApiSettings} {isLegacy : Bool} {requestUid : String}
  {updateUsage : Except PyErr Unit} {ended : Option Checked}

theorem charged_answer_iff :
    (answer settings isLegacy requestUid updateUsage ended).charged = true ↔
      ended = some .released := by
  rcases ended with _ | (_ | _ | e)
  · simp [answer]
  · cases updateUsage <;> simp [answer]
  · simp [answer]
  · simp only [answer]
    split <;> simp

theorem exists_reportUrl_iff :
    (∃ body url, (answer settings isLegacy requestUid updateUsage ended).response = .ok body ∧
      body.reportUrl = some url) ↔ ended = some .released ∧ updateUsage = .ok () := by
  rcases ended with _ | (_ | _ | e)
  · simp [answer]
  · cases updateUsage <;> simp [answer]
  · simp [answer]
  · simp only [answer]
    split <;> simp

/-- The request goes on to its charge in the system of the key's requests exactly if `post` charges
the key. -/
theorem fetched_eq_charging_iff :
    ApiView.catvReportLink.fetched (fetchOutcome ended) = .charging ↔
      (answer settings isLegacy requestUid updateUsage ended).charged = true := by
  rw [charged_answer_iff]
  rcases ended with _ | (_ | _ | e)
  · simp [fetchOutcome, ApiView.fetched]
  · simp [fetchOutcome, ApiView.fetched]
  · simp [fetchOutcome, ApiView.fetched]
  · simp only [fetchOutcome]
    split <;> simp [ApiView.fetched]

end Answer

/-- **The report link.**  Whenever its rounds take place and whatever becomes of the row, the loop
ends within fourteen rounds.  The key is charged exactly if `released` is the first status other
than `progress` that is read before the deadline, which is when the request goes on to its charge
among the requests of the key; and a link is handed out exactly if, besides, the charge does not
raise. -/
theorem post_spec (rounds : Rounds start tick) (refresh : ℕ → Except PyErr CatvTaskStatusType)
    (settings : ApiSettings) (isLegacy : Bool) (requestUid : String)
    (updateUsage : Except PyErr Unit) (more : ℕ) :
    ∃ ending, checkStatus rounds refresh (more + 14) 0 = some ending ∧ ending.round ≤ 13 ∧
      ((answer settings isLegacy requestUid updateUsage ending.answer).charged = true ↔
        ReadsFirst rounds refresh (.ok .released)) ∧
      (ApiView.catvReportLink.fetched (fetchOutcome ending.answer) = .charging ↔
        ReadsFirst rounds refresh (.ok .released)) ∧
      ((∃ body url, (answer settings isLegacy requestUid updateUsage ending.answer).response =
          .ok body ∧ body.reportUrl = some url) ↔
        ReadsFirst rounds refresh (.ok .released) ∧ updateUsage = .ok ()) := by
  obtain ⟨ending, hloop, hround⟩ := exists_checkStatus_eq rounds refresh more
  have hreleased := checkStatus_released_iff hloop
  have hcharged : (answer settings isLegacy requestUid updateUsage ending.answer).charged = true ↔
      ReadsFirst rounds refresh (.ok .released) := charged_answer_iff.trans hreleased
  refine ⟨ending, hloop, hround, hcharged, ?_, ?_⟩
  · exact fetched_eq_charging_iff.trans hcharged
  · rw [exists_reportUrl_iff, hreleased]

/-! ## A report that is finished at some time -/

/-- The row of a request that is finished at a time, and keeps its status from then on. -/
def finishedAt (time : ℕ) (final : CatvTaskStatusType) : ℕ → Except PyErr CatvTaskStatusType :=
  fun t => .ok (if t < time then .progress else final)

theorem settled_finishedAt_of_le {time t : ℕ} (final : CatvTaskStatusType) (h : time ≤ t) :
    settled (finishedAt time final t) = settled (.ok final) := by
  rw [finishedAt, if_neg (not_lt.mpr h)]

theorem settled_finishedAt_of_lt {time t : ℕ} (final : CatvTaskStatusType) (h : t < time) :
    settled (finishedAt time final t) = none := by
  rw [finishedAt, if_pos h]
  rfl

/-- **What the wait is good for.**  Let no step of the loop be late by more than `slack`, which is
less than the time to the deadline.  A report that is finished seven seconds and the slack before
the deadline, maybe even before the wait began, is reported as what it is: twice the slack after it
has been finished for seven seconds or the wait began, whichever is later, it has been read.  One
that is finished later than the slack behind the deadline is reported as timed out. -/
theorem checkStatus_of_prompt {slack : ℕ} (hprompt : rounds.Prompt slack)
    (hslack : slack < timeout tick) {final : CatvTaskStatusType} (hfinal : final ≠ .progress)
    (time more : ℕ) :
    ∃ ending, checkStatus rounds (finishedAt time final) (more + 14) 0 = some ending ∧
      (time + 7 * tick + slack ≤ start + timeout tick →
        ending.answer = settled (.ok final) ∧
          rounds.read ending.round ≤ max start (time + 7 * tick) + 2 * slack) ∧
      (start + timeout tick + slack ≤ time → ending.answer = none) := by
  obtain ⟨ending, hloop, -⟩ := exists_checkStatus_eq rounds (finishedAt time final) more
  have hpoll := hloop
  rw [checkStatus_eq_poll] at hpoll
  refine ⟨ending, hloop, fun hearly => ?_, fun hlate => ?_⟩
  · have hsome : settled (.ok final) ≠ none := by
      intro hnone
      exact hfinal (Except.ok.inj (settled_eq_none_iff.mp hnone))
    obtain ⟨found, hfound⟩ := Option.ne_none_iff_exists'.mp hsome
    have honly : ∀ t b, settled (finishedAt time final t) = some b → b = found := by
      intro t b hb
      rcases Nat.lt_or_ge t time with hlt | hge
      · rw [settled_finishedAt_of_lt final hlt] at hb
        cases hb
      · rw [settled_finishedAt_of_le final hge, hfound] at hb
        exact (Option.some.inj hb).symm
    obtain ⟨i, hend, hread⟩ := exists_poll_of_prompt hprompt (timeout_le start tick)
      (show 13 < more + 14 by omega) honly
      (fun t ht => (settled_finishedAt_of_le final ht).trans hfound) (by omega) hearly
    obtain rfl := Option.some.inj (hpoll.symm.trans hend)
    exact ⟨hfound.symm, hread⟩
  · refine poll_answer_of_late hprompt (timeout_le start tick) (by omega) (fun t ht => ?_) hpoll
    exact settled_finishedAt_of_lt final (ht.trans_le hlate)

/-- Rounds that waste no time, with a clock that counts seconds. -/
def promptRounds : Rounds 0 1 where
  check i := 7 * i
  read i := 7 * i
  start_le := by simp
  check_le _ := Nat.le_refl _
  pause_le i := by omega

/-- A report that is finished after 80 seconds is handed out. -/
theorem checkStatus_of_prompt_released :
    (promptRounds.Prompt 0 ∧ 0 < timeout 1 ∧ CatvTaskStatusType.released ≠ .progress) ∧
      ∃ ending, checkStatus promptRounds (finishedAt 80 .released) 14 0 = some ending ∧
        (80 + 7 * 1 + 0 ≤ 0 + timeout 1 →
          ending.answer = settled (.ok .released) ∧
            promptRounds.read ending.round ≤ max 0 (80 + 7 * 1) + 2 * 0) ∧
        (0 + timeout 1 + 0 ≤ 80 → ending.answer = none) :=
  ⟨⟨⟨by decide, fun _ => Nat.le_refl _, fun i => by simp [promptRounds]; omega⟩, by decide,
    by decide⟩,
    checkStatus_of_prompt
      ⟨by decide, fun _ => Nat.le_refl _, fun i => by simp [promptRounds]; omega⟩
      (by decide) (by decide) 80 0⟩

end CatvService.ReportLink
