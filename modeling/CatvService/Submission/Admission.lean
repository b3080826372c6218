import CatvService.Submission.CsvUpload
import CatvService.Submission.Resubmission

/-!
# Admission and charge

`CatvUsageExceededThrottle` of `api/throttling.py` lets a submission through when the credits left
cover the price `catv`.  The three routes behind it tell the usage RPC what to charge: a submission
and its repetition the price `catv`, or `track` for a bounty track, and a CSV upload the price
`catv` for each record, after a check of its own.

The throttle does not know the price `track`.  `coversCharge_iff` says when the credits left cover
the charge nevertheless.
-/

namespace CatvService.Admission

open CatvRequest Dictionary PyText PyValue Resubmission

/-! ## The model -/

/-- The record behind the token of the request, `user_details`.  The credits are whole numbers, and
`none` stands for what the record lacks. -/
structure UserRecord where
  userId : ℕ
  userUid : Option String
  /-- `user_details['usage']['credits_left']` -/
  creditsLeft : Option ℤ
  /-- `user_details['usage']['credits_requirement']['catv']` -/
  catv : Option ℤ
  /-- `user_details['usage']['credits_requirement']['track']` -/
  track : Option ℤ

/-- `user_details['usage']['credits_requirement']`. -/
def UserRecord.creditsRequirement (user : UserRecord) : Obj :=
  (user.catv.map fun price => ("catv", Json.int price)).toList ++
    (user.track.map fun price => ("track", Json.int price)).toList

/-- What the single submissions read of the record. -/
def UserRecord.details (user : UserRecord) : Resubmission.UserDetails where
  userId := user.userId
  userUid := user.userUid
  creditsRequirement := some user.creditsRequirement

/-- `CatvUsageExceededThrottle.allow_request`: `false` stands for `Throttled`, which is also what
becomes of an exception. -/
def allowRequest (user : UserRecord) : Bool :=
  match user.creditsLeft, user.catv with
  | some creditsLeft, some creditsRequirement =>
      decide (creditsLeft ≠ 0) && decide (creditsRequirement ≤ creditsLeft)
  | _, _ => false

/-- The headers that the token is made of. -/
structure Headers where
  token : String
  timestamp : Option String

/-- A submission of the portal that has come past the throttles.  For `POST /catv`, `checksPassed`
says whether its parameters, its data and the access to LUNC are in order. -/
inductive PortalSubmission where
  | post (headers : Headers) (flags : Flags) (checksPassed : Bool)
  | put (headers : Headers) (flags : Flags) (obj : CatvRequestStatus Obj) (messageId : Uuid)
      (terraAccess : Bool)
  | csv (headers : Headers) (flags : Flags) (uuid4 : ℕ → Uuid)
      (records : List CsvUpload.CsvRecord) (db : Database CsvUpload.CsvRecord)

/-- Who asks. -/
def callerOf (user : UserRecord) (headers : Headers) : Caller :=
  ⟨user.details, headers.token, headers.timestamp⟩

/-- `credits_required` of a payload that is sent. -/
def creditsOf (payload : Except PyErr Obj) : Option ℤ :=
  match payload with
  | .error _ => none
  | .ok entries =>
      match Entries.get? "credits_required" entries with
      | some (.int credits) => some credits
      | _ => none

/-- The record and the request, as the CSV route reads them. -/
def csvRequest (user : UserRecord) (headers : Headers) (flags : Flags) :
    Option CsvUpload.CsvRequest := do
  let creditsLeft ← user.creditsLeft
  let creditsPerAddr ← user.catv
  let userUid ← user.userUid
  return {
    user := ⟨user.userId, userUid, creditsLeft, creditsPerAddr⟩
    token := headers.token
    timestamp := headers.timestamp.getD "None"
    isLegacy := flags.isLegacy
    isBountyTrack := flags.isBountyTrack }

/-- The total that the view sends to the usage RPC, and `none` if it sends nothing. -/
def totalCredits (user : UserRecord) : PortalSubmission → Option ℤ
  | .post headers flags checksPassed =>
      if checksPassed then
        creditsOf (submissionPayload (callerOf user headers) flags.isBountyTrack)
      else none
  | .put headers flags obj messageId terraAccess =>
      match put obj (callerOf user headers) flags messageId terraAccess with
      | .ok (some _) => creditsOf (resubmissionPayload (callerOf user headers) flags.isBountyTrack)
      | _ => none
  | .csv headers flags uuid4 records db => do
      let request ← csvRequest user headers flags
      let call ← (CsvUpload.post request uuid4 records db).usageCall
      return call.csvRecords * call.creditsRequired

/-- Whenever the throttle and the view let the submission through, the credits left cover what the
view sends to the usage RPC. -/
def CoversCharge (user : UserRecord) (submission : PortalSubmission) : Prop :=
  ∀ creditsLeft total, allowRequest user = true → user.creditsLeft = some creditsLeft →
    totalCredits user submission = some total → total ≤ creditsLeft

/-- `CATVReportView.put` comes past its own checks. -/
def putPasses (user : UserRecord) (headers : Headers) (flags : Flags)
    (obj : CatvRequestStatus Obj) (messageId : Uuid) (terraAccess : Bool) : Bool :=
  match put obj (callerOf user headers) flags messageId terraAccess with
  | .ok (some _) => true
  | _ => false

/-- The view comes to the call of the usage RPC as a single submission of a bounty track. -/
def sendsTrack (user : UserRecord) : PortalSubmission → Bool
  | .post _ flags checksPassed => (checksPassed && user.userUid.isSome) && flags.isBountyTrack
  | .put headers flags obj messageId terraAccess =>
      (putPasses user headers flags obj messageId terraAccess && user.userUid.isSome) &&
        flags.isBountyTrack
  | .csv _ _ _ _ _ => false

/-- The condition under which the charge is covered: the throttle turns the submission away, or it
is not charged as a bounty track, or the credits left cover the price `track` as well. -/
def TrackAffordable (user : UserRecord) (submission : PortalSubmission) : Prop :=
  allowRequest user = true → sendsTrack user submission = true →
    ∀ creditsLeft price, user.creditsLeft = some creditsLeft → user.track = some price →
      price ≤ creditsLeft

/-! ## The charges -/

section Charges

variable {user : UserRecord} {creditsLeft price : ℤ}

theorem catv_le_of_allowRequest (hallow : allowRequest user = true)
    (hleft : user.creditsLeft = some creditsLeft) (hprice : user.catv = some price) :
    price ≤ creditsLeft := by
  simp only [allowRequest, hleft, hprice, Bool.and_eq_true, decide_eq_true_eq] at hallow
  exact hallow.2

theorem get?_creditsRequirement (user : UserRecord) :
    Entries.get? "catv" user.creditsRequirement = user.catv.map Json.int ∧
      Entries.get? "track" user.creditsRequirement = user.track.map Json.int := by
  rcases user with ⟨-, -, -, catv, track⟩
  cases catv <;> cases track <;> exact ⟨rfl, rfl⟩

/-- `credits_required` of a single submission. -/
def priceOf (user : UserRecord) (isBountyTrack : Bool) : Option ℤ :=
  if isBountyTrack then user.track else user.catv

theorem creditsRequired_of_price {isBountyTrack : Bool}
    (hprice : priceOf user isBountyTrack = some price) :
    creditsRequired user.details isBountyTrack = .ok (.int price) := by
  obtain ⟨hcatv, htrack⟩ := get?_creditsRequirement user
  cases isBountyTrack with
  | true =>
      have htrackPrice : user.track = some price := hprice
      simp [creditsRequired, UserRecord.details, Json.item, htrack, htrackPrice]
  | false =>
      have hcatvPrice : user.catv = some price := hprice
      simp [creditsRequired, UserRecord.details, Json.item, hcatv, hcatvPrice]

theorem exists_creditsRequired_error {isBountyTrack : Bool}
    (hprice : priceOf user isBountyTrack = none) :
    ∃ e, creditsRequired user.details isBountyTrack = .error e := by
  obtain ⟨hcatv, htrack⟩ := get?_creditsRequirement user
  cases isBountyTrack with
  | true =>
      have htrackPrice : user.track = none := hprice
      simp [creditsRequired, UserRecord.details, Json.item, htrack, htrackPrice]
  | false =>
      have hcatvPrice : user.catv = none := hprice
      simp [creditsRequired, UserRecord.details, Json.item, hcatv, hcatvPrice]

/-- Both payloads carry the price that the flag selects, if the record has all they need. -/
theorem creditsOf_payload (user : UserRecord) (headers : Headers) (isBountyTrack : Bool) :
    creditsOf (submissionPayload (callerOf user headers) isBountyTrack) =
        (if user.userUid.isSome then priceOf user isBountyTrack else none) ∧
      creditsOf (resubmissionPayload (callerOf user headers) isBountyTrack) =
        if user.userUid.isSome then priceOf user isBountyTrack else none := by
  cases hprice : priceOf user isBountyTrack with
  | none =>
      obtain ⟨e, hcredits⟩ := exists_creditsRequired_error hprice
      simp [submissionPayload, resubmissionPayload, callerOf, hcredits, creditsOf, bind,
        Except.bind]
  | some price =>
      have hcredits := creditsRequired_of_price hprice
      cases huid : user.userUid with
      | none =>
          have hmissing : uidText user.details = .error (.keyError "user_uid") := by
            simp [uidText, UserRecord.details, huid]
          simp [submissionPayload, resubmissionPayload, callerOf, hcredits, hmissing, creditsOf,
            bind, Except.bind]
      | some uid =>
          have hpresent : uidText user.details = .ok uid := by
            simp [uidText, UserRecord.details, huid]
          simp [submissionPayload, resubmissionPayload, callerOf, hcredits, hpresent, creditsOf,
            bind, Except.bind, pure, Except.pure, Entries.get?]

theorem csv_total_le {headers : Headers} {flags : Flags} {uuid4 : ℕ → Uuid}
    {records : List CsvUpload.CsvRecord} {db : Database CsvUpload.CsvRecord} {total : ℤ}
    (hleft : user.creditsLeft = some creditsLeft)
    (htotal : totalCredits user (.csv headers flags uuid4 records db) = some total) :
    total ≤ creditsLeft := by
  obtain ⟨request, hrequest, hrest⟩ := Option.bind_eq_some_iff.mp htotal
  obtain ⟨call, hcall, hreturn⟩ := Option.bind_eq_some_iff.mp hrest
  obtain rfl : (call.csvRecords : ℤ) * call.creditsRequired = total := Option.some.inj hreturn
  have hrequestLeft : request.user.creditsLeft = creditsLeft := by
    obtain ⟨left, hleft', hrest⟩ := Option.bind_eq_some_iff.mp hrequest
    obtain ⟨price, -, hrest⟩ := Option.bind_eq_some_iff.mp hrest
    obtain ⟨uid, -, hreturn⟩ := Option.bind_eq_some_iff.mp hrest
    rw [hleft] at hleft'
    rw [← Option.some.inj hreturn, Option.some.inj hleft']
  rw [← hrequestLeft]
  exact CsvUpload.charge_le_creditsLeft hcall

theorem totalCredits_post (user : UserRecord) (headers : Headers) (flags : Flags)
    (checksPassed : Bool) :
    totalCredits user (.post headers flags checksPassed) =
      if checksPassed && user.userUid.isSome then priceOf user flags.isBountyTrack else none := by
  rw [totalCredits, (creditsOf_payload user headers _).1]
  cases checksPassed <;> rfl

theorem totalCredits_put (user : UserRecord) (headers : Headers) (flags : Flags)
    (obj : CatvRequestStatus Obj) (messageId : Uuid) (terraAccess : Bool) :
    totalCredits user (.put headers flags obj messageId terraAccess) =
      if putPasses user headers flags obj messageId terraAccess && user.userUid.isSome then
        priceOf user flags.isBountyTrack
      else none := by
  rw [totalCredits, putPasses, (creditsOf_payload user headers _).2]
  split <;> rfl

/-- A single submission that is no bounty track is charged the price that the throttle checks. -/
theorem price_le_of_not_track {passes isBountyTrack : Bool} {total : ℤ}
    (hallow : allowRequest user = true) (hleft : user.creditsLeft = some creditsLeft)
    (hsends : (passes && isBountyTrack) = false)
    (htotal : (if passes then priceOf user isBountyTrack else none) = some total) :
    total ≤ creditsLeft := by
  cases passes with
  | false => cases htotal
  | true =>
      rw [Bool.true_and] at hsends
      rw [if_pos rfl, hsends] at htotal
      exact catv_le_of_allowRequest hallow hleft htotal

theorem price_eq_track {passes isBountyTrack : Bool} (hsends : (passes && isBountyTrack) = true) :
    (if passes then priceOf user isBountyTrack else none) = user.track := by
  obtain ⟨rfl, rfl⟩ := Bool.and_eq_true_iff.mp hsends
  rfl

theorem totalCredits_of_sendsTrack {submission : PortalSubmission}
    (hsends : sendsTrack user submission = true) : totalCredits user submission = user.track := by
  cases submission with
  | post headers flags checksPassed =>
      rw [totalCredits_post]
      exact price_eq_track hsends
  | put headers flags obj messageId terraAccess =>
      rw [totalCredits_put]
      exact price_eq_track hsends
  | csv headers flags uuid4 records db => cases hsends

/-- Without a bounty track the throttle, or the check of the CSV route, covers the charge. -/
theorem total_le_of_not_sendsTrack {submission : PortalSubmission} {total : ℤ}
    (hsends : sendsTrack user submission = false) (hallow : allowRequest user = true)
    (hleft : user.creditsLeft = some creditsLeft)
    (htotal : totalCredits user submission = some total) : total ≤ creditsLeft := by
  cases submission with
  | post headers flags checksPassed =>
      rw [totalCredits_post] at htotal
      exact price_le_of_not_track hallow hleft hsends htotal
  | put headers flags obj messageId terraAccess =>
      rw [totalCredits_put] at htotal
      exact price_le_of_not_track hallow hleft hsends htotal
  | csv headers flags uuid4 records db => exact csv_total_le hleft htotal

end Charges

/-! ## When the charge is covered -/

/-- **Admission covers the charge** of every submission that the throttle and the view let through,
except of a single bounty track whose price `track` is above the credits left. -/
theorem coversCharge_iff (user : UserRecord) (submission : PortalSubmission) :
    CoversCharge user submission ↔ TrackAffordable user submission := by
  constructor
  · intro hcovers hallow hsends creditsLeft price hleft hprice
    have htotal : totalCredits user submission = some price := by
      rw [totalCredits_of_sendsTrack hsends, hprice]
    exact hcovers creditsLeft price hallow hleft htotal
  · intro haffordable creditsLeft total hallow hleft htotal
    cases hsends : sendsTrack user submission with
    | false => exact total_le_of_not_sendsTrack hsends hallow hleft htotal
    | true =>
        rw [totalCredits_of_sendsTrack hsends] at htotal
        exact haffordable hallow hsends creditsLeft total hleft htotal

/-- A record with one credit left, where a report costs 1 and a bounty track 3. -/
def oneCreditLeft : UserRecord where
  userId := 7
  userUid := some "u7"
  creditsLeft := some 1
  catv := some 1
  track := some 3

/-- A bounty track that costs 3 credits is let through with one credit left. -/
theorem not_coversCharge_oneCreditLeft :
    ¬ CoversCharge oneCreditLeft
      (.post ⟨"key", some "1700000000"⟩ ⟨none, some "true"⟩ true) := by
  intro hcovers
  have htotal : totalCredits oneCreditLeft
      (.post ⟨"key", some "1700000000"⟩ ⟨none, some "true"⟩ true) = some 3 := by decide +kernel
  exact absurd (hcovers 1 3 rfl rfl htotal) (by decide)

end CatvService.Admission
