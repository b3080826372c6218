import CatvService.Library.Expiring
import CatvService.Library.Text
import CatvService.Library.Value
import Mathlib.Logic.Function.Basic

/-!
# Sealed tokens and sessions

`api/multitoken`: `decrypt_message`, `MultiToken.get_user_from_key`, `CachedTokenAuthentication` and
`_reset_token_ttl`, with the permission `IsCATVAuthenticated` that every view asks for.

A request carries its token sealed together with a time stamp, and the same time stamp once more in
the open.  Two caches, which another service fills at the sign-in, have an entry under the token;
a request that authenticates gives both of them another time to expire.

What this amounts to is a table of sessions, each with a deadline that moves (`specStep`).
`refines_run`: with the settings of the deployment, the caches are such a table after any run, and a
request is let in exactly when the session of its token is open (`specAdmits`).  Two facts about all
runs follow: a session that was idle for the time to expire is closed until its user signs in again
(`not_admitted_of_idle`), and a sealed message is good for the time around its own stamp only,
whatever stamp it is sent with (`stamp_of_admitted`).

The permission reads the token again, and it does not look at the keyword in front of it.  So a
request with another keyword is let in too, but it does not move the deadline.
-/

namespace CatvService.Auth

open Dictionary Expiring PyText PyValue

/-! ## Sealed tokens -/

structure Settings where
  decryptTimestampLeeway : ℤ
  tokenExpireTime : Option ℕ
  tokenOverwriteNoneTtl : Bool
  tokenResetTtlOnUserLogIn : Bool

/-- What the service gets from elsewhere: two tables of the Unicode database, and the cipher with
its key. -/
structure Codec where
  isNumeric : Char → Bool
  decimal : Char → Option ℕ
  /-- `CIPHER.decrypt(base64.b64decode(encrypted_msg)).decode("utf-8")`; each of the steps can
  raise. -/
  decrypt : String → Option String

/-- `s.isnumeric()`. -/
def Codec.isnumeric (codec : Codec) (s : String) : Bool :=
  decide (s ≠ "") && s.toList.all codec.isNumeric

/-- `int(s)` of a numeric text: there are numeric characters that are no decimal digits. -/
def Codec.toInt (codec : Codec) (s : String) : Option ℕ :=
  (s.toList.mapM codec.decimal).map fun digits => digits.foldl (fun n digit => 10 * n + digit) 0

/-- The last time stamp of the year 9999; `datetime.utcfromtimestamp` raises behind it. -/
@[irreducible] def maxTimestamp : ℕ :=
  253402300799

/-- One second, in the microseconds that the clock counts. -/
@[irreducible] def second : ℕ :=
  1000000

/-- `decrypt_message`. -/
def decryptMessage (settings : Settings) (codec : Codec) (now : ℕ) (encryptedMsg : String)
    (timestamp : Option String) : Option String := do
  let timestamp ← timestamp
  if ¬ codec.isnumeric timestamp then none
  else
    let sent ← codec.toInt timestamp
    if sent > maxTimestamp then none
    else if |(now : ℤ) - sent * second| > settings.decryptTimestampLeeway * second then none
    else
      let plainTs ← codec.decrypt encryptedMsg
      match split "\n" plainTs with
      | [token, ts] =>
          if ¬ codec.isnumeric ts then none
          else if codec.toInt ts ≠ some sent then none
          else some token
      | _ => none

/-- The headers of a request: the pieces of `Authorization` between the blanks, where a piece that
is no UTF-8 has no text, and `X-Authorization-Timestamp`. -/
structure AuthRequest where
  authorization : List (Option String)
  timestamp : Option String

/-- The `verified_token` of a request. -/
def verifiedToken (settings : Settings) (codec : Codec) (now : ℕ) (request : AuthRequest) :
    Option String := do
  let piece ← request.authorization[1]?
  let token ← piece
  decryptMessage settings codec now token request.timestamp

/-! ## Sessions -/

/-- `TOKENS_CACHE` and `USER_CACHE`; a user is what the JSON text of the entry reads as. -/
structure Caches where
  tokens : Store String String
  users : Store String Json

/-- `expire` and `persist`, on both caches. -/
def Caches.retime (caches : Caches) (now : ℕ) (key : String) (expiresAt : Option ℕ) : Caches :=
  ⟨caches.tokens.retime now key expiresAt, caches.users.retime now key expiresAt⟩

/-- `MultiToken.get_user_from_key`. -/
def getUserFromKey (settings : Settings) (codec : Codec) (caches : Caches) (now : ℕ)
    (request : AuthRequest) : Option (Json × String) := do
  let verified ← verifiedToken settings codec now request
  let user ← caches.users.get now verified
  return (user, verified)

/-- `MultiToken._reset_token_ttl`. -/
def resetTokenTtl (settings : Settings) (caches : Caches) (now : ℕ) (key : String) : Caches :=
  -- `ttl` is `None` for an entry that does not expire, and 0 for one that is not there
  let persists := (caches.tokens.peek now key).any fun entry => entry.expiresAt.isNone
  match persists, settings.tokenExpireTime with
  | true, some timeout =>
      if settings.tokenOverwriteNoneTtl then
        caches.retime now key (some (now + timeout * second))
      else caches
  | true, none => caches
  | false, none => caches.retime now key none
  | false, some timeout => caches.retime now key (some (now + timeout * second))

/-- `bool(user[key])`; a key that is not there raises, which is as good as false everywhere. -/
def flag (user : Json) (key : String) : Bool :=
  match user.item key with
  | .ok value => value.truthy
  | .error _ => false

/-- What `CachedTokenAuthentication.authenticate` returns: nothing, or the user; or it raises. -/
inductive Authentication where
  | anonymous
  | authenticated (user : Json) (token : String)
  | refused

/-- `authenticate_credentials`. -/
def authenticateCredentials (settings : Settings) (codec : Codec) (caches : Caches) (now : ℕ)
    (request : AuthRequest) : Caches × Authentication :=
  match getUserFromKey settings codec caches now request with
  | none => (caches, .refused)
  | some (user, token) =>
      let caches :=
        if settings.tokenResetTtlOnUserLogIn then resetTokenTtl settings caches now token
        else caches
      if flag user "user_id" then (caches, .authenticated user token) else (caches, .refused)

/-- `auth[0].lower() == self.keyword.lower().encode()`; these are bytes, which have the case of
ASCII. -/
def isKeyword (piece : Option String) : Bool :=
  decide (piece.map (fun text => text.toList.map Char.toLower) = some "token".toList)

/-- `authenticate`. -/
def authenticate (settings : Settings) (codec : Codec) (caches : Caches) (now : ℕ)
    (request : AuthRequest) : Caches × Authentication :=
  match request.authorization with
  | [] => (caches, .anonymous)
  | keyword :: pieces =>
      if ¬ isKeyword keyword then (caches, .anonymous)
      else
        match pieces with
        | [some _] => authenticateCredentials settings codec caches now request
        | _ => (caches, .refused)

/-- `IsCATVAuthenticated.has_permission`; whatever raises is no permission. -/
def hasPermission (settings : Settings) (codec : Codec) (caches : Caches) (now : ℕ)
    (request : AuthRequest) : Option (Json × String) :=
  (getUserFromKey settings codec caches now request).filter fun (user, _) =>
    user.truthy && flag user "is_authenticated"

/-- A request on its way to a view: what the view gets as its user, if it is let in. -/
def handle (settings : Settings) (codec : Codec) (caches : Caches) (now : ℕ)
    (request : AuthRequest) : Caches × Option (Json × String) :=
  match authenticate settings codec caches now request with
  | (caches, .refused) => (caches, none)
  | (caches, _) => (caches, hasPermission settings codec caches now request)

/-! ## Runs -/

/-- What happens to the caches: time passes, the service of the accounts writes or deletes the
entries of a token, and requests come in. -/
inductive Action where
  | tick (microseconds : ℕ)
  | signIn (token : String) (user : Json) (owner : String) (timeout : Option ℕ)
  | signOut (token : String)
  | request (request : AuthRequest)

structure State where
  now : ℕ
  caches : Caches

def State.initial : State :=
  ⟨0, Dict.empty, Dict.empty⟩

/-- The time at which an entry that is written now expires. -/
def expiry (now : ℕ) (timeout : Option ℕ) : Option ℕ :=
  timeout.map fun timeout => now + timeout * second

def step (settings : Settings) (codec : Codec) (state : State) : Action → State
  | .tick microseconds => { state with now := state.now + microseconds }
  | .signIn token user owner timeout =>
      { state with caches :=
          ⟨state.caches.tokens.put token owner (expiry state.now timeout),
            state.caches.users.put token user (expiry state.now timeout)⟩ }
  | .signOut token =>
      { state with caches := ⟨state.caches.tokens.delete token, state.caches.users.delete token⟩ }
  | .request request =>
      { state with caches := (handle settings codec state.caches state.now request).1 }

def run (settings : Settings) (codec : Codec) (state : State) (actions : List Action) : State :=
  actions.foldl (step settings codec) state

/-- What a request is let in as. -/
def State.admits (settings : Settings) (codec : Codec) (state : State) (request : AuthRequest) :
    Option (Json × String) :=
  (handle settings codec state.caches state.now request).2

/-! ## What the sessions are -/

/-- The settings of the deployment: the time to expire is always there, and both switches are on. -/
structure Deployment where
  tokenExpireTime : ℕ
  positive : 0 < tokenExpireTime
  leeway : ℤ

def Deployment.settings (deployment : Deployment) : Settings :=
  ⟨deployment.leeway, some deployment.tokenExpireTime, true, true⟩

/-- A session for each token: the user, and the deadline after which it is closed. -/
structure SpecState where
  now : ℕ
  sessions : String → Option (Entry Json)

/-- The session of a token, if it is open. -/
def SpecState.openSession (state : SpecState) (token : String) : Option (Entry Json) :=
  (state.sessions token).filter fun session => session.live state.now

/-- The keyword is there, and a token and nothing else behind it. -/
def AuthRequest.wellFormed (request : AuthRequest) : Bool :=
  request.authorization.length = 2 && request.authorization.head?.any isKeyword

/-- The keyword is there. -/
def AuthRequest.hasKeyword (request : AuthRequest) : Bool :=
  request.authorization.head?.any isKeyword

variable (deployment : Deployment) (codec : Codec)

/-- Time passes, a sign-in opens a session, a sign-out removes it, and a well-formed request with a
token moves the deadline of its session if that is still open. -/
def specStep (state : SpecState) : Action → SpecState
  | .tick microseconds => { state with now := state.now + microseconds }
  | .signIn token user _ timeout =>
      { state with sessions :=
          Function.update state.sessions token (some ⟨user, expiry state.now timeout⟩) }
  | .signOut token => { state with sessions := Function.update state.sessions token none }
  | .request request =>
      match verifiedToken deployment.settings codec state.now request with
      | none => state
      | some token =>
          match state.openSession token with
          | none => state
          | some session =>
              let renewed : Entry Json :=
                ⟨session.value, expiry state.now (some deployment.tokenExpireTime)⟩
              if request.wellFormed then
                { state with sessions := Function.update state.sessions token (some renewed) }
              else state

/-- A request is let in with an open session of an authenticated user; if the keyword is there, it
has to be well formed and the user must have an id. -/
def specAdmits (state : SpecState) (request : AuthRequest) : Option (Json × String) := do
  let token ← verifiedToken deployment.settings codec state.now request
  let session ← state.openSession token
  if session.value.truthy && flag session.value "is_authenticated" &&
      (!request.hasKeyword || request.wellFormed && flag session.value "user_id") then
    some (session.value, token)
  else none

def specRun (state : SpecState) (actions : List Action) : SpecState :=
  actions.foldl (specStep deployment codec) state

/-- The sessions that the caches stand for. -/
def State.sessions (state : State) : SpecState :=
  ⟨state.now, state.caches.users.get?⟩

/-! ## The caches are the sessions -/

variable {deployment} {codec} {state : State} {request : AuthRequest} {token : String}

theorem openSession_sessions (state : State) (token : String) :
    state.sessions.openSession token = state.caches.users.peek state.now token := rfl

theorem resetTokenTtl_settings (caches : Caches) (now : ℕ) (key : String) :
    resetTokenTtl deployment.settings caches now key =
      caches.retime now key (expiry now (some deployment.tokenExpireTime)) := by
  unfold resetTokenTtl
  simp only [Deployment.settings, if_true, expiry, Option.map_some]
  split
  · rename_i timeout _ htimeout
    rw [Option.some.inj htimeout]
  · rename_i hnone
    cases hnone
  · rename_i hnone
    cases hnone
  · rename_i timeout _ htimeout
    rw [Option.some.inj htimeout]

theorem getUserFromKey_eq (deployment : Deployment) (codec : Codec) (state : State)
    (request : AuthRequest) :
    getUserFromKey deployment.settings codec state.caches state.now request =
      (verifiedToken deployment.settings codec state.now request).bind fun token =>
        (state.sessions.openSession token).map fun session => (session.value, token) := by
  unfold getUserFromKey
  cases verifiedToken deployment.settings codec state.now request with
  | none => rfl
  | some token =>
      simp only [Option.bind_eq_bind, Option.bind_some, openSession_sessions, Store.get]
      cases state.caches.users.peek state.now token with
      | none => rfl
      | some session => rfl

theorem getUserFromKey_eq_none
    (hnone : getUserFromKey deployment.settings codec state.caches state.now request = none) :
    (verifiedToken deployment.settings codec state.sessions.now request).bind
      state.sessions.openSession = none := by
  rw [getUserFromKey_eq] at hnone
  have hnow : state.sessions.now = state.now := rfl
  rw [hnow]
  cases hverified : verifiedToken deployment.settings codec state.now request with
  | none => rfl
  | some token =>
      rw [hverified, Option.bind_some, Option.map_eq_none_iff] at hnone
      exact hnone

/-! ### What authenticates -/

theorem authenticate_of_not_hasKeyword (hkeyword : request.hasKeyword = false)
    (settings : Settings) (caches : Caches) (now : ℕ) :
    authenticate settings codec caches now request = (caches, .anonymous) := by
  unfold authenticate
  cases hauthorization : request.authorization with
  | nil => rfl
  | cons keyword pieces =>
      have hnot : ¬ isKeyword keyword = true := by
        simpa [AuthRequest.hasKeyword, hauthorization] using hkeyword
      exact if_pos hnot

theorem authenticate_of_not_wellFormed (hkeyword : request.hasKeyword = true)
    (hform : request.wellFormed = false) (settings : Settings) (caches : Caches) (now : ℕ) :
    authenticate settings codec caches now request = (caches, .refused) := by
  unfold authenticate
  cases hauthorization : request.authorization with
  | nil => simp [AuthRequest.hasKeyword, hauthorization] at hkeyword
  | cons keyword pieces =>
      have hfirst : isKeyword keyword = true := by
        simpa [AuthRequest.hasKeyword, hauthorization] using hkeyword
      have hlength : pieces.length ≠ 1 := by
        simpa [AuthRequest.wellFormed, hauthorization, hfirst] using hform
      simp only [hfirst, not_true_eq_false, if_false]
      split
      · simp at hlength
      · rfl

/-- A token that is no text is refused as one that cannot be opened. -/
theorem authenticate_of_wellFormed (hform : request.wellFormed = true) (settings : Settings)
    (caches : Caches) (now : ℕ) :
    authenticate settings codec caches now request =
      authenticateCredentials settings codec caches now request := by
  unfold authenticate
  simp only [AuthRequest.wellFormed, Bool.and_eq_true, decide_eq_true_eq] at hform
  obtain ⟨hlength, hfirst⟩ := hform
  obtain ⟨keyword, piece, hauthorization⟩ := List.length_eq_two.mp hlength
  rw [hauthorization] at hfirst ⊢
  have hkeyword : isKeyword keyword = true := by simpa using hfirst
  simp only [hkeyword, not_true_eq_false, if_false]
  cases piece with
  | some text => rfl
  | none =>
      have hnone : getUserFromKey settings codec caches now request = none := by
        simp [getUserFromKey, verifiedToken, hauthorization]
      simp only [authenticateCredentials, hnone]

/-! ### One request -/

/-- The caches after a request whose session is open and moves. -/
def State.renew (deployment : Deployment) (state : State) (token : String) : State :=
  { state with caches :=
      state.caches.retime state.now token (expiry state.now (some deployment.tokenExpireTime)) }

theorem openSession_renew (state : State) (token : String) :
    (state.renew deployment token).sessions.openSession token =
      (state.sessions.openSession token).map fun session =>
        ⟨session.value, expiry state.now (some deployment.tokenExpireTime)⟩ := by
  have hpositive := deployment.positive
  have hlater : state.now < state.now + deployment.tokenExpireTime * second := by
    have hsecond : 0 < second := by
      unfold second
      decide
    have hproduct := Nat.mul_pos hpositive hsecond
    omega
  exact peek_retime_self hlater

/-- The session of the token moves, and no other one. -/
theorem sessions_renew {session : Entry Json}
    (hopen : state.sessions.openSession token = some session) :
    (state.renew deployment token).sessions.sessions =
      Function.update state.sessions.sessions token
        (some ⟨session.value, expiry state.now (some deployment.tokenExpireTime)⟩) := by
  obtain ⟨hget, hlive⟩ := peek_eq_some_iff.mp hopen
  funext other
  rw [Function.update_apply]
  refine (get?_retime _).trans ?_
  by_cases hsame : token = other
  · subst hsame
    have hnow : session.live state.now = true := hlive
    rw [if_pos rfl, if_pos rfl, hget, Option.map_some, if_pos hnow]
  · rw [if_neg hsame, if_neg (Ne.symm hsame)]
    rfl

theorem authenticateCredentials_of_none
    (hnone : getUserFromKey deployment.settings codec state.caches state.now request = none) :
    authenticateCredentials deployment.settings codec state.caches state.now request =
      (state.caches, .refused) := by
  simp only [authenticateCredentials, hnone]

theorem authenticateCredentials_of_some {user : Json}
    (hsome : getUserFromKey deployment.settings codec state.caches state.now request =
      some (user, token)) :
    authenticateCredentials deployment.settings codec state.caches state.now request =
      ((state.renew deployment token).caches,
        if flag user "user_id" then .authenticated user token else .refused) := by
  simp only [authenticateCredentials, hsome, resetTokenTtl_settings]
  have hreset : deployment.settings.tokenResetTtlOnUserLogIn = true := rfl
  rw [if_pos hreset]
  split <;> rfl

theorem hasPermission_eq (deployment : Deployment) (codec : Codec) (state : State)
    (request : AuthRequest) :
    hasPermission deployment.settings codec state.caches state.now request =
      ((verifiedToken deployment.settings codec state.now request).bind fun token =>
        (state.sessions.openSession token).map fun session => (session.value, token)).filter
          fun found => found.1.truthy && flag found.1 "is_authenticated" := by
  rw [hasPermission, getUserFromKey_eq]

theorem specAdmits_eq (state : SpecState) (request : AuthRequest) :
    specAdmits deployment codec state request =
      ((verifiedToken deployment.settings codec state.now request).bind fun token =>
        (state.openSession token).map fun session => (session.value, token)).filter fun found =>
          found.1.truthy && flag found.1 "is_authenticated" &&
            (!request.hasKeyword || request.wellFormed && flag found.1 "user_id") := by
  unfold specAdmits
  cases verifiedToken deployment.settings codec state.now request with
  | none => rfl
  | some token =>
      simp only [Option.bind_eq_bind, Option.bind_some]
      cases state.openSession token with
      | none => rfl
      | some session => rw [Option.bind_some, Option.map_some, Option.filter_some]

theorem hasKeyword_of_wellFormed (hform : request.wellFormed = true) :
    request.hasKeyword = true :=
  (Bool.and_eq_true _ _ ▸ hform).2

theorem specStep_eq_self {state : SpecState}
    (hnone : request.wellFormed = true →
      (verifiedToken deployment.settings codec state.now request).bind state.openSession = none) :
    specStep deployment codec state (.request request) = state := by
  simp only [specStep]
  cases hverified : verifiedToken deployment.settings codec state.now request with
  | none => rfl
  | some token =>
      cases hopen : state.openSession token with
      | none => simp only [hopen]
      | some session =>
          simp only [hopen]
          refine if_neg fun hform => ?_
          have hclosed := hnone hform
          rw [hverified, Option.bind_some, hopen] at hclosed
          cases hclosed

theorem specStep_of_open {state : SpecState} {session : Entry Json}
    (hform : request.wellFormed = true)
    (hverified : verifiedToken deployment.settings codec state.now request = some token)
    (hopen : state.openSession token = some session) :
    specStep deployment codec state (.request request) =
      ⟨state.now, Function.update state.sessions token
        (some ⟨session.value, expiry state.now (some deployment.tokenExpireTime)⟩)⟩ := by
  simp only [specStep, hverified, hopen]
  exact if_pos hform

theorem getUserFromKey_eq_some {user : Json}
    (hfound : getUserFromKey deployment.settings codec state.caches state.now request =
      some (user, token)) :
    verifiedToken deployment.settings codec state.sessions.now request = some token ∧
      ∃ session, state.sessions.openSession token = some session ∧ session.value = user := by
  rw [getUserFromKey_eq] at hfound
  obtain ⟨verified, hverified, hsession⟩ := Option.bind_eq_some_iff.mp hfound
  obtain ⟨session, hopen, heq⟩ := Option.map_eq_some_iff.mp hsession
  obtain ⟨rfl, rfl⟩ := Prod.mk.inj heq
  exact ⟨hverified, session, hopen, rfl⟩

/-- A well-formed request whose session is open: it moves, and the permission is asked for with the
caches in which it has moved. -/
theorem handle_of_open {session : Entry Json} (hform : request.wellFormed = true)
    (hverified : verifiedToken deployment.settings codec state.sessions.now request = some token)
    (hopen : state.sessions.openSession token = some session) :
    handle deployment.settings codec state.caches state.now request =
      ((state.renew deployment token).caches,
        if flag session.value "user_id" then
          if session.value.truthy && flag session.value "is_authenticated" then
            some (session.value, token)
          else none
        else none) := by
  have hnow : state.sessions.now = state.now := rfl
  have hfound : getUserFromKey deployment.settings codec state.caches state.now request =
      some (session.value, token) := by
    rw [getUserFromKey_eq, ← hnow, hverified, Option.bind_some, hopen, Option.map_some]
  have hpermission := hasPermission_eq deployment codec
    (state.renew deployment token) request
  have hlater : (state.renew deployment token).now = state.sessions.now := rfl
  rw [hlater, hverified, Option.bind_some, openSession_renew, hopen, Option.map_some,
    Option.map_some, Option.filter_some] at hpermission
  unfold handle
  rw [authenticate_of_wellFormed hform, authenticateCredentials_of_some hfound]
  by_cases hid : flag session.value "user_id" = true
  · rw [if_pos hid, if_pos hid]
    exact congrArg _ hpermission
  · rw [if_neg hid, if_neg hid]

/-- **A request does to the caches what it does to the sessions**, and is let in as they say. -/
theorem handle_eq (state : State) (request : AuthRequest) :
    state.admits deployment.settings codec request =
        specAdmits deployment codec state.sessions request ∧
      (step deployment.settings codec state (.request request)).sessions =
        specStep deployment codec state.sessions (.request request) := by
  rw [specAdmits_eq]
  simp only [State.admits, step]
  cases hkeyword : request.hasKeyword with
  | false =>
      have hform : ¬ request.wellFormed = true := fun hform =>
        Bool.false_ne_true (hkeyword.symm.trans (hasKeyword_of_wellFormed hform))
      rw [handle, authenticate_of_not_hasKeyword hkeyword,
        specStep_eq_self fun hwell => absurd hwell hform]
      simp only [hasPermission_eq, Bool.not_false, Bool.true_or, Bool.and_true]
      exact ⟨rfl, trivial⟩
  | true =>
      cases hform : request.wellFormed with
      | false =>
          rw [handle, authenticate_of_not_wellFormed hkeyword hform, specStep_eq_self fun hwell =>
            absurd (hform.symm.trans hwell) Bool.false_ne_true]
          simp only [Bool.not_true, Bool.false_or, Bool.false_and, Bool.and_false]
          exact ⟨(Option.filter_eq_none_iff.mpr fun _ _ => Bool.false_ne_true).symm, trivial⟩
      | true =>
          cases hfound : getUserFromKey deployment.settings codec state.caches state.now
            request with
          | none =>
              have hstep : specStep deployment codec state.sessions (.request request) =
                  state.sessions := specStep_eq_self fun _ => getUserFromKey_eq_none hfound
              have hfind := getUserFromKey_eq deployment codec state request
              rw [handle, authenticate_of_wellFormed hform, authenticateCredentials_of_none hfound,
                hstep]
              rw [hfound] at hfind
              exact ⟨(congrArg (Option.filter _) hfind).symm ▸ rfl, rfl⟩
          | some found =>
              obtain ⟨user, token⟩ := found
              obtain ⟨hverified, session, hopen, rfl⟩ := getUserFromKey_eq_some hfound
              rw [handle_of_open hform hverified hopen, specStep_of_open hform hverified hopen,
                hverified, Option.bind_some, hopen, Option.map_some, Option.filter_some]
              refine ⟨?_, congrArg (SpecState.mk state.now) (sessions_renew hopen)⟩
              cases flag session.value "user_id" with
              | true => simp
              | false => simp

theorem sessions_step (state : State) (action : Action) :
    (step deployment.settings codec state action).sessions =
      specStep deployment codec state.sessions action := by
  cases action with
  | tick microseconds => rfl
  | signIn token user owner timeout =>
      refine congrArg (SpecState.mk state.now) (funext fun other => ?_)
      rw [Function.update_apply]
      refine (get?_put user (expiry state.now timeout)).trans ?_
      by_cases hsame : token = other
      · rw [if_pos hsame, if_pos hsame.symm]
        rfl
      · rw [if_neg hsame, if_neg (Ne.symm hsame)]
        rfl
  | signOut token =>
      refine congrArg (SpecState.mk state.now) (funext fun other => ?_)
      rw [Function.update_apply]
      refine get?_delete.trans ?_
      by_cases hsame : token = other
      · rw [if_pos hsame, if_pos hsame.symm]
      · rw [if_neg hsame, if_neg (Ne.symm hsame)]
        rfl
  | request request => exact (handle_eq state request).2

theorem sessions_run (state : State) (actions : List Action) :
    (run deployment.settings codec state actions).sessions =
      specRun deployment codec state.sessions actions := by
  induction actions generalizing state with
  | nil => rfl
  | cons action actions ih =>
      rw [run, List.foldl_cons, specRun, List.foldl_cons, ← sessions_step]
      exact ih _

theorem admits_run (state : State) (actions : List Action) (request : AuthRequest) :
    (run deployment.settings codec state actions).admits deployment.settings codec request =
      specAdmits deployment codec (specRun deployment codec state.sessions actions) request := by
  rw [← sessions_run]
  exact (handle_eq _ request).1

/-- **The caches are a table of sessions**: after any run a request is let in exactly as the session
of its token says, and the sessions are what the run has made of them. -/
theorem refines_run (deployment : Deployment) (codec : Codec) (state : State)
    (actions : List Action) :
    (run deployment.settings codec state actions).sessions =
        specRun deployment codec state.sessions actions ∧
      ∀ request, (run deployment.settings codec state actions).admits deployment.settings codec
          request =
        specAdmits deployment codec (specRun deployment codec state.sessions actions) request :=
  ⟨sessions_run state actions, admits_run state actions⟩

/-! ## Sealed messages -/

/-- A message is opened at times around its own stamp only. -/
theorem decryptMessage_eq_some {now : ℕ} {message token : String} {timestamp : Option String}
    (hopened : decryptMessage deployment.settings codec now message timestamp = some token) :
    ∃ plain ts sent, codec.decrypt message = some plain ∧ split "\n" plain = [token, ts] ∧
      codec.toInt ts = some sent ∧
      |(now : ℤ) - sent * second| ≤ deployment.leeway * second := by
  obtain ⟨header, -, hopened⟩ := Option.bind_eq_some_iff.mp hopened
  split at hopened
  · cases hopened
  · obtain ⟨sent, -, hopened⟩ := Option.bind_eq_some_iff.mp hopened
    split at hopened
    · cases hopened
    · split at hopened
      · cases hopened
      · rename_i hleeway
        obtain ⟨plain, hplain, hopened⟩ := Option.bind_eq_some_iff.mp hopened
        split at hopened
        · rename_i first ts hitems
          split at hopened
          · cases hopened
          · split at hopened
            · cases hopened
            · rename_i hsent
              obtain rfl := Option.some.inj hopened
              exact ⟨plain, ts, sent, hplain, hitems, not_not.mp hsent, not_lt.mp hleeway⟩
        · cases hopened

theorem specAdmits_eq_some {state : SpecState} {user : Json}
    (hadmitted : specAdmits deployment codec state request = some (user, token)) :
    verifiedToken deployment.settings codec state.now request = some token ∧
      ∃ session, state.openSession token = some session ∧ session.value = user := by
  rw [specAdmits_eq] at hadmitted
  obtain ⟨hfound, -⟩ := Option.filter_eq_some_iff.mp hadmitted
  obtain ⟨verified, hverified, hsession⟩ := Option.bind_eq_some_iff.mp hfound
  obtain ⟨session, hopen, heq⟩ := Option.map_eq_some_iff.mp hsession
  obtain ⟨rfl, rfl⟩ := Prod.mk.inj heq
  exact ⟨hverified, session, hopen, rfl⟩

/-- **A message is good for one token and for the time around one stamp**, in every state of the
caches and whatever else the request carries. -/
theorem stamp_of_admitted (deployment : Deployment) (codec : Codec) (message : String) :
    ∃ (own : String) (stamp : ℕ), ∀ state request user token,
      request.authorization[1]? = some (some message) →
      State.admits deployment.settings codec state request = some (user, token) →
        token = own ∧ |(state.now : ℤ) - stamp * second| ≤ deployment.leeway * second := by
  have hopened : ∀ state request user token, request.authorization[1]? = some (some message) →
      State.admits deployment.settings codec state request = some (user, token) →
        decryptMessage deployment.settings codec state.now message request.timestamp =
          some token := by
    intro state request user token hcarries hadmitted
    rw [(handle_eq state request).1] at hadmitted
    have hverified := (specAdmits_eq_some hadmitted).1
    simp only [verifiedToken, hcarries] at hverified
    exact hverified
  by_cases hitems : ∃ plain own ts stamp, codec.decrypt message = some plain ∧
      split "\n" plain = [own, ts] ∧ codec.toInt ts = some stamp
  · obtain ⟨plain, own, ts, stamp, hplain, hsplit, hstamp⟩ := hitems
    refine ⟨own, stamp, fun state request user token hcarries hadmitted => ?_⟩
    obtain ⟨plain', ts', stamp', hplain', hsplit', hstamp', hwithin⟩ :=
      decryptMessage_eq_some (hopened state request user token hcarries hadmitted)
    obtain rfl : plain = plain' := Option.some.inj (hplain.symm.trans hplain')
    obtain ⟨rfl, rfl⟩ : own = token ∧ ts = ts' := by simpa using hsplit.symm.trans hsplit'
    obtain rfl : stamp = stamp' := Option.some.inj (hstamp.symm.trans hstamp')
    exact ⟨rfl, hwithin⟩
  · refine ⟨"", 0, fun state request user token hcarries hadmitted => ?_⟩
    obtain ⟨plain, ts, stamp, hplain, hsplit, hstamp, -⟩ :=
      decryptMessage_eq_some (hopened state request user token hcarries hadmitted)
    exact absurd ⟨plain, token, ts, stamp, hplain, hsplit, hstamp⟩ hitems

/-! ## Idle sessions -/

/-- The time that passes in an action. -/
def Action.elapsed : Action → ℕ
  | .tick microseconds => microseconds
  | _ => 0

def elapsed (actions : List Action) : ℕ :=
  (actions.map Action.elapsed).sum

/-- The action opens a session of the token. -/
def Action.SignsIn (token : String) : Action → Prop
  | .signIn other _ _ _ => other = token
  | _ => False

/-- The action opens a session that closes by itself, as one that is used does. -/
def Action.SignsInWithin (limit : ℕ) (token : String) : Action → Prop
  | .signIn other _ _ timeout => other = token → ∃ seconds ≤ limit, timeout = some seconds
  | _ => True

/-- The action is a request for the token, whenever it is made. -/
def Action.Uses (settings : Settings) (codec : Codec) (token : String) : Action → Prop
  | .request request => ∃ now, verifiedToken settings codec now request = some token
  | _ => False

/-- The deadline of the session, if there is one, is at most so far ahead. -/
def SpecState.ClosesWithin (state : SpecState) (seconds : ℕ) (token : String) : Prop :=
  ∀ session, state.sessions token = some session →
    ∃ deadline ≤ state.now + seconds * second, session.expiresAt = some deadline

/-- What a request does: nothing, or it moves the deadline of an open session. -/
theorem specStep_request_cases (deployment : Deployment) (codec : Codec) (state : SpecState)
    (request : AuthRequest) :
    specStep deployment codec state (.request request) = state ∨
      ∃ verified session, verifiedToken deployment.settings codec state.now request =
          some verified ∧ state.openSession verified = some session ∧
        specStep deployment codec state (.request request) =
          ⟨state.now, Function.update state.sessions verified
            (some ⟨session.value, expiry state.now (some deployment.tokenExpireTime)⟩)⟩ := by
  cases hverified : verifiedToken deployment.settings codec state.now request with
  | none =>
      refine .inl (specStep_eq_self fun _ => ?_)
      rw [hverified]
      rfl
  | some verified =>
      cases hopen : state.openSession verified with
      | none =>
          refine .inl (specStep_eq_self fun _ => ?_)
          rw [hverified]
          exact hopen
      | some session =>
          cases hform : request.wellFormed with
          | false =>
              exact .inl (specStep_eq_self fun hwell =>
                absurd (hform.symm.trans hwell) Bool.false_ne_true)
          | true =>
              have hmoved := specStep_of_open hform hverified hopen
              exact .inr ⟨verified, session, rfl, hopen, hmoved⟩

theorem openSession_specStep_eq_none {state : SpecState} {action : Action}
    (hclosed : state.openSession token = none) (haction : ¬ action.SignsIn token) :
    (specStep deployment codec state action).openSession token = none := by
  unfold SpecState.openSession at hclosed ⊢
  rw [Option.filter_eq_none_iff] at hclosed ⊢
  cases action with
  | tick microseconds =>
      intro session hsession hlive
      exact hclosed session hsession (live_of_live hlive (Nat.le_add_right _ _))
  | signIn other user owner timeout =>
      simp only [specStep, Function.update_of_ne (Ne.symm haction)]
      exact hclosed
  | signOut other =>
      simp only [specStep, Function.update_apply]
      split
      · exact fun session hsession => nomatch hsession
      · exact hclosed
  | request request =>
      rcases specStep_request_cases deployment codec state request with
        hself | ⟨verified, session, -, hopen, hmoved⟩
      · rw [hself]
        exact hclosed
      · have hne : token ≠ verified := by
          rintro rfl
          obtain ⟨hsession, hlive⟩ := Option.filter_eq_some_iff.mp hopen
          exact hclosed session hsession hlive
        rw [hmoved]
        simp only [Function.update_of_ne hne]
        exact hclosed

theorem openSession_specRun_eq_none {state : SpecState} {actions : List Action}
    (hclosed : state.openSession token = none)
    (hactions : ∀ action ∈ actions, ¬ action.SignsIn token) :
    (specRun deployment codec state actions).openSession token = none := by
  induction actions generalizing state with
  | nil => exact hclosed
  | cons action actions ih =>
      rw [List.forall_mem_cons] at hactions
      exact ih (openSession_specStep_eq_none hclosed hactions.1) hactions.2

/-- No action puts the deadline further ahead than the time to expire. -/
theorem closesWithin_specStep {state : SpecState} {action : Action}
    (hstate : state.ClosesWithin deployment.tokenExpireTime token)
    (haction : action.SignsInWithin deployment.tokenExpireTime token) :
    (specStep deployment codec state action).ClosesWithin deployment.tokenExpireTime token := by
  unfold SpecState.ClosesWithin at hstate ⊢
  cases action with
  | tick microseconds =>
      intro session hsession
      obtain ⟨deadline, hle, hexpires⟩ := hstate session hsession
      exact ⟨deadline, by simp only [specStep]; omega, hexpires⟩
  | signIn other user owner timeout =>
      simp only [specStep, Function.update_apply]
      split
      · rename_i hsame
        rintro session ⟨⟩
        obtain ⟨seconds, hle, rfl⟩ := haction hsame.symm
        exact ⟨_, Nat.add_le_add_left (Nat.mul_le_mul_right _ hle) _, rfl⟩
      · exact hstate
  | signOut other =>
      simp only [specStep, Function.update_apply]
      split
      · exact fun session hsession => nomatch hsession
      · exact hstate
  | request request =>
      rcases specStep_request_cases deployment codec state request with
        hself | ⟨verified, session, -, hopen, hmoved⟩
      · rw [hself]
        exact hstate
      · rw [hmoved]
        simp only [Function.update_apply]
        split
        · rintro session ⟨⟩
          exact ⟨_, le_rfl, rfl⟩
        · exact hstate

theorem closesWithin_specRun {state : SpecState} {actions : List Action}
    (hstate : state.ClosesWithin deployment.tokenExpireTime token)
    (hactions : ∀ action ∈ actions, action.SignsInWithin deployment.tokenExpireTime token) :
    (specRun deployment codec state actions).ClosesWithin deployment.tokenExpireTime token := by
  induction actions generalizing state with
  | nil => exact hstate
  | cons action actions ih =>
      rw [List.forall_mem_cons] at hactions
      exact ih (closesWithin_specStep hstate hactions.1) hactions.2

/-- While the token is not used, time passes and its deadline stays where it is. -/
theorem idle_specStep (state : SpecState) {action : Action} (hsign : ¬ action.SignsIn token)
    (huse : ¬ action.Uses deployment.settings codec token) :
    (specStep deployment codec state action).now = state.now + action.elapsed ∧
      ∀ session, (specStep deployment codec state action).sessions token = some session →
        state.sessions token = some session := by
  cases action with
  | tick microseconds => exact ⟨rfl, fun session hsession => hsession⟩
  | signIn other user owner timeout =>
      refine ⟨rfl, fun session hsession => ?_⟩
      simpa only [specStep, Function.update_of_ne (Ne.symm hsign)] using hsession
  | signOut other =>
      refine ⟨rfl, fun session hsession => ?_⟩
      simp only [specStep, Function.update_apply] at hsession
      split at hsession
      · cases hsession
      · exact hsession
  | request request =>
      rcases specStep_request_cases deployment codec state request with
        hself | ⟨verified, session, hverified, -, hmoved⟩
      · rw [hself]
        exact ⟨rfl, fun session hsession => hsession⟩
      · have hne : token ≠ verified := by
          rintro rfl
          exact huse ⟨state.now, hverified⟩
        rw [hmoved]
        refine ⟨rfl, fun session hsession => ?_⟩
        simpa only [Function.update_of_ne hne] using hsession

theorem idle_specRun (state : SpecState) {actions : List Action}
    (hactions : ∀ action ∈ actions, ¬ action.SignsIn token ∧
      ¬ action.Uses deployment.settings codec token) :
    (specRun deployment codec state actions).now = state.now + elapsed actions ∧
      ∀ session, (specRun deployment codec state actions).sessions token = some session →
        state.sessions token = some session := by
  induction actions generalizing state with
  | nil => exact ⟨rfl, fun session hsession => hsession⟩
  | cons action actions ih =>
      rw [List.forall_mem_cons] at hactions
      obtain ⟨hnow, hkeeps⟩ := idle_specStep state hactions.1.1 hactions.1.2
      obtain ⟨hlater, hkeep⟩ := ih (specStep deployment codec state action) hactions.2
      refine ⟨?_, fun session hsession => hkeeps session (hkeep session hsession)⟩
      calc (specRun deployment codec (specStep deployment codec state action) actions).now
          = state.now + action.elapsed + elapsed actions := by rw [hlater, hnow]
        _ = state.now + elapsed (action :: actions) := by
          rw [elapsed, elapsed, List.map_cons, List.sum_cons, Nat.add_assoc]

/-- **A session that was idle for the time to expire is over**: once that much time has passed
without a request for the token, none is let in as its user before the next sign-in. -/
theorem not_admitted_of_idle {before quiet later : List Action}
    (hbefore : ∀ action ∈ before, action.SignsInWithin deployment.tokenExpireTime token)
    (hquiet : ∀ action ∈ quiet, ¬ action.SignsIn token ∧
      ¬ action.Uses deployment.settings codec token)
    (hidle : deployment.tokenExpireTime * second ≤ elapsed quiet)
    (hlater : ∀ action ∈ later, ¬ action.SignsIn token) (request : AuthRequest) (user : Json) :
    (run deployment.settings codec .initial (before ++ quiet ++ later)).admits deployment.settings
      codec request ≠ some (user, token) := by
  rw [admits_run]
  intro hadmitted
  obtain ⟨-, session, hopen, -⟩ := specAdmits_eq_some hadmitted
  rw [specRun, List.foldl_append, List.foldl_append] at hopen
  refine Option.some_ne_none session (hopen.symm.trans ?_)
  apply openSession_specRun_eq_none _ hlater
  let start := specRun deployment codec State.initial.sessions before
  have hwithin : start.ClosesWithin deployment.tokenExpireTime token :=
    closesWithin_specRun (fun session hsession => nomatch hsession) hbefore
  obtain ⟨hnow, hkeeps⟩ := idle_specRun start hquiet
  refine Option.filter_eq_none_iff.mpr fun session hsession => ?_
  obtain ⟨deadline, hdeadline, hexpires⟩ := hwithin session (hkeeps session hsession)
  have hdead : deadline ≤ (specRun deployment codec start quiet).now := by omega
  rw [Entry.live, hexpires, decide_eq_true_eq, not_lt]
  exact hdead

/-- The deployment's defaults. -/
def sampleDeployment : Deployment :=
  ⟨7200, by decide, 15 * 60⟩

/-- ASCII digits, and a cipher that opens one message. -/
def sampleCodec : Codec where
  isNumeric := Char.isDigit
  decimal c := if c.isDigit then some (c.toNat - '0'.toNat) else none
  decrypt message := if message = "c2VhbGVk" then some "6f2a\n7200" else none

def sampleRequest : AuthRequest :=
  ⟨[some "Token", some "c2VhbGVk"], some "7200"⟩

def sampleUser : Json :=
  .dict [("user_id", .int 7), ("is_authenticated", .bool true)]

theorem not_admitted_of_idle_sample :
    (run sampleDeployment.settings sampleCodec .initial
        ([.signIn "6f2a" sampleUser "7" (some 7200), .request sampleRequest] ++
          [.tick 7200000000] ++ [.request sampleRequest])).admits sampleDeployment.settings
      sampleCodec sampleRequest ≠ some (sampleUser, "6f2a") := by
  apply not_admitted_of_idle
  · intro action haction
    simp only [List.mem_cons, List.not_mem_nil, or_false] at haction
    rcases haction with rfl | rfl
    · exact fun _ => ⟨7200, le_rfl, rfl⟩
    · trivial
  · intro action haction
    obtain rfl := List.mem_singleton.mp haction
    exact ⟨id, id⟩
  · have hsecond : second = 1000000 := by unfold second; rfl
    rw [hsecond]
    decide
  · intro action haction
    obtain rfl := List.mem_singleton.mp haction
    exact id

end CatvService.Auth
