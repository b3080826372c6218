import CatvService.Library.Expiring
import CatvService.Library.Text
import Mathlib.Logic.Function.Basic

/-!
# One-time keys

The keys of `DefaultCache` in `api/cache/__init__.py` that are sent by email: for a password reset,
for the verification of a sign-up and for an invitation.  All of them are drawn at random and stand
in one cache, each with the text that says what it is for, until they expire; the two functions that
resolve a key tell the kinds apart by a separator that they look for in its text.

* `Mirrors.step`: over every run the cache is a table of what was granted under which key and when;
* `readers_eq`: each reader sees its own kind only, as long as no address has one of the separators
  in it or makes one up together with what is put behind it;
* `readers_issue`: a key is resolved for as long as it lasts, whatever else is issued and deleted.
-/

namespace CatvService.Cache

open Dictionary Expiring PyText

/-! ## The model -/

/-- `"".join(random.choice(…) for _ in range(40))`; only those for invitations may have digits. -/
structure Token where
  text : String
  length : text.toList.length = 40
  alphanumeric : ∀ c ∈ text.toList, c.isAlphanum = true

/-- The clock of the cache, in seconds, and its entries. -/
structure DefaultCache where
  now : ℕ
  store : Store String String

namespace DefaultCache

/-- `self.get(key)`. -/
def get (c : DefaultCache) (key : String) : Option String :=
  c.store.get c.now key

/-- `self.set(key, value, timeout)`. -/
def put (c : DefaultCache) (key value : String) (timeout : ℕ) : DefaultCache :=
  { c with store := c.store.put key value (some (c.now + timeout)) }

/-- `self.delete_key(key)`; the cache makes the text `None` of the key `None`. -/
def deleteKey (c : DefaultCache) (key : Option String) : DefaultCache :=
  { c with store := c.store.delete (key.getD "None") }

/-- The body of `set_password_reset_key` and `set_signup_verification_key`. -/
def setKeyPair (suffix : String) (timeout : ℕ) (c : DefaultCache) (email : String) (v : Token) :
    DefaultCache :=
  let previous := c.get (email ++ suffix)
  -- `if not previous`: what is deleted here is never a key that was drawn
  let c := if previous = none ∨ previous = some "" then c.deleteKey previous else c
  let c := c.put (email ++ suffix) v.text timeout
  c.put v.text (email ++ suffix) timeout

/-- `self.set_password_reset_key(email)`, with the key that it draws and returns. -/
def setPasswordResetKey : DefaultCache → String → Token → DefaultCache :=
  setKeyPair "-password" (60 * 5)

/-- `self.set_signup_verification_key(email)`, with the key that it draws and returns. -/
def setSignupVerificationKey : DefaultCache → String → Token → DefaultCache :=
  setKeyPair "-activate" (60 * 60)

/-- `self.set_email_invitation_key(invitee_email, invited_email)`, with the key that it draws and
returns. -/
def setEmailInvitationKey (c : DefaultCache) (inviteeEmail invitedEmail : String) (v : Token) :
    DefaultCache :=
  c.put v.text (inviteeEmail ++ "-invite-" ++ invitedEmail) (60 * 60 * 12)

/-- `self.get_email_by_password_reset_key(key)`. -/
def getEmailByPasswordResetKey (c : DefaultCache) (key : String) : Option String :=
  match c.get key with
  | none => none
  | some email =>
      if email = "" || !contains "-password" email then none
      else (split "-password" email).head?

/-- `self.get_invitation_email_key(key)`. -/
def getInvitationEmailKey (c : DefaultCache) (key : String) : Option (List String) :=
  match c.get key with
  | none => none
  | some email =>
      if email = "" || !contains "-invite-" email then none else some (split "-invite-" email)

end DefaultCache

/-- What a key is for. -/
inductive Grant where
  | passwordReset (email : String)
  | signupVerification (email : String)
  | invitation (inviteeEmail invitedEmail : String)

/-- What the cache goes through: keys are drawn, keys are deleted, and time passes. -/
inductive CacheAction where
  | issue (grant : Grant) (v : Token)
  | deleteKey (key : String)
  | tick (seconds : ℕ)

/-- A key is drawn. -/
def DefaultCache.issue (c : DefaultCache) (v : Token) : Grant → DefaultCache
  | .passwordReset email => c.setPasswordResetKey email v
  | .signupVerification email => c.setSignupVerificationKey email v
  | .invitation inviteeEmail invitedEmail => c.setEmailInvitationKey inviteeEmail invitedEmail v

def DefaultCache.step (c : DefaultCache) : CacheAction → DefaultCache
  | .issue grant v => c.issue v grant
  | .deleteKey key => c.deleteKey (some key)
  | .tick seconds => { c with now := c.now + seconds }

/-- The cache after a run from an empty one. -/
def cacheAfter (actions : List CacheAction) : DefaultCache :=
  actions.foldl DefaultCache.step ⟨0, Dict.empty⟩

/-! ## What it is for -/

/-- The clock, and what was granted under a key and when. -/
structure Grants where
  now : ℕ
  table : String → Option (Grant × ℕ)

/-- How long a key lasts, in seconds. -/
def Grant.timeout : Grant → ℕ
  | .passwordReset _ => 60 * 5
  | .signupVerification _ => 60 * 60
  | .invitation _ _ => 60 * 60 * 12

namespace Grants

def step (g : Grants) : CacheAction → Grants
  | .issue grant v => { g with table := Function.update g.table v.text (some (grant, g.now)) }
  | .deleteKey key => { g with table := Function.update g.table key none }
  | .tick seconds => { g with now := g.now + seconds }

/-- What a key grants now. -/
def live (g : Grants) (key : String) : Option Grant :=
  (g.table key).bind fun granted =>
    if g.now < granted.2 + granted.1.timeout then some granted.1 else none

end Grants

/-- What was granted in a run. -/
def grantsAfter (actions : List CacheAction) : Grants :=
  actions.foldl Grants.step ⟨0, fun _ => none⟩

/-- The text of a key. -/
def Grant.text : Grant → String
  | .passwordReset email => email ++ "-password"
  | .signupVerification email => email ++ "-activate"
  | .invitation inviteeEmail invitedEmail => inviteeEmail ++ "-invite-" ++ invitedEmail

/-- No separator is found but the one that was put in. -/
def Grant.Plain : Grant → Prop
  | .passwordReset email =>
      contains "-password" email = false ∧ contains "-invite-" (email ++ "-password") = false
  | .signupVerification email =>
      contains "-password" (email ++ "-activate") = false ∧
        contains "-invite-" (email ++ "-activate") = false
  | .invitation inviteeEmail invitedEmail =>
      contains "-password" (inviteeEmail ++ "-invite-" ++ invitedEmail) = false ∧
        contains "-invite-" (inviteeEmail ++ "-invite") = false ∧
          contains "-invite-" invitedEmail = false

/-- The address whose password a key resets. -/
def Grant.resetEmail : Grant → Option String
  | .passwordReset email => some email
  | _ => none

/-- The addresses of an invitation. -/
def Grant.invitationEmails : Grant → Option (List String)
  | .invitation inviteeEmail invitedEmail => some [inviteeEmail, invitedEmail]
  | _ => none

/-! ## Reading a text -/

/-- What `get_email_by_password_reset_key` makes of a text. -/
def readReset (text : String) : Option String :=
  if text = "" || !contains "-password" text then none else (split "-password" text).head?

/-- What `get_invitation_email_key` makes of a text. -/
def readInvitation (text : String) : Option (List String) :=
  if text = "" || !contains "-invite-" text then none else some (split "-invite-" text)

variable {c : DefaultCache} {g : Grants} {key text separator : String} {v : Token} {grant : Grant}
  {actions : List CacheAction}

theorem DefaultCache.getEmailByPasswordResetKey_eq (c : DefaultCache) (key : String) :
    c.getEmailByPasswordResetKey key = (c.get key).bind readReset := by
  unfold DefaultCache.getEmailByPasswordResetKey
  cases c.get key <;> rfl

theorem DefaultCache.getInvitationEmailKey_eq (c : DefaultCache) (key : String) :
    c.getInvitationEmailKey key = (c.get key).bind readInvitation := by
  unfold DefaultCache.getInvitationEmailKey
  cases c.get key <;> rfl

theorem readReset_of_not_contains (h : contains "-password" text = false) :
    readReset text = none := by
  rw [readReset, h]
  simp

theorem readInvitation_of_not_contains (h : contains "-invite-" text = false) :
    readInvitation text = none := by
  rw [readInvitation, h]
  simp

/-- A separator with a dash is found in no text without one. -/
theorem contains_eq_false_of_notMem (hdash : '-' ∈ separator.toList) (hnot : '-' ∉ text.toList) :
    contains separator text = false := by
  rw [contains, decide_eq_false_iff_not]
  intro hoccurs
  exact hnot (hoccurs.subset hdash)

theorem contains_of_append (before separator after : String) :
    contains separator (before ++ separator ++ after) = true := by
  apply decide_eq_true
  rw [String.toList_append, String.toList_append]
  exact List.infix_append _ _ _

theorem ne_empty_of_contains (hne : separator ≠ "") (h : contains separator text = true) :
    text ≠ "" := by
  rintro rfl
  have hoccurs : separator.toList <:+: [] := of_decide_eq_true h
  exact hne (String.toList_inj.mp (List.infix_nil.mp hoccurs))

/-- What stands before `-password` in the text of a reset key. -/
def resolvedEmail (email : String) : Option String :=
  (split "-password" (email ++ "-password")).head?

theorem resolvedEmail_of_not_contains {email : String}
    (h : contains "-password" email = false) : resolvedEmail email = some email := by
  have hnot : ¬ "-password".toList <:+: email.toList := of_decide_eq_false h
  rw [resolvedEmail, split, String.toList_append]
  have hdash : '-' ∉ "password".toList := by decide
  rw [show "-password".toList = '-' :: "password".toList from rfl] at hnot ⊢
  rw [head?_splitFrom_append_self hdash hnot, List.reverse_nil, List.nil_append,
    String.ofList_toList]

theorem readReset_append (email : String) :
    readReset (email ++ "-password") = resolvedEmail email := by
  have hcontains : contains "-password" (email ++ "-password") = true := by
    have happend := contains_of_append email "-password" ""
    rwa [String.append_empty] at happend
  rw [readReset, hcontains, Bool.not_true, Bool.or_false, if_neg]
  · rfl
  · rw [decide_eq_true_eq]
    exact ne_empty_of_contains (by decide) hcontains

theorem readInvitation_append {inviteeEmail invitedEmail : String}
    (hinvitee : contains "-invite-" (inviteeEmail ++ "-invite") = false)
    (hinvited : contains "-invite-" invitedEmail = false) :
    readInvitation (inviteeEmail ++ "-invite-" ++ invitedEmail) =
      some [inviteeEmail, invitedEmail] := by
  have hcontains := contains_of_append inviteeEmail "-invite-" invitedEmail
  have hfirst : ¬ "-invite-".toList <:+: inviteeEmail.toList ++ "-invite-".toList.dropLast := by
    have hnot := of_decide_eq_false hinvitee
    rwa [String.toList_append] at hnot
  have hsplit : split "-invite-" (inviteeEmail ++ "-invite-" ++ invitedEmail) =
      [inviteeEmail, invitedEmail] := by
    rw [split, String.toList_append, String.toList_append, List.append_assoc,
      splitFrom_append_separator (by decide) hfirst,
      splitFrom_of_not_infix (of_decide_eq_false hinvited)]
    simp
  rw [readInvitation, hcontains, Bool.not_true, Bool.or_false, if_neg, hsplit]
  rw [decide_eq_true_eq]
  exact ne_empty_of_contains (by decide) hcontains

theorem Grant.Plain.read (hplain : grant.Plain) :
    readReset grant.text = grant.resetEmail ∧
      readInvitation grant.text = grant.invitationEmails := by
  cases grant with
  | passwordReset email =>
      refine ⟨?_, readInvitation_of_not_contains hplain.2⟩
      rw [Grant.text, readReset_append, resolvedEmail_of_not_contains hplain.1, Grant.resetEmail]
  | signupVerification email =>
      exact ⟨readReset_of_not_contains hplain.1, readInvitation_of_not_contains hplain.2⟩
  | invitation inviteeEmail invitedEmail =>
      exact ⟨readReset_of_not_contains hplain.1, readInvitation_append hplain.2.1 hplain.2.2⟩

/-! ## The cache as a table of grants -/

theorem Token.dash_notMem (v : Token) : '-' ∉ v.text.toList := by
  intro hmem
  have := v.alphanumeric '-' hmem
  exact absurd this (by decide)

/-- A key that is drawn is not the key of an address. -/
theorem Token.text_ne_append (v : Token) (email : String) {suffix : String}
    (hdash : '-' ∈ suffix.toList) : v.text ≠ email ++ suffix := by
  intro heq
  apply v.dash_notMem
  rw [heq, String.toList_append]
  exact List.mem_append_right _ hdash

/-- What an issue deletes beforehand is no key that was drawn: it is the text `None` or empty. -/
theorem Token.text_ne_getD (v : Token) {previous : Option String}
    (hprevious : previous = none ∨ previous = some "") : previous.getD "None" ≠ v.text := by
  intro heq
  have hlength := v.length
  rw [← heq] at hlength
  rcases hprevious with rfl | rfl <;> simp at hlength

theorem Grants.table_issue (g : Grants) (grant : Grant) (v : Token) (key : String) :
    (g.step (.issue grant v)).table key =
      if v.text = key then some (grant, g.now) else g.table key := by
  simp only [Grants.step, Function.update_apply, eq_comm]

theorem Grants.table_deleteKey (g : Grants) (deleted key : String) :
    (g.step (.deleteKey deleted)).table key = if deleted = key then none else g.table key := by
  simp only [Grants.step, Function.update_apply, eq_comm]

/-- The entry that stands for a grant. -/
def entryOf (granted : Grant × ℕ) : Entry String :=
  ⟨granted.1.text, some (granted.2 + granted.1.timeout)⟩

/-- Under the keys that were drawn the cache has the texts of what was granted, and under the others
nothing with a dash in it. -/
structure Mirrors (c : DefaultCache) (g : Grants) : Prop where
  now : c.now = g.now
  entry : ∀ v : Token, c.store.get? v.text = (g.table v.text).map entryOf
  other : ∀ key entry, (∀ v : Token, v.text ≠ key) → c.store.get? key = some entry →
    '-' ∉ entry.value.toList
  drawn : ∀ key, (∀ v : Token, v.text ≠ key) → g.table key = none

/-- The entry of an address holds a key, which has no dash. -/
theorem Mirrors.put_other (hmirrors : Mirrors c g) {value : String} (timeout : ℕ)
    (hkey : ∀ v : Token, v.text ≠ key) (hvalue : '-' ∉ value.toList) :
    Mirrors (c.put key value timeout) g := by
  refine ⟨hmirrors.now, fun v => ?_, fun other entry hother hget => ?_, hmirrors.drawn⟩
  · rw [DefaultCache.put, get?_put, if_neg (hkey v).symm, hmirrors.entry]
  · rw [DefaultCache.put, get?_put] at hget
    split at hget
    · cases hget
      exact hvalue
    · exact hmirrors.other other entry hother hget

theorem Mirrors.put_token (hmirrors : Mirrors c g) (v : Token) (grant : Grant) :
    Mirrors (c.put v.text grant.text grant.timeout) (g.step (.issue grant v)) := by
  refine ⟨hmirrors.now, fun other => ?_, fun key entry hkey hget => ?_, fun key hkey => ?_⟩
  · rw [DefaultCache.put, get?_put, g.table_issue]
    split
    · rw [Option.map_some, entryOf, hmirrors.now]
    · rw [hmirrors.entry]
  · rw [DefaultCache.put, get?_put, if_neg (hkey v)] at hget
    exact hmirrors.other key entry hkey hget
  · rw [g.table_issue, if_neg (hkey v)]
    exact hmirrors.drawn key hkey

theorem Mirrors.delete (hmirrors : Mirrors c g) (key : String) :
    Mirrors (c.deleteKey (some key)) (g.step (.deleteKey key)) := by
  refine ⟨hmirrors.now, fun v => ?_, fun other entry hother hget => ?_, fun other hother => ?_⟩
  · rw [DefaultCache.deleteKey, Option.getD_some, get?_delete, g.table_deleteKey]
    split
    · rfl
    · rw [hmirrors.entry]
  · rw [DefaultCache.deleteKey, get?_delete] at hget
    split at hget
    · cases hget
    · exact hmirrors.other other entry hother hget
  · rw [g.table_deleteKey, hmirrors.drawn other hother, ite_self]

/-- What an issue deletes beforehand takes no grant away. -/
theorem Mirrors.delete_previous (hmirrors : Mirrors c g) {previous : Option String}
    (hprevious : previous = none ∨ previous = some "") : Mirrors (c.deleteKey previous) g := by
  have hkey : ∀ v : Token, v.text ≠ previous.getD "None" :=
    fun v => (v.text_ne_getD hprevious).symm
  have hsame : g.step (.deleteKey (previous.getD "None")) = g := by
    simp only [Grants.step, ← hmirrors.drawn _ hkey, Function.update_eq_self]
  have hdelete := hmirrors.delete (previous.getD "None")
  rwa [hsame] at hdelete

/-- An issue writes the entry of the address, and then that of the key. -/
theorem Mirrors.setKeyPair {suffix email : String} (hmirrors : Mirrors c g) (grant : Grant)
    (hdash : '-' ∈ suffix.toList) (htext : grant.text = email ++ suffix) (v : Token) :
    Mirrors (c.setKeyPair suffix grant.timeout email v) (g.step (.issue grant v)) := by
  unfold DefaultCache.setKeyPair
  rw [← htext]
  apply Mirrors.put_token
  apply Mirrors.put_other
  · split
    · rename_i hprevious
      exact hmirrors.delete_previous hprevious
    · exact hmirrors
  · intro other
    rw [htext]
    exact other.text_ne_append email hdash
  · exact v.dash_notMem

/-- **One step** of the cache is one of the table of grants. -/
theorem Mirrors.step (hmirrors : Mirrors c g) (action : CacheAction) :
    Mirrors (c.step action) (g.step action) := by
  cases action with
  | issue grant v =>
      cases grant with
      | passwordReset email =>
          exact hmirrors.setKeyPair (.passwordReset email) (by decide) rfl v
      | signupVerification email =>
          exact hmirrors.setKeyPair (.signupVerification email) (by decide) rfl v
      | invitation inviteeEmail invitedEmail =>
          exact hmirrors.put_token v (.invitation inviteeEmail invitedEmail)
  | deleteKey key => exact hmirrors.delete key
  | tick seconds =>
      refine ⟨?_, hmirrors.entry, hmirrors.other, hmirrors.drawn⟩
      exact congrArg (· + seconds) hmirrors.now

theorem mirrors_after (actions : List CacheAction) :
    Mirrors (cacheAfter actions) (grantsAfter actions) := by
  induction actions using List.reverseRecOn with
  | nil =>
      refine ⟨rfl, fun _ => rfl, fun key entry _ hget => ?_, fun _ _ => rfl⟩
      cases hget
  | append_singleton actions last ih =>
      rw [cacheAfter, grantsAfter, List.foldl_append, List.foldl_append]
      exact ih.step last

/-- What the cache gives for a key: the text of what it grants, or nothing with a dash in it. -/
theorem Mirrors.get_cases (hmirrors : Mirrors c g) (key : String) :
    c.get key = (g.live key).map Grant.text ∨
      g.live key = none ∧ ∀ text, c.get key = some text → '-' ∉ text.toList := by
  by_cases hkey : ∃ v : Token, v.text = key
  · obtain ⟨v, rfl⟩ := hkey
    refine .inl ?_
    rw [DefaultCache.get, Store.get, Store.peek, hmirrors.entry, Grants.live]
    cases g.table v.text with
    | none => rfl
    | some granted =>
        rw [Option.map_some, Option.filter_some, Option.bind_some, entryOf, Entry.live,
          hmirrors.now]
        by_cases hlive : g.now < granted.2 + granted.1.timeout
        · simp [hlive]
        · simp [hlive]
  · rw [not_exists] at hkey
    refine .inr ⟨?_, fun text hget => ?_⟩
    · rw [Grants.live, hmirrors.drawn key hkey, Option.bind_none]
    · obtain ⟨entry, hentry, -, rfl⟩ := get_eq_some_iff.mp hget
      exact hmirrors.other key entry hkey hentry

/-- A reader that makes nothing of a text without a dash reads what a key grants. -/
theorem Mirrors.bind_get (hmirrors : Mirrors c g) {β : Type} {read : String → Option β}
    (hread : ∀ text, '-' ∉ text.toList → read text = none) (key : String) :
    (c.get key).bind read = (g.live key).bind fun grant => read grant.text := by
  rcases hmirrors.get_cases key with hget | ⟨hnone, hdash⟩
  · rw [hget]
    cases g.live key <;> rfl
  · rw [hnone]
    cases hget : c.get key with
    | none => rfl
    | some text => exact hread text (hdash text hget)

theorem Mirrors.getEmailByPasswordResetKey_eq (hmirrors : Mirrors c g) (key : String) :
    c.getEmailByPasswordResetKey key = (g.live key).bind fun grant => readReset grant.text := by
  rw [c.getEmailByPasswordResetKey_eq]
  exact hmirrors.bind_get (fun text hnot =>
    readReset_of_not_contains (contains_eq_false_of_notMem (by decide) hnot)) key

theorem Mirrors.getInvitationEmailKey_eq (hmirrors : Mirrors c g) (key : String) :
    c.getInvitationEmailKey key = (g.live key).bind fun grant => readInvitation grant.text := by
  rw [c.getInvitationEmailKey_eq]
  exact hmirrors.bind_get (fun text hnot =>
    readInvitation_of_not_contains (contains_eq_false_of_notMem (by decide) hnot)) key

/-- What the readers make of a key is what it grants, if that is plain. -/
theorem Mirrors.readers (hmirrors : Mirrors c g)
    (hplain : ∀ grant, g.live key = some grant → grant.Plain) :
    c.getEmailByPasswordResetKey key = (g.live key).bind Grant.resetEmail ∧
      c.getInvitationEmailKey key = (g.live key).bind Grant.invitationEmails := by
  rw [hmirrors.getEmailByPasswordResetKey_eq, hmirrors.getInvitationEmailKey_eq]
  cases hlive : g.live key with
  | none => exact ⟨rfl, rfl⟩
  | some grant => exact (hplain grant hlive).read

/-! ## Whole runs -/

theorem Grants.exists_table_of_live (h : g.live key = some grant) :
    ∃ time, g.table key = some (grant, time) := by
  obtain ⟨⟨granted, time⟩, htable, hlive⟩ := Option.bind_eq_some_iff.mp h
  split at hlive
  · cases hlive
    exact ⟨time, htable⟩
  · cases hlive

theorem exists_issue_of_table {time : ℕ}
    (h : (grantsAfter actions).table key = some (grant, time)) :
    ∃ v : Token, .issue grant v ∈ actions := by
  induction actions using List.reverseRecOn with
  | nil => cases h
  | append_singleton actions last ih =>
      have hbefore : (grantsAfter actions).table key = some (grant, time) →
          ∃ v : Token, .issue grant v ∈ actions ++ [last] := by
        intro htable
        obtain ⟨v, hv⟩ := ih htable
        exact ⟨v, List.mem_append_left _ hv⟩
      rw [grantsAfter, List.foldl_append] at h
      cases last with
      | issue other v =>
          rw [List.foldl_cons, List.foldl_nil, Grants.table_issue] at h
          split at h
          · cases h
            exact ⟨v, by simp⟩
          · exact hbefore h
      | deleteKey deleted =>
          rw [List.foldl_cons, List.foldl_nil, Grants.table_deleteKey] at h
          split at h
          · cases h
          · exact hbefore h
      | tick seconds => exact hbefore h

/-- **One-time keys.**  After any run that grants nothing but what is plain, a key is resolved by
the reader of its kind, to what was granted under it, if it was issued and neither replaced nor
deleted nor has expired; and by no other reader. -/
theorem readers_eq (actions : List CacheAction)
    (hplain : ∀ grant v, .issue grant v ∈ actions → grant.Plain) (key : String) :
    (cacheAfter actions).getEmailByPasswordResetKey key =
        ((grantsAfter actions).live key).bind Grant.resetEmail ∧
      (cacheAfter actions).getInvitationEmailKey key =
        ((grantsAfter actions).live key).bind Grant.invitationEmails := by
  apply (mirrors_after actions).readers
  intro grant hlive
  obtain ⟨time, htable⟩ := Grants.exists_table_of_live hlive
  obtain ⟨v, hissue⟩ := exists_issue_of_table htable
  exact hplain grant v hissue

/-- The action neither draws nor deletes the key. -/
def CacheAction.Spares (key : String) : CacheAction → Prop
  | .issue _ v => v.text ≠ key
  | .deleteKey deleted => deleted ≠ key
  | .tick _ => True

/-- The seconds that pass in a run. -/
def elapsed (actions : List CacheAction) : ℕ :=
  (actions.map fun action =>
    match action with
    | .tick seconds => seconds
    | _ => 0).sum

/-- A run that spares a key leaves its grant where it is, and lets its time pass. -/
theorem table_of_spares (later : List CacheAction) (g : Grants)
    (hspares : ∀ action ∈ later, action.Spares key) :
    (later.foldl Grants.step g).table key = g.table key ∧
      (later.foldl Grants.step g).now = g.now + elapsed later := by
  induction later generalizing g with
  | nil => exact ⟨rfl, rfl⟩
  | cons action later ih =>
      obtain ⟨haction, hlater⟩ := List.forall_mem_cons.mp hspares
      obtain ⟨htable, hnow⟩ := ih (g.step action) hlater
      rw [List.foldl_cons, htable, hnow]
      cases action with
      | issue grant v =>
          rw [g.table_issue, if_neg haction]
          exact ⟨rfl, congrArg (g.now + ·) (Nat.zero_add _).symm⟩
      | deleteKey deleted =>
          rw [g.table_deleteKey, if_neg haction]
          exact ⟨rfl, congrArg (g.now + ·) (Nat.zero_add _).symm⟩
      | tick seconds => exact ⟨rfl, Nat.add_assoc _ _ _⟩

/-- A grant lasts for its time. -/
theorem live_issue (before : List CacheAction) {later : List CacheAction} (grant : Grant)
    (v : Token) (hspares : ∀ action ∈ later, action.Spares v.text) :
    (grantsAfter (before ++ .issue grant v :: later)).live v.text =
      if elapsed later < grant.timeout then some grant else none := by
  obtain ⟨htable, hnow⟩ :=
    table_of_spares later ((grantsAfter before).step (.issue grant v)) hspares
  have hafter : grantsAfter (before ++ .issue grant v :: later) =
      later.foldl Grants.step ((grantsAfter before).step (.issue grant v)) := by
    rw [grantsAfter, List.foldl_append]
    rfl
  have hissued : ((grantsAfter before).step (.issue grant v)).now = (grantsAfter before).now := rfl
  rw [hafter, Grants.live, htable, Grants.table_issue, if_pos rfl, Option.bind_some, hnow, hissued]
  simp only [Nat.add_lt_add_iff_left]

/-- **A key lasts for its time**, whatever was issued before and whatever else is issued and deleted
behind it: until then it is resolved to what it was issued for, and from then on to nothing. -/
theorem readers_issue (before later : List CacheAction) (grant : Grant) (v : Token)
    (hplain : grant.Plain) (hspares : ∀ action ∈ later, action.Spares v.text) :
    (cacheAfter (before ++ .issue grant v :: later)).getEmailByPasswordResetKey v.text =
        (if elapsed later < grant.timeout then grant.resetEmail else none) ∧
      (cacheAfter (before ++ .issue grant v :: later)).getInvitationEmailKey v.text =
        if elapsed later < grant.timeout then grant.invitationEmails else none := by
  have hlive := live_issue before grant v hspares
  have hother : ∀ other, (grantsAfter (before ++ .issue grant v :: later)).live v.text =
      some other → other.Plain := by
    intro other hother
    rw [hlive] at hother
    split at hother
    · cases hother
      exact hplain
    · cases hother
  have hreaders := (mirrors_after (before ++ .issue grant v :: later)).readers hother
  rw [hlive] at hreaders
  split
  · rename_i hlt
    rwa [if_pos hlt] at hreaders
  · rename_i hge
    rwa [if_neg hge] at hreaders

/-! ### A reset and an invitation -/

def repeated (letter : Char) : String :=
  String.ofList (List.replicate 40 letter)

theorem length_repeated (letter : Char) : (repeated letter).toList.length = 40 := by
  rw [repeated, String.toList_ofList, List.length_replicate]

theorem alphanumeric_repeated {letter : Char} (hletter : letter.isAlphanum = true) :
    ∀ c ∈ (repeated letter).toList, c.isAlphanum = true := by
  intro c hc
  rw [repeated, String.toList_ofList] at hc
  exact List.eq_of_mem_replicate hc ▸ hletter

/-- The key of 40 times the same letter. -/
def repeatedKey (letter : Char) (hletter : letter.isAlphanum = true) : Token :=
  ⟨repeated letter, length_repeated letter, alphanumeric_repeated hletter⟩

def resetKey : Token :=
  repeatedKey 'a' (by decide)

def resetGrant : Grant :=
  .passwordReset "alice@example.org"

def invitationGrant : Grant :=
  .invitation "alice@example.org" "bob@example.org"

theorem plain_grants : resetGrant.Plain ∧ invitationGrant.Plain := by
  unfold resetGrant invitationGrant Grant.Plain
  decide +kernel

/-- An invitation is sent out after a reset was asked for. -/
def resetAndInvitation : List CacheAction :=
  [.issue resetGrant resetKey, .tick 200, .issue invitationGrant (repeatedKey 'b' (by decide))]

theorem readers_eq_resetAndInvitation :
    (cacheAfter resetAndInvitation).getEmailByPasswordResetKey resetKey.text =
        ((grantsAfter resetAndInvitation).live resetKey.text).bind Grant.resetEmail ∧
      (cacheAfter resetAndInvitation).getInvitationEmailKey resetKey.text =
        ((grantsAfter resetAndInvitation).live resetKey.text).bind Grant.invitationEmails := by
  refine readers_eq resetAndInvitation (fun grant v hissue => ?_) resetKey.text
  simp only [resetAndInvitation, List.mem_cons, CacheAction.issue.injEq, reduceCtorEq,
    List.not_mem_nil, or_false, false_or] at hissue
  rcases hissue with ⟨rfl, -⟩ | ⟨rfl, -⟩
  · exact plain_grants.1
  · exact plain_grants.2

/-- The run in which the reset key is drawn, and 200 seconds pass. -/
def resetWaited : List CacheAction :=
  [.issue resetGrant resetKey, .tick 200]

theorem readers_issue_resetWaited :
    (cacheAfter resetWaited).getEmailByPasswordResetKey resetKey.text =
        (if elapsed [.tick 200] < resetGrant.timeout then resetGrant.resetEmail else none) ∧
      (cacheAfter resetWaited).getInvitationEmailKey resetKey.text =
        if elapsed [.tick 200] < resetGrant.timeout then resetGrant.invitationEmails else none :=
  readers_issue [] [.tick 200] resetGrant resetKey plain_grants.1
    (List.forall_mem_singleton.mpr trivial)

end CatvService.Cache
