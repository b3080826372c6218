import CatvService.Cache.OneTimeKeys

/-!
# Password reset tokens

`set_password_reset_key` and `get_email_by_password_reset_key` of `DefaultCache`, called over and
over before anything expires.

Issuing a token writes two entries that point to each other, the email's and the token's.  It is
meant to remove the entry of the email's previous token first, but it does so only where there is
no previous token, so the previous token stays.

* `getEmailByPasswordResetKey_issueAll`: after any sequence of issues, every token that was ever
  issued is still resolved;
* `onlyLatestWorks_iff`: only the latest token of each email works exactly when no email was issued
  a second token, and none has `-password` in it.
-/

namespace CatvService.Cache

open Dictionary PyText

/-! ## The model -/

/-- A call of `set_password_reset_key`: the email, and the token that is drawn. -/
structure Issue where
  email : String
  token : Token

/-- The cache after a sequence of calls. -/
def issueAll (issues : List Issue) : DefaultCache :=
  issues.foldl (fun cache issue => cache.setPasswordResetKey issue.email issue.token)
    ⟨0, Dict.empty⟩

/-- The token that was issued last for the email. -/
def latestToken (issues : List Issue) (email : String) : Option String :=
  (issues.reverse.find? fun issue => issue.email = email).map fun issue => issue.token.text

/-- No token is resolved to an email but the one that was issued last for it. -/
def OnlyLatestWorks (issues : List Issue) : Prop :=
  ∀ email key, (issueAll issues).getEmailByPasswordResetKey key = some email →
    latestToken issues email = some key

/-! ## What is issued is granted -/

variable {issues : List Issue} {key email : String}

/-- The issue as an action of the cache. -/
def Issue.action (issue : Issue) : CacheAction :=
  .issue (.passwordReset issue.email) issue.token

theorem mirrors_issueAll (issues : List Issue) :
    Mirrors (issueAll issues) (grantsAfter (issues.map Issue.action)) := by
  have hmirrors := mirrors_after (issues.map Issue.action)
  rw [cacheAfter, List.foldl_map] at hmirrors
  exact hmirrors

theorem grantsAfter_append_singleton (issues : List Issue) (last : Issue) :
    grantsAfter ((issues ++ [last]).map Issue.action) =
      (grantsAfter (issues.map Issue.action)).step last.action := by
  rw [List.map_append, grantsAfter, List.foldl_append]
  rfl

theorem now_grantsAfter (issues : List Issue) :
    (grantsAfter (issues.map Issue.action)).now = 0 := by
  induction issues using List.reverseRecOn with
  | nil => rfl
  | append_singleton issues last ih => exact grantsAfter_append_singleton issues last ▸ ih

theorem table_grantsAfter (hdistinct : (issues.map fun issue => issue.token.text).Nodup)
    {granted : Grant × ℕ} :
    (grantsAfter (issues.map Issue.action)).table key = some granted ↔
      ∃ issue ∈ issues, issue.token.text = key ∧ granted = (.passwordReset issue.email, 0) := by
  induction issues using List.reverseRecOn with
  | nil => simp [grantsAfter]
  | append_singleton issues last ih =>
      rw [List.map_append, List.nodup_append] at hdistinct
      obtain ⟨hbefore, -, hdisjoint⟩ := hdistinct
      rw [grantsAfter_append_singleton, Issue.action, Grants.table_issue, now_grantsAfter]
      split
      · rename_i hkey
        constructor
        · intro hgranted
          exact ⟨last, by simp, hkey, (Option.some.inj hgranted).symm⟩
        · rintro ⟨issue, hissue, htoken, rfl⟩
          rcases List.mem_append.mp hissue with hissue | hlast
          · exact absurd (htoken.trans hkey.symm)
              (hdisjoint _ (List.mem_map_of_mem hissue) _ (by simp))
          · rw [List.mem_singleton.mp hlast]
      · rename_i hkey
        rw [ih hbefore]
        constructor
        · rintro ⟨issue, hissue, h⟩
          exact ⟨issue, List.mem_append_left _ hissue, h⟩
        · rintro ⟨issue, hissue, htoken, h⟩
          rcases List.mem_append.mp hissue with hissue | hlast
          · exact ⟨issue, hissue, htoken, h⟩
          · exact absurd (List.mem_singleton.mp hlast ▸ htoken) hkey

/-- **What a lookup finds.**  It finds every token that was issued, and what it makes of the token
is what stands before `-password` in its entry. -/
theorem getEmailByPasswordResetKey_issueAll
    (hdistinct : (issues.map fun issue => issue.token.text).Nodup) :
    (issueAll issues).getEmailByPasswordResetKey key = some email ↔
      ∃ issue ∈ issues, issue.token.text = key ∧ resolvedEmail issue.email = some email := by
  rw [(mirrors_issueAll issues).getEmailByPasswordResetKey_eq, Option.bind_eq_some_iff]
  constructor
  · rintro ⟨grant, hlive, hread⟩
    obtain ⟨time, htable⟩ := Grants.exists_table_of_live hlive
    obtain ⟨issue, hissue, hkey, hgrant⟩ := (table_grantsAfter hdistinct).mp htable
    obtain ⟨rfl, -⟩ := Prod.mk.inj hgrant
    rw [Grant.text, readReset_append] at hread
    exact ⟨issue, hissue, hkey, hread⟩
  · rintro ⟨issue, hissue, hkey, hresolved⟩
    refine ⟨.passwordReset issue.email, ?_, ?_⟩
    · rw [Grants.live, (table_grantsAfter hdistinct).mpr ⟨issue, hissue, hkey, rfl⟩,
        Option.bind_some, now_grantsAfter]
      exact if_pos (show 0 < 0 + 60 * 5 by decide)
    · rw [Grant.text, readReset_append]
      exact hresolved

/-! ## The latest token -/

/-- An email with `-password` in it is cut off there: its token is resolved to another email. -/
theorem exists_resolvedEmail_of_contains (h : contains "-password" email = true) :
    ∃ other, resolvedEmail email = some other ∧ other ≠ email := by
  have hoccurs : "-password".toList <:+: email.toList := of_decide_eq_true h
  obtain ⟨before, hlength, hhead⟩ := exists_head?_splitFrom (by decide) hoccurs
    "-password".toList []
  refine ⟨String.ofList before, ?_, ?_⟩
  · rw [resolvedEmail, split, String.toList_append, hhead]
    rfl
  · rintro rfl
    rw [String.toList_ofList] at hlength
    exact lt_irrefl _ hlength

theorem exists_of_latestToken (h : latestToken issues email = some key) :
    ∃ issue ∈ issues, issue.email = email ∧ issue.token.text = key := by
  obtain ⟨issue, hfind, htoken⟩ := Option.map_eq_some_iff.mp h
  have hissue : issue ∈ issues := List.mem_reverse.mp (List.mem_of_find?_eq_some hfind)
  exact ⟨issue, hissue, by simpa using List.find?_some hfind, htoken⟩

theorem latestToken_of_nodup (hemails : (issues.map Issue.email).Nodup) {issue : Issue}
    (hissue : issue ∈ issues) : latestToken issues issue.email = some issue.token.text := by
  have hsome : (issues.reverse.find? fun other => other.email = issue.email).isSome := by
    rw [List.find?_isSome]
    exact ⟨issue, List.mem_reverse.mpr hissue, by simp⟩
  obtain ⟨other, hfind⟩ := Option.isSome_iff_exists.mp hsome
  have hother : other ∈ issues := List.mem_reverse.mp (List.mem_of_find?_eq_some hfind)
  have hemail : other.email = issue.email := by simpa using List.find?_some hfind
  rw [latestToken, hfind, List.inj_on_of_nodup_map hemails hother hissue hemail]
  rfl

/-- The latest token of an email without `-password` in it is resolved to the email. -/
theorem getEmailByPasswordResetKey_latestToken
    (hdistinct : (issues.map fun issue => issue.token.text).Nodup)
    (hsuffix : contains "-password" email = false) (h : latestToken issues email = some key) :
    (issueAll issues).getEmailByPasswordResetKey key = some email := by
  obtain ⟨issue, hissue, rfl, htoken⟩ := exists_of_latestToken h
  exact (getEmailByPasswordResetKey_issueAll hdistinct).mpr
    ⟨issue, hissue, htoken, resolvedEmail_of_not_contains hsuffix⟩

/-- When only the latest tokens work, every token is the latest of an email that it was issued
for, and is resolved to it. -/
theorem OnlyLatestWorks.latestToken_eq (h : OnlyLatestWorks issues)
    (hdistinct : (issues.map fun issue => issue.token.text).Nodup) {issue : Issue}
    (hissue : issue ∈ issues) (hresolved : resolvedEmail issue.email = some email) :
    email = issue.email ∧ latestToken issues issue.email = some issue.token.text := by
  have hworks : (issueAll issues).getEmailByPasswordResetKey issue.token.text = some email :=
    (getEmailByPasswordResetKey_issueAll hdistinct).mpr ⟨issue, hissue, rfl, hresolved⟩
  have hlatest : latestToken issues email = some issue.token.text := h email _ hworks
  obtain ⟨other, hother, rfl, htoken⟩ := exists_of_latestToken hlatest
  obtain rfl : other = issue := List.inj_on_of_nodup_map hdistinct hother hissue htoken
  exact ⟨rfl, hlatest⟩

theorem OnlyLatestWorks.not_contains (h : OnlyLatestWorks issues)
    (hdistinct : (issues.map fun issue => issue.token.text).Nodup) {issue : Issue}
    (hissue : issue ∈ issues) : contains "-password" issue.email = false := by
  by_contra hcontains
  rw [Bool.not_eq_false] at hcontains
  obtain ⟨other, hresolved, hne⟩ := exists_resolvedEmail_of_contains hcontains
  exact hne (h.latestToken_eq hdistinct hissue hresolved).1

theorem OnlyLatestWorks.nodup_emails (h : OnlyLatestWorks issues)
    (hdistinct : (issues.map fun issue => issue.token.text).Nodup) :
    (issues.map Issue.email).Nodup := by
  have hlatest : ∀ issue ∈ issues, latestToken issues issue.email = some issue.token.text :=
    fun issue hissue => (h.latestToken_eq hdistinct hissue
      (resolvedEmail_of_not_contains (h.not_contains hdistinct hissue))).2
  refine List.pairwise_map.mpr (List.Pairwise.imp_of_mem ?_ (List.pairwise_map.mp hdistinct))
  intro first second hfirst hsecond hne hemail
  -- two issues for one email would have the same latest token
  have hsecondLatest := hlatest second hsecond
  rw [← hemail, hlatest first hfirst] at hsecondLatest
  exact hne (Option.some.inj hsecondLatest)

/-! ## Only the latest token -/

/-- **Only the latest reset token works** exactly when there is no token but the latest: when no
email is issued a second one, and no email has `-password` in it. -/
theorem onlyLatestWorks_iff (issues : List Issue)
    (hdistinct : (issues.map fun issue => issue.token.text).Nodup) :
    OnlyLatestWorks issues ↔
      (issues.map Issue.email).Nodup ∧
        ∀ issue ∈ issues, contains "-password" issue.email = false := by
  constructor
  · intro h
    exact ⟨h.nodup_emails hdistinct, fun issue hissue => h.not_contains hdistinct hissue⟩
  · rintro ⟨hemails, hsuffix⟩ email key hworks
    obtain ⟨issue, hissue, rfl, hresolved⟩ :=
      (getEmailByPasswordResetKey_issueAll hdistinct).mp hworks
    rw [resolvedEmail_of_not_contains (hsuffix issue hissue)] at hresolved
    rw [← Option.some.inj hresolved]
    exact latestToken_of_nodup hemails hissue

/-- An email asks for a token twice. -/
def issuedTwice : List Issue :=
  [⟨"alice@example.org", repeatedKey 'a' rfl⟩,
    ⟨"alice@example.org", repeatedKey 'b' rfl⟩]

theorem onlyLatestWorks_iff_issuedTwice :
    OnlyLatestWorks issuedTwice ↔ (issuedTwice.map Issue.email).Nodup ∧
      ∀ issue ∈ issuedTwice, contains "-password" issue.email = false :=
  onlyLatestWorks_iff issuedTwice (by decide)

/-- The first token of the email works after the second was issued. -/
theorem not_onlyLatestWorks_issuedTwice : ¬ OnlyLatestWorks issuedTwice := by
  intro h
  have hfirst : (issueAll issuedTwice).getEmailByPasswordResetKey
      (String.ofList (List.replicate 40 'a')) = some "alice@example.org" := by decide +kernel
  exact absurd (h _ _ hfirst) (by decide +kernel)

end CatvService.Cache
