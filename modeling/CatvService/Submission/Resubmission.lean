import CatvService.Library.Text
import CatvService.Library.Value
import CatvService.Submission.CatvRequest

/-!
# Submitting a report again

`CATVReportView.put` of `api/views.py` against `CATVView.post` and `submit_catv_request`: the same
`CatvRequestTask`, made once from the request and once from the status row that the first submission
has left.

The second route goes from the token type to its display name and back, takes the search type from
the stored parameters and writes the billing payload out by itself.  The first two come out right
for every stored row (`put_eq_ok`); the payload has all keys but one (`get?_resubmissionPayload`),
and so it is never the one that a submission sends (`not_resubmits`).
-/

namespace CatvService.Resubmission

open CatvRequest Dictionary PyText PyValue

/-! ## Display names -/

/-- `address_mapping`. -/
def addressMapping : Entries String String :=
  [("ETH", "Ethereum/ERC20"), ("TRX", "Tron"), ("BTC", "Bitcoin"), ("LTC", "Litecoin"),
    ("BCH", "Bitcoin Cash"), ("XLM", "Stellar"), ("EOS", "EOS"), ("XRP", "Ripple"),
    ("BNB", "Binance Coin"), ("ADA", "Cardano"), ("BSC", "Binance Smart Chain"), ("KLAY", "KAIA"),
    ("LUNC", "LUNC"), ("FTM", "Fantom"), ("POL", "Polygon"), ("AVAX", "Avalanche"),
    ("ZEC", "Zcash"), ("DASH", "DASH"), ("DOGE", "Doge Coin"), ("SOL", "Solana"),
    ("ARB", "Arbitrum"), ("ARBNOVA", "Arbitrum Nova"), ("OP", "Optimism"), ("BASE", "Base"),
    ("LINEA", "Linea"), ("BLAST", "Blast"), ("SCROLL", "Scroll"), ("MANTLE", "Mantle"),
    ("OPBNB", "opBNB"), ("BTT", "BitTorrent"), ("CELO", "Celo"), ("FRAXTAL", "Fraxtal"),
    ("GNOSIS", "Gnosis"), ("MEMECORE", "Memecore"), ("MOONBEAM", "Moonbeam"),
    ("MOONRIVER", "Moonriver"), ("TAIKO", "Taiko"), ("XDC", "XDC"), ("APECHAIN", "Apechain"),
    ("WORLD", "World"), ("SONIC", "Sonic"), ("UNICHAIN", "Unichain"), ("ABSTRACT", "Abstract"),
    ("BERACHAIN", "Berachain"), ("SWELLCHAIN", "Swellchain"), ("MONAD", "Monad"),
    ("HYPEREVM", "HyperEVM"), ("KATANA", "Katana"), ("SEI", "Sei"), ("STABLE", "Stable"),
    ("PLASMA", "Plasma")]

/-- `determine_wallet_type(token_type)`. -/
def determineWalletType (tokenType : CatvTokens) : String :=
  (Entries.get? tokenType.value addressMapping).getD "Ethereum/ERC20"

/-- `reverse_token_map`. -/
def reverseTokenMap : Entries String CatvTokens :=
  [("Ethereum/ERC20", .eth), ("Bitcoin", .btc), ("Tron", .tron), ("Litecoin", .ltc),
    ("Ripple", .xrp), ("EOS", .eos), ("Stellar", .xlm), ("Binance Coin", .bnb), ("Cardano", .ada),
    ("Binance Smart Chain", .bsc), ("KAIA", .klay), ("Bitcoin Cash", .bch), ("LUNC", .lunc),
    ("Doge Coin", .doge), ("Zcash", .zec), ("DASH", .dash), ("Avalanche", .avax),
    ("Fantom", .ftm), ("Polygon", .pol), ("Solana", .sol), ("Arbitrum", .arb),
    ("Arbitrum Nova", .arbnova), ("Optimism", .op), ("Base", .base), ("Linea", .linea),
    ("Blast", .blast), ("Scroll", .scroll), ("Mantle", .mantle), ("opBNB", .opbnb),
    ("BitTorrent", .btt), ("Celo", .celo), ("Fraxtal", .fraxtal), ("Gnosis", .gnosis),
    ("Memecore", .memecore), ("Moonbeam", .moonbeam), ("Moonriver", .moonriver),
    ("Taiko", .taiko), ("XDC", .xdc), ("Apechain", .apechain), ("World", .world),
    ("Sonic", .sonic), ("Unichain", .unichain), ("Abstract", .abstract),
    ("Berachain", .berachain), ("Swellchain", .swellchain), ("Monad", .monad),
    ("HyperEVM", .hyperevm), ("Katana", .katana), ("Sei", .sei), ("Stable", .stable),
    ("Plasma", .plasma)]

/-- The member of the enumeration that a column holds. -/
def tokenOfValue (value : String) : Except PyErr CatvTokens :=
  match (reverseTokenMap.map Prod.snd).find? fun token => token.value = value with
  | some token => .ok token
  | none => .error .valueError

/-! ## The first submission -/

/-- The fields of `CATVSerializer`. -/
def flowFields : List String :=
  ["wallet_address", "transaction_hash", "source_depth", "distribution_depth", "transaction_limit",
    "from_date", "to_date", "token_address", "force_lookup"]

/-- The fields of `CATVEthPathSerializer`. -/
def pathFields : List String :=
  ["address_from", "address_to", "token_address", "depth", "from_date", "to_date", "min_tx_amount",
    "limit_address_tx", "force_lookup"]

/-- What `serializer.data` is like once the data is valid: it has fields of the serializer only, and
a path search has an `address_from` that is not blank. -/
def Validated (searchType : CatvSearchType) (params : Obj) : Prop :=
  match searchType with
  | .flow => ∀ entry ∈ params, entry.1 ∈ flowFields
  | .path => (∀ entry ∈ params, entry.1 ∈ pathFields) ∧
      ∃ addressFrom, addressFrom ≠ "" ∧ Entries.get? "address_from" params = some (.str addressFrom)

/-- `param.lower() != 'false'`. -/
def flagOf (param : String) : Bool :=
  decide (lower param ≠ "false")

/-- The two flags of a query. -/
structure Flags where
  isLegacyParam : Option String
  isBountyTrackParam : Option String

/-- `is_legacy`. -/
def Flags.isLegacy (flags : Flags) : Bool :=
  flagOf (flags.isLegacyParam.getD "True")

/-- `is_bounty_track`. -/
def Flags.isBountyTrack (flags : Flags) : Bool :=
  flagOf (flags.isBountyTrackParam.getD "False")

/-- `user_details`: the keys that may be missing are optional. -/
structure UserDetails where
  userId : ℕ
  userUid : Option String
  /-- `user_details['usage']['credits_requirement']`. -/
  creditsRequirement : Option Obj

/-- Who asks: the user, and the two headers that the token is made of. -/
structure Caller where
  user : UserDetails
  token : String
  timestamp : Option String

/-- A request that `POST /catv` has created. -/
structure Created where
  caller : Caller
  flags : Flags
  messageId : Uuid
  tokenType : CatvTokens
  searchType : CatvSearchType
  params : Obj
  validated : Validated searchType params

/-- The `CatvRequestTask` of `submit_catv_request`. -/
def Created.request (created : Created) : Request Obj where
  route := .submitCatvRequest false
  messageId := created.messageId
  userId := created.caller.user.userId
  tokenType := created.tokenType.value
  searchType := created.searchType
  searchParams := created.params
  isLegacy := created.flags.isLegacy
  isBountyTrack := created.flags.isBountyTrack

/-- `credits_required`. -/
def creditsRequired (user : UserDetails) (isBountyTrack : Bool) : Except PyErr Json :=
  match user.creditsRequirement with
  | none => .error (.keyError "credits_requirement")
  | some requirement => (Json.dict requirement).item (if isBountyTrack then "track" else "catv")

/-- `str(user_details['user_uid'])`. -/
def uidText (user : UserDetails) : Except PyErr String :=
  match user.userUid with
  | none => .error (.keyError "user_uid")
  | some uid => .ok uid

/-- `user_rpc` of `submit_catv_request`. -/
def submissionPayload (caller : Caller) (isBountyTrack : Bool) : Except PyErr Obj := do
  let creditsRequired ← creditsRequired caller.user isBountyTrack
  let uid ← uidText caller.user
  return [("id", .int caller.user.userId), ("token", .str caller.token),
    ("timestamp", .str (caller.timestamp.getD "None")), ("source", .str "portal"),
    ("is_bounty_track", .bool isBountyTrack), ("uid", .str uid),
    ("credits_required", creditsRequired)]

/-! ## The second one -/

/-- `user_rpc` of `CATVReportView.put`. -/
def resubmissionPayload (caller : Caller) (isBountyTrack : Bool) : Except PyErr Obj := do
  let creditsRequired ← creditsRequired caller.user isBountyTrack
  let uid ← uidText caller.user
  return [("id", .int caller.user.userId), ("token", .str caller.token),
    ("timestamp", .str (caller.timestamp.getD "None")), ("source", .str "portal"),
    ("uid", .str uid), ("credits_required", creditsRequired)]

/-- The search type that the stored parameters stand for. -/
def searchTypeOf (params : Obj) : CatvSearchType :=
  if ((Entries.get? "address_from" params).getD (.str "")).truthy then .path else .flow

/-- The `CatvRequestTask` of `CATVReportView.put`, and `none` where there is no access to LUNC. -/
def put (obj : CatvRequestStatus Obj) (caller : Caller) (flags : Flags) (messageId : Uuid)
    (terraAccess : Bool) : Except PyErr (Option (Request Obj)) := do
  let storedType ← tokenOfValue obj.tokenType
  let displayName := determineWalletType storedType
  match Entries.get? displayName reverseTokenMap with
  | none => .error (.keyError displayName)
  | some tokenType =>
      if tokenType = .lunc ∧ ¬ terraAccess then return none
      else
        return some {
          route := .reportPut
          messageId := messageId
          userId := caller.user.userId
          tokenType := tokenType.value
          searchType := searchTypeOf obj.params
          searchParams := obj.params
          isLegacy := flags.isLegacy
          isBountyTrack := flags.isBountyTrack }

/-- The request is enqueued like the original, up to the message id, is saved with the same
parameters, token type and flags, and is billed with the payload of a submission. -/
def Resubmits (created : Created) (caller : Caller) (flags : Flags) (messageId : Uuid)
    (terraAccess : Bool) : Prop :=
  ∃ request, put created.request.taskRecord caller flags messageId terraAccess =
    .ok (some request) ∧
    request.jobQueueClass = created.request.jobQueueClass ∧
    request.job = { created.request.job with
      message := { created.request.job.message with messageId := messageId } } ∧
    request.taskRecord = { created.request.taskRecord with uid := messageId } ∧
    ∃ payload expected, resubmissionPayload caller flags.isBountyTrack = .ok payload ∧
      submissionPayload caller flags.isBountyTrack = .ok expected ∧
      ∀ key, Entries.get? key payload = Entries.get? key expected

/-! ## What comes out right -/

theorem tokenOfValue_value (tokenType : CatvTokens) :
    tokenOfValue tokenType.value = .ok tokenType := by
  cases tokenType <;> rfl

/-- No token type is lost on the way to its display name and back. -/
theorem get?_reverseTokenMap (tokenType : CatvTokens) :
    Entries.get? (determineWalletType tokenType) reverseTokenMap = some tokenType := by
  cases tokenType <;> rfl

/-- Validated parameters say which serializer they come from. -/
theorem searchTypeOf_of_validated {searchType : CatvSearchType} {params : Obj}
    (hvalidated : Validated searchType params) : searchTypeOf params = searchType := by
  unfold searchTypeOf
  cases searchType with
  | path =>
      obtain ⟨-, addressFrom, hne, hget⟩ := hvalidated
      rw [hget]
      exact if_pos (decide_eq_true hne)
  | flow =>
      have hnone : Entries.get? "address_from" params = none := by
        rw [Entries.get?_eq_none_iff]
        intro hmem
        obtain ⟨entry, hentry, hkey⟩ := List.mem_map.mp hmem
        have hfield := hvalidated entry hentry
        rw [hkey] at hfield
        exact absurd hfield (by decide)
      rw [hnone]
      rfl

/-- **The task of the second route is that of the first one, with another message id.** -/
theorem put_eq_ok (created : Created) {flags : Flags}
    (hlegacy : flags.isLegacy = created.flags.isLegacy)
    (hbounty : flags.isBountyTrack = created.flags.isBountyTrack) (messageId : Uuid)
    {terraAccess : Bool} (haccess : created.tokenType = .lunc → terraAccess = true) :
    put created.request.taskRecord created.caller flags messageId terraAccess =
      .ok (some { created.request with route := .reportPut, messageId := messageId }) := by
  have htoken : tokenOfValue created.request.taskRecord.tokenType = .ok created.tokenType :=
    tokenOfValue_value created.tokenType
  have hsearch : searchTypeOf created.request.taskRecord.params = created.searchType :=
    searchTypeOf_of_validated created.validated
  have hopen : ¬ (created.tokenType = .lunc ∧ ¬ terraAccess = true) :=
    fun hclosed => hclosed.2 (haccess hclosed.1)
  unfold put
  simp only [htoken, get?_reverseTokenMap, hsearch, bind, Except.bind]
  rw [if_neg hopen, hlegacy, hbounty]
  rfl

/-- It goes to the same queue, as the same job and with the same records. -/
theorem exists_put_eq_ok (created : Created) {flags : Flags}
    (hlegacy : flags.isLegacy = created.flags.isLegacy)
    (hbounty : flags.isBountyTrack = created.flags.isBountyTrack) (messageId : Uuid)
    {terraAccess : Bool} (haccess : created.tokenType = .lunc → terraAccess = true) :
    ∃ request,
      put created.request.taskRecord created.caller flags messageId terraAccess =
        .ok (some request) ∧
      request.jobQueueClass = created.request.jobQueueClass ∧
      request.job = { created.request.job with
        message := { created.request.job.message with messageId := messageId } } ∧
      request.taskRecord = { created.request.taskRecord with uid := messageId } :=
  ⟨_, put_eq_ok created hlegacy hbounty messageId haccess, rfl, rfl, rfl⟩

/-- The payload of the second route has the keys of a submission, except for one. -/
theorem get?_resubmissionPayload {caller : Caller} {isBountyTrack : Bool} {payload : Obj}
    (hpayload : resubmissionPayload caller isBountyTrack = .ok payload) :
    Entries.get? "is_bounty_track" payload = none ∧
      ∃ expected, submissionPayload caller isBountyTrack = .ok expected ∧
        Entries.get? "is_bounty_track" expected = some (.bool isBountyTrack) ∧
        ∀ key, key ≠ "is_bounty_track" → Entries.get? key payload = Entries.get? key expected := by
  unfold resubmissionPayload at hpayload
  obtain ⟨credits, hcredits, hrest⟩ := bind_eq_ok_iff.mp hpayload
  obtain ⟨uid, huid, hreturn⟩ := bind_eq_ok_iff.mp hrest
  obtain rfl := Except.ok.inj hreturn
  refine ⟨by simp [Entries.get?_cons], _,
    bind_eq_ok_iff.mpr ⟨credits, hcredits, bind_eq_ok_iff.mpr ⟨uid, huid, rfl⟩⟩,
    by simp [Entries.get?_cons], fun key hne => ?_⟩
  -- the two payloads have the same four entries before the missing one, and the same two after it
  exact (Entries.get?_append_cons_of_ne hne.symm [_, _, _, _] [_, _]).symm

theorem not_same_payload {caller : Caller} {isBountyTrack : Bool} {payload expected : Obj}
    (hpayload : resubmissionPayload caller isBountyTrack = .ok payload)
    (hexpected : submissionPayload caller isBountyTrack = .ok expected) :
    ¬ ∀ key, Entries.get? key payload = Entries.get? key expected := by
  intro hsame
  obtain ⟨hnone, expected', hexpected', hsome, -⟩ := get?_resubmissionPayload hpayload
  obtain rfl := Except.ok.inj (hexpected.symm.trans hexpected')
  have hlost := hsame "is_bounty_track"
  rw [hnone, hsome] at hlost
  cases hlost

/-- **No request is submitted again as it was submitted.** -/
theorem not_resubmits (created : Created) (caller : Caller) (flags : Flags) (messageId : Uuid)
    (terraAccess : Bool) : ¬ Resubmits created caller flags messageId terraAccess := by
  rintro ⟨request, -, -, -, -, payload, expected, hpayload, hexpected, hsame⟩
  exact not_same_payload hpayload hexpected hsame

def sampleCaller : Caller :=
  ⟨⟨7, some "u7", some [("catv", .int 1), ("track", .int 3)]⟩, "key", some "1700000000"⟩

/-- A flow search for `0xab`, without any query parameter. -/
def sampleCreated : Created where
  caller := sampleCaller
  flags := ⟨none, none⟩
  messageId := 1
  tokenType := .eth
  searchType := .flow
  params := [("wallet_address", .str "0xab"), ("source_depth", .int 2)]
  validated := by simp [Validated, flowFields]

/-- **A submission without bounty tracking says so, and its repetition does not.** -/
theorem not_resubmits_sample :
    submissionPayload sampleCaller sampleCreated.flags.isBountyTrack =
        .ok [("id", .int 7), ("token", .str "key"), ("timestamp", .str "1700000000"),
          ("source", .str "portal"), ("is_bounty_track", .bool false), ("uid", .str "u7"),
          ("credits_required", .int 1)] ∧
      resubmissionPayload sampleCaller sampleCreated.flags.isBountyTrack =
        .ok [("id", .int 7), ("token", .str "key"), ("timestamp", .str "1700000000"),
          ("source", .str "portal"), ("uid", .str "u7"), ("credits_required", .int 1)] ∧
      ¬ Resubmits sampleCreated sampleCaller sampleCreated.flags 2 false := by
  refine ⟨rfl, rfl, ?_⟩
  rintro ⟨request, -, -, -, -, payload, expected, hpayload, hexpected, hsame⟩
  exact not_same_payload hpayload hexpected hsame

end CatvService.Resubmission
