import CatvService.Library.Text
import CatvService.Tracer.Requests
import CatvService.Validation.TokenPatterns

/-!
# The recommendations of Tracer

`TracerRecommendationsSerializer` of `api/serializers.py`: what `validate` accepts, and the request
that `get_recommendations` makes of it through `get_transaction_count`.

The name of the blockchain is validated in upper case and asked for as it was given, and a name that
`_get_chain_info` does not know is Ethereum's.  The texts that end in the path are letters and
digits, but for what the `.*` of the pattern of BTC takes and for a transaction hash on ETC, which
no pattern is asked for.  `queriesTarget_iff` puts this together.
-/

namespace CatvService.Recommendations

open Dictionary PyText PyValue Regex Tracer Validation

/-! ## The data -/

/-- The value of a `CharField`, which has been trimmed. -/
structure CharText where
  text : String
  trimmed : trim text = text

/-- The data that the fields of the serializer leave; a field that is not required may be missing or
null. -/
structure Data where
  blockchain : CharText
  walletAddress : Option CharText
  transactionHash : Option CharText
  tokenContractAddress : Option CharText
  senderWalletAddress : Option CharText
  receiverWalletAddress : Option CharText

/-- The text of a field, unless it is missing or blank. -/
def given (field : Option CharText) : Option String :=
  (field.map CharText.text).filter fun text => decide (text ≠ "")

/-! ## Validation -/

/-- `valid_blockchains`. -/
def validBlockchains : List String :=
  ["ETH", "BSC", "FTM", "POL", "ETC", "AVAX", "TRX", "BTC", "KLAY", "SOL", "ARB", "ARBNOVA", "OP",
    "BASE", "LINEA", "BLAST", "SCROLL", "MANTLE", "OPBNB", "BTT", "CELO", "FRAXTAL", "GNOSIS",
    "MEMECORE", "MOONBEAM", "MOONRIVER", "TAIKO", "XDC", "APECHAIN", "WORLD", "SONIC", "UNICHAIN",
    "ABSTRACT", "BERACHAIN", "SWELLCHAIN", "MONAD", "HYPEREVM", "KATANA", "SEI", "STABLE", "PLASMA"]

/-- `evm_chains`. -/
def evmChains : List String :=
  ["ETH", "BSC", "FTM", "POL", "ETC", "AVAX", "ARB", "ARBNOVA", "OP", "BASE", "LINEA", "BLAST",
    "SCROLL", "MANTLE", "OPBNB", "BTT", "CELO", "FRAXTAL", "GNOSIS", "MEMECORE", "MOONBEAM",
    "MOONRIVER", "TAIKO", "XDC", "APECHAIN", "WORLD", "SONIC", "UNICHAIN", "ABSTRACT", "BERACHAIN",
    "SWELLCHAIN", "MONAD", "HYPEREVM", "KATANA", "SEI", "STABLE", "PLASMA"]

/-- The chains whose transaction hashes may have the prefix `0x`. -/
def prefixedHashChains : List String :=
  ["ETH", "BSC", "FTM", "POL", "AVAX", "TRX", "KLAY", "ARB", "ARBNOVA", "OP", "BASE", "LINEA",
    "BLAST", "SCROLL", "MANTLE", "OPBNB", "BTT", "CELO", "FRAXTAL", "GNOSIS", "MEMECORE",
    "MOONBEAM", "MOONRIVER", "TAIKO", "XDC", "APECHAIN", "WORLD", "SONIC", "UNICHAIN", "ABSTRACT",
    "BERACHAIN", "SWELLCHAIN", "MONAD", "HYPEREVM", "KATANA", "SEI", "STABLE", "PLASMA"]

/-- `mapping` of `_get_token_type`. -/
def tokenTypes : Entries String CatvTokens :=
  [("ETH", .eth), ("BSC", .bsc), ("FTM", .ftm), ("POL", .pol), ("AVAX", .avax), ("TRX", .tron),
    ("BTC", .btc), ("KLAY", .klay), ("SOL", .sol), ("ARB", .arb), ("ARBNOVA", .arbnova),
    ("OP", .op), ("BASE", .base), ("LINEA", .linea), ("BLAST", .blast), ("SCROLL", .scroll),
    ("MANTLE", .mantle), ("OPBNB", .opbnb), ("BTT", .btt), ("CELO", .celo), ("FRAXTAL", .fraxtal),
    ("GNOSIS", .gnosis), ("MEMECORE", .memecore), ("MOONBEAM", .moonbeam),
    ("MOONRIVER", .moonriver), ("TAIKO", .taiko), ("XDC", .xdc), ("APECHAIN", .apechain),
    ("WORLD", .world), ("SONIC", .sonic), ("UNICHAIN", .unichain), ("ABSTRACT", .abstract),
    ("BERACHAIN", .berachain), ("SWELLCHAIN", .swellchain), ("MONAD", .monad),
    ("HYPEREVM", .hyperevm), ("KATANA", .katana), ("SEI", .sei), ("STABLE", .stable),
    ("PLASMA", .plasma)]

/-- `_get_token_type(blockchain)`. -/
def getTokenType (blockchain : String) : CatvTokens :=
  (Entries.get? blockchain tokenTypes).getD .eth

/-- `if not …: raise serializers.ValidationError(message)`. -/
def check (condition : Prop) [Decidable condition] (message : String) : Except String Unit :=
  if condition then .ok () else .error message

/-- The field is missing or blank, or its text is an address of the token. -/
def MatchesIfGiven (field : Option CharText) (tokenType : CatvTokens) : Prop :=
  ∀ text ∈ given field, patternMatchesToken text tokenType = true

instance (field : Option CharText) (tokenType : CatvTokens) :
    Decidable (MatchesIfGiven field tokenType) :=
  inferInstanceAs (Decidable (∀ text ∈ given field, _))

/-- The check of the token contract. -/
def validateTokenContract (blockchain : String) (contract : Option CharText) :
    Except String Unit :=
  if blockchain ∈ evmChains then
    check (MatchesIfGiven contract .eth) "token_contract_address is not a valid EVM address."
  else if blockchain = "TRX" then
    check (MatchesIfGiven contract .tron) "token_contract_address is not a valid TRON address."
  else if blockchain = "SOL" then
    check (MatchesIfGiven contract .sol) "token_contract_address is not a valid Solana address."
  else .ok ()

/-- `^(0x)?[a-fA-F0-9]{64}$`. -/
def prefixedHashPattern : Pattern :=
  anchoredPattern (.opt (.text "0x")) (exactly 64 hexadecimals)

/-- `^[a-fA-F0-9]{64}$`. -/
def bitcoinHashPattern : Pattern :=
  .seq .start (.seq (exactly 64 hexadecimals) .stop)

/-- The check of the transaction hash. -/
def validateHash (blockchain : String) (data : Data) (transactionHash : String) :
    Except String Unit :=
  if blockchain ∈ prefixedHashChains then
    check (prefixedHashPattern.isMatch transactionHash = true)
      ("transaction_hash is not a valid " ++ blockchain ++ " transaction hash.")
  else if blockchain = "BTC" then do
    check (bitcoinHashPattern.isMatch transactionHash = true)
      "transaction_hash is not a valid Bitcoin transaction hash."
    check (MatchesIfGiven data.senderWalletAddress .btc)
      "sender_wallet_address is not a valid Bitcoin address."
    check (MatchesIfGiven data.receiverWalletAddress .btc)
      "receiver_wallet_address is not a valid Bitcoin address."
  else .ok ()

/-- `validate(data)`. -/
def validate (data : Data) : Except String Data := do
  let walletAddress := given data.walletAddress
  let transactionHash := given data.transactionHash
  let blockchain := upper data.blockchain.text
  check (walletAddress.isSome ∨ transactionHash.isSome)
    "Either wallet_address or transaction_hash must be provided."
  check (¬ (walletAddress.isSome ∧ transactionHash.isSome))
    "Only one of wallet_address or transaction_hash should be provided, not both."
  check (blockchain ∈ validBlockchains)
    ("Invalid blockchain. Supported: " ++ String.intercalate ", " validBlockchains)
  check (blockchain = "BTC" → transactionHash.isSome →
      (given data.senderWalletAddress).isSome ∧ (given data.receiverWalletAddress).isSome)
    ("For " ++ blockchain ++ " with transaction_hash, both sender_wallet_address " ++
      "and receiver_wallet_address are required.")
  validateTokenContract blockchain data.tokenContractAddress
  check (MatchesIfGiven data.walletAddress (getTokenType blockchain))
    ("wallet_address is not a valid " ++ blockchain ++ " address.")
  transactionHash.forM (validateHash blockchain data)
  return data

/-! ## The request -/

/-- The request of `get_transaction_count`. -/
structure CountRequest where
  endpoint : String
  chainId : ℕ
  contractAddress : Option String
  deriving DecidableEq

/-- `get_transaction_count(address, tx_hash, chain, token_contract)`, up to the request. -/
def getTransactionCount (address txHash : Option String) (chain : String)
    (tokenContract : Option String) : Except PyErr CountRequest :=
  let info := getChainInfo chain
  match address, txHash with
  | some address, _ =>
      .ok ⟨"tx-count/" ++ info.chainType ++ "/" ++ address, info.chainId, tokenContract⟩
  | none, some txHash =>
      .ok ⟨"validate-tx/" ++ info.chainType ++ "/" ++ txHash, info.chainId, tokenContract⟩
  | none, none => .error .valueError

/-- The request of `get_recommendations`, if it makes one. -/
def getRecommendations (data : Data) : Except PyErr (Option CountRequest) :=
  if data.blockchain.text = "SOL" then .ok none
  else
    match given data.walletAddress with
    | some address =>
        some <$> getTransactionCount (some address) none data.blockchain.text
          (given data.tokenContractAddress)
    | none =>
        some <$> getTransactionCount none (given data.transactionHash) data.blockchain.text none

/-- The endpoints of `get_transaction_count`, as far as the chain type. -/
def resources : List String :=
  ["tx-count/", "validate-tx/"]

/-- The request is for the chain that was validated, and its path is a prefix of the endpoints for
this chain followed by letters and digits. -/
def QueriesTarget (data : Data) : Prop :=
  ∃ request, getRecommendations data = .ok (some request) ∧
    request.chainId = (getChainInfo (upper data.blockchain.text)).chainId ∧
    ∃ target, IsAlphanumeric target.toList ∧
      ∃ resource ∈ resources, request.endpoint =
        resource ++ (getChainInfo (upper data.blockchain.text)).chainType ++ "/" ++ target

/-- What the `.*` in the pattern of BTC may take: the text without its first and its last 26
characters. -/
def bitcoinMiddle (address : String) : List Char :=
  (address.toList.drop 1).take (address.toList.length - 27)

/-- The blockchain is given in upper case, or has the numbers of Ethereum; on BTC there are only
letters and digits in the middle of a wallet address, and on ETC in a transaction hash. -/
structure TargetIsPlain (data : Data) : Prop where
  blockchain : upper data.blockchain.text = data.blockchain.text ∨
    upper data.blockchain.text ∈ ["ETH", "STABLE"]
  bitcoinAddress : upper data.blockchain.text = "BTC" →
    ∀ address ∈ given data.walletAddress, IsAlphanumeric (bitcoinMiddle address)
  classicHash : upper data.blockchain.text = "ETC" →
    ∀ transactionHash ∈ given data.transactionHash, IsAlphanumeric transactionHash.toList

/-! ## What is accepted -/

variable {data : Data} {field : Option CharText} {s : String}

theorem check_eq_ok_iff {condition : Prop} [Decidable condition] {message : String} {u : Unit} :
    check condition message = .ok u ↔ condition := by
  unfold check
  split <;> simp [*]

theorem exists_of_mem_given (hs : s ∈ given field) : trim s = s ∧ s ≠ "" := by
  obtain ⟨hs, hne⟩ := Option.filter_eq_some_iff.mp hs
  obtain ⟨value, -, rfl⟩ := Option.map_eq_some_iff.mp hs
  exact ⟨value.trimmed, of_decide_eq_true hne⟩

/-- What the checks of `validate` come to. -/
structure Accepted (data : Data) : Prop where
  one : (∃ address, given data.walletAddress = some address ∧ given data.transactionHash = none) ∨
    (∃ hash, given data.walletAddress = none ∧ given data.transactionHash = some hash)
  blockchain : upper data.blockchain.text ∈ validBlockchains
  walletAddress : MatchesIfGiven data.walletAddress (getTokenType (upper data.blockchain.text))
  transactionHash : ∀ hash ∈ given data.transactionHash,
    validateHash (upper data.blockchain.text) data hash = .ok ()

theorem accepted_of_validate (haccepts : validate data = .ok data) : Accepted data := by
  unfold validate at haccepts
  simp only [bind_eq_ok_iff, check_eq_ok_iff] at haccepts
  obtain ⟨-, hsome, -, hnotBoth, -, hvalid, -, -, -, -, -, hwallet, _, hhash, -⟩ := haccepts
  refine ⟨?_, hvalid, hwallet, fun hash hmem => ?_⟩
  -- one of the two is given and not both
  · cases haddress : given data.walletAddress with
    | some address =>
        cases hhash' : given data.transactionHash with
        | some hash => exact absurd ⟨by rw [haddress]; rfl, by rw [hhash']; rfl⟩ hnotBoth
        | none => exact .inl ⟨address, rfl, rfl⟩
    | none =>
        cases hhash' : given data.transactionHash with
        | some hash => exact .inr ⟨hash, rfl, rfl⟩
        | none => simp [haddress, hhash'] at hsome
  · rw [Option.mem_def.mp hmem] at hhash
    exact hhash

/-- A text that an anchored pattern of letters and digits matches has nothing else in it, once it is
trimmed. -/
theorem isAlphanumeric_of_isMatch {pattern : Pattern}
    (hwithin : pattern.within alphanumerics = true) (hanchored : pattern.anchored = true)
    (htrim : trim s = s) (hmatch : pattern.isMatch s = true) : IsAlphanumeric s.toList := by
  obtain ⟨body, hbody, hs⟩ := exists_body_of_isMatch hwithin hanchored hmatch
  rcases hs with hs | hs
  · rw [hs]
    exact hbody
  · cases isPySpace_of_trim_eq htrim hs

theorem isAlphanumeric_of_bitcoinMiddle (htrim : trim s = s)
    (hmatch : patternMatchesToken s .btc = true) (hmiddle : IsAlphanumeric (bitcoinMiddle s)) :
    IsAlphanumeric s.toList := by
  obtain ⟨head, mid, tail, rest, hs, hhead, hheadLength, htail, htailLength, hrest⟩ :=
    exists_middle_of_btc hmatch
  rcases hrest with rfl | rfl
  · rw [List.append_nil] at hs
    exact forall_of_middle hs hhead hheadLength htail htailLength hmiddle
  · cases isPySpace_of_trim_eq htrim hs

/-- The patterns that are asked for, those of BTC apart. -/
theorem within_and_anchored_of_valid {blockchain : String} (hvalid : blockchain ∈ validBlockchains)
    (hbtc : blockchain ≠ "BTC") :
    (tokenRegexMap (getTokenType blockchain)).within alphanumerics = true ∧
      (tokenRegexMap (getTokenType blockchain)).anchored = true := by
  have hall : ∀ b ∈ validBlockchains, b ≠ "BTC" →
      (tokenRegexMap (getTokenType b)).within alphanumerics = true ∧
        (tokenRegexMap (getTokenType b)).anchored = true := by decide +kernel
  exact hall blockchain hvalid hbtc

/-- **The address of an accepted request consists of letters and digits exactly if the middle of an
address on BTC does.** -/
theorem isAlphanumeric_address_iff (haccepted : Accepted data)
    {address : String} (haddress : given data.walletAddress = some address) :
    IsAlphanumeric address.toList ↔
      (upper data.blockchain.text = "BTC" → IsAlphanumeric (bitcoinMiddle address)) := by
  have htrim := (exists_of_mem_given haddress).1
  have hmatch := haccepted.walletAddress address haddress
  refine ⟨fun halnum _ c hc => halnum c (List.mem_of_mem_drop (List.mem_of_mem_take hc)),
    fun hmiddle => ?_⟩
  by_cases hbtc : upper data.blockchain.text = "BTC"
  -- the pattern of BTC is the only one with a `.*`
  · rw [hbtc] at hmatch
    exact isAlphanumeric_of_bitcoinMiddle htrim hmatch (hmiddle hbtc)
  · obtain ⟨hwithin, hanchored⟩ := within_and_anchored_of_valid haccepted.blockchain hbtc
    exact isAlphanumeric_of_isMatch hwithin hanchored htrim hmatch

theorem mem_hashChains {blockchain : String} (hvalid : blockchain ∈ validBlockchains)
    (hetc : blockchain ≠ "ETC") (hsol : blockchain ≠ "SOL") :
    blockchain ∈ prefixedHashChains ∨ blockchain = "BTC" := by
  have hall : ∀ b ∈ validBlockchains, b ≠ "ETC" → b ≠ "SOL" →
      b ∈ prefixedHashChains ∨ b = "BTC" := by decide
  exact hall blockchain hvalid hetc hsol

/-- **The hash of an accepted request consists of letters and digits exactly if one on ETC
does.** -/
theorem isAlphanumeric_hash_iff (haccepted : Accepted data)
    (hsol : upper data.blockchain.text ≠ "SOL") {hash : String}
    (hhash : given data.transactionHash = some hash) :
    IsAlphanumeric hash.toList ↔
      (upper data.blockchain.text = "ETC" → IsAlphanumeric hash.toList) := by
  have htrim := (exists_of_mem_given hhash).1
  have hchecked := haccepted.transactionHash hash hhash
  refine ⟨fun halnum _ => halnum, fun hclassic => ?_⟩
  by_cases hetc : upper data.blockchain.text = "ETC"
  · exact hclassic hetc
  · unfold validateHash at hchecked
    rcases mem_hashChains haccepted.blockchain hetc hsol with hprefixed | hbtc
    -- both patterns are anchored and have letters and digits only
    · rw [if_pos hprefixed, check_eq_ok_iff] at hchecked
      exact isAlphanumeric_of_isMatch rfl rfl htrim hchecked
    · rw [hbtc, if_neg (by decide), if_pos rfl] at hchecked
      obtain ⟨_, hpattern, -⟩ := bind_eq_ok_iff.mp hchecked
      exact isAlphanumeric_of_isMatch rfl rfl htrim (check_eq_ok_iff.mp hpattern)

/-! ## What is asked for -/

/-- The names that `_get_chain_info` knows are in upper case. -/
theorem getChainInfo_of_upper_ne {name : String} (hname : upper name ≠ name) :
    getChainInfo name = ⟨1, "evm"⟩ := by
  unfold getChainInfo
  cases hget : Entries.get? name chainMapping with
  | none => rfl
  | some info =>
      have hupper : ∀ entry ∈ chainMapping, upper entry.1 = entry.1 := by decide +kernel
      exact absurd (hupper (name, info) (Entries.mem_keys_of_get?_eq_some hget)) hname

/-- **The name as it was given has the numbers of the name in upper case exactly if it is in upper
case or the numbers are Ethereum's.** -/
theorem getChainInfo_eq_iff {name : String} (hvalid : upper name ∈ validBlockchains) :
    getChainInfo name = getChainInfo (upper name) ↔
      upper name = name ∨ upper name ∈ ["ETH", "STABLE"] := by
  have hethereum : ∀ b ∈ validBlockchains, ⟨1, "evm"⟩ = getChainInfo b ↔ b ∈ ["ETH", "STABLE"] := by
    decide +kernel
  by_cases hname : upper name = name
  · rw [hname]
    exact ⟨fun _ => .inl rfl, fun _ => rfl⟩
  · rw [getChainInfo_of_upper_ne hname, hethereum _ hvalid]
    exact ⟨.inr, fun hor => hor.resolve_left hname⟩

theorem notMem_chainType (chain : String) : '/' ∉ (getChainInfo chain).chainType.toList := by
  unfold getChainInfo
  cases hget : Entries.get? chain chainMapping with
  | none => decide
  | some info =>
      have hplain : ∀ entry ∈ chainMapping, '/' ∉ entry.2.chainType.toList := by decide
      exact hplain (chain, info) (Entries.mem_keys_of_get?_eq_some hget)

theorem exists_segment {resource : String} (hresource : resource ∈ resources) :
    ∃ segment, '/' ∉ segment ∧ resource.toList = segment ++ ['/'] := by
  rcases List.mem_cons.mp hresource with rfl | hresource
  · exact ⟨"tx-count".toList, by decide, rfl⟩
  · obtain rfl := List.mem_singleton.mp hresource
    exact ⟨"validate-tx".toList, by decide, rfl⟩

theorem endpoint_inj {resource resource' chain chain' target target' : String}
    (hresource : resource ∈ resources) (hresource' : resource' ∈ resources)
    (heq : resource ++ (getChainInfo chain).chainType ++ "/" ++ target =
      resource' ++ (getChainInfo chain').chainType ++ "/" ++ target') :
    (getChainInfo chain).chainType = (getChainInfo chain').chainType ∧ target = target' := by
  obtain ⟨segment, hsegment, hsplit⟩ := exists_segment hresource
  obtain ⟨segment', hsegment', hsplit'⟩ := exists_segment hresource'
  -- neither the resource nor the chain type has a slash in it, so the first two end their parts
  have hlist := congrArg String.toList heq
  simp only [String.toList_append, hsplit, hsplit', List.append_assoc] at hlist
  obtain ⟨-, hrest⟩ := append_separator_inj hsegment hsegment' hlist
  obtain ⟨htype, htarget⟩ := append_separator_inj (notMem_chainType chain)
    (notMem_chainType chain') hrest
  exact ⟨String.toList_inj.mp htype, String.toList_inj.mp htarget⟩

theorem exists_request (haccepted : Accepted data)
    (hsol : upper data.blockchain.text ≠ "SOL") :
    ∃ resource ∈ resources, ∃ target contract,
      getRecommendations data = .ok (some
        ⟨resource ++ (getChainInfo data.blockchain.text).chainType ++ "/" ++ target,
          (getChainInfo data.blockchain.text).chainId, contract⟩) ∧
      (IsAlphanumeric target.toList ↔
        (upper data.blockchain.text = "BTC" →
          ∀ address ∈ given data.walletAddress, IsAlphanumeric (bitcoinMiddle address)) ∧
        (upper data.blockchain.text = "ETC" →
          ∀ hash ∈ given data.transactionHash, IsAlphanumeric hash.toList)) := by
  have hname : data.blockchain.text ≠ "SOL" := by
    intro hname
    rw [hname] at hsol
    exact hsol (by decide)
  unfold getRecommendations
  rw [if_neg hname]
  rcases haccepted.one with ⟨address, haddress, hhash⟩ | ⟨hash, haddress, hhash⟩
  · refine ⟨"tx-count/", List.mem_cons_self, address, given data.tokenContractAddress, ?_, ?_⟩
    · rw [haddress]
      rfl
    · rw [isAlphanumeric_address_iff haccepted haddress, haddress, hhash]
      simp
  · refine ⟨"validate-tx/", List.mem_cons_of_mem _ List.mem_cons_self, hash, none, ?_, ?_⟩
    · rw [haddress, hhash]
      rfl
    · rw [isAlphanumeric_hash_iff haccepted hsol hhash, haddress, hhash]
      simp

/-- **Recommendations ask for what was validated exactly when the blockchain is given in upper case
or is Ethereum to Tracer, and neither the `.*` of an address on BTC nor a hash on ETC takes anything
but letters and digits.** -/
theorem queriesTarget_iff (data : Data) (haccepts : validate data = .ok data)
    (hsol : upper data.blockchain.text ≠ "SOL") : QueriesTarget data ↔ TargetIsPlain data := by
  have haccepted := accepted_of_validate haccepts
  have hchain := getChainInfo_eq_iff haccepted.blockchain
  obtain ⟨resource, hresource, target, contract, hrequest, hplain⟩ := exists_request haccepted hsol
  constructor
  · intro hqueries
    obtain ⟨request, hok, hid, target', halnum, resource', hresource', hendpoint⟩ := hqueries
    rw [hrequest] at hok
    obtain rfl := Option.some.inj (Except.ok.inj hok)
    obtain ⟨htype, rfl⟩ := endpoint_inj hresource hresource' hendpoint
    exact ⟨hchain.mp (ChainInfo.ext hid htype), (hplain.mp halnum).1, (hplain.mp halnum).2⟩
  · intro htarget
    refine ⟨_, hrequest, ?_, target, hplain.mpr ⟨htarget.bitcoinAddress, htarget.classicHash⟩,
      resource, hresource, ?_⟩
    · rw [hchain.mpr htarget.blockchain]
    · rw [hchain.mpr htarget.blockchain]

/-! ### A blockchain in lower case -/

/-- A wallet on a blockchain. -/
def sampleData (blockchain wallet : String) (hblockchain : trim blockchain = blockchain)
    (hwallet : trim wallet = wallet) : Data where
  blockchain := ⟨blockchain, hblockchain⟩
  walletAddress := some ⟨wallet, hwallet⟩
  transactionHash := none
  tokenContractAddress := none
  senderWalletAddress := none
  receiverWalletAddress := none

/-- A wallet on BSC. -/
def sampleBsc : Data :=
  sampleData "BSC" sampleAddress (by decide) (by decide)

/-- The same wallet, with the blockchain in lower case. -/
def sampleLower : Data :=
  sampleData "bsc" sampleAddress (by decide) (by decide)

theorem queriesTarget_iff_bsc :
    validate sampleBsc = .ok sampleBsc ∧ (QueriesTarget sampleBsc ↔ TargetIsPlain sampleBsc) := by
  have haccepts : validate sampleBsc = .ok sampleBsc := rfl
  exact ⟨haccepts, queriesTarget_iff sampleBsc haccepts (by decide +kernel)⟩

/-- The wallet on `bsc` is accepted as one of BSC and asked for on Ethereum. -/
theorem not_queriesTarget_lower :
    validate sampleLower = .ok sampleLower ∧
      getRecommendations sampleLower =
        .ok (some ⟨"tx-count/evm/0x1111111111111111111111111111111111111111", 1, none⟩) ∧
      ¬ QueriesTarget sampleLower := by
  have hrequest : getRecommendations sampleLower =
      .ok (some ⟨"tx-count/evm/0x1111111111111111111111111111111111111111", 1, none⟩) := rfl
  refine ⟨rfl, hrequest, fun hqueries => ?_⟩
  obtain ⟨request, hok, hid, -⟩ := hqueries
  rw [hrequest] at hok
  obtain rfl := Option.some.inj (Except.ok.inj hok)
  have hbsc : (getChainInfo (upper sampleLower.blockchain.text)).chainId = 56 := by
    decide +kernel
  rw [hbsc] at hid
  cases hid

end CatvService.Recommendations
