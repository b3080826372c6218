import CatvService.Validation.PublicQuery

/-!
# The token parameter

`validate_addr` and `_get_token` of `api/api_views.py` sort the chains by the same two lists.
`_get_token` compares the chain in upper case with them and drops the token of a UTXO chain;
`validate_addr` compares it in lower case, so that no chain is ever found in them and every token is
matched against the pattern for addresses (`checksToken_of_supported`).

`tokenAgrees_iff` says for which requests the two agree all the same.
-/

namespace CatvService.Validation

open GraphQL PyText PyValue Regex

/-- The text matches the chain's pattern for addresses. -/
def MatchesChain (chain : Chain) (s : String) : Prop :=
  ∃ regex, addressRegex chain = some regex ∧ regex.isMatch s = true

/-- The chains on which the token of a request is not that of a contract: `_get_token` drops it, or
takes it for a symbol. -/
def ignoresToken (chain : Chain) : Bool :=
  decide (chain.code ∈ utxoChains ∨ chain = .xrp)

/-- The token is given, and it is not the one that stands for the chain's own coin. -/
def IsContractToken (token : String) : Prop :=
  token ≠ "" ∧ token ≠ zeroAddress

/-- `validate_addr` accepts exactly the addresses of the chain; on the chains that have tokens, the
token has to be an address of the chain as well. -/
def TokenAgrees (chain : Chain) (addr token : String) : Prop :=
  validateAddr addr chain token = true ↔
    MatchesChain chain addr ∧
      (ignoresToken chain = false → IsContractToken token → MatchesChain chain token)

variable {chain : Chain} {addr token : String}

theorem MatchesChain.ne_empty (hmatch : MatchesChain chain addr) : addr ≠ "" := by
  obtain ⟨regex, hregex, hmatch⟩ := hmatch
  obtain ⟨hwithin, -⟩ := within_and_anchored_addressRegex hregex
  obtain ⟨consumed, rest, haddr, -, hlength⟩ := exists_consumed_of_isMatch hwithin hmatch
  have hpos : 0 < regex.minLength := by
    cases chain <;> cases hregex <;> decide
  rintro rfl
  have hnil : consumed = [] := (List.append_eq_nil_iff.mp haddr.symm).1
  rw [hnil] at hlength
  exact absurd hlength (not_le.mpr hpos)

/-- What `validate_addr` checks of a request for a supported chain. -/
theorem validateAddr_iff (hchain : chain ∈ supportedNetworks) :
    validateAddr addr chain token = true ↔
      MatchesChain chain addr ∧ (IsContractToken token → MatchesChain chain token) := by
  have hsome : ∃ regex, addressRegex chain = some regex := by
    cases chain with
    | other code => exact absurd hchain (by simp [supportedNetworks])
    | lunc => exact absurd hchain (by decide)
    | _ => exact ⟨_, rfl⟩
  obtain ⟨regex, hregex⟩ := hsome
  have hmatches : ∀ s, MatchesChain chain s ↔ regex.isMatch s = true := by
    intro s
    unfold MatchesChain
    rw [hregex]
    simp
  -- on a supported chain the token is checked unless it is empty or stands for the chain's coin
  have hchecks : checksToken chain token = true ↔ IsContractToken token := by
    rw [checksToken_of_supported hchain, decide_eq_true_eq, IsContractToken]
  rw [hmatches, hmatches, ← hchecks]
  unfold validateAddr
  rw [hregex]
  simp only [Bool.and_eq_true, Bool.or_eq_true, Bool.not_eq_true', decide_eq_true_eq]
  constructor
  · intro haccepts
    refine ⟨haccepts.1.2, fun htoken => haccepts.2.resolve_left ?_⟩
    rw [htoken]
    exact Bool.noConfusion
  · intro hmatch
    refine ⟨⟨⟨((hmatches addr).mpr hmatch.1).ne_empty, hchain⟩, hmatch.1⟩, ?_⟩
    cases htoken : checksToken chain token with
    | false => exact .inl rfl
    | true => exact .inr (hmatch.2 htoken)

/-- **Validation and query agree on the token exactly when, on a chain that ignores it, the token of
an address is not given, stands for the chain's own coin, or happens to be an address.** -/
theorem tokenAgrees_iff (hchain : chain ∈ supportedNetworks) (addr token : String) :
    TokenAgrees chain addr token ↔
      (ignoresToken chain = true → MatchesChain chain addr → IsContractToken token →
        MatchesChain chain token) := by
  unfold TokenAgrees
  rw [validateAddr_iff hchain]
  cases hignores : ignoresToken chain with
  | false => simp
  | true =>
      simp only [Bool.true_eq_false, false_imp_iff, and_true, true_imp_iff]
      constructor
      · intro hagrees haddr
        exact (hagrees.mpr haddr).2
      · intro hagrees
        exact ⟨fun haccepts => haccepts.1, fun haddr => ⟨haddr, hagrees haddr⟩⟩

/-- On ETH the token of an address is checked, as it should be. -/
theorem tokenAgrees_eth : TokenAgrees .eth sampleAddress "0x22" :=
  (tokenAgrees_iff (by decide) sampleAddress "0x22").mpr nofun

/-- An address of BTC, with a token that `_get_token` drops. -/
theorem not_tokenAgrees_btc :
    getToken .btc (some "USDT") = none ∧
      ¬ TokenAgrees .btc "1BoatSLRHtKNngkdXEeobR76b53LETtpyT" "USDT" := by
  refine ⟨rfl, fun hagrees => ?_⟩
  have hrejects : validateAddr "1BoatSLRHtKNngkdXEeobR76b53LETtpyT" .btc "USDT" = false := by
    decide +kernel
  have hmatch : MatchesChain .btc "1BoatSLRHtKNngkdXEeobR76b53LETtpyT" :=
    ⟨_, rfl, by decide +kernel⟩
  have haccepts := hagrees.mpr ⟨hmatch, nofun⟩
  rw [hrejects] at haccepts
  cases haccepts

end CatvService.Validation
