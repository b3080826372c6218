import CatvService.Library.Value
import CatvService.Validation.Bech32

/-!
# The address check without a chain

`validate_addr` when the request names no chain.  It goes by the first characters of the address:
`0x` is left to the checksum of the web3 library, `bc1` to the Bech32 reader, and the Base58
addresses to `validate_coin`, whose answer is a boolean that the check asks for its `valid`.

`validateAddr_eq_some_iff` lists the accepted addresses.  Of the Bech32 strings all are accepted
whose human-readable part is `bc` or begins with `bc1`; no Base58 address is.
-/

namespace CatvService.AddressCheck

open Bech32 PyValue

-- `Web3.to_checksum_address`, which raises on what is no address.
variable (toChecksumAddress : List Char → Except PyErr (List Char))

-- `validate_coin`, which raises on what it cannot decode.
variable (validateCoin : List Char → Except PyErr Bool)

/-- The body of `validate_addr` for an address that is not empty. -/
def checkWithoutChain (addr : List Char) : Except PyErr (Option (List Char)) :=
  if lower (addr.take 3) ≠ "bc1".toList ∧ lower (addr.take 2) ≠ "0x".toList ∧
      lower (addr.take 1) ≠ "1".toList ∧ lower (addr.take 1) ≠ "3".toList then
    .ok none
  else if lower (addr.take 2) = "0x".toList then
    match toChecksumAddress addr with
    | .ok checksum => .ok (some (lower checksum))
    | .error .valueError => .ok none
    | .error e => .error e
  else if lower (addr.take 3) = "bc1".toList then
    match (bech32Decode addr).map Prod.fst with
    | some (_ :: _) => .ok (some addr)
    | _ => .ok none
  else do
    -- The answer is `True` or `False`, and neither has a `valid`.
    let _ ← validateCoin addr
    .error .attributeError

/-- `validate_addr(addr)`: every exception is an address that is not valid. -/
def validateAddr (addr : List Char) : Option (List Char) :=
  if addr = [] then
    none
  else
    match checkWithoutChain toChecksumAddress validateCoin addr with
    | .ok result => result
    | .error _ => none

variable {toChecksumAddress} {validateCoin}

theorem lower_take (n : ℕ) (s : List Char) : lower (s.take n) = (lower s).take n :=
  List.map_take

/-- A string that begins with `bc1` has its last separator there, or a human-readable part that
begins with `bc1` too. -/
theorem take_three_eq_bc1_iff {hrp symbols : List Char} :
    (hrp ++ '1' :: symbols).take 3 = "bc1".toList ↔
      hrp = "bc".toList ∨ hrp.take 3 = "bc1".toList := by
  match hrp with
  | [] => simp
  | [_] => simp
  | [_, _] => simp
  | _ :: _ :: _ :: _ => simp

/-- Nothing that does not begin with `0x` or `bc1` is accepted, a Base58 address least of all. -/
theorem checkWithoutChain_of_other {addr : List Char} (hhex : lower (addr.take 2) ≠ "0x".toList)
    (hbech : lower (addr.take 3) ≠ "bc1".toList) (result : List Char) :
    checkWithoutChain toChecksumAddress validateCoin addr ≠ .ok (some result) := by
  unfold checkWithoutChain
  split
  · intro h
    cases h
  · cases validateCoin addr with
    | error e =>
        intro h
        cases h
    | ok valid =>
        intro h
        cases h

theorem not_0x_of_bc1 {addr : List Char} (hbech : lower (addr.take 3) = "bc1".toList) :
    lower (addr.take 2) ≠ "0x".toList := by
  have htwo : lower (addr.take 2) = "bc".toList := by
    rw [lower_take] at hbech ⊢
    calc (lower addr).take 2 = ((lower addr).take 3).take 2 := by rw [List.take_take]; rfl
      _ = "bc".toList := by rw [hbech]; rfl
  rw [htwo]
  decide

theorem checkWithoutChain_of_bc1 {addr : List Char} (hbech : lower (addr.take 3) = "bc1".toList)
    (result : List Char) :
    checkWithoutChain toChecksumAddress validateCoin addr = .ok (some result) ↔
      ∃ hrp data, bech32Decode addr = some (hrp, data) ∧ result = addr := by
  have hhex := not_0x_of_bc1 hbech
  have hfirst : ¬(lower (addr.take 3) ≠ "bc1".toList ∧ lower (addr.take 2) ≠ "0x".toList ∧
      lower (addr.take 1) ≠ "1".toList ∧ lower (addr.take 1) ≠ "3".toList) :=
    fun h => h.1 hbech
  unfold checkWithoutChain
  rw [if_neg hfirst, if_neg hhex, if_pos hbech]
  cases hread : bech32Decode addr with
  | none => simp
  | some read =>
      obtain ⟨hrp, data⟩ := read
      have hhrp : hrp ≠ [] := (bech32Decode_eq_some.mp hread).2.2.2.1
      cases hrp with
      | nil => exact absurd rfl hhrp
      | cons x hrp => simp [eq_comm]

theorem checkWithoutChain_of_0x {addr : List Char} (hhex : lower (addr.take 2) = "0x".toList)
    (result : List Char) :
    checkWithoutChain toChecksumAddress validateCoin addr = .ok (some result) ↔
      ∃ checksum, toChecksumAddress addr = .ok checksum ∧ result = lower checksum := by
  have hfirst : ¬(lower (addr.take 3) ≠ "bc1".toList ∧ lower (addr.take 2) ≠ "0x".toList ∧
      lower (addr.take 1) ≠ "1".toList ∧ lower (addr.take 1) ≠ "3".toList) :=
    fun h => h.2.1 hhex
  unfold checkWithoutChain
  rw [if_neg hfirst, if_pos hhex]
  cases toChecksumAddress addr with
  | ok checksum => simp [eq_comm]
  | error e => cases e <;> simp

/-- What is written begins with `bc1` exactly for the human-readable parts of that kind. -/
theorem take_three_of_encode {hrp s : List Char} {data : List ℕ}
    (hwritten : bech32Encode hrp data = some s) :
    s.take 3 = "bc1".toList ↔ hrp = "bc".toList ∨ hrp.take 3 = "bc1".toList := by
  obtain ⟨symbols, -, rfl⟩ := Option.map_eq_some_iff.mp hwritten
  exact take_three_eq_bc1_iff

/-- **The addresses that are accepted without a chain** are those the web3 library knows, in lower
case, and the Bech32 strings with a human-readable part that is `bc` or begins with `bc1`: printable
strings of one case and of at most 90 characters that are, but for the case, what the writer makes
of some data, be they a program or not. -/
theorem validateAddr_eq_some_iff (addr result : List Char) :
    validateAddr toChecksumAddress validateCoin addr = some result ↔
      (lower (addr.take 2) = "0x".toList ∧
          ∃ checksum, toChecksumAddress addr = .ok checksum ∧ result = lower checksum) ∨
        result = addr ∧ Printable addr ∧ (lower addr = addr ∨ upper addr = addr) ∧
          addr.length ≤ 90 ∧ ∃ hrp data, (hrp = "bc".toList ∨ hrp.take 3 = "bc1".toList) ∧
            bech32Encode hrp data = some (lower addr) := by
  have hbody : validateAddr toChecksumAddress validateCoin addr = some result ↔
      checkWithoutChain toChecksumAddress validateCoin addr = .ok (some result) := by
    unfold validateAddr
    split
    · rename_i hempty
      rw [hempty]
      simp [checkWithoutChain, lower]
    · cases checkWithoutChain toChecksumAddress validateCoin addr <;> simp
  rw [hbody]
  by_cases hbech : lower (addr.take 3) = "bc1".toList
  · rw [checkWithoutChain_of_bc1 hbech, or_iff_right]
    · constructor
      · rintro ⟨hrp, data, hread, rfl⟩
        obtain ⟨hprintable, hcase, hninety, -⟩ := bech32Decode_eq_some.mp hread
        have hwritten := encode_of_decode hread
        rw [lower_take] at hbech
        exact ⟨rfl, hprintable, hcase, hninety, hrp, data, (take_three_of_encode hwritten).mp hbech,
          hwritten⟩
      · rintro ⟨rfl, hprintable, hcase, hninety, hrp, data, hhrp, hwritten⟩
        refine ⟨hrp, data, bech32Decode_eq_some.mpr ?_, rfl⟩
        refine ⟨hprintable, hcase, hninety, ?_, (encode_lower_iff hprintable).mp hwritten⟩
        rintro rfl
        simp at hhrp
    · exact fun hhex => not_0x_of_bc1 hbech hhex.1
  · rw [or_iff_left]
    · by_cases hhex : lower (addr.take 2) = "0x".toList
      · rw [checkWithoutChain_of_0x hhex, and_iff_right hhex]
      · exact iff_of_false (checkWithoutChain_of_other hhex hbech result) fun h => hhex h.1
    · rintro ⟨-, -, -, -, hrp, data, hhrp, hwritten⟩
      apply hbech
      rw [lower_take]
      exact (take_three_of_encode hwritten).mpr hhrp

end CatvService.AddressCheck
