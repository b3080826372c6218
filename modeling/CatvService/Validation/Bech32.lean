import CatvService.Library.Checksum
import CatvService.Library.Text

/-!
# Bech32 strings

The reader and the writer of Bech32 strings behind the address check.  The checksum is a linear
shift register of six symbols (`polymodRegister`), so what it detects follows from the register.

* `bech32Decode_eq_some_iff`: what is read is what is written, up to the case of the letters;
* `bech32Decode_eq_none_of_damaged`: a string damaged after its separator is not read, when the
  damage is confined to six adjacent characters or to three characters anywhere.
-/

namespace CatvService.Bech32

open Checksum

/-- The characters of the 32 symbols. -/
def CHARSET : List Char :=
  "qpzry9x8gf2tvdw0s3jn54khce6mua7l".toList

/-- The words that the five upper bits feed back. -/
def generator : List ℕ :=
  [0x3b6a57b2, 0x26508e6d, 0x1ea119fa, 0x3d4233dd, 0x2a1462b3]

/-- `chk ^= generator[i] if ((top >> i) & 1) else 0`, for every `i` of `range(5)`. -/
def feedback (top chk : ℕ) : ℕ :=
  (List.range 5).foldl (fun chk i => chk ^^^ if top >>> i &&& 1 ≠ 0 then generator[i]! else 0) chk

/-- One round of the loop of `bech32_polymod`. -/
def polymodStep (chk value : ℕ) : ℕ :=
  feedback (chk >>> 25) ((chk &&& 0x1ffffff) <<< 5 ^^^ value)

/-- The checksum of a list of values. -/
def bech32Polymod (values : List ℕ) : ℕ :=
  values.foldl polymodStep 1

/-- The values of the human-readable part that the checksum covers. -/
def bech32HrpExpand (hrp : List Char) : List ℕ :=
  hrp.map (fun x => x.toNat >>> 5) ++ [0] ++ hrp.map (fun x => x.toNat &&& 31)

def bech32VerifyChecksum (hrp : List Char) (data : List ℕ) : Bool :=
  bech32Polymod (bech32HrpExpand hrp ++ data) == 1

def bech32CreateChecksum (hrp : List Char) (data : List ℕ) : List ℕ :=
  let values := bech32HrpExpand hrp ++ data
  let polymod := bech32Polymod (values ++ [0, 0, 0, 0, 0, 0]) ^^^ 1
  (List.range 6).map fun i => polymod >>> (5 * (5 - i)) &&& 31

/-- The string of a human-readable part and its data; a value that is no symbol raises. -/
def bech32Encode (hrp : List Char) (data : List ℕ) : Option (List Char) :=
  ((data ++ bech32CreateChecksum hrp data).mapM fun d => CHARSET[d]?).map fun symbols =>
    hrp ++ '1' :: symbols

/-- `s.lower()` on the characters of a string.  What is outside ASCII is refused beside it, or
compared with letters that it never becomes. -/
def lower (s : List Char) : List Char :=
  s.map Char.toLower

/-- `s.upper()` on the characters of a string, of which those outside ASCII are refused. -/
def upper (s : List Char) : List Char :=
  s.map Char.toUpper

/-- The lower-case string `bech`, read with the separator at `pos`. -/
def decodeAt (bech : List Char) (pos : ℕ) : Option (List Char × List ℕ) :=
  if pos < 1 ∨ pos + 7 > bech.length ∨ bech.length > 90 then
    none
  else if ¬ (bech.drop (pos + 1)).all (fun x => CHARSET.contains x) then
    none
  else
    let hrp := bech.take pos
    let data := (bech.drop (pos + 1)).map fun x => CHARSET.idxOf x
    if ¬ bech32VerifyChecksum hrp data then
      none
    else
      some (hrp, data.take (data.length - 6))

/-- The human-readable part and the data of a string; nothing stands for `(None, None)`. -/
def bech32Decode (bech : List Char) : Option (List Char × List ℕ) :=
  if bech.any (fun x => x.toNat < 33 ∨ x.toNat > 126) ∨
      (lower bech ≠ bech ∧ upper bech ≠ bech) then
    none
  else
    (PyText.rfind '1' (lower bech)).bind (decodeAt (lower bech))

example : bech32Decode "A12UEL5L".toList = some ("a".toList, []) := by
  decide +kernel

/-! ## The checksum register -/

/-- The bits of `top` that a generator word is fed back for. -/
def tap (top i word : ℕ) : ℕ :=
  if top.testBit i then word else 0

theorem tap_xor (s t i word : ℕ) : tap (s ^^^ t) i word = tap s i word ^^^ tap t i word := by
  unfold tap
  rw [Nat.testBit_xor]
  cases s.testBit i <;> cases t.testBit i <;> simp

/-- The words fed back, put together. -/
def taps (top : ℕ) : ℕ :=
  tap top 0 0x3b6a57b2 ^^^ tap top 1 0x26508e6d ^^^ tap top 2 0x1ea119fa ^^^
    tap top 3 0x3d4233dd ^^^ tap top 4 0x2a1462b3

theorem feedback_eq (top chk : ℕ) : feedback top chk = chk ^^^ taps top := by
  have htap : ∀ i word, (if top >>> i &&& 1 ≠ 0 then word else 0) = tap top i word := by
    intro i word
    simp only [tap, Nat.testBit, Nat.and_comm 1, bne_iff_ne]
  simp only [feedback, List.range_succ_eq_map, List.range_zero, List.map_nil, List.map_cons,
    List.foldl_cons, List.foldl_nil, htap, generator]
  simp only [taps, Nat.xor_assoc]
  rfl

theorem taps_xor (s t : ℕ) : taps (s ^^^ t) = taps s ^^^ taps t := by
  simp only [taps, tap_xor]
  ac_rfl

theorem polymodStep_eq (chk value : ℕ) :
    polymodStep chk value = chk % 2 ^ 25 * 2 ^ 5 ^^^ value ^^^ taps (chk / 2 ^ 25) := by
  rw [polymodStep, feedback_eq, Nat.shiftRight_eq_div_pow, Nat.shiftLeft_eq,
    show 0x1ffffff = 2 ^ 25 - 1 by rfl, Nat.and_two_pow_sub_one_eq_mod]

theorem polymodStep_xor (c d v w : ℕ) :
    polymodStep (c ^^^ d) (v ^^^ w) = polymodStep c v ^^^ polymodStep d w := by
  have hlow : (c ^^^ d) % 2 ^ 25 * 2 ^ 5 = c % 2 ^ 25 * 2 ^ 5 ^^^ d % 2 ^ 25 * 2 ^ 5 := by
    rw [Nat.xor_mod_two_pow, ← Nat.shiftLeft_eq, Nat.shiftLeft_xor_distrib, Nat.shiftLeft_eq,
      Nat.shiftLeft_eq]
  have hhigh : (c ^^^ d) / 2 ^ 25 = c / 2 ^ 25 ^^^ d / 2 ^ 25 := by
    rw [← Nat.shiftRight_eq_div_pow, Nat.shiftRight_xor_distrib, Nat.shiftRight_eq_div_pow,
      Nat.shiftRight_eq_div_pow]
  rw [polymodStep_eq, polymodStep_eq, polymodStep_eq, hlow, hhigh, taps_xor]
  ac_rfl

theorem taps_lt (top : ℕ) : taps top < 2 ^ 30 := by
  have htap : ∀ i word, word < 2 ^ 30 → tap top i word < 2 ^ 30 := by
    intro i word hword
    unfold tap
    split <;> omega
  unfold taps
  iterate 4 apply Nat.xor_lt_two_pow
  all_goals exact htap _ _ (by decide)

/-- What is fed back can be told from its lower five bits. -/
theorem eq_zero_of_taps {top : ℕ} (htop : top < 32) (hzero : taps top % 32 = 0) : top = 0 := by
  revert top
  decide

/-- The checksum's register: 30 bits, symbols of five bits. -/
def polymodRegister : Register where
  low := 25
  symbol := 5
  step := polymodStep
  step_lt := by
    intro c v hc hv
    rw [polymodStep_eq]
    apply Nat.xor_lt_two_pow _ (taps_lt _)
    apply Nat.xor_lt_two_pow
    · have hmod : c % 2 ^ 25 < 2 ^ 25 := Nat.mod_lt _ (by decide)
      omega
    · exact hv.trans_le (by decide)
  step_xor := polymodStep_xor
  eq_zero_of_step := by
    intro c hc hzero
    rw [polymodStep_eq, Nat.xor_zero] at hzero
    have hequal := Nat.xor_eq_zero_iff.mp hzero
    have htop : c / 2 ^ 25 = 0 := by
      apply eq_zero_of_taps
      · omega
      · rw [← hequal]
        omega
    have hlow : c % 2 ^ 25 * 2 ^ 5 = 0 := by
      rw [hequal, htop]
      rfl
    omega
  step_of_lt := by
    intro c v hc hv
    have hquotient : (c * 2 ^ 5 ^^^ v) / 2 ^ 5 = c := by
      rw [← Nat.shiftRight_eq_div_pow, Nat.shiftRight_xor_distrib, Nat.shiftRight_eq_div_pow,
        Nat.shiftRight_eq_div_pow, Nat.div_eq_of_lt hv, Nat.xor_zero,
        Nat.mul_div_cancel _ (by decide)]
    have hremainder : (c * 2 ^ 5 ^^^ v) % 2 ^ 5 = v := by
      rw [Nat.xor_mod_two_pow, Nat.mul_mod_left, Nat.zero_xor, Nat.mod_eq_of_lt hv]
    rw [polymodStep_eq, Nat.mod_eq_of_lt hc, Nat.div_eq_of_lt hc, show taps 0 = 0 by rfl,
      Nat.xor_zero]
    omega

theorem bech32Polymod_eq (values : List ℕ) : bech32Polymod values = polymodRegister.run 1 values :=
  rfl

theorem distinctSyndromes : polymodRegister.DistinctSyndromes 87 :=
  Register.distinct_of_bits (show Register.distinctByBits 25 _ = true by decide +kernel)

/-! ## Reading and writing -/

theorem getElem?_idxOf_charset {x : Char} (hx : x ∈ CHARSET) : CHARSET[CHARSET.idxOf x]? = some x :=
  List.getElem?_idxOf hx

theorem idxOf_charset_lt {x : Char} (hx : x ∈ CHARSET) : CHARSET.idxOf x < 32 :=
  List.idxOf_lt_length_of_mem hx

/-- The symbols of a text of the charset are the values it was written from. -/
theorem mapM_charset_eq_some_iff {values : List ℕ} {symbols : List Char} :
    values.mapM (fun d => CHARSET[d]?) = some symbols ↔
      (∀ x ∈ symbols, x ∈ CHARSET) ∧ symbols.map (fun x => CHARSET.idxOf x) = values := by
  have hnodup : CHARSET.Nodup := by decide
  induction values generalizing symbols with
  | nil =>
      simp only [List.mapM_nil, List.map_eq_nil_iff]
      constructor
      · intro hsome
        obtain rfl : [] = symbols := Option.some.inj hsome
        exact ⟨by simp, rfl⟩
      · intro hempty
        rw [hempty.2]
        rfl
  | cons d values ih =>
      simp only [List.mapM_cons, Option.bind_eq_bind, Option.bind_eq_some_iff, Option.pure_def,
        Option.some.injEq]
      constructor
      · rintro ⟨x, hx, rest, hrest, rfl⟩
        obtain ⟨hcharset, hvalues⟩ := ih.mp hrest
        obtain ⟨hd, hget⟩ := List.getElem?_eq_some_iff.mp hx
        refine ⟨List.forall_mem_cons.mpr ⟨hget ▸ List.getElem_mem hd, hcharset⟩, ?_⟩
        rw [List.map_cons, hvalues, ← hget, hnodup.idxOf_getElem]
      · rintro ⟨hcharset, hvalues⟩
        obtain ⟨x, rest, rfl, hx, hrest⟩ := List.map_eq_cons_iff.mp hvalues
        obtain ⟨hmem, hcharset⟩ := List.forall_mem_cons.mp hcharset
        exact ⟨x, hx ▸ getElem?_idxOf_charset hmem, rest, ih.mpr ⟨hcharset, hrest⟩, rfl⟩

theorem separator_notMem {symbols : List Char} (hcharset : ∀ x ∈ symbols, x ∈ CHARSET) :
    '1' ∉ symbols :=
  fun hmem => absurd (hcharset '1' hmem) (by decide)

theorem symbols_read {symbols : List Char} (hcharset : ∀ x ∈ symbols, x ∈ CHARSET) :
    polymodRegister.Symbols (symbols.map fun x => CHARSET.idxOf x) := by
  intro v hv
  obtain ⟨x, hx, rfl⟩ := List.mem_map.mp hv
  exact idxOf_charset_lt (hcharset x hx)

/-- The characters that a Bech32 string may have. -/
def Printable (s : List Char) : Prop :=
  ∀ x ∈ s, 33 ≤ x.toNat ∧ x.toNat ≤ 126

theorem symbols_hrpExpand {hrp : List Char} (hprintable : Printable hrp) :
    polymodRegister.Symbols (bech32HrpExpand hrp) := by
  intro v hv
  simp only [bech32HrpExpand, List.mem_append, List.mem_map, List.mem_singleton] at hv
  obtain (⟨x, hx, rfl⟩ | rfl) | ⟨x, hx, rfl⟩ := hv
  · have hbound := (hprintable x hx).2
    rw [Nat.shiftRight_eq_div_pow]
    exact show x.toNat / 2 ^ 5 < 2 ^ 5 by omega
  · exact show 0 < 2 ^ 5 by decide
  · rw [show (31 : ℕ) = 2 ^ 5 - 1 by rfl, Nat.and_two_pow_sub_one_eq_mod]
    exact Nat.mod_lt _ (by decide)

theorem createChecksum_eq (hrp : List Char) (data : List ℕ) :
    bech32CreateChecksum hrp data =
      Register.digits 5 6
        (polymodRegister.run 1 (bech32HrpExpand hrp ++ data ++ List.replicate 6 0) ^^^ 1) := by
  simp only [bech32CreateChecksum, bech32Polymod_eq, Register.digits, List.range_succ_eq_map,
    List.range_zero, List.map_nil, List.map_cons, Nat.shiftRight_eq_div_pow, Nat.div_div_eq_div_mul,
    show (31 : ℕ) = 2 ^ 5 - 1 by rfl, Nat.and_two_pow_sub_one_eq_mod]
  simp [List.replicate_succ]

theorem length_createChecksum (hrp : List Char) (data : List ℕ) :
    (bech32CreateChecksum hrp data).length = 6 := by
  simp [bech32CreateChecksum]

/-- **The checksum values are the only ones that verify.** -/
theorem verify_append_iff {hrp : List Char} {data checksum : List ℕ} (hhrp : Printable hrp)
    (hdata : polymodRegister.Symbols data) (hchecksum : polymodRegister.Symbols checksum)
    (hlength : checksum.length = 6) :
    bech32VerifyChecksum hrp (data ++ checksum) = true ↔
      checksum = bech32CreateChecksum hrp data := by
  have hvalues : polymodRegister.Symbols (bech32HrpExpand hrp ++ data) := by
    intro v hv
    rcases List.mem_append.mp hv with hmem | hmem
    · exact symbols_hrpExpand hhrp v hmem
    · exact hdata v hmem
  have hone : 1 < 2 ^ (polymodRegister.low + polymodRegister.symbol) := by decide
  have hcreated : polymodRegister.run 1
      (bech32HrpExpand hrp ++ data ++ bech32CreateChecksum hrp data) = 1 := by
    rw [createChecksum_eq]
    exact polymodRegister.run_append_digits hone hone hvalues rfl
  rw [bech32VerifyChecksum, bech32Polymod_eq, beq_iff_eq, ← List.append_assoc]
  constructor
  · intro hverified
    apply polymodRegister.digits_unique hchecksum _ (hlength.trans (length_createChecksum _ _).symm)
      _ (hverified.trans hcreated.symm)
    · rw [createChecksum_eq]
      exact polymodRegister.symbols_digits 6 _
    · rw [hlength]
      decide
  · intro hequal
    rw [hequal, hcreated]

theorem decodeAt_eq_some {front symbols hrp : List Char} {data : List ℕ} :
    decodeAt (front ++ '1' :: symbols) front.length = some (hrp, data) ↔
      front ≠ [] ∧ 6 ≤ symbols.length ∧ (front ++ '1' :: symbols).length ≤ 90 ∧
        (∀ x ∈ symbols, x ∈ CHARSET) ∧
        bech32VerifyChecksum front (symbols.map fun x => CHARSET.idxOf x) = true ∧
        hrp = front ∧ data = (symbols.map fun x => CHARSET.idxOf x).take (symbols.length - 6) := by
  have hdrop : (front ++ '1' :: symbols).drop (front.length + 1) = symbols := by
    rw [← List.drop_drop, List.drop_left]
    rfl
  have hlength : (front ++ '1' :: symbols).length = front.length + symbols.length + 1 := by
    rw [List.length_append, List.length_cons]
    omega
  have hnonempty : front ≠ [] ↔ ¬front.length < 1 := by
    rw [Nat.lt_one_iff, List.length_eq_zero_iff]
  have hall : symbols.all (fun x => CHARSET.contains x) = true ↔ ∀ x ∈ symbols, x ∈ CHARSET := by
    simp only [List.all_eq_true, List.contains_iff_mem]
  unfold decodeAt
  rw [hdrop, List.take_left, hlength, hnonempty]
  split
  · rename_i hbad
    constructor
    · intro hread
      cases hread
    · intro hgood
      omega
  · rename_i hgood
    split
    · rename_i hbad
      constructor
      · intro hread
        cases hread
      · intro hparts
        exact absurd (hall.mpr hparts.2.2.2.1) hbad
    · rename_i hcharset
      rw [not_not, hall] at hcharset
      simp only [List.length_map, ite_not, Option.ite_none_right_eq_some, Option.some.injEq,
        Prod.mk.injEq]
      constructor
      · rintro ⟨hverified, rfl, rfl⟩
        exact ⟨by omega, by omega, by omega, hcharset, hverified, rfl, rfl⟩
      · rintro ⟨-, -, -, -, hverified, rfl, rfl⟩
        exact ⟨hverified, rfl, rfl⟩

/-- What reading a string amounts to. -/
theorem bech32Decode_eq_some {bech hrp : List Char} {data : List ℕ} :
    bech32Decode bech = some (hrp, data) ↔
      Printable bech ∧ (lower bech = bech ∨ upper bech = bech) ∧ bech.length ≤ 90 ∧ hrp ≠ [] ∧
        ∃ symbols, lower bech = hrp ++ '1' :: symbols ∧ (∀ x ∈ symbols, x ∈ CHARSET) ∧
          6 ≤ symbols.length ∧
          bech32VerifyChecksum hrp (symbols.map fun x => CHARSET.idxOf x) = true ∧
          data = (symbols.map fun x => CHARSET.idxOf x).take (symbols.length - 6) := by
  have hlength : (lower bech).length = bech.length := List.length_map _
  have hguard : ¬(bech.any (fun x => x.toNat < 33 ∨ x.toNat > 126) = true ∨
      (lower bech ≠ bech ∧ upper bech ≠ bech)) ↔
        Printable bech ∧ (lower bech = bech ∨ upper bech = bech) := by
    rw [not_or, not_and_or, not_not, not_not]
    apply and_congr_left'
    simp [Printable]
  rw [bech32Decode, Option.ite_none_left_eq_some, hguard, and_assoc]
  refine and_congr_right fun _ => and_congr_right fun _ => ?_
  rw [Option.bind_eq_some_iff]
  constructor
  · rintro ⟨pos, hfind, hread⟩
    obtain ⟨front, symbols, hsplit, -, rfl⟩ := PyText.rfind_eq_some_iff.mp hfind
    rw [hsplit, decodeAt_eq_some, ← hsplit, hlength] at hread
    obtain ⟨hfront, hsix, hninety, hcharset, hverified, rfl, hdata⟩ := hread
    exact ⟨hninety, hfront, symbols, hsplit, hcharset, hsix, hverified, hdata⟩
  · rintro ⟨hninety, hhrp, symbols, hsplit, hcharset, hsix, hverified, hdata⟩
    refine ⟨hrp.length, ?_, ?_⟩
    · rw [hsplit, PyText.rfind_append (separator_notMem hcharset)]
    · rw [hsplit, decodeAt_eq_some, ← hsplit, hlength]
      exact ⟨hhrp, hsix, hninety, hcharset, hverified, rfl, hdata⟩

theorem lower_printable {s : List Char} (hprintable : Printable s) : Printable (lower s) := by
  intro x hx
  obtain ⟨c, hc, rfl⟩ := List.mem_map.mp hx
  have hbound := hprintable c hc
  unfold Char.toLower
  split
  · rename_i hupper
    have hA := UInt32.le_iff_toNat_le.mp hupper.1
    have hZ := UInt32.le_iff_toNat_le.mp hupper.2
    simp only [Char.toNat, UInt32.toNat_add] at hA hZ hbound ⊢
    simp at hA hZ ⊢
    omega
  · exact hbound

/-- A printable string is in lower case what is written for a human-readable part and data exactly
when it has them around its separator, with a checksum that verifies. -/
theorem encode_lower_iff {bech hrp : List Char} {data : List ℕ} (hprintable : Printable bech) :
    bech32Encode hrp data = some (lower bech) ↔
      ∃ symbols, lower bech = hrp ++ '1' :: symbols ∧ (∀ x ∈ symbols, x ∈ CHARSET) ∧
        6 ≤ symbols.length ∧
        bech32VerifyChecksum hrp (symbols.map fun x => CHARSET.idxOf x) = true ∧
        data = (symbols.map fun x => CHARSET.idxOf x).take (symbols.length - 6) := by
  have hhrp : ∀ symbols, lower bech = hrp ++ '1' :: symbols → Printable hrp :=
    fun symbols hsplit x hx => lower_printable hprintable x (hsplit ▸ List.mem_append_left _ hx)
  simp only [bech32Encode, Option.map_eq_some_iff, mapM_charset_eq_some_iff]
  constructor
  · rintro ⟨symbols, ⟨hcharset, hvalues⟩, hsplit⟩
    have hsymbols := symbols_read hcharset
    have hlength : symbols.length = data.length + 6 := by
      rw [← length_createChecksum hrp data, ← List.length_append, ← hvalues, List.length_map]
    rw [hvalues] at hsymbols
    refine ⟨symbols, hsplit.symm, hcharset, by omega, ?_, ?_⟩
    · rw [hvalues]
      exact (verify_append_iff (hhrp symbols hsplit.symm)
        (fun v hv => hsymbols v (List.mem_append_left _ hv))
        (fun v hv => hsymbols v (List.mem_append_right _ hv))
        (length_createChecksum hrp data)).mpr rfl
    · rw [hvalues, hlength, Nat.add_sub_cancel, List.take_left]
  · rintro ⟨symbols, hsplit, hcharset, hsix, hverified, rfl⟩
    refine ⟨symbols, ⟨hcharset, ?_⟩, hsplit.symm⟩
    have hsymbols := symbols_read hcharset
    rw [← List.take_append_drop (symbols.length - 6) (symbols.map fun x => CHARSET.idxOf x)]
      at hverified hsymbols
    have hchecksum := (verify_append_iff (hhrp symbols hsplit)
      (fun v hv => hsymbols v (List.mem_append_left _ hv))
      (fun v hv => hsymbols v (List.mem_append_right _ hv))
      (by rw [List.length_drop, List.length_map]; omega)).mp hverified
    rw [← hchecksum, List.take_append_drop]

theorem encode_of_decode {bech hrp : List Char} {data : List ℕ}
    (hread : bech32Decode bech = some (hrp, data)) :
    bech32Encode hrp data = some (lower bech) := by
  obtain ⟨hprintable, -, -, -, hsymbols⟩ := bech32Decode_eq_some.mp hread
  exact (encode_lower_iff hprintable).mpr hsymbols

/-- **What is read is what is written.** A string is read as a human-readable part and data exactly
when it is printable, not of mixed case and of at most 90 characters, and its lower-case form is
the string written for them. -/
theorem bech32Decode_eq_some_iff (bech hrp : List Char) (data : List ℕ) :
    bech32Decode bech = some (hrp, data) ↔
      Printable bech ∧ (lower bech = bech ∨ upper bech = bech) ∧ bech.length ≤ 90 ∧ hrp ≠ [] ∧
        bech32Encode hrp data = some (lower bech) := by
  rw [bech32Decode_eq_some]
  refine and_congr_right fun hprintable => and_congr_right fun _ => and_congr_right fun _ =>
    and_congr_right fun _ => ?_
  rw [encode_lower_iff hprintable]

/-! ## Damaged strings -/

/-- The number of positions in which two strings differ. -/
def mismatches (s t : List Char) : ℕ :=
  (s.zip t).countP fun p => p.1 ≠ p.2

/-- Two strings differ within six adjacent characters at most. -/
def DifferWithinSix (s t : List Char) : Prop :=
  ∃ front xs ys back, s = front ++ (xs ++ back) ∧ t = front ++ (ys ++ back) ∧
    xs.length = ys.length ∧ xs.length ≤ 6

/-- The last separator determines both sides. -/
theorem split_unique {hrp hrp' symbols symbols' : List Char} (hsymbols : '1' ∉ symbols)
    (hsymbols' : '1' ∉ symbols') (hequal : hrp ++ '1' :: symbols = hrp' ++ '1' :: symbols') :
    hrp = hrp' ∧ symbols = symbols' := by
  have hlength : hrp.length = hrp'.length := by
    apply Option.some.inj
    rw [← PyText.rfind_append hsymbols hrp, hequal, PyText.rfind_append hsymbols' hrp']
  obtain ⟨hfront, hback⟩ := List.append_inj hequal hlength
  exact ⟨hfront, (List.cons.inj hback).2⟩

theorem weight_difference_le (s t : List Char) :
    Register.weight (Register.difference (s.map fun x => CHARSET.idxOf x)
      (t.map fun x => CHARSET.idxOf x)) ≤ mismatches s t := by
  induction s generalizing t with
  | nil => simp [Register.weight, Register.difference]
  | cons x s ih =>
      cases t with
      | nil => simp [Register.weight, Register.difference]
      | cons y t =>
          have hrest := ih t
          simp only [Register.weight, Register.difference, mismatches, List.map_cons,
            List.zipWith_cons_cons, List.zip_cons_cons, List.countP_cons] at hrest ⊢
          apply add_le_add hrest
          by_cases hsame : x = y
          · simp [hsame]
          · simp only [hsame, ne_eq, not_false_eq_true, decide_true, if_true]
            split <;> omega

theorem map_idxOf_injective {s t : List Char} (hs : ∀ x ∈ s, x ∈ CHARSET)
    (ht : ∀ x ∈ t, x ∈ CHARSET)
    (hequal : s.map (fun x => CHARSET.idxOf x) = t.map fun x => CHARSET.idxOf x) : s = t := by
  have hwritten := mapM_charset_eq_some_iff.mpr ⟨hs, hequal⟩
  rw [mapM_charset_eq_some_iff.mpr ⟨ht, rfl⟩] at hwritten
  exact (Option.some.inj hwritten).symm

/-- **Damage is noticed.** A string that was read, and whose characters after the separator were
replaced in three positions at most or within six adjacent ones, is not read any more. -/
theorem bech32Decode_eq_none_of_damaged {bech damaged hrp symbols symbols' : List Char}
    {data : List ℕ} (hread : bech32Decode bech = some (hrp, data))
    (hsplit : lower bech = hrp ++ '1' :: symbols)
    (hdamaged : lower damaged = hrp ++ '1' :: symbols')
    (hlength : symbols'.length = symbols.length) (hseparator : '1' ∉ symbols')
    (hne : symbols ≠ symbols')
    (hfew : mismatches symbols symbols' ≤ 3 ∨ DifferWithinSix symbols symbols') :
    bech32Decode damaged = none := by
  by_contra hsome
  obtain ⟨⟨hrp', data'⟩, hread'⟩ := Option.ne_none_iff_exists'.mp hsome
  obtain ⟨-, -, hninety, hhrp, read, hsplit₀, hcharset, -, hverified, -⟩ :=
    bech32Decode_eq_some.mp hread
  obtain ⟨-, -, -, -, read', hsplit', hcharset', -, hverified', -⟩ :=
    bech32Decode_eq_some.mp hread'
  obtain rfl : read = symbols :=
    (List.cons.inj (List.append_cancel_left (hsplit₀.symm.trans hsplit))).2
  obtain ⟨rfl, rfl⟩ := split_unique (separator_notMem hcharset') hseparator
    (hsplit'.symm.trans hdamaged)
  -- Both checksums are one, and the human-readable parts leave the register the same.
  have hequal : polymodRegister.run 1 (bech32HrpExpand hrp' ++ read.map fun x => CHARSET.idxOf x) =
      polymodRegister.run 1 (bech32HrpExpand hrp' ++ read'.map fun x => CHARSET.idxOf x) := by
    rw [bech32VerifyChecksum, beq_iff_eq, bech32Polymod_eq] at hverified hverified'
    rw [hverified, hverified']
  rcases hfew with hthree | ⟨front, xs, ys, back, rfl, rfl, hsame, hsix⟩
  · rw [Register.run_append, Register.run_append] at hequal
    have hbound : read.length ≤ 87 + 1 := by
      have htotal := congrArg List.length hsplit
      rw [lower, List.length_map, List.length_append, List.length_cons] at htotal
      have hpos := List.length_pos_iff.mpr hhrp
      omega
    refine polymodRegister.run_ne_of_weight_le_three distinctSyndromes (symbols_read hcharset)
      (symbols_read hcharset') (by simp [hlength]) (by simpa using hbound)
      ((weight_difference_le _ _).trans hthree) ?_ hequal
    exact fun hmap => hne (map_idxOf_injective hcharset hcharset' hmap)
  · have hxs : ∀ x ∈ xs, x ∈ CHARSET := fun x hx => hcharset x (by simp [hx])
    have hys : ∀ x ∈ ys, x ∈ CHARSET := fun x hx => hcharset' x (by simp [hx])
    simp only [List.map_append, ← List.append_assoc] at hequal
    simp only [List.append_assoc] at hequal
    rw [← List.append_assoc, ← List.append_assoc (bech32HrpExpand hrp')] at hequal
    refine polymodRegister.run_ne_of_burst (symbols_read hxs) (symbols_read hys) (by simp [hsame])
      ?_ ?_ hequal
    · rw [List.length_map]
      exact show 5 * xs.length ≤ 25 + 5 by omega
    · intro hmap
      exact hne (by rw [map_idxOf_injective hxs hys hmap])

theorem bech32Decode_eq_none_of_damaged_last :
    bech32Decode "A12UEL5L".toList = some ("a".toList, []) ∧
      bech32Decode "A12UEL5Q".toList = none := by
  have hread : bech32Decode "A12UEL5L".toList = some ("a".toList, []) := by decide +kernel
  have hsplit : lower "A12UEL5L".toList = "a".toList ++ '1' :: "2uel5l".toList := by decide
  have hdamaged : lower "A12UEL5Q".toList = "a".toList ++ '1' :: "2uel5q".toList := by decide
  exact ⟨hread, bech32Decode_eq_none_of_damaged hread hsplit hdamaged (by decide) (by decide)
    (by decide) (.inl (by decide))⟩

end CatvService.Bech32
