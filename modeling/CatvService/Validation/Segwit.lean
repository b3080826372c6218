import CatvService.Library.Value
import CatvService.Validation.Bech32
import Mathlib.Data.Nat.Digits.Lemmas

/-!
# Segwit addresses

A segwit address is a Bech32 string whose data are a version and the bytes of a program, regrouped
from eight to five bits.  `convertbits` regroups numbers of any two widths; its loop keeps the
value of what it has read (`Regrouped`), so that its result is determined by its length and value.

* `convertbits_unpadded_iff` says what the unpadded regrouping accepts;
* `convertbits_iff`: to narrower numbers with padding and back without are inverse to each other;
* `encode_eq_some_iff`: the writer and the reader of addresses are inverse to each other.
-/

namespace CatvService.Bech32

open PyValue

/-! ## Regrouping bits -/

/-- The inner loop: numbers of `tobits` bits are taken off the upper end of the `bits` lowest bits
of `acc`.  The loop takes at most `fuel` of them. -/
def drain (tobits acc : ℕ) : ℕ → ℕ → List ℕ → ℕ × List ℕ
  | 0, bits, ret => (bits, ret)
  | fuel + 1, bits, ret =>
      if bits ≥ tobits then
        drain tobits acc fuel (bits - tobits)
          (ret ++ [acc >>> (bits - tobits) &&& (1 <<< tobits - 1)])
      else
        (bits, ret)

/-- The outer loop: accumulator, its number of bits and the numbers taken off; a number that does
not fit ends it.  A run of the inner loop takes off less than its number of bits. -/
def regroup (frombits tobits : ℕ) : List ℕ → ℕ → ℕ → List ℕ → Option (ℕ × ℕ × List ℕ)
  | [], acc, bits, ret => some (acc, bits, ret)
  | value :: data, acc, bits, ret =>
      if value >>> frombits ≠ 0 then
        none
      else
        let acc := (acc <<< frombits ||| value) &&& (1 <<< (frombits + tobits - 1) - 1)
        let drained := drain tobits acc (bits + frombits) (bits + frombits) ret
        regroup frombits tobits data acc drained.1 drained.2

/-- General power-of-2 base conversion. -/
def convertbits (data : List ℕ) (frombits tobits : ℕ) (pad : Bool) : Option (List ℕ) :=
  (regroup frombits tobits data 0 0 []).bind fun (acc, bits, ret) =>
    let padded := acc <<< (tobits - bits) &&& (1 <<< tobits - 1)
    if pad then
      if bits ≠ 0 then some (ret ++ [padded]) else some ret
    else if bits ≥ frombits ∨ padded ≠ 0 then
      none
    else
      some ret

/-- The number that digits of `width` bits stand for, the highest first. -/
def word (width : ℕ) (digits : List ℕ) : ℕ :=
  Nat.ofDigits (2 ^ width) digits.reverse

@[simp] theorem word_nil (width : ℕ) : word width [] = 0 := rfl

theorem word_append_singleton (width : ℕ) (digits : List ℕ) (v : ℕ) :
    word width (digits ++ [v]) = word width digits * 2 ^ width + v := by
  rw [word, List.reverse_append, List.reverse_singleton, List.singleton_append, Nat.ofDigits_cons,
    word, Nat.mul_comm, Nat.add_comm]

theorem word_singleton (width v : ℕ) : word width [v] = v := by
  rw [word, List.reverse_singleton, Nat.ofDigits_singleton]

theorem word_injective {width : ℕ} {xs ys : List ℕ} (hlength : xs.length = ys.length)
    (hxs : ∀ v ∈ xs, v < 2 ^ width) (hys : ∀ v ∈ ys, v < 2 ^ width)
    (hword : word width xs = word width ys) : xs = ys := by
  rcases Nat.eq_zero_or_pos width with rfl | hpos
  · apply List.ext_getElem hlength
    intro i hi hj
    have hx := hxs _ (List.getElem_mem hi)
    have hy := hys _ (List.getElem_mem hj)
    rw [Nat.pow_zero, Nat.lt_one_iff] at hx hy
    rw [hx, hy]
  · apply List.reverse_injective
    apply Nat.ofDigits_inj_of_len_eq (Nat.one_lt_two_pow hpos.ne')
    · rw [List.length_reverse, List.length_reverse, hlength]
    · exact fun v hv => hxs v (List.mem_reverse.mp hv)
    · exact fun v hv => hys v (List.mem_reverse.mp hv)
    · exact hword

/-- The numbers `ret` and the `bits` lowest bits of `acc` hold what has been read: `total` bits
with the value `value`. -/
structure Regrouped (tobits total value acc bits : ℕ) (ret : List ℕ) : Prop where
  digits : ∀ v ∈ ret, v < 2 ^ tobits
  length : total = tobits * ret.length + bits
  word : word tobits ret = value / 2 ^ bits
  low : acc % 2 ^ bits = value % 2 ^ bits

theorem regrouped_drain {tobits total value acc : ℕ} (hto : 0 < tobits) (fuel bits : ℕ)
    {ret : List ℕ} (hfuel : bits ≤ fuel) (hstate : Regrouped tobits total value acc bits ret) :
    Regrouped tobits total value acc (drain tobits acc fuel bits ret).1
        (drain tobits acc fuel bits ret).2 ∧
      (drain tobits acc fuel bits ret).1 < tobits := by
  induction fuel generalizing bits ret with
  | zero => exact ⟨hstate, by rw [drain]; omega⟩
  | succ fuel ih =>
      rw [drain]
      split
      · rename_i hmore
        apply ih _ (by omega)
        have hbits : 2 ^ bits = 2 ^ (bits - tobits) * 2 ^ tobits := by
          rw [← pow_add, Nat.sub_add_cancel hmore]
        have hdigit : acc >>> (bits - tobits) &&& (1 <<< tobits - 1) =
            value / 2 ^ (bits - tobits) % 2 ^ tobits := by
          rw [Nat.shiftLeft_eq, Nat.one_mul, Nat.and_two_pow_sub_one_eq_mod,
            Nat.shiftRight_eq_div_pow, ← Nat.mod_mul_right_div_self acc,
            ← Nat.mod_mul_right_div_self value, ← hbits, hstate.low]
        refine ⟨?_, ?_, ?_, ?_⟩
        · intro v hv
          rcases List.mem_append.mp hv with hmem | hmem
          · exact hstate.digits v hmem
          · rw [List.mem_singleton.mp hmem, hdigit]
            exact Nat.mod_lt _ (Nat.two_pow_pos _)
        · rw [hstate.length, List.length_append, List.length_singleton, Nat.mul_succ]
          omega
        · rw [word_append_singleton, hstate.word, hdigit, hbits, ← Nat.div_div_eq_div_mul]
          exact Nat.div_add_mod' _ _
        · have hlow := congrArg (· % 2 ^ (bits - tobits)) hstate.low
          simpa only [hbits, Nat.mod_mul_right_mod] using hlow
      · rename_i hdone
        exact ⟨hstate, by omega⟩

theorem read_div {frombits v : ℕ} (hv : v < 2 ^ frombits) (a : ℕ) :
    (a * 2 ^ frombits + v) / 2 ^ frombits = a := by
  rw [Nat.mul_comm, Nat.mul_add_div (Nat.two_pow_pos _), Nat.div_eq_of_lt hv, Nat.add_zero]

theorem read_mod {frombits v : ℕ} (hv : v < 2 ^ frombits) (a bits : ℕ) :
    (a * 2 ^ frombits + v) % 2 ^ (bits + frombits) = a % 2 ^ bits * 2 ^ frombits + v := by
  rw [Nat.add_comm bits, pow_add, Nat.mod_mul, read_div hv, Nat.mul_comm a, Nat.mul_add_mod,
    Nat.mod_eq_of_lt hv, Nat.mul_comm, Nat.add_comm]

/-- One number more. -/
theorem regrouped_read {frombits tobits total old acc bits v : ℕ} {ret : List ℕ}
    (hbits : bits < tobits) (hv : v < 2 ^ frombits)
    (hstate : Regrouped tobits total old acc bits ret) :
    Regrouped tobits (total + frombits) (old * 2 ^ frombits + v)
      ((acc <<< frombits ||| v) &&& (1 <<< (frombits + tobits - 1) - 1)) (bits + frombits) ret := by
  refine ⟨hstate.digits, by rw [hstate.length]; omega, ?_, ?_⟩
  · rw [hstate.word, Nat.add_comm bits, pow_add, ← Nat.div_div_eq_div_mul, read_div hv]
  · have hmask : 2 ^ (bits + frombits) ∣ 2 ^ (frombits + tobits - 1) :=
      Nat.pow_dvd_pow 2 (by omega)
    rw [← Nat.shiftLeft_add_eq_or_of_lt hv, Nat.shiftLeft_eq, Nat.shiftLeft_eq, Nat.one_mul,
      Nat.and_two_pow_sub_one_eq_mod, Nat.mod_mod_of_dvd _ hmask, read_mod hv, read_mod hv,
      hstate.low]

theorem word_append (width : ℕ) (front back : List ℕ) :
    word width (front ++ back) =
      word width front * 2 ^ (width * back.length) + word width back := by
  induction back using List.reverseRecOn with
  | nil => simp
  | append_singleton back v ih =>
      rw [← List.append_assoc, word_append_singleton, ih, word_append_singleton,
        List.length_append, List.length_singleton, Nat.mul_succ, pow_add]
      ring

/-- **What the loop returns.** It fails exactly on a number that does not fit; otherwise the
numbers taken off and the bits left over hold what has been read. -/
theorem regroup_spec {frombits tobits : ℕ} (hto : 0 < tobits) {data : List ℕ}
    {total old acc bits : ℕ} {ret : List ℕ} (hbits : bits < tobits)
    (hstate : Regrouped tobits total old acc bits ret) :
    (∀ v ∈ data, v < 2 ^ frombits) ∧
        (∃ acc' bits' ret', regroup frombits tobits data acc bits ret = some (acc', bits', ret') ∧
          bits' < tobits ∧ Regrouped tobits (total + frombits * data.length)
            (old * 2 ^ (frombits * data.length) + word frombits data) acc' bits' ret') ∨
      (¬∀ v ∈ data, v < 2 ^ frombits) ∧ regroup frombits tobits data acc bits ret = none := by
  induction data generalizing total old acc bits ret with
  | nil => exact .inl ⟨by simp, acc, bits, ret, rfl, hbits, by simpa using hstate⟩
  | cons v data ih =>
      have hfits : v >>> frombits = 0 ↔ v < 2 ^ frombits := by
        rw [Nat.shiftRight_eq_div_pow, Nat.div_eq_zero_iff]
        exact or_iff_right (Nat.two_pow_pos _).ne'
      rw [regroup]
      split
      · rename_i hlarge
        right
        refine ⟨fun hall => hlarge (hfits.mpr (hall v List.mem_cons_self)), rfl⟩
      · rename_i hsmall
        have hv := hfits.mp (not_not.mp hsmall)
        obtain ⟨hnext, hless⟩ := regrouped_drain hto (bits + frombits) _ le_rfl
          (regrouped_read hbits hv hstate)
        have hrest := ih hless hnext
        have htotal : total + frombits + frombits * data.length =
            total + frombits * (v :: data).length := by
          rw [List.length_cons]
          ring
        have hvalue : (old * 2 ^ frombits + v) * 2 ^ (frombits * data.length) +
            word frombits data =
              old * 2 ^ (frombits * (v :: data).length) + word frombits (v :: data) := by
          have hcons := word_append frombits [v] data
          rw [List.singleton_append] at hcons
          rw [hcons, word_singleton, List.length_cons, Nat.mul_succ, pow_add]
          ring
        rw [htotal, hvalue] at hrest
        rw [List.forall_mem_cons, and_iff_right hv]
        exact hrest

/-- The whole loop. -/
theorem regroup_zero {frombits tobits : ℕ} (hto : 0 < tobits) (data : List ℕ) :
    (∀ v ∈ data, v < 2 ^ frombits) ∧
        (∃ acc bits ret, regroup frombits tobits data 0 0 [] = some (acc, bits, ret) ∧
          bits < tobits ∧
          Regrouped tobits (frombits * data.length) (word frombits data) acc bits ret) ∨
      (¬∀ v ∈ data, v < 2 ^ frombits) ∧ regroup frombits tobits data 0 0 [] = none := by
  have hempty : Regrouped tobits 0 0 0 0 [] := ⟨by simp, by simp, by simp, by simp⟩
  simpa only [Nat.zero_add, Nat.zero_mul] using regroup_spec hto hto hempty

/-- What is left over, moved to the upper end of a number of `tobits` bits. -/
theorem padded_eq {tobits bits : ℕ} (hbits : bits < tobits) (acc : ℕ) :
    acc <<< (tobits - bits) &&& (1 <<< tobits - 1) = acc % 2 ^ bits * 2 ^ (tobits - bits) := by
  have hsplit : 2 ^ tobits = 2 ^ bits * 2 ^ (tobits - bits) := by
    rw [← pow_add, Nat.add_sub_cancel' hbits.le]
  rw [Nat.shiftLeft_eq, Nat.shiftLeft_eq, Nat.one_mul, Nat.and_two_pow_sub_one_eq_mod, hsplit,
    Nat.mul_mod_mul_right]

/-- The padded regrouping of numbers that fit: the value, moved up to fill the last number. -/
theorem convertbits_padded {frombits tobits : ℕ} (hto : 0 < tobits) {data : List ℕ}
    (hdata : ∀ v ∈ data, v < 2 ^ frombits) :
    ∃ ret k, convertbits data frombits tobits true = some ret ∧ (∀ v ∈ ret, v < 2 ^ tobits) ∧
      k < tobits ∧ frombits * data.length + k = tobits * ret.length ∧
      word tobits ret = word frombits data * 2 ^ k := by
  obtain ⟨-, acc, bits, ret, hregroup, hbits, hstate⟩ :=
    (regroup_zero hto data).resolve_right fun hbad => hbad.1 hdata
  rw [convertbits, hregroup]
  by_cases hzero : bits = 0
  · refine ⟨ret, 0, by simp [hzero], hstate.digits, hto, ?_, ?_⟩
    · rw [hstate.length, hzero, Nat.add_zero]
    · rw [hstate.word, hzero, Nat.pow_zero, Nat.div_one, Nat.mul_one]
  · have hpadded := padded_eq hbits acc
    refine ⟨ret ++ [acc % 2 ^ bits * 2 ^ (tobits - bits)], tobits - bits, ?_, ?_, by omega, ?_, ?_⟩
    · simp [hzero, hpadded]
    · intro v hv
      rcases List.mem_append.mp hv with hmem | hmem
      · exact hstate.digits v hmem
      · rw [List.mem_singleton.mp hmem, ← hpadded, Nat.shiftLeft_eq 1, Nat.one_mul,
          Nat.and_two_pow_sub_one_eq_mod]
        exact Nat.mod_lt _ (Nat.two_pow_pos _)
    · rw [hstate.length, List.length_append, List.length_singleton, Nat.mul_succ]
      omega
    · have hsplit : 2 ^ tobits = 2 ^ bits * 2 ^ (tobits - bits) := by
        rw [← pow_add, Nat.add_sub_cancel' hbits.le]
      rw [word_append_singleton, hstate.word, hstate.low, hsplit, ← Nat.mul_assoc,
        ← Nat.add_mul, Nat.div_add_mod']

/-- **What the unpadded regrouping accepts**: numbers that fit, and whose bits but for a rest of
zeros, too short for a number of either width, are those of the result. -/
theorem convertbits_unpadded_iff {frombits tobits : ℕ} (hto : 0 < tobits) {data ret : List ℕ} :
    convertbits data frombits tobits false = some ret ↔
      (∀ v ∈ data, v < 2 ^ frombits) ∧ (∀ v ∈ ret, v < 2 ^ tobits) ∧
        ∃ k, k < tobits ∧ k < frombits ∧ frombits * data.length = tobits * ret.length + k ∧
          word frombits data = word tobits ret * 2 ^ k := by
  obtain ⟨hdata, acc, bits, taken, hregroup, hbits, hstate⟩ | ⟨hdata, hnone⟩ :=
    regroup_zero hto data
  · have hzero : acc % 2 ^ bits * 2 ^ (tobits - bits) = 0 ↔
        word frombits data % 2 ^ bits = 0 := by
      rw [hstate.low, Nat.mul_eq_zero]
      exact or_iff_left (Nat.two_pow_pos _).ne'
    have hresult : convertbits data frombits tobits false = some ret ↔
        (bits < frombits ∧ word frombits data % 2 ^ bits = 0) ∧ taken = ret := by
      rw [convertbits, hregroup, Option.bind_some]
      simp only [padded_eq hbits, Bool.false_eq_true, if_false, Option.ite_none_left_eq_some,
        Option.some.injEq, not_or, not_le, not_not, hzero, ge_iff_le, ne_eq]
    rw [hresult, and_iff_right hdata]
    have hdiv := Nat.div_add_mod' (word frombits data) (2 ^ bits)
    constructor
    · rintro ⟨⟨hless, hrest⟩, rfl⟩
      refine ⟨hstate.digits, bits, hbits, hless, hstate.length, ?_⟩
      rw [hstate.word]
      omega
    · rintro ⟨hret, k, hk, hless, hlength, hword⟩
      -- The lengths determine the rest, and the rest determines the values.
      have hquotient : (tobits * taken.length + bits) / tobits =
        (tobits * ret.length + k) / tobits :=
        by rw [← hstate.length, hlength]
      rw [Nat.mul_add_div hto, Nat.mul_add_div hto, Nat.div_eq_of_lt hbits, Nat.div_eq_of_lt hk]
        at hquotient
      have hcount : taken.length = ret.length := hquotient
      have hrest : bits = k := by
        have htotal := hstate.length.symm.trans hlength
        rw [hcount] at htotal
        omega
      subst hrest
      refine ⟨⟨hless, by rw [hword, Nat.mul_mod_left]⟩, ?_⟩
      apply word_injective hcount hstate.digits hret
      rw [hstate.word, hword, Nat.mul_div_cancel _ (Nat.two_pow_pos _)]
  · rw [convertbits, hnone]
    exact iff_of_false (by simp) fun hparts => hdata hparts.1

theorem fits_of_convertbits {frombits tobits : ℕ} (hto : 0 < tobits) {data ret : List ℕ}
    {pad : Bool} (hsome : convertbits data frombits tobits pad = some ret) :
    ∀ v ∈ data, v < 2 ^ frombits := by
  obtain ⟨hdata, -⟩ | ⟨-, hnone⟩ := regroup_zero hto data
  · exact hdata
  · rw [convertbits, hnone] at hsome
    cases hsome

/-- **There and back.** Numbers regrouped to narrower ones with padding are regrouped back to the
same numbers without. -/
theorem convertbits_convertbits {frombits tobits : ℕ} (hto : 0 < tobits) (hle : tobits ≤ frombits)
    {data : List ℕ} (hdata : ∀ v ∈ data, v < 2 ^ frombits) :
    ∃ ret, convertbits data frombits tobits true = some ret ∧
      convertbits ret tobits frombits false = some data := by
  obtain ⟨ret, k, hret, hdigits, hk, hlength, hword⟩ := convertbits_padded hto hdata
  refine ⟨ret, hret, (convertbits_unpadded_iff (hto.trans_le hle)).mpr ?_⟩
  exact ⟨hdigits, hdata, k, hk.trans_le hle, hk, hlength.symm, hword⟩

/-- **Back and there.** Whatever the unpadded regrouping accepts is what the padded one makes of
its result. -/
theorem convertbits_of_unpadded {frombits tobits : ℕ} (hfrom : 0 < frombits) (hto : 0 < tobits)
    {data ret : List ℕ} (hunpadded : convertbits data frombits tobits false = some ret) :
    convertbits ret tobits frombits true = some data := by
  obtain ⟨hdata, hret, k, -, hk, hlength, hword⟩ := (convertbits_unpadded_iff hto).mp hunpadded
  obtain ⟨back, j, hback, hdigits, hj, hlength', hword'⟩ := convertbits_padded hfrom hret
  have hquotient : (frombits * data.length + (frombits - 1 - k)) / frombits =
      (frombits * back.length + (frombits - 1 - j)) / frombits := by
    rw [hlength, ← hlength']
    congr 1
    omega
  rw [Nat.mul_add_div hfrom, Nat.mul_add_div hfrom, Nat.div_eq_of_lt (by omega),
    Nat.div_eq_of_lt (by omega)] at hquotient
  have hcount : back.length = data.length := hquotient.symm
  have hrest : j = k := by
    rw [hcount] at hlength'
    omega
  rw [hback, word_injective hcount hdigits hdata (by rw [hword', hword, hrest])]

/-- **Regrouping is inverse to itself.** To narrower numbers with padding, and to wider ones
without, are the two directions of one correspondence. -/
theorem convertbits_iff {frombits tobits : ℕ} (hto : 0 < tobits) (hle : tobits ≤ frombits)
    (data ret : List ℕ) :
    convertbits data frombits tobits true = some ret ↔
      convertbits ret tobits frombits false = some data := by
  constructor
  · intro hpadded
    obtain ⟨values, hforth, hback⟩ :=
      convertbits_convertbits hto hle (fits_of_convertbits hto hpadded)
    obtain rfl : values = ret := Option.some.inj (hforth.symm.trans hpadded)
    exact hback
  · exact convertbits_of_unpadded hto (hto.trans_le hle)

theorem convertbits_iff_bytes :
    0 < 5 ∧ 5 ≤ 8 ∧ (convertbits [117, 30] 8 5 true = some [14, 20, 15, 0] ↔
      convertbits [14, 20, 15, 0] 5 8 false = some [117, 30]) :=
  ⟨by decide, by decide, convertbits_iff (by decide) (by decide) [117, 30] [14, 20, 15, 0]⟩

/-! ## Addresses -/

/-- The version and the program of an address; nothing stands for `(None, None)`. -/
def decode (hrp addr : List Char) : Option (ℕ × List ℕ) :=
  (bech32Decode addr).bind fun (hrpgot, data) =>
    if hrpgot ≠ hrp then
      none
    else
      (convertbits (data.drop 1) 5 8 false).bind fun decoded =>
        if decoded.length < 2 ∨ decoded.length > 40 then
          none
        else
          -- A program of two bytes does not come from an empty list of data.
          data.head?.bind fun version =>
            if version > 16 then
              none
            else if version = 0 ∧ decoded.length ≠ 20 ∧ decoded.length ≠ 32 then
              none
            else
              some (version, decoded)

/-- The address of a version and a program, if it can be read back. -/
def encode (hrp : List Char) (witver : ℕ) (witprog : List ℕ) : Except PyErr (Option (List Char)) :=
  match convertbits witprog 8 5 true with
  | none => .error .typeError
  | some program =>
      match bech32Encode hrp (witver :: program) with
      | none => .error .indexError
      | some ret => if decode hrp ret = none then .ok none else .ok (some ret)

/-- The versions and programs that have an address. -/
def Witness (version : ℕ) (program : List ℕ) : Prop :=
  version ≤ 16 ∧ 2 ≤ program.length ∧ program.length ≤ 40 ∧
    (version = 0 → program.length = 20 ∨ program.length = 32)

theorem decode_eq_some_iff {hrp addr : List Char} {version : ℕ} {program : List ℕ} :
    decode hrp addr = some (version, program) ↔
      ∃ rest, bech32Decode addr = some (hrp, version :: rest) ∧
        convertbits rest 5 8 false = some program ∧ Witness version program := by
  simp only [decode, Option.bind_eq_some_iff, Option.ite_none_left_eq_some, Prod.exists,
    Option.some.injEq, Prod.mk.injEq, not_not, Witness]
  constructor
  · rintro ⟨hrpgot, data, hread, rfl, decoded, hconvert, hlength, v, hhead, hversion, hzero,
      rfl, rfl⟩
    cases data with
    | nil => simp at hhead
    | cons first rest =>
        obtain rfl : first = v := Option.some.inj hhead
        refine ⟨rest, hread, hconvert, ?_⟩
        omega
  · rintro ⟨rest, hread, hconvert, hversion, htwo, hforty, hzero⟩
    refine ⟨hrp, version :: rest, hread, rfl, program, hconvert, ?_, version, rfl, ?_, ?_, rfl, rfl⟩
    all_goals omega

theorem lower_charset {symbols : List Char} (hcharset : ∀ x ∈ symbols, x ∈ CHARSET) :
    lower symbols = symbols := by
  have hlower : lower CHARSET = CHARSET := by decide
  have hfixed : ∀ x ∈ CHARSET, x.toLower = x :=
    List.map_inj_left.mp (hlower.trans (List.map_id' CHARSET).symm)
  rw [lower, List.map_congr_left fun x hx => hfixed x (hcharset x hx), List.map_id']

theorem eq_of_encode_of_decode {hrp s : List Char} {data data' : List ℕ}
    (hwritten : bech32Encode hrp data = some s) (hread : bech32Decode s = some (hrp, data')) :
    data' = data ∧ lower s = s := by
  have hcanonical := encode_of_decode hread
  simp only [bech32Encode, Option.map_eq_some_iff, mapM_charset_eq_some_iff] at hwritten hcanonical
  obtain ⟨symbols, ⟨hcharset, hvalues⟩, hs⟩ := hwritten
  obtain ⟨symbols', ⟨hcharset', hvalues'⟩, hs'⟩ := hcanonical
  have hlower : hrp ++ '1' :: symbols' = lower hrp ++ '1' :: symbols := by
    calc hrp ++ '1' :: symbols' = lower s := hs'
      _ = lower hrp ++ '1' :: lower symbols := by
          rw [← hs, lower, List.map_append, List.map_cons]
          rfl
      _ = lower hrp ++ '1' :: symbols := by rw [lower_charset hcharset]
  obtain ⟨-, rfl⟩ := split_unique (separator_notMem hcharset') (separator_notMem hcharset) hlower
  refine ⟨?_, hs'.symm.trans hs⟩
  apply (List.append_inj' (hvalues'.symm.trans hvalues) _).1
  rw [length_createChecksum, length_createChecksum]

/-- **Writer and reader of addresses are inverse to each other.** An address is written for a
version and a program exactly when it is in lower case and read as that version and program. -/
theorem encode_eq_some_iff (hrp addr : List Char) (version : ℕ) (program : List ℕ) :
    encode hrp version program = .ok (some addr) ↔
      decode hrp addr = some (version, program) ∧ lower addr = addr := by
  constructor
  · intro hwritten
    unfold encode at hwritten
    split at hwritten
    · cases hwritten
    · rename_i values hconvert
      split at hwritten
      · cases hwritten
      · rename_i ret hencode
        split at hwritten
        · cases hwritten
        · rename_i hdecoded
          obtain rfl : ret = addr := by simpa using hwritten
          obtain ⟨⟨version', program'⟩, hread⟩ := Option.ne_none_iff_exists'.mp hdecoded
          obtain ⟨rest, hbech, hback, -⟩ := decode_eq_some_iff.mp hread
          obtain ⟨hdata, hlower⟩ := eq_of_encode_of_decode hencode hbech
          obtain ⟨rfl, rfl⟩ := List.cons.inj hdata
          have hbytes := fits_of_convertbits (by decide) hconvert
          obtain ⟨values', hforth, hsame⟩ :=
            convertbits_convertbits (by decide) (show 5 ≤ 8 by decide) hbytes
          obtain rfl : values' = rest := Option.some.inj (hforth.symm.trans hconvert)
          obtain rfl : program = program' := Option.some.inj (hsame.symm.trans hback)
          exact ⟨hread, hlower⟩
  · rintro ⟨hread, hlower⟩
    obtain ⟨rest, hbech, hback, -⟩ := decode_eq_some_iff.mp hread
    have hforth := convertbits_of_unpadded (by decide) (by decide) hback
    have hcanonical := encode_of_decode hbech
    rw [hlower] at hcanonical
    simp only [encode, hforth, hcanonical]
    rw [if_neg]
    rw [hread]
    exact Option.some_ne_none _

end CatvService.Bech32
