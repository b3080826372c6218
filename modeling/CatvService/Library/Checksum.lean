import Mathlib.Data.List.Induction
import Mathlib.Data.List.Iterate
import Mathlib.Data.List.Nodup
import Mathlib.Data.List.Pairwise
import Mathlib.Data.Nat.Bitwise
import Mathlib.Tactic.Ring

/-!
# Checksums of a linear shift register

A register takes in one symbol after another.  It is linear when the exclusive or of two registers
that take in two symbols is the register that takes in the exclusive or of the symbols.  Then two
messages have the same checksum exactly when their difference has the checksum zero
(`run_eq_run_iff`), and what a checksum detects is a matter of the differences alone:

* `run_ne_of_burst`: no difference confined to as many adjacent symbols as the register holds
  goes unnoticed;
* `run_ne_of_weight_le_three`: no difference in at most three symbols does, when the syndromes of
  single symbols are pairwise distinct (`DistinctSyndromes`, which `distinct_of_bits` decides).

`run_append_digits` says how a message is completed to one with a given checksum, and
`digits_unique` that it can be done in one way only.
-/

namespace Checksum

/-- A shift register on words of `low + symbol` bits that takes in symbols of `symbol` bits. -/
structure Register where
  low : ℕ
  symbol : ℕ
  step : ℕ → ℕ → ℕ
  /-- The register keeps its size. -/
  step_lt : ∀ {c v : ℕ}, c < 2 ^ (low + symbol) → v < 2 ^ symbol → step c v < 2 ^ (low + symbol)
  /-- A step is linear. -/
  step_xor : ∀ c d v w : ℕ, step (c ^^^ d) (v ^^^ w) = step c v ^^^ step d w
  /-- Only the empty register is emptied by a step. -/
  eq_zero_of_step : ∀ {c : ℕ}, c < 2 ^ (low + symbol) → step c 0 = 0 → c = 0
  /-- A register with free upper bits takes the symbol in at its lower end. -/
  step_of_lt : ∀ {c v : ℕ}, c < 2 ^ low → v < 2 ^ symbol → step c v = c * 2 ^ symbol + v

namespace Register

variable (R : Register)

/-- The register after a message. -/
def run (c : ℕ) (message : List ℕ) : ℕ :=
  message.foldl R.step c

/-- A message of symbols. -/
def Symbols (message : List ℕ) : Prop :=
  ∀ v ∈ message, v < 2 ^ R.symbol

/-- The step that takes in nothing. -/
def shift (c : ℕ) : ℕ :=
  R.step c 0

@[simp] theorem run_nil (c : ℕ) : R.run c [] = c := rfl

@[simp] theorem run_cons (c v : ℕ) (message : List ℕ) :
    R.run c (v :: message) = R.run (R.step c v) message := rfl

@[simp] theorem run_append (c : ℕ) (front back : List ℕ) :
    R.run c (front ++ back) = R.run (R.run c front) back :=
  List.foldl_append

variable {R}

theorem run_lt {c : ℕ} {message : List ℕ} (hc : c < 2 ^ (R.low + R.symbol))
    (hmessage : R.Symbols message) : R.run c message < 2 ^ (R.low + R.symbol) := by
  induction message generalizing c with
  | nil => exact hc
  | cons v message ih =>
      apply ih
      · exact R.step_lt hc (hmessage v List.mem_cons_self)
      · exact fun w hw => hmessage w (List.mem_cons_of_mem v hw)

/-- **Runs are linear.** -/
theorem run_xor {xs ys : List ℕ} (hlength : xs.length = ys.length) (c d : ℕ) :
    R.run (c ^^^ d) (List.zipWith (· ^^^ ·) xs ys) = R.run c xs ^^^ R.run d ys := by
  induction xs generalizing c d ys with
  | nil =>
      obtain rfl : ys = [] := List.length_eq_zero_iff.mp hlength.symm
      rfl
  | cons x xs ih =>
      cases ys with
      | nil => simp at hlength
      | cons y ys =>
          rw [List.zipWith_cons_cons, run_cons, run_cons, run_cons, R.step_xor]
          exact ih (Nat.succ.inj hlength) _ _

/-- The difference of two messages. -/
def difference (xs ys : List ℕ) : List ℕ :=
  List.zipWith (· ^^^ ·) xs ys

theorem run_eq_run_iff {xs ys : List ℕ} (hlength : xs.length = ys.length) (c : ℕ) :
    R.run c xs = R.run c ys ↔ R.run 0 (difference xs ys) = 0 := by
  have hlinear := R.run_xor hlength c c
  rw [Nat.xor_self] at hlinear
  rw [difference, hlinear, Nat.xor_eq_zero_iff]

theorem step_zero {v : ℕ} (hv : v < 2 ^ R.symbol) : R.step 0 v = v := by
  rw [R.step_of_lt (Nat.two_pow_pos _) hv, Nat.zero_mul, Nat.zero_add]

@[simp] theorem shift_zero : R.shift 0 = 0 :=
  step_zero (Nat.two_pow_pos _)

theorem shift_lt {c : ℕ} (hc : c < 2 ^ (R.low + R.symbol)) :
    R.shift c < 2 ^ (R.low + R.symbol) :=
  R.step_lt hc (Nat.two_pow_pos _)

theorem shift_xor (c d : ℕ) : R.shift (c ^^^ d) = R.shift c ^^^ R.shift d := by
  simpa only [shift, Nat.xor_zero] using R.step_xor c d 0 0

theorem step_eq (c v : ℕ) (hv : v < 2 ^ R.symbol) : R.step c v = R.shift c ^^^ v := by
  calc R.step c v = R.step (c ^^^ 0) (0 ^^^ v) := by rw [Nat.xor_zero, Nat.zero_xor]
    _ = R.shift c ^^^ R.step 0 v := R.step_xor c 0 0 v
    _ = R.shift c ^^^ v := by rw [step_zero hv]

theorem iterate_shift_lt {c : ℕ} (hc : c < 2 ^ (R.low + R.symbol)) (n : ℕ) :
    R.shift^[n] c < 2 ^ (R.low + R.symbol) := by
  induction n with
  | zero => exact hc
  | succ n ih =>
      rw [Function.iterate_succ_apply']
      exact shift_lt ih

@[simp] theorem iterate_shift_zero (n : ℕ) : R.shift^[n] 0 = 0 :=
  Function.iterate_fixed shift_zero n

theorem eq_zero_of_iterate_shift {c n : ℕ} (hc : c < 2 ^ (R.low + R.symbol))
    (hzero : R.shift^[n] c = 0) : c = 0 := by
  induction n with
  | zero => exact hzero
  | succ n ih =>
      rw [Function.iterate_succ_apply'] at hzero
      exact ih (R.eq_zero_of_step (iterate_shift_lt hc n) hzero)

theorem run_replicate_zero (c n : ℕ) : R.run c (List.replicate n 0) = R.shift^[n] c := by
  induction n generalizing c with
  | zero => rfl
  | succ n ih => rw [List.replicate_succ, run_cons, ih, Function.iterate_succ_apply, shift]

theorem run_eq (c : ℕ) (message : List ℕ) :
    R.run c message = R.shift^[message.length] c ^^^ R.run 0 message := by
  have hzip : List.zipWith (· ^^^ ·) (List.replicate message.length 0) message = message := by
    induction message with
    | nil => rfl
    | cons v message ih => rw [List.length_cons, List.replicate_succ, List.zipWith_cons_cons, ih,
        Nat.zero_xor]
  have hlength : (List.replicate message.length 0).length = message.length :=
    List.length_replicate
  have hlinear := R.run_xor hlength c 0
  rwa [hzip, Nat.xor_zero, run_replicate_zero] at hlinear

/-! ## Completing a message -/

/-- The `n` lowest symbols of a word, the highest first. -/
def digits (symbol : ℕ) : ℕ → ℕ → List ℕ
  | 0, _ => []
  | n + 1, word => digits symbol n (word / 2 ^ symbol) ++ [word % 2 ^ symbol]

@[simp] theorem length_digits (symbol n word : ℕ) : (digits symbol n word).length = n := by
  induction n generalizing word with
  | zero => rfl
  | succ n ih => rw [digits, List.length_append, ih, List.length_singleton]

theorem symbols_digits (n word : ℕ) : R.Symbols (digits R.symbol n word) := by
  induction n generalizing word with
  | zero => exact fun v hv => absurd hv List.not_mem_nil
  | succ n ih =>
      intro v hv
      rcases List.mem_append.mp hv with hfront | hlast
      · exact ih _ v hfront
      · rw [List.mem_singleton.mp hlast]
        exact Nat.mod_lt _ (Nat.two_pow_pos _)

/-- The digits of a word that the register can hold are read back to the word. -/
theorem run_digits {n word : ℕ} (hword : word < 2 ^ (R.symbol * n))
    (hsize : R.symbol * n ≤ R.low + R.symbol) : R.run 0 (digits R.symbol n word) = word := by
  induction n generalizing word with
  | zero =>
      rw [Nat.mul_zero, Nat.pow_zero, Nat.lt_one_iff] at hword
      rw [hword]
      rfl
  | succ n ih =>
      have hquotient : word / 2 ^ R.symbol < 2 ^ (R.symbol * n) := by
        rw [Nat.div_lt_iff_lt_mul (Nat.two_pow_pos _), ← pow_add]
        exact hword
      have hlow : word / 2 ^ R.symbol < 2 ^ R.low :=
        hquotient.trans_le (Nat.pow_le_pow_right two_pos (by rw [Nat.mul_succ] at hsize; omega))
      rw [digits, run_append, ih hquotient (by rw [Nat.mul_succ] at hsize; omega), run_cons,
        run_nil, R.step_of_lt hlow (Nat.mod_lt _ (Nat.two_pow_pos _))]
      exact Nat.div_add_mod' word _

/-- **A message is completed to any checksum**: the symbols to append are the digits of what the
message followed by zeros is off. -/
theorem run_append_digits {n c target : ℕ} {message : List ℕ}
    (hc : c < 2 ^ (R.low + R.symbol)) (htarget : target < 2 ^ (R.low + R.symbol))
    (hmessage : R.Symbols message) (hsize : R.symbol * n = R.low + R.symbol) :
    R.run c (message ++
      digits R.symbol n (R.run c (message ++ List.replicate n 0) ^^^ target)) = target := by
  have hzeros : R.Symbols (message ++ List.replicate n 0) := by
    intro v hv
    rcases List.mem_append.mp hv with hfront | hback
    · exact hmessage v hfront
    · rw [List.eq_of_mem_replicate hback]
      exact Nat.two_pow_pos _
  have hword : R.run c (message ++ List.replicate n 0) ^^^ target < 2 ^ (R.symbol * n) := by
    rw [hsize]
    exact Nat.xor_lt_two_pow (run_lt hc hzeros) htarget
  rw [run_append, run_eq, length_digits, run_digits hword hsize.le, run_append,
    run_replicate_zero, ← Nat.xor_assoc, Nat.xor_self, Nat.zero_xor]

/-! ## What a checksum detects -/

theorem symbols_difference {xs ys : List ℕ} (hxs : R.Symbols xs) (hys : R.Symbols ys) :
    R.Symbols (difference xs ys) := by
  intro v hv
  obtain ⟨i, hi, rfl⟩ := List.mem_iff_getElem.mp hv
  rw [difference, List.length_zipWith, lt_min_iff] at hi
  simp only [difference, List.getElem_zipWith]
  exact Nat.xor_lt_two_pow (hxs _ (List.getElem_mem hi.1)) (hys _ (List.getElem_mem hi.2))

theorem difference_self_append (front xs ys back : List ℕ) (hlength : xs.length = ys.length) :
    difference (front ++ (xs ++ back)) (front ++ (ys ++ back)) =
      List.replicate front.length 0 ++
        (difference xs ys ++ List.replicate back.length 0) := by
  have hself : ∀ zs : List ℕ, List.zipWith (· ^^^ ·) zs zs = List.replicate zs.length 0 := by
    intro zs
    rw [List.zipWith_self, ← List.map_const']
    exact List.map_congr_left fun z _ => Nat.xor_self z
  rw [difference, List.zipWith_append rfl, List.zipWith_append hlength, hself, hself, difference]

theorem eq_of_difference {xs ys : List ℕ} (hlength : xs.length = ys.length)
    (hzero : ∀ v ∈ difference xs ys, v = 0) : xs = ys := by
  apply List.ext_getElem hlength
  intro i hi hj
  have hmem : xs[i] ^^^ ys[i] ∈ difference xs ys :=
    List.mem_iff_getElem.mpr ⟨i, by simp [difference, hi, hj], by simp [difference]⟩
  exact Nat.xor_eq_zero_iff.mp (hzero _ hmem)

/-- A short message that leaves the register empty is made of zeros. -/
theorem eq_zero_of_run_short {message : List ℕ} (hmessage : R.Symbols message)
    (hsize : R.symbol * message.length ≤ R.low + R.symbol) (hzero : R.run 0 message = 0) :
    ∀ v ∈ message, v = 0 := by
  -- What has been taken in so far is a number of as many symbols.
  have hshort : ∀ front : List ℕ, R.Symbols front →
      R.symbol * front.length ≤ R.low + R.symbol →
      R.run 0 front < 2 ^ (R.symbol * front.length) ∧
        (R.run 0 front = 0 → ∀ v ∈ front, v = 0) := by
    intro front
    induction front using List.reverseRecOn with
    | nil => exact fun _ _ => ⟨by simp, fun _ v hv => absurd hv List.not_mem_nil⟩
    | append_singleton front v ih =>
        intro hsymbols hlength
        rw [List.length_append, List.length_singleton, Nat.mul_succ] at hlength
        have hv : v < 2 ^ R.symbol := hsymbols v (by simp)
        have hfront := ih (fun w hw => hsymbols w (List.mem_append_left _ hw)) (by omega)
        have hlow : R.run 0 front < 2 ^ R.low :=
          hfront.1.trans_le (Nat.pow_le_pow_right two_pos (by omega))
        have hrun : R.run 0 (front ++ [v]) = R.run 0 front * 2 ^ R.symbol + v := by
          rw [run_append, run_cons, run_nil, R.step_of_lt hlow hv]
        rw [hrun, List.length_append, List.length_singleton, Nat.mul_succ, pow_add]
        refine ⟨?_, fun hempty w hw => ?_⟩
        · calc R.run 0 front * 2 ^ R.symbol + v < (R.run 0 front + 1) * 2 ^ R.symbol := by
                rw [Nat.succ_mul]
                omega
            _ ≤ 2 ^ (R.symbol * front.length) * 2 ^ R.symbol := Nat.mul_le_mul_right _ hfront.1
        · have hparts := Nat.add_eq_zero_iff.mp hempty
          have hrest : R.run 0 front = 0 :=
            (Nat.mul_eq_zero.mp hparts.1).resolve_right (Nat.two_pow_pos _).ne'
          rcases List.mem_append.mp hw with hmem | hmem
          · exact hfront.2 hrest w hmem
          · exact (List.mem_singleton.mp hmem).trans hparts.2
  exact (hshort message hmessage hsize).2 hzero

/-- **No burst goes unnoticed.** Two messages that differ only within as many adjacent symbols as
the register holds have different checksums. -/
theorem run_ne_of_burst {c : ℕ} {front xs ys back : List ℕ} (hxs : R.Symbols xs)
    (hys : R.Symbols ys) (hlength : xs.length = ys.length)
    (hsize : R.symbol * xs.length ≤ R.low + R.symbol) (hne : xs ≠ ys) :
    R.run c (front ++ (xs ++ back)) ≠ R.run c (front ++ (ys ++ back)) := by
  intro hequal
  have hsymbols := symbols_difference hxs hys
  have hzero := (run_eq_run_iff (by simp [hlength]) c).mp hequal
  rw [difference_self_append _ _ _ _ hlength, run_append, run_append, run_replicate_zero,
    run_replicate_zero, iterate_shift_zero] at hzero
  have hburst : R.run 0 (difference xs ys) = 0 :=
    eq_zero_of_iterate_shift (run_lt (Nat.two_pow_pos _) hsymbols) hzero
  refine hne (eq_of_difference hlength (eq_zero_of_run_short hsymbols ?_ hburst))
  simpa [difference, hlength] using hsize

/-- The symbols that complete a message are unique. -/
theorem digits_unique {c : ℕ} {message xs ys : List ℕ} (hxs : R.Symbols xs) (hys : R.Symbols ys)
    (hlength : xs.length = ys.length) (hsize : R.symbol * xs.length ≤ R.low + R.symbol)
    (hequal : R.run c (message ++ xs) = R.run c (message ++ ys)) : xs = ys := by
  by_contra hne
  have hdiffer : R.run c (message ++ (xs ++ [])) ≠ R.run c (message ++ (ys ++ [])) :=
    run_ne_of_burst hxs hys hlength hsize hne
  rw [List.append_nil, List.append_nil] at hdiffer
  exact hdiffer hequal

/-! ### Three symbols anywhere -/

/-- Within `n` steps no two single symbols leave the same upper bits, and none leaves them empty. -/
def DistinctSyndromes (R : Register) (n : ℕ) : Prop :=
  ∀ i < n, ∀ a, 0 < a → a < 2 ^ R.symbol →
    R.shift^[i + 1] a / 2 ^ R.symbol ≠ 0 ∧
      ∀ j < n, ∀ b, 0 < b → b < 2 ^ R.symbol →
        R.shift^[i + 1] a / 2 ^ R.symbol = R.shift^[j + 1] b / 2 ^ R.symbol → i = j

/-- The number of symbols that are not zero. -/
def weight (message : List ℕ) : ℕ :=
  message.countP (· ≠ 0)

theorem run_zero_cons {v : ℕ} {message : List ℕ} (hv : v < 2 ^ R.symbol) :
    R.run 0 (v :: message) = R.shift^[message.length] v ^^^ R.run 0 message := by
  rw [run_cons, step_zero hv, run_eq]

theorem run_of_weight_zero {message : List ℕ} (hweight : weight message = 0) :
    R.run 0 message = 0 := by
  have hzero : message = List.replicate message.length 0 :=
    List.eq_replicate_of_mem fun v hv => by
      simpa using List.countP_eq_zero.mp hweight v hv
  rw [hzero, run_replicate_zero, iterate_shift_zero]

theorem run_of_weight_one {message : List ℕ} (hmessage : R.Symbols message)
    (hweight : weight message = 1) :
    ∃ i < message.length, ∃ a, 0 < a ∧ a < 2 ^ R.symbol ∧
      R.run 0 message = R.shift^[i] a := by
  induction message with
  | nil => simp [weight] at hweight
  | cons v message ih =>
      have hv := hmessage v List.mem_cons_self
      have hrest : R.Symbols message := fun w hw => hmessage w (List.mem_cons_of_mem v hw)
      by_cases hzero : v = 0
      · obtain ⟨i, hi, a, ha, hsymbol, hrun⟩ := ih hrest (by simpa [weight, hzero] using hweight)
        refine ⟨i, by simp only [List.length_cons]; omega, a, ha, hsymbol, ?_⟩
        rw [run_zero_cons hv, hzero, iterate_shift_zero, Nat.zero_xor, hrun]
      · have hnone : weight message = 0 := by simpa [weight, hzero] using hweight
        refine ⟨message.length, by simp, v, Nat.pos_of_ne_zero hzero, hv, ?_⟩
        rw [run_zero_cons hv, run_of_weight_zero hnone, Nat.xor_zero]

theorem run_of_weight_two {message : List ℕ} (hmessage : R.Symbols message)
    (hweight : weight message = 2) :
    ∃ i j, j < i ∧ i < message.length ∧ ∃ a b, (0 < a ∧ a < 2 ^ R.symbol) ∧
      (0 < b ∧ b < 2 ^ R.symbol) ∧ R.run 0 message = R.shift^[i] a ^^^ R.shift^[j] b := by
  induction message with
  | nil => simp [weight] at hweight
  | cons v message ih =>
      have hv := hmessage v List.mem_cons_self
      have hrest : R.Symbols message := fun w hw => hmessage w (List.mem_cons_of_mem v hw)
      by_cases hzero : v = 0
      · obtain ⟨i, j, hji, hi, a, b, ha, hb, hrun⟩ :=
          ih hrest (by simpa [weight, hzero] using hweight)
        refine ⟨i, j, hji, by simp only [List.length_cons]; omega, a, b, ha, hb, ?_⟩
        rw [run_zero_cons hv, hzero, iterate_shift_zero, Nat.zero_xor, hrun]
      · have hone : weight message = 1 := by simpa [weight, hzero] using hweight
        obtain ⟨j, hj, b, hb, hsymbol, hrun⟩ := run_of_weight_one hrest hone
        refine ⟨message.length, j, hj, by simp, v, b, ⟨Nat.pos_of_ne_zero hzero, hv⟩,
          ⟨hb, hsymbol⟩, ?_⟩
        rw [run_zero_cons hv, hrun]

theorem shift_ne_of_weight_le_two {n c : ℕ} (hdistinct : R.DistinctSyndromes n)
    {message : List ℕ} (hmessage : R.Symbols message) (hlength : message.length ≤ n)
    (hweight : weight message ≤ 2) (hpos : 0 < c) (hc : c < 2 ^ R.symbol) :
    R.shift (R.run 0 message) ≠ c := by
  have hupper : c / 2 ^ R.symbol = 0 := Nat.div_eq_of_lt hc
  intro hequal
  obtain hzero | hone | htwo : weight message = 0 ∨ weight message = 1 ∨ weight message = 2 := by
    omega
  · rw [run_of_weight_zero hzero, shift_zero] at hequal
    omega
  · obtain ⟨i, hi, a, ha, hsymbol, hrun⟩ := run_of_weight_one hmessage hone
    rw [hrun, ← Function.iterate_succ_apply' R.shift] at hequal
    apply (hdistinct i (by omega) a ha hsymbol).1
    rw [hequal, hupper]
  · obtain ⟨i, j, hji, hi, a, b, ha, hb, hrun⟩ := run_of_weight_two hmessage htwo
    rw [hrun, shift_xor, ← Function.iterate_succ_apply' R.shift,
      ← Function.iterate_succ_apply' R.shift] at hequal
    have hparts := congrArg (· >>> R.symbol) hequal
    simp only [Nat.shiftRight_xor_distrib] at hparts
    simp only [Nat.shiftRight_eq_div_pow, hupper] at hparts
    have hsame := (hdistinct i (by omega) a ha.1 ha.2).2 j (by omega) b hb.1 hb.2
      (Nat.xor_eq_zero_iff.mp hparts)
    omega

/-- A message of at most three symbols that are not zero does not leave the register empty. -/
theorem eq_zero_of_weight_le_three {n : ℕ} (hdistinct : R.DistinctSyndromes n)
    {message : List ℕ} (hmessage : R.Symbols message) (hlength : message.length ≤ n + 1)
    (hweight : weight message ≤ 3) (hzero : R.run 0 message = 0) : ∀ v ∈ message, v = 0 := by
  induction message using List.reverseRecOn with
  | nil => exact fun v hv => absurd hv List.not_mem_nil
  | append_singleton front c ih =>
      have hfront : R.Symbols front := fun w hw => hmessage w (List.mem_append_left _ hw)
      have hc : c < 2 ^ R.symbol := hmessage c (by simp)
      rw [List.length_append, List.length_singleton] at hlength
      rw [weight, List.countP_append] at hweight
      rw [run_append, run_cons, run_nil, step_eq _ _ hc, Nat.xor_eq_zero_iff] at hzero
      by_cases hlast : c = 0
      · have hempty : R.run 0 front = 0 :=
          R.eq_zero_of_step (run_lt (Nat.two_pow_pos _) hfront) (hzero.trans hlast)
        have hall := ih hfront (by omega) ((Nat.le_add_right _ _).trans hweight) hempty
        intro v hv
        rcases List.mem_append.mp hv with hmem | hmem
        · exact hall v hmem
        · exact (List.mem_singleton.mp hmem).trans hlast
      · have htwo : weight front ≤ 2 := by
          rw [List.countP_singleton, if_pos (by simpa using hlast)] at hweight
          rw [weight]
          omega
        exact absurd hzero
          (shift_ne_of_weight_le_two hdistinct hfront (by omega) htwo (by omega) hc)

/-- **No three changed symbols go unnoticed**, wherever they stand. -/
theorem run_ne_of_weight_le_three {n c : ℕ} (hdistinct : R.DistinctSyndromes n) {xs ys : List ℕ}
    (hxs : R.Symbols xs) (hys : R.Symbols ys) (hlength : xs.length = ys.length)
    (hn : xs.length ≤ n + 1) (hweight : weight (difference xs ys) ≤ 3) (hne : xs ≠ ys) :
    R.run c xs ≠ R.run c ys := by
  intro hequal
  have hzero := (run_eq_run_iff hlength c).mp hequal
  refine hne (eq_of_difference hlength ?_)
  apply eq_zero_of_weight_le_three hdistinct (symbols_difference hxs hys) _ hweight hzero
  simpa [difference, hlength] using hn

/-! ### Deciding that the syndromes are distinct -/

/-- Whether the words of a list are pairwise distinct, by their bits from `n` on downwards. -/
def distinctByBits : ℕ → List ℕ → Bool
  | _, [] => true
  | _, [_] => true
  | 0, _ => false
  | n + 1, words =>
      distinctByBits n (words.filter fun w => w.testBit n) &&
        distinctByBits n (words.filter fun w => !w.testBit n)

theorem nodup_of_distinctByBits {n : ℕ} {words : List ℕ}
    (hdistinct : distinctByBits n words = true) : words.Nodup := by
  fun_induction distinctByBits n words with
  | case1 => exact List.nodup_nil
  | case2 => exact List.nodup_singleton _
  | case3 => simp at hdistinct
  | case4 n words _ _ ihset ihclear =>
      rw [Bool.and_eq_true] at hdistinct
      have hset := ihset hdistinct.1
      have hclear := ihclear hdistinct.2
      rw [List.nodup_iff_count_le_one] at hset hclear ⊢
      intro w
      by_cases hbit : w.testBit n = true
      · simpa [List.count_filter, hbit] using hset w
      · have hcount := hclear w
        rwa [List.count_filter (by simpa using hbit)] at hcount

/-- The upper bits that the symbol `a` leaves after `1, ..., n` steps. -/
def syndromes (R : Register) (n a : ℕ) : List ℕ :=
  (List.iterate R.shift (R.shift a) n).map (· / 2 ^ R.symbol)

theorem syndromes_eq (n a : ℕ) :
    R.syndromes n a = (List.range n).map fun i => R.shift^[i + 1] a / 2 ^ R.symbol := by
  rw [syndromes, ← List.range_map_iterate, List.map_map]
  rfl

/-- The syndromes are distinct when the list of all of them, zero included, is. -/
theorem distinct_of_bits {n bits : ℕ}
    (hdistinct : distinctByBits bits
      (0 :: (List.range' 1 (2 ^ R.symbol - 1)).flatMap (R.syndromes n)) = true) :
    R.DistinctSyndromes n := by
  have hnodup := nodup_of_distinctByBits hdistinct
  rw [List.nodup_cons, List.nodup_flatMap] at hnodup
  obtain ⟨hzero, hsame, hapart⟩ := hnodup
  have hmem : ∀ a, 0 < a → a < 2 ^ R.symbol → a ∈ List.range' 1 (2 ^ R.symbol - 1) :=
    fun a ha hsymbol => List.mem_range'_1.mpr (by omega)
  have hsyndrome : ∀ i < n, ∀ a, R.shift^[i + 1] a / 2 ^ R.symbol ∈ R.syndromes n a := by
    intro i hi a
    rw [syndromes_eq]
    exact List.mem_map.mpr ⟨i, List.mem_range.mpr hi, rfl⟩
  intro i hi a ha hsymbol
  refine ⟨fun hempty => hzero ?_, fun j hj b hb hsymbol' hequal => ?_⟩
  · exact List.mem_flatMap.mpr ⟨a, hmem a ha hsymbol, hempty ▸ hsyndrome i hi a⟩
  · by_cases hab : a = b
    · subst hab
      have honce := hsame a (hmem a ha hsymbol)
      rw [syndromes_eq] at honce
      exact List.inj_on_of_nodup_map honce (List.mem_range.mpr hi) (List.mem_range.mpr hj) hequal
    · have hsymm : Std.Symm (Function.onFun List.Disjoint (R.syndromes n)) :=
        ⟨fun _ _ h => List.disjoint_symm h⟩
      have hdisjoint := hapart.forall (hmem a ha hsymbol) (hmem b hb hsymbol') hab
      exact absurd (hequal ▸ hsyndrome j hj b) (hdisjoint (hsyndrome i hi a))

end Register

end Checksum
