import Mathlib.Data.List.Perm.Subperm
import Mathlib.Tactic.Ring

/-!
# Slicing a list with a stride

The comprehension `[xs[i:i + width] for i in range(0, len(xs), stride)]` cuts a list into slices.
Its stride and its slice width are two numbers; the slices partition the list only when they agree.
This file treats the two separately.

* `strided_cons` peels off the first slice;
* `flatten_strided_sublist`: with `width ≤ stride` nothing is repeated or reordered;
* `flatten_strided_perm_iff`: with `width < stride` the slices cover the list exactly when the
  list fits into the first slice.

`windows` are slices of equal width next to each other, as many as are asked for.
-/

namespace Slicing

variable {α : Type*}

/-- `xs[i:j]` for `0 ≤ i ≤ j`. -/
def slice (xs : List α) (i j : ℕ) : List α :=
  (xs.drop i).take (j - i)

theorem slice_map {β : Type*} (f : α → β) (xs : List α) (i j : ℕ) :
    slice (xs.map f) i j = (slice xs i j).map f := by
  rw [slice, slice, List.map_take, List.map_drop]

theorem mem_slice {xs : List α} {x : α} {i j p : ℕ} (hget : xs[p]? = some x)
    (hi : i ≤ p) (hj : p < j) : x ∈ slice xs i j := by
  apply List.mem_of_getElem? (i := p - i)
  rw [slice, List.getElem?_take_of_lt (by omega), List.getElem?_drop, Nat.add_sub_cancel' hi, hget]

/-- The indices of `range(0, n, stride)`. -/
def starts (n stride : ℕ) : List ℕ :=
  List.range' 0 ((n + stride - 1) / stride) stride

/-- `[xs[i:i + width] for i in range(0, len(xs), stride)]`. -/
def strided (width stride : ℕ) (xs : List α) : List (List α) :=
  (starts xs.length stride).map fun i => slice xs i (i + width)

theorem strided_nil (width : ℕ) {stride : ℕ} (hstride : 0 < stride) :
    strided width stride ([] : List α) = [] := by
  have hcount : ([].length (α := α) + stride - 1) / stride = 0 :=
    Nat.div_eq_of_lt (by simp; omega)
  rw [strided, starts, hcount]
  rfl

theorem starts_of_pos {n stride : ℕ} (hn : 0 < n) (hstride : 0 < stride) :
    starts n stride = 0 :: (starts (n - stride) stride).map (stride + ·) := by
  have hcount : (n + stride - 1) / stride = (n - stride + stride - 1) / stride + 1 := by
    rcases Nat.lt_or_ge n stride with hlt | hge
    · have hrest : (n - stride + stride - 1) / stride = 0 := Nat.div_eq_of_lt (by omega)
      rw [hrest, show n + stride - 1 = (n - 1) + stride by omega,
        Nat.add_div_right _ hstride, Nat.div_eq_of_lt (by omega)]
    · rw [show n + stride - 1 = (n - stride + stride - 1) + stride by omega,
        Nat.add_div_right _ hstride]
  rw [starts, hcount, List.range'_succ, starts, List.map_add_range']
  simp

/-- The first slice, and the slices of what the stride skips to. -/
theorem strided_cons {width stride : ℕ} (hstride : 0 < stride) {xs : List α} (hxs : xs ≠ []) :
    strided width stride xs = xs.take width :: strided width stride (xs.drop stride) := by
  have hlength : 0 < xs.length := List.length_pos_iff.mpr hxs
  rw [strided, starts_of_pos hlength hstride, List.map_cons, List.map_map, strided,
    List.length_drop]
  congr 1
  · simp [slice]
  · refine List.map_congr_left fun i _ => ?_
    simp [slice, List.drop_drop]

/-- With `width ≤ stride` the slices never overlap: put together they are a sublist. -/
theorem flatten_strided_sublist {width stride : ℕ} (hstride : 0 < stride)
    (hwidth : width ≤ stride) (xs : List α) :
    (strided width stride xs).flatten.Sublist xs := by
  induction hn : xs.length using Nat.strong_induction_on generalizing xs with
  | _ n ih =>
      by_cases hxs : xs = []
      · simp [hxs, strided_nil width hstride]
      · have hlength : 0 < xs.length := List.length_pos_iff.mpr hxs
        have hrest : (strided width stride (xs.drop stride)).flatten.Sublist (xs.drop stride) :=
          ih (xs.drop stride).length (by rw [List.length_drop]; omega) _ rfl
        have hfirst : (xs.take width).Sublist (xs.take stride) :=
          (List.take_prefix_take_left hwidth).sublist
        rw [strided_cons hstride hxs, List.flatten_cons]
        simpa only [List.take_append_drop] using hfirst.append hrest

theorem flatten_strided_of_length_le {width stride : ℕ} (hstride : 0 < stride)
    (hwidth : width ≤ stride) {xs : List α} (hlength : xs.length ≤ width) :
    (strided width stride xs).flatten = xs := by
  by_cases hxs : xs = []
  · simp [hxs, strided_nil width hstride]
  · have hdrop : xs.drop stride = [] := List.drop_eq_nil_of_le (hlength.trans hwidth)
    rw [strided_cons hstride hxs, hdrop, strided_nil width hstride, List.take_of_length_le hlength]
    simp

/-- A list longer than the first slice loses what lies between the slices. -/
theorem length_flatten_strided_lt {width stride : ℕ} (hwidth : width < stride) {xs : List α}
    (hlength : width < xs.length) :
    (strided width stride xs).flatten.length < xs.length := by
  have hstride : 0 < stride := Nat.zero_lt_of_lt hwidth
  have hxs : xs ≠ [] := List.ne_nil_of_length_pos (Nat.zero_lt_of_lt hlength)
  have hrest := (flatten_strided_sublist hstride hwidth.le (xs.drop stride)).length_le
  rw [List.length_drop] at hrest
  rw [strided_cons hstride hxs, List.flatten_cons, List.length_append, List.length_take]
  omega

/-- With a stride wider than the slices, the slices hold the whole list exactly when the list
fits into the first one. -/
theorem flatten_strided_perm_iff {width stride : ℕ} (hwidth : width < stride) (xs : List α) :
    (strided width stride xs).flatten.Perm xs ↔ xs.length ≤ width := by
  constructor
  · intro hperm
    by_contra hlong
    exact absurd hperm.length_eq (length_flatten_strided_lt hwidth (not_le.mp hlong)).ne
  · intro hlength
    rw [flatten_strided_of_length_le (Nat.zero_lt_of_lt hwidth) hwidth.le hlength]

/-! ## Windows -/

/-- The first `n` windows `xs[i * width:(i + 1) * width]`; those past the end are empty. -/
def windows (width n : ℕ) (xs : List α) : List (List α) :=
  (List.range n).map fun i => slice xs (width * i) (width * i + width)

theorem length_window (xs : List α) (width i : ℕ) :
    (slice xs (width * i) (width * i + width)).length = min width (xs.length - width * i) := by
  rw [slice, List.length_take, List.length_drop, Nat.add_sub_cancel_left]

theorem flatten_windows (width n : ℕ) (xs : List α) :
    (windows width n xs).flatten = xs.take (width * n) := by
  induction n with
  | zero => simp [windows]
  | succ n ih =>
      have hlast : windows width (n + 1) xs =
          windows width n xs ++ [slice xs (width * n) (width * n + width)] := by
        rw [windows, List.range_succ, List.map_append]
        rfl
      rw [hlast, List.flatten_append, ih, Nat.mul_succ, List.take_add]
      simp [slice]

theorem flatten_windows_eq_iff (width n : ℕ) (xs : List α) :
    (windows width n xs).flatten = xs ↔ xs.length ≤ width * n := by
  rw [flatten_windows]
  constructor
  · intro htake
    have hlength := congrArg List.length htake
    rw [List.length_take] at hlength
    omega
  · exact List.take_of_length_le

theorem forall_mem_windows_iff {width : ℕ} (hwidth : 0 < width) {n : ℕ} (hn : 0 < n)
    (xs : List α) :
    (∀ piece ∈ windows width n xs, 1 ≤ piece.length ∧ piece.length ≤ width) ↔
      width * (n - 1) < xs.length := by
  constructor
  · intro hall
    have hlast := (hall _ (List.mem_map_of_mem (List.mem_range.mpr (Nat.sub_lt hn one_pos)))).1
    rw [length_window] at hlast
    omega
  · intro hlast piece hpiece
    obtain ⟨i, hi, rfl⟩ := List.mem_map.mp hpiece
    have hle : width * i ≤ width * (n - 1) :=
      Nat.mul_le_mul_left width (Nat.le_sub_one_of_lt (List.mem_range.mp hi))
    rw [length_window]
    omega

/-- An action that takes lists piecewise does the same to the pieces as to the whole. -/
theorem foldl_pieces {σ : Type*} {act : σ → List α → σ} (hnil : ∀ s, act s [] = s)
    (happend : ∀ s xs ys, act (act s xs) ys = act s (xs ++ ys)) (pieces : List (List α)) (s : σ) :
    pieces.foldl act s = act s pieces.flatten := by
  induction pieces generalizing s with
  | nil => simp [hnil]
  | cons piece rest ih => rw [List.foldl_cons, ih, happend, List.flatten_cons]

end Slicing
