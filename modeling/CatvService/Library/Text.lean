import CatvService.Library.Unicode
import Mathlib.Data.List.Infix
import Mathlib.Data.Rat.Defs

/-!
# Python's text operations

Substring search, splitting and the readers `int(s)` and `float(s)`.  A float is an exact rational
or one of the three values that are not numbers: what is too large for a float is infinite, and
rounding is not modelled.  Nor is the number of digits that `int(s)` refuses, from 4301 on.

Everything here computes on the list of characters, so that closed instances reduce.
-/

namespace PyText

/-- `sub in s`. -/
def contains (sub s : String) : Bool :=
  decide (sub.toList <:+: s.toList)

/-- What stands between the blanks around a number. -/
def strip (cs : List Char) : List Char :=
  ((cs.dropWhile isSpace).reverse.dropWhile isSpace).reverse

/-- `s.strip()`. -/
def trim (s : String) : String :=
  String.ofList ((s.toList.dropWhile isPySpace).reverse.dropWhile isPySpace).reverse

/-- A text that has nothing to trim does not end in white space. -/
theorem isPySpace_of_trim_eq {s : String} {body : List Char} {c : Char} (htrim : trim s = s)
    (hs : s.toList = body ++ [c]) : isPySpace c = false := by
  have hlist := congrArg String.toList htrim
  rw [trim, String.toList_ofList, hs] at hlist
  have hreverse := congrArg List.reverse hlist
  rw [List.reverse_reverse, List.reverse_append, List.reverse_singleton] at hreverse
  have hhead := List.head?_dropWhile_not isPySpace
    ((body ++ [c]).dropWhile isPySpace).reverse
  rw [hreverse] at hhead
  simpa using hhead

/-- The pieces of a text between the occurrences of a separator, the occurrences taken from the
left; `piece` is what the current piece has so far, reversed, and `skip` what is left of an
occurrence. -/
def splitFrom (separator : List Char) : List Char → List Char → ℕ → List String
  | [], piece, _ => [String.ofList piece.reverse]
  | _ :: rest, piece, skip + 1 => splitFrom separator rest piece skip
  | c :: rest, piece, 0 =>
      if separator.isPrefixOf (c :: rest) then
        String.ofList piece.reverse :: splitFrom separator rest [] (separator.length - 1)
      else splitFrom separator rest (c :: piece) 0

/-- `s.split(separator)`, for a separator that is not empty. -/
def split (separator s : String) : List String :=
  splitFrom separator.toList s.toList [] 0

/-- What stands before the first separator is determined, and so is what stands behind it. -/
theorem append_separator_inj {separator : Char} {before before' after after' : List Char}
    (hbefore : separator ∉ before) (hbefore' : separator ∉ before')
    (heq : before ++ separator :: after = before' ++ separator :: after') :
    before = before' ∧ after = after' := by
  induction before generalizing before' with
  | nil =>
      cases before' with
      | nil => exact ⟨rfl, (List.cons.inj heq).2⟩
      | cons c before' => exact absurd ((List.cons.inj heq).1 ▸ List.mem_cons_self) hbefore'
  | cons c before ih =>
      cases before' with
      | nil => exact absurd ((List.cons.inj heq).1 ▸ List.mem_cons_self) hbefore
      | cons c' before' =>
          obtain ⟨rfl, hrest⟩ := List.cons.inj heq
          rw [List.mem_cons, not_or] at hbefore hbefore'
          obtain ⟨rfl, hafter⟩ := ih hbefore.2 hbefore'.2 hrest
          exact ⟨rfl, hafter⟩

/-- `s[:n]`. -/
def takeChars (n : ℕ) (s : String) : String :=
  String.ofList (s.toList.take n)

/-- The longest run of digits at the head of the text, in which single underscores may stand
between two digits: its value, its number of digits and what follows. -/
def digitsFrom : List Char → ℕ → ℕ → ℕ × ℕ × List Char
  | [], value, count => (value, count, [])
  | c :: rest, value, count =>
      match digit? c with
      | some d => digitsFrom rest (10 * value + d) (count + 1)
      | none =>
          match c, rest with
          | '_', next :: more =>
              match digit? next with
              | some d =>
                  if count = 0 then (value, count, c :: rest)
                  else digitsFrom more (10 * value + d) (count + 1)
              | none => (value, count, c :: rest)
          | _, _ => (value, count, c :: rest)

/-- An optional sign: whether it is a minus, and what follows. -/
def signFrom : List Char → Bool × List Char
  | '-' :: rest => (true, rest)
  | '+' :: rest => (false, rest)
  | rest => (false, rest)

/-- `int(s)`. -/
def parseInt (s : String) : Option ℤ :=
  match signFrom (strip s.toList) with
  | (negative, rest) =>
      match digitsFrom rest 0 0 with
      | (value, count, []) =>
          if count = 0 then none else some (if negative then -(value : ℤ) else value)
      | _ => none

/-- A Python float. -/
inductive PyFloat where
  | num (value : ℚ)
  | inf (negative : Bool)
  | nan
  deriving DecidableEq, Repr

/-- Half a step above the largest float, which has 53 ones: from there on a number is rounded to
infinity. -/
def floatBound : ℕ :=
  0x3fffffffffffff <<< 970

/-- Whether a number is too large for a float. -/
def overflows (q : ℚ) : Bool :=
  decide (floatBound * q.den ≤ q.num.natAbs)

/-- The exponent part of a float literal: `none` when it is malformed. -/
def exponentFrom : List Char → Option ℤ
  | [] => some 0
  | c :: rest =>
      if c = 'e' || c = 'E' then
        match signFrom rest with
        | (negative, digits) =>
            match digitsFrom digits 0 0 with
            | (value, count, []) =>
                if count = 0 then none else some (if negative then -(value : ℤ) else value)
            | _ => none
      else none

/-- `10 ** e`. -/
def powTen : ℤ → ℚ
  | .ofNat n => (10 : ℚ) ^ n
  | .negSucc n => 1 / (10 : ℚ) ^ (n + 1)

/-- The unsigned part of a float literal. -/
def magnitudeFrom (cs : List Char) : Option ℚ :=
  match digitsFrom cs 0 0 with
  | (whole, wholeCount, rest) =>
      match rest with
      | '.' :: more =>
          match digitsFrom more 0 0 with
          | (fraction, fractionCount, tail) =>
              if wholeCount + fractionCount = 0 then none
              else (exponentFrom tail).map fun e =>
                ((whole : ℚ) + (fraction : ℚ) / (10 : ℚ) ^ fractionCount) * powTen e
      | tail =>
          if wholeCount = 0 then none
          else (exponentFrom tail).map fun e => (whole : ℚ) * powTen e

/-- `float(s)`. -/
def parseFloat (s : String) : Option PyFloat :=
  match signFrom (strip s.toList) with
  | (negative, rest) =>
      let word := String.ofList (rest.map Char.toLower)
      if word = "inf" ∨ word = "infinity" then some (.inf negative)
      else if word = "nan" then some .nan
      else
        (magnitudeFrom rest).map fun q =>
          if overflows q then .inf negative else .num (if negative then -q else q)

/-! ## Pieces and numbers read back -/

theorem splitFrom_of_notMem {c : Char} {cs : List Char} (hnot : c ∉ cs) (piece : List Char) :
    splitFrom [c] cs piece 0 = [String.ofList (piece.reverse ++ cs)] := by
  induction cs generalizing piece with
  | nil => simp [splitFrom]
  | cons next cs ih =>
      rw [List.mem_cons, not_or] at hnot
      obtain ⟨hne, hnot⟩ := hnot
      have hprefix : [c].isPrefixOf (next :: cs) = false := by simp [List.isPrefixOf, hne]
      rw [splitFrom, hprefix, if_neg Bool.false_ne_true, ih hnot]
      simp

/-- The first separator ends the first piece. -/
theorem splitFrom_append_cons {c : Char} {cs : List Char} (hnot : c ∉ cs) (rest piece : List Char) :
    splitFrom [c] (cs ++ c :: rest) piece 0 =
      String.ofList (piece.reverse ++ cs) :: splitFrom [c] rest [] 0 := by
  induction cs generalizing piece with
  | nil => simp [splitFrom]
  | cons next cs ih =>
      rw [List.mem_cons, not_or] at hnot
      obtain ⟨hne, hnot⟩ := hnot
      have hprefix : [c].isPrefixOf (next :: (cs ++ c :: rest)) = false := by
        simp [List.isPrefixOf, hne]
      rw [List.cons_append, splitFrom, hprefix, if_neg Bool.false_ne_true, ih hnot]
      simp

/-- The first piece of a text that has the separator ends before the first occurrence. -/
theorem exists_head?_splitFrom {separator : List Char} (hne : separator ≠ []) {cs : List Char}
    (hoccurs : separator <:+: cs) (rest piece : List Char) :
    ∃ before : List Char, before.length < cs.length ∧
      (splitFrom separator (cs ++ rest) piece 0).head? =
        some (String.ofList (piece.reverse ++ before)) := by
  induction cs generalizing piece with
  | nil => exact absurd (List.infix_nil.mp hoccurs) hne
  | cons c cs ih =>
      by_cases hprefix : separator.isPrefixOf (c :: (cs ++ rest)) = true
      · refine ⟨[], Nat.succ_pos _, ?_⟩
        rw [List.cons_append, splitFrom, if_pos hprefix]
        simp
      · -- the separator does not begin here, so the rest of the text has it
        have hrest : separator <:+: cs := by
          refine (List.infix_cons_iff.mp hoccurs).resolve_left fun hstart => hprefix ?_
          rw [List.isPrefixOf_iff_prefix]
          exact hstart.trans (List.prefix_append (c :: cs) rest)
        obtain ⟨before, hlength, hhead⟩ := ih hrest (c :: piece)
        refine ⟨c :: before, Nat.succ_lt_succ hlength, ?_⟩
        rw [List.cons_append, splitFrom, if_neg hprefix, hhead]
        simp

/-- A separator whose first letter does not come back in it, at the end of a text without it, ends
the first piece. -/
theorem head?_splitFrom_append_self {c : Char} {tail : List Char} (hc : c ∉ tail) {cs : List Char}
    (hnot : ¬ (c :: tail) <:+: cs) (piece : List Char) :
    (splitFrom (c :: tail) (cs ++ c :: tail) piece 0).head? =
      some (String.ofList (piece.reverse ++ cs)) := by
  induction cs generalizing piece with
  | nil =>
      have hprefix : (c :: tail).isPrefixOf (c :: tail) = true := by
        rw [List.isPrefixOf_iff_prefix]
      rw [List.nil_append, splitFrom, if_pos hprefix]
      simp
  | cons next cs ih =>
      have hprefix : ¬ (c :: tail).isPrefixOf (next :: (cs ++ c :: tail)) = true := by
        rw [List.isPrefixOf_iff_prefix, List.cons_prefix_cons]
        rintro ⟨rfl, htail⟩
        by_cases hle : tail.length ≤ cs.length
        · have hstart : tail <+: cs := List.prefix_of_prefix_length_le htail
            (List.prefix_append cs _) hle
          exact hnot (List.cons_prefix_cons.mpr ⟨rfl, hstart⟩).isInfix
        · -- an occurrence that reaches into the separator at the end would have its first letter
          have hreach : cs ++ [c] <+: tail := by
            refine List.prefix_of_prefix_length_le ?_ htail (by simp; omega)
            simp
          exact hc (hreach.subset (by simp))
      have hrest : ¬ (c :: tail) <:+: cs := fun hoccurs => hnot (List.infix_cons hoccurs)
      rw [List.cons_append, splitFrom, if_neg hprefix, ih hrest]
      simp

theorem digitsFrom_eq {cs : List Char} (hdigits : ∀ c ∈ cs, c.isDigit = true) (value count : ℕ) :
    digitsFrom cs value count = (Nat.ofDigitChars 10 cs value, count + cs.length, []) := by
  induction cs generalizing value count with
  | nil => rfl
  | cons c cs ih =>
      have hdigit : digit? c = some (c.toNat - '0'.toNat) := if_pos (hdigits c List.mem_cons_self)
      have hrest := ih fun other hother => hdigits other (List.mem_cons_of_mem _ hother)
      unfold digitsFrom
      simp only [hdigit, hrest, Nat.ofDigitChars_cons, List.length_cons]
      rw [Nat.add_assoc, Nat.add_comm 1]

theorem dropWhile_isSpace_append {front cs : List Char} (hfront : ∀ c ∈ front, isSpace c = true)
    (hne : cs ≠ []) (hcs : ∀ c ∈ cs, isSpace c = false) (back : List Char) :
    (front ++ (cs ++ back)).dropWhile isSpace = cs ++ back := by
  rw [List.dropWhile_append_of_pos hfront]
  obtain ⟨c, rest, rfl⟩ := List.exists_cons_of_ne_nil hne
  exact List.dropWhile_cons_of_neg (by simp [hcs c List.mem_cons_self])

theorem strip_pad {front cs back : List Char} (hfront : ∀ c ∈ front, isSpace c = true)
    (hne : cs ≠ []) (hcs : ∀ c ∈ cs, isSpace c = false) (hback : ∀ c ∈ back, isSpace c = true) :
    strip (front ++ (cs ++ back)) = cs := by
  have hreverse : (back.reverse ++ (cs.reverse ++ [])).dropWhile isSpace = cs.reverse ++ [] :=
    dropWhile_isSpace_append (fun c hc => hback c (List.mem_reverse.mp hc))
      (mt List.reverse_eq_nil_iff.mp hne) (fun c hc => hcs c (List.mem_reverse.mp hc)) []
  unfold strip
  rw [dropWhile_isSpace_append hfront hne hcs, List.reverse_append,
    ← List.append_nil cs.reverse, hreverse, List.append_nil, List.reverse_reverse]

/-- The decimal notation of an integer: a sign, if there is one, and digits. -/
theorem toList_toString_int (z : ℤ) :
    (toString z).toList = (if z < 0 then ['-'] else []) ++ Nat.toDigits 10 z.natAbs := by
  cases z with
  | ofNat n =>
      have hnonneg : ¬ Int.ofNat n < 0 := Int.not_lt.mpr (Int.natCast_nonneg n)
      rw [if_neg hnonneg]
      exact Nat.toList_repr
  | negSucc n =>
      rw [if_pos (Int.negSucc_lt_zero n)]
      show ("-" ++ (n + 1).repr).toList = _
      rw [String.toList_append, Nat.toList_repr]
      rfl

theorem not_space_of_isDigit {c : Char} (hdigit : c.isDigit = true) :
    isSpace c = false ∧ c ∉ ['-', '+', '/'] := by
  refine ⟨Bool.eq_false_iff.mpr fun hspace => ?_, fun hmem => ?_⟩
  · have hlow : 48 ≤ c.toNat ∧ c.toNat ≤ 57 := by
      simpa [Char.isDigit, UInt32.le_iff_toNat_le] using hdigit
    simp [isSpace, isPySpace, isWithin] at hspace
    omega
  · simp only [List.mem_cons, List.not_mem_nil, or_false] at hmem
    rcases hmem with rfl | rfl | rfl <;> exact absurd hdigit (by decide)

theorem not_space_of_mem_toString {z : ℤ} {c : Char} (hc : c ∈ (toString z).toList) :
    isSpace c = false ∧ c ≠ '/' := by
  rw [toList_toString_int, List.mem_append] at hc
  rcases hc with hsign | hdigit
  · split at hsign
    · obtain rfl := List.mem_singleton.mp hsign
      decide
    · cases hsign
  · obtain ⟨hspace, hnot⟩ :=
      not_space_of_isDigit (Nat.isDigit_of_mem_toDigits (by omega) (by omega) hdigit)
    refine ⟨hspace, fun h => hnot ?_⟩
    rw [h]
    decide

theorem signFrom_of_digits {cs : List Char} (hdigits : ∀ c ∈ cs, c.isDigit = true) :
    signFrom cs = (false, cs) := by
  unfold signFrom
  split
  · exact absurd (hdigits '-' List.mem_cons_self) (by decide)
  · exact absurd (hdigits '+' List.mem_cons_self) (by decide)
  · rfl

/-- **An integer in decimal notation, with blanks around it, is read back.** -/
theorem parseInt_toString {front back : List Char} (hfront : ∀ c ∈ front, isSpace c = true)
    (hback : ∀ c ∈ back, isSpace c = true) (z : ℤ) :
    parseInt (String.ofList (front ++ ((toString z).toList ++ back))) = some z := by
  have hdigits : ∀ c ∈ Nat.toDigits 10 z.natAbs, c.isDigit = true :=
    fun c hc => Nat.isDigit_of_mem_toDigits (by omega) (by omega) hc
  have hlength : (Nat.toDigits 10 z.natAbs).length ≠ 0 := Nat.length_toDigits_pos.ne'
  have hne : (toString z).toList ≠ [] := by
    rw [toList_toString_int]
    exact List.append_ne_nil_of_right_ne_nil _ Nat.toDigits_ne_nil
  unfold parseInt
  rw [String.toList_ofList,
    strip_pad hfront hne (fun c hc => (not_space_of_mem_toString hc).1) hback,
    toList_toString_int]
  split_ifs with hneg
  · have hsign : signFrom (['-'] ++ Nat.toDigits 10 z.natAbs) = (true, Nat.toDigits 10 z.natAbs) :=
      rfl
    simp only [hsign, digitsFrom_eq hdigits, Nat.ofDigitChars_ten_toDigits, Nat.zero_add, hlength,
      if_false, if_true]
    congr 1
    omega
  · simp only [List.nil_append, signFrom_of_digits hdigits, digitsFrom_eq hdigits,
      Nat.ofDigitChars_ten_toDigits, Nat.zero_add, hlength, if_false, Bool.false_eq_true]
    congr 1
    omega

theorem parseInt_toString_self (z : ℤ) : parseInt (toString z) = some z := by
  simpa using parseInt_toString (List.forall_mem_nil _) (List.forall_mem_nil _) z

theorem toString_int_injective : Function.Injective (toString : ℤ → String) := by
  intro a b heq
  have hsome : some a = some b := by
    rw [← parseInt_toString_self a, heq, parseInt_toString_self b]
  exact Option.some.inj hsome

theorem neg_append_toString {n : ℤ} (hn : 0 < n) : "-" ++ toString n = toString (-n) := by
  have hneg : ¬ n < 0 := by omega
  have hneg' : -n < 0 := by omega
  rw [← String.toList_inj, String.toList_append, toList_toString_int, toList_toString_int,
    if_neg hneg, if_pos hneg', Int.natAbs_neg]
  rfl

example : parseInt " -1_0 " = some (-10) := by decide

example : split ", " "Exchange, Dex,, " = ["Exchange", "Dex,", ""] := by decide

theorem splitFrom_skip (separator skipped rest piece : List Char) :
    splitFrom separator (skipped ++ rest) piece skipped.length =
      splitFrom separator rest piece 0 := by
  induction skipped with
  | nil => rfl
  | cons c skipped ih => rw [List.cons_append, List.length_cons, splitFrom, ih]

theorem splitFrom_of_not_infix {separator cs : List Char} (hnot : ¬ separator <:+: cs)
    (piece : List Char) :
    splitFrom separator cs piece 0 = [String.ofList (piece.reverse ++ cs)] := by
  induction cs generalizing piece with
  | nil => simp [splitFrom]
  | cons c cs ih =>
      have hprefix : ¬ separator.isPrefixOf (c :: cs) = true := by
        rw [List.isPrefixOf_iff_prefix]
        exact fun hstart => hnot hstart.isInfix
      rw [splitFrom, if_neg hprefix, ih fun hoccurs => hnot (List.infix_cons hoccurs)]
      simp

/-- A separator of which no occurrence begins earlier, not even one that reaches into it, ends the
first piece. -/
theorem splitFrom_append_separator {separator cs : List Char} (hne : separator ≠ [])
    (hfirst : ¬ separator <:+: cs ++ separator.dropLast) (rest piece : List Char) :
    splitFrom separator (cs ++ (separator ++ rest)) piece 0 =
      String.ofList (piece.reverse ++ cs) :: splitFrom separator rest [] 0 := by
  induction cs generalizing piece with
  | nil =>
      obtain ⟨c, tail, rfl⟩ := List.exists_cons_of_ne_nil hne
      have hprefix : (c :: tail).isPrefixOf (c :: (tail ++ rest)) = true := by
        rw [List.isPrefixOf_iff_prefix, ← List.cons_append]
        exact List.prefix_append _ _
      rw [List.nil_append, List.cons_append, splitFrom, if_pos hprefix, List.length_cons,
        Nat.add_sub_cancel, splitFrom_skip, List.append_nil]
  | cons c cs ih =>
      have hprefix : ¬ separator.isPrefixOf (c :: (cs ++ (separator ++ rest))) = true := by
        rw [List.isPrefixOf_iff_prefix]
        intro hstart
        have hpart : c :: cs ++ separator.dropLast <+: c :: (cs ++ (separator ++ rest)) := by
          rw [← List.cons_append]
          exact List.prefix_append_right_inj _ |>.mpr
            ((List.dropLast_prefix separator).trans (List.prefix_append _ _))
        refine hfirst (List.prefix_of_prefix_length_le hstart hpart ?_).isInfix
        rw [List.length_append, List.length_cons, List.length_dropLast]
        omega
      have hlater : ¬ separator <:+: cs ++ separator.dropLast :=
        fun hoccurs => hfirst (List.infix_cons hoccurs)
      rw [List.cons_append, splitFrom, if_neg hprefix, ih hlater]
      simp

/-- A separator whose first letter does not occur before. -/
theorem splitFrom_append_of_notMem {c : Char} {tail cs : List Char} (hnot : c ∉ cs)
    (rest piece : List Char) :
    splitFrom (c :: tail) (cs ++ (c :: tail ++ rest)) piece 0 =
      String.ofList (piece.reverse ++ cs) :: splitFrom (c :: tail) rest [] 0 := by
  refine splitFrom_append_separator (List.cons_ne_nil c tail) ?_ rest piece
  rintro ⟨front, back, hoccurs⟩
  -- the occurrence begins within `cs`, because behind it there is not room enough
  have hshort : front.length < cs.length := by
    have hlength := congrArg List.length hoccurs
    simp only [List.length_append, List.length_cons, List.length_dropLast] at hlength
    omega
  have hletter := congrArg (·[front.length]?) hoccurs
  simp only [List.append_assoc, List.getElem?_append_right le_rfl, Nat.sub_self,
    List.cons_append, List.getElem?_cons_zero, List.getElem?_append_left hshort] at hletter
  exact hnot (List.mem_of_getElem? hletter.symm)

/-- `s.rfind(c)`, on the characters of `s`; nothing stands for `-1`. -/
def rfind (c : Char) (cs : List Char) : Option ℕ :=
  (cs.reverse.idxOf? c).map fun i => cs.length - 1 - i

theorem rfind_append {c : Char} {back : List Char} (hback : c ∉ back) (front : List Char) :
    rfind c (front ++ c :: back) = some front.length := by
  have hreverse : c ∉ back.reverse := by rwa [List.mem_reverse]
  have hindex : (front ++ c :: back).reverse.idxOf? c = some back.length := by
    rw [List.reverse_append, List.reverse_cons, List.append_assoc, List.idxOf?_eq_some_iff]
    refine ⟨by simp, by simp, fun j hj => ?_⟩
    have hj' : j < back.reverse.length := by simpa using hj
    rw [List.getElem_append_left hj']
    intro hsame
    exact hreverse (hsame ▸ List.getElem_mem hj')
  rw [rfind, hindex, Option.map_some, List.length_append, List.length_cons]
  congr 1
  omega

/-- The last occurrence of a character splits the text. -/
theorem rfind_eq_some_iff {c : Char} {cs : List Char} {pos : ℕ} :
    rfind c cs = some pos ↔
      ∃ front back, cs = front ++ c :: back ∧ c ∉ back ∧ front.length = pos := by
  constructor
  · intro hfind
    have hmem : c ∈ cs.reverse := by
      by_contra hnot
      rw [rfind, List.idxOf?_eq_none_iff.mpr hnot] at hfind
      exact absurd hfind (by simp)
    obtain ⟨back, front, hsplit, hback⟩ := List.eq_append_cons_of_mem hmem
    have hcs : cs = front.reverse ++ c :: back.reverse := by
      rw [← cs.reverse_reverse, hsplit]
      simp
    have hback' : c ∉ back.reverse := by rwa [List.mem_reverse]
    rw [hcs, rfind_append hback'] at hfind
    exact ⟨front.reverse, back.reverse, hcs, hback', Option.some.inj hfind⟩
  · rintro ⟨front, back, rfl, hback, rfl⟩
    exact rfind_append hback front

end PyText
