import Mathlib.Data.List.TakeWhile
import Mathlib.Order.Basic

/-!
# Regular expressions that are matched at the start of a text

The part of Python's `re` that address patterns use: literal texts, repeated character classes,
`^` and `$`, sequences, alternatives and optional groups.  `Pattern.isMatch` is whether
`re.match(pattern, s)` finds a match: one that starts at the start of the text, and need not end at
its end.

Two facts about a pattern are computed from its syntax: a class that holds all characters it can
consume (`Pattern.within`), and whether every match ends at a `$` (`Pattern.anchored`).  The `$`
also matches before a line feed at the end of the text.
-/

namespace Regex

/-! ## Patterns and their matches -/

/-- A character class: ranges of characters, both ends included. -/
abbrev CharClass := List (Char × Char)

/-- The class has the character. -/
def CharClass.has (cls : CharClass) (c : Char) : Bool :=
  cls.any fun range => decide (range.1 ≤ c) && decide (c ≤ range.2)

inductive Pattern where
  /-- A literal text. -/
  | text (s : String)
  /-- `[…]{lo,hi}`, without an upper bound where `hi` is `none`. -/
  | chars (cls : CharClass) (lo : ℕ) (hi : Option ℕ)
  /-- `^`. -/
  | start
  /-- `$`. -/
  | stop
  | seq (first second : Pattern)
  | alt (first second : Pattern)
  /-- `(…)?`. -/
  | opt (body : Pattern)
  deriving Repr

/-- A position in the text: whether it is the start, and the text behind it. -/
structure Position where
  atStart : Bool
  rest : List Char
  deriving DecidableEq, Repr

/-- The position `n` characters further on. -/
def Position.advance (pos : Position) (n : ℕ) : Position :=
  ⟨pos.atStart && decide (n = 0), pos.rest.drop n⟩

/-- The lengths of the runs of a repeated class, the longest one first. -/
def runLengths (cls : CharClass) (lo : ℕ) (hi : Option ℕ) (rest : List Char) : List ℕ :=
  let available := (rest.takeWhile cls.has).length
  let longest := match hi with
    | some bound => min bound available
    | none => available
  ((List.range (longest + 1)).filter fun n => decide (lo ≤ n)).reverse

/-- The positions at which a match from a position can end, in the order in which they are tried. -/
def Pattern.ends : Pattern → Position → List Position
  | .text s, pos =>
      if s.toList.isPrefixOf pos.rest then [pos.advance s.toList.length] else []
  | .chars cls lo hi, pos => (runLengths cls lo hi pos.rest).map pos.advance
  | .start, pos => if pos.atStart then [pos] else []
  | .stop, pos => if pos.rest = [] ∨ pos.rest = ['\n'] then [pos] else []
  | .seq first second, pos => (first.ends pos).flatMap second.ends
  | .alt first second, pos => first.ends pos ++ second.ends pos
  | .opt body, pos => body.ends pos ++ [pos]

/-- `re.match(pattern, s)` is not `None`. -/
def Pattern.isMatch (pattern : Pattern) (s : String) : Bool :=
  !(pattern.ends ⟨true, s.toList⟩).isEmpty

/-! ## What the syntax tells about a match -/

/-- All ranges of the class are parts of ranges of the other one. -/
def CharClass.sub (cls allowed : CharClass) : Bool :=
  cls.all fun range => allowed.any fun outer =>
    decide (outer.1 ≤ range.1) && decide (range.2 ≤ outer.2)

/-- A match consumes only characters of the class. -/
def Pattern.within (allowed : CharClass) : Pattern → Bool
  | .text s => s.toList.all allowed.has
  | .chars cls _ _ => cls.sub allowed
  | .start => true
  | .stop => true
  | .seq first second => first.within allowed && second.within allowed
  | .alt first second => first.within allowed && second.within allowed
  | .opt body => body.within allowed

/-- The least number of characters that a match consumes. -/
def Pattern.minLength : Pattern → ℕ
  | .text s => s.toList.length
  | .chars _ lo _ => lo
  | .start => 0
  | .stop => 0
  | .seq first second => first.minLength + second.minLength
  | .alt first second => min first.minLength second.minLength
  | .opt _ => 0

/-- Every match ends at a `$`. -/
def Pattern.anchored : Pattern → Bool
  | .text _ => false
  | .chars _ _ _ => false
  | .start => false
  | .stop => true
  | .seq _ second => second.anchored
  | .alt first second => first.anchored && second.anchored
  | .opt _ => false

variable {pattern first second : Pattern} {allowed cls : CharClass} {pos last : Position}

theorem CharClass.has_of_sub (hsub : cls.sub allowed = true) {c : Char} (hc : cls.has c = true) :
    allowed.has c = true := by
  obtain ⟨range, hrange, hbounds⟩ := List.any_eq_true.mp hc
  obtain ⟨outer, houter, hcovers⟩ := List.any_eq_true.mp (List.all_eq_true.mp hsub range hrange)
  simp only [Bool.and_eq_true, decide_eq_true_eq] at hbounds hcovers
  refine List.any_eq_true.mpr ⟨outer, houter, ?_⟩
  simp only [Bool.and_eq_true, decide_eq_true_eq]
  exact ⟨Char.le_trans hcovers.1 hbounds.1, Char.le_trans hbounds.2 hcovers.2⟩

theorem mem_ends_seq :
    last ∈ (Pattern.seq first second).ends pos ↔ ∃ mid ∈ first.ends pos, last ∈ second.ends mid :=
  List.mem_flatMap

theorem eq_of_mem_ends_start (hlast : last ∈ Pattern.start.ends pos) : last = pos := by
  simp only [Pattern.ends] at hlast
  split at hlast
  · exact List.mem_singleton.mp hlast
  · cases hlast

theorem exists_run {lo : ℕ} {hi : Option ℕ} (hlast : last ∈ (Pattern.chars cls lo hi).ends pos) :
    ∃ run, pos.rest = run ++ last.rest ∧ (∀ c ∈ run, cls.has c = true) ∧ lo ≤ run.length ∧
      ∀ bound, hi = some bound → run.length ≤ bound := by
  obtain ⟨n, hn, rfl⟩ := List.mem_map.mp hlast
  unfold runLengths at hn
  rw [List.mem_reverse, List.mem_filter, List.mem_range, decide_eq_true_eq] at hn
  obtain ⟨hlt, hlo⟩ := hn
  have hprefix : pos.rest.takeWhile cls.has <+: pos.rest := List.takeWhile_prefix _
  have hle : n ≤ (pos.rest.takeWhile cls.has).length := by
    cases hi with
    | some bound => exact (Nat.le_of_lt_succ hlt).trans (min_le_right _ _)
    | none => exact Nat.le_of_lt_succ hlt
  have hlength : (pos.rest.take n).length = n := by
    rw [List.length_take]
    exact min_eq_left (hle.trans hprefix.length_le)
  refine ⟨pos.rest.take n, (List.take_append_drop n _).symm, fun c hc => ?_, ?_, ?_⟩
  · have htake : pos.rest.take n = (pos.rest.takeWhile cls.has).take n := by
      rw [List.prefix_iff_eq_take.mp hprefix, List.take_take, min_eq_left hle]
    rw [htake] at hc
    exact List.mem_takeWhile_imp (List.mem_of_mem_take hc)
  · rw [hlength]
    exact hlo
  · rintro bound rfl
    rw [hlength]
    exact (Nat.le_of_lt_succ hlt).trans (min_le_left _ _)

/-- A match consumes a piece of the text, of characters that its pattern allows. -/
theorem exists_consumed (hwithin : pattern.within allowed = true)
    (hlast : last ∈ pattern.ends pos) :
    ∃ consumed, pos.rest = consumed ++ last.rest ∧ (∀ c ∈ consumed, allowed.has c = true) ∧
      pattern.minLength ≤ consumed.length := by
  induction pattern generalizing pos last with
  | text s =>
      simp only [Pattern.ends] at hlast
      split at hlast
      · rename_i hprefix
        obtain rfl := List.mem_singleton.mp hlast
        obtain ⟨rest, hrest⟩ := List.isPrefixOf_iff_prefix.mp hprefix
        refine ⟨s.toList, ?_, List.all_eq_true.mp hwithin, le_rfl⟩
        rw [Position.advance, ← hrest, List.drop_left]
      · cases hlast
  | chars cls lo hi =>
      obtain ⟨run, hrest, hrun, hlo, -⟩ := exists_run hlast
      exact ⟨run, hrest, fun c hc => CharClass.has_of_sub hwithin (hrun c hc), hlo⟩
  | start =>
      obtain rfl := eq_of_mem_ends_start hlast
      exact ⟨[], rfl, by simp, le_rfl⟩
  | stop =>
      simp only [Pattern.ends] at hlast
      split at hlast
      · obtain rfl := List.mem_singleton.mp hlast
        exact ⟨[], rfl, by simp, le_rfl⟩
      · cases hlast
  | seq first second ihFirst ihSecond =>
      obtain ⟨hfirst, hsecond⟩ := Bool.and_eq_true_iff.mp hwithin
      obtain ⟨mid, hmid, hlast⟩ := mem_ends_seq.mp hlast
      obtain ⟨head, hhead, hheadChars, hheadLength⟩ := ihFirst hfirst hmid
      obtain ⟨tail, htail, htailChars, htailLength⟩ := ihSecond hsecond hlast
      refine ⟨head ++ tail, by rw [hhead, htail, List.append_assoc], fun c hc => ?_, ?_⟩
      · exact (List.mem_append.mp hc).elim (hheadChars c) (htailChars c)
      · rw [List.length_append]
        exact Nat.add_le_add hheadLength htailLength
  | alt first second ihFirst ihSecond =>
      obtain ⟨hfirst, hsecond⟩ := Bool.and_eq_true_iff.mp hwithin
      rcases List.mem_append.mp hlast with hlast | hlast
      · obtain ⟨consumed, hrest, hchars, hlength⟩ := ihFirst hfirst hlast
        exact ⟨consumed, hrest, hchars, (min_le_left _ _).trans hlength⟩
      · obtain ⟨consumed, hrest, hchars, hlength⟩ := ihSecond hsecond hlast
        exact ⟨consumed, hrest, hchars, (min_le_right _ _).trans hlength⟩
  | opt body ih =>
      rcases List.mem_append.mp hlast with hlast | hlast
      · obtain ⟨consumed, hrest, hchars, -⟩ := ih hwithin hlast
        exact ⟨consumed, hrest, hchars, Nat.zero_le _⟩
      · obtain rfl := List.mem_singleton.mp hlast
        exact ⟨[], rfl, by simp, le_rfl⟩

/-- Behind a match of an anchored pattern there is at most a line feed. -/
theorem rest_of_anchored (hanchored : pattern.anchored = true) (hlast : last ∈ pattern.ends pos) :
    last.rest = [] ∨ last.rest = ['\n'] := by
  induction pattern generalizing pos with
  | text s => cases hanchored
  | chars cls lo hi => cases hanchored
  | start => cases hanchored
  | stop =>
      simp only [Pattern.ends] at hlast
      split at hlast
      · rename_i hend
        obtain rfl := List.mem_singleton.mp hlast
        exact hend
      · cases hlast
  | seq first second _ ih =>
      obtain ⟨mid, -, hlast⟩ := mem_ends_seq.mp hlast
      exact ih hanchored hlast
  | alt first second ihFirst ihSecond =>
      obtain ⟨hfirst, hsecond⟩ := Bool.and_eq_true_iff.mp hanchored
      rcases List.mem_append.mp hlast with hlast | hlast
      · exact ihFirst hfirst hlast
      · exact ihSecond hsecond hlast
  | opt body _ => cases hanchored

theorem isMatch_iff {s : String} :
    pattern.isMatch s = true ↔ ∃ last, last ∈ pattern.ends ⟨true, s.toList⟩ := by
  unfold Pattern.isMatch
  rw [Bool.not_eq_true', ← Bool.not_eq_true, List.isEmpty_iff]
  exact ⟨fun hne => List.exists_mem_of_ne_nil _ hne, fun ⟨_, hmem⟩ => List.ne_nil_of_mem hmem⟩

/-- **A text that a pattern matches starts with characters that the pattern allows, as many as the
pattern needs at least.** -/
theorem exists_consumed_of_isMatch (hwithin : pattern.within allowed = true) {s : String}
    (hmatch : pattern.isMatch s = true) :
    ∃ consumed rest, s.toList = consumed ++ rest ∧ (∀ c ∈ consumed, allowed.has c = true) ∧
      pattern.minLength ≤ consumed.length := by
  obtain ⟨last, hlast⟩ := isMatch_iff.mp hmatch
  obtain ⟨consumed, hrest, hchars, hlength⟩ := exists_consumed hwithin hlast
  exact ⟨consumed, last.rest, hrest, hchars, hlength⟩

/-- **A text that an anchored pattern matches consists of characters that the pattern allows, up to
a line feed at its end.** -/
theorem exists_body_of_isMatch (hwithin : pattern.within allowed = true)
    (hanchored : pattern.anchored = true) {s : String} (hmatch : pattern.isMatch s = true) :
    ∃ body, (∀ c ∈ body, allowed.has c = true) ∧ (s.toList = body ∨ s.toList = body ++ ['\n']) := by
  obtain ⟨last, hlast⟩ := isMatch_iff.mp hmatch
  obtain ⟨consumed, hrest, hchars, -⟩ := exists_consumed hwithin hlast
  refine ⟨consumed, hchars, ?_⟩
  rcases rest_of_anchored hanchored hlast with hend | hend
  · rw [hend, List.append_nil] at hrest
    exact .inl hrest
  · rw [hend] at hrest
    exact .inr hrest

example :
    (Pattern.seq .start (.seq (.chars [('a', 'f')] 2 (some 3)) .stop)).isMatch "abc\n" = true :=
  rfl

end Regex
