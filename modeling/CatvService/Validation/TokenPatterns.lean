import CatvService.Library.Regex
import CatvService.Models

/-!
# The address patterns of the tokens

`pattern_matches_token` of `api/utils.py`.

Most of the patterns are anchored and allow nothing but letters, digits and `.`, so all that they
let through besides is a line feed at the end.  Three are looser: the pattern of BTC has a `.*`
behind its first characters, two of the alternatives of BCH have no `$`, and the class of DASH has
the bar that was meant as an alternative.  `loosePart` is the part of a text that its pattern does
not confine, and a text that matches is an address text exactly if this part is
(`isAddressText_iff_loosePart`).
-/

namespace CatvService.Validation

open Regex

/-! ## The patterns -/

def alphanumerics : CharClass := [('a', 'z'), ('A', 'Z'), ('0', '9')]

/-- `[a-km-zA-HJ-NP-Z1-9]`. -/
def base58 : CharClass := [('a', 'k'), ('m', 'z'), ('A', 'H'), ('J', 'N'), ('P', 'Z'), ('1', '9')]

/-- `[a-fA-F0-9]`. -/
def hexadecimals : CharClass := [('a', 'f'), ('A', 'F'), ('0', '9')]

/-- `.`. -/
def anyButLineFeed : CharClass := [('\x00', '\t'), ('\x0b', Char.ofNat 0x10ffff)]

/-- A class that is repeated `n` times. -/
def exactly (n : ℕ) (cls : CharClass) : Pattern :=
  .chars cls n (some n)

/-- One of the given characters. -/
def oneOf (cs : List Char) : Pattern :=
  .chars (cs.map fun c => (c, c)) 1 (some 1)

/-- `^…$`. -/
def anchoredPattern (first second : Pattern) : Pattern :=
  .seq .start (.seq first (.seq second .stop))

/-- `^0x[a-fA-F0-9]{40}$`. -/
def evmPattern : Pattern :=
  anchoredPattern (.text "0x") (exactly 40 hexadecimals)

/-- `^([13]|bc1).*[a-zA-Z0-9]{26,35}$`. -/
def btcPattern : Pattern :=
  .seq .start (.seq (.alt (oneOf ['1', '3']) (.text "bc1"))
    (.seq (.chars anyButLineFeed 0 none) (.seq (.chars alphanumerics 26 (some 35)) .stop)))

/-- `^([13][a-km-zA-HJ-NP-Z1-9]{25,34})|^((bitcoincash:)?(q|p)[a-z0-9]{41})|`
`^((BITCOINCASH:)?(Q|P)[A-Z0-9]{41})$`. -/
def bchPattern : Pattern :=
  .alt (.seq .start (.seq (oneOf ['1', '3']) (.chars base58 25 (some 34))))
    (.alt
      (.seq .start (.seq (.opt (.text "bitcoincash:"))
        (.seq (.alt (.text "q") (.text "p")) (exactly 41 [('a', 'z'), ('0', '9')]))))
      (.seq .start (.seq (.opt (.text "BITCOINCASH:"))
        (.seq (.alt (.text "Q") (.text "P")) (.seq (exactly 41 [('A', 'Z'), ('0', '9')]) .stop)))))

/-- `^[X|7][0-9A-Za-z]{33}$`. -/
def dashPattern : Pattern :=
  anchoredPattern (oneOf ['X', '|', '7']) (exactly 33 alphanumerics)

/-- `token_regex_map`. -/
def tokenRegexMap : CatvTokens → Pattern
  | .eth | .bsc | .klay | .ftm | .pol | .avax | .arb | .arbnova | .op | .base | .linea | .blast
  | .scroll | .mantle | .opbnb | .btt | .celo | .fraxtal | .gnosis | .memecore | .moonbeam
  | .moonriver | .taiko | .apechain | .world | .sonic | .unichain | .abstract | .berachain
  | .swellchain | .monad | .hyperevm | .katana | .sei | .stable | .plasma => evmPattern
  | .tron => anchoredPattern (.text "T") (.chars alphanumerics 21 (some 34))
  | .btc => btcPattern
  | .ltc => anchoredPattern (oneOf ['L', 'M', '3']) (.chars base58 26 (some 33))
  | .bch => bchPattern
  | .xrp => anchoredPattern (.text "r") (.chars alphanumerics 24 (some 34))
  | .eos => anchoredPattern (.text "") (exactly 12 [('1', '5'), ('a', 'z'), ('.', '.')])
  | .xlm => anchoredPattern (.text "") (exactly 56 alphanumerics)
  | .bnb => anchoredPattern (.text "bnb1") (exactly 38 [('0', '9'), ('a', 'z')])
  | .ada => anchoredPattern (.text "") (.chars alphanumerics 1 none)
  | .lunc => anchoredPattern (.text "terra1") (exactly 38 [('0', '9'), ('a', 'z')])
  | .doge =>
      anchoredPattern (.alt (.text "D") (.alt (.text "A") (.text "9"))) (.chars base58 33 (some 34))
  | .zec => anchoredPattern (.text "t") (exactly 34 alphanumerics)
  | .dash => dashPattern
  | .sol =>
      anchoredPattern (.text "")
        (.chars [('1', '9'), ('A', 'H'), ('J', 'N'), ('P', 'Z'), ('a', 'k'), ('m', 'z')]
          32 (some 44))
  | .xdc => anchoredPattern (.alt (.text "0x") (.text "xdc")) (exactly 40 hexadecimals)

/-- `pattern_matches_token(address, token_type)`, for the value of a token. -/
def patternMatchesToken (address : String) (tokenType : CatvTokens) : Bool :=
  (tokenRegexMap tokenType).isMatch address

/-! ## What the patterns confine -/

/-- ASCII letters, digits, `.` and `:`. -/
def addressClass : CharClass := [('a', 'z'), ('A', 'Z'), ('0', '9'), ('.', '.'), (':', ':')]

/-- The whole of the text consists of such characters. -/
def IsAddressText (cs : List Char) : Prop :=
  ∀ c ∈ cs, addressClass.has c = true

instance (cs : List Char) : Decidable (IsAddressText cs) :=
  decidable_of_iff (cs.all addressClass.has = true) List.all_eq_true

/-- The text consists of letters and digits. -/
def IsAlphanumeric (cs : List Char) : Prop :=
  ∀ c ∈ cs, alphanumerics.has c = true

instance (cs : List Char) : Decidable (IsAlphanumeric cs) :=
  decidable_of_iff (cs.all alphanumerics.has = true) List.all_eq_true

theorem IsAlphanumeric.isAddressText {cs : List Char} (hcs : IsAlphanumeric cs) :
    IsAddressText cs :=
  fun c hc => CharClass.has_of_sub rfl (hcs c hc)

/-- The part of a text that its pattern leaves open: the last character, which may be a line feed;
for BTC also what lies between the first and the last 26 characters, for DASH also the first one,
and for BCH everything behind the first 26. -/
def loosePart (tokenType : CatvTokens) (cs : List Char) : List Char :=
  match tokenType with
  | .btc => (cs.drop 1).take (cs.length - 27) ++ cs.getLast?.toList
  | .bch => cs.drop 26
  | .dash => cs.take 1 ++ cs.getLast?.toList
  | _ => cs.getLast?.toList

theorem loosePart_subset (tokenType : CatvTokens) {cs : List Char} {c : Char}
    (hc : c ∈ loosePart tokenType cs) : c ∈ cs := by
  have hlast : c ∈ cs.getLast?.toList → c ∈ cs := fun hmem =>
    List.mem_of_getLast? (Option.mem_toList.mp hmem)
  unfold loosePart at hc
  split at hc
  · rcases List.mem_append.mp hc with hmem | hmem
    · exact List.mem_of_mem_drop (List.mem_of_mem_take hmem)
    · exact hlast hmem
  · exact List.mem_of_mem_drop hc
  · rcases List.mem_append.mp hc with hmem | hmem
    · exact List.mem_of_mem_take hmem
    · exact hlast hmem
  · exact hlast hc

variable {cs body head mid tail rest : List Char}

theorem eq_nil_of_getLast (hrest : rest = [] ∨ rest = ['\n']) (hcs : cs = body ++ rest)
    (hlast : IsAddressText cs.getLast?.toList) : rest = [] := by
  rcases hrest with rfl | rfl
  · rfl
  · subst hcs
    have hnewline : addressClass.has '\n' = true := hlast '\n' (by simp)
    cases hnewline

theorem within_and_anchored (tokenType : CatvTokens) (hbtc : tokenType ≠ .btc)
    (hbch : tokenType ≠ .bch) (hdash : tokenType ≠ .dash) :
    (tokenRegexMap tokenType).within addressClass = true ∧
      (tokenRegexMap tokenType).anchored = true := by
  cases tokenType <;> first
    | exact absurd rfl hbtc
    | exact absurd rfl hbch
    | exact absurd rfl hdash
    | exact ⟨rfl, rfl⟩

/-- Behind one character and before the last 26 there is only the middle of such a text. -/
theorem forall_of_middle {P : Char → Prop} (hcs : cs = head ++ mid ++ tail)
    (hhead : ∀ c ∈ head, P c) (hheadLength : 1 ≤ head.length) (htail : ∀ c ∈ tail, P c)
    (htailLength : 26 ≤ tail.length) (hmiddle : ∀ c ∈ (cs.drop 1).take (cs.length - 27), P c) :
    ∀ c ∈ cs, P c := by
  have hlength : cs.length = head.length + mid.length + tail.length := by
    rw [hcs, List.length_append, List.length_append]
  intro c hc
  rw [← List.take_append_drop 1 cs] at hc
  rcases List.mem_append.mp hc with hmem | hmem
  · rw [hcs, List.append_assoc, List.take_append_of_le_length hheadLength] at hmem
    exact hhead c (List.mem_of_mem_take hmem)
  · rw [← List.take_append_drop (cs.length - 27) (cs.drop 1)] at hmem
    rcases List.mem_append.mp hmem with hmem | hmem
    · exact hmiddle c hmem
    · rw [List.drop_drop, hcs, List.drop_append] at hmem
      have hnil : (head ++ mid).drop (1 + ((head ++ mid ++ tail).length - 27)) = [] := by
        apply List.drop_eq_nil_of_le
        rw [← hcs, hlength, List.length_append]
        omega
      rw [hnil, List.nil_append] at hmem
      exact htail c (List.mem_of_mem_drop hmem)

/-- A text that the pattern of BTC matches: its middle is the part that `.*` takes. -/
theorem exists_middle_of_btc {s : String} (hmatch : patternMatchesToken s .btc = true) :
    ∃ head mid tail rest, s.toList = head ++ mid ++ tail ++ rest ∧ IsAlphanumeric head ∧
      1 ≤ head.length ∧ IsAlphanumeric tail ∧ 26 ≤ tail.length ∧ (rest = [] ∨ rest = ['\n']) := by
  obtain ⟨last, hlast⟩ := isMatch_iff.mp hmatch
  obtain ⟨first, hfirst, hlast⟩ := mem_ends_seq.mp hlast
  obtain rfl := eq_of_mem_ends_start hfirst
  obtain ⟨second, hsecond, hlast⟩ := mem_ends_seq.mp hlast
  obtain ⟨third, hthird, hlast⟩ := mem_ends_seq.mp hlast
  have hwithin : Pattern.within alphanumerics (.alt (oneOf ['1', '3']) (.text "bc1")) = true := rfl
  obtain ⟨head, hhead, hheadText, hheadLength⟩ := exists_consumed hwithin hsecond
  obtain ⟨mid, hmid, -⟩ := exists_run hthird
  have hwithin' : Pattern.within alphanumerics
      (.seq (.chars alphanumerics 26 (some 35)) .stop) = true := rfl
  obtain ⟨tail, htail, htailText, htailLength⟩ := exists_consumed hwithin' hlast
  refine ⟨head, mid, tail, last.rest, ?_, hheadText, hheadLength, htailText, htailLength,
    rest_of_anchored rfl hlast⟩
  calc s.toList
      = head ++ second.rest := hhead
    _ = head ++ (mid ++ third.rest) := by rw [hmid]
    _ = head ++ mid ++ tail ++ last.rest := by rw [htail]; simp

/-- A text that the pattern of DASH matches: only its first character is open. -/
theorem exists_tail_of_dash {s : String} (hmatch : patternMatchesToken s .dash = true) :
    ∃ head tail rest, s.toList = head ++ tail ++ rest ∧ head.length = 1 ∧ IsAddressText tail ∧
      (rest = [] ∨ rest = ['\n']) := by
  obtain ⟨last, hlast⟩ := isMatch_iff.mp hmatch
  obtain ⟨first, hfirst, hlast⟩ := mem_ends_seq.mp hlast
  obtain rfl := eq_of_mem_ends_start hfirst
  obtain ⟨second, hsecond, hlast⟩ := mem_ends_seq.mp hlast
  obtain ⟨head, hhead, -, hlo, hhi⟩ := exists_run hsecond
  have hwithin : Pattern.within addressClass (.seq (exactly 33 alphanumerics) .stop) = true := rfl
  obtain ⟨tail, htail, htailText, -⟩ := exists_consumed hwithin hlast
  refine ⟨head, tail, last.rest, ?_, (hhi 1 rfl).antisymm hlo, htailText,
    rest_of_anchored rfl hlast⟩
  calc s.toList
      = head ++ second.rest := hhead
    _ = head ++ tail ++ last.rest := by rw [htail, List.append_assoc]

/-- BTC: every character between the first and the last one is matched or loose. -/
theorem isAddressText_of_btc {s : String} (hmatch : patternMatchesToken s .btc = true)
    (hloose : IsAddressText (loosePart .btc s.toList)) : IsAddressText s.toList := by
  obtain ⟨head, mid, tail, rest, hs, hhead, hheadLength, htail, htailLength, hrest⟩ :=
    exists_middle_of_btc hmatch
  have hlast : IsAddressText s.toList.getLast?.toList :=
    fun c hc => hloose c (List.mem_append_right _ hc)
  rw [eq_nil_of_getLast hrest hs hlast, List.append_nil] at hs
  exact forall_of_middle hs hhead.isAddressText hheadLength htail.isAddressText htailLength
    fun c hc => hloose c (List.mem_append_left _ hc)

/-- DASH: the head may be anything, and is loose. -/
theorem isAddressText_of_dash {s : String} (hmatch : patternMatchesToken s .dash = true)
    (hloose : IsAddressText (loosePart .dash s.toList)) : IsAddressText s.toList := by
  obtain ⟨head, tail, rest, hs, hlength, htail, hrest⟩ := exists_tail_of_dash hmatch
  have hlast : IsAddressText s.toList.getLast?.toList :=
    fun c hc => hloose c (List.mem_append_right _ hc)
  rw [eq_nil_of_getLast hrest hs hlast, List.append_nil] at hs
  have hhead : IsAddressText head := by
    intro c hc
    refine hloose c (List.mem_append_left _ ?_)
    rw [hs, List.take_append_of_le_length hlength.ge, ← hlength, List.take_length]
    exact hc
  rw [hs]
  exact fun c hc => (List.mem_append.mp hc).elim (hhead c) (htail c)

/-- BCH: the part that is matched has 26 characters at least, and what is behind them is loose. -/
theorem isAddressText_of_bch {s : String} (hmatch : patternMatchesToken s .bch = true)
    (hloose : IsAddressText (loosePart .bch s.toList)) : IsAddressText s.toList := by
  have hwithin : bchPattern.within addressClass = true := rfl
  obtain ⟨consumed, rest, hs, hconsumed, hlength⟩ := exists_consumed_of_isMatch hwithin hmatch
  have hlength' : 26 ≤ consumed.length := hlength
  intro c hc
  rw [← List.take_append_drop 26 s.toList] at hc
  rcases List.mem_append.mp hc with hmem | hmem
  · rw [hs, List.take_append_of_le_length hlength'] at hmem
    exact hconsumed c (List.mem_of_mem_take hmem)
  · exact hloose c hmem

/-- **A text that the pattern of a token matches consists of letters, digits, `.` and `:` exactly if
its loose part does.** -/
theorem isAddressText_iff_loosePart {s : String} {tokenType : CatvTokens}
    (hmatch : patternMatchesToken s tokenType = true) :
    IsAddressText s.toList ↔ IsAddressText (loosePart tokenType s.toList) := by
  refine ⟨fun htext c hc => htext c (loosePart_subset tokenType hc), fun hloose => ?_⟩
  by_cases hbtc : tokenType = .btc
  · subst hbtc
    exact isAddressText_of_btc hmatch hloose
  by_cases hdash : tokenType = .dash
  · subst hdash
    exact isAddressText_of_dash hmatch hloose
  by_cases hbch : tokenType = .bch
  · subst hbch
    exact isAddressText_of_bch hmatch hloose
  · -- the other patterns are anchored, and only a line feed can be behind what they match
    obtain ⟨hwithin, hanchored⟩ := within_and_anchored tokenType hbtc hbch hdash
    obtain ⟨body, hbody, hs⟩ := exists_body_of_isMatch hwithin hanchored hmatch
    have hlast : IsAddressText s.toList.getLast?.toList := by
      cases tokenType <;> first
        | exact hloose
        | exact absurd rfl hbtc
        | exact absurd rfl hbch
        | exact absurd rfl hdash
    rcases hs with hs | hs
    · rw [hs]
      exact hbody
    · cases eq_nil_of_getLast (.inr rfl) hs hlast

/-- An address of ETH. -/
def sampleAddress : String :=
  "0x1111111111111111111111111111111111111111"

theorem isAddressText_iff_loosePart_eth :
    IsAddressText sampleAddress.toList ↔ IsAddressText (loosePart .eth sampleAddress.toList) :=
  isAddressText_iff_loosePart (by decide +kernel)

/-- A line feed behind an address of ETH, a brace in the middle of one of BTC, a quote behind one of
BCH and a bar before one of DASH. -/
theorem patternMatchesToken_loose :
    (patternMatchesToken (sampleAddress ++ "\n") .eth = true ∧
        ¬ IsAddressText (sampleAddress ++ "\n").toList) ∧
      (patternMatchesToken "1\x7baaaaaaaaaaaaaaaaaaaaaaaaaa" .btc = true ∧
        ¬ IsAddressText "1\x7baaaaaaaaaaaaaaaaaaaaaaaaaa".toList) ∧
      (patternMatchesToken "1aaaaaaaaaaaaaaaaaaaaaaaaa\"" .bch = true ∧
        ¬ IsAddressText "1aaaaaaaaaaaaaaaaaaaaaaaaa\"".toList) ∧
      (patternMatchesToken "|aaaaaaaaaaaaaaaaaaaaaaaaaaaaaaaaa" .dash = true ∧
        ¬ IsAddressText "|aaaaaaaaaaaaaaaaaaaaaaaaaaaaaaaaa".toList) := by
  decide +kernel

end CatvService.Validation
