import CatvService.Library.Grouping
import CatvService.Submission.Resubmission
import CatvService.Validation.TokenPatterns

/-!
# Cleaning an uploaded CSV

`CATVCSVUpload.process_dataframe` of `api/views.py`: one row per wallet, its token address and dates
filled in, and then the rows whose wallet matches the pattern of their token.

The duplicates go before the pattern is asked for, so a wallet stands or falls with its first row:
one that is valid for the token of a later row only is not in the result.
`processDataframe_eq_ok_iff` says what is in it, and `keepsValidWallets_iff` when that is every
valid wallet.
-/

namespace CatvService.CsvCleaning

open Grouping PyValue Resubmission Validation

/-! ## The frame -/

/-- A row of the uploaded table.  A cell that is left empty is missing. -/
structure CsvRow where
  tokenType : Option String
  walletAddress : Option String
  sourceDepth : Option ℤ
  distributionDepth : Option ℤ
  fromDate : Option String
  toDate : Option String
  tokenAddress : Option String
  transactionLimit : Option ℤ
  deriving DecidableEq

/-- A table with the required columns; the route has turned away an empty one by then. -/
structure Frame where
  rows : List CsvRow
  nonempty : rows ≠ []

/-- What `pd.to_datetime(…).dt.strftime('%Y-%m-%d')` makes of a cell. -/
abbrev Reading := Option String → Option String

/-- `pd.to_datetime` on a column: it raises, or settles how the cells of the column are read. -/
abbrev ToDatetime := List (Option String) → Except PyErr Reading

/-- `df.drop_duplicates(subset="wallet_address", keep="first")`.  Missing cells count as equal. -/
def dropDuplicates (df : Frame) : List CsvRow :=
  firsts CsvRow.walletAddress df.rows

/-- How the two date columns are read. -/
structure Readings where
  fromDate : Reading
  toDate : Reading

/-- The date columns of the table without its duplicates. -/
def dateReadings (toDatetime : ToDatetime) (df : Frame) : Except PyErr Readings := do
  let fromDate ← toDatetime ((dropDuplicates df).map CsvRow.fromDate)
  let toDate ← toDatetime ((dropDuplicates df).map CsvRow.toDate)
  return ⟨fromDate, toDate⟩

/-- `.assign(token_address=…, from_date=…, to_date=…)`, on one row. -/
def assigned (readings : Readings) (row : CsvRow) : CsvRow :=
  { row with
    tokenAddress := some (row.tokenAddress.getD "0x0000000000000000000000000000000000000000")
    fromDate := readings.fromDate row.fromDate
    toDate := readings.toDate row.toDate }

/-- The key of `token_regex_map` that a row names, if it names one. -/
def tokenOf (row : CsvRow) : Option CatvTokens :=
  row.tokenType.bind fun tokenType => (tokenOfValue tokenType).toOption

/-- `bool(pattern_matches_token(row['wallet_address'], row['token_type']))`: a token without a
pattern matches nothing, and a pattern cannot be asked for a missing cell. -/
def matchesToken (row : CsvRow) : Except PyErr Bool :=
  match tokenOf row, row.walletAddress with
  | none, _ => .ok false
  | some _, none => .error .typeError
  | some token, some address => .ok (patternMatchesToken address token)

/-- `df[mask]`. -/
def filterByMask (rows : List CsvRow) (mask : List Bool) : List CsvRow :=
  ((rows.zip mask).filter Prod.snd).map Prod.fst

/-- `process_dataframe(df)`. -/
def processDataframe (toDatetime : ToDatetime) (df : Frame) : Except PyErr (List CsvRow) := do
  let readings ← dateReadings toDatetime df
  let rows := (dropDuplicates df).map (assigned readings)
  let validAddresses ← rows.mapM matchesToken
  return filterByMask rows validAddresses

/-! ## Every valid wallet, once -/

/-- The row pairs its wallet with a token type that the wallet is valid for. -/
def isValid (row : CsvRow) : Bool :=
  match tokenOf row, row.walletAddress with
  | some token, some address => patternMatchesToken address token
  | _, _ => false

/-- The first valid row of a wallet. -/
def firstValid (df : Frame) (wallet : Option String) : Option CsvRow :=
  df.rows.find? fun row => decide (row.walletAddress = wallet) && isValid row

/-- The result has the wallets with a valid row and no others, each of them once and with the values
of its first valid row. -/
def KeepsValidWallets (toDatetime : ToDatetime) (df : Frame) : Prop :=
  ∃ out, processDataframe toDatetime df = .ok out ∧
    (∀ wallet, wallet ∈ out.map CsvRow.walletAddress ↔
      ∃ row ∈ df.rows, row.walletAddress = wallet ∧ isValid row = true) ∧
    (out.map CsvRow.walletAddress).Nodup ∧
    ∀ row ∈ out, ∃ readings first, dateReadings toDatetime df = .ok readings ∧
      firstValid df row.walletAddress = some first ∧ row = assigned readings first

/-- The dates of the first rows can be read, none of the first rows names a token for a missing
wallet, and the first row of every wallet that has a valid row is itself valid. -/
structure FirstRowsStand (toDatetime : ToDatetime) (df : Frame) : Prop where
  datesRead : ∃ readings, dateReadings toDatetime df = .ok readings
  walletGiven : ∀ first ∈ dropDuplicates df, first.walletAddress = none → tokenOf first = none
  firstIsValid : ∀ row ∈ df.rows, isValid row = true →
    ∀ first ∈ dropDuplicates df, first.walletAddress = row.walletAddress → isValid first = true

/-! ## What the result holds -/

variable {toDatetime : ToDatetime} {df : Frame} {row : CsvRow} {rows out : List CsvRow}

@[simp] theorem walletAddress_assigned (readings : Readings) (row : CsvRow) :
    (assigned readings row).walletAddress = row.walletAddress := rfl

@[simp] theorem matchesToken_assigned (readings : Readings) (row : CsvRow) :
    matchesToken (assigned readings row) = matchesToken row := rfl

/-- The pattern is asked for unless the wallet is missing where a token is named, and then it says
whether the row is valid. -/
theorem matchesToken_eq_ok_iff {b : Bool} :
    matchesToken row = .ok b ↔
      (row.walletAddress = none → tokenOf row = none) ∧ isValid row = b := by
  unfold matchesToken isValid
  cases htoken : tokenOf row with
  | none => simp
  | some token =>
      cases hwallet : row.walletAddress with
      | none => simp
      | some address => simp

theorem filterByMask_map (rows : List CsvRow) (valid : CsvRow → Bool) :
    filterByMask rows (rows.map valid) = rows.filter valid := by
  unfold filterByMask
  induction rows with
  | nil => rfl
  | cons row rows ih =>
      cases hvalid : valid row with
      | false => simpa [hvalid] using ih
      | true => simpa [hvalid] using ih

theorem mapM_matchesToken_iff {mask : List Bool} :
    rows.mapM matchesToken = .ok mask ↔
      (∀ row ∈ rows, row.walletAddress = none → tokenOf row = none) ∧
        rows.map isValid = mask := by
  induction rows generalizing mask with
  | nil => simp [pure, Except.pure]
  | cons row rows ih =>
      rw [List.forall_mem_cons]
      simp only [List.mapM_cons, bind_eq_ok_iff, ih, List.map_cons, matchesToken_eq_ok_iff]
      constructor
      · intro hok
        obtain ⟨_, ⟨hrow, rfl⟩, _, ⟨hrows, rfl⟩, hmask⟩ := hok
        exact ⟨⟨hrow, hrows⟩, Except.ok.inj hmask⟩
      · intro hok
        obtain ⟨⟨hrow, hrows⟩, rfl⟩ := hok
        exact ⟨_, ⟨hrow, rfl⟩, _, ⟨hrows, rfl⟩, rfl⟩

/-- **The result is the first rows that are valid, filled in.** -/
theorem processDataframe_eq_ok_iff :
    processDataframe toDatetime df = .ok out ↔
      ∃ readings, dateReadings toDatetime df = .ok readings ∧
        (∀ first ∈ dropDuplicates df, first.walletAddress = none → tokenOf first = none) ∧
        ((dropDuplicates df).filter isValid).map (assigned readings) = out := by
  unfold processDataframe
  simp only [bind_eq_ok_iff, mapM_matchesToken_iff]
  refine exists_congr fun readings => and_congr_right fun _ => ?_
  -- the mask is made of the filled-in rows, which are as valid as the rows they come from
  have hmask : filterByMask ((dropDuplicates df).map (assigned readings))
      (((dropDuplicates df).map (assigned readings)).map isValid) =
        ((dropDuplicates df).filter isValid).map (assigned readings) := by
    rw [filterByMask_map, List.filter_map]
    rfl
  constructor
  · intro hok
    obtain ⟨_, ⟨hgiven, rfl⟩, hout⟩ := hok
    refine ⟨fun first hfirst => hgiven (assigned readings first) (List.mem_map_of_mem hfirst), ?_⟩
    rw [← hmask]
    exact Except.ok.inj hout
  · intro hok
    obtain ⟨hgiven, rfl⟩ := hok
    refine ⟨_, ⟨fun first hfirst => ?_, rfl⟩, congrArg Except.ok hmask⟩
    obtain ⟨row, hrow, rfl⟩ := List.mem_map.mp hfirst
    exact hgiven row hrow

theorem mem_wallets_iff {readings : Readings} {wallet : Option String} :
    wallet ∈ (((dropDuplicates df).filter isValid).map (assigned readings)).map
        CsvRow.walletAddress ↔
      ∃ first ∈ dropDuplicates df, first.walletAddress = wallet ∧ isValid first = true := by
  simp only [List.map_map, List.mem_map, List.mem_filter, Function.comp_apply,
    walletAddress_assigned]
  exact exists_congr fun first => by tauto

/-! ## The law of the cleaning -/

theorem firstRowsStand_of_keepsValidWallets (hkeeps : KeepsValidWallets toDatetime df) :
    FirstRowsStand toDatetime df := by
  obtain ⟨out, hout, hwallets, -, -⟩ := hkeeps
  obtain ⟨readings, hreadings, hgiven, rfl⟩ := processDataframe_eq_ok_iff.mp hout
  refine ⟨⟨readings, hreadings⟩, hgiven, fun row hrow hvalid first hfirst hwallet => ?_⟩
  obtain ⟨kept, hkept, hsame, hkeptValid⟩ :=
    mem_wallets_iff.mp ((hwallets row.walletAddress).mpr ⟨row, hrow, rfl, hvalid⟩)
  -- both are the first row of the wallet
  have hfirst' := mem_firsts.mp hfirst
  rw [hwallet, ← hsame, mem_firsts.mp hkept] at hfirst'
  exact Option.some.inj hfirst' ▸ hkeptValid

theorem firstValid_of_mem {first : CsvRow} (hfirst : first ∈ dropDuplicates df)
    (hvalid : isValid first = true) : firstValid df first.walletAddress = some first := by
  obtain ⟨-, before, after, hrows, hbefore⟩ :=
    List.find?_eq_some_iff_append.mp (mem_firsts.mp hfirst)
  refine List.find?_eq_some_iff_append.mpr ⟨by simp [hvalid], before, after, hrows, ?_⟩
  intro row hrow
  -- the rows before it have other wallets
  have hne : row.walletAddress ≠ first.walletAddress := by simpa using hbefore row hrow
  simp [hne]

theorem keepsValidWallets_of_firstRowsStand (hstand : FirstRowsStand toDatetime df) :
    KeepsValidWallets toDatetime df := by
  obtain ⟨⟨readings, hreadings⟩, hgiven, hfirstIsValid⟩ := hstand
  refine ⟨_, processDataframe_eq_ok_iff.mpr ⟨readings, hreadings, hgiven, rfl⟩,
    fun wallet => mem_wallets_iff.trans ⟨?_, ?_⟩, ?_, fun kept hkept => ?_⟩
  -- the wallets of the result, that each is there once, and its values
  · intro hfirst
    obtain ⟨first, hfirst, hwallet, hvalid⟩ := hfirst
    exact ⟨first, mem_of_mem_firsts hfirst, hwallet, hvalid⟩
  · intro hrow
    obtain ⟨row, hrow, hwallet, hvalid⟩ := hrow
    obtain ⟨first, hfirst, hsame⟩ : ∃ first ∈ dropDuplicates df,
        first.walletAddress = row.walletAddress := exists_mem_firsts hrow
    exact ⟨first, hfirst, hsame.trans hwallet, hfirstIsValid row hrow hvalid first hfirst hsame⟩
  · have hsub : (((dropDuplicates df).filter isValid).map CsvRow.walletAddress).Sublist
        ((dropDuplicates df).map CsvRow.walletAddress) := List.filter_sublist.map _
    rw [List.map_map]
    exact hsub.nodup (nodup_map_firsts _ _)
  · obtain ⟨first, hfirst, rfl⟩ := List.mem_map.mp hkept
    obtain ⟨hfirst, hvalid⟩ := List.mem_filter.mp hfirst
    exact ⟨readings, first, hreadings, firstValid_of_mem hfirst hvalid, rfl⟩

/-- **Cleaning keeps every valid wallet exactly when the first rows of the wallets stand: their
dates are read, none of them names a token for a missing wallet, and each is valid if any row of its
wallet is.** -/
theorem keepsValidWallets_iff (toDatetime : ToDatetime) (df : Frame) :
    KeepsValidWallets toDatetime df ↔ FirstRowsStand toDatetime df :=
  ⟨firstRowsStand_of_keepsValidWallets, keepsValidWallets_of_firstRowsStand⟩

/-! ### A wallet that is listed under a wrong token first -/

/-- A column of ISO dates is read as it is written. -/
def isoDates : ToDatetime := fun _ => .ok id

def sampleRow (tokenType : CatvTokens) (wallet : String) : CsvRow where
  tokenType := some tokenType.value
  walletAddress := some wallet
  sourceDepth := some 5
  distributionDepth := some 5
  fromDate := some "2023-01-01"
  toDate := some "2023-12-31"
  tokenAddress := none
  transactionLimit := some 1000

/-- An Ethereum address, once under Bitcoin and once under Ethereum. -/
def sampleFrame : Frame where
  rows := [sampleRow .btc "0xde0b295669a9fd93d5f28d9ec85e40f4cb697bae",
    sampleRow .eth "0xde0b295669a9fd93d5f28d9ec85e40f4cb697bae"]
  nonempty := List.cons_ne_nil _ _

/-- Nothing is left of the table, though its second row is valid. -/
theorem not_keepsValidWallets_sampleFrame :
    processDataframe isoDates sampleFrame = .ok [] ∧
      ¬ KeepsValidWallets isoDates sampleFrame := by
  have hbtc : isValid (sampleRow .btc "0xde0b295669a9fd93d5f28d9ec85e40f4cb697bae") = false := by
    decide +kernel
  have heth : isValid (sampleRow .eth "0xde0b295669a9fd93d5f28d9ec85e40f4cb697bae") = true := by
    decide +kernel
  have hfirst : dropDuplicates sampleFrame =
      [sampleRow .btc "0xde0b295669a9fd93d5f28d9ec85e40f4cb697bae"] := rfl
  refine ⟨processDataframe_eq_ok_iff.mpr ⟨⟨id, id⟩, rfl, ?_, ?_⟩, fun hkeeps => ?_⟩
  · intro first hmem hnone
    rw [hfirst, List.mem_singleton] at hmem
    rw [hmem] at hnone
    cases hnone
  · rw [hfirst, List.filter_singleton, hbtc]
    rfl
  · have hmem : sampleRow .btc "0xde0b295669a9fd93d5f28d9ec85e40f4cb697bae" ∈
        dropDuplicates sampleFrame := by simp [hfirst]
    have hvalid := (firstRowsStand_of_keepsValidWallets hkeeps).firstIsValid _
      (List.mem_cons_of_mem _ List.mem_cons_self) heth _ hmem rfl
    rw [hbtc] at hvalid
    cases hvalid

end CatvService.CsvCleaning
