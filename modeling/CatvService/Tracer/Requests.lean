import CatvService.Library.Regex
import CatvService.Library.Value

/-!
# The requests to Tracer

`_get_chain_info` of `api/catvutils/tracer_interface.py`, and the request body that
`get_transactions` makes of its arguments.
-/

namespace CatvService.Tracer

open Dictionary PyValue Regex

/-! ## Chains -/

/-- What Tracer calls a chain. -/
@[ext] structure ChainInfo where
  chainId : ℕ
  chainType : String
  deriving DecidableEq

/-- `chain_mapping`. -/
def chainMapping : Entries String ChainInfo :=
  [("ETH", ⟨1, "evm"⟩), ("BSC", ⟨56, "evm"⟩), ("FTM", ⟨250, "evm"⟩), ("POL", ⟨137, "evm"⟩),
    ("ETC", ⟨61, "evm"⟩), ("AVAX", ⟨43114, "evm"⟩), ("TRX", ⟨1, "tron"⟩), ("BTC", ⟨1, "btc"⟩),
    ("KLAY", ⟨1, "klaytn"⟩), ("SOL", ⟨1, "solana"⟩), ("XRP", ⟨1, "xrp"⟩), ("ARB", ⟨42161, "evm"⟩),
    ("ARBNOVA", ⟨42170, "evm"⟩), ("OP", ⟨10, "evm"⟩), ("BASE", ⟨8453, "evm"⟩),
    ("LINEA", ⟨59144, "evm"⟩), ("BLAST", ⟨81457, "evm"⟩), ("SCROLL", ⟨534352, "evm"⟩),
    ("MANTLE", ⟨5000, "evm"⟩), ("OPBNB", ⟨204, "evm"⟩), ("BTT", ⟨199, "evm"⟩),
    ("CELO", ⟨42220, "evm"⟩), ("FRAXTAL", ⟨252, "evm"⟩), ("GNOSIS", ⟨100, "evm"⟩),
    ("MEMECORE", ⟨4352, "evm"⟩), ("MOONBEAM", ⟨1284, "evm"⟩), ("MOONRIVER", ⟨1285, "evm"⟩),
    ("TAIKO", ⟨167000, "evm"⟩), ("XDC", ⟨50, "evm"⟩), ("APECHAIN", ⟨33139, "evm"⟩),
    ("WORLD", ⟨480, "evm"⟩), ("SONIC", ⟨146, "evm"⟩), ("UNICHAIN", ⟨130, "evm"⟩),
    ("ABSTRACT", ⟨2741, "evm"⟩), ("BERACHAIN", ⟨80094, "evm"⟩), ("SWELLCHAIN", ⟨1923, "evm"⟩),
    ("MONAD", ⟨143, "evm"⟩), ("HYPEREVM", ⟨999, "evm"⟩), ("KATANA", ⟨9745, "evm"⟩),
    ("SEI", ⟨1329, "evm"⟩), ("STABLE", ⟨1, "evm"⟩), ("PLASMA", ⟨747474, "evm"⟩)]

/-- `_get_chain_info(chain)`, which takes a chain that it does not know for Ethereum. -/
def getChainInfo (chain : String) : ChainInfo :=
  (Entries.get? chain chainMapping).getD ⟨1, "evm"⟩

/-! ## Request bodies -/

/-- The arguments of `get_transactions` that the request is made of; `till_time` is the text that it
prints as. -/
structure TraceArguments where
  address : Json
  depthLimit : Json
  fromTime : Json
  tillTime : String
  tokenAddress : Json
  source : Bool
  chain : String
  isCkRequest : Bool

/-- The value of `start_datetime`: what was given, or the beginning of the day that it prints as. -/
inductive StartTime where
  | asGiven (v : Json)
  | startOfDay (v : Json)

/-- The request that is sent to Tracer. -/
structure TraceRequest where
  endpoint : String
  chainType : String
  chainId : ℕ
  startAddress : Json
  startDatetime : StartTime
  endDatetime : String
  maxHops : Json
  maxWorkers : ℕ
  tokens : List Json

/-- `'T' not in from_time`. -/
def lacksT (fromTime : Json) : Except PyErr Bool :=
  match fromTime with
  | .str s => .ok (!PyText.contains "T" s)
  | .list items => .ok (!items.any fun item => match item with
      | .str s => decide (s = "T")
      | _ => false)
  | .dict entries => .ok (Entries.get? "T" entries).isNone
  | _ => .error .typeError

/-- `start_datetime`. -/
def startDatetime (fromTime : Json) : Except PyErr StartTime := do
  if fromTime.truthy = false then return .asGiven fromTime
  return if ← lacksT fromTime then .startOfDay fromTime else .asGiven fromTime

/-- `end_datetime`. -/
def endDatetime (tillTime : String) (isCkRequest : Bool) : String :=
  if isCkRequest then tillTime ++ "Z" else tillTime ++ "T23:59:59Z"

/-- `tokens`. -/
def tokensOf (tokenAddress : Json) : List Json :=
  match tokenAddress with
  | .str s => if s = "" ∨ s = "0x0000000000000000000000000000000000000000" then [] else [.str s]
  | v => if v.truthy then [v] else []

/-- The request of `get_transactions`. -/
def traceRequest (args : TraceArguments) : Except PyErr TraceRequest := do
  let info := getChainInfo args.chain
  let start ← startDatetime args.fromTime
  return {
    endpoint := if args.source then "trace-inbound" else "trace-outbound"
    chainType := info.chainType
    chainId := info.chainId
    startAddress := args.address
    startDatetime := start
    endDatetime := endDatetime args.tillTime args.isCkRequest
    maxHops := args.depthLimit
    maxWorkers := 5
    tokens := tokensOf args.tokenAddress }

end CatvService.Tracer
