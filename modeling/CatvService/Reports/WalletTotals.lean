import CatvService.Library.Dict
import CatvService.Library.Grouping
import CatvService.Library.Text
import Mathlib.Algebra.Order.Group.Unbundled.Abs
import Mathlib.Algebra.Order.Ring.Rat
import Mathlib.Data.Finset.Card

/-!
# The totals of wallets

`calculate_wallet_total_amount` and `calculate_wallets_total_amounts` of `api/utils.py`, with exact
amounts.

The first function goes through all items for one wallet; the second one puts the items under their
two ends first and looks the ends up.  Both see the items of a wallet in the same order: an index
holds the group of each address (`getD_foldl_addUnder`), and a loop that passes over the other items
is the loop over the group.  The result is a dictionary, so two entries with the same address have
to agree, which they do when their depths are the same (`getD_calculateWalletsTotalAmounts`).
-/

namespace CatvService.Reports

open Dictionary Grouping PyText

/-! ## Items -/

/-- A transaction item of a report. -/
structure ReportItem where
  sender : String
  receiver : String
  symbol : String
  amount : ℚ
  txHash : Option String
  isSwap : Option Bool
  fromAmount : Option ℚ
  toAmount : Option ℚ
  deriving DecidableEq

namespace ReportItem

/-- `item.get('sender', '').lower()`. -/
def senderLower (item : ReportItem) : String :=
  lower item.sender

/-- `item.get('receiver', '').lower()`. -/
def receiverLower (item : ReportItem) : String :=
  lower item.receiver

/-- `abs(float(item.get('amount', 0)))`. -/
def value (item : ReportItem) : ℚ :=
  |item.amount|

/-- `abs(float(item.get('from_amount', item.get('amount', 0))))`. -/
def sentValue (item : ReportItem) : ℚ :=
  |item.fromAmount.getD item.amount|

/-- `abs(float(item.get('to_amount', item.get('amount', 0))))`. -/
def receivedValue (item : ReportItem) : ℚ :=
  |item.toAmount.getD item.amount|

end ReportItem

/-- `main_token_items`. -/
def mainTokenItems (itemList : List ReportItem) (mainSymbol : String) : List ReportItem :=
  itemList.filter fun item => item.symbol = mainSymbol ∧ ¬ item.isSwap.getD false

/-- `is_btc_ltc`. -/
def isBtcLtc (mainSymbol : String) : Bool :=
  decide (mainSymbol ∈ ["BTC", "LTC"])

/-- `is_outbound`. -/
def isOutbound (depth : Option ℤ) : Bool :=
  match depth with
  | some depth => decide (0 < depth)
  | none => true

/-- One round of the loops that count a transaction once: the amount so far, and the hashes that
have been processed. -/
def addOnce (value : ReportItem → ℚ) (state : ℚ × Finset String) (item : ReportItem) :
    ℚ × Finset String :=
  match item.txHash with
  | some txHash =>
      if txHash ≠ "" ∧ txHash ∉ state.2 then (state.1 + value item, insert txHash state.2)
      else state
  | none => state

/-! ## One wallet -/

/-- `calculate_wallet_total_amount(item_list, wallet_address, main_symbol, depth)`. -/
def calculateWalletTotalAmount (itemList : List ReportItem) (walletAddress mainSymbol : String)
    (depth : Option ℤ) : ℚ :=
  if walletAddress = "" ∨ mainSymbol = "" then 0
  else
    let items := mainTokenItems itemList mainSymbol
    let walletLower := lower walletAddress
    if isBtcLtc mainSymbol ∧ isOutbound depth then
      let addressesWithOutgoing := (items.map ReportItem.senderLower).toFinset
      let allReceivers := (items.map ReportItem.receiverLower).toFinset
      let walletAmount :=
        if walletLower ∈ addressesWithOutgoing ∧ walletLower ∈ allReceivers then
          (items.foldl (fun state item =>
            if item.senderLower = walletLower then addOnce ReportItem.sentValue state item
            else state) (0, ∅)).1
        else 0
      if walletLower ∉ addressesWithOutgoing then
        (items.foldl (fun state item =>
          if item.receiverLower = walletLower then addOnce ReportItem.receivedValue state item
          else state) (walletAmount, ∅)).1
      else walletAmount
    else if isOutbound depth then
      items.foldl (fun walletAmount item =>
        if item.receiverLower = walletLower then walletAmount + item.value else walletAmount) 0
    else
      items.foldl (fun walletAmount item =>
        if item.senderLower = walletLower then walletAmount + item.value else walletAmount) 0

/-! ## All wallets -/

/-- A wallet of the list; where a key is missing, the address is empty and a number is `none`. -/
structure Wallet where
  address : String
  depth : Option ℤ
  level : Option ℤ
  deriving DecidableEq

/-- The sets and indexes over the items. -/
structure ItemIndex where
  addressesWithOutgoing : Finset String
  allReceivers : Finset String
  itemsBySender : Dict String (List ReportItem)
  itemsByReceiver : Dict String (List ReportItem)

/-- `if key: d.setdefault(key, []).append(item)`, as it is written out for both ends. -/
def addUnder (key : String) (item : ReportItem) (d : Dict String (List ReportItem)) :
    Dict String (List ReportItem) :=
  if key = "" then d else d.set key ((d.get? key).getD [] ++ [item])

/-- One round of the loop over the items. -/
def ItemIndex.add (btcLtc : Bool) (index : ItemIndex) (item : ReportItem) : ItemIndex where
  addressesWithOutgoing :=
    if btcLtc then insert item.senderLower index.addressesWithOutgoing
    else index.addressesWithOutgoing
  allReceivers :=
    if btcLtc then insert item.receiverLower index.allReceivers else index.allReceivers
  itemsBySender := addUnder item.senderLower item index.itemsBySender
  itemsByReceiver := addUnder item.receiverLower item index.itemsByReceiver

/-- The index of all items. -/
def ItemIndex.build (btcLtc : Bool) (items : List ReportItem) : ItemIndex :=
  items.foldl (ItemIndex.add btcLtc) ⟨∅, ∅, Dict.empty, Dict.empty⟩

/-- The amount of a wallet, from the index. -/
def ItemIndex.walletAmount (index : ItemIndex) (btcLtc outbound : Bool) (walletLower : String) :
    ℚ :=
  if btcLtc ∧ outbound then
    let walletAmount :=
      if walletLower ∈ index.addressesWithOutgoing ∧ walletLower ∈ index.allReceivers then
        (((index.itemsBySender.get? walletLower).getD []).foldl
          (addOnce ReportItem.sentValue) (0, ∅)).1
      else 0
    if walletLower ∉ index.addressesWithOutgoing then
      (((index.itemsByReceiver.get? walletLower).getD []).foldl
        (addOnce ReportItem.receivedValue) (walletAmount, ∅)).1
    else walletAmount
  else if outbound then
    ((index.itemsByReceiver.get? walletLower).getD []).foldl
      (fun walletAmount item => walletAmount + item.value) 0
  else
    ((index.itemsBySender.get? walletLower).getD []).foldl
      (fun walletAmount item => walletAmount + item.value) 0

/-- `calculate_wallets_total_amounts(item_list, wallets, main_symbol)`. -/
def calculateWalletsTotalAmounts (itemList : List ReportItem) (wallets : List Wallet)
    (mainSymbol : String) : Dict String ℚ :=
  if wallets = [] ∨ itemList = [] ∨ mainSymbol = "" then Dict.empty
  else
    let items := mainTokenItems itemList mainSymbol
    if items = [] then
      Dict.ofItems (wallets.filterMap fun wallet =>
        if wallet.address = "" then none else some (lower wallet.address, 0))
    else
      let btcLtc := isBtcLtc mainSymbol
      let index := ItemIndex.build btcLtc items
      Dict.ofItems (wallets.filterMap fun wallet =>
        let walletAddress := trim wallet.address
        let depth := wallet.depth.getD (wallet.level.getD 0)
        if walletAddress = "" then none
        else
          some (lower walletAddress,
            index.walletAmount btcLtc (isOutbound (some depth)) (lower walletAddress)))

/-- Wallets with trimmed addresses that are not empty and with depths, where the same address comes
with the same depth. -/
structure WalletList (wallets : List Wallet) : Prop where
  trimmed : ∀ wallet ∈ wallets, trim wallet.address = wallet.address
  ne_empty : ∀ wallet ∈ wallets, wallet.address ≠ ""
  depth : ∀ wallet ∈ wallets, wallet.depth.isSome
  depth_eq : ∀ wallet ∈ wallets, ∀ other ∈ wallets,
    lower wallet.address = lower other.address → wallet.depth = other.depth

/-! ## What the index holds -/

/-- Under an address that is not empty, an index has the group of the address. -/
theorem getD_foldl_addUnder (key : ReportItem → String) {address : String} (hne : address ≠ "")
    (items : List ReportItem) (d : Dict String (List ReportItem)) :
    ((items.foldl (fun d item => addUnder (key item) item d) d).get? address).getD [] =
      (d.get? address).getD [] ++ group key items address := by
  induction items generalizing d with
  | nil => simp [group]
  | cons item items ih =>
      rw [List.foldl_cons, ih]
      unfold addUnder
      by_cases hkey : key item = address
      · have hkey' : key item ≠ "" := hkey ▸ hne
        rw [if_neg hkey', hkey, Dict.get?_set_self]
        simp [group, hkey]
      · have hold : (if key item = "" then d
            else d.set (key item) ((d.get? (key item)).getD [] ++ [item])).get? address =
              d.get? address := by
          split
          · rfl
          · exact Dict.get?_set_of_ne hkey _
        rw [hold]
        simp [group, hkey]

/-- The parts of an index are built independently of each other. -/
theorem foldl_add (btcLtc : Bool) (items : List ReportItem) (index : ItemIndex) :
    (items.foldl (ItemIndex.add btcLtc) index).itemsBySender =
        items.foldl (fun d item => addUnder item.senderLower item d) index.itemsBySender ∧
      (items.foldl (ItemIndex.add btcLtc) index).itemsByReceiver =
        items.foldl (fun d item => addUnder item.receiverLower item d) index.itemsByReceiver := by
  induction items generalizing index with
  | nil => exact ⟨rfl, rfl⟩
  | cons item items ih => exact ih _

theorem mem_foldl_add (items : List ReportItem) (index : ItemIndex) (address : String) :
    (address ∈ (items.foldl (ItemIndex.add true) index).addressesWithOutgoing ↔
        address ∈ index.addressesWithOutgoing ∨ address ∈ items.map ReportItem.senderLower) ∧
      (address ∈ (items.foldl (ItemIndex.add true) index).allReceivers ↔
        address ∈ index.allReceivers ∨ address ∈ items.map ReportItem.receiverLower) := by
  induction items generalizing index with
  | nil => simp
  | cons item items ih =>
      obtain ⟨houtgoing, hreceivers⟩ := ih (ItemIndex.add true index item)
      rw [List.foldl_cons, houtgoing, hreceivers]
      simp [ItemIndex.add, or_left_comm, or_assoc]

theorem foldl_group {σ : Type*} (f : σ → ReportItem → σ) (key : ReportItem → String)
    (address : String) (items : List ReportItem) (state : σ) :
    items.foldl (fun state item => if key item = address then f state item else state) state =
      (group key items address).foldl f state := by
  rw [group, List.foldl_filter]
  simp only [decide_eq_true_eq]

/-- The index gives the amount that the loop over all items gives. -/
theorem walletAmount_build (itemList : List ReportItem) {walletAddress mainSymbol : String}
    (hne : walletAddress ≠ "") (hsymbol : mainSymbol ≠ "") (depth : Option ℤ) :
    (ItemIndex.build (isBtcLtc mainSymbol) (mainTokenItems itemList mainSymbol)).walletAmount
        (isBtcLtc mainSymbol) (isOutbound depth) (lower walletAddress) =
      calculateWalletTotalAmount itemList walletAddress mainSymbol depth := by
  have hlower : lower walletAddress ≠ "" := mt lower_eq_empty_iff.mp hne
  set items := mainTokenItems itemList mainSymbol with hitems
  obtain ⟨hsender, hreceiver⟩ :=
    foldl_add (isBtcLtc mainSymbol) items ⟨∅, ∅, Dict.empty, Dict.empty⟩
  have hbySender : ((ItemIndex.build (isBtcLtc mainSymbol) items).itemsBySender.get?
      (lower walletAddress)).getD [] =
        group ReportItem.senderLower items (lower walletAddress) := by
    rw [ItemIndex.build, hsender]
    exact getD_foldl_addUnder ReportItem.senderLower hlower items Dict.empty
  have hbyReceiver : ((ItemIndex.build (isBtcLtc mainSymbol) items).itemsByReceiver.get?
      (lower walletAddress)).getD [] =
        group ReportItem.receiverLower items (lower walletAddress) := by
    rw [ItemIndex.build, hreceiver]
    exact getD_foldl_addUnder ReportItem.receiverLower hlower items Dict.empty
  unfold ItemIndex.walletAmount calculateWalletTotalAmount
  rw [if_neg (not_or.mpr ⟨hne, hsymbol⟩), ← hitems, hbySender, hbyReceiver]
  simp only [foldl_group]
  by_cases hbtc : isBtcLtc mainSymbol = true
  · -- only for the two coins are the sets of the index filled, and only then are they looked at
    obtain ⟨houtgoing, hreceivers⟩ :=
      mem_foldl_add items ⟨∅, ∅, Dict.empty, Dict.empty⟩ (lower walletAddress)
    simp only [hbtc, ItemIndex.build, houtgoing, hreceivers, Finset.notMem_empty, false_or,
      List.mem_toFinset]
  · simp only [hbtc]
    rfl

/-! ## Both functions agree -/

theorem getD_ofItems {κ β : Type} [DecidableEq κ] {items : List (κ × β)} {k : κ} {v default : β}
    (hmem : (k, v) ∈ items) (hsame : ∀ v', (k, v') ∈ items → v' = v) :
    ((Dict.ofItems items).get? k).getD default = v := by
  have hkey : k ∈ (Dict.ofItems items).keys := Dict.mem_keys_ofItems.mpr ⟨(k, v), hmem, rfl⟩
  obtain ⟨v', hget⟩ := Dict.mem_keys_iff.mp hkey
  rw [hget, Option.getD_some]
  exact hsame v' (Dict.mem_of_get?_ofItems hget)

theorem calculateWalletTotalAmount_of_nil {itemList : List ReportItem} {mainSymbol : String}
    (hnil : mainTokenItems itemList mainSymbol = []) (walletAddress : String) (depth : Option ℤ) :
    calculateWalletTotalAmount itemList walletAddress mainSymbol depth = 0 := by
  unfold calculateWalletTotalAmount
  simp [hnil]

/-- **The totals of all wallets are those of the single wallets.** -/
theorem getD_calculateWalletsTotalAmounts (itemList : List ReportItem) (mainSymbol : String)
    {wallets : List Wallet} (hwallets : WalletList wallets) {wallet : Wallet}
    (hwallet : wallet ∈ wallets) :
    ((calculateWalletsTotalAmounts itemList wallets mainSymbol).get?
        (lower wallet.address)).getD 0 =
      calculateWalletTotalAmount itemList wallet.address mainSymbol wallet.depth := by
  have hne := hwallets.ne_empty wallet hwallet
  unfold calculateWalletsTotalAmounts
  by_cases hempty : wallets = [] ∨ itemList = [] ∨ mainSymbol = ""
  · rw [if_pos hempty, Dict.get?_empty, Option.getD_none]
    rcases hempty with rfl | rfl | rfl
    · cases hwallet
    · exact (calculateWalletTotalAmount_of_nil rfl _ _).symm
    · exact (if_pos (.inr rfl)).symm
  · rw [if_neg hempty]
    have hsymbol : mainSymbol ≠ "" := fun h => hempty (.inr (.inr h))
    by_cases hitems : mainTokenItems itemList mainSymbol = []
    · simp only [hitems, if_true]
      rw [calculateWalletTotalAmount_of_nil hitems]
      refine getD_ofItems (List.mem_filterMap.mpr ⟨wallet, hwallet, if_neg hne⟩) fun v' hv' => ?_
      obtain ⟨other, -, hother⟩ := List.mem_filterMap.mp hv'
      split at hother
      · cases hother
      · exact (Prod.mk.inj (Option.some.inj hother)).2.symm
    · simp only [hitems, if_false]
      -- the entry of a wallet of the list
      have hentry : ∀ other ∈ wallets, ∃ depth, other.depth = some depth ∧
          trim other.address = other.address ∧ other.address ≠ "" := by
        intro other hother
        obtain ⟨depth, hdepth⟩ := Option.isSome_iff_exists.mp (hwallets.depth other hother)
        exact ⟨depth, hdepth, hwallets.trimmed other hother, hwallets.ne_empty other hother⟩
      obtain ⟨depth, hdepth, htrim, -⟩ := hentry wallet hwallet
      refine getD_ofItems (List.mem_filterMap.mpr ⟨wallet, hwallet, ?_⟩) fun v' hv' => ?_
      · rw [htrim, if_neg hne, hdepth, Option.getD_some,
          walletAmount_build itemList hne hsymbol (some depth)]
      · obtain ⟨other, hother, heq⟩ := List.mem_filterMap.mp hv'
        obtain ⟨depth', hdepth', htrim', hne'⟩ := hentry other hother
        rw [htrim', if_neg hne', hdepth', Option.getD_some] at heq
        obtain ⟨haddress, rfl⟩ := Prod.mk.inj (Option.some.inj heq)
        have hsame := hwallets.depth_eq other hother wallet hwallet haddress
        rw [← hdepth', hsame, haddress, walletAmount_build itemList hne hsymbol]

/-! ### A payment in one transaction with two outputs -/

def samplePayment (receiver : String) (amount : ℚ) : ReportItem :=
  ⟨"bc1qPayer", receiver, "BTC", amount, some "f1", none, none, none⟩

def sampleWallet (address : String) (depth : ℤ) : Wallet :=
  ⟨address, some depth, none⟩

def sampleWallets : List Wallet :=
  [sampleWallet "bc1qPayer" 0, sampleWallet "bc1qShop" 1, sampleWallet "BC1QSHOP" 1]

theorem walletList_sampleWallets : WalletList sampleWallets where
  trimmed := by decide
  ne_empty := by decide
  depth := by decide
  depth_eq := by decide

theorem getD_calculateWalletsTotalAmounts_sample :
    ((calculateWalletsTotalAmounts [samplePayment "bc1qShop" 3, samplePayment "bc1qShop" 4]
        sampleWallets "BTC").get? (lower (sampleWallet "BC1QSHOP" 1).address)).getD 0 =
      calculateWalletTotalAmount [samplePayment "bc1qShop" 3, samplePayment "bc1qShop" 4]
        (sampleWallet "BC1QSHOP" 1).address "BTC" (sampleWallet "BC1QSHOP" 1).depth :=
  getD_calculateWalletsTotalAmounts _ "BTC" walletList_sampleWallets
    (List.mem_cons_of_mem _ (List.mem_cons_of_mem _ List.mem_cons_self))

end CatvService.Reports
