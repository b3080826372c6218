import CatvService.GraphQL.Transfers
import CatvService.Pipeline.CkQuery
import CatvService.Validation.PublicQuery
import Mathlib.Data.List.Forall2

/-!
# Annotating the rows of a chain

`annotate_transactions` on the rows as `flatten_node` makes them.  An end without an annotation gets
its type if that is a DEX, so the type is read exactly where the dictionary has nothing to say: the
rows of XRP and XLM, which have no types, can only be annotated if the dictionary knows both ends
(`annotatesRows_iff`).
-/

namespace CatvService.Pipeline

open PyValue PyText Dictionary GraphQL

/-! ## The loop on flat rows -/

/-- `annotation_dict.get(address.lower(), …)`.  Only a text has `lower`. -/
def detailsOfEnd (annotationDict : Entries String Details) (address : Json) :
    Except PyErr Details :=
  match address with
  | .str s => .ok (detailsOf annotationDict s)
  | _ => .error .attributeError

/-- The annotation of one end: `typeKey` is read where the details have none. -/
def flatAnnotation (typeKey : String) (details : Details) (d : FlatRow) : Except PyErr Json :=
  if details.annotation = "" then do
    let type ← (Json.dict d.rest).item typeKey
    let lowered ← type.lower
    return if lowered = "dex" then type else .str ""
  else .ok (.str details.annotation)

/-- The loop body of `annotate_transactions`. -/
def annotateFlatRow (annotationDict : Entries String Details) (d : FlatRow) :
    Except PyErr FlatRow := do
  let senderDetails ← detailsOfEnd annotationDict d.sender
  let receiverDetails ← detailsOfEnd annotationDict d.receiver
  let senderAnnotation ← flatAnnotation "sender_type" senderDetails d
  let receiverAnnotation ← flatAnnotation "receiver_type" receiverDetails d
  return { d with
    senderAnnotation := senderAnnotation
    receiverAnnotation := receiverAnnotation
    rest := Entries.set "receiver_security_category" receiverDetails.securityCategory
      (Entries.set "sender_security_category" senderDetails.securityCategory d.rest) }

/-- `annotate_transactions(bloxy_res, annotation_dict)`. -/
def annotateFlatRows (annotationDict : Entries String Details) (bloxyRes : List FlatRow) :
    Except PyErr (List FlatRow) :=
  bloxyRes.mapM (annotateFlatRow annotationDict)

/-! ## What it should do -/

/-- The entry of the dictionary, or the type of the end if there is none and the type is a DEX. -/
def annotationFor (details : Details) (type : Option Json) : Json :=
  match type with
  | some (.str t) =>
      if details.annotation = "" ∧ lower t = "dex" then .str t else .str details.annotation
  | _ => .str details.annotation

/-- The second row is the first one with its annotations. -/
structure Annotated (annotationDict : Entries String Details) (d annotated : FlatRow) : Prop where
  depth : annotated.depth = d.depth
  txHash : annotated.txHash = d.txHash
  sender : annotated.sender = d.sender
  receiver : annotated.receiver = d.receiver
  rest : ∀ key, key ≠ "sender_security_category" → key ≠ "receiver_security_category" →
    Entries.get? key annotated.rest = Entries.get? key d.rest
  senderSet : ∃ address, d.sender = .str address ∧
    annotated.senderAnnotation =
        annotationFor (detailsOf annotationDict address) (Entries.get? "sender_type" d.rest) ∧
      Entries.get? "sender_security_category" annotated.rest =
        some (detailsOf annotationDict address).securityCategory
  receiverSet : ∃ address, d.receiver = .str address ∧
    annotated.receiverAnnotation =
        annotationFor (detailsOf annotationDict address) (Entries.get? "receiver_type" d.rest) ∧
      Entries.get? "receiver_security_category" annotated.rest =
        some (detailsOf annotationDict address).securityCategory

/-- The rows that `flatten_node` appends for a list of items. -/
def rowsOfItems (chain : Chain) (initialDepth : ℤ) (tokenAddress : Json) (items : List Json) :
    List FlatRow :=
  items.filterMap fun item => (flattenNode chain initialDepth item tokenAddress).map Flattened.row

/-- The rows of the items are annotated, one by one and in their order. -/
def AnnotatesRows (chain : Chain) (initialDepth : ℤ) (tokenAddress : Json) (items : List Json)
    (annotationDict : Entries String Details) : Prop :=
  ∃ annotated, annotateFlatRows annotationDict (rowsOfItems chain initialDepth tokenAddress items) =
      .ok annotated ∧
    List.Forall₂ (Annotated annotationDict) (rowsOfItems chain initialDepth tokenAddress items)
      annotated

/-- The dictionary has an annotation for the address, in whatever letter case. -/
def Knows (annotationDict : Entries String Details) (address : String) : Prop :=
  Details.annotation (detailsOf annotationDict address) ≠ ""

/-- An end can be annotated: its address is a text, and the dictionary has an annotation for it or
its type is a text. -/
def CanAnnotate (annotationDict : Entries String Details) (address : Json) (type : Option Json) :
    Prop :=
  ∃ s, address = .str s ∧ (Knows annotationDict s ∨ ∃ t, type = some (.str t))

/-! ## One row -/

variable {annotationDict : Entries String Details} {d annotated : FlatRow}

/-- What an end gets: its annotation, or a type that is read where there is none. -/
theorem flatAnnotation_eq_ok_iff {typeKey : String} {details : Details} {value : Json} :
    flatAnnotation typeKey details d = .ok value ↔
      (details.annotation ≠ "" ∧ value = .str details.annotation) ∨
        (details.annotation = "" ∧ ∃ t, Entries.get? typeKey d.rest = some (.str t) ∧
          value = if lower t = "dex" then .str t else .str "") := by
  unfold flatAnnotation
  by_cases hnone : details.annotation = ""
  · rw [if_pos hnone, or_iff_right fun hboth => hboth.1 hnone, and_iff_right hnone]
    constructor
    · intro hvalue
      obtain ⟨type, htype, hvalue⟩ := bind_eq_ok_iff.mp hvalue
      obtain ⟨lowered, hlowered, hvalue⟩ := bind_eq_ok_iff.mp hvalue
      obtain ⟨entries, hentries, hget⟩ := Json.item_eq_ok htype
      cases hentries
      cases type with
      | str t =>
          cases hlowered
          cases hvalue
          exact ⟨t, hget, rfl⟩
      -- only a text has `lower`
      | _ => cases hlowered
    · intro htype
      obtain ⟨t, ht, rfl⟩ := htype
      exact bind_eq_ok_iff.mpr ⟨.str t, Json.item_dict ht, rfl⟩
  · rw [if_neg hnone, or_iff_left fun hboth => hnone hboth.1, and_iff_right hnone, Except.ok.injEq,
      eq_comm]

theorem flatAnnotation_eq_ok {typeKey : String} {details : Details} {value : Json}
    (hvalue : flatAnnotation typeKey details d = .ok value) :
    value = annotationFor details (Entries.get? typeKey d.rest) := by
  unfold annotationFor
  rcases flatAnnotation_eq_ok_iff.mp hvalue with ⟨hsome, rfl⟩ | ⟨hnone, t, htype, rfl⟩
  · split
    · rw [if_neg fun hboth => hsome hboth.1]
    · rfl
  · simp only [htype, hnone, true_and]

theorem exists_flatAnnotation_iff {typeKey : String} {details : Details} :
    (∃ value, flatAnnotation typeKey details d = .ok value) ↔
      details.annotation ≠ "" ∨ ∃ t, Entries.get? typeKey d.rest = some (.str t) := by
  simp only [flatAnnotation_eq_ok_iff]
  constructor
  · intro hexists
    obtain ⟨value, ⟨hsome, -⟩ | ⟨-, t, htype, -⟩⟩ := hexists
    · exact .inl hsome
    · exact .inr ⟨t, htype⟩
  · intro hcan
    by_cases hnone : details.annotation = ""
    · obtain ⟨t, htype⟩ := hcan.resolve_left (not_not_intro hnone)
      exact ⟨_, .inr ⟨hnone, t, htype, rfl⟩⟩
    · exact ⟨_, .inl ⟨hnone, rfl⟩⟩

theorem detailsOfEnd_eq_ok_iff {address : Json} {details : Details} :
    detailsOfEnd annotationDict address = .ok details ↔
      ∃ s, address = .str s ∧ detailsOf annotationDict s = details := by
  cases address with
  | str s => simp [detailsOfEnd]
  | _ => simp [detailsOfEnd]

/-- The row that the loop body makes, from the addresses of its ends and what they get. -/
def annotatedRow (annotationDict : Entries String Details) (d : FlatRow) (sender receiver : String)
    (senderText receiverText : Json) : FlatRow :=
  { d with
    senderAnnotation := senderText
    receiverAnnotation := receiverText
    rest := Entries.set "receiver_security_category"
      (detailsOf annotationDict receiver).securityCategory
      (Entries.set "sender_security_category" (detailsOf annotationDict sender).securityCategory
        d.rest) }

theorem annotateFlatRow_eq_ok_iff :
    annotateFlatRow annotationDict d = .ok annotated ↔
      ∃ sender receiver senderText receiverText, d.sender = .str sender ∧
        d.receiver = .str receiver ∧
        flatAnnotation "sender_type" (detailsOf annotationDict sender) d = .ok senderText ∧
        flatAnnotation "receiver_type" (detailsOf annotationDict receiver) d = .ok receiverText ∧
        annotated = annotatedRow annotationDict d sender receiver senderText receiverText := by
  constructor
  · intro hrow
    obtain ⟨senderDetails, hsender, hrow⟩ := bind_eq_ok_iff.mp hrow
    obtain ⟨receiverDetails, hreceiver, hrow⟩ := bind_eq_ok_iff.mp hrow
    obtain ⟨senderText, hsenderText, hrow⟩ := bind_eq_ok_iff.mp hrow
    obtain ⟨receiverText, hreceiverText, hrow⟩ := bind_eq_ok_iff.mp hrow
    obtain ⟨sender, hs, rfl⟩ := detailsOfEnd_eq_ok_iff.mp hsender
    obtain ⟨receiver, hr, rfl⟩ := detailsOfEnd_eq_ok_iff.mp hreceiver
    cases hrow
    exact ⟨sender, receiver, senderText, receiverText, hs, hr, hsenderText, hreceiverText, rfl⟩
  · intro hsteps
    obtain ⟨sender, receiver, senderText, receiverText, hs, hr, hsenderText, hreceiverText, rfl⟩ :=
      hsteps
    exact bind_eq_ok_iff.mpr ⟨_, detailsOfEnd_eq_ok_iff.mpr ⟨sender, hs, rfl⟩,
      bind_eq_ok_iff.mpr ⟨_, detailsOfEnd_eq_ok_iff.mpr ⟨receiver, hr, rfl⟩,
        bind_eq_ok_iff.mpr ⟨_, hsenderText, bind_eq_ok_iff.mpr ⟨_, hreceiverText, rfl⟩⟩⟩⟩

theorem get?_rest_annotatedRow {key : String} (hsender : key ≠ "sender_security_category")
    (hreceiver : key ≠ "receiver_security_category") (sender receiver : String)
    (senderText receiverText : Json) :
    Entries.get? key
        (annotatedRow annotationDict d sender receiver senderText receiverText).rest =
      Entries.get? key d.rest := by
  unfold annotatedRow
  rw [Entries.get?_set_of_ne hreceiver.symm, Entries.get?_set_of_ne hsender.symm]

/-- What the loop body does to a row that it does not raise on. -/
theorem annotated_of_annotateFlatRow (hrow : annotateFlatRow annotationDict d = .ok annotated) :
    Annotated annotationDict d annotated := by
  obtain ⟨sender, receiver, senderText, receiverText, hs, hr, hsenderText, hreceiverText, rfl⟩ :=
    annotateFlatRow_eq_ok_iff.mp hrow
  refine ⟨rfl, rfl, rfl, rfl, ?_, ⟨sender, hs, ?_, ?_⟩, ⟨receiver, hr, ?_, ?_⟩⟩
  · intro key hne hne'
    exact get?_rest_annotatedRow hne hne' _ _ _ _
  · exact flatAnnotation_eq_ok hsenderText
  · unfold annotatedRow
    rw [Entries.get?_set_of_ne (by decide), Entries.get?_set_self]
  · exact flatAnnotation_eq_ok hreceiverText
  · unfold annotatedRow
    rw [Entries.get?_set_self]

theorem exists_annotateFlatRow_iff :
    (∃ annotated, annotateFlatRow annotationDict d = .ok annotated) ↔
      CanAnnotate annotationDict d.sender (Entries.get? "sender_type" d.rest) ∧
        CanAnnotate annotationDict d.receiver (Entries.get? "receiver_type" d.rest) := by
  simp only [annotateFlatRow_eq_ok_iff]
  constructor
  · intro hexists
    obtain ⟨annotated, sender, receiver, senderText, receiverText, hs, hr, hsender, hreceiver, -⟩ :=
      hexists
    exact ⟨⟨sender, hs, exists_flatAnnotation_iff.mp ⟨senderText, hsender⟩⟩,
      ⟨receiver, hr, exists_flatAnnotation_iff.mp ⟨receiverText, hreceiver⟩⟩⟩
  · intro hcan
    obtain ⟨⟨sender, hs, hsender⟩, ⟨receiver, hr, hreceiver⟩⟩ := hcan
    obtain ⟨senderText, hsenderText⟩ := exists_flatAnnotation_iff.mpr hsender
    obtain ⟨receiverText, hreceiverText⟩ := exists_flatAnnotation_iff.mpr hreceiver
    exact ⟨_, sender, receiver, senderText, receiverText, hs, hr, hsenderText, hreceiverText, rfl⟩

/-! ## All rows of a chain -/

variable {chain : Chain} {initialDepth : ℤ} {tokenAddress : Json} {items : List Json}

/-- The loop raises unless the ends of all rows can be annotated, and then annotates them all. -/
theorem annotatesRows_iff_rows :
    AnnotatesRows chain initialDepth tokenAddress items annotationDict ↔
      ∀ d ∈ rowsOfItems chain initialDepth tokenAddress items,
        CanAnnotate annotationDict d.sender (Entries.get? "sender_type" d.rest) ∧
          CanAnnotate annotationDict d.receiver (Entries.get? "receiver_type" d.rest) := by
  unfold AnnotatesRows annotateFlatRows
  simp only [mapM_eq_ok_iff, exists_annotateFlatRow_iff]
  constructor
  · intro hexists
    obtain ⟨annotated, ⟨hall, -⟩, -⟩ := hexists
    exact hall
  · intro hall
    refine ⟨_, ⟨hall, rfl⟩, ?_⟩
    rw [List.forall₂_map_right_iff, List.forall₂_same]
    intro d hd
    obtain ⟨annotated, hrow⟩ := exists_annotateFlatRow_iff.mpr (hall d hd)
    rw [settled_eq hrow]
    exact annotated_of_annotateFlatRow hrow

theorem template?_of_supported (hchain : chain ∈ Validation.supportedNetworks) :
    ∃ template, chain.template? = some template := by
  cases chain with
  | other code => exact absurd hchain (by simp [Validation.supportedNetworks])
  | _ => exact ⟨_, rfl⟩

/-- **The rows of a supported chain can be annotated exactly when both ends of every item that comes
to a row can.**  An end of XRP or XLM has no type, and needs an annotation. -/
theorem annotatesRows_iff (hchain : chain ∈ Validation.supportedNetworks) (initialDepth : ℤ)
    (tokenAddress : Json) (items : List Json) (annotationDict : Entries String Details) :
    AnnotatesRows chain initialDepth tokenAddress items annotationDict ↔
      ∀ item ∈ items, Appends chain item →
        CanAnnotate annotationDict (endOf chain "sender" item) (endType? chain "sender" item) ∧
          CanAnnotate annotationDict (endOf chain "receiver" item)
            (endType? chain "receiver" item) := by
  obtain ⟨template, htemplate⟩ := template?_of_supported hchain
  -- what the loop reads of a row is what `flatten_node` took from the item
  rw [annotatesRows_iff_rows]
  constructor
  · intro hall item hitem happends
    obtain ⟨flattened, hflatten⟩ := (exists_flattenNode_iff_appends htemplate).mpr happends
    have hrow : RowOf chain initialDepth item flattened.row := rowOf_flattenNode hflatten
    rw [← hrow.sender, ← hrow.receiver, ← hrow.senderType, ← hrow.receiverType]
    exact hall _ (List.mem_filterMap.mpr ⟨item, hitem, Option.map_eq_some_iff.mpr
      ⟨flattened, hflatten, rfl⟩⟩)
  · intro hall d hd
    obtain ⟨item, hitem, hmap⟩ := List.mem_filterMap.mp hd
    obtain ⟨flattened, hflatten, rfl⟩ := Option.map_eq_some_iff.mp hmap
    have hrow : RowOf chain initialDepth item flattened.row := rowOf_flattenNode hflatten
    rw [hrow.sender, hrow.receiver, hrow.senderType, hrow.receiverType]
    exact hall item hitem ((exists_flattenNode_iff_appends htemplate).mp ⟨flattened, hflatten⟩)

/-- A payment between two addresses. -/
def plainItem : Json :=
  .dict [("depth", .int 1), ("transaction", .dict [("hash", .str "f1")]),
    ("sender", .dict [("address", .str "rFrom")]), ("receiver", .dict [("address", .str "rTo")])]

/-- On TRX the rows of the payment are annotated although the dictionary is empty. -/
theorem annotatesRows_plainItem : AnnotatesRows .trx 0 .null [plainItem] [] := by
  rw [annotatesRows_iff (by decide)]
  intro item hitem _
  obtain rfl := List.mem_singleton.mp hitem
  exact ⟨⟨"rFrom", rfl, .inr ⟨"unknown", rfl⟩⟩, ⟨"rTo", rfl, .inr ⟨"unknown", rfl⟩⟩⟩

/-- On XRP the same payment makes the loop raise a `KeyError`. -/
theorem not_annotatesRows_plainItem : ¬ AnnotatesRows .xrp 0 .null [plainItem] [] := by
  intro hannotates
  obtain ⟨annotated, hok, -⟩ := hannotates
  have hraises : annotateFlatRows [] (rowsOfItems .xrp 0 .null [plainItem]) =
      .error (.keyError "sender_type") := rfl
  rw [hraises] at hok
  cases hok

/-! ## The rows of the pipeline -/

theorem textOf_eq_some_iff {v : Json} {s : String} : textOf v = some s ↔ v = .str s := by
  cases v with
  | str t => simp [textOf]
  | _ => simp [textOf]

theorem endAnnotation_of_flat {typeKey : String} {details : Details} {type : Option String}
    {value : Json} (htype : typeOf typeKey d.rest = some type)
    (hvalue : flatAnnotation typeKey details d = .ok value) :
    ∃ text, value = .str text ∧ endAnnotation typeKey details type = .ok text := by
  unfold endAnnotation
  rcases flatAnnotation_eq_ok_iff.mp hvalue with ⟨hsome, rfl⟩ | ⟨hnone, t, hget, rfl⟩
  · exact ⟨_, rfl, if_neg hsome⟩
  · unfold typeOf at htype
    rw [hget] at htype
    cases htype
    rw [if_pos hnone]
    dsimp only
    split <;> exact ⟨_, rfl, rfl⟩

/-- **What the loop makes of a flat row whose texts are texts, it makes of the row of the
pipeline.** -/
theorem annotateTransaction_of_flat {row : Row} (hflat : rowOfFlat d = some row)
    (hrow : annotateFlatRow annotationDict d = .ok annotated) :
    ∃ row', rowOfFlat annotated = some row' ∧
      annotateTransaction annotationDict row = .ok row' := by
  unfold rowOfFlat at hflat
  simp only [Option.bind_eq_bind, Option.bind_eq_some_iff] at hflat
  obtain ⟨txHash, htxHash, sender, hsender, receiver, hreceiver, _, -, _, -, senderType,
    hsenderType, receiverType, hreceiverType, hfields⟩ := hflat
  cases hfields
  obtain ⟨sender', receiver', senderText, receiverText, hs, hr, hsenderText, hreceiverText, rfl⟩ :=
    annotateFlatRow_eq_ok_iff.mp hrow
  obtain rfl := Json.str.inj ((textOf_eq_some_iff.mp hsender).symm.trans hs)
  obtain rfl := Json.str.inj ((textOf_eq_some_iff.mp hreceiver).symm.trans hr)
  obtain ⟨senderValue, rfl, hsenderEnd⟩ := endAnnotation_of_flat hsenderType hsenderText
  obtain ⟨receiverValue, rfl, hreceiverEnd⟩ := endAnnotation_of_flat hreceiverType hreceiverText
  refine ⟨_, ?_, bind_eq_ok_iff.mpr ⟨senderValue, hsenderEnd, bind_eq_ok_iff.mpr ⟨receiverValue,
    hreceiverEnd, rfl⟩⟩⟩
  have htypes : ∀ key, key ≠ "sender_security_category" → key ≠ "receiver_security_category" →
      typeOf key (annotatedRow annotationDict d sender receiver (.str senderValue)
        (.str receiverValue)).rest = typeOf key d.rest := by
    intro key hne hne'
    unfold typeOf
    rw [get?_rest_annotatedRow hne hne']
  unfold rowOfFlat
  simp only [htypes "sender_type" (by decide) (by decide),
    htypes "receiver_type" (by decide) (by decide), hsenderType, hreceiverType]
  simp only [annotatedRow, htxHash, hsender, hreceiver]
  rfl

end CatvService.Pipeline
