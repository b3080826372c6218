import CatvService.Pipeline.CkQuery

/-!
# The stages of a ck query

Between the calls and the cut-off a query collects addresses, fetches annotations and writes them
into the rows.  None of these stages reads a depth or changes what identifies a transfer.

* `StagesSucceed`: when none of them raises;
* `labelled`: what they make of a row;
* `processTransactions_eq_ok_iff`: what a query without hashes returns, in these terms.
-/

namespace CatvService.Pipeline

open PyValue PyText Dictionary GraphQL

/-- What identifies a transfer. -/
structure Transfer where
  txHash : String
  sender : String
  receiver : String
  deriving DecidableEq, Repr

/-- The transfer of a row. -/
def transferOf (row : Row) : Transfer :=
  ⟨row.txHash, row.sender, row.receiver⟩

/-! ## Functions that keep the keys of the cut-off -/

/-- The function leaves the keys alone that the cut-off reads. -/
structure KeepsKeys (f : Row → Row) : Prop where
  txHash : ∀ row, (f row).txHash = row.txHash
  sender : ∀ row, (f row).sender = row.sender
  receiver : ∀ row, (f row).receiver = row.receiver
  senderAnnotation : ∀ row, Row.senderAnnotation (f row) = row.senderAnnotation
  receiverAnnotation : ∀ row, Row.receiverAnnotation (f row) = row.receiverAnnotation

namespace KeepsKeys

variable {f : Row → Row}

theorem inner (hf : KeepsKeys f) (direction : Direction) (row : Row) :
    direction.inner (f row) = direction.inner row := by
  cases direction with
  | inbound => exact hf.receiver row
  | outbound => exact hf.sender row

theorem outer (hf : KeepsKeys f) (direction : Direction) (row : Row) :
    direction.outer (f row) = direction.outer row := by
  cases direction with
  | inbound => exact hf.sender row
  | outbound => exact hf.receiver row

theorem marksExchange (hf : KeepsKeys f) (direction : Direction) (row : Row) :
    marksExchange direction (f row) = marksExchange direction row := by
  have htext : direction.outerAnnotation (f row) = direction.outerAnnotation row := by
    cases direction with
    | inbound =>
        have hsame := hf.senderAnnotation row
        exact congrArg (Option.getD · "") hsame
    | outbound =>
        have hsame := hf.receiverAnnotation row
        exact congrArg (Option.getD · "") hsame
  unfold Pipeline.marksExchange
  rw [htext]

theorem graphOf_map (hf : KeepsKeys f) (direction : Direction) (txns : List Row) :
    graphOf direction (txns.map f) = graphOf direction txns := by
  funext address
  unfold graphOf
  rw [List.filter_map, List.map_map]
  simp only [Function.comp_def, hf.inner, hf.outer, hf.txHash]

theorem exchangeRoots_map (hf : KeepsKeys f) (direction : Direction) (txns : List Row) :
    exchangeRoots direction (txns.map f) = exchangeRoots direction txns := by
  unfold exchangeRoots
  rw [List.filter_map, List.map_map]
  simp only [Function.comp_def, hf.marksExchange, hf.outer]

theorem txnsToRemove_map (hf : KeepsKeys f) (direction : Direction) (txns : List Row) :
    txnsToRemove direction (txns.map f) = txnsToRemove direction txns := by
  rw [txnsToRemove_eq, txnsToRemove_eq, hf.graphOf_map, hf.exchangeRoots_map, List.length_map]

/-- The cut-off sees the same rows before and after the function. -/
theorem filterExchangeTransactions_map (hf : KeepsKeys f) (direction : Direction)
    (txns : List Row) :
    filterExchangeTransactions (txns.map f) direction =
      (filterExchangeTransactions txns direction).map f := by
  unfold filterExchangeTransactions
  rw [hf.txnsToRemove_map, List.filter_map]
  simp only [Function.comp_def, hf.txHash]

end KeepsKeys

theorem keepsKeys_negateDepth : KeepsKeys negateDepth :=
  ⟨fun _ => rfl, fun _ => rfl, fun _ => rfl, fun _ => rfl, fun _ => rfl⟩

@[simp] theorem negateDepth_negateDepth (row : Row) : negateDepth (negateDepth row) = row := by
  simp [negateDepth]

/-- Behind the negation the sign filter for inbound rows lets the positive depths through. -/
theorem filter_inbound_map_negateDepth (rows : List Row) :
    (rows.map negateDepth).filter (inDirection .inbound) =
      (rows.filter fun row => decide (0 < row.depth)).map negateDepth := by
  rw [List.filter_map]
  refine congrArg (List.map negateDepth) (List.filter_congr fun row _ => ?_)
  simp [inDirection, negateDepth]

/-! ## Rows under annotation and under `transform_transaction_data` -/

theorem transformTransaction_eq_ok {tx row : Row} (hrow : transformTransaction tx = .ok row) :
    row = { tx with rest := row.rest } := by
  unfold transformTransaction at hrow
  simp only [bind_eq_ok_iff] at hrow
  obtain ⟨_, -, _, -, _, -, _, -, _, -, heq⟩ := hrow
  exact (Except.ok.inj heq) ▸ rfl

/-- The row, transformed where that succeeds. -/
theorem settled_transformTransaction (tx : Row) :
    settled transformTransaction tx =
      { tx with rest := (settled transformTransaction tx).rest } := by
  unfold settled
  split
  · rename_i row hrow
    exact transformTransaction_eq_ok hrow
  · rfl

theorem keepsKeys_transformTransaction : KeepsKeys (settled transformTransaction) where
  txHash tx := by rw [settled_transformTransaction]
  sender tx := by rw [settled_transformTransaction]
  receiver tx := by rw [settled_transformTransaction]
  senderAnnotation tx := by rw [settled_transformTransaction]
  receiverAnnotation tx := by rw [settled_transformTransaction]

theorem depth_settled_transformTransaction (tx : Row) :
    (settled transformTransaction tx).depth = tx.depth := by
  rw [settled_transformTransaction]

theorem annotateTransaction_eq_ok {dict : Entries String Details} {d row : Row}
    (hrow : annotateTransaction dict d = .ok row) :
    row.depth = d.depth ∧ transferOf row = transferOf d := by
  unfold annotateTransaction at hrow
  simp only [bind_eq_ok_iff] at hrow
  obtain ⟨_, -, _, -, heq⟩ := hrow
  exact (Except.ok.inj heq) ▸ ⟨rfl, rfl⟩

theorem settled_annotateTransaction (dict : Entries String Details) (d : Row) :
    (settled (annotateTransaction dict) d).depth = d.depth ∧
      transferOf (settled (annotateTransaction dict) d) = transferOf d := by
  unfold settled
  split
  · rename_i row hrow
    exact annotateTransaction_eq_ok hrow
  · exact ⟨rfl, rfl⟩

/-- Annotating does not look at the depth. -/
theorem annotateTransaction_negateDepth (dict : Entries String Details) (d : Row) :
    annotateTransaction dict (negateDepth d) = negateDepth <$> annotateTransaction dict d := by
  simp only [annotateTransaction, negateDepth]
  cases endAnnotation "sender_type" (detailsOf dict d.sender) d.senderType with
  | error e => rfl
  | ok sender =>
      cases endAnnotation "receiver_type" (detailsOf dict d.receiver) d.receiverType with
      | error e => rfl
      | ok receiver => rfl

theorem settled_negateDepth (dict : Entries String Details) (d : Row) :
    settled (annotateTransaction dict) (negateDepth d) =
      negateDepth (settled (annotateTransaction dict) d) := by
  unfold settled
  rw [annotateTransaction_negateDepth]
  cases annotateTransaction dict d with
  | error e => rfl
  | ok row => rfl

theorem exists_endAnnotation_iff (typeKey : String) {details : Details} {type : Option String} :
    (∃ text, endAnnotation typeKey details type = .ok text) ↔
      (details.annotation = "" → type.isSome) := by
  unfold endAnnotation
  split
  · rename_i hempty
    cases type with
    | none => simp [hempty]
    | some type =>
        simp only [Option.isSome_some, implies_true, iff_true]
        split
        · exact ⟨_, rfl⟩
        · exact ⟨_, rfl⟩
  · rename_i hnonempty
    simp [hnonempty]

/-- Both ends of the row have an annotation or a type. -/
def Annotatable (dict : Entries String Details) (row : Row) : Prop :=
  (Details.annotation (detailsOf dict row.sender) = "" → row.senderType.isSome) ∧
    (Details.annotation (detailsOf dict row.receiver) = "" → row.receiverType.isSome)

theorem exists_annotateTransaction_iff {dict : Entries String Details} {row : Row} :
    (∃ annotated, annotateTransaction dict row = .ok annotated) ↔ Annotatable dict row := by
  unfold Annotatable
  rw [← exists_endAnnotation_iff "sender_type",
    ← exists_endAnnotation_iff "receiver_type"]
  simp only [annotateTransaction, bind_eq_ok_iff]
  constructor
  · intro hok
    obtain ⟨_, sender, hsender, receiver, hreceiver, -⟩ := hok
    exact ⟨⟨sender, hsender⟩, ⟨receiver, hreceiver⟩⟩
  · intro hok
    obtain ⟨⟨sender, hsender⟩, ⟨receiver, hreceiver⟩⟩ := hok
    exact ⟨_, sender, hsender, receiver, hreceiver, rfl⟩

/-! ## The stages of a query -/

section Stages

variable (env : Environment) (request : Request) (chain : Chain) (usedTracer : Bool)
  (all : List Row)

/-- No stage between the calls and the cut-off raises: on a chain with checksums every address has
one, and unless Tracer was used the annotations are there and every end has an annotation or a
type. -/
structure StagesSucceed : Prop where
  checksums : ∀ row ∈ all, (∃ address, checksumAddress env chain row.sender = .ok address) ∧
    ∃ address, checksumAddress env chain row.receiver = .ok address
  annotations : usedTracer = false →
    ∃ addrList dict, createAddressList env chain all = .ok addrList ∧
    env.fetchAnnotations addrList chain = .ok dict ∧ ∀ row ∈ all, Annotatable dict row

/-- The row under the given annotations. -/
def labelWith (dict : Entries String Details) : Row → Row :=
  if usedTracer then id else settled (annotateTransaction dict)

/-- The row as the cut-off sees it; where a stage raises, as it came. -/
def labelled : Row → Row :=
  match (do annotationDict env chain usedTracer (← createAddressList env chain all)) with
  | .ok dict => labelWith usedTracer dict
  | .error _ => id

variable {env request chain usedTracer all}

theorem exists_createAddressList_iff :
    (∃ addrList, createAddressList env chain all = .ok addrList) ↔
      ∀ row ∈ all, (∃ address, checksumAddress env chain row.sender = .ok address) ∧
        ∃ address, checksumAddress env chain row.receiver = .ok address := by
  simp only [forall₂_and, ← exists_mapM_eq_ok_iff, createAddressList, bind_eq_ok_iff]
  constructor
  · intro hok
    obtain ⟨_, senders, hsenders, receivers, hreceivers, -⟩ := hok
    exact ⟨⟨senders, hsenders⟩, ⟨receivers, hreceivers⟩⟩
  · intro hok
    obtain ⟨⟨senders, hsenders⟩, ⟨receivers, hreceivers⟩⟩ := hok
    exact ⟨_, senders, hsenders, receivers, hreceivers, rfl⟩

theorem stagesSucceed_iff :
    StagesSucceed env chain usedTracer all ↔
      ∃ addrList dict, createAddressList env chain all = .ok addrList ∧
        annotationDict env chain usedTracer addrList = .ok dict ∧
          (usedTracer = false → ∀ row ∈ all, Annotatable dict row) := by
  constructor
  · intro hstages
    cases usedTracer with
    | true =>
        obtain ⟨addrList, haddresses⟩ := exists_createAddressList_iff.mpr hstages.checksums
        exact ⟨addrList, [], haddresses, rfl, fun hfalse => by cases hfalse⟩
    | false =>
        obtain ⟨addrList, dict, haddresses, hdict, hrows⟩ := hstages.annotations rfl
        exact ⟨addrList, dict, haddresses, hdict, fun _ => hrows⟩
  · intro hstages
    obtain ⟨addrList, dict, haddresses, hdict, hrows⟩ := hstages
    refine ⟨exists_createAddressList_iff.mp ⟨addrList, haddresses⟩, fun hfalse => ?_⟩
    subst hfalse
    exact ⟨addrList, dict, haddresses, hdict, hrows rfl⟩

theorem annotated_eq_ok_iff {dict : Entries String Details} {rows labels : List Row} :
    annotated usedTracer dict rows = .ok labels ↔
      (usedTracer = false → ∀ row ∈ rows, Annotatable dict row) ∧
        rows.map (labelWith usedTracer dict) = labels := by
  cases usedTracer with
  | true => simp [annotated, labelWith]
  | false =>
      simp only [annotated, labelWith, Bool.false_eq_true, if_false, mapM_eq_ok_iff,
        exists_annotateTransaction_iff, forall_const]

theorem labelled_eq {addrList : Finset String} {dict : Entries String Details}
    (haddresses : createAddressList env chain all = .ok addrList)
    (hdict : annotationDict env chain usedTracer addrList = .ok dict) :
    labelled env chain usedTracer all = labelWith usedTracer dict := by
  simp only [labelled, haddresses, hdict, bind, Except.bind]

/-- Either the rows stay as they are or each is annotated. -/
theorem labelled_cases (env : Environment) (chain : Chain) (usedTracer : Bool) (all : List Row) :
    labelled env chain usedTracer all = id ∨
      ∃ dict, labelled env chain usedTracer all = settled (annotateTransaction dict) := by
  unfold labelled labelWith
  split
  · rename_i dict _
    split
    · exact .inl rfl
    · exact .inr ⟨dict, rfl⟩
  · exact .inl rfl

@[simp] theorem labelled_true : labelled env chain true all = id := by
  unfold labelled labelWith
  split
  · rfl
  · rfl

/-- Labelling leaves the transfer and its depth alone. -/
theorem labelled_keeps (row : Row) :
    (labelled env chain usedTracer all row).depth = row.depth ∧
      transferOf (labelled env chain usedTracer all row) = transferOf row := by
  rcases labelled_cases env chain usedTracer all with hid | ⟨dict, hsettled⟩
  · rw [hid]
    exact ⟨rfl, rfl⟩
  · rw [hsettled]
    exact settled_annotateTransaction dict row

theorem labelled_negateDepth (row : Row) :
    labelled env chain usedTracer all (negateDepth row) =
      negateDepth (labelled env chain usedTracer all row) := by
  rcases labelled_cases env chain usedTracer all with hid | ⟨dict, hsettled⟩
  · rw [hid]
    rfl
  · rw [hsettled]
    exact settled_negateDepth dict row

/-! ## What a query returns -/

/-- The rows of one direction that the sign filter and the cut-off leave. -/
def survivors (direction : Direction) (rows : List Row) : List Row :=
  filterExchangeTransactions (rows.filter (inDirection direction)) direction

theorem annotateAndFilterTransactions_eq_ok_iff {dict : Entries String Details}
    {rows results : List Row} {direction : Direction} :
    annotateAndFilterTransactions usedTracer dict rows direction = .ok results ↔
      ∃ labels, annotated usedTracer dict rows = .ok labels ∧
        survivors direction labels = results := by
  unfold annotateAndFilterTransactions
  simp only [bind_eq_ok_iff, pure, Except.pure, Except.ok.injEq]
  rfl

/-- Without hashes to follow, a query goes through exactly when no stage raises. -/
theorem processTransactions_eq_ok_iff {isVictimDex : Bool} {src dist rows : List Row}
    (hne : src ++ dist ≠ []) :
    processTransactions env request chain isVictimDex usedTracer [] src dist = .ok rows ↔
      StagesSucceed env chain usedTracer (src ++ dist) ∧
        offsetDepths isVictimDex
          (survivors .inbound (src.map (labelled env chain usedTracer (src ++ dist))))
          (survivors .outbound (dist.map (labelled env chain usedTracer (src ++ dist)))) =
            rows := by
  have hempty : (src ++ dist).isEmpty = false := by
    rw [← Bool.not_eq_true, List.isEmpty_iff]
    exact hne
  unfold processTransactions
  rw [hempty]
  simp only [Bool.false_eq_true, if_false, bind_eq_ok_iff,
    annotateAndFilterTransactions_eq_ok_iff]
  constructor
  · intro hok
    obtain ⟨addrList, haddresses, dict, hdict, _, ⟨_, hdist, rfl⟩, _, ⟨_, hsrc, rfl⟩, hrows⟩ := hok
    rw [annotated_eq_ok_iff] at hdist hsrc
    obtain ⟨hdistEnds, rfl⟩ := hdist
    obtain ⟨hsrcEnds, rfl⟩ := hsrc
    rw [labelled_eq haddresses hdict]
    refine ⟨stagesSucceed_iff.mpr ⟨addrList, dict, haddresses, hdict, fun hfalse row hrow => ?_⟩,
      Except.ok.inj hrows⟩
    rcases List.mem_append.mp hrow with hrow | hrow
    · exact hsrcEnds hfalse row hrow
    · exact hdistEnds hfalse row hrow
  · intro hok
    obtain ⟨hstages, hrows⟩ := hok
    obtain ⟨addrList, dict, haddresses, hdict, hends⟩ := stagesSucceed_iff.mp hstages
    rw [labelled_eq haddresses hdict] at hrows
    refine ⟨addrList, haddresses, dict, hdict, _, ⟨_, annotated_eq_ok_iff.mpr ⟨?_, rfl⟩, rfl⟩, _,
      ⟨_, annotated_eq_ok_iff.mpr ⟨?_, rfl⟩, rfl⟩, congrArg Except.ok hrows⟩
    · exact fun hfalse row hrow => hends hfalse row (List.mem_append_right _ hrow)
    · exact fun hfalse row hrow => hends hfalse row (List.mem_append_left _ hrow)

end Stages

end CatvService.Pipeline
