import CatvService.GraphQL.Swap

/-!
# The row of a swap itself

`process_swap` makes a row of the swap with its ends exchanged.  This module says from the swap and
the trade alone when `modify_swap_data` succeeds, when `flatten_node` makes a row of what it
returns, and whether that row has both ends (`swapRow_hasEnds_iff`).

Where `modify_swap_data` fails it returns `None`, and `flatten_node` makes a row without ends of it.
-/

namespace CatvService.GraphQL

open PyValue Dictionary

/-! ## Fields that hold an amount -/

mutual

/-- `update_amount_fields` has a field of the value to convert. -/
def hasAmountField : Json → Bool
  | .dict entries => hasAmountEntry entries
  | _ => false

/-- The same for the entries of a dictionary. -/
def hasAmountEntry : List (String × Json) → Bool
  | [] => false
  | (key, v) :: entries =>
      (if v.isContainer then hasAmountField v else decide (key ∈ ["amount", "value", "txValue"])) ||
        hasAmountEntry entries

end

/-- What `update_amount_fields` does with an entry of a dictionary. -/
def updateAmount (newVal : Json) (key : String) (v : Json) : Except PyErr Json :=
  if v.isContainer then updateAmountFields newVal v else updateScalar newVal key v

variable {newVal v updated : Json} {key : String} {entries updatedEntries : Obj}

theorem updateAmountEntries_cons_eq_ok :
    updateAmountEntries newVal ((key, v) :: entries) = .ok updatedEntries ↔
      ∃ updated rest, updateAmount newVal key v = .ok updated ∧
        updateAmountEntries newVal entries = .ok rest ∧
          updatedEntries = (key, updated) :: rest := by
  rw [updateAmountEntries]
  constructor
  · intro hentries
    obtain ⟨updated, hupdated, hentries⟩ := bind_eq_ok_iff.mp hentries
    obtain ⟨rest, hrest, hpure⟩ := bind_eq_ok_iff.mp hentries
    cases hpure
    exact ⟨updated, rest, hupdated, hrest, rfl⟩
  · intro hsteps
    obtain ⟨updated, rest, hupdated, hrest, rfl⟩ := hsteps
    exact bind_eq_ok_iff.mpr ⟨updated, hupdated, bind_eq_ok_iff.mpr ⟨rest, hrest, rfl⟩⟩

theorem updateAmountFields_dict_eq_ok :
    updateAmountFields newVal (.dict entries) = .ok updated ↔
      ∃ updatedEntries, updateAmountEntries newVal entries = .ok updatedEntries ∧
        updated = .dict updatedEntries := by
  rw [updateAmountFields]
  constructor
  · intro hfields
    obtain ⟨updatedEntries, hentries, hpure⟩ := bind_eq_ok_iff.mp hfields
    cases hpure
    exact ⟨updatedEntries, hentries, rfl⟩
  · intro hsteps
    obtain ⟨updatedEntries, hentries, rfl⟩ := hsteps
    exact bind_eq_ok_iff.mpr ⟨updatedEntries, hentries, rfl⟩

theorem updateScalar_isOk_iff :
    (∃ updated, updateScalar newVal key v = .ok updated) ↔
      (∃ x, newVal.toFloat = .ok x) ∨ key ∉ ["amount", "value", "txValue"] := by
  unfold updateScalar
  by_cases hamount : key ∈ ["amount", "value", "txValue"]
  · rw [if_pos hamount]
    constructor
    · intro hok
      obtain ⟨updated, hupdated⟩ := hok
      cases hfloat : newVal.toFloat with
      | ok x => exact .inl ⟨x, rfl⟩
      | error e =>
          rw [hfloat] at hupdated
          cases hupdated
    · intro hcondition
      obtain ⟨x, hx⟩ := hcondition.resolve_right (not_not.mpr hamount)
      rw [hx]
      exact ⟨_, rfl⟩
  · rw [if_neg hamount]
    constructor
    · intro _
      exact .inr hamount
    · intro _
      split <;> exact ⟨_, rfl⟩

mutual

/-- The conversion succeeds if the amount is a number or there is nothing to convert. -/
theorem updateAmountFields_isOk_iff (newVal : Json) : ∀ v : Json,
    (∃ updated, updateAmountFields newVal v = .ok updated) ↔
      (∃ x, newVal.toFloat = .ok x) ∨ hasAmountField v = false
  | .dict entries => by
      rw [hasAmountField, ← updateAmountEntries_isOk_iff newVal entries]
      simp only [updateAmountFields_dict_eq_ok]
      constructor
      · intro hok
        obtain ⟨updated, updatedEntries, hentries, -⟩ := hok
        exact ⟨updatedEntries, hentries⟩
      · intro hok
        obtain ⟨updatedEntries, hentries⟩ := hok
        exact ⟨_, updatedEntries, hentries, rfl⟩
  | .null | .bool _ | .int _ | .float _ | .str _ | .list _ => by
      simp [updateAmountFields, hasAmountField]

theorem updateAmountEntries_isOk_iff (newVal : Json) : ∀ entries : Obj,
    (∃ updated, updateAmountEntries newVal entries = .ok updated) ↔
      (∃ x, newVal.toFloat = .ok x) ∨ hasAmountEntry entries = false
  | [] => by simp [updateAmountEntries, hasAmountEntry]
  | (key, v) :: entries => by
      have hrest := updateAmountEntries_isOk_iff newVal entries
      have hvalue : (∃ updated, updateAmount newVal key v = .ok updated) ↔
          (∃ x, newVal.toFloat = .ok x) ∨
            (if v.isContainer then hasAmountField v
              else decide (key ∈ ["amount", "value", "txValue"])) = false := by
        unfold updateAmount
        split
        · exact updateAmountFields_isOk_iff newVal v
        · rw [updateScalar_isOk_iff, decide_eq_false_iff_not]
      rw [hasAmountEntry, Bool.or_eq_false_iff, or_and_left, ← hvalue, ← hrest]
      simp only [updateAmountEntries_cons_eq_ok]
      constructor
      · intro hok
        obtain ⟨_, updated, rest, hupdated, hentries, -⟩ := hok
        exact ⟨⟨updated, hupdated⟩, ⟨rest, hentries⟩⟩
      · intro hok
        obtain ⟨⟨updated, hupdated⟩, ⟨rest, hentries⟩⟩ := hok
        exact ⟨_, updated, rest, hupdated, hentries, rfl⟩

end

/-! ## What the conversion keeps -/

theorem get?_updateAmountEntries
    (hentries : updateAmountEntries newVal entries = .ok updatedEntries)
    (hget : Entries.get? key entries = some v) :
    ∃ updated, updateAmount newVal key v = .ok updated ∧
      Entries.get? key updatedEntries = some updated := by
  induction entries generalizing updatedEntries with
  | nil => cases hget
  | cons entry entries ih =>
      obtain ⟨first, value⟩ := entry
      obtain ⟨updated, rest, hupdated, hrest, rfl⟩ := updateAmountEntries_cons_eq_ok.mp hentries
      rw [Entries.get?_cons] at hget ⊢
      split at hget
      · rename_i hkey
        subst hkey
        cases hget
        exact ⟨updated, hupdated, if_pos rfl⟩
      · rename_i hkey
        rw [if_neg hkey]
        exact ih hrest hget

theorem keys_updateAmountEntries
    (hentries : updateAmountEntries newVal entries = .ok updatedEntries) :
    updatedEntries.map Prod.fst = entries.map Prod.fst := by
  induction entries generalizing updatedEntries with
  | nil =>
      cases hentries
      rfl
  | cons entry entries ih =>
      obtain ⟨updated, rest, -, hrest, rfl⟩ := updateAmountEntries_cons_eq_ok.mp hentries
      rw [List.map_cons, List.map_cons, ih hrest]

theorem get?_updateAmountEntries_eq_none
    (hentries : updateAmountEntries newVal entries = .ok updatedEntries)
    (hget : Entries.get? key entries = none) : Entries.get? key updatedEntries = none := by
  rw [Entries.get?_eq_none_iff] at hget ⊢
  rw [keys_updateAmountEntries hentries]
  exact hget

/-- The keys under which a scalar is replaced. -/
def amountKeys : List String := ["amount", "value", "txValue", "amountOut", "amountIn"]

/-- Under any other key a value is kept, up to what is inside a dictionary. -/
theorem updateAmount_of_notMem (hkey : key ∉ amountKeys)
    (hupdate : updateAmount newVal key v = .ok updated) :
    updated = v ∨ ∃ entries updatedEntries : Obj, v = .dict entries ∧
      updated = .dict updatedEntries ∧ updatedEntries.isEmpty = entries.isEmpty := by
  unfold updateAmount at hupdate
  split at hupdate
  · cases v with
    | dict entries =>
        obtain ⟨updatedEntries, hentries, rfl⟩ := updateAmountFields_dict_eq_ok.mp hupdate
        refine .inr ⟨entries, updatedEntries, rfl, rfl, ?_⟩
        simpa using congrArg List.isEmpty (keys_updateAmountEntries hentries)
    | _ =>
        cases hupdate
        exact .inl rfl
  · unfold updateScalar at hupdate
    rw [if_neg (fun hmem => hkey (by simp_all [amountKeys])),
      if_neg (fun hmem => hkey (by simp_all [amountKeys]))] at hupdate
    cases hupdate
    exact .inl rfl

/-! ## The later fields -/

variable {swap newAmount newAmountUsd newCurrency : Json} {f : Json → Except PyErr Json}

theorem setPresent_dict_eq_ok :
    setPresent (.dict entries) key f = .ok updated ↔
      (Entries.get? key entries = none ∧ updated = .dict entries) ∨
        ∃ old new, Entries.get? key entries = some old ∧ f old = .ok new ∧
          updated = .dict (Entries.set key new entries) := by
  cases hget : Entries.get? key entries with
  | none =>
      have hnone : setPresent (.dict entries) key f = .ok (.dict entries) := by
        unfold setPresent
        rw [show (Json.dict entries).get key = .ok none from congrArg Except.ok hget]
        rfl
      rw [hnone]
      simp [eq_comm]
  | some old =>
      have hsome : setPresent (.dict entries) key f =
          (f old >>= fun new => .ok (.dict (Entries.set key new entries))) := by
        unfold setPresent
        rw [show (Json.dict entries).get key = .ok (some old) from congrArg Except.ok hget]
        rfl
      rw [hsome, bind_eq_ok_iff]
      constructor
      · intro hok
        obtain ⟨new, hnew, heq⟩ := hok
        cases heq
        exact .inr ⟨old, new, rfl, hnew, rfl⟩
      · intro hok
        obtain ⟨hfalse, -⟩ | ⟨old', new, hold, hnew, rfl⟩ := hok
        · cases hfalse
        · cases hold
          exact ⟨new, hnew, rfl⟩

theorem exists_setPresent_iff :
    (∃ updated, setPresent (.dict entries) key f = .ok updated) ↔
      ∀ old, Entries.get? key entries = some old → ∃ new, f old = .ok new := by
  simp only [setPresent_dict_eq_ok]
  constructor
  · intro hok old hold
    obtain ⟨updated, ⟨hnone, -⟩ | ⟨old', new, hold', hnew, -⟩⟩ := hok
    · rw [hnone] at hold
      cases hold
    · rw [hold'] at hold
      cases hold
      exact ⟨new, hnew⟩
  · intro hok
    cases hget : Entries.get? key entries with
    | none => exact ⟨_, .inl ⟨rfl, rfl⟩⟩
    | some old =>
        obtain ⟨new, hnew⟩ := hok old hget
        exact ⟨_, .inr ⟨old, new, rfl, hnew, rfl⟩⟩

/-- It keeps the values of all other keys. -/
theorem get?_of_setPresent (hset : setPresent (.dict entries) key f = .ok updated) :
    ∃ updatedEntries, updated = .dict updatedEntries ∧
      ∀ other, key ≠ other → Entries.get? other updatedEntries = Entries.get? other entries := by
  rcases setPresent_dict_eq_ok.mp hset with ⟨-, rfl⟩ | ⟨old, new, -, -, rfl⟩
  · exact ⟨entries, rfl, fun _ _ => rfl⟩
  · exact ⟨_, rfl, fun other hne => Entries.get?_set_of_ne hne new entries⟩

/-- `modified_swap['transactions']` can be gone through and assigned to. -/
def assignable : Json → Bool
  | .list items => items.all Json.isDict
  | .dict entries => entries.isEmpty
  | .str s => decide (s = "")
  | _ => false

theorem exists_setTransaction_iff (newAmount tx : Json) :
    (∃ updated, setTransaction newAmount tx = .ok updated) ↔ tx.isDict = true := by
  cases tx with
  | dict entries => exact ⟨fun _ => rfl, fun _ => ⟨_, rfl⟩⟩
  | _ => simp [setTransaction, setItem, bind, Except.bind, Json.isDict]

theorem exists_updateTransactions_iff (newAmount transactions : Json) :
    (∃ updated, updateTransactions newAmount transactions = .ok updated) ↔
      assignable transactions = true := by
  cases transactions with
  | list items =>
      have hall : (∃ updated, items.mapM (setTransaction newAmount) = .ok updated) ↔
          assignable (.list items) = true := by
        rw [exists_mapM_eq_ok_iff]
        simp only [exists_setTransaction_iff, assignable, List.all_eq_true]
      rw [← hall]
      exact exists_map_eq_ok_iff
  | dict entries =>
      unfold updateTransactions assignable
      by_cases hempty : entries = [] <;> simp [hempty]
  | str s =>
      unfold updateTransactions assignable
      by_cases hempty : s = "" <;> simp [hempty]
  | _ => simp [updateTransactions, assignable]

/-- The later fields can be set if the transactions can be assigned to. -/
theorem exists_setSwapFields_iff {transaction : Obj}
    (htransaction : Entries.get? "transaction" entries = some (.dict transaction)) :
    (∃ node, setSwapFields (.dict entries) newAmount newAmountUsd newCurrency = .ok node) ↔
      ∀ transactions, Entries.get? "transactions" entries = some transactions →
        assignable transactions = true := by
  have hamount : ∃ updated, setPresent (.dict entries) "amount_usd" (fun _ => .ok newAmountUsd) =
      .ok updated := exists_setPresent_iff.mpr fun _ _ => ⟨newAmountUsd, rfl⟩
  obtain ⟨_, hamount⟩ := hamount
  obtain ⟨entries₁, rfl, hkeep₁⟩ := get?_of_setPresent hamount
  obtain ⟨entries₂, hentries₂⟩ : ∃ entries₂, entries₂ =
      Entries.set "currency" (.dict (swapCurrency newCurrency)) entries₁ := ⟨_, rfl⟩
  have hkeep₂ : ∀ key, "currency" ≠ key →
      Entries.get? key entries₂ = Entries.get? key entries₁ := by
    intro key hne
    rw [hentries₂]
    exact Entries.get?_set_of_ne hne _ _
  have hvalue : ∃ updated, setPresent (.dict entries₂) "transaction"
      (fun transaction => setItem transaction "value" newAmount) = .ok updated := by
    refine exists_setPresent_iff.mpr fun old hold => ?_
    rw [hkeep₂ _ (by decide), hkeep₁ _ (by decide), htransaction] at hold
    cases hold
    exact ⟨_, rfl⟩
  obtain ⟨_, hvalue⟩ := hvalue
  obtain ⟨entries₃, rfl, hkeep₃⟩ := get?_of_setPresent hvalue
  have hfields : setSwapFields (.dict entries) newAmount newAmountUsd newCurrency =
      setPresent (.dict entries₃) "transactions" (updateTransactions newAmount) := by
    unfold setSwapFields
    rw [hamount]
    show (setPresent (.dict (Entries.set "currency" _ entries₁)) _ _ >>= _) = _
    rw [← hentries₂, hvalue]
    rfl
  rw [hfields, exists_setPresent_iff]
  simp only [exists_updateTransactions_iff]
  rw [hkeep₃ _ (by decide), hkeep₂ _ (by decide), hkeep₁ _ (by decide)]

theorem get?_of_setSwapFields
    (hset : setSwapFields (.dict entries) newAmount newAmountUsd newCurrency = .ok updated) :
    ∃ node, updated = .dict node ∧
      ∀ key, key ∉ ["amount_usd", "currency", "transaction", "transactions"] →
        Entries.get? key node = Entries.get? key entries := by
  obtain ⟨_, hfirst, hset⟩ := bind_eq_ok_iff.mp hset
  obtain ⟨entries₁, rfl, hkeep₁⟩ := get?_of_setPresent hfirst
  obtain ⟨_, hsecond, hset⟩ := bind_eq_ok_iff.mp hset
  cases hsecond
  obtain ⟨_, hthird, hfourth⟩ := bind_eq_ok_iff.mp hset
  obtain ⟨entries₃, rfl, hkeep₃⟩ := get?_of_setPresent hthird
  obtain ⟨entries₄, rfl, hkeep₄⟩ := get?_of_setPresent hfourth
  refine ⟨entries₄, rfl, ?_⟩
  intro key hkey
  simp only [List.mem_cons, List.not_mem_nil, or_false, not_or] at hkey
  obtain ⟨hamount, hcurrency, htransaction, htransactions⟩ := hkey
  rw [hkeep₄ key (Ne.symm htransactions), hkeep₃ key (Ne.symm htransaction),
    Entries.get?_set_of_ne (Ne.symm hcurrency), hkeep₁ key (Ne.symm hamount)]

/-! ## The whole of `modify_swap_data` -/

variable {sender receiver transaction : Obj}

/-- The entries of the copy with its ends exchanged. -/
def reversedEntries (entries sender receiver : Obj) (newAmount : Json) : Obj :=
  Entries.set "receiver" (.dict (swapEndEntries sender newAmount))
    (Entries.set "sender" (.dict (swapEndEntries receiver newAmount)) entries)

theorem reverseEnds_dict (hsender : Entries.get? "sender" entries = some (.dict sender))
    (hreceiver : Entries.get? "receiver" entries = some (.dict receiver)) (newAmount : Json) :
    reverseEnds (.dict entries) newAmount =
      .ok (.dict (reversedEntries entries sender receiver newAmount)) := by
  unfold reverseEnds
  simp only [Json.get, hsender, hreceiver]
  rfl

theorem get?_reversedEntries {key : String} (hsender : "sender" ≠ key)
    (hreceiver : "receiver" ≠ key)
    (newAmount : Json) : Entries.get? key (reversedEntries entries sender receiver newAmount) =
      Entries.get? key entries := by
  unfold reversedEntries
  rw [Entries.get?_set_of_ne hreceiver, Entries.get?_set_of_ne hsender]

theorem assignable_of_updateAmount
    (hupdate : updateAmount newVal "transactions" v = .ok updated) :
    assignable updated = assignable v := by
  rcases updateAmount_of_notMem (by decide) hupdate with rfl | ⟨old, new, rfl, rfl, hempty⟩
  · rfl
  · exact hempty

theorem modifySwapBody_eq_ok_iff
    (hsender : Entries.get? "sender" entries = some (.dict sender))
    (hreceiver : Entries.get? "receiver" entries = some (.dict receiver)) :
    modifySwapBody (.dict entries) newAmount newAmountUsd newCurrency = .ok updated ↔
      ∃ converted, updateAmountEntries newAmount
          (reversedEntries entries sender receiver newAmount) = .ok converted ∧
        setSwapFields (.dict converted) newAmount newAmountUsd newCurrency = .ok updated := by
  unfold modifySwapBody
  rw [reverseEnds_dict hsender hreceiver]
  constructor
  · intro hbody
    obtain ⟨_, hreversed, hbody⟩ := bind_eq_ok_iff.mp hbody
    cases hreversed
    obtain ⟨_, hconverted, hfields⟩ := bind_eq_ok_iff.mp hbody
    obtain ⟨converted, hentries, rfl⟩ := updateAmountFields_dict_eq_ok.mp hconverted
    exact ⟨converted, hentries, hfields⟩
  · intro hsteps
    obtain ⟨converted, hentries, hfields⟩ := hsteps
    exact bind_eq_ok_iff.mpr ⟨_, rfl, bind_eq_ok_iff.mpr
      ⟨_, updateAmountFields_dict_eq_ok.mpr ⟨converted, hentries, rfl⟩, hfields⟩⟩

/-- `modify_swap_data` succeeds if the amount is a number or there is nothing to convert, and the
transactions can be assigned to. -/
theorem exists_modifySwapBody_iff
    (hsender : Entries.get? "sender" entries = some (.dict sender))
    (hreceiver : Entries.get? "receiver" entries = some (.dict receiver))
    (htransaction : Entries.get? "transaction" entries = some (.dict transaction))
    (newAmount newAmountUsd newCurrency : Json) :
    (∃ node, modifySwapBody (.dict entries) newAmount newAmountUsd newCurrency = .ok node) ↔
      ((∃ x, newAmount.toFloat = .ok x) ∨
        hasAmountEntry (reversedEntries entries sender receiver newAmount) = false) ∧
      ∀ transactions, Entries.get? "transactions" entries = some transactions →
        assignable transactions = true := by
  -- the conversion keeps a transaction a dictionary and transactions what they are
  have hfields : ∀ converted, updateAmountEntries newAmount
      (reversedEntries entries sender receiver newAmount) = .ok converted →
        ((∃ node, setSwapFields (.dict converted) newAmount newAmountUsd newCurrency = .ok node) ↔
          ∀ transactions, Entries.get? "transactions" entries = some transactions →
            assignable transactions = true) := by
    intro converted hconverted
    rw [← get?_reversedEntries (by decide) (by decide) newAmount] at htransaction ⊢
    obtain ⟨_, hvalue, hget⟩ := get?_updateAmountEntries hconverted htransaction
    obtain ⟨transaction', -, rfl⟩ := updateAmountFields_dict_eq_ok.mp hvalue
    rw [exists_setSwapFields_iff hget]
    cases hold : Entries.get? "transactions"
        (reversedEntries entries sender receiver newAmount) with
    | none => rw [get?_updateAmountEntries_eq_none hconverted hold]
    | some old =>
        obtain ⟨new, hnew, hgetNew⟩ := get?_updateAmountEntries hconverted hold
        rw [hgetNew]
        simp only [Option.some.injEq, forall_eq', assignable_of_updateAmount hnew]
  rw [← updateAmountEntries_isOk_iff]
  simp only [modifySwapBody_eq_ok_iff hsender hreceiver]
  constructor
  · intro hok
    obtain ⟨node, converted, hconverted, hnode⟩ := hok
    exact ⟨⟨converted, hconverted⟩, (hfields converted hconverted).mp ⟨node, hnode⟩⟩
  · intro hok
    obtain ⟨⟨converted, hconverted⟩, htransactions⟩ := hok
    obtain ⟨node, hnode⟩ := (hfields converted hconverted).mpr htransactions
    exact ⟨node, converted, hconverted, hnode⟩

theorem get?_of_modifySwapBody
    (hsender : Entries.get? "sender" entries = some (.dict sender))
    (hreceiver : Entries.get? "receiver" entries = some (.dict receiver))
    (hmodify : modifySwapBody (.dict entries) newAmount newAmountUsd newCurrency = .ok updated) :
    ∃ node, updated = .dict node ∧
      ∀ key v, key ∉ ["amount_usd", "currency", "transaction", "transactions"] →
        Entries.get? key (reversedEntries entries sender receiver newAmount) = some v →
          ∃ value, updateAmount newAmount key v = .ok value ∧
            Entries.get? key node = some value := by
  obtain ⟨converted, hconverted, hfields⟩ := (modifySwapBody_eq_ok_iff hsender hreceiver).mp hmodify
  obtain ⟨node, rfl, hkeep⟩ := get?_of_setSwapFields hfields
  refine ⟨node, rfl, ?_⟩
  intro key v hkey hget
  obtain ⟨value, hvalue, hgetValue⟩ := get?_updateAmountEntries hconverted hget
  exact ⟨value, hvalue, (hkeep key hkey).trans hgetValue⟩

/-! ## The row of the modified swap -/

/-- The value is what `safe_get` returns, and it is not empty. -/
def present (v : Json) : Bool :=
  v.truthy && !v.isMissing

/-- `float(safe_get(…, default=0))` does not raise on the value. -/
def ReadsAmount (v : Json) : Prop :=
  v.isMissing = true ∨ ∃ x, v.toFloat = .ok x

theorem safeGet_two {outer inner : Obj} {key₁ key₂ : String} {v : Json}
    (houter : Entries.get? key₁ outer = some (.dict inner))
    (hinner : Entries.get? key₂ inner = some v) (default : Json) :
    safeGet (.dict outer) [key₁, key₂] default = if v.isMissing then default else v := by
  have hinside : (Json.dict inner).isMissing = false := rfl
  have hfound : safeGet? (.dict outer) [key₁, key₂] = if v.isMissing then none else some v := by
    simp [safeGet?, houter, hinside, hinner]
  unfold safeGet
  rw [hfound]
  cases v.isMissing <;> rfl

theorem reads_two_iff {outer inner : Obj} {key₁ key₂ : String} {v : Json}
    (houter : Entries.get? key₁ outer = some (.dict inner))
    (hinner : Entries.get? key₂ inner = some v) :
    Reads (.dict outer) [key₁, key₂] ↔ ReadsAmount v := by
  unfold Reads ReadsAmount
  rw [safeGet_two houter hinner]
  cases v.isMissing with
  | true => simp [Json.toFloat_zero]
  | false => simp

theorem present_of_updateAmount (hkey : key ∉ amountKeys)
    (hupdate : updateAmount newVal key v = .ok updated) : present updated = present v := by
  rcases updateAmount_of_notMem hkey hupdate with rfl | ⟨old, new, rfl, rfl, hempty⟩
  · rfl
  · simp only [present, Json.truthy, Json.isMissing, hempty]

theorem readsAmount_of_updateAmount (hkey : key ∉ amountKeys)
    (hupdate : updateAmount newVal key v = .ok updated) : ReadsAmount updated ↔ ReadsAmount v := by
  rcases updateAmount_of_notMem hkey hupdate with rfl | ⟨old, new, rfl, rfl, hempty⟩
  · rfl
  · simp [ReadsAmount, Json.isMissing, Json.toFloat]

theorem isContainer_pyStr (v : Json) : (pyStr v).isContainer = false := by
  cases v <;> rfl

theorem updateAmount_pyStr (hkey : key ∈ ["amountOut", "amountIn"])
    (hupdate : updateAmount newVal key (pyStr newVal) = .ok updated) : updated = pyStr newVal := by
  unfold updateAmount updateScalar at hupdate
  rw [isContainer_pyStr] at hupdate
  simp only [List.mem_cons, List.not_mem_nil, or_false] at hkey
  rcases hkey with rfl | rfl
  · cases hupdate
    rfl
  · cases hupdate
    rfl

/-- A new end of the swap after the conversion of its amounts. -/
theorem get?_of_updateAmount_swapEnd {original : Obj} {newAmount : Json}
    (hupdate : updateAmount newAmount key (.dict (swapEndEntries original newAmount)) =
      .ok updated) :
    ∃ ends, updated = .dict ends ∧ ∀ field v,
      Entries.get? field (swapEndEntries original newAmount) = some v →
        ∃ value, updateAmount newAmount field v = .ok value ∧
          Entries.get? field ends = some value := by
  obtain ⟨ends, hends, rfl⟩ := updateAmountFields_dict_eq_ok.mp hupdate
  exact ⟨ends, rfl, fun field v hget => get?_updateAmountEntries hends hget⟩

theorem truthy_of_present (v : Json) :
    (if v.isMissing then Json.str "" else v).truthy = present v := by
  unfold present
  cases v.isMissing with
  | true => simp [Json.truthy]
  | false => simp

/-! ## The row of a swap -/

variable {chain : Chain} {depth : Json}

/-- The sides of a swap that `process_swap` has read: both ends and the transaction are
dictionaries, and the depth is a number. -/
structure SwapParts (entries sender receiver transaction : Obj) (depth : Json) : Prop where
  hasSender : Entries.get? "sender" entries = some (.dict sender)
  hasReceiver : Entries.get? "receiver" entries = some (.dict receiver)
  hasTransaction : Entries.get? "transaction" entries = some (.dict transaction)
  hasDepth : Entries.get? "depth" entries = some depth
  isNumber : ∃ z, lessOne depth = .ok z

/-- The reversed row of a swap has both ends: `modify_swap_data` succeeds, and if `flatten_node`
makes a row of what it returns, then both addresses are there. -/
structure ReversesWell (entries sender receiver : Obj) (depth newAmount : Json) : Prop where
  converts : (∃ x, newAmount.toFloat = .ok x) ∨
    hasAmountEntry (reversedEntries entries sender receiver newAmount) = false
  assigns : ∀ transactions, Entries.get? "transactions" entries = some transactions →
    assignable transactions = true
  ends : (∃ z, depth.toInt = .ok z) → ReadsAmount (pyStr newAmount) →
    ReadsAmount ((Entries.get? "balance" sender).getD (.str "0.0")) →
      present ((Entries.get? "address" sender).getD (.str "")) = true ∧
        present ((Entries.get? "address" receiver).getD (.str "")) = true

/-- Nothing is known of `None`: its row has no ends. -/
theorem flattenNode_null (hchain : chain.tracesSwaps = true) (tokenAddress : Json) :
    ∃ flattened, flattenNode chain 0 .null tokenAddress = some flattened ∧
      flattened.row.hasEnds = false := by
  rcases cases_of_tracesSwaps hchain with rfl | rfl | rfl | rfl | rfl | rfl <;>
    exact ⟨_, rfl, rfl⟩

/-- The depth is a number, and numbers under that key are kept. -/
theorem eq_of_updateAmount_depth (hnumber : ∃ z, lessOne depth = .ok z)
    (hupdate : updateAmount newVal "depth" depth = .ok updated) :
    depth.isMissing = false ∧ updated = depth := by
  obtain ⟨z, hz⟩ := hnumber
  constructor
  · cases depth with
    | null => cases hz
    | str s => cases hz
    | _ => rfl
  · rcases updateAmount_of_notMem (by decide) hupdate with heq | ⟨old, new, rfl, -, -⟩
    · exact heq
    · cases hz

/-- What `flatten_node` makes of a swap that was modified. -/
theorem flattenNode_modified (hchain : chain.tracesSwaps = true)
    (hparts : SwapParts entries sender receiver transaction depth)
    (hmodify : modifySwapBody (.dict entries) newAmount newAmountUsd newCurrency = .ok updated)
    (tokenAddress : Json) :
    ((∃ flattened, flattenNode chain 0 updated tokenAddress = some flattened) ↔
      (∃ z, depth.toInt = .ok z) ∧ ReadsAmount (pyStr newAmount) ∧
        ReadsAmount ((Entries.get? "balance" sender).getD (.str "0.0"))) ∧
    ∀ flattened, flattenNode chain 0 updated tokenAddress = some flattened →
      flattened.row.hasEnds =
        (present ((Entries.get? "address" receiver).getD (.str "")) &&
          present ((Entries.get? "address" sender).getD (.str ""))) := by
  obtain ⟨node, rfl, hnode⟩ := get?_of_modifySwapBody hparts.hasSender hparts.hasReceiver hmodify
  -- the two new ends, and what the conversion of the amounts leaves of them
  obtain ⟨_, hupdateSender, hsender⟩ := hnode "sender" (.dict (swapEndEntries receiver newAmount))
    (by decide) (by
      unfold reversedEntries
      rw [Entries.get?_set_of_ne (by decide), Entries.get?_set_self])
  obtain ⟨newSender, rfl, hsenderFields⟩ := get?_of_updateAmount_swapEnd hupdateSender
  obtain ⟨_, hupdateReceiver, hreceiver⟩ := hnode "receiver"
    (.dict (swapEndEntries sender newAmount)) (by decide) (Entries.get?_set_self _ _ _)
  obtain ⟨newReceiver, rfl, hreceiverFields⟩ := get?_of_updateAmount_swapEnd hupdateReceiver
  obtain ⟨senderAddress, hsenderUpdate, hsenderAddress⟩ := hsenderFields "address" _ rfl
  obtain ⟨receiverAddress, hreceiverUpdate, hreceiverAddress⟩ := hreceiverFields "address" _ rfl
  obtain ⟨balance, hbalanceUpdate, hbalance⟩ := hreceiverFields "balance" _ rfl
  obtain ⟨amountOut, houtUpdate, hout⟩ := hreceiverFields "amountOut" _ rfl
  obtain ⟨amountIn, hinUpdate, hin⟩ := hreceiverFields "amountIn" _ rfl
  obtain rfl := updateAmount_pyStr (by decide) houtUpdate
  obtain rfl := updateAmount_pyStr (by decide) hinUpdate
  obtain ⟨newDepth, hdepthUpdate, hdepth⟩ := hnode "depth" depth (by decide) (by
    rw [get?_reversedEntries (by decide) (by decide)]
    exact hparts.hasDepth)
  obtain ⟨hmissing, rfl⟩ := eq_of_updateAmount_depth hparts.isNumber hdepthUpdate
  have hgetDepth : (Json.dict node).get "depth" = .ok (some newDepth) := congrArg Except.ok hdepth
  rw [exists_flattenNode_iff hchain, safeGet_of_get hgetDepth hmissing,
    reads_two_iff hreceiver hout, reads_two_iff hreceiver hin, reads_two_iff hreceiver hbalance,
    readsAmount_of_updateAmount (by decide) hbalanceUpdate]
  refine ⟨by tauto, ?_⟩
  intro flattened hflatten
  obtain ⟨hflatSender, hflatReceiver⟩ := ends_of_flattenNode hchain hflatten
  unfold FlatRow.hasEnds
  rw [hflatSender, hflatReceiver, safeGet_two hsender hsenderAddress,
    safeGet_two hreceiver hreceiverAddress, truthy_of_present, truthy_of_present,
    present_of_updateAmount (by decide) hsenderUpdate,
    present_of_updateAmount (by decide) hreceiverUpdate]

/-- **The row of a swap itself.**  Every row that `process_swap` makes of the swap has both ends
exactly when the swap reverses well. -/
theorem swapRow_hasEnds_iff (hchain : chain.tracesSwaps = true)
    (hparts : SwapParts entries sender receiver transaction depth) (trade : DexTrade) :
    (∀ element ∈ swapRow chain (.dict entries) trade, element.hasEnds = true) ↔
      ReversesWell entries sender receiver depth trade.newAmount := by
  have hmodified := exists_modifySwapBody_iff hparts.hasSender hparts.hasReceiver
    hparts.hasTransaction trade.newAmount trade.newAmountUsd trade.newCurrency
  unfold swapRow modifySwapData
  cases hmodify : modifySwapBody (.dict entries) trade.newAmount trade.newAmountUsd
      trade.newCurrency with
  | error e =>
      -- `modify_swap_data` returns `None`, and `flatten_node` makes a row without ends of it
      obtain ⟨flattened, hflatten, hends⟩ := flattenNode_null hchain trade.finalCurrencyAddress
      simp only [hflatten]
      constructor
      · intro hall
        have hrow := hall _ (List.mem_singleton.mpr rfl)
        rw [Element.hasEnds, hends] at hrow
        cases hrow
      · intro hwell
        obtain ⟨node, hnode⟩ := hmodified.mpr ⟨hwell.converts, hwell.assigns⟩
        rw [hmodify] at hnode
        cases hnode
  | ok node =>
      obtain ⟨hconverts, hassigns⟩ := hmodified.mp ⟨node, hmodify⟩
      obtain ⟨hexists, hends⟩ := flattenNode_modified hchain hparts hmodify
        trade.finalCurrencyAddress
      dsimp only
      constructor
      · intro hall
        refine ⟨hconverts, hassigns, ?_⟩
        intro hdepth hamount hbalance
        obtain ⟨flattened, hflatten⟩ := hexists.mpr ⟨hdepth, hamount, hbalance⟩
        simp only [hflatten] at hall
        have hrow := hall _ (List.mem_singleton.mpr rfl)
        rw [Element.hasEnds, hends flattened hflatten, Bool.and_eq_true] at hrow
        exact ⟨hrow.2, hrow.1⟩
      · intro hwell element helement
        cases hflatten : flattenNode chain 0 node trade.finalCurrencyAddress with
        | none =>
            rw [hflatten] at helement
            cases helement
        | some flattened =>
            rw [hflatten] at helement
            obtain rfl := List.mem_singleton.mp helement
            obtain ⟨hdepth, hamount, hbalance⟩ := hexists.mp ⟨flattened, hflatten⟩
            obtain ⟨hsender, hreceiver⟩ := hwell.ends hdepth hamount hbalance
            rw [Element.hasEnds, hends flattened hflatten, hsender, hreceiver]
            rfl

end CatvService.GraphQL
