import CatvService.Library.Grouping
import CatvService.Library.Runs
import CatvService.Library.Text
import Mathlib.Data.List.Nodup

/-!
# The labels of wallets

`CATVNodeLabelView` of `api/views.py`, with `CATVNodeLabelPostSerializer` and the table of
`CatvNodeLabelModel`.

A post looks for the label of a report, a wallet and a user and writes that one.  A deletion looks
for the labels of a report and a wallet, takes the oldest and refuses if it is another user's.  So a
user can delete a label only as long as no other user labelled the same wallet before
(`lawful_iff_ownFirst`).
-/

namespace CatvService.Labels

open Grouping PyText Runs

/-! ## The table -/

/-- A row of `CatvNodeLabelModel`. -/
structure CatvNodeLabelModel where
  id : ℕ
  uid : String
  walletAddress : String
  userId : ℤ
  label : String
  deriving DecidableEq, Repr

/-- What a label is the label of. -/
structure LabelKey where
  uid : String
  walletAddress : String
  userId : ℤ
  deriving DecidableEq, Repr

def CatvNodeLabelModel.key (row : CatvNodeLabelModel) : LabelKey :=
  ⟨row.uid, row.walletAddress, row.userId⟩

/-- The table, in the order of its primary keys. -/
structure LabelTable where
  rows : List CatvNodeLabelModel
  nextId : ℕ
  sorted : (rows.map CatvNodeLabelModel.id).Pairwise (· < ·)
  fresh : ∀ row ∈ rows, row.id < nextId

namespace LabelTable

def empty : LabelTable :=
  ⟨[], 1, List.Pairwise.nil, by simp⟩

/-- `filter(…).first()`: the selected row with the lowest primary key. -/
def first (table : LabelTable) (selected : CatvNodeLabelModel → Bool) :
    Option CatvNodeLabelModel :=
  table.rows.find? selected

/-- `INSERT`. -/
def insert (table : LabelTable) (key : LabelKey) (label : String) : LabelTable where
  rows := table.rows ++ [⟨table.nextId, key.uid, key.walletAddress, key.userId, label⟩]
  nextId := table.nextId + 1
  sorted := by
    rw [List.map_append, List.pairwise_append]
    refine ⟨table.sorted, List.pairwise_singleton _ _, fun id hid last hlast => ?_⟩
    obtain ⟨row, hrow, rfl⟩ := List.mem_map.mp hid
    obtain rfl := List.mem_singleton.mp hlast
    exact table.fresh row hrow
  fresh := by
    intro row hrow
    rcases List.mem_append.mp hrow with hold | hnew
    · exact (table.fresh row hold).trans (Nat.lt_succ_self _)
    · obtain rfl := List.mem_singleton.mp hnew
      exact Nat.lt_succ_self _

/-- `UPDATE … SET label WHERE id`. -/
def setLabel (table : LabelTable) (id : ℕ) (label : String) : LabelTable where
  rows := table.rows.map fun row => if row.id = id then { row with label := label } else row
  nextId := table.nextId
  sorted := by
    have hids : (table.rows.map fun row =>
        if row.id = id then { row with label := label } else row).map CatvNodeLabelModel.id =
          table.rows.map CatvNodeLabelModel.id := by
      rw [List.map_map]
      refine List.map_congr_left fun row _ => ?_
      rw [Function.comp_apply]
      split <;> rfl
    rw [hids]
    exact table.sorted
  fresh := by
    intro row hrow
    obtain ⟨old, hold, rfl⟩ := List.mem_map.mp hrow
    have hlt := table.fresh old hold
    split <;> exact hlt

/-- `DELETE … WHERE id`. -/
def remove (table : LabelTable) (id : ℕ) : LabelTable where
  rows := table.rows.filter fun row => decide (row.id ≠ id)
  nextId := table.nextId
  sorted := table.sorted.sublist (List.filter_sublist.map _)
  fresh := fun row hrow => table.fresh row (List.mem_of_mem_filter hrow)

end LabelTable

/-! ## The view -/

/-- `serializers.CharField(required=True)`: the text without the blanks around it; a missing or a
blank text and one with a null character are refused. -/
def charField (data : Option String) : Option String := do
  let value := trim (← data)
  if value = "" ∨ '\x00' ∈ value.toList then none else some value

/-- `validated_data`, with the user of the request. -/
structure ValidatedData where
  key : LabelKey
  label : String
  deriving DecidableEq, Repr

/-- `serializer.is_valid()`. -/
def validate (userId : ℤ) (uid walletAddress label : Option String) : Option ValidatedData := do
  return ⟨⟨← charField uid, ← charField walletAddress, userId⟩, ← charField label⟩

/-- The columns are `varchar(100)`. -/
def ValidatedData.Fits (data : ValidatedData) : Prop :=
  data.key.uid.length ≤ 100 ∧ data.key.walletAddress.length ≤ 100 ∧ data.label.length ≤ 100

instance (data : ValidatedData) : Decidable data.Fits :=
  inferInstanceAs (Decidable (_ ∧ _ ∧ _))

/-- `CATVNodeLabelPostSerializer.create`: the table and the label, `none` where the database refuses
a text that is too long for its column.  What is looked up is read from the `readonly` database,
which has caught up with the table here (`Labels.Interleaving` has the lag). -/
def create (table : LabelTable) (data : ValidatedData) :
    Option (LabelTable × CatvNodeLabelModel) :=
  match table.first fun row => decide (row.key = data.key) with
  | some existingLabel =>
      if data.label.length ≤ 100 then
        some (table.setLabel existingLabel.id data.label,
          { existingLabel with label := data.label })
      else none
  | none =>
      if data.Fits then
        some (table.insert data.key data.label,
          ⟨table.nextId, data.key.uid, data.key.walletAddress, data.key.userId, data.label⟩)
      else none

/-- What a request is answered. -/
inductive Response where
  | saved (row : CatvNodeLabelModel)
  | invalid
  | serverError
  | paramsRequired
  | notFound
  | forbidden
  | deleted
  deriving DecidableEq, Repr

/-- A request by a user; the texts are those of its body or its query. -/
inductive LabelRequest where
  | post (userId : ℤ) (uid walletAddress label : Option String)
  | delete (userId : ℤ) (uid walletAddress : Option String)
  deriving DecidableEq, Repr

/-- `CATVNodeLabelView.post`. -/
def post (table : LabelTable) (userId : ℤ) (uid walletAddress label : Option String) :
    LabelTable × Response :=
  match validate userId uid walletAddress label with
  | none => (table, .invalid)
  | some data =>
      match create table data with
      | none => (table, .serverError)
      | some (after, row) => (after, .saved row)

/-- `CATVNodeLabelView.delete`, which looks the label up in the `readonly` database as well. -/
def delete (table : LabelTable) (userId : ℤ) (uid walletAddress : Option String) :
    LabelTable × Response :=
  let uid := uid.getD ""
  let walletAddress := walletAddress.getD ""
  if uid = "" ∨ walletAddress = "" then (table, .paramsRequired)
  else
    match table.first fun row => decide (row.uid = uid ∧ row.walletAddress = walletAddress) with
    | none => (table, .notFound)
    | some label =>
        if label.userId ≠ userId then (table, .forbidden)
        else (table.remove label.id, .deleted)

/-- A request and its response. -/
def handle (table : LabelTable) : LabelRequest → LabelTable × Response
  | .post userId uid walletAddress label => post table userId uid walletAddress label
  | .delete userId uid walletAddress => delete table userId uid walletAddress

/-- Requests are handled one after another. -/
def step (table : LabelTable) (request : LabelRequest) : Option LabelTable :=
  some (handle table request).1

/-! ## The law of the store -/

/-- The rows under a key. -/
def LabelTable.labels (table : LabelTable) (key : LabelKey) : List CatvNodeLabelModel :=
  group CatvNodeLabelModel.key table.rows key

/-- What a request should do: a post leaves exactly one label for its report, wallet and user, which
is the posted one; a deletion removes the label of its user and nothing else, and succeeds if there
is one. -/
def Lawful (table : LabelTable) (request : LabelRequest) : Prop :=
  match request with
  | .post userId uid walletAddress label =>
      ∀ data, validate userId uid walletAddress label = some data → data.Fits →
        ∃ row, (handle table request).2 = .saved row ∧ row.label = data.label ∧
          (handle table request).1.labels data.key = [row]
  | .delete userId uid walletAddress =>
      let key := ⟨uid.getD "", walletAddress.getD "", userId⟩
      (handle table request).1.rows = table.rows.filter (fun row => decide (row.key ≠ key)) ∧
        ((∃ row ∈ table.rows, row.key = key) → (handle table request).2 = .deleted)

/-- If a deletion is by a user who labelled the wallet, nobody labelled it before. -/
def OwnFirst (table : LabelTable) (request : LabelRequest) : Prop :=
  match request with
  | .post _ _ _ _ => True
  | .delete userId uid walletAddress =>
      ∀ own ∈ table.rows, own.key = ⟨uid.getD "", walletAddress.getD "", userId⟩ →
        ∀ other ∈ table.rows, other.uid = own.uid → other.walletAddress = own.walletAddress →
          own.id ≤ other.id

/-! ## What holds of the table -/

/-- No report, wallet and user has two labels, and no text of a key is empty. -/
structure Sound (table : LabelTable) : Prop where
  keys : (table.rows.map CatvNodeLabelModel.key).Nodup
  named : ∀ row ∈ table.rows, row.uid ≠ "" ∧ row.walletAddress ≠ ""

variable {table after : LabelTable} {row own : CatvNodeLabelModel}

theorem sound_empty : Sound .empty :=
  ⟨List.nodup_nil, by simp [LabelTable.empty]⟩

theorem first_le {selected : CatvNodeLabelModel → Bool} (hfirst : table.first selected = some row)
    (hown : own ∈ table.rows) (hselected : selected own = true) : row.id ≤ own.id := by
  obtain ⟨-, before, behind, hrows, hbefore⟩ := List.find?_eq_some_iff_append.mp hfirst
  have hsorted := table.sorted
  rw [hrows, List.map_append, List.map_cons] at hsorted
  rw [hrows] at hown
  rcases List.mem_append.mp hown with hmem | hmem
  · have hnot := hbefore own hmem
    rw [hselected] at hnot
    cases hnot
  · rcases List.mem_cons.mp hmem with rfl | hmem
    · exact le_rfl
    · have hlater := (List.pairwise_append.mp hsorted).2.1
      exact ((List.pairwise_cons.mp hlater).1 own.id (List.mem_map_of_mem hmem)).le

theorem nodup_ids (table : LabelTable) : (table.rows.map CatvNodeLabelModel.id).Nodup :=
  table.sorted.imp fun hlt => hlt.ne

theorem map_key_setLabel (table : LabelTable) (id : ℕ) (label : String) :
    (table.setLabel id label).rows.map CatvNodeLabelModel.key =
      table.rows.map CatvNodeLabelModel.key := by
  simp only [LabelTable.setLabel, List.map_map]
  refine List.map_congr_left fun row _ => ?_
  rw [Function.comp_apply]
  split <;> rfl

theorem Sound.remove (hsound : Sound table) (id : ℕ) : Sound (table.remove id) where
  keys := hsound.keys.sublist (List.filter_sublist.map _)
  named := fun row hrow => hsound.named row (List.mem_of_mem_filter hrow)

/-! ## Posts -/

theorem validate_named {userId : ℤ} {uid walletAddress label : Option String}
    {data : ValidatedData} (hvalidate : validate userId uid walletAddress label = some data) :
    data.key.uid ≠ "" ∧ data.key.walletAddress ≠ "" := by
  have hcharField : ∀ {text value}, charField text = some value → value ≠ "" := by
    intro text value hvalue
    obtain ⟨raw, -, hvalue⟩ := Option.bind_eq_some_iff.mp hvalue
    dsimp only at hvalue
    split at hvalue
    · cases hvalue
    · rename_i hvalid
      obtain rfl := Option.some.inj hvalue
      exact fun hempty => hvalid (.inl hempty)
  obtain ⟨uid, huid, hvalidate⟩ := Option.bind_eq_some_iff.mp hvalidate
  obtain ⟨walletAddress, hwallet, hvalidate⟩ := Option.bind_eq_some_iff.mp hvalidate
  obtain ⟨label, -, hvalidate⟩ := Option.bind_eq_some_iff.mp hvalidate
  obtain rfl := Option.some.inj hvalidate
  exact ⟨hcharField huid, hcharField hwallet⟩

/-- A label that is created replaces the one that is there or is added at the end. -/
theorem create_cases {data : ValidatedData} (hcreate : create table data = some (after, row)) :
    row.key = data.key ∧ row.label = data.label ∧
      ((∃ existing ∈ table.rows, existing.key = data.key ∧
          row = { existing with label := data.label } ∧
          after = table.setLabel existing.id data.label) ∨
        (data.key ∉ table.rows.map CatvNodeLabelModel.key ∧
          after = table.insert data.key data.label ∧ after.rows = table.rows ++ [row])) := by
  unfold create at hcreate
  split at hcreate
  · rename_i existing hfirst
    have hkey : existing.key = data.key := by simpa using List.find?_some hfirst
    split at hcreate
    · obtain ⟨rfl, rfl⟩ := Prod.mk.inj (Option.some.inj hcreate)
      exact ⟨hkey, rfl, .inl ⟨existing, List.mem_of_find?_eq_some hfirst, hkey, rfl, rfl⟩⟩
    · cases hcreate
  · rename_i hfirst
    have hnone := List.find?_eq_none.mp hfirst
    split at hcreate
    · obtain ⟨rfl, rfl⟩ := Prod.mk.inj (Option.some.inj hcreate)
      refine ⟨rfl, rfl, .inr ⟨fun hmem => ?_, rfl, rfl⟩⟩
      obtain ⟨other, hother, heq⟩ := List.mem_map.mp hmem
      exact hnone other hother (by simpa using heq)
    · cases hcreate

/-- Whatever the database does not refuse is created. -/
theorem exists_create (table : LabelTable) {data : ValidatedData} (hfits : data.Fits) :
    ∃ after row, create table data = some (after, row) := by
  unfold create
  split
  · exact ⟨_, _, if_pos hfits.2.2⟩
  · exact ⟨_, _, if_pos hfits⟩

theorem mem_of_create {data : ValidatedData} (hcreate : create table data = some (after, row)) :
    row ∈ after.rows := by
  obtain ⟨-, -, ⟨existing, hmem, -, rfl, rfl⟩ | ⟨-, -, hrows⟩⟩ := create_cases hcreate
  · exact List.mem_map.mpr ⟨existing, hmem, if_pos rfl⟩
  · rw [hrows]
    exact List.mem_append_right _ List.mem_cons_self

theorem nodup_key_create {data : ValidatedData}
    (hkeys : (table.rows.map CatvNodeLabelModel.key).Nodup)
    (hcreate : create table data = some (after, row)) :
    (after.rows.map CatvNodeLabelModel.key).Nodup := by
  obtain ⟨hkey, -, ⟨existing, -, -, -, rfl⟩ | ⟨hnot, -, hrows⟩⟩ := create_cases hcreate
  · rw [map_key_setLabel]
    exact hkeys
  · rw [hrows, List.map_append, List.map_singleton, hkey, List.nodup_append]
    refine ⟨hkeys, List.pairwise_singleton _ _, fun key hmem other hother => ?_⟩
    rw [List.mem_singleton.mp hother]
    rintro rfl
    exact hnot hmem

theorem Sound.create {data : ValidatedData} (hsound : Sound table)
    (hnamed : data.key.uid ≠ "" ∧ data.key.walletAddress ≠ "")
    (hcreate : Labels.create table data = some (after, row)) : Sound after := by
  refine ⟨nodup_key_create hsound.keys hcreate, fun other hother => ?_⟩
  obtain ⟨hkey, -, ⟨existing, -, -, -, rfl⟩ | ⟨-, -, hrows⟩⟩ := create_cases hcreate
  · obtain ⟨old, hold, rfl⟩ := List.mem_map.mp hother
    have hnamed := hsound.named old hold
    split <;> exact hnamed
  · rw [hrows] at hother
    rcases List.mem_append.mp hother with hold | hnew
    · exact hsound.named other hold
    · obtain rfl := List.mem_singleton.mp hnew
      rw [← hkey] at hnamed
      exact hnamed

theorem lawful_post (hsound : Sound table) (userId : ℤ) (uid walletAddress label : Option String) :
    Lawful table (.post userId uid walletAddress label) := by
  intro data hvalidate hfits
  obtain ⟨after, row, hcreate⟩ := exists_create table hfits
  obtain ⟨hkey, hlabel, -⟩ := create_cases hcreate
  have hhandle : handle table (.post userId uid walletAddress label) = (after, .saved row) := by
    simp only [handle, post, hvalidate, hcreate]
  rw [hhandle]
  refine ⟨row, rfl, hlabel, ?_⟩
  rw [← hkey]
  exact group_eq_singleton (nodup_key_create hsound.keys hcreate) (mem_of_create hcreate)

/-! ## Deletions -/

theorem remove_rows (hsound : Sound table) (hrow : row ∈ table.rows) :
    (table.remove row.id).rows = table.rows.filter fun other => decide (other.key ≠ row.key) := by
  refine List.filter_congr fun other hother => ?_
  have hiff : other.id = row.id ↔ other.key = row.key := by
    constructor
    · intro hid
      rw [List.inj_on_of_nodup_map (nodup_ids table) hother hrow hid]
    · intro hkey
      rw [List.inj_on_of_nodup_map hsound.keys hother hrow hkey]
  simp [hiff]

/-- Without a label of its user a deletion has nothing to remove. -/
theorem filter_key_ne_eq_self {key : LabelKey} (hnone : ∀ row ∈ table.rows, row.key ≠ key) :
    table.rows.filter (fun row => decide (row.key ≠ key)) = table.rows :=
  List.filter_eq_self.mpr fun row hrow => by simpa using hnone row hrow

/-- What a deletion does: a missing text selects nothing, and so does a pair without labels; the
oldest label is removed if it is the user's. -/
theorem delete_cases (table : LabelTable) (userId : ℤ) (uid walletAddress : Option String) :
    (delete table userId uid walletAddress = (table, .paramsRequired) ∧
        (uid.getD "" = "" ∨ walletAddress.getD "" = "")) ∨
      (delete table userId uid walletAddress = (table, .notFound) ∧
        ∀ row ∈ table.rows, ¬ (row.uid = uid.getD "" ∧ row.walletAddress = walletAddress.getD "")) ∨
      ∃ label ∈ table.rows, label.uid = uid.getD "" ∧ label.walletAddress = walletAddress.getD "" ∧
        (∀ row ∈ table.rows, row.uid = uid.getD "" → row.walletAddress = walletAddress.getD "" →
          label.id ≤ row.id) ∧
        (label.userId ≠ userId ∧ delete table userId uid walletAddress = (table, .forbidden) ∨
          label.userId = userId ∧
            delete table userId uid walletAddress = (table.remove label.id, .deleted)) := by
  unfold delete
  dsimp only
  split
  · rename_i hmissing
    exact .inl ⟨rfl, hmissing⟩
  · split
    · rename_i hfirst
      refine .inr (.inl ⟨rfl, fun row hrow hpair => ?_⟩)
      exact List.find?_eq_none.mp hfirst row hrow (by simpa using hpair)
    · rename_i label hfirst
      obtain ⟨huid, hwallet⟩ : label.uid = uid.getD "" ∧
          label.walletAddress = walletAddress.getD "" := by
        simpa using List.find?_some hfirst
      refine .inr (.inr ⟨label, List.mem_of_find?_eq_some hfirst, huid, hwallet,
        fun row hrow hrowUid hrowWallet => ?_, ?_⟩)
      · exact first_le hfirst hrow (by simp [hrowUid, hrowWallet])
      · split
        · rename_i hother
          exact .inl ⟨hother, rfl⟩
        · rename_i hown
          exact .inr ⟨not_not.mp hown, rfl⟩

theorem lawful_delete_of_unlabelled {userId : ℤ} {uid walletAddress : Option String}
    (hsame : (handle table (.delete userId uid walletAddress)).1 = table)
    (hnone : ∀ row ∈ table.rows, row.key ≠ ⟨uid.getD "", walletAddress.getD "", userId⟩) :
    Lawful table (.delete userId uid walletAddress) ↔
      OwnFirst table (.delete userId uid walletAddress) := by
  refine iff_of_true ⟨?_, ?_⟩ fun own hown hkey => absurd hkey (hnone own hown)
  · rw [hsame, filter_key_ne_eq_self hnone]
  · rintro ⟨row, hrow, hkey⟩
    exact absurd hkey (hnone row hrow)

theorem not_ownFirst_of_oldest {userId : ℤ} {uid walletAddress : Option String}
    {label own : CatvNodeLabelModel} (hlabel : label ∈ table.rows) (huid : label.uid = uid.getD "")
    (hwallet : label.walletAddress = walletAddress.getD "") (hother : label.userId ≠ userId)
    (holdest : ∀ row ∈ table.rows, row.uid = uid.getD "" →
      row.walletAddress = walletAddress.getD "" → label.id ≤ row.id)
    (hown : own ∈ table.rows) (hkey : own.key = ⟨uid.getD "", walletAddress.getD "", userId⟩) :
    ¬ OwnFirst table (.delete userId uid walletAddress) := by
  intro hfirst
  have hownUid : own.uid = uid.getD "" := congrArg LabelKey.uid hkey
  have hownWallet : own.walletAddress = walletAddress.getD "" :=
    congrArg LabelKey.walletAddress hkey
  have hle := hfirst own hown hkey label hlabel (huid.trans hownUid.symm)
    (hwallet.trans hownWallet.symm)
  have hid : label.id = own.id := (holdest own hown hownUid hownWallet).antisymm hle
  have heq := List.inj_on_of_nodup_map (nodup_ids table) hlabel hown hid
  exact hother (heq ▸ congrArg LabelKey.userId hkey)

/-- A deletion is lawful exactly if nobody labelled the wallet before its user did. -/
theorem lawful_delete_iff (hsound : Sound table) (userId : ℤ) (uid walletAddress : Option String) :
    Lawful table (.delete userId uid walletAddress) ↔
      OwnFirst table (.delete userId uid walletAddress) := by
  rcases delete_cases table userId uid walletAddress with
    ⟨hdelete, hmissing⟩ | ⟨hdelete, hnothing⟩ | ⟨label, hlabel, huid, hwallet, holdest, hends⟩
  · refine lawful_delete_of_unlabelled (congrArg Prod.fst hdelete) fun row hrow hkey => ?_
    have hnamed := hsound.named row hrow
    rw [show row.uid = uid.getD "" from congrArg LabelKey.uid hkey,
      show row.walletAddress = walletAddress.getD "" from congrArg LabelKey.walletAddress hkey]
      at hnamed
    exact hmissing.elim hnamed.1 hnamed.2
  · refine lawful_delete_of_unlabelled (congrArg Prod.fst hdelete) fun row hrow hkey =>
      hnothing row hrow ?_
    exact ⟨congrArg LabelKey.uid hkey, congrArg LabelKey.walletAddress hkey⟩
  · rcases hends with ⟨hother, hdelete⟩ | ⟨hown, hdelete⟩
    · -- another user's label is the oldest
      by_cases hlabelled :
          ∀ row ∈ table.rows, row.key ≠ ⟨uid.getD "", walletAddress.getD "", userId⟩
      · exact lawful_delete_of_unlabelled (congrArg Prod.fst hdelete) hlabelled
      · push Not at hlabelled
        obtain ⟨own, hown, hkey⟩ := hlabelled
        refine iff_of_false (fun hlawful => ?_)
          (not_ownFirst_of_oldest hlabel huid hwallet hother holdest hown hkey)
        have hdeleted : Response.forbidden = .deleted :=
          (congrArg Prod.snd hdelete).symm.trans (hlawful.2 ⟨own, hown, hkey⟩)
        cases hdeleted
    · -- the user's label is the oldest, and the only one with its key
      have hkey : label.key = ⟨uid.getD "", walletAddress.getD "", userId⟩ := by
        rw [CatvNodeLabelModel.key, huid, hwallet, hown]
      refine iff_of_true ⟨?_, fun _ => congrArg Prod.snd hdelete⟩ ?_
      · rw [show (handle table (.delete userId uid walletAddress)).1 = table.remove label.id from
          congrArg Prod.fst hdelete, remove_rows hsound hlabel, hkey]
      · intro own hmem hownKey other hotherMem hotherUid hotherWallet
        have heq := List.inj_on_of_nodup_map hsound.keys hmem hlabel (hownKey.trans hkey.symm)
        refine heq ▸ holdest other hotherMem ?_ ?_
        · exact hotherUid.trans (congrArg LabelKey.uid hownKey)
        · exact hotherWallet.trans (congrArg LabelKey.walletAddress hownKey)

/-! ## Runs -/

/-- A request keeps the table sound. -/
theorem sound_step {request : LabelRequest} (hsound : Sound table)
    (hstep : step table request = some after) : Sound after := by
  obtain rfl := Option.some.inj hstep
  cases request with
  | post userId uid walletAddress label =>
      simp only [handle, post]
      cases hvalidate : validate userId uid walletAddress label with
      | none => exact hsound
      | some data =>
          cases hcreate : create table data with
          | none => simpa [hcreate] using hsound
          | some result =>
              simp only [hcreate]
              exact hsound.create (validate_named hvalidate) hcreate
  | delete userId uid walletAddress =>
      simp only [handle]
      rcases delete_cases table userId uid walletAddress with
        ⟨hdelete, -⟩ | ⟨hdelete, -⟩ | ⟨label, -, -, -, -, ⟨-, hdelete⟩ | ⟨-, hdelete⟩⟩
      · exact hdelete ▸ hsound
      · exact hdelete ▸ hsound
      · exact hdelete ▸ hsound
      · exact hdelete ▸ hsound.remove _

theorem lawful_iff (hsound : Sound table) (request : LabelRequest) :
    Lawful table request ↔ OwnFirst table request := by
  cases request with
  | post userId uid walletAddress label =>
      exact iff_of_true (lawful_post hsound userId uid walletAddress label) trivial
  | delete userId uid walletAddress => exact lawful_delete_iff hsound userId uid walletAddress

/-- **Requests handled one after another are all lawful exactly if every deletion by a user who
labelled the wallet finds no older label of another user.** -/
theorem lawful_iff_ownFirst (requests : List LabelRequest) :
    AllMeet step .empty Lawful requests ↔ AllMeet step .empty OwnFirst requests := by
  have hsound : ∀ {earlier s}, Run step .empty earlier s → Sound s := fun hrun =>
    hrun.invariant sound_empty fun _ _ _ hsound hstep => sound_step hsound hstep
  constructor
  · intro hall earlier request later hrequests s hrun
    exact (lawful_iff (hsound hrun) request).mp (hall earlier request later hrequests s hrun)
  · intro hall earlier request later hrequests s hrun
    exact (lawful_iff (hsound hrun) request).mpr (hall earlier request later hrequests s hrun)

/-- Two users label a wallet, and the second cannot delete the label. -/
theorem not_lawful_secondLabel :
    ¬ AllMeet step .empty Lawful
      [.post 1 "r1" "0xA" "exchange", .post 2 "r1" "0xA" "scam", .delete 2 "r1" "0xA"] := by
  intro hall
  have hlawful := hall [.post 1 "r1" "0xA" "exchange", .post 2 "r1" "0xA" "scam"]
    (.delete 2 "r1" "0xA") [] rfl _ (run_of_exec rfl)
  have hdeleted : Response.forbidden = .deleted :=
    hlawful.2 ⟨⟨2, "r1", "0xA", 2, "scam"⟩, by decide, rfl⟩
  cases hdeleted

end CatvService.Labels
