import CatvService.Labels.NodeLabel
import Mathlib.Logic.Function.Basic

/-!
# The label store as a map

What the table of the labels is for: a map from reports, wallets and users to texts, on which a
request that is not refused writes one label or erases one (`LabelMap.apply`).  Which label that is
stands in the request; the answer says only whether it was accepted.  The table and its requests
refine the map (`labelMap_handle`), and so the labels after a run are what its accepted requests
left, whatever was refused in between (`labelMap_serve`).
-/

namespace CatvService.Labels

open Grouping Runs

/-- The label that each user has given to each wallet of each report. -/
abbrev LabelMap := LabelKey → Option String

/-- What an answered request does to the labels: a post that is saved writes the label of its user
for the wallet that it names, a deletion that succeeds erases it, and any other request does
nothing. -/
def LabelMap.apply (labels : LabelMap) : LabelRequest × Response → LabelMap
  | (.post userId uid walletAddress label, .saved _) =>
      match validate userId uid walletAddress label with
      | some data => Function.update labels data.key (some data.label)
      | none => labels
  | (.delete userId uid walletAddress, .deleted) =>
      Function.update labels ⟨uid.getD "", walletAddress.getD "", userId⟩ none
  | _ => labels

/-- The labels that a table stands for. -/
def LabelTable.labelMap (table : LabelTable) : LabelMap := fun key =>
  (table.first fun row => decide (row.key = key)).map CatvNodeLabelModel.label

/-- The requests of a run, one after another, with their answers. -/
def serve (table : LabelTable) : List LabelRequest → LabelTable × List (LabelRequest × Response)
  | [] => (table, [])
  | request :: requests =>
      let (after, response) := handle table request
      let (last, responses) := serve after requests
      (last, (request, response) :: responses)

/-! ## The table is the map -/

variable {table after : LabelTable} {row : CatvNodeLabelModel} {key : LabelKey} {label : String}

theorem labelMap_eq_some_iff (hsound : Sound table) :
    table.labelMap key = some label ↔ ∃ row ∈ table.rows, row.key = key ∧ row.label = label := by
  constructor
  · intro hlabel
    obtain ⟨row, hfirst, rfl⟩ := Option.map_eq_some_iff.mp hlabel
    exact ⟨row, List.mem_of_find?_eq_some hfirst, by simpa using List.find?_some hfirst, rfl⟩
  · rintro ⟨row, hrow, rfl, rfl⟩
    obtain ⟨first, hfirst⟩ : ∃ first, table.first (fun other => decide (other.key = row.key)) =
        some first :=
      Option.isSome_iff_exists.mp (List.find?_isSome.mpr ⟨row, hrow, by simp⟩)
    have hkey : first.key = row.key := by simpa using List.find?_some hfirst
    obtain rfl : first = row :=
      List.inj_on_of_nodup_map hsound.keys (List.mem_of_find?_eq_some hfirst) hrow hkey
    rw [LabelTable.labelMap, hfirst, Option.map_some]

theorem labelMap_eq_none_iff :
    table.labelMap key = none ↔ ∀ row ∈ table.rows, row.key ≠ key := by
  rw [LabelTable.labelMap, Option.map_eq_none_iff, LabelTable.first, List.find?_eq_none]
  simp only [decide_eq_true_eq, ne_eq]

/-- Tables with the same labels stand for the same map. -/
theorem labelMap_eq_of_mem_iff {labels : LabelMap} (hsound : Sound table)
    (hlabels : ∀ key label, labels key = some label ↔
      ∃ row ∈ table.rows, row.key = key ∧ row.label = label) : table.labelMap = labels := by
  funext key
  apply Option.ext
  intro label
  rw [labelMap_eq_some_iff hsound, hlabels]

theorem update_eq_some_iff {labels : LabelMap} {changed : LabelKey} {value : Option String} :
    Function.update labels changed value key = some label ↔
      key = changed ∧ value = some label ∨ key ≠ changed ∧ labels key = some label := by
  by_cases hkey : key = changed
  · subst hkey
    simp
  · simp [hkey]

/-- In a sound table only the row itself has its key. -/
theorem key_ne_of_id_ne (hsound : Sound table) {other : CatvNodeLabelModel}
    (hrow : row ∈ table.rows) (hother : other ∈ table.rows) :
    other.key ≠ row.key ↔ other.id ≠ row.id := by
  apply not_congr
  constructor
  · intro hkey
    rw [List.inj_on_of_nodup_map hsound.keys hother hrow hkey]
  · intro hid
    rw [List.inj_on_of_nodup_map (nodup_ids table) hother hrow hid]

theorem mem_setLabel_iff {id : ℕ} :
    row ∈ (table.setLabel id label).rows ↔
      ∃ old ∈ table.rows, row = if old.id = id then { old with label := label } else old := by
  simp only [LabelTable.setLabel, List.mem_map, eq_comm]

theorem labelMap_create {data : ValidatedData} (hsound : Sound table)
    (hnamed : data.key.uid ≠ "" ∧ data.key.walletAddress ≠ "")
    (hcreate : create table data = some (after, row)) :
    after.labelMap = Function.update table.labelMap data.key (some data.label) := by
  apply labelMap_eq_of_mem_iff (hsound.create hnamed hcreate)
  intro key label
  obtain ⟨hkey, hlabel, hcases⟩ := create_cases hcreate
  rw [update_eq_some_iff, labelMap_eq_some_iff hsound, Option.some.injEq, ← hkey, ← hlabel]
  apply Iff.symm
  have hrow := mem_of_create hcreate
  obtain ⟨existing, hmem, hexisting, rfl, rfl⟩ | ⟨hnew, -, hrows⟩ := hcases
  · -- the label of the row that is there is changed
    constructor
    · rintro ⟨changed, hchanged, rfl, rfl⟩
      obtain ⟨old, hold, rfl⟩ := mem_setLabel_iff.mp hchanged
      split
      · rename_i hid
        obtain rfl := List.inj_on_of_nodup_map (nodup_ids table) hold hmem hid
        exact .inl ⟨rfl, rfl⟩
      · rename_i hid
        exact .inr ⟨(key_ne_of_id_ne hsound hmem hold).mpr hid, old, hold, rfl, rfl⟩
    · rintro (⟨rfl, rfl⟩ | ⟨hne, old, hold, rfl, rfl⟩)
      · exact ⟨_, hrow, rfl, rfl⟩
      · have hid := (key_ne_of_id_ne hsound hmem hold).mp hne
        exact ⟨old, mem_setLabel_iff.mpr ⟨old, hold, (if_neg hid).symm⟩, rfl, rfl⟩
  · -- a row is added at the end
    rw [hrows]
    constructor
    · rintro ⟨other, hother, rfl, rfl⟩
      rcases List.mem_append.mp hother with hold | hlast
      · refine .inr ⟨fun hsame => hnew ?_, other, hold, rfl, rfl⟩
        rw [← hkey, ← hsame]
        exact List.mem_map_of_mem hold
      · obtain rfl := List.mem_singleton.mp hlast
        exact .inl ⟨rfl, rfl⟩
    · rintro (⟨rfl, rfl⟩ | ⟨-, old, hold, rfl, rfl⟩)
      · exact ⟨row, List.mem_append_right _ List.mem_cons_self, rfl, rfl⟩
      · exact ⟨old, List.mem_append_left _ hold, rfl, rfl⟩

theorem labelMap_remove (hsound : Sound table) (hrow : row ∈ table.rows) :
    (table.remove row.id).labelMap = Function.update table.labelMap row.key none := by
  apply labelMap_eq_of_mem_iff (hsound.remove row.id)
  intro key label
  rw [update_eq_some_iff, labelMap_eq_some_iff hsound, remove_rows hsound hrow]
  simp only [List.mem_filter, decide_eq_true_eq]
  constructor
  · rintro (⟨-, hlabel⟩ | ⟨hne, other, hother, rfl, rfl⟩)
    · cases hlabel
    · exact ⟨other, ⟨hother, hne⟩, rfl, rfl⟩
  · rintro ⟨other, ⟨hother, hne⟩, rfl, rfl⟩
    exact .inr ⟨hne, other, hother, rfl, rfl⟩

/-- **A request does to the table what it does to the map.** -/
theorem labelMap_handle (hsound : Sound table) (request : LabelRequest) :
    (handle table request).1.labelMap =
      table.labelMap.apply (request, (handle table request).2) := by
  cases request with
  | post userId uid walletAddress label =>
      simp only [handle, post]
      cases hvalidate : validate userId uid walletAddress label with
      | none => rfl
      | some data =>
          cases hcreate : create table data with
          | none => simp only [hcreate, LabelMap.apply]
          | some result =>
              simp only [hcreate, LabelMap.apply, hvalidate]
              exact labelMap_create hsound (validate_named hvalidate) hcreate
  | delete userId uid walletAddress =>
      simp only [handle]
      rcases delete_cases table userId uid walletAddress with
        ⟨hdelete, -⟩ | ⟨hdelete, -⟩ | ⟨row, hrow, huid, hwallet, -, ⟨-, hdelete⟩ | ⟨huser, hdelete⟩⟩
      · rw [hdelete]
        rfl
      · rw [hdelete]
        rfl
      · rw [hdelete]
        rfl
      · rw [hdelete]
        simp only [LabelMap.apply]
        rw [labelMap_remove hsound hrow, CatvNodeLabelModel.key, huid, hwallet, huser]

theorem sound_serve (hsound : Sound table) (requests : List LabelRequest) :
    Sound (serve table requests).1 := by
  induction requests generalizing table with
  | nil => exact hsound
  | cons request requests ih => exact ih (sound_step hsound rfl)

theorem labelMap_foldl (hsound : Sound table) (requests : List LabelRequest) :
    (serve table requests).1.labelMap =
      (serve table requests).2.foldl LabelMap.apply table.labelMap := by
  induction requests generalizing table with
  | nil => rfl
  | cons request requests ih =>
      simp only [serve, List.foldl_cons]
      rw [ih (sound_step hsound rfl), labelMap_handle hsound]

/-- **The labels after a run are what the answered requests left.** -/
theorem labelMap_serve (requests : List LabelRequest) :
    (serve .empty requests).1.labelMap =
      (serve .empty requests).2.foldl LabelMap.apply (fun _ => none) :=
  labelMap_foldl sound_empty requests

end CatvService.Labels
