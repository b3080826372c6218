import CatvService.Library.Dict

/-!
# Stores whose entries expire

A store of a cache server: each entry has a value and the time at which it expires, if there is one.
Expired entries are not removed but not seen either; what is seen of a key at a time is its entry if
that is live (`peek`).  An entry that is not live stays so until it is written again
(`live_of_live`), and giving an entry another time to expire has an effect on live ones only.
-/

namespace Expiring

open Dictionary

variable {κ β : Type*} [DecidableEq κ]

/-- A value with the time at which it expires. -/
structure Entry (β : Type*) where
  value : β
  expiresAt : Option ℕ

/-- Whether the entry is still there at a time. -/
def Entry.live (entry : Entry β) (now : ℕ) : Bool :=
  match entry.expiresAt with
  | none => true
  | some time => decide (now < time)

abbrev Store (κ β : Type*) [DecidableEq κ] := Dict κ (Entry β)

namespace Store

/-- The entry of a key, if it is live. -/
def peek (store : Store κ β) (now : ℕ) (k : κ) : Option (Entry β) :=
  (store.get? k).filter fun entry => entry.live now

/-- The value of a key. -/
def get (store : Store κ β) (now : ℕ) (k : κ) : Option β :=
  (store.peek now k).map Entry.value

/-- The key gets a value. -/
def put (store : Store κ β) (k : κ) (value : β) (expiresAt : Option ℕ) : Store κ β :=
  store.set k ⟨value, expiresAt⟩

/-- A live entry gets another time to expire. -/
def retime (store : Store κ β) (now : ℕ) (k : κ) (expiresAt : Option ℕ) : Store κ β :=
  match store.peek now k with
  | none => store
  | some entry => store.put k entry.value expiresAt

/-- The key is removed. -/
def delete (store : Store κ β) (k : κ) : Store κ β :=
  store.pop k

end Store

variable {store : Store κ β} {entry : Entry β} {now later : ℕ} {k k' : κ}

theorem live_of_live (hlive : entry.live later = true) (hle : now ≤ later) :
    entry.live now = true := by
  unfold Entry.live at hlive ⊢
  split
  · rfl
  · rename_i time htime
    rw [htime] at hlive
    have hlt : later < time := of_decide_eq_true hlive
    exact decide_eq_true (by omega)

theorem peek_eq_some_iff :
    store.peek now k = some entry ↔ store.get? k = some entry ∧ entry.live now = true :=
  Option.filter_eq_some_iff

theorem get_eq_some_iff {value : β} :
    store.get now k = some value ↔
      ∃ entry, store.get? k = some entry ∧ entry.live now = true ∧ entry.value = value := by
  simp only [Store.get, Option.map_eq_some_iff, peek_eq_some_iff, and_assoc]

@[simp] theorem get?_put (value : β) (expiresAt : Option ℕ) :
    (store.put k' value expiresAt).get? k =
      if k' = k then some ⟨value, expiresAt⟩ else store.get? k :=
  Dict.get?_set store k' k _

theorem get?_delete : (store.delete k').get? k = if k' = k then none else store.get? k := by
  split
  · rename_i heq
    apply Option.eq_none_iff_forall_ne_some.mpr
    intro entry hget
    exact (Dict.get?_pop_eq_some_iff.mp hget).2 heq.symm
  · rename_i hne
    exact Dict.get?_pop_of_ne (Ne.symm hne)

/-- What becomes of the entries when a live one gets another time. -/
theorem get?_retime (expiresAt : Option ℕ) :
    (store.retime now k' expiresAt).get? k =
      if k' = k then
        (store.get? k).map fun entry =>
          if entry.live now then { entry with expiresAt := expiresAt } else entry
      else store.get? k := by
  unfold Store.retime
  split
  · rename_i hpeek
    split
    · rename_i heq
      subst heq
      cases hget : store.get? k' with
      | none => rfl
      | some entry =>
          have hdead : ¬ entry.live now = true := fun hlive =>
            Option.some_ne_none entry ((peek_eq_some_iff.mpr ⟨hget, hlive⟩).symm.trans hpeek)
          rw [Option.map_some, if_neg hdead]
    · rfl
  · rename_i entry hpeek
    obtain ⟨hget, hlive⟩ := peek_eq_some_iff.mp hpeek
    rw [get?_put]
    split
    · rename_i heq
      subst heq
      rw [hget, Option.map_some, if_pos hlive]
    · rfl

/-- A live entry that gets a later time to expire is still seen, and one that is not live is not. -/
theorem peek_retime_self {time : ℕ} (hlater : now < time) :
    (store.retime now k (some time)).peek now k =
      (store.peek now k).map fun entry => ⟨entry.value, some time⟩ := by
  rw [Store.peek, get?_retime, if_pos rfl, Store.peek]
  cases store.get? k with
  | none => rfl
  | some entry =>
      rw [Option.map_some]
      by_cases hlive : entry.live now = true
      · have hnew : (⟨entry.value, some time⟩ : Entry β).live now = true := decide_eq_true hlater
        rw [if_pos hlive, Option.filter_some, Option.filter_some, if_pos hlive, if_pos hnew,
          Option.map_some]
      · rw [if_neg hlive, Option.filter_some, if_neg hlive, Option.map_none]

end Expiring
