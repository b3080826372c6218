import Mathlib.Algebra.GroupWithZero.Nat
import Mathlib.Data.List.Nodup

/-!
# Dictionaries that keep their insertion order

A Python `dict` is a finite map that iterates in the order in which its keys were first inserted:
`d[k] = v` replaces the value of a present key in place and appends a new one at the end.

The first part works on bare lists of pairs, `Entries`, which is what a value of a parsed document
holds.  The second part bundles such a list with the proof that no key occurs twice: `Dict` is the
type of the dictionaries a program builds itself, and every operation on it keeps the proof.
-/

namespace Dictionary

variable {κ β γ : Type*} [DecidableEq κ]

/-! ## Lists of entries -/

/-- The entries of a dictionary, in insertion order. -/
abbrev Entries (κ β : Type*) := List (κ × β)

namespace Entries

/-- `d.get(k)`. -/
def get? (k : κ) : Entries κ β → Option β
  | [] => none
  | (key, value) :: rest => if key = k then some value else get? k rest

/-- `d[k] = v`. -/
def set (k : κ) (v : β) : Entries κ β → Entries κ β
  | [] => [(k, v)]
  | (key, value) :: rest => if key = k then (key, v) :: rest else (key, value) :: set k v rest

/-- `d.pop(k, None)`. -/
def pop (k : κ) (entries : Entries κ β) : Entries κ β :=
  entries.filter fun entry => decide (entry.1 ≠ k)

/-- `d.update(other)`. -/
def update (entries other : Entries κ β) : Entries κ β :=
  other.foldl (fun current entry => set entry.1 entry.2 current) entries

@[simp] theorem get?_nil (k : κ) : get? k ([] : Entries κ β) = none := rfl

theorem get?_cons (k key : κ) (value : β) (rest : Entries κ β) :
    get? k ((key, value) :: rest) = if key = k then some value else get? k rest := rfl

@[simp] theorem get?_set_self (k : κ) (v : β) (entries : Entries κ β) :
    get? k (set k v entries) = some v := by
  induction entries with
  | nil => simp [set, get?]
  | cons entry rest ih =>
      by_cases hkey : entry.1 = k <;> simp [set, get?, hkey, ih]

theorem get?_set_of_ne {k k' : κ} (hne : k' ≠ k) (v : β) (entries : Entries κ β) :
    get? k (set k' v entries) = get? k entries := by
  induction entries with
  | nil => simp [set, get?, hne]
  | cons entry rest ih =>
      by_cases hkey : entry.1 = k'
      · simp [set, get?, hkey, hne]
      · simp [set, get?, hkey, ih]

theorem get?_set (k k' : κ) (v : β) (entries : Entries κ β) :
    get? k (set k' v entries) = if k' = k then some v else get? k entries := by
  split
  · rename_i heq
    rw [heq, get?_set_self]
  · rename_i hne
    exact get?_set_of_ne hne v entries

theorem get?_append_cons_of_ne {k k' : κ} (hne : k' ≠ k) {v : β} (front back : Entries κ β) :
    get? k (front ++ (k', v) :: back) = get? k (front ++ back) := by
  induction front with
  | nil => exact if_neg hne
  | cons entry front ih =>
      obtain ⟨key, value⟩ := entry
      rw [List.cons_append, List.cons_append, get?_cons, get?_cons, ih]

theorem mem_keys_of_get?_eq_some {k : κ} {v : β} {entries : Entries κ β}
    (hget : get? k entries = some v) : (k, v) ∈ entries := by
  induction entries with
  | nil => simp at hget
  | cons entry rest ih =>
      obtain ⟨key, value⟩ := entry
      rw [get?_cons] at hget
      split at hget
      · rename_i hkey
        rw [Option.some_inj] at hget
        simp [hkey, hget]
      · exact List.mem_cons_of_mem _ (ih hget)

theorem get?_eq_none_iff {k : κ} {entries : Entries κ β} :
    get? k entries = none ↔ k ∉ entries.map Prod.fst := by
  induction entries with
  | nil => simp
  | cons entry rest ih =>
      obtain ⟨key, value⟩ := entry
      rw [get?_cons]
      split
      · rename_i hkey
        simp [hkey]
      · rename_i hkey
        simp [ih, Ne.symm hkey]

theorem keys_set_of_mem {k : κ} {entries : Entries κ β} (hmem : k ∈ entries.map Prod.fst) (v : β) :
    (set k v entries).map Prod.fst = entries.map Prod.fst := by
  induction entries with
  | nil => simp at hmem
  | cons entry rest ih =>
      by_cases hkey : entry.1 = k
      · simp [set, hkey]
      · have hrest : k ∈ rest.map Prod.fst := by
          simpa [List.map_cons, Ne.symm hkey] using hmem
        simp [set, hkey, ih hrest]

theorem set_of_notMem {k : κ} {entries : Entries κ β} (hnot : k ∉ entries.map Prod.fst) (v : β) :
    set k v entries = entries ++ [(k, v)] := by
  induction entries with
  | nil => rfl
  | cons entry rest ih =>
      simp only [List.map_cons, List.mem_cons, not_or] at hnot
      simp [set, Ne.symm hnot.1, ih hnot.2]

theorem nodup_set {entries : Entries κ β} (hnodup : (entries.map Prod.fst).Nodup) (k : κ) (v : β) :
    ((set k v entries).map Prod.fst).Nodup := by
  by_cases hmem : k ∈ entries.map Prod.fst
  · rw [keys_set_of_mem hmem]
    exact hnodup
  · rw [set_of_notMem hmem, List.map_append, List.nodup_append]
    refine ⟨hnodup, by simp, ?_⟩
    intro key hkey other hother heq
    simp only [List.map_cons, List.map_nil, List.mem_singleton] at hother
    exact hmem (hother ▸ heq ▸ hkey)

theorem get?_eq_some_of_mem {entries : Entries κ β} (hnodup : (entries.map Prod.fst).Nodup)
    {k : κ} {v : β} (hmem : (k, v) ∈ entries) : get? k entries = some v := by
  induction entries with
  | nil => simp at hmem
  | cons entry rest ih =>
      rw [List.map_cons, List.nodup_cons] at hnodup
      rcases List.mem_cons.mp hmem with rfl | hrest
      · simp [get?]
      · have hne : entry.1 ≠ k := by
          intro heq
          exact hnodup.1 (heq ▸ List.mem_map_of_mem (f := Prod.fst) hrest)
        rw [get?, if_neg hne, ih hnodup.2 hrest]

theorem keys_set (entries : Entries κ β) (k : κ) (v : β) :
    (set k v entries).map Prod.fst =
      if k ∈ entries.map Prod.fst then entries.map Prod.fst else entries.map Prod.fst ++ [k] := by
  split
  · rename_i hmem
    exact keys_set_of_mem hmem v
  · rename_i hnot
    rw [set_of_notMem hnot]
    simp

/-- A count that is set anew changes the sum of the counts by itself. -/
theorem sum_values_set (entries : Entries κ ℕ) (k : κ) (v : ℕ) :
    ((set k v entries).map Prod.snd).sum + (get? k entries).getD 0 =
      (entries.map Prod.snd).sum + v := by
  induction entries with
  | nil => simp [set]
  | cons entry rest ih =>
      obtain ⟨key, value⟩ := entry
      by_cases hkey : key = k
      · simp only [set, get?_cons, hkey, if_true, List.map_cons, List.sum_cons, Option.getD_some]
        omega
      · simp only [set, get?_cons, hkey, if_false, List.map_cons, List.sum_cons]
        omega

end Entries

/-! ## Dictionaries -/

/-- A dictionary: entries in which no key occurs twice. -/
structure Dict (κ β : Type*) where
  entries : Entries κ β
  nodup : (entries.map Prod.fst).Nodup

namespace Dict

/-- `{}`. -/
def empty : Dict κ β :=
  ⟨[], List.nodup_nil⟩

/-- `d.get(k)`. -/
def get? (d : Dict κ β) (k : κ) : Option β :=
  Entries.get? k d.entries

/-- `d[k] = v`. -/
def set (d : Dict κ β) (k : κ) (v : β) : Dict κ β :=
  ⟨Entries.set k v d.entries, Entries.nodup_set d.nodup k v⟩

/-- `list(d.keys())`. -/
def keys (d : Dict κ β) : List κ :=
  d.entries.map Prod.fst

/-- `list(d.values())`. -/
def values (d : Dict κ β) : List β :=
  d.entries.map Prod.snd

/-- `{k: f(v) for k, v in d.items()}`. -/
def map (f : β → γ) (d : Dict κ β) : Dict κ γ where
  entries := d.entries.map fun entry => (entry.1, f entry.2)
  nodup := by
    have hkeys : (d.entries.map fun entry => (entry.1, f entry.2)).map Prod.fst =
        d.entries.map Prod.fst := by simp
    rw [hkeys]
    exact d.nodup

/-- `{k: v for k, v in d.items() if p(k, v)}`. -/
def filter (p : κ × β → Bool) (d : Dict κ β) : Dict κ β where
  entries := d.entries.filter p
  nodup := d.nodup.sublist (List.filter_sublist.map Prod.fst)

/-- `d.pop(k, None)`. -/
def pop (d : Dict κ β) (k : κ) : Dict κ β :=
  d.filter fun entry => decide (entry.1 ≠ k)

/-- `{k: v for k, v in items}`. -/
def ofItems (items : List (κ × β)) : Dict κ β :=
  items.foldl (fun d item => d.set item.1 item.2) empty

/-- `{**d, **other}`. -/
def update (d other : Dict κ β) : Dict κ β :=
  other.entries.foldl (fun d item => d.set item.1 item.2) d

variable {ι : Type*} [DecidableEq ι]

/-- `d[k][field] = v`, for a `defaultdict(dict)`. -/
def setIn (d : Dict κ (Dict ι β)) (k : κ) (field : ι) (v : β) : Dict κ (Dict ι β) :=
  d.set k (((d.get? k).getD empty).set field v)

/-- `d.get(k, {}).get(field)`. -/
def getIn (d : Dict κ (Dict ι β)) (k : κ) (field : ι) : Option β :=
  (d.get? k).bind fun inner => inner.get? field

variable {d other : Dict κ β} {k k' : κ} {v v' : β}

omit [DecidableEq κ] in
theorem ext (hentries : d.entries = other.entries) : d = other := by
  cases d
  cases other
  congr

@[simp] theorem get?_empty : (empty : Dict κ β).get? k = none := rfl

omit [DecidableEq κ] in
@[simp] theorem keys_empty : (empty : Dict κ β).keys = [] := rfl

theorem get?_set (d : Dict κ β) (k' k : κ) (v : β) :
    (d.set k' v).get? k = if k' = k then some v else d.get? k :=
  Entries.get?_set k k' v d.entries

@[simp] theorem get?_set_self (d : Dict κ β) (k : κ) (v : β) : (d.set k v).get? k = some v :=
  Entries.get?_set_self k v d.entries

theorem get?_set_of_ne (hne : k' ≠ k) (v : β) : (d.set k' v).get? k = d.get? k :=
  Entries.get?_set_of_ne hne v d.entries

theorem getIn_setIn (d : Dict κ (Dict ι β)) (k' k : κ) (field' field : ι) (v : β) :
    (d.setIn k' field' v).getIn k field =
      if k' = k ∧ field' = field then some v else d.getIn k field := by
  rw [setIn, getIn, getIn, get?_set]
  by_cases hk : k' = k
  · subst hk
    cases hget : d.get? k' <;> simp [get?_set]
  · simp [hk]

theorem mem_entries_iff : (k, v) ∈ d.entries ↔ d.get? k = some v :=
  ⟨Entries.get?_eq_some_of_mem d.nodup, Entries.mem_keys_of_get?_eq_some⟩

theorem mem_keys_iff : k ∈ d.keys ↔ ∃ v, d.get? k = some v := by
  constructor
  · intro hmem
    obtain ⟨⟨key, v⟩, hentry, rfl⟩ := List.mem_map.mp hmem
    exact ⟨v, mem_entries_iff.mp hentry⟩
  · rintro ⟨v, hget⟩
    exact List.mem_map.mpr ⟨(k, v), mem_entries_iff.mpr hget, rfl⟩

theorem mem_values_iff : v ∈ d.values ↔ ∃ k, d.get? k = some v := by
  constructor
  · intro hmem
    obtain ⟨⟨k, value⟩, hentry, rfl⟩ := List.mem_map.mp hmem
    exact ⟨k, mem_entries_iff.mp hentry⟩
  · rintro ⟨k, hget⟩
    exact List.mem_map.mpr ⟨(k, v), mem_entries_iff.mpr hget, rfl⟩

theorem keys_set (d : Dict κ β) (k : κ) (v : β) :
    (d.set k v).keys = if k ∈ d.keys then d.keys else d.keys ++ [k] :=
  Entries.keys_set d.entries k v

theorem mem_keys_set : k ∈ (d.set k' v).keys ↔ k ∈ d.keys ∨ k' = k := by
  rw [keys_set]
  split
  · rename_i hmem
    exact ⟨.inl, fun h => h.elim id fun heq => heq ▸ hmem⟩
  · simp [eq_comm]

omit [DecidableEq κ] in
@[simp] theorem keys_map (f : β → γ) (d : Dict κ β) : (d.map f).keys = d.keys := by
  simp [keys, map]

@[simp] theorem get?_map (f : β → γ) (d : Dict κ β) (k : κ) :
    (d.map f).get? k = (d.get? k).map f := by
  have hmap : ∀ entries : Entries κ β,
      Entries.get? k (entries.map fun entry => (entry.1, f entry.2)) =
        (Entries.get? k entries).map f := by
    intro entries
    induction entries with
    | nil => rfl
    | cons entry rest ih =>
        simp only [List.map_cons, Entries.get?]
        split
        · rfl
        · exact ih
  exact hmap d.entries

theorem get?_filter_eq_some_iff {p : κ × β → Bool} :
    (d.filter p).get? k = some v ↔ d.get? k = some v ∧ p (k, v) := by
  rw [← mem_entries_iff, ← mem_entries_iff]
  exact List.mem_filter

theorem get?_pop_eq_some_iff : (d.pop k').get? k = some v ↔ d.get? k = some v ∧ k ≠ k' := by
  rw [pop, get?_filter_eq_some_iff, decide_eq_true_eq]

theorem get?_pop_of_ne (hne : k ≠ k') : (d.pop k').get? k = d.get? k := by
  apply Option.ext
  intro v
  rw [get?_pop_eq_some_iff]
  exact and_iff_left hne

omit [DecidableEq κ] in
theorem keys_filter (p : κ → Bool) (d : Dict κ β) :
    (d.filter fun entry => p entry.1).keys = d.keys.filter p := by
  simp [keys, filter, List.filter_map, Function.comp_def]

/-- Counting a key once more counts one more. -/
theorem sum_values_increment (d : Dict κ ℕ) (k : κ) :
    (d.set k ((d.get? k).getD 0 + 1)).values.sum = d.values.sum + 1 := by
  have hsum := Entries.sum_values_set d.entries k ((d.get? k).getD 0 + 1)
  change ((Entries.set k ((d.get? k).getD 0 + 1) d.entries).map Prod.snd).sum = _
  change _ + (d.get? k).getD 0 = d.values.sum + _ at hsum
  omega

theorem set_of_get? (hget : d.get? k = some v) : d.set k v = d := by
  have hset : ∀ entries : Entries κ β, Entries.get? k entries = some v →
      Entries.set k v entries = entries := by
    intro entries
    induction entries with
    | nil => exact fun h => by cases h
    | cons entry rest ih =>
        obtain ⟨key, value⟩ := entry
        intro h
        rw [Entries.get?_cons] at h
        unfold Entries.set
        split at h
        · rename_i hkey
          cases h
          rw [if_pos hkey, hkey]
        · rename_i hkey
          rw [if_neg hkey, ih h]
  exact Dict.ext (hset d.entries hget)

theorem map_set (f : β → γ) (d : Dict κ β) (k : κ) (v : β) :
    (d.set k v).map f = (d.map f).set k (f v) := by
  have hset : ∀ entries : Entries κ β,
      (Entries.set k v entries).map (fun entry => (entry.1, f entry.2)) =
        Entries.set k (f v) (entries.map fun entry => (entry.1, f entry.2)) := by
    intro entries
    induction entries with
    | nil => rfl
    | cons entry rest ih =>
        obtain ⟨key, value⟩ := entry
        rw [List.map_cons]
        unfold Entries.set
        split
        · rfl
        · rw [List.map_cons, ih]
  exact Dict.ext (hset d.entries)

/-! ### The first entry -/

/-- Setting a key keeps the first key of a dictionary that has one. -/
theorem head?_keys_set (hhead : d.keys.head? = some k) (k' : κ) (v : β) :
    (d.set k' v).keys.head? = some k := by
  rw [keys_set]
  split
  · exact hhead
  · rw [List.head?_append, hhead]
    rfl

/-- A value under any key but the first is behind the first value. -/
theorem mem_tail_values (hhead : d.keys.head? = some k') (hne : k ≠ k') (hget : d.get? k = some v) :
    v ∈ d.values.tail := by
  have hmem := mem_entries_iff.mpr hget
  obtain ⟨entries, hnodup⟩ := d
  cases entries with
  | nil => cases hmem
  | cons entry rest =>
      obtain rfl : entry.1 = k' := by simpa [keys] using hhead
      rcases List.mem_cons.mp hmem with rfl | hrest
      · exact absurd rfl hne
      · exact List.mem_map.mpr ⟨(k, v), hrest, rfl⟩

/-- The values behind the first one are those of the other keys. -/
theorem mem_values_drop_one_iff :
    v ∈ d.values.drop 1 ↔ ∃ k, d.keys.head? ≠ some k ∧ d.get? k = some v := by
  simp only [← mem_entries_iff]
  obtain ⟨entries, hnodup⟩ := d
  cases entries with
  | nil => simp [values]
  | cons entry rest =>
      rw [List.map_cons, List.nodup_cons] at hnodup
      have hkeys : ∀ k, (k, v) ∈ rest → entry.1 ≠ k := fun k hmem heq =>
        hnodup.1 (heq ▸ List.mem_map_of_mem hmem)
      simp only [values, keys, List.map_cons, List.drop_succ_cons, List.drop_zero, List.mem_map,
        List.head?_cons, ne_eq, Option.some.injEq, List.mem_cons]
      constructor
      · rintro ⟨⟨k, _⟩, hmem, rfl⟩
        exact ⟨k, hkeys k hmem, .inr hmem⟩
      · rintro ⟨k, hne, heq | hmem⟩
        · exact absurd (congrArg Prod.fst heq).symm hne
        · exact ⟨(k, v), hmem, rfl⟩

/-! ### Entries set one after another -/

/-- What a key holds after some entries have been set is one of their values, or what it held
before. -/
theorem get?_foldl_set {items : List (κ × β)}
    (hget : (items.foldl (fun d item => d.set item.1 item.2) d).get? k = some v) :
    (k, v) ∈ items ∨ d.get? k = some v := by
  induction items generalizing d with
  | nil => exact .inr hget
  | cons item items ih =>
      rcases ih hget with hmem | hbefore
      · exact .inl (List.mem_cons_of_mem _ hmem)
      · rw [get?_set] at hbefore
        split at hbefore
        · rename_i hkey
          cases hbefore
          exact .inl (hkey ▸ List.mem_cons_self)
        · exact .inr hbefore

/-- Setting entries one after another keeps the keys and adds those of the entries. -/
theorem mem_keys_foldl_set {items : List (κ × β)} :
    k ∈ (items.foldl (fun d item => d.set item.1 item.2) d).keys ↔
      k ∈ d.keys ∨ ∃ item ∈ items, item.1 = k := by
  induction items generalizing d with
  | nil => simp
  | cons item items ih =>
      rw [List.foldl_cons, ih, mem_keys_set]
      simp [or_assoc]

/-- Entries with new keys, no two of them the same, go behind what is there. -/
theorem entries_foldl_set {items : List (κ × β)} (hnodup : (items.map Prod.fst).Nodup)
    (hnew : ∀ item ∈ items, item.1 ∉ d.keys) :
    (items.foldl (fun d item => d.set item.1 item.2) d).entries = d.entries ++ items := by
  induction items generalizing d with
  | nil => exact (List.append_nil _).symm
  | cons item items ih =>
      rw [List.map_cons, List.nodup_cons] at hnodup
      have hset : (d.set item.1 item.2).entries = d.entries ++ [item] :=
        Entries.set_of_notMem (hnew item List.mem_cons_self) item.2
      have hnew' : ∀ other ∈ items, other.1 ∉ (d.set item.1 item.2).keys := by
        intro other hother
        rw [mem_keys_set, not_or]
        refine ⟨hnew other (List.mem_cons_of_mem _ hother), fun heq => ?_⟩
        exact hnodup.1 (heq ▸ List.mem_map_of_mem hother)
      rw [List.foldl_cons, ih hnodup.2 hnew', hset, List.append_assoc]
      rfl

theorem entries_ofItems {items : List (κ × β)} (hnodup : (items.map Prod.fst).Nodup) :
    (ofItems items).entries = items :=
  entries_foldl_set hnodup (by simp)

theorem entries_update (hnew : ∀ key ∈ other.keys, key ∉ d.keys) :
    (d.update other).entries = d.entries ++ other.entries :=
  entries_foldl_set other.nodup fun _ hitem => hnew _ (List.mem_map_of_mem hitem)

theorem mem_keys_ofItems {items : List (κ × β)} :
    k ∈ (ofItems items).keys ↔ ∃ item ∈ items, item.1 = k :=
  mem_keys_foldl_set.trans (by simp)

theorem mem_keys_update : k ∈ (d.update other).keys ↔ k ∈ d.keys ∨ k ∈ other.keys := by
  refine mem_keys_foldl_set.trans (or_congr_right ?_)
  exact List.mem_map.symm

/-- What a key holds after some entries have been set, no two of them under the same key. -/
theorem get?_foldl_set_eq {items : Entries κ β} (hnodup : (items.map Prod.fst).Nodup) :
    (items.foldl (fun d item => d.set item.1 item.2) d).get? k =
      (Entries.get? k items).or (d.get? k) := by
  induction items generalizing d with
  | nil => rfl
  | cons item items ih =>
      obtain ⟨key, value⟩ := item
      rw [List.map_cons, List.nodup_cons] at hnodup
      rw [List.foldl_cons, ih hnodup.2, Entries.get?_cons, get?_set]
      by_cases hkey : key = k
      · have hnone : Entries.get? k items = none :=
          Entries.get?_eq_none_iff.mpr (hkey ▸ hnodup.1)
        rw [if_pos hkey, if_pos hkey, hnone]
        rfl
      · rw [if_neg hkey, if_neg hkey]

theorem get?_update_eq (d other : Dict κ β) (k : κ) :
    (d.update other).get? k = (other.get? k).or (d.get? k) :=
  get?_foldl_set_eq other.nodup

theorem mem_of_get?_ofItems {items : List (κ × β)} (hget : (ofItems items).get? k = some v) :
    (k, v) ∈ items :=
  (get?_foldl_set hget).resolve_right (by simp)

/-- Of entries set one after another, the last one under a key counts. -/
theorem get?_foldl_set_eq_find? (items : List (κ × β)) (d : Dict κ β) (k : κ) :
    (items.foldl (fun d item => d.set item.1 item.2) d).get? k =
      ((items.reverse.find? fun item => decide (item.1 = k)).map Prod.snd).or (d.get? k) := by
  induction items generalizing d with
  | nil => rfl
  | cons item items ih =>
      rw [List.foldl_cons, ih, get?_set, List.reverse_cons, List.find?_append]
      cases items.reverse.find? fun item => decide (item.1 = k) with
      | some last => rfl
      | none =>
          by_cases hkey : item.1 = k
          · simp [hkey]
          · simp [hkey]

theorem get?_ofItems (items : List (κ × β)) (k : κ) :
    (ofItems items).get? k =
      (items.reverse.find? fun item => decide (item.1 = k)).map Prod.snd := by
  rw [ofItems, get?_foldl_set_eq_find?, get?_empty, Option.or_none]

theorem get?_update (hget : (d.update other).get? k = some v) :
    other.get? k = some v ∨ d.get? k = some v :=
  (get?_foldl_set hget).imp_left mem_entries_iff.mp

end Dict
end Dictionary
