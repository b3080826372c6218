import CatvService.Library.Dict
import CatvService.Library.Text
import Mathlib.Algebra.Order.Floor.Defs
import Mathlib.Data.Rat.Floor

/-!
# Python values of a parsed JSON document

`Json` is what `response.json()` returns.  The operations on it raise what Python raises, as an
`Except PyErr`.
-/

namespace PyValue

open Dictionary PyText

/-- The exceptions that the modelled operations raise.  A library call may raise others. -/
inductive PyErr where
  | keyError (key : String)
  | indexError
  | typeError
  | valueError
  | attributeError
  | overflowError
  | unboundLocalError
  | other (name : String)
  deriving DecidableEq, Repr

theorem bind_eq_ok_iff {ε α β : Type} {x : Except ε α} {f : α → Except ε β} {b : β} :
    (x >>= f) = .ok b ↔ ∃ a, x = .ok a ∧ f a = .ok b := by
  cases x with
  | error e => simp [bind, Except.bind]
  | ok a => simp [bind, Except.bind]

theorem exists_map_eq_ok_iff {ε α β : Type} {f : α → β} {x : Except ε α} :
    (∃ b, f <$> x = .ok b) ↔ ∃ a, x = .ok a := by
  cases x with
  | error e => simp [Functor.map, Except.map]
  | ok a => simp [Functor.map, Except.map]

/-- A traversal does not raise exactly when no step of it does. -/
theorem exists_mapM_eq_ok_iff {ε α β : Type} {f : α → Except ε β} {items : List α} :
    (∃ results, items.mapM f = .ok results) ↔ ∀ x ∈ items, ∃ y, f x = .ok y := by
  induction items with
  | nil => simp [pure, Except.pure]
  | cons x items ih =>
      rw [List.forall_mem_cons, ← ih]
      simp only [List.mapM_cons, bind_eq_ok_iff]
      constructor
      · intro hok
        obtain ⟨_, y, hy, results, hresults, -⟩ := hok
        exact ⟨⟨y, hy⟩, ⟨results, hresults⟩⟩
      · intro hok
        obtain ⟨⟨y, hy⟩, ⟨results, hresults⟩⟩ := hok
        exact ⟨_, y, hy, results, hresults, rfl⟩

theorem mapM_eq_ok_iff_map {ε α β : Type} {f : α → Except ε β} {items : List α}
    {results : List β} : items.mapM f = .ok results ↔ items.map f = results.map .ok := by
  induction items generalizing results with
  | nil => cases results <;> simp [pure, Except.pure]
  | cons item items ih =>
      rw [List.mapM_cons, bind_eq_ok_iff, List.map_cons]
      constructor
      · intro hok
        obtain ⟨y, hy, hrest⟩ := hok
        obtain ⟨ys, hys, hresults⟩ := bind_eq_ok_iff.mp hrest
        cases hresults
        rw [List.map_cons, hy, ih.mp hys]
      · intro hmap
        cases results with
        | nil => cases hmap
        | cons y ys =>
            obtain ⟨hy, hys⟩ := List.cons.inj hmap
            exact ⟨y, hy, bind_eq_ok_iff.mpr ⟨ys, ih.mpr hys, rfl⟩⟩

theorem exists_of_mapM_eq_ok {ε α β : Type} {f : α → Except ε β} {items : List α}
    {results : List β} (hok : items.mapM f = .ok results) {x : α} (hx : x ∈ items) :
    ∃ y ∈ results, f x = .ok y := by
  have hmem : f x ∈ results.map .ok := mapM_eq_ok_iff_map.mp hok ▸ List.mem_map_of_mem hx
  obtain ⟨y, hy, heq⟩ := List.mem_map.mp hmem
  exact ⟨y, hy, heq.symm⟩

theorem mapM_congr_left {ε α β : Type} {f g : α → Except ε β} {items : List α}
    (h : ∀ x ∈ items, f x = g x) : items.mapM f = items.mapM g := by
  induction items with
  | nil => rfl
  | cons x items ih =>
      rw [List.mapM_cons, List.mapM_cons, h x List.mem_cons_self,
        ih fun y hy => h y (List.mem_cons_of_mem x hy)]

/-- What `f` makes of an item, the item itself where `f` raises. -/
def settled {ε α : Type} (f : α → Except ε α) (x : α) : α :=
  match f x with
  | .ok y => y
  | .error _ => x

theorem settled_eq {ε α : Type} {f : α → Except ε α} {x y : α} (hy : f x = .ok y) :
    settled f x = y := by
  unfold settled
  rw [hy]

/-- A traversal that does not raise settles every item. -/
theorem mapM_eq_ok_iff {ε α : Type} {f : α → Except ε α} {items results : List α} :
    items.mapM f = .ok results ↔
      (∀ x ∈ items, ∃ y, f x = .ok y) ∧ items.map (settled f) = results := by
  induction items generalizing results with
  | nil => simp [pure, Except.pure]
  | cons x items ih =>
      rw [List.forall_mem_cons]
      simp only [List.mapM_cons, bind_eq_ok_iff, ih, List.map_cons]
      constructor
      · intro hok
        obtain ⟨y, hy, _, ⟨hall, rfl⟩, heq⟩ := hok
        have hresults : y :: items.map (settled f) = results := Except.ok.inj heq
        exact ⟨⟨⟨y, hy⟩, hall⟩, by rw [settled_eq hy, hresults]⟩
      · intro hok
        obtain ⟨⟨⟨y, hy⟩, hall⟩, heq⟩ := hok
        rw [settled_eq hy] at heq
        exact ⟨y, hy, _, ⟨hall, rfl⟩, congrArg Except.ok heq⟩

/-- `items[i]`, where a negative `i` counts from the end. -/
def listIndex {α : Type*} (items : List α) (i : ℤ) : Except PyErr α :=
  let index := if i < 0 then i + items.length else i
  if index < 0 then .error .indexError
  else
    match items[index.toNat]? with
    | some value => .ok value
    | none => .error .indexError

theorem listIndex_of_lt {α : Type*} {items : List α} {i : ℤ} (hnonneg : 0 ≤ i)
    (hlt : i.toNat < items.length) : listIndex items i = .ok items[i.toNat] := by
  unfold listIndex
  simp [hlt, not_lt.mpr hnonneg]

/-- A parsed JSON value.  Objects keep the order of their keys. -/
inductive Json where
  | null
  | bool (b : Bool)
  | int (z : ℤ)
  | float (x : PyFloat)
  | str (s : String)
  | list (items : List Json)
  | dict (entries : List (String × Json))
  deriving Repr

/-- The entries of a Python `dict` whose keys are strings. -/
abbrev Obj := Entries String Json

namespace Json

/-- `isinstance(v, dict)` or `isinstance(v, list)`. -/
def isContainer : Json → Bool
  | .dict _ => true
  | .list _ => true
  | _ => false

/-- `isinstance(v, dict)`. -/
def isDict : Json → Bool
  | .dict _ => true
  | _ => false

/-- `bool(v)`. -/
def truthy : Json → Bool
  | .null => false
  | .bool b => b
  | .int z => decide (z ≠ 0)
  | .float x => decide (x ≠ .num 0)
  | .str s => decide (s ≠ "")
  | .list items => !items.isEmpty
  | .dict entries => !entries.isEmpty

/-- `v in [None, "None"]`. -/
def isMissing : Json → Bool
  | .null => true
  | .str s => decide (s = "None")
  | _ => false

/-- `v[key]` for a string key. -/
def item (v : Json) (key : String) : Except PyErr Json :=
  match v with
  | .dict entries =>
      match Entries.get? key entries with
      | some value => .ok value
      | none => .error (.keyError key)
  | _ => .error .typeError

/-- `v[i]` for a number `i`, which may count from the end. -/
def index (v : Json) (i : ℤ) : Except PyErr Json :=
  match v with
  | .list items => listIndex items i
  | _ => .error .typeError

/-- `len(v)`. -/
def len (v : Json) : Except PyErr ℕ :=
  match v with
  | .list items => .ok items.length
  | .dict entries => .ok entries.length
  | .str s => .ok s.length
  | _ => .error .typeError

/-- `v.get(key)`: `none` where the key is absent. -/
def get (v : Json) (key : String) : Except PyErr (Option Json) :=
  match v with
  | .dict entries => .ok (Entries.get? key entries)
  | _ => .error .attributeError

/-- `int(v)`. -/
def toInt (v : Json) : Except PyErr ℤ :=
  match v with
  | .bool b => .ok (if b then 1 else 0)
  | .int z => .ok z
  | .float (.num q) => .ok (if 0 ≤ q then ⌊q⌋ else ⌈q⌉)
  | .float (.inf _) => .error .overflowError
  | .float .nan => .error .valueError
  | .str s =>
      match parseInt s with
      | some z => .ok z
      | none => .error .valueError
  | _ => .error .typeError

/-- `float(v)`. -/
def toFloat (v : Json) : Except PyErr PyFloat :=
  match v with
  | .bool b => .ok (.num (if b then 1 else 0))
  | .int z => if overflows z then .error .overflowError else .ok (.num z)
  | .float x => .ok x
  | .str s =>
      match parseFloat s with
      | some x => .ok x
      | none => .error .valueError
  | _ => .error .typeError

theorem toFloat_zero : (Json.int 0).toFloat = .ok (.num 0) := by decide +kernel

/-- `list(v)`, what a `for` loop over `v` goes through. -/
def iter (v : Json) : Except PyErr (List Json) :=
  match v with
  | .list items => .ok items
  | .dict entries => .ok (entries.map fun entry => .str entry.1)
  | .str s => .ok (s.toList.map fun c => .str (String.singleton c))
  | _ => .error .typeError

/-- The value of a number; a `bool` is one. -/
def number? (v : Json) : Option PyFloat :=
  match v with
  | .bool b => some (.num (if b then 1 else 0))
  | .int z => some (.num z)
  | .float x => some x
  | _ => none

mutual

/-- `a == b`. -/
def eq : Json → Json → Bool
  | .null, w => match w with | .null => true | _ => false
  | .str s, w => match w with | .str t => decide (s = t) | _ => false
  | .list items, w => match w with | .list others => eqItems items others | _ => false
  | .dict entries, w =>
      match w with
      | .dict others => decide (entries.length = others.length) && eqEntries entries others
      | _ => false
  | v, w =>
      match v.number?, w.number? with
      | some x, some y => decide (x = y) && decide (x ≠ .nan)
      | _, _ => false

/-- Two lists are equal item by item. -/
def eqItems : List Json → List Json → Bool
  | [], others => others.isEmpty
  | v :: items, others =>
      match others with
      | [] => false
      | w :: others => eq v w && eqItems items others

/-- Every entry of one dictionary has an equal one in the other. -/
def eqEntries : List (String × Json) → List (String × Json) → Bool
  | [], _ => true
  | (key, v) :: entries, others =>
      match Entries.get? key others with
      | some w => eq v w && eqEntries entries others
      | none => false

end

/-- `v.lower()`. -/
def lower (v : Json) : Except PyErr String :=
  match v with
  | .str s => .ok (PyText.lower s)
  | _ => .error .attributeError

/-- Only a dictionary has items under a key. -/
theorem item_eq_ok {v value : Json} {key : String} (hitem : v.item key = .ok value) :
    ∃ entries, v = .dict entries ∧ Entries.get? key entries = some value := by
  cases v with
  | dict entries =>
      refine ⟨entries, rfl, ?_⟩
      unfold Json.item at hitem
      dsimp only at hitem
      split at hitem
      · rename_i found hfound
        cases hitem
        exact hfound
      · cases hitem
  | _ => cases hitem

theorem item_dict {entries : List (String × Json)} {key : String} {value : Json}
    (hget : Entries.get? key entries = some value) : (Json.dict entries).item key = .ok value := by
  unfold Json.item
  simp only [hget]

end Json

end PyValue
