import CatvService.Graph.Edges
import CatvService.Library.Grouping

/-!
# What the edges of a report add up

`assign_edges` on the enumeration of `assign_nodes`, with exact arithmetic.

The loop goes through the rows once and holds the edges of the rows so far (`Built`): one for every
pair that has occurred, numbered by the order of first occurrence, with the rows of its pair in
their order.  A row of a pair that is there extends its edge; any other row opens the next one.
-/

namespace CatvService.Graph

open Dictionary Grouping PyText PyValue

theorem edgeWidth_exact (sum : ℚ) : edgeWidth .exact sum = max 1 (min 4 (4 / 10 * sum)) := by
  simp only [edgeWidth, FloatOps.exact, id, gt_iff_lt, mul_comm sum]
  split
  · rename_i hlarge
    rw [min_eq_left hlarge.le]
    norm_num
  · rename_i hsmall
    rw [min_eq_right (not_lt.mp hsmall)]
    split
    · rename_i hlow
      exact (max_eq_left hlow.le).symm
    · rename_i hhigh
      exact (max_eq_right (not_lt.mp hhigh)).symm

/-! ## The edges of the rows so far -/

/-- The total of the absolute amounts of some rows. -/
def totalAmount (rows : List Transaction) : ℚ :=
  (rows.map fun row => |row.amount|).sum

/-- The edge with number `i`, when `rows` are the rows of its pair. -/
structure Aggregates (mode : Mode) (nodeEnum : Dict String ℤ) (i : ℕ) (pair : String × String)
    (rows : List Transaction) (edge : Edge) : Prop where
  id : edge.id = toString i ++ "_" ++ toString mode.toInt
  source : nodeEnum.get? pair.1 = some edge.source
  target : nodeEnum.get? pair.2 = some edge.target
  data : edge.data = rows.map Transaction.datum
  sum : edge.sum = totalAmount rows
  width : edge.width = max 1 (min 4 (4 / 10 * edge.sum))

/-- What the loop holds after the rows `done`. -/
structure Built (mode : Mode) (nodeEnum : Dict String ℤ) (done : List Transaction) (counter : ℕ)
    (edges : EdgeDict) : Prop where
  keys : edges.keys = firstKeys Transaction.pair done
  counter : counter = edges.keys.length
  edge : ∀ (i : ℕ) (key : String × String), edges.keys[i]? = some key →
    ∃ edge, edges.get? key = some edge ∧
      Aggregates mode nodeEnum i key (group Transaction.pair done key) edge

variable {mode : Mode} {nodeEnum : Dict String ℤ} {done : List Transaction} {counter : ℕ}
  {edges : EdgeDict} {row : Transaction}

theorem built_nil (mode : Mode) (nodeEnum : Dict String ℤ) :
    Built mode nodeEnum [] 0 Dict.empty where
  keys := rfl
  counter := rfl
  edge := by simp

theorem Aggregates.extend {i : ℕ} {pair : String × String} {rows : List Transaction} {edge : Edge}
    (hedge : Aggregates mode nodeEnum i pair rows edge) (row : Transaction) :
    Aggregates mode nodeEnum i pair (rows ++ [row])
      ((edge.extend .exact row).withWidth .exact) where
  id := hedge.id
  source := hedge.source
  target := hedge.target
  data := by
    rw [List.map_append, ← hedge.data]
    rfl
  sum := by
    rw [totalAmount, List.map_append, List.sum_append, ← totalAmount, ← hedge.sum]
    simp [Edge.withWidth, Edge.extend, FloatOps.exact]
  width := edgeWidth_exact _

theorem aggregates_createEdge {edge : Edge} {i : ℕ}
    (hedge : createEdge (toString i ++ "_" ++ toString mode.toInt) row nodeEnum = .ok edge) :
    Aggregates mode nodeEnum i row.pair [row] (edge.withWidth .exact) := by
  simp only [createEdge, bind_eq_ok_iff] at hedge
  obtain ⟨source, hsource, target, htarget, hedge⟩ := hedge
  cases hedge
  exact ⟨rfl, get?_of_lookup hsource, get?_of_lookup htarget, rfl,
    by simp [Edge.withWidth, totalAmount], edgeWidth_exact _⟩

theorem Built.update (hbuilt : Built mode nodeEnum done counter edges) {edge : Edge}
    (hget : edges.get? row.pair = some edge) :
    Built mode nodeEnum (done ++ [row]) counter
      (edges.set row.pair ((edge.extend .exact row).withWidth .exact)) := by
  have hmem : row.pair ∈ edges.keys := Dict.mem_keys_iff.mpr ⟨edge, hget⟩
  have hkeys : (edges.set row.pair ((edge.extend .exact row).withWidth .exact)).keys =
      edges.keys := by rw [Dict.keys_set, if_pos hmem]
  refine ⟨?_, ?_, fun i key hkey => ?_⟩
  · rw [hkeys, firstKeys_concat_of_mem (hbuilt.keys ▸ hmem)]
    exact hbuilt.keys
  · rw [hkeys]
    exact hbuilt.counter
  · rw [hkeys] at hkey
    obtain ⟨old, hold, haggregates⟩ := hbuilt.edge i key hkey
    by_cases heq : row.pair = key
    · subst heq
      obtain rfl : edge = old := Option.some_inj.mp (hget.symm.trans hold)
      refine ⟨_, Dict.get?_set_self _ _ _, ?_⟩
      rw [group_concat_self]
      exact haggregates.extend row
    · refine ⟨old, (Dict.get?_set_of_ne heq _).trans hold, ?_⟩
      rw [group_concat_of_ne heq]
      exact haggregates

theorem Built.create (hbuilt : Built mode nodeEnum done counter edges)
    (hget : edges.get? row.pair = none) {edge : Edge}
    (hedge : createEdge (toString counter ++ "_" ++ toString mode.toInt) row nodeEnum = .ok edge) :
    Built mode nodeEnum (done ++ [row]) (counter + 1)
      (edges.set row.pair (edge.withWidth .exact)) := by
  have hnot : row.pair ∉ edges.keys := by
    intro hmem
    obtain ⟨old, hold⟩ := Dict.mem_keys_iff.mp hmem
    rw [hget] at hold
    cases hold
  have hnot' : row.pair ∉ firstKeys Transaction.pair done := hbuilt.keys ▸ hnot
  have hkeys : (edges.set row.pair (edge.withWidth .exact)).keys = edges.keys ++ [row.pair] := by
    rw [Dict.keys_set, if_neg hnot]
  refine ⟨?_, ?_, fun i key hkey => ?_⟩
  · rw [hkeys, firstKeys_concat_of_notMem hnot', hbuilt.keys]
  · rw [hkeys, List.length_append, hbuilt.counter]
    rfl
  · rw [hkeys, List.getElem?_append] at hkey
    split at hkey
    · -- an edge that was there: its pair is not the new one
      have hne : row.pair ≠ key := by
        rintro rfl
        exact hnot (List.mem_of_getElem? hkey)
      obtain ⟨old, hold, haggregates⟩ := hbuilt.edge i key hkey
      refine ⟨old, (Dict.get?_set_of_ne hne _).trans hold, ?_⟩
      rw [group_concat_of_ne hne]
      exact haggregates
    · -- the new edge, which has the number of the counter
      rename_i hlast
      obtain ⟨hlt, hkey⟩ := List.getElem?_eq_some_iff.mp hkey
      rw [List.length_singleton] at hlt
      obtain rfl : i = counter := by
        have := hbuilt.counter
        omega
      obtain rfl : row.pair = key := by simpa using hkey
      refine ⟨_, Dict.get?_set_self _ _ _, ?_⟩
      rw [group_concat_self, group_eq_nil_of_notMem hnot']
      exact aggregates_createEdge hedge

/-- The loop, when it does not raise, adds the edges of the rows. -/
theorem Built.addEdges {rows : List Transaction} {result : EdgeDict}
    (hbuilt : Built mode nodeEnum done counter edges)
    (hresult : Graph.addEdges .exact mode nodeEnum rows counter edges = .ok result) :
    ∃ counter', Built mode nodeEnum (done ++ rows) counter' result := by
  induction rows generalizing done counter edges with
  | nil =>
      cases hresult
      exact ⟨counter, by rwa [List.append_nil]⟩
  | cons row rows ih =>
      rw [List.append_cons]
      unfold Graph.addEdges at hresult
      split at hresult
      · rename_i edge hget
        exact ih (hbuilt.update hget) hresult
      · rename_i hget
        obtain ⟨edge, hedge, hrest⟩ := bind_eq_ok_iff.mp hresult
        exact ih (hbuilt.create hget hedge) hrest

/-! ## The total of the sums -/

theorem Built.sum_eq (hbuilt : Built mode nodeEnum done counter edges) :
    (edges.values.map Edge.sum).sum = totalAmount done := by
  have hsum : ∀ entry ∈ edges.entries,
      entry.2.sum = totalAmount (group Transaction.pair done entry.1) := by
    intro entry hentry
    have hkey : entry.1 ∈ edges.keys := List.mem_map.mpr ⟨entry, hentry, rfl⟩
    obtain ⟨i, hi⟩ := List.getElem?_of_mem hkey
    obtain ⟨edge, hedge, haggregates⟩ := hbuilt.edge i entry.1 hi
    obtain rfl : entry.2 = edge :=
      Option.some_inj.mp ((Dict.mem_entries_iff.mp hentry).symm.trans hedge)
    exact haggregates.sum
  calc (edges.values.map Edge.sum).sum
      = (edges.entries.map fun entry => totalAmount (group Transaction.pair done entry.1)).sum := by
        rw [Dict.values, List.map_map]
        congr 1
        exact List.map_congr_left hsum
    _ = (edges.keys.map fun key => totalAmount (group Transaction.pair done key)).sum := by
        rw [Dict.keys, List.map_map]
        rfl
    _ = totalAmount done := by
        rw [hbuilt.keys]
        exact sum_map_group _ _ _

/-! ## The edges of a report -/

/-- In a list whose inner ends are the wallet or outer ends, both ends of every row have a node. -/
theorem ends_mem_of_closed {result : List Transaction} {wallet : String} {nodes : List String}
    (hclosed : ∀ row ∈ result, mode.inner row = wallet ∨
      ∃ other ∈ result, mode.outer other = mode.inner row)
    (hwallet : wallet ∈ nodes) (houter : ∀ row ∈ result, mode.outer row ∈ nodes) :
    ∀ row ∈ result, row.sender ∈ nodes ∧ row.receiver ∈ nodes := by
  intro row hrow
  have hinner : mode.inner row ∈ nodes := by
    rcases hclosed row hrow with heq | ⟨other, hother, heq⟩
    · exact heq ▸ hwallet
    · exact heq ▸ houter other hother
  cases mode with
  | distribution => exact ⟨hinner, houter row hrow⟩
  | source => exact ⟨houter row hrow, hinner⟩

/-- **The edges of a report.** On a list whose inner ends are all the wallet or outer ends there is
one edge for every pair of sender and receiver, in order of first appearance, which holds the rows
of its pair; the sums of the edges add up to the total of the list. -/
theorem assignEdges_assignNodes {result : List Transaction} {first : Transaction}
    (hfirst : result.head? = some first) (mode : Mode) (tokenType : String)
    (hclosed : ∀ row ∈ result, mode.inner row = mode.inner first ∨
      ∃ other ∈ result, mode.outer other = mode.inner row) :
    ∃ nc volumeCount edges, assignNodes result mode tokenType = .ok (nc, volumeCount) ∧
      assignEdges .exact result mode nc.getNodeEnum = .ok edges ∧
        edges.keys = firstKeys Transaction.pair result ∧
          (∀ (i : ℕ) (key : String × String), edges.keys[i]? = some key →
            ∃ edge, edges.get? key = some edge ∧
              Aggregates mode nc.getNodeEnum i key (group Transaction.pair result key) edge) ∧
            (edges.values.map Edge.sum).sum = totalAmount result := by
  obtain ⟨rest, rfl⟩ := List.head?_eq_some_iff.mp hfirst
  obtain ⟨nc, volumeCount, hnodes, hrooted, -, houter⟩ :=
    assignNodes_cons first rest mode tokenType
  have hkeys : nc.getNodeEnum.keys = nc.nodes.keys := Dict.keys_map _ _
  have hends := ends_mem_of_closed hclosed (List.mem_of_mem_head? hrooted.head) houter
  rw [← hkeys] at hends
  obtain ⟨edges, hedges⟩ := exists_addEdges hends 0 Dict.empty
  obtain ⟨counter, hbuilt⟩ := (built_nil mode nc.getNodeEnum).addEdges hedges
  rw [List.nil_append] at hbuilt
  exact ⟨nc, volumeCount, edges, hnodes, hedges, hbuilt.keys, hbuilt.edge, hbuilt.sum_eq⟩

/-- A wallet that pays one address twice, with a payment of that address in between. -/
theorem assignEdges_assignNodes_repeated :
    let result := [sampleRow "0xW" "0xA" 5 1, sampleRow "0xA" "0xB" 4 2, sampleRow "0xW" "0xA" 3 1]
    ∃ nc volumeCount edges, assignNodes result .distribution "ETH" = .ok (nc, volumeCount) ∧
      assignEdges .exact result .distribution nc.getNodeEnum = .ok edges ∧
        edges.keys = firstKeys Transaction.pair result ∧
          (∀ (i : ℕ) (key : String × String), edges.keys[i]? = some key →
            ∃ edge, edges.get? key = some edge ∧ Aggregates .distribution nc.getNodeEnum i key
              (group Transaction.pair result key) edge) ∧
            (edges.values.map Edge.sum).sum = totalAmount result :=
  assignEdges_assignNodes rfl .distribution "ETH" (by decide)

end CatvService.Graph
