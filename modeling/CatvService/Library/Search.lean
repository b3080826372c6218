import Mathlib.Data.Finset.Card
import Mathlib.Logic.Relation

/-!
# Depth-first search that collects edge labels

A recursive search over a labelled graph, with one visited set and one label set shared by all its
calls.  Visiting a vertex for the first time puts the labels of all its edges into the label set
and visits their targets; a visited vertex is left alone.

The recursion is on fuel.  Its nesting never exceeds the number of unvisited vertices that have an
edge, so any bound on those vertices is enough fuel (`explored_visitAll`, and `visitAll?_eq_some`
for the search that fails without fuel); `mem_labels_iff` then says exactly what a search from a
list of roots has seen.

The search may start from a set of vertices that are visited without ever having been explored.
Those are barriers: the search reaches a vertex along the paths that avoid them.
-/

namespace Search

open Relation

variable {V L : Type*}

/-- The labelled edges out of each vertex. -/
abbrev Adjacency (V L : Type*) := V → List (L × V)

/-- What the calls of one search share. -/
structure State (V L : Type*) where
  visited : Finset V
  labels : Finset L

/-! ## Paths around a set of barriers -/

/-- One edge, between two vertices that are not barriers. -/
def Hop (graph : Adjacency V L) (barrier : Finset V) (v w : V) : Prop :=
  v ∉ barrier ∧ w ∉ barrier ∧ ∃ label, (label, w) ∈ graph v

/-- A path of edges that avoids the barriers, its end points included. -/
def Reaches (graph : Adjacency V L) (barrier : Finset V) (v w : V) : Prop :=
  v ∉ barrier ∧ ReflTransGen (Hop graph barrier) v w

section Paths

variable {graph : Adjacency V L} {barrier : Finset V} {u v w : V}

theorem Reaches.refl (hv : v ∉ barrier) : Reaches graph barrier v v :=
  ⟨hv, .refl⟩

theorem Reaches.head {label : L} (hu : u ∉ barrier) (hedge : (label, v) ∈ graph u)
    (hreach : Reaches graph barrier v w) : Reaches graph barrier u w :=
  ⟨hu, .head ⟨hu, hreach.1, label, hedge⟩ hreach.2⟩

theorem Reaches.mono {small large : Finset V} (hsubset : small ⊆ large)
    (hreach : Reaches graph large v w) : Reaches graph small v w := by
  refine ⟨fun hv => hreach.1 (hsubset hv), ReflTransGen.mono ?_ _ _ hreach.2⟩
  rintro x y ⟨hx, hy, hedge⟩
  exact ⟨fun hmem => hx (hsubset hmem), fun hmem => hy (hsubset hmem), hedge⟩

end Paths

/-! ## What a piece of the search may do -/

/-- The contract of any piece of the search that visits the vertices `starts` and puts the labels
`given` into the label set by itself: it only adds, every vertex it adds is reachable from a start
around the vertices visited before, and a vertex it adds has been explored completely. -/
structure Explored (graph : Adjacency V L) (given : List L) (starts : List V)
    (before after : State V L) : Prop where
  visited_mono : before.visited ⊆ after.visited
  labels_mono : before.labels ⊆ after.labels
  given_labelled : ∀ label ∈ given, label ∈ after.labels
  starts_visited : ∀ v ∈ starts, v ∈ after.visited
  reached : ∀ u ∈ after.visited, u ∉ before.visited →
    ∃ v ∈ starts, Reaches graph before.visited v u
  closed : ∀ u ∈ after.visited, u ∉ before.visited →
    ∀ edge ∈ graph u, edge.2 ∈ after.visited ∧ edge.1 ∈ after.labels
  labelled : ∀ label ∈ after.labels, label ∉ before.labels →
    label ∈ given ∨ ∃ u ∈ after.visited, u ∉ before.visited ∧ ∃ w, (label, w) ∈ graph u

namespace Explored

variable {graph : Adjacency V L}

theorem refl {starts : List V} {state : State V L} (hstarts : ∀ v ∈ starts, v ∈ state.visited) :
    Explored graph [] starts state state where
  visited_mono := Finset.Subset.refl _
  labels_mono := Finset.Subset.refl _
  given_labelled := by simp
  starts_visited := hstarts
  reached := fun _ hmem hnot => absurd hmem hnot
  closed := fun _ hmem hnot => absurd hmem hnot
  labelled := fun _ hmem hnot => absurd hmem hnot

theorem trans {given given' : List L} {starts starts' : List V} {first second third : State V L}
    (h₁ : Explored graph given starts first second)
    (h₂ : Explored graph given' starts' second third) :
    Explored graph (given ++ given') (starts ++ starts') first third where
  visited_mono := h₁.visited_mono.trans h₂.visited_mono
  labels_mono := h₁.labels_mono.trans h₂.labels_mono
  given_labelled := by
    intro label hlabel
    rcases List.mem_append.mp hlabel with hlabel | hlabel
    · exact h₂.labels_mono (h₁.given_labelled label hlabel)
    · exact h₂.given_labelled label hlabel
  starts_visited := by
    intro v hv
    rcases List.mem_append.mp hv with hv | hv
    · exact h₂.visited_mono (h₁.starts_visited v hv)
    · exact h₂.starts_visited v hv
  reached := by
    intro u hu hnot
    by_cases hsecond : u ∈ second.visited
    · obtain ⟨v, hv, hreach⟩ := h₁.reached u hsecond hnot
      exact ⟨v, List.mem_append_left _ hv, hreach⟩
    · obtain ⟨v, hv, hreach⟩ := h₂.reached u hu hsecond
      exact ⟨v, List.mem_append_right _ hv, hreach.mono h₁.visited_mono⟩
  closed := by
    intro u hu hnot edge hedge
    by_cases hsecond : u ∈ second.visited
    · obtain ⟨htarget, hlabel⟩ := h₁.closed u hsecond hnot edge hedge
      exact ⟨h₂.visited_mono htarget, h₂.labels_mono hlabel⟩
    · exact h₂.closed u hu hsecond edge hedge
  labelled := by
    intro label hlabel hnot
    by_cases hsecond : label ∈ second.labels
    · rcases h₁.labelled label hsecond hnot with hgiven | ⟨u, hu, hfresh, hedge⟩
      · exact .inl (List.mem_append_left _ hgiven)
      · exact .inr ⟨u, h₂.visited_mono hu, hfresh, hedge⟩
    · rcases h₂.labelled label hlabel hsecond with hgiven | ⟨u, hu, hfresh, hedge⟩
      · exact .inl (List.mem_append_right _ hgiven)
      · exact .inr ⟨u, hu, fun hold => hfresh (h₁.visited_mono hold), hedge⟩

/-- A loop whose rounds each meet the contract. -/
theorem foldl {ι : Type*} {act : State V L → ι → State V L} {given : ι → List L}
    {starts : ι → List V} (items : List ι) {state : State V L}
    (hround : ∀ current, state.visited ⊆ current.visited → ∀ item ∈ items,
      Explored graph (given item) (starts item) current (act current item)) :
    Explored graph (items.flatMap given) (items.flatMap starts) state
      (items.foldl act state) := by
  induction items generalizing state with
  | nil => exact refl (by simp)
  | cons item rest ih =>
      have hfirst := hround state (Finset.Subset.refl _) item (List.mem_cons_self ..)
      refine hfirst.trans (ih fun current hsubset other hother => ?_)
      exact hround current (hfirst.visited_mono.trans hsubset) other
        (List.mem_cons_of_mem _ hother)

/-- Everything reachable from a start around the barriers has been visited. -/
theorem visited_of_reaches {given : List L} {starts : List V} {before after : State V L}
    (h : Explored graph given starts before after) {v w : V} (hv : v ∈ starts)
    (hreach : Reaches graph before.visited v w) : w ∈ after.visited := by
  obtain ⟨_, hpath⟩ := hreach
  induction hpath with
  | refl => exact h.starts_visited v hv
  | tail _ hop ih =>
      obtain ⟨hfresh, -, label, hedge⟩ := hop
      exact (h.closed _ ih hfresh _ hedge).1

end Explored

theorem Reaches.target_notMem {graph : Adjacency V L} {barrier : Finset V} {v w : V}
    (hreach : Reaches graph barrier v w) : w ∉ barrier := by
  obtain ⟨hv, hpath⟩ := hreach
  cases hpath with
  | refl => exact hv
  | tail _ hop => exact hop.2.1

/-! ### A barrier more -/

theorem Reaches.tail {graph : Adjacency V L} {barrier : Finset V} {u v w : V} {label : L}
    (hreach : Reaches graph barrier u v) (hv : v ∉ barrier) (hw : w ∉ barrier)
    (hedge : (label, w) ∈ graph v) : Reaches graph barrier u w :=
  ⟨hreach.1, hreach.2.tail ⟨hv, hw, label, hedge⟩⟩

theorem Reaches.trans {graph : Adjacency V L} {barrier : Finset V} {u v w : V}
    (hfirst : Reaches graph barrier u v) (hsecond : Reaches graph barrier v w) :
    Reaches graph barrier u w :=
  ⟨hfirst.1, hfirst.2.trans hsecond.2⟩

theorem Reaches.avoids_or_passes [DecidableEq V] {graph : Adjacency V L} {barrier : Finset V}
    {u w : V} (v : V) (hreach : Reaches graph barrier u w) :
    Reaches graph (insert v barrier) u w ∨
      Reaches graph barrier u v ∧ Reaches graph barrier v w := by
  obtain ⟨hu, hpath⟩ := hreach
  induction hpath with
  | refl =>
      by_cases heq : u = v
      · subst heq
        exact .inr ⟨Reaches.refl hu, Reaches.refl hu⟩
      · exact .inl (Reaches.refl (by simp [heq, hu]))
  | tail hpath hop ih =>
      obtain ⟨hmid, hlast, label, hedge⟩ := hop
      rename_i mid last
      rcases ih with havoids | ⟨hfirst, hsecond⟩
      · by_cases heq : last = v
        · subst heq
          exact .inr ⟨Reaches.tail ⟨hu, hpath⟩ hmid hlast hedge, Reaches.refl hlast⟩
        · have hmid' : mid ∉ insert v barrier := havoids.target_notMem
          exact .inl (havoids.tail hmid' (by simp [heq, hlast]) hedge)
      · exact .inr ⟨hfirst, hsecond.tail hmid hlast hedge⟩

theorem Explored.mem_labels_iff {graph : Adjacency V L} {starts : List V} {before after : State V L}
    (h : Explored graph [] starts before after) (label : L) :
    label ∈ after.labels ↔ label ∈ before.labels ∨
      ∃ v ∈ starts, ∃ u, Reaches graph before.visited v u ∧ ∃ w, (label, w) ∈ graph u := by
  constructor
  · intro hlabel
    refine or_iff_not_imp_left.mpr fun hnot => ?_
    rcases h.labelled label hlabel hnot with hgiven | ⟨u, hu, hfresh, hedge⟩
    · simp at hgiven
    · obtain ⟨v, hv, hreach⟩ := h.reached u hu hfresh
      exact ⟨v, hv, u, hreach, hedge⟩
  · rintro (hlabel | ⟨v, hv, u, hreach, w, hedge⟩)
    · exact h.labels_mono hlabel
    · exact (h.closed u (h.visited_of_reaches hv hreach) hreach.target_notMem _ hedge).2

/-! ## The search -/

variable [DecidableEq V] [DecidableEq L]

/-- Visit a vertex. -/
def visit (graph : Adjacency V L) : ℕ → V → State V L → State V L
  | 0, _, state => state
  | fuel + 1, v, state =>
      if v ∈ state.visited then state
      else
        (graph v).foldl
          (fun state edge =>
            visit graph fuel edge.2 { state with labels := insert edge.1 state.labels })
          { state with visited := insert v state.visited }

/-- Visit the roots in order. -/
def visitAll (graph : Adjacency V L) (fuel : ℕ) (roots : List V) (state : State V L) : State V L :=
  roots.foldl (fun state root => visit graph fuel root state) state

omit [DecidableEq V] in
/-- The contract of an edge: its label goes in, then its target is visited. -/
theorem Explored.edge {graph : Adjacency V L} {state after : State V L} {label : L} {w : V}
    (h : Explored graph [] [w] { state with labels := insert label state.labels } after) :
    Explored graph [label] [w] state after where
  visited_mono := h.visited_mono
  labels_mono := (Finset.subset_insert _ _).trans h.labels_mono
  given_labelled := by
    intro other hother
    rw [List.mem_singleton] at hother
    exact h.labels_mono (hother ▸ Finset.mem_insert_self _ _)
  starts_visited := h.starts_visited
  reached := h.reached
  closed := h.closed
  labelled := by
    intro other hother hnot
    by_cases heq : other = label
    · exact .inl (by simp [heq])
    · refine .inr ?_
      have hfresh : other ∉ insert label state.labels := by simp [heq, hnot]
      rcases h.labelled other hother hfresh with hgiven | hvertex
      · simp at hgiven
      · exact hvertex

omit [DecidableEq L] in
/-- The contract of a vertex: it is marked, then all its edges are followed. -/
theorem Explored.vertex {graph : Adjacency V L} {state after : State V L} {v : V}
    (hfresh : v ∉ state.visited)
    (h : Explored graph ((graph v).flatMap fun edge => [edge.1])
      ((graph v).flatMap fun edge => [edge.2])
      { state with visited := insert v state.visited } after) :
    Explored graph [] [v] state after := by
  have hself : v ∈ after.visited := h.visited_mono (Finset.mem_insert_self _ _)
  have htargets : ∀ edge ∈ graph v, edge.2 ∈ after.visited ∧ edge.1 ∈ after.labels :=
    fun edge hedge => ⟨h.starts_visited _ (List.mem_flatMap.mpr ⟨edge, hedge, by simp⟩),
      h.given_labelled _ (List.mem_flatMap.mpr ⟨edge, hedge, by simp⟩)⟩
  refine ⟨(Finset.subset_insert _ _).trans h.visited_mono, h.labels_mono, by simp, by simpa,
    ?_, ?_, ?_⟩
  · intro u hu hnot
    by_cases heq : u = v
    · subst heq
      exact ⟨u, by simp, Reaches.refl hnot⟩
    · obtain ⟨w, hw, hreach⟩ := h.reached u hu (by simp [heq, hnot])
      obtain ⟨edge, hedge, hmem⟩ := List.mem_flatMap.mp hw
      rw [List.mem_singleton] at hmem
      subst hmem
      exact ⟨v, by simp,
        Reaches.head hfresh hedge (hreach.mono (Finset.subset_insert _ _))⟩
  · intro u hu hnot edge hedge
    by_cases heq : u = v
    · exact htargets edge (heq ▸ hedge)
    · exact h.closed u hu (by simp [heq, hnot]) edge hedge
  · intro label hlabel hnot
    right
    rcases h.labelled label hlabel hnot with hgiven | ⟨u, hu, hnew, hedge⟩
    · obtain ⟨edge, hedge, hmem⟩ := List.mem_flatMap.mp hgiven
      rw [List.mem_singleton] at hmem
      exact ⟨v, hself, hfresh, edge.2, hmem ▸ hedge⟩
    · exact ⟨u, hu, fun hold => hnew (Finset.mem_insert_of_mem hold), hedge⟩

omit [DecidableEq L] in
/-- Whoever has visited a fresh vertex with an edge has one vertex less to visit. -/
theorem card_sdiff_lt {active visited current : Finset V} {v : V} (hmem : v ∈ active)
    (hfresh : v ∉ visited) (hcurrent : insert v visited ⊆ current) :
    (active \ current).card < (active \ visited).card := by
  refine Finset.card_lt_card ⟨Finset.sdiff_subset_sdiff (Finset.Subset.refl _)
    ((Finset.subset_insert _ _).trans hcurrent), fun hback => ?_⟩
  have hin := hback (Finset.mem_sdiff.mpr ⟨hmem, hfresh⟩)
  exact (Finset.mem_sdiff.mp hin).2 (hcurrent (Finset.mem_insert_self _ _))

/-- With more fuel than there are unvisited vertices with an edge, a visit meets its contract.
The induction is on the fuel: a fresh vertex with an edge leaves one vertex less to visit. -/
theorem explored_visit {graph : Adjacency V L} {active : Finset V}
    (hactive : ∀ v, graph v ≠ [] → v ∈ active) (fuel : ℕ) (v : V) (state : State V L)
    (hfuel : (active \ state.visited).card < fuel) :
    Explored graph [] [v] state (visit graph fuel v state) := by
  induction fuel generalizing v state with
  | zero => exact absurd hfuel (Nat.not_lt_zero _)
  | succ fuel ih =>
      rw [visit]
      split
      · rename_i hvisited
        exact .refl (by simpa using hvisited)
      · rename_i hfresh
        refine .vertex hfresh (.foldl (graph v) fun current hsubset edge hedge => .edge ?_)
        have hlt := card_sdiff_lt (hactive v (List.ne_nil_of_mem hedge)) hfresh hsubset
        exact ih edge.2 _ (by simpa using by omega)

theorem explored_visitAll {graph : Adjacency V L} {active : Finset V}
    (hactive : ∀ v, graph v ≠ [] → v ∈ active) {fuel : ℕ} (roots : List V) {state : State V L}
    (hfuel : active.card < fuel) :
    Explored graph [] roots state (visitAll graph fuel roots state) := by
  have hloop : Explored graph (roots.flatMap fun _ => []) (roots.flatMap fun root => [root]) state
      (visitAll graph fuel roots state) :=
    .foldl roots fun current _ root _ => explored_visit hactive fuel root current
      ((Finset.card_le_card Finset.sdiff_subset).trans_lt hfuel)
  have hgiven : (roots.flatMap fun _ => ([] : List L)) = [] :=
    List.flatMap_eq_nil_iff.mpr fun _ _ => rfl
  have hstarts : (roots.flatMap fun root => [root]) = roots := by simp
  rwa [hgiven, hstarts] at hloop

/-! ## The depth of the recursion -/

/-- Visit a vertex; there is no result if the calls nest deeper than the fuel allows. -/
def visit? (graph : Adjacency V L) : ℕ → V → State V L → Option (State V L)
  | 0, _, _ => none
  | fuel + 1, v, state =>
      if v ∈ state.visited then some state
      else
        (graph v).foldlM
          (fun state edge =>
            visit? graph fuel edge.2 { state with labels := insert edge.1 state.labels })
          { state with visited := insert v state.visited }

/-- Visit the roots in order, as far as the fuel allows. -/
def visitAll? (graph : Adjacency V L) (fuel : ℕ) (roots : List V) (state : State V L) :
    Option (State V L) :=
  roots.foldlM (fun state root => visit? graph fuel root state) state

omit [DecidableEq V] [DecidableEq L] in
theorem foldlM_eq_some {ι : Type*} {act? : State V L → ι → Option (State V L)}
    {act : State V L → ι → State V L} (items : List ι) {state : State V L}
    (hround : ∀ current, state.visited ⊆ current.visited → ∀ item ∈ items,
      act? current item = some (act current item) ∧
        current.visited ⊆ (act current item).visited) :
    items.foldlM act? state = some (items.foldl act state) := by
  induction items generalizing state with
  | nil => rfl
  | cons item rest ih =>
      obtain ⟨hact, hmono⟩ := hround state (Finset.Subset.refl _) item List.mem_cons_self
      have hrest : rest.foldlM act? (act state item) = some (rest.foldl act (act state item)) := by
        apply ih
        intro current hsubset other hother
        exact hround current (hmono.trans hsubset) other (List.mem_cons_of_mem _ hother)
      rw [List.foldlM_cons, hact]
      exact hrest

/-- With more fuel than there are unvisited vertices with an edge, a visit has a result. -/
theorem visit?_eq_some {graph : Adjacency V L} {active : Finset V}
    (hactive : ∀ v, graph v ≠ [] → v ∈ active) (fuel : ℕ) (v : V) (state : State V L)
    (hfuel : (active \ state.visited).card < fuel) :
    visit? graph fuel v state = some (visit graph fuel v state) := by
  induction fuel generalizing v state with
  | zero => exact absurd hfuel (Nat.not_lt_zero _)
  | succ fuel ih =>
      rw [visit?, visit]
      split
      · rfl
      · rename_i hfresh
        apply foldlM_eq_some
        intro current hsubset edge hedge
        have hlt := card_sdiff_lt (hactive v (List.ne_nil_of_mem hedge)) hfresh hsubset
        have hfuel' : (active \ current.visited).card < fuel := by omega
        have hexplored : Explored graph [] [edge.2]
            { current with labels := insert edge.1 current.labels }
            (visit graph fuel edge.2 { current with labels := insert edge.1 current.labels }) :=
          explored_visit hactive fuel edge.2 _ hfuel'
        exact ⟨ih edge.2 _ hfuel', hexplored.visited_mono⟩

theorem visitAll?_eq_some {graph : Adjacency V L} {active : Finset V}
    (hactive : ∀ v, graph v ≠ [] → v ∈ active) {fuel : ℕ} (roots : List V) {state : State V L}
    (hfuel : active.card < fuel) :
    visitAll? graph fuel roots state = some (visitAll graph fuel roots state) := by
  apply foldlM_eq_some
  intro current _ root _
  have hfuel' : (active \ current.visited).card < fuel :=
    (Finset.card_le_card Finset.sdiff_subset).trans_lt hfuel
  exact ⟨visit?_eq_some hactive fuel root current hfuel',
    (explored_visit hactive fuel root current hfuel').visited_mono⟩

end Search
