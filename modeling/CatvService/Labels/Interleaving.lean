import CatvService.Labels.NodeLabel

/-!
# Posts that overlap

`CATVNodeLabelPostSerializer.create` reads from the replica and writes to the primary, as
`DatabaseRouter` has it, and no constraint of the table keeps two rows of a key apart.

The primary is the list of its writes, and the replica has applied some first part of it.  The rows
of the replica are rows of the primary, so a post that finds its label updates it; a post that does
not find one inserts a row, whatever the primary got after the part that the replica showed.  Two
rows of a key come up exactly when a row of the key is among that (`unique_iff_insertsAlone`).
-/

namespace CatvService.Labels

open Grouping Runs

/-! ## Primary, replica and posts -/

/-- What a post writes. -/
inductive Write where
  | insert (key : LabelKey) (label : String)
  | setLabel (id : ℕ) (label : String)
  deriving DecidableEq, Repr

def Write.apply (table : LabelTable) : Write → LabelTable
  | .insert key label => table.insert key label
  | .setLabel id label => table.setLabel id label

/-- The key of a row that is inserted. -/
def Write.inserted? : Write → Option LabelKey
  | .insert key _ => some key
  | .setLabel _ _ => none

/-- The table after some writes. -/
def tableOf (log : List Write) : LabelTable :=
  log.foldl Write.apply .empty

/-- Where a call of `create` is. -/
inductive Phase where
  | started
  /-- The replica has been read when it had applied `seen` writes. -/
  | looked (existingLabel : Option CatvNodeLabelModel) (seen : ℕ)
  | finished
  deriving DecidableEq, Repr

structure CreateCall where
  data : ValidatedData
  phase : Phase
  deriving DecidableEq, Repr

/-- The writes of the primary, how many of them the replica has applied, and the calls. -/
structure State where
  log : List Write
  replicated : ℕ
  calls : List CreateCall
  deriving DecidableEq, Repr

def State.initial : State :=
  ⟨[], 0, []⟩

def State.primary (s : State) : LabelTable :=
  tableOf s.log

def State.replica (s : State) : LabelTable :=
  tableOf (s.log.take s.replicated)

inductive Action where
  | arrive (data : ValidatedData)
  | read (index : ℕ)
  | write (index : ℕ)
  | replicate
  deriving DecidableEq, Repr

/-- What a call writes; a text that is too long for its column is refused. -/
def writeOf (data : ValidatedData) (existingLabel : Option CatvNodeLabelModel) : Option Write :=
  match existingLabel with
  | some existing =>
      if data.label.length ≤ 100 then some (.setLabel existing.id data.label) else none
  | none => if data.Fits then some (.insert data.key data.label) else none

/-- A step of one of the calls, or of the replication. -/
def advance (s : State) (action : Action) : Option State :=
  match action with
  | .arrive data => some { s with calls := s.calls ++ [⟨data, .started⟩] }
  | .read index =>
      match s.calls[index]? with
      | some ⟨data, .started⟩ =>
          let existingLabel := s.replica.first fun row => decide (row.key = data.key)
          some { s with calls := s.calls.set index ⟨data, .looked existingLabel s.replicated⟩ }
      | _ => none
  | .write index =>
      match s.calls[index]? with
      | some ⟨data, .looked existingLabel _⟩ =>
          some { s with
            log := s.log ++ (writeOf data existingLabel).toList
            calls := s.calls.set index ⟨data, .finished⟩ }
      | _ => none
  | .replicate =>
      if s.replicated < s.log.length then some { s with replicated := s.replicated + 1 } else none

/-- No report, wallet and user has two labels. -/
def Unique (table : LabelTable) : Prop :=
  (table.rows.map CatvNodeLabelModel.key).Nodup

/-- A call that inserts a row does so before the primary gets another row of its key behind the
writes that its read saw. -/
def InsertsAlone (s : State) (action : Action) : Prop :=
  ∀ index data seen, action = .write index → s.calls[index]? = some ⟨data, .looked none seen⟩ →
    data.Fits → ∀ write ∈ s.log.drop seen, write.inserted? ≠ some data.key

/-! ## The keys of the table -/

theorem map_key_tableOf (log : List Write) :
    (tableOf log).rows.map CatvNodeLabelModel.key = log.filterMap Write.inserted? := by
  induction log using List.reverseRecOn with
  | nil => rfl
  | append_singleton log write ih =>
      rw [List.filterMap_append, ← ih, tableOf, List.foldl_append]
      cases write with
      | insert key label => exact List.map_append
      | setLabel id label =>
          rw [List.filterMap_cons_none rfl, List.filterMap_nil, List.append_nil]
          exact map_key_setLabel _ _ _

theorem notMem_of_first_eq_none {log : List Write} {key : LabelKey}
    (hfirst : (tableOf log).first (fun row => decide (row.key = key)) = none) :
    key ∉ log.filterMap Write.inserted? := by
  rw [← map_key_tableOf]
  intro hmem
  obtain ⟨row, hrow, hkey⟩ := List.mem_map.mp hmem
  exact List.find?_eq_none.mp hfirst row hrow (by simpa using hkey)

/-! ## Steps -/

/-- What a call remembers is what the replica showed. -/
def Remembers (s : State) : Prop :=
  s.replicated ≤ s.log.length ∧
    ∀ call ∈ s.calls, ∀ existingLabel seen, call.phase = .looked existingLabel seen →
      seen ≤ s.log.length ∧
        existingLabel =
          (tableOf (s.log.take seen)).first fun row => decide (row.key = call.data.key)

/-- What a step does to the log. -/
theorem advance_cases {s t : State} {action : Action} (hstep : advance s action = some t) :
    (t.log = s.log ∧ ∀ index, action ≠ .write index) ∨
      ∃ index data existingLabel seen, action = .write index ∧
        s.calls[index]? = some ⟨data, .looked existingLabel seen⟩ ∧
          t = { s with
            log := s.log ++ (writeOf data existingLabel).toList
            calls := s.calls.set index ⟨data, .finished⟩ } := by
  cases action with
  | arrive data =>
      obtain rfl := Option.some.inj hstep
      exact .inl ⟨rfl, by simp⟩
  | read index =>
      simp only [advance] at hstep
      split at hstep
      · obtain rfl := Option.some.inj hstep
        exact .inl ⟨rfl, by simp⟩
      · cases hstep
  | write index =>
      simp only [advance] at hstep
      split at hstep
      · rename_i data existingLabel seen hcall
        obtain rfl := Option.some.inj hstep
        exact .inr ⟨index, data, existingLabel, seen, rfl, hcall, rfl⟩
      · cases hstep
  | replicate =>
      simp only [advance] at hstep
      split at hstep
      · obtain rfl := Option.some.inj hstep
        exact .inl ⟨rfl, by simp⟩
      · cases hstep

theorem remembers_initial : Remembers .initial :=
  ⟨le_rfl, by simp [State.initial]⟩

/-- A longer log shows the same behind the same number of writes. -/
theorem Remembers.append {s : State} (hremembers : Remembers s) (more : List Write) :
    Remembers { s with log := s.log ++ more } := by
  refine ⟨?_, fun call hcall existingLabel seen hphase => ?_⟩
  · rw [List.length_append]
    exact hremembers.1.trans (Nat.le_add_right _ _)
  · obtain ⟨hseen, hexisting⟩ := hremembers.2 call hcall existingLabel seen hphase
    refine ⟨?_, ?_⟩
    · rw [List.length_append]
      exact hseen.trans (Nat.le_add_right _ _)
    · rw [List.take_append_of_le_length hseen]
      exact hexisting

theorem remembers_advance {s t : State} {action : Action} (hremembers : Remembers s)
    (hstep : advance s action = some t) : Remembers t := by
  cases action with
  | arrive data =>
      obtain rfl := Option.some.inj hstep
      refine ⟨hremembers.1, fun call hcall existingLabel seen hphase => ?_⟩
      rcases List.mem_append.mp hcall with hold | hnew
      · exact hremembers.2 call hold existingLabel seen hphase
      · rw [List.mem_singleton.mp hnew] at hphase
        cases hphase
  | read index =>
      simp only [advance] at hstep
      split at hstep
      · rename_i data hcall
        obtain rfl := Option.some.inj hstep
        refine ⟨hremembers.1, fun call hmem existingLabel seen hphase => ?_⟩
        rcases List.mem_or_eq_of_mem_set hmem with hold | rfl
        · exact hremembers.2 call hold existingLabel seen hphase
        · cases hphase
          exact ⟨hremembers.1, rfl⟩
      · cases hstep
  | write index =>
      simp only [advance] at hstep
      split at hstep
      · rename_i data existingLabel seen hcall
        obtain rfl := Option.some.inj hstep
        obtain ⟨hle, hcalls⟩ := hremembers.append (writeOf data existingLabel).toList
        refine ⟨hle, fun call hmem existing number hphase => ?_⟩
        rcases List.mem_or_eq_of_mem_set hmem with hold | rfl
        · exact hcalls call hold existing number hphase
        · cases hphase
      · cases hstep
  | replicate =>
      simp only [advance] at hstep
      split at hstep
      · rename_i hlt
        obtain rfl := Option.some.inj hstep
        exact ⟨hlt, hremembers.2⟩
      · cases hstep

/-- A post inserts a row only if it did not find its label. -/
theorem filterMap_inserted_writeOf (data : ValidatedData)
    (existingLabel : Option CatvNodeLabelModel) :
    (writeOf data existingLabel).toList.filterMap Write.inserted? =
      if existingLabel = none ∧ data.Fits then [data.key] else [] := by
  cases existingLabel with
  | none =>
      by_cases hfits : data.Fits
      · simp [writeOf, hfits, Write.inserted?]
      · simp [writeOf, hfits]
  | some existing =>
      by_cases hlength : data.label.length ≤ 100
      · simp [writeOf, hlength, Write.inserted?]
      · simp [writeOf, hlength]

theorem insertsAlone_write_iff {s : State} {index : ℕ} {data : ValidatedData}
    {existingLabel : Option CatvNodeLabelModel} {seen : ℕ}
    (hcall : s.calls[index]? = some ⟨data, .looked existingLabel seen⟩) :
    InsertsAlone s (.write index) ↔
      (existingLabel = none → data.Fits →
        data.key ∉ (s.log.drop seen).filterMap Write.inserted?) := by
  constructor
  · rintro halone rfl hfits hmem
    obtain ⟨write, hmem, hkey⟩ := List.mem_filterMap.mp hmem
    exact halone index data seen rfl hcall hfits write hmem hkey
  · rintro hnew _ _ _ ⟨⟩ hcall' hfits write hmem hkey
    rw [hcall] at hcall'
    cases hcall'
    exact hnew rfl hfits (List.mem_filterMap.mpr ⟨write, hmem, hkey⟩)

/-- A step leaves no key with two rows exactly if there was none before and it does not insert a
second one. -/
theorem unique_advance_iff {s t : State} {action : Action} (hremembers : Remembers s)
    (hstep : advance s action = some t) :
    Unique t.primary ↔ Unique s.primary ∧ InsertsAlone s action := by
  rcases advance_cases hstep with ⟨hlog, hnot⟩ | ⟨index, data, existingLabel, seen, rfl, hcall, rfl⟩
  · have halone : InsertsAlone s action :=
      fun index _ _ haction => absurd haction (hnot index)
    simp [State.primary, hlog, halone]
  · obtain ⟨-, hexisting⟩ := hremembers.2 _ (List.mem_of_getElem? hcall) existingLabel seen rfl
    unfold Unique State.primary
    rw [map_key_tableOf, map_key_tableOf, List.filterMap_append, filterMap_inserted_writeOf,
      insertsAlone_write_iff hcall]
    by_cases hinsert : existingLabel = none ∧ data.Fits
    · obtain ⟨rfl, hfits⟩ := hinsert
      have hnot := notMem_of_first_eq_none hexisting.symm
      -- a row of the key can only be among the writes that the read did not see
      have hunseen : data.key ∉ s.log.filterMap Write.inserted? ↔
          data.key ∉ (s.log.drop seen).filterMap Write.inserted? := by
        conv_lhs => rw [← List.take_append_drop seen s.log]
        rw [List.filterMap_append, List.mem_append, not_or]
        exact and_iff_right hnot
      rw [if_pos ⟨rfl, hfits⟩, List.nodup_append_comm, List.singleton_append, List.nodup_cons,
        hunseen, and_comm]
      simp [hfits]
    · -- no row is inserted
      have halone : existingLabel = none → data.Fits →
          data.key ∉ (s.log.drop seen).filterMap Write.inserted? :=
        fun hnone hfits => absurd ⟨hnone, hfits⟩ hinsert
      rw [if_neg hinsert, List.append_nil]
      exact (and_iff_left halone).symm

/-! ## Runs -/

/-- **No report, wallet and user ever has two labels exactly if every call that inserts a row does
so before the primary gets a row of its key that the replica had not shown to it.** -/
theorem unique_iff_insertsAlone {actions : List Action} {s : State}
    (hrun : Run advance .initial actions s) :
    AllReach advance .initial (fun s => Unique s.primary) actions ↔
      AllMeet advance .initial InsertsAlone actions := by
  have hend : ∀ {actions s}, Run advance .initial actions s →
      (Unique s.primary ↔ AllMeet advance .initial InsertsAlone actions) := fun hrun =>
    hrun.iff_allMeet Remembers (fun s => Unique s.primary) remembers_initial List.nodup_nil
      (fun _ _ _ => remembers_advance) fun _ _ _ => unique_advance_iff
  constructor
  · intro hreach
    exact (hend hrun).mp (hreach actions [] s (List.append_nil _).symm hrun)
  · intro hall
    exact hall.allReach fun hrun hmeet => (hend hrun).mpr hmeet

/-! ### Two posts of a label -/

def sampleLabel : ValidatedData :=
  ⟨⟨"r1", "0xA", 1⟩, "exchange"⟩

/-- The second post reads before the first one writes. -/
def overlappingPosts : List Action :=
  [.arrive sampleLabel, .arrive sampleLabel, .read 0, .read 1, .write 0, .write 1]

/-- The second post reads when the row of the first one is on the replica. -/
def replicatedPosts : List Action :=
  [.arrive sampleLabel, .read 0, .write 0, .replicate, .arrive sampleLabel, .read 1, .write 1]

theorem unique_iff_insertsAlone_replicated :
    AllReach advance .initial (fun s => Unique s.primary) replicatedPosts ↔
      AllMeet advance .initial InsertsAlone replicatedPosts :=
  unique_iff_insertsAlone (run_of_exec rfl)

theorem not_unique_overlappingPosts :
    ∃ s, Run advance .initial overlappingPosts s ∧ ¬ Unique s.primary :=
  ⟨_, run_of_exec rfl, by unfold Unique; decide⟩

end CatvService.Labels
