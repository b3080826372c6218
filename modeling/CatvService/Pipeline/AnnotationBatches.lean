import CatvService.Library.Retry
import CatvService.Library.Slicing
import CatvService.Library.Value
import Mathlib.Data.Rat.Floor
import Mathlib.Tactic.FieldSimp

/-!
# Annotations in batches

`fetch_annotations_from_es` of `api/api_views.py` asks Elasticsearch for the annotations of a list
of addresses, 200 at a time.

The number of rounds is computed from the number of addresses and one more, and `start` is moved
on separately.  So a list whose length is a multiple of 200 has one more round, which asks for
nothing.

* `posted_eq`: the loop posts the first windows of the list of clauses, until an answer raises;
* `partitionsAddresses_iff`: when the posted lists are a partition without empty parts.
-/

namespace CatvService.Pipeline

open PyValue PyText Dictionary Slicing

/-! ## The model -/

/-- The clause of `addr_query` for an address. -/
def addressClause (a : String) : Json :=
  .dict [("bool", .dict [
    ("must", .dict [("match", .dict [("pattern", .str a)])]),
    ("should", .list [
      .dict [("match", .dict [("cases", .str "released")])],
      .dict [("match", .dict [("cases", .str "confirmed")])]])])]

/-- `query`. -/
def esQuery (chunkedAddrQuery : List Json) : Json :=
  .dict [("size", .int 10000),
    ("_source", .list [.str "pattern", .str "annotations", .str "security_category"]),
    ("query", .dict [("bool", .dict [("should", .list chunkedAddrQuery)])]),
    ("sort", .dict [("created", .dict [("order", .str "desc")])])]

/-- A value of `annotation_dict`. -/
structure EsDetails where
  annotation : Json
  securityCategory : Json

/-- `[r['_source'] for r in es_res.json()['hits']['hits']]`, reversed. -/
def sourcesOf (esRes : Json) : Except PyErr (List Json) := do
  let hits ← (← esRes.item "hits").item "hits"
  let sources ← (← hits.iter).mapM fun r => r.item "_source"
  return sources.reverse

/-- The entry of `annotation_dict` that is made of a source. -/
def entryOf (q : Json) : Except PyErr (String × EsDetails) := do
  let pattern ← (← q.item "pattern").lower
  let annotations ← q.item "annotations"
  if annotations.truthy then
    return (pattern, ⟨annotations, ← q.item "security_category"⟩)
  else return (pattern, ⟨.str "", .str ""⟩)

/-- What a round makes of the answer to its request. -/
def readAnswer (answer : Except PyErr Json) : Except PyErr (List (String × EsDetails)) := do
  (← sourcesOf (← answer)).mapM entryOf

/-- The clause lists that were posted, and what the function returns. -/
structure EsRun where
  posted : List (List Json)
  annotationDict : Except PyErr (Dict String EsDetails)

/-- The loop over `a`, with `left` rounds to go.  `search a` is what `requests.post` and `json()`
make of the query of round `a`. -/
def esLoop (search : ℕ → Json → Except PyErr Json) (addrQuery : List Json) :
    ℕ → ℕ → ℕ → Dict String EsDetails → EsRun
  | 0, _, _, annotationDict => ⟨[], .ok annotationDict⟩
  | left + 1, a, start, annotationDict =>
      let chunkedAddrQuery := slice addrQuery start (start + 200)
      match readAnswer (search a (esQuery chunkedAddrQuery)) with
      | .error e => ⟨[chunkedAddrQuery], .error e⟩
      | .ok entries =>
          let rest := esLoop search addrQuery left (a + 1) (start + 200)
            (annotationDict.update (Dict.ofItems entries))
          ⟨chunkedAddrQuery :: rest.posted, rest.annotationDict⟩

/-- `math.ceil((n + 1) / chunk_size)`; the division is exact enough for every list in memory. -/
def esRounds (n : ℕ) : ℕ :=
  ⌈((n + 1 : ℕ) : ℚ) / 200⌉₊

/-- `fetch_annotations_from_es(addr_list)`. -/
def fetchAnnotationsFromEs (search : ℕ → Json → Except PyErr Json) (addrList : List String) :
    EsRun :=
  let addrQuery := addrList.map addressClause
  esLoop search addrQuery (esRounds addrQuery.length) 0 0 Dict.empty

/-- The posted lists hold one clause for each address, in order, and each of them between 1 and
200. -/
def PartitionsAddresses (addrList : List String) (posted : List (List Json)) : Prop :=
  posted.flatten = addrList.map addressClause ∧
    ∀ chunk ∈ posted, 1 ≤ chunk.length ∧ chunk.length ≤ 200

/-! ## The rounds -/

/-- One round for every 200 addresses begun, or one more if they come out even. -/
theorem esRounds_eq (n : ℕ) : esRounds n = n / 200 + 1 := by
  have hdiv := Nat.div_add_mod n 200
  have hmod := Nat.mod_lt n (show 0 < 200 by decide)
  rw [esRounds, Nat.ceil_eq_iff (Nat.succ_ne_zero _), Nat.succ_sub_one]
  constructor
  · rw [lt_div_iff₀ (by norm_num)]
    exact_mod_cast (by omega : n / 200 * 200 < n + 1)
  · rw [div_le_iff₀ (by norm_num)]
    exact_mod_cast (by omega : n + 1 ≤ (n / 200 + 1) * 200)

section Loop

variable (search : ℕ → Json → Except PyErr Json)

/-- The answer of round `a` raises when it is read. -/
def answerRaises (addrQuery : List Json) (a : ℕ) : Bool :=
  !(readAnswer (search a (esQuery (slice addrQuery (200 * a) (200 * a + 200))))).isOk

/-- The loop goes on until the first answer that raises, which `Retry.attempts` counts. -/
theorem esLoop_posted (addrQuery : List Json) (left a : ℕ)
    (annotationDict : Dict String EsDetails) :
    (esLoop search addrQuery left a (200 * a) annotationDict).posted =
      (List.range (Retry.attempts (fun i => answerRaises search addrQuery (a + i)) left)).map
        fun i => slice addrQuery (200 * (a + i)) (200 * (a + i) + 200) := by
  induction left generalizing a annotationDict with
  | zero => rfl
  | succ left ih =>
      cases hanswer : readAnswer (search a (esQuery
          (slice addrQuery (200 * a) (200 * a + 200)))) with
      | error e =>
          have hraises : answerRaises search addrQuery (a + 0) = true := by
            rw [answerRaises, Nat.add_zero, hanswer]
            rfl
          rw [Retry.attempts_succ_of_success hraises]
          simp [esLoop, hanswer]
      | ok entries =>
          have hraises : answerRaises search addrQuery (a + 0) = false := by
            rw [answerRaises, Nat.add_zero, hanswer]
            rfl
          have hshift : (fun i => answerRaises search addrQuery (a + (i + 1))) =
              fun i => answerRaises search addrQuery (a + 1 + i) := by
            funext i
            rw [Nat.add_right_comm, Nat.add_assoc]
          rw [Retry.attempts_succ_of_failure hraises, hshift, List.range_succ_eq_map,
            List.map_cons, List.map_map]
          simp only [esLoop, hanswer]
          -- `start` is moved on by the size of a chunk in each round
          rw [← Nat.mul_succ, ih]
          refine congrArg (List.cons _) (List.map_congr_left fun i _ => ?_)
          rw [Function.comp_apply, Nat.succ_eq_add_one, Nat.add_right_comm, Nat.add_assoc]

/-- The number of rounds that post something. -/
def postedRounds (addrList : List String) : ℕ :=
  Retry.attempts (answerRaises search (addrList.map addressClause))
    (addrList.length / 200 + 1)

theorem posted_eq (addrList : List String) :
    (fetchAnnotationsFromEs search addrList).posted =
      windows 200 (postedRounds search addrList) (addrList.map addressClause) := by
  have hloop := esLoop_posted search (addrList.map addressClause)
    (esRounds (addrList.map addressClause).length) 0 Dict.empty
  simp only [Nat.zero_add, Nat.mul_zero, esRounds_eq, List.length_map] at hloop
  rw [fetchAnnotationsFromEs, esRounds_eq, List.length_map]
  exact hloop

variable {search}

/-- The windows are a partition exactly when the last of them ends the list. -/
theorem partitionsAddresses_iff_postedRounds (addrList : List String) :
    PartitionsAddresses addrList (fetchAnnotationsFromEs search addrList).posted ↔
      addrList.length ≤ 200 * postedRounds search addrList ∧
        200 * (postedRounds search addrList - 1) < addrList.length := by
  have hpos : 0 < postedRounds search addrList := Retry.attempts_pos (Nat.succ_pos _)
  rw [PartitionsAddresses, posted_eq, flatten_windows_eq_iff,
    forall_mem_windows_iff (by decide) hpos, List.length_map]

end Loop

/-! ## When the batches are a partition -/

/-- The condition on the addresses and the answers: there is an address, no answer raises before
the last addresses are asked for, and the one for the last addresses raises if there is a round
behind it. -/
def StopsAtEnd (search : ℕ → Json → Except PyErr Json) (addrList : List String) : Prop :=
  0 < addrList.length ∧
    (∀ a, (a + 1) * 200 < addrList.length →
      answerRaises search (addrList.map addressClause) a = false) ∧
    (addrList.length % 200 = 0 →
      answerRaises search (addrList.map addressClause) (addrList.length / 200 - 1) = true)

/-- **Batches of addresses.**  The posted clause lists are a partition of the addresses into lists
of 1 to 200 exactly when the list of addresses is not empty, no answer cuts it short, and either
its length is not a multiple of 200 or the answer to its last 200 addresses raises. -/
theorem partitionsAddresses_iff (search : ℕ → Json → Except PyErr Json) (addrList : List String) :
    PartitionsAddresses addrList (fetchAnnotationsFromEs search addrList).posted ↔
      StopsAtEnd search addrList := by
  have hround : ∀ a, a < postedRounds search addrList ↔ a < addrList.length / 200 + 1 ∧
      ∀ j < a, answerRaises search (addrList.map addressClause) j = false :=
    fun a => Retry.lt_attempts_iff
  rw [partitionsAddresses_iff_postedRounds]
  constructor
  · rintro ⟨hcover, hlast⟩
    refine ⟨by omega, fun a ha => ?_, fun heven => ?_⟩
    · have hnext : a + 1 < postedRounds search addrList := by omega
      exact ((hround (a + 1)).mp hnext).2 a (Nat.lt_succ_self a)
    · -- the loop stops one round early, and only an answer that raises stops it
      by_contra hok
      rw [Bool.not_eq_true] at hok
      have hmore : addrList.length / 200 < postedRounds search addrList := by
        refine (hround _).mpr ⟨Nat.lt_succ_self _, fun j hj => ?_⟩
        rcases Nat.lt_or_ge (j + 1) (addrList.length / 200) with hlt | hge
        · have hnext : j + 1 < postedRounds search addrList := by omega
          exact ((hround (j + 1)).mp hnext).2 j (Nat.lt_succ_self j)
        · rwa [show j = addrList.length / 200 - 1 by omega]
      omega
  · rintro ⟨hne, hbefore, heven⟩
    have hreached : (addrList.length - 1) / 200 < postedRounds search addrList :=
      (hround _).mpr ⟨by omega, fun j hj => hbefore j (by omega)⟩
    have hstop : ¬ (addrList.length - 1) / 200 + 1 < postedRounds search addrList := by
      intro hmore
      obtain ⟨hlt, hnone⟩ := (hround _).mp hmore
      rcases Nat.eq_zero_or_pos (addrList.length % 200) with hzero | hpos
      · have hraises := heven hzero
        rw [hnone _ (by omega)] at hraises
        exact Bool.false_ne_true hraises
      · omega
    exact ⟨by omega, by omega⟩

/-- A search without hits. -/
def noHits : Json :=
  .dict [("hits", .dict [("hits", .list [])])]

/-- With 200 addresses the second round posts an empty list of clauses. -/
theorem not_partitionsAddresses_full :
    ¬ PartitionsAddresses (List.replicate 200 "0x1111111111111111111111111111111111111111")
      (fetchAnnotationsFromEs (fun _ _ => .ok noHits)
        (List.replicate 200 "0x1111111111111111111111111111111111111111")).posted := by
  rw [partitionsAddresses_iff_postedRounds, postedRounds, List.length_replicate]
  decide +kernel

end CatvService.Pipeline
