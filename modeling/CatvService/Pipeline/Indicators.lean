import CatvService.Pipeline.AnnotationBatches
import CatvService.Pipeline.CkQuery
import Mathlib.Data.Finset.Sort
import Mathlib.Data.String.Basic

/-!
# One index, many batches

`ck_query` puts the addresses of its rows into a set, and `fetch_annotations_from_es` asks for them
in the order in which the set happens to give them, 200 at a time.  Every batch comes back with the
newest indicators first, is reversed, and is written over what the batches before it have left.

Where the searches are answered from one index, nothing of this shows in the response: the rows get
the annotations that they would get if each address was looked up in the whole index
(`ckQuery_withEs`).  The round that asks for nothing, and is answered with the newest indicators of
all addresses, changes nothing either.
-/

namespace CatvService.Pipeline

open PyValue PyText Dictionary Slicing GraphQL

/-! ## The index -/

/-- What `annotation_dict` holds for an annotation that is a text. -/
def Details.toEs (details : Details) : EsDetails :=
  ⟨.str details.annotation, details.securityCategory⟩

/-- An indicator: the hit of a search, which has what the function reads, and the entry that is made
of it. -/
structure Indicator where
  hit : Json
  key : String
  details : Details
  readable : (do entryOf (← hit.item "_source")) = .ok (key, details.toEs)

/-- An index of indicators, the newest ones first, and which of them the clause of an address finds.
A search does not tell upper from lower case, and finds the pattern that it is made of. -/
structure Index where
  indicators : List Indicator
  finds : String → String → Bool
  finds_self : ∀ address, finds address (lower address) = true

/-- The indicators that some clause finds; a search without clauses finds all of them. -/
def Index.found (index : Index) (addresses : List String) : List Indicator :=
  index.indicators.filter fun indicator =>
    addresses.isEmpty || addresses.any fun address => index.finds address indicator.key

/-- The hits of a query, which asks for 10000 of them. -/
def Index.hits (index : Index) (addresses : List String) : List Indicator :=
  (index.found addresses).take 10000

/-- The searches of a run are answered from the index. -/
def Serves (search : ℕ → Json → Except PyErr Json) (index : Index) : Prop :=
  ∀ a addresses, ∃ answer, search a (esQuery (addresses.map addressClause)) = .ok answer ∧
    (do (← answer.item "hits").item "hits") =
      (.ok (.list ((index.hits addresses).map Indicator.hit)) : Except PyErr Json)

/-- No batch has more hits than a query asks for. -/
def Index.Fits (index : Index) : Prop :=
  ∀ addresses, addresses ≠ [] → addresses.length ≤ 200 → (index.found addresses).length ≤ 10000

/-- The newest indicator with a pattern. -/
def Index.newest (index : Index) (key : String) : Option Indicator :=
  index.indicators.find? fun indicator => decide (indicator.key = key)

variable {index : Index} {search : ℕ → Json → Except PyErr Json} {address key : String}
  {addresses addrList : List String}

/-! ## One batch -/

/-- The entry of `annotation_dict` that an indicator is made into. -/
def Indicator.entry (indicator : Indicator) : String × EsDetails :=
  (indicator.key, indicator.details.toEs)

theorem Indicator.exists_source (indicator : Indicator) :
    ∃ source, indicator.hit.item "_source" = .ok source ∧ entryOf source = .ok indicator.entry :=
  bind_eq_ok_iff.mp indicator.readable

theorem exists_sources (indicators : List Indicator) :
    ∃ sources, (indicators.map Indicator.hit).mapM (fun r => r.item "_source") = .ok sources ∧
      sources.map entryOf = indicators.map fun indicator => .ok indicator.entry := by
  induction indicators with
  | nil => exact ⟨[], rfl, rfl⟩
  | cons indicator indicators ih =>
      obtain ⟨source, hsource, hentry⟩ := indicator.exists_source
      obtain ⟨sources, hsources, hentries⟩ := ih
      refine ⟨source :: sources, ?_, ?_⟩
      · rw [List.map_cons, List.mapM_cons, hsource, hsources]
        rfl
      · rw [List.map_cons, List.map_cons, hentry, hentries]

/-- What a round reads: the entries of its hits, the oldest one first. -/
theorem readAnswer_eq (hserves : Serves search index) (a : ℕ) (addresses : List String) :
    readAnswer (search a (esQuery (addresses.map addressClause))) =
      .ok ((index.hits addresses).map Indicator.entry).reverse := by
  obtain ⟨answer, hsearch, hhits⟩ := hserves a addresses
  obtain ⟨sources, hsources, hentries⟩ := exists_sources (index.hits addresses)
  obtain ⟨inner, hinner, hlist⟩ := bind_eq_ok_iff.mp hhits
  have hreversed : sources.reverse.map entryOf =
      ((index.hits addresses).map Indicator.entry).reverse.map .ok := by
    rw [List.map_reverse, hentries, List.map_reverse, List.map_map]
    rfl
  have hread : sourcesOf answer = .ok sources.reverse :=
    bind_eq_ok_iff.mpr ⟨inner, hinner, bind_eq_ok_iff.mpr ⟨_, hlist,
      bind_eq_ok_iff.mpr ⟨_, rfl, bind_eq_ok_iff.mpr ⟨sources, hsources, rfl⟩⟩⟩⟩
  rw [hsearch, readAnswer]
  exact bind_eq_ok_iff.mpr ⟨answer, rfl, bind_eq_ok_iff.mpr
    ⟨sources.reverse, hread, mapM_eq_ok_iff_map.mpr hreversed⟩⟩

theorem find?_found (index : Index) (addresses : List String) (key : String) :
    (index.found addresses).find? (fun indicator => decide (indicator.key = key)) =
      if addresses.isEmpty || addresses.any fun address => index.finds address key then
        index.newest key
      else none := by
  rw [Index.found, List.find?_filter, Index.newest]
  split
  · rename_i hfinds
    refine congrArg (fun p => List.find? p index.indicators) (funext fun indicator => ?_)
    by_cases hkey : indicator.key = key
    · simp [hkey, hfinds]
    · simp [hkey]
  · rename_i hfinds
    apply List.find?_eq_none.mpr
    intro indicator _ hboth
    obtain ⟨hfound, hkey⟩ := of_decide_eq_true hboth
    rw [of_decide_eq_true hkey] at hfound
    exact hfinds hfound

theorem newest_of_hits {indicator : Indicator}
    (h : (index.hits addresses).find? (fun indicator => decide (indicator.key = key)) =
      some indicator) : index.newest key = some indicator := by
  have hfound := (List.take_prefix 10000 (index.found addresses)).find?_eq_some h
  rw [find?_found] at hfound
  split at hfound
  · exact hfound
  · cases hfound

/-- If there is room for all hits, those of an address of the batch are among them. -/
theorem find?_hits (hfits : (index.found addresses).length ≤ 10000)
    (haddress : address ∈ addresses) :
    (index.hits addresses).find? (fun indicator => decide (indicator.key = lower address)) =
      index.newest (lower address) := by
  have hany : (addresses.any fun other => index.finds other (lower address)) = true :=
    List.any_eq_true.mpr ⟨address, haddress, index.finds_self address⟩
  rw [Index.hits, List.take_of_length_le hfits, find?_found, hany, Bool.or_true, if_pos rfl]

/-! ## The loop -/

/-- What the dictionary has under a key. -/
def Index.entryFor (index : Index) (key : String) : Option EsDetails :=
  (index.newest key).map fun indicator => indicator.details.toEs

/-- Whatever the dictionary holds is what the newest indicator says. -/
def Sound (index : Index) (annotationDict : Dict String EsDetails) : Prop :=
  ∀ key details, annotationDict.get? key = some details → index.entryFor key = some details

/-- What a batch writes under a key. -/
def Index.written (index : Index) (addresses : List String) : Dict String EsDetails :=
  Dict.ofItems ((index.hits addresses).map Indicator.entry).reverse

theorem get?_written (index : Index) (addresses : List String) (key : String) :
    (index.written addresses).get? key =
      ((index.hits addresses).find? fun indicator => decide (indicator.key = key)).map
        fun indicator => indicator.details.toEs := by
  rw [Index.written, Dict.get?_ofItems, List.reverse_reverse, List.find?_map, Option.map_map]
  rfl

theorem sound_written (index : Index) (addresses : List String) :
    Sound index (index.written addresses) := by
  intro key details hget
  rw [get?_written] at hget
  obtain ⟨indicator, hfind, rfl⟩ := Option.map_eq_some_iff.mp hget
  rw [Index.entryFor, newest_of_hits hfind]
  rfl

theorem Sound.update {annotationDict other : Dict String EsDetails}
    (hsound : Sound index annotationDict) (hother : Sound index other) :
    Sound index (annotationDict.update other) := by
  intro key details hget
  rcases Dict.get?_update hget with hget | hget
  · exact hother key details hget
  · exact hsound key details hget

/-- What is right stays right, whatever the later batches find. -/
theorem get?_update_of_sound {annotationDict other : Dict String EsDetails}
    (hother : Sound index other) (hget : annotationDict.get? key = index.entryFor key) :
    (annotationDict.update other).get? key = index.entryFor key := by
  rw [Dict.get?_update_eq, hget]
  cases hnew : other.get? key with
  | none => rfl
  | some details => exact (hother key details hnew).symm

theorem get?_update_written {annotationDict : Dict String EsDetails} (hfits : index.Fits)
    (hsound : Sound index annotationDict) (hlength : addresses.length ≤ 200)
    (haddress : address ∈ addresses) :
    (annotationDict.update (index.written addresses)).get? (lower address) =
      index.entryFor (lower address) := by
  have hroom := hfits addresses (List.ne_nil_of_mem haddress) hlength
  rw [Dict.get?_update_eq, get?_written, find?_hits hroom haddress, Index.entryFor]
  cases hnewest : index.newest (lower address) with
  | some indicator => rfl
  | none =>
      rw [Option.map_none, Option.none_or]
      apply Option.eq_none_iff_forall_ne_some.mpr
      intro details hget
      have hentry := hsound _ _ hget
      rw [Index.entryFor, hnewest] at hentry
      cases hentry

/-- The rounds to go add the addresses from `start` on, and spoil nothing. -/
theorem exists_esLoop (hserves : Serves search index) (hfits : index.Fits) (addrList : List String)
    (left a start : ℕ) (annotationDict : Dict String EsDetails)
    (hsound : Sound index annotationDict) :
    ∃ dict,
      (esLoop search (addrList.map addressClause) left a start annotationDict).annotationDict =
        .ok dict ∧
      (∀ key, annotationDict.get? key = index.entryFor key → dict.get? key = index.entryFor key) ∧
      ∀ p address, start ≤ p → p < start + 200 * left → addrList[p]? = some address →
        dict.get? (lower address) = index.entryFor (lower address) := by
  induction left generalizing a start annotationDict with
  | zero =>
      refine ⟨annotationDict, rfl, fun _ h => h, fun p address hstart hend => ?_⟩
      omega
  | succ left ih =>
      have hsound' := hsound.update (sound_written index (slice addrList start (start + 200)))
      obtain ⟨dict, hloop, hkept, hcovered⟩ := ih (a + 1) (start + 200) _ hsound'
      refine ⟨dict, ?_, fun key hget => ?_, fun p address hstart hend hp => ?_⟩
      · simp only [esLoop, slice_map, readAnswer_eq hserves]
        exact hloop
      · exact hkept key (get?_update_of_sound (sound_written index _) hget)
      · rcases Nat.lt_or_ge p (start + 200) with hlt | hge
        · have hlength : (slice addrList start (start + 200)).length ≤ 200 := by
            rw [slice, List.length_take]
            omega
          exact hkept _ (get?_update_written hfits hsound hlength (mem_slice hp hstart hlt))
        · exact hcovered p address hge (by omega) hp

/-- **The batches together** give every address that was asked for its newest indicator. -/
theorem exists_fetchAnnotationsFromEs (hserves : Serves search index) (hfits : index.Fits)
    (addrList : List String) :
    ∃ dict, (fetchAnnotationsFromEs search addrList).annotationDict = .ok dict ∧
      ∀ address ∈ addrList, dict.get? (lower address) = index.entryFor (lower address) := by
  have hempty : Sound index (Dict.empty : Dict String EsDetails) := by
    intro key details hget
    cases hget
  obtain ⟨dict, hloop, -, hcovered⟩ := exists_esLoop hserves hfits addrList
    (esRounds (addrList.map addressClause).length) 0 0 Dict.empty hempty
  refine ⟨dict, hloop, fun address haddress => ?_⟩
  obtain ⟨p, hp⟩ := List.mem_iff_getElem?.mp haddress
  have hlt : p < addrList.length := (List.getElem?_eq_some_iff.mp hp).1
  apply hcovered p address (Nat.zero_le p) ?_ hp
  rw [esRounds_eq, List.length_map]
  omega

/-! ## The query -/

/-- An order in which `list(set(…))` gives the members of a set. -/
structure SetOrder where
  list : Finset String → List String
  mem_list : ∀ addresses address, address ∈ list addresses ↔ address ∈ addresses

/-- The details of an entry; the annotations of the index are texts. -/
def Details.ofEs (details : EsDetails) : Details :=
  match details.annotation with
  | .str text => ⟨text, details.securityCategory⟩
  | _ => ⟨"", details.securityCategory⟩

/-- `fetch_annotations(addr_list, chain)` while Elasticsearch is up, for the members of a set. -/
def fetchFromEs (search : ℕ → Json → Except PyErr Json) (order : SetOrder)
    (addrList : Finset String) : Except PyErr (Entries String Details) := do
  let annotationDict ← (fetchAnnotationsFromEs search (order.list addrList)).annotationDict
  return (annotationDict.map Details.ofEs).entries

/-- The environment in which annotations come from the searches. -/
def Environment.withEs (env : Environment) (search : ℕ → Json → Except PyErr Json)
    (order : SetOrder) : Environment :=
  { env with fetchAnnotations := fun addrList _ => fetchFromEs search order addrList }

/-- The whole index as a dictionary; of the indicators with one pattern the first one counts. -/
def Index.entries (index : Index) : Entries String Details :=
  index.indicators.map fun indicator => (indicator.key, indicator.details)

/-- The environment in which every address is looked up in the whole index. -/
def Environment.withIndex (env : Environment) (index : Index) : Environment :=
  { env with fetchAnnotations := fun _ _ => .ok index.entries }

theorem Index.get?_entries (index : Index) (key : String) :
    Entries.get? key index.entries = (index.newest key).map Indicator.details := by
  rw [Index.entries, Index.newest]
  induction index.indicators with
  | nil => rfl
  | cons indicator indicators ih =>
      rw [List.map_cons, Entries.get?_cons]
      by_cases hkey : indicator.key = key
      · simp [hkey]
      · simp [hkey, ih]

/-- The searches say of an address that was asked for what the index says of it. -/
theorem exists_fetchFromEs (hserves : Serves search index) (hfits : index.Fits) (order : SetOrder)
    (addrList : Finset String) :
    ∃ entries, fetchFromEs search order addrList = .ok entries ∧
      ∀ address other, address ∈ addrList → lower address = lower other →
        detailsOf entries other = detailsOf index.entries other := by
  obtain ⟨dict, hdict, hright⟩ := exists_fetchAnnotationsFromEs hserves hfits (order.list addrList)
  refine ⟨(dict.map Details.ofEs).entries, ?_, fun address other haddress heq => ?_⟩
  · exact bind_eq_ok_iff.mpr ⟨dict, hdict, rfl⟩
  · have hget := hright address ((order.mem_list addrList address).mpr haddress)
    have hmap : Entries.get? (lower other) (dict.map Details.ofEs).entries =
        (dict.get? (lower other)).map Details.ofEs := Dict.get?_map Details.ofEs dict (lower other)
    rw [heq] at hget
    rw [detailsOf, detailsOf, hmap, hget, index.get?_entries, Index.entryFor, Option.map_map]
    rfl

variable {env : Environment} {chain : Chain} {annotationDict other : Entries String Details}

/-- Rows are annotated alike by dictionaries that say the same of their ends. -/
theorem annotateAndFilterTransactions_congr {transactions : List Row} (usedTracer : Bool)
    (direction : Direction)
    (h : ∀ row ∈ transactions, detailsOf annotationDict row.sender = detailsOf other row.sender ∧
      detailsOf annotationDict row.receiver = detailsOf other row.receiver) :
    annotateAndFilterTransactions usedTracer annotationDict transactions direction =
      annotateAndFilterTransactions usedTracer other transactions direction := by
  have hrows : transactions.mapM (annotateTransaction annotationDict) =
      transactions.mapM (annotateTransaction other) := by
    apply mapM_congr_left
    intro row hrow
    obtain ⟨hsender, hreceiver⟩ := h row hrow
    simp only [annotateTransaction, hsender, hreceiver]
  simp only [annotateAndFilterTransactions, annotated, hrows]

theorem exists_mem_createAddressList {rows : List Row} {addrList : Finset String}
    (hlower : ∀ address checksum, env.toChecksumAddress address = .ok checksum →
      lower checksum = lower address)
    (hlist : createAddressList env chain rows = .ok addrList) {row : Row} (hrow : row ∈ rows) :
    (∃ address ∈ addrList, lower address = lower row.sender) ∧
      ∃ address ∈ addrList, lower address = lower row.receiver := by
  obtain ⟨senders, hsenders, hlist⟩ := bind_eq_ok_iff.mp hlist
  obtain ⟨receivers, hreceivers, hlist⟩ := bind_eq_ok_iff.mp hlist
  cases hlist
  have hchecksum : ∀ address checksum, checksumAddress env chain address = .ok checksum →
      lower checksum = lower address := by
    intro address checksum hcheck
    unfold checksumAddress at hcheck
    split at hcheck
    · exact hlower address checksum hcheck
    · cases hcheck
      rfl
  obtain ⟨sender, hsender, hsenderOk⟩ := exists_of_mapM_eq_ok hsenders hrow
  obtain ⟨receiver, hreceiver, hreceiverOk⟩ := exists_of_mapM_eq_ok hreceivers hrow
  refine ⟨⟨sender, ?_, hchecksum _ _ hsenderOk⟩, receiver, ?_, hchecksum _ _ hreceiverOk⟩
  · exact List.mem_toFinset.mpr (List.mem_append_left receivers hsender)
  · exact List.mem_toFinset.mpr (List.mem_append_right senders hreceiver)

/-- What is made of the transfers does not depend on how their annotations are asked for. -/
theorem processTransactions_withEs (hserves : Serves search index) (hfits : index.Fits)
    (hlower : ∀ address checksum, env.toChecksumAddress address = .ok checksum →
      lower checksum = lower address)
    (order : SetOrder) (request : Request) (isVictimDex usedTracer : Bool)
    (txnHashes : List String) (src dist : List Row) :
    processTransactions (env.withEs search order) request chain isVictimDex usedTracer txnHashes
        src dist =
      processTransactions (env.withIndex index) request chain isVictimDex usedTracer txnHashes
        src dist := by
  unfold processTransactions
  split
  · rfl
  · have hsame : createAddressList (env.withEs search order) chain (src ++ dist) =
        createAddressList (env.withIndex index) chain (src ++ dist) := rfl
    rw [hsame]
    cases hlist : createAddressList (env.withIndex index) chain (src ++ dist) with
    | error e => rfl
    | ok addrList =>
        obtain ⟨entries, hentries, hdetails⟩ := exists_fetchFromEs hserves hfits order addrList
        have hends : ∀ row ∈ src ++ dist,
            detailsOf entries row.sender = detailsOf index.entries row.sender ∧
              detailsOf entries row.receiver = detailsOf index.entries row.receiver := by
          intro row hrow
          obtain ⟨⟨sender, hsender, hsenderEq⟩, receiver, hreceiver, hreceiverEq⟩ :=
            exists_mem_createAddressList hlower hlist hrow
          exact ⟨hdetails sender _ hsender hsenderEq, hdetails receiver _ hreceiver hreceiverEq⟩
        cases usedTracer with
        | true => rfl
        | false =>
            have hes : annotationDict (env.withEs search order) chain false addrList =
                .ok entries := hentries
            have hindex : annotationDict (env.withIndex index) chain false addrList =
                .ok index.entries := rfl
            have hdist := annotateAndFilterTransactions_congr false .outbound fun row hrow =>
              hends row (List.mem_append_right src hrow)
            have hsrc := annotateAndFilterTransactions_congr false .inbound fun row hrow =>
              hends row (List.mem_append_left dist hrow)
            simp only [bind, Except.bind, hes, hindex, hdist, hsrc]

/-- **The response of a query** is the one that is made with each address looked up in the whole
index, in whatever order the set of its addresses is listed and cut into batches. -/
theorem ckQuery_withEs (hserves : Serves search index) (hfits : index.Fits) (env : Environment)
    (hlower : ∀ address checksum, env.toChecksumAddress address = .ok checksum →
      lower checksum = lower address)
    (order : SetOrder) (request : Request) (chain : Chain) :
    ckQuery (env.withEs search order) request chain =
      ckQuery (env.withIndex index) request chain := by
  have hvictim : isVictimDex (env.withEs search order) request =
      isVictimDex (env.withIndex index) request := rfl
  have hfetch : fetchTransactions (env.withEs search order) request chain =
      fetchTransactions (env.withIndex index) request chain := rfl
  have hbody : ckQueryBody (env.withEs search order) request chain =
      ckQueryBody (env.withIndex index) request chain := by
    simp only [ckQueryBody, hvictim, hfetch, processTransactions_withEs hserves hfits hlower order]
  rw [ckQuery, ckQuery, hbody]

/-! ### A search in memory -/

/-- The address of a clause. -/
def clauseAddress : Json → String
  | .dict [(_, .dict [(_, .dict [(_, .dict [(_, .str a)])]), _])] => a
  | _ => ""

/-- The addresses that a query asks for. -/
def queryAddresses : Json → List String
  | .dict [_, _, (_, .dict [(_, .dict [(_, .list clauses)])]), _] => clauses.map clauseAddress
  | _ => []

theorem queryAddresses_esQuery (addresses : List String) :
    queryAddresses (esQuery (addresses.map addressClause)) = addresses := by
  have hclauses : queryAddresses (esQuery (addresses.map addressClause)) =
      (addresses.map addressClause).map clauseAddress := rfl
  rw [hclauses, List.map_map]
  exact List.map_id addresses

/-- The answers from an index. -/
def Index.answer (index : Index) (_ : ℕ) (query : Json) : Except PyErr Json :=
  .ok (.dict [("hits", .dict
    [("hits", .list ((index.hits (queryAddresses query)).map Indicator.hit))])])

theorem Index.serves_answer (index : Index) : Serves index.answer index := by
  intro a addresses
  refine ⟨_, rfl, ?_⟩
  rw [queryAddresses_esQuery]
  rfl

/-- An indicator with its hit as the searches give it. -/
def Indicator.ofPattern (pattern text category : String) (hne : text ≠ "") :
    Indicator where
  hit := .dict [("_source", .dict [("pattern", .str pattern), ("annotations", .str text),
    ("security_category", .str category)])]
  key := lower pattern
  details := ⟨text, .str category⟩
  readable := by
    have htruthy : (Json.str text).truthy = true := decide_eq_true hne
    simp [Json.item, entryOf, Entries.get?, Json.lower, htruthy, bind, Except.bind, pure,
      Except.pure, Details.toEs]

/-- Two indicators of an address, which differ in the letter case of their patterns. -/
def twiceIndexed : Index where
  indicators :=
    [.ofPattern "0xAB" "Binance Exchange" "whitelist" (by decide),
      .ofPattern "0xab" "Mixer" "blacklist" (by decide)]
  finds := fun address key => decide (lower address = key)
  finds_self := fun _ => decide_eq_true rfl

theorem twiceIndexed_fits : twiceIndexed.Fits := by
  intro addresses _ _
  calc (twiceIndexed.found addresses).length ≤ twiceIndexed.indicators.length :=
        List.length_filter_le _ _
    _ ≤ 10000 := by decide

/-- The members of a set in the order of their texts. -/
def sortedOrder : SetOrder where
  list addresses := addresses.sort (· ≤ ·)
  mem_list _ _ := Finset.mem_sort _

/-- Bitquery knows a transfer to the address. -/
def indexedEnvironment : Environment where
  checkIfVictimDex := fun _ => false
  answers := fun _ => ⟨.raised, fun _ => .list [], .list [.row
    { depth := 1, txHash := .str "0xf1", sender := .str "0xcd", receiver := .str "0xAb",
      senderAnnotation := .str "", receiverAnnotation := .str "",
      rest := [("sender_type", .str "Wallet"), ("receiver_type", .str "Wallet")] }], .list []⟩
  toChecksumAddress := .ok
  fetchAnnotations := fun _ _ => .ok []

/-- A query for the transfers of an address. -/
def indexedRequest : Request where
  address := "0xcd"
  threatAddress := none
  querySource := none
  txnHashes := .ok []
  limit := "10000"
  depthLimit := "2"
  fromDate := "2024-01-01"
  tillDate := "2024-02-01T00:00:00"
  token := none

theorem ckQuery_withEs_twiceIndexed :
    ckQuery (indexedEnvironment.withEs twiceIndexed.answer sortedOrder) indexedRequest .eth =
      ckQuery (indexedEnvironment.withIndex twiceIndexed) indexedRequest .eth :=
  ckQuery_withEs twiceIndexed.serves_answer twiceIndexed_fits indexedEnvironment
    (fun _ _ hchecksum => Except.ok.inj hchecksum ▸ rfl) sortedOrder indexedRequest .eth

end CatvService.Pipeline
