import CatvService.Graph.Report
import CatvService.Library.Runs

/-!
# What the annotation of a report does to its nodes and rows

`update_annotations` looks for the node of an indicator under the lower-case pattern and then under
the pattern itself, and writes it back under the lower-case pattern.  A pattern is served once, by
the first indicator that names a node with it, so all that happens to a node happens in one round
(`Follows`).

Where the node was found under a key that is not lower case, the write adds an alias to the
collection: one more entry, whose key is not the address of its node and whose id is there twice
(`updateAnnotations_valid_iff`).  And a row hands on the annotation to its sender or else to its
receiver, so the receiver of a row that leads from an address to itself keeps what it has
(`rowsFollowNodes_iff`).
-/

namespace CatvService.Graph

open Dictionary PyText PyValue Runs

/-! ## Collections and patterns -/

variable {nc before after : NodesCollection} {node found : Node} {key other pattern : String}
  {itemList : List Transaction} {done indicators : List Indicator} {item : Indicator}
  {state : Annotating}

/-- What holds of a collection in any round: keys of one id differ in case only, and so do a key and
the address of its node. -/
structure CaseApart (nc : NodesCollection) : Prop where
  apart : ∀ key other node found, nc.getNode key = some node → nc.getNode other = some found →
    node.id = found.id → lower key = lower other
  near : ∀ key node, nc.getNode key = some node → lower node.address = lower key

theorem Valid.caseApart (hvalid : Valid nc) : CaseApart nc where
  apart := fun _ _ _ _ hkey hother hid => congrArg lower (hvalid.key_eq hkey hother hid)
  near := fun _ _ hkey => congrArg lower (hvalid.address _ _ hkey)

/-- The node of a pattern is under a key that is the pattern, except for case. -/
theorem exists_key_of_findPattern (hfind : nc.findPattern pattern = some node) :
    ∃ key, nc.getNode key = some node ∧ lower key = lower pattern := by
  unfold NodesCollection.findPattern at hfind
  split at hfind
  · rename_i found hfound
    exact ⟨lower pattern, hfound.trans hfind, lower_lower pattern⟩
  · exact ⟨pattern, hfind, rfl⟩

theorem CaseApart.lower_address (hnc : CaseApart nc) (hfind : nc.findPattern pattern = some node) :
    lower node.address = lower pattern := by
  obtain ⟨key, hkey, hlower⟩ := exists_key_of_findPattern hfind
  rw [hnc.near key node hkey, hlower]

theorem getNode_modify (nc : NodesCollection) (node : Node) (key : String) :
    (nc.modify node).getNode key =
      (nc.getNode key).map fun other => if other.id = node.id then node else other :=
  Dict.get?_map _ _ _

theorem getNode_updateNode (nc : NodesCollection) (key : String) (node : Node) (other : String) :
    (nc.updateNode key node).getNode other = if key = other then some node else nc.getNode other :=
  Dict.get?_set _ _ _ _

/-! ## One round -/

/-- A round that has found a node changes nothing but under keys that are its pattern, except for
case, and what is there then was there before under such a key. -/
structure Touched (before after : NodesCollection) (pattern : String) : Prop where
  other : ∀ key, lower key ≠ lower pattern → after.getNode key = before.getNode key
  origin : ∀ key node, after.getNode key = some node →
    ∃ old source, before.getNode old = some source ∧ node.id = source.id ∧ lower old = lower key
  near : ∀ key node, after.getNode key = some node → lower node.address = lower key

theorem Touched.caseApart (htouched : Touched before after pattern) (hbefore : CaseApart before) :
    CaseApart after := by
  refine ⟨fun key other node found hkey hother hid => ?_, htouched.near⟩
  obtain ⟨old, source, hsource, hnode, hold⟩ := htouched.origin key node hkey
  obtain ⟨old', source', hsource', hfound, hold'⟩ := htouched.origin other found hother
  rw [← hold, ← hold']
  exact hbefore.apart old old' source source' hsource hsource'
    (hnode.symm.trans (hid.trans hfound))

theorem touched_modify (hbefore : CaseApart before)
    (hfind : before.findPattern pattern = some found)
    (hid : node.id = found.id) (haddress : node.address = found.address) :
    Touched before (before.modify node) pattern := by
  obtain ⟨source, hsource, hlower⟩ := exists_key_of_findPattern hfind
  have hsame : ∀ key other, before.getNode key = some other → other.id = node.id →
      lower key = lower pattern := fun key other hkey hother =>
    (hbefore.apart key source other found hkey hsource (hother.trans hid)).trans hlower
  refine ⟨fun key hne => ?_, fun key other hkey => ?_, fun key other hkey => ?_⟩
  · rw [getNode_modify]
    cases hkey : before.getNode key with
    | none => rfl
    | some other =>
        rw [Option.map_some, if_neg fun hother => hne (hsame key other hkey hother)]
  · rw [getNode_modify] at hkey
    obtain ⟨old, hold, rfl⟩ := Option.map_eq_some_iff.mp hkey
    refine ⟨key, old, hold, ?_, rfl⟩
    split
    · rename_i heq
      exact heq.symm
    · rfl
  · rw [getNode_modify] at hkey
    obtain ⟨old, hold, rfl⟩ := Option.map_eq_some_iff.mp hkey
    split
    · rename_i heq
      rw [haddress, hbefore.lower_address hfind, hsame key old hold heq]
    · exact hbefore.near key old hold

theorem Touched.updateNode (htouched : Touched before after pattern)
    (hbefore : CaseApart before) (hfind : before.findPattern pattern = some found)
    (hid : node.id = found.id) (haddress : node.address = found.address) :
    Touched before (after.updateNode (lower pattern) node) pattern := by
  obtain ⟨source, hsource, hlower⟩ := exists_key_of_findPattern hfind
  refine ⟨fun key hne => ?_, fun key other hkey => ?_, fun key other hkey => ?_⟩
  · have hkey : lower pattern ≠ key := by
      rintro rfl
      exact hne (lower_lower pattern)
    rw [getNode_updateNode, if_neg hkey, htouched.other key hne]
  · rw [getNode_updateNode] at hkey
    split at hkey
    · rename_i heq
      obtain rfl := Option.some.inj hkey
      exact ⟨source, found, hsource, hid, by rw [← heq, lower_lower, hlower]⟩
    · exact htouched.origin key other hkey
  · rw [getNode_updateNode] at hkey
    split at hkey
    · rename_i heq
      obtain rfl := Option.some.inj hkey
      rw [haddress, hbefore.lower_address hfind, ← heq, lower_lower]
    · exact htouched.near key other hkey

@[simp] theorem Node.categorise_address (node : Node) (item : Indicator) :
    (node.categorise item).address = node.address := by
  unfold Node.categorise
  simp only
  split
  · split <;> rfl
  · rfl

/-- Whatever the category, the node gets the annotation of the indicator. -/
@[simp] theorem Node.categorise_annotation (node : Node) (item : Indicator) :
    Node.annotation (node.categorise item) = item.annotation.getD "" := by
  unfold Node.categorise
  simp only
  split
  · split
    · rfl
    · rename_i hempty
      exact (not_not.mp hempty).symm
  · rfl

/-- The node that an indicator leaves behind, unless the node is an exchange. -/
def annotatedNode (node : Node) (item : Indicator) : Node :=
  Node.categorise { node with trdbInfo := some item } item

/-- What a round can do. -/
inductive Round (state : Annotating) (item : Indicator) : Annotating → Prop where
  | seen (hseen : lower item.pattern ∈ state.seenIndicators) : Round state item state
  | missing (hnew : lower item.pattern ∉ state.seenIndicators)
      (hfind : state.nc.findPattern item.pattern = none) : Round state item state
  | exchange (node : Node) (hnew : lower item.pattern ∉ state.seenIndicators)
      (hfind : state.nc.findPattern item.pattern = some node)
      (hgroup : node.group = "Exchange & DEX") :
      Round state item
        ⟨state.nc.modify { node with trdbInfo := some item }, state.itemList,
          state.seenIndicators ++ [lower item.pattern]⟩
  | annotated (node : Node) (hnew : lower item.pattern ∉ state.seenIndicators)
      (hfind : state.nc.findPattern item.pattern = some node)
      (hgroup : node.group ≠ "Exchange & DEX") :
      Round state item
        ⟨(state.nc.modify (annotatedNode node item)).updateNode (lower item.pattern)
            (annotatedNode node item),
          state.itemList.map (annotateItem (annotatedNode node item)),
          state.seenIndicators ++ [lower item.pattern]⟩

theorem round_annotate (state : Annotating) (item : Indicator) :
    Round state item (annotate state item) := by
  unfold annotate
  simp only
  split
  · rename_i hseen
    exact .seen hseen
  · rename_i hnew
    cases hfind : state.nc.findPattern item.pattern with
    | none => exact .missing hnew hfind
    | some node =>
        simp only
        split
        · rename_i hgroup
          exact .exchange node hnew hfind hgroup
        · rename_i hgroup
          exact .annotated node hnew hfind hgroup

/-! ## Whole runs -/

/-- The indicator is the first with its pattern that names a node, and this is the node. -/
structure FirstFor (nc : NodesCollection) (earlier : List Indicator) (item : Indicator)
    (node : Node) : Prop where
  unseen : ∀ other ∈ earlier, lower other.pattern = lower item.pattern →
    nc.findPattern other.pattern = none
  found : nc.findPattern item.pattern = some node

/-- One of the indicators is the first for the node, which is not an exchange. -/
def Annotates (nc : NodesCollection) (indicators : List Indicator) (item : Indicator)
    (node : Node) : Prop :=
  ∃ earlier later, indicators = earlier ++ item :: later ∧ FirstFor nc earlier item node ∧
    node.group ≠ "Exchange & DEX"

theorem annotates_append_singleton_iff {last : Indicator} :
    Annotates nc (done ++ [last]) item node ↔ Annotates nc done item node ∨
      (item = last ∧ FirstFor nc done item node ∧ node.group ≠ "Exchange & DEX") := by
  constructor
  · rintro ⟨earlier, later, hsplit, hfirst⟩
    rcases append_singleton_eq_iff.mp hsplit with ⟨more, -, hmore⟩ | ⟨-, rfl, rfl⟩
    · exact .inl ⟨earlier, more, hmore, hfirst⟩
    · exact .inr ⟨rfl, hfirst⟩
  · rintro (⟨earlier, later, rfl, hfirst⟩ | ⟨rfl, hfirst⟩)
    · exact ⟨earlier, later ++ [last], by simp, hfirst⟩
    · exact ⟨done, [], rfl, hfirst⟩

/-- An indicator that annotates nothing. -/
theorem annotates_append_iff_of_exchange
    (hitem : ∀ node, FirstFor nc done item node → node.group = "Exchange & DEX")
    (earlier : Indicator) (node : Node) :
    Annotates nc (done ++ [item]) earlier node ↔ Annotates nc done earlier node := by
  rw [annotates_append_singleton_iff]
  refine or_iff_left ?_
  rintro ⟨rfl, hfirst, hgroup⟩
  exact hgroup (hitem node hfirst)

/-- How a row follows the indicators so far.  The second end of a row that leads from an address to
itself is left alone, but for a missing annotation. -/
structure RowFollows (nc : NodesCollection) (done : List Indicator) (row served : Transaction) :
    Prop where
  ends : served.sender = row.sender ∧ served.receiver = row.receiver
  sender : ∀ item node, Annotates nc done item node → lower row.sender = lower node.address →
    served.senderInfo.annotation = some (item.annotation.getD "")
  receiver : ∀ item node, Annotates nc done item node → lower row.receiver = lower node.address →
    served.receiverInfo.annotation =
      some (if lower row.sender = lower row.receiver then row.receiverInfo.annotation.getD ""
        else item.annotation.getD "")
  loop : lower row.sender = lower row.receiver →
    served.receiverInfo.annotation.getD "" = row.receiverInfo.annotation.getD ""

/-- What holds after the rounds for the indicators so far. -/
structure Follows (nc : NodesCollection) (itemList : List Transaction) (done : List Indicator)
    (state : Annotating) : Prop where
  seen : ∀ pattern, pattern ∈ state.seenIndicators ↔
    ∃ item ∈ done, lower item.pattern = pattern ∧ nc.findPattern item.pattern ≠ none
  untouched : ∀ key, lower key ∉ state.seenIndicators → state.nc.getNode key = nc.getNode key
  caseApart : CaseApart state.nc
  annotated : ∀ item node, Annotates nc done item node →
    ∃ changed, state.nc.getNode node.address = some changed ∧
      changed.annotation = item.annotation.getD ""
  rows : List.Forall₂ (RowFollows nc done) itemList state.itemList

/-- A pattern that was not served finds what it found in the beginning. -/
theorem Follows.findPattern (hfollows : Follows nc itemList done state)
    (hnew : lower pattern ∉ state.seenIndicators) :
    state.nc.findPattern pattern = nc.findPattern pattern := by
  unfold NodesCollection.findPattern
  rw [hfollows.untouched pattern hnew, hfollows.untouched (lower pattern) (by rwa [lower_lower])]

theorem Follows.firstFor_iff (hfollows : Follows nc itemList done state) :
    FirstFor nc done item node ↔ lower item.pattern ∉ state.seenIndicators ∧
      state.nc.findPattern item.pattern = some node := by
  have hseen : lower item.pattern ∉ state.seenIndicators ↔
      ∀ other ∈ done, lower other.pattern = lower item.pattern →
        nc.findPattern other.pattern = none := by
    rw [hfollows.seen]
    simp only [ne_eq, not_exists, not_and, not_not]
  constructor
  · rintro ⟨hunseen, hfound⟩
    have hnew := hseen.mpr hunseen
    exact ⟨hnew, (hfollows.findPattern hnew).trans hfound⟩
  · rintro ⟨hnew, hfound⟩
    exact ⟨hseen.mp hnew, (hfollows.findPattern hnew).symm.trans hfound⟩

theorem Follows.not_firstFor_of_seen (hfollows : Follows nc itemList done state)
    (hseen : lower item.pattern ∈ state.seenIndicators) : ¬ FirstFor nc done item node :=
  fun hfirst => (hfollows.firstFor_iff.mp hfirst).1 hseen

theorem Follows.not_firstFor_of_missing (hfollows : Follows nc itemList done state)
    (hfind : state.nc.findPattern item.pattern = none) : ¬ FirstFor nc done item node := by
  intro hfirst
  cases hfind.symm.trans (hfollows.firstFor_iff.mp hfirst).2

theorem Follows.seen_of_annotates (hfollows : Follows nc itemList done state)
    (hannotates : Annotates nc done item node) : lower item.pattern ∈ state.seenIndicators := by
  obtain ⟨earlier, later, rfl, hfirst, -⟩ := hannotates
  refine (hfollows.seen _).mpr ⟨item, by simp, rfl, ?_⟩
  rw [hfirst.found]
  exact Option.some_ne_none node

theorem Valid.lower_address_of_annotates (hvalid : Valid nc)
    (hannotates : Annotates nc indicators item node) : lower node.address = lower item.pattern := by
  obtain ⟨earlier, later, -, hfirst, -⟩ := hannotates
  exact hvalid.caseApart.lower_address hfirst.found

theorem follows_start (hvalid : Valid nc) (itemList : List Transaction) :
    Follows nc itemList [] ⟨nc, itemList, []⟩ := by
  have hnone : ∀ item node, ¬ Annotates nc [] item node := by
    rintro item node ⟨earlier, later, hsplit, -⟩
    simp at hsplit
  refine ⟨by simp, fun _ _ => rfl, hvalid.caseApart, fun _ _ h => absurd h (hnone _ _), ?_⟩
  refine List.forall₂_same.mpr fun row _ => ⟨⟨rfl, rfl⟩, ?_, ?_, fun _ => rfl⟩
  · exact fun _ _ h => absurd h (hnone _ _)
  · exact fun _ _ h => absurd h (hnone _ _)

theorem Follows.skip (hfollows : Follows nc itemList done state)
    (hfirst : ∀ node, ¬ FirstFor nc done item node) :
    Follows nc itemList (done ++ [item]) state := by
  have hannotates := annotates_append_iff_of_exchange fun node h => absurd h (hfirst node)
  refine ⟨fun pattern => ?_, hfollows.untouched, hfollows.caseApart, ?_, ?_⟩
  · rw [hfollows.seen]
    constructor
    · rintro ⟨other, hother, heq, hfound⟩
      exact ⟨other, List.mem_append_left _ hother, heq, hfound⟩
    · rintro ⟨other, hother, heq, hfound⟩
      rcases List.mem_append.mp hother with hother | hother
      · exact ⟨other, hother, heq, hfound⟩
      · -- the indicator names a node, so an earlier one with its pattern does
        obtain rfl := List.mem_singleton.mp hother
        obtain ⟨node, hnode⟩ := Option.ne_none_iff_exists'.mp hfound
        by_contra hnot
        refine hfirst node ⟨fun earlier hearlier hsame => ?_, hnode⟩
        by_contra hne
        exact hnot ⟨earlier, hearlier, hsame.trans heq, hne⟩
  · simpa only [hannotates] using hfollows.annotated
  · refine hfollows.rows.imp fun row served hrow => ⟨hrow.ends, ?_, ?_, hrow.loop⟩
    · simpa only [hannotates] using hrow.sender
    · simpa only [hannotates] using hrow.receiver

/-! ### The round of an indicator that comes first -/

theorem annotateItem_ends (node : Node) (row : Transaction) :
    (annotateItem node row).sender = row.sender ∧
      (annotateItem node row).receiver = row.receiver := by
  unfold annotateItem
  simp only
  split
  · exact ⟨rfl, rfl⟩
  · split <;> exact ⟨rfl, rfl⟩

theorem annotateItem_senderInfo (node : Node) (row : Transaction) :
    EndInfo.annotation (annotateItem node row).senderInfo =
      some (if lower row.sender = lower node.address then node.annotation
        else row.senderInfo.annotation.getD "") := by
  unfold annotateItem
  simp only
  split
  · rfl
  · split <;> rfl

theorem annotateItem_receiverInfo (node : Node) (row : Transaction) :
    EndInfo.annotation (annotateItem node row).receiverInfo =
      some (if lower row.sender ≠ lower node.address ∧ lower row.receiver = lower node.address then
        node.annotation else row.receiverInfo.annotation.getD "") := by
  unfold annotateItem
  simp only
  split
  · rename_i hsender
    rw [if_neg fun h => h.1 hsender]
  · rename_i hsender
    split
    · rename_i hreceiver
      rw [if_pos ⟨hsender, hreceiver⟩]
    · rename_i hreceiver
      rw [if_neg fun h => hreceiver h.2]

/-- One row.  The nodes that were annotated before have other addresses. -/
theorem RowFollows.annotate {row served : Transaction} {changed : Node}
    (hrow : RowFollows nc done row served) (hfirst : FirstFor nc done item node)
    (haddress : changed.address = node.address)
    (htext : changed.annotation = item.annotation.getD "")
    (hothers : ∀ other found, Annotates nc done other found →
      lower found.address ≠ lower node.address) :
    RowFollows nc (done ++ [item]) row (annotateItem changed served) := by
  obtain ⟨hsender, hreceiver⟩ := hrow.ends
  constructor
  · obtain ⟨hsender', hreceiver'⟩ := annotateItem_ends changed served
    exact ⟨hsender'.trans hsender, hreceiver'.trans hreceiver⟩
  · intro other found hannotates hmatch
    rw [annotateItem_senderInfo, hsender, haddress]
    rcases annotates_append_singleton_iff.mp hannotates with hold | ⟨rfl, hfound, -⟩
    · rw [if_neg (hmatch ▸ hothers other found hold), hrow.sender other found hold hmatch]
      rfl
    · obtain rfl := Option.some.inj (hfirst.found.symm.trans hfound.found)
      rw [if_pos hmatch, htext]
  · intro other found hannotates hmatch
    rw [annotateItem_receiverInfo, hsender, hreceiver, haddress]
    rcases annotates_append_singleton_iff.mp hannotates with hold | ⟨rfl, hfound, -⟩
    · rw [if_neg fun h => hothers other found hold (hmatch.symm.trans h.2),
        hrow.receiver other found hold hmatch]
      rfl
    · obtain rfl := Option.some.inj (hfirst.found.symm.trans hfound.found)
      by_cases hloop : lower row.sender = lower row.receiver
      · rw [if_neg fun h => h.1 (hloop.trans hmatch), if_pos hloop, hrow.loop hloop]
      · rw [if_pos ⟨fun h => hloop (h.trans hmatch.symm), hmatch⟩, if_neg hloop, htext]
  · intro hloop
    rw [annotateItem_receiverInfo, hsender, hreceiver, if_neg fun h => h.1 (hloop.trans h.2)]
    exact hrow.loop hloop

/-- The pattern of the indicator is one more that was served. -/
theorem Follows.seen_append (hfollows : Follows nc itemList done state)
    (hfirst : FirstFor nc done item node) (pattern : String) :
    pattern ∈ state.seenIndicators ++ [lower item.pattern] ↔
      ∃ other ∈ done ++ [item], lower other.pattern = pattern ∧
        nc.findPattern other.pattern ≠ none := by
  have hfound : nc.findPattern item.pattern ≠ none := by
    rw [hfirst.found]
    exact Option.some_ne_none node
  rw [List.mem_append, hfollows.seen, List.mem_singleton]
  constructor
  · rintro (⟨other, hother, heq⟩ | rfl)
    · exact ⟨other, List.mem_append_left _ hother, heq⟩
    · exact ⟨item, by simp, rfl, hfound⟩
  · rintro ⟨other, hother, heq, hne⟩
    rcases List.mem_append.mp hother with hother | hother
    · exact .inl ⟨other, hother, heq, hne⟩
    · obtain rfl := List.mem_singleton.mp hother
      exact .inr heq.symm

/-- The other keys are as they were, and those with the pattern were served. -/
theorem Follows.untouched_append {next : NodesCollection}
    (hfollows : Follows nc itemList done state) (htouched : Touched state.nc next item.pattern)
    (key : String) (hnew : lower key ∉ state.seenIndicators ++ [lower item.pattern]) :
    next.getNode key = nc.getNode key := by
  rw [List.mem_append, not_or, List.mem_singleton] at hnew
  rw [htouched.other key hnew.2, hfollows.untouched key hnew.1]

/-- A node that was annotated before stays as it is. -/
theorem Follows.annotated_touched {next : NodesCollection} {earlier : Indicator}
    (hvalid : Valid nc) (hfollows : Follows nc itemList done state)
    (hnew : lower item.pattern ∉ state.seenIndicators)
    (htouched : Touched state.nc next item.pattern) (hannotates : Annotates nc done earlier node) :
    ∃ changed, next.getNode node.address = some changed ∧
      changed.annotation = earlier.annotation.getD "" := by
  have hne : lower node.address ≠ lower item.pattern := by
    intro heq
    apply hnew
    rw [← heq, hvalid.lower_address_of_annotates hannotates]
    exact hfollows.seen_of_annotates hannotates
  rw [htouched.other node.address hne]
  exact hfollows.annotated earlier node hannotates

/-- **One round.** -/
theorem Follows.annotate (hvalid : Valid nc) (hfollows : Follows nc itemList done state) :
    Follows nc itemList (done ++ [item]) (annotate state item) := by
  generalize hnext : CatvService.Graph.annotate state item = next
  have hround := hnext ▸ round_annotate state item
  cases hround with
  | seen hseen =>
      exact hfollows.skip fun node => hfollows.not_firstFor_of_seen hseen
  | missing hnew hfind =>
      exact hfollows.skip fun node => hfollows.not_firstFor_of_missing hfind
  | exchange node hnew hfind hgroup =>
      have hfirst : FirstFor nc done item node := hfollows.firstFor_iff.mpr ⟨hnew, hfind⟩
      have htouched : Touched state.nc (state.nc.modify { node with trdbInfo := some item })
          item.pattern := touched_modify hfollows.caseApart hfind rfl rfl
      have hexchange : ∀ other, FirstFor nc done item other → other.group = "Exchange & DEX" :=
        fun other hother => Option.some.inj (hfirst.found.symm.trans hother.found) ▸ hgroup
      have hannotates := annotates_append_iff_of_exchange hexchange
      refine ⟨hfollows.seen_append hfirst, hfollows.untouched_append htouched,
        htouched.caseApart hfollows.caseApart, fun other found hother => ?_, ?_⟩
      · exact hfollows.annotated_touched hvalid hnew htouched ((hannotates other found).mp hother)
      · refine hfollows.rows.imp fun row served hrow => ⟨hrow.ends, ?_, ?_, hrow.loop⟩
        · simpa only [hannotates] using hrow.sender
        · simpa only [hannotates] using hrow.receiver
  | annotated node hnew hfind hgroup =>
      have hfirst : FirstFor nc done item node := hfollows.firstFor_iff.mpr ⟨hnew, hfind⟩
      have hid : (annotatedNode node item).id = node.id := Node.categorise_id _ _
      have haddress : (annotatedNode node item).address = node.address :=
        Node.categorise_address _ _
      have htext : Node.annotation (annotatedNode node item) = item.annotation.getD "" :=
        Node.categorise_annotation _ _
      have htouched := (touched_modify hfollows.caseApart hfind hid haddress).updateNode
        hfollows.caseApart hfind hid haddress
      have hothers : ∀ other found, Annotates nc done other found →
          lower found.address ≠ lower node.address := by
        intro other found hother heq
        apply hnew
        rw [← hvalid.caseApart.lower_address hfirst.found, ← heq,
          hvalid.lower_address_of_annotates hother]
        exact hfollows.seen_of_annotates hother
      refine ⟨hfollows.seen_append hfirst, hfollows.untouched_append htouched,
        htouched.caseApart hfollows.caseApart, fun other found hother => ?_, ?_⟩
      · rcases annotates_append_singleton_iff.mp hother with hold | ⟨rfl, hfound, -⟩
        · exact hfollows.annotated_touched hvalid hnew htouched hold
        · obtain rfl := Option.some.inj (hfirst.found.symm.trans hfound.found)
          refine ⟨annotatedNode node other, ?_, htext⟩
          -- the node is under its address, and the lower-case pattern holds it as well
          rw [getNode_updateNode]
          split
          · rfl
          · obtain ⟨key, hkey, hlower⟩ := exists_key_of_findPattern hfirst.found
            have hnode := hkey
            rw [← hfollows.untouched key (by rwa [hlower])] at hnode
            rw [getNode_modify, hvalid.address key node hkey, hnode, Option.map_some,
              if_pos hid.symm]
      · rw [List.forall₂_map_right_iff]
        exact hfollows.rows.imp fun row served hrow =>
          hrow.annotate hfirst haddress htext hothers

/-- **All rounds.** -/
theorem follows_updateAnnotations (hvalid : Valid nc) (itemList : List Transaction)
    (indicators : List Indicator) :
    Follows nc itemList indicators (indicators.foldl annotate ⟨nc, itemList, []⟩) := by
  induction indicators using List.reverseRecOn with
  | nil => exact follows_start hvalid itemList
  | append_singleton indicators item ih =>
      rw [List.foldl_append]
      exact ih.annotate hvalid

/-! ## Rows and nodes -/

/-- In some round an indicator sets the annotation of the node with the address. -/
def SetsAnnotation (nc : NodesCollection) (itemList : List Transaction)
    (indicators : List Indicator) (address : String) : Prop :=
  ∃ earlier item later state node, indicators = earlier ++ item :: later ∧
    earlier.foldl annotate ⟨nc, itemList, []⟩ = state ∧
    lower item.pattern ∉ state.seenIndicators ∧ state.nc.findPattern item.pattern = some node ∧
    node.group ≠ "Exchange & DEX" ∧ node.address = address

/-- Every row has the annotations that were set for its sender and its receiver. -/
def RowsFollowNodes (nc : NodesCollection) (itemList : List Transaction)
    (indicators : List Indicator) : Prop :=
  ∀ result, updateAnnotations nc itemList indicators = result →
    ∀ address node, SetsAnnotation nc itemList indicators address →
      result.1.getNode address = some node → ∀ row ∈ result.2,
        (lower row.sender = lower address → row.senderInfo.annotation = some node.annotation) ∧
        (lower row.receiver = lower address → row.receiverInfo.annotation = some node.annotation)

theorem setsAnnotation_iff (hvalid : Valid nc) {address : String} :
    SetsAnnotation nc itemList indicators address ↔
      ∃ item node, Annotates nc indicators item node ∧ node.address = address := by
  constructor
  · rintro ⟨earlier, item, later, state, node, hsplit, rfl, hnew, hfind, hgroup, haddress⟩
    have hfollows := follows_updateAnnotations hvalid itemList earlier
    exact ⟨item, node, ⟨earlier, later, hsplit, hfollows.firstFor_iff.mpr ⟨hnew, hfind⟩, hgroup⟩,
      haddress⟩
  · rintro ⟨item, node, ⟨earlier, later, hsplit, hfirst, hgroup⟩, haddress⟩
    have hfollows := follows_updateAnnotations hvalid itemList earlier
    obtain ⟨hnew, hfind⟩ := hfollows.firstFor_iff.mp hfirst
    exact ⟨earlier, item, later, _, node, hsplit, rfl, hnew, hfind, hgroup, haddress⟩

/-- **A row follows its nodes unless it leads from an annotated address to itself, and does not say
so already.** -/
theorem rowsFollowNodes_iff (hvalid : Valid nc) (itemList : List Transaction)
    (indicators : List Indicator) :
    RowsFollowNodes nc itemList indicators ↔
      ∀ item node, Annotates nc indicators item node → ∀ row ∈ itemList,
        lower row.sender = lower node.address → lower row.receiver = lower node.address →
          row.receiverInfo.annotation.getD "" = item.annotation.getD "" := by
  have hfollows := follows_updateAnnotations hvalid itemList indicators
  constructor
  · intro hrows item node hannotates row hrow hsender hreceiver
    obtain ⟨changed, hchanged, htext⟩ := hfollows.annotated item node hannotates
    obtain ⟨served, hserved, hfollowed⟩ := exists_mem_of_forall₂ hfollows.rows hrow
    have hset : SetsAnnotation nc itemList indicators node.address :=
      (setsAnnotation_iff hvalid).mpr ⟨item, node, hannotates, rfl⟩
    have hfinal := (hrows _ rfl node.address changed hset hchanged served hserved).2
      (by rw [hfollowed.ends.2, hreceiver])
    rw [hfollowed.receiver item node hannotates hreceiver, if_pos (hsender.trans hreceiver.symm),
      htext] at hfinal
    exact Option.some.inj hfinal
  · rintro hloops result rfl address node hset hget served hserved
    obtain ⟨item, source, hannotates, rfl⟩ := (setsAnnotation_iff hvalid).mp hset
    obtain ⟨changed, hchanged, htext⟩ := hfollows.annotated item source hannotates
    obtain rfl := Option.some.inj (hchanged.symm.trans hget)
    obtain ⟨row, hrow, hfollowed⟩ := exists_mem_of_forall₂ hfollows.rows.flip hserved
    rw [hfollowed.ends.1, hfollowed.ends.2, htext]
    refine ⟨hfollowed.sender item source hannotates, fun hreceiver => ?_⟩
    rw [hfollowed.receiver item source hannotates hreceiver]
    split
    · rename_i hloop
      rw [hloops item source hannotates row hrow (hloop.trans hreceiver) hreceiver]
    · rfl

/-! ## One entry for each node -/

/-- The first indicator that names a node with its pattern names it by its key, or the node is an
exchange. -/
def NamesByKey (nc : NodesCollection) (earlier : List Indicator) (item : Indicator) : Prop :=
  ∀ node, FirstFor nc earlier item node → node.group ≠ "Exchange & DEX" →
    lower item.pattern ∈ nc.nodes.keys

/-- The ids and the addresses under the keys. -/
def footing (nc : NodesCollection) : Dict String (ℤ × String) :=
  nc.nodes.map fun node => (node.id, node.address)

theorem length_of_footing (hfooting : footing after = footing before) :
    after.nodes.entries.length = before.nodes.entries.length := by
  have hkeys := congrArg (fun d : Dict String (ℤ × String) => d.entries.length) hfooting
  simpa [footing, Dict.map] using hkeys

theorem keys_of_footing (hfooting : footing after = footing before) :
    after.nodes.keys = before.nodes.keys := by
  have hkeys := congrArg Dict.keys hfooting
  rwa [footing, footing, Dict.keys_map, Dict.keys_map] at hkeys

theorem valid_of_footing (hfooting : footing after = footing before) (hvalid : Valid before) :
    Valid after := by
  constructor
  · intro key node hnode
    have hget : (footing before).get? key = some (node.id, node.address) := by
      rw [← hfooting, footing, Dict.get?_map]
      exact congrArg _ hnode
    rw [footing, Dict.get?_map] at hget
    obtain ⟨old, hold, heq⟩ := Option.map_eq_some_iff.mp hget
    rw [← (Prod.mk.inj heq).2]
    exact hvalid.address key old hold
  · have hids : ∀ nc : NodesCollection,
        nc.nodes.values.map Node.id = (footing nc).values.map Prod.fst := by
      intro nc
      simp [footing, Dict.values, Dict.map]
    rw [hids, hfooting, ← hids]
    exact hvalid.ids

theorem footing_modify
    (hsame : ∀ key old, nc.getNode key = some old → old.id = node.id → old.address = node.address) :
    footing (nc.modify node) = footing nc := by
  apply Dict.ext
  simp only [footing, NodesCollection.modify, Dict.map, List.map_map]
  refine List.map_congr_left fun entry hentry => ?_
  have hget : nc.getNode entry.1 = some entry.2 := Dict.mem_entries_iff.mp hentry
  simp only [Function.comp_apply]
  split
  · rename_i hid
    rw [← hid, hsame entry.1 entry.2 hget hid]
  · rfl

theorem Valid.address_eq (hvalid : Valid nc) (hfound : nc.getNode key = some found)
    (hid : node.id = found.id) (haddress : node.address = found.address) (other : String)
    (old : Node) (hold : nc.getNode other = some old) (hsame : old.id = node.id) :
    old.address = node.address := by
  obtain rfl := hvalid.key_eq hold hfound (hsame.trans hid)
  obtain rfl := Option.some.inj (hold.symm.trans hfound)
  exact haddress.symm

theorem footing_updateNode (hfound : nc.getNode key = some found) (hid : node.id = found.id)
    (haddress : node.address = found.address) :
    footing (nc.updateNode key node) = footing nc := by
  unfold footing NodesCollection.updateNode
  rw [Dict.map_set]
  refine Dict.set_of_get? ?_
  rw [Dict.get?_map]
  have hget : nc.nodes.get? key = some found := hfound
  rw [hget, hid, haddress]
  rfl

theorem length_updateNode (nc : NodesCollection) (key : String) (node : Node) :
    (nc.updateNode key node).nodes.entries.length =
      nc.nodes.entries.length + if key ∈ nc.nodes.keys then 0 else 1 := by
  have hkeys := congrArg List.length (Dict.keys_set nc.nodes key node)
  rw [Dict.keys, List.length_map] at hkeys
  rw [NodesCollection.updateNode, hkeys]
  split
  · rw [Dict.keys, List.length_map]
    rfl
  · rw [List.length_append, Dict.keys, List.length_map]
    rfl

theorem length_le_annotate (state : Annotating) (item : Indicator) :
    state.nc.nodes.entries.length ≤ (annotate state item).nc.nodes.entries.length := by
  have hmodify : ∀ node, (state.nc.modify node).nodes.entries.length =
      state.nc.nodes.entries.length := fun node => List.length_map _
  generalize hnext : annotate state item = next
  have hround := hnext ▸ round_annotate state item
  cases hround with
  | seen hseen => exact le_rfl
  | missing hnew hfind => exact le_rfl
  | exchange node hnew hfind hgroup => exact (hmodify _).ge
  | annotated node hnew hfind hgroup =>
      rw [length_updateNode, hmodify]
      exact Nat.le_add_right _ _

/-- One round: it keeps the footing exactly if the indicator names its node by the key, and adds an
entry otherwise. -/
theorem footing_annotate (hvalid : Valid nc) (hfollows : Follows nc itemList done state)
    (hfooting : footing state.nc = footing nc) :
    (NamesByKey nc done item → footing (annotate state item).nc = footing nc) ∧
      (¬ NamesByKey nc done item →
        nc.nodes.entries.length < (annotate state item).nc.nodes.entries.length) := by
  have hstate := valid_of_footing hfooting hvalid
  generalize hnext : annotate state item = next
  have hround := hnext ▸ round_annotate state item
  cases hround with
  | seen hseen =>
      refine ⟨fun _ => hfooting, fun hnot => absurd (fun node hfirst _ => ?_) hnot⟩
      exact absurd hfirst (hfollows.not_firstFor_of_seen hseen)
  | missing hnew hfind =>
      refine ⟨fun _ => hfooting, fun hnot => absurd (fun node hfirst _ => ?_) hnot⟩
      exact absurd hfirst (hfollows.not_firstFor_of_missing hfind)
  | exchange node hnew hfind hgroup =>
      obtain ⟨key, hkey, -⟩ := exists_key_of_findPattern hfind
      have hmodify : footing (state.nc.modify { node with trdbInfo := some item }) =
          footing state.nc := footing_modify (hstate.address_eq hkey rfl rfl)
      refine ⟨fun _ => hmodify.trans hfooting, fun hnot =>
        absurd (fun other hfirst hne => ?_) hnot⟩
      have hfound := (hfollows.firstFor_iff.mp hfirst).2
      obtain rfl := Option.some.inj (hfind.symm.trans hfound)
      exact absurd hgroup hne
  | annotated node hnew hfind hgroup =>
      have hid : (annotatedNode node item).id = node.id := Node.categorise_id _ _
      have haddress : (annotatedNode node item).address = node.address :=
        Node.categorise_address _ _
      obtain ⟨key, hkey, -⟩ := exists_key_of_findPattern hfind
      have hmodify := footing_modify (hstate.address_eq hkey hid haddress)
      have hkeys := keys_of_footing (hmodify.trans hfooting)
      constructor
      · intro hnames
        have hmem := hnames node (hfollows.firstFor_iff.mpr ⟨hnew, hfind⟩) hgroup
        -- the lower-case pattern is a key, so the node was found there
        rw [← keys_of_footing hfooting] at hmem
        obtain ⟨found, hfound⟩ := Dict.mem_keys_iff.mp hmem
        have hhere : state.nc.getNode (lower item.pattern) = some node := by
          unfold NodesCollection.findPattern at hfind
          rw [show state.nc.getNode (lower item.pattern) = some found from hfound] at hfind
          exact hfound.trans hfind
        have hchanged : (state.nc.modify (annotatedNode node item)).getNode (lower item.pattern) =
            some (annotatedNode node item) := by
          rw [getNode_modify, hhere, Option.map_some, if_pos hid.symm]
        exact (footing_updateNode hchanged rfl rfl).trans (hmodify.trans hfooting)
      · intro hnot
        have hmissing : lower item.pattern ∉ nc.nodes.keys :=
          fun hmem => hnot fun _ _ _ => hmem
        rw [length_updateNode, hkeys, if_neg hmissing, length_of_footing (hmodify.trans hfooting)]
        exact Nat.lt_succ_self _

/-- **The collection stays one entry for each node exactly if every indicator that annotates a node
names it by a key in lower case.** -/
theorem updateAnnotations_valid_iff (hvalid : Valid nc) (itemList : List Transaction)
    (indicators : List Indicator) :
    (Valid (updateAnnotations nc itemList indicators).1 ∧
        (updateAnnotations nc itemList indicators).1.nodes.entries.length =
          nc.nodes.entries.length) ↔
      AllAfter (NamesByKey nc) indicators := by
  have hrun : (AllAfter (NamesByKey nc) indicators →
        footing (updateAnnotations nc itemList indicators).1 = footing nc) ∧
      (¬ AllAfter (NamesByKey nc) indicators → nc.nodes.entries.length <
        (updateAnnotations nc itemList indicators).1.nodes.entries.length) := by
    unfold updateAnnotations
    induction indicators using List.reverseRecOn with
    | nil => exact ⟨fun _ => rfl, fun hnot => absurd allAfter_nil hnot⟩
    | append_singleton indicators item ih =>
        have hfollows := follows_updateAnnotations hvalid itemList indicators
        rw [List.foldl_append]
        obtain ⟨hkept, hgrown⟩ := ih
        constructor
        · intro hall
          obtain ⟨hbefore, hlast⟩ := allAfter_append_singleton_iff.mp hall
          exact (footing_annotate hvalid hfollows (hkept hbefore)).1 hlast
        · intro hnot
          by_cases hbefore : AllAfter (NamesByKey nc) indicators
          · have hlast : ¬ NamesByKey nc indicators item := fun h =>
              hnot (allAfter_append_singleton_iff.mpr ⟨hbefore, h⟩)
            exact (footing_annotate hvalid hfollows (hkept hbefore)).2 hlast
          · exact (hgrown hbefore).trans_le (length_le_annotate _ _)
  constructor
  · rintro ⟨-, hlength⟩
    by_contra hnot
    exact absurd hlength (hrun.2 hnot).ne'
  · intro hall
    exact ⟨valid_of_footing (hrun.1 hall) hvalid, length_of_footing (hrun.1 hall)⟩

/-! ### A receiver with capitals in its address -/

/-- The nodes of a transfer to itself, as `assign_nodes` makes them. -/
def sampleCollection : NodesCollection :=
  (NodesCollection.empty.addNode (rootNode .distribution (sampleRow "0xW" "0xA" 5 1))).addNode
    (outerNode .distribution "ETH" 1 (sampleRow "0xW" "0xA" 5 1))

theorem valid_sampleCollection : Valid sampleCollection where
  address := by
    intro key node hnode
    have hentry := Dict.mem_entries_iff.mpr hnode
    have hentries : sampleCollection.nodes.entries =
        [("0xW", rootNode .distribution (sampleRow "0xW" "0xA" 5 1)),
          ("0xA", outerNode .distribution "ETH" 1 (sampleRow "0xW" "0xA" 5 1))] := rfl
    rw [hentries] at hentry
    rcases List.mem_cons.mp hentry with heq | hentry
    · obtain ⟨rfl, rfl⟩ := Prod.mk.inj heq
      rfl
    · obtain ⟨rfl, rfl⟩ := Prod.mk.inj (List.mem_singleton.mp hentry)
      rfl
  ids := by decide

/-- The receiver has two entries with one id afterwards, one of them under the address in lower
case. -/
theorem not_valid_sampleCollection :
    Valid sampleCollection ∧
      (updateAnnotations sampleCollection [] [sampleIndicator]).1.nodes.keys =
        ["0xW", "0xA", "0xa"] ∧
      ¬ (Valid (updateAnnotations sampleCollection [] [sampleIndicator]).1 ∧
        (updateAnnotations sampleCollection [] [sampleIndicator]).1.nodes.entries.length =
          sampleCollection.nodes.entries.length) :=
  ⟨valid_sampleCollection, rfl, fun h => absurd h.2 (by decide)⟩

theorem updateAnnotations_valid_sampleCollection :
    (Valid (updateAnnotations sampleCollection [] [sampleIndicator]).1 ∧
        (updateAnnotations sampleCollection [] [sampleIndicator]).1.nodes.entries.length =
          sampleCollection.nodes.entries.length) ↔
      AllAfter (NamesByKey sampleCollection) [sampleIndicator] :=
  updateAnnotations_valid_iff valid_sampleCollection [] [sampleIndicator]

/-- A transfer from the receiver to itself keeps its empty receiver annotation. -/
theorem not_rowsFollowNodes_sampleCollection :
    Valid sampleCollection ∧
      ¬ RowsFollowNodes sampleCollection [sampleRow "0xA" "0xA" 2 2] [sampleIndicator] := by
  refine ⟨valid_sampleCollection, fun hrows => ?_⟩
  have hset : SetsAnnotation sampleCollection [sampleRow "0xA" "0xA" 2 2] [sampleIndicator] "0xA" :=
    ⟨[], sampleIndicator, [], _, _, rfl, rfl, by decide, rfl, by decide, rfl⟩
  have hreceiver := (hrows _ rfl "0xA" _ hset rfl _ List.mem_cons_self).2 rfl
  exact absurd hreceiver (by decide)

theorem rowsFollowNodes_sampleCollection :
    RowsFollowNodes sampleCollection [sampleRow "0xA" "0xA" 2 2] [sampleIndicator] ↔
      ∀ item node, Annotates sampleCollection [sampleIndicator] item node →
        ∀ row ∈ [sampleRow "0xA" "0xA" 2 2], lower row.sender = lower node.address →
          lower row.receiver = lower node.address →
            row.receiverInfo.annotation.getD "" = item.annotation.getD "" :=
  rowsFollowNodes_iff valid_sampleCollection [sampleRow "0xA" "0xA" 2 2] [sampleIndicator]

end CatvService.Graph
