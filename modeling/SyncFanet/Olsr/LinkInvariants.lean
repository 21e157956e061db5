import SyncFanet.Olsr.Neighborhood

/-!
# Link tuples of reachable nodes

In every run the link tuples have identities and interface addresses of their own
and belong to an interface of the agent, and the neighbor set has one tuple for a
main address.
-/

set_option autoImplicit false

namespace SyncFanet.Olsr

variable {link link' : LinkTuple}

/-! ## Identity of link tuples -/

def linkKey (link : LinkTuple) : TupleId × NsAddr × NsAddr :=
  (link.id, link.localIfaceAddr, link.nbIfaceAddr)

theorem SameLink.linkKey_eq (same : SameLink link link') :
    linkKey link' = linkKey link := by
  simp [linkKey, same.id, same.localIfaceAddr, same.nbIfaceAddr]

theorem lostLinkTuple_same (config : Config) (now : Int) (link : LinkTuple) :
    SameLink link (lostLinkTuple config now link) :=
  ⟨rfl, rfl, rfl⟩

theorem senseLink_same {config : Config} {now validity : Int} {receiverIface : NsAddr}
    {helloMsgs : List HelloMsg} {before updated : Bool}
    (sensed : senseLink config now validity receiverIface helloMsgs link before =
      (link', updated)) : SameLink link link' := by
  have spec := senseLink_spec config now validity receiverIface helloMsgs link before
  rw [sensed] at spec
  exact spec.1

theorem map_updateLinkTuple {Value : Type} {read : LinkTuple → Value} {state : State}
    (ids : (state.linkset.map LinkTuple.id).Nodup) (member : link ∈ state.linkset)
    (id : link'.id = link.id) (same : read link' = read link) :
    (state.updateLinkTuple link').linkset.map read = state.linkset.map read := by
  rw [State.updateLinkTuple, updateFirst_eq_map ids, List.map_map]
  refine List.map_congr_left ?_
  intro other among
  by_cases here : other.id = link'.id
  · have equal : other = link := List.inj_on_of_nodup_map ids among member (here.trans id)
    simp only [Function.comp_apply, here, if_true]
    rw [equal, same]
  · simp [here]

theorem linkKeys_updateLinkTuple {state : State} (ids : (state.linkset.map LinkTuple.id).Nodup)
    (member : link ∈ state.linkset) (same : SameLink link link') :
    (state.updateLinkTuple link').linkset.map linkKey = state.linkset.map linkKey :=
  map_updateLinkTuple ids member same.id same.linkKey_eq

theorem mem_updateLinkTuple {state : State} (ids : (state.linkset.map LinkTuple.id).Nodup)
    {other : LinkTuple} (member : link ∈ state.linkset) (same : SameLink link link') :
    other ∈ (state.updateLinkTuple link').linkset ↔
      other = link' ∨ (other ∈ state.linkset ∧ other.id ≠ link.id) := by
  simp only [State.updateLinkTuple, updateFirst_eq_map ids, List.mem_map, same.id]
  constructor
  · rintro ⟨old, among, rfl⟩
    by_cases here : old.id = link.id
    · exact .inl (by simp [here])
    · exact .inr (by simp [here, among])
  · rintro (rfl | ⟨among, different⟩)
    · exact ⟨link, member, by simp⟩
    · exact ⟨other, among, by simp [different]⟩

theorem linkset_writeSensed (config : Config) (now : Int) (willingness : Nat) (link : LinkTuple)
    (updated : Bool) (state : State) :
    (writeSensed config now willingness link updated state).linkset =
      (state.updateLinkTuple link).linkset := by
  unfold writeSensed
  split
  · obtain ⟨_, written⟩ := updatedLinkTuple_writes config now link willingness
      (state.updateLinkTuple link)
    rw [written]
  · rfl

theorem mem_writeSensed {config : Config} {now : Int} {willingness : Nat} {state : State}
    {other : LinkTuple} {updated : Bool}
    (member : other ∈ (writeSensed config now willingness link updated state).linkset) :
    other ∈ state.linkset ∨ other = link := by
  rw [linkset_writeSensed] at member
  cases updateFirst.mem_cases member with
  | inl old => exact .inl old
  | inr updated => exact .inr updated.choose_spec.2.2

/-! ## The invariant -/

/-- `nextId` is the identity that the next tuple gets. -/
structure WellLinked (config : Config) (state : State) (nextId : TupleId) : Prop where
  ids : (state.linkset.map LinkTuple.id).Nodup
  fresh : ∀ link ∈ state.linkset, link.id < nextId
  addrs : (state.linkset.map LinkTuple.nbIfaceAddr).Nodup
  ifaces : ∀ link ∈ state.linkset, ∃ iface ∈ config.ifaces, iface.addr = link.localIfaceAddr
  mains : state.nbMains.Nodup

namespace WellLinked

variable {config : Config} {state state' : State} {nextId nextId' : TupleId}

theorem of_linkKeys (linked : WellLinked config state nextId)
    (keys : state'.linkset.map linkKey = state.linkset.map linkKey)
    (later : nextId ≤ nextId') (mains : state'.nbMains.Nodup) :
    WellLinked config state' nextId' := by
  have old : ∀ link' ∈ state'.linkset, ∃ link ∈ state.linkset, linkKey link = linkKey link' := by
    intro link' member
    have among : linkKey link' ∈ state.linkset.map linkKey :=
      keys ▸ List.mem_map_of_mem member
    exact List.mem_map.mp among
  constructor
  · have same := congrArg (List.map Prod.fst) keys
    simp only [List.map_map] at same
    exact same ▸ linked.ids
  · intro link' member
    obtain ⟨link, among, same⟩ := old link' member
    have equal : link.id = link'.id := congrArg Prod.fst same
    exact equal ▸ Nat.lt_of_lt_of_le (linked.fresh link among) later
  · have same := congrArg (List.map fun key => key.2.2) keys
    simp only [List.map_map] at same
    exact same ▸ linked.addrs
  · intro link' member
    obtain ⟨link, among, same⟩ := old link' member
    obtain ⟨iface, known, addr⟩ := linked.ifaces link among
    exact ⟨iface, known, addr.trans (congrArg (fun key => key.2.1) same)⟩
  · exact mains

theorem rewriteLink (linked : WellLinked config state nextId) (member : link ∈ state.linkset)
    (same : SameLink link link') :
    WellLinked config (state.updateLinkTuple link') nextId :=
  linked.of_linkKeys (linkKeys_updateLinkTuple linked.ids member same) (le_refl _) linked.mains

theorem writeNb (linked : WellLinked config state nextId) {mainAddr : NsAddr}
    {status : NbStatus} (written : NbWritten mainAddr status state state') :
    WellLinked config state' nextId :=
  linked.of_linkKeys (congrArg (List.map linkKey) written.linkset) (le_refl _) written.unique

theorem willing (linked : WellLinked config state nextId) (hello : Hello) (origAddr : NsAddr) :
    WellLinked config (populateNbset hello origAddr state) nextId := by
  refine linked.of_linkKeys rfl (le_refl _) ?_
  rw [nbMains_populateNbset]
  exact linked.mains

theorem sensed (linked : WellLinked config state nextId) (now : Int) (willingness : Nat)
    (member : link ∈ state.linkset) (same : SameLink link link') (updated : Bool) :
    WellLinked config (writeSensed config now willingness link' updated state) nextId := by
  have rewritten := linked.rewriteLink member same
  cases updated with
  | false => exact rewritten
  | true =>
      have written := updatedLinkTuple_written config now link' willingness rewritten.mains
      exact rewritten.writeNb written

theorem insertLink (linked : WellLinked config state nextId) (created : LinkTuple)
    (id : created.id = nextId)
    (known : ∃ iface ∈ config.ifaces, iface.addr = created.localIfaceAddr)
    (absent : state.findLinkTuple created.nbIfaceAddr = none) :
    WellLinked config (state.insertLinkTuple created) (nextId + 1) := by
  have others : ∀ link ∈ state.linkset, link.nbIfaceAddr ≠ created.nbIfaceAddr := by
    simpa [State.findLinkTuple] using absent
  have cases_mem : ∀ link ∈ (state.insertLinkTuple created).linkset,
      link ∈ state.linkset ∨ link = created := by
    simp [State.insertLinkTuple]
  constructor
  · rw [State.insertLinkTuple, List.map_append, List.nodup_append]
    refine ⟨linked.ids, by simp, ?_⟩
    intro key among last single
    obtain ⟨link, member, rfl⟩ := List.mem_map.mp among
    have same : last = nextId := by simpa [id] using single
    exact same ▸ Nat.ne_of_lt (linked.fresh link member)
  · intro link member
    rcases cases_mem link member with old | rfl
    · exact Nat.lt_succ_of_lt (linked.fresh link old)
    · exact id ▸ Nat.lt_succ_self _
  · rw [State.insertLinkTuple, List.map_append, List.nodup_append]
    refine ⟨linked.addrs, by simp, ?_⟩
    intro key among last single
    obtain ⟨link, member, rfl⟩ := List.mem_map.mp among
    have same : last = created.nbIfaceAddr := by simpa using single
    exact same ▸ others link member
  · intro link member
    rcases cases_mem link member with old | rfl
    · exact linked.ifaces link old
    · exact known
  · exact linked.mains

end WellLinked

/-- The links of `addLinkTuple`, and the neighbor tuple it writes. -/
theorem addLinkTuple_written (now : Int) (link : LinkTuple) (willingness : Nat) {state : State}
    (unique : state.nbMains.Nodup) :
    NbWritten (state.getMainAddr link.nbIfaceAddr) (symStatus now link)
      (state.insertLinkTuple link) (addLinkTuple now link willingness state) := by
  have same : (state.insertLinkTuple link).nbMains.Nodup := unique
  exact addNbTuple_written same {
    nbMainAddr := state.getMainAddr link.nbIfaceAddr
    status := symStatus now link
    willingness := willingness }

theorem wellLinked_rules (guard : Guard) (config : Config) (now : Int) :
    NeighborhoodRules guard config now
      (fun node => WellLinked config node.state node.nextId) where
  frame node node' same linked := by
    refine linked.of_linkKeys (by rw [same.linkset]) same.nextId ?_
    rw [State.nbMains, same.nbset]
    exact linked.mains
  hello iface srcAddr msg hello node node' changed known body met ran linked := by
    refine WellLinked.willing ?_ hello msg.origAddr
    rcases linkSensingWith_cases ran with
      ⟨old, link, found, sensed, rfl⟩ | ⟨absent, _, created, link, updated, rfl, sensed, rfl⟩
    · exact linked.sensed now hello.willingness (List.mem_of_find?_eq_some found)
        (senseLink_same sensed) changed
    · have created := linked.insertLink
        (newLinkTuple node.nextId now (emfToSeconds msg.vtime) iface.addr srcAddr iface.index)
        rfl ⟨iface, known, rfl⟩ absent
      have added := created.writeNb (addLinkTuple_written now _ hello.willingness linked.mains)
      refine added.sensed now hello.willingness ?_ (senseLink_same sensed) updated
      exact List.mem_append_right _ (List.mem_singleton_self _)
  mid iface srcAddr msg mid node body met linked := by
    obtain ⟨_, _, _, written⟩ := processMid_writes now msg mid srcAddr iface.index node
    rw [written]
    exact linked.of_linkKeys rfl (Nat.le_add_right _ _) linked.mains
  loss node link member lost linked :=
    linked.writeNb (updatedLinkTuple_written config now link willDefault linked.mains)
  macLoss node link member useMac linked := by
    have rewritten := linked.rewriteLink member (lostLinkTuple_same config now link)
    exact rewritten.writeNb (updatedLinkTuple_written config now _ willDefault rewritten.mains)
  rmLink id firstTime node link member same expired met linked := by
    have fewer : (node.state.linkset.eraseP fun other => other.id = link.id).Sublist
        node.state.linkset := List.eraseP_sublist
    exact ⟨linked.ids.sublist (fewer.map _), fun other among => linked.fresh other (fewer.subset among),
      linked.addrs.sublist (fewer.map _), fun other among => linked.ifaces other (fewer.subset among),
      nodup_eraseP linked.mains _⟩
  rmAssoc id node tuple member same expired met linked :=
    linked.of_linkKeys rfl (le_refl _) linked.mains

theorem initialNode_wellLinked (config : Config) (time maxTime : Int) :
    WellLinked config (initialNode config time maxTime).state
      (initialNode config time maxTime).nextId :=
  ⟨List.nodup_nil, nofun, List.nodup_nil, nofun, List.nodup_nil⟩

theorem reached_wellLinked {config : Config} {condition : Int → Event → Node → Prop}
    {clock : Int} {node : Node} (reached : Reached recvOlsr config condition clock node) :
    WellLinked config node.state node.nextId :=
  reached_neighborhood (initialNode_wellLinked config) (wellLinked_rules Guard.always config)
    (fun now event node _ => Guard.always_allows config now event node) reached

end SyncFanet.Olsr
