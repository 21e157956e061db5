import SyncFanet.Olsr.Flooding
import SyncFanet.Olsr.HelloEffects
import SyncFanet.Olsr.OwnAddresses
import SyncFanet.Olsr.TupleKeys

/-!
# What a node knows of a static network

The nodes of a network that does not change announce themselves to their neighbors. Whatever
their timers and HELLOs do, a node stores nothing that the network does not have.
-/

set_option autoImplicit false

namespace SyncFanet.Olsr

/-- Willing nodes with one interface each, which send no MID, bounds on the time between two HELLOs
of a node, on the time that one waits to be sent and on the time that it travels, and one on the
time that it is valid. A HELLO is valid until the next one has arrived. -/
structure Beacons (network : Network) extends Hosts network where
  interval : Int
  slack : Int
  flight : Int
  validity : Int
  aboveMac : ∀ v ∈ network.nodes, (config v).useMac = false
  withoutMid : ∀ v ∈ network.nodes, (config v).optimizedMid = true
  willing : ∀ v ∈ network.nodes, (config v).willingness ≠ willNever
  helloIval_le : ∀ v ∈ network.nodes, (config v).helloIval ≤ interval
  jitter_le : ∀ v ∈ network.nodes, ∀ draw, ((config v).jitter draw : Int) ≤ slack
  slack_nonneg : 0 ≤ slack
  flight_nonneg : 0 ≤ flight
  valid : ∀ v ∈ network.nodes, validity ≤ emfToSeconds (secondsToEmf (config v).neighbHoldTime)
  remembered : interval + slack + flight < validity

variable {network : Network} {beacons : Beacons network} {clock now : Int} {u v : NsAddr}
  {node node' : Node}

/-- Everything that the node stores is true of the network. A link that is symmetric has a
symmetric neighbor. -/
structure NeighborView (beacons : Beacons network) (clock : Int) (v : NsAddr) (node : Node) :
    Prop where
  linked : WellLinked (beacons.config v) node.state node.nextId
  keyed : Keyed node
  adjacent : ∀ link ∈ node.state.linkset, network.graph.Adj v link.nbIfaceAddr
  lasting : ∀ link ∈ node.state.linkset, link.asymTime ≤ link.time
  covered : ∀ link ∈ node.state.linkset, ∃ nb ∈ node.state.nbset,
    nb.nbMainAddr = link.nbIfaceAddr ∧ (clock ≤ link.symTime → nb.status = .sym)
  backed : ∀ nb ∈ node.state.nbset, (∃ link ∈ node.state.linkset,
    link.nbIfaceAddr = nb.nbMainAddr) ∧ nb.willingness = (beacons.config nb.nbMainAddr).willingness
  single : ∀ tuple ∈ node.state.ifaceassocset, tuple.ifaceAddr = v ∧ tuple.mainAddr = v
  hops : ∀ hop ∈ node.state.nb2hopset, network.graph.Adj v hop.nbMainAddr ∧
    network.graph.Adj hop.nbMainAddr hop.nb2hopAddr ∧ hop.nb2hopAddr ≠ v
  mprs : ∀ mpr ∈ node.state.mprset, network.graph.Adj v mpr

namespace NeighborView

variable {link : LinkTuple}

theorem getMainAddr (view : NeighborView beacons clock v node) (addr : NsAddr) :
    node.state.getMainAddr addr = addr := by
  rcases getMainAddr_cases node.state addr with ⟨tuple, member, iface, main⟩ | ⟨_, main⟩
  · obtain ⟨here, there⟩ := view.single tuple member
    rw [main, there, ← here, iface]
  · exact main

theorem later (view : NeighborView beacons clock v node) (later : clock ≤ now) :
    NeighborView beacons now v node :=
  { view with
    covered := by
      intro link member
      obtain ⟨nb, among, main, sym⟩ := view.covered link member
      exact ⟨nb, among, main, fun valid => sym (later.trans valid)⟩ }

theorem same_link (view : NeighborView beacons clock v node) {other : LinkTuple}
    (member : link ∈ node.state.linkset) (among : other ∈ node.state.linkset)
    (addr : link.nbIfaceAddr = other.nbIfaceAddr) : link = other :=
  List.inj_on_of_nodup_map view.linked.addrs member among addr

theorem same_hop (view : NeighborView beacons clock v node) {hop other : Nb2hopTuple}
    (member : hop ∈ node.state.nb2hopset) (among : other ∈ node.state.nb2hopset)
    (key : hopKey hop = hopKey other) : hop = other :=
  List.inj_on_of_nodup_map view.keyed.unique.nb2hops member among key

theorem mprs_of_computed {config : Config} (unique : node.state.nbMains.Nodup)
    (adjacent : ∀ nb ∈ node.state.nbset, network.graph.Adj v nb.nbMainAddr)
    (computed : mprComputation config.isLocalAddress node.state = some node.state.mprset) :
    ∀ mpr ∈ node.state.mprset, network.graph.Adj v mpr := by
  intro mpr member
  obtain ⟨mprset, chosen, cover⟩ := mprComputation_spec config.isLocalAddress node.state unique
  rw [computed] at chosen
  obtain rfl := Option.some.inj chosen
  obtain ⟨nb, among, main, _⟩ := cover.willing mpr member
  exact main ▸ adjacent nb among

theorem adjacent_nb (view : NeighborView beacons clock v node) {nb : NbTuple}
    (member : nb ∈ node.state.nbset) : network.graph.Adj v nb.nbMainAddr := by
  obtain ⟨⟨link, among, addr⟩, _⟩ := view.backed nb member
  exact addr ▸ view.adjacent link among

/-! ## Timers -/

theorem unseen (view : NeighborView beacons clock v node) (same : SameView node node')
    (linked : WellLinked (beacons.config v) node'.state node'.nextId) (keyed : Keyed node') :
    NeighborView beacons clock v node' where
  linked := linked
  keyed := keyed
  adjacent := same.linkset ▸ view.adjacent
  lasting := same.linkset ▸ view.lasting
  covered := by
    rw [same.linkset, same.nbset]
    exact view.covered
  backed := by
    rw [same.linkset, same.nbset]
    exact view.backed
  single tuple member := view.single tuple (same.assocs member)
  hops := same.nb2hopset ▸ view.hops
  mprs := same.mprset ▸ view.mprs

theorem mem_rmLinkTuple (view : NeighborView beacons clock v node)
    (member : link ∈ node.state.linkset) (other : LinkTuple) :
    other ∈ (rmLinkTuple link node.state).linkset ↔
      other ∈ node.state.linkset ∧ other.nbIfaceAddr ≠ link.nbIfaceAddr := by
  refine (mem_eraseLinkTuple view.linked.ids).trans ?_
  refine and_congr_right fun among => not_congr ?_
  constructor
  · intro equal
    rw [List.inj_on_of_nodup_map view.linked.ids among member equal]
  · intro equal
    rw [view.same_link among member equal]

theorem mem_rmLinkTuple_nbset (view : NeighborView beacons clock v node) (link : LinkTuple)
    (nb : NbTuple) : nb ∈ (rmLinkTuple link node.state).nbset ↔
      nb ∈ node.state.nbset ∧ nb.nbMainAddr ≠ link.nbIfaceAddr := by
  have unique : (node.state.nbset.map NbTuple.nbMainAddr).Nodup := view.linked.mains
  have resolves : (node.state.eraseLinkTuple link).getMainAddr link.nbIfaceAddr =
    link.nbIfaceAddr := view.getMainAddr _
  simp only [rmLinkTuple, view.getMainAddr, State.eraseNbTuple, State.eraseLinkTuple,
    eraseP_eq_filter unique, List.mem_filter, decide_eq_true_eq]

theorem linkRemoved (view : NeighborView beacons clock v node)
    (member : link ∈ node.state.linkset)
    (same : SameView (node.mapState (rmLinkTuple link)) node')
    (linked : WellLinked (beacons.config v) node'.state node'.nextId) (keyed : Keyed node') :
    NeighborView beacons clock v node' where
  linked := linked
  keyed := keyed
  adjacent other stored :=
    view.adjacent other ((view.mem_rmLinkTuple member other).mp (same.linkset ▸ stored)).1
  lasting other stored :=
    view.lasting other ((view.mem_rmLinkTuple member other).mp (same.linkset ▸ stored)).1
  covered := by
    intro other stored
    rw [same.linkset] at stored
    obtain ⟨old, different⟩ := (view.mem_rmLinkTuple member other).mp stored
    obtain ⟨nb, among, main, sym⟩ := view.covered other old
    refine ⟨nb, ?_, main, sym⟩
    rw [same.nbset]
    exact (view.mem_rmLinkTuple_nbset link nb).mpr ⟨among, main ▸ different⟩
  backed := by
    intro nb stored
    rw [same.nbset] at stored
    obtain ⟨old, different⟩ := (view.mem_rmLinkTuple_nbset link nb).mp stored
    obtain ⟨⟨other, among, addr⟩, willing⟩ := view.backed nb old
    refine ⟨⟨other, ?_, addr⟩, willing⟩
    rw [same.linkset]
    exact (view.mem_rmLinkTuple member other).mpr ⟨among, addr ▸ different⟩
  single tuple stored := view.single tuple (same.assocs stored)
  hops := by
    rw [same.nb2hopset]
    exact view.hops
  mprs := by
    rw [same.mprset]
    exact view.mprs

theorem updatedLinkTuple_willing (config : Config) (now : Int) (willingness : Nat) {state : State}
    (known : state.getMainAddr link.nbIfaceAddr ∈ state.nbMains) :
    ∀ nb ∈ (updatedLinkTuple config now link willingness state).nbset, ∃ old ∈ state.nbset,
      old.nbMainAddr = nb.nbMainAddr ∧ old.willingness = nb.willingness := by
  obtain ⟨first, found⟩ := Option.isSome_iff_exists.mp (findNbTuple_isSome.mpr known)
  unfold updatedLinkTuple findOrAddNb
  rw [found]
  intro nb member
  rcases updateFirst.mem_cases member with old | ⟨old, among, _, rfl⟩
  · exact ⟨nb, old, rfl, rfl⟩
  · exact ⟨old, among, rfl, rfl⟩

theorem neighborLost (view : NeighborView beacons now v node) (member : link ∈ node.state.linkset)
    (asymmetric : link.symTime < now) (lost : LossEffect (beacons.config v) now link node node')
    (linked : WellLinked (beacons.config v) node'.state node'.nextId) (keyed : Keyed node') :
    NeighborView beacons now v node' := by
  have resolves := view.getMainAddr link.nbIfaceAddr
  obtain ⟨nb, among, main, _⟩ := view.covered link member
  have known : node.state.getMainAddr link.nbIfaceAddr ∈ node.state.nbMains := by
    rw [resolves, ← main]
    exact List.mem_map_of_mem among
  have replaced := updatedLinkTuple_replaced (beacons.config v) now link willDefault
    view.linked.mains resolves
  have backed : ∀ nb ∈ node'.state.nbset, (∃ link ∈ node'.state.linkset,
      link.nbIfaceAddr = nb.nbMainAddr) ∧
        nb.willingness = (beacons.config nb.nbMainAddr).willingness := by
    intro nb member
    rw [lost.nbset] at member
    obtain ⟨old, before, main, willing⟩ :=
      updatedLinkTuple_willing _ now willDefault known nb member
    rw [lost.linkset, ← main, ← willing]
    exact view.backed old before
  have adjacent := lost.linkset ▸ view.adjacent
  refine ⟨linked, keyed, adjacent, lost.linkset ▸ view.lasting, ?_, backed, ?_, ?_, ?_⟩
  · intro other stored
    rw [lost.linkset] at stored
    rw [lost.nbset]
    by_cases here : other.nbIfaceAddr = link.nbIfaceAddr
    · obtain rfl := view.same_link stored member here
      obtain ⟨nb, among, main⟩ := List.mem_map.mp replaced.present
      exact ⟨nb, among, main, fun valid => absurd valid (Int.not_le.mpr asymmetric)⟩
    · obtain ⟨nb, among, main, sym⟩ := view.covered other stored
      exact ⟨nb, replaced.others nb among (main ▸ here), main, sym⟩
  · rw [lost.assocs]
    exact view.single
  · intro hop stored
    rw [lost.nb2hopset] at stored
    exact view.hops hop (List.mem_filter.mp stored).1
  · refine mprs_of_computed linked.mains ?_ lost.mprs
    intro nb stored
    obtain ⟨⟨other, among, addr⟩, _⟩ := backed nb stored
    exact addr ▸ adjacent other among

theorem timer (view : NeighborView beacons now v node)
    (effect : TimerEffect (beacons.config v) now node node')
    (linked : WellLinked (beacons.config v) node'.state node'.nextId) (keyed : Keyed node') :
    NeighborView beacons now v node' := by
  cases effect with
  | unseen same => exact view.unseen same linked keyed
  | linkRemoved link member expired same => exact view.linkRemoved member same linked keyed
  | neighborLost link member asymmetric lost =>
      exact view.neighborLost member asymmetric lost linked keyed
  | hopRemoved hop member expired removed =>
      refine ⟨linked, keyed, removed.linkset ▸ view.adjacent, removed.linkset ▸ view.lasting, ?_,
        ?_, removed.assocs ▸ view.single, ?_, removed.mprset ▸ view.mprs⟩
      · rw [removed.linkset, removed.nbset]
        exact view.covered
      · rw [removed.linkset, removed.nbset]
        exact view.backed
      · intro other stored
        exact view.hops other (removed.fewer stored)

/-! ## HELLOs -/

theorem hello (view : NeighborView beacons now v node) (isNode : v ∈ network.nodes)
    (adjacent : network.graph.Adj v u) {validity : Int} {hello : Hello}
    (willing : hello.willingness = (beacons.config u).willingness)
    (listed : ∀ group ∈ hello.helloMsgs, ∀ addr ∈ group.nbIfaceAddrs, network.graph.Adj u addr)
    (effect : HelloEffect (beacons.config v) now validity v u hello node node')
    (linked : WellLinked (beacons.config v) node'.state node'.nextId) (keyed : Keyed node') :
    NeighborView beacons now v node' := by
  obtain ⟨link, status, sensed, symmetric, links, nbs⟩ := effect.links.sensed
  have adjacent' : ∀ other ∈ node'.state.linkset, network.graph.Adj v other.nbIfaceAddr := by
    intro other stored
    rcases (links other).mp stored with rfl | ⟨old, _⟩
    · exact sensed.sender ▸ adjacent
    · exact view.adjacent other old
  have backed : ∀ nb ∈ node'.state.nbset, (∃ link ∈ node'.state.linkset,
      link.nbIfaceAddr = nb.nbMainAddr) ∧
        nb.willingness = (beacons.config nb.nbMainAddr).willingness := by
    intro nb stored
    rcases (nbs nb).mp stored with rfl | ⟨old, different⟩
    · exact ⟨⟨link, (links link).mpr (.inl rfl), sensed.sender⟩, willing⟩
    · obtain ⟨⟨other, among, addr⟩, same⟩ := view.backed nb old
      exact ⟨⟨other, (links other).mpr (.inr ⟨among, addr ▸ different⟩), addr⟩, same⟩
  refine ⟨linked, keyed, adjacent', ?_, ?_, backed, effect.links.assocs ▸ view.single, ?_, ?_⟩
  · intro other stored
    rcases (links other).mp stored with rfl | ⟨old, _⟩
    · exact sensed.lasting
    · exact view.lasting other old
  · intro other stored
    rcases (links other).mp stored with rfl | ⟨old, different⟩
    · exact ⟨_, (nbs _).mpr (.inl rfl), sensed.sender.symm, symmetric⟩
    · obtain ⟨nb, among, main, sym⟩ := view.covered other old
      exact ⟨nb, (nbs nb).mpr (.inr ⟨among, main ▸ different⟩), main, sym⟩
  · intro hop stored
    rcases effect.hops.origin hop stored with
      ⟨old, before, key⟩ | ⟨main, foreign, group, among, here⟩
    · have main : old.nbMainAddr = hop.nbMainAddr := congrArg Prod.fst key
      have behind : old.nb2hopAddr = hop.nb2hopAddr := congrArg Prod.snd key
      rw [← main, ← behind]
      exact view.hops old before
    · rw [main]
      rw [beacons.main v isNode] at foreign
      exact ⟨adjacent, listed group among hop.nb2hopAddr here, foreign⟩
  · refine mprs_of_computed linked.mains ?_ effect.mprs
    intro nb stored
    obtain ⟨⟨other, among, addr⟩, _⟩ := backed nb stored
    exact addr ▸ adjacent' other among

end NeighborView

/-! ## What a node has heard of a neighbor -/

/-- The node has a link to the neighbor that meets the condition. -/
def HasLink (u : NsAddr) (lives : LinkTuple → Prop) (node : Node) : Prop :=
  ∃ link ∈ node.state.linkset, link.nbIfaceAddr = u ∧ lives link

/-- The node has heard the neighbor. -/
def HearsFrom (u : NsAddr) (expiry : Int) (node : Node) : Prop :=
  HasLink u (fun link => expiry < link.asymTime) node

/-- The node knows that the neighbor hears it. -/
def TalksWith (u : NsAddr) (expiry : Int) (node : Node) : Prop :=
  HasLink u (fun link => expiry < link.asymTime ∧ expiry < link.symTime) node

/-- The node knows the neighbors of its neighbor. -/
structure SeesBehind (network : Network) (v u : NsAddr) (expiry : Int) (node : Node) : Prop where
  talks : TalksWith u expiry node
  behind : ∀ w, network.graph.Adj u w → w ≠ v →
    ∃ hop ∈ node.state.nb2hopset, hopKey hop = (u, w) ∧ expiry < hop.time

section

variable {lives : LinkTuple → Prop} {expiry validity : Int} {sender : NsAddr} {hello : Hello}

theorem HasLink.seen (has : HasLink u lives node)
    (linkset : node'.state.linkset = node.state.linkset) : HasLink u lives node' := by
  unfold HasLink
  rw [linkset]
  exact has

theorem HasLink.timer (has : HasLink u lives node) (view : NeighborView beacons now v node)
    (valid : ∀ link, lives link → now ≤ link.asymTime)
    (effect : TimerEffect (beacons.config v) now node node') : HasLink u lives node' := by
  cases effect with
  | unseen same => exact has.seen same.linkset
  | linkRemoved link member expired same =>
      obtain ⟨other, stored, addr, alive⟩ := has
      refine ⟨other, ?_, addr, alive⟩
      rw [same.linkset]
      refine (view.mem_rmLinkTuple member other).mpr ⟨stored, ?_⟩
      intro here
      obtain rfl := view.same_link stored member here
      have lasting := view.lasting other stored
      have later := valid other alive
      omega
  | neighborLost link member asymmetric lost => exact has.seen lost.linkset
  | hopRemoved hop member expired removed => exact has.seen removed.linkset

theorem HasLink.overheard (has : HasLink u lives node) (different : sender ≠ u)
    (effect : HelloEffect (beacons.config v) now validity v sender hello node node') :
    HasLink u lives node' := by
  obtain ⟨link, _, _, _, links, _⟩ := effect.links.sensed
  obtain ⟨other, stored, addr, alive⟩ := has
  exact ⟨other, (links other).mpr (.inr ⟨stored, by rw [addr]; exact different.symm⟩), addr, alive⟩

theorem hearsFrom_of_hello
    (effect : HelloEffect (beacons.config v) now validity v u hello node node')
    (early : expiry < now + validity) : HearsFrom u expiry node' := by
  obtain ⟨link, _, sensed, _, links, _⟩ := effect.links.sensed
  exact ⟨link, (links link).mpr (.inl rfl), sensed.sender, early.trans_eq sensed.asymTime.symm⟩

theorem talksWith_of_hello
    (effect : HelloEffect (beacons.config v) now validity v u hello node node')
    (confirms : hello.Confirms v) (early : expiry < now + validity) : TalksWith u expiry node' := by
  obtain ⟨link, _, sensed, _, links, _⟩ := effect.links.sensed
  exact ⟨link, (links link).mpr (.inl rfl), sensed.sender, early.trans_eq sensed.asymTime.symm,
    early.trans_eq (sensed.confirmed confirms).symm⟩

theorem SeesBehind.timer (sees : SeesBehind network v u expiry node)
    (view : NeighborView beacons now v node) (ahead : now ≤ expiry)
    (effect : TimerEffect (beacons.config v) now node node') :
    SeesBehind network v u expiry node' := by
  refine ⟨sees.talks.timer view (fun link alive => by omega) effect, ?_⟩
  intro w adjacent foreign
  obtain ⟨hop, stored, key, alive⟩ := sees.behind w adjacent foreign
  refine ⟨hop, ?_, key, alive⟩
  cases effect with
  | unseen same => exact same.nb2hopset ▸ stored
  | linkRemoved link member expired same =>
      rw [same.nb2hopset]
      exact stored
  | neighborLost link member asymmetric lost =>
      rw [lost.nb2hopset, view.getMainAddr]
      refine List.mem_filter.mpr ⟨stored, ?_⟩
      have apart : hop.nbMainAddr ≠ link.nbIfaceAddr := by
        intro here
        have main : hop.nbMainAddr = u := congrArg Prod.fst key
        obtain ⟨other, among, addr, _, sym⟩ := sees.talks
        obtain rfl := view.same_link among member (addr.trans (main.symm.trans here))
        omega
      simp [apart]
  | hopRemoved other member expired removed =>
      refine removed.others hop stored ?_
      rintro rfl
      omega

theorem SeesBehind.overheard (sees : SeesBehind network v u expiry node) (different : sender ≠ u)
    (effect : HelloEffect (beacons.config v) now validity v sender hello node node') :
    SeesBehind network v u expiry node' := by
  refine ⟨sees.talks.overheard different effect, ?_⟩
  intro w adjacent foreign
  obtain ⟨hop, stored, key, alive⟩ := sees.behind w adjacent foreign
  have main : hop.nbMainAddr = u := congrArg Prod.fst key
  exact ⟨hop, (effect.hops.others hop (by rw [main]; exact different.symm)).mpr stored, key, alive⟩

theorem seesBehind_of_hello (isNode : v ∈ network.nodes)
    (effect : HelloEffect (beacons.config v) now validity v u hello node node')
    (confirms : hello.Confirms v) (reveals : ∀ w, network.graph.Adj u w → hello.Reveals w)
    (early : expiry < now + validity) : SeesBehind network v u expiry node' := by
  refine ⟨talksWith_of_hello effect confirms early, ?_⟩
  intro w adjacent foreign
  rw [← beacons.main v isNode] at foreign
  obtain ⟨hop, stored, key, time⟩ := effect.hops.revealed confirms w (reveals w adjacent) foreign
  exact ⟨hop, stored, key, time ▸ early⟩

end

/-! ## Steady neighborhoods -/

/-- The node knows the neighbors of each of its neighbors. -/
def SeesAll (network : Network) (now : Int) (v : NsAddr) (node : Node) : Prop :=
  ∀ u, network.graph.Adj v u → ∃ expiry, now ≤ expiry ∧ SeesBehind network v u expiry node

/-- The MPR set is the one that `mpr_computation` would select now. -/
def MprsCurrent (config : Config) (node : Node) : Prop :=
  mprComputation config.isLocalAddress node.state = some node.state.mprset

theorem MprsCurrent.unseen {config : Config} (current : MprsCurrent config node)
    (same : SameView node node') : MprsCurrent config node' := by
  unfold MprsCurrent
  rw [mprComputation_congr config.isLocalAddress same.nbset (by rw [same.nb2hopset]), same.mprset]
  exact current

theorem MprsCurrent.timer (current : MprsCurrent (beacons.config v) node)
    (view : NeighborView beacons now v node) (sees : SeesAll network now v node)
    (effect : TimerEffect (beacons.config v) now node node') :
    MprsCurrent (beacons.config v) node' := by
  cases effect with
  | unseen same => exact current.unseen same
  | linkRemoved link member expired same =>
      obtain ⟨expiry, ahead, ⟨other, among, addr, alive, _⟩, _⟩ :=
        sees link.nbIfaceAddr (view.adjacent link member)
      obtain rfl := view.same_link among member addr
      have lasting := view.lasting other among
      omega
  | neighborLost link member asymmetric lost => exact lost.mprs
  | hopRemoved hop member expired removed =>
      obtain ⟨adjacent, behind, foreign⟩ := view.hops hop member
      obtain ⟨expiry, ahead, _, shown⟩ := sees hop.nbMainAddr adjacent
      obtain ⟨other, among, key, alive⟩ := shown hop.nb2hopAddr behind foreign
      obtain rfl := view.same_hop among member key
      omega

theorem mprComputation_local {isLocal isLocal' : NsAddr → Bool} {state : State}
    (same : ∀ hop ∈ state.nb2hopset, isLocal hop.nb2hopAddr = isLocal' hop.nb2hopAddr) :
    mprComputation isLocal state = mprComputation isLocal' state := by
  have filtered : state.nb2hopset.filter (n2Member Nb2hopTuple.nbMainAddr Nb2hopTuple.nb2hopAddr
      isLocal (symNeighbors state.nbset)) =
      state.nb2hopset.filter (n2Member Nb2hopTuple.nbMainAddr Nb2hopTuple.nb2hopAddr
        isLocal' (symNeighbors state.nbset)) := by
    refine List.filter_congr fun hop member => ?_
    simp only [n2Member, same hop member]
  simp only [mprComputation, filtered]

theorem NeighborView.mirrors (view : NeighborView beacons now v node) (isNode : v ∈ network.nodes)
    (sees : SeesAll network now v node) (current : MprsCurrent (beacons.config v) node) :
    MirrorsNeighborhood network now v node.state := by
  have valid : ∀ link ∈ node.state.linkset, now < link.symTime ∧ now < link.asymTime := by
    intro link member
    obtain ⟨expiry, ahead, ⟨other, among, addr, asym, sym⟩, _⟩ :=
      sees link.nbIfaceAddr (view.adjacent link member)
    obtain rfl := view.same_link among member addr
    exact ⟨by omega, by omega⟩
  constructor
  · intro u adjacent
    obtain ⟨_, _, ⟨link, among, addr, _⟩, _⟩ := sees u adjacent
    exact ⟨link, among, addr⟩
  · exact view.adjacent
  · intro link member
    have lasting := view.lasting link member
    obtain ⟨sym, asym⟩ := valid link member
    exact ⟨sym, by omega⟩
  · intro u adjacent
    obtain ⟨_, _, ⟨link, among, addr, _⟩, _⟩ := sees u adjacent
    obtain ⟨nb, stored, main, _⟩ := view.covered link among
    exact ⟨nb, stored, main.trans addr⟩
  · exact fun nb member => view.adjacent_nb member
  · intro nb member
    obtain ⟨⟨link, among, addr⟩, willing⟩ := view.backed nb member
    obtain ⟨other, stored, main, sym⟩ := view.covered link among
    obtain rfl := List.inj_on_of_nodup_map view.linked.mains stored member (main.trans addr)
    have sym' := (valid link among).1
    refine ⟨sym (by omega), ?_⟩
    rw [willing]
    exact beacons.willing _ (network.adj_mem _ _ (view.adjacent_nb member))
  · exact view.linked.mains
  · intro m w
    constructor
    · rintro ⟨hop, member, rfl, rfl⟩
      exact view.hops hop member
    · rintro ⟨adjacent, behind, foreign⟩
      obtain ⟨_, _, _, shown⟩ := sees m adjacent
      obtain ⟨hop, member, key, _⟩ := shown w behind foreign
      exact ⟨hop, member, congrArg Prod.fst key, congrArg Prod.snd key⟩
  · exact view.single
  · rw [← current]
    refine mprComputation_local fun hop member => ?_
    obtain ⟨adjacent, behind, foreign⟩ := view.hops hop member
    have remote : (beacons.config v).isLocalAddress hop.nb2hopAddr = false := by
      rw [Bool.eq_false_iff]
      exact fun own => foreign (beacons.apart v isNode _ (network.adj_mem _ _ behind) own)
    rw [remote, decide_eq_false foreign]

end SyncFanet.Olsr
