import SyncFanet.Olsr.HeardLinks
import SyncFanet.Olsr.OwnAddresses

/-!
# Truthful links and neighbors

A HELLO that lists only what its sender has heard leaves truthful link tuples, neighbor
tuples and 2-hop tuples behind, and so do the MPR computation and the selectors.
-/

set_option autoImplicit false

namespace SyncFanet.Olsr

variable {link : LinkTuple} {validity : Int}

structure Seat {Agent : Type} (air : Air Agent) (agent : Agent) (config : Config) : Prop where
  main : air.owner config.raAddr = agent
  ifaces : ∀ iface ∈ config.ifaces, air.owner iface.addr = agent

variable {Agent : Type} {air : Air Agent} {agent : Agent} {config : Config} {now : Int}
  {node node' : Node}

theorem Truthful.owner_getMainAddr (truthful : Truthful air agent now node) (addr : NsAddr) :
    air.owner (node.state.getMainAddr addr) = air.owner addr := by
  rcases getMainAddr_cases node.state addr with ⟨tuple, member, same, main⟩ | ⟨_, main⟩
  · rw [main, ← truthful.assocs tuple member, same]
  · rw [main]

/-! ## Frames -/

theorem Truthful.writeHops (truthful : Truthful air agent now node)
    (written : WritesNb2hop node node')
    (hops : ∀ hop ∈ node'.state.nb2hopset,
      air.Both (air.owner hop.nbMainAddr) (air.owner hop.nb2hopAddr)) :
    Truthful air agent now node' := by
  obtain ⟨_, _, _, _, rfl⟩ := written
  exact { truthful with hops := hops }

theorem Truthful.writeTopology (truthful : Truthful air agent now node)
    (written : WritesTopology node node')
    (topology : ∀ tuple ∈ node'.state.topologyset,
      air.Chosen (air.owner tuple.destAddr) (air.owner tuple.lastAddr)) :
    Truthful air agent now node' := by
  obtain ⟨_, _, _, _, rfl⟩ := written
  exact { truthful with topology := topology }

theorem Truthful.writeAssocs (truthful : Truthful air agent now node)
    (written : WritesAssocs node node')
    (assocs : ∀ tuple ∈ node'.state.ifaceassocset,
      air.owner tuple.ifaceAddr = air.owner tuple.mainAddr) :
    Truthful air agent now node' := by
  obtain ⟨_, _, _, rfl⟩ := written
  exact { truthful with assocs := assocs }

/-- The neighbor set with one tuple written, which is symmetric only if the agents have
heard each other. -/
theorem Truthful.writeNb (truthful : Truthful air agent now node) {mainAddr : NsAddr}
    {status : NbStatus} {nbset : List NbTuple}
    (written : NbWritten mainAddr status node.state { node.state with nbset := nbset })
    (told : status = .sym → air.Both agent (air.owner mainAddr)) :
    Truthful air agent now
      (node.mapState fun _ => { node.state with nbset := nbset }) where
  mains := written.unique
  assocs := truthful.assocs
  links := truthful.links
  nbs nb member sym := by
    rcases written.written nb member with ⟨main, status⟩ | ⟨old, _⟩
    · rw [main]
      exact told (status.symm.trans sym)
    · exact truthful.nbs nb old sym
  mprs := truthful.mprs
  hops := truthful.hops
  selectors := truthful.selectors
  topology := truthful.topology
  routes := truthful.routes
  buffered := truthful.buffered
  sent := truthful.sent

/-! ## Link tuples -/

theorem TruthfulLink.both (told : TruthfulLink air agent now link) (sym : now ≤ link.symTime) :
    air.Both agent (air.owner link.nbIfaceAddr) := by
  refine ⟨told.heard, ?_⟩
  rcases told.symmetric with ended | heard
  · exact absurd sym (Int.not_le.mpr ended)
  · exact heard

theorem Truthful.updateLink (truthful : Truthful air agent now node)
    (told : TruthfulLink air agent now link) :
    Truthful air agent now (node.mapState fun state => state.updateLinkTuple link) :=
  { truthful with links := updateFirst.forall_mem truthful.links fun _ _ _ => told }

theorem Truthful.updatedLink (truthful : Truthful air agent now node)
    (told : TruthfulLink air agent now link) (willingness : Nat) :
    Truthful air agent now (node.mapState (updatedLinkTuple config now link willingness)) := by
  have written := updatedLinkTuple_written config now link willingness truthful.mains
  obtain ⟨nbset, same⟩ := updatedLinkTuple_writes config now link willingness node.state
  rw [Node.mapState, same]
  rw [same] at written
  refine truthful.writeNb written ?_
  intro status
  rw [truthful.owner_getMainAddr]
  refine told.both ?_
  unfold linkStatus at status
  split at status
  · cases status
  · split at status
    · assumption
    · cases status

theorem Truthful.writeSensed (truthful : Truthful air agent now node)
    (told : TruthfulLink air agent now link) (willingness : Nat) (updated : Bool) :
    Truthful air agent now (node.mapState (writeSensed config now willingness link updated)) := by
  have rewritten := truthful.updateLink told
  cases updated with
  | false => exact rewritten
  | true =>
      have updated : Truthful air agent now ((node.mapState fun state =>
          state.updateLinkTuple link).mapState (updatedLinkTuple config now link willingness)) :=
        rewritten.updatedLink told willingness
      exact updated

theorem Truthful.addLink (truthful : Truthful air agent now node)
    (told : TruthfulLink air agent now link) (asymmetric : link.symTime < now) (willingness : Nat) :
    Truthful air agent now (node.mapState (addLinkTuple now link willingness)) := by
  have inserted : Truthful air agent now
      (node.mapState fun state => state.insertLinkTuple link) := by
    refine { truthful with links := ?_ }
    intro other member
    rcases List.mem_append.mp member with old | new
    · exact truthful.links other old
    · exact List.mem_singleton.mp new ▸ told
  have written := addLinkTuple_written now link willingness truthful.mains
  refine inserted.writeNb written ?_
  intro status
  simp [symStatus, Int.not_le.mpr asymmetric] at status

theorem TruthfulLink.sense {link' : LinkTuple} {receiverIface : NsAddr} {hello : Hello}
    {before updated : Bool} (told : TruthfulLink air agent now link)
    (own : air.owner receiverIface = agent)
    (lists : ∀ group ∈ hello.helloMsgs, ∀ addr ∈ group.nbIfaceAddrs,
      air.heard (air.owner link.nbIfaceAddr) (air.owner addr))
    (sensed : senseLink config now validity receiverIface hello.helloMsgs link before =
      (link', updated)) : TruthfulLink air agent now link' := by
  have same := senseLink_same sensed
  have times := senseLink_times config now validity receiverIface hello link before
  rw [sensed] at times
  refine ⟨?_, ?_, ?_⟩
  · rw [same.localIfaceAddr]
    exact told.inbound
  · rw [same.nbIfaceAddr]
    exact told.heard
  · rw [same.nbIfaceAddr]
    obtain ⟨_, kept | ended | ⟨⟨group, member, _, listed⟩, _⟩⟩ := times
    · rw [kept]
      exact told.symmetric
    · rw [ended]
      exact .inl (Int.sub_lt_self now (by decide))
    · have heard := lists group member receiverIface listed
      rw [own] at heard
      exact .inr heard

/-! ## HELLOs -/

structure HelloFrom (air : Air Agent) (agent : Agent) (srcAddr origAddr : NsAddr)
    (hello : Hello) : Prop where
  heard : air.heard agent (air.owner srcAddr)
  origin : air.owner origAddr = air.owner srcAddr
  lists : ∀ group ∈ hello.helloMsgs, ∀ addr ∈ group.nbIfaceAddrs,
    HelloListing air (air.owner srcAddr) group.nbType addr

variable {srcAddr origAddr : NsAddr} {hello : Hello}

theorem Truthful.linkSensing (truthful : Truthful air agent now node)
    (told : HelloFrom air agent srcAddr origAddr hello) {iface : Iface}
    (own : air.owner iface.addr = agent) {vtime : Nat} {changed : Bool}
    (ran : linkSensingWith true config now vtime hello iface.addr srcAddr iface.index node =
      .ok (node', changed)) : Truthful air agent now node' := by
  rcases linkSensingWith_cases ran with
    ⟨known, link, found, sensed, rfl⟩ | ⟨_, _, created, link, updated, made, sensed, rfl⟩
  · have here : known.nbIfaceAddr = srcAddr := by simpa using List.find?_some found
    refine truthful.writeSensed ?_ hello.willingness changed
    refine (truthful.links known (List.mem_of_find?_eq_some found)).sense own ?_ sensed
    intro group member addr among
    rw [here]
    exact (told.lists group member addr among).heard
  · have fresh : created.symTime < now := by
      rw [made]
      exact Int.sub_lt_self now (by decide)
    have first : TruthfulLink air agent now created := by
      rw [made]
      exact ⟨own, told.heard, .inl (Int.sub_lt_self now (by decide))⟩
    have source : created.nbIfaceAddr = srcAddr := by rw [made]; rfl
    have added := truthful.addLink first fresh hello.willingness
    have second : TruthfulLink air agent now link := by
      refine first.sense own ?_ sensed
      intro group member addr among
      rw [source]
      exact (told.lists group member addr among).heard
    have written : Truthful air agent now
        ((node.mapState (addLinkTuple now created hello.willingness)).mapState
          (Olsr.writeSensed config now hello.willingness link updated)) :=
      added.writeSensed second hello.willingness updated
    exact { written with }

theorem Truthful.populateNbset (truthful : Truthful air agent now node) (hello : Hello)
    (origAddr : NsAddr) :
    Truthful air agent now (node.mapState (populateNbset hello origAddr)) := by
  refine { truthful with mains := ?_, nbs := ?_ }
  · rw [Node.mapState, nbMains_populateNbset]
    exact truthful.mains
  · exact updateFirst.forall_mem truthful.nbs fun nb member _ => truthful.nbs nb member

theorem Truthful.populateAddr {nbType : Nat} {addr : NsAddr} {acc : Node × Bool}
    (truthful : Truthful air agent now acc.1)
    (told : nbType = symNeigh ∨ nbType = mprNeigh →
      air.Both (air.owner origAddr) (air.owner addr)) :
    Truthful air agent now (populateAddr config now validity origAddr nbType acc addr).1 := by
  refine truthful.writeHops (populateAddr_writes config now validity origAddr nbType acc addr) ?_
  unfold Olsr.populateAddr
  dsimp only
  split
  · next symmetric =>
    split
    · exact truthful.hops
    · split
      · intro hop member
        rcases List.mem_append.mp member with old | new
        · exact truthful.hops hop old
        · rw [List.mem_singleton.mp new]
          exact told symmetric
      · exact updateFirst.forall_mem truthful.hops fun hop member _ => truthful.hops hop member
  · split
    · intro hop member
      exact truthful.hops hop (List.mem_filter.mp member).1
    · exact truthful.hops

theorem Truthful.populateNb2hopset (truthful : Truthful air agent now node)
    (told : HelloFrom air agent srcAddr origAddr hello) {vtime : Nat} {result : Node × Bool}
    (ran : populateNb2hopsetWith State.getMainAddr config now vtime hello origAddr node =
      .ok result) : Truthful air agent now result.1 := by
  rw [populateNb2hopsetWith_ok ran]
  refine populateAll_keeps (fun acc => Truthful air agent now acc.1) truthful ?_
  intro acc holds group member addr among
  refine holds.populateAddr ?_
  intro symmetric
  rw [truthful.owner_getMainAddr, told.origin]
  exact (told.lists group member addr among).symmetric symmetric

theorem Truthful.recomputeMprs (truthful : Truthful air agent now node)
    (ran : node.recomputeMprs config = .ok node') : Truthful air agent now node' := by
  obtain ⟨mprset, computed, rfl⟩ := recomputeMprs_writes ran
  obtain ⟨_, same, cover⟩ := mprComputation_spec config.isLocalAddress node.state truthful.mains
  obtain rfl := Option.some.inj (computed.symm.trans same)
  refine { truthful with mprs := ?_ }
  intro mpr member
  obtain ⟨nb, among, rfl, sym, _⟩ := cover.willing mpr member
  exact truthful.nbs nb among sym

theorem Truthful.populateSelector (truthful : Truthful air agent now node)
    (seat : Seat air agent config) {addr : NsAddr}
    (told : air.Chosen (air.owner origAddr) (air.owner addr)) :
    Truthful air agent now (populateSelector config now validity origAddr node addr) := by
  unfold Olsr.populateSelector
  split
  · next named =>
    have here : air.owner addr = agent := by
      rw [← truthful.owner_getMainAddr addr, named, seat.main]
    rw [here] at told
    split
    · have added : Truthful air agent now (Node.nextAnsn { node with
          state := { node.state with mprselset := node.state.mprselset ++ [{
            id := node.nextId
            mainAddr := origAddr
            time := now + validity }] }
          nextId := node.nextId + 1 }) := by
        refine { truthful with selectors := ?_ }
        intro tuple member
        rcases List.mem_append.mp member with old | new
        · exact truthful.selectors tuple old
        · rw [List.mem_singleton.mp new]
          exact told
      have silent : ∀ pkt, Action.selectorsChanged ≠ .sentPkt pkt := by
        intro pkt same
        cases same
      have recorded := (Forgets.record _ silent).truthful added
      exact { recorded with }
    · refine { truthful with selectors := ?_ }
      exact updateFirst.forall_mem truthful.selectors fun tuple member _ =>
        truthful.selectors tuple member
  · exact truthful

theorem Truthful.processHello (truthful : Truthful air agent now node)
    (seat : Seat air agent config) {msg : Msg} {iface : Iface}
    (told : HelloFrom air agent srcAddr msg.origAddr hello) (known : iface ∈ config.ifaces)
    (ran : processHello config now msg hello iface.addr srcAddr iface.index node = .ok node') :
    Truthful air agent now node' := by
  obtain ⟨sensed, populated, computed, linked, changed, first, second, third, fourth⟩ :=
    processHello_stages ran
  have neighbors := (truthful.linkSensing told (seat.ifaces iface known) first).populateNbset
    hello msg.origAddr
  have mprs := (neighbors.populateNb2hopset told second).recomputeMprs third
  refine populateMprselset_keeps (Truthful air agent now) mprs ?_ fourth
  intro node group member type addr among holds
  refine holds.populateSelector seat ?_
  rw [told.origin]
  exact (told.lists group member addr among).chosen type

end SyncFanet.Olsr
