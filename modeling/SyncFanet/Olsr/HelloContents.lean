import SyncFanet.Olsr.NeighborView
import SyncFanet.Olsr.TruthfulAgents

/-!
# What the HELLOs of a static network tell

A node lists all its links in a HELLO. Once it has heard a neighbor its HELLOs confirm the
link, and once the neighbor has heard it they reveal the neighbor to the others.
-/

set_option autoImplicit false

namespace SyncFanet.Olsr

variable {network : Network} {beacons : Beacons network} {now : Int} {u v : NsAddr}
  {node node' : Node}

/-! ## Every link is listed -/

theorem addToGroup_self (linkCode : Nat) (ifaceAddr : NsAddr) (groups : List HelloMsg) :
    ∃ group ∈ addToGroup linkCode ifaceAddr groups, ifaceAddr ∈ group.nbIfaceAddrs := by
  induction groups with
  | nil => exact ⟨_, List.mem_singleton_self _, List.mem_singleton_self _⟩
  | cons first rest ih =>
      rw [addToGroup]
      split
      · exact ⟨_, List.mem_cons_self, List.mem_append_right _ (List.mem_singleton_self _)⟩
      · obtain ⟨group, member, listed⟩ := ih
        exact ⟨group, List.mem_cons_of_mem _ member, listed⟩

theorem addToGroup_keeps (linkCode : Nat) (ifaceAddr : NsAddr) {addr : NsAddr}
    {groups : List HelloMsg} (known : ∃ group ∈ groups, addr ∈ group.nbIfaceAddrs) :
    ∃ group ∈ addToGroup linkCode ifaceAddr groups, addr ∈ group.nbIfaceAddrs := by
  induction groups with
  | nil =>
      obtain ⟨_, member, _⟩ := known
      cases member
  | cons first rest ih =>
      obtain ⟨group, member, listed⟩ := known
      rw [addToGroup]
      split
      · rcases List.mem_cons.mp member with rfl | among
        · exact ⟨_, List.mem_cons_self, List.mem_append_left _ listed⟩
        · exact ⟨group, List.mem_cons_of_mem _ among, listed⟩
      · rcases List.mem_cons.mp member with rfl | among
        · exact ⟨group, List.mem_cons_self, listed⟩
        · obtain ⟨other, stored, here⟩ := ih ⟨group, among, listed⟩
          exact ⟨other, List.mem_cons_of_mem _ stored, here⟩

theorem advertiseLinks_complete {config : Config} {state : State} {links : List LinkTuple}
    {link : LinkTuple} (member : link ∈ links)
    (own : state.getMainAddr link.localIfaceAddr = config.raAddr) (valid : now ≤ link.time)
    (known : (helloNbType state link).isSome) :
    ∃ group ∈ links.foldl (advertiseLink config now state) [],
      link.nbIfaceAddr ∈ group.nbIfaceAddrs := by
  obtain ⟨nbType, type⟩ := Option.isSome_iff_exists.mp known
  refine foldl_reaches (advertiseLink config now state)
    (fun groups => ∃ group ∈ groups, link.nbIfaceAddr ∈ group.nbIfaceAddrs) member ?_ ?_ []
  · intro groups
    rw [advertiseLink, if_pos ⟨own, valid⟩, type]
    exact addToGroup_self _ _ groups
  · intro groups other _ listed
    unfold advertiseLink
    split
    · split
      · exact listed
      · exact addToGroup_keeps _ _ listed
    · exact listed

namespace NeighborView

theorem helloNbType_isSome (view : NeighborView beacons now v node) {link : LinkTuple}
    (member : link ∈ node.state.linkset) : (helloNbType node.state link).isSome := by
  obtain ⟨nb, among, main, _⟩ := view.covered link member
  have known : (node.state.findNbTuple link.nbIfaceAddr).isSome :=
    findNbTuple_isSome.mpr (main ▸ List.mem_map_of_mem among)
  simp only [helloNbType, view.getMainAddr]
  split
  · rfl
  · rw [Option.isSome_map]
    exact known

theorem helloNbType_symmetric (view : NeighborView beacons now v node) {link : LinkTuple}
    (member : link ∈ node.state.linkset) (valid : now ≤ link.symTime) {nbType : Nat}
    (type : helloNbType node.state link = some nbType) : nbType = symNeigh ∨ nbType = mprNeigh := by
  simp only [helloNbType, view.getMainAddr] at type
  split at type
  · exact .inr (Option.some.inj type).symm
  · obtain ⟨nb, found, rfl⟩ := Option.map_eq_some_iff.mp type
    have stored := List.mem_of_find?_eq_some found
    have here : nb.nbMainAddr = link.nbIfaceAddr := by simpa using List.find?_some found
    obtain ⟨other, among, main, sym⟩ := view.covered link member
    obtain rfl := List.inj_on_of_nodup_map view.linked.mains among stored (main.trans here.symm)
    rw [sym valid]
    exact .inl rfl

theorem listed_as (view : NeighborView beacons now v node) {link : LinkTuple}
    (member : link ∈ node.state.linkset) {group : HelloMsg}
    (among : group ∈ node.state.linkset.foldl
      (advertiseLink (beacons.config v) now node.state) [])
    (listed : link.nbIfaceAddr ∈ group.nbIfaceAddrs) :
    group.linkType = helloLinkType (beacons.config v) now link ∧
      helloNbType node.state link = some group.nbType := by
  obtain ⟨other, stored, addr, type⟩ := advertiseLinks_lists (beacons.config v) now node.state
    node.state.linkset group among link.nbIfaceAddr listed
  obtain rfl := view.same_link stored member addr
  exact type

theorem lists (view : NeighborView beacons now v node) (isNode : v ∈ network.nodes)
    {link : LinkTuple} (member : link ∈ node.state.linkset) (valid : now ≤ link.asymTime) :
    ∃ group ∈ node.state.linkset.foldl (advertiseLink (beacons.config v) now node.state) [],
      link.nbIfaceAddr ∈ group.nbIfaceAddrs := by
  refine advertiseLinks_complete member ?_ (valid.trans (view.lasting link member))
    (view.helloNbType_isSome member)
  obtain ⟨iface, among, addr⟩ := view.linked.ifaces link member
  rw [beacons.oneIface v isNode] at among
  rw [view.getMainAddr, ← addr, List.mem_singleton.mp among]
  exact (beacons.main v isNode).symm

theorem confirms (view : NeighborView beacons now v node) (isNode : v ∈ network.nodes)
    {expiry : Int} (ahead : now ≤ expiry) (hears : HearsFrom u expiry node) {hello : Hello}
    (groups : hello.helloMsgs =
      node.state.linkset.foldl (advertiseLink (beacons.config v) now node.state) []) :
    hello.Confirms u := by
  obtain ⟨link, member, rfl, alive⟩ := hears
  have valid : now ≤ link.asymTime := by omega
  unfold Hello.Confirms
  rw [groups]
  refine ⟨view.lists isNode member valid, ?_⟩
  intro group among listed
  obtain ⟨linkType, nbType⟩ := view.listed_as member among listed
  have known := helloNbType_lt nbType
  unfold helloLinkType at linkType
  simp only [beacons.aboveMac v isNode, Bool.false_eq_true, false_and, if_false] at linkType
  by_cases sym : now ≤ link.symTime
  · rw [if_pos sym] at linkType
    refine ⟨?_, .inl linkType⟩
    rcases view.helloNbType_symmetric member sym nbType with same | same
    · simp [HelloMsg.invalid, linkType, same, symNeigh, notNeigh]
    · simp [HelloMsg.invalid, linkType, same, mprNeigh, notNeigh]
  · rw [if_neg sym, if_pos valid] at linkType
    refine ⟨?_, .inr linkType⟩
    have types : group.nbType = 0 ∨ group.nbType = 1 ∨ group.nbType = 2 := by omega
    rcases types with same | same | same <;>
      simp [HelloMsg.invalid, linkType, same, asymLink, symLink, symNeigh, mprNeigh, notNeigh]

theorem reveals (view : NeighborView beacons now v node) (isNode : v ∈ network.nodes)
    {expiry : Int} (ahead : now ≤ expiry) (talks : TalksWith u expiry node) {hello : Hello}
    (groups : hello.helloMsgs =
      node.state.linkset.foldl (advertiseLink (beacons.config v) now node.state) []) :
    hello.Reveals u := by
  obtain ⟨link, member, rfl, asym, sym⟩ := talks
  unfold Hello.Reveals
  rw [groups]
  refine ⟨view.lists isNode member (by omega), ?_⟩
  intro group among listed
  obtain ⟨_, nbType⟩ := view.listed_as member among listed
  exact view.helloNbType_symmetric member (by omega) nbType

end NeighborView

/-! ## Messages on the air -/

/-- A HELLO of a node about itself and its neighbors. -/
structure TrueHello (beacons : Beacons network) (u : NsAddr) (msg : Msg) (hello : Hello) :
    Prop where
  origin : msg.origAddr = u
  ttl : msg.ttl = 1
  vtime : msg.vtime = secondsToEmf (beacons.config u).neighbHoldTime
  willing : hello.willingness = (beacons.config u).willingness
  listed : ∀ group ∈ hello.helloMsgs, ∀ addr ∈ group.nbIfaceAddrs, network.graph.Adj u addr

/-- The messages that a node may send. -/
def Beacons.Sends (beacons : Beacons network) (u : NsAddr) (msg : Msg) : Prop :=
  match msg.body with
  | .hello hello => TrueHello beacons u msg hello
  | .mid _ => False
  | .tc _ | .other _ => True

theorem Beacons.Sends.hello {msg : Msg} {hello : Hello} (sends : beacons.Sends u msg)
    (body : msg.body = .hello hello) : TrueHello beacons u msg hello := by
  simpa only [Beacons.Sends, body] using sends

theorem sendHello_msg {config : Config} (ran : sendHello config now node = .ok node') :
    ∃ msg hello, node' = node.nextMsgSeq.enqueMsg config now msg ∧
      msg.origAddr = config.raAddr ∧ msg.ttl = 1 ∧
      msg.vtime = secondsToEmf config.neighbHoldTime ∧ msg.body = .hello hello ∧
      hello.willingness = config.willingness ∧
      hello.helloMsgs = node.state.linkset.foldl (advertiseLink config now node.state) [] := by
  unfold sendHello at ran
  dsimp only at ran
  split at ran
  · cases ran
  · split at ran
    · cases ran
    · exact ⟨_, _, (Except.ok.inj ran).symm, rfl, rfl, rfl, rfl, rfl, rfl⟩

namespace NeighborView

theorem sendHello (view : NeighborView beacons now u node) (isNode : u ∈ network.nodes)
    (ran : sendHello (beacons.config u) now node = .ok node') :
    ∃ msg hello, node' = node.nextMsgSeq.enqueMsg (beacons.config u) now msg ∧
      msg.body = .hello hello ∧ TrueHello beacons u msg hello ∧ hello.helloMsgs =
        node.state.linkset.foldl (advertiseLink (beacons.config u) now node.state) [] := by
  obtain ⟨msg, hello, sent, origin, ttl, vtime, body, willing, groups⟩ := sendHello_msg ran
  refine ⟨msg, hello, sent, body,
    ⟨origin.trans (beacons.main u isNode), ttl, vtime, willing, ?_⟩, groups⟩
  intro group member addr listed
  rw [groups] at member
  obtain ⟨link, among, rfl, _⟩ := advertiseLinks_lists (beacons.config u) now node.state
    node.state.linkset group member addr listed
  exact view.adjacent link among

theorem recvMsg_unseen {config : Config} {iface : Iface} {msg : Msg}
    (other : ∀ hello, msg.body ≠ .hello hello) (noMid : ∀ mid, msg.body ≠ .mid mid)
    (ran : recvMsg config now iface u node msg = .ok node') : SameView node node' := by
  rcases recvMsg_stages ran with ⟨_, rfl⟩ | ⟨_, processed, processing, rfl⟩
  · exact .refl _
  · have handled : SameView node processed := by
      unfold processUnlessDuplicated at processing
      split at processing
      · unfold processMsg at processing
        split at processing
        · next hello body => exact absurd body (other hello)
        · have written := sameView_of_topology (processTc_writes processing)
          exact ⟨written.linkset, written.nbset, written.nb2hopset, written.mprset, written.assocs⟩
        · next mid body => exact absurd body (noMid mid)
        · rw [← Except.ok.inj processing]
          exact ⟨rfl, rfl, rfl, rfl, List.Subset.refl _⟩
      · exact Except.ok.inj processing ▸ .refl node
    split
    · exact handled.trans (sameView_of_forwarding
        (forwardDefault_writes config now msg _ iface.addr u processed))
    · exact handled

theorem recvMsg_effect (view : NeighborView beacons now v node) (isNode : v ∈ network.nodes)
    (adjacent : network.graph.Adj v u) {msg : Msg} {hello : Hello} (body : msg.body = .hello hello)
    (told : TrueHello beacons u msg hello)
    (fresh : node.state.findDupTuple msg.origAddr msg.msgSeqNum = none)
    (ran : recvMsg (beacons.config v) now ⟨beacons.index v, v⟩ u node msg = .ok node') :
    HelloEffect (beacons.config v) now
      (emfToSeconds (secondsToEmf (beacons.config u).neighbHoldTime)) v u hello node node' := by
  have foreign : (beacons.config v).isLocalAddress msg.origAddr = false := by
    rw [told.origin, Bool.eq_false_iff]
    intro own
    have same := beacons.apart v isNode u (network.adj_mem v u adjacent) own
    exact adjacent.ne same.symm
  have taken : processes (beacons.config v) msg node.state = true := by
    simp [processes, told.ttl, foreign, fresh]
  have known : (⟨beacons.index v, v⟩ : Iface) ∈ (beacons.config v).ifaces := by
    rw [beacons.oneIface v isNode]
    exact List.mem_singleton_self _
  have linked : WellLinked (beacons.config v)
      (node.record (.processed msg.origAddr msg.msgSeqNum)).state
      (node.record (.processed msg.origAddr msg.msgSeqNum)).nextId := view.linked
  have effect := processHello_effect linked known view.getMainAddr (beacons.aboveMac v isNode)
    told.origin (recvMsg_hello body taken ran)
  rw [told.vtime] at effect
  exact ⟨effect.links, effect.hops, effect.mprs⟩

theorem recvMsg (view : NeighborView beacons now v node) (isNode : v ∈ network.nodes)
    (adjacent : network.graph.Adj v u) {msg : Msg} (sends : beacons.Sends u msg)
    (fresh : ∀ hello, msg.body = .hello hello →
      node.state.findDupTuple msg.origAddr msg.msgSeqNum = none)
    (ran : recvMsg (beacons.config v) now ⟨beacons.index v, v⟩ u node msg = .ok node') :
    NeighborView beacons now v node' ∧
      ((SameView node node' ∧ ∀ hello, msg.body ≠ .hello hello) ∨
        ∃ hello, msg.body = .hello hello ∧ HelloEffect (beacons.config v) now
          (emfToSeconds (secondsToEmf (beacons.config u).neighbHoldTime)) v u hello node
          node') := by
  have keyed := recvMsg_keyed ran view.keyed
  have known : (⟨beacons.index v, v⟩ : Iface) ∈ (beacons.config v).ifaces := by
    rw [beacons.oneIface v isNode]
    exact List.mem_singleton_self _
  have linked := (wellLinked_rules Guard.always (beacons.config v) now).recvMsg known
    (by simp [Guard.allowsMsg, Guard.always]) ran view.linked
  have sends' := sends
  unfold Beacons.Sends at sends'
  cases body : msg.body with
  | hello hello =>
      have told := sends.hello body
      have effect := view.recvMsg_effect isNode adjacent body told (fresh hello body) ran
      exact ⟨view.hello isNode adjacent told.willing told.listed effect linked keyed,
        .inr ⟨hello, rfl, effect⟩⟩
  | mid mid =>
      rw [body] at sends'
      exact absurd sends' id
  | tc tc | other msgType =>
      have same := recvMsg_unseen (by simp [body]) (by simp [body]) ran
      exact ⟨view.unseen same linked keyed, .inl ⟨same, by simp⟩⟩

end NeighborView

end SyncFanet.Olsr
