import SyncFanet.Olsr.HelloExchange
import SyncFanet.Olsr.MirroredNeighbors
import SyncFanet.Olsr.SameInputs

/-!
# What timers and HELLOs do to a neighborhood

The expiry of a timer removes a link, a neighbor or a 2-hop neighbor that is over. A HELLO
rewrites what the node knows about its sender and selects the MPRs anew.
-/

set_option autoImplicit false

namespace SyncFanet.Olsr

variable {config : Config} {now : Int} {node node' : Node}

variable {state : State} {link : LinkTuple} {hello : Hello}

/-! ## Timers -/

/-- The same links, neighbors, 2-hop neighbors and MPRs. -/
structure SameView (node node' : Node) : Prop where
  linkset : node'.state.linkset = node.state.linkset
  nbset : node'.state.nbset = node.state.nbset
  nb2hopset : node'.state.nb2hopset = node.state.nb2hopset
  mprset : node'.state.mprset = node.state.mprset
  assocs : node'.state.ifaceassocset ⊆ node.state.ifaceassocset

theorem SameView.refl (node : Node) : SameView node node :=
  ⟨rfl, rfl, rfl, rfl, List.Subset.refl _⟩

theorem SameView.trans {node'' : Node} (left : SameView node node')
    (right : SameView node' node'') : SameView node node'' where
  linkset := right.linkset.trans left.linkset
  nbset := right.nbset.trans left.nbset
  nb2hopset := right.nb2hopset.trans left.nb2hopset
  mprset := right.mprset.trans left.mprset
  assocs := List.Subset.trans right.assocs left.assocs

theorem sameView_of_output (written : WritesOutput node node') : SameView node node' := by
  obtain ⟨_, _, _, _, _, _, rfl⟩ := written
  exact ⟨rfl, rfl, rfl, rfl, List.Subset.refl _⟩

theorem sameView_of_topology (written : WritesTopology node node') : SameView node node' := by
  obtain ⟨_, _, _, _, rfl⟩ := written
  exact ⟨rfl, rfl, rfl, rfl, List.Subset.refl _⟩

theorem sameView_of_forwarding (written : WritesForwarding node node') : SameView node node' := by
  obtain ⟨_, _, _, _, _, _, rfl⟩ := written
  exact ⟨rfl, rfl, rfl, rfl, List.Subset.refl _⟩

theorem recomputeRtable_sameView (ran : node.recomputeRtable now = .ok node') :
    SameView node node' := by
  obtain ⟨_, _, rfl⟩ := recomputeRtable_writes ran
  exact ⟨rfl, rfl, rfl, rfl, List.Subset.refl _⟩

/-- The node without a 2-hop tuple, or as it was. -/
structure HopRemoved (hop : Nb2hopTuple) (node node' : Node) : Prop where
  linkset : node'.state.linkset = node.state.linkset
  nbset : node'.state.nbset = node.state.nbset
  mprset : node'.state.mprset = node.state.mprset
  assocs : node'.state.ifaceassocset = node.state.ifaceassocset
  fewer : node'.state.nb2hopset ⊆ node.state.nb2hopset
  others : ∀ other ∈ node.state.nb2hopset, other ≠ hop → other ∈ node'.state.nb2hopset

/-- The node after `nb_loss`. -/
structure LossEffect (config : Config) (now : Int) (link : LinkTuple) (node node' : Node) :
    Prop where
  linkset : node'.state.linkset = node.state.linkset
  nbset : node'.state.nbset = (updatedLinkTuple config now link willDefault node.state).nbset
  nb2hopset : node'.state.nb2hopset = node.state.nb2hopset.filter fun hop =>
    !decide (hop.nbMainAddr = node.state.getMainAddr link.nbIfaceAddr)
  assocs : node'.state.ifaceassocset = node.state.ifaceassocset
  mprs : mprComputation config.isLocalAddress node'.state = some node'.state.mprset

/-- What the expiry of a timer does, whichever it is. -/
inductive TimerEffect (config : Config) (now : Int) (node node' : Node) : Prop where
  | unseen (same : SameView node node')
  | linkRemoved (link : LinkTuple) (member : link ∈ node.state.linkset)
      (expired : link.time < now) (same : SameView (node.mapState (rmLinkTuple link)) node')
  | neighborLost (link : LinkTuple) (member : link ∈ node.state.linkset)
      (asymmetric : link.symTime < now) (lost : LossEffect config now link node node')
  | hopRemoved (hop : Nb2hopTuple) (member : hop ∈ node.state.nb2hopset)
      (expired : hop.time < now) (removed : HopRemoved hop node node')

theorem nbLoss_effect (ran : nbLoss config now link node = .ok node') :
    LossEffect config now link node node' := by
  obtain ⟨computed, mprs, table⟩ := nbLoss_stages ran
  obtain ⟨mprset, chosen, rfl⟩ := recomputeMprs_writes mprs
  obtain ⟨_, _, rfl⟩ := recomputeRtable_writes table
  have erased : (lossErased config now link node).state.linkset = node.state.linkset ∧
      (lossErased config now link node).state.nbset =
        (updatedLinkTuple config now link willDefault node.state).nbset ∧
      (lossErased config now link node).state.nb2hopset = node.state.nb2hopset.filter (fun hop =>
        !decide (hop.nbMainAddr = node.state.getMainAddr link.nbIfaceAddr)) ∧
      (lossErased config now link node).state.ifaceassocset = node.state.ifaceassocset := by
    obtain ⟨nbset, written⟩ := updatedLinkTuple_writes config now link willDefault node.state
    unfold lossErased Node.eraseMprselTuples
    dsimp only
    split
    · simp only [Node.record, Node.eraseNb2hopTuplesOf, Node.mapState, written, and_self]
    · simp only [Node.eraseNb2hopTuplesOf, Node.mapState, written, and_self]
  obtain ⟨links, neighbors, hops, assocs⟩ := erased
  exact ⟨links, neighbors, hops, assocs,
    (mprComputation_congr config.isLocalAddress rfl rfl).trans chosen⟩

theorem expireLink_effect {id : TupleId} {firstTime : Bool}
    (ran : expireLink config now id firstTime node = .ok node') :
    TimerEffect config now node node' := by
  obtain ⟨link, found, expiry⟩ := expireLink_ok ran
  have member := List.mem_of_find?_eq_some found
  rcases expiry with ⟨expired, rfl⟩ | ⟨_, asymmetric, lost, loss, rfl⟩ | ⟨_, _, rfl⟩
  · exact .linkRemoved link member expired ⟨rfl, rfl, rfl, rfl, List.Subset.refl _⟩
  · rcases loss with ⟨_, rfl⟩ | ⟨_, loss⟩
    · exact .unseen ⟨rfl, rfl, rfl, rfl, List.Subset.refl _⟩
    · have lost' := nbLoss_effect loss
      exact .neighborLost link member asymmetric
        ⟨lost'.linkset, lost'.nbset, lost'.nb2hopset, lost'.assocs, lost'.mprs⟩
  · exact .unseen ⟨rfl, rfl, rfl, rfl, List.Subset.refl _⟩

theorem rmNb2hopTuple_effect {id : TupleId} {hop : Nb2hopTuple}
    (found : (node.state.nb2hopset ++ node.detachedNb2hop).find? (fun tuple => tuple.id = id) =
      some hop) (expired : hop.time < now) :
    TimerEffect config now node (node.rmNb2hopTuple hop) := by
  have same : hop.id = id := by simpa using List.find?_some found
  rw [List.find?_append] at found
  cases here : node.state.nb2hopset.find? fun tuple => tuple.id = id with
  | some first =>
      rw [here] at found
      obtain rfl : first = hop := by simpa using found
      refine .hopRemoved first (List.mem_of_find?_eq_some here) expired
        ⟨rfl, rfl, rfl, rfl, List.eraseP_sublist.subset, ?_⟩
      intro other member different
      obtain ⟨_, before, after, split, none⟩ := List.find?_eq_some_iff_append.mp here
      simp only [Node.rmNb2hopTuple, Node.mapState]
      rw [split] at member ⊢
      have earlier : ∀ tuple ∈ before, ¬ decide (tuple.id = first.id) = true := by
        intro tuple among
        rw [same]
        simpa using none tuple among
      rw [List.eraseP_append_right _ earlier, List.eraseP_cons_of_pos (by simp)]
      rcases List.mem_append.mp member with old | rest
      · exact List.mem_append_left _ old
      · rcases List.mem_cons.mp rest with rfl | rest
        · exact absurd rfl different
        · exact List.mem_append_right _ rest
  | none =>
      have absent : ∀ tuple ∈ node.state.nb2hopset, ¬ decide (tuple.id = hop.id) = true := by
        intro tuple member
        rw [same]
        simpa using List.find?_eq_none.mp here tuple member
      exact .unseen ⟨rfl, rfl, List.eraseP_of_forall_not absent, rfl, List.Subset.refl _⟩

theorem rmMprselTuple_sameView (node : Node) (tuple : MprselTuple) :
    SameView node (node.rmMprselTuple tuple) := by
  unfold Node.rmMprselTuple
  dsimp only
  split
  · exact ⟨rfl, rfl, rfl, rfl, List.Subset.refl _⟩
  · exact ⟨rfl, rfl, rfl, rfl, List.Subset.refl _⟩

theorem expireTimer_effect {timer : Timer} (ran : expireTimer config now timer node = .ok node') :
    TimerEffect config now node node' := by
  cases timer with
  | hello | tc | mid | msg => exact .unseen (sameView_of_output (expireTimer_output (by simp) ran))
  | link id firstTime => exact expireLink_effect ran
  | ifaceAssoc id =>
      obtain ⟨tuple, _, ⟨_, rfl⟩ | ⟨_, rfl⟩⟩ := expireTuple_ok ran
      · exact .unseen ⟨rfl, rfl, rfl, rfl, List.eraseP_sublist.subset⟩
      · exact .unseen ⟨rfl, rfl, rfl, rfl, List.Subset.refl _⟩
  | mprsel id =>
      obtain ⟨tuple, _, ⟨_, rfl⟩ | ⟨_, rfl⟩⟩ := expireTuple_ok ran
      · exact .unseen (rmMprselTuple_sameView node tuple)
      · exact .unseen ⟨rfl, rfl, rfl, rfl, List.Subset.refl _⟩
  | nb2hop id =>
      obtain ⟨hop, found, ⟨expired, rfl⟩ | ⟨_, rfl⟩⟩ := expireTuple_ok ran
      · exact rmNb2hopTuple_effect found expired
      · exact .unseen ⟨rfl, rfl, rfl, rfl, List.Subset.refl _⟩
  | dup id | topology id =>
      obtain ⟨tuple, _, ⟨_, rfl⟩ | ⟨_, rfl⟩⟩ := expireTuple_ok ran
      · exact .unseen ⟨rfl, rfl, rfl, rfl, List.Subset.refl _⟩
      · exact .unseen ⟨rfl, rfl, rfl, rfl, List.Subset.refl _⟩

/-! ## Link sensing -/

/-- The HELLO makes the link to the address symmetric. -/
def Hello.Confirms (hello : Hello) (addr : NsAddr) : Prop :=
  (∃ group ∈ hello.helloMsgs, addr ∈ group.nbIfaceAddrs) ∧
    ∀ group ∈ hello.helloMsgs, addr ∈ group.nbIfaceAddrs →
      group.invalid = false ∧ (group.linkType = symLink ∨ group.linkType = asymLink)

/-- The HELLO shows the address as a symmetric neighbor of its sender. -/
def Hello.Reveals (hello : Hello) (addr : NsAddr) : Prop :=
  (∃ group ∈ hello.helloMsgs, addr ∈ group.nbIfaceAddrs) ∧
    ∀ group ∈ hello.helloMsgs, addr ∈ group.nbIfaceAddrs →
      group.nbType = symNeigh ∨ group.nbType = mprNeigh

theorem senseGroup_confirmed {validity : Int} {addr : NsAddr} {group : HelloMsg}
    (listed : addr ∈ group.nbIfaceAddrs) (valid : group.invalid = false)
    (type : group.linkType = symLink ∨ group.linkType = asymLink) (acc : LinkTuple × Bool) :
    (senseGroup config now validity addr acc group).1.symTime = now + validity := by
  have kept : group.linkType ≠ lostLink := by
    rcases type with same | same
    · rw [same]
      decide
    · rw [same]
      decide
  simp [senseGroup, valid, listed, kept, type]

theorem senseLink_confirmed {addr : NsAddr} (confirms : hello.Confirms addr) (config : Config)
    (now validity : Int) (link : LinkTuple) (updated : Bool) :
    (senseLink config now validity addr hello.helloMsgs link updated).1.symTime =
      now + validity := by
  obtain ⟨⟨group, member, listed⟩, valid⟩ := confirms
  obtain ⟨proper, type⟩ := valid group member listed
  refine foldl_reaches (senseGroup config now validity addr)
    (fun acc => acc.1.symTime = now + validity) member
    (senseGroup_confirmed listed proper type) ?_ ({ link with asymTime := now + validity }, updated)
  intro acc other among holds
  by_cases here : addr ∈ other.nbIfaceAddrs
  · obtain ⟨proper, type⟩ := valid other among here
    exact senseGroup_confirmed here proper type acc
  · unfold senseGroup
    split
    · exact holds
    · exact holds

/-- The link to the sender of a HELLO. -/
structure SensedBy (now validity : Int) (receiver sender : NsAddr) (hello : Hello)
    (link : LinkTuple) : Prop where
  sender : link.nbIfaceAddr = sender
  asymTime : link.asymTime = now + validity
  lasting : link.asymTime ≤ link.time
  confirmed : hello.Confirms receiver → link.symTime = now + validity

/-- One link of the sender, and its neighbor tuple, are written. -/
structure LinkEffect (now validity : Int) (receiver sender : NsAddr) (hello : Hello)
    (state state' : State) : Prop where
  sensed : ∃ link status, SensedBy now validity receiver sender hello link ∧
    (now ≤ link.symTime → status = .sym) ∧
    (∀ other, other ∈ state'.linkset ↔
      other = link ∨ (other ∈ state.linkset ∧ other.nbIfaceAddr ≠ sender)) ∧
    ∀ nb, nb ∈ state'.nbset ↔ nb = ⟨sender, status, hello.willingness⟩ ∨
      (nb ∈ state.nbset ∧ nb.nbMainAddr ≠ sender)
  assocs : state'.ifaceassocset = state.ifaceassocset

theorem senseLink_sensedBy {validity : Int} {receiver sender : NsAddr} {link' : LinkTuple}
    {before updated : Bool}
    (sensed : senseLink config now validity receiver hello.helloMsgs link before =
      (link', updated)) (addr : link.nbIfaceAddr = sender) :
    SensedBy now validity receiver sender hello link' := by
  have times := senseLink_times config now validity receiver hello link before
  have spec := senseLink_spec config now validity receiver hello.helloMsgs link before
  rw [sensed] at times spec
  refine ⟨spec.1.nbIfaceAddr.trans addr, times.1, times.1 ▸ spec.2.1, ?_⟩
  intro confirms
  have sym := senseLink_confirmed confirms config now validity link before
  rw [sensed] at sym
  exact sym

theorem updatedLinkTuple_others (config : Config) (now : Int) (link : LinkTuple)
    (willingness : Nat) (unique : state.nbMains.Nodup)
    (resolves : state.getMainAddr link.nbIfaceAddr = link.nbIfaceAddr) {nb : NbTuple}
    (member : nb ∈ state.nbset) (different : nb.nbMainAddr ≠ link.nbIfaceAddr) :
    nb ∈ (updatedLinkTuple config now link willingness state).nbset := by
  have skipped : decide (nb.nbMainAddr = link.nbIfaceAddr) = false := decide_eq_false different
  unfold updatedLinkTuple findOrAddNb
  rw [resolves]
  refine updateFirst.mem_of_other ?_ skipped
  cases state.findNbTuple link.nbIfaceAddr with
  | some _ => exact member
  | none =>
      have erased : nb ∈ (state.eraseNbTuple link.nbIfaceAddr).nbset := by
        simp [State.eraseNbTuple, eraseP_eq_filter unique, member, different]
      have unique' : (state.eraseNbTuple link.nbIfaceAddr).nbMains.Nodup := nodup_eraseP unique _
      exact addNbTuple_keeps unique' _ erased different

/-- One neighbor tuple with the main address and the status, and the others as in the list. -/
structure NbReplaced (mainAddr : NsAddr) (status : NbStatus) (nbs : List NbTuple)
    (state : State) : Prop where
  unique : state.nbMains.Nodup
  written : ∀ nb ∈ state.nbset, (nb.nbMainAddr = mainAddr ∧ nb.status = status) ∨
    (nb ∈ nbs ∧ nb.nbMainAddr ≠ mainAddr)
  present : mainAddr ∈ state.nbMains
  others : ∀ nb ∈ nbs, nb.nbMainAddr ≠ mainAddr → nb ∈ state.nbset

theorem addLinkTuple_replaced (now : Int) {created : LinkTuple} (willingness : Nat)
    (unique : state.nbMains.Nodup)
    (resolves : state.getMainAddr created.nbIfaceAddr = created.nbIfaceAddr) :
    NbReplaced created.nbIfaceAddr (symStatus now created) state.nbset
      (addLinkTuple now created willingness state) := by
  have written := addLinkTuple_written now created willingness unique
  rw [resolves] at written
  refine ⟨written.unique, written.written, written.present, ?_⟩
  intro nb member different
  have unique' : (state.insertLinkTuple created).nbMains.Nodup := unique
  exact addNbTuple_keeps unique' _ member fun same => different (same.trans resolves)

theorem updatedLinkTuple_replaced (config : Config) (now : Int) (link : LinkTuple)
    (willingness : Nat) (unique : state.nbMains.Nodup)
    (resolves : state.getMainAddr link.nbIfaceAddr = link.nbIfaceAddr) :
    NbReplaced link.nbIfaceAddr (linkStatus config now link) state.nbset
      (updatedLinkTuple config now link willingness state) := by
  have written := updatedLinkTuple_written config now link willingness unique
  rw [resolves] at written
  refine ⟨written.unique, written.written, written.present, ?_⟩
  intro nb member different
  exact updatedLinkTuple_others config now link willingness unique resolves member different

theorem NbReplaced.again {mainAddr : NsAddr} {status status' : NbStatus} {nbs : List NbTuple}
    {state' : State} (first : NbReplaced mainAddr status nbs state)
    (second : NbReplaced mainAddr status' state.nbset state') :
    NbReplaced mainAddr status' nbs state' where
  unique := second.unique
  written := by
    intro nb member
    rcases second.written nb member with new | ⟨old, different⟩
    · exact .inl new
    · rcases first.written nb old with ⟨main, _⟩ | before
      · exact absurd main different
      · exact .inr before
  present := second.present
  others nb member different := second.others nb (first.others nb member different) different

/-- `populate_nbset` after the neighbor tuple of the sender got its status. -/
theorem NbReplaced.populate {sender : NsAddr} {status : NbStatus} {nbs : List NbTuple}
    (replaced : NbReplaced sender status nbs state) (hello : Hello) (nb : NbTuple) :
    nb ∈ (populateNbset hello sender state).nbset ↔
      nb = ⟨sender, status, hello.willingness⟩ ∨ (nb ∈ nbs ∧ nb.nbMainAddr ≠ sender) := by
  have unique : (state.nbset.map NbTuple.nbMainAddr).Nodup := replaced.unique
  have same : ∀ old ∈ state.nbset, old.nbMainAddr = sender → old.status = status := by
    intro old member main
    rcases replaced.written old member with ⟨_, same⟩ | ⟨_, different⟩
    · exact same
    · exact absurd main different
  simp only [populateNbset, State.updateNbTuple, updateFirst_eq_map unique, List.mem_map]
  constructor
  · rintro ⟨old, member, rfl⟩
    by_cases main : old.nbMainAddr = sender
    · rw [if_pos main]
      exact .inl (by rw [← main, ← same old member main])
    · rw [if_neg main]
      rcases replaced.written old member with ⟨here, _⟩ | before
      · exact absurd here main
      · exact .inr before
  · rintro (rfl | ⟨before, different⟩)
    · obtain ⟨old, member, main⟩ := List.mem_map.mp replaced.present
      refine ⟨old, member, ?_⟩
      rw [if_pos main, ← main, ← same old member main]
    · exact ⟨nb, replaced.others nb before different, if_neg different⟩

/-- The link tuples that `link_sensing` leaves for a known neighbor. -/
theorem mem_linkset_known {sender : NsAddr} (linked : WellLinked config node.state node.nextId)
    {old : LinkTuple} (member : old ∈ node.state.linkset) (addr : old.nbIfaceAddr = sender)
    (same : SameLink old link) (willingness : Nat) (updated : Bool) (other : LinkTuple) :
    other ∈ (writeSensed config now willingness link updated node.state).linkset ↔
      other = link ∨ (other ∈ node.state.linkset ∧ other.nbIfaceAddr ≠ sender) := by
  rw [linkset_writeSensed, mem_updateLinkTuple linked.ids member same]
  refine or_congr_right (and_congr_right fun among => not_congr ?_)
  constructor
  · intro equal
    rw [List.inj_on_of_nodup_map linked.ids among member equal, addr]
  · intro equal
    rw [List.inj_on_of_nodup_map linked.addrs among member (equal.trans addr.symm)]

/-- The link tuples that `link_sensing` leaves for a new neighbor. -/
theorem mem_linkset_created {sender : NsAddr} (linked : WellLinked config node.state node.nextId)
    {iface : Iface} (known : iface ∈ config.ifaces) (now : Int)
    (absent : node.state.findLinkTuple sender = none) {created : LinkTuple}
    (id : created.id = node.nextId) (local' : created.localIfaceAddr = iface.addr)
    (addr : created.nbIfaceAddr = sender) (same : SameLink created link)
    (willingness willingness' : Nat) (updated : Bool) (other : LinkTuple) :
    other ∈ (writeSensed config now willingness link updated
        (addLinkTuple now created willingness' node.state)).linkset ↔
      other = link ∨ (other ∈ node.state.linkset ∧ other.nbIfaceAddr ≠ sender) := by
  have written := addLinkTuple_written now created willingness' linked.mains
  have added := (linked.insertLink created id ⟨iface, known, local'.symm⟩ (addr ▸ absent)).writeNb
    written
  have foreign : ∀ other ∈ node.state.linkset, other.nbIfaceAddr ≠ sender := by
    simpa [State.findLinkTuple] using absent
  have stored : ∀ other, other ∈ (addLinkTuple now created willingness' node.state).linkset ↔
      other ∈ node.state.linkset ∨ other = created := by
    intro other
    rw [written.linkset]
    simp [State.insertLinkTuple]
  rw [linkset_writeSensed, mem_updateLinkTuple added.ids ((stored created).mpr (.inr rfl)) same]
  refine or_congr_right ?_
  rw [stored]
  constructor
  · rintro ⟨old | rfl, different⟩
    · exact ⟨old, foreign other old⟩
    · exact absurd rfl different
  · rintro ⟨old, _⟩
    refine ⟨.inl old, ?_⟩
    rw [id]
    exact Nat.ne_of_lt (linked.fresh other old)

/-- `link_sensing` and `populate_nbset` for a HELLO of a neighbor with one interface. -/
theorem linkSensing_effect {vtime : Nat} {iface : Iface} {sender : NsAddr} {changed : Bool}
    (linked : WellLinked config node.state node.nextId) (known : iface ∈ config.ifaces)
    (resolves : node.state.getMainAddr sender = sender) (aboveMac : config.useMac = false)
    (ran : linkSensingWith true config now vtime hello iface.addr sender iface.index node =
      .ok (node', changed)) :
    LinkEffect now (emfToSeconds vtime) iface.addr sender hello node.state
      (populateNbset hello sender node'.state) := by
  rcases linkSensingWith_cases ran with
    ⟨old, link, found, sensed, rfl⟩ | ⟨absent, _, created, link, updated, made, sensed, rfl⟩
  · have member := List.mem_of_find?_eq_some found
    have addr : old.nbIfaceAddr = sender := by simpa using List.find?_some found
    have same := senseLink_same sensed
    have sensedBy := senseLink_sensedBy sensed addr
    have flag : changed = true := by
      have spec :=
        senseLink_spec config now (emfToSeconds vtime) iface.addr hello.helloMsgs old true
      rw [sensed] at spec
      exact spec.2.2 rfl
    subst flag
    have rewritten := linked.rewriteLink member same
    have replaced := updatedLinkTuple_replaced config now link hello.willingness
      rewritten.mains (by rw [sensedBy.sender]; exact resolves)
    rw [sensedBy.sender] at replaced
    refine ⟨⟨link, linkStatus config now link, sensedBy, ?_,
      mem_linkset_known linked member addr same hello.willingness true,
      replaced.populate hello⟩, ?_⟩
    · intro sym
      exact linkStatus_sym_iff.mpr ⟨sym, by simp [aboveMac]⟩
    · exact (updatedLinkTuple_written config now link hello.willingness
        rewritten.mains).ifaceassocset
  · have same := senseLink_same sensed
    have addr : created.nbIfaceAddr = sender := by rw [made]; rfl
    have sensedBy := senseLink_sensedBy sensed addr
    have links := mem_linkset_created linked known now absent (by rw [made]; rfl)
      (by rw [made]; rfl) addr same hello.willingness hello.willingness updated
    have fresh : created.symTime < now := by
      rw [made]
      exact Int.sub_lt_self now (by decide)
    have first := addLinkTuple_replaced now hello.willingness linked.mains
      (by rw [addr]; exact resolves)
    rw [addr] at first
    cases updated with
    | false =>
        refine ⟨⟨link, symStatus now created, sensedBy, ?_, links, first.populate hello⟩, rfl⟩
        intro sym
        rw [senseLink_quiet sensed] at sym
        exact absurd sym (Int.not_le.mpr fresh)
    | true =>
        have unique : ((addLinkTuple now created hello.willingness
            node.state).updateLinkTuple link).nbMains.Nodup := first.unique
        have second := updatedLinkTuple_replaced config now link hello.willingness unique
          (by rw [sensedBy.sender]; exact resolves)
        rw [sensedBy.sender] at second
        refine ⟨⟨link, linkStatus config now link, sensedBy, ?_, links,
          (first.again second).populate hello⟩, ?_⟩
        · intro sym
          exact linkStatus_sym_iff.mpr ⟨sym, by simp [aboveMac]⟩
        · exact (updatedLinkTuple_written config now link hello.willingness unique).ifaceassocset

/-! ## 2-hop neighbors -/

/-- What one advertised address does to the 2-hop tuples. -/
inductive HopWrite (config : Config) (now validity : Int) (sender addr : NsAddr) (nbType : Nat)
    (hops hops' : List Nb2hopTuple) : Prop where
  | kept (same : hops' = hops)
      (skipped : nbType = symNeigh ∨ nbType = mprNeigh → addr = config.raAddr)
  | added (hop : Nb2hopTuple) (key : hopKey hop = (sender, addr))
      (time : hop.time = now + validity) (foreign : addr ≠ config.raAddr)
      (same : hops' = hops ++ [hop])
  | renewed (hop : Nb2hopTuple) (foreign : addr ≠ config.raAddr)
      (found : hops.find? (fun tuple => tuple.nbMainAddr = sender ∧ tuple.nb2hopAddr = addr) =
        some hop)
      (same : hops' = updateFirst (fun tuple => tuple.nbMainAddr = sender ∧ tuple.nb2hopAddr = addr)
        (fun tuple => { tuple with time := now + validity }) hops)
  | erased (type : nbType = notNeigh)
      (same : hops' = hops.filter fun tuple =>
        !decide (tuple.nbMainAddr = sender ∧ tuple.nb2hopAddr = addr))

theorem populateAddr_write (config : Config) (now validity : Int) (sender : NsAddr) (nbType : Nat)
    (acc : Node × Bool) (addr : NsAddr) :
    HopWrite config now validity sender addr nbType acc.1.state.nb2hopset
      (populateAddr config now validity sender nbType acc addr).1.state.nb2hopset := by
  unfold populateAddr
  dsimp only
  split
  · split
    · next own => exact .kept rfl fun _ => own
    · next foreign =>
      split
      · exact .added _ rfl rfl foreign rfl
      · next hop found => exact .renewed hop foreign found rfl
  · next unlisted =>
    split
    · next type => exact .erased type rfl
    · exact .kept rfl fun type => absurd type unlisted

namespace HopWrite

variable {validity : Int} {sender addr : NsAddr} {nbType : Nat} {hops hops' : List Nb2hopTuple}

theorem others (write : HopWrite config now validity sender addr nbType hops hops')
    {hop : Nb2hopTuple} (different : hop.nbMainAddr ≠ sender) : hop ∈ hops' ↔ hop ∈ hops := by
  cases write with
  | kept same skipped => rw [same]
  | added new key time foreign same =>
      have apart : hop ≠ new := by
        rintro rfl
        exact different (congrArg Prod.fst key)
      rw [same, List.mem_append, List.mem_singleton, or_iff_left apart]
  | renewed old foreign found same =>
      rw [same]
      constructor
      · intro among
        rcases updateFirst.mem_cases among with before | ⟨before, _, here, rfl⟩
        · exact before
        · exact absurd (of_decide_eq_true here).1 different
      · intro among
        exact updateFirst.mem_of_other among (decide_eq_false fun here => different here.1)
  | erased type same =>
      rw [same, List.mem_filter]
      simp [different]

theorem origin (write : HopWrite config now validity sender addr nbType hops hops')
    {hop : Nb2hopTuple} (member : hop ∈ hops') :
    (∃ old ∈ hops, hopKey old = hopKey hop) ∨
      (hopKey hop = (sender, addr) ∧ addr ≠ config.raAddr) := by
  cases write with
  | kept same skipped => exact .inl ⟨hop, same ▸ member, rfl⟩
  | added new key time foreign same =>
      rw [same] at member
      rcases List.mem_append.mp member with old | last
      · exact .inl ⟨hop, old, rfl⟩
      · exact .inr ⟨List.mem_singleton.mp last ▸ key, foreign⟩
  | renewed known foreign found same =>
      rw [same] at member
      rcases updateFirst.mem_cases member with before | ⟨before, among, _, rfl⟩
      · exact .inl ⟨hop, before, rfl⟩
      · exact .inl ⟨before, among, rfl⟩
  | erased type same =>
      rw [same] at member
      exact .inl ⟨hop, (List.mem_filter.mp member).1, rfl⟩

theorem reaches (write : HopWrite config now validity sender addr nbType hops hops')
    (type : nbType = symNeigh ∨ nbType = mprNeigh) (foreign : addr ≠ config.raAddr) :
    ∃ hop ∈ hops', hopKey hop = (sender, addr) ∧ hop.time = now + validity := by
  cases write with
  | kept same skipped => exact absurd (skipped type) foreign
  | added new key time foreign same =>
      exact ⟨new, same ▸ List.mem_append_right _ (List.mem_singleton_self _), key, time⟩
  | renewed known foreign found same =>
      have key : known.nbMainAddr = sender ∧ known.nb2hopAddr = addr := by
        simpa using List.find?_some found
      refine ⟨{ known with time := now + validity }, ?_, Prod.ext key.1 key.2, rfl⟩
      have again : hops'.find? (fun tuple => tuple.nbMainAddr = sender ∧ tuple.nb2hopAddr = addr) =
          (hops.find? fun tuple => tuple.nbMainAddr = sender ∧ tuple.nb2hopAddr = addr).map
            fun tuple => { tuple with time := now + validity } := by
        rw [same]
        refine updateFirst.find?_same ?_ hops
        exact fun _ here => here
      rw [found] at again
      exact List.mem_of_find?_eq_some again
  | erased notSym same =>
      rw [notSym] at type
      rcases type with equal | equal
      · cases equal
      · cases equal

theorem revealed (write : HopWrite config now validity sender addr nbType hops hops')
    {shown : NsAddr} (type : addr = shown → nbType = symNeigh ∨ nbType = mprNeigh)
    (valid : ∃ hop ∈ hops, hopKey hop = (sender, shown) ∧ hop.time = now + validity) :
    ∃ hop ∈ hops', hopKey hop = (sender, shown) ∧ hop.time = now + validity := by
  obtain ⟨hop, member, key, time⟩ := valid
  cases write with
  | kept same skipped => exact ⟨hop, same ▸ member, key, time⟩
  | added new newKey newTime foreign same =>
      exact ⟨hop, same ▸ List.mem_append_left _ member, key, time⟩
  | renewed known foreign found same =>
      by_cases here : addr = shown
      · have again : HopWrite config now validity sender addr nbType hops hops' :=
          .renewed known foreign found same
        exact here ▸ again.reaches (type here) foreign
      · refine ⟨hop, ?_, key, time⟩
        rw [same]
        refine updateFirst.mem_of_other member (decide_eq_false fun matched => here ?_)
        exact matched.2.symm.trans (congrArg Prod.snd key)
  | erased notSym same =>
      refine ⟨hop, ?_, key, time⟩
      rw [same, List.mem_filter]
      refine ⟨member, ?_⟩
      have apart : addr ≠ shown := by
        intro here
        have sym := type here
        rw [notSym] at sym
        rcases sym with equal | equal
        · cases equal
        · cases equal
      have key' : hop.nb2hopAddr = shown := congrArg Prod.snd key
      simp [key', Ne.symm apart]

end HopWrite

/-- The 2-hop tuples after a HELLO. -/
structure HopsEffect (config : Config) (now validity : Int) (sender : NsAddr) (hello : Hello)
    (linked : Prop) (hops hops' : List Nb2hopTuple) : Prop where
  others : ∀ hop, hop.nbMainAddr ≠ sender → (hop ∈ hops' ↔ hop ∈ hops)
  origin : ∀ hop ∈ hops', (∃ old ∈ hops, hopKey old = hopKey hop) ∨
    (hop.nbMainAddr = sender ∧ hop.nb2hopAddr ≠ config.raAddr ∧
      ∃ group ∈ hello.helloMsgs, hop.nb2hopAddr ∈ group.nbIfaceAddrs)
  revealed : linked → ∀ addr, hello.Reveals addr → addr ≠ config.raAddr →
    ∃ hop ∈ hops', hopKey hop = (sender, addr) ∧ hop.time = now + validity

theorem populateGroups_reveal {validity : Int} {sender shown : NsAddr}
    (reveals : hello.Reveals shown) (foreign : shown ≠ config.raAddr) (acc : Node × Bool) :
    ∃ hop ∈ (hello.helloMsgs.foldl (fun acc group => group.nbIfaceAddrs.foldl
        (populateAddr config now validity sender group.nbType) acc) acc).1.state.nb2hopset,
      hopKey hop = (sender, shown) ∧ hop.time = now + validity := by
  obtain ⟨⟨group, member, listed⟩, types⟩ := reveals
  have each : ∀ other ∈ hello.helloMsgs, ∀ acc, ∀ addr ∈ other.nbIfaceAddrs,
      (∃ hop ∈ acc.1.state.nb2hopset, hopKey hop = (sender, shown) ∧ hop.time = now + validity) →
      ∃ hop ∈ (populateAddr config now validity sender other.nbType acc addr).1.state.nb2hopset,
        hopKey hop = (sender, shown) ∧ hop.time = now + validity := by
    intro other among acc addr within valid
    refine (populateAddr_write config now validity sender other.nbType acc addr).revealed ?_ valid
    rintro rfl
    exact types other among within
  refine foldl_reaches _ (fun acc => ∃ hop ∈ acc.1.state.nb2hopset,
    hopKey hop = (sender, shown) ∧ hop.time = now + validity) member ?_ ?_ acc
  · intro acc
    exact foldl_reaches _ (fun acc => ∃ hop ∈ acc.1.state.nb2hopset,
      hopKey hop = (sender, shown) ∧ hop.time = now + validity) listed
      (fun acc => (populateAddr_write config now validity sender group.nbType acc shown).reaches
        (types group member listed) foreign)
      (fun acc addr within valid => each group member acc addr within valid) acc
  · intro acc other among valid
    exact foldl_keeps _ (fun acc => ∃ hop ∈ acc.1.state.nb2hopset,
      hopKey hop = (sender, shown) ∧ hop.time = now + validity) valid
      fun addr acc within valid => each other among acc addr within valid

theorem populateAll_effect {validity : Int} {sender : NsAddr}
    (plain : ∀ addr, node.state.getMainAddr addr = addr) :
    HopsEffect config now validity sender hello (symLinksOf now sender node.state ≠ [])
      node.state.nb2hopset (populateAll State.getMainAddr config now validity hello sender
        node).1.state.nb2hopset := by
  constructor
  · intro hop different
    refine populateAll_keeps (fun acc => hop ∈ acc.1.state.nb2hopset ↔ hop ∈ node.state.nb2hopset)
      Iff.rfl ?_
    intro acc same group _ addr _
    exact ((populateAddr_write config now validity sender group.nbType acc _).others
      different).trans same
  · refine populateAll_keeps (fun acc => ∀ hop ∈ acc.1.state.nb2hopset,
      (∃ old ∈ node.state.nb2hopset, hopKey old = hopKey hop) ∨
        (hop.nbMainAddr = sender ∧ hop.nb2hopAddr ≠ config.raAddr ∧
          ∃ group ∈ hello.helloMsgs, hop.nb2hopAddr ∈ group.nbIfaceAddrs))
      (fun hop member => .inl ⟨hop, member, rfl⟩) ?_
    intro acc holds group among addr listed hop member
    rcases (populateAddr_write config now validity sender group.nbType acc _).origin member with
      ⟨old, before, same⟩ | ⟨key, foreign⟩
    · have main : old.nbMainAddr = hop.nbMainAddr := congrArg Prod.fst same
      have shown : old.nb2hopAddr = hop.nb2hopAddr := congrArg Prod.snd same
      rw [← main, ← shown, ← same]
      exact holds old before
    · rw [plain] at key foreign
      have main : hop.nbMainAddr = sender := congrArg Prod.fst key
      have shown : hop.nb2hopAddr = addr := congrArg Prod.snd key
      exact .inr ⟨main, shown ▸ foreign, group, among, shown ▸ listed⟩
  · intro linked addr reveals foreign
    have resolve : State.getMainAddr node.state = id := funext plain
    unfold populateAll
    simp only [resolve, List.map_id]
    obtain ⟨link, member⟩ := List.exists_mem_of_ne_nil _ linked
    exact foldl_reaches _ (fun acc => ∃ hop ∈ acc.1.state.nb2hopset,
      hopKey hop = (sender, addr) ∧ hop.time = now + validity) member
      (populateGroups_reveal reveals foreign)
      (fun acc _ _ _ => populateGroups_reveal reveals foreign acc) (node, false)

/-! ## HELLOs -/

/-- What a HELLO does to the view of its receiver. -/
structure HelloEffect (config : Config) (now validity : Int) (receiver sender : NsAddr)
    (hello : Hello) (node node' : Node) : Prop where
  links : LinkEffect now validity receiver sender hello node.state node'.state
  hops : HopsEffect config now validity sender hello (hello.Confirms receiver)
    node.state.nb2hopset node'.state.nb2hopset
  mprs : mprComputation config.isLocalAddress node'.state = some node'.state.mprset

theorem processHello_effect {msg : Msg} {iface : Iface} {sender : NsAddr}
    (linked : WellLinked config node.state node.nextId) (known : iface ∈ config.ifaces)
    (plain : ∀ addr, node.state.getMainAddr addr = addr) (aboveMac : config.useMac = false)
    (origin : msg.origAddr = sender)
    (ran : processHello config now msg hello iface.addr sender iface.index node = .ok node') :
    HelloEffect config now (emfToSeconds msg.vtime) iface.addr sender hello node node' := by
  obtain ⟨sensed, populated, computed, _, _, first, second, third, fourth⟩ :=
    processHello_stages ran
  rw [origin] at second fourth
  have links := linkSensing_effect linked known (plain sender) aboveMac first
  have plain' : ∀ addr, (sensed.mapState (populateNbset hello sender)).state.getMainAddr addr =
      addr := by
    intro addr
    have resolves : (populateNbset hello sender sensed.state).getMainAddr =
        node.state.getMainAddr := getMainAddr_congr (by rw [links.assocs])
    exact (congrFun resolves addr).trans (plain addr)
  have hops : HopsEffect config now (emfToSeconds msg.vtime) sender hello _ _ _ :=
    populateAll_effect plain'
  rw [← populateNb2hopsetWith_ok second] at hops
  have symmetric : hello.Confirms iface.addr →
      symLinksOf now sender (sensed.mapState (populateNbset hello sender)).state ≠ [] := by
    intro confirms empty
    obtain ⟨link, _, sensedBy, _, stored, _⟩ := links.sensed
    have positive := emfToSeconds_pos msg.vtime
    have valid : now ≤ link.symTime := by
      rw [sensedBy.confirmed confirms]
      omega
    have member : link ∈ symLinksOf now sender
        (sensed.mapState (populateNbset hello sender)).state := by
      refine List.mem_filter.mpr ⟨(stored link).mpr (.inl rfl), decide_eq_true ?_⟩
      exact ⟨(plain' _).trans sensedBy.sender, valid⟩
    rw [empty] at member
    exact List.not_mem_nil member
  have before : sensed.state.nb2hopset = node.state.nb2hopset := by
    obtain ⟨_, _, _, _, rfl⟩ := linkSensingWith_writes first
    rfl
  obtain ⟨_, _, _, _, rfl⟩ := populateNb2hopsetWith_writes second
  obtain ⟨mprset, chosen, rfl⟩ := recomputeMprs_writes third
  obtain ⟨_, _, _, _, _, rfl⟩ := populateMprselset_writes fourth
  refine ⟨⟨links.sensed, links.assocs⟩, ?_, ?_⟩
  · rw [← before]
    exact ⟨hops.others, hops.origin, fun confirms => hops.revealed (symmetric confirms)⟩
  · exact (mprComputation_congr config.isLocalAddress rfl rfl).trans chosen

end SyncFanet.Olsr
