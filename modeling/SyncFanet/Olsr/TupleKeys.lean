import SyncFanet.Olsr.LinkInvariants

/-!
# Keys of the tuples

Every function that adds a tuple looks for one with the same key first. In every run
the topology tuples of an originator have one sequence number, and no two tuples of a
set have the same key.
-/

set_option autoImplicit false

namespace SyncFanet.Olsr

/-! ## Keys -/

/-- What `process_tc` compares of a topology tuple. -/
structure TopologyKey where
  destAddr : NsAddr
  lastAddr : NsAddr
  seq : Nat
  deriving DecidableEq

/-- The two addresses that `find_topology_tuple` looks for. -/
def TopologyKey.ends (key : TopologyKey) : NsAddr × NsAddr := (key.destAddr, key.lastAddr)

/-- The keys of the sets that HELLO and TC messages fill. -/
structure TupleKeys where
  links : List NsAddr
  nb2hops : List (NsAddr × NsAddr)
  mprsels : List NsAddr
  topologies : List TopologyKey

/-- One sequence number for an originator, and one tuple for a key. -/
structure OnePerKey (keys : TupleKeys) : Prop where
  oneSeq : ∀ first ∈ keys.topologies, ∀ second ∈ keys.topologies,
    first.lastAddr = second.lastAddr → first.seq = second.seq
  topologies : (keys.topologies.map TopologyKey.ends).Nodup
  nb2hops : keys.nb2hops.Nodup
  mprsels : keys.mprsels.Nodup
  links : keys.links.Nodup

namespace OnePerKey

variable {keys : TupleKeys}

theorem addLink (unique : OnePerKey keys) {ifaceAddr : NsAddr} (absent : ifaceAddr ∉ keys.links) :
    OnePerKey { keys with links := keys.links ++ [ifaceAddr] } :=
  { unique with links := nodup_append_single unique.links absent }

theorem addNb2hop (unique : OnePerKey keys) {key : NsAddr × NsAddr} (absent : key ∉ keys.nb2hops) :
    OnePerKey { keys with nb2hops := keys.nb2hops ++ [key] } :=
  { unique with nb2hops := nodup_append_single unique.nb2hops absent }

theorem addMprsel (unique : OnePerKey keys) {mainAddr : NsAddr} (absent : mainAddr ∉ keys.mprsels) :
    OnePerKey { keys with mprsels := keys.mprsels ++ [mainAddr] } :=
  { unique with mprsels := nodup_append_single unique.mprsels absent }

theorem addTopology (unique : OnePerKey keys) {key : TopologyKey}
    (absent : key.ends ∉ keys.topologies.map TopologyKey.ends)
    (current : ∀ other ∈ keys.topologies, other.lastAddr = key.lastAddr → other.seq = key.seq) :
    OnePerKey { keys with topologies := keys.topologies ++ [key] } := by
  refine { unique with oneSeq := ?_, topologies := ?_ }
  · intro first member second member' same
    rcases List.mem_append.mp member with old | last <;>
      rcases List.mem_append.mp member' with old' | last'
    · exact unique.oneSeq first old second old' same
    · obtain rfl := List.mem_singleton.mp last'
      exact current first old same
    · obtain rfl := List.mem_singleton.mp last
      exact (current second old' same.symm).symm
    · rw [List.mem_singleton.mp last, List.mem_singleton.mp last']
  · rw [List.map_append]
    exact nodup_append_single unique.topologies absent

theorem of_sublists {keys' : TupleKeys} (unique : OnePerKey keys)
    (links : keys'.links.Sublist keys.links) (nb2hops : keys'.nb2hops.Sublist keys.nb2hops)
    (mprsels : keys'.mprsels.Sublist keys.mprsels)
    (topologies : keys'.topologies.Sublist keys.topologies) : OnePerKey keys' where
  oneSeq first member second member' :=
    unique.oneSeq first (topologies.subset member) second (topologies.subset member')
  topologies := unique.topologies.sublist (topologies.map _)
  nb2hops := unique.nb2hops.sublist nb2hops
  mprsels := unique.mprsels.sublist mprsels
  links := unique.links.sublist links

end OnePerKey

/-! ## Keys of a node -/

def Nb2hopTuple.key (tuple : Nb2hopTuple) : NsAddr × NsAddr :=
  (tuple.nbMainAddr, tuple.nb2hopAddr)

def TopologyTuple.key (tuple : TopologyTuple) : TopologyKey where
  destAddr := tuple.destAddr
  lastAddr := tuple.lastAddr
  seq := tuple.seq

def State.tupleKeys (state : State) : TupleKeys where
  links := state.linkset.map LinkTuple.nbIfaceAddr
  nb2hops := state.nb2hopset.map Nb2hopTuple.key
  mprsels := state.mprselset.map MprselTuple.mainAddr
  topologies := state.topologyset.map TopologyTuple.key

structure Keyed (node : Node) : Prop where
  unique : OnePerKey node.state.tupleKeys
  ids : (node.state.linkset.map LinkTuple.id).Nodup
  fresh : ∀ link ∈ node.state.linkset, link.id < node.nextId

structure DropsKeys (node node' : Node) : Prop where
  links : (node'.state.linkset.map linkKey).Sublist (node.state.linkset.map linkKey)
  nb2hops : (node'.state.nb2hopset.map Nb2hopTuple.key).Sublist
    (node.state.nb2hopset.map Nb2hopTuple.key)
  mprsels : (node'.state.mprselset.map MprselTuple.mainAddr).Sublist
    (node.state.mprselset.map MprselTuple.mainAddr)
  topologies : (node'.state.topologyset.map TopologyTuple.key).Sublist
    (node.state.topologyset.map TopologyTuple.key)
  nextId : node.nextId ≤ node'.nextId

namespace DropsKeys

variable {first second third node node' : Node}

theorem refl (node : Node) : DropsKeys node node :=
  ⟨List.Sublist.refl _, List.Sublist.refl _, List.Sublist.refl _, List.Sublist.refl _, le_refl _⟩

theorem trans (left : DropsKeys first second) (right : DropsKeys second third) :
    DropsKeys first third where
  links := right.links.trans left.links
  nb2hops := right.nb2hops.trans left.nb2hops
  mprsels := right.mprsels.trans left.mprsels
  topologies := right.topologies.trans left.topologies
  nextId := left.nextId.trans right.nextId

theorem of_sublists (links : node'.state.linkset.Sublist node.state.linkset)
    (nb2hops : node'.state.nb2hopset.Sublist node.state.nb2hopset)
    (mprsels : node'.state.mprselset.Sublist node.state.mprselset)
    (topologies : node'.state.topologyset.Sublist node.state.topologyset)
    (nextId : node.nextId ≤ node'.nextId) : DropsKeys node node' :=
  ⟨links.map _, nb2hops.map _, mprsels.map _, topologies.map _, nextId⟩

theorem of_same (links : node'.state.linkset = node.state.linkset)
    (nb2hops : node'.state.nb2hopset = node.state.nb2hopset)
    (mprsels : node'.state.mprselset = node.state.mprselset)
    (topologies : node'.state.topologyset = node.state.topologyset)
    (nextId : node.nextId ≤ node'.nextId) : DropsKeys node node' :=
  of_sublists (links ▸ List.Sublist.refl _) (nb2hops ▸ List.Sublist.refl _)
    (mprsels ▸ List.Sublist.refl _) (topologies ▸ List.Sublist.refl _) nextId

theorem of_output (written : WritesOutput node node') : DropsKeys node node' := by
  obtain ⟨_, _, _, _, _, _, rfl⟩ := written
  exact of_same rfl rfl rfl rfl (le_refl _)

end DropsKeys

variable {config : Config} {now : Int} {origAddr : NsAddr} {ansn : Nat} {hello : Hello}

variable {index vtime : Nat} {msg : Msg} {senderIface : NsAddr} {state : State}

theorem Keyed.drops {node node' : Node} (keyed : Keyed node) (drops : DropsKeys node node') :
    Keyed node' := by
  constructor
  · refine keyed.unique.of_sublists ?_ drops.nb2hops drops.mprsels drops.topologies
    have addrs := drops.links.map fun key => key.2.2
    simp only [List.map_map] at addrs
    exact addrs
  · have ids := drops.links.map Prod.fst
    simp only [List.map_map] at ids
    exact keyed.ids.sublist ids
  · intro link member
    obtain ⟨old, among, same⟩ :=
      List.mem_map.mp (drops.links.subset (List.mem_map_of_mem member))
    have equal : old.id = link.id := congrArg Prod.fst same
    exact equal ▸ Nat.lt_of_lt_of_le (keyed.fresh old among) drops.nextId

/-! ## Expiry and link failures -/

theorem recomputeMprs_dropsKeys {node node' : Node} (ran : node.recomputeMprs config = .ok node') :
    DropsKeys node node' := by
  obtain ⟨_, _, rfl⟩ := recomputeMprs_writes ran
  exact .of_same rfl rfl rfl rfl (le_refl _)

theorem recomputeRtable_dropsKeys {node node' : Node} (ran : node.recomputeRtable now = .ok node') :
    DropsKeys node node' := by
  obtain ⟨_, _, rfl⟩ := recomputeRtable_writes ran
  exact .of_same rfl rfl rfl rfl (le_refl _)

/-- `nb_loss` keeps the link tuples and only erases others. -/
theorem lossErased_dropsKeys (config : Config) (now : Int) (link : LinkTuple) (node : Node) :
    DropsKeys node (lossErased config now link node) := by
  obtain ⟨_, written⟩ := updatedLinkTuple_writes config now link willDefault node.state
  unfold lossErased Node.eraseMprselTuples Node.eraseNb2hopTuplesOf Node.mapState
  dsimp only
  rw [written]
  split
  · exact .of_sublists (List.Sublist.refl _) List.filter_sublist List.filter_sublist
      (List.Sublist.refl _) (le_refl _)
  · exact .of_sublists (List.Sublist.refl _) List.filter_sublist List.filter_sublist
      (List.Sublist.refl _) (le_refl _)

theorem nbLoss_dropsKeys {link : LinkTuple} {node node' : Node}
    (ran : nbLoss config now link node = .ok node') : DropsKeys node node' := by
  obtain ⟨computed, mprs, table⟩ := nbLoss_stages ran
  exact ((lossErased_dropsKeys config now link node).trans (recomputeMprs_dropsKeys mprs)).trans
    (recomputeRtable_dropsKeys table)

theorem rmMprselTuple_dropsKeys (node : Node) (tuple : MprselTuple) :
    DropsKeys node (node.rmMprselTuple tuple) := by
  unfold Node.rmMprselTuple
  dsimp only
  split
  · exact .of_sublists (List.Sublist.refl _) (List.Sublist.refl _) List.eraseP_sublist
      (List.Sublist.refl _) (le_refl _)
  · exact .of_sublists (List.Sublist.refl _) (List.Sublist.refl _) List.eraseP_sublist
      (List.Sublist.refl _) (le_refl _)

theorem expireLink_dropsKeys {id : TupleId} {firstTime : Bool} {node node' : Node}
    (ran : expireLink config now id firstTime node = .ok node') :
    DropsKeys node node' := by
  obtain ⟨link, _, ⟨_, rfl⟩ | ⟨_, _, lost, loss, rfl⟩ | ⟨_, _, rfl⟩⟩ := expireLink_ok ran
  · exact .of_sublists List.eraseP_sublist (List.Sublist.refl _) (List.Sublist.refl _)
      (List.Sublist.refl _) (le_refl _)
  · have drops : DropsKeys node lost := by
      rcases loss with ⟨_, rfl⟩ | ⟨_, loss⟩
      · exact DropsKeys.refl _
      · exact nbLoss_dropsKeys loss
    exact drops.trans (.of_same rfl rfl rfl rfl (le_refl _))
  · exact .of_same rfl rfl rfl rfl (le_refl _)

theorem expireTimer_dropsKeys {timer : Timer} {node node' : Node}
    (ran : expireTimer config now timer node = .ok node') : DropsKeys node node' := by
  have scheduled : ∀ (node : Node) (key : Int) (timer : Timer),
      DropsKeys node (node.schedule key timer) :=
    fun _ _ _ => .of_same rfl rfl rfl rfl (le_refl _)
  cases timer with
  | hello | tc | mid | msg => exact .of_output (expireTimer_output (by simp) ran)
  | link id firstTime => exact expireLink_dropsKeys ran
  | nb2hop id =>
      obtain ⟨tuple, _, ⟨_, rfl⟩ | ⟨_, rfl⟩⟩ := expireTuple_ok ran
      · exact .of_sublists (List.Sublist.refl _) List.eraseP_sublist (List.Sublist.refl _)
          (List.Sublist.refl _) (le_refl _)
      · exact scheduled _ _ _
  | mprsel id =>
      obtain ⟨tuple, _, ⟨_, rfl⟩ | ⟨_, rfl⟩⟩ := expireTuple_ok ran
      · exact rmMprselTuple_dropsKeys node tuple
      · exact scheduled _ _ _
  | topology id =>
      obtain ⟨tuple, _, ⟨_, rfl⟩ | ⟨_, rfl⟩⟩ := expireTuple_ok ran
      · exact .of_sublists (List.Sublist.refl _) (List.Sublist.refl _) (List.Sublist.refl _)
          List.eraseP_sublist (le_refl _)
      · exact scheduled _ _ _
  | dup id | ifaceAssoc id =>
      obtain ⟨tuple, _, ⟨_, rfl⟩ | ⟨_, rfl⟩⟩ := expireTuple_ok ran
      · exact .of_same rfl rfl rfl rfl (le_refl _)
      · exact scheduled _ _ _

theorem macFailed_keyed {destAddr : NsAddr} {node node' : Node}
    (ran : macFailed config now destAddr node = .ok node') (keyed : Keyed node) : Keyed node' := by
  unfold macFailed at ran
  split at ran
  · exact Except.ok.inj ran ▸ keyed
  · split at ran
    · exact Except.ok.inj ran ▸ keyed
    · split at ran
      · exact Except.ok.inj ran ▸ keyed
      · next link found =>
        have member := List.mem_of_find?_eq_some found
        have marked : DropsKeys node (node.mapState fun state =>
            state.updateLinkTuple (lostLinkTuple config now link)) :=
          ⟨(linkKeys_updateLinkTuple keyed.ids member (lostLinkTuple_same config now link)) ▸
            List.Sublist.refl _, List.Sublist.refl _, List.Sublist.refl _, List.Sublist.refl _,
            le_refl _⟩
        exact keyed.drops (marked.trans (nbLoss_dropsKeys ran))

/-! ## HELLO messages -/

theorem writeSensed_dropsKeys (config : Config) (now : Int) (willingness : Nat) (updated : Bool)
    {link link' : LinkTuple} {node : Node}
    (ids : (node.state.linkset.map LinkTuple.id).Nodup) (member : link ∈ node.state.linkset)
    (same : SameLink link link') :
    DropsKeys node (node.mapState (writeSensed config now willingness link' updated)) := by
  have rewritten : DropsKeys node (node.mapState fun state => state.updateLinkTuple link') :=
    ⟨(linkKeys_updateLinkTuple ids member same) ▸ List.Sublist.refl _, List.Sublist.refl _,
      List.Sublist.refl _, List.Sublist.refl _, le_refl _⟩
  cases updated with
  | false => exact rewritten
  | true =>
      obtain ⟨_, written⟩ := updatedLinkTuple_writes config now link' willingness
        (node.state.updateLinkTuple link')
      refine rewritten.trans ?_
      simp only [Node.mapState, writeSensed, if_true, written]
      exact .of_same rfl rfl rfl rfl (le_refl _)

theorem Keyed.insertLink {node : Node} (keyed : Keyed node) (created : LinkTuple)
    (id : created.id = node.nextId)
    (absent : node.state.findLinkTuple created.nbIfaceAddr = none) :
    Keyed { node with
      state := node.state.insertLinkTuple created
      nextId := node.nextId + 1 } := by
  have others : created.nbIfaceAddr ∉ node.state.linkset.map LinkTuple.nbIfaceAddr := by
    simpa [State.findLinkTuple] using absent
  constructor
  · have added := keyed.unique.addLink others
    simpa [State.tupleKeys, State.insertLinkTuple] using added
  · rw [State.insertLinkTuple, List.map_append]
    refine nodup_append_single keyed.ids ?_
    intro among
    obtain ⟨link, member, same⟩ := List.mem_map.mp among
    exact Nat.ne_of_lt (keyed.fresh link member) (same.trans id)
  · intro link member
    rcases List.mem_append.mp member with old | last
    · exact Nat.lt_succ_of_lt (keyed.fresh link old)
    · rw [List.mem_singleton.mp last, id]
      exact Nat.lt_succ_self _

theorem linkSensingWith_keyed {knownUpdated : Bool} {receiverIface : NsAddr} {node node' : Node}
    {changed : Bool}
    (ran : linkSensingWith knownUpdated config now vtime hello receiverIface senderIface index
      node = .ok (node', changed)) (keyed : Keyed node) : Keyed node' := by
  rcases linkSensingWith_cases ran with
    ⟨known, link, found, sensed, rfl⟩ | ⟨absent, _, created, link, updated, rfl, sensed, rfl⟩
  · exact keyed.drops (writeSensed_dropsKeys config now hello.willingness changed keyed.ids
      (List.mem_of_find?_eq_some found) (senseLink_same sensed))
  · have inserted := keyed.insertLink
      (newLinkTuple node.nextId now (emfToSeconds vtime) receiverIface senderIface index) rfl absent
    have added : Keyed { node with
        state := addLinkTuple now
          (newLinkTuple node.nextId now (emfToSeconds vtime) receiverIface senderIface index)
          hello.willingness node.state
        nextId := node.nextId + 1 } :=
      inserted.drops (.of_same rfl rfl rfl rfl (le_refl _))
    have written := added.drops (writeSensed_dropsKeys config now hello.willingness updated
      added.ids (List.mem_append_right _ (List.mem_singleton_self _)) (senseLink_same sensed))
    exact written.drops (.of_same rfl rfl rfl rfl (le_refl _))

theorem findNb2hopTuple_eq_none {nbMainAddr nb2hopAddr : NsAddr} :
    state.findNb2hopTuple nbMainAddr nb2hopAddr = none ↔
      (nbMainAddr, nb2hopAddr) ∉ state.nb2hopset.map Nb2hopTuple.key := by
  simp [State.findNb2hopTuple, Nb2hopTuple.key]

theorem populateAddr_keyed (config : Config) (now validity : Int) (origAddr : NsAddr)
    (nbType : Nat) {acc : Node × Bool} (addr : NsAddr) (keyed : Keyed acc.1) :
    Keyed (populateAddr config now validity origAddr nbType acc addr).1 := by
  unfold populateAddr
  dsimp only
  split
  · split
    · exact keyed
    · cases found : acc.1.state.findNb2hopTuple origAddr addr with
      | none =>
          refine ⟨?_, keyed.ids, fun link member => Nat.lt_succ_of_lt (keyed.fresh link member)⟩
          have added := keyed.unique.addNb2hop (findNb2hopTuple_eq_none.mp found)
          simpa [State.tupleKeys, Node.addNb2hopTuple, Node.scheduleTuple, Node.schedule,
            Nb2hopTuple.key] using added
      | some tuple =>
          have keeps : ∀ tuple : Nb2hopTuple,
              Nb2hopTuple.key { tuple with time := now + validity } = tuple.key := fun _ => rfl
          exact keyed.drops ⟨List.Sublist.refl _,
            (updateFirst.map_key keeps acc.1.state.nb2hopset) ▸ List.Sublist.refl _,
            List.Sublist.refl _, List.Sublist.refl _, le_refl _⟩
  · split
    · exact keyed.drops (.of_sublists (List.Sublist.refl _) List.filter_sublist
        (List.Sublist.refl _) (List.Sublist.refl _) (le_refl _))
    · exact keyed

theorem populateNb2hopsetWith_keyed {resolve : State → NsAddr → NsAddr} {node : Node}
    {result : Node × Bool}
    (ran : populateNb2hopsetWith resolve config now vtime hello origAddr node = .ok result)
    (keyed : Keyed node) : Keyed result.1 := by
  rw [populateNb2hopsetWith_ok ran]
  refine populateAll_keeps (fun acc => Keyed acc.1) keyed ?_
  intro acc keyed group _ addr _
  exact populateAddr_keyed config now _ origAddr group.nbType _ keyed

theorem findMprselTuple_eq_none {mainAddr : NsAddr} :
    state.findMprselTuple mainAddr = none ↔
      mainAddr ∉ state.mprselset.map MprselTuple.mainAddr := by
  simp [State.findMprselTuple]

theorem populateSelector_keyed (config : Config) (now validity : Int) (origAddr : NsAddr)
    {node : Node} (addr : NsAddr) (keyed : Keyed node) :
    Keyed (populateSelector config now validity origAddr node addr) := by
  unfold populateSelector
  split
  · cases found : node.state.findMprselTuple origAddr with
    | none =>
        refine ⟨?_, keyed.ids, fun link member => Nat.lt_succ_of_lt (keyed.fresh link member)⟩
        have added := keyed.unique.addMprsel (findMprselTuple_eq_none.mp found)
        simpa [State.tupleKeys, Node.addMprselTuple, Node.scheduleTuple, Node.schedule,
          Node.nextAnsn, Node.record] using added
    | some tuple =>
        have keeps : ∀ tuple : MprselTuple,
            MprselTuple.mainAddr { tuple with time := now + validity } = tuple.mainAddr :=
          fun _ => rfl
        exact keyed.drops ⟨List.Sublist.refl _, List.Sublist.refl _,
          (updateFirst.map_key keeps node.state.mprselset) ▸ List.Sublist.refl _,
          List.Sublist.refl _, le_refl _⟩
  · exact keyed

theorem populateMprselset_keyed {node node' : Node}
    (ran : populateMprselset config now vtime hello origAddr node = .ok node')
    (keyed : Keyed node) : Keyed node' :=
  populateMprselset_keeps Keyed keyed
    (fun _ _ _ _ addr _ keyed => populateSelector_keyed config now _ origAddr addr keyed) ran

theorem processHello_keyed {receiverIface : NsAddr} {node node' : Node}
    (ran : processHello config now msg hello receiverIface senderIface index node = .ok node')
    (keyed : Keyed node) : Keyed node' := by
  obtain ⟨sensed, populated, computed, _, _, first, second, third, fourth⟩ :=
    processHello_stages ran
  have willing : Keyed (sensed.mapState (populateNbset hello msg.origAddr)) :=
    (linkSensingWith_keyed first keyed).drops (.of_same rfl rfl rfl rfl (le_refl _))
  have computed := (populateNb2hopsetWith_keyed second willing).drops (recomputeMprs_dropsKeys third)
  exact populateMprselset_keyed fourth computed

/-! ## TC messages -/

def AllAt (origAddr : NsAddr) (ansn : Nat) (keys : List TopologyKey) : Prop :=
  ∀ key ∈ keys, key.lastAddr = origAddr → key.seq = ansn

theorem AllAt.append {keys : List TopologyKey} (current : AllAt origAddr ansn keys)
    (destAddr : NsAddr) :
    AllAt origAddr ansn
      (keys ++ [{ destAddr := destAddr, lastAddr := origAddr, seq := ansn }]) := by
  intro key member same
  rcases List.mem_append.mp member with old | last
  · exact current key old same
  · rw [List.mem_singleton.mp last]

theorem findTopologyTuple_absent {destAddr lastAddr : NsAddr}
    (absent : state.findTopologyTuple destAddr lastAddr = none) :
    (destAddr, lastAddr) ∉ state.tupleKeys.topologies.map TopologyKey.ends := by
  simpa [State.findTopologyTuple, State.tupleKeys, TopologyTuple.key, TopologyKey.ends] using absent

theorem tupleKeys_addTopologyTuple (node : Node) (now : Int) (destAddr lastAddr : NsAddr)
    (seq : Nat) (validity : Int) (index : Nat) :
    (node.addTopologyTuple now destAddr lastAddr seq validity index).state.tupleKeys =
      { node.state.tupleKeys with
        topologies := node.state.tupleKeys.topologies ++
          [{ destAddr := destAddr, lastAddr := lastAddr, seq := seq }] } := by
  simp [State.tupleKeys, Node.addTopologyTuple, Node.scheduleTuple, Node.schedule,
    TopologyTuple.key]

/-- A topology tuple that `find_topology_tuple` did not find. -/
theorem addTopologyTuple_keyed (now : Int) (validity : Int) (index : Nat) {node : Node}
    {addr : NsAddr} (keyed : Keyed node)
    (current : AllAt origAddr ansn node.state.tupleKeys.topologies)
    (absent : (addr, origAddr) ∉ node.state.tupleKeys.topologies.map TopologyKey.ends) :
    Keyed (node.addTopologyTuple now addr origAddr ansn validity index) ∧
      AllAt origAddr ansn
        (node.addTopologyTuple now addr origAddr ansn validity index).state.tupleKeys.topologies := by
  refine ⟨⟨?_, keyed.ids, fun link member => Nat.lt_succ_of_lt (keyed.fresh link member)⟩, ?_⟩
  · rw [tupleKeys_addTopologyTuple]
    exact keyed.unique.addTopology absent current
  · rw [tupleKeys_addTopologyTuple]
    exact current.append addr

theorem advertise_keyed (now : Int) (validity : Int) (index : Nat) {node : Node} (addr : NsAddr)
    (keyed : Keyed node) (current : AllAt origAddr ansn node.state.tupleKeys.topologies) :
    Keyed (advertise now origAddr ansn validity index node addr) ∧
      AllAt origAddr ansn
        (advertise now origAddr ansn validity index node addr).state.tupleKeys.topologies := by
  unfold advertise
  cases found : node.state.findTopologyTuple addr origAddr with
  | none =>
      exact addTopologyTuple_keyed now validity index keyed current (findTopologyTuple_absent found)
  | some tuple =>
      have keeps : ∀ tuple : TopologyTuple,
          TopologyTuple.key { tuple with time := now + validity } = tuple.key := fun _ => rfl
      have same : (node.mapState fun state => state.updateTopologyTuple addr origAddr
          fun tuple => { tuple with time := now + validity }).state.tupleKeys.topologies =
            node.state.tupleKeys.topologies := updateFirst.map_key keeps node.state.topologyset
      exact ⟨keyed.drops ⟨List.Sublist.refl _, List.Sublist.refl _, List.Sublist.refl _,
        (updateFirst.map_key keeps node.state.topologyset) ▸ List.Sublist.refl _, le_refl _⟩,
        same.symm ▸ current⟩

theorem eraseOlder_allAt {node : Node}
    (accepted : node.state.findNewerTopologyTuple origAddr ansn = none) :
    AllAt origAddr ansn
      (eraseOlderTopologyTuples origAddr ansn node).state.tupleKeys.topologies := by
  intro key member same
  obtain ⟨tuple, among, rfl⟩ := List.mem_map.mp member
  obtain ⟨stored, kept⟩ := List.mem_filter.mp among
  have notOlder : ¬ (tuple.lastAddr = origAddr ∧ tuple.seq < ansn) := fun older => by
    simp [older] at kept
  have notNewer : ¬ (tuple.lastAddr = origAddr ∧ tuple.seq > ansn) := by
    simpa using List.find?_eq_none.mp accepted tuple stored
  exact Nat.le_antisymm (Nat.not_lt.mp fun newer => notNewer ⟨same, newer⟩)
    (Nat.not_lt.mp fun older => notOlder ⟨same, older⟩)

theorem processTc_keyed {tc : Tc} {node node' : Node}
    (ran : processTc now msg tc senderIface index node = .ok node') (keyed : Keyed node) :
    Keyed node' := by
  unfold processTc at ran
  split at ran
  · exact Except.ok.inj ran ▸ keyed
  · split at ran
    · exact Except.ok.inj ran ▸ keyed
    · next accepted =>
      split at ran
      · cases ran
      · rw [← Except.ok.inj ran]
        have erased : Keyed (eraseOlderTopologyTuples msg.origAddr tc.ansn node) :=
          keyed.drops (.of_sublists (List.Sublist.refl _) (List.Sublist.refl _)
            (List.Sublist.refl _) List.filter_sublist (le_refl _))
        refine (foldl_keeps _ (fun node => Keyed node ∧
          AllAt msg.origAddr tc.ansn node.state.tupleKeys.topologies)
          ⟨erased, eraseOlder_allAt accepted⟩ ?_).1
        rintro addr node _ ⟨keyed, current⟩
        exact advertise_keyed now _ index addr keyed current

/-! ## Runs -/

theorem processMid_dropsKeys (now : Int) (msg : Msg) (mid : Mid) (senderIface : NsAddr)
    (index : Nat) (node : Node) : DropsKeys node (processMid now msg mid senderIface index node) := by
  obtain ⟨_, _, _, written⟩ := processMid_writes now msg mid senderIface index node
  rw [written]
  exact .of_same rfl rfl rfl rfl (Nat.le_add_right _ _)

theorem DropsKeys.of_forwarding {node node' : Node} (written : WritesForwarding node node') :
    DropsKeys node node' := by
  obtain ⟨_, _, _, _, _, _, rfl⟩ := written
  exact .of_same rfl rfl rfl rfl (Nat.le_add_right _ _)

theorem recvMsg_keyed {iface : Iface} {srcAddr : NsAddr} {node node' : Node}
    (ran : recvMsg config now iface srcAddr node msg = .ok node') (keyed : Keyed node) :
    Keyed node' := by
  rcases recvMsg_stages ran with ⟨_, rfl⟩ | ⟨_, processed, processing, rfl⟩
  · exact keyed
  · have handled : Keyed processed := by
      unfold processUnlessDuplicated at processing
      split at processing
      · have recorded : Keyed (node.record (.processed msg.origAddr msg.msgSeqNum)) :=
          keyed.drops (.of_same rfl rfl rfl rfl (le_refl _))
        unfold processMsg at processing
        split at processing
        · exact processHello_keyed processing recorded
        · exact processTc_keyed processing recorded
        · exact Except.ok.inj processing ▸ recorded.drops (processMid_dropsKeys _ _ _ _ _ _)
        · exact Except.ok.inj processing ▸ recorded
      · exact Except.ok.inj processing ▸ keyed
    split
    · exact handled.drops (.of_forwarding (forwardDefault_writes _ _ _ _ _ _ _))
    · exact handled

theorem recvOlsr_keyed {iface : Iface} {srcAddr : NsAddr} {pkt : Pkt} {node node' : Node}
    (ran : recvOlsr config now iface srcAddr pkt node = .ok node') (keyed : Keyed node) :
    Keyed node' := by
  rcases recvOlsr_stages ran with ⟨_, rfl⟩ | ⟨handled, loop, table⟩
  · exact keyed
  · refine Keyed.drops ?_ (recomputeRtable_dropsKeys table)
    exact foldlM_seen loop (fun _ node => Keyed node) keyed
      fun _ _ _ _ _ keyed received => recvMsg_keyed received keyed

theorem stepWith_keyed {recv : Reception} {event : Event} {node node' : Node}
    (ran : stepWith recv config now event node = .ok node') (keyed : Keyed node)
    (received : ∀ iface srcAddr pkt, event = .recv iface srcAddr pkt →
      recv config now iface srcAddr pkt node = .ok node' → Keyed node') : Keyed node' := by
  cases event with
  | recv iface srcAddr pkt => exact received iface srcAddr pkt rfl ran
  | timer =>
      cases queue : node.timerQueue with
      | nil =>
          simp only [stepWith, queue] at ran
          exact Except.ok.inj ran ▸ keyed
      | cons first rest =>
          obtain ⟨key, timer⟩ := first
          simp only [stepWith, queue] at ran
          have started : Keyed { node with timerQueue := rest } :=
            keyed.drops (.of_same rfl rfl rfl rfl (le_refl _))
          exact started.drops (expireTimer_dropsKeys ran)
  | linkBreak destAddr =>
      simp only [stepWith] at ran
      split at ran
      · exact macFailed_keyed ran keyed
      · exact Except.ok.inj ran ▸ keyed

theorem initialNode_keyed (config : Config) (time maxTime : Int) :
    Keyed (initialNode config time maxTime) :=
  ⟨⟨nofun, List.nodup_nil, List.nodup_nil, List.nodup_nil, List.nodup_nil⟩, List.nodup_nil, nofun⟩

theorem reached_keyed {condition : Int → Event → Node → Prop} {clock : Int} {node : Node}
    (reached : Reached recvOlsr config condition clock node) : Keyed node := by
  induction reached with
  | initial time maxTime => exact initialNode_keyed config time maxTime
  | step _ _ _ ran keyed =>
      exact stepWith_keyed ran keyed fun _ _ _ _ received => recvOlsr_keyed received keyed

end SyncFanet.Olsr
