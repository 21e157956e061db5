import SyncFanet.Olsr.TupleKeys

/-!
# Acceptance of TC messages

The ANSN of an originator advances modulo 65536, while `process_tc` compares it as a
number. A TC message is accepted, and leaves one topology tuple for each advertised
address, exactly when the ANSN grew or no tuple of the originator is left.
-/

set_option autoImplicit false

namespace SyncFanet.Olsr

variable {origAddr senderIface : NsAddr} {node node' : Node} {now : Int} {ansn index : Nat}
  {config : Config} {msg : Msg} {previous : Option Nat} {state : State}

/-! ## Circular ANSNs -/

/-- The next ANSN of an originator, at most half of the circle ahead. -/
def Advances (previous ansn : Nat) : Prop :=
  ∃ k, 0 < k ∧ k ≤ maxSeqNum / 2 ∧ ansn = (previous + k) % (maxSeqNum + 1)

/-- The order of `seq_num_bigger_than` tells an advance on the whole circle. -/
theorem seqNumBiggerThan_of_advances {previous : Nat} (bounded : previous ≤ maxSeqNum)
    (advances : Advances previous ansn) : seqNumBiggerThan ansn previous = true := by
  obtain ⟨k, positive, half, rfl⟩ := advances
  unfold seqNumBiggerThan
  rw [decide_eq_true_eq]
  simp only [maxSeqNum] at *
  omega

theorem Advances.different {previous : Nat} (advances : Advances previous ansn) :
    ansn ≠ previous := by
  obtain ⟨k, positive, half, rfl⟩ := advances
  simp only [maxSeqNum] at *
  omega

/-! ## Topology tuples of an originator -/

/-- Destination and ANSN of the topology tuples of an originator. -/
def announcedBy (origAddr : NsAddr) (state : State) : List (NsAddr × Nat) :=
  state.topologyset.filterMap fun tuple =>
    if tuple.lastAddr = origAddr then some (tuple.destAddr, tuple.seq) else none

theorem mem_announcedBy {dest : NsAddr} :
    (dest, ansn) ∈ announcedBy origAddr state ↔ ∃ tuple ∈ state.topologyset,
      tuple.lastAddr = origAddr ∧ tuple.destAddr = dest ∧ tuple.seq = ansn := by
  simp [announcedBy, List.mem_filterMap]

theorem announcedBy_eq_keys (origAddr : NsAddr) (state : State) :
    announcedBy origAddr state = (state.topologyset.map TopologyTuple.key).filterMap fun key =>
      if key.lastAddr = origAddr then some (key.destAddr, key.seq) else none := by
  rw [List.filterMap_map]
  rfl

theorem findTopologyTuple_eq_none {addr : NsAddr} :
    state.findTopologyTuple addr origAddr = none ↔
      addr ∉ (announcedBy origAddr state).map Prod.fst := by
  simp only [State.findTopologyTuple, List.find?_eq_none, decide_eq_true_eq]
  constructor
  · intro absent listed
    obtain ⟨⟨dest, ansn⟩, member, same⟩ := List.mem_map.mp listed
    obtain ⟨tuple, stored, last, equal, _⟩ := mem_announcedBy.mp member
    exact absent tuple stored ⟨equal.trans same, last⟩
  · intro unlisted tuple stored named
    exact unlisted (List.mem_map.mpr
      ⟨(addr, tuple.seq), mem_announcedBy.mpr ⟨tuple, stored, named.2, named.1, rfl⟩, rfl⟩)

theorem findNewerTopologyTuple_eq_none :
    state.findNewerTopologyTuple origAddr ansn = none ↔
      ∀ pair ∈ announcedBy origAddr state, pair.2 ≤ ansn := by
  simp only [State.findNewerTopologyTuple, List.find?_eq_none, decide_eq_true_eq, not_and,
    Nat.not_lt, Prod.forall, mem_announcedBy]
  constructor
  · rintro older dest seq ⟨tuple, member, last, _, rfl⟩
    exact older tuple member last
  · intro older tuple member last
    exact older tuple.destAddr tuple.seq ⟨tuple, member, last, rfl, rfl⟩

theorem announcedBy_updateTopologyTuple (origAddr addr lastAddr : NsAddr) (time : Int)
    (state : State) :
    announcedBy origAddr (state.updateTopologyTuple addr lastAddr
      fun tuple => { tuple with time := time }) = announcedBy origAddr state := by
  have keeps : ∀ tuple : TopologyTuple,
      TopologyTuple.key { tuple with time := time } = tuple.key := fun _ => rfl
  rw [announcedBy_eq_keys, announcedBy_eq_keys, State.updateTopologyTuple,
    updateFirst.map_key keeps]

theorem announcedBy_addTopologyTuple (origAddr : NsAddr) (node : Node) (now : Int)
    (destAddr lastAddr : NsAddr) (seq : Nat) (validity : Int) (index : Nat) :
    announcedBy origAddr (node.addTopologyTuple now destAddr lastAddr seq validity index).state =
      announcedBy origAddr node.state ++
        if lastAddr = origAddr then [(destAddr, seq)] else [] := by
  simp only [announcedBy, Node.addTopologyTuple, Node.scheduleTuple, Node.schedule,
    List.filterMap_append]
  congr 1
  by_cases here : lastAddr = origAddr
  · simp [here]
  · simp [here]

theorem announcedBy_eraseOlder (origAddr lastAddr : NsAddr) (ansn : Nat) (node : Node) :
    announcedBy origAddr (eraseOlderTopologyTuples lastAddr ansn node).state =
      (announcedBy origAddr node.state).filter fun pair =>
        !decide (lastAddr = origAddr ∧ pair.2 < ansn) := by
  simp only [announcedBy, eraseOlderTopologyTuples, Node.eraseTopologyTuples,
    List.filter_filterMap, List.filterMap_filter]
  refine List.filterMap_congr ?_
  intro tuple _
  by_cases here : tuple.lastAddr = origAddr
  · simp [here, Option.filter_some, @eq_comm _ origAddr lastAddr]
  · simp [here]

theorem announcedBy_advertise (origAddr lastAddr : NsAddr) (now : Int) (ansn : Nat)
    (validity : Int) (index : Nat) (node : Node) (addr : NsAddr) :
    announcedBy origAddr (advertise now lastAddr ansn validity index node addr).state =
      announcedBy origAddr node.state ++
        if lastAddr = origAddr ∧ addr ∉ (announcedBy origAddr node.state).map Prod.fst then
          [(addr, ansn)] else [] := by
  unfold advertise
  cases found : node.state.findTopologyTuple addr lastAddr with
  | some _ =>
      have refreshed : announcedBy origAddr (node.mapState fun state =>
          state.updateTopologyTuple addr lastAddr
            fun tuple => { tuple with time := now + validity }).state =
          announcedBy origAddr node.state :=
        announcedBy_updateTopologyTuple origAddr addr lastAddr (now + validity) node.state
      by_cases here : lastAddr = origAddr
      · have known : ¬ addr ∉ (announcedBy lastAddr node.state).map Prod.fst := by
          rw [← findTopologyTuple_eq_none, found]
          exact nofun
        rw [if_neg fun absent => known (here ▸ absent.2), List.append_nil]
        exact refreshed
      · rw [if_neg fun absent => here absent.1, List.append_nil]
        exact refreshed
  | none =>
      refine (announcedBy_addTopologyTuple origAddr node now addr lastAddr ansn validity
        index).trans ?_
      by_cases here : lastAddr = origAddr
      · have unknown := findTopologyTuple_eq_none.mp found
        rw [if_pos here, if_pos ⟨here, here ▸ unknown⟩]
      · rw [if_neg here, if_neg fun absent => here absent.1]

/-! ## One TC message -/

/-- One tuple for each address, all with the ANSN. -/
structure Announces (addrs : List NsAddr) (ansn : Nat) (tuples : List (NsAddr × Nat)) : Prop where
  unique : (tuples.map Prod.fst).Nodup
  dests : ∀ addr, addr ∈ tuples.map Prod.fst ↔ addr ∈ addrs
  seqs : ∀ tuple ∈ tuples, tuple.2 = ansn

theorem Announces.advertise {seen : List NsAddr} {tuples : List (NsAddr × Nat)}
    (announces : Announces seen ansn tuples) (addr : NsAddr) :
    Announces (seen ++ [addr]) ansn
      (tuples ++ if addr ∉ tuples.map Prod.fst then [(addr, ansn)] else []) := by
  by_cases known : addr ∈ tuples.map Prod.fst
  · rw [if_neg fun unknown => unknown known, List.append_nil]
    refine ⟨announces.unique, ?_, announces.seqs⟩
    intro other
    rw [announces.dests, List.mem_append, List.mem_singleton]
    constructor
    · exact .inl
    · rintro (old | rfl)
      · exact old
      · exact (announces.dests other).mp known
  · rw [if_pos known]
    constructor
    · rw [List.map_append, List.nodup_append]
      refine ⟨announces.unique, by simp, ?_⟩
      intro old member last single equal
      have here : last = addr := by simpa using single
      exact known (here ▸ equal ▸ member)
    · intro other
      rw [List.map_append, List.mem_append, List.mem_append, announces.dests]
      simp
    · intro tuple member
      rcases List.mem_append.mp member with old | last
      · exact announces.seqs tuple old
      · rw [List.mem_singleton.mp last]

/-- A TC message that is not outdated, with no tuple of the originator of its own
age, leaves what it announces. -/
theorem processTc_announces {tc : Tc}
    (symmetric : (node.state.findSymLinkTuple senderIface now).isSome)
    (short : tc.nbMainAddrs.length ≤ maxAddrs)
    (older : ∀ tuple ∈ announcedBy msg.origAddr node.state, tuple.2 < tc.ansn) :
    ∃ node', processTc now msg tc senderIface index node = .ok node' ∧
      Announces tc.nbMainAddrs tc.ansn (announcedBy msg.origAddr node'.state) := by
  have accepted : node.state.findNewerTopologyTuple msg.origAddr tc.ansn = none :=
    findNewerTopologyTuple_eq_none.mpr fun tuple member => Nat.le_of_lt (older tuple member)
  refine ⟨_, processTc_accepted index symmetric short accepted, ?_⟩
  have erased : announcedBy msg.origAddr
      (eraseOlderTopologyTuples msg.origAddr tc.ansn node).state = [] := by
    rw [announcedBy_eraseOlder, List.filter_eq_nil_iff]
    intro tuple member
    simp [older tuple member]
  refine foldl_seen _ (fun seen (node : Node) =>
    Announces seen tc.ansn (announcedBy msg.origAddr node.state)) ?_ ?_
  · rw [erased]
    exact ⟨List.nodup_nil, by simp, nofun⟩
  · intro seen addr node _ announces
    have added := announcedBy_advertise msg.origAddr msg.origAddr now tc.ansn
      (emfToSeconds msg.vtime) index node addr
    simp only [true_and] at added
    rw [added]
    exact announces.advertise addr

/-! ## Runs -/

/-- No tuple of the originator is new. -/
def Fewer (origAddr : NsAddr) (node node' : Node) : Prop :=
  (announcedBy origAddr node'.state).Sublist (announcedBy origAddr node.state)

theorem Fewer.refl (origAddr : NsAddr) (node : Node) : Fewer origAddr node node :=
  List.Sublist.refl _

theorem Fewer.trans {first second third : Node} (left : Fewer origAddr first second)
    (right : Fewer origAddr second third) :
    Fewer origAddr first third :=
  List.Sublist.trans right left

theorem DropsKeys.fewer (drops : DropsKeys node node') :
    Fewer origAddr node node' := by
  rw [Fewer, announcedBy_eq_keys, announcedBy_eq_keys]
  exact drops.topologies.filterMap _

theorem fewer_of_eq (same : node'.state.topologyset = node.state.topologyset) :
    Fewer origAddr node node' := by
  rw [Fewer, announcedBy, same]
  exact List.Sublist.refl _

theorem processTc_fewer {tc : Tc} (other : msg.origAddr ≠ origAddr)
    (ran : processTc now msg tc senderIface index node = .ok node') :
    Fewer origAddr node node' := by
  unfold processTc at ran
  split at ran
  · exact Except.ok.inj ran ▸ Fewer.refl origAddr node
  · split at ran
    · exact Except.ok.inj ran ▸ Fewer.refl origAddr node
    · split at ran
      · cases ran
      · rw [← Except.ok.inj ran]
        refine foldl_keeps _ (Fewer origAddr node) ?_ ?_
        · rw [Fewer, announcedBy_eraseOlder]
          exact List.filter_sublist
        · intro addr current _ fewer
          refine fewer.trans ?_
          rw [Fewer, announcedBy_advertise, if_neg fun both => other both.1, List.append_nil]

theorem processHello_topology {hello : Hello} {receiverIface : NsAddr}
    (ran : processHello config now msg hello receiverIface senderIface index node = .ok node') :
    node'.state.topologyset = node.state.topologyset := by
  obtain ⟨sensed, populated, computed, _, _, first, second, third, fourth⟩ :=
    processHello_stages ran
  obtain ⟨_, _, _, _, rfl⟩ := linkSensingWith_writes first
  obtain ⟨_, _, _, _, populating⟩ := populateNb2hopsetWith_writes second
  obtain ⟨_, _, rfl⟩ := recomputeMprs_writes third
  obtain ⟨_, _, _, _, _, rfl⟩ := populateMprselset_writes fourth
  dsimp only at populating
  rw [populating]
  rfl

theorem recvMsg_fewer {iface : Iface} {srcAddr : NsAddr}
    (other : ∀ tc, msg.body = .tc tc → msg.origAddr ≠ origAddr)
    (ran : recvMsg config now iface srcAddr node msg = .ok node') : Fewer origAddr node node' := by
  rcases recvMsg_stages ran with ⟨_, rfl⟩ | ⟨_, processed, processing, rfl⟩
  · exact Fewer.refl origAddr _
  · have handled : Fewer origAddr node processed := by
      unfold processUnlessDuplicated at processing
      split at processing
      · have recorded : Fewer origAddr node
            (node.record (.processed msg.origAddr msg.msgSeqNum)) := fewer_of_eq rfl
        refine recorded.trans ?_
        unfold processMsg at processing
        split at processing
        · exact fewer_of_eq (processHello_topology processing)
        · next tc body => exact processTc_fewer (other tc body) processing
        · obtain ⟨_, _, _, written⟩ := processMid_writes now msg _ srcAddr iface.index
            (node.record (.processed msg.origAddr msg.msgSeqNum))
          rw [← Except.ok.inj processing, written]
          exact fewer_of_eq rfl
        · exact Except.ok.inj processing ▸ Fewer.refl origAddr _
      · exact Except.ok.inj processing ▸ Fewer.refl origAddr node
    split
    · obtain ⟨_, _, _, _, _, _, written⟩ := forwardDefault_writes config now msg
        (node.state.findDupTuple msg.origAddr msg.msgSeqNum) iface.addr srcAddr processed
      rw [written]
      exact handled.trans (fewer_of_eq rfl)
    · exact handled

theorem stepWith_fewer {event : Event}
    (other : ∀ iface srcAddr pkt, event = .recv iface srcAddr pkt →
      ∀ msg ∈ pkt.msgs, ∀ tc, msg.body = .tc tc → msg.origAddr ≠ origAddr)
    (ran : stepWith recvOlsr config now event node = .ok node') : Fewer origAddr node node' := by
  cases event with
  | recv iface srcAddr pkt =>
      rcases recvOlsr_stages ran with ⟨_, rfl⟩ | ⟨handled, loop, table⟩
      · exact Fewer.refl origAddr _
      · refine Fewer.trans ?_ (recomputeRtable_dropsKeys table).fewer
        refine foldlM_seen loop (fun _ current => Fewer origAddr node current)
          (Fewer.refl origAddr node) ?_
        intro _ msg current next member fewer received
        exact fewer.trans (recvMsg_fewer (other iface srcAddr pkt rfl msg member) received)
  | timer =>
      cases queue : node.timerQueue with
      | nil =>
          simp only [stepWith, queue] at ran
          exact Except.ok.inj ran ▸ Fewer.refl origAddr node
      | cons first rest =>
          obtain ⟨key, timer⟩ := first
          simp only [stepWith, queue] at ran
          exact (fewer_of_eq rfl : Fewer origAddr node { node with timerQueue := rest }).trans
            (expireTimer_dropsKeys ran).fewer
  | linkBreak destAddr =>
      simp only [stepWith, macFailed] at ran
      split at ran
      · split at ran
        · exact Except.ok.inj ran ▸ Fewer.refl origAddr node
        · split at ran
          · exact Except.ok.inj ran ▸ Fewer.refl origAddr node
          · split at ran
            · exact Except.ok.inj ran ▸ Fewer.refl origAddr node
            · next link found =>
              refine Fewer.trans ?_ (nbLoss_dropsKeys ran).fewer
              exact fewer_of_eq rfl
      · exact Except.ok.inj ran ▸ Fewer.refl origAddr node

/-- A TC message as `process_tc` gets it. -/
structure TcArrival where
  now : Int
  msg : Msg
  tc : Tc
  senderIface : NsAddr
  index : Nat

def TcArrival.process (arrival : TcArrival) (node : Node) : Except Fault Node :=
  processTc arrival.now arrival.msg arrival.tc arrival.senderIface arrival.index node

/-- The next TC message of the originator, received through a symmetric neighbor. -/
structure InOrder (origAddr : NsAddr) (previous : Option Nat) (arrival : TcArrival)
    (node : Node) : Prop where
  origin : arrival.msg.origAddr = origAddr
  symmetric : (node.state.findSymLinkTuple arrival.senderIface arrival.now).isSome
  short : arrival.tc.nbMainAddrs.length ≤ maxAddrs
  bounded : arrival.tc.ansn ≤ maxSeqNum
  advances : ∀ ansn, previous = some ansn → Advances ansn arrival.tc.ansn

/-- Runs that receive the TC messages of an originator in order, with the ANSN of the
last one. Between them the tuples of the originator may expire. -/
inductive TcRun (origAddr : NsAddr) (condition : Option Nat → TcArrival → Node → Prop) :
    Option Nat → Node → Prop where
  | start (node : Node) (unknown : announcedBy origAddr node.state = []) :
      TcRun origAddr condition none node
  | elsewhere {previous : Option Nat} {node node' : Node}
      (before : TcRun origAddr condition previous node) (fewer : Fewer origAddr node node') :
      TcRun origAddr condition previous node'
  | received {previous : Option Nat} {node node' : Node} (arrival : TcArrival)
      (before : TcRun origAddr condition previous node)
      (order : InOrder origAddr previous arrival node) (met : condition previous arrival node)
      (processed : arrival.process node = .ok node') :
      TcRun origAddr condition (some arrival.tc.ansn) node'

/-- Every event of the agent continues the run, if it brings no TC message of the
originator. -/
theorem TcRun.step {condition : Option Nat → TcArrival → Node → Prop} {event : Event}
    (run : TcRun origAddr condition previous node)
    (other : ∀ iface srcAddr pkt, event = .recv iface srcAddr pkt →
      ∀ msg ∈ pkt.msgs, ∀ tc, msg.body = .tc tc → msg.origAddr ≠ origAddr)
    (ran : stepWith recvOlsr config now event node = .ok node') :
    TcRun origAddr condition previous node' :=
  run.elsewhere (stepWith_fewer other ran)

/-- The ANSN grew as a number, or no tuple of the originator is left. -/
def NumericallyNewer (origAddr : NsAddr) (previous : Option Nat) (arrival : TcArrival)
    (node : Node) : Prop :=
  (∀ ansn, previous = some ansn → ansn < arrival.tc.ansn) ∨ announcedBy origAddr node.state = []

/-- The TC message is not outdated and leaves what it announces. -/
def AcceptedExactly (origAddr : NsAddr) (arrival : TcArrival) (node : Node) : Prop :=
  node.state.findNewerTopologyTuple origAddr arrival.tc.ansn = none ∧
    ∃ node', arrival.process node = .ok node' ∧
      Announces arrival.tc.nbMainAddrs arrival.tc.ansn (announcedBy origAddr node'.state)

def CarryLast (origAddr : NsAddr) (previous : Option Nat) (node : Node) : Prop :=
  ∀ tuple ∈ announcedBy origAddr node.state, previous = some tuple.2

theorem acceptedExactly_of_newer {arrival : TcArrival} (carry : CarryLast origAddr previous node)
    (order : InOrder origAddr previous arrival node)
    (newer : NumericallyNewer origAddr previous arrival node) :
    AcceptedExactly origAddr arrival node := by
  have older : ∀ tuple ∈ announcedBy origAddr node.state, tuple.2 < arrival.tc.ansn := by
    intro tuple member
    rcases newer with grew | gone
    · exact grew tuple.2 (carry tuple member)
    · simp [gone] at member
  obtain ⟨rfl, symmetric, short, _, _⟩ := order
  refine ⟨findNewerTopologyTuple_eq_none.mpr fun tuple member =>
    Nat.le_of_lt (older tuple member), ?_⟩
  exact processTc_announces symmetric short older

theorem carryLast_of_run (run : TcRun origAddr (NumericallyNewer origAddr) previous node) :
    CarryLast origAddr previous node := by
  induction run with
  | start node unknown =>
      intro tuple member
      simp [unknown] at member
  | elsewhere _ fewer ih => exact fun tuple member => ih tuple (fewer.subset member)
  | received arrival _ order met processed ih =>
      obtain ⟨_, node', same, announces⟩ := acceptedExactly_of_newer ih order met
      cases processed.symm.trans same
      exact fun tuple member => congrArg some (announces.seqs tuple member).symm

/-- After TC messages with growing ANSNs, the next one in order is accepted exactly
when its ANSN grew as well or no tuple of the originator is left. -/
theorem tc_acceptedExactly_iff (origAddr : NsAddr) (previous : Option Nat) (node : Node)
    (run : TcRun origAddr (NumericallyNewer origAddr) previous node) (arrival : TcArrival)
    (order : InOrder origAddr previous arrival node) :
    AcceptedExactly origAddr arrival node ↔
      NumericallyNewer origAddr previous arrival node := by
  have carry := carryLast_of_run run
  constructor
  · rintro ⟨accepted, _⟩
    cases tuples : announcedBy origAddr node.state with
    | nil => exact .inr tuples
    | cons tuple rest =>
        have member : tuple ∈ announcedBy origAddr node.state := by simp [tuples]
        have last := carry tuple member
        refine .inl ?_
        intro ansn same
        have equal : ansn = tuple.2 := Option.some.inj (same.symm.trans last)
        have notNewer := findNewerTopologyTuple_eq_none.mp accepted tuple member
        have different := (order.advances ansn same).different
        omega
  · exact acceptedExactly_of_newer carry order

def linkedNode : Node where
  state := {
    linkset := [{
      id := 0
      localIfaceAddr := 1
      nbIfaceAddr := 2
      symTime := 60 * Time.second
      asymTime := 60 * Time.second
      lostTime := 0
      time := 66 * Time.second
      localIfaceIndex := 0 }] }
  nextId := 1

def tcArrival (seconds msgSeqNum ansn : Nat) (nbMainAddrs : List NsAddr) : TcArrival where
  now := seconds * Time.second
  msg := {
    vtime := 134
    origAddr := 9
    ttl := 254
    hopCount := 1
    msgSeqNum := msgSeqNum
    body := .tc { ansn := ansn, nbMainAddrs := nbMainAddrs } }
  tc := { ansn := ansn, nbMainAddrs := nbMainAddrs }
  senderIface := 2
  index := 0

theorem linkedNode_inOrder (ansn : Nat) (bounded : ansn ≤ maxSeqNum) :
    InOrder 9 none (tcArrival 1 0 ansn [4]) linkedNode :=
  ⟨rfl, rfl, by simp [tcArrival, maxAddrs], bounded, nofun⟩

/-- The last two ANSNs before the counter wraps. -/
theorem tc_acceptedExactly_iff_lastAnsn :
    ∃ node, announcedBy 9 node.state = [(4, 65534)] ∧
      (AcceptedExactly 9 (tcArrival 2 1 65535 [4, 5]) node ↔
        NumericallyNewer 9 (some 65534) (tcArrival 2 1 65535 [4, 5]) node) := by
  have run : TcRun 9 (NumericallyNewer 9) (some 65534) _ :=
    TcRun.received (tcArrival 1 0 65534 [4]) (TcRun.start linkedNode rfl)
      (linkedNode_inOrder 65534 (by decide)) (.inr rfl) rfl
  refine ⟨_, rfl, tc_acceptedExactly_iff 9 (some 65534) _ run (tcArrival 2 1 65535 [4, 5]) ?_⟩
  refine ⟨rfl, rfl, by decide, by decide, ?_⟩
  rintro _ ⟨⟩
  exact ⟨1, by decide, by decide, by decide⟩

/-- The ANSN 0 after 65535 is taken for an old one. -/
theorem tc_refused_after_wrap :
    ¬ ∀ (origAddr : NsAddr) (previous : Option Nat) (node : Node),
      TcRun origAddr (fun _ _ _ => True) previous node → ∀ arrival : TcArrival,
        InOrder origAddr previous arrival node → AcceptedExactly origAddr arrival node := by
  intro claimed
  have run : TcRun 9 (fun _ _ _ => True) (some 65535) _ :=
    TcRun.received (tcArrival 1 0 65535 [4]) (TcRun.start linkedNode rfl)
      (linkedNode_inOrder 65535 (by decide)) trivial rfl
  have wrapped : ∀ ansn, some 65535 = some ansn → Advances ansn 0 := by
    rintro _ ⟨⟩
    exact ⟨1, by decide, by decide, by decide⟩
  have accepted := claimed 9 (some 65535) _ run (tcArrival 2 1 0 [4, 5])
    ⟨rfl, rfl, by decide, by decide, wrapped⟩
  exact absurd accepted.1 (by decide)

end SyncFanet.Olsr
