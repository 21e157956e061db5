import SyncFanet.Library.Fold
import SyncFanet.Olsr.Timers

/-!
# What each function of the agent writes

One lemma per function says which fields of the node it may change, by giving the
resulting node as an update of the node before. Every frame fact follows from
these lemmas.
-/

set_option autoImplicit false

namespace SyncFanet.Olsr

theorem bind_node_ok {Value : Type} {computation : Except Fault Value}
    {next : Value → Except Fault Node} {node : Node} :
    (computation >>= next) = .ok node ↔
      ∃ value, computation = .ok value ∧ next value = .ok node :=
  bind_ok

/-! ## HELLO processing -/

def WritesLinks (node node' : Node) : Prop :=
  ∃ linkset nbset timerQueue added, node' = { node with
    state := { node.state with linkset := linkset, nbset := nbset }
    timerQueue := timerQueue
    nextId := node.nextId + added }

theorem updatedLinkTuple_writes (config : Config) (now : Int) (link : LinkTuple)
    (willingness : Nat) (state : State) :
    ∃ nbset, updatedLinkTuple config now link willingness state = { state with nbset := nbset } := by
  unfold updatedLinkTuple findOrAddNb
  cases state.findNbTuple (state.getMainAddr link.nbIfaceAddr) with
  | some _ => exact ⟨_, rfl⟩
  | none => exact ⟨_, rfl⟩

theorem linkSensingWith_writes {knownUpdated : Bool} {config : Config} {now : Int}
    {vtime : Nat} {hello : Hello} {receiverIface senderIface : NsAddr} {index : Nat}
    {node node' : Node} {changed : Bool}
    (ran : linkSensingWith knownUpdated config now vtime hello receiverIface senderIface index
      node = .ok (node', changed)) : WritesLinks node node' := by
  unfold linkSensingWith at ran
  dsimp only at ran
  split at ran
  · cases ran
  · split at ran
    · cases ran
    · split at ran
      · simp only [Except.ok.injEq, Prod.mk.injEq] at ran
        obtain ⟨rfl, _⟩ := ran
        split
        · obtain ⟨nbset, written⟩ := updatedLinkTuple_writes config now
            (senseLink config now (emfToSeconds vtime) receiverIface hello.helloMsgs _
              knownUpdated).1 hello.willingness (node.state.updateLinkTuple _)
          rw [written]
          exact ⟨_, nbset, _, 0, rfl⟩
        · exact ⟨_, _, _, 0, rfl⟩
      · simp only [Except.ok.injEq, Prod.mk.injEq] at ran
        obtain ⟨rfl, _⟩ := ran
        split
        · obtain ⟨nbset, written⟩ := updatedLinkTuple_writes config now
            (senseLink config now (emfToSeconds vtime) receiverIface hello.helloMsgs
              (newLinkTuple node.nextId now (emfToSeconds vtime) receiverIface senderIface index)
              false).1 hello.willingness (State.updateLinkTuple (addLinkTuple now
              (newLinkTuple node.nextId now (emfToSeconds vtime) receiverIface senderIface index)
              hello.willingness node.state) _)
          rw [written]
          exact ⟨_, nbset, _, 1, rfl⟩
        · exact ⟨_, _, _, 1, rfl⟩

def WritesNb2hop (node node' : Node) : Prop :=
  ∃ nb2hopset timerQueue added detached, node' = { node with
    state := { node.state with nb2hopset := nb2hopset }
    timerQueue := timerQueue
    nextId := node.nextId + added
    detachedNb2hop := detached }

namespace WritesNb2hop

theorem refl (node : Node) : WritesNb2hop node node := ⟨_, _, 0, _, rfl⟩

theorem trans {first second third : Node} (left : WritesNb2hop first second)
    (right : WritesNb2hop second third) : WritesNb2hop first third := by
  obtain ⟨_, _, before, _, rfl⟩ := left
  obtain ⟨_, _, after, _, rfl⟩ := right
  exact ⟨_, _, before + after, _, by rw [Nat.add_assoc]⟩

end WritesNb2hop

variable {node node' first second third : Node} {now : Int} {config : Config} {hello : Hello}
  {origAddr : NsAddr} {msg : Msg} {vtime : Nat}

variable {resolve : State → NsAddr → NsAddr} {senderIface : NsAddr}

theorem populateAddr_writes (config : Config) (now validity : Int) (origAddr : NsAddr)
    (nbType : Nat) (acc : Node × Bool) (addr : NsAddr) :
    WritesNb2hop acc.1 (populateAddr config now validity origAddr nbType acc addr).1 := by
  unfold populateAddr
  dsimp only
  split
  · split
    · exact WritesNb2hop.refl acc.1
    · split
      · exact ⟨_, _, 1, _, rfl⟩
      · exact ⟨_, _, 0, _, rfl⟩
  · split
    · exact ⟨_, _, 0, _, rfl⟩
    · exact WritesNb2hop.refl acc.1

/-- The accumulator of `populate_nb2hopset` after all links. -/
def populateAll (resolve : State → NsAddr → NsAddr) (config : Config) (now validity : Int)
    (hello : Hello) (origAddr : NsAddr) (node : Node) : Node × Bool :=
  (symLinksOf now origAddr node.state).foldl
    (fun acc _ => hello.helloMsgs.foldl
      (fun acc group => (group.nbIfaceAddrs.map (resolve node.state)).foldl
        (populateAddr config now validity origAddr group.nbType) acc) acc)
    (node, false)

/-- What every advertised address keeps is kept by the whole `populate_nb2hopset`. -/
theorem populateAll_keeps {validity : Int} (invariant : Node × Bool → Prop)
    (start : invariant (node, false))
    (next : ∀ acc, invariant acc → ∀ group ∈ hello.helloMsgs, ∀ addr ∈ group.nbIfaceAddrs,
      invariant (populateAddr config now validity origAddr group.nbType acc
        (resolve node.state addr))) :
    invariant (populateAll resolve config now validity hello origAddr node) := by
  refine foldl_keeps _ invariant start ?_
  intro _ acc _ holds
  refine foldl_keeps _ invariant holds ?_
  intro group acc member holds
  refine foldl_keeps _ invariant holds ?_
  intro resolved acc among holds
  obtain ⟨addr, listed, rfl⟩ := List.mem_map.mp among
  exact next acc holds group member addr listed

theorem populateNb2hopsetWith_ok {result : Node × Bool}
    (ran : populateNb2hopsetWith resolve config now vtime hello origAddr node = .ok result) :
    result = populateAll resolve config now (emfToSeconds vtime) hello origAddr node := by
  unfold populateNb2hopsetWith at ran
  dsimp only at ran
  split at ran
  · cases ran
  · split at ran
    · cases ran
    · exact (Except.ok.inj ran).symm

theorem populateNb2hopsetWith_writes {result : Node × Bool}
    (ran : populateNb2hopsetWith resolve config now vtime hello origAddr node = .ok result) :
    WritesNb2hop node result.1 := by
  rw [populateNb2hopsetWith_ok ran]
  refine populateAll_keeps (fun acc => WritesNb2hop node acc.1) (WritesNb2hop.refl node) ?_
  intro acc written group _ addr _
  exact written.trans (populateAddr_writes config now _ origAddr group.nbType acc _)

theorem recomputeMprs_writes (ran : node.recomputeMprs config = .ok node') :
    ∃ mprset, mprComputation config.isLocalAddress node.state = some mprset ∧
      node' = { node with state := { node.state with mprset := mprset } } := by
  unfold Node.recomputeMprs at ran
  split at ran
  · next mprset computed => exact ⟨mprset, computed, (Except.ok.inj ran).symm⟩
  · cases ran

theorem recomputeRtable_writes (ran : node.recomputeRtable now = .ok node') :
    ∃ rtable, rtableComputation node.state now = .ok rtable ∧
      node' = { node with rtable := rtable, topologyChange := false } := by
  obtain ⟨rtable, computed, same⟩ := bind_ok.mp ran
  exact ⟨rtable, computed, (Except.ok.inj same).symm⟩

def WritesSelectors (node node' : Node) : Prop :=
  ∃ mprselset timerQueue added ansn history, node' = { node with
    state := { node.state with mprselset := mprselset }
    timerQueue := timerQueue
    nextId := node.nextId + added
    ansn := ansn
    history := history }

theorem WritesSelectors.trans (left : WritesSelectors first second)
    (right : WritesSelectors second third) :
    WritesSelectors first third := by
  obtain ⟨_, _, before, _, _, rfl⟩ := left
  obtain ⟨_, _, after, _, _, rfl⟩ := right
  exact ⟨_, _, before + after, _, _, by rw [Nat.add_assoc]⟩

theorem populateSelector_writes (config : Config) (now validity : Int) (origAddr : NsAddr)
    (node : Node) (addr : NsAddr) :
    WritesSelectors node (populateSelector config now validity origAddr node addr) := by
  unfold populateSelector
  split
  · split
    · exact ⟨_, _, 1, _, _, rfl⟩
    · exact ⟨_, _, 0, _, _, rfl⟩
  · exact ⟨_, _, 0, _, _, rfl⟩

/-- What every address of an MPR group keeps is kept by `populate_mprselset`. -/
theorem populateMprselset_keeps (invariant : Node → Prop) (start : invariant node)
    (next : ∀ node, ∀ group ∈ hello.helloMsgs, group.nbType = mprNeigh →
      ∀ addr ∈ group.nbIfaceAddrs, invariant node →
      invariant (populateSelector config now (emfToSeconds vtime) origAddr node addr))
    (ran : populateMprselset config now vtime hello origAddr node = .ok node') :
    invariant node' := by
  unfold populateMprselset at ran
  dsimp only at ran
  split at ran
  · cases ran
  · split at ran
    · cases ran
    · rw [← Except.ok.inj ran]
      refine foldl_keeps _ invariant start ?_
      intro group node selecting holds
      obtain ⟨member, type⟩ := List.mem_filter.mp selecting
      refine foldl_keeps _ invariant holds ?_
      intro addr node among holds
      exact next node group member (of_decide_eq_true type) addr among holds

theorem populateMprselset_writes
    (ran : populateMprselset config now vtime hello origAddr node = .ok node') :
    WritesSelectors node node' :=
  populateMprselset_keeps (WritesSelectors node) ⟨_, _, 0, _, _, rfl⟩
    (fun node _ _ _ addr _ written =>
      written.trans (populateSelector_writes config now _ origAddr node addr)) ran

/-- The stages of `OLSR::process_hello`. -/
theorem processHello_stages {receiverIface : NsAddr} {index : Nat}
    (ran : processHello config now msg hello receiverIface senderIface index node = .ok node') :
    ∃ sensed populated computed linked changed,
      linkSensingWith true config now msg.vtime hello receiverIface senderIface index node =
        .ok (sensed, linked) ∧
      populateNb2hopsetWith State.getMainAddr config now msg.vtime hello msg.origAddr
        (sensed.mapState (populateNbset hello msg.origAddr)) = .ok (populated, changed) ∧
      populated.recomputeMprs config = .ok computed ∧
      populateMprselset config now msg.vtime hello msg.origAddr computed = .ok node' := by
  obtain ⟨⟨sensed, linked⟩, first, ran⟩ := bind_node_ok.mp ran
  obtain ⟨⟨populated, changed⟩, second, ran⟩ := bind_node_ok.mp ran
  obtain ⟨computed, third, fourth⟩ := bind_node_ok.mp ran
  exact ⟨sensed, populated, computed, linked, changed, first, second, third, fourth⟩

/-! ## TC and MID processing -/

def WritesTopology (node node' : Node) : Prop :=
  ∃ topologyset timerQueue added detached, node' = { node with
    state := { node.state with topologyset := topologyset }
    timerQueue := timerQueue
    nextId := node.nextId + added
    detachedTopology := detached }

theorem WritesTopology.trans (left : WritesTopology first second)
    (right : WritesTopology second third) :
    WritesTopology first third := by
  obtain ⟨_, _, before, _, rfl⟩ := left
  obtain ⟨_, _, after, _, rfl⟩ := right
  exact ⟨_, _, before + after, _, by rw [Nat.add_assoc]⟩

theorem advertise_writes (now : Int) (origAddr : NsAddr) (ansn : Nat) (validity : Int)
    (index : Nat) (node : Node) (addr : NsAddr) :
    WritesTopology node (advertise now origAddr ansn validity index node addr) := by
  unfold advertise
  split
  · exact ⟨_, _, 0, _, rfl⟩
  · exact ⟨_, _, 1, _, rfl⟩

theorem processTc_writes {tc : Tc} {index : Nat}
    (ran : processTc now msg tc senderIface index node = .ok node') :
    WritesTopology node node' := by
  have unchanged : WritesTopology node node := ⟨_, _, 0, _, rfl⟩
  unfold processTc at ran
  split at ran
  · exact Except.ok.inj ran ▸ unchanged
  · split at ran
    · exact Except.ok.inj ran ▸ unchanged
    · split at ran
      · cases ran
      · rw [← Except.ok.inj ran]
        refine foldl_keeps _ (WritesTopology node) ⟨_, _, 0, _, rfl⟩ ?_
        intro addr node _ written
        exact written.trans (advertise_writes now msg.origAddr tc.ansn _ index node addr)

theorem processTc_accepted {tc : Tc} (index : Nat)
    (symmetric : (node.state.findSymLinkTuple senderIface now).isSome)
    (short : tc.nbMainAddrs.length ≤ maxAddrs)
    (accepted : node.state.findNewerTopologyTuple msg.origAddr tc.ansn = none) :
    processTc now msg tc senderIface index node =
      .ok (tc.nbMainAddrs.foldl
        (advertise now msg.origAddr tc.ansn (emfToSeconds msg.vtime) index)
        (eraseOlderTopologyTuples msg.origAddr tc.ansn node)) := by
  obtain ⟨link, sym⟩ := Option.isSome_iff_exists.mp symmetric
  simp [processTc, sym, accepted, Nat.not_lt.mpr short]

def WritesAssocs (node node' : Node) : Prop :=
  ∃ ifaceassocset timerQueue added, node' = { node with
    state := { node.state with ifaceassocset := ifaceassocset }
    timerQueue := timerQueue
    nextId := node.nextId + added }

theorem WritesAssocs.trans (left : WritesAssocs first second) (right : WritesAssocs second third) :
    WritesAssocs first third := by
  obtain ⟨_, _, before, rfl⟩ := left
  obtain ⟨_, _, after, rfl⟩ := right
  exact ⟨_, _, before + after, by rw [Nat.add_assoc]⟩

theorem associate_writes (now : Int) (origAddr : NsAddr) (validity : Int) (index : Nat)
    (node : Node) (addr : NsAddr) :
    WritesAssocs node (associate now origAddr validity index node addr) := by
  unfold associate
  dsimp only
  split
  · exact ⟨_, _, 0, rfl⟩
  · exact ⟨_, _, 1, rfl⟩

theorem processMid_writes (now : Int) (msg : Msg) (mid : Mid) (senderIface : NsAddr)
    (index : Nat) (node : Node) :
    WritesAssocs node (processMid now msg mid senderIface index node) := by
  unfold processMid
  split
  · exact ⟨_, _, 0, rfl⟩
  · refine foldl_keeps _ (WritesAssocs node) ⟨_, _, 0, rfl⟩ ?_
    intro addr node _ written
    exact written.trans (associate_writes now msg.origAddr _ index node addr)

/-! ## Forwarding -/

def WritesForwarding (node node' : Node) : Prop :=
  ∃ dupset msgs timerQueue added draws history, node' = { node with
    state := { node.state with dupset := dupset }
    msgs := msgs
    timerQueue := timerQueue
    nextId := node.nextId + added
    draws := draws
    history := history }

theorem forwardDefault_writes (config : Config) (now : Int) (msg : Msg)
    (dupTuple : Option DupTuple) (localIface srcAddr : NsAddr) (node : Node) :
    WritesForwarding node (forwardDefault config now msg dupTuple localIface srcAddr node) := by
  unfold forwardDefault
  split
  · exact ⟨_, _, _, 0, _, _, rfl⟩
  · dsimp only
    split
    · exact ⟨_, _, _, 0, _, _, rfl⟩
    · split
      · split <;> exact ⟨_, _, _, 0, _, _, rfl⟩
      · split <;> exact ⟨_, _, _, 1, _, _, rfl⟩

/-- The stages of the loop body of `recv_olsr`. -/
theorem recvMsg_stages {iface : Iface} {srcAddr : NsAddr}
    (ran : recvMsg config now iface srcAddr node msg = .ok node') :
    ((msg.ttl = 0 ∨ config.isLocalAddress msg.origAddr = true) ∧ node' = node) ∨
    (¬ (msg.ttl = 0 ∨ config.isLocalAddress msg.origAddr = true) ∧ ∃ processed,
      processUnlessDuplicated config now iface srcAddr msg
        (node.state.findDupTuple msg.origAddr msg.msgSeqNum) node = .ok processed ∧
      node' =
        if doForwarding iface msg (node.state.findDupTuple msg.origAddr msg.msgSeqNum) then
          forwardDefault config now msg (node.state.findDupTuple msg.origAddr msg.msgSeqNum)
            iface.addr srcAddr processed
        else processed) := by
  unfold recvMsg at ran
  by_cases dropped : msg.ttl = 0 ∨ config.isLocalAddress msg.origAddr = true
  · rw [if_pos dropped] at ran
    exact .inl ⟨dropped, (Except.ok.inj ran).symm⟩
  · rw [if_neg dropped] at ran
    obtain ⟨processed, ran, rest⟩ := bind_ok.mp ran
    exact .inr ⟨dropped, processed, ran, (Except.ok.inj rest).symm⟩

/-- A packet without messages changes nothing; otherwise its messages are handled
in turn and the routing table is computed. -/
theorem recvOlsr_stages {iface : Iface} {srcAddr : NsAddr} {pkt : Pkt}
    (ran : recvOlsr config now iface srcAddr pkt node = .ok node') :
    (pkt.msgs = [] ∧ node' = node) ∨
    ∃ handled, pkt.msgs.foldlM (recvMsg config now iface srcAddr) node = .ok handled ∧
      handled.recomputeRtable now = .ok node' := by
  unfold recvOlsr at ran
  split at ran
  · next short =>
    exact .inl ⟨(Pkt.byteLength_lt_iff config.addrSize pkt).mp short, (Except.ok.inj ran).symm⟩
  · split at ran
    · cases ran
    · exact .inr (bind_ok.mp ran)

/-! ## Neighbor loss -/

/-- The node before the two computations of `nb_loss`. -/
def lossErased (config : Config) (now : Int) (link : LinkTuple) (node : Node) : Node :=
  ((node.mapState (updatedLinkTuple config now link willDefault)).eraseNb2hopTuplesOf
    (node.state.getMainAddr link.nbIfaceAddr)).eraseMprselTuples
      (node.state.getMainAddr link.nbIfaceAddr)

theorem nbLoss_stages {link : LinkTuple} (ran : nbLoss config now link node = .ok node') :
    ∃ computed, (lossErased config now link node).recomputeMprs config = .ok computed ∧
      computed.recomputeRtable now = .ok node' :=
  bind_node_ok.mp ran

/-! ## Messages and packets sent -/

def WritesOutput (node node' : Node) : Prop :=
  ∃ msgs pktSeq msgSeq draws timerQueue history, node' = { node with
    msgs := msgs
    pktSeq := pktSeq
    msgSeq := msgSeq
    draws := draws
    timerQueue := timerQueue
    history := history }

theorem WritesOutput.trans (left : WritesOutput first second) (right : WritesOutput second third) :
    WritesOutput first third := by
  obtain ⟨_, _, _, _, _, _, rfl⟩ := left
  obtain ⟨_, _, _, _, _, _, rfl⟩ := right
  exact ⟨_, _, _, _, _, _, rfl⟩

theorem sendHello_writes (ran : sendHello config now node = .ok node') :
    WritesOutput node node' := by
  obtain ⟨msg, hello, rfl, -⟩ := sendHello_ok ran
  exact ⟨_, _, _, _, _, _, rfl⟩

theorem sendTc_writes (ran : sendTc config now node = .ok node') : WritesOutput node node' := by
  obtain ⟨msg, tc, rfl, -⟩ := sendTc_ok ran
  exact ⟨_, _, _, _, _, _, rfl⟩

theorem sendMid_writes (config : Config) (now : Int) (node : Node) :
    WritesOutput node (sendMid config now node) := by
  unfold sendMid
  split
  · exact ⟨_, _, _, _, _, _, rfl⟩
  · exact ⟨_, _, _, _, _, _, rfl⟩

theorem sendPkts_writes (numPkts : Nat) (node : Node) :
    WritesOutput node (sendPkts numPkts node) := by
  induction numPkts generalizing node with
  | zero => exact ⟨_, _, _, _, _, _, rfl⟩
  | succ numPkts ih =>
      have first : WritesOutput node (sendOnePkt node) := ⟨_, _, _, _, _, _, rfl⟩
      exact first.trans (ih (sendOnePkt node))

/-! ## Expiry -/

theorem expireTuple_ok {Tuple : Type} {time : Tuple → Int} {found : Option Tuple} {timer : Timer}
    {rm : Tuple → Node} (ran : expireTuple time found now timer rm node = .ok node') :
    ∃ tuple, found = some tuple ∧
      ((time tuple < now ∧ node' = rm tuple) ∨
        (now ≤ time tuple ∧ node' = node.scheduleTuple now (time tuple) timer)) := by
  unfold expireTuple at ran
  split at ran
  · cases ran
  · next tuple =>
    refine ⟨tuple, rfl, ?_⟩
    split at ran
    · next expired => exact .inl ⟨expired, (Except.ok.inj ran).symm⟩
    · next valid => exact .inr ⟨Int.not_lt.mp valid, (Except.ok.inj ran).symm⟩

/-- The timer of a link removes it, reports the loss of a neighbor unless it is the first time, or
waits for the end of the symmetry. -/
theorem expireLink_ok {id : TupleId} {firstTime : Bool}
    (ran : expireLink config now id firstTime node = .ok node') :
    ∃ link, node.state.linkset.find? (fun link => link.id = id) = some link ∧
      ((link.time < now ∧
          node' = { node.mapState (rmLinkTuple link) with topologyChange := true }) ∨
        (now ≤ link.time ∧ link.symTime < now ∧ ∃ lost,
          (firstTime = true ∧ lost = node ∨
            firstTime = false ∧ nbLoss config now link node = .ok lost) ∧
          node' = lost.scheduleTuple now link.time (.link id false)) ∨
        (now ≤ link.time ∧ now ≤ link.symTime ∧
          node' = node.scheduleTuple now (min link.time link.symTime) (.link id firstTime))) := by
  unfold expireLink at ran
  split at ran
  · cases ran
  · next link found =>
    refine ⟨link, found, ?_⟩
    split at ran
    · next expired => exact .inl ⟨expired, (Except.ok.inj ran).symm⟩
    · next valid =>
      have valid := Int.not_lt.mp valid
      split at ran
      · next ended =>
        obtain ⟨lost, loss, scheduled⟩ := bind_ok.mp ran
        refine .inr (.inl ⟨valid, ended, lost, ?_, (Except.ok.inj scheduled).symm⟩)
        cases firstTime with
        | true => exact .inl ⟨rfl, (Except.ok.inj loss).symm⟩
        | false => exact .inr ⟨rfl, loss⟩
      · next ahead =>
        exact .inr (.inr ⟨valid, Int.not_lt.mp ahead, (Except.ok.inj ran).symm⟩)

theorem expireTimer_output {timer : Timer} (sends : timer ∈ [Timer.hello, .tc, .mid, .msg])
    (ran : expireTimer config now timer node = .ok node') : WritesOutput node node' := by
  have unchanged : ∀ node : Node, WritesOutput node node := fun _ => ⟨_, _, _, _, _, _, rfl⟩
  have rescheduled : ∀ (sent : Node) (ival : Int), WritesOutput sent
      ((sent.drawJitter config).2.schedule (now + ival - (sent.drawJitter config).1) timer) :=
    fun _ _ => ⟨_, _, _, _, _, _, rfl⟩
  simp only [List.mem_cons, List.not_mem_nil, or_false] at sends
  rcases sends with rfl | rfl | rfl | rfl
  · obtain ⟨sent, sending, scheduled⟩ := bind_ok.mp ran
    rw [← Except.ok.inj scheduled]
    exact (sendHello_writes sending).trans (rescheduled sent _)
  · obtain ⟨sent, sending, scheduled⟩ := bind_ok.mp ran
    rw [← Except.ok.inj scheduled]
    refine WritesOutput.trans ?_ (rescheduled sent _)
    split at sending
    · exact sendTc_writes sending
    · exact Except.ok.inj sending ▸ unchanged node
  · simp only [expireTimer] at ran
    split at ran
    · exact Except.ok.inj ran ▸ unchanged node
    · rw [← Except.ok.inj ran]
      exact (sendMid_writes config now node).trans (rescheduled _ _)
  · rw [← Except.ok.inj ran]
    exact sendPkts_writes _ node

end SyncFanet.Olsr
