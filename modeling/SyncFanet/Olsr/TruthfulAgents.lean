import SyncFanet.Olsr.TruthfulRoutes

/-!
# Truthful agents

Every event of an agent keeps it truthful: packets whose sender vouches for their messages,
timers, lost links, and the operations of the host.
-/

set_option autoImplicit false

namespace SyncFanet.Olsr

variable {Agent : Type} {air : Air Agent} {agent : Agent} {config : Config} {now : Int}
  {node node' : Node} {srcAddr : NsAddr}

variable {msg : Msg} {iface : Iface} {timer : Timer}

/-! ## TC and MID messages -/

theorem Truthful.processTc (truthful : Truthful air agent now node) {tc : Tc} {index : Nat}
    (told : ∀ addr ∈ tc.nbMainAddrs, air.Chosen (air.owner addr) (air.owner msg.origAddr))
    (ran : processTc now msg tc srcAddr index node = .ok node') :
    Truthful air agent now node' := by
  unfold Olsr.processTc at ran
  split at ran
  · exact Except.ok.inj ran ▸ truthful
  · split at ran
    · exact Except.ok.inj ran ▸ truthful
    · split at ran
      · cases ran
      · rw [← Except.ok.inj ran]
        refine foldl_keeps _ (Truthful air agent now) ?_ ?_
        · refine { truthful with topology := ?_ }
          intro tuple member
          exact truthful.topology tuple (List.mem_filter.mp member).1
        · intro addr node among holds
          have written := advertise_writes now msg.origAddr tc.ansn (emfToSeconds msg.vtime) index
            node addr
          refine holds.writeTopology written ?_
          unfold advertise
          split
          · exact updateFirst.forall_mem holds.topology fun tuple member _ =>
              holds.topology tuple member
          · intro tuple member
            rcases List.mem_append.mp member with old | new
            · exact holds.topology tuple old
            · rw [List.mem_singleton.mp new]
              exact told addr among

theorem Truthful.processMid (truthful : Truthful air agent now node) {mid : Mid} {index : Nat}
    (told : ∀ addr ∈ mid.ifaceAddrs, air.owner addr = air.owner msg.origAddr) :
    Truthful air agent now (processMid now msg mid srcAddr index node) := by
  unfold Olsr.processMid
  split
  · exact truthful
  · refine foldl_keeps _ (Truthful air agent now) truthful ?_
    intro addr node among holds
    refine holds.writeAssocs (associate_writes now msg.origAddr _ index node addr) ?_
    unfold associate
    dsimp only
    split
    · intro tuple member
      obtain ⟨old, before, rfl⟩ := List.mem_map.mp member
      have same := holds.assocs old before
      split
      · exact same
      · exact same
    · intro tuple member
      rcases List.mem_append.mp member with old | new
      · exact holds.assocs tuple old
      · rw [List.mem_singleton.mp new]
        exact told addr among

/-! ## Messages in the buffer -/

theorem Truthful.enqueMsg (truthful : Truthful air agent now node) {time : Int}
    (vouched : Vouched air agent msg) : Truthful air agent now (node.enqueMsg config time msg) := by
  refine { truthful with buffered := ?_, sent := ?_ }
  · intro other member
    rcases List.mem_append.mp member with old | new
    · exact truthful.buffered other old
    · exact List.mem_singleton.mp new ▸ vouched
  · intro pkt sent
    rcases List.mem_append.mp sent with before | here
    · exact truthful.sent pkt before
    · exact absurd (List.mem_singleton.mp here) (by simp)

theorem Vouched.forwarded {sender : Agent} (vouched : Vouched air sender msg)
    (relayed : ∀ hello, msg.body ≠ .hello hello) (ttl hopCount : Nat) :
    Vouched air agent { msg with ttl := ttl, hopCount := hopCount } := by
  unfold Vouched at vouched ⊢
  cases body : msg.body with
  | hello hello => exact absurd body (relayed hello)
  | tc tc =>
      simp only [body] at vouched ⊢
      exact vouched
  | mid mid =>
      simp only [body] at vouched ⊢
      exact vouched
  | other msgType => trivial

theorem Truthful.forwardDefault (truthful : Truthful air agent now node) {sender : Agent}
    (vouched : Vouched air sender msg) (relayed : ∀ hello, msg.body ≠ .hello hello)
    (dupTuple : Option DupTuple) (localIface : NsAddr) :
    Truthful air agent now (forwardDefault config now msg dupTuple localIface srcAddr node) := by
  unfold Olsr.forwardDefault
  split
  · exact truthful
  · dsimp only
    split
    · exact truthful
    · have buffered : Truthful air agent now
          (if retransmits msg srcAddr node.state then
            node.enqueMsg config now { msg with ttl := msg.ttl - 1, hopCount := msg.hopCount + 1 }
          else node) := by
        split
        · exact truthful.enqueMsg (vouched.forwarded relayed _ _)
        · exact truthful
      split
      · exact { buffered with }
      · exact { buffered with }

/-! ## Packets -/

structure Arrives (air : Air Agent) (agent : Agent) (srcAddr : NsAddr) (pkt : Pkt) : Prop where
  heard : air.heard agent (air.owner srcAddr)
  vouched : ∀ msg ∈ pkt.msgs, Vouched air (air.owner srcAddr) msg

theorem Truthful.processMsg (truthful : Truthful air agent now node)
    (seat : Seat air agent config) (known : iface ∈ config.ifaces)
    (heard : air.heard agent (air.owner srcAddr)) (vouched : Vouched air (air.owner srcAddr) msg)
    (ran : processMsg config now iface srcAddr msg node = .ok node') :
    Truthful air agent now node' := by
  unfold Vouched at vouched
  unfold Olsr.processMsg at ran
  cases body : msg.body with
  | hello hello =>
      simp only [body] at ran vouched
      exact truthful.processHello seat ⟨heard, vouched.1, vouched.2⟩ known ran
  | tc tc =>
      simp only [body] at ran vouched
      exact truthful.processTc vouched ran
  | mid mid =>
      simp only [body] at ran vouched
      exact Except.ok.inj ran ▸ truthful.processMid vouched
  | other msgType =>
      simp only [body] at ran
      exact Except.ok.inj ran ▸ truthful

theorem Truthful.recvMsg (truthful : Truthful air agent now node) (seat : Seat air agent config)
    (known : iface ∈ config.ifaces) (heard : air.heard agent (air.owner srcAddr))
    (vouched : Vouched air (air.owner srcAddr) msg)
    (ran : recvMsg config now iface srcAddr node msg = .ok node') :
    Truthful air agent now node' := by
  rcases recvMsg_stages ran with ⟨_, rfl⟩ | ⟨_, processed, processing, rfl⟩
  · exact truthful
  · have kept : Truthful air agent now processed := by
      unfold processUnlessDuplicated at processing
      split at processing
      · have silent : ∀ pkt, Action.processed msg.origAddr msg.msgSeqNum ≠ .sentPkt pkt := by
          intro pkt same
          cases same
        exact ((Forgets.record node silent).truthful truthful).processMsg seat known heard vouched
          processing
      · exact Except.ok.inj processing ▸ truthful
    split
    · next forwards =>
      refine kept.forwardDefault vouched ?_ _ _
      intro hello body
      simp [doForwarding, body] at forwards
    · exact kept

theorem Truthful.recvOlsr (truthful : Truthful air agent now node) (seat : Seat air agent config)
    (known : iface ∈ config.ifaces) {pkt : Pkt} (arrives : Arrives air agent srcAddr pkt)
    (ran : recvOlsr config now iface srcAddr pkt node = .ok node') :
    Truthful air agent now node' := by
  rcases recvOlsr_stages ran with ⟨_, rfl⟩ | ⟨handled, loop, table⟩
  · exact truthful
  · refine Truthful.recomputeRtable ?_ table
    refine foldlM_seen loop (fun _ node => Truthful air agent now node) truthful ?_
    intro _ msg node node' member holds ran
    exact holds.recvMsg seat known arrives.heard (arrives.vouched msg member) ran

/-! ## Lost links -/

theorem eraseNb2hopTuplesOf_forgets (node : Node) (nbMainAddr : NsAddr) :
    Forgets node (node.eraseNb2hopTuplesOf nbMainAddr) :=
  { Forgets.refl node with nb2hopset := List.filter_sublist.subset }

theorem eraseMprselTuples_forgets (node : Node) (mainAddr : NsAddr) :
    Forgets node (node.eraseMprselTuples mainAddr) := by
  have silent : ∀ pkt, Action.selectorsChanged ≠ .sentPkt pkt := by
    intro pkt same
    cases same
  unfold Node.eraseMprselTuples
  dsimp only
  split
  · refine Forgets.trans ?_ (Forgets.record _ silent)
    exact { Forgets.refl node with mprselset := List.filter_sublist.subset }
  · exact { Forgets.refl node with mprselset := List.filter_sublist.subset }

theorem Truthful.nbLoss (truthful : Truthful air agent now node) {link : LinkTuple}
    (told : TruthfulLink air agent now link)
    (ran : nbLoss config now link node = .ok node') : Truthful air agent now node' := by
  obtain ⟨computed, mprs, table⟩ := nbLoss_stages ran
  have updated : Truthful air agent now
      (node.mapState (updatedLinkTuple config now link willDefault)) :=
    truthful.updatedLink told willDefault
  have erased : Truthful air agent now (lossErased config now link node) :=
    ((eraseNb2hopTuplesOf_forgets _ _).trans (eraseMprselTuples_forgets _ _)).truthful updated
  exact (erased.recomputeMprs mprs).recomputeRtable table

theorem Truthful.macFailed (truthful : Truthful air agent now node) {destAddr : NsAddr}
    (ran : macFailed config now destAddr node = .ok node') : Truthful air agent now node' := by
  unfold Olsr.macFailed at ran
  split at ran
  · exact Except.ok.inj ran ▸ truthful
  · split at ran
    · exact Except.ok.inj ran ▸ truthful
    · split at ran
      · exact Except.ok.inj ran ▸ truthful
      · next link found =>
        have before := truthful.links link (List.mem_of_find?_eq_some found)
        have told : TruthfulLink air agent now (lostLinkTuple config now link) :=
          ⟨before.inbound, before.heard, before.symmetric⟩
        exact (truthful.updateLink told).nbLoss told ran

/-! ## What an agent sends -/

/-- What `send_hello` tells of a neighbor is what the agent has heard and chosen. -/
theorem Truthful.helloNbType (truthful : Truthful air agent now node)
    (picks : ∀ mpr ∈ node.state.mprset, air.picked agent (air.owner mpr)) {link : LinkTuple}
    (member : link ∈ node.state.linkset) {nbType : Nat}
    (type : helloNbType node.state link = some nbType) :
    HelloListing air agent nbType link.nbIfaceAddr := by
  have heard := (truthful.links link member).heard
  have behind := truthful.owner_getMainAddr link.nbIfaceAddr
  simp only [Olsr.helloNbType] at type
  split at type
  · next mpr =>
    obtain rfl := Option.some.inj type
    have both := truthful.mprs _ mpr
    have picked := picks _ mpr
    rw [behind] at both picked
    exact ⟨heard, fun _ => both, fun _ => ⟨picked, both⟩⟩
  · obtain ⟨nb, found, rfl⟩ := Option.map_eq_some_iff.mp type
    have among := List.mem_of_find?_eq_some found
    have main : nb.nbMainAddr = node.state.getMainAddr link.nbIfaceAddr := by
      simpa using List.find?_some found
    cases status : nb.status with
    | sym =>
        have both := truthful.nbs nb among status
        rw [main, behind] at both
        exact ⟨heard, fun _ => both, fun same => absurd same (by decide)⟩
    | notSym =>
        exact ⟨heard, fun same => absurd same (by decide), fun same => absurd same (by decide)⟩

theorem Truthful.sendHello (truthful : Truthful air agent now node)
    (seat : Seat air agent config)
    (picks : ∀ mpr ∈ node.state.mprset, air.picked agent (air.owner mpr))
    (ran : sendHello config now node = .ok node') : Truthful air agent now node' := by
  obtain ⟨msg, hello, rfl, origin, body, groups⟩ := sendHello_ok ran
  have numbered : Truthful air agent now node.nextMsgSeq := { truthful with }
  refine numbered.enqueMsg ?_
  simp only [Vouched, body]
  refine ⟨by rw [origin, seat.main], ?_⟩
  intro group member addr listed
  rw [groups] at member
  obtain ⟨link, among, rfl, -, type⟩ := advertiseLinks_lists config now node.state
    node.state.linkset group member addr listed
  exact truthful.helloNbType picks among type

theorem Truthful.sendTc (truthful : Truthful air agent now node) (seat : Seat air agent config)
    (ran : sendTc config now node = .ok node') : Truthful air agent now node' := by
  obtain ⟨msg, tc, rfl, origin, body, _, selectors⟩ := sendTc_ok ran
  have numbered : Truthful air agent now node.nextMsgSeq := { truthful with }
  have silent : ∀ pkt, Action.sentTc tc ≠ .sentPkt pkt := by
    intro pkt same
    cases same
  refine ((Forgets.record _ silent).truthful numbered).enqueMsg ?_
  simp only [Vouched, body, origin, seat.main, selectors]
  intro addr member
  obtain ⟨tuple, among, rfl⟩ := List.mem_map.mp member
  exact truthful.selectors tuple among

theorem Truthful.sendMid (truthful : Truthful air agent now node) (seat : Seat air agent config) :
    Truthful air agent now (sendMid config now node) := by
  unfold Olsr.sendMid
  split
  · exact truthful
  · have numbered : Truthful air agent now node.nextMsgSeq := { truthful with }
    refine numbered.enqueMsg ?_
    intro addr member
    obtain ⟨iface, known, rfl⟩ := List.mem_map.mp member
    rw [seat.ifaces iface known, seat.main]

theorem Truthful.sendPkts (truthful : Truthful air agent now node) (numPkts : Nat) :
    Truthful air agent now (sendPkts numPkts node) := by
  induction numPkts generalizing node with
  | zero => exact truthful
  | succ numPkts ih =>
      refine ih { truthful with buffered := ?_, sent := ?_ }
      · intro msg member
        exact truthful.buffered msg (List.mem_of_mem_drop member)
      · intro pkt sent
        rcases List.mem_append.mp sent with before | here
        · exact truthful.sent pkt before
        · obtain rfl := Action.sentPkt.inj (List.mem_singleton.mp here)
          intro msg member
          exact truthful.buffered msg (List.mem_of_mem_take member)

/-! ## Timers -/

theorem rmMprselTuple_forgets (node : Node) (tuple : MprselTuple) :
    Forgets node (node.rmMprselTuple tuple) := by
  have silent : ∀ pkt, Action.selectorsChanged ≠ .sentPkt pkt := by
    intro pkt same
    cases same
  unfold Node.rmMprselTuple
  dsimp only
  split
  · refine Forgets.trans ?_ (Forgets.record _ silent)
    exact { Forgets.refl node with mprselset := List.eraseP_subset }
  · exact { Forgets.refl node with mprselset := List.eraseP_subset }

theorem rmLinkTuple_forgets (node : Node) (link : LinkTuple) :
    Forgets node (node.mapState (rmLinkTuple link)) :=
  { Forgets.refl node with linkset := List.eraseP_subset, nbset := List.eraseP_sublist }

theorem expireTuple_forgets {Tuple : Type} {time : Tuple → Int} {found : Option Tuple}
    {rm : Tuple → Node} (removed : ∀ tuple, Forgets node (rm tuple))
    (ran : expireTuple time found now timer rm node = .ok node') : Forgets node node' := by
  obtain ⟨tuple, _, ⟨_, rfl⟩ | ⟨_, rfl⟩⟩ := expireTuple_ok ran
  · exact removed tuple
  · exact { Forgets.refl node with }

theorem Truthful.expireLink (truthful : Truthful air agent now node) {id : TupleId}
    {firstTime : Bool} (ran : expireLink config now id firstTime node = .ok node') :
    Truthful air agent now node' := by
  obtain ⟨link, found, expiry⟩ := expireLink_ok ran
  have told := truthful.links link (List.mem_of_find?_eq_some found)
  rcases expiry with ⟨_, rfl⟩ | ⟨_, _, lost, loss, rfl⟩ | ⟨_, _, rfl⟩
  · have removed := (rmLinkTuple_forgets node link).truthful truthful
    exact { removed with }
  · have kept : Truthful air agent now lost := by
      rcases loss with ⟨_, rfl⟩ | ⟨_, loss⟩
      · exact truthful
      · exact truthful.nbLoss told loss
    exact { kept with }
  · exact { truthful with }

theorem Truthful.expireTimer (truthful : Truthful air agent now node)
    (seat : Seat air agent config)
    (picks : ∀ mpr ∈ node.state.mprset, air.picked agent (air.owner mpr))
    (ran : expireTimer config now timer node = .ok node') : Truthful air agent now node' := by
  cases timer with
  | hello =>
      obtain ⟨sent, sending, scheduled⟩ := bind_ok.mp ran
      rw [← Except.ok.inj scheduled]
      exact { truthful.sendHello seat picks sending with }
  | tc =>
      obtain ⟨sent, sending, scheduled⟩ := bind_ok.mp ran
      rw [← Except.ok.inj scheduled]
      have kept : Truthful air agent now sent := by
        split at sending
        · exact truthful.sendTc seat sending
        · exact Except.ok.inj sending ▸ truthful
      exact { kept with }
  | mid =>
      simp only [Olsr.expireTimer] at ran
      split at ran
      · exact Except.ok.inj ran ▸ truthful
      · rw [← Except.ok.inj ran]
        have sent : Truthful air agent now (Olsr.sendMid config now node) := truthful.sendMid seat
        exact { sent with }
  | msg =>
      rw [← Except.ok.inj ran]
      exact truthful.sendPkts _
  | link id firstTime => exact truthful.expireLink ran
  | dup id =>
      refine (expireTuple_forgets ?_ ran).truthful truthful
      exact fun _ => { Forgets.refl node with }
  | nb2hop id =>
      refine (expireTuple_forgets ?_ ran).truthful truthful
      exact fun _ => { Forgets.refl node with nb2hopset := List.eraseP_subset }
  | mprsel id =>
      exact (expireTuple_forgets (rmMprselTuple_forgets node) ran).truthful truthful
  | topology id =>
      refine (expireTuple_forgets ?_ ran).truthful truthful
      exact fun _ => { Forgets.refl node with topologyset := List.eraseP_subset }
  | ifaceAssoc id =>
      refine (expireTuple_forgets ?_ ran).truthful truthful
      exact fun _ => { Forgets.refl node with ifaceassocset := List.eraseP_subset }

/-! ## Hosts -/

theorem deleteTimer_forgets (ran : deleteTimer timer node = .ok node') :
    Forgets node node' := by
  cases timer with
  | hello | tc | mid | msg => exact Except.ok.inj ran ▸ Forgets.refl node
  | dup id | link id _ | nb2hop id | topology id | ifaceAssoc id =>
      simp only [deleteTimer, deleteTuple] at ran
      split at ran
      · cases ran
      · rw [← Except.ok.inj ran]
        exact { Forgets.refl node with
          linkset := by first | exact List.Subset.refl _ | exact List.eraseP_subset
          nbset := by first | exact List.Sublist.refl _ | exact List.eraseP_sublist
          nb2hopset := by first | exact List.Subset.refl _ | exact List.eraseP_subset
          topologyset := by first | exact List.Subset.refl _ | exact List.eraseP_subset
          ifaceassocset := by first | exact List.Subset.refl _ | exact List.eraseP_subset }
  | mprsel id =>
      simp only [deleteTimer, deleteTuple] at ran
      split at ran
      · cases ran
      · rw [← Except.ok.inj ran]
        exact rmMprselTuple_forgets node _

theorem deleteTimers_forgets {timers : List (Int × Timer)}
    (ran : deleteTimers timers node = .ok node') : Forgets node node' := by
  induction timers generalizing node with
  | nil => exact Except.ok.inj ran ▸ { Forgets.refl node with }
  | cons first rest ih =>
      obtain ⟨deleted, one, others⟩ := bind_ok.mp ran
      have queue : Forgets node { node with timerQueue := rest } := { Forgets.refl node with }
      exact (queue.trans (deleteTimer_forgets one)).trans (ih others)

theorem handleNodeShutdown_forgets (ran : handleNodeShutdown node = .ok node') :
    Forgets node node' := by
  have cleared : Forgets node { node with rtable := [], msgs := [] } := by
    refine { Forgets.refl node with rtable := ?_, msgs := List.nil_subset _ }
    intro dest entry found
    cases found
  exact cleared.trans (deleteTimers_forgets ran)

/-- What happens at a host, other than the arrival of packets, keeps its agent truthful; so
does the arrival of a packet for which its sender vouches. -/
theorem Truthful.hostStep {host host' : Host} {event : HostEvent}
    (truthful : Truthful air agent now host.node) (seat : Seat air agent config)
    (picks : ∀ mpr ∈ host.node.state.mprset, air.picked agent (air.owner mpr))
    (arrives : ∀ iface srcAddr pkt, event = .agent (.recv iface srcAddr pkt) →
      iface ∈ config.ifaces ∧ Arrives air agent srcAddr pkt)
    (ran : hostStep config now event host = .ok host') : Truthful air agent now host'.node := by
  cases event with
  | agent event =>
      simp only [Olsr.hostStep] at ran
      split at ran
      · obtain ⟨node, stepped, same⟩ := bind_ok.mp ran
        obtain rfl := Except.ok.inj same
        cases event with
        | recv iface srcAddr pkt =>
            obtain ⟨known, arrives⟩ := arrives iface srcAddr pkt rfl
            exact truthful.recvOlsr seat known arrives stepped
        | timer =>
            simp only [stepWith] at stepped
            split at stepped
            · exact Except.ok.inj stepped ▸ truthful
            · next key timer rest queue =>
              have started : Truthful air agent now { host.node with timerQueue := rest } :=
                { truthful with }
              exact started.expireTimer seat picks stepped
        | linkBreak destAddr =>
            simp only [stepWith] at stepped
            split at stepped
            · exact truthful.macFailed stepped
            · exact Except.ok.inj stepped ▸ truthful
      · exact Except.ok.inj ran ▸ truthful
  | start => exact Except.ok.inj ran ▸ { truthful with }
  | shutdown | crash =>
      obtain ⟨node, deleted, same⟩ := bind_ok.mp ran
      obtain rfl := Except.ok.inj same
      exact (handleNodeShutdown_forgets deleted).truthful truthful
  | changeInterface =>
      obtain ⟨node, deleted, same⟩ := bind_ok.mp ran
      obtain rfl := Except.ok.inj same
      have closed := (handleNodeShutdown_forgets deleted).truthful truthful
      exact { closed with }

end SyncFanet.Olsr
