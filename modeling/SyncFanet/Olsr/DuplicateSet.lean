import SyncFanet.Olsr.AgentWrites

/-!
# The duplicate set

A duplicate tuple remembers a message that was considered for forwarding. While it
exists the message is not processed again, and its flag says whether a copy was
enqueued.
-/

set_option autoImplicit false

namespace SyncFanet.Olsr

/-! ## Copies of a message -/

/-- Whether the action enqueues a copy of the message. -/
def isCopy (addr : NsAddr) (seqNum : Nat) : Action → Bool
  | .enqueued msg => decide (msg.origAddr = addr ∧ msg.msgSeqNum = seqNum)
  | _ => false

def copies (addr : NsAddr) (seqNum : Nat) (node : Node) : Nat :=
  node.history.countP (isCopy addr seqNum)

/-- Nothing happened to the duplicate set, and no copy of a foreign message was
enqueued. -/
structure SameDups (config : Config) (node node' : Node) : Prop where
  dupset : node'.state.dupset = node.state.dupset
  copies : ∀ addr seqNum, config.isLocalAddress addr = false →
    copies addr seqNum node' = copies addr seqNum node

section

variable {config : Config} {node node' : Node}

variable {now : Int} {msg : Msg}

theorem SameDups.refl (config : Config) (node : Node) : SameDups config node node :=
  ⟨rfl, fun _ _ _ => rfl⟩

theorem SameDups.trans {first second third : Node} (left : SameDups config first second)
    (right : SameDups config second third) : SameDups config first third where
  dupset := right.dupset.trans left.dupset
  copies addr seqNum foreign :=
    (right.copies addr seqNum foreign).trans (left.copies addr seqNum foreign)

theorem sameDups_of_history (dupset : node'.state.dupset = node.state.dupset)
    (history : node'.history = node.history) : SameDups config node node' :=
  ⟨dupset, fun _ _ _ => by simp only [copies, history]⟩

theorem sameDups_of_links (written : WritesLinks node node') : SameDups config node node' := by
  obtain ⟨_, _, _, _, rfl⟩ := written
  exact sameDups_of_history rfl rfl

theorem sameDups_of_nb2hop (written : WritesNb2hop node node') : SameDups config node node' := by
  obtain ⟨_, _, _, _, rfl⟩ := written
  exact sameDups_of_history rfl rfl

theorem sameDups_of_topology (written : WritesTopology node node') :
    SameDups config node node' := by
  obtain ⟨_, _, _, _, rfl⟩ := written
  exact sameDups_of_history rfl rfl

theorem sameDups_of_assocs (written : WritesAssocs node node') : SameDups config node node' := by
  obtain ⟨_, _, _, rfl⟩ := written
  exact sameDups_of_history rfl rfl

theorem recomputeMprs_sameDups (ran : node.recomputeMprs config = .ok node') :
    SameDups config node node' := by
  obtain ⟨_, _, rfl⟩ := recomputeMprs_writes ran
  exact sameDups_of_history rfl rfl

theorem recomputeRtable_sameDups (ran : node.recomputeRtable now = .ok node') :
    SameDups config node node' := by
  obtain ⟨_, _, rfl⟩ := recomputeRtable_writes ran
  exact sameDups_of_history rfl rfl

theorem sameDups_of_record {action : Action} (dupset : node'.state.dupset = node.state.dupset)
    (history : node'.history = node.history ++ [action])
    (quiet : ∀ addr seqNum, isCopy addr seqNum action = false) : SameDups config node node' :=
  ⟨dupset, fun addr seqNum _ => by
    simp [copies, history, List.countP_append, quiet addr seqNum]⟩

theorem populateSelector_sameDups (now validity : Int) (origAddr : NsAddr) (addr : NsAddr) :
    SameDups config node (populateSelector config now validity origAddr node addr) := by
  unfold populateSelector
  split
  · split
    · exact sameDups_of_record rfl rfl fun _ _ => rfl
    · exact sameDups_of_history rfl rfl
  · exact SameDups.refl config node

theorem processHello_sameDups {hello : Hello} {receiverIface senderIface : NsAddr} {index : Nat}
    (ran : processHello config now msg hello receiverIface senderIface index node = .ok node') :
    SameDups config node node' := by
  obtain ⟨sensed, populated, computed, linked, changed, first, second, third, fourth⟩ :=
    processHello_stages ran
  have willing : SameDups config sensed (sensed.mapState (populateNbset hello msg.origAddr)) :=
    sameDups_of_history rfl rfl
  have before : SameDups config node computed :=
    (((sameDups_of_links (linkSensingWith_writes first)).trans willing).trans
      (sameDups_of_nb2hop (populateNb2hopsetWith_writes second))).trans
        (recomputeMprs_sameDups third)
  exact populateMprselset_keeps (SameDups config node) before
    (fun _ _ _ _ addr _ holds =>
      holds.trans (populateSelector_sameDups now _ msg.origAddr addr)) fourth

theorem processMsg_sameDups {iface : Iface} {srcAddr : NsAddr}
    (ran : processMsg config now iface srcAddr msg node = .ok node') :
    SameDups config node node' := by
  unfold processMsg at ran
  split at ran
  · exact processHello_sameDups ran
  · exact sameDups_of_topology (processTc_writes ran)
  · rw [← Except.ok.inj ran]
    exact sameDups_of_assocs (processMid_writes now msg _ srcAddr _ node)
  · exact Except.ok.inj ran ▸ SameDups.refl config node

theorem processUnlessDuplicated_sameDups {iface : Iface} {srcAddr : NsAddr}
    {duplicated : Option DupTuple}
    (ran : processUnlessDuplicated config now iface srcAddr msg duplicated node = .ok node') :
    SameDups config node node' := by
  unfold processUnlessDuplicated at ran
  split at ran
  · have recorded : SameDups config node (node.record (.processed msg.origAddr msg.msgSeqNum)) :=
      sameDups_of_record rfl rfl fun _ _ => rfl
    exact recorded.trans (processMsg_sameDups ran)
  · exact Except.ok.inj ran ▸ SameDups.refl config node

/-! ## Messages of the node itself -/

theorem enqueMsg_sameDups (own : msg.origAddr = config.raAddr) :
    SameDups config node (node.enqueMsg config now msg) := by
  refine ⟨rfl, fun addr seqNum foreign => ?_⟩
  have different : config.raAddr ≠ addr := by
    rintro rfl
    simp [Config.isLocalAddress, config.raAddr_local] at foreign
  simp [Node.enqueMsg, Node.drawJitter, Node.schedule, Node.record, copies, isCopy, own, different]

theorem sendHello_sameDups (ran : sendHello config now node = .ok node') :
    SameDups config node node' := by
  obtain ⟨msg, hello, rfl, own, -⟩ := sendHello_ok ran
  have counted : SameDups config node node.nextMsgSeq := sameDups_of_history rfl rfl
  exact counted.trans (enqueMsg_sameDups own)

theorem sendTc_sameDups (ran : sendTc config now node = .ok node') :
    SameDups config node node' := by
  obtain ⟨msg, tc, rfl, own, -⟩ := sendTc_ok ran
  have announced : SameDups config node (node.nextMsgSeq.record (.sentTc tc)) :=
    sameDups_of_record rfl rfl fun _ _ => rfl
  exact announced.trans (enqueMsg_sameDups own)

theorem sendMid_sameDups (config : Config) (now : Int) (node : Node) :
    SameDups config node (sendMid config now node) := by
  rcases sendMid_cases config now node with same | ⟨msg, own, sent⟩
  · rw [same]
    exact SameDups.refl config node
  · rw [sent]
    have counted : SameDups config node node.nextMsgSeq := sameDups_of_history rfl rfl
    exact counted.trans (enqueMsg_sameDups own)

theorem sendPkts_sameDups (config : Config) (numPkts : Nat) (node : Node) :
    SameDups config node (sendPkts numPkts node) := by
  induction numPkts generalizing node with
  | zero => exact SameDups.refl config node
  | succ numPkts ih =>
      have sent : SameDups config node (sendOnePkt node) :=
        sameDups_of_record rfl rfl fun _ _ => rfl
      exact sent.trans (ih (sendOnePkt node))

theorem eraseMprselTuples_sameDups (mainAddr : NsAddr) :
    SameDups config node (node.eraseMprselTuples mainAddr) := by
  unfold Node.eraseMprselTuples
  dsimp only
  split
  · exact sameDups_of_record rfl rfl fun _ _ => rfl
  · exact sameDups_of_history rfl rfl

theorem rmMprselTuple_sameDups (tuple : MprselTuple) :
    SameDups config node (node.rmMprselTuple tuple) := by
  unfold Node.rmMprselTuple
  dsimp only
  split
  · exact sameDups_of_record rfl rfl fun _ _ => rfl
  · exact sameDups_of_history rfl rfl

theorem nbLoss_sameDups {link : LinkTuple} (ran : nbLoss config now link node = .ok node') :
    SameDups config node node' := by
  obtain ⟨computed, mprs, table⟩ := nbLoss_stages ran
  obtain ⟨nbset, written⟩ := updatedLinkTuple_writes config now link willDefault node.state
  have lost : SameDups config node (lossErased config now link node) := by
    have linked : SameDups config node
        ({ node with state := { node.state with nbset := nbset } }.eraseNb2hopTuplesOf
          (node.state.getMainAddr link.nbIfaceAddr)) := sameDups_of_history rfl rfl
    unfold lossErased Node.mapState
    rw [written]
    exact linked.trans (eraseMprselTuples_sameDups _)
  exact (lost.trans (recomputeMprs_sameDups mprs)).trans (recomputeRtable_sameDups table)

end

/-! ## Accounting -/

def dupKey (tuple : DupTuple) : NsAddr × Nat := (tuple.addr, tuple.seqNum)

structure WellKept (config : Config) (state : State) : Prop where
  unique : (state.dupset.map dupKey).Nodup
  foreign : ∀ tuple ∈ state.dupset, config.isLocalAddress tuple.addr = false

def recorded (addr : NsAddr) (seqNum : Nat) (state : State) : Nat :=
  match state.findDupTuple addr seqNum with
  | some tuple => if tuple.retransmitted then 1 else 0
  | none => 0

def Accounted (addr : NsAddr) (seqNum base : Nat) (node : Node) : Prop :=
  copies addr seqNum node = base + recorded addr seqNum node.state

section

variable {config : Config} {node node' : Node}

variable {now : Int} {addr srcAddr : NsAddr} {seqNum base : Nat} {iface : Iface} {msg : Msg}
  {state : State}

theorem SameDups.findDupTuple (same : SameDups config node node') (addr : NsAddr)
    (seqNum : Nat) : node'.state.findDupTuple addr seqNum = node.state.findDupTuple addr seqNum := by
  simp only [State.findDupTuple, same.dupset]

theorem WellKept.same (kept : WellKept config node.state) (same : SameDups config node node') :
    WellKept config node'.state where
  unique := by
    rw [same.dupset]
    exact kept.unique
  foreign := by
    rw [same.dupset]
    exact kept.foreign

theorem Accounted.same (accounted : Accounted addr seqNum base node)
    (same : SameDups config node node') (foreign : config.isLocalAddress addr = false) :
    Accounted addr seqNum base node' := by
  rw [Accounted, same.copies addr seqNum foreign, accounted]
  simp only [recorded, same.findDupTuple addr seqNum]

/-! ## Forwarding -/

theorem findDupTuple_key :
    state.findDupTuple addr seqNum = none ↔ (addr, seqNum) ∉ state.dupset.map dupKey := by
  simp [State.findDupTuple, dupKey]

/-- What `forward_default` does: nothing, or it enqueues a copy if it retransmits, and
writes down whether it did. -/
theorem forwardDefault_cases (config : Config) (now : Int) (msg : Msg)
    (dupTuple : Option DupTuple) (localIface srcAddr : NsAddr) (node : Node) :
    forwardDefault config now msg dupTuple localIface srcAddr node = node ∨
    dupTuple.any DupTuple.retransmitted = false ∧ ∃ sent,
      sent = (if retransmits msg srcAddr node.state then node.enqueMsg config now
        { msg with ttl := msg.ttl - 1, hopCount := msg.hopCount + 1 } else node) ∧
      forwardDefault config now msg dupTuple localIface srcAddr node =
        match dupTuple with
        | some _ =>
            sent.mapState fun state => state.updateDupTuple msg.origAddr msg.msgSeqNum
              fun tuple => { tuple with
                time := now + dupHoldTime
                retransmitted := retransmits msg srcAddr node.state
                ifaceList := tuple.ifaceList ++ [localIface] }
        | none =>
            sent.addDupTuple now msg.origAddr msg.msgSeqNum (retransmits msg srcAddr node.state)
              localIface := by
  unfold forwardDefault
  split
  · exact .inl rfl
  · dsimp only
    split
    · exact .inl rfl
    · next flag => exact .inr ⟨by simpa using flag, _, rfl, rfl⟩

theorem copies_sent (config : Config) (addr : NsAddr) (seqNum : Nat) (now : Int) (msg : Msg) (sends : Bool)
    (node : Node) :
    copies addr seqNum (if sends then node.enqueMsg config now
        { msg with ttl := msg.ttl - 1, hopCount := msg.hopCount + 1 } else node) =
      copies addr seqNum node +
        if sends ∧ msg.origAddr = addr ∧ msg.msgSeqNum = seqNum then 1 else 0 := by
  cases sends with
  | false => simp
  | true =>
      by_cases same : msg.origAddr = addr ∧ msg.msgSeqNum = seqNum
      · simp [Node.enqueMsg, Node.drawJitter, Node.schedule, Node.record, copies, isCopy, same,
          List.countP_append]
      · simp [Node.enqueMsg, Node.drawJitter, Node.schedule, Node.record, copies, isCopy, same,
          List.countP_append]

theorem dupset_sent (now : Int) (msg : Msg) (sends : Bool) (node : Node) :
    (if sends then node.enqueMsg config now msg else node).state.dupset = node.state.dupset := by
  split
  · rfl
  · rfl

theorem forwardDefault_wellKept {localIface : NsAddr}
    (foreign : config.isLocalAddress msg.origAddr = false) (kept : WellKept config node.state) :
    WellKept config (forwardDefault config now msg
      (node.state.findDupTuple msg.origAddr msg.msgSeqNum) localIface srcAddr node).state := by
  rcases forwardDefault_cases config now msg (node.state.findDupTuple msg.origAddr msg.msgSeqNum)
    localIface srcAddr node with same | ⟨_, sent, sending, forwarded⟩
  · rw [same]
    exact kept
  · have dupset : sent.state.dupset = node.state.dupset := by
      rw [sending]
      exact dupset_sent now _ _ node
    rw [forwarded]
    cases found : node.state.findDupTuple msg.origAddr msg.msgSeqNum with
    | some old =>
        have keeps : ∀ tuple : DupTuple, dupKey { tuple with
            time := now + dupHoldTime
            retransmitted := retransmits msg srcAddr node.state
            ifaceList := tuple.ifaceList ++ [localIface] } = dupKey tuple := fun _ => rfl
        constructor
        · simp only [Node.mapState, State.updateDupTuple]
          rw [updateFirst.map_key keeps, dupset]
          exact kept.unique
        · intro tuple member
          have key : dupKey tuple ∈ node.state.dupset.map dupKey := by
            rw [← dupset, ← updateFirst.map_key keeps]
            exact List.mem_map_of_mem member
          obtain ⟨before, among, same⟩ := List.mem_map.mp key
          have addr : before.addr = tuple.addr := congrArg Prod.fst same
          rw [← addr]
          exact kept.foreign before among
    | none =>
        have fresh := findDupTuple_key.mp found
        constructor
        · simp only [Node.addDupTuple, Node.scheduleTuple, Node.schedule, dupset, List.map_append,
            List.map_cons, List.map_nil]
          refine List.nodup_append.mpr ⟨kept.unique, by simp, ?_⟩
          intro key member other last
          have same : other = (msg.origAddr, msg.msgSeqNum) := by simpa [dupKey] using last
          rw [same]
          rintro rfl
          exact fresh member
        · intro tuple member
          simp only [Node.addDupTuple, Node.scheduleTuple, Node.schedule, dupset, List.mem_append,
            List.mem_singleton] at member
          rcases member with old | rfl
          · exact kept.foreign tuple old
          · exact foreign

theorem recorded_updateDupTuple {origAddr : NsAddr} {msgSeqNum : Nat} (addr : NsAddr)
    (seqNum : Nat) {old : DupTuple} (found : state.findDupTuple origAddr msgSeqNum = some old)
    (sends : Bool) (update : DupTuple → DupTuple)
    (keeps : ∀ tuple, dupKey (update tuple) = dupKey tuple)
    (writes : ∀ tuple, (update tuple).retransmitted = sends) :
    recorded addr seqNum (state.updateDupTuple origAddr msgSeqNum update) =
      if origAddr = addr ∧ msgSeqNum = seqNum then (if sends then 1 else 0)
      else recorded addr seqNum state := by
  have addrs : ∀ tuple, (update tuple).addr = tuple.addr :=
    fun tuple => congrArg Prod.fst (keeps tuple)
  have seqNums : ∀ tuple, (update tuple).seqNum = tuple.seqNum :=
    fun tuple => congrArg Prod.snd (keeps tuple)
  by_cases same : origAddr = addr ∧ msgSeqNum = seqNum
  · obtain ⟨rfl, rfl⟩ := same
    have search : (state.updateDupTuple origAddr msgSeqNum update).findDupTuple origAddr
        msgSeqNum = (state.findDupTuple origAddr msgSeqNum).map update :=
      updateFirst.find?_same (fun tuple here => by simpa [addrs, seqNums] using here) state.dupset
    simp [recorded, search, found, writes]
  · have search : (state.updateDupTuple origAddr msgSeqNum update).findDupTuple addr seqNum =
        state.findDupTuple addr seqNum := by
      refine updateFirst.find?_other (fun tuple here => ?_) state.dupset
      have key : tuple.addr = origAddr ∧ tuple.seqNum = msgSeqNum := by simpa using here
      have apart : ¬(tuple.addr = addr ∧ tuple.seqNum = seqNum) := by
        rw [key.1, key.2]
        exact same
      simp [addrs, seqNums, apart]
    simp [recorded, search, same]

theorem recorded_addDupTuple {node : Node} {origAddr : NsAddr} {msgSeqNum : Nat}
    (addr : NsAddr) (seqNum : Nat) (absent : node.state.findDupTuple origAddr msgSeqNum = none)
    (now : Int) (sends : Bool) (localIface : NsAddr) :
    recorded addr seqNum (node.addDupTuple now origAddr msgSeqNum sends localIface).state =
      if origAddr = addr ∧ msgSeqNum = seqNum then (if sends then 1 else 0)
      else recorded addr seqNum node.state := by
  simp only [State.findDupTuple, Bool.decide_and] at absent
  by_cases same : origAddr = addr ∧ msgSeqNum = seqNum
  · obtain ⟨rfl, rfl⟩ := same
    simp [recorded, State.findDupTuple, Node.addDupTuple, Node.scheduleTuple, Node.schedule,
      List.find?_append, absent]
  · simp [recorded, State.findDupTuple, Node.addDupTuple, Node.scheduleTuple, Node.schedule,
      List.find?_append, same]

theorem forwardDefault_accounted {localIface : NsAddr}
    (accounted : Accounted addr seqNum base node) :
    Accounted addr seqNum base (forwardDefault config now msg
      (node.state.findDupTuple msg.origAddr msg.msgSeqNum) localIface srcAddr node) := by
  rcases forwardDefault_cases config now msg (node.state.findDupTuple msg.origAddr msg.msgSeqNum)
    localIface srcAddr node with same | ⟨flag, sent, sending, forwarded⟩
  · rw [same]
    exact accounted
  · have dupset : sent.state.dupset = node.state.dupset := by
      rw [sending]
      exact dupset_sent now _ _ node
    have search : sent.state.findDupTuple = node.state.findDupTuple := by
      funext addr seqNum
      simp only [State.findDupTuple, dupset]
    have quiet : msg.origAddr = addr ∧ msg.msgSeqNum = seqNum →
        recorded addr seqNum node.state = 0 := by
      rintro ⟨rfl, rfl⟩
      cases found : node.state.findDupTuple msg.origAddr msg.msgSeqNum with
      | none => simp [recorded, found]
      | some old =>
          have unsent : old.retransmitted = false := by simpa [found] using flag
          simp [recorded, found, unsent]
    have counted : copies addr seqNum sent = copies addr seqNum node +
        if retransmits msg srcAddr node.state ∧ msg.origAddr = addr ∧ msg.msgSeqNum = seqNum
        then 1 else 0 := by
      rw [sending]
      exact copies_sent config addr seqNum now msg _ node
    have written : copies addr seqNum sent = base +
        if msg.origAddr = addr ∧ msg.msgSeqNum = seqNum
        then (if retransmits msg srcAddr node.state then 1 else 0)
        else recorded addr seqNum sent.state := by
      rw [counted, accounted]
      by_cases same : msg.origAddr = addr ∧ msg.msgSeqNum = seqNum
      · simp [quiet same, same]
      · simp [recorded, search, same]
    rw [forwarded]
    cases found : node.state.findDupTuple msg.origAddr msg.msgSeqNum with
    | some old =>
        rw [← search] at found
        have recorded' := recorded_updateDupTuple addr seqNum found
          (retransmits msg srcAddr node.state) (fun tuple => { tuple with
            time := now + dupHoldTime
            retransmitted := retransmits msg srcAddr node.state
            ifaceList := tuple.ifaceList ++ [localIface] }) (fun _ => rfl) (fun _ => rfl)
        exact written.trans (congrArg (base + ·) recorded'.symm)
    | none =>
        rw [← search] at found
        exact written.trans (congrArg (base + ·)
          (recorded_addDupTuple addr seqNum found now _ localIface).symm)

/-! ## Packets -/

theorem recvMsg_wellKept (ran : recvMsg config now iface srcAddr node msg = .ok node')
    (kept : WellKept config node.state) : WellKept config node'.state := by
  rcases recvMsg_stages ran with ⟨_, rfl⟩ | ⟨considered, processed, processing, rfl⟩
  · exact kept
  · have same := processUnlessDuplicated_sameDups processing
    split
    · rw [← same.findDupTuple]
      refine forwardDefault_wellKept ?_ (kept.same same)
      simp only [not_or, Bool.not_eq_true] at considered
      exact considered.2
    · exact kept.same same

theorem recvMsg_accounted (foreign : config.isLocalAddress addr = false)
    (ran : recvMsg config now iface srcAddr node msg = .ok node')
    (accounted : Accounted addr seqNum base node) : Accounted addr seqNum base node' := by
  rcases recvMsg_stages ran with ⟨_, rfl⟩ | ⟨_, processed, processing, rfl⟩
  · exact accounted
  · have same := processUnlessDuplicated_sameDups processing
    split
    · rw [← same.findDupTuple]
      exact forwardDefault_accounted (accounted.same same foreign)
    · exact accounted.same same foreign

theorem recvOlsr_wellKept {pkt : Pkt}
    (ran : recvOlsr config now iface srcAddr pkt node = .ok node')
    (kept : WellKept config node.state) : WellKept config node'.state := by
  rcases recvOlsr_stages ran with ⟨_, rfl⟩ | ⟨handled, loop, table⟩
  · exact kept
  · have processed : WellKept config handled.state :=
      foldlM_seen loop (fun _ node => WellKept config node.state) kept
        fun _ msg node node' _ holds ran => recvMsg_wellKept ran holds
    exact processed.same (recomputeRtable_sameDups table)

theorem recvOlsr_accounted {pkt : Pkt} (foreign : config.isLocalAddress addr = false)
    (ran : recvOlsr config now iface srcAddr pkt node = .ok node')
    (accounted : Accounted addr seqNum base node) : Accounted addr seqNum base node' := by
  rcases recvOlsr_stages ran with ⟨_, rfl⟩ | ⟨handled, loop, table⟩
  · exact accounted
  · have processed : Accounted addr seqNum base handled :=
      foldlM_seen loop (fun _ node => Accounted addr seqNum base node) accounted
        fun _ msg node node' _ holds ran => recvMsg_accounted foreign ran holds
    exact processed.same (recomputeRtable_sameDups table) foreign

theorem recvMsg_duplicate (ran : recvMsg config now iface srcAddr node msg = .ok node')
    (duplicated : (node.state.findDupTuple msg.origAddr msg.msgSeqNum).isSome) :
    node'.state.topologyset = node.state.topologyset ∧
      node'.state.ifaceassocset = node.state.ifaceassocset := by
  rcases recvMsg_stages ran with ⟨_, rfl⟩ | ⟨_, processed, processing, rfl⟩
  · exact ⟨rfl, rfl⟩
  · obtain ⟨tuple, found⟩ := Option.isSome_iff_exists.mp duplicated
    rw [found] at processing
    cases processing
    split
    · obtain ⟨_, _, _, _, _, _, written⟩ := forwardDefault_writes config now msg
        (node.state.findDupTuple msg.origAddr msg.msgSeqNum) iface.addr srcAddr node
      rw [written]
      exact ⟨rfl, rfl⟩
    · exact ⟨rfl, rfl⟩

/-! ## Timers and link failures -/

theorem expireTimer_dups {timer : Timer} (ran : expireTimer config now timer node = .ok node') :
    SameDups config node node' ∨ ∃ tuple, node' = node.rmDupTuple tuple := by
  cases timer with
  | hello =>
      obtain ⟨sent, sending, scheduled⟩ := bind_ok.mp ran
      rw [← Except.ok.inj scheduled]
      exact .inl ((sendHello_sameDups sending).trans (sameDups_of_history rfl rfl))
  | tc =>
      obtain ⟨sent, sending, scheduled⟩ := bind_ok.mp ran
      rw [← Except.ok.inj scheduled]
      have same : SameDups config node sent := by
        split at sending
        · exact sendTc_sameDups sending
        · exact Except.ok.inj sending ▸ SameDups.refl config node
      exact .inl (same.trans (sameDups_of_history rfl rfl))
  | mid =>
      simp only [expireTimer] at ran
      split at ran
      · exact .inl (Except.ok.inj ran ▸ SameDups.refl config node)
      · rw [← Except.ok.inj ran]
        exact .inl ((sendMid_sameDups config now node).trans (sameDups_of_history rfl rfl))
  | msg =>
      rw [← Except.ok.inj ran]
      exact .inl (sendPkts_sameDups config _ node)
  | dup id =>
      obtain ⟨tuple, found, ⟨_, rfl⟩ | ⟨_, rfl⟩⟩ := expireTuple_ok ran
      · exact .inr ⟨tuple, rfl⟩
      · exact .inl (sameDups_of_history rfl rfl)
  | link id firstTime =>
      unfold expireTimer expireLink at ran
      dsimp only at ran
      split at ran
      · cases ran
      · split at ran
        · rw [← Except.ok.inj ran]
          exact .inl (sameDups_of_history rfl rfl)
        · split at ran
          · obtain ⟨lost, loss, scheduled⟩ := bind_ok.mp ran
            rw [← Except.ok.inj scheduled]
            have same : SameDups config node lost := by
              cases firstTime with
              | true => exact Except.ok.inj loss ▸ SameDups.refl config node
              | false => exact nbLoss_sameDups loss
            exact .inl (same.trans (sameDups_of_history rfl rfl))
          · rw [← Except.ok.inj ran]
            exact .inl (sameDups_of_history rfl rfl)
  | mprsel id =>
      obtain ⟨tuple, found, ⟨_, rfl⟩ | ⟨_, rfl⟩⟩ := expireTuple_ok ran
      · exact .inl (rmMprselTuple_sameDups tuple)
      · exact .inl (sameDups_of_history rfl rfl)
  | nb2hop id | topology id | ifaceAssoc id =>
      obtain ⟨tuple, found, ⟨_, rfl⟩ | ⟨_, rfl⟩⟩ := expireTuple_ok ran
      · exact .inl (sameDups_of_history rfl rfl)
      · exact .inl (sameDups_of_history rfl rfl)

theorem macFailed_sameDups {destAddr : NsAddr}
    (ran : macFailed config now destAddr node = .ok node') : SameDups config node node' := by
  unfold macFailed at ran
  split at ran
  · exact Except.ok.inj ran ▸ SameDups.refl config node
  · split at ran
    · exact Except.ok.inj ran ▸ SameDups.refl config node
    · split at ran
      · exact Except.ok.inj ran ▸ SameDups.refl config node
      · have lost := nbLoss_sameDups ran
        exact ⟨lost.dupset, lost.copies⟩

theorem stepWith_dups {event : Event}
    (quiet : ∀ iface srcAddr pkt, event ≠ .recv iface srcAddr pkt)
    (ran : stepWith recvOlsr config now event node = .ok node') :
    SameDups config node node' ∨
      ∃ tuple : DupTuple, node'.history = node.history ∧ node'.state.dupset =
        node.state.dupset.eraseP fun other => other.id = tuple.id := by
  cases event with
  | recv iface srcAddr pkt => exact absurd rfl (quiet iface srcAddr pkt)
  | timer =>
      cases queue : node.timerQueue with
      | nil =>
          simp only [stepWith, queue] at ran
          exact .inl (Except.ok.inj ran ▸ SameDups.refl config node)
      | cons first rest =>
          simp only [stepWith, queue] at ran
          rcases expireTimer_dups ran with same | ⟨tuple, rfl⟩
          · exact .inl ⟨same.dupset, same.copies⟩
          · exact .inr ⟨tuple, rfl, rfl⟩
  | linkBreak destAddr =>
      simp only [stepWith] at ran
      split at ran
      · exact .inl (macFailed_sameDups ran)
      · exact .inl (Except.ok.inj ran ▸ SameDups.refl config node)

theorem WellKept.erase (kept : WellKept config node.state) (erased : DupTuple → Bool)
    (dupset : node'.state.dupset = node.state.dupset.eraseP erased) :
    WellKept config node'.state where
  unique := by
    rw [dupset]
    exact nodup_eraseP kept.unique erased
  foreign tuple member := by
    rw [dupset] at member
    exact kept.foreign tuple (List.mem_of_mem_eraseP member)

theorem WellKept.findDupTuple (kept : WellKept config state) {tuple : DupTuple}
    (member : tuple ∈ state.dupset) :
    state.findDupTuple tuple.addr tuple.seqNum = some tuple := by
  have found := find?_key kept.unique member
  simpa only [State.findDupTuple, dupKey, Prod.mk.injEq] using found

theorem findDupTuple_some {tuple : DupTuple} (found : state.findDupTuple addr seqNum = some tuple) :
    tuple ∈ state.dupset ∧ tuple.addr = addr ∧ tuple.seqNum = seqNum := by
  refine ⟨List.mem_of_find?_eq_some found, ?_⟩
  simpa using List.find?_some found

theorem Accounted.erase (kept : WellKept config node.state)
    (accounted : Accounted addr seqNum base node) (erased : DupTuple → Bool)
    (history : node'.history = node.history)
    (dupset : node'.state.dupset = node.state.dupset.eraseP erased)
    (present : (node'.state.findDupTuple addr seqNum).isSome) :
    Accounted addr seqNum base node' := by
  obtain ⟨tuple, found⟩ := Option.isSome_iff_exists.mp present
  obtain ⟨member, rfl, rfl⟩ := findDupTuple_some found
  rw [dupset] at member
  have before := kept.findDupTuple (List.mem_of_mem_eraseP member)
  have same : copies tuple.addr tuple.seqNum node' = copies tuple.addr tuple.seqNum node := by
    simp only [copies, history]
  rw [Accounted, same, accounted]
  simp only [recorded, found, before]

theorem stepWith_wellKept {event : Event}
    (ran : stepWith recvOlsr config now event node = .ok node')
    (kept : WellKept config node.state) : WellKept config node'.state := by
  cases event with
  | recv iface srcAddr pkt => exact recvOlsr_wellKept ran kept
  | timer | linkBreak destAddr =>
      rcases stepWith_dups (fun _ _ _ same => by cases same) ran with same | ⟨tuple, _, dupset⟩
      · exact kept.same same
      · exact kept.erase _ dupset

end

theorem reached_wellKept {config : Config} {condition : Int → Event → Node → Prop} {clock : Int}
    {node : Node} (reached : Reached recvOlsr config condition clock node) :
    WellKept config node.state := by
  induction reached with
  | initial start maxTime => exact ⟨by simp [initialNode, Node.schedule], by
      simp [initialNode, Node.schedule]⟩
  | step _ _ _ ran ih => exact stepWith_wellKept ran ih

/-! ## The lifetime of a duplicate tuple -/

/-- The runs from the event that creates the tuple of a message on, for as long as the
tuple exists. -/
inductive Held (config : Config) (addr : NsAddr) (seqNum : Nat) (start : Node) :
    Int → Node → Prop where
  | created {clock now : Int} {event : Event} {node : Node}
      (absent : start.state.findDupTuple addr seqNum = none)
      (enabled : Enabled config clock now event start)
      (ran : stepWith recvOlsr config now event start = .ok node)
      (present : (node.state.findDupTuple addr seqNum).isSome) :
      Held config addr seqNum start now node
  | kept {clock now : Int} {event : Event} {node node' : Node}
      (before : Held config addr seqNum start clock node)
      (enabled : Enabled config clock now event node)
      (ran : stepWith recvOlsr config now event node = .ok node')
      (present : (node'.state.findDupTuple addr seqNum).isSome) :
      Held config addr seqNum start now node'

theorem Held.accounted {config : Config} {addr : NsAddr} {seqNum : Nat} {start node : Node}
    {clock : Int} (held : Held config addr seqNum start clock node)
    (kept : WellKept config start.state) :
    WellKept config node.state ∧ config.isLocalAddress addr = false ∧
      Accounted addr seqNum (copies addr seqNum start) node := by
  have foreign : ∀ node : Node, WellKept config node.state →
      (node.state.findDupTuple addr seqNum).isSome → config.isLocalAddress addr = false := by
    intro node kept present
    obtain ⟨tuple, found⟩ := Option.isSome_iff_exists.mp present
    obtain ⟨member, rfl, rfl⟩ := findDupTuple_some found
    exact kept.foreign tuple member
  have stepped : ∀ (now : Int) (event : Event) (node node' : Node), WellKept config node.state →
      config.isLocalAddress addr = false → Accounted addr seqNum (copies addr seqNum start) node →
      stepWith recvOlsr config now event node = .ok node' →
      (node'.state.findDupTuple addr seqNum).isSome →
      Accounted addr seqNum (copies addr seqNum start) node' := by
    intro now event node node' kept foreign accounted ran present
    cases event with
    | recv iface srcAddr pkt => exact recvOlsr_accounted foreign ran accounted
    | timer | linkBreak destAddr =>
        rcases stepWith_dups (fun _ _ _ same => by cases same) ran with same | ⟨tuple, history, dupset⟩
        · exact accounted.same same foreign
        · exact accounted.erase kept _ history dupset present
  induction held with
  | created absent enabled ran present =>
      have after := stepWith_wellKept ran kept
      have base : Accounted addr seqNum (copies addr seqNum start) start := by
        simp [Accounted, recorded, absent]
      exact ⟨after, foreign _ after present,
        stepped _ _ _ _ kept (foreign _ after present) base ran present⟩
  | kept _ enabled ran present ih =>
      obtain ⟨kept, elsewhere, accounted⟩ := ih
      exact ⟨stepWith_wellKept ran kept, elsewhere,
        stepped _ _ _ _ kept elsewhere accounted ran present⟩

/-- No two duplicate tuples have the same key; from the event that creates a tuple until
it expires at most one copy of its message is enqueued; and a copy received while it
exists leaves the topology and the interface associations alone. -/
theorem message_handledOnce {config : Config} {clock : Int} {node : Node}
    (reached : Reached recvOlsr config (fun _ _ _ => True) clock node) :
    (node.state.dupset.map dupKey).Nodup ∧
    (∀ (addr : NsAddr) (seqNum : Nat) (later : Int) (node' : Node), Held config addr seqNum node later node' →
      copies addr seqNum node' ≤ copies addr seqNum node + 1) ∧
    (∀ (now : Int) (iface : Iface) (srcAddr : NsAddr) (before : List Msg) (msg : Msg)
      (handled node' : Node),
      before.foldlM (recvMsg config now iface srcAddr) node = .ok handled →
      (handled.state.findDupTuple msg.origAddr msg.msgSeqNum).isSome →
      recvMsg config now iface srcAddr handled msg = .ok node' →
      node'.state.topologyset = handled.state.topologyset ∧
        node'.state.ifaceassocset = handled.state.ifaceassocset) := by
  have kept := reached_wellKept reached
  refine ⟨kept.unique, ?_, ?_⟩
  · intro addr seqNum later node' held
    have accounted := (held.accounted kept).2.2
    have bound : recorded addr seqNum node'.state ≤ 1 := by
      unfold recorded
      split
      · split
        · exact le_refl 1
        · exact Nat.zero_le 1
      · exact Nat.zero_le 1
    unfold Accounted at accounted
    omega
  · intro now iface srcAddr before msg handled node' _ duplicated ran
    exact recvMsg_duplicate ran duplicated

def relayedTc : Event :=
  .recv { index := 0, addr := 1 } 2 {
    pktSeqNum := 1
    msgs := [{
      vtime := 134
      origAddr := 3
      ttl := 254
      hopCount := 1
      msgSeqNum := 7
      body := .tc { ansn := 0, nbMainAddrs := [2] } }] }

/-- A selector relays a message: one copy is enqueued while its tuple exists. -/
theorem message_handledOnce_relayed :
    ∃ node node' later, Held oneIfaceConfig 3 7 node later node' ∧
      copies 3 7 node' = 1 ∧ copies 3 7 node' ≤ copies 3 7 node + 1 := by
  obtain ⟨clock, node, reached, checked⟩ := exists_reached_of_runOf recvOlsr
    (fun _ _ _ => true) [(Time.second, receiveHello 2 2 0 134 10)]
    (fun current =>
      isEnabled oneIfaceConfig (fun _ _ _ => true) current.1 (2 * Time.second) relayedTc
        current.2 && (current.2.state.findDupTuple 3 7).isNone &&
        (stepWith recvOlsr oneIfaceConfig (2 * Time.second) relayedTc current.2).toOption.any
          fun node' => (node'.state.findDupTuple 3 7).isSome && copies 3 7 node' == 1)
    (by decide +kernel)
  simp only [Bool.and_eq_true, Option.isNone_iff_eq_none] at checked
  obtain ⟨⟨enabled, absent⟩, forwarded⟩ := checked
  cases ran : stepWith recvOlsr oneIfaceConfig (2 * Time.second) relayedTc node with
  | error fault => simp [ran, Except.toOption] at forwarded
  | ok node' =>
      simp only [ran, Except.toOption, Option.any_some, Bool.and_eq_true, beq_iff_eq]
        at forwarded
      have held : Held oneIfaceConfig 3 7 node (2 * Time.second) node' :=
        .created absent (enabled_of_isEnabled enabled).1 ran forwarded.1
      exact ⟨node, node', 2 * Time.second, held, forwarded.2,
        (message_handledOnce (reached.weaken fun _ _ _ _ => trivial)).2.1 3 7 _ node' held⟩

end SyncFanet.Olsr
