import SyncFanet.Olsr.Flooding

/-!
# Timers and messages that stay

What happens at an agent leaves its timers in the queue and its messages in the buffer, and adds
only messages about the topology. Its HELLO timer adds a HELLO, and the timers of the buffer
send everything that is in it.
-/

set_option autoImplicit false

namespace SyncFanet.Olsr

variable {config : Config} {now : Int} {node node' : Node}

/-! ## Output that grows -/

/-- A message that tells nothing about links or interfaces. -/
def Msg.AboutTopology (msg : Msg) : Prop :=
  (∀ hello, msg.body ≠ .hello hello) ∧ ∀ mid, msg.body ≠ .mid mid

/-- The timers and messages are still there, and no packet was sent. -/
structure OutputGrows (node node' : Node) : Prop where
  queue : node.timerQueue ⊆ node'.timerQueue
  msgs : ∃ more, node'.msgs = node.msgs ++ more ∧ ∀ msg ∈ more, msg.AboutTopology
  history : ∃ more, node'.history = node.history ++ more ∧ more.filterMap Action.packet = []

namespace OutputGrows

theorem of_same (queue : node'.timerQueue = node.timerQueue) (msgs : node'.msgs = node.msgs)
    (history : node'.history = node.history) : OutputGrows node node' where
  queue := queue ▸ List.Subset.refl _
  msgs := ⟨[], by rw [msgs, List.append_nil], List.forall_mem_nil _⟩
  history := ⟨[], by rw [history, List.append_nil], rfl⟩

theorem refl (node : Node) : OutputGrows node node := of_same rfl rfl rfl

theorem trans {node'' : Node} (left : OutputGrows node node') (right : OutputGrows node' node'') :
    OutputGrows node node'' where
  queue := List.Subset.trans left.queue right.queue
  msgs := by
    obtain ⟨more, first, about⟩ := left.msgs
    obtain ⟨more', second, about'⟩ := right.msgs
    refine ⟨more ++ more', by rw [second, first, List.append_assoc], ?_⟩
    intro msg member
    rcases List.mem_append.mp member with old | new
    · exact about msg old
    · exact about' msg new
  history := by
    obtain ⟨more, first, silent⟩ := left.history
    obtain ⟨more', second, silent'⟩ := right.history
    exact ⟨more ++ more', by rw [second, first, List.append_assoc],
      by rw [List.filterMap_append, silent, silent', List.append_nil]⟩

theorem packetsSent (grows : OutputGrows node node') : packetsSent node node' = [] := by
  obtain ⟨more, same, silent⟩ := grows.history
  rw [Olsr.packetsSent, same, List.drop_left]
  exact silent

theorem schedule (node : Node) (key : Int) (timer : Timer) :
    OutputGrows node (node.schedule key timer) where
  queue _ member := mem_insertTimer.mpr (.inr member)
  msgs := ⟨[], by rw [List.append_nil]; rfl, List.forall_mem_nil _⟩
  history := ⟨[], by rw [List.append_nil]; rfl, rfl⟩

theorem record (node : Node) {action : Action} (silent : action.packet = none) :
    OutputGrows node (node.record action) where
  queue := List.Subset.refl _
  msgs := ⟨[], by rw [List.append_nil]; rfl, List.forall_mem_nil _⟩
  history := ⟨[action], rfl, by simp [silent]⟩

theorem enqueMsg (config : Config) (now : Int) (node : Node) {msg : Msg}
    (about : msg.AboutTopology) : OutputGrows node (node.enqueMsg config now msg) where
  queue _ member := mem_insertTimer.mpr (.inr member)
  msgs := ⟨[msg], rfl, List.forall_mem_singleton.mpr about⟩
  history := ⟨[.enqueued msg], rfl, rfl⟩

end OutputGrows

variable {msg : Msg} {index : Nat} {senderIface : NsAddr}

theorem outputGrows_of_insert {key : Int} {timer : Timer}
    (queue : node'.timerQueue = insertTimer key timer node.timerQueue)
    (msgs : node'.msgs = node.msgs) (history : node'.history = node.history) :
    OutputGrows node node' where
  queue _ member := queue ▸ mem_insertTimer.mpr (.inr member)
  msgs := ⟨[], by rw [msgs, List.append_nil], List.forall_mem_nil _⟩
  history := ⟨[], by rw [history, List.append_nil], rfl⟩

/-! ## HELLOs and TCs -/

theorem linkSensingWith_output {knownUpdated : Bool} {vtime : Nat} {hello : Hello}
    {receiverIface : NsAddr} {changed : Bool}
    (ran : linkSensingWith knownUpdated config now vtime hello receiverIface senderIface index
      node = .ok (node', changed)) : OutputGrows node node' := by
  rcases linkSensingWith_cases ran with ⟨_, _, _, _, rfl⟩ | ⟨_, _, _, _, _, _, _, rfl⟩
  · exact .of_same rfl rfl rfl
  · exact outputGrows_of_insert rfl rfl rfl

theorem populateAddr_output (config : Config) (now validity : Int) (origAddr : NsAddr)
    (nbType : Nat) (acc : Node × Bool) (addr : NsAddr) :
    OutputGrows acc.1 (populateAddr config now validity origAddr nbType acc addr).1 := by
  unfold populateAddr
  dsimp only
  split
  · split
    · exact .refl acc.1
    · split
      · exact outputGrows_of_insert rfl rfl rfl
      · exact .of_same rfl rfl rfl
  · split
    · exact .of_same rfl rfl rfl
    · exact .refl acc.1

theorem populateSelector_output (config : Config) (now validity : Int) (origAddr : NsAddr)
    (node : Node) (addr : NsAddr) :
    OutputGrows node (populateSelector config now validity origAddr node addr) := by
  unfold populateSelector
  split
  · split
    · exact (OutputGrows.record node rfl).trans (outputGrows_of_insert rfl rfl rfl)
    · exact .of_same rfl rfl rfl
  · exact .refl node

theorem recomputeMprs_output (ran : node.recomputeMprs config = .ok node') :
    OutputGrows node node' := by
  obtain ⟨_, _, rfl⟩ := recomputeMprs_writes ran
  exact .of_same rfl rfl rfl

theorem recomputeRtable_output (ran : node.recomputeRtable now = .ok node') :
    OutputGrows node node' := by
  obtain ⟨_, _, rfl⟩ := recomputeRtable_writes ran
  exact .of_same rfl rfl rfl

theorem processHello_output {hello : Hello} {receiverIface : NsAddr}
    (ran : processHello config now msg hello receiverIface senderIface index node = .ok node') :
    OutputGrows node node' := by
  obtain ⟨sensed, populated, computed, _, _, first, second, third, fourth⟩ :=
    processHello_stages ran
  have willing : OutputGrows sensed (sensed.mapState (populateNbset hello msg.origAddr)) :=
    .of_same rfl rfl rfl
  have hops : OutputGrows (sensed.mapState (populateNbset hello msg.origAddr)) populated := by
    have all := congrArg Prod.fst (populateNb2hopsetWith_ok second)
    dsimp only at all
    rw [all]
    refine populateAll_keeps (fun acc => OutputGrows (sensed.mapState _) acc.1) (.refl _) ?_
    intro acc grows group _ addr _
    exact grows.trans (populateAddr_output config now _ msg.origAddr group.nbType acc _)
  have selectors : OutputGrows computed node' := by
    refine populateMprselset_keeps (OutputGrows computed) (.refl _) ?_ fourth
    intro node _ _ _ addr _ grows
    exact grows.trans (populateSelector_output config now _ msg.origAddr node addr)
  exact (((linkSensingWith_output first).trans willing).trans hops).trans
    ((recomputeMprs_output third).trans selectors)

theorem processTc_output {tc : Tc} (ran : processTc now msg tc senderIface index node = .ok node') :
    OutputGrows node node' := by
  unfold processTc at ran
  split at ran
  · exact Except.ok.inj ran ▸ .refl node
  · split at ran
    · exact Except.ok.inj ran ▸ .refl node
    · split at ran
      · cases ran
      · rw [← Except.ok.inj ran]
        refine foldl_keeps _ (OutputGrows node) (.of_same rfl rfl rfl) ?_
        intro addr node _ grows
        refine grows.trans ?_
        unfold advertise
        split
        · exact .of_same rfl rfl rfl
        · exact outputGrows_of_insert rfl rfl rfl

theorem forwardDefault_output (about : msg.AboutTopology) (dupTuple : Option DupTuple)
    (localIface srcAddr : NsAddr) :
    OutputGrows node (forwardDefault config now msg dupTuple localIface srcAddr node) := by
  unfold forwardDefault
  split
  · exact .refl node
  · dsimp only
    split
    · exact .refl node
    · have copied : OutputGrows node (if retransmits msg srcAddr node.state then
          node.enqueMsg config now { msg with ttl := msg.ttl - 1, hopCount := msg.hopCount + 1 }
          else node) := by
        split
        · exact .enqueMsg config now node about
        · exact .refl node
      split
      · exact copied.trans (.of_same rfl rfl rfl)
      · exact copied.trans (outputGrows_of_insert rfl rfl rfl)

theorem recvMsg_output {iface : Iface} {srcAddr : NsAddr} (noMid : ∀ mid, msg.body ≠ .mid mid)
    (ran : recvMsg config now iface srcAddr node msg = .ok node') : OutputGrows node node' := by
  rcases recvMsg_stages ran with ⟨_, rfl⟩ | ⟨_, processed, processing, rfl⟩
  · exact .refl _
  · have handled : OutputGrows node processed := by
      unfold processUnlessDuplicated at processing
      split at processing
      · have recorded : OutputGrows node (node.record (.processed msg.origAddr msg.msgSeqNum)) :=
          .record node rfl
        refine recorded.trans ?_
        unfold processMsg at processing
        split at processing
        · exact processHello_output processing
        · exact processTc_output processing
        · next mid body => exact absurd body (noMid mid)
        · exact Except.ok.inj processing ▸ .refl _
      · exact Except.ok.inj processing ▸ .refl node
    split
    · next forwards =>
      refine handled.trans (forwardDefault_output ⟨?_, noMid⟩ _ _ _)
      intro hello body
      simp [doForwarding, body] at forwards
    · exact handled

theorem recvOlsr_output {iface : Iface} {srcAddr : NsAddr} {pkt : Pkt}
    (noMid : ∀ msg ∈ pkt.msgs, ∀ mid, msg.body ≠ .mid mid)
    (ran : recvOlsr config now iface srcAddr pkt node = .ok node') : OutputGrows node node' := by
  rcases recvOlsr_stages ran with ⟨_, rfl⟩ | ⟨handled, loop, table⟩
  · exact .refl _
  · refine OutputGrows.trans ?_ (recomputeRtable_output table)
    refine foldlM_seen loop (fun _ node' => OutputGrows node node') (.refl node) ?_
    intro _ msg between after member grows ran
    exact grows.trans (recvMsg_output (noMid msg member) ran)

/-! ## Timers -/

theorem nbLoss_output {link : LinkTuple} (ran : nbLoss config now link node = .ok node') :
    OutputGrows node node' := by
  obtain ⟨computed, mprs, table⟩ := nbLoss_stages ran
  have erased : OutputGrows node (lossErased config now link node) := by
    unfold lossErased Node.eraseMprselTuples
    dsimp only
    split
    · refine OutputGrows.trans ?_ (.record _ rfl)
      exact .of_same rfl rfl rfl
    · exact .of_same rfl rfl rfl
  exact (erased.trans (recomputeMprs_output mprs)).trans (recomputeRtable_output table)

theorem expireLink_output {id : TupleId} {firstTime : Bool}
    (ran : expireLink config now id firstTime node = .ok node') : OutputGrows node node' := by
  obtain ⟨link, _, expiry⟩ := expireLink_ok ran
  rcases expiry with ⟨_, rfl⟩ | ⟨_, _, lost, loss, rfl⟩ | ⟨_, _, rfl⟩
  · exact .of_same rfl rfl rfl
  · rcases loss with ⟨_, rfl⟩ | ⟨_, loss⟩
    · exact .schedule _ _ _
    · exact (nbLoss_output loss).trans (.schedule _ _ _)
  · exact .schedule _ _ _

theorem rmMprselTuple_output (node : Node) (tuple : MprselTuple) :
    OutputGrows node (node.rmMprselTuple tuple) := by
  unfold Node.rmMprselTuple
  dsimp only
  split
  · refine OutputGrows.trans ?_ (.record _ rfl)
    exact .of_same rfl rfl rfl
  · exact .of_same rfl rfl rfl

theorem sendTc_output (ran : sendTc config now node = .ok node') : OutputGrows node node' := by
  obtain ⟨msg, tc, rfl, _, body, _⟩ := sendTc_ok ran
  have numbered : OutputGrows node (node.nextMsgSeq.record (.sentTc tc)) := by
    refine OutputGrows.trans ?_ (.record _ rfl)
    exact .of_same rfl rfl rfl
  exact numbered.trans (.enqueMsg config now _ ⟨by simp [body], by simp [body]⟩)

theorem expireTimer_outputGrows {timer : Timer} (noHello : timer ≠ .hello) (noMsg : timer ≠ .msg)
    (oneIface : config.ifaces.length ≤ 1) (withoutMid : config.optimizedMid = true)
    (ran : expireTimer config now timer node = .ok node') : OutputGrows node node' := by
  have again : ∀ (sent : Node) (key : Int) (timer : Timer),
      OutputGrows sent ((sent.drawJitter config).2.schedule key timer) := by
    intro sent key timer
    exact outputGrows_of_insert rfl rfl rfl
  cases timer with
  | hello => exact absurd rfl noHello
  | msg => exact absurd rfl noMsg
  | tc =>
      obtain ⟨sent, sending, scheduled⟩ := bind_ok.mp ran
      rw [← Except.ok.inj scheduled]
      refine OutputGrows.trans ?_ (again sent _ _)
      split at sending
      · exact sendTc_output sending
      · exact Except.ok.inj sending ▸ .refl node
  | mid =>
      simp only [expireTimer] at ran
      split at ran
      · exact Except.ok.inj ran ▸ .refl node
      · rw [← Except.ok.inj ran, sendMid, if_pos ⟨oneIface, withoutMid⟩]
        exact again node _ _
  | link id firstTime => exact expireLink_output ran
  | mprsel id =>
      obtain ⟨tuple, _, ⟨_, rfl⟩ | ⟨_, rfl⟩⟩ := expireTuple_ok ran
      · exact rmMprselTuple_output node tuple
      · exact .schedule _ _ _
  | dup id | nb2hop id | topology id | ifaceAssoc id =>
      obtain ⟨tuple, _, ⟨_, rfl⟩ | ⟨_, rfl⟩⟩ := expireTuple_ok ran
      · exact .of_same rfl rfl rfl
      · exact .schedule _ _ _

/-- The HELLO timer puts a HELLO into the buffer and waits again. -/
structure HelloQueued (now interval slack : Int) (msg : Msg) (node node' : Node) : Prop where
  queue : node.timerQueue ⊆ node'.timerQueue
  msgs : node'.msgs = node.msgs ++ [msg]
  silent : packetsSent node node' = []
  leaves : ∃ key, (key, .msg) ∈ node'.timerQueue ∧ key ≤ now + slack
  again : ∃ key, (key, .hello) ∈ node'.timerQueue ∧ key ≤ now + interval

theorem helloTimer_queued {interval slack : Int} (helloIval : config.helloIval ≤ interval)
    (jitter : ∀ draw, (config.jitter draw : Int) ≤ slack)
    (sending : sendHello config now node = .ok (node.nextMsgSeq.enqueMsg config now msg))
    (ran : expireTimer config now .hello node = .ok node') :
    HelloQueued now interval slack msg node node' := by
  obtain ⟨sent, sending', scheduled⟩ := bind_ok.mp ran
  rw [sending] at sending'
  cases sending'
  have msgs : node'.msgs = node.msgs ++ [msg] := by
    rw [← Except.ok.inj scheduled]
    rfl
  have history : node'.history = node.history ++ [.enqueued msg] := by
    rw [← Except.ok.inj scheduled]
    rfl
  have queue : node'.timerQueue =
      insertTimer (now + config.helloIval - (config.jitter (node.draws + 1) : Int)) .hello
        (insertTimer (now + (config.jitter node.draws : Int)) .msg node.timerQueue) := by
    rw [← Except.ok.inj scheduled]
    rfl
  refine ⟨?_, msgs, ?_, ?_, ?_⟩
  · intro entry member
    rw [queue]
    exact mem_insertTimer.mpr (.inr (mem_insertTimer.mpr (.inr member)))
  · rw [packetsSent, history, List.drop_left]
    rfl
  · refine ⟨now + (config.jitter node.draws : Int), ?_, Int.add_le_add_left (jitter node.draws) now⟩
    rw [queue]
    exact mem_insertTimer.mpr (.inr (mem_insertTimer.mpr (.inl rfl)))
  · refine ⟨now + config.helloIval - (config.jitter (node.draws + 1) : Int), ?_, by omega⟩
    rw [queue]
    exact mem_insertTimer.mpr (.inl rfl)

/-! ## The buffer -/

/-- Packets were sent with all messages of the buffer, in their order. -/
structure BufferSent (node node' : Node) : Prop where
  queue : node'.timerQueue = node.timerQueue
  empty : node'.msgs = []
  packets : (packetsSent node node').flatMap Pkt.msgs = node.msgs

theorem sendPkts_sent (numPkts : Nat) (node : Node) :
    ∃ pkts : List Pkt, (sendPkts numPkts node).history = node.history ++ pkts.map Action.sentPkt ∧
      pkts.flatMap Pkt.msgs = node.msgs.take (numPkts * maxMsgs) ∧
      (sendPkts numPkts node).msgs = node.msgs.drop (numPkts * maxMsgs) ∧
      (sendPkts numPkts node).timerQueue = node.timerQueue := by
  induction numPkts generalizing node with
  | zero => exact ⟨[], by simp [sendPkts], by simp, by simp [sendPkts], rfl⟩
  | succ numPkts ih =>
      obtain ⟨pkts, history, content, rest, queue⟩ := ih (sendOnePkt node)
      have first : (sendOnePkt node).msgs = node.msgs.drop maxMsgs := rfl
      refine ⟨{ pktSeqNum := node.nextPktSeq.pktSeq, msgs := node.msgs.take maxMsgs } :: pkts,
        ?_, ?_, ?_, queue⟩
      · rw [sendPkts, history, List.map_cons, List.append_cons]
        rfl
      · rw [List.flatMap_cons, content, first, Nat.succ_mul, Nat.add_comm, List.take_add]
      · rw [sendPkts, rest, first, List.drop_drop, Nat.succ_mul, Nat.add_comm]

theorem packet_sentPkt (pkts : List Pkt) :
    (pkts.map Action.sentPkt).filterMap Action.packet = pkts := by
  have read : Action.packet ∘ Action.sentPkt = some := rfl
  rw [List.filterMap_map, read, List.filterMap_some]

theorem sendPkt_sent (node : Node) : BufferSent node (sendPkt node) := by
  unfold sendPkt
  dsimp only
  obtain ⟨pkts, history, content, rest, queue⟩ := sendPkts_sent
    (if node.msgs.length % maxMsgs = 0 then node.msgs.length / maxMsgs
      else node.msgs.length / maxMsgs + 1) node
  have enough : node.msgs.length ≤ (if node.msgs.length % maxMsgs = 0 then
      node.msgs.length / maxMsgs else node.msgs.length / maxMsgs + 1) * maxMsgs := by
    unfold maxMsgs
    split
    · omega
    · omega
  refine ⟨queue, ?_, ?_⟩
  · rw [rest, List.drop_of_length_le enough]
  · rw [packetsSent, history, List.drop_left, packet_sentPkt, content,
      List.take_of_length_le enough]

end SyncFanet.Olsr
