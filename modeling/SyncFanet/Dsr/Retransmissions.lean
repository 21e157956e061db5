import SyncFanet.Dsr.AckRequests

/-!
# Asking again

What `maint_buf_timeout` sends for an entry that it keeps: the packet that was copied when the
entry was made, or a request of its own.
-/

set_option autoImplicit false

namespace SyncFanet.Dsr

variable {Cache : Type}

/-! ## The two ways -/

/-- `dsr_ack_req_send` for a packet, which is sent as it is. A packet without options has not
the protocol of DSR. -/
def ackReqSendPacket (dp : DsrPkt) : Except Fault (Option DSRPkt) :=
  if dp.payloadLen = 0 then .ok none
  else if dp.opth = [] then .error (.runtimeError "error in Packet, is not DSR ")
  else if dp.ttl = 0 then .ok none
  else
    .ok (some
      { src := dp.src, dst := dp.dst,
        nextAddress := if dp.dst ≠ dsrBroadcast then some dp.nxtHop else none,
        ttl := dp.ttl, payloadLen := dp.payloadLen, dsrOptions := dp.opth, costVector := [] })

/-- `dsr_ack_req_send` for a neighbour. -/
def ackReqSendNeighbor (myaddr neighAddr : InAddr) (id : Nat) : Option DSRPkt :=
  omnetXmit none
    { src := myaddr, dst := neighAddr, nxtHop := neighAddr, prvHop := 0, flags := 0, salvage := 0
      ttl := 1, payloadLen := 0, opth := [[.ackReq id]], srtOpt := none, rrepOpt := []
      srt := none, costVector := [] }

/-- What `maint_buf_timeout` sends for an entry that has asked for an acknowledgement. -/
def retransmission (retryPacket : Bool) (myaddr : InAddr) (entry : MaintEntry) :
    Except Fault (Option DSRPkt) :=
  if retryPacket then ackReqSendPacket entry.dp
  else .ok (ackReqSendNeighbor myaddr entry.nxtHop entry.id)

/-! ## When it is sent -/

/-- The states of an agent inside its events. -/
inductive MaintAgent.During (agent : MaintAgent Cache) : MaintState Cache → Prop where
  | event {s s₁ s₂ : MaintState Cache} {time : SimTime} {event : MaintEvent Cache}
      (before : agent.Reached s) (later : s.now ≤ time)
      (pending : ∀ expires ∈ s.ackTimer, time ≤ expires)
      (fired : event.fires → s.ackTimer = some time) (begins : agent.Begins event (s.at time) s₁)
      (changes : agent.Changes s₁ s₂) : During agent s₂

/-- `maint_buf_timeout` has the first entry of the buffer to send again. -/
structure Repeats (agent : MaintAgent Cache) (s : MaintState Cache) (slot : Slot) : Prop where
  idle : s.ackTimer = none
  first : s.maintBuf.head? = some slot
  due : slot.Due s.now
  again : slot.entry.rexmt + 1 < agent.maxMaintRexmt
  asked : slot.entry.ackReqSent = true

def Kept (s : MaintState Cache) : Prop :=
  ∀ slot ∈ s.maintBuf, slot.entry.dp.nxtHop = slot.entry.nxtHop

namespace Kept

variable {agent : MaintAgent Cache} {s s' : MaintState Cache}

theorem of_subset (kept : Kept s) (fewer : s'.maintBuf ⊆ s.maintBuf) : Kept s' :=
  fun slot member => kept slot (fewer member)

theorem change (kept : Kept s) (change : Change agent s s') : Kept s' := by
  cases change with
  | setTimer first waits => exact kept
  | @retransmit slot rest idle first due again =>
      intro other member
      cases MaintState.mem_maintInsert member with
      | inl same =>
          rw [same]
          exact kept slot (by simp [first])
      | inr old => exact kept other (by simp only [first]; exact List.mem_cons_of_mem _ old)
  | linkBreak cache reported idle first due exhausted given names =>
      exact kept.of_subset (by simp [first])
  | salvage cache among declared given =>
      refine kept.of_subset ?_
      rw [among]
      exact fun _ member => by
        simp only [List.mem_append, List.mem_cons] at member ⊢
        exact member.imp id .inr
  | buffer known =>
      intro other member
      cases MaintState.mem_maintInsert member with
      | inl created =>
          rw [created]
          rfl
      | inr old => exact kept other old
  | routes cache => exact kept

theorem begins {event : MaintEvent Cache} (kept : Kept s) (begins : agent.Begins event s s') :
    Kept s' := by
  cases begins with
  | @acknowledged ack mine =>
      refine kept.of_subset ?_
      cases s.acknowledge_cases ack.src ack.id with
      | inl same =>
          rw [same]
          exact List.filter_sublist.subset
      | inr updated =>
          obtain ⟨neigh, rtt, -, same⟩ := updated
          rw [same]
          exact List.filter_sublist.subset
  | linkAcknowledged => exact kept.of_subset List.filter_sublist.subset
  | routeError => exact kept.of_subset List.filter_sublist.subset
  | other | failed | neighbor | timer => exact kept

end Kept

theorem MaintAgent.During.kept {agent : MaintAgent Cache} {s : MaintState Cache}
    (during : agent.During s) : Kept s := by
  cases during with
  | @event before after _ time _ reached _ _ _ begun changes =>
      have start : Kept before := reached.keeps (fun _ _ member => by cases member)
        (fun _ _ kept => kept) (fun _ _ _ kept begun => kept.begins begun)
        (fun _ _ kept change => kept.change change)
      have moved : Kept (before.at time) := start
      exact changes.keeps (moved.begins begun) Kept.change

/-! ## Asking again -/

/-- What a retransmission owes to an entry: a message to the next hop that asks for an
acknowledgement again, with the contents of the packet if the packet is repeated. The next hop
answers it to this node, as far as the source route says so, and its answer removes the entry. -/
structure AsksAgain (agent : MaintAgent Cache) (retryPacket : Bool) (entry : MaintEntry)
    (p : DSRPkt) : Prop where
  next : p.nextAddress = some entry.nxtHop
  asks : entry.id ∈ requestIds p.dsrOptions
  same : retryPacket = true → p.src = entry.dp.src ∧ p.dst = entry.dp.dst ∧
    p.payloadLen = entry.dp.payloadLen ∧ p.dsrOptions = entry.dp.opth
  answered : ∀ handlers now node received, handlers.Silent → p.src ≠ node.myaddr →
    processDsr handlers now node p = .ok received →
    ∃ dst, Call.ackSend dst entry.id ∈ received.calls ∧
      (retryPacket = false → dst = agent.myaddr) ∧
      ∀ (opt : DsrSrtOpt) (ids : List Nat) (srt : DsrSrt),
        p.dsrOptions = [.srt opt :: ids.map .ackReq] →
        dsrSrtNew p.src p.dst opt.length opt.addrs p.costVector = .ok srt →
        dsrSrtPrevHop srt ((opt.sleft : Int) - 1) = .ok agent.myaddr → dst = agent.myaddr
  removed : ∀ s s' time, agent.Reached s →
    agent.Step s time (.ackOptRecv { id := entry.id, src := entry.nxtHop, dst := agent.myaddr }) s' →
    ∀ slot ∈ s.maintBuf, slot.entry.nxtHop = entry.nxtHop → slot.entry.id = entry.id →
      ∀ other ∈ s'.maintBuf, other.packet ≠ slot.packet

/-- The packet that is repeated has the request already, and can be sent. -/
def Asking (retryPacket : Bool) (entry : MaintEntry) : Prop :=
  if retryPacket then
    entry.id ∈ requestIds entry.dp.opth ∧ entry.dp.payloadLen ≠ 0 ∧ entry.dp.ttl ≠ 0 ∧
      entry.dp.dst ≠ dsrBroadcast
  else entry.nxtHop ≠ dsrBroadcast

section

variable {agent : MaintAgent Cache} {entry : MaintEntry} {p : DSRPkt}

theorem AsksAgain.of_request {retryPacket : Bool} (next : p.nextAddress = some entry.nxtHop)
    (asks : entry.id ∈ requestIds p.dsrOptions)
    (same : retryPacket = true → p.src = entry.dp.src ∧ p.dst = entry.dp.dst ∧
      p.payloadLen = entry.dp.payloadLen ∧ p.dsrOptions = entry.dp.opth)
    (direct : retryPacket = false → ∀ handlers now node received, handlers.Silent →
      processDsr handlers now node p = .ok received →
      ∀ dst id, Call.ackSend dst id ∈ received.calls → dst = agent.myaddr) :
    AsksAgain agent retryPacket entry p := by
  refine ⟨next, asks, same, ?_, ?_⟩
  · intro handlers now node received silent others processed
    rw [← processDsr_answers silent others processed] at asks
    obtain ⟨⟨dst, id⟩, among, rfl⟩ := List.mem_map.mp asks
    obtain ⟨call, made, answers⟩ := List.mem_filterMap.mp among
    have made : Call.ackSend dst entry.id ∈ received.calls := by
      cases call with
      | ackSend => cases answers; exact made
      | neighTblAdd | sendBufSend | discoveryCancel | gratRrepTblAdd | rrepSend => cases answers
    refine ⟨dst, made, fun off => direct off _ _ _ _ silent processed _ _ made, ?_⟩
    intro opt ids srt options route previous
    obtain ⟨srt', prvHop, route', previous', answered⟩ :=
      processDsr_answersTo options others processed
    rw [route] at route'
    cases route'
    rw [previous] at previous'
    cases previous'
    rw [answered] at among
    obtain ⟨_, -, pair⟩ := List.mem_map.mp among
    exact (congrArg Prod.fst pair).symm
  · intro s s' time reached step slot member hop id
    refine (acknowledgesExactly_covers reached rfl step slot member).2 ?_
    simp [MaintAgent.covers, hop, id]

theorem ackReqSendPacket_some {dp : DsrPkt} (sent : ackReqSendPacket dp = .ok (some p)) :
    dp.payloadLen ≠ 0 ∧ dp.opth ≠ [] ∧ dp.ttl ≠ 0 ∧ p =
      { src := dp.src, dst := dp.dst,
        nextAddress := if dp.dst ≠ dsrBroadcast then some dp.nxtHop else none,
        ttl := dp.ttl, payloadLen := dp.payloadLen, dsrOptions := dp.opth, costVector := [] } := by
  unfold ackReqSendPacket at sent
  split at sent
  · cases sent
  · next payload =>
    split at sent
    · cases sent
    · next options =>
      split at sent
      · cases sent
      · next living =>
        cases sent
        exact ⟨payload, options, living, rfl⟩

theorem ackReqSendNeighbor_some {myaddr neighAddr : InAddr} {id : Nat} :
    ackReqSendNeighbor myaddr neighAddr id = some
      { src := myaddr, dst := neighAddr,
        nextAddress := if neighAddr ≠ dsrBroadcast then some neighAddr else none,
        ttl := 1, payloadLen := 0, dsrOptions := [[.ackReq id]], costVector := [] } :=
  rfl

theorem processDsr_request {id : Nat} {handlers : Handlers} {now : SimTime} {node : Node}
    {received : Received} (options : p.dsrOptions = [[.ackReq id]])
    (processed : processDsr handlers now node p = .ok received) {dst : InAddr} {id' : Nat}
    (made : Call.ackSend dst id' ∈ received.calls) : dst = p.src := by
  have others := answers_others processed made
  obtain ⟨recv, handled, rfl⟩ := processDsr_handled others processed
  obtain ⟨headers, ran, same⟩ := bind_ok.mp handled
  cases same
  have unrouted : (dsrPktAlloc node.config.useNetworkLayerAck p).srtOpt = none := by
    simp [dsrPktAlloc, dsrOptParse, options]
  rw [show (dsrPktAlloc _ p).opth = [[.ackReq id]] from options] at ran
  obtain ⟨header, inHeader, same⟩ := bind_ok.mp ran
  cases same
  obtain ⟨first, one, later⟩ := bind_ok.mp inHeader
  cases later
  cases one
  have listed := mem_answers made
  simp only [answers_append, actLoop_answers, List.append_nil, dsrAckReqOptRecv, alloc_direct,
    Bool.false_eq_true, if_false, unrouted, if_true, Recv.map] at listed
  cases List.mem_singleton.mp listed
  rfl

/-- An entry asks again if and only if it need not repeat the packet, or the packet asked before
it was copied. -/
theorem asksAgain_iff {s : MaintState Cache} {slot : Slot} (retryPacket : Bool)
    (during : agent.During s) (repeats : Repeats agent s slot) :
    (∃ p, retransmission retryPacket agent.myaddr slot.entry = .ok (some p) ∧
        AsksAgain agent retryPacket slot.entry p) ↔
      Asking retryPacket slot.entry := by
  have kept : slot.entry.dp.nxtHop = slot.entry.nxtHop :=
    during.kept slot (List.mem_of_mem_head? repeats.first)
  cases retryPacket with
  | false =>
      rw [retransmission, if_neg Bool.false_ne_true, ackReqSendNeighbor_some]
      constructor
      · rintro ⟨p, same, asks⟩
        cases same
        have next := asks.next
        rw [Asking, if_neg Bool.false_ne_true]
        intro broadcast
        rw [if_neg (not_not.mpr broadcast)] at next
        cases next
      · intro unicast
        rw [Asking, if_neg Bool.false_ne_true] at unicast
        refine ⟨_, rfl, .of_request (if_pos unicast) (List.mem_singleton.mpr rfl)
          (fun repeated => Bool.noConfusion repeated) ?_⟩
        intro _ handlers now node received _ processed dst id made
        exact processDsr_request rfl processed made
  | true =>
      rw [retransmission, if_pos rfl, Asking, if_pos rfl]
      constructor
      · rintro ⟨p, sent, asks⟩
        obtain ⟨payload, -, living, rfl⟩ := ackReqSendPacket_some sent
        refine ⟨asks.asks, payload, living, fun broadcast => ?_⟩
        have next := asks.next
        rw [if_neg (not_not.mpr broadcast)] at next
        cases next
      · rintro ⟨asks, payload, living, unicast⟩
        have options : slot.entry.dp.opth ≠ [] := by
          intro none
          rw [none] at asks
          cases asks
        rw [ackReqSendPacket, if_neg payload, if_neg options, if_neg living]
        exact ⟨_, rfl, .of_request ((if_pos unicast).trans (congrArg some kept)) asks
          (fun _ => ⟨rfl, rfl, rfl, rfl⟩) fun off => Bool.noConfusion off⟩

end

/-! ## A packet that is not acknowledged -/

theorem exists_repeats (dp : DsrPkt) (flagged : dp.hasFlag pktRequestAck = true)
    (hop : dp.nxtHop = 2) : ∃ s slot, lonelyAgent.During s ∧ Repeats lonelyAgent s slot ∧
      slot.entry.dp = dp ∧ slot.entry.id = 1 ∧ slot.entry.nxtHop = 2 := by
  let met : MaintState Unit :=
    { (MaintState.initial ()).at 0 with neighborMap := neighTblAdd ∅ 2 }
  let slot := metNeighbor.maintEntryCreate dp neighTblCreate true
  let key : SimTime := usecs 1000000 + usecs neighTblCreate.rto
  have added : lonelyAgent.Step (.initial ()) 0 (.neighTblAdd 2) met :=
    ⟨Int.le_refl _, by simp [MaintState.initial], Bool.noConfusion, 0, rfl⟩
  have known : met.neighborMap.lookup dp.nxtHop = some neighTblCreate := by
    rw [hop]
    exact Finmap.lookup_insert _
  have sent : lonelyAgent.Step met (usecs 1000000) (.omnetXmit dp)
      ((metNeighbor.buffer lonelyAgent.maintHoldoffTime dp neighTblCreate).setTimer slot.key) :=
    MaintAgent.omnetXmit_step ((MaintAgent.Reached.start ()).step added) (by decide)
      (by simp [met, MaintState.initial, MaintState.at]) flagged known
      (by simp [met, MaintState.initial, MaintState.at])
  have reached := ((MaintAgent.Reached.start ()).step added).step sent
  have later : usecs 1000000 ≤ usecs 1 * gettime key := by decide +kernel
  have due : key ≤ usecs 1 * gettime key + earliness := by decide +kernel
  have again : 0 + 1 < lonelyAgent.maxMaintRexmt := by decide
  refine ⟨_, slot, .event reached later ?_ (fun _ => rfl) .timer .refl,
    ⟨rfl, rfl, due, again, rfl⟩, rfl, rfl, hop⟩
  rintro _ ⟨⟩
  exact Int.le_refl _

/-- Without `RetryPacket` the neighbour is asked again. -/
theorem asksAgain_iff_neighbor : ∃ s slot p, lonelyAgent.During s ∧ Repeats lonelyAgent s slot ∧
    retransmission false lonelyAgent.myaddr slot.entry = .ok (some p) ∧
    AsksAgain lonelyAgent false slot.entry p := by
  obtain ⟨s, slot, during, repeats, -, -, hop⟩ := exists_repeats neighborPkt rfl rfl
  have asking : Asking false slot.entry := by
    rw [Asking, if_neg Bool.false_ne_true, hop]
    decide
  obtain ⟨p, sent, asks⟩ := (asksAgain_iff false during repeats).mpr asking
  exact ⟨s, slot, p, during, repeats, sent, asks⟩

def sourceRouted : DsrPkt :=
  let opt : DsrSrtOpt := { length := 2, salv := 0, sleft := 0, addrs := [] }
  { neighborPkt with opth := [[.srt opt]], srtOpt := some opt }

/-- With `RetryPacket` it is repeated without a request. -/
theorem not_asksAgain :
    ¬∀ (agent : MaintAgent Unit) (retryPacket : Bool) (s : MaintState Unit) (slot : Slot),
      agent.During s → Repeats agent s slot →
      ∃ p, retransmission retryPacket agent.myaddr slot.entry = .ok (some p) ∧
        AsksAgain agent retryPacket slot.entry p := by
  intro holds
  obtain ⟨s, slot, during, repeats, packet, -, -⟩ := exists_repeats sourceRouted rfl rfl
  obtain ⟨p, sent, asks⟩ := holds lonelyAgent true s slot during repeats
  rw [retransmission, if_pos rfl, packet] at sent
  obtain ⟨-, -, -, same⟩ := ackReqSendPacket_some sent
  have carried := asks.asks
  rw [same] at carried
  exact absurd carried (List.not_mem_nil)

end SyncFanet.Dsr
