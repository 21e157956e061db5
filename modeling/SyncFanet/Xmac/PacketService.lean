import SyncFanet.Xmac.HandledEvents
import SyncFanet.Xmac.Progress

/-!
# How X-MAC serves its packets

A record of what entered and left the queue, with the data frames that each packet was
handed to the radio in. The attempt counter starts at one after the preambles, also when
the packet was sent before, and does not start anew after an early ACK2.
-/

set_option autoImplicit false

namespace SyncFanet.Xmac

/-- A packet that left the queue: the data frames that were sent for it, the signals that
its link is broken, and whether an ACK from its destination made it leave. -/
structure Departure where
  packet : XMacPkt
  transmissions : Nat
  linkBreaks : Nat
  acknowledged : Bool

/-- What an observer of the queue and the radio writes down. The counts are those since the
last departure. -/
structure Journal where
  accepted : List XMacPkt
  departed : List Departure
  transmissions : Nat
  linkBreaks : Nat

namespace Journal

def empty : Journal := ⟨[], [], 0, 0⟩

def record (journal : Journal) (event : Event) (before after : Packets) : Journal :=
  let transmissions := journal.transmissions + (after.dataSent - before.dataSent)
  let linkBreaks := journal.linkBreaks + (after.linkBreaks.length - before.linkBreaks.length)
  if after.macQueue.length < before.macQueue.length then
    { accepted := journal.accepted
      departed := journal.departed ++ before.macQueue.head?.toList.map fun packet =>
        { packet := packet
          transmissions := transmissions
          linkBreaks := linkBreaks
          acknowledged := event.acknowledges packet.destAddr }
      transmissions := 0
      linkBreaks := 0 }
  else
    { accepted := journal.accepted ++ after.macQueue.drop before.macQueue.length
      departed := journal.departed
      transmissions := transmissions
      linkBreaks := linkBreaks }

def recordStep (journal : Journal) (step : Step) : Journal :=
  journal.record step.input.event step.before.mac.packets step.after.mac.packets

def ofSteps (steps : List Step) : Journal := steps.foldl recordStep empty

end Journal

/-! ## What is promised -/

/-- A unicast packet left because of an ACK, or after as many transmissions as allowed and
with one signal that the link is broken. -/
def Departure.Served (params : Params) (departure : Departure) : Prop :=
  departure.packet.destAddr.isBroadcast = false →
    departure.transmissions ≤ params.maxTxAttempts ∧
      (departure.acknowledged = true ∧ departure.linkBreaks = 0 ∨
        departure.acknowledged = false ∧ departure.transmissions = params.maxTxAttempts ∧
          departure.linkBreaks = 1)

/-- Packets leave in the order in which they came, each once and served, and the packet at
the front was not sent too often. -/
structure ServesPackets (params : Params) (journal : Journal) (mac : Mac) : Prop where
  inOrder : journal.accepted = journal.departed.map Departure.packet ++ mac.macQueue
  served : ∀ departure ∈ journal.departed, departure.Served params
  front : ∀ pkt ∈ mac.macQueue.head?, pkt.destAddr.isBroadcast = false →
    journal.transmissions ≤ params.maxTxAttempts

/-- The end of the preambles comes for a unicast packet that was not sent before. An early
ACK2 for such a packet finds the attempt counter at one. -/
def CountsRight (params : Params) (journal : Journal) (packets : Packets) (event : Event) :
    Prop :=
  ∀ pkt ∈ packets.macQueue.head?, pkt.destAddr.isBroadcast = false →
    (event = .self .stopPreambles → journal.transmissions = 0) ∧
    (packets.macState = .waitAck2 → event.answers params = true → journal.transmissions = 0 →
      packets.txAttempts = 1)

instance (params : Params) (journal : Journal) (packets : Packets) (event : Event) :
    Decidable (CountsRight params journal packets event) :=
  inferInstanceAs (Decidable (∀ pkt ∈ packets.macQueue.head?, _ → (_ → _) ∧ (_ → _ → _ → _)))

/-- Every step counts right, after what the journal says of those before. -/
def CountRight (params : Params) : Journal → List Step → Prop
  | _, [] => True
  | journal, step :: steps =>
      CountsRight params journal step.before.mac.packets step.input.event ∧
        CountRight params (journal.recordStep step) steps

instance CountRight.decidable (params : Params) :
    ∀ (journal : Journal) (steps : List Step), Decidable (CountRight params journal steps)
  | _, [] => inferInstanceAs (Decidable True)
  | journal, step :: steps =>
      have := CountRight.decidable params (journal.recordStep step) steps
      inferInstanceAs (Decidable (_ ∧ _))

/-! ## The invariant -/

def MacState.Counts (params : Params) (state : MacState) (transmissions : Nat)
    (txAttempts : Int) : Prop :=
  match state with
  | .sendData | .sendData2 =>
      (transmissions : Int) + 1 = txAttempts ∧ txAttempts ≤ params.maxTxAttempts
  | .waitTxDataOver | .waitAck =>
      (transmissions : Int) = txAttempts ∧ txAttempts ≤ params.maxTxAttempts
  | _ => transmissions = 0 ∨
      (transmissions : Int) + 1 = txAttempts ∧ txAttempts ≤ params.maxTxAttempts

structure Serving (params : Params) (journal : Journal) (packets : Packets) : Prop where
  inOrder : journal.accepted = journal.departed.map Departure.packet ++ packets.macQueue
  served : ∀ departure ∈ journal.departed, departure.Served params
  unbroken : journal.linkBreaks = 0
  idle : packets.macQueue = [] → journal.transmissions = 0
  counts : ∀ pkt ∈ packets.macQueue.head?, pkt.destAddr.isBroadcast = false →
    packets.macState.Counts params journal.transmissions packets.txAttempts
  dest : packets.macState = .waitTxDataOver ∨ packets.macState = .waitAck →
    packets.macQueue.head?.map XMacPkt.destAddr = some packets.lastDataPktDestAddr

variable {params : Params} {journal : Journal} {before after : Packets} {event : Event}

theorem MacState.Counts.le {state : MacState} {transmissions : Nat} {txAttempts : Int}
    (positive : 1 ≤ params.maxTxAttempts)
    (counts : state.Counts params transmissions txAttempts) :
    (transmissions : Int) ≤ params.maxTxAttempts := by
  cases state <;> simp only [MacState.Counts] at counts <;> omega

theorem MacState.counts_calm {state : MacState} {transmissions : Nat} {txAttempts : Int}
    (calm : state.sending = false) :
    state.Counts params transmissions txAttempts ↔
      transmissions = 0 ∨
        (transmissions : Int) + 1 = txAttempts ∧ txAttempts ≤ params.maxTxAttempts := by
  cases state <;> first | exact Iff.rfl | cases calm

/-! ## One step -/

theorem record_kept (queue : after.macQueue = before.macQueue)
    (sent : after.dataSent = before.dataSent) (breaks : after.linkBreaks = before.linkBreaks) :
    journal.record event before after = journal := by
  simp [Journal.record, queue, sent, breaks]

theorem record_departed {pkt : XMacPkt} (queue : before.macQueue = pkt :: after.macQueue)
    (sent : after.dataSent = before.dataSent) :
    journal.record event before after =
      { accepted := journal.accepted
        departed := journal.departed ++ [{
          packet := pkt
          transmissions := journal.transmissions
          linkBreaks :=
            journal.linkBreaks + (after.linkBreaks.length - before.linkBreaks.length)
          acknowledged := event.acknowledges pkt.destAddr }]
        transmissions := 0
        linkBreaks := 0 } := by
  simp [Journal.record, queue, sent]

namespace Serving

theorem keep (serving : Serving params journal before)
    (queue : after.macQueue = before.macQueue) (sent : after.dataSent = before.dataSent)
    (breaks : after.linkBreaks = before.linkBreaks)
    (counts : ∀ pkt ∈ before.macQueue.head?, pkt.destAddr.isBroadcast = false →
      before.macState.Counts params journal.transmissions before.txAttempts →
      after.macState.Counts params journal.transmissions after.txAttempts)
    (dest : after.macState = .waitTxDataOver ∨ after.macState = .waitAck →
      before.macQueue.head?.map XMacPkt.destAddr = some after.lastDataPktDestAddr) :
    Serving params (journal.record event before after) after := by
  rw [record_kept queue sent breaks]
  constructor
  · rw [queue]
    exact serving.inOrder
  · exact serving.served
  · exact serving.unbroken
  · rw [queue]
    exact serving.idle
  · rw [queue]
    intro pkt first unicast
    exact counts pkt first unicast (serving.counts pkt first unicast)
  · rw [queue]
    exact dest

theorem depart {pkt : XMacPkt} (serving : Serving params journal before)
    (queue : before.macQueue = pkt :: after.macQueue) (sent : after.dataSent = before.dataSent)
    (state : after.macState = .sleep)
    (served : Departure.Served params {
      packet := pkt
      transmissions := journal.transmissions
      linkBreaks := journal.linkBreaks + (after.linkBreaks.length - before.linkBreaks.length)
      acknowledged := event.acknowledges pkt.destAddr }) :
    Serving params (journal.record event before after) after := by
  rw [record_departed queue sent]
  constructor
  · simp [serving.inOrder, queue]
  · intro departure among
    rcases List.mem_append.mp among with earlier | last
    · exact serving.served departure earlier
    · obtain rfl := List.mem_singleton.mp last
      exact served
  · rfl
  · exact fun _ => rfl
  · intro first _ _
    rw [state]
    exact .inl rfl
  · rw [state]
    rintro (waits | waits) <;> cases waits

theorem enqueue {pkt : XMacPkt} (serving : Serving params journal before)
    (holds : before.macState.sends = true → before.macQueue ≠ [])
    (queue : after.macQueue = before.macQueue ++ [pkt])
    (attempts : after.txAttempts = before.txAttempts) (sent : after.dataSent = before.dataSent)
    (breaks : after.linkBreaks = before.linkBreaks) (state : after.macState = before.macState)
    (dest : after.lastDataPktDestAddr = before.lastDataPktDestAddr) :
    Serving params (journal.record event before after) after := by
  have recorded : journal.record event before after =
      { journal with accepted := journal.accepted ++ [pkt] } := by
    simp [Journal.record, queue, sent, breaks]
  rw [recorded]
  constructor
  · simp [serving.inOrder, queue]
  · exact serving.served
  · exact serving.unbroken
  · rw [queue]
    intro none
    cases List.append_eq_nil_iff.mp none |>.2
  · rw [queue, state, attempts]
    intro first among unicast
    cases queued : before.macQueue with
    | nil =>
        -- the packet is the first one, and no state sends without a packet
        have calm : before.macState.sending = false := by
          cases state : before.macState <;> first
            | rfl
            | exact absurd queued (holds (by rw [state]; rfl))
        rw [MacState.counts_calm calm]
        exact .inl (serving.idle queued)
    | cons head rest =>
        rw [queued] at among
        exact serving.counts first (by rw [queued]; exact among) unicast
  · rw [state, dest, queue]
    intro waits
    have front := serving.dest waits
    cases queued : before.macQueue with
    | nil =>
        rw [queued] at front
        cases front
    | cons head rest =>
        rw [queued] at front
        exact front

theorem transmit (serving : Serving params journal before)
    (ready : before.macState = .sendData ∨ before.macState = .sendData2)
    (state : after.macState = .waitTxDataOver) (queue : after.macQueue = before.macQueue)
    (dest : before.macQueue.head?.map XMacPkt.destAddr = some after.lastDataPktDestAddr)
    (attempts : after.txAttempts = before.txAttempts)
    (sent : after.dataSent = before.dataSent + 1)
    (breaks : after.linkBreaks = before.linkBreaks) :
    Serving params (journal.record event before after) after := by
  have recorded : journal.record event before after =
      { journal with transmissions := journal.transmissions + 1 } := by
    simp [Journal.record, queue, sent, breaks]
  rw [recorded]
  constructor
  · rw [queue]
    exact serving.inOrder
  · exact serving.served
  · exact serving.unbroken
  · rw [queue]
    intro none
    rw [none] at dest
    cases dest
  · rw [queue, state, attempts]
    intro pkt first unicast
    have counts := serving.counts pkt first unicast
    rcases ready with ready | ready
    · rw [ready] at counts
      exact counts
    · rw [ready] at counts
      exact counts
  · rw [queue]
    exact fun _ => dest

theorem step (positive : 1 ≤ params.maxTxAttempts) (acks : params.useMacAcks = true)
    (serving : Serving params journal before)
    (holds : before.macState.sends = true → before.macQueue ≠ [])
    (right : CountsRight params journal before event)
    (progress : Progress params event before after) :
    Serving params (journal.record event before after) after := by
  cases progress with
  | rests calm resting =>
      obtain ⟨⟨queue, attempts, sent, breaks⟩, rested⟩ := resting
      apply serving.keep queue sent breaks
      · intro pkt _ _ counts
        rwa [attempts, MacState.counts_calm rested, ← MacState.counts_calm calm]
      · intro waits
        rcases waits with state | state <;> rw [state] at rested <;> cases rested
  | stays kept state dest =>
      apply serving.keep kept.queue kept.sent kept.breaks
      · intro pkt _ _ counts
        rwa [state, kept.attempts]
      · rw [state, dest]
        exact serving.dest
  | queued pkt queue attempts sent breaks state dest =>
      exact serving.enqueue holds queue attempts sent breaks state dest
  | preamblesOver ended calm state queue attempts sent breaks =>
      apply serving.keep queue sent breaks
      · intro pkt first unicast _
        rw [state, attempts, (right pkt first unicast).1 ended]
        exact ⟨rfl, positive⟩
      · rw [state]
        rintro (waits | waits) <;> cases waits
  | answered waits answers state kept =>
      apply serving.keep kept.queue kept.sent kept.breaks
      · intro pkt first unicast counts
        rw [waits, MacState.counts_calm rfl] at counts
        rw [state, kept.attempts]
        show (journal.transmissions : Int) + 1 = before.txAttempts ∧ _
        rcases counts with fresh | counted
        · rw [fresh, (right pkt first unicast).2 waits answers fresh]
          exact ⟨rfl, positive⟩
        · exact counted
      · rw [state]
        rintro (waits | waits) <;> cases waits
  | sends ready state queue dest attempts sent breaks =>
      exact serving.transmit ready state queue dest attempts sent breaks
  | transmitted ready state kept dest =>
      apply serving.keep kept.queue kept.sent kept.breaks
      · intro pkt _ _ counts
        rw [ready] at counts
        rw [state, kept.attempts]
        exact counts
      · intro _
        rw [dest]
        exact serving.dest (.inl ready)
  | finished ready unacknowledged state pkt queue sent breaks =>
      apply serving.depart queue sent state
      intro unicast
      have dest := serving.dest (.inl ready)
      rw [queue] at dest
      rcases unacknowledged with off | broadcast
      · rw [acks] at off
        cases off
      · rw [← Option.some.inj dest] at broadcast
        rw [broadcast] at unicast
        cases unicast
  | retried waits left state queue attempts sent breaks =>
      apply serving.keep queue sent breaks
      · intro pkt _ _ counts
        rw [waits] at counts
        rw [state, attempts, MacState.counts_calm rfl]
        obtain ⟨counted, -⟩ := counts
        right
        constructor <;> omega
      · rw [state]
        rintro (waits | waits) <;> cases waits
  | dropped waits timeout spent state pkt queue sent breaks =>
      apply serving.depart queue sent state
      intro unicast
      have counts := serving.counts pkt (by rw [queue]; rfl) unicast
      rw [waits] at counts
      obtain ⟨counted, bounded⟩ := counts
      have all : (journal.transmissions : Int) = params.maxTxAttempts := by omega
      refine ⟨all.le, .inr ⟨by rw [timeout]; rfl, all, ?_⟩⟩
      simp [serving.unbroken, breaks]
  | acknowledged waits acknowledges state pkt queue sent breaks =>
      apply serving.depart queue sent state
      intro unicast
      have counts := serving.counts pkt (by rw [queue]; rfl) unicast
      have dest := serving.dest (.inr waits)
      rw [queue] at dest
      refine ⟨counts.le positive, .inl ⟨?_, ?_⟩⟩
      · rw [← Option.some.inj dest] at acknowledges
        exact acknowledges
      · simp [serving.unbroken, breaks]

end Serving

/-! ## Runs -/

theorem countRight_concat {step : Step} {steps : List Step} :
    CountRight params journal (steps ++ [step]) ↔
      CountRight params journal steps ∧
        CountsRight params (steps.foldl Journal.recordStep journal) step.before.mac.packets
          step.input.event := by
  induction steps generalizing journal with
  | nil => simp [CountRight]
  | cons first steps ih =>
      rw [List.cons_append, CountRight, ih, CountRight, List.foldl_cons, and_assoc]

theorem Run.serving {steps : List Step} {run : XmacRun} (positive : 1 ≤ params.maxTxAttempts)
    (acks : params.useMacAcks = true) (reached : Run .whenAwaited params steps run)
    (right : CountRight params .empty steps) :
    Serving params (.ofSteps steps) run.mac.packets := by
  induction reached with
  | start =>
      constructor
      · rfl
      · nofun
      · rfl
      · exact fun _ => rfl
      · nofun
      · rintro (waits | waits) <;> cases waits
  | @step steps run input mac earlier possible performed ih =>
      obtain ⟨before, now⟩ := countRight_concat.mp right
      have recorded : Journal.ofSteps (steps ++ [⟨run, input, ⟨input.time, mac⟩⟩]) =
          (Journal.ofSteps steps).record input.event run.mac.packets mac.packets := by
        simp [Journal.ofSteps, Journal.recordStep]
      rw [recorded]
      exact (ih before).step positive acks earlier.armed.queue now
        (XmacRun.perform_progresses performed)

/-- In a run whose steps count right, every packet is served. -/
theorem packets_served {steps : List Step} {run : XmacRun} (positive : 1 ≤ params.maxTxAttempts)
    (acks : params.useMacAcks = true) (reached : Run .whenAwaited params steps run)
    (right : CountRight params .empty steps) :
    ServesPackets params (.ofSteps steps) run.mac := by
  have serving := reached.serving positive acks right
  refine ⟨serving.inOrder, serving.served, fun pkt first unicast => ?_⟩
  exact (serving.counts pkt first unicast).le positive

def withAcks : Params where
  address := 1
  queueLength := 20
  slotDuration := 1
  checkInterval := 1 / 100
  useMacAcks := true
  maxTxAttempts := 2
  xmac := false

def sendsOnce : List Input :=
  [⟨0, 0, .upper ⟨2, 7⟩⟩, ⟨0, 0, .self .startXmac⟩, ⟨0, 0, .radio .switched⟩,
    ⟨0, 0, .self .wakeup⟩, ⟨0, 0, .radio .switched⟩, ⟨1 / 100, 0, .self .ccaTimeout⟩,
    ⟨1 / 100, 0, .radio .switched⟩, ⟨101 / 100, 0, .self .stopPreambles⟩,
    ⟨101 / 100, 0, .self .resendData⟩, ⟨101 / 100, 0, .radio .transmissionStarted⟩,
    ⟨102 / 100, 0, .radio .transmissionEnded⟩, ⟨102 / 100, 0, .self .dataTxOver⟩,
    ⟨102 / 100, 0, .radio .switched⟩]

def acknowledgedRun : List Input :=
  sendsOnce ++ [⟨1025 / 1000, 0, .lower ⟨.ack, 2, 1, 0, [], none⟩ false⟩]

theorem acknowledgedRun_isSome : (simulate .whenAwaited withAcks acknowledgedRun).isSome := by
  decide +kernel

theorem packets_served_acknowledged :
    ServesPackets withAcks
      (.ofSteps ((simulate .whenAwaited withAcks acknowledgedRun).get acknowledgedRun_isSome).1)
      ((simulate .whenAwaited withAcks acknowledgedRun).get acknowledgedRun_isSome).2.mac :=
  packets_served (by decide) rfl (simulate_run (Option.some_get acknowledgedRun_isSome).symm)
    (by decide +kernel)

def sendsThrice : List Input :=
  sendsOnce ++
    [⟨103 / 100, 0, .self .ackTimeout⟩, ⟨103 / 100, 0, .radio .switched⟩,
      ⟨203 / 100, 0, .self .stopPreambles⟩, ⟨203 / 100, 0, .self .resendData⟩,
      ⟨203 / 100, 0, .radio .transmissionStarted⟩, ⟨204 / 100, 0, .radio .transmissionEnded⟩,
      ⟨204 / 100, 0, .self .dataTxOver⟩, ⟨204 / 100, 0, .radio .switched⟩,
      ⟨205 / 100, 0, .self .ackTimeout⟩, ⟨205 / 100, 0, .radio .switched⟩,
      ⟨305 / 100, 0, .self .stopPreambles⟩, ⟨305 / 100, 0, .self .resendData⟩]

theorem sendsThrice_isSome : (simulate .whenAwaited withAcks sendsThrice).isSome := by
  decide +kernel

theorem packet_sent_thrice :
    ∃ (params : Params) (steps : List Step) (run : XmacRun),
      1 ≤ params.maxTxAttempts ∧ params.useMacAcks = true ∧
        Run .whenAwaited params steps run ∧
        ¬ ServesPackets params (.ofSteps steps) run.mac := by
  refine ⟨withAcks, _, _, by decide, rfl,
    simulate_run (Option.some_get sendsThrice_isSome).symm, fun serves => ?_⟩
  have bounded := serves.front (Mac.encapsMsg withAcks ⟨2, 7⟩) (by decide +kernel) (by decide +kernel)
  revert bounded
  decide +kernel

end SyncFanet.Xmac
