import SyncFanet.Xmac.Armings

/-!
# What a step does to the packet at the front of the queue

Each step of the X-MAC layer leaves the queue, the attempts and the data frames alone, or
does one of the few things that a packet goes through between the queue and the radio.
-/

set_option autoImplicit false

namespace SyncFanet.Xmac

@[simp] def MacState.sending : MacState → Bool
  | .sendData | .sendData2 | .waitTxDataOver | .waitAck => true
  | _ => false

/-- The data frames handed to the radio. -/
def Mac.dataSent (mac : Mac) : Nat := mac.sentDown.countP (·.kind = .data)

/-- What concerns the packets that the layer sends. -/
structure Packets where
  macState : MacState
  macQueue : List XMacPkt
  txAttempts : Int
  lastDataPktDestAddr : MACAddress
  dataSent : Nat
  linkBreaks : List XMacPkt

def Mac.packets (mac : Mac) : Packets where
  macState := mac.macState
  macQueue := mac.macQueue
  txAttempts := mac.txAttempts
  lastDataPktDestAddr := mac.lastDataPktDestAddr
  dataSent := mac.dataSent
  linkBreaks := mac.linkBreaks

structure Kept (before after : Packets) : Prop where
  queue : after.macQueue = before.macQueue
  attempts : after.txAttempts = before.txAttempts
  sent : after.dataSent = before.dataSent
  breaks : after.linkBreaks = before.linkBreaks

structure Resting (before after : Packets) : Prop where
  kept : Kept before after
  calm : after.macState.sending = false

abbrev Rests (mac next : Mac) : Prop := Resting mac.packets next.packets

/-- The event is an ACK from the given address. -/
def Event.acknowledges (event : Event) (address : MACAddress) : Bool :=
  match event with
  | .lower ⟨.ack, pkt⟩ false => pkt.srcAddr = address
  | _ => false

/-- The event is an early ACK2 for the node. -/
def Event.answers (event : Event) (params : Params) : Bool :=
  match event with
  | .lower ⟨.ack2, pkt⟩ false => pkt.destAddr = params.address
  | _ => false

/-- The message that the event brings to `handleSelfMessage`. Frames that were put back are
data frames. -/
def Event.Brings (event : Event) : Message → Prop
  | .self timer => event = .self timer
  | .frame frame => frame.kind = .data ∨ event = .lower frame false

inductive Progress (params : Params) (event : Event) (before after : Packets) : Prop where
  | rests (calm : before.macState.sending = false) (resting : Resting before after)
  | stays (kept : Kept before after) (state : after.macState = before.macState)
      (dest : after.lastDataPktDestAddr = before.lastDataPktDestAddr)
  | queued (pkt : XMacPkt) (queue : after.macQueue = before.macQueue ++ [pkt])
      (attempts : after.txAttempts = before.txAttempts) (sent : after.dataSent = before.dataSent)
      (breaks : after.linkBreaks = before.linkBreaks) (state : after.macState = before.macState)
      (dest : after.lastDataPktDestAddr = before.lastDataPktDestAddr)
  | preamblesOver (ended : event = .self .stopPreambles) (calm : before.macState.sending = false)
      (state : after.macState = .sendData) (queue : after.macQueue = before.macQueue)
      (attempts : after.txAttempts = 1) (sent : after.dataSent = before.dataSent)
      (breaks : after.linkBreaks = before.linkBreaks)
  | answered (waits : before.macState = .waitAck2) (answers : event.answers params = true)
      (state : after.macState = .sendData2) (kept : Kept before after)
  | sends (ready : before.macState = .sendData ∨ before.macState = .sendData2)
      (state : after.macState = .waitTxDataOver) (queue : after.macQueue = before.macQueue)
      (dest : before.macQueue.head?.map XMacPkt.destAddr = some after.lastDataPktDestAddr)
      (attempts : after.txAttempts = before.txAttempts) (sent : after.dataSent = before.dataSent + 1)
      (breaks : after.linkBreaks = before.linkBreaks)
  | transmitted (ready : before.macState = .waitTxDataOver) (state : after.macState = .waitAck)
      (kept : Kept before after) (dest : after.lastDataPktDestAddr = before.lastDataPktDestAddr)
  | finished (ready : before.macState = .waitTxDataOver)
      (unacknowledged : params.useMacAcks = false ∨ before.lastDataPktDestAddr.isBroadcast = true)
      (state : after.macState = .sleep) (pkt : XMacPkt)
      (queue : before.macQueue = pkt :: after.macQueue) (sent : after.dataSent = before.dataSent)
      (breaks : after.linkBreaks = before.linkBreaks)
  | retried (waits : before.macState = .waitAck) (left : before.txAttempts < params.maxTxAttempts)
      (state : after.macState = .sendPreamble) (queue : after.macQueue = before.macQueue)
      (attempts : after.txAttempts = before.txAttempts + 1) (sent : after.dataSent = before.dataSent)
      (breaks : after.linkBreaks = before.linkBreaks)
  | dropped (waits : before.macState = .waitAck) (timeout : event = .self .ackTimeout)
      (spent : ¬ before.txAttempts < params.maxTxAttempts) (state : after.macState = .sleep)
      (pkt : XMacPkt) (queue : before.macQueue = pkt :: after.macQueue)
      (sent : after.dataSent = before.dataSent) (breaks : after.linkBreaks = before.linkBreaks ++ [pkt])
  | acknowledged (waits : before.macState = .waitAck)
      (acknowledges : event.acknowledges before.lastDataPktDestAddr = true)
      (state : after.macState = .sleep) (pkt : XMacPkt)
      (queue : before.macQueue = pkt :: after.macQueue) (sent : after.dataSent = before.dataSent)
      (breaks : after.linkBreaks = before.linkBreaks)

abbrev Progresses (params : Params) (event : Event) (mac next : Mac) : Prop :=
  Progress params event mac.packets next.packets

namespace Mac

variable {params : Params} {now : Time} {rand : ℚ} {mac : Mac}

variable {msg : Message} {pkt : XMacPkt} {prevMacState : MacState}

/-! ## States that do not send -/

theorem contend_rests :
    Guarded AnyFault (Rests mac) (mac.contend params now rand prevMacState pkt) := by
  apply partial_scheduleAt
  exact ⟨⟨rfl, rfl, rfl, rfl⟩, rfl⟩

theorem contend_cancel_rests :
    Guarded AnyFault (Rests mac) (do
      let next ← mac.contend params now rand prevMacState pkt
      .ok (next.cancelEvent .ccaTimeout)) := by
  rw [guarded_bind]
  apply partial_scheduleAt
  exact ⟨⟨rfl, rfl, rfl, rfl⟩, rfl⟩

theorem dataWithoutPreamble_rests :
    Guarded AnyFault (Rests mac) (mac.dataWithoutPreamble params now prevMacState pkt) := by
  unfold dataWithoutPreamble
  rw [guarded_bind]
  apply partial_scheduleAt
  exact ⟨⟨rfl, rfl, rfl, rfl⟩, rfl⟩

theorem handleInit_rests (msg : Message) :
    Guarded AnyFault (Rests mac) (mac.handleInit params now rand msg) := by
  unfold handleInit
  split
  · rw [guarded_bind]
    apply partial_setRadioMode
    intro radio
    apply partial_scheduleAt
    exact ⟨⟨rfl, rfl, rfl, rfl⟩, rfl⟩
  · exact trivial

theorem handleSleep_rests (msg : Message) :
    Guarded AnyFault (Rests mac) (mac.handleSleep params now msg) := by
  unfold handleSleep
  split
  · rw [guarded_bind]
    apply partial_scheduleAt
    rw [guarded_bind]
    apply partial_setRadioMode
    intro radio
    exact ⟨⟨rfl, rfl, rfl, rfl⟩, rfl⟩
  · exact trivial

theorem handleCcaTimeout_rests (calm : mac.macState.sending = false) :
    Guarded AnyFault (Rests mac) (mac.handleCcaTimeout params now rand) := by
  unfold handleCcaTimeout
  split
  · exact partial_sleepAt fun _ => ⟨⟨rfl, rfl, rfl, rfl⟩, rfl⟩
  · split
    · rw [guarded_bind]
      apply partial_setRadioMode
      intro radio
      apply partial_scheduleAt
      exact ⟨⟨rfl, rfl, rfl, rfl⟩, rfl⟩
    · apply partial_scheduleAt
      exact ⟨⟨rfl, rfl, rfl, rfl⟩, calm⟩

theorem handleCca_rests (calm : mac.macState.sending = false) (msg : Message) :
    Guarded AnyFault (Rests mac) (mac.handleCca params now rand msg) := by
  unfold handleCca
  split
  · exact handleCcaTimeout_rests calm
  · split
    · split
      · apply partial_setRadioMode
        intro radio
        exact ⟨⟨rfl, rfl, rfl, rfl⟩, rfl⟩
      · exact partial_sleepAt fun _ => ⟨⟨rfl, rfl, rfl, rfl⟩, rfl⟩
    · split
      · exact contend_cancel_rests
      · exact ⟨⟨rfl, rfl, rfl, rfl⟩, rfl⟩
  · exact dataWithoutPreamble_rests
  · exact ⟨⟨rfl, rfl, rfl, rfl⟩, calm⟩
  · exact ⟨⟨rfl, rfl, rfl, rfl⟩, rfl⟩
  · exact trivial

theorem handleCcaLost_rests (calm : mac.macState.sending = false) (msg : Message) :
    Guarded AnyFault (Rests mac) (mac.handleCcaLost params now rand msg) := by
  unfold handleCcaLost
  split
  · exact partial_sleepAt fun _ => ⟨⟨rfl, rfl, rfl, rfl⟩, rfl⟩
  · split
    · exact contend_cancel_rests
    · exact ⟨⟨rfl, rfl, rfl, rfl⟩, calm⟩
  · exact dataWithoutPreamble_rests
  · exact ⟨⟨rfl, rfl, rfl, rfl⟩, calm⟩
  · exact ⟨⟨rfl, rfl, rfl, rfl⟩, calm⟩
  · exact trivial

theorem handleCca2_rests (calm : mac.macState.sending = false) (msg : Message) :
    Guarded AnyFault (Rests mac) (mac.handleCca2 params now rand msg) := by
  unfold handleCca2
  split
  · apply partial_setRadioMode
    intro radio
    exact ⟨⟨rfl, rfl, rfl, rfl⟩, rfl⟩
  · split
    · exact partial_sleepAt fun _ => ⟨⟨rfl, rfl, rfl, rfl⟩, rfl⟩
    · exact ⟨⟨rfl, rfl, rfl, rfl⟩, calm⟩
  · exact ⟨⟨rfl, rfl, rfl, rfl⟩, calm⟩
  · dsimp only
    split
    · exact ⟨⟨rfl, rfl, rfl, rfl⟩, rfl⟩
    · rw [guarded_bind]
      apply partial_scheduleAt
      exact ⟨⟨rfl, rfl, rfl, rfl⟩, rfl⟩
  · exact ⟨⟨rfl, rfl, rfl, rfl⟩, calm⟩
  · exact partial_sleepSoon fun _ _ => ⟨⟨rfl, rfl, rfl, rfl⟩, rfl⟩
  · exact trivial

theorem handleSendPreambleTxEnd_rests (msg : Message) :
    Guarded AnyFault (Rests mac) (mac.handleSendPreambleTxEnd msg) := by
  unfold handleSendPreambleTxEnd
  split
  · apply partial_setRadioMode
    intro radio
    exact ⟨⟨rfl, rfl, rfl, rfl⟩, rfl⟩
  · exact trivial

theorem handleData_rests (pkt : XMacPkt) :
    Guarded AnyFault (Rests mac) (mac.handleData params now rand pkt) := by
  unfold handleData
  dsimp only
  split
  · apply partial_setRadioMode
    intro radio
    exact ⟨⟨rfl, rfl, rfl, rfl⟩, rfl⟩
  · split
    · exact partial_sleepSoon fun _ _ => ⟨⟨rfl, rfl, rfl, rfl⟩, rfl⟩
    · rw [guarded_bind]
      apply partial_scheduleAt
      exact ⟨⟨rfl, rfl, rfl, rfl⟩, rfl⟩

theorem handleWaitData_rests (calm : mac.macState.sending = false) (msg : Message) :
    Guarded AnyFault (Rests mac) (mac.handleWaitData params now rand msg) := by
  unfold handleWaitData
  split
  · dsimp only
    split
    · split
      · exact contend_rests
      · exact ⟨⟨rfl, rfl, rfl, rfl⟩, calm⟩
    · exact ⟨⟨rfl, rfl, rfl, rfl⟩, calm⟩
  · exact ⟨⟨rfl, rfl, rfl, rfl⟩, calm⟩
  · exact ⟨⟨rfl, rfl, rfl, rfl⟩, calm⟩
  · exact handleData_rests _
  · exact partial_sleepSoon fun _ _ => ⟨⟨rfl, rfl, rfl, rfl⟩, rfl⟩
  · exact trivial

theorem sendDown_dataSent {frame : Frame} (other : frame.kind ≠ .data) :
    (mac.sendDown frame).dataSent = mac.dataSent := by
  simp [dataSent, sendDown, other]

theorem handleSendAck_rests (msg : Message) :
    Guarded AnyFault (Rests mac) (mac.handleSendAck params msg) := by
  unfold handleSendAck
  split
  · exact ⟨⟨rfl, rfl, sendDown_dataSent nofun, rfl⟩, rfl⟩
  · exact trivial

theorem handleWaitAckTx_rests (msg : Message) :
    Guarded AnyFault (Rests mac) (mac.handleWaitAckTx params now rand msg) := by
  unfold handleWaitAckTx
  split
  · exact partial_sleepSoon fun _ _ => ⟨⟨rfl, rfl, rfl, rfl⟩, rfl⟩
  · exact trivial

theorem handleSendAck2_rests (msg : Message) :
    Guarded AnyFault (Rests mac) (mac.handleSendAck2 params msg) := by
  unfold handleSendAck2
  split
  · exact ⟨⟨rfl, rfl, sendDown_dataSent nofun, rfl⟩, rfl⟩
  · exact trivial

theorem handleWaitAck2Tx_rests (msg : Message) :
    Guarded AnyFault (Rests mac) (mac.handleWaitAck2Tx params now msg) := by
  unfold handleWaitAck2Tx
  split
  · rw [guarded_bind]
    apply partial_setRadioMode
    intro radio
    split
    · exact ⟨⟨rfl, rfl, rfl, rfl⟩, rfl⟩
    · apply partial_scheduleAt
      exact ⟨⟨rfl, rfl, rfl, rfl⟩, rfl⟩
  · exact trivial

/-! ## States that send -/

variable {event : Event}

theorem progresses_of_rests {computation : Except Fault Mac} (calm : mac.macState.sending = false)
    (rests : Guarded AnyFault (Rests mac) computation) :
    Guarded AnyFault (Progresses params event mac) computation :=
  rests.mono fun _ => .rests calm

theorem handleSendPreamble_progresses (brings : event.Brings msg)
    (state : mac.macState = .sendPreamble) :
    Guarded AnyFault (Progresses params event mac) (mac.handleSendPreamble params now msg) := by
  have calm : mac.macState.sending = false := by rw [state]; rfl
  unfold handleSendPreamble
  split
  · apply progresses_of_rests calm
    unfold front
    split
    · exact trivial
    · rw [guarded_bind, guarded_ok, guarded_bind]
      apply partial_scheduleAt
      exact ⟨⟨rfl, rfl, sendDown_dataSent nofun, rfl⟩, rfl⟩
  · exact .preamblesOver brings calm rfl rfl rfl rfl rfl
  · exact trivial

theorem handleSendData_progresses (state : mac.macState = .sendData ∨ mac.macState = .sendData2) :
    Guarded AnyFault (Progresses params event mac) (mac.handleSendData msg) := by
  have sent : Guarded AnyFault (Progresses params event mac)
      (mac.handleSendData (.self .resendData)) := by
    simp only [handleSendData, sendDataPacket, front]
    cases queue : mac.macQueue with
    | nil => exact trivial
    | cons pkt rest =>
        refine .sends state rfl queue.symm ?_ rfl ?_ rfl
        · simp [packets, queue, sendDown]
        · simp [packets, dataSent, sendDown]
  unfold handleSendData
  split
  · exact sent
  · exact sent
  · exact trivial

theorem handleWaitTxDataOver_progresses (state : mac.macState = .waitTxDataOver) :
    Guarded AnyFault (Progresses params event mac)
      (mac.handleWaitTxDataOver params now rand msg) := by
  unfold handleWaitTxDataOver
  split
  · split
    case isTrue =>
      rw [guarded_bind]
      apply partial_setRadioMode
      intro radio
      apply partial_scheduleAt
      exact .transmitted state rfl ⟨rfl, rfl, rfl, rfl⟩ rfl
    case isFalse unacknowledged =>
      have done : params.useMacAcks = false ∨ mac.lastDataPktDestAddr.isBroadcast = true := by
        cases acks : params.useMacAcks with
        | false => exact .inl rfl
        | true => simpa [acks] using unacknowledged
      apply partial_leaveQueue
      intro pkt rest queue radio time
      exact .finished state done rfl pkt queue rfl rfl
  · exact trivial

theorem handleWaitAck_progresses (brings : event.Brings msg) (state : mac.macState = .waitAck) :
    Guarded AnyFault (Progresses params event mac) (mac.handleWaitAck params now rand msg) := by
  unfold handleWaitAck
  split
  · split
    case isTrue left =>
      rw [guarded_bind]
      apply partial_scheduleAt
      apply partial_setRadioMode
      intro radio
      exact .retried state left rfl rfl rfl rfl rfl
    case isFalse spent =>
      unfold front
      cases queue : mac.macQueue with
      | nil => exact trivial
      | cons pkt rest =>
          rw [guarded_bind, guarded_ok]
          apply partial_leaveQueue
          intro other remaining same radio time
          cases same
          exact .dropped state brings spent rfl pkt queue rfl rfl
  · exact .stays ⟨rfl, rfl, rfl, rfl⟩ rfl rfl
  · exact .stays ⟨rfl, rfl, rfl, rfl⟩ rfl rfl
  · exact .stays ⟨rfl, rfl, rfl, rfl⟩ rfl rfl
  · split
    case isTrue same =>
      have acknowledges : event.acknowledges mac.lastDataPktDestAddr = true := by
        rcases brings with data | received
        · cases data
        · rw [received]
          exact decide_eq_true same
      apply partial_leaveQueue
      intro pkt rest queue radio time
      exact .acknowledged state acknowledges rfl pkt queue rfl rfl
    case isFalse => exact .stays ⟨rfl, rfl, rfl, rfl⟩ rfl rfl
  · exact trivial

theorem lostContention_rests (pkt : XMacPkt) :
    Guarded AnyFault (Rests mac) (mac.lostContention params now pkt) := by
  unfold lostContention
  dsimp only
  split
  · apply partial_setRadioMode
    intro radio
    exact ⟨⟨rfl, rfl, rfl, rfl⟩, rfl⟩
  · split
    · apply partial_scheduleAt
      exact ⟨⟨rfl, rfl, rfl, rfl⟩, rfl⟩
    · exact ⟨⟨rfl, rfl, rfl, rfl⟩, rfl⟩

theorem handleWaitAck2_progresses (brings : event.Brings msg) (state : mac.macState = .waitAck2) :
    Guarded AnyFault (Progresses params event mac) (mac.handleWaitAck2 params now msg) := by
  have calm : mac.macState.sending = false := by rw [state]; rfl
  unfold handleWaitAck2
  split
  · apply partial_setRadioMode
    intro radio
    exact .rests calm ⟨⟨rfl, rfl, rfl, rfl⟩, rfl⟩
  · rw [guarded_bind]
    apply partial_setRadioMode
    intro radio
    exact .preamblesOver brings calm rfl rfl rfl rfl rfl
  · split
    · exact progresses_of_rests calm (lostContention_rests _)
    · exact .stays ⟨rfl, rfl, rfl, rfl⟩ rfl rfl
  · exact .stays ⟨rfl, rfl, rfl, rfl⟩ rfl rfl
  · exact .stays ⟨rfl, rfl, rfl, rfl⟩ rfl rfl
  · split
    case isTrue => exact .stays ⟨rfl, rfl, rfl, rfl⟩ rfl rfl
    case isFalse own =>
      have answers : event.answers params = true := by
        rcases brings with data | received
        · cases data
        · rw [received]
          exact decide_eq_true (not_not.mp own)
      apply partial_setRadioMode
      intro radio
      exact .answered state answers rfl ⟨rfl, rfl, rfl, rfl⟩
  · exact trivial

/-! ## Every step -/

theorem handleInState_progresses (brings : event.Brings msg) :
    Guarded AnyFault (Progresses params event mac) (mac.handleInState params now rand msg) := by
  unfold handleInState
  cases state : mac.macState
  case sendPreamble => exact handleSendPreamble_progresses brings state
  case sendData => exact handleSendData_progresses (.inl state)
  case sendData2 => exact handleSendData_progresses (.inr state)
  case waitTxDataOver => exact handleWaitTxDataOver_progresses state
  case waitAck => exact handleWaitAck_progresses brings state
  case waitAck2 => exact handleWaitAck2_progresses brings state
  all_goals
    have calm : mac.macState.sending = false := by rw [state]; rfl
    apply progresses_of_rests calm
  case init => exact handleInit_rests msg
  case sleep => exact handleSleep_rests msg
  case cca => exact handleCca_rests calm msg
  case ccaLost => exact handleCcaLost_rests calm msg
  case cca2 => exact handleCca2_rests calm msg
  case sendPreambleTxEnd => exact handleSendPreambleTxEnd_rests msg
  case waitData => exact handleWaitData_rests calm msg
  case sendAck => exact handleSendAck_rests msg
  case waitAckTx => exact handleWaitAckTx_rests msg
  case sendAck2 => exact handleSendAck2_rests msg
  case waitAck2Tx => exact handleWaitAck2Tx_rests msg

theorem handleSelfMessage_progresses (brings : event.Brings msg) :
    Guarded AnyFault (Progresses params event mac)
      (mac.handleSelfMessage params now rand msg) := by
  obtain ⟨pendingPreambles, noted⟩ := notePreamble_eq params mac msg
  unfold handleSelfMessage
  rw [noted]
  exact handleInState_progresses brings

theorem handleUpperPacket_progresses (msg : NetwPkt) :
    Guarded AnyFault (Progresses params event mac)
      (mac.handleUpperPacket params now rand msg) := by
  unfold handleUpperPacket addToQueue
  cases full : decide (params.queueLength ≤ mac.macQueue.length) with
  | true =>
      rw [if_pos (of_decide_eq_true full)]
      exact .stays ⟨rfl, rfl, rfl, rfl⟩ rfl rfl
  | false =>
      rw [if_neg (of_decide_eq_false full)]
      dsimp only
      split
      · apply partial_scheduleAt
        exact .queued (encapsMsg params msg) rfl rfl rfl rfl rfl rfl
      · exact .queued (encapsMsg params msg) rfl rfl rfl rfl rfl rfl

end Mac

theorem XmacRun.perform_progresses {params : Params} {run : XmacRun} {input : Input} {mac : Mac}
    (performed : run.perform .whenAwaited params input = .ok mac) :
    Progresses params input.event run.mac mac := by
  have guarded : Guarded Mac.AnyFault (Progresses params input.event run.mac)
      (run.perform .whenAwaited params input) := by
    obtain ⟨time, rand, event⟩ := input
    cases event with
    | upper msg => exact Mac.handleUpperPacket_progresses msg
    | lower frame bitError =>
        cases bitError with
        | true => exact .stays ⟨rfl, rfl, rfl, rfl⟩ rfl rfl
        | false => exact Mac.handleSelfMessage_progresses (.inr rfl)
    | self timer =>
        exact @Mac.handleSelfMessage_progresses params time rand (run.mac.cancelEvent timer)
          (.self timer) (.self timer) rfl
    | putBack =>
        simp only [perform]
        split
        · exact .stays ⟨rfl, rfl, rfl, rfl⟩ rfl rfl
        · rename_i pkt rest queue
          exact @Mac.handleSelfMessage_progresses params time rand
            { run.mac with putBack := rest } (.frame ⟨.data, pkt⟩) .putBack (.inl rfl)
    | radio event => exact .stays ⟨rfl, rfl, rfl, rfl⟩ rfl rfl
  exact guarded.of_ok performed

end SyncFanet.Xmac
