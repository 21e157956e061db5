import SyncFanet.Xmac.Layer

/-!
# The state machine of AnyMacXmacLayer

`handleSelfMessage` with one definition for each state. It gets the expired timers of the
layer, the received frames and the frames that the layer put back. `rand` is the value of
`dblrand()`, which is drawn at most once for each message.
-/

set_option autoImplicit false

namespace SyncFanet.Xmac

namespace Mac

variable (params : Params) (now : Time) (rand : ℚ)

def undefinedEvent (mac : Mac) (msg : Message) : Except Fault Mac :=
  .error (.undefinedEvent msg mac.macState)

/-- The wait for the data after a frame from the air or an ACK2 of this node. -/
def dataTimeoutAfter (mac : Mac) : Except Fault Mac :=
  mac.scheduleAt now (params.slotDuration + params.checkInterval) .dataTimeout

/-- A backoff before the ACK2 to the sender of the preamble. -/
def contend (mac : Mac) (prevMacState : MacState) (pkt : XMacPkt) : Except Fault Mac :=
  { mac with
    macState := .cca2
    prevMacState := prevMacState
    destDestAddrAck2 := pkt.srcAddr }.scheduleAt now (params.slotDuration * (1 / 10) * rand)
      .cca2Timeout

/-- The data frame came without a preamble: it is put back for WAIT_DATA. -/
def dataWithoutPreamble (mac : Mac) (prevMacState : MacState) (pkt : XMacPkt) :
    Except Fault Mac := do
  let mac ← { mac with
    macState := .waitData
    prevMacState := prevMacState }.cancelEvent .ccaTimeout |>.dataTimeoutAfter params now
  .ok { mac with putBack := mac.putBack ++ [pkt] }

def handleInit (mac : Mac) : Message → Except Fault Mac
  | .self .startXmac => do
      let mac ← mac.setRadioMode .sleep
      { mac with macState := .sleep }.scheduleAt now (rand * params.slotDuration) .wakeup
  | msg => mac.undefinedEvent msg

def handleSleep (mac : Mac) : Message → Except Fault Mac
  | .self .wakeup => do
      let mac ← mac.scheduleAt now params.checkInterval .ccaTimeout
      let mac ← mac.setRadioMode .receiver
      .ok { mac with
        macState := .cca
        pendingPreambles := ∅
        prevMacState := .sleep
        destAddressNext := .unspecified
        destDestAddrAck2 := .unspecified }
  | msg => mac.undefinedEvent msg

/-- The channel is clear. -/
def handleCcaTimeout (mac : Mac) : Except Fault Mac :=
  if mac.macQueue.isEmpty then do
    let delay :=
      if mac.prevMacState = .waitData then params.slotDuration - params.checkInterval
      else params.slotDuration
    let mac ← mac.scheduleAt now delay .wakeup
    mac.goToSleep .cca
  else if mac.prevMacState ≠ .waitData then do
    let mac ← mac.setRadioMode .transmitter
    { mac with macState := .sendPreamble, prevMacState := .cca }.scheduleAt now
      params.slotDuration .stopPreambles
  else
    -- continue a very small random period in CCA
    { mac with prevMacState := .cca }.scheduleAt now
      (params.checkInterval * rand * (1 / 2)) .ccaTimeout

/-- Every frame is an `XMacPkt`, so the branch for other preambles is never taken. -/
def handleCca (mac : Mac) : Message → Except Fault Mac
  | .self .ccaTimeout => mac.handleCcaTimeout params now rand
  | .frame ⟨.preamble, pkt⟩ =>
      if params.xmac then
        if inList params pkt then
          { mac.cancelEvent .ccaTimeout with
            macState := .sendAck2
            prevMacState := .cca }.setRadioMode .transmitter
        else do
          let mac ← (mac.cancelEvent .ccaTimeout).scheduleAt now params.slotDuration .wakeup
          mac.goToSleep .cca
      else if inList params pkt then do
        let mac ← mac.contend params now rand .cca pkt
        .ok (mac.cancelEvent .ccaTimeout)
      else .ok { mac with macState := .ccaLost, prevMacState := .cca }
  | .frame ⟨.data, pkt⟩ => mac.dataWithoutPreamble params now .cca pkt
  | .frame ⟨.ack, _⟩ => .ok mac
  -- XMAC_ACK2 works like RTS/CTS
  | .frame ⟨.ack2, _⟩ => .ok { mac with macState := .ccaLost, prevMacState := .cca }
  | msg => mac.undefinedEvent msg

def handleCcaLost (mac : Mac) : Message → Except Fault Mac
  | .self .ccaTimeout => do
      let mac ← mac.scheduleAt now params.slotDuration .wakeup
      mac.goToSleep .ccaLost
  | .frame ⟨.preamble, pkt⟩ =>
      if inList params pkt then do
        let mac ← mac.contend params now rand .ccaLost pkt
        .ok (mac.cancelEvent .ccaTimeout)
      else .ok mac
  | .frame ⟨.data, pkt⟩ => mac.dataWithoutPreamble params now .ccaLost pkt
  | .frame ⟨.ack, _⟩ => .ok mac
  | .frame ⟨.ack2, _⟩ => .ok mac
  | msg => mac.undefinedEvent msg

def handleCca2 (mac : Mac) : Message → Except Fault Mac
  | .self .cca2Timeout =>
      { mac with
        macState := .sendAck2
        prevMacState := .cca2 }.cancelEvent .dataTimeout |>.setRadioMode .transmitter
  | .frame ⟨.ack2, pkt⟩ =>
      if pkt.destAddr = mac.destDestAddrAck2 then do
        -- other node has winned
        let mac ← mac.scheduleAt now params.slotDuration .wakeup
        ((mac.cancelEvent .cca2Timeout).cancelEvent .dataTimeout).goToSleep .cca2
      else .ok mac
  | .frame ⟨.preamble, _⟩ => .ok mac
  | .frame ⟨.data, pkt⟩ => do
      let mac := mac.cancelEvent .cca2Timeout
      let mac ← if .dataTimeout ∈ mac.pending then .ok mac else mac.dataTimeoutAfter params now
      .ok { mac with
        putBack := mac.putBack ++ [pkt]
        macState := .waitData
        prevMacState := .cca2 }
  | .frame ⟨.ack, _⟩ => .ok mac
  | .self .dataTimeout => do
      let mac ← mac.wakeupSoon params now rand
      ((mac.cancelEvent .cca2Timeout).cancelEvent .dataTimeout).goToSleep .cca2
  | msg => mac.undefinedEvent msg

def handleSendPreamble (mac : Mac) : Message → Except Fault Mac
  | .self .sendPreamble => do
      let pkt ← mac.front
      let mac ← (mac.sendPreamble params pkt.destinationAddress).scheduleAt now
        ((1 / 2) * params.checkInterval) .ackTimeout
      .ok { mac with macState := .sendPreambleTxEnd, prevMacState := .sendPreamble }
  | .self .stopPreambles =>
      .ok { mac with macState := .sendData, prevMacState := .sendPreamble, txAttempts := 1 }
  | msg => mac.undefinedEvent msg

def handleSendPreambleTxEnd (mac : Mac) : Message → Except Fault Mac
  | .self .preambleTxOver =>
      { mac with
        macState := .waitAck2
        prevMacState := .sendPreambleTxEnd }.setRadioMode .receiver
  | msg => mac.undefinedEvent msg

/-- SEND_DATA and SEND_DATA2. -/
def handleSendData (mac : Mac) : Message → Except Fault Mac
  | .self .sendPreamble | .self .resendData => do
      let next ← mac.sendDataPacket
      .ok { next with macState := .waitTxDataOver, prevMacState := mac.macState }
  | msg => mac.undefinedEvent msg

/-- The packet at the front of the queue is done with. -/
def leaveQueue (mac : Mac) (prevMacState : MacState) : Except Fault Mac := do
  let mac ← mac.popFront
  let mac ← { mac with preambleCont := 0 }.wakeupSoon params now rand
  mac.goToSleep prevMacState

def handleWaitTxDataOver (mac : Mac) : Message → Except Fault Mac
  | .self .dataTxOver =>
      if params.useMacAcks && !mac.lastDataPktDestAddr.isBroadcast then do
        let mac ← { mac with
          macState := .waitAck
          prevMacState := .waitTxDataOver }.setRadioMode .receiver
        mac.scheduleAt now params.checkInterval .ackTimeout
      else mac.leaveQueue params now rand .waitTxDataOver
  | msg => mac.undefinedEvent msg

def handleWaitAck (mac : Mac) : Message → Except Fault Mac
  | .self .ackTimeout =>
      -- No ACK received. try again or drop.
      if mac.txAttempts < params.maxTxAttempts then do
        let mac ← { mac with
          txAttempts := mac.txAttempts + 1
          macState := .sendPreamble
          prevMacState := .waitAck }.scheduleAt now params.slotDuration .stopPreambles
        mac.setRadioMode .transmitter
      else do
        let pkt ← mac.front
        { mac with linkBreaks := mac.linkBreaks ++ [pkt] }.leaveQueue params now rand .waitAck
  | .frame ⟨.data, _⟩ | .frame ⟨.preamble, _⟩ | .frame ⟨.ack2, _⟩ => .ok mac
  | .frame ⟨.ack, pkt⟩ =>
      if pkt.srcAddr = mac.lastDataPktDestAddr then
        { mac.cancelEvent .ackTimeout with
          lastDataPktDestAddr := .broadcast }.leaveQueue params now rand .waitAck
      else .ok mac
  | msg => mac.undefinedEvent msg

/-- A data frame for this node, or for all, is decapsulated and sent up. -/
def acceptData (mac : Mac) (pkt : XMacPkt) : Mac :=
  { mac with
    pendingPreambles := mac.pendingPreambles.erase pkt.srcAddr
    sentUp :=
      if pkt.destAddr = params.address ∨ pkt.destAddr.isBroadcast then
        mac.sentUp ++ [(pkt.encapsulated, pkt.srcAddr)]
      else mac.sentUp }.cancelEvent .dataTimeout

/-- The data frame that WAIT_DATA was waiting for. -/
def handleData (mac : Mac) (pkt : XMacPkt) : Except Fault Mac :=
  let mac := mac.acceptData params pkt
  if params.useMacAcks ∧ pkt.destAddr = params.address then
    { mac with
      macState := .sendAck
      prevMacState := .waitData
      lastDataPktSrcAddr := pkt.srcAddr }.setRadioMode .transmitter
  else if ¬ pkt.destAddr.isBroadcast ∧ mac.pendingPreambles = ∅ then do
    let mac ← mac.wakeupSoon params now rand
    mac.goToSleep .waitData
  else do
    -- allow that other messages sent by flooding can arrive.
    let mac ← mac.scheduleAt now params.checkInterval .ccaTimeout
    .ok { mac with
      macState := .cca
      prevMacState := .waitData
      destAddressNext := .unspecified
      destDestAddrAck2 := .unspecified }

def handleWaitData (mac : Mac) : Message → Except Fault Mac
  | .frame ⟨.preamble, pkt⟩ =>
      let delay := params.slotDuration * (1 / 10) * rand
      match mac.timers.arrival .dataTimeout with
      | some arrival =>
          if inList params pkt ∧ delay < arrival - now then
            mac.contend params now rand .waitData pkt
          else .ok mac
      | none => .ok mac
  | .frame ⟨.ack, _⟩ => .ok mac
  | .frame ⟨.ack2, _⟩ => .ok mac
  | .frame ⟨.data, pkt⟩ => mac.handleData params now rand pkt
  | .self .dataTimeout => do
      let mac ← mac.wakeupSoon params now rand
      mac.goToSleep .waitData
  | msg => mac.undefinedEvent msg

def handleSendAck (mac : Mac) : Message → Except Fault Mac
  | .self .sendAck =>
      .ok { mac.sendMacAck params with macState := .waitAckTx, prevMacState := .sendAck }
  | msg => mac.undefinedEvent msg

def handleWaitAckTx (mac : Mac) : Message → Except Fault Mac
  | .self .ackTxOver => do
      let mac ← mac.wakeupSoon params now rand
      { mac with lastDataPktSrcAddr := .broadcast }.goToSleep .waitAckTx
  | msg => mac.undefinedEvent msg

def handleSendAck2 (mac : Mac) : Message → Except Fault Mac
  | .self .sendAck2 =>
      .ok { mac.sendMacAck2 params mac.destDestAddrAck2 with
        macState := .waitAck2Tx
        prevMacState := .sendAck2 }
  | msg => mac.undefinedEvent msg

def handleWaitAck2Tx (mac : Mac) : Message → Except Fault Mac
  | .self .ack2TxOver => do
      let mac ← { mac with
        macState := .waitData
        prevMacState := .waitAck2Tx }.setRadioMode .receiver
      if .dataTimeout ∈ mac.pending then .ok mac else mac.dataTimeoutAfter params now
  | msg => mac.undefinedEvent msg

/-- A preamble from a node that has sent more of them: this node has lost. -/
def lostContention (mac : Mac) (pkt : XMacPkt) : Except Fault Mac :=
  let mac := (mac.cancelEvent .ackTimeout).cancelEvent .stopPreambles
  if pkt.destAddr = params.address then
    { mac with
      macState := .sendAck2
      prevMacState := .waitAck2 }.cancelEvent .dataTimeout |>.setRadioMode .transmitter
  else if pkt.destAddr = .broadcast then
    { mac with
      macState := .waitData
      prevMacState := .waitAck2 }.cancelEvent .ccaTimeout |>.dataTimeoutAfter params now
  else .ok { mac with macState := .ccaLost, prevMacState := .waitAck2 }

def handleWaitAck2 (mac : Mac) : Message → Except Fault Mac
  | .self .ackTimeout =>
      { mac with
        macState := .sendPreamble
        prevMacState := .waitAck2 }.setRadioMode .transmitter
  | .self .stopPreambles => do
      let mac ← mac.setRadioMode .transmitter
      .ok { mac.cancelEvent .ackTimeout with
        macState := .sendData
        prevMacState := .waitAck2
        txAttempts := 1 }
  | .frame ⟨.preamble, pkt⟩ =>
      if mac.preambleCont.slt pkt.preambleCont then mac.lostContention params now pkt
      else .ok mac
  | .frame ⟨.data, _⟩ | .frame ⟨.ack, _⟩ => .ok mac
  | .frame ⟨.ack2, pkt⟩ =>
      if pkt.destAddr ≠ params.address then .ok mac
      else
        { (mac.cancelEvent .ackTimeout).cancelEvent .stopPreambles with
          destAddressNext := pkt.srcAddr
          macState := .sendData2
          prevMacState := .waitAck2 }.setRadioMode .transmitter
  | msg => mac.undefinedEvent msg

/-- The source of a preamble that comes while the radio is in receiver mode. -/
def notePreamble (mac : Mac) : Message → Mac
  | .frame ⟨.preamble, pkt⟩ =>
      if mac.radio.mode = .receiver ∧
          (pkt.destAddr = .broadcast ∨ pkt.destAddr = params.address) then
        { mac with pendingPreambles := insert pkt.srcAddr mac.pendingPreambles }
      else mac
  | _ => mac

/-- The switch over the states. -/
def handleInState (mac : Mac) (msg : Message) : Except Fault Mac :=
  match mac.macState with
  | .init => mac.handleInit params now rand msg
  | .sleep => mac.handleSleep params now msg
  | .cca => mac.handleCca params now rand msg
  | .ccaLost => mac.handleCcaLost params now rand msg
  | .cca2 => mac.handleCca2 params now rand msg
  | .sendPreamble => mac.handleSendPreamble params now msg
  | .sendPreambleTxEnd => mac.handleSendPreambleTxEnd msg
  | .sendData | .sendData2 => mac.handleSendData msg
  | .waitTxDataOver => mac.handleWaitTxDataOver params now rand msg
  | .waitAck => mac.handleWaitAck params now rand msg
  | .waitData => mac.handleWaitData params now rand msg
  | .sendAck => mac.handleSendAck params msg
  | .waitAckTx => mac.handleWaitAckTx params now rand msg
  | .sendAck2 => mac.handleSendAck2 params msg
  | .waitAck2Tx => mac.handleWaitAck2Tx params now msg
  | .waitAck2 => mac.handleWaitAck2 params now msg

def handleSelfMessage (mac : Mac) (msg : Message) : Except Fault Mac :=
  (mac.notePreamble params msg).handleInState params now rand msg

/-- Frames with bit errors are dropped. -/
def handleLowerPacket (mac : Mac) (frame : Frame) (bitError : Bool) : Except Fault Mac :=
  if bitError then .ok mac else mac.handleSelfMessage params now rand (.frame frame)

end Mac

end SyncFanet.Xmac
