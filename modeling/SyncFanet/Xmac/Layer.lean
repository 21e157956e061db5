import Mathlib.Data.Rat.Defs
import Mathlib.Algebra.Order.Ring.Unbundled.Rat
import Mathlib.Data.Finset.Insert
import Mathlib.Data.Fintype.Basic
import SyncFanet.Library.TimerTable

/-!
# AnyMacXmacLayer

The MAC layer of AnyMacXmacLayer.h with the radio below it. Times are exact numbers of
seconds. The frames and signals that the layer hands over are recorded in order.
-/

set_option autoImplicit false

namespace SyncFanet.Xmac

abbrev Time : Type := ℚ

abbrev MACAddress : Type := BitVec 48

def MACAddress.broadcast : MACAddress := BitVec.allOnes 48
def MACAddress.unspecified : MACAddress := 0

def MACAddress.isBroadcast (address : MACAddress) : Bool := address = MACAddress.broadcast

/-- `States`. -/
inductive MacState where
  | init
  | sleep
  | cca
  | sendPreamble
  | waitData
  | sendData
  | waitTxDataOver
  | waitAck
  | sendAck
  | waitAckTx
  | sendAck2
  | waitAck2Tx
  | sendPreambleTxEnd
  | waitAck2
  | sendData2
  | cca2
  | ccaLost
  deriving DecidableEq

/-- The messages of the layer to itself. -/
inductive Timer where
  | resendData
  | ackTimeout
  | startXmac
  | wakeup
  | sendAck
  | ccaTimeout
  | ackTxOver
  | sendPreamble
  | stopPreambles
  | dataTxOver
  | preambleTxOver
  | dataTimeout
  | sendAck2
  | ack2TxOver
  | cca2Timeout
  deriving DecidableEq

instance : Fintype Timer where
  elems := {.resendData, .ackTimeout, .startXmac, .wakeup, .sendAck, .ccaTimeout, .ackTxOver,
    .sendPreamble, .stopPreambles, .dataTxOver, .preambleTxOver, .dataTimeout, .sendAck2,
    .ack2TxOver, .cca2Timeout}
  complete timer := by cases timer <;> decide

/-- The kinds of the frames that X-MAC layers exchange. -/
inductive FrameKind where
  | preamble
  | data
  | ack
  | ack2
  deriving DecidableEq

/-- `encapsulated` stands for the network packet in the frame. -/
structure XMacPkt where
  srcAddr : MACAddress
  destAddr : MACAddress
  preambleCont : BitVec 32
  destinationAddress : List MACAddress
  encapsulated : Option Nat
  deriving DecidableEq

structure Frame where
  kind : FrameKind
  pkt : XMacPkt
  deriving DecidableEq

/-- A network packet with the address of its control info. -/
structure NetwPkt where
  destinationAddress : MACAddress
  packet : Nat
  deriving DecidableEq

inductive RadioMode where
  | off
  | sleep
  | receiver
  | transmitter
  | switching
  deriving DecidableEq

inductive TransmissionState where
  | undefined
  | idle
  | transmitting
  deriving DecidableEq

/-- `next` is the mode of the switch in progress, `toSend` the frames that were handed to
the radio and have not reached it. -/
structure Radio where
  mode : RadioMode
  next : Option RadioMode
  transmission : TransmissionState
  toSend : List Frame
  deriving DecidableEq

structure Params where
  address : MACAddress
  queueLength : ℚ
  slotDuration : Time
  checkInterval : Time
  useMacAcks : Bool
  maxTxAttempts : Int
  xmac : Bool

/-- What `handleSelfMessage` is called with. -/
inductive Message where
  | self (timer : Timer)
  | frame (frame : Frame)
  deriving DecidableEq

/-- The errors that end a simulation. -/
inductive Fault where
  | undefinedEvent (msg : Message) (macState : MacState)
  | alreadyScheduled (timer : Timer)
  | emptyQueue
  | scheduledInThePast (timer : Timer)
  | radioSwitching
  deriving DecidableEq

/-- `putBack` holds the received frames that the layer scheduled for itself at the present
time. The member `transmissionState` is written by no function of the class. -/
structure Mac where
  macState : MacState
  prevMacState : MacState
  timers : TimerTable Timer Time
  putBack : List XMacPkt
  radio : Radio
  transmissionState : TransmissionState
  macQueue : List XMacPkt
  pendingPreambles : Finset MACAddress
  preambleCont : BitVec 32
  lastDataPktSrcAddr : MACAddress
  lastDataPktDestAddr : MACAddress
  destAddressNext : MACAddress
  destDestAddrAck2 : MACAddress
  txAttempts : Int
  sentDown : List Frame
  sentUp : List (Option Nat × MACAddress)
  linkBreaks : List XMacPkt

/-- `initialize`, with the radio off. -/
def Mac.initialize : Mac where
  macState := .init
  prevMacState := .init
  timers := TimerTable.empty.schedule .startXmac 0
  putBack := []
  radio := ⟨.off, none, .undefined, []⟩
  transmissionState := .undefined
  macQueue := []
  pendingPreambles := ∅
  preambleCont := 0
  lastDataPktSrcAddr := .broadcast
  lastDataPktDestAddr := .broadcast
  destAddressNext := .unspecified
  destDestAddrAck2 := .unspecified
  txAttempts := 0
  sentDown := []
  sentUp := []
  linkBreaks := []

namespace Mac

@[simp] abbrev pending (mac : Mac) : Finset Timer := mac.timers.pending

@[simp] def arm (mac : Mac) (timer : Timer) (time : Time) : Mac :=
  { mac with timers := mac.timers.schedule timer time }

/-- `scheduleAt(simTime() + delay, timer)` at the time `now`. -/
def scheduleAt (mac : Mac) (now delay : Time) (timer : Timer) : Except Fault Mac :=
  if delay < 0 then .error (.scheduledInThePast timer)
  else if (mac.timers.arrival timer).isSome then .error (.alreadyScheduled timer)
  else .ok (mac.arm timer (now + delay))

@[simp] def cancelEvent (mac : Mac) (timer : Timer) : Mac :=
  { mac with timers := mac.timers.cancel timer }

/-- `setRadioMode` of the radio. A switch takes some time, which may be zero; the signal
that it begins is ignored by the layer. -/
def setRadioMode (mac : Mac) (mode : RadioMode) : Except Fault Mac :=
  if mac.radio.next.isSome then .error .radioSwitching
  else if mode = mac.radio.mode then .ok mac
  else .ok { mac with radio := { mac.radio with mode := .switching, next := some mode } }

def sendDown (mac : Mac) (frame : Frame) : Mac :=
  { mac with
    sentDown := mac.sentDown ++ [frame]
    radio := { mac.radio with toSend := mac.radio.toSend ++ [frame] } }

/-- `macQueue.front()`. -/
def front (mac : Mac) : Except Fault XMacPkt :=
  match mac.macQueue with
  | [] => .error .emptyQueue
  | pkt :: _ => .ok pkt

/-- `macQueue.pop_front()`. -/
def popFront (mac : Mac) : Except Fault Mac :=
  match mac.macQueue with
  | [] => .error .emptyQueue
  | _ :: rest => .ok { mac with macQueue := rest }

/-- The transition to SLEEP, with the radio. -/
def goToSleep (mac : Mac) (prevMacState : MacState) : Except Fault Mac :=
  { mac with macState := .sleep, prevMacState := prevMacState }.setRadioMode .sleep

/-- "if something in the queue, wakeup soon" -/
def wakeupSoon (params : Params) (now : Time) (rand : ℚ) (mac : Mac) : Except Fault Mac :=
  if 0 < mac.macQueue.length then mac.scheduleAt now (rand * params.checkInterval) .wakeup
  else mac.scheduleAt now params.slotDuration .wakeup

/-- The node is one of the destinations listed in the preamble. -/
def inList (params : Params) (pkt : XMacPkt) : Bool :=
  pkt.destinationAddress.any (· = params.address)

def sendPreamble (params : Params) (mac : Mac) (addr : List MACAddress) : Mac :=
  { mac.sendDown
      ⟨.preamble, params.address, .broadcast, mac.preambleCont, addr, none⟩ with
    preambleCont := mac.preambleCont + 1 }

def sendMacAck (params : Params) (mac : Mac) : Mac :=
  mac.sendDown ⟨.ack, params.address, mac.lastDataPktSrcAddr, 0, [], none⟩

def sendMacAck2 (params : Params) (mac : Mac) (addr : MACAddress) : Mac :=
  mac.sendDown ⟨.ack2, params.address, addr, 0, [], none⟩

/-- The packet at the front of the queue is sent and stays in the queue. The overload with
an address does the same. -/
def sendDataPacket (mac : Mac) : Except Fault Mac := do
  let pkt ← mac.front
  .ok ({ mac with lastDataPktDestAddr := pkt.destAddr }.sendDown ⟨.data, pkt⟩)

def encapsMsg (params : Params) (netwPkt : NetwPkt) : XMacPkt where
  srcAddr := params.address
  destAddr := netwPkt.destinationAddress
  preambleCont := 0
  destinationAddress := [netwPkt.destinationAddress]
  encapsulated := some netwPkt.packet

/-- The queue with the packet, unless it is full. -/
def addToQueue (params : Params) (mac : Mac) (msg : NetwPkt) : Option Mac :=
  if params.queueLength ≤ mac.macQueue.length then none
  else some { mac with macQueue := mac.macQueue ++ [encapsMsg params msg] }

def handleUpperPacket (params : Params) (now : Time) (rand : ℚ) (mac : Mac) (msg : NetwPkt) :
    Except Fault Mac :=
  match mac.addToQueue params msg with
  | none => .ok mac
  | some mac =>
      -- force wakeup now
      if .wakeup ∈ mac.pending ∧ mac.macState = .sleep then
        (mac.cancelEvent .wakeup).scheduleAt now (rand * (1 / 10)) .wakeup
      else .ok mac

end Mac

end SyncFanet.Xmac
