import SyncFanet.Olsr.Timers
import SyncFanet.OlsrEtx.MprComputation

/-!
# Link quality of OLSR_ETX

The loss window of `OLSR_ETX_link_tuple`, its updates in `OLSR_ETX::link_sensing` and
by the link quality timer, and the packets of `OLSR_ETX::send_pkt`. Of a node only the
link set is here: no other set is read by these, and nothing else writes the window.
-/

set_option autoImplicit false

namespace SyncFanet.OlsrEtx

open Olsr

/-! ## Loss window -/

/-- The link quality fields of a link tuple. The bytes of the bitmap are its bits in
order. -/
structure LossWindow where
  lossBitmap : List Bool
  lossSeqno : Nat
  lossIndex : Nat
  lossWindowSize : Nat
  lostPackets : Int
  totalPackets : Int
  lossMissedHellos : Nat
  nextHello : Int
  helloIval : Int
  linkQuality : ℚ
  nbLinkQuality : ℚ
  etx : ℚ
  deriving DecidableEq

def defaultLossWindowSize : Nat := 10

/-- The `etx` of a link from the product of its two qualities. -/
def etxOf (behaviour : LinkQuality) (mult : ℚ) : ℚ :=
  match behaviour with
  | .etx => if mult < 1 / 100 then 100 else 1 / mult
  | .ml => mult
  | .none => 0

/-- `link_quality_init`. The next HELLO and its interval are set by the first packet. -/
def linkQualityInit (seqno lossWindowSize : Nat) : LossWindow where
  lossBitmap := List.replicate 128 false
  lossSeqno := seqno
  lossIndex := 0
  lossWindowSize := lossWindowSize
  lostPackets := 0
  totalPackets := 0
  lossMissedHellos := 0
  nextHello := 0
  helloIval := 0
  linkQuality := 0
  nbLinkQuality := 0
  etx := 0

namespace LossWindow

def updateLinkQuality (behaviour : LinkQuality) (nbLinkQuality : ℚ) (window : LossWindow) :
    LossWindow :=
  { window with
    nbLinkQuality := nbLinkQuality
    etx := etxOf behaviour (window.linkQuality * nbLinkQuality) }

/-- The bit of the packet that leaves the window, and the number of lost packets. -/
def markPacket (received : Bool) (window : LossWindow) : LossWindow :=
  let lost := window.lossBitmap.getD window.lossIndex false
  if received = lost then
    { window with
      lossBitmap := window.lossBitmap.set window.lossIndex (!received)
      lostPackets := if received then window.lostPackets - 1 else window.lostPackets + 1 }
  else window

def processPacket (behaviour : LinkQuality) (now : Int) (received : Bool) (htime : Int)
    (window : LossWindow) : LossWindow :=
  let marked := window.markPacket received
  let timed :=
    if received then { marked with helloIval := htime, nextHello := now + htime } else marked
  let total :=
    if timed.totalPackets < timed.lossWindowSize then timed.totalPackets + 1
    else timed.totalPackets
  let quality : ℚ := (total - timed.lostPackets : ℚ) / (timed.lossWindowSize : ℚ)
  { timed with
    lossIndex := (timed.lossIndex + 1) % timed.lossWindowSize
    totalPackets := total
    linkQuality := quality
    etx := etxOf behaviour (quality * timed.nbLinkQuality) }

/-- The loop of `receive` over the sequence numbers that did not arrive. The fuel
bounds the rounds. -/
def skipMissed (behaviour : LinkQuality) (now : Int) (seqno : Nat) (htime : Int) :
    Nat → LossWindow → Except Fault LossWindow
  | 0, window => if seqno = window.lossSeqno then .ok window else .error .diverges
  | fuel + 1, window =>
      if seqno = window.lossSeqno then .ok window
      else
        let counted :=
          if window.lossMissedHellos = 0 then window.processPacket behaviour now false htime
          else { window with lossMissedHellos := window.lossMissedHellos - 1 }
        skipMissed behaviour now seqno htime fuel
          { counted with lossSeqno := (counted.lossSeqno + 1) % (maxSeqNum + 1) }

/-- `receive`. -/
def receive (behaviour : LinkQuality) (now : Int) (seqno : Nat) (htime : Int)
    (window : LossWindow) : Except Fault LossWindow :=
  (window.skipMissed behaviour now seqno htime maxSeqNum).bind fun window =>
    .ok { window.processPacket behaviour now true htime with
      lossMissedHellos := 0
      lossSeqno := (seqno + 1) % (maxSeqNum + 1) }

/-- `packet_timeout`. -/
def packetTimeout (behaviour : LinkQuality) (now : Int) (window : LossWindow) : LossWindow :=
  let counted := window.processPacket behaviour now false 0
  { counted with
    lossMissedHellos := counted.lossMissedHellos + 1
    nextHello := now + counted.helloIval }

end LossWindow

/-! ## Messages with qualities -/

/-- `OLSR_ETX_iface_address`. -/
structure IfaceAddress where
  ifaceAddress : NsAddr
  linkQuality : ℚ
  nbLinkQuality : ℚ
  deriving DecidableEq

structure EtxHelloMsg where
  linkCode : Nat
  nbEtxIfaceAddrs : List IfaceAddress
  deriving DecidableEq

def EtxHelloMsg.base (helloMsg : EtxHelloMsg) : HelloMsg where
  linkCode := helloMsg.linkCode
  nbIfaceAddrs := helloMsg.nbEtxIfaceAddrs.map IfaceAddress.ifaceAddress

structure EtxHello where
  htime : Nat
  willingness : Nat
  helloMsgs : List EtxHelloMsg
  deriving DecidableEq

/-- The bodies of other messages do not concern links. -/
inductive EtxMsgBody where
  | hello (hello : EtxHello)
  | tc
  | mid
  | other (msgType : Nat)
  deriving DecidableEq

structure EtxMsg where
  vtime : Nat
  origAddr : NsAddr
  ttl : Nat
  hopCount : Nat
  msgSeqNum : Nat
  body : EtxMsgBody
  deriving DecidableEq

structure EtxPkt where
  pktSeqNum : Nat
  msgs : List EtxMsg
  deriving DecidableEq

/-! ## Link sensing -/

structure MeasuredLink extends LinkTuple where
  window : LossWindow
  deriving DecidableEq

structure LinkNode where
  linkset : List MeasuredLink
  nextId : TupleId

namespace LinkNode

def findLinkTuple (node : LinkNode) (ifaceAddr : NsAddr) : Option MeasuredLink :=
  node.linkset.find? fun link => link.nbIfaceAddr = ifaceAddr

def updateLinkTuple (node : LinkNode) (ifaceAddr : NsAddr) (link : MeasuredLink) : LinkNode :=
  { node with linkset :=
      updateFirst (fun other => other.nbIfaceAddr = ifaceAddr) (fun _ => link) node.linkset }

end LinkNode

/-- One link-code group, with the quality that goes with the receiving interface. -/
def senseGroup (behaviour : LinkQuality) (config : Config) (now validity : Int)
    (receiverIface : NsAddr) (link : MeasuredLink) (helloMsg : EtxHelloMsg) : MeasuredLink :=
  if helloMsg.base.invalid then link
  else
    match helloMsg.nbEtxIfaceAddrs.find? fun addr => addr.ifaceAddress = receiverIface with
    | none => link
    | some addr =>
        { link with
          toLinkTuple :=
            (Olsr.senseGroup config now validity receiverIface (link.toLinkTuple, false)
              helloMsg.base).1
          window := link.window.updateLinkQuality behaviour addr.linkQuality }

/-- The link tuple after the HELLO. -/
def senseLink (behaviour : LinkQuality) (config : Config) (now : Int) (msg : EtxMsg)
    (hello : EtxHello) (receiverIface : NsAddr) (pktSeqNum : Nat) (link : MeasuredLink) :
    Except Fault MeasuredLink :=
  let validity := emfToSeconds msg.vtime
  (link.window.receive behaviour now pktSeqNum (emfToSeconds hello.htime)).bind fun window =>
    if maxHellos < hello.helloMsgs.length then .error (.assertFailed "hello.count")
    else if hello.helloMsgs.any fun group =>
        !group.base.invalid && decide (maxAddrs < group.nbEtxIfaceAddrs.length) then
      .error (.assertFailed "hello_msg.count")
    else
      let sensed := hello.helloMsgs.foldl (senseGroup behaviour config now validity receiverIface)
        { link with asymTime := now + validity, window := window }
      .ok { sensed with time := max sensed.time sensed.asymTime }

/-- `OLSR_ETX::link_sensing`, which leaves the interface index of a new tuple unset. -/
def linkSensing (behaviour : LinkQuality) (config : Config) (now : Int) (msg : EtxMsg)
    (hello : EtxHello) (receiverIface senderIface : NsAddr) (pktSeqNum unsetIndex : Nat)
    (node : LinkNode) : Except Fault LinkNode :=
  match node.findLinkTuple senderIface with
  | some known =>
      (senseLink behaviour config now msg hello receiverIface pktSeqNum known).bind fun link =>
        .ok (node.updateLinkTuple senderIface link)
  | none =>
      let created : MeasuredLink := {
        toLinkTuple := newLinkTuple node.nextId now (emfToSeconds msg.vtime) receiverIface
          senderIface unsetIndex
        window := linkQualityInit pktSeqNum defaultLossWindowSize }
      (senseLink behaviour config now msg hello receiverIface pktSeqNum created).bind fun link =>
        .ok { linkset := node.linkset ++ [link], nextId := node.nextId + 1 }

/-- Whether `recv_olsr` processes the message as a HELLO: `duplicated` says that a
duplicate tuple was found for it. -/
def processedHello (config : Config) (received : EtxMsg × Bool) : Option EtxHello :=
  if received.1.ttl = 0 ∨ config.isLocalAddress received.1.origAddr ∨ received.2 then none
  else
    match received.1.body with
    | .hello hello => some hello
    | _ => none

/-- The loop body of `OLSR_ETX::recv_olsr`, as far as links go. -/
def recvMsg (behaviour : LinkQuality) (config : Config) (now : Int) (iface : Iface)
    (srcAddr : NsAddr) (pktSeqNum unsetIndex : Nat) (node : LinkNode)
    (received : EtxMsg × Bool) : Except Fault LinkNode :=
  match processedHello config received with
  | some hello =>
      linkSensing behaviour config now received.1 hello iface.addr srcAddr pktSeqNum unsetIndex
        node
  | none => .ok node

/-- `OLSR_ETX::recv_olsr`; the messages of the packet come with what `find_dup_tuple`
finds for them. -/
def recvOlsr (behaviour : LinkQuality) (config : Config) (now : Int) (iface : Iface)
    (srcAddr : NsAddr) (pktSeqNum unsetIndex : Nat) (received : List (EtxMsg × Bool))
    (node : LinkNode) : Except Fault LinkNode :=
  if maxMsgs < received.length then .error (.assertFailed "msgArraySize")
  else received.foldlM (recvMsg behaviour config now iface srcAddr pktSeqNum unsetIndex) node

/-- `OLSR_ETX::link_quality`, at every expiry of the link quality timer. -/
def linkQuality (behaviour : LinkQuality) (now : Int) (node : LinkNode) : LinkNode :=
  { node with linkset := node.linkset.map fun link =>
      if link.window.nextHello < now then
        { link with window := link.window.packetTimeout behaviour now }
      else link }

/-! ## Packets -/

structure Sender where
  msgs : List EtxMsg
  pktSeq : Nat

/-- `pkt_seq`. -/
def Sender.nextPktSeq (sender : Sender) : Sender :=
  { sender with pktSeq := (sender.pktSeq + 1) % (maxSeqNum + 1) }

/-- A packet pair of the link delay extension: the index of the message array advances
once for each packet of the pair, so that every second slot stays unset. -/
def sendPair (unset : EtxMsg) (sender : Sender) : Sender × List EtxPkt :=
  let sender := sender.nextPktSeq
  let msgs := sender.msgs.take 2
  ({ sender with msgs := sender.msgs.drop 2 },
    [{ pktSeqNum := sender.pktSeq, msgs := msgs.intersperse unset },
      { pktSeqNum := sender.pktSeq, msgs := msgs.flatMap fun msg => [unset, msg] }])

def sendOnePkt (sender : Sender) : Sender × List EtxPkt :=
  let sender := sender.nextPktSeq
  ({ sender with msgs := sender.msgs.drop maxMsgs },
    [{ pktSeqNum := sender.pktSeq, msgs := sender.msgs.take maxMsgs }])

def sendPkts : Nat → Sender → Sender × List EtxPkt
  | 0, sender => (sender, [])
  | numPkts + 1, sender =>
      let (sender, first) := sendOnePkt sender
      let (sender, rest) := sendPkts numPkts sender
      (sender, first ++ rest)

/-- `OLSR_ETX::send_pkt`. -/
def sendPkt (linkDelay : Bool) (unset : EtxMsg) (sender : Sender) : Sender × List EtxPkt :=
  let numMsgs := sender.msgs.length
  let numPkts := if numMsgs % maxMsgs = 0 then numMsgs / maxMsgs else numMsgs / maxMsgs + 1
  if linkDelay ∧ 0 < numPkts then
    let (sender, pair) := sendPair unset sender
    let (sender, rest) := sendPkts (numPkts - 1) sender
    (sender, pair ++ rest)
  else sendPkts numPkts sender

end SyncFanet.OlsrEtx
