import SyncFanet.Dsr.RreqFlood
import SyncFanet.Dsr.SalvageRuns

/-!
# A network with link caches

The nodes of a network that store links, and the packets between them: route requests, route
replies, data packets with a source route, route errors and acknowledgements, with what a node
salvages. Packets are lost, delayed and duplicated, and any node may overhear them.
-/

set_option autoImplicit false

namespace SyncFanet.Dsr

/-! ## Packets that a node makes -/

/-- `PKT_XMIT_JITTER`. -/
def pktXmitJitter : Nat := 0x08

/-- `AddCostRrep`: the costs of the links up to this node, and of the one to it. -/
def Node.addCostRrep (node : Node) (srt : DsrSrt) : Except Fault (List EtxCost) :=
  if ¬node.config.etxActive then .ok []
  else
    let before := srt.addrs.takeWhile (· ≠ node.myaddr)
    ((List.range before.length).mapM fun i =>
      (at? srt.addrs i).bind fun addr =>
        (at? srt.cost i).bind fun cost => .ok ({ address := addr, cost := cost } : EtxCost)).bind
      fun costs =>
        let last := (costs.getLast?.map EtxCost.address).getD node.myaddr
        .ok (costs ++ [{ address := node.myaddr, cost := node.getCost last }])

/-- `dsr_rrep_send`: the reply with the route `srtToMe`, which goes over `srt`. -/
def Node.dsrRrepSend (node : Node) (srt srtToMe : DsrSrt) : Except Fault DsrPkt :=
  (if srt.laddrs = 0 then .ok srt.dst else at? srt.addrs 0).bind fun nxtHop =>
    (node.addCostRrep srtToMe).bind fun costs =>
      let opt := dsrSrtOptAdd 0 srt
      let reply := dsrRrepOptAdd srtToMe
      .ok
        { src := node.myaddr, dst := srt.dst, nxtHop := nxtHop, prvHop := 0,
          flags := pktXmitJitter, salvage := 0, ttl := srt.count + 1, payloadLen := 0,
          opth := [[.srt opt, .rrep reply]], srtOpt := some opt, rrepOpt := [reply],
          srt := none, costVector := costs }

/-- `dsr_ack_send`. -/
def dsrAckSend (myaddr dst : InAddr) (id : Nat) : DsrPkt where
  src := myaddr
  dst := dst
  nxtHop := dst
  prvHop := 0
  flags := pktXmitJitter
  salvage := 0
  ttl := ipDefTtl
  payloadLen := 0
  opth := [[.ack { id := id, src := myaddr, dst := dst }]]
  srtOpt := none
  rrepOpt := []
  srt := none
  costVector := []

/-! ## What a node does by itself -/

namespace Host

/-- A node with the link cache, before it has heard or sent anything. -/
structure Fresh (addr : InAddr) (host : Host) : Prop where
  myaddr : host.node.myaddr = addr
  linkCache : host.node.config.pathCache = false
  links : host.node.links = { linkArray := ∅, routeMap := ∅ }
  waiting : host.packetBuffer = []
  sent : host.sent = []

/-- What a node does without a packet from another one. Its data packets come from above. -/
inductive Acts (config : RreqConfig) (now : SimTime) (host : Host) : Host → Prop where
  | startXmit {after : Host} (outside : Outside) (dp : DsrPkt) (time : outside.now = now)
      (own : dp.src = host.node.myaddr) (plain : dp.opth = [])
      (ran : host.dsrStartXmit outside config dp = .ok after) : Acts config now host after
  | timeout (sendBufferTimeout : Nat) :
      Acts config now host (host.sendBufTimeout now sendBufferTimeout)
  | find {after : Host} {found : Option DsrSrt} (outside : Outside) (dst : InAddr)
      (time : outside.now = now) (ran : host.rtcFind outside dst = .ok (after, found)) :
      Acts config now host after
  | deleteLink (src1 src2 : InAddr) :
      Acts config now host { host with node := host.node.deleteLink now src1 src2 }
  | tables (table : RreqTable) (gratRrep : List (InAddr × InAddr)) (getCost : InAddr → ℚ) :
      Acts config now host
        { host with
          node := { host.node with gratRrep := gratRrep, getCost := getCost }, table := table }

end Host

/-! ## The network -/

/-- The nodes by their addresses, what they have transmitted besides the data packets of their
own, and which node has received a packet from which. -/
structure RouteNet where
  now : SimTime
  host : InAddr → Host
  flight : List RreqCopy
  heard : List (InAddr × InAddr)

namespace RouteNet

/-- One of the nodes has received a packet from the other. -/
def Met (net : RouteNet) (a b : InAddr) : Prop :=
  (a, b) ∈ net.heard ∨ (b, a) ∈ net.heard

/-- The packet was transmitted by its sender. -/
def OnAir (net : RouteNet) (copy : RreqCopy) : Prop :=
  copy ∈ net.flight ∨ copy.p ∈ (net.host copy.sender).sent.map Prod.snd

/-- A packet that a node has transmitted and that did not arrive, as it is kept or given
back. -/
inductive Lost (net : RouteNet) (addr : InAddr) : DsrPkt → Prop where
  | transmission {copy : RreqCopy} {ackReq : Option Nat} {kept dp : DsrPkt}
      (onAir : net.OnAir copy) (own : copy.sender = addr)
      (sent : omnetXmit ackReq kept = some copy.p)
      (parsed : kept.srtOpt = kept.opth.flatten.findSome? srtOption) (failed : Failed kept dp) :
      Lost net addr dp

def after (net : RouteNet) (addr : InAddr) (host : Host) (copies : List RreqCopy) : RouteNet :=
  { net with host := Function.update net.host addr host, flight := net.flight ++ copies }

end RouteNet

/-- The runs of a network. A transmission reaches any node, any number of times or never and
with any time to live, and unless it is overheard, the node that it is for. -/
inductive RouteRun (nodes : Finset InAddr) (config : InAddr → RreqConfig) : RouteNet → Prop where
  | start (now : SimTime) (host : InAddr → Host)
      (fresh : ∀ addr ∈ nodes, (host addr).Fresh addr) :
      RouteRun nodes config { now := now, host := host, flight := [], heard := [] }
  | wait {net : RouteNet} (before : RouteRun nodes config net) {later : SimTime}
      (le : net.now ≤ later) : RouteRun nodes config { net with now := later }
  | act {net : RouteNet} (before : RouteRun nodes config net) {addr : InAddr}
      (member : addr ∈ nodes) {host : Host}
      (acts : (net.host addr).Acts (config addr) net.now host) :
      RouteRun nodes config (net.after addr host [])
  | request {net : RouteNet} (before : RouteRun nodes config net) (request : Request)
      (member : request.initiator ∈ nodes) (ttl : Nat) :
      RouteRun nodes config
        { net with flight := net.flight ++ [⟨request.initiator, request.first ttl⟩] }
  | ack {net : RouteNet} (before : RouteRun nodes config net) {addr : InAddr}
      (member : addr ∈ nodes) (outside : Outside) (dst : InAddr) (id : Nat) :
      RouteRun nodes config
        { net with
          flight := net.flight ++ transmitted addr outside (.xmit (dsrAckSend addr dst id)) }
  | receive {net : RouteNet} (before : RouteRun nodes config net) {addr : InAddr}
      (member : addr ∈ nodes) {copy : RreqCopy} (onAir : net.OnAir copy)
      (sender : copy.sender ∈ nodes) (outside : Outside) (time : outside.now = net.now)
      (promisc : Bool) (ttl : Nat)
      (reaches : promisc = true ∨ copy.p.nextAddress = none ∨ copy.p.nextAddress = some addr)
      {result : Host × List (DsrSrt × DsrSrt) × Fate} {replies : List DsrPkt}
      (ran : (net.host addr).processDsr outside (config addr) promisc
        { copy.p with ttl := ttl } = .ok result)
      (sends : result.2.1.mapM (fun reply => result.1.node.dsrRrepSend reply.1 reply.2) =
        .ok replies) :
      RouteRun nodes config
        { net.after addr result.1
            (transmitted addr outside result.2.2 ++
              replies.flatMap fun dp => transmitted addr outside (.xmit dp)) with
          heard := net.heard ++ [(addr, copy.sender)] }
  | routeError {net : RouteNet} (before : RouteRun nodes config net) {addr : InAddr}
      (member : addr ∈ nodes) {dpTrigg : DsrPkt} (lost : net.Lost addr dpTrigg)
      {opt : DsrSrtOpt} (routed : dpTrigg.srtOpt = some opt) {dst : InAddr}
      (whom : rerrDst dpTrigg opt = .ok dst) (outside : Outside) (time : outside.now = net.now)
      {found : Host × Option DsrSrt} (ran : (net.host addr).rtcFind outside dst = .ok found)
      (maxSalvageCount : Nat) (unrAddr : InAddr) {rerr : DsrPkt}
      (sends : dsrRerrSend addr maxSalvageCount (fun _ => found.2) dpTrigg unrAddr =
        .ok (some rerr)) :
      RouteRun nodes config (net.after addr found.1 (transmitted addr outside (.xmit rerr)))
  | salvage {net : RouteNet} (before : RouteRun nodes config net) {addr : InAddr}
      (member : addr ∈ nodes) {dp : DsrPkt} (lost : net.Lost addr dp) (outside : Outside)
      (time : outside.now = net.now) {found : Host × Option DsrSrt}
      (ran : (net.host addr).rtcFind outside dp.dst = .ok found) {dp' : DsrPkt}
      (salvaged : salvagePacket addr dp found.2 = .ok (some dp')) :
      RouteRun nodes config (net.after addr found.1 (transmitted addr outside (.xmit dp')))

end SyncFanet.Dsr
