import SyncFanet.Dsr.CostVector
import SyncFanet.Dsr.RouteFind
import SyncFanet.Dsr.RreqTable
import SyncFanet.Dsr.SourceRouteRuns

/-!
# The send buffer

`packetBuffer`, a multimap in which data packets wait for a route to their destination, and
`send_buf_set_verdict`, which looks up a route for each packet on its own.
-/

set_option autoImplicit false

namespace SyncFanet.Dsr

/-- `PacketStoreage`. -/
structure PacketStoreage where
  time : SimTime
  packet : DsrPkt

/-- `SEND_BUF_MAX_LEN`. -/
def sendBufMaxLen : Nat := 100

/-- A node with its send buffer and its request table. The data packets that are done with are
kept in order: those that were transmitted, with what was transmitted, and those that were
freed. -/
structure Host where
  node : Node
  table : RreqTable
  packetBuffer : List PacketStoreage
  lookups : Nat
  sent : List (DsrPkt × DSRPkt)
  freed : List DsrPkt

/-- The time, a parameter of the search for routes, the random choices of each search and the
acknowledgement requests that `maint_buf_add` adds. -/
structure Outside where
  now : SimTime
  refreshIntermediate : Bool
  chance : Nat → Nat → LinkCache.Chance
  ackReq : DsrPkt → Option Nat

namespace Host

/-- The packets that wait. -/
def waiting (host : Host) : List DsrPkt :=
  host.packetBuffer.map PacketStoreage.packet

/-! ## Packets come and go -/

/-- The insertion into a multimap: behind the entries with the same key. -/
def insertStorage (entry : PacketStoreage) : List PacketStoreage → List PacketStoreage
  | [] => [entry]
  | first :: rest =>
      if entry.packet.dst < first.packet.dst then entry :: first :: rest
      else first :: insertStorage entry rest

def oldest (entries : List PacketStoreage) : Nat :=
  match entries.map PacketStoreage.time with
  | [] => 0
  | first :: rest => (first :: rest).findIdx fun time => time = rest.foldl min first

/-- `send_buf_enqueue_packet`. -/
def sendBufEnqueuePacket (now : SimTime) (host : Host) (dp : DsrPkt) : Host :=
  let kept :=
    if sendBufMaxLen ≤ host.packetBuffer.length then
      host.packetBuffer.eraseIdx (oldest host.packetBuffer)
    else host.packetBuffer
  { host with packetBuffer := insertStorage { time := now, packet := dp } kept }

/-- `send_buf_timeout`, for a timeout in microseconds: a packet is freed 10 ms early too. -/
def sendBufTimeout (now : SimTime) (sendBufferTimeout : Nat) (host : Host) : Host :=
  let late (entry : PacketStoreage) : Bool :=
    usecs sendBufferTimeout ≤ now - entry.time + usecs 10000
  { host with
    packetBuffer := host.packetBuffer.filter fun entry => !late entry
    freed := host.freed ++ (host.packetBuffer.filter late).map PacketStoreage.packet }

/-! ## Sending -/

/-- `dsr_rtc_find` for the own address. -/
def rtcFind (outside : Outside) (host : Host) (dst : InAddr) :
    Except Fault (Host × Option DsrSrt) :=
  (host.node.routeFind outside.refreshIntermediate outside.now (outside.chance host.lookups)
    host.node.myaddr dst).bind fun found =>
    .ok ({ host with node := found.1, lookups := host.lookups + 1 }, found.2)

/-- The packet goes out with a route, unless it has no time to live. -/
def xmit (outside : Outside) (host : Host) (dp : DsrPkt) (srt : DsrSrt) : Except Fault Host :=
  (Dsr.dsrStartXmit host.node.config.etxActive (outside.ackReq dp) dp srt).bind fun
    | none => .ok { host with freed := host.freed ++ [dp] }
    | some p => .ok { host with sent := host.sent ++ [(dp, p)] }

/-- A round of the loop of `send_buf_set_verdict` for `SEND_BUF_SEND`. -/
def sendBuffered (outside : Outside) (host : Host) (dp : DsrPkt) : Except Fault Host :=
  (host.rtcFind outside dp.dst).bind fun found =>
    match found.2 with
    | none => .ok { found.1 with freed := found.1.freed ++ [dp] }
    | some srt => found.1.xmit outside dp srt

/-- `send_buf_set_verdict` for `SEND_BUF_SEND`. -/
def sendBufSend (outside : Outside) (host : Host) (dst : InAddr) : Except Fault Host :=
  let here (entry : PacketStoreage) : Bool := entry.packet.dst = dst
  (((host.packetBuffer.filter here).map PacketStoreage.packet).foldlM (sendBuffered outside)
    host).bind fun host' =>
    .ok { host' with packetBuffer := host.packetBuffer.filter fun entry => !here entry }

/-- The verdict for several destinations, one after another, each of which ends the
discovery of a route to it. -/
def sendAndCancel (outside : Outside) (host : Host) (dst : InAddr) : Except Fault Host :=
  (host.sendBufSend outside dst).bind fun host =>
    .ok { host with table := (rreqTblRouteDiscoveryCancel host.table dst).1 }

/-- `dsr_start_xmit`, for a data packet of the node itself. -/
def dsrStartXmit (outside : Outside) (config : RreqConfig) (host : Host) (dp : DsrPkt) :
    Except Fault Host :=
  (host.rtcFind outside dp.dst).bind fun found =>
    match found.2 with
    | some srt => found.1.xmit outside dp srt
    | none =>
        let host := found.1.sendBufEnqueuePacket outside.now dp
        (dsrRreqRouteDiscovery config outside.now host.table dp.dst).bind fun discovery =>
          .ok { host with table := discovery.1 }

end Host

end SyncFanet.Dsr
