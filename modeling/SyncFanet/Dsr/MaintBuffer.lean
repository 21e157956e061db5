import SyncFanet.Library.FirstMatch
import SyncFanet.Dsr.Packet
import SyncFanet.Dsr.PathCache

/-!
# The maintenance buffer

The packets that wait for an acknowledgement of the next hop, with the table of the
neighbours. `maint_buf_timeout` salvages packets, which transmits and buffers them again,
which may run into `maint_buf_timeout` once more: the functions take the call to
`maint_buf_set_timeout` that closes the circle as an argument.
-/

set_option autoImplicit false

namespace SyncFanet.Dsr

/-! ## Time -/

/-- `gettime`: the time rounded to microseconds. -/
def gettime (now : SimTime) : Int :=
  (now + 500000) / 1000000

/-- The 0.0001 s by which an entry may be taken early. -/
def earliness : SimTime := usecs 100

/-! ## Neighbours -/

/-- `struct neighbor`, with the acknowledgement request last made in microseconds. -/
structure Neighbor where
  id : Nat
  lastAckReq : Int
  tSrtt : Nat
  tRxtcur : Nat

/-- `DSR_RANGESET`. -/
def rangeSet (value least most : Nat) : Nat :=
  if value < least then least else if value > most then most else value

/-- `DSR_MIN` and `DSR_REXMTMAX`. -/
def rexmtRange (value : Nat) : Nat :=
  rangeSet value 20 1280

/-- `neigh_tbl_create`, with the identifier that `neigh_tbl_add` gives. -/
def neighTblCreate : Neighbor where
  id := 1
  lastAckReq := 0
  tSrtt := 0
  tRxtcur := rexmtRange ((0 / 4 + 60 * 4) / 2)

namespace Neighbor

/-- The timeout that `neigh_tbl_query` reports, in microseconds. -/
def rto (neigh : Neighbor) : Nat :=
  neigh.tRxtcur * 1000 / 2

/-- `neigh_tbl_set_rto`: the estimate of the round trip and the timeout it gives, in
unsigned numbers of 64 bits with an `int` between them. -/
def setRto (neigh : Neighbor) (rtt : Nat) : Neighbor :=
  let tSrtt :=
    if neigh.tSrtt ≠ 0 then
      let delta := ((rtt : Int) - 1 - (neigh.tSrtt / 8 : Nat)).bmod (2 ^ 32)
      let updated := ((neigh.tSrtt + delta) % 2 ^ 64).toNat
      if updated = 0 then 1 else updated
    else rtt * 8 % 2 ^ 64
  { neigh with tSrtt := tSrtt, tRxtcur := rexmtRange ((tSrtt / 8 + tSrtt) % 2 ^ 64) }

/-- `neigh_tbl_set_ack_req_time` and `neigh_tbl_id_inc`. -/
def requested (neigh : Neighbor) (now : SimTime) : Neighbor :=
  { neigh with lastAckReq := gettime now, id := (neigh.id + 1) % 2 ^ 16 }

end Neighbor

abbrev NeighborMap := Finmap fun _ : InAddr => Neighbor

/-- `neigh_tbl_add`. -/
def neighTblAdd (neighbors : NeighborMap) (addr : InAddr) : NeighborMap :=
  match neighbors.lookup addr with
  | some _ => neighbors
  | none => neighbors.insert addr neighTblCreate

/-! ## The route cache -/

/-- The route cache as the maintenance functions use it: `dsr_rtc_find` from a node and
`ph_srt_delete_link_map`. -/
structure RouteCache (Cache : Type) where
  rtcFind : SimTime → InAddr → InAddr → Cache → Option DsrSrt × Cache
  deleteLink : SimTime → InAddr → InAddr → InAddr → Cache → Cache

/-- What does not change while an agent runs. -/
structure MaintAgent (Cache : Type) where
  myaddr : InAddr
  /-- `MaintHoldoffTime` in microseconds. -/
  maintHoldoffTime : Nat
  maxMaintRexmt : Nat
  routes : RouteCache Cache

/-! ## The buffer -/

/-- `struct maint_entry`. -/
structure MaintEntry where
  nxtHop : InAddr
  rexmt : Nat
  id : Nat
  txTime : SimTime
  expires : SimTime
  rto : Nat
  ackReqSent : Bool
  dp : DsrPkt

/-- An element of the multimap: its key, its identity as a node of the tree and the entry.
Not in the source are the number of the packet, counted over all packets ever buffered,
and the number of requests that had been made to the next hop before it. -/
structure Slot where
  key : SimTime
  node : Nat
  entry : MaintEntry
  packet : Nat
  requestsBefore : Nat

/-- How a packet leaves the buffer: acknowledged, evicted by a newer packet, sent on another
route, dropped for want of one or discarded on a route error. -/
inductive Leave where
  | acknowledged
  | evicted
  | salvaged
  | dropped
  | discarded
  deriving DecidableEq

structure Departure where
  packet : Nat
  nxtHop : InAddr
  how : Leave
  deriving DecidableEq

/-- `MAINT_BUF_MAX_LEN`. -/
def maxMaintBuff : Nat := 100

/-- The state of the maintenance functions. Not in the source are `nodes`, which numbers
the nodes of the tree, and the records of what happened: the packets buffered, the
packets that left, the requests made to each neighbour, and in the current event the next
hops declared broken and the neighbours reported in a route error. -/
structure MaintState (Cache : Type) where
  now : SimTime
  maintBuf : List Slot
  ackTimer : Option SimTime
  neighborMap : NeighborMap
  cache : Cache
  nodes : Nat
  packets : Nat
  left : List Departure
  requests : InAddr → Nat
  broken : List InAddr
  reported : List InAddr

def Slot.leaves (slot : Slot) (how : Leave) : Departure where
  packet := slot.packet
  nxtHop := slot.entry.nxtHop
  how := how

/-- An entry is due when it is reached, or a little before. -/
def Slot.Due (slot : Slot) (now : SimTime) : Prop :=
  slot.key ≤ now + earliness

instance (slot : Slot) (now : SimTime) : Decidable (slot.Due now) :=
  inferInstanceAs (Decidable (_ ≤ _))

/-- `insert` of the multimap: behind the elements with the same key. -/
def insertSlot (slot : Slot) : List Slot → List Slot
  | [] => [slot]
  | first :: rest =>
      if first.key ≤ slot.key then first :: insertSlot slot rest else slot :: first :: rest

namespace MaintState

variable {Cache : Type} (s : MaintState Cache)

/-- The entries that `maint_insert` takes out of a full buffer: the one that is due
first. -/
def evicted : List Slot :=
  if s.maintBuf.length ≥ maxMaintBuff then s.maintBuf.take 1 else []

/-- `maint_insert`. -/
def maintInsert (slot : Slot) : MaintState Cache :=
  { s with
    maintBuf := insertSlot { slot with node := s.nodes } (s.maintBuf.drop s.evicted.length)
    left := s.left ++ s.evicted.map fun first => first.leaves .evicted
    nodes := s.nodes + 1 }

/-- The slot that `maint_entry_create` makes of a packet to a neighbour. -/
def maintEntryCreate (dp : DsrPkt) (neigh : Neighbor) (ackReqSent : Bool) : Slot where
  key := s.now + usecs neigh.rto
  node := s.nodes
  entry :=
    { nxtHop := dp.nxtHop, rexmt := 0, id := neigh.id, txTime := s.now,
      expires := s.now + usecs neigh.rto, rto := neigh.rto, ackReqSent := ackReqSent, dp := dp }
  packet := s.packets
  requestsBefore := s.requests dp.nxtHop

/-- Whether `maint_buf_add` asks for an acknowledgement: not in the hold-off time behind the
last request. The difference is taken as an unsigned number. -/
def asks (holdoff : Nat) (neigh : Neighbor) : Bool :=
  holdoff < ((gettime s.now - neigh.lastAckReq) % 2 ^ 64).toNat

/-- A packet to a neighbour is buffered, and the request for its acknowledgement made. -/
def buffer (holdoff : Nat) (dp : DsrPkt) (neigh : Neighbor) : MaintState Cache :=
  let ackReqSent := s.asks holdoff neigh
  { s.maintInsert (s.maintEntryCreate dp neigh ackReqSent) with
    packets := s.packets + 1
    neighborMap :=
      if ackReqSent then s.neighborMap.insert dp.nxtHop (neigh.requested s.now)
      else s.neighborMap
    requests :=
      if ackReqSent then Function.update s.requests dp.nxtHop (s.requests dp.nxtHop + 1)
      else s.requests }

/-- `set_timer` of the timer for acknowledgements, to the microsecond. -/
def setTimer (expires : SimTime) : MaintState Cache :=
  { s with ackTimer := some (usecs 1 * gettime expires) }

/-- The first entry is taken out, and kept for another timeout. -/
def retransmit (slot : Slot) (rest : List Slot) : MaintState Cache :=
  let expires := s.now + usecs slot.entry.rto
  { s with maintBuf := rest }.maintInsert
    { slot with
      key := expires
      entry := { slot.entry with
        rexmt := slot.entry.rexmt + 1, txTime := s.now, expires := expires } }

/-- The loop that deletes entries, with the timer stopped. -/
def deleteAll (gone : Slot → Bool) (how : Leave) : MaintState Cache :=
  { s with
    ackTimer := none
    maintBuf := s.maintBuf.filter fun slot => ¬gone slot
    left := s.left ++ (s.maintBuf.filter gone).map fun slot => slot.leaves how }

end MaintState

/-! ## Salvaging -/

/-- The source route option of a packet, overwritten in place. -/
def setSrtOpt (opth : List (List DsrOpt)) (opt : DsrSrtOpt) : List (List DsrOpt) :=
  let isSrt : DsrOpt → Bool
    | .srt _ => true
    | _ => false
  updateFirst (fun header => header.any isSrt) (updateFirst isSrt fun _ => .srt opt) opth

/-- The new source route of a packet, from the route it had and the route of this node,
with the segments left of it. -/
def salvageRoute (myaddr : InAddr) (dp : DsrPkt) (oldSrt altSrt : DsrSrt) :
    Except Fault (Option (DsrSrt × Nat)) :=
  (if oldSrt.addrs = [] ∧ oldSrt.dst = dp.nxtHop then .ok true
    else (at? oldSrt.addrs 0).bind fun first => .ok (decide (first = dp.nxtHop))).bind fun atSource =>
    if atSource then .ok (some (altSrt, altSrt.addrs.length))
    else
      (dsrSrtNewSplit oldSrt myaddr).bind fun srtToMe =>
        match srtToMe with
        | none => .ok none
        | some srtToMe =>
            (dsrSrtConcatenate srtToMe altSrt).bind fun srt =>
              .ok (some (srt, srt.addrs.length - srtToMe.addrs.length - 1))

/-- `maint_buf_salvage` up to the transmission: the packet with its new route, where there
is an alternative. -/
def salvagePacket (myaddr : InAddr) (dp : DsrPkt) (altSrt : Option DsrSrt) :
    Except Fault (Option DsrPkt) :=
  match altSrt, dp.srtOpt with
  | none, _ => .ok none
  | some _, none => .ok none
  | some altSrt, some srtOpt =>
      (dsrSrtNew dp.src dp.dst (srtOpt.length - 2) srtOpt.addrs dp.costVector).bind fun oldSrt =>
        (salvageRoute myaddr dp oldSrt altSrt).bind fun route =>
          match route with
          | none => .ok none
          | some (srt, sleft) =>
              (dsrSrtCheckDuplicate srt).bind fun duplicate =>
                if duplicate then .ok none
                else
                  let opt : DsrSrtOpt :=
                    { length := (srt.laddrs + 2) % 2 ^ 8, salv := (srtOpt.salv + 1) % 2 ^ 4,
                      sleft := sleft % 2 ^ 6, addrs := srt.addrs }
                  (dsrSrtNextHop srt opt.sleft).bind fun nxtHop =>
                    .ok (some { dp with
                      srtOpt := some opt, opth := setSrtOpt dp.opth opt, nxtHop := nxtHop,
                      srt := some srt, costVector := [] })

namespace MaintAgent

variable {Cache : Type} (agent : MaintAgent Cache)

/-! ## Transmissions -/

/-- The part of `omnet_xmit` that concerns the buffer, `maint_buf_add`. -/
def maintBufAdd (setTimeout : MaintState Cache → Except Fault (MaintState Cache)) (dp : DsrPkt)
    (s : MaintState Cache) : Except Fault (MaintState Cache) :=
  if dp.hasFlag pktRequestAck then
    match s.neighborMap.lookup dp.nxtHop with
    | none => .ok s
    | some neigh => setTimeout (s.buffer agent.maintHoldoffTime dp neigh)
  else .ok s

/-- `dsr_rerr_send`, whose packet asks for no acknowledgement: it is sent to the source, or
to the second node of the route of a salvaged packet, where a route is known. -/
def dsrRerrSend (dp : DsrPkt) (unrAddr : InAddr) (s : MaintState Cache) :
    Except Fault (MaintState Cache) :=
  match dp.srtOpt with
  | none => .ok s
  | some opt =>
      if dp.src = agent.myaddr then .ok s
      else
        (if opt.salv = 0 then .ok dp.src else at? opt.addrs 1).bind fun dst =>
          let found := agent.routes.rtcFind s.now agent.myaddr dst s.cache
          .ok { s with
            cache := found.2
            reported := if found.1.isSome then unrAddr :: s.reported else s.reported }

/-- The link to a next hop is deleted from the route cache. -/
def deleteLink (nxtHop : InAddr) (s : MaintState Cache) : MaintState Cache :=
  { s with
    cache := agent.routes.deleteLink s.now agent.myaddr agent.myaddr nxtHop s.cache
    broken := nxtHop :: s.broken }

/-- `maint_buf_salvage`, and whether it transmitted the packet. -/
def maintBufSalvage (setTimeout : MaintState Cache → Except Fault (MaintState Cache))
    (dp : DsrPkt) (leaves : Leave → List Departure) (s : MaintState Cache) :
    Except Fault (MaintState Cache) :=
  let found := agent.routes.rtcFind s.now agent.myaddr dp.dst s.cache
  (salvagePacket agent.myaddr dp found.1).bind fun salvaged =>
    match salvaged with
    | none => .ok { s with cache := found.2, left := s.left ++ leaves .dropped }
    | some dp =>
        agent.maintBufAdd setTimeout dp
          { s with cache := found.2, left := s.left ++ leaves .salvaged }

/-! ## Timeouts -/

/-- The loop that salvages the other packets for a next hop, with its iterator at a node or
at the end. The iterator is moved on before the packet is salvaged. -/
def salvageLoop (setTimeout : MaintState Cache → Except Fault (MaintState Cache))
    (nxtHop : InAddr) : Nat → Option Nat → MaintState Cache → Except Fault (MaintState Cache)
  | _, none, s => .ok s
  | 0, some _, _ => .error .diverges
  | rounds + 1, some node, s =>
      match s.maintBuf.dropWhile fun slot => slot.node ≠ node with
      | [] => .error .danglingIterator
      | slot :: later =>
          let next := later.head?.map Slot.node
          if slot.entry.nxtHop = nxtHop then
            (agent.maintBufSalvage setTimeout slot.entry.dp (fun how => [slot.leaves how])
              { s with maintBuf := s.maintBuf.eraseP fun other => other.node = node }).bind
              fun s => salvageLoop setTimeout nxtHop rounds next s
          else salvageLoop setTimeout nxtHop rounds next s

/-- The branch of `maint_buf_timeout` for an entry that was sent `MaxMaintRexmt` times. -/
def linkBreak (setTimeout : MaintState Cache → Except Fault (MaintState Cache)) (rounds : Nat)
    (slot : Slot) (s : MaintState Cache) : Except Fault (MaintState Cache) :=
  let nxtHop := slot.entry.nxtHop
  (agent.dsrRerrSend slot.entry.dp nxtHop (agent.deleteLink nxtHop s)).bind fun s =>
    (agent.maintBufSalvage setTimeout slot.entry.dp (fun how => [slot.leaves how]) s).bind fun s =>
      (agent.salvageLoop setTimeout nxtHop rounds (s.maintBuf.head?.map Slot.node) s).bind
        setTimeout

/-- `maint_buf_timeout`. -/
def maintBufTimeout (setTimeout : MaintState Cache → Except Fault (MaintState Cache))
    (rounds : Nat) (s : MaintState Cache) : Except Fault (MaintState Cache) :=
  if s.ackTimer.isSome then .ok s
  else
    match s.maintBuf with
    | [] => .ok s
    | slot :: rest =>
        if ¬slot.Due s.now then setTimeout s
        else if slot.entry.rexmt + 1 ≥ agent.maxMaintRexmt then
          agent.linkBreak setTimeout rounds slot { s with maintBuf := rest }
        else setTimeout (s.retransmit slot rest)

/-- `maint_buf_set_timeout`, up to a depth of calls. -/
def maintBufSetTimeout : Nat → MaintState Cache → Except Fault (MaintState Cache)
  | 0, _ => .error .diverges
  | depth + 1, s =>
      match s.maintBuf with
      | [] => .ok s
      | slot :: _ =>
          if slot.Due s.now then agent.maintBufTimeout (maintBufSetTimeout depth) depth s
          else .ok (s.setTimer slot.key)

/-! ## Acknowledgements -/

/-- The entries that `maint_buf_del_all_id` deletes. -/
def covers (nxtHop : InAddr) (id : Nat) (slot : Slot) : Bool :=
  slot.entry.nxtHop = nxtHop ∧ slot.entry.id ≤ id

/-- The round trip that an acknowledgement measures, in microseconds. -/
def ackRtt (now : SimTime) (id : Nat) (deleted : List Slot) : Nat :=
  match (deleted.filter fun slot => slot.entry.id = id ∧ slot.entry.rexmt = 0).getLast? with
  | none => 0
  | some slot => ((now - slot.entry.txTime) / 1000000).toNat

/-- `maint_buf_del_all_id` before it sets the timer again. -/
def maintBufAcknowledge (nxtHop : InAddr) (id : Nat) (s : MaintState Cache) : MaintState Cache :=
  let rtt := ackRtt s.now id (s.maintBuf.filter (covers nxtHop id))
  let s := s.deleteAll (covers nxtHop id) .acknowledged
  match s.neighborMap.lookup nxtHop with
  | none => s
  | some neigh =>
      if rtt > 0 then
        { s with neighborMap := s.neighborMap.insert nxtHop (neigh.setRto rtt) }
      else s

/-- `maint_buf_del_all_id`. -/
def maintBufDelAllId (setTimeout : MaintState Cache → Except Fault (MaintState Cache))
    (nxtHop : InAddr) (id : Nat) (s : MaintState Cache) : Except Fault (MaintState Cache) :=
  setTimeout (maintBufAcknowledge nxtHop id s)

/-- `maint_buf_del_all`. -/
def maintBufDelAll (setTimeout : MaintState Cache → Except Fault (MaintState Cache))
    (nxtHop : InAddr) (how : Leave) (s : MaintState Cache) : Except Fault (MaintState Cache) :=
  setTimeout (s.deleteAll (fun slot => slot.entry.nxtHop = nxtHop) how)

end MaintAgent

end SyncFanet.Dsr
