import SyncFanet.Dsr.LinkCache
import SyncFanet.Dsr.Packet

/-!
# Receiving a packet

`dsr_srt_opt_recv`, the dispatch of the options in `dsr_opt_recv` and the loop of
`dsr_recv` over the actions. The calls to the neighbour table, the send buffer, the request
table and the functions that send packets of their own are recorded in order; the handlers
of the other options are parameters.
-/

set_option autoImplicit false

namespace SyncFanet.Dsr

/-! ## Nodes -/

structure Config where
  pathCache : Bool
  etxActive : Bool
  useNetworkLayerAck : Bool
  rrepDestinationOnly : Bool
  /-- `RouteCacheTimeout` in microseconds. -/
  routeCacheTimeout : Nat

/-- What the handlers of a node read and write. -/
structure Node where
  config : Config
  myaddr : InAddr
  paths : PathCacheMap
  links : LinkCache
  /-- The pairs of `gratRrep`. -/
  gratRrep : List (InAddr × InAddr)
  /-- `getCost` of the neighbours. -/
  getCost : InAddr → ℚ

/-- Calls to the other tables of the node and to functions that send packets. -/
inductive Call where
  | neighTblAdd (addr : InAddr)
  | sendBufSend (dst : InAddr)
  | discoveryCancel (dst : InAddr)
  | gratRrepTblAdd (src prevHop : InAddr)
  | rrepSend (srt srtToMe : DsrSrt)
  | ackSend (dst : InAddr) (id : Nat)
  deriving DecidableEq

/-- `RouteAdd`, which `dsr_rtc_add` stands for. -/
def Node.routeAdd (node : Node) (now : SimTime) (srt : DsrSrt) : Except Fault Node :=
  if node.config.pathCache then
    (phSrtAddMap node.myaddr node.config.etxActive now node.paths srt
      node.config.routeCacheTimeout 0 false).bind fun stored =>
      .ok { node with paths := stored.1 }
  else
    .ok { node with
      links := node.links.phSrtAddLinkMap now srt node.config.routeCacheTimeout }

def Node.routeAdd? (node : Node) (now : SimTime) (srt : Option DsrSrt) : Except Fault Node :=
  match srt with
  | none => .ok node
  | some srt => node.routeAdd now srt

/-- `ph_srt_add_node_map`. -/
def Node.phSrtAddNodeMap (node : Node) (now : SimTime) (addr : InAddr) : Node :=
  let costVect := if node.config.etxActive then [node.getCost addr] else []
  { node with
    paths.paths := node.paths.paths.setPath now addr [] costVect 1 valid
      (node.config.routeCacheTimeout % 2 ^ 32) }

/-! ## The source route option -/

/-- The node, the packet and the option after a handler, the calls it made and its action. -/
structure Recv (Opt : Type) where
  node : Node
  calls : List Call
  dp : DsrPkt
  opt : Opt
  action : Nat

/-- What a node learns from a source route, with the path cache. -/
def learnPaths (now : SimTime) (node : Node) (srt : DsrSrt) (intended prvHop : InAddr) :
    Except Fault Node :=
  let node := node.phSrtAddNodeMap now prvHop
  let splitAdd := if intended ≠ node.myaddr then prvHop else node.myaddr
  (dsrSrtSplitBoth srt splitAdd node.myaddr).bind fun routes =>
    (node.routeAdd? now routes.1).bind fun node => node.routeAdd? now routes.2

/-- What a node learns from a source route, with the link cache: it may send what it has
buffered for any node of the route. -/
def learnLinks (now : SimTime) (node : Node) (srt : DsrSrt) (prvHop : InAddr) :
    Except Fault (Node × List Call) :=
  let node := { node with
    links := node.links.phAddLinkMap now node.myaddr prvHop node.config.routeCacheTimeout }
  let calls := (srt.addrs ++ [srt.src, srt.dst]).flatMap fun addr =>
    [.sendBufSend addr, .discoveryCancel addr]
  (node.routeAdd now srt).bind fun node => .ok (node, calls)

/-- Automatic route shortening, at a node that is not the intended next hop: the calls, or
nothing where there is no route back. -/
def shorten (node : Node) (dp : DsrPkt) (srt : DsrSrt) (prvHop : InAddr) :
    Except Fault (Option (List Call)) :=
  (dsrSrtShortcut srt prvHop node.myaddr).bind fun srtCut =>
    let srtCut :=
      if node.config.etxActive then
        let among := srtCut.addrs.take srtCut.count
        let j := min (among.idxOf node.myaddr + 1) among.length
        { srtCut with
          cost := srtCut.cost.set j (EtxCost.toUnsigned ⟨prvHop, node.getCost prvHop⟩) }
      else srtCut
    (if srtCut.count = 0 then (dsrSrtNewRev srtCut).bind fun srt => .ok (some srt)
      else dsrSrtNewSplitRev srtCut node.myaddr).bind fun srt =>
      match srt with
      | none => .ok none
      | some srt => .ok (some [.gratRrepTblAdd dp.src prvHop, .rrepSend srt srtCut])

/-- With link costs a relay writes the cost of the link it received on. -/
def updateCost (node : Node) (dp : DsrPkt) : List EtxCost :=
  match dp.costVector.findIdx? fun link => link.address = node.myaddr with
  | none => dp.costVector
  | some i =>
      let previous :=
        if i = 0 then dp.src else (dp.costVector[i - 1]?.map EtxCost.address).getD 0
      dp.costVector.set i { address := node.myaddr, cost := node.getCost previous }

/-- `dsr_srt_opt_recv`. -/
def dsrSrtOptRecv (now : SimTime) (node : Node) (dp : DsrPkt) (opt : DsrSrtOpt) :
    Except Fault (Recv DsrSrtOpt) :=
  (dsrSrtNew dp.src dp.dst opt.length opt.addrs dp.costVector).bind fun srt =>
    (dsrSrtNextHop srt opt.sleft).bind fun intended =>
      (dsrSrtPrevHop srt ((opt.sleft : Int) - 1)).bind fun prvHop =>
        (dsrSrtNextHop srt ((opt.sleft : Int) - 1)).bind fun nxtHop =>
          let dp := { dp with
            srt := some srt, srtOpt := some opt, salvage := opt.salv,
            prvHop := prvHop, nxtHop := nxtHop }
          (if node.config.pathCache then
              (learnPaths now node srt intended prvHop).bind fun node => .ok (node, [])
            else learnLinks now node srt prvHop).bind fun learned =>
            (if intended ≠ node.myaddr then dsrSrtFindAddr srt node.myaddr opt.sleft
              else .ok false).bind fun remaining =>
              let calls := Call.neighTblAdd prvHop :: learned.2
              let finish (calls : List Call) : Recv DsrSrtOpt :=
                if dp.hasFlag pktPromiscRecv then
                  { node := learned.1, calls := calls, dp := dp, opt := opt,
                    action := dsrPktDrop }
                else if opt.sleft = 0 then
                  { node := learned.1, calls := calls, dp := dp, opt := opt,
                    action := dsrPktSrtRemove }
                else if opt.sleft > srt.count then
                  { node := learned.1, calls := calls, dp := dp, opt := opt,
                    action := dsrPktSendIcmp }
                else
                  let opt := { opt with sleft := opt.sleft - 1 }
                  let costs := if node.config.etxActive then updateCost node dp else dp.costVector
                  { node := learned.1, calls := calls,
                    dp := { dp with srtOpt := some opt, costVector := costs }, opt := opt,
                    action := dsrPktForward }
              if remaining ∧ (dp.src, prvHop) ∉ node.gratRrep then
                (shorten node dp srt prvHop).bind fun shortened =>
                  match shortened with
                  | none =>
                      .ok { node := learned.1, calls := calls, dp := dp, opt := opt,
                            action := dsrPktDrop }
                  | some extra => .ok (finish (calls ++ extra))
              else .ok (finish calls)

/-! ## The other options -/

/-- The handlers of the options that a source-routed data packet does not carry. -/
structure Handlers where
  rreqOptRecv : SimTime → Node → DsrPkt → DsrRreqOpt → Except Fault (Recv DsrRreqOpt)
  rrepOptRecv : SimTime → Node → DsrPkt → DsrRrepOpt → Except Fault (Recv DsrRrepOpt)
  rerrOptRecv : SimTime → Node → DsrPkt → DsrRerrOpt → Except Fault (Recv DsrRerrOpt)
  ackOptRecv : SimTime → Node → DsrPkt → DsrAckOpt → Except Fault (Recv DsrAckOpt)

/-- `dsr_ack_req_opt_recv`. -/
def dsrAckReqOptRecv (node : Node) (dp : DsrPkt) (id : Nat) : Recv Nat :=
  if dp.hasFlag pktPromiscRecv then
    { node := node, calls := [], dp := dp, opt := id, action := dsrPktError }
  else
    let dp := if dp.srtOpt = none then { dp with prvHop := dp.src } else dp
    { node := node, calls := [.ackSend dp.prvHop id], dp := dp, opt := id,
      action := dsrPktNone }

def Recv.map {Opt Opt' : Type} (f : Opt → Opt') (recv : Recv Opt) : Recv Opt' :=
  { node := recv.node, calls := recv.calls, dp := recv.dp, opt := f recv.opt,
    action := recv.action }

/-- One round of the loops of `dsr_opt_recv`. -/
def recvOption (handlers : Handlers) (now : SimTime) (node : Node) (dp : DsrPkt) (dopt : DsrOpt) :
    Except Fault (Recv DsrOpt) :=
  let skip : Recv DsrOpt := { node := node, calls := [], dp := dp, opt := dopt, action := 0 }
  match dopt with
  | .padn | .prevHop | .timeout | .flowid | .pad1 => .ok skip
  | .rreq opt =>
      if dp.hasFlag pktPromiscRecv then .ok skip
      else (handlers.rreqOptRecv now node dp opt).map (Recv.map .rreq)
  | .rrep opt =>
      if dp.hasFlag pktPromiscRecv then .ok skip
      else (handlers.rrepOptRecv now node dp opt).map (Recv.map .rrep)
  | .rerr opt =>
      if dp.hasFlag pktPromiscRecv then .ok skip
      else (handlers.rerrOptRecv now node dp opt).map (Recv.map .rerr)
  | .ack opt =>
      if dp.hasFlag pktPromiscRecv then .ok skip
      else (handlers.ackOptRecv now node dp opt).map (Recv.map .ack)
  | .srt opt => (dsrSrtOptRecv now node dp opt).map (Recv.map .srt)
  | .ackReq id => .ok ((dsrAckReqOptRecv node dp id).map .ackReq)

/-- The loop over the options of a header, with the calls and the actions so far. -/
def recvOptions (handlers : Handlers) (now : SimTime) (start : Recv (List DsrOpt)) :
    List DsrOpt → Except Fault (Recv (List DsrOpt))
  | [] => .ok start
  | dopt :: rest =>
      (recvOption handlers now start.node start.dp dopt).bind fun recv =>
        recvOptions handlers now
          { node := recv.node, calls := start.calls ++ recv.calls, dp := recv.dp,
            opt := start.opt ++ [recv.opt], action := start.action ||| recv.action } rest

/-- The loop over the headers. -/
def recvHeaders (handlers : Handlers) (now : SimTime) (start : Recv (List (List DsrOpt))) :
    List (List DsrOpt) → Except Fault (Recv (List (List DsrOpt)))
  | [] => .ok start
  | header :: rest =>
      (recvOptions handlers now
        { node := start.node, calls := start.calls, dp := start.dp, opt := [],
          action := start.action } header).bind fun recv =>
        recvHeaders handlers now { recv with opt := start.opt ++ [recv.opt] } rest

/-- `dsr_opt_recv`. -/
def dsrOptRecv (handlers : Handlers) (now : SimTime) (node : Node) (dp : DsrPkt) :
    Except Fault (Recv (List (List DsrOpt))) :=
  let action := if dp.dst = node.myaddr ∧ dp.payloadLen ≠ 0 then dsrPktDeliver else 0
  (recvHeaders handlers now
    { node := node, calls := [], dp := dp, opt := [], action := action } dp.opth).bind fun recv =>
    .ok { recv with dp := { recv.dp with opth := recv.opt } }

/-! ## Acting on a packet -/

/-- What becomes of the packet. -/
inductive Fate where
  | xmit (dp : DsrPkt)
  | deliver (dp : DsrPkt)
  | free

/-- The `switch` of `dsr_recv` over one bit of the actions: the calls, and the fate of the
packet where it is decided. -/
def actOn (dp : DsrPkt) (bit : Nat) : List Call × Option Fate :=
  if bit = dsrPktDrop ∨ bit = dsrPktError then ([], some .free)
  else if bit = dsrPktForward then
    if dp.ttl < 1 then ([], some .free) else ([], some (.xmit dp))
  else if bit = dsrPktForwardRreq then ([], some (.xmit dp))
  else if bit = dsrPktSendBuffered then
    (dp.rrepOpt.flatMap fun opt => opt.addrs.map .sendBufSend, none)
  else if bit = dsrPktDeliver then ([], some (.deliver dp))
  else ([], none)

/-- The loop of `dsr_recv` over the bits of the actions. -/
def actLoop (dp : DsrPkt) (action : Nat) : Nat → Nat → List Call × Fate
  | 0, _ => ([], .free)
  | rounds + 1, mask =>
      match actOn dp (action &&& mask) with
      | (calls, some fate) => (calls, fate)
      | (calls, none) =>
          let rest := actLoop dp action rounds (mask <<< 1)
          (calls ++ rest.1, rest.2)

/-- The node after `dsr_recv`, with the calls it made and the fate of the packet. -/
structure Received where
  node : Node
  calls : List Call
  fate : Fate

/-- `dsr_recv`. -/
def dsrRecv (handlers : Handlers) (now : SimTime) (node : Node) (dp : DsrPkt) :
    Except Fault Received :=
  (dsrOptRecv handlers now node dp).bind fun recv =>
    if dp.hasFlag pktPromiscRecv then
      .ok { node := recv.node, calls := recv.calls, fate := .free }
    else
      let acted := actLoop recv.dp recv.action dsrPktActionLast dsrPktNone
      .ok { node := recv.node, calls := recv.calls ++ acted.1, fate := acted.2 }

/-- `defaultProcess` for a packet with DSR options. -/
def processDsr (handlers : Handlers) (now : SimTime) (node : Node) (p : DSRPkt) :
    Except Fault Received :=
  let dp := dsrPktAlloc node.config.useNetworkLayerAck p
  if dp.src ≠ node.myaddr then dsrRecv handlers now node dp
  else .ok { node := node, calls := [], fate := .free }

/-! ## Sending -/

def hasAckReq (header : List DsrOpt) : Bool :=
  header.any fun
    | .ackReq _ => true
    | _ => false

/-- `dsr_ack_req_opt_add`: to the header that has a request already, else to the last
one. -/
def dsrAckReqOptAdd (opth : List (List DsrOpt)) (id : Nat) : List (List DsrOpt) :=
  if opth.any hasAckReq then updateFirst hasAckReq (fun header => header ++ [.ackReq id]) opth
  else
    match opth with
    | [] => [[.ackReq id]]
    | opth => opth.dropLast ++ [opth.getLastD [] ++ [.ackReq id]]

/-- The time to live after `dsr_ack_req_opt_add`, which calls `dsr_build_ip` unless there is a
request already. -/
def ackReqTtl (opth : List (List DsrOpt)) (ttl : Nat) : Nat :=
  if opth.any hasAckReq then ttl else dsrBuildIpTtl ttl

/-- The packet after the call of `dsr_ack_req_opt_add` by `maint_buf_add`, where that decides on
an acknowledgement request. -/
def withAckReq (ackReq : Option Nat) (dp : DsrPkt) : DsrPkt :=
  match ackReq with
  | none => dp
  | some id =>
      if dp.hasFlag pktRequestAck then
        { dp with opth := dsrAckReqOptAdd dp.opth id, ttl := ackReqTtl dp.opth dp.ttl }
      else dp

/-- `omnet_xmit`. -/
def omnetXmit (ackReq : Option Nat) (dp : DsrPkt) : Option DSRPkt :=
  let dp := withAckReq ackReq dp
  if dp.ttl = 0 then none
  else
    some { src := dp.src, dst := dp.dst,
           nextAddress := if dp.dst ≠ dsrBroadcast then some dp.nxtHop else none,
           ttl := dp.ttl, payloadLen := dp.payloadLen, dsrOptions := dp.opth,
           costVector := dp.costVector }

section

variable {ackReq : Option Nat} {dp : DsrPkt} {p : DSRPkt}

theorem ackReqTtl_of_ne_zero {opth : List (List DsrOpt)} {ttl : Nat} (alive : ttl ≠ 0) :
    ackReqTtl opth ttl = ttl := by
  rw [ackReqTtl, dsrBuildIpTtl_of_ne_zero alive, ite_self]

/-- A request changes the options and the time to live. -/
theorem withAckReq_eq (ackReq : Option Nat) (dp : DsrPkt) :
    withAckReq ackReq dp =
      { dp with opth := (withAckReq ackReq dp).opth, ttl := (withAckReq ackReq dp).ttl } := by
  unfold withAckReq
  cases ackReq with
  | none => rfl
  | some id =>
      dsimp only
      split <;> rfl

theorem opth_withAckReq (ackReq : Option Nat) (dp : DsrPkt) :
    (withAckReq ackReq dp).opth = dp.opth ∨
      ∃ id, (withAckReq ackReq dp).opth = dsrAckReqOptAdd dp.opth id := by
  unfold withAckReq
  cases ackReq with
  | none => exact .inl rfl
  | some id =>
      dsimp only
      split
      · exact .inr ⟨id, rfl⟩
      · exact .inl rfl

theorem ttl_withAckReq (ackReq : Option Nat) (alive : dp.ttl ≠ 0) :
    (withAckReq ackReq dp).ttl = dp.ttl := by
  unfold withAckReq
  cases ackReq with
  | none => rfl
  | some id =>
      dsimp only
      split
      · exact ackReqTtl_of_ne_zero alive
      · rfl

/-- What `omnet_xmit` transmits of a packet. -/
theorem omnetXmit_some (sent : omnetXmit ackReq dp = some p) :
    p = { src := dp.src, dst := dp.dst,
          nextAddress := if dp.dst ≠ dsrBroadcast then some dp.nxtHop else none,
          ttl := (withAckReq ackReq dp).ttl, payloadLen := dp.payloadLen,
          dsrOptions := (withAckReq ackReq dp).opth, costVector := dp.costVector } := by
  unfold omnetXmit at sent
  rw [withAckReq_eq] at sent
  dsimp only at sent
  split at sent
  · cases sent
  · exact (Option.some.inj sent).symm

theorem omnetXmit_lives (lives : (withAckReq ackReq dp).ttl ≠ 0) :
    ∃ p, omnetXmit ackReq dp = some p :=
  ⟨_, if_neg lives⟩

theorem omnetXmit_alive (ackReq : Option Nat) (alive : dp.ttl ≠ 0) :
    ∃ p, omnetXmit ackReq dp = some p :=
  omnetXmit_lives (by rwa [ttl_withAckReq ackReq alive])

end

/-- `dsr_srt_add`. -/
def dsrSrtAdd (dp : DsrPkt) (srt : DsrSrt) : Except Fault DsrPkt :=
  (dsrSrtNextHop srt srt.count).bind fun nxtHop =>
    let opt := dsrSrtOptAdd dp.salvage srt
    .ok { dp with
      srt := some srt, nxtHop := nxtHop, ttl := dsrBuildIpTtl dp.ttl
      opth := dp.opth ++ [[.srt opt]], srtOpt := some opt }

/-- `AddCost`, with the costs of the route and no others. -/
def addCost (etxActive : Bool) (srt : DsrSrt) : Except Fault (List EtxCost) :=
  if ¬etxActive ∨ srt.cost = [] then .ok []
  else
    ((List.range srt.addrs.length).mapM fun i =>
      (at? srt.addrs i).bind fun addr =>
        (at? srt.cost i).bind fun cost => .ok { address := addr, cost := cost }).bind fun costs =>
      (at? srt.cost (srt.cost.length - 1)).bind fun last =>
        .ok (costs ++ [{ address := srt.dst, cost := last }])

end SyncFanet.Dsr
