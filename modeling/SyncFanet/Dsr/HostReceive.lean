import Mathlib.Data.List.SplitLengths
import SyncFanet.Dsr.Lifecycle
import SyncFanet.Dsr.RouteErrors
import SyncFanet.Dsr.SendBuffer

/-!
# Receiving with a send buffer

The handlers of the options of a packet, with what they do to the caches and to the send
buffer at the point where they do it.
-/

set_option autoImplicit false

namespace SyncFanet.Dsr

/-- What a handler leaves: the node, the packet and the option, the replies it has sent and
its action. -/
structure HostRecv (Opt : Type) where
  host : Host
  dp : DsrPkt
  opt : Opt
  replies : List (DsrSrt × DsrSrt)
  action : Nat

def HostRecv.map {Opt Opt' : Type} (f : Opt → Opt') (recv : HostRecv Opt) : HostRecv Opt' :=
  { host := recv.host, dp := recv.dp, opt := f recv.opt, replies := recv.replies,
    action := recv.action }

/-! ## Requests that are known -/

/-- How long `rreqInfoMap` remembers a request. -/
def rreqInfoTime : SimTime := usecs 100000000

/-- The loop of `dsr_rreq_duplicate` over the requests of an initiator, which ends at one with
this number, and drops those that are too old on its way. -/
def searchSeq (now : SimTime) (id : Nat) : List RreqSeqInfo → List RreqSeqInfo × Bool
  | [] => ([], false)
  | info :: rest =>
      if now - info.time > rreqInfoTime then searchSeq now id rest
      else if info.seq ≠ id then
        let found := searchSeq now id rest
        (info :: found.1, found.2)
      else (info :: rest, true)

/-- Whether the request is among those of the table. -/
def inRreqIdTbl (config : RreqConfig) (e : RreqTblEntry) (target : InAddr) (id : Nat)
    (length : Int) (addrs : List InAddr) : Bool :=
  e.rreqIdTbl.any fun entry =>
    entry.trgAddr = target ∧ entry.id = id ∧
      (config.rreqMulVisit = 0 ∨ entry.rreqIdTblRoutes.any fun route =>
        -- the lengths are compared as unsigned numbers
        route.length % 2 ^ 32 < length % 2 ^ 32 ∨ route.add = addrs)

/-- `dsr_rreq_duplicate`. More than one visit is allowed of a request that came over no
route yet: there is none. -/
def dsrRreqDuplicate (config : RreqConfig) (now : SimTime) (table : RreqTable)
    (initiator target : InAddr) (id : Nat) (length : Int) (addrs : List InAddr) :
    RreqTable × Bool :=
  let searched := searchSeq now id ((table.rreqInfoMap.lookup initiator).getD [])
  if searched.2 then
    ({ table with rreqInfoMap := table.rreqInfoMap.insert initiator searched.1 }, true)
  else
    let info : RreqSeqInfo := { seq := id, time := now, paths := [addrs] }
    let table := { table with
      rreqInfoMap := table.rreqInfoMap.insert initiator (searched.1 ++ [info]) }
    match table.dsrRreqTbl.lookup initiator with
    | none => (table, false)
    | some e => (table, inRreqIdTbl config e target id length addrs)

namespace Host

variable (outside : Outside)

/-! ## Route requests -/

/-- What a node learns from a request, with the packets that it can send then. -/
def learnRreq (host : Host) (srtRev : DsrSrt) : Except Fault Host :=
  (host.node.routeAdd outside.now srtRev).bind fun node =>
    (srtRev.addrs ++ [srtRev.dst]).foldlM (sendAndCancel outside) { host with node := node }

/-- The reply of a node that has cached a route to the target. -/
def cachedReply (host : Host) (srt : DsrSrt) (target : InAddr) :
    Except Fault (Host × Option DsrSrt) :=
  if host.node.config.rrepDestinationOnly then .ok (host, none)
  else
    (host.rtcFind outside target).bind fun found =>
      match found.2 with
      | none => .ok (found.1, none)
      | some srtRc =>
          (dsrSrtConcatenate srt srtRc).bind fun srtCat =>
            (dsrSrtCheckDuplicate srtCat).bind fun duplicate =>
              .ok (found.1, if duplicate then none else some srtCat)

/-- The answer to a request, once the node has learned from it. -/
def answerRreq (host : Host) (dp : DsrPkt) (opt : DsrRreqOpt) (srt srtRev : DsrSrt) :
    Except Fault (HostRecv DsrRreqOpt) :=
  if opt.target = host.node.myaddr then
    .ok { host := host, dp := dp, opt := opt, replies := [(srtRev, srt)], action := dsrPktNone }
  else if srt.src = host.node.myaddr ∨
      host.node.myaddr ∈ srt.addrs.take ((rreqAddrsLen opt).toNat / dsrAddressSize) then
    .ok { host := host, dp := dp, opt := opt, replies := [], action := dsrPktDrop }
  else
    (host.cachedReply outside srt opt.target).bind fun cached =>
      match cached.2 with
      | some srtCat =>
          .ok { host := cached.1, dp := dp, opt := opt, replies := [(srtRev, srtCat)],
                action := dsrPktNone }
      | none =>
          let opt := { opt with
            addrs := opt.addrs ++ [host.node.myaddr]
            length := (opt.length + dsrAddressSize) % 2 ^ 8 }
          .ok { host := cached.1, dp := dp, opt := opt, replies := [],
                action := dsrPktForwardRreq }

/-- Whether a node with the path cache is on the way of a request already. -/
def onWay (host : Host) (dp : DsrPkt) (opt : DsrRreqOpt) : Except Fault Bool :=
  if host.node.config.pathCache then
    let count := (rreqAddrsLen opt).toNat / dsrAddressSize
    if dp.src = host.node.myaddr ∨ host.node.myaddr ∈ opt.addrs.take count then .ok true
    else if count ≤ opt.addrs.length then .ok false
    else .error .outOfBounds
  else .ok false

/-- `dsr_rreq_opt_recv`, for a request that is not the first one of its packet too. -/
def rreqOptRecv (config : RreqConfig) (first : Bool) (host : Host) (dp : DsrPkt)
    (opt : DsrRreqOpt) : Except Fault (HostRecv DsrRreqOpt) :=
  let dropped (host : Host) (action : Nat) : HostRecv DsrRreqOpt :=
    { host := host, dp := dp, opt := opt, replies := [], action := action }
  if dp.hasFlag pktPromiscRecv then .ok (dropped host dsrPktDrop)
  else if ¬first then .ok (dropped host dsrPktError)
  else
    (host.onWay dp opt).bind fun onWay =>
      if onWay then .ok (dropped host dsrPktDrop)
      else
        let checked := dsrRreqDuplicate config outside.now host.table dp.src opt.target opt.id
          (rreqAddrsLen opt) opt.addrs
        let host := { host with table := checked.1 }
        if checked.2 then .ok (dropped host dsrPktDrop)
        else
          (rreqTblAddId config outside.now host.table dp.src opt.target opt.id
            (host.node.pathCost dp opt) opt.addrs (rreqAddrsLen opt)).bind fun table =>
            let host := { host with table := table }
            let dp := host.node.expandCost dp
            (dsrSrtNew dp.src host.node.myaddr (rreqAddrsLen opt % 2 ^ 32).toNat opt.addrs
              dp.costVector).bind fun srt =>
              (dsrSrtNewRev srt).bind fun srtRev =>
                (if srtRev.laddrs > 0 then at? srtRev.addrs 0 else .ok srtRev.dst).bind
                  fun prvHop =>
                    (host.learnRreq outside srtRev).bind fun host =>
                      host.answerRreq outside { dp with srt := some srt, prvHop := prvHop } opt
                        srt srtRev

/-! ## Route replies -/

/-- `ActualizeMyCostRrep`. -/
def actualizeMyCostRrep (node : Node) (opt : DsrRrepOpt) : DsrRrepOpt :=
  if ¬node.config.etxActive ∨ opt.addrs.length ≠ opt.cost.length then { opt with cost := [] }
  else
    let above := opt.addrs.dropLast
    let position := above.length - 1 - (above.reverse.findIdx fun addr => addr = node.myaddr)
    let index := if node.myaddr ∈ above then position + 1 else 0
    { opt with
      cost := opt.cost.set index (EtxCost.toUnsigned
        { address := 0, cost := node.getCost (opt.addrs.getD index 0) }) }

/-- The route that a reply reports. -/
def rrepRoute (node : Node) (dp : DsrPkt) (opt : DsrRrepOpt) : Except Fault DsrSrt :=
  match opt.addrs.getLast? with
  | none => .error .outOfBounds
  | some srtDst =>
      (dsrSrtNew dp.dst srtDst ((opt.addrs.length - 1) * dsrAddressSize) opt.addrs.dropLast
        dp.costVector).bind fun srt =>
        .ok (if node.config.etxActive ∧ opt.cost.length = opt.addrs.length then
            { srt with cost := opt.cost }
          else srt)

/-- `dsr_rrep_opt_recv`. -/
def rrepOptRecv (host : Host) (dp : DsrPkt) (opt : DsrRrepOpt) :
    Except Fault (HostRecv DsrRrepOpt) :=
  if dp.hasFlag pktPromiscRecv ∨ maxRrepOpts ≤ dp.rrepOpt.length then
    .ok { host := host, dp := dp, opt := opt, replies := [], action := dsrPktError }
  else
    let opt :=
      if opt.addrs.getLast? = some host.node.myaddr then opt
      else actualizeMyCostRrep host.node opt
    (rrepRoute host.node dp opt).bind fun srt =>
      (host.node.routeAdd outside.now srt).bind fun node =>
        let host := { host with
          node := node, table := (rreqTblRouteDiscoveryCancel host.table srt.dst).1 }
        .ok { host := host, dp := { dp with rrepOpt := dp.rrepOpt ++ [opt] }, opt := opt,
              replies := [],
              action := if dp.dst = host.node.myaddr then dsrPktSendBuffered
                else dsrPktForward }

/-! ## Source routes -/

/-- What a node learns from a source route. With the link cache the packets are sent before
the links of the route are added, but for the one to the previous hop. -/
def learnSrt (host : Host) (srt : DsrSrt) (intended prvHop : InAddr) : Except Fault Host :=
  if host.node.config.pathCache then
    (learnPaths outside.now host.node srt intended prvHop).bind fun node =>
      .ok { host with node := node }
  else
    let node := { host.node with
      links := host.node.links.phAddLinkMap outside.now host.node.myaddr prvHop
        host.node.config.routeCacheTimeout }
    ((srt.addrs ++ [srt.src, srt.dst]).foldlM (sendAndCancel outside)
      { host with node := node }).bind fun host =>
      (host.node.routeAdd outside.now srt).bind fun node => .ok { host with node := node }

/-- `dsr_srt_opt_recv`: what becomes of the packet does not depend on the caches. -/
def srtOptRecv (host : Host) (dp : DsrPkt) (opt : DsrSrtOpt) :
    Except Fault (HostRecv DsrSrtOpt) :=
  (dsrSrtOptRecv outside.now host.node dp opt).bind fun recv =>
    (dsrSrtNew dp.src dp.dst opt.length opt.addrs dp.costVector).bind fun srt =>
      (dsrSrtNextHop srt opt.sleft).bind fun intended =>
        (dsrSrtPrevHop srt ((opt.sleft : Int) - 1)).bind fun prvHop =>
          (host.learnSrt outside srt intended prvHop).bind fun host =>
            let replies := recv.calls.filterMap fun
              | .rrepSend srt srtToMe => some (srt, srtToMe)
              | _ => none
            .ok { host := host, dp := recv.dp, opt := recv.opt, replies := replies,
                  action := recv.action }

/-! ## A packet -/

/-- The options of a kind that the packet lists once it is parsed, and again as each of them is
handled. -/
def listedBefore (kind : DsrOpt → Bool) (dp : DsrPkt) (seen : List DsrOpt) : Nat :=
  min (dp.opth.flatten.countP kind) maxParsedOpts + seen.countP kind

/-- `dsr_rerr_opt_recv`: a link that is reported as broken is forgotten. -/
def rerrOptRecv (host : Host) (opt : DsrRerrOpt) : Host :=
  if opt.errType = nodeUnreachable then
    { host with node := host.node.deleteLink outside.now opt.errSrc opt.info }
  else host

/-- One round of the loops of `dsr_opt_recv`, with the options before this one. -/
def recvOption (config : RreqConfig) (seen : List DsrOpt) (host : Host) (dp : DsrPkt)
    (dopt : DsrOpt) : Except Fault (HostRecv DsrOpt) :=
  let skip : HostRecv DsrOpt :=
    { host := host, dp := dp, opt := dopt, replies := [], action := 0 }
  match dopt with
  | .padn | .prevHop | .timeout | .flowid | .pad1 => .ok skip
  | .rreq opt =>
      if dp.hasFlag pktPromiscRecv then .ok skip
      else
        let first := !seen.any fun
          | .rreq _ => true
          | _ => false
        (host.rreqOptRecv outside config first dp opt).map (HostRecv.map .rreq)
  | .rrep opt =>
      if dp.hasFlag pktPromiscRecv then .ok skip
      else (host.rrepOptRecv outside dp opt).map (HostRecv.map .rrep)
  | .rerr opt =>
      let listed := listedBefore (fun | .rerr _ => true | _ => false) dp seen
      if dp.hasFlag pktPromiscRecv ∨ maxParsedOpts ≤ listed then .ok skip
      else .ok { skip with host := host.rerrOptRecv outside opt }
  | .ack opt =>
      let listed := listedBefore (fun | .ack _ => true | _ => false) dp seen
      if dp.hasFlag pktPromiscRecv ∨ maxParsedOpts ≤ listed then .ok skip
      else
        .ok { skip with action := if opt.dst = host.node.myaddr then dsrPktNone else dsrPktError }
  | .srt opt => (host.srtOptRecv outside dp opt).map (HostRecv.map .srt)
  | .ackReq id =>
      let recv := dsrAckReqOptRecv host.node dp id
      .ok { host := host, dp := recv.dp, opt := dopt, replies := [], action := recv.action }

/-- The loops over the options of all headers. -/
def recvOptions (config : RreqConfig) (start : HostRecv (List DsrOpt)) :
    List DsrOpt → Except Fault (HostRecv (List DsrOpt))
  | [] => .ok start
  | dopt :: rest =>
      (start.host.recvOption outside config start.opt start.dp dopt).bind fun recv =>
        recvOptions config
          { host := recv.host, dp := recv.dp, opt := start.opt ++ [recv.opt],
            replies := start.replies ++ recv.replies, action := start.action ||| recv.action } rest

/-- `dsr_opt_recv`. -/
def dsrOptRecv (config : RreqConfig) (host : Host) (dp : DsrPkt) :
    Except Fault (HostRecv (List DsrOpt)) :=
  let action := if dp.dst = host.node.myaddr ∧ dp.payloadLen ≠ 0 then dsrPktDeliver else 0
  (recvOptions outside config { host := host, dp := dp, opt := [], replies := [], action := action }
    dp.opth.flatten).bind fun recv =>
    .ok { recv with
      dp := { recv.dp with opth := (dp.opth.map List.length).splitLengths recv.opt } }

/-- The calls to the send buffer with which a packet ends. -/
def sendCalls (host : Host) (calls : List Call) : Except Fault Host :=
  calls.foldlM (fun host call =>
    match call with
    | .sendBufSend dst => host.sendBufSend outside dst
    | _ => .ok host) host

/-- `dsr_recv`: the node, the replies it has sent and the fate of the packet. -/
def dsrRecv (config : RreqConfig) (host : Host) (dp : DsrPkt) :
    Except Fault (Host × List (DsrSrt × DsrSrt) × Fate) :=
  (host.dsrOptRecv outside config dp).bind fun recv =>
    if dp.hasFlag pktPromiscRecv then .ok (recv.host, recv.replies, .free)
    else
      let acted := actLoop recv.dp recv.action dsrPktActionLast dsrPktNone
      (recv.host.sendCalls outside acted.1).bind fun host => .ok (host, recv.replies, acted.2)

/-- A packet that arrives or is overheard, as it is parsed. -/
def arrived (useNetworkLayerAck promisc : Bool) (p : DSRPkt) : DsrPkt :=
  if promisc then
    let dp := dsrPktAlloc2 p
    { dp with flags := dp.flags ||| pktPromiscRecv }
  else dsrPktAlloc useNetworkLayerAck p

/-- `defaultProcess` and `tap`, for a packet with DSR options. -/
def processDsr (config : RreqConfig) (promisc : Bool) (host : Host) (p : DSRPkt) :
    Except Fault (Host × List (DsrSrt × DsrSrt) × Fate) :=
  if p.src ≠ host.node.myaddr then
    host.dsrRecv outside config (arrived host.node.config.useNetworkLayerAck promisc p)
  else .ok (host, [], .free)

section

variable (outside : Outside) (config : RreqConfig) (host : Host) (p : DSRPkt)

/-- An overheard packet has no options left. -/
theorem dsrOptRecv_overheard (useNetworkLayerAck : Bool) :
    ∃ dp, host.dsrOptRecv outside config (arrived useNetworkLayerAck true p) =
      .ok { host := host, dp := dp, opt := [], replies := [], action := 0 } := by
  have idle : (if p.dst = host.node.myaddr ∧ 0 ≠ 0 then dsrPktDeliver else 0) = 0 :=
    if_neg fun both => both.2 rfl
  refine ⟨{ arrived useNetworkLayerAck true p with opth := [] }, ?_⟩
  show Except.ok _ = Except.ok _
  rw [show (arrived useNetworkLayerAck true p).payloadLen = 0 from rfl,
    show (arrived useNetworkLayerAck true p).dst = p.dst from rfl, idle]
  rfl

/-- Nothing becomes of an overheard packet. -/
theorem processDsr_overheard : host.processDsr outside config true p = .ok (host, [], .free) := by
  obtain ⟨dp, handled⟩ :=
    dsrOptRecv_overheard outside config host p host.node.config.useNetworkLayerAck
  have flag : decide ((0 ||| pktPromiscRecv) &&& pktPromiscRecv ≠ 0) = true := by decide
  unfold processDsr
  split
  · unfold dsrRecv
    rw [handled]
    exact if_pos flag
  · rfl

end

/-! ## What the handler of requests does -/

section

variable {outside : Outside} {config : RreqConfig} {host after : Host} {dp : DsrPkt}
  {opt : DsrRreqOpt} {srt srtRev : DsrSrt} {recv : HostRecv DsrRreqOpt}

theorem cachedReply_ok {target : InAddr} {reply : Option DsrSrt}
    (ran : host.cachedReply outside srt target = .ok (after, reply)) :
    (after = host ∧ reply = none) ∨ ∃ found, host.rtcFind outside target = .ok (after, found) ∧
      ∀ route, reply = some route → ∃ srtRc, found = some srtRc ∧
        dsrSrtConcatenate srt srtRc = .ok route ∧ dsrSrtCheckDuplicate route = .ok false := by
  unfold cachedReply at ran
  split at ran
  · cases ran
    exact .inl ⟨rfl, rfl⟩
  · obtain ⟨⟨looked, found⟩, looks, ran⟩ := bind_ok.mp ran
    cases found with
    | none =>
        cases ran
        exact .inr ⟨none, looks, fun _ failed => by cases failed⟩
    | some srtRc =>
        obtain ⟨srtCat, joined, ran⟩ := bind_ok.mp ran
        obtain ⟨duplicate, checked, ran⟩ := bind_ok.mp ran
        cases ran
        refine .inr ⟨some srtRc, looks, fun route replied => ?_⟩
        cases duplicate with
        | true => cases replied
        | false =>
            cases replied
            exact ⟨srtRc, rfl, joined, checked⟩

theorem answerRreq_ok (ran : host.answerRreq outside dp opt srt srtRev = .ok recv) :
    (recv.host = host ∨ ∃ found, host.rtcFind outside opt.target = .ok (recv.host, found)) ∧
      recv.dp = dp ∧ recv.action ∈ [dsrPktNone, dsrPktDrop, dsrPktForwardRreq] := by
  unfold answerRreq at ran
  split at ran
  · cases ran
    exact ⟨.inl rfl, rfl, by simp⟩
  · split at ran
    · cases ran
      exact ⟨.inl rfl, rfl, by simp⟩
    · obtain ⟨⟨cached, reply⟩, looked, ran⟩ := bind_ok.mp ran
      have finds : cached = host ∨ ∃ found, host.rtcFind outside opt.target = .ok (cached, found) :=
        (cachedReply_ok looked).imp And.left fun ⟨found, looks, _⟩ => ⟨found, looks⟩
      cases reply with
      | none | some srtCat =>
          cases ran
          exact ⟨finds, rfl, by simp⟩

/-- A request is dropped before it is looked up, or it is a duplicate, or it is learned from and
answered. -/
inductive HandlesRreq (outside : Outside) (config : RreqConfig) (first : Bool) (host : Host)
    (dp : DsrPkt) (opt : DsrRreqOpt) : HostRecv DsrRreqOpt → Prop where
  | dropped (action : Nat) (which : action = dsrPktDrop ∨ action = dsrPktError ∧ first = false) :
      HandlesRreq outside config first host dp opt
        { host := host, dp := dp, opt := opt, replies := [], action := action }
  | duplicate {table : RreqTable}
      (found : dsrRreqDuplicate config outside.now host.table dp.src opt.target opt.id
        (rreqAddrsLen opt) opt.addrs = (table, true)) :
      HandlesRreq outside config first host dp opt
        { host := { host with table := table }, dp := dp, opt := opt, replies := [],
          action := dsrPktDrop }
  | answered {checked table : RreqTable} {srt srtRev : DsrSrt} {prvHop : InAddr} {learned : Host}
      {recv : HostRecv DsrRreqOpt}
      (fresh : dsrRreqDuplicate config outside.now host.table dp.src opt.target opt.id
        (rreqAddrsLen opt) opt.addrs = (checked, false))
      (added : rreqTblAddId config outside.now checked dp.src opt.target opt.id
        (host.node.pathCost dp opt) opt.addrs (rreqAddrsLen opt) = .ok table)
      (made : dsrSrtNew (host.node.expandCost dp).src host.node.myaddr
        (rreqAddrsLen opt % 2 ^ 32).toNat opt.addrs (host.node.expandCost dp).costVector = .ok srt)
      (reversed : dsrSrtNewRev srt = .ok srtRev)
      (learns : learnRreq outside { host with table := table } srtRev = .ok learned)
      (answers : learned.answerRreq outside
        { host.node.expandCost dp with srt := some srt, prvHop := prvHop } opt srt srtRev =
          .ok recv) :
      HandlesRreq outside config first host dp opt recv

theorem rreqOptRecv_ok {first : Bool}
    (ran : host.rreqOptRecv outside config first dp opt = .ok recv) :
    HandlesRreq outside config first host dp opt recv := by
  unfold rreqOptRecv at ran
  dsimp only at ran
  split at ran
  · cases ran
    exact .dropped dsrPktDrop (.inl rfl)
  split at ran
  · next later =>
    cases ran
    exact .dropped dsrPktError (.inr ⟨rfl, by simpa using later⟩)
  obtain ⟨onWay, -, ran⟩ := bind_ok.mp ran
  split at ran
  · cases ran
    exact .dropped dsrPktDrop (.inl rfl)
  split at ran
  · next found =>
    cases ran
    exact .duplicate (Prod.ext rfl found)
  · next fresh =>
    obtain ⟨table, added, ran⟩ := bind_ok.mp ran
    obtain ⟨srt, made, ran⟩ := bind_ok.mp ran
    obtain ⟨srtRev, reversed, ran⟩ := bind_ok.mp ran
    obtain ⟨prvHop, -, ran⟩ := bind_ok.mp ran
    obtain ⟨learned, learns, answers⟩ := bind_ok.mp ran
    exact .answered (Prod.ext rfl (Bool.not_eq_true _ ▸ fresh)) added made reversed learns answers

end

end Host

end SyncFanet.Dsr
