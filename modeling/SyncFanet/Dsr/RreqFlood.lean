import SyncFanet.Dsr.BufferRuns
import SyncFanet.Dsr.RreqMemory
import SyncFanet.Dsr.SalvagedRoutes

/-!
# Floods of route requests

The copies of one request in a network, delivered, lost and duplicated in any order, beside
everything else that the nodes do. Each node sends the request on once at most, and the nodes
that a copy lists are those that it has come over.
-/

set_option autoImplicit false

namespace SyncFanet.Dsr

/-! ## The network -/

/-- A request, and when its initiator sends it. -/
structure Request where
  initiator : InAddr
  id : Nat
  target : InAddr
  began : SimTime

namespace Request

/-- The option that the initiator writes. -/
def opt (request : Request) : DsrRreqOpt where
  length := 6
  id := request.id
  target := request.target
  addrs := []

/-- The packet of `dsr_rreq_send`. -/
def first (request : Request) (ttl : Nat) : DSRPkt where
  src := request.initiator
  dst := dsrBroadcast
  nextAddress := none
  ttl := ttl
  payloadLen := 0
  dsrOptions := [[.rreq request.opt]]
  costVector := []

end Request

/-- A packet that a node has transmitted. -/
structure RreqCopy where
  sender : InAddr
  p : DSRPkt

def rreqOpts (p : DSRPkt) : List DsrRreqOpt :=
  p.dsrOptions.flatten.filterMap fun
    | .rreq opt => some opt
    | _ => none

def Request.IsCopy (request : Request) (p : DSRPkt) : Prop :=
  p.src = request.initiator ∧ ∃ opt ∈ rreqOpts p, opt.id = request.id

/-- What a node transmits of a packet that it has received. -/
def transmitted (sender : InAddr) (outside : Outside) : Fate → List RreqCopy
  | .xmit dp => (omnetXmit (outside.ackReq dp) dp).toList.map (RreqCopy.mk sender)
  | _ => []

/-- The actions that the options of a packet ask for. -/
def Host.askedActions (outside : Outside) (config : RreqConfig) (promisc : Bool) (host : Host)
    (p : DSRPkt) : Nat :=
  if p.src = host.node.myaddr then 0
  else
    match host.dsrOptRecv outside config
        (arrived host.node.config.useNetworkLayerAck promisc p) with
    | .ok recv => recv.action
    | .error _ => 0

/-- The nodes by their addresses, the copies that were transmitted, who has received which of
them, whose handler has returned `DSR_PKT_FORWARD_RREQ` for one, and the replies. -/
structure RreqNet where
  now : SimTime
  host : InAddr → Host
  flight : List RreqCopy
  heard : List (InAddr × RreqCopy)
  forwards : List InAddr
  replies : List (DsrSrt × DsrSrt)

/-- The runs of a network from the time of a request on. A copy can reach any node, any number
of times or never, within 100 s and with any time to live left. The other packets that a node
receives are no copies, and what it does beside that leaves `rreqInfoMap` alone. -/
inductive FloodRun (request : Request) (config : InAddr → RreqConfig) : RreqNet → Prop where
  | start (host : InAddr → Host) (ttl : Nat)
      (addresses : ∀ addr, (host addr).node.myaddr = addr)
      (sends : (dsrRreqSend (host request.initiator).table request.target ttl).2 =
        .send request.opt ttl) :
      FloodRun request config
        { now := request.began, host := host, flight := [⟨request.initiator, request.first ttl⟩]
          heard := [], forwards := [], replies := [] }
  | wait {net : RreqNet} (before : FloodRun request config net) {later : SimTime}
      (le : net.now ≤ later) : FloodRun request config { net with now := later }
  | other {net : RreqNet} (before : FloodRun request config net) (addr : InAddr) (after : Host)
      (same : (net.host addr).SameMemory after) :
      FloodRun request config { net with host := Function.update net.host addr after }
  | receive {net : RreqNet} (before : FloodRun request config net) (addr : InAddr)
      (outside : Outside) (promisc : Bool) (p : DSRPkt) (foreign : ¬ request.IsCopy p)
      (time : outside.now = net.now) {result : Host × List (DsrSrt × DsrSrt) × Fate}
      (ran : (net.host addr).processDsr outside (config addr) promisc p = .ok result) :
      FloodRun request config { net with host := Function.update net.host addr result.1 }
  | deliver {net : RreqNet} (before : FloodRun request config net) (addr : InAddr)
      (outside : Outside) (promisc : Bool) (copy : RreqCopy) (ttl : Nat)
      (sent : copy ∈ net.flight) (time : outside.now = net.now)
      (recent : net.now - request.began ≤ rreqInfoTime)
      {result : Host × List (DsrSrt × DsrSrt) × Fate}
      (ran : (net.host addr).processDsr outside (config addr) promisc
        { copy.p with ttl := ttl } = .ok result) :
      FloodRun request config
        { net with
          host := Function.update net.host addr result.1
          flight := net.flight ++ transmitted addr outside result.2.2
          heard := net.heard ++ if promisc then [] else [(addr, copy)]
          forwards := net.forwards ++
            if (net.host addr).askedActions outside (config addr) promisc
              { copy.p with ttl := ttl } = dsrPktForwardRreq then [addr] else []
          replies := net.replies ++ result.2.1 }

namespace Host

variable {outside : Outside} {config : RreqConfig} {host : Host} {dp : DsrPkt}

variable {opt : DsrRreqOpt}

variable {recv : HostRecv DsrRreqOpt} {srt : DsrSrt}

/-! ## What a node makes of a request -/

/-- The answer to a request that is new to a node: a reply of the target or over a cached
route, or the request with the own address behind the others, unless it is there. -/
inductive Answered (myaddr : InAddr) (dp : DsrPkt) (opt : DsrRreqOpt)
    (recv : HostRecv DsrRreqOpt) : Prop where
  | replied (srtRev srt : DsrSrt) (replies : recv.replies = [(srtRev, srt)])
      (back : srtRev.dst = dp.src) (src : srt.src = dp.src) (dst : srt.dst = opt.target)
      (route : srt.nodes.Nodup ∨ opt.target = myaddr ∧ srt.addrs = opt.addrs)
      (action : recv.action = dsrPktNone)
  | listed (replies : recv.replies = []) (action : recv.action = dsrPktDrop)
  | forwarded (apart : opt.target ≠ myaddr)
      (unlisted : myaddr ∉ opt.addrs.take ((rreqAddrsLen opt).toNat / dsrAddressSize))
      (replies : recv.replies = [])
      (appended : recv.opt = { opt with
        addrs := opt.addrs ++ [myaddr], length := (opt.length + dsrAddressSize) % 2 ^ 8 })
      (packet : SamePacket dp recv.dp) (payload : recv.dp.payloadLen = dp.payloadLen)
      (action : recv.action = dsrPktForwardRreq)

theorem checkSize_ok (sized : srt.checkSize = .ok ()) :
    srt.count = srt.addrs.length := by
  unfold DsrSrt.checkSize at sized
  split at sized
  · next same => exact same
  · cases sized

theorem cachedReply_nodup {after : Host} {route : DsrSrt} {target : InAddr}
    (ran : host.cachedReply outside srt target = .ok (after, some route)) :
    route.src = srt.src ∧ route.dst = target ∧ route.nodes.Nodup := by
  rcases cachedReply_ok ran with ⟨-, none⟩ | ⟨found, looks, replies⟩
  · cases none
  · obtain ⟨srtRc, rfl, joined, checked⟩ := replies route rfl
    obtain ⟨_, sized, joined⟩ := bind_ok.mp joined
    obtain ⟨_, sizedRc, joined⟩ := bind_ok.mp joined
    cases joined
    have ends : srtRc.dst = target := rtcFind_ends looks
    have size := checkSize_ok sized
    have sizeRc := checkSize_ok sizedRc
    refine ⟨rfl, ends, ?_⟩
    rw [dsrSrtCheckDuplicate_eq] at checked
    · simpa using Except.ok.inj checked
    · simp only [DsrSrt.count, List.length_append, List.length_cons] at *
      rw [Nat.mul_div_cancel _ (by decide), size, sizeRc]
      omega

theorem answerRreq_answered {srtRev : DsrSrt} (back : srtRev.dst = dp.src)
    (src : srt.src = dp.src) (dst : srt.dst = host.node.myaddr) (addrs : srt.addrs = opt.addrs)
    (ran : host.answerRreq outside dp opt srt srtRev = .ok recv) :
    Answered host.node.myaddr dp opt recv := by
  unfold answerRreq at ran
  split at ran
  · next here =>
    cases ran
    exact .replied srtRev srt rfl back src (dst.trans here.symm) (.inr ⟨here, addrs⟩) rfl
  · next apart =>
    split at ran
    · cases ran
      exact .listed rfl rfl
    · next unlisted =>
      obtain ⟨⟨cached, reply⟩, looked, ran⟩ := bind_ok.mp ran
      cases reply with
      | none =>
          cases ran
          refine .forwarded apart ?_ rfl rfl ⟨rfl, rfl, rfl, rfl⟩ rfl rfl
          rw [← addrs]
          exact fun among => unlisted (.inr among)
      | some route =>
          cases ran
          obtain ⟨routeSrc, routeDst, simple⟩ := cachedReply_nodup looked
          exact .replied srtRev route rfl back (routeSrc.trans src) routeDst (.inl simple) rfl

theorem Answered.of_same {myaddr : InAddr} {dp' : DsrPkt}
    (answered : Answered myaddr dp' opt recv) (same : SamePacket dp dp')
    (payload : dp'.payloadLen = dp.payloadLen) :
    Answered myaddr dp opt recv := by
  cases answered with
  | replied srtRev srt replies back src dst route action =>
      exact .replied srtRev srt replies (back.trans same.src) (src.trans same.src) dst route action
  | listed replies action => exact .listed replies action
  | forwarded apart unlisted replies appended packet later action =>
      exact .forwarded apart unlisted replies appended
        ⟨packet.src.trans same.src, packet.dst.trans same.dst, packet.flags.trans same.flags,
          packet.opth.trans same.opth⟩ (later.trans payload) action

theorem expandCost_payload (node : Node) : (node.expandCost dp).payloadLen = dp.payloadLen := by
  unfold Node.expandCost
  split_ifs <;> rfl

theorem rreqOptRecv_cases (ran : host.rreqOptRecv outside config true dp opt = .ok recv) :
    (recv.replies = [] ∧ recv.action = dsrPktDrop) ∨
      (dsrRreqDuplicate config outside.now host.table dp.src opt.target opt.id (rreqAddrsLen opt)
          opt.addrs).2 = false ∧
        (rreqAddrsLen opt % 2 ^ 32).toNat / dsrAddressSize = opt.addrs.length ∧
        recv.host.table.Remembers outside.now dp.src opt.id ∧
        Answered host.node.myaddr dp opt recv := by
  cases rreqOptRecv_ok ran with
  | dropped action which =>
      rcases which with rfl | ⟨-, later⟩
      · exact .inl ⟨rfl, rfl⟩
      · cases later
  | duplicate => exact .inl ⟨rfl, rfl⟩
  | @answered checked table _ _ _ _ _ fresh added made reversed learns answers =>
      obtain ⟨costs, _, made⟩ := bind_ok.mp made
      obtain ⟨_, sized, reversed⟩ := bind_ok.mp reversed
      have new := congrArg Prod.snd fresh
      obtain ⟨infos, stored, remembers⟩ := dsrRreqDuplicate_new new
      have learnt := learnRreq_sameMemory learns
      have size := checkSize_ok sized
      have packet : SamePacket dp (host.node.expandCost dp) := (expandCost_same host.node).1
      cases made
      cases reversed
      refine .inr ⟨new, size, ⟨infos, ?_, remembers⟩, ?_⟩
      · rw [(answerRreq_sameMemory answers).rreqInfoMap, learnt.rreqInfoMap,
          rreqTblAddId_rreqInfoMap added]
        rw [fresh] at stored
        exact stored
      · have answered := answerRreq_answered rfl rfl learnt.myaddr.symm rfl answers
        rw [learnt.myaddr] at answered
        exact answered.of_same ⟨packet.src, packet.dst, packet.flags, packet.opth⟩
          (expandCost_payload host.node)

theorem dsrOptRecv_rreq {final : HostRecv (List DsrOpt)} (options : dp.opth = [[.rreq opt]])
    (payload : dp.payloadLen = 0) (plain : dp.hasFlag pktPromiscRecv = false)
    (ran : host.dsrOptRecv outside config dp = .ok final) :
    ∃ recv, host.rreqOptRecv outside config true dp opt = .ok recv ∧
      final = { host := recv.host, dp := { recv.dp with opth := [[.rreq recv.opt]] },
                opt := [.rreq recv.opt], replies := recv.replies, action := recv.action } := by
  obtain ⟨looped, loop, ran⟩ := bind_ok.mp ran
  rw [options] at loop ran
  obtain ⟨received, handled, loop⟩ := bind_ok.mp loop
  simp only [recvOption, plain, Bool.false_eq_true, if_false, List.any_nil, Bool.not_false]
    at handled
  obtain ⟨recv, answered, rfl⟩ := map_ok handled
  cases loop
  cases ran
  refine ⟨recv, answered, ?_⟩
  simp [HostRecv.map, payload, List.splitLengths]

theorem actLoop_drop (dp : DsrPkt) :
    actLoop dp dsrPktDrop dsrPktActionLast dsrPktNone = ([], .free) := by
  simp [actLoop, actOn, dsrPktActionLast, dsrPktForward, dsrPktNone, dsrPktDrop, dsrPktError,
    dsrPktForwardRreq, dsrPktSendBuffered, dsrPktDeliver]

theorem actLoop_none (dp : DsrPkt) :
    actLoop dp dsrPktNone dsrPktActionLast dsrPktNone = ([], .free) := by
  simp [actLoop, actOn, dsrPktActionLast, dsrPktForward, dsrPktNone, dsrPktDrop, dsrPktError,
    dsrPktForwardRreq, dsrPktSendBuffered, dsrPktDeliver]

theorem actLoop_forwardRreq (dp : DsrPkt) :
    actLoop dp dsrPktForwardRreq dsrPktActionLast dsrPktNone = ([], .xmit dp) := by
  simp [actLoop, actOn, dsrPktActionLast, dsrPktForward, dsrPktNone, dsrPktDrop, dsrPktError,
    dsrPktForwardRreq, dsrPktSendBuffered, dsrPktDeliver]

structure Accepts (outside : Outside) (config : RreqConfig) (host : Host) (p : DSRPkt)
    (opt : DsrRreqOpt) (result : Host × List (DsrSrt × DsrSrt) × Fate)
    (recv : HostRecv DsrRreqOpt) : Prop where
  foreign : p.src ≠ host.node.myaddr
  fresh : (dsrRreqDuplicate config outside.now host.table p.src opt.target opt.id
    (rreqAddrsLen opt) opt.addrs).2 = false
  sized : (rreqAddrsLen opt % 2 ^ 32).toNat / dsrAddressSize = opt.addrs.length
  remembers : result.1.table.Remembers outside.now p.src opt.id
  answered : Answered host.node.myaddr (dsrPktAlloc host.node.config.useNetworkLayerAck p) opt recv
  replies : result.2.1 = recv.replies
  fate : recv.action = dsrPktForwardRreq →
    result.2.2 = .xmit { recv.dp with opth := [[.rreq recv.opt]] }
  silent : recv.action ≠ dsrPktForwardRreq → result.2.2 = .free

theorem askedActions_overheard (p : DSRPkt) : host.askedActions outside config true p = 0 := by
  unfold askedActions
  split
  · rfl
  · obtain ⟨dp, nothing⟩ :=
      dsrOptRecv_overheard outside config host p host.node.config.useNetworkLayerAck
    rw [nothing]

theorem processDsr_rreq {promisc : Bool} {p : DSRPkt}
    {result : Host × List (DsrSrt × DsrSrt) × Fate} (options : p.dsrOptions = [[.rreq opt]])
    (payload : p.payloadLen = 0) (ran : host.processDsr outside config promisc p = .ok result) :
    (result.2.1 = [] ∧ result.2.2 = .free ∧
        host.askedActions outside config promisc p ≠ dsrPktForwardRreq) ∨
      promisc = false ∧ ∃ recv, host.Accepts outside config p opt result recv ∧
        host.askedActions outside config promisc p = recv.action := by
  cases promisc with
  | true =>
      rw [processDsr_overheard] at ran
      cases ran
      refine .inl ⟨rfl, rfl, ?_⟩
      rw [askedActions_overheard]
      decide
  | false =>
      unfold processDsr at ran
      unfold askedActions
      split at ran
      · next foreign =>
        rw [if_neg foreign]
        obtain ⟨final, received, ran⟩ := bind_ok.mp ran
        rw [received]
        have plain : (arrived host.node.config.useNetworkLayerAck false p).hasFlag
            pktPromiscRecv = false := by
          simp [arrived, dsrPktAlloc, dsrOptParse, DsrPkt.hasFlag, payload]
        obtain ⟨recv, handled, rfl⟩ := dsrOptRecv_rreq options payload plain received
        rw [if_neg (by simp [plain])] at ran
        obtain ⟨sent, calls, ran⟩ := bind_ok.mp ran
        cases ran
        rcases rreqOptRecv_cases handled with
          ⟨replies, action⟩ | ⟨fresh, sized, remembers, answered⟩
        · refine .inl ⟨replies, ?_, ?_⟩
          · rw [action, actLoop_drop]
          · change recv.action ≠ dsrPktForwardRreq
            rw [action]
            decide
        · have acted : recv.action = dsrPktNone ∨ recv.action = dsrPktDrop ∨
              recv.action = dsrPktForwardRreq := by
            cases answered with
            | replied _ _ _ _ _ _ _ action => exact .inl action
            | listed _ action => exact .inr (.inl action)
            | forwarded _ _ _ _ _ _ action => exact .inr (.inr action)
          have silentCalls : (actLoop { recv.dp with opth := [[.rreq recv.opt]] } recv.action
              dsrPktActionLast dsrPktNone).1 = [] := by
            rcases acted with action | action | action <;> rw [action]
            · rw [actLoop_none]
            · rw [actLoop_drop]
            · rw [actLoop_forwardRreq]
          have same : sent = recv.host := by
            rw [silentCalls] at calls
            cases calls
            rfl
          subst same
          refine .inr ⟨rfl, recv, ⟨foreign, fresh, sized, remembers, answered, rfl, ?_, ?_⟩, rfl⟩
          · intro action
            rw [action, actLoop_forwardRreq]
          · intro other
            rcases acted with action | action | action
            · rw [action, actLoop_none]
            · rw [action, actLoop_drop]
            · exact absurd action other
      · next own =>
        cases ran
        rw [if_pos (not_not.mp own)]
        exact .inl ⟨rfl, rfl, by decide⟩

end Host

variable {addr : InAddr} {copy : RreqCopy} {heard : List (InAddr × RreqCopy)} {opt : DsrRreqOpt}

/-! ## The invariant -/

variable {request : Request} {config : InAddr → RreqConfig} {net : RreqNet}

def Traced (initiator : InAddr) (heard : List (InAddr × RreqCopy)) (addrs : List InAddr) : Prop :=
  ∀ before node after, addrs = before ++ node :: after →
    ∃ copy, (node, copy) ∈ heard ∧ copy.sender = before.getLastD initiator ∧
      ∃ opt ∈ rreqOpts copy.p, opt.addrs = before

structure Request.Carries (request : Request) (heard : List (InAddr × RreqCopy))
    (copy : RreqCopy) (opt : DsrRreqOpt) : Prop where
  src : copy.p.src = request.initiator
  options : copy.p.dsrOptions = [[.rreq opt]]
  payload : copy.p.payloadLen = 0
  id : opt.id = request.id
  target : opt.target = request.target
  length : opt.length = (6 + opt.addrs.length * dsrAddressSize) % 2 ^ 8
  short : opt.addrs.length ≤ 63
  simple : (request.initiator :: opt.addrs).Nodup
  before : request.target ∉ opt.addrs
  sender : copy.sender = opt.addrs.getLastD request.initiator
  traced : Traced request.initiator heard opt.addrs

structure Request.Reports (request : Request) (reply : DsrSrt × DsrSrt) : Prop where
  back : reply.1.dst = request.initiator
  src : reply.2.src = request.initiator
  dst : reply.2.dst = request.target
  simple : reply.2.nodes.Nodup

structure Flooding (request : Request) (net : RreqNet) : Prop where
  addresses : ∀ addr, (net.host addr).node.myaddr = addr
  later : request.began ≤ net.now
  copies : ∀ copy ∈ net.flight, ∃ opt, request.Carries net.heard copy opt
  heard : ∀ entry ∈ net.heard, entry.2 ∈ net.flight
  once : net.forwards.Nodup
  known : net.now - request.began ≤ rreqInfoTime → ∀ addr ∈ net.forwards,
    (net.host addr).table.Remembers request.began request.initiator request.id
  replies : ∀ reply ∈ net.replies, request.Reports reply

theorem Traced.mono {initiator : InAddr} {heard' : List (InAddr × RreqCopy)} {addrs : List InAddr}
    (traced : Traced initiator heard addrs) (more : heard ⊆ heard') :
    Traced initiator heard' addrs := by
  intro before node after split
  obtain ⟨copy, received, rest⟩ := traced before node after split
  exact ⟨copy, more received, rest⟩

theorem Request.Carries.mono {heard' : List (InAddr × RreqCopy)}
    (carries : request.Carries heard copy opt) (more : heard ⊆ heard') :
    request.Carries heard' copy opt :=
  { carries with traced := carries.traced.mono more }

theorem rreqOpts_single {p : DSRPkt} (options : p.dsrOptions = [[.rreq opt]]) :
    rreqOpts p = [opt] := by
  rw [rreqOpts, options]
  rfl

theorem Request.Carries.traced_append (carries : request.Carries heard copy opt)
    (received : (addr, copy) ∈ heard) :
    Traced request.initiator heard (opt.addrs ++ [addr]) := by
  intro before node after split
  rcases List.eq_nil_or_concat after with rfl | ⟨rest, last, rfl⟩
  · obtain ⟨rfl, same⟩ := List.append_inj' split rfl
    obtain rfl := List.cons.inj same |>.1
    exact ⟨copy, received, carries.sender, opt, by simp [rreqOpts_single carries.options], rfl⟩
  · rw [List.concat_eq_append, ← List.cons_append, ← List.append_assoc] at split
    obtain ⟨same, _⟩ := List.append_inj' split rfl
    exact carries.traced before node rest same

theorem Request.Carries.sized (carries : request.Carries heard copy opt)
    (sized : (rreqAddrsLen opt % 2 ^ 32).toNat / dsrAddressSize = opt.addrs.length) :
    opt.addrs.length ≤ 62 ∧
      (rreqAddrsLen opt).toNat / dsrAddressSize = opt.addrs.length := by
  have short := carries.short
  have length := carries.length
  simp only [rreqAddrsLen, dsrAddressSize] at sized length ⊢
  omega

theorem RreqTable.Remembers.mono {table : RreqTable} {since later : SimTime} {initiator : InAddr} {id : Nat}
    (known : table.Remembers later initiator id) (le : since ≤ later) :
    table.Remembers since initiator id := by
  obtain ⟨infos, stored, info, member, same, recent⟩ := known
  exact ⟨infos, stored, info, member, same, le_trans le recent⟩

/-! ## What a step preserves -/

theorem mem_of_at? {Item : Type} {items : List Item} {index : Nat} {item : Item}
    (found : at? items index = .ok item) : item ∈ items := by
  unfold at? at found
  split at found
  · cases found
  · next known =>
    cases found
    exact List.mem_of_getElem? known

theorem mem_transmitted {outside : Outside} {dp : DsrPkt} {sent : RreqCopy}
    (member : sent ∈ transmitted addr outside (.xmit dp))
    (unasked : dp.hasFlag pktRequestAck = false) :
    sent.sender = addr ∧ sent.p.src = dp.src ∧ sent.p.dsrOptions = dp.opth ∧
      sent.p.payloadLen = dp.payloadLen := by
  obtain ⟨p, transmits, rfl⟩ := List.mem_map.mp member
  rw [Option.mem_toList] at transmits
  obtain rfl := omnetXmit_some transmits
  refine ⟨rfl, rfl, ?_, rfl⟩
  unfold withAckReq
  cases outside.ackReq dp with
  | none => rfl
  | some id => simp [unasked]

theorem Flooding.start (host : InAddr → Host) (ttl : Nat)
    (addresses : ∀ addr, (host addr).node.myaddr = addr) :
    Flooding request
      { now := request.began, host := host, flight := [⟨request.initiator, request.first ttl⟩]
        heard := [], forwards := [], replies := [] } where
  addresses := addresses
  later := le_refl _
  copies copy member := by
    obtain rfl := List.mem_singleton.mp member
    refine ⟨request.opt, rfl, rfl, rfl, rfl, rfl, rfl, Nat.zero_le _, List.nodup_singleton _,
      List.not_mem_nil, rfl, ?_⟩
    intro before node after split
    cases before <;> cases split
  heard _ member := absurd member List.not_mem_nil
  once := List.nodup_nil
  known _ _ member := absurd member List.not_mem_nil
  replies _ member := absurd member List.not_mem_nil

theorem Flooding.wait (flooding : Flooding request net) {later : SimTime} (le : net.now ≤ later) :
    Flooding request { net with now := later } :=
  { flooding with
    later := le_trans flooding.later le
    known := fun recent => flooding.known (le_trans (Int.sub_le_sub_right le _) recent) }

theorem Flooding.update (flooding : Flooding request net) {after : Host}
    (keeps : net.now - request.began ≤ rreqInfoTime →
      (net.host addr).KeepsMemory request.began request.initiator request.id after)
    (myaddr : after.node.myaddr = (net.host addr).node.myaddr) :
    Flooding request { net with host := Function.update net.host addr after } := by
  refine { flooding with addresses := ?_, known := ?_ }
  · intro other
    by_cases same : other = addr
    · subst same
      simp only [Function.update_self]
      exact myaddr.trans (flooding.addresses other)
    · simp only [Function.update_of_ne same]
      exact flooding.addresses other
  · intro recent other member
    have known := flooding.known recent other member
    by_cases same : other = addr
    · subst same
      simp only [Function.update_self]
      exact (keeps recent).remembers known
    · simp only [Function.update_of_ne same]
      exact known

inductive Delivery (request : Request) (net : RreqNet) (addr : InAddr) (copy : RreqCopy)
    (promisc : Bool) (asked : Nat) (after : Host) (flight : List RreqCopy)
    (replies : List (DsrSrt × DsrSrt)) : Prop where
  | ends (kept : asked ≠ dsrPktForwardRreq) (nothing : flight = [])
      (reports : ∀ reply ∈ replies, request.Reports reply)
  | continues (forwards : asked = dsrPktForwardRreq) (received : promisc = false)
      (first : addr ∉ net.forwards)
      (remembers : after.table.Remembers request.began request.initiator request.id)
      (carries : ∀ sent ∈ flight, ∃ opt, request.Carries (net.heard ++ [(addr, copy)]) sent opt)
      (silent : replies = [])

theorem Flooding.delivery (flooding : Flooding request net) {outside : Outside} {promisc : Bool}
    {ttl : Nat} (sent : copy ∈ net.flight) (time : outside.now = net.now)
    (recent : net.now - request.began ≤ rreqInfoTime)
    {result : Host × List (DsrSrt × DsrSrt) × Fate}
    (ran : (net.host addr).processDsr outside (config addr) promisc { copy.p with ttl := ttl } =
      .ok result) :
    Delivery request net addr copy promisc
      ((net.host addr).askedActions outside (config addr) promisc { copy.p with ttl := ttl })
      result.1 (transmitted addr outside result.2.2) result.2.1 := by
  obtain ⟨opt, carries⟩ := flooding.copies copy sent
  have here := flooding.addresses addr
  have options : ({ copy.p with ttl := ttl } : DSRPkt).dsrOptions = [[.rreq opt]] := carries.options
  rcases Host.processDsr_rreq options carries.payload ran with
    ⟨replies, fate, kept⟩ | ⟨received, recv, accepts, asked⟩
  · refine .ends kept ?_ ?_
    · rw [fate]
      rfl
    · rw [replies]
      exact fun _ member => absurd member List.not_mem_nil
  · have foreign : request.initiator ≠ addr := by
      intro same
      exact accepts.foreign (carries.src.trans (same.trans here.symm))
    obtain ⟨short, count⟩ := carries.sized accepts.sized
    rw [asked]
    cases accepts.answered with
    | replied srtRev srt replies back src dst route action =>
        have other : recv.action ≠ dsrPktForwardRreq := by
          rw [action]
          decide
        refine .ends other ?_ ?_
        · rw [accepts.silent other]
          rfl
        · intro reply member
          rw [accepts.replies, replies] at member
          obtain rfl := List.mem_singleton.mp member
          refine ⟨back.trans carries.src, src.trans carries.src, dst.trans carries.target, ?_⟩
          rcases route with simple | ⟨target, addrs⟩
          · exact simple
          · have last : srt.dst ∉ srt.src :: srt.addrs := by
              rw [dst, addrs, carries.target, src]
              refine List.not_mem_cons_of_ne_of_not_mem ?_ carries.before
              rw [← carries.target, target, here]
              exact fun same => foreign (carries.src.symm.trans same.symm)
            have simple := carries.simple
            rw [← addrs, ← carries.src] at simple
            rw [DsrSrt.nodes, src]
            rw [src] at last
            exact nodup_append_single simple last
    | listed replies action =>
        have other : recv.action ≠ dsrPktForwardRreq := by
          rw [action]
          decide
        refine .ends other ?_ ?_
        · rw [accepts.silent other]
          rfl
        · rw [accepts.replies, replies]
          exact fun _ member => absurd member List.not_mem_nil
    | forwarded apart unlisted replies appended packet payload action =>
        have flags : recv.dp.hasFlag pktRequestAck = false := by
          rw [DsrPkt.hasFlag, packet.flags]
          simp [dsrPktAlloc, dsrOptParse, carries.payload]
        refine .continues action received ?_ ?_ ?_ (accepts.replies.trans replies)
        · intro member
          have known := flooding.known recent addr member
          have stored := accepts.fresh
          rw [show ({ copy.p with ttl := ttl } : DSRPkt).src = request.initiator from carries.src,
            carries.id, dsrRreqDuplicate_remembered (by rw [time]; exact recent) known] at stored
          cases stored
        · have remembers := accepts.remembers
          rw [show ({ copy.p with ttl := ttl } : DSRPkt).src = request.initiator from carries.src,
            carries.id, time] at remembers
          exact remembers.mono flooding.later
        · intro next member
          rw [accepts.fate action] at member
          obtain ⟨sender, src, options, empty⟩ := mem_transmitted member flags
          rw [here] at unlisted appended apart
          rw [count, List.take_length] at unlisted
          refine ⟨recv.opt, src.trans (packet.src.trans carries.src), options,
            empty.trans (payload.trans carries.payload), ?_, ?_, ?_, ?_, ?_, ?_, ?_, ?_⟩
          · rw [appended]
            exact carries.id
          · rw [appended]
            exact carries.target
          · rw [appended]
            have length := carries.length
            simp only [List.length_append, List.length_singleton, dsrAddressSize] at length ⊢
            omega
          · rw [appended, List.length_append, List.length_singleton]
            omega
          · rw [appended, ← List.cons_append]
            exact nodup_append_single carries.simple
              (List.not_mem_cons_of_ne_of_not_mem foreign.symm unlisted)
          · rw [appended, List.mem_append, List.mem_singleton, ← carries.target]
            rw [not_or]
            exact ⟨carries.target ▸ carries.before, apart⟩
          · rw [appended, sender]
            simp
          · rw [appended]
            exact (carries.mono (List.subset_append_left _ _)).traced_append
              (List.mem_append_right _ (List.mem_singleton_self _))

theorem Flooding.deliver (flooding : Flooding request net) {promisc : Bool} {asked : Nat}
    {after : Host} {flight : List RreqCopy} {replies : List (DsrSrt × DsrSrt)}
    (sent : copy ∈ net.flight)
    (keeps : net.now - request.began ≤ rreqInfoTime →
      (net.host addr).KeepsMemory request.began request.initiator request.id after)
    (myaddr : after.node.myaddr = (net.host addr).node.myaddr)
    (delivery : Delivery request net addr copy promisc asked after flight replies) :
    Flooding request
      { net with
        host := Function.update net.host addr after
        flight := net.flight ++ flight
        heard := net.heard ++ if promisc then [] else [(addr, copy)]
        forwards := net.forwards ++ if asked = dsrPktForwardRreq then [addr] else []
        replies := net.replies ++ replies } := by
  have updated := flooding.update keeps myaddr
  have older : ∀ old ∈ net.flight, ∃ opt,
      request.Carries (net.heard ++ if promisc then [] else [(addr, copy)]) old opt := by
    intro old member
    obtain ⟨opt, carries⟩ := flooding.copies old member
    exact ⟨opt, carries.mono (List.subset_append_left _ _)⟩
  have heard : ∀ entry ∈ net.heard ++ (if promisc then [] else [(addr, copy)]),
      entry.2 ∈ net.flight ++ flight := by
    intro entry member
    rcases List.mem_append.mp member with old | new
    · exact List.mem_append_left _ (flooding.heard entry old)
    · split at new
      · cases new
      · obtain rfl := List.mem_singleton.mp new
        exact List.mem_append_left _ sent
  cases delivery with
  | ends kept nothing reports =>
      subst nothing
      rw [if_neg kept, List.append_nil, List.append_nil]
      rw [List.append_nil] at heard
      refine ⟨updated.addresses, flooding.later, older, heard, flooding.once, updated.known, ?_⟩
      intro reply member
      rcases List.mem_append.mp member with old | new
      · exact flooding.replies reply old
      · exact reports reply new
  | continues forwards received first remembers carries silent =>
      subst received silent
      rw [if_pos forwards, List.append_nil]
      refine ⟨updated.addresses, flooding.later, ?_, heard,
        nodup_append_single flooding.once first, ?_, flooding.replies⟩
      · intro sent member
        rcases List.mem_append.mp member with old | new
        · exact older sent old
        · exact carries sent new
      · intro recent other member
        rcases List.mem_append.mp member with old | new
        · exact updated.known recent other old
        · obtain rfl := List.mem_singleton.mp new
          simp only [Function.update_self]
          exact remembers

theorem FloodRun.flooding (run : FloodRun request config net) : Flooding request net := by
  induction run with
  | start host ttl addresses _ => exact .start host ttl addresses
  | wait _ le flooding => exact flooding.wait le
  | other _ addr after same flooding => exact flooding.update (fun _ => same.keeps) same.myaddr
  | receive _ addr outside promisc p _ time ran flooding =>
      refine flooding.update (fun recent => ?_) (Host.processDsr_myaddr ran)
      rw [← time] at recent
      exact Host.processDsr_keeps recent ran
  | deliver _ addr outside promisc copy ttl sent time recent ran flooding =>
      refine flooding.deliver sent (fun recent => ?_) (Host.processDsr_myaddr ran)
        (flooding.delivery sent time recent ran)
      rw [← time] at recent
      exact Host.processDsr_keeps recent ran

/-! ## Once, and over simple paths -/

theorem rreq_floods_once (run : FloodRun request config net) :
    net.forwards.Nodup ∧
      (∀ copy ∈ net.flight, ∀ opt ∈ rreqOpts copy.p,
        (request.initiator :: opt.addrs).Nodup ∧
          ∀ before node after, opt.addrs = before ++ node :: after →
            ∃ received ∈ net.flight, (node, received) ∈ net.heard ∧
              received.sender = before.getLastD request.initiator ∧
              ∃ listed ∈ rreqOpts received.p, listed.addrs = before) ∧
      ∀ reply ∈ net.replies, reply.1.dst = request.initiator ∧
        reply.2.src = request.initiator ∧ reply.2.dst = request.target ∧
        reply.2.nodes.Nodup := by
  have flooding := run.flooding
  refine ⟨flooding.once, ?_, ?_⟩
  · intro copy member opt listed
    obtain ⟨only, carries⟩ := flooding.copies copy member
    rw [rreqOpts_single carries.options, List.mem_singleton] at listed
    subst listed
    refine ⟨carries.simple, ?_⟩
    intro before node after split
    obtain ⟨received, heard, sender, lists⟩ := carries.traced before node after split
    exact ⟨received, flooding.heard _ heard, heard, sender, lists⟩
  · intro reply member
    have reports := flooding.replies reply member
    exact ⟨reports.back, reports.src, reports.dst, reports.simple⟩

def hostAt (addr : InAddr) : Host :=
  { emptyHost false with node := { (emptyHost false).node with myaddr := addr } }

def requestForThird : Request where
  initiator := 1
  id := 1
  target := 3
  began := 0

/-- Node 2 sends the request on, and node 3 answers it. -/
theorem rreq_floods_once_relayed : ∃ net,
    FloodRun requestForThird (fun _ => defaultRreqs) net ∧ 2 ∈ net.forwards ∧
      net.replies ≠ [] ∧ net.forwards.Nodup := by
  have computed :
      ((hostAt 2).processDsr atStart defaultRreqs false
          { requestForThird.first 10 with ttl := 9 }).bind (fun relayed =>
        (at? (transmitted 2 atStart relayed.2.2) 0).bind fun copy =>
          ((hostAt 3).processDsr atStart defaultRreqs false { copy.p with ttl := 8 }).map
            fun answered => answered.2.1.isEmpty) = .ok false := by
    decide +kernel
  have asked : (hostAt 2).askedActions atStart defaultRreqs false
      { requestForThird.first 10 with ttl := 9 } = dsrPktForwardRreq := by
    decide +kernel
  obtain ⟨relayed, relays, computed⟩ := bind_ok.mp computed
  obtain ⟨copy, found, computed⟩ := bind_ok.mp computed
  obtain ⟨answered, answers, replies⟩ := map_ok computed
  have sent : copy ∈ transmitted 2 atStart relayed.2.2 := mem_of_at? found
  have recent : requestForThird.began - requestForThird.began ≤ rreqInfoTime := by decide
  have started : FloodRun requestForThird (fun _ => defaultRreqs)
      { now := 0, host := hostAt, flight := [⟨1, requestForThird.first 10⟩], heard := []
        forwards := [], replies := [] } :=
    .start hostAt 10 (fun _ => rfl) rfl
  have first := started.deliver 2 atStart false ⟨1, requestForThird.first 10⟩ 9
    (List.mem_singleton_self _) rfl recent relays
  have second := first.deliver 3 atStart false copy 8 (List.mem_append_right _ sent) rfl recent
    answers
  refine ⟨_, second, List.mem_append_left _ (List.mem_append_right _ ?_), ?_,
    (rreq_floods_once second).1⟩
  · rw [if_pos asked]
    exact List.mem_singleton_self 2
  · intro empty
    rw [(List.append_eq_nil_iff.mp empty).2] at replies
    cases replies

end SyncFanet.Dsr
