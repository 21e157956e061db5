import SyncFanet.Dsr.AttestedReceive

/-!
# Runs of a network with link caches

Whatever order packets are sent, lost, overheard and salvaged in, the routes that the nodes find
and the routes, replies and requests that they transmit lead over links that were heard, and
repeat no node.
-/

set_option autoImplicit false

namespace SyncFanet.Dsr

section

variable {met : InAddr → InAddr → Prop} {me sender src dst : InAddr} {next : Option InAddr}
  {payloadLen : Nat} {options header : List DsrOpt} {opt : DsrSrtOpt} {dp : DsrPkt}

theorem Header.routing (header : Header met sender src dst next payloadLen options)
    (found : options.findSome? srtOption = some opt) :
    ∃ hop rest, next = some hop ∧ options = .srt opt :: rest ∧
      Routing met sender src dst hop opt ∧ ∀ dopt ∈ rest, Truthful met dst dopt := by
  cases header with
  | request seeking empty => cases found
  | @routed first hop rest routing reaches others =>
      have same : some first = some opt := found
      cases same
      exact ⟨hop, rest, reaches, rfl, routing, others⟩
  | plain silent =>
      obtain ⟨dopt, member, here⟩ := List.exists_of_findSome?_eq_some found
      have quiet := silent dopt member
      cases dopt with
      | srt _ => exact quiet.elim
      | padn | rreq _ | rrep _ | rerr _ | prevHop | ack _ | timeout | flowid | ackReq _ | pad1 =>
          cases here

theorem findSome?_ackReqs (header : List DsrOpt) (ids : List Nat) :
    (header ++ ids.map DsrOpt.ackReq).findSome? srtOption = header.findSome? srtOption := by
  have none : (ids.map DsrOpt.ackReq).findSome? srtOption = none := by
    refine List.findSome?_eq_none_iff.mpr fun dopt member => ?_
    obtain ⟨id, -, rfl⟩ := List.mem_map.mp member
    rfl
  rw [List.findSome?_append, none, Option.or_none]

theorem attested_transmitted {outside : Outside} {copy : RreqCopy}
    (sendable : Sendable met me dp) (member : copy ∈ transmitted me outside (.xmit dp)) :
    Attested met copy := by
  obtain ⟨p, sent, rfl⟩ := List.mem_map.mp member
  exact sendable.transmitted (Option.mem_toList.mp sent)

end

namespace RouteNet

variable {nodes : Finset InAddr} {net : RouteNet} {addr : InAddr}

theorem met_symm (one other : InAddr) (met : net.Met one other) : net.Met other one :=
  Or.symm met

structure Speaks (nodes : Finset InAddr) (net : RouteNet) : Prop where
  among : ∀ pair ∈ net.heard, pair.1 ∈ nodes ∧ pair.2 ∈ nodes
  myaddr : ∀ addr ∈ nodes, (net.host addr).node.myaddr = addr
  honest : ∀ addr ∈ nodes, (net.host addr).Honest net.Met net.now
  flight : ∀ copy ∈ net.flight, Attested net.Met copy

namespace Speaks

theorem meets (speaks : net.Speaks nodes) (few : nodes.card ≤ 63)
    (unicast : dsrBroadcast ∉ nodes) : Meets nodes net.Met where
  symm := met_symm
  inside _ _ met := met.elim (fun heard => (speaks.among _ heard).1)
    fun heard => (speaks.among _ heard).2
  few := few
  unicast := unicast

theorem onAir {copy : RreqCopy} (speaks : net.Speaks nodes) (onAir : net.OnAir copy)
    (sender : copy.sender ∈ nodes) : Attested net.Met copy := by
  cases onAir with
  | inl inFlight => exact speaks.flight copy inFlight
  | inr own =>
      obtain ⟨pair, stored, same⟩ := List.mem_map.mp own
      have attested := (speaks.honest _ sender).sent pair stored
      rw [speaks.myaddr _ sender, same] at attested
      exact attested

theorem after {host : Host} {copies : List RreqCopy} (speaks : net.Speaks nodes)
    (member : addr ∈ nodes) (stays : Host.StaysHonest net.Met net.now (net.host addr) host)
    (sends : ∀ copy ∈ copies, Attested net.Met copy) :
    (net.after addr host copies).Speaks nodes where
  among := speaks.among
  myaddr other among := by
    simp only [RouteNet.after, Function.update_apply]
    split
    · next here => rw [here, stays.myaddr, speaks.myaddr _ member]
    · exact speaks.myaddr other among
  honest other among := by
    simp only [RouteNet.after, Function.update_apply]
    split
    · exact stays.honest
    · exact speaks.honest other among
  flight copy sent := (List.mem_append.mp sent).elim (speaks.flight copy) (sends copy)

theorem sends {copies : List RreqCopy} (speaks : net.Speaks nodes)
    (sends : ∀ copy ∈ copies, Attested net.Met copy) :
    Speaks nodes { net with flight := net.flight ++ copies } where
  among := speaks.among
  myaddr := speaks.myaddr
  honest := speaks.honest
  flight copy sent := (List.mem_append.mp sent).elim (speaks.flight copy) (sends copy)

theorem hears {sender : InAddr} (speaks : net.Speaks nodes) (member : addr ∈ nodes)
    (other : sender ∈ nodes) :
    Speaks nodes { net with heard := net.heard ++ [(addr, sender)] } := by
  have grows : ∀ a b, net.Met a b →
      RouteNet.Met { net with heard := net.heard ++ [(addr, sender)] } a b :=
    fun a b met => met.imp (List.mem_append_left _) (List.mem_append_left _)
  refine ⟨fun pair heard => ?_, speaks.myaddr,
    fun other among => (speaks.honest other among).mono grows,
    fun copy sent => (speaks.flight copy sent).mono grows⟩
  cases List.mem_append.mp heard with
  | inl old => exact speaks.among pair old
  | inr new =>
      rw [List.mem_singleton.mp new]
      exact ⟨member, other⟩

theorem wait {later : SimTime} (speaks : net.Speaks nodes) (le : net.now ≤ later) :
    Speaks nodes { net with now := later } :=
  ⟨speaks.among, speaks.myaddr, fun addr member => (speaks.honest addr member).wait le,
    speaks.flight⟩

theorem lost {dp : DsrPkt} {opt : DsrSrtOpt} (speaks : net.Speaks nodes) (member : addr ∈ nodes)
    (lost : net.Lost addr dp) (routed : dp.srtOpt = some opt) :
    ∃ rest, dp.opth = [.srt opt :: rest] ∧ Routing net.Met addr dp.src dp.dst dp.nxtHop opt ∧
      ∀ dopt ∈ rest, Truthful net.Met dp.dst dopt := by
  cases lost with
  | @transmission copy ackReq kept _ air own sent parsed failed =>
      subst own
      obtain ⟨options, whole, attested⟩ := speaks.onAir air member
      obtain ⟨header, ids, split, single⟩ := header_of_transmitted sent whole
      obtain ⟨src, dst, next, -⟩ := omnetXmit_options sent
      rw [src, dst, next] at attested
      have listed : ∀ opt, header.findSome? srtOption = some opt → ∃ rest,
          kept.opth = [.srt opt :: rest] ∧
          Routing net.Met copy.sender kept.src kept.dst kept.nxtHop opt ∧
          (∀ dopt ∈ rest, Truthful net.Met kept.dst dopt) ∧ kept.dst ≠ dsrBroadcast := by
        intro opt found
        have among : options.findSome? srtOption = some opt := by
          rw [split, findSome?_ackReqs, found]
        obtain ⟨hop, rest, reaches, same, routing, others⟩ := attested.routing among
        have unicast : kept.dst ≠ dsrBroadcast := by
          intro broadcast
          rw [if_neg (not_not.mpr broadcast)] at reaches
          cases reaches
        rw [if_pos unicast] at reaches
        cases reaches
        cases header with
        | nil => cases found
        | cons first rest' =>
            rw [same, List.cons_append] at split
            obtain ⟨rfl, rfl⟩ := List.cons.inj split
            exact ⟨rest', single.resolve_right fun empty => List.cons_ne_nil _ _ empty.2, routing,
              fun dopt among => others dopt (List.mem_append_left _ among), unicast⟩
      cases failed with
      | kept =>
          have found : header.findSome? srtOption = some opt := by
            rw [parsed] at routed
            rcases single with opth | ⟨opth, -⟩
            · rwa [opth, List.flatten_singleton] at routed
            · rw [opth] at routed
              cases routed
          obtain ⟨rest, opth, routing, others, -⟩ := listed opt found
          exact ⟨rest, opth, routing, others⟩
      | @returned useNetworkLayerAck ackReq' p nxtHop sent' next' =>
          obtain ⟨src', dst', reached, -⟩ := omnetXmit_options sent'
          have found : header.findSome? srtOption = some opt := by
            have routed : p.dsrOptions.flatten.findSome? srtOption = some opt := routed
            rcases single with opth | ⟨opth, -⟩
            · obtain ⟨ids', opth'⟩ := transmitted_header sent' opth
              rwa [opth', List.flatten_singleton, findSome?_ackReqs] at routed
            · rcases (omnetXmit_options sent').2.2.2 with same | ⟨id, added⟩
              · rw [same, opth] at routed
                cases routed
              · rw [added, opth] at routed
                cases routed
          obtain ⟨rest, opth, routing, others, unicast⟩ := listed opt found
          obtain ⟨ids', opth'⟩ := transmitted_header sent' opth
          rw [reached, if_pos unicast] at next'
          cases next'
          refine ⟨rest ++ ids'.map DsrOpt.ackReq, opth', ?_, ?_⟩
          · show Routing net.Met copy.sender p.src p.dst kept.nxtHop opt
            rw [src', dst']
            exact routing
          · intro dopt among
            show Truthful net.Met p.dst dopt
            rw [dst']
            cases List.mem_append.mp among with
            | inl old => exact others dopt old
            | inr new =>
                obtain ⟨id, -, rfl⟩ := List.mem_map.mp new
                exact .inl trivial

end Speaks

end RouteNet

namespace RouteRun

variable {nodes : Finset InAddr} {config : InAddr → RreqConfig} {net : RouteNet}

theorem speaks (run : RouteRun nodes config net) (few : nodes.card ≤ 63)
    (unicast : dsrBroadcast ∉ nodes) : net.Speaks nodes := by
  induction run with
  | start now host fresh =>
      exact ⟨List.forall_mem_nil _, fun addr member => (fresh addr member).myaddr,
        fun addr member => (fresh addr member).honest, List.forall_mem_nil _⟩
  | wait before le ih => exact ih.wait le
  | act before member acts ih =>
      exact ih.after member (acts.honest (ih.meets few unicast) (ih.honest _ member))
        (List.forall_mem_nil _)
  | request before request member ttl ih =>
      refine ih.sends fun copy sent => ?_
      rw [List.mem_singleton.mp sent]
      exact request_attested request ttl
  | ack before member outside dst id ih =>
      exact ih.sends fun copy sent => attested_transmitted (dsrAckSend_sendable id) sent
  | @receive net before addr member copy onAir sender outside time promisc ttl reaches result
      replies ran sends ih =>
      have heard := ih.hears member sender
      have myaddr := ih.myaddr addr member
      have met : RouteNet.Met { net with heard := net.heard ++ [(addr, copy.sender)] } addr
          copy.sender := .inl (List.mem_append_right _ (List.mem_singleton_self _))
      have passes := Host.processDsr_passesOn (heard.meets few unicast) (heard.honest addr member)
        time (heard.onAir onAir sender) (by rw [myaddr]; exact met)
        (by rw [myaddr]; exact reaches) ran
      refine heard.after member passes.stays fun sent among => ?_
      cases List.mem_append.mp among with
      | inl own =>
          cases fate : result.2.2 with
          | xmit dp =>
              rw [fate] at own
              have sendable : Sendable _ (net.host addr).node.myaddr dp := passes.sendable dp fate
              rw [myaddr] at sendable
              exact attested_transmitted sendable own
          | _ =>
              rw [fate] at own
              cases own
      | inr reply =>
          obtain ⟨dp, listed, own⟩ := List.mem_flatMap.mp reply
          obtain ⟨routes, asked, made⟩ := mem_mapM sends listed
          have reply := passes.replies routes asked
          have here : result.1.node.myaddr = addr := passes.stays.myaddr.trans myaddr
          have starts : routes.1.src = result.1.node.myaddr :=
            reply.starts.trans passes.stays.myaddr.symm
          have sendable := dsrRrepSend_sendable (heard.meets few unicast) reply.along starts
            reply.ends reply.linked made
          rw [here] at sendable
          exact attested_transmitted sendable own
  | @routeError net before addr member dpTrigg lost opt routed dst whom outside time found ran
      maxSalvageCount unrAddr rerr sends ih =>
      obtain ⟨stays, finds⟩ := Host.rtcFind_honest (ih.honest addr member) time ran
      rw [ih.myaddr addr member] at finds
      refine ih.after member stays fun copy sent => attested_transmitted ?_ sent
      refine dsrRerrSend_sendable (ih.meets few unicast)
        (fun srt here => ⟨finds.along srt here, (finds.ends srt here).1⟩) ?_ sends
      intro opt' routed' dst' whom' srt here
      cases routed.symm.trans routed'
      cases whom.symm.trans whom'
      exact (finds.ends srt here).2
  | @salvage net before addr member dp lost outside time found ran dp' salvaged ih =>
      obtain ⟨stays, finds⟩ := Host.rtcFind_honest (ih.honest addr member) time ran
      rw [ih.myaddr addr member] at finds
      refine ih.after member stays fun copy sent => attested_transmitted ?_ sent
      cases routed : dp.srtOpt with
      | none =>
          unfold salvagePacket at salvaged
          rw [routed] at salvaged
          cases here : found.2 with
          | none =>
              rw [here] at salvaged
              cases salvaged
          | some srt =>
              rw [here] at salvaged
              cases salvaged
      | some opt =>
          obtain ⟨rest, opth, routing, others⟩ := ih.lost member lost routed
          exact salvagePacket_sendable (ih.meets few unicast) routing opth routed others
            (fun srt here => ⟨finds.cached srt here, finds.along srt here⟩) salvaged

/-- What a node has cached was heard, and a route that it finds leads over such links from it to
the other node without a loop. -/
theorem rtcFind_met (run : RouteRun nodes config net) (few : nodes.card ≤ 63)
    (unicast : dsrBroadcast ∉ nodes) {addr : InAddr} (member : addr ∈ nodes) :
    (∀ origin last, LinkCache.Unexpired (net.host addr).node.links.linkArray net.now origin last →
      net.Met origin last) ∧
    ∀ (outside : Outside) (dst : InAddr) (after : Host) (srt : DsrSrt), outside.now = net.now →
      (net.host addr).rtcFind outside dst = .ok (after, some srt) →
        srt.src = addr ∧ srt.dst = dst ∧ srt.nodes.Nodup ∧ srt.nodes.IsChain net.Met := by
  have speaks := run.speaks few unicast
  have honest := speaks.honest addr member
  refine ⟨honest.links, fun outside dst after srt time ran => ?_⟩
  obtain ⟨-, finds⟩ := Host.rtcFind_honest honest time ran
  rw [speaks.myaddr addr member] at finds
  have along := finds.along srt rfl
  exact ⟨(finds.ends srt rfl).1, (finds.ends srt rfl).2, along.distinct, along.linked⟩

end RouteRun

def Host.repliesOf (result : Host × List (DsrSrt × DsrSrt) × Fate) : Except Fault (List DsrPkt) :=
  result.2.1.mapM fun reply => result.1.node.dsrRrepSend reply.1 reply.2

/-- Node 2 sends the request of node 1 on, node 3 answers it, and its reply goes back over
node 2. -/
theorem route_found_relayed : ∃ net reply opt after srt,
    RouteRun {1, 2, 3} (fun _ => defaultRreqs) net ∧ net.now = 0 ∧ net.OnAir reply ∧
      reply.sender = 3 ∧ .srt opt ∈ reply.p.dsrOptions.flatten ∧ opt.addrs = [2] ∧
      (net.host 1).rtcFind atStart 3 = .ok (after, some srt) ∧ srt.addrs = [2] := by
  have computed :
      ((hostAt 2).processDsr atStart defaultRreqs false
          { requestForThird.first 10 with ttl := 9 }).bind (fun relayed =>
        (Host.repliesOf relayed).bind fun quiet =>
        (at? (transmitted 2 atStart relayed.2.2) 0).bind fun request =>
        ((hostAt 3).processDsr atStart defaultRreqs false { request.p with ttl := 8 }).bind
          fun answered =>
        (Host.repliesOf answered).bind fun replies =>
        (at? (replies.flatMap fun dp => transmitted 3 atStart (.xmit dp)) 0).bind fun reply =>
        (relayed.1.processDsr atStart defaultRreqs false { reply.p with ttl := 2 }).bind
          fun passed =>
        (Host.repliesOf passed).bind fun silent =>
        (at? (transmitted 2 atStart passed.2.2) 0).bind fun forwarded =>
        ((hostAt 1).processDsr atStart defaultRreqs false { forwarded.p with ttl := 1 }).bind
          fun ended =>
        (Host.repliesOf ended).bind fun still =>
        (ended.1.rtcFind atStart 3).map fun found =>
          ([request, reply, forwarded].map fun copy => (copy.sender, copy.p.nextAddress),
            [(reply.p.dsrOptions.flatten.findSome? srtOption).map DsrSrtOpt.addrs,
              found.2.map DsrSrt.addrs])) =
        .ok ([(2, none), (3, some 2), (2, some 1)], [some [2], some [2]]) := by
    decide +kernel
  obtain ⟨relayed, relays, computed⟩ := bind_ok.mp computed
  obtain ⟨quiet, noReply, computed⟩ := bind_ok.mp computed
  obtain ⟨request, requested, computed⟩ := bind_ok.mp computed
  obtain ⟨answered, answers, computed⟩ := bind_ok.mp computed
  obtain ⟨replies, replied, computed⟩ := bind_ok.mp computed
  obtain ⟨reply, sent, computed⟩ := bind_ok.mp computed
  obtain ⟨passed, passes, computed⟩ := bind_ok.mp computed
  obtain ⟨silent, noMore, computed⟩ := bind_ok.mp computed
  obtain ⟨forwarded, forwards, computed⟩ := bind_ok.mp computed
  obtain ⟨ended, ends, computed⟩ := bind_ok.mp computed
  obtain ⟨still, noLast, computed⟩ := bind_ok.mp computed
  obtain ⟨found, finds, same⟩ := map_ok computed
  simp only [Prod.mk.injEq, List.map_cons, List.map_nil, List.cons.injEq, and_true] at same
  obtain ⟨⟨⟨from2, toAll⟩, ⟨from3, to2⟩, again2, to1⟩, routed, route⟩ := same
  obtain ⟨opt, carried, addrs⟩ := Option.map_eq_some_iff.mp routed
  obtain ⟨srt, known, along⟩ := Option.map_eq_some_iff.mp route
  obtain ⟨dopt, listed, here⟩ := List.exists_of_findSome?_eq_some carried
  have option : dopt = .srt opt := by
    cases dopt <;> cases here
    rfl
  have started : RouteRun {1, 2, 3} (fun _ => defaultRreqs)
      { now := 0, host := hostAt, flight := [], heard := [] } :=
    .start 0 hostAt fun addr _ => ⟨rfl, rfl, rfl, rfl, rfl⟩
  have asked := started.request requestForThird (by decide) 10
  have member1 : 1 ∈ ({1, 2, 3} : Finset InAddr) := by decide
  have member2 : 2 ∈ ({1, 2, 3} : Finset InAddr) := by decide
  have member3 : 3 ∈ ({1, 2, 3} : Finset InAddr) := by decide
  have first := asked.receive member2 (.inl (List.mem_singleton_self _)) member1 atStart rfl false 9
    (.inr (.inl rfl)) relays noReply
  have second := first.receive member3
    (.inl (List.mem_append_right _ (List.mem_append_left _ (mem_of_at? requested))))
    (from2 ▸ member2) atStart rfl false 8 (.inr (.inl toAll)) answers replied
  have third := second.receive member2
    (.inl (List.mem_append_right _ (List.mem_append_right _ (mem_of_at? sent))))
    (from3 ▸ member3) atStart rfl false 2 (.inr (.inr to2)) passes noMore
  have fourth := third.receive member1
    (.inl (List.mem_append_right _ (List.mem_append_left _ (mem_of_at? forwards))))
    (again2 ▸ member2) atStart rfl false 1 (.inr (.inr to1)) ends noLast
  refine ⟨_, reply, opt, found.1, srt, fourth, rfl, .inl ?_, from3, option ▸ listed, addrs, ?_,
    along⟩
  · exact List.mem_append_left _ (List.mem_append_left _
      (List.mem_append_right _ (List.mem_append_right _ (mem_of_at? sent))))
  · rw [← known]
    exact finds

/-- The route that node 1 finds to node 3. -/
theorem rtcFind_met_relayed : ∃ (net : RouteNet) (srt : DsrSrt),
    RouteRun {1, 2, 3} (fun _ => defaultRreqs) net ∧ srt.addrs = [2] ∧
      srt.src = 1 ∧ srt.dst = 3 ∧ srt.nodes.Nodup ∧ srt.nodes.IsChain net.Met := by
  obtain ⟨net, _, _, after, srt, run, time, _, _, _, _, ran, addrs⟩ := route_found_relayed
  exact ⟨net, srt, run, addrs,
    (run.rtcFind_met (by decide) (by decide) (by decide)).2 atStart 3 after srt time.symm ran⟩

/-- In every run, the routes, replies and requests of a packet that a node has transmitted lead
over links that were heard, to that node and past it. -/
theorem RouteRun.onAir_met {nodes : Finset InAddr} {config : InAddr → RreqConfig} {net : RouteNet}
    (run : RouteRun nodes config net) (few : nodes.card ≤ 63) (unicast : dsrBroadcast ∉ nodes)
    {copy : RreqCopy} (onAir : net.OnAir copy) (sender : copy.sender ∈ nodes) :
    (∀ opt, .srt opt ∈ copy.p.dsrOptions.flatten → ∃ next, copy.p.nextAddress = some next ∧
      Routing net.Met copy.sender copy.p.src copy.p.dst next opt) ∧
    (∀ opt, .rrep opt ∈ copy.p.dsrOptions.flatten → Reporting net.Met copy.p.dst opt) ∧
    ∀ opt, .rreq opt ∈ copy.p.dsrOptions.flatten → Seeking net.Met copy.sender copy.p.src opt := by
  obtain ⟨options, whole, header⟩ := (run.speaks few unicast).onAir onAir sender
  rw [whole, List.flatten_singleton]
  cases header with
  | request seeking empty =>
      refine ⟨by simp, by simp, fun opt listed => ?_⟩
      cases List.mem_singleton.mp listed
      exact seeking
  | routed routing reaches others =>
      have behind : ∀ {opt dopt}, dopt ∈ DsrOpt.srt opt :: _ → dopt = .srt opt ∨
          Truthful net.Met copy.p.dst dopt := fun listed =>
        (List.mem_cons.mp listed).imp_right (others _)
      refine ⟨fun opt listed => ?_, fun opt listed => ?_, fun opt listed => ?_⟩
      · rcases behind listed with same | silent | ⟨_, same, _⟩
        · cases same
          exact ⟨_, reaches, routing⟩
        · exact silent.elim
        · cases same
      · rcases behind listed with same | silent | ⟨_, same, reporting⟩
        · cases same
        · exact silent.elim
        · cases same
          exact reporting
      · rcases behind listed with same | silent | ⟨_, same, _⟩
        · cases same
        · exact silent.elim
        · cases same
  | plain silent =>
      exact ⟨fun opt listed => (silent _ listed).elim, fun opt listed => (silent _ listed).elim,
        fun opt listed => (silent _ listed).elim⟩

/-- The reply of node 3 on its way back. -/
theorem onAir_met_reply : ∃ net copy opt next, RouteRun {1, 2, 3} (fun _ => defaultRreqs) net ∧
    net.OnAir copy ∧ copy.sender = 3 ∧ opt.addrs = [2] ∧
      Routing net.Met copy.sender copy.p.src copy.p.dst next opt := by
  obtain ⟨net, reply, opt, _, _, run, _, onAir, sender, listed, addrs, _, _⟩ := route_found_relayed
  obtain ⟨next, _, routing⟩ :=
    (run.onAir_met (by decide) (by decide) onAir (by rw [sender]; decide)).1 opt listed
  exact ⟨net, reply, opt, next, run, onAir, sender, addrs, routing⟩

end SyncFanet.Dsr
