import SyncFanet.Dsr.AttestedHandlers

/-!
# Packets that pass on what was heard

A node with the link cache that receives or overhears a packet: what it learns, replies and
sends on says no more than was heard, this reception included.
-/

set_option autoImplicit false

namespace SyncFanet.Dsr

section

variable {nodes : Finset InAddr} {met : InAddr → InAddr → Prop} {me sender src dst next : InAddr}
  {dp : DsrPkt} {opt : DsrSrtOpt} {back cut srt : DsrSrt}

theorem Routing.previousHop (routing : Routing met sender dp.src dp.dst next opt) :
    previousHop dp opt = sender := by
  rw [Dsr.previousHop, List.getD_eq_getElem?_getD, routing.here]
  rfl

theorem Routing.intendedHop (routing : Routing met sender dp.src dp.dst next opt) :
    intendedHop dp opt = next := by
  rw [Dsr.intendedHop, List.getD_eq_getElem?_getD, routing.next]
  rfl

theorem Routing.forward {hop : InAddr} (routing : Routing met sender src dst me opt)
    (some : 0 < opt.sleft)
    (behind : (opt.addrs ++ [dst])[opt.addrs.length - opt.sleft + 1]? = Option.some hop) :
    Routing met me src dst hop { opt with sleft := opt.sleft - 1 } := by
  have left := routing.left
  have position : opt.addrs.length - (opt.sleft - 1) = opt.addrs.length - opt.sleft + 1 := by omega
  refine ⟨routing.length, routing.distinct, routing.linked, by dsimp only; omega, ?_, ?_⟩
  · have here := routing.next
    rw [List.getElem?_append_left (by omega)] at here
    simp only [position]
    exact here
  · simp only [position]
    exact behind

theorem actLoop_forwards {dp' : DsrPkt} {action rounds mask : Nat}
    (fate : (actLoop dp action rounds mask).2 = .xmit dp') :
    action.testBit 7 = true ∨ action.testBit 8 = true := by
  have acts : ∀ bit, (actOn dp bit).2 = some (.xmit dp') →
      bit = dsrPktForward ∨ bit = dsrPktForwardRreq := by
    intro bit decided
    unfold actOn at decided
    split_ifs at decided with _ forward _ rreq
    all_goals first | exact .inl forward | exact .inr rreq | cases decided
  have asked : ∀ mask, action &&& mask = dsrPktForward ∨ action &&& mask = dsrPktForwardRreq →
      action.testBit 7 = true ∨ action.testBit 8 = true := by
    intro mask same
    have bits : (action &&& mask).testBit 7 = true ∨ (action &&& mask).testBit 8 = true := by
      rcases same with same | same
      · rw [same]
        decide
      · rw [same]
        decide
    simp only [Nat.testBit_and, Bool.and_eq_true] at bits
    exact bits.imp And.left And.left
  induction rounds generalizing mask with
  | zero => cases fate
  | succ rounds ih =>
      unfold actLoop at fate
      cases acted : actOn dp (action &&& mask) with
      | mk calls decided =>
          rw [acted] at fate
          cases decided with
          | some decided =>
              have decided' : decided = .xmit dp' := fate
              exact asked mask (acts _ (by rw [acted, decided']))
          | none => exact ih fate

end

namespace Host

variable {nodes : Finset InAddr} {met : InAddr → InAddr → Prop} {now : SimTime}
  {outside : Outside} {config : RreqConfig} {host after : Host} {dp : DsrPkt} {sender : InAddr}

variable {result : Host × List (DsrSrt × DsrSrt) × Fate}

/-! ## Options behind a source route -/

structure Behind (met : InAddr → InAddr → Prop) (now : SimTime) (host : Host) (dp : DsrPkt)
    (dopt : DsrOpt) (recv : HostRecv DsrOpt) : Prop where
  stays : StaysHonest met now host recv.host
  packet : SamePacket dp recv.dp
  nxtHop : recv.dp.nxtHop = dp.nxtHop
  opt : Truthful met dp.dst recv.opt
  replies : recv.replies = []
  forwards : recv.action.testBit 7 = true → ¬dopt.Silent ∧ dp.dst ≠ host.node.myaddr
  quiet : recv.action.testBit 8 = false

theorem Behind.skip {dopt : DsrOpt} {action : Nat} (stays : StaysHonest met now host after)
    (truthful : Truthful met dp.dst dopt)
    (unforwarded : action.testBit 7 = false ∧ action.testBit 8 = false) :
    Behind met now host dp dopt
      { host := after, dp := dp, opt := dopt, replies := [], action := action } :=
  ⟨stays, .refl, rfl, truthful, rfl,
    fun asks => absurd (unforwarded.1.symm.trans asks) Bool.false_ne_true, unforwarded.2⟩

theorem rrepOptRecv_behind {opt : DsrRrepOpt} {recv : HostRecv DsrRrepOpt}
    (meets : Meets nodes met) (honest : host.Honest met now) (time : outside.now = now)
    (reporting : Reporting met dp.dst opt)
    (ran : host.rrepOptRecv outside dp opt = .ok recv) :
    Behind met now host dp (.rrep opt) (recv.map .rrep) := by
  unfold rrepOptRecv at ran
  split at ran
  · cases ran
    exact .skip honest.stays (.inr ⟨opt, rfl, reporting⟩) (unforwarded _ (by simp))
  · dsimp only at ran
    generalize changed : (if opt.addrs.getLast? = some host.node.myaddr then opt
      else actualizeMyCostRrep host.node opt) = opt' at ran
    have same : opt'.addrs = opt.addrs := by
      rw [← changed]
      split
      · rfl
      · exact actualizeMyCostRrep_addrs _ _
    obtain ⟨srt, route, ran⟩ := bind_ok.mp ran
    obtain ⟨node, added, ran⟩ := bind_ok.mp ran
    cases ran
    rw [time] at added
    obtain ⟨starts, listed⟩ := rrepRoute_nodes route
    have linked : srt.nodes.IsChain met := by
      rw [DsrSrt.nodes, List.cons_append, starts, listed, same]
      exact reporting
    have stays := routeAdd_honest meets honest linked added
    have truthful : Reporting met dp.dst opt' := by
      unfold Reporting
      rw [same]
      exact reporting
    have myaddr : node.myaddr = host.node.myaddr := stays.myaddr
    have later : StaysHonest met now { host with node := node } { host with
        node := node, table := (rreqTblRouteDiscoveryCancel host.table srt.dst).1 } :=
      stays.honest.of_node rfl rfl stays.honest.valid stays.honest.links (fun _ => id) rfl
    refine ⟨stays.trans later, ⟨rfl, rfl, rfl, rfl⟩, rfl, .inr ⟨opt', rfl, truthful⟩, rfl, ?_, ?_⟩
    · intro asks
      refine ⟨id, fun here => ?_⟩
      simp only [HostRecv.map, myaddr, here, if_true] at asks
      exact absurd asks (by decide)
    · simp only [HostRecv.map]
      split <;> decide

theorem recvOption_behind {seen : List DsrOpt} {dopt : DsrOpt} {recv : HostRecv DsrOpt}
    (meets : Meets nodes met) (honest : host.Honest met now) (time : outside.now = now)
    (truthful : Truthful met dp.dst dopt)
    (ran : host.recvOption outside config seen dp dopt = .ok recv) :
    Behind met now host dp dopt recv := by
  have skipped : ∀ {action}, action ∈ [0, dsrPktNone, dsrPktSrtRemove, dsrPktSendIcmp,
      dsrPktSendBuffered, dsrPktDrop, dsrPktError, dsrPktDeliver] → Behind met now host dp dopt
        { host := host, dp := dp, opt := dopt, replies := [], action := action } :=
    fun member => .skip honest.stays truthful (unforwarded _ member)
  unfold recvOption at ran
  cases dopt with
  | padn | prevHop | timeout | flowid | pad1 =>
      cases ran
      exact skipped (by simp)
  | rreq opt =>
      rcases truthful with silent | ⟨_, same, _⟩
      · exact silent.elim
      · cases same
  | srt opt =>
      rcases truthful with silent | ⟨_, same, _⟩
      · exact silent.elim
      · cases same
  | rrep opt =>
      dsimp only at ran
      split at ran
      · cases ran
        exact skipped (by simp)
      · obtain ⟨result, received, rfl⟩ := map_ok ran
        rcases truthful with silent | ⟨_, same, reporting⟩
        · exact silent.elim
        · cases same
          exact rrepOptRecv_behind meets honest time reporting received
  | rerr opt =>
      dsimp only at ran
      split at ran
      · cases ran
        exact skipped (by simp)
      · cases ran
        refine .skip ?_ truthful (unforwarded _ (by simp))
        unfold rerrOptRecv
        split
        · rw [time]
          exact honest.of_node rfl rfl (honest.valid.deleteEdge _ _ true) honest.links.deleteEdge
            (fun _ => id) rfl
        · exact honest.stays
  | ack opt =>
      dsimp only at ran
      split at ran
      · cases ran
        exact skipped (by simp)
      · cases ran
        refine skipped ?_
        split <;> simp
  | ackReq id =>
      cases ran
      have acts : (dsrAckReqOptRecv host.node dp id).action = dsrPktError ∨
          (dsrAckReqOptRecv host.node dp id).action = dsrPktNone := by
        unfold dsrAckReqOptRecv
        split
        · exact .inl rfl
        · exact .inr rfl
      have bits := unforwarded (dsrAckReqOptRecv host.node dp id).action (by
        rcases acts with same | same <;> simp [same])
      refine ⟨honest.stays, ?_, ?_, truthful, rfl, fun asks => ?_, bits.2⟩
      · unfold dsrAckReqOptRecv
        split_ifs <;> exact ⟨rfl, rfl, rfl, rfl⟩
      · unfold dsrAckReqOptRecv
        split_ifs <;> rfl
      · exact absurd (bits.1.symm.trans asks) Bool.false_ne_true

structure AllBehind (met : InAddr → InAddr → Prop) (now : SimTime)
    (start : HostRecv (List DsrOpt)) (options : List DsrOpt) (final : HostRecv (List DsrOpt)) :
    Prop where
  stays : StaysHonest met now start.host final.host
  packet : SamePacket start.dp final.dp
  nxtHop : final.dp.nxtHop = start.dp.nxtHop
  opt : ∃ rest, final.opt = start.opt ++ rest ∧ rest.length = options.length ∧
    ∀ dopt ∈ rest, Truthful met start.dp.dst dopt
  replies : final.replies = start.replies
  forwards : final.action.testBit 7 = true → start.action.testBit 7 = true ∨
    (∃ dopt ∈ options, ¬dopt.Silent) ∧ start.dp.dst ≠ start.host.node.myaddr
  quiet : final.action.testBit 8 = start.action.testBit 8

theorem recvOptions_behind {start final : HostRecv (List DsrOpt)} {options : List DsrOpt}
    (meets : Meets nodes met) (honest : start.host.Honest met now) (time : outside.now = now)
    (truthful : ∀ dopt ∈ options, Truthful met start.dp.dst dopt)
    (ran : recvOptions outside config start options = .ok final) :
    AllBehind met now start options final := by
  induction options generalizing start with
  | nil =>
      cases ran
      exact ⟨honest.stays, .refl, rfl, ⟨[], by simp, rfl, List.forall_mem_nil _⟩, rfl, .inl, rfl⟩
  | cons dopt options ih =>
      obtain ⟨recv, received, ran⟩ := bind_ok.mp ran
      have here := recvOption_behind meets honest time (truthful dopt List.mem_cons_self) received
      obtain ⟨stays, packet, nxtHop, ⟨rest, whole, length, truth⟩, replies, forwards, quiet⟩ :=
        ih here.stays.honest (by
          intro other member
          rw [here.packet.dst]
          exact truthful other (List.mem_cons_of_mem _ member)) ran
      refine ⟨here.stays.trans stays, here.packet.trans packet, nxtHop.trans here.nxtHop,
        ⟨recv.opt :: rest, ?_, ?_, ?_⟩, ?_, ?_, ?_⟩
      · rw [whole]
        simp
      · rw [List.length_cons, length, List.length_cons]
      · intro other member
        rcases List.mem_cons.mp member with rfl | later
        · exact here.opt
        · rw [← here.packet.dst]
          exact truth other later
      · rw [replies, here.replies, List.append_nil]
      · intro asks
        rcases forwards asks with before | ⟨⟨other, member, loud⟩, apart⟩
        · rw [Nat.testBit_or, Bool.or_eq_true] at before
          rcases before with before | now
          · exact .inl before
          · obtain ⟨loud, apart⟩ := here.forwards now
            exact .inr ⟨⟨dopt, List.mem_cons_self, loud⟩, apart⟩
        · refine .inr ⟨⟨other, List.mem_cons_of_mem _ member, loud⟩, ?_⟩
          rw [← here.packet.dst, ← here.stays.myaddr]
          exact apart
      · rw [quiet, Nat.testBit_or, here.quiet, Bool.or_false]

/-! ## A source route -/

theorem srtOptRecv_honest {opt : DsrSrtOpt} {recv : HostRecv DsrSrtOpt}
    (meets : Meets nodes met) (honest : host.Honest met now) (time : outside.now = now)
    (routing : Routing met sender dp.src dp.dst host.node.myaddr opt)
    (heard : met host.node.myaddr sender) (direct : dp.hasFlag pktPromiscRecv = false)
    (ran : host.srtOptRecv outside dp opt = .ok recv) :
    StaysHonest met now host recv.host ∧ recv.replies = [] ∧
      ∃ handled : Recv DsrSrtOpt, RoutedRecv dp opt handled ∧ recv.dp = handled.dp ∧
        recv.opt = handled.opt ∧ recv.action = handled.action := by
  obtain ⟨result, handled, ran⟩ := bind_ok.mp ran
  obtain ⟨srt, made, ran⟩ := bind_ok.mp ran
  obtain ⟨intended, _, ran⟩ := bind_ok.mp ran
  obtain ⟨prvHop, before, ran⟩ := bind_ok.mp ran
  obtain ⟨learned, learns, ran⟩ := bind_ok.mp ran
  cases ran
  have madeOf := madeOf_dsrSrtNew routing.length made
  have previous := madeOf.previous routing.left
  rw [before, routing.previousHop] at previous
  obtain rfl := Except.ok.inj previous
  have linked : srt.nodes.IsChain met := by
    rw [DsrSrt.nodes, madeOf.src, madeOf.addrs, madeOf.dst]
    exact routing.linked
  have stays := learnSrt_honest meets honest time linked heard learns
  have routed := dsrSrtOptRecv_routed honest.linkCache routing.length routing.left direct
    routing.intendedHop handled
  refine ⟨stays, ?_, result, routed, rfl, rfl, rfl⟩
  refine List.filterMap_eq_nil_iff.mpr fun call among => ?_
  have silent := List.filterMap_eq_nil_iff.mp routed.replies call among
  cases call <;> first | rfl | cases silent

/-! ## A packet -/

/-- What a node leaves of a packet: it stays honest, its replies go over such routes, and so does
the packet where it is sent on. -/
structure PassesOn (met : InAddr → InAddr → Prop) (now : SimTime) (host : Host)
    (result : Host × List (DsrSrt × DsrSrt) × Fate) : Prop where
  stays : StaysHonest met now host result.1
  replies : ∀ reply ∈ result.2.1, ReplyOver met host.node.myaddr reply
  sendable : ∀ dp, result.2.2 = .xmit dp → Sendable met host.node.myaddr dp

theorem dsrRecv_passesOn {recv : HostRecv (List DsrOpt)} (meets : Meets nodes met)
    (time : outside.now = now) (received : host.dsrOptRecv outside config dp = .ok recv)
    (stays : StaysHonest met now host recv.host)
    (replies : ∀ reply ∈ recv.replies, ReplyOver met host.node.myaddr reply)
    (sendable : dp.hasFlag pktPromiscRecv = false →
      recv.action.testBit 7 = true ∨ recv.action.testBit 8 = true →
        Sendable met host.node.myaddr recv.dp) (ran : host.dsrRecv outside config dp = .ok result) :
    PassesOn met now host result := by
  obtain ⟨recv', received', ran⟩ := bind_ok.mp ran
  rw [received] at received'
  cases received'
  split at ran
  · cases ran
    exact ⟨stays, replies, fun dp fate => by cases fate⟩
  · next direct =>
    obtain ⟨sent, calls, ran⟩ := bind_ok.mp ran
    cases ran
    refine ⟨stays.trans (sendCalls_honest meets stays.honest time calls), replies, ?_⟩
    intro dp' fate
    rw [actLoop_xmit fate]
    exact sendable (Bool.not_eq_true _ ▸ direct) (actLoop_forwards fate)

theorem deliver_unforwarded (delivers : Prop) [Decidable delivers] :
    (if delivers then dsrPktDeliver else 0).testBit 7 = false ∧
      (if delivers then dsrPktDeliver else 0).testBit 8 = false := by
  split <;> decide

theorem dsrRecv_routed {opt : DsrSrtOpt} {rest : List DsrOpt} (meets : Meets nodes met)
    (honest : host.Honest met now) (time : outside.now = now)
    (options : dp.opth = [.srt opt :: rest])
    (routing : Routing met sender dp.src dp.dst host.node.myaddr opt)
    (others : ∀ dopt ∈ rest, Truthful met dp.dst dopt) (heard : met host.node.myaddr sender)
    (direct : dp.hasFlag pktPromiscRecv = false)
    (ran : host.dsrRecv outside config dp = .ok result) : PassesOn met now host result := by
  obtain ⟨recv, received, -⟩ := bind_ok.mp ran
  have received' := received
  obtain ⟨looped, loop, received'⟩ := bind_ok.mp received'
  cases received'
  have flat : dp.opth.flatten = .srt opt :: rest := by simp [options]
  rw [flat] at loop
  obtain ⟨first, handled, loop⟩ := bind_ok.mp loop
  obtain ⟨inner, srtHandled, rfl⟩ := map_ok handled
  obtain ⟨stays, replies, handled, routed, sameDp, sameOpt, sameAction⟩ :=
    srtOptRecv_honest meets honest time routing heard direct srtHandled
  have idle := deliver_unforwarded (dp.dst = host.node.myaddr ∧ dp.payloadLen ≠ 0)
  obtain ⟨staysAll, packet, nxtHop, ⟨kept, whole, length, truth⟩, noReplies, forwards, quiet⟩ :=
    recvOptions_behind meets stays.honest time (by
      intro dopt member
      show Truthful met inner.dp.dst dopt
      rw [sameDp, routed.packet.dst]
      exact others dopt member) loop
  simp only [HostRecv.map, List.nil_append, sameDp, sameOpt, sameAction]
    at packet nxtHop whole truth noReplies forwards quiet
  refine dsrRecv_passesOn meets time received (stays.trans staysAll) ?_ ?_ ran
  · rw [noReplies]
    show ∀ reply ∈ inner.replies, _
    rw [replies]
    exact List.forall_mem_nil _
  · intro _ asks
    have bit7 : looped.action.testBit 7 = true := by
      refine asks.resolve_right fun bit8 => ?_
      rw [quiet, Nat.testBit_or, idle.2, routed.quiet] at bit8
      cases bit8
    have some : 0 < opt.sleft := by
      by_contra none
      have last : dp.dst = host.node.myaddr := by
        have next := routing.next
        have zero : opt.addrs.length - opt.sleft = opt.addrs.length := by omega
        rw [zero, List.getElem?_append_right le_rfl, Nat.sub_self] at next
        exact Option.some.inj next
      rcases forwards bit7 with before | ⟨-, apart⟩
      · rw [Nat.testBit_or, idle.1, Bool.false_or] at before
        exact none (routed.forwards before).1
      · rw [routed.packet.dst] at apart
        exact apart (last.trans stays.myaddr.symm)
    obtain ⟨-, changed, behind⟩ := routed.forwards (routed.passes some)
    have again := routing.forward some behind
    have split : (dp.opth.map List.length).splitLengths looped.opt =
        [.srt { opt with sleft := opt.sleft - 1 } :: kept] := by
      rw [options, whole, changed]
      simp [List.splitLengths, length]
    rw [← routed.packet.src, ← routed.packet.dst, ← packet.src, ← packet.dst, ← nxtHop] at again
    rw [← packet.dst] at truth
    exact Routing.sendable meets again split truth

theorem dsrRecv_request {opt : DsrRreqOpt} (meets : Meets nodes met)
    (honest : host.Honest met now) (time : outside.now = now) (options : dp.opth = [[.rreq opt]])
    (seeking : Seeking met sender dp.src opt) (empty : dp.payloadLen = 0)
    (quiet : dp.hasFlag pktRequestAck = false) (heard : met sender host.node.myaddr)
    (other : host.node.myaddr ≠ dp.src) (ran : host.dsrRecv outside config dp = .ok result) :
    PassesOn met now host result := by
  obtain ⟨final, received, -⟩ := bind_ok.mp ran
  cases direct : dp.hasFlag pktPromiscRecv with
  | true =>
      have received' := received
      obtain ⟨looped, loop, received'⟩ := bind_ok.mp received'
      cases received'
      have flat : dp.opth.flatten = [.rreq opt] := by simp [options]
      rw [flat] at loop
      obtain ⟨skipped, handled, loop⟩ := bind_ok.mp loop
      simp only [recvOption, direct, if_true] at handled
      cases handled
      cases loop
      refine dsrRecv_passesOn meets time received honest.stays (List.forall_mem_nil _)
        (fun heard => ?_) ran
      rw [direct] at heard
      cases heard
  | false =>
      obtain ⟨recv, handled, rfl⟩ := dsrOptRecv_rreq options empty direct received
      obtain ⟨stays, replies, forwards, action⟩ :=
        rreqOptRecv_honest meets honest time seeking heard other handled
      refine dsrRecv_passesOn meets time received stays replies (fun _ asks => ?_) ran
      have sends : recv.action = dsrPktForwardRreq := by
        by_contra kept
        have listed : recv.action ∈ [dsrPktNone, dsrPktDrop, dsrPktError] := by
          simpa [kept] using action
        obtain ⟨bit7, bit8⟩ := unforwarded recv.action (by
          simp only [List.mem_cons, List.not_mem_nil, or_false] at listed ⊢
          tauto)
        simp [bit7, bit8] at asks
      have again := forwards sends
      rcases rreqOptRecv_cases handled with ⟨-, drops⟩ | ⟨-, -, -, answered⟩
      · exact absurd (drops.symm.trans sends) (by decide)
      · cases answered with
        | replied _ _ _ _ _ _ _ none => exact absurd (none.symm.trans sends) (by decide)
        | listed _ drops => exact absurd (drops.symm.trans sends) (by decide)
        | forwarded _ _ _ _ packet payload _ =>
            refine ⟨⟨_, rfl, .request ?_ (payload.trans empty)⟩, fun _ _ => ?_⟩
            · show Seeking met host.node.myaddr recv.dp.src recv.opt
              rw [packet.src]
              exact again
            · show recv.dp.hasFlag pktRequestAck = false
              rw [DsrPkt.hasFlag, packet.flags]
              exact quiet

theorem dsrRecv_plain {options : List DsrOpt} (meets : Meets nodes met)
    (honest : host.Honest met now) (time : outside.now = now) (whole : dp.opth = [options])
    (silent : ∀ dopt ∈ options, dopt.Silent) (ran : host.dsrRecv outside config dp = .ok result) :
    PassesOn met now host result := by
  obtain ⟨recv, received, -⟩ := bind_ok.mp ran
  have received' := received
  obtain ⟨looped, loop, received'⟩ := bind_ok.mp received'
  cases received'
  have flat : dp.opth.flatten = options := by simp [whole]
  rw [flat] at loop
  obtain ⟨stays, packet, nxtHop, -, noReplies, forwards, quiet⟩ :=
    recvOptions_behind meets honest time (fun dopt member => .inl (silent dopt member)) loop
  have idle := deliver_unforwarded (dp.dst = host.node.myaddr ∧ dp.payloadLen ≠ 0)
  refine dsrRecv_passesOn meets time received stays ?_ (fun _ asks => ?_) ran
  · rw [noReplies]
    exact List.forall_mem_nil _
  · exfalso
    rcases asks with bit7 | bit8
    · rcases forwards bit7 with before | ⟨⟨dopt, member, loud⟩, -⟩
      · exact absurd (idle.1.symm.trans before) Bool.false_ne_true
      · exact loud (silent dopt member)
    · rw [quiet, idle.2] at bit8
      cases bit8

theorem processDsr_passesOn {p : DSRPkt} {promisc : Bool} {ttl : Nat} (meets : Meets nodes met)
    (honest : host.Honest met now) (time : outside.now = now)
    (attested : Attested met ⟨sender, p⟩) (heard : met host.node.myaddr sender)
    (reaches : promisc = true ∨ p.nextAddress = none ∨ p.nextAddress = some host.node.myaddr)
    (ran : host.processDsr outside config promisc { p with ttl := ttl } = .ok result) :
    PassesOn met now host result := by
  have idle : PassesOn met now host (host, [], .free) :=
    ⟨honest.stays, List.forall_mem_nil _, fun dp fate => by cases fate⟩
  cases promisc with
  | true =>
      rw [processDsr_overheard] at ran
      cases ran
      exact idle
  | false =>
      unfold processDsr at ran
      split at ran
      · next foreign =>
        obtain ⟨options, whole, header⟩ := attested
        have flags : ∀ flag, p.payloadLen = 0 ∨ pktRequestAck &&& flag = 0 →
            (arrived host.node.config.useNetworkLayerAck false { p with ttl := ttl }).hasFlag flag =
              false := by
          intro flag quiet
          rcases quiet with empty | apart
          · simp [arrived, dsrPktAlloc, dsrOptParse, DsrPkt.hasFlag, empty]
          · simp only [arrived, dsrPktAlloc, dsrOptParse, DsrPkt.hasFlag]
            split_ifs <;> simp_all
        have same : ∀ dp, arrived host.node.config.useNetworkLayerAck false
            { p with ttl := ttl } = dp → dp.opth = [options] ∧ dp.src = p.src ∧ dp.dst = p.dst ∧
              dp.payloadLen = p.payloadLen := by
          rintro dp rfl
          exact ⟨whole, rfl, rfl, rfl⟩
        generalize arrived host.node.config.useNetworkLayerAck false { p with ttl := ttl } = dp
          at ran flags same
        obtain ⟨opth, src, dst, payload⟩ := same dp rfl
        have foreign : p.src ≠ host.node.myaddr := foreign
        dsimp only at header
        rw [← src, ← dst, ← payload] at header
        cases header with
        | request seeking empty =>
            exact dsrRecv_request meets honest time opth seeking empty
              (flags _ (.inl (payload ▸ empty))) (meets.symm _ _ heard) (src ▸ Ne.symm foreign) ran
        | routed routing next others =>
            have direct := flags pktPromiscRecv (.inr rfl)
            have here := (reaches.resolve_left Bool.false_ne_true).resolve_left fun none => by
              cases none.symm.trans next
            obtain rfl := Option.some.inj (next.symm.trans here)
            exact dsrRecv_routed meets honest time opth routing others heard direct ran
        | plain silent => exact dsrRecv_plain meets honest time opth silent ran
      · cases ran
        exact idle

end Host

end SyncFanet.Dsr
