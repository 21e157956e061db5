import SyncFanet.Dsr.AttestedHosts

/-!
# Handlers that repeat what was heard

What the handlers of the options make of a packet that says no more than was heard, at a node
that has received it from its sender: the links that they learn, the replies that they ask for
and the packet that they pass on.
-/

set_option autoImplicit false

namespace SyncFanet.Dsr

structure ReplyOver (met : InAddr → InAddr → Prop) (me : InAddr) (reply : DsrSrt × DsrSrt) :
    Prop where
  along : reply.1.Over met
  starts : reply.1.src = me
  ends : reply.2.src = reply.1.dst
  linked : reply.2.nodes.IsChain met

section

variable {nodes : Finset InAddr} {met : InAddr → InAddr → Prop} {me sender src dst : InAddr}
  {opt : DsrRreqOpt} {srt : DsrSrt}

theorem DsrSrt.Over.backwards (along : srt.Over met) (symm : ∀ a b, met a b → met b a) :
    srt.backwards.Over met where
  laddrs := by
    rw [DsrSrt.backwards, List.length_reverse]
    exact along.laddrs
  distinct := by
    rw [nodes_backwards]
    exact List.nodup_reverse.mpr along.distinct
  linked := by
    rw [nodes_backwards]
    exact List.isChain_reverse.mpr (along.linked.imp fun a b => symm a b)

/-! ## Requests -/

theorem Seeking.addrsLen (seeking : Seeking met sender src opt) :
    rreqAddrsLen opt = (dsrAddressSize * opt.addrs.length : Nat) := by
  rw [rreqAddrsLen, seeking.length]
  push_cast
  omega

theorem Seeking.reached (seeking : Seeking met sender src opt) (heard : met sender me) :
    (src :: opt.addrs ++ [me]).IsChain met := by
  refine List.isChain_append.mpr ⟨seeking.linked, List.isChain_singleton _, ?_⟩
  intro last there next here
  rw [seeking.last] at there
  cases there
  cases here
  exact heard

theorem Seeking.distinct_concat (seeking : Seeking met sender src opt) (other : me ≠ src)
    (unlisted : me ∉ opt.addrs) : (src :: opt.addrs ++ [me]).Nodup := by
  refine List.nodup_append.mpr ⟨seeking.distinct, List.nodup_singleton _, ?_⟩
  intro node listed last single same
  rw [List.mem_singleton.mp single] at same
  subst same
  exact (List.mem_cons.mp listed).elim other unlisted

theorem Seeking.forward (meets : Meets nodes met) (seeking : Seeking met sender src opt)
    (heard : met sender me) (other : me ≠ src) (unlisted : me ∉ opt.addrs)
    (target : opt.target ≠ me) :
    Seeking met me src { opt with
      addrs := opt.addrs ++ [me], length := (opt.length + dsrAddressSize) % 2 ^ 8 } := by
  have linked := seeking.reached heard
  have distinct := seeking.distinct_concat other unlisted
  have short := meets.length_le distinct (meets.among linked (by simp))
  simp only [List.length_append, List.length_cons, List.length_nil] at short
  refine ⟨?_, distinct, linked, ?_, ?_⟩
  · simp only [seeking.length, dsrAddressSize, List.length_append, List.length_cons,
      List.length_nil]
    omega
  · simp [List.getLast?_cons]
  · intro listed
    cases List.mem_append.mp listed with
    | inl before => exact seeking.target before
    | inr last => exact target (List.mem_singleton.mp last)

end

namespace Host

variable {nodes : Finset InAddr} {met : InAddr → InAddr → Prop} {now : SimTime}
  {outside : Outside} {config : RreqConfig} {host after : Host} {dp : DsrPkt} {sender : InAddr}
  {srt srtRev : DsrSrt}

structure AnswersOver (met : InAddr → InAddr → Prop) (now : SimTime) (host : Host) (src : InAddr)
    (recv : HostRecv DsrRreqOpt) : Prop where
  stays : StaysHonest met now host recv.host
  replies : ∀ reply ∈ recv.replies, ReplyOver met host.node.myaddr reply
  forwards : recv.action = dsrPktForwardRreq → Seeking met host.node.myaddr src recv.opt
  action : recv.action ∈ [dsrPktNone, dsrPktDrop, dsrPktError, dsrPktForwardRreq]

theorem AnswersOver.ended {src : InAddr} {dp : DsrPkt} {opt : DsrRreqOpt}
    {replies : List (DsrSrt × DsrSrt)} {action : Nat} (stays : StaysHonest met now host after)
    (along : ∀ reply ∈ replies, ReplyOver met host.node.myaddr reply)
    (listed : action ∈ [dsrPktNone, dsrPktDrop, dsrPktError]) :
    AnswersOver met now host src
      { host := after, dp := dp, opt := opt, replies := replies, action := action } := by
  have others : ∀ action ∈ [dsrPktNone, dsrPktDrop, dsrPktError], action ≠ dsrPktForwardRreq ∧
      action ∈ [dsrPktNone, dsrPktDrop, dsrPktError, dsrPktForwardRreq] := by decide
  exact ⟨stays, along, fun forwards => absurd forwards (others action listed).1,
    (others action listed).2⟩

/-- What `answerRreq` finds in the cache continues the route to the node. -/
theorem cachedReply_honest {target : InAddr} {reply : Option DsrSrt} (honest : host.Honest met now)
    (time : outside.now = now) (linked : srt.nodes.IsChain met)
    (laddrs : srt.laddrs = dsrAddressSize * srt.addrs.length) (dst : srt.dst = host.node.myaddr)
    (ran : host.cachedReply outside srt target = .ok (after, reply)) :
    StaysHonest met now host after ∧
      ∀ route, reply = some route → route.src = srt.src ∧ route.nodes.IsChain met := by
  rcases cachedReply_ok ran with ⟨rfl, rfl⟩ | ⟨found, looks, replies⟩
  · refine ⟨honest.stays, fun route some => ?_⟩
    cases some
  · obtain ⟨stays, finds⟩ := rtcFind_honest honest time looks
    refine ⟨stays, fun route replied => ?_⟩
    obtain ⟨srtRc, known, joined, -⟩ := replies route replied
    have along := finds.along srtRc known
    have meet : srt.dst = srtRc.src := dst.trans (finds.ends srtRc known).1.symm
    rw [dsrSrtConcatenate_sized laddrs along.laddrs] at joined
    cases joined
    refine ⟨rfl, ?_⟩
    rw [nodes_andThen meet]
    show (srt.src :: srt.addrs ++ [srt.dst] ++ (srtRc.addrs ++ [srtRc.dst])).IsChain met
    rw [meet, List.append_assoc, List.singleton_append]
    exact List.isChain_split.mpr ⟨meet ▸ linked, along.linked⟩

theorem answerRreq_honest {opt : DsrRreqOpt} {recv : HostRecv DsrRreqOpt}
    (ran : host.answerRreq outside dp opt srt srtRev = .ok recv) (meets : Meets nodes met)
    (honest : host.Honest met now) (time : outside.now = now)
    (seeking : Seeking met sender dp.src opt) (heard : met sender host.node.myaddr)
    (other : host.node.myaddr ≠ dp.src) (src : srt.src = dp.src) (dst : srt.dst = host.node.myaddr)
    (addrs : srt.addrs = opt.addrs) (laddrs : srt.laddrs = dsrAddressSize * srt.addrs.length)
    (back : srtRev = srt.backwards) : AnswersOver met now host dp.src recv := by
  have nodes : srt.nodes = dp.src :: opt.addrs ++ [host.node.myaddr] := by
    rw [DsrSrt.nodes, src, addrs, dst]
  have linked : srt.nodes.IsChain met := nodes ▸ seeking.reached heard
  have along : host.node.myaddr ∉ opt.addrs → srtRev.Over met := fun unlisted =>
    back ▸ DsrSrt.Over.backwards
      ⟨laddrs, nodes ▸ seeking.distinct_concat other unlisted, linked⟩ meets.symm
  have starts : srtRev.src = host.node.myaddr := by rw [back, DsrSrt.backwards, dst]
  have ends : srtRev.dst = srt.src := by rw [back, DsrSrt.backwards]
  unfold answerRreq at ran
  split at ran
  · next here =>
    cases ran
    refine .ended honest.stays (fun reply member => ?_) (by simp)
    rw [List.mem_singleton.mp member]
    exact ⟨along (here ▸ seeking.target), starts, ends.symm, linked⟩
  · next apart =>
    split at ran
    · cases ran
      exact .ended honest.stays (List.forall_mem_nil _) (by simp)
    · next unlisted =>
      have whole : srt.addrs.take ((rreqAddrsLen opt).toNat / dsrAddressSize) = opt.addrs := by
        rw [seeking.addrsLen, Int.toNat_natCast, Nat.mul_div_cancel_left _ (by decide), addrs,
          List.take_length]
      have fresh : host.node.myaddr ∉ opt.addrs := fun listed =>
        unlisted (.inr (whole.symm ▸ listed))
      obtain ⟨⟨cached, reply⟩, looked, ran⟩ := bind_ok.mp ran
      obtain ⟨stays, routes⟩ := cachedReply_honest honest time linked laddrs dst looked
      cases reply with
      | none =>
          cases ran
          exact ⟨stays, List.forall_mem_nil _,
            fun _ => seeking.forward meets heard other fresh apart, by simp⟩
      | some route =>
          cases ran
          refine .ended stays (fun reply member => ?_) (by simp)
          rw [List.mem_singleton.mp member]
          obtain ⟨routeSrc, routeLinked⟩ := routes route rfl
          exact ⟨along fresh, starts, routeSrc.trans ends.symm, routeLinked⟩

theorem rreqOptRecv_honest {first : Bool} {opt : DsrRreqOpt} {recv : HostRecv DsrRreqOpt}
    (meets : Meets nodes met) (honest : host.Honest met now) (time : outside.now = now)
    (seeking : Seeking met sender dp.src opt) (heard : met sender host.node.myaddr)
    (other : host.node.myaddr ≠ dp.src)
    (ran : host.rreqOptRecv outside config first dp opt = .ok recv) :
    AnswersOver met now host dp.src recv := by
  have tables : ∀ table, StaysHonest met now host { host with table := table } := fun table =>
    honest.of_node rfl rfl honest.valid honest.links (fun _ => id) rfl
  cases rreqOptRecv_ok ran with
  | dropped action which =>
      refine .ended honest.stays (List.forall_mem_nil _) ?_
      rcases which with rfl | ⟨rfl, -⟩ <;> simp
  | duplicate =>
      exact .ended (tables _) (List.forall_mem_nil _) (by simp)
  | @answered checked table srt srtRev prvHop learned _ fresh added made reversed learns answers =>
      obtain ⟨costs, _, made⟩ := bind_ok.mp made
      have packet : SamePacket dp (host.node.expandCost dp) := (expandCost_same host.node).1
      have short : opt.addrs.length ≤ 64 := by
        have linked := seeking.reached heard
        have bound := meets.length_le seeking.distinct fun node listed =>
          meets.among linked (by simp) node (List.mem_append_left _ listed)
        rw [List.length_cons] at bound
        omega
      have laddrs : (rreqAddrsLen opt % 2 ^ 32).toNat = dsrAddressSize * opt.addrs.length := by
        rw [seeking.addrsLen, dsrAddressSize]
        omega
      cases made
      rw [dsrSrtNewRev_sized laddrs] at reversed
      cases reversed
      have linked := seeking.reached heard
      have known := learnRreq_honest meets (tables table).honest time (by
        rw [nodes_backwards, DsrSrt.nodes, packet.src]
        exact List.isChain_reverse.mpr (linked.imp fun a b => meets.symm a b)) learns
      have myaddr : learned.node.myaddr = host.node.myaddr := known.myaddr
      obtain ⟨stays, replies, forwards, action⟩ := answerRreq_honest answers meets known.honest time
        (packet.src ▸ seeking) (myaddr ▸ heard) (by rw [myaddr]; exact packet.src ▸ other) rfl
        myaddr.symm rfl laddrs rfl
      rw [myaddr] at replies forwards
      exact ⟨((tables table).trans known).trans stays, replies, packet.src ▸ forwards, action⟩

end Host

/-! ## Source routes -/

theorem unforwarded : ∀ action ∈ [0, dsrPktNone, dsrPktSrtRemove, dsrPktSendIcmp,
    dsrPktSendBuffered, dsrPktDrop, dsrPktError, dsrPktDeliver],
    action.testBit 7 = false ∧ action.testBit 8 = false := by
  decide

/-- What `dsr_srt_opt_recv` leaves of a packet that is meant for the node: the next hop where it
is forwarded, and no reply. -/
structure RoutedRecv (dp : DsrPkt) (opt : DsrSrtOpt) (recv : Recv DsrSrtOpt) : Prop where
  packet : Host.SamePacket dp recv.dp
  forwards : recv.action.testBit 7 = true → 0 < opt.sleft ∧
    recv.opt = { opt with sleft := opt.sleft - 1 } ∧
      (opt.addrs ++ [dp.dst])[opt.addrs.length - opt.sleft + 1]? = some recv.dp.nxtHop
  passes : 0 < opt.sleft → recv.action.testBit 7 = true
  quiet : recv.action.testBit 8 = false
  replies : recv.calls.filterMap Call.rrep? = []

theorem dsrSrtOptRecv_routed {now : SimTime} {node : Node} {dp : DsrPkt} {opt : DsrSrtOpt}
    {recv : Recv DsrSrtOpt} (linkCache : node.config.pathCache = false)
    (fits : opt.length = dsrAddressSize * opt.addrs.length + 2)
    (left : opt.sleft ≤ opt.addrs.length) (direct : dp.hasFlag pktPromiscRecv = false)
    (here : intendedHop dp opt = node.myaddr)
    (handled : dsrSrtOptRecv now node dp opt = .ok recv) : RoutedRecv dp opt recv := by
  obtain ⟨srt, ran, handled⟩ := bind_ok.mp handled
  have made := madeOf_dsrSrtNew fits ran
  obtain ⟨intended, same, handled⟩ := bind_ok.mp handled
  obtain rfl := Except.ok.inj ((made.intended left).symm.trans same)
  obtain ⟨prvHop, same, handled⟩ := bind_ok.mp handled
  obtain rfl := Except.ok.inj ((made.previous left).symm.trans same)
  obtain ⟨nxtHop, next, handled⟩ := bind_ok.mp handled
  extract_lets dp' at handled
  obtain ⟨learned, learns, handled⟩ := bind_ok.mp handled
  obtain ⟨remaining, found, handled⟩ := bind_ok.mp handled
  extract_lets calls finish at handled
  rw [if_neg (by simp [linkCache])] at learns
  have silent : calls.filterMap Call.rrep? = [] := by
    show (Call.neighTblAdd _ :: learned.2).filterMap Call.rrep? = []
    rw [List.filterMap_cons_none rfl, learnLinks_quiet learns]
  rw [if_neg (not_not.mpr here)] at found
  obtain rfl := Except.ok.inj found
  rw [if_neg (by simp)] at handled
  cases handled
  have count : srt.count = opt.addrs.length := made.addrs ▸ made.sized
  simp only [finish]
  split_ifs with promisc none many
  · exact absurd (direct.symm.trans promisc) Bool.false_ne_true
  · obtain ⟨forward, request⟩ := unforwarded dsrPktSrtRemove (by simp)
    exact ⟨⟨rfl, rfl, rfl, rfl⟩, fun asks => absurd (forward.symm.trans asks) Bool.false_ne_true,
      fun some => by omega, request, silent⟩
  · omega
  · have bits : dsrPktForward.testBit 7 = true ∧ dsrPktForward.testBit 8 = false := by decide
    refine ⟨⟨rfl, rfl, rfl, rfl⟩, fun _ => ⟨by omega, rfl, ?_⟩, fun _ => bits.1, bits.2, silent⟩
    have inside : opt.addrs.length - opt.sleft + 1 < (opt.addrs ++ [dp.dst]).length := by
      rw [List.length_append, List.length_singleton]
      omega
    obtain ⟨there, listed⟩ : ∃ there,
        (opt.addrs ++ [dp.dst])[opt.addrs.length - opt.sleft + 1]? = some there :=
      ⟨_, List.getElem?_eq_getElem inside⟩
    have behind : (srt.addrs ++ [srt.dst, srt.dst])[srt.addrs.length - opt.sleft + 1]? =
        some there := by
      have longer : srt.addrs ++ [srt.dst, srt.dst] = (opt.addrs ++ [dp.dst]) ++ [dp.dst] := by
        simp [made.addrs, made.dst]
      rw [longer, made.addrs, List.getElem?_append_left inside]
      exact listed
    have same := dsrSrtNextHop_after made.sized (Nat.sub_le _ opt.sleft) behind
    have segments : srt.addrs.length - (srt.addrs.length - opt.sleft) = opt.sleft := by
      rw [made.addrs]
      omega
    rw [segments, next] at same
    exact listed.trans (congrArg Option.some (Except.ok.inj same).symm)

end SyncFanet.Dsr
