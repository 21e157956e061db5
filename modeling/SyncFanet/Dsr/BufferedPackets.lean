import SyncFanet.Dsr.HostReceive
import SyncFanet.Dsr.KnownRoutes

/-!
# Packets in the send buffer

A packet that a node receives makes it learn routes and send what it has buffered for their
nodes. With the path cache it always learns first. With the link cache and a source route it
sends first, and frees the packets for which no route is known before.
-/

set_option autoImplicit false

namespace SyncFanet.Dsr

namespace Host

variable {p : DSRPkt} {config : RreqConfig} {node : Node} {opt : DsrRrepOpt}

/-! ## Packets that leave the buffer -/

/-- A data packet was transmitted with a source route from this node to its destination. -/
def SentOn (myaddr : InAddr) (pair : DsrPkt × DSRPkt) : Prop :=
  pair.2.src = myaddr ∧ pair.2.dst = pair.1.dst ∧
    ∃ srt : DsrSrt, srt.src = myaddr ∧ srt.dst = pair.1.dst ∧
      .srt (dsrSrtOptAdd pair.1.salvage srt) ∈ pair.2.dsrOptions.flatten

structure Kept (before after : Host) : Prop where
  freed : after.freed = before.freed
  sent : ∃ sent, after.sent = before.sent ++ sent ∧
    before.waiting.Perm (after.waiting ++ sent.map Prod.fst) ∧
    ∀ pair ∈ sent, SentOn before.node.myaddr pair

/-- The invariant of a node: its link cache is valid, and the packets that wait are its own
ones for other nodes. -/
structure Sound (now : SimTime) (host : Host) : Prop where
  valid : host.node.Valid now
  own : ∀ dp ∈ host.waiting, dp.src = host.node.myaddr ∧ dp.dst ≠ host.node.myaddr

structure Goes (now : SimTime) (before after : Host) : Prop where
  config : after.node.config = before.node.config
  myaddr : after.node.myaddr = before.node.myaddr
  sound : after.Sound now
  kept : Kept before after

variable {now : SimTime} {outside : Outside} {host between after : Host} {dp : DsrPkt}
  {srt : DsrSrt} {dst : InAddr}

theorem Kept.refl : Kept host host :=
  ⟨rfl, [], by simp, by simp, by simp⟩

theorem Kept.trans (same : between.node.myaddr = host.node.myaddr) (first : Kept host between)
    (second : Kept between after) : Kept host after := by
  obtain ⟨sent, grown, left, routed⟩ := first.sent
  obtain ⟨sent', grown', left', routed'⟩ := second.sent
  refine ⟨second.freed.trans first.freed, sent ++ sent', ?_, ?_, ?_⟩
  · rw [grown', grown, List.append_assoc]
  · have both : host.waiting.Perm (after.waiting ++ sent'.map Prod.fst ++ sent.map Prod.fst) :=
      left.trans (left'.append_right _)
    have swapped : (after.waiting ++ sent'.map Prod.fst ++ sent.map Prod.fst).Perm
        (after.waiting ++ (sent ++ sent').map Prod.fst) := by
      rw [List.append_assoc, List.map_append]
      exact List.perm_append_comm.append_left _
    exact both.trans swapped
  · intro pair member
    cases List.mem_append.mp member with
    | inl here => exact routed pair here
    | inr later => exact same ▸ routed' pair later

theorem Kept.waiting (kept : Kept host after) (member : dp ∈ after.waiting) :
    dp ∈ host.waiting := by
  obtain ⟨sent, _, left, _⟩ := kept.sent
  exact left.mem_iff.mpr (List.mem_append_left _ member)

theorem Goes.refl (sound : host.Sound now) : Goes now host host :=
  ⟨rfl, rfl, sound, .refl⟩

theorem Goes.trans (first : Goes now host between) (second : Goes now between after) :
    Goes now host after :=
  ⟨second.config.trans first.config, second.myaddr.trans first.myaddr, second.sound,
    first.kept.trans first.myaddr second.kept⟩

theorem Goes.of_node (sound : host.Sound now) (config : after.node.config = host.node.config)
    (myaddr : after.node.myaddr = host.node.myaddr) (valid : after.node.Valid now)
    (buffer : after.packetBuffer = host.packetBuffer) (sent : after.sent = host.sent)
    (freed : after.freed = host.freed) : Goes now host after := by
  have same : after.waiting = host.waiting := congrArg (List.map PacketStoreage.packet) buffer
  refine ⟨config, myaddr, ⟨valid, ?_⟩, freed, [], by simp [sent], by simp [same], by simp⟩
  rw [same, myaddr]
  exact sound.own

/-! ## Transmitting -/

theorem mem_dsrAckReqOptAdd {opth : List (List DsrOpt)} {dopt : DsrOpt} {id : Nat}
    (member : dopt ∈ opth.flatten) : dopt ∈ (dsrAckReqOptAdd opth id).flatten := by
  unfold dsrAckReqOptAdd
  split
  · obtain ⟨header, among, here⟩ := List.mem_flatten.mp member
    have loop : ∀ (requests : List DsrOpt → Bool) (opth : List (List DsrOpt)), header ∈ opth →
        dopt ∈ (updateFirst requests (fun header => header ++ [.ackReq id]) opth).flatten := by
      intro requests opth
      induction opth with
      | nil => exact nofun
      | cons first rest ih =>
          intro among
          unfold updateFirst
          cases List.mem_cons.mp among with
          | inl same =>
              subst same
              split <;> simp [here]
          | inr later =>
              split
              · exact List.mem_flatten.mpr ⟨header, List.mem_cons_of_mem _ later, here⟩
              · simp [ih later]
    exact loop _ opth among
  · cases reversed : opth.reverse with
    | nil => simp [List.reverse_eq_nil_iff.mp reversed] at member
    | cons last front =>
        have split : opth = front.reverse ++ [last] := by
          rw [← List.reverse_reverse opth, reversed, List.reverse_cons]
        subst split
        cases whole : front.reverse ++ [last] with
        | nil => simp at whole
        | cons first rest =>
            simp only
            rw [← whole]
            simp [List.getLastD_eq_getLast?] at member ⊢
            exact member.imp_right .inl

theorem xmit_sent (first : dp.src = host.node.myaddr)
    (starts : srt.src = host.node.myaddr) (ends : srt.dst = dp.dst)
    (ran : host.xmit outside dp srt = .ok after) :
    ∃ p, after = { host with sent := host.sent ++ [(dp, p)] } ∧
      SentOn host.node.myaddr (dp, p) := by
  obtain ⟨transmitted, started, ran⟩ := bind_ok.mp ran
  obtain ⟨dp', added, started⟩ := bind_ok.mp started
  obtain ⟨costs, _, started⟩ := bind_ok.mp started
  obtain ⟨nxtHop, _, added⟩ := bind_ok.mp added
  have made := (Except.ok.inj added).symm
  generalize sends : ({ dp' with costVector := costs } : DsrPkt) = sending at started
  have alive : sending.ttl ≠ 0 := by
    rw [← sends, made]
    exact dsrBuildIpTtl_ne_zero dp.ttl
  have listed : DsrOpt.srt (dsrSrtOptAdd dp.salvage srt) ∈ sending.opth.flatten := by
    rw [← sends, made]
    simp
  have src : sending.src = host.node.myaddr := by rw [← sends, made, ← first]
  have dst : sending.dst = dp.dst := by rw [← sends, made]
  cases started
  obtain ⟨p, sent⟩ := omnetXmit_alive (outside.ackReq dp) alive
  rw [sent] at ran
  cases ran
  obtain rfl := omnetXmit_some sent
  refine ⟨_, rfl, src, dst, srt, starts, ends, ?_⟩
  dsimp only
  rcases opth_withAckReq (outside.ackReq dp) sending with same | ⟨id, added⟩
  · rw [same]
    exact listed
  · rw [added]
    exact mem_dsrAckReqOptAdd listed

/-! ## Sending what waits -/

theorem rtcFind_ready {found : Option DsrSrt} (valid : host.node.Valid now)
    (time : outside.now = now) (ran : host.rtcFind outside dst = .ok (after, found)) :
    ∃ node, after = { host with node := node, lookups := host.lookups + 1 } ∧
      host.node.Keeps now node ∧ node.Valid now ∧
      (dst ≠ host.node.myaddr → host.node.Ready now dst → found ≠ none) ∧
      ∀ srt, found = some srt → srt.src = host.node.myaddr ∧ srt.dst = dst := by
  obtain ⟨result, looked, ran⟩ := bind_ok.mp ran
  cases ran
  rw [time] at looked
  obtain ⟨keeps, valid', finds⟩ := Node.routeFind_ready valid looked
  refine ⟨result.1, rfl, keeps, valid', finds, ?_⟩
  intro srt here
  have some : result = (result.1, some srt) := Prod.ext rfl here
  rw [some] at looked
  rw [Node.routeFind_some looked]
  exact ⟨rfl, rfl⟩

structure Sending (now : SimTime) (host : Host) (seen : List DsrPkt) (acc : Host) : Prop where
  keeps : host.node.Keeps now acc.node
  valid : acc.node.Valid now
  table : acc.table = host.table
  freed : acc.freed = host.freed
  sent : ∃ sent, acc.sent = host.sent ++ sent ∧ sent.map Prod.fst = seen ∧
    ∀ pair ∈ sent, SentOn host.node.myaddr pair

theorem Sending.step {seen : List DsrPkt} {acc acc' : Host} (sending : Sending now host seen acc)
    (time : outside.now = now) (ready : host.node.Ready now dp.dst)
    (own : dp.src = host.node.myaddr ∧ dp.dst ≠ host.node.myaddr)
    (ran : sendBuffered outside acc dp = .ok acc') : Sending now host (seen ++ [dp]) acc' := by
  obtain ⟨found, looked, ran⟩ := bind_ok.mp ran
  obtain ⟨node, same, keeps, valid, finds, routed⟩ := rtcFind_ready sending.valid time looked
  have myaddr : acc.node.myaddr = host.node.myaddr := sending.keeps.myaddr
  have known : found.2 ≠ none :=
    finds (myaddr ▸ own.2) (sending.keeps.ready ready)
  cases here : found.2 with
  | none => exact absurd here known
  | some srt =>
      rw [here] at ran
      obtain ⟨starts, ends⟩ := routed srt here
      have there : found.1.node.myaddr = host.node.myaddr := by
        rw [same]
        exact keeps.myaddr.trans myaddr
      obtain ⟨p, rfl, sentOn⟩ := xmit_sent (own.1.trans there.symm)
        ((starts.trans myaddr).trans there.symm) ends ran
      obtain ⟨sent, grown, listed, routes⟩ := sending.sent
      rw [same] at sentOn ⊢
      refine ⟨sending.keeps.trans keeps, valid, sending.table, sending.freed,
        sent ++ [(dp, p)], ?_, ?_, ?_⟩
      · simp [grown]
      · simp [listed]
      · intro pair member
        cases List.mem_append.mp member with
        | inl before => exact routes pair before
        | inr last =>
            rw [List.mem_singleton.mp last]
            exact (keeps.myaddr.trans myaddr) ▸ sentOn

theorem sendBufSend_goes (sound : host.Sound now) (time : outside.now = now)
    (ready : ∀ dp ∈ host.waiting, dp.dst = dst → host.node.Ready now dst)
    (ran : host.sendBufSend outside dst = .ok after) :
    Goes now host after ∧ host.node.Keeps now after.node := by
  obtain ⟨last, sent, ran⟩ := bind_ok.mp ran
  cases ran
  have split : host.waiting.Perm
      ((host.packetBuffer.filter fun entry => !decide (entry.packet.dst = dst)).map
          PacketStoreage.packet ++
        (host.packetBuffer.filter fun entry => decide (entry.packet.dst = dst)).map
          PacketStoreage.packet) := by
    rw [← List.map_append]
    exact (((List.filter_append_perm _ _).symm.trans List.perm_append_comm).map _)
  have sending := foldlM_seen sent (Sending now host)
    ⟨.refl, sound.valid, rfl, rfl, [], by simp, rfl, by simp⟩ (by
      intro seen dp acc acc' member sending ran
      obtain ⟨entry, among, rfl⟩ := List.mem_map.mp member
      have here : entry.packet.dst = dst := of_decide_eq_true (List.mem_filter.mp among).2
      have waits : entry.packet ∈ host.waiting :=
        List.mem_map_of_mem (List.mem_filter.mp among).1
      exact sending.step time (here ▸ ready _ waits here) (sound.own _ waits) ran)
  obtain ⟨sent, grown, listed, routes⟩ := sending.sent
  have kept : Kept host { last with
      packetBuffer := host.packetBuffer.filter fun entry => !decide (entry.packet.dst = dst) } := by
    refine ⟨sending.freed, sent, grown, ?_, routes⟩
    rw [listed]
    exact split
  refine ⟨⟨sending.keeps.config, sending.keeps.myaddr, ⟨sending.valid, ?_⟩, kept⟩, sending.keeps⟩
  intro dp member
  have same : last.node.myaddr = host.node.myaddr := sending.keeps.myaddr
  rw [same]
  exact sound.own dp (kept.waiting member)

/-! ## Learning routes -/

structure Grows (now : SimTime) (before after : Host) : Prop extends Goes now before after where
  keeps : before.node.Keeps now after.node

theorem Grows.refl (sound : host.Sound now) : Grows now host host :=
  ⟨.refl sound, .refl⟩

theorem Grows.trans (first : Grows now host between) (second : Grows now between after) :
    Grows now host after :=
  ⟨first.toGoes.trans second.toGoes, first.keeps.trans second.keeps⟩

theorem Grows.of_node (sound : host.Sound now) (keeps : host.node.Keeps now after.node)
    (valid : after.node.Valid now) (buffer : after.packetBuffer = host.packetBuffer)
    (sent : after.sent = host.sent) (freed : after.freed = host.freed) : Grows now host after :=
  ⟨.of_node sound keeps.config keeps.myaddr valid buffer sent freed, keeps⟩

theorem sendAndCancel_grows (sound : host.Sound now) (time : outside.now = now)
    (ready : ∀ dp ∈ host.waiting, dp.dst = dst → host.node.Ready now dst)
    (ran : host.sendAndCancel outside dst = .ok after) : Grows now host after := by
  obtain ⟨sent, verdict, ran⟩ := bind_ok.mp ran
  cases ran
  obtain ⟨goes, keeps⟩ := sendBufSend_goes sound time ready verdict
  exact ⟨goes.trans (.of_node goes.sound rfl rfl goes.sound.valid rfl rfl rfl), keeps⟩

/-- The verdicts for several nodes lose no packet where there are routes for those that
wait. -/
theorem verdicts_grow {verdict : Host → InAddr → Except Fault Host} {dsts : List InAddr}
    (each : ∀ host after : Host, ∀ dst, host.Sound now →
      (∀ dp ∈ host.waiting, dp.dst = dst → host.node.Ready now dst) →
      verdict host dst = .ok after → Grows now host after)
    (sound : host.Sound now)
    (ready : ∀ dp ∈ host.waiting, dp.dst ∈ dsts → host.node.Ready now dp.dst)
    (ran : dsts.foldlM verdict host = .ok after) : Grows now host after := by
  apply foldlM_seen ran (fun _ acc => Grows now host acc) (.refl sound)
  intro seen dst acc acc' member grows ran
  refine grows.trans (each acc acc' dst grows.sound ?_ ran)
  intro dp waits same
  exact grows.keeps.ready (same ▸ ready dp (grows.kept.waiting waits) (same ▸ member))

theorem learnRreq_grows (sound : host.Sound now) (time : outside.now = now)
    (lasting : host.node.Lasting) (first : srt.src = host.node.myaddr)
    (ran : host.learnRreq outside srt = .ok after) : Grows now host after := by
  obtain ⟨node, added, ran⟩ := bind_ok.mp ran
  rw [time] at added
  have keeps := Node.routeAdd_keeps lasting added
  have learned : Grows now host { host with node := node } :=
    .of_node sound keeps (Node.routeAdd_valid sound.valid added).2.2 rfl rfl rfl
  refine learned.trans (verdicts_grow (fun _ _ _ sound ready => sendAndCancel_grows sound time ready)
    learned.sound ?_ ran)
  intro dp waits among
  exact Node.routeAdd_ready first lasting added among (sound.own dp waits).2

/-- Over the links of the cache, or the one to the previous hop, a node can be reached. -/
def Reaches (now : SimTime) (node : Node) (prvHop dst : InAddr) : Prop :=
  ∃ addrs, (node.myaddr :: (addrs ++ [dst])).IsChain fun origin last =>
    LinkCache.Unexpired node.links.linkArray now origin last ∨
      (origin, last) = (node.myaddr, prvHop) ∨ (last, origin) = (node.myaddr, prvHop)

theorem Reaches.keeps {node' : Node} {prvHop : InAddr} (reaches : Reaches now node prvHop dst)
    (keeps : node.Keeps now node') : Reaches now node' prvHop dst := by
  obtain ⟨addrs, chain⟩ := reaches
  refine ⟨addrs, ?_⟩
  rw [keeps.myaddr]
  exact chain.imp fun origin last linked => linked.imp_left (keeps.links origin last)

theorem learnPaths_keeps {node' : Node} {intended prvHop : InAddr} (lasting : node.Lasting)
    (valid : node.Valid now) (ran : learnPaths now node srt intended prvHop = .ok node') :
    node.Keeps now node' ∧ node'.Valid now := by
  obtain ⟨routes, _, ran⟩ := bind_ok.mp ran
  obtain ⟨node₁, first, second⟩ := bind_ok.mp ran
  have adds : ∀ {node node' : Node} {route : Option DsrSrt}, node.Lasting → node.Valid now →
      node.routeAdd? now route = .ok node' → node.Keeps now node' ∧ node'.Valid now := by
    intro node node' route lasting valid ran
    cases route with
    | none =>
        cases ran
        exact ⟨.refl, valid⟩
    | some srt =>
        exact ⟨Node.routeAdd_keeps lasting ran, (Node.routeAdd_valid valid ran).2.2⟩
  have added : node.Keeps now (node.phSrtAddNodeMap now prvHop) :=
    ⟨rfl, rfl, PathsCache.keepsCache_setPath lasting, fun _ _ => id⟩
  obtain ⟨toDest, valid₁⟩ := @adds (node.phSrtAddNodeMap now prvHop) _ _ lasting valid first
  obtain ⟨toSrc, valid'⟩ := adds (toDest.lasting lasting) valid₁ second
  exact ⟨(added.trans toDest).trans toSrc, valid'⟩

/-- A source route is learned without loss by a node with the path cache, and by one with the
link cache where the packets for its nodes have a route before. -/
theorem learnSrt_grows {intended prvHop : InAddr} (sound : host.Sound now)
    (time : outside.now = now) (lasting : host.node.Lasting)
    (reaches : host.node.config.pathCache = false → ∀ dp ∈ host.waiting,
      dp.dst ∈ srt.addrs ++ [srt.src, srt.dst] → Reaches now host.node prvHop dp.dst)
    (ran : host.learnSrt outside srt intended prvHop = .ok after) : Grows now host after := by
  unfold learnSrt at ran
  rw [time] at ran
  cases cached : host.node.config.pathCache with
  | true =>
      rw [if_pos cached] at ran
      obtain ⟨node, learned, ran⟩ := bind_ok.mp ran
      cases ran
      obtain ⟨keeps, valid⟩ := learnPaths_keeps lasting sound.valid learned
      exact .of_node sound keeps valid rfl rfl rfl
  | false =>
      rw [if_neg (by simp [cached])] at ran
      obtain ⟨sent, verdicts, ran⟩ := bind_ok.mp ran
      obtain ⟨node, added, ran⟩ := bind_ok.mp ran
      cases ran
      have linked : ∀ origin last, LinkCache.Unexpired host.node.links.linkArray now origin last ∨
          (origin, last) = (host.node.myaddr, prvHop) ∨
          (last, origin) = (host.node.myaddr, prvHop) →
          LinkCache.Unexpired (host.node.links.phAddLinkMap now host.node.myaddr prvHop
            host.node.config.routeCacheTimeout).linkArray now origin last :=
        fun origin last known => LinkCache.unexpired_addEdges lasting known
      have first : Grows now host { host with
          node.links := host.node.links.phAddLinkMap now host.node.myaddr prvHop
            host.node.config.routeCacheTimeout } :=
        .of_node sound ⟨rfl, rfl, fun _ => id, fun origin last old => linked origin last (.inl old)⟩
          (LinkCache.Valid.addEdges sound.valid _ _) rfl rfl rfl
      have second := verdicts_grow
        (fun _ _ _ sound ready => sendAndCancel_grows sound time ready) first.sound (by
          intro dp waits among
          obtain ⟨addrs, chain⟩ := reaches cached dp waits among
          unfold Node.Ready
          rw [if_neg (by simp [cached])]
          exact ⟨addrs, chain.imp linked⟩) verdicts
      have third : Grows now sent { sent with node := node } :=
        .of_node second.sound (Node.routeAdd_keeps (second.keeps.lasting lasting) added)
          (Node.routeAdd_valid second.sound.valid added).2.2 rfl rfl rfl
      exact (first.trans second).trans third

/-! ## The handlers -/

structure SamePacket (before after : DsrPkt) : Prop where
  src : after.src = before.src
  dst : after.dst = before.dst
  flags : after.flags = before.flags
  opth : after.opth = before.opth

/-- A handler that loses neither packets nor routes, and does not ask for more packets to be
sent. -/
structure Handles {Opt : Type} (now : SimTime) (host : Host) (dp : DsrPkt) (recv : HostRecv Opt) :
    Prop where
  grows : Grows now host recv.host
  packet : SamePacket dp recv.dp
  replies : recv.dp.rrepOpt = dp.rrepOpt
  quiet : recv.action.testBit 5 = false

theorem quiet_actions : ∀ action ∈ [0, dsrPktNone, dsrPktSrtRemove, dsrPktSendIcmp, dsrPktForward,
    dsrPktForwardRreq, dsrPktDrop, dsrPktError, dsrPktDeliver], action.testBit 5 = false := by
  decide

theorem SamePacket.refl : SamePacket dp dp :=
  ⟨rfl, rfl, rfl, rfl⟩

theorem SamePacket.trans {dp' dp'' : DsrPkt} (first : SamePacket dp dp')
    (second : SamePacket dp' dp'') : SamePacket dp dp'' :=
  ⟨second.src.trans first.src, second.dst.trans first.dst, second.flags.trans first.flags,
    second.opth.trans first.opth⟩

theorem Handles.later {Opt : Type} {recv : HostRecv Opt} {dp' : DsrPkt}
    (handles : Handles now between dp' recv) (grows : Grows now host between)
    (packet : SamePacket dp dp') (replies : dp'.rrepOpt = dp.rrepOpt) : Handles now host dp recv :=
  ⟨grows.trans handles.grows, packet.trans handles.packet, handles.replies.trans replies,
    handles.quiet⟩

theorem expandCost_same (node : Node) :
    SamePacket dp (node.expandCost dp) ∧ (node.expandCost dp).rrepOpt = dp.rrepOpt := by
  unfold Node.expandCost
  split_ifs <;> exact ⟨⟨rfl, rfl, rfl, rfl⟩, rfl⟩

theorem answerRreq_handles {opt : DsrRreqOpt} {srtRev : DsrSrt} {recv : HostRecv DsrRreqOpt}
    (sound : host.Sound now) (time : outside.now = now)
    (ran : host.answerRreq outside dp opt srt srtRev = .ok recv) : Handles now host dp recv := by
  obtain ⟨hosts, packet, action⟩ := answerRreq_ok ran
  have grows : Grows now host recv.host := by
    rcases hosts with same | ⟨found, looks⟩
    · rw [same]
      exact .refl sound
    · obtain ⟨node, same, keeps, valid, -⟩ := rtcFind_ready sound.valid time looks
      rw [same]
      exact .of_node sound keeps valid rfl rfl rfl
  have none : ∀ action ∈ [dsrPktNone, dsrPktDrop, dsrPktForwardRreq],
      action.testBit 5 = false := by decide
  exact ⟨grows, packet ▸ .refl, congrArg DsrPkt.rrepOpt packet, none recv.action action⟩

theorem rreqOptRecv_handles {first : Bool} {opt : DsrRreqOpt} {recv : HostRecv DsrRreqOpt}
    (sound : host.Sound now) (time : outside.now = now) (lasting : host.node.Lasting)
    (ran : host.rreqOptRecv outside config first dp opt = .ok recv) : Handles now host dp recv := by
  have tables : ∀ table, Grows now host { host with table := table } := fun table =>
    .of_node sound .refl sound.valid rfl rfl rfl
  cases rreqOptRecv_ok ran with
  | dropped action which =>
      refine ⟨.refl sound, .refl, rfl, quiet_actions _ ?_⟩
      rcases which with rfl | ⟨rfl, -⟩ <;> simp
  | duplicate => exact ⟨tables _, .refl, rfl, quiet_actions _ (by simp)⟩
  | @answered checked table srt srtRev prvHop learned _ fresh added made reversed learns answers =>
      have starts : srtRev.src = host.node.myaddr := by
        obtain ⟨costs, _, made⟩ := bind_ok.mp made
        cases made
        obtain ⟨_, _, reversed⟩ := bind_ok.mp reversed
        cases reversed
        rfl
      have grows := learnRreq_grows (tables table).sound time lasting starts learns
      obtain ⟨packet, replies⟩ := @expandCost_same dp host.node
      exact (answerRreq_handles grows.sound time answers).later ((tables table).trans grows)
        ⟨packet.src, packet.dst, packet.flags, packet.opth⟩ replies

/-- The previous hop that a source route option gives. -/
def optPrevHop (src dst : InAddr) (opt : DsrSrtOpt) : Except Fault InAddr :=
  dsrSrtPrevHop { src := src, dst := dst, flags := srtBidir, laddrs := opt.length,
                  addrs := opt.addrs, cost := [] } ((opt.sleft : Int) - 1)

theorem dsrSrtOptRecv_same {opt : DsrSrtOpt} {recv : Recv DsrSrtOpt}
    (ran : dsrSrtOptRecv now node dp opt = .ok recv) :
    SamePacket dp recv.dp ∧ recv.dp.rrepOpt = dp.rrepOpt ∧ recv.action.testBit 5 = false := by
  obtain ⟨srt, _, ran⟩ := bind_ok.mp ran
  obtain ⟨intended, _, ran⟩ := bind_ok.mp ran
  obtain ⟨prvHop, _, ran⟩ := bind_ok.mp ran
  obtain ⟨nxtHop, _, ran⟩ := bind_ok.mp ran
  obtain ⟨learned, _, ran⟩ := bind_ok.mp ran
  obtain ⟨remaining, _, ran⟩ := bind_ok.mp ran
  dsimp only at ran
  split at ran
  · obtain ⟨shortened, _, ran⟩ := bind_ok.mp ran
    cases shortened with
    | none =>
        cases ran
        exact ⟨⟨rfl, rfl, rfl, rfl⟩, rfl, quiet_actions _ (by simp)⟩
    | some extra =>
        cases ran
        split_ifs <;> exact ⟨⟨rfl, rfl, rfl, rfl⟩, rfl, quiet_actions _ (by simp)⟩
  · cases ran
    split_ifs <;> exact ⟨⟨rfl, rfl, rfl, rfl⟩, rfl, quiet_actions _ (by simp)⟩

theorem srtOptRecv_handles {opt : DsrSrtOpt} {recv : HostRecv DsrSrtOpt} (sound : host.Sound now)
    (time : outside.now = now) (lasting : host.node.Lasting)
    (reaches : host.node.config.pathCache = false → ∀ waits ∈ host.waiting,
      waits.dst ∈ opt.addrs ++ [dp.src, dp.dst] → ∀ prvHop, optPrevHop dp.src dp.dst opt = .ok prvHop →
        Reaches now host.node prvHop waits.dst)
    (ran : host.srtOptRecv outside dp opt = .ok recv) : Handles now host dp recv := by
  obtain ⟨result, handled, ran⟩ := bind_ok.mp ran
  obtain ⟨srt, made, ran⟩ := bind_ok.mp ran
  obtain ⟨intended, _, ran⟩ := bind_ok.mp ran
  obtain ⟨prvHop, before, ran⟩ := bind_ok.mp ran
  obtain ⟨learned, learns, ran⟩ := bind_ok.mp ran
  cases ran
  obtain ⟨costs, _, made⟩ := bind_ok.mp made
  cases made
  obtain ⟨packet, replies, quiet⟩ := dsrSrtOptRecv_same handled
  refine ⟨learnSrt_grows sound time lasting ?_ learns, packet, replies, quiet⟩
  intro cached waits member among
  exact reaches cached waits member among prvHop before

structure Replied (now : SimTime) (host : Host) (dp : DsrPkt) (opt : DsrRrepOpt)
    (recv : HostRecv DsrRrepOpt) : Prop where
  grows : Grows now host recv.host
  packet : SamePacket dp recv.dp
  replies : recv.dp.rrepOpt = dp.rrepOpt ∨
    ∃ added, recv.dp.rrepOpt = dp.rrepOpt ++ [added] ∧ added.addrs = opt.addrs
  learned : dp.rrepOpt.length < maxRrepOpts → dp.dst = host.node.myaddr → ∀ addr ∈ opt.addrs,
    addr ≠ host.node.myaddr → recv.host.node.Ready now addr
  asks : recv.action.testBit 5 = true → dp.dst = host.node.myaddr

theorem rrepRoute_nodes (ran : rrepRoute node dp opt = .ok srt) :
    srt.src = dp.dst ∧ srt.addrs ++ [srt.dst] = opt.addrs := by
  unfold rrepRoute at ran
  cases last : opt.addrs.getLast? with
  | none =>
      rw [last] at ran
      cases ran
  | some srtDst =>
      rw [last] at ran
      obtain ⟨made, route, ran⟩ := bind_ok.mp ran
      obtain ⟨costs, _, route⟩ := bind_ok.mp route
      cases route
      have whole : opt.addrs.dropLast ++ [srtDst] = opt.addrs := List.dropLast_append_getLast? _ last
      cases ran
      split_ifs <;> exact ⟨rfl, whole⟩

theorem actualizeMyCostRrep_addrs (node : Node) (opt : DsrRrepOpt) :
    (actualizeMyCostRrep node opt).addrs = opt.addrs := by
  unfold actualizeMyCostRrep
  split_ifs <;> rfl

theorem rrepOptRecv_replied {recv : HostRecv DsrRrepOpt} (sound : host.Sound now)
    (time : outside.now = now) (lasting : host.node.Lasting)
    (heard : dp.hasFlag pktPromiscRecv = false) (ran : host.rrepOptRecv outside dp opt = .ok recv) :
    Replied now host dp opt recv := by
  unfold rrepOptRecv at ran
  rw [heard] at ran
  split at ran
  · next many =>
      cases ran
      have full : maxRrepOpts ≤ dp.rrepOpt.length := many.resolve_left Bool.false_ne_true
      refine ⟨.refl sound, .refl, .inl rfl, fun few => absurd few (not_lt.mpr full), ?_⟩
      intro asks
      rw [quiet_actions _ (by simp)] at asks
      cases asks
  · dsimp only at ran
    generalize changed : (if opt.addrs.getLast? = some host.node.myaddr then opt
      else actualizeMyCostRrep host.node opt) = opt' at ran
    have same : opt'.addrs = opt.addrs := by
      rw [← changed]
      split
      · rfl
      · exact actualizeMyCostRrep_addrs _ _
    obtain ⟨srt, route, ran⟩ := bind_ok.mp ran
    obtain ⟨node, added, ran⟩ := bind_ok.mp ran
    cases ran
    rw [time] at added
    obtain ⟨starts, nodes⟩ := rrepRoute_nodes route
    refine ⟨.of_node sound (Node.routeAdd_keeps lasting added)
      (Node.routeAdd_valid sound.valid added).2.2 rfl rfl rfl, ⟨rfl, rfl, rfl, rfl⟩,
      .inr ⟨opt', rfl, same⟩, ?_, ?_⟩
    · intro _ here addr among other
      rw [← same, ← nodes] at among
      exact Node.routeAdd_ready (starts.trans here) lasting added among other
    · intro asks
      dsimp only at asks
      split at asks
      · next here => exact here.trans (Node.routeAdd_valid sound.valid added).2.1
      · rw [quiet_actions _ (by simp)] at asks
        cases asks

/-! ## The options of a packet -/

/-- The route replies among options. -/
def repliesIn (options : List DsrOpt) : List DsrRrepOpt :=
  options.filterMap fun
    | .rrep opt => some opt
    | _ => none

/-- The options of a packet that loses nothing at a node: its replies are all learned and no
link of theirs is forgotten, and with the link cache the packets for the nodes of its source
routes have a route before, or are one link from the previous hop. -/
structure Spares (now : SimTime) (host : Host) (p : DSRPkt) : Prop where
  lasting : host.node.Lasting
  few : p.dst = host.node.myaddr → (repliesIn p.dsrOptions.flatten).length ≤ 5
  unbroken : ∀ before opt after, p.dsrOptions.flatten = before ++ .rerr opt :: after →
    (p.dst = host.node.myaddr → repliesIn before = []) ∧
      (host.node.config.pathCache = false → ∀ route, .srt route ∉ after)
  reaches : host.node.config.pathCache = false → ∀ opt, .srt opt ∈ p.dsrOptions.flatten →
    ∀ waits ∈ host.waiting, waits.dst ∈ opt.addrs ++ [p.src, p.dst] →
      ∀ prvHop, optPrevHop p.src p.dst opt = .ok prvHop → Reaches now host.node prvHop waits.dst

structure Handled (now : SimTime) (host : Host) (dp : DsrPkt) (seen : List DsrOpt)
    (acc : HostRecv (List DsrOpt)) : Prop where
  goes : Goes now host acc.host
  keeps : (∀ opt, .rerr opt ∉ seen) → host.node.Keeps now acc.host.node
  packet : SamePacket dp acc.dp
  listed : acc.dp.rrepOpt.length ≤ dp.rrepOpt.length + (repliesIn seen).length
  replies : ∀ opt ∈ acc.dp.rrepOpt, ∃ reply ∈ repliesIn dp.opth.flatten, opt.addrs = reply.addrs
  learned : dp.hasFlag pktPromiscRecv = false → dp.dst = host.node.myaddr →
    ∀ opt ∈ repliesIn seen, ∀ addr ∈ opt.addrs, addr ≠ host.node.myaddr →
      acc.host.node.Ready now addr
  asks : acc.action.testBit 5 = true →
    dp.dst = host.node.myaddr ∧ dp.hasFlag pktPromiscRecv = false

def next (acc : HostRecv (List DsrOpt)) (recv : HostRecv DsrOpt) : HostRecv (List DsrOpt) :=
  { host := recv.host, dp := recv.dp, opt := acc.opt ++ [recv.opt],
    replies := acc.replies ++ recv.replies, action := acc.action ||| recv.action }

variable {seen rest : List DsrOpt} {acc : HostRecv (List DsrOpt)} {dopt : DsrOpt}
  {recv : HostRecv DsrOpt}

theorem repliesIn_append (before after : List DsrOpt) :
    repliesIn (before ++ after) = repliesIn before ++ repliesIn after :=
  List.filterMap_append

theorem SamePacket.hasFlag {dp' : DsrPkt} (same : SamePacket dp dp') (flag : Nat) :
    dp'.hasFlag flag = dp.hasFlag flag := by
  unfold DsrPkt.hasFlag
  rw [same.flags]

theorem Handled.handle (handled : Handled now host dp seen acc)
    (handles : Handles now acc.host acc.dp recv)
    (silent : dp.hasFlag pktPromiscRecv = true ∨ repliesIn [dopt] = []) :
    Handled now host dp (seen ++ [dopt]) (next acc recv) := by
  refine ⟨handled.goes.trans handles.grows.toGoes, ?_, handled.packet.trans handles.packet, ?_, ?_,
    ?_, ?_⟩
  · intro unbroken
    exact (handled.keeps fun opt member => unbroken opt (List.mem_append_left _ member)).trans
      handles.grows.keeps
  · have longer := handled.listed
    simp only [next, handles.replies, repliesIn_append, List.length_append]
    omega
  · simp only [next, handles.replies]
    exact handled.replies
  · intro heard here opt member addr among other
    have none : repliesIn [dopt] = [] := silent.resolve_left (by simp [heard])
    rw [repliesIn_append, none, List.append_nil] at member
    exact handles.grows.keeps.ready (handled.learned heard here opt member addr among other)
  · intro asks
    simp only [next, Nat.testBit_or, handles.quiet, Bool.or_false] at asks
    exact handled.asks asks

theorem Handles.map {Opt Opt' : Type} {recv : HostRecv Opt} (f : Opt → Opt')
    (handles : Handles now host dp recv) : Handles now host dp (recv.map f) :=
  ⟨handles.grows, handles.packet, handles.replies, handles.quiet⟩

theorem Handles.skip {action : Nat} (sound : host.Sound now) (quiet : action.testBit 5 = false) :
    Handles now host dp { host := host, dp := dp, opt := dopt, replies := [], action := action } :=
  ⟨.refl sound, .refl, rfl, quiet⟩

theorem deleteLink_goes (sound : host.Sound now) (a b : InAddr) :
    Goes now host { host with node := host.node.deleteLink now a b } :=
  .of_node sound rfl rfl (LinkCache.Valid.deleteEdge sound.valid a b true) rfl rfl rfl

theorem Handled.reply {recv : HostRecv DsrRrepOpt} (handled : Handled now host dp seen acc)
    (replied : Replied now acc.host acc.dp opt recv)
    (split : dp.opth.flatten = seen ++ .rrep opt :: rest)
    (heard : dp.hasFlag pktPromiscRecv = false)
    (few : dp.dst = host.node.myaddr → acc.dp.rrepOpt.length < maxRrepOpts) :
    Handled now host dp (seen ++ [.rrep opt]) (next acc (recv.map .rrep)) := by
  have one : repliesIn [.rrep opt] = [opt] := rfl
  refine ⟨handled.goes.trans replied.grows.toGoes, ?_, handled.packet.trans replied.packet, ?_, ?_,
    ?_, ?_⟩
  · intro unbroken
    exact (handled.keeps fun opt member => unbroken opt (List.mem_append_left _ member)).trans
      replied.grows.keeps
  · have longer := handled.listed
    rw [repliesIn_append, one, List.length_append, List.length_singleton]
    cases replied.replies with
    | inl same =>
        simp only [next, HostRecv.map, same]
        omega
    | inr more =>
        obtain ⟨added, grown, -⟩ := more
        simp only [next, HostRecv.map, grown, List.length_append, List.length_singleton]
        omega
  · intro other member
    cases replied.replies with
    | inl same => exact handled.replies other (same ▸ member)
    | inr more =>
        obtain ⟨added, grown, addrs⟩ := more
        simp only [next, HostRecv.map, grown] at member
        cases List.mem_append.mp member with
        | inl before => exact handled.replies other before
        | inr last =>
            refine ⟨opt, ?_, List.mem_singleton.mp last ▸ addrs⟩
            rw [split, repliesIn_append]
            exact List.mem_append_right _ List.mem_cons_self
  · intro _ here other member addr among different
    have there : acc.dp.dst = acc.host.node.myaddr :=
      (handled.packet.dst.trans here).trans handled.goes.myaddr.symm
    rw [repliesIn_append, one] at member
    cases List.mem_append.mp member with
    | inl before =>
        exact replied.grows.keeps.ready
          (handled.learned heard here other before addr among different)
    | inr last =>
        rw [List.mem_singleton.mp last] at among
        exact replied.learned (few here) there addr among (handled.goes.myaddr ▸ different)
  · intro asks
    simp only [next, HostRecv.map, Nat.testBit_or, Bool.or_eq_true] at asks
    cases asks with
    | inl before => exact handled.asks before
    | inr now =>
        exact ⟨handled.packet.dst.symm.trans ((replied.asks now).trans handled.goes.myaddr), heard⟩

theorem Handled.error {opt : DsrRerrOpt} (handled : Handled now host dp seen acc) {after : Host}
    (goes : Goes now acc.host after)
    (unbroken : dp.dst = host.node.myaddr → repliesIn seen = []) :
    Handled now host dp (seen ++ [.rerr opt])
      (next acc { host := after, dp := acc.dp, opt := .rerr opt, replies := [], action := 0 }) := by
  have none : repliesIn (seen ++ [.rerr opt]) = repliesIn seen := by
    rw [repliesIn_append]
    exact List.append_nil _
  refine ⟨handled.goes.trans goes, ?_, handled.packet, ?_, handled.replies, ?_, ?_⟩
  · intro absent
    exact absurd (List.mem_append_right seen List.mem_cons_self) (absent opt)
  · rw [none]
    exact handled.listed
  · intro _ here other member
    rw [none, unbroken here] at member
    cases member
  · intro asks
    simp only [next, Nat.or_zero] at asks
    exact handled.asks asks

structure SparesParsed (now : SimTime) (host : Host) (dp : DsrPkt) (p : DSRPkt) : Prop where
  spares : Spares now host p
  src : dp.src = p.src
  dst : dp.dst = p.dst
  opth : dp.opth = p.dsrOptions
  replies : dp.rrepOpt = (repliesIn p.dsrOptions.flatten).take maxRrepOpts

theorem SparesParsed.room (spares : SparesParsed now host dp p)
    (handled : Handled now host dp seen acc) (split : dp.opth.flatten = seen ++ .rrep opt :: rest)
    (here : dp.dst = host.node.myaddr) : acc.dp.rrepOpt.length < maxRrepOpts := by
  have few := spares.spares.few (spares.dst ▸ here)
  have listed := handled.listed
  rw [← spares.opth, split] at few
  have parsed : dp.rrepOpt.length ≤ 5 := by
    rw [spares.replies, List.length_take, ← spares.opth, split]
    omega
  have one : repliesIn (.rrep opt :: rest) = opt :: repliesIn rest := rfl
  rw [repliesIn_append, one, List.length_append, List.length_cons] at few
  simp only [maxRrepOpts]
  omega

theorem SparesParsed.reaches {opt : DsrSrtOpt} (spares : SparesParsed now host dp p)
    (handled : Handled now host dp seen acc) (split : dp.opth.flatten = seen ++ .srt opt :: rest)
    (cached : acc.host.node.config.pathCache = false) :
    ∀ waits ∈ acc.host.waiting, waits.dst ∈ opt.addrs ++ [acc.dp.src, acc.dp.dst] →
      ∀ prvHop, optPrevHop acc.dp.src acc.dp.dst opt = .ok prvHop →
        Reaches now acc.host.node prvHop waits.dst := by
  intro waits member among prvHop before
  rw [handled.goes.config] at cached
  rw [spares.opth] at split
  have keeps : host.node.Keeps now acc.host.node := by
    apply handled.keeps
    intro error broken
    obtain ⟨front, back, whole⟩ := List.append_of_mem broken
    have later := (spares.spares.unbroken front error (back ++ .srt opt :: rest) (by
      rw [split, whole]
      simp)).2 cached opt
    exact later (List.mem_append_right _ List.mem_cons_self)
  rw [handled.packet.src, handled.packet.dst, spares.src, spares.dst] at among before
  have listed : .srt opt ∈ p.dsrOptions.flatten := by
    rw [split]
    exact List.mem_append_right _ List.mem_cons_self
  exact (spares.spares.reaches cached opt listed waits (handled.goes.kept.waiting member) among
    prvHop before).keeps keeps

theorem Handled.step (spares : SparesParsed now host dp p) (time : outside.now = now)
    (handled : Handled now host dp seen acc) (split : dp.opth.flatten = seen ++ dopt :: rest)
    (ran : acc.host.recvOption outside config acc.opt acc.dp dopt = .ok recv) :
    Handled now host dp (seen ++ [dopt]) (next acc recv) := by
  have sound := handled.goes.sound
  have lasting : acc.host.node.Lasting := by
    unfold Node.Lasting
    rw [handled.goes.config]
    exact spares.spares.lasting
  have heard := handled.packet.hasFlag pktPromiscRecv
  unfold recvOption at ran
  rw [heard] at ran
  cases dopt with
  | padn | prevHop | timeout | flowid | pad1 =>
      cases ran
      exact handled.handle (.skip sound (quiet_actions _ (by simp))) (.inr rfl)
  | rreq opt =>
      dsimp only at ran
      split at ran
      · cases ran
        exact handled.handle (.skip sound (quiet_actions _ (by simp))) (.inr rfl)
      · obtain ⟨result, received, rfl⟩ := map_ok ran
        exact handled.handle ((rreqOptRecv_handles sound time lasting received).map _) (.inr rfl)
  | rrep opt =>
      dsimp only at ran
      split at ran
      · next promisc =>
          cases ran
          exact handled.handle (.skip sound (quiet_actions _ (by simp))) (.inl promisc)
      · next heard' =>
          obtain ⟨result, received, rfl⟩ := map_ok ran
          have listens : dp.hasFlag pktPromiscRecv = false := Bool.not_eq_true _ ▸ heard'
          exact handled.reply
            (rrepOptRecv_replied sound time lasting (heard.trans listens) received) split listens
            fun here => spares.room handled split here
  | rerr opt =>
      dsimp only at ran
      have unbroken : dp.dst = host.node.myaddr → repliesIn seen = [] := fun here =>
        (spares.spares.unbroken seen opt rest (spares.opth ▸ split)).1 (spares.dst ▸ here)
      split at ran
      · cases ran
        exact handled.error (.refl sound) unbroken
      · cases ran
        refine handled.error ?_ unbroken
        unfold rerrOptRecv
        split
        · exact time ▸ deleteLink_goes sound opt.errSrc opt.info
        · exact .refl sound
  | ack opt =>
      dsimp only at ran
      split at ran
      · cases ran
        exact handled.handle (.skip sound (quiet_actions _ (by simp))) (.inr rfl)
      · cases ran
        refine handled.handle (.skip sound (quiet_actions _ ?_)) (.inr rfl)
        split <;> simp
  | srt opt =>
      obtain ⟨result, received, rfl⟩ := map_ok ran
      exact handled.handle ((srtOptRecv_handles sound time lasting
        (spares.reaches handled split) received).map _) (.inr rfl)
  | ackReq id =>
      cases ran
      refine handled.handle ⟨.refl sound, ?_, ?_, ?_⟩ (.inr rfl)
      all_goals
        unfold dsrAckReqOptRecv
        split_ifs
      all_goals first | exact ⟨rfl, rfl, rfl, rfl⟩ | rfl | exact quiet_actions _ (by simp)

theorem Handled.loop {final : HostRecv (List DsrOpt)} (spares : SparesParsed now host dp p)
    (time : outside.now = now) (handled : Handled now host dp seen acc)
    (split : dp.opth.flatten = seen ++ rest)
    (ran : recvOptions outside config acc rest = .ok final) :
    Handled now host dp dp.opth.flatten final := by
  induction rest generalizing seen acc with
  | nil =>
      cases ran
      rw [split, List.append_nil]
      exact handled
  | cons dopt rest ih =>
      obtain ⟨recv, received, ran⟩ := bind_ok.mp ran
      exact ih (handled.step spares time split received) (by simp [split]) ran

/-! ## A whole packet -/

/-- The calls for an action that a packet does not ask for are none, and the others are for
the nodes of its replies. -/
theorem mem_actLoop {action rounds mask : Nat} {call : Call}
    (member : call ∈ (actLoop dp action rounds mask).1) :
    action.testBit 5 = true ∧ ∃ opt ∈ dp.rrepOpt, ∃ addr ∈ opt.addrs, call = .sendBufSend addr := by
  have acts : ∀ bit, call ∈ (actOn dp bit).1 → bit = dsrPktSendBuffered ∧
      ∃ opt ∈ dp.rrepOpt, ∃ addr ∈ opt.addrs, call = .sendBufSend addr := by
    intro bit member
    unfold actOn at member
    split_ifs at member with _ _ _ _ buffered
    all_goals try cases member
    obtain ⟨opt, among, listed⟩ := List.mem_flatMap.mp member
    obtain ⟨addr, here, rfl⟩ := List.mem_map.mp listed
    exact ⟨buffered, opt, among, addr, here, rfl⟩
  have asked : ∀ mask, action &&& mask = dsrPktSendBuffered → action.testBit 5 = true := by
    intro mask same
    have bit : (action &&& mask).testBit 5 = true := by
      rw [same]
      decide
    rw [Nat.testBit_and, Bool.and_eq_true] at bit
    exact bit.1
  induction rounds generalizing mask with
  | zero => cases member
  | succ rounds ih =>
      unfold actLoop at member
      cases acted : actOn dp (action &&& mask) with
      | mk calls fate =>
          have here : call ∈ calls → action.testBit 5 = true ∧
              ∃ opt ∈ dp.rrepOpt, ∃ addr ∈ opt.addrs, call = .sendBufSend addr := by
            intro among
            obtain ⟨same, found⟩ := acts (action &&& mask) (acted ▸ among)
            exact ⟨asked mask same, found⟩
          rw [acted] at member
          cases fate with
          | some fate => exact here member
          | none =>
              cases List.mem_append.mp member with
              | inl now => exact here now
              | inr later => exact ih later

theorem dsrRecv_goes {result : Host × List (DsrSrt × DsrSrt) × Fate}
    (spares : SparesParsed now host dp p) (sound : host.Sound now) (time : outside.now = now)
    (ran : host.dsrRecv outside config dp = .ok result) : Goes now host result.1 := by
  obtain ⟨recv, received, ran⟩ := bind_ok.mp ran
  obtain ⟨last, looped, received⟩ := bind_ok.mp received
  cases received
  have start : Handled now host dp []
      { host := host, dp := dp, opt := [], replies := []
        action := if dp.dst = host.node.myaddr ∧ dp.payloadLen ≠ 0 then dsrPktDeliver else 0 } := by
    refine ⟨.refl sound, fun _ => .refl, .refl, by simp [repliesIn], ?_, ?_, ?_⟩
    · intro opt member
      rw [spares.replies, ← spares.opth] at member
      exact ⟨opt, List.mem_of_mem_take member, rfl⟩
    · intro _ _ opt member
      cases member
    · intro asks
      dsimp only at asks
      split at asks
      all_goals
        rw [quiet_actions _ (by simp)] at asks
        cases asks
  have handled : Handled now host dp dp.opth.flatten last :=
    start.loop spares time rfl looped
  split at ran
  · cases ran
    exact handled.goes
  · obtain ⟨after, sent, ran⟩ := bind_ok.mp ran
    cases ran
    have grows : Grows now last.host after := by
      refine foldlM_seen sent (fun _ acc => Grows now last.host acc) (.refl handled.goes.sound) ?_
      intro seen call acc acc' member grows ran
      obtain ⟨asks, opt, among, addr, listed, rfl⟩ := mem_actLoop member
      obtain ⟨here, heard⟩ := handled.asks asks
      obtain ⟨reply, known, same⟩ := handled.replies opt among
      obtain ⟨goes, keeps⟩ := sendBufSend_goes grows.sound time (by
        intro waits waiting ends
        have different : addr ≠ host.node.myaddr := by
          rw [← handled.goes.myaddr, ← grows.myaddr, ← ends]
          exact (grows.sound.own waits waiting).2
        exact grows.keeps.ready
          (handled.learned heard here reply known addr (same ▸ listed) different)) ran
      exact grows.trans ⟨goes, keeps⟩
    exact handled.goes.trans grows.toGoes

end Host

end SyncFanet.Dsr
