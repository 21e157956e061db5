import SyncFanet.Dsr.AttestedPackets
import SyncFanet.Dsr.RouteShortening

/-!
# Nodes that repeat what was heard

The invariant of a node with the link cache: its links were heard, the packets that wait are its
own, and what it has sent says no more. Sending what waits and learning from routes keep it.
-/

set_option autoImplicit false

namespace SyncFanet.Dsr

namespace Host

structure Honest (met : InAddr → InAddr → Prop) (now : SimTime) (host : Host) : Prop where
  linkCache : host.node.config.pathCache = false
  valid : host.node.Valid now
  links : host.node.links.LinksIn met now
  own : ∀ dp ∈ host.waiting, dp.src = host.node.myaddr ∧ dp.opth = []
  sent : ∀ pair ∈ host.sent, Attested met ⟨host.node.myaddr, pair.2⟩

structure StaysHonest (met : InAddr → InAddr → Prop) (now : SimTime) (before after : Host) :
    Prop where
  honest : after.Honest met now
  myaddr : after.node.myaddr = before.node.myaddr

variable {nodes : Finset InAddr} {met more : InAddr → InAddr → Prop} {now : SimTime}
  {outside : Outside} {config : RreqConfig} {host between after : Host} {dp : DsrPkt}
  {srt : DsrSrt} {dst : InAddr}

theorem Honest.stays (honest : host.Honest met now) : StaysHonest met now host host :=
  ⟨honest, rfl⟩

theorem StaysHonest.trans (first : StaysHonest met now host between)
    (second : StaysHonest met now between after) : StaysHonest met now host after :=
  ⟨second.honest, second.myaddr.trans first.myaddr⟩

theorem Honest.mono (grows : ∀ a b, met a b → more a b) (honest : host.Honest met now) :
    host.Honest more now :=
  ⟨honest.linkCache, honest.valid,
    fun origin last live => grows _ _ (honest.links origin last live), honest.own,
    fun pair member => (honest.sent pair member).mono grows⟩

theorem Honest.wait {later : SimTime} (le : now ≤ later) (honest : host.Honest met now) :
    host.Honest met later :=
  ⟨honest.linkCache, honest.valid.wait le, honest.links.wait le, honest.own, honest.sent⟩

theorem Honest.of_node (honest : host.Honest met now)
    (myaddr : after.node.myaddr = host.node.myaddr) (config : after.node.config = host.node.config)
    (valid : after.node.Valid now) (links : after.node.links.LinksIn met now)
    (waiting : ∀ dp ∈ after.waiting, dp ∈ host.waiting) (sent : after.sent = host.sent) :
    StaysHonest met now host after := by
  refine ⟨⟨?_, valid, links, ?_, ?_⟩, myaddr⟩
  · rw [config]
    exact honest.linkCache
  · rw [myaddr]
    exact fun dp member => honest.own dp (waiting dp member)
  · rw [myaddr, sent]
    exact honest.sent

/-! ## Lookups -/

structure Finds (met : InAddr → InAddr → Prop) (me dst : InAddr) (found : Option DsrSrt) :
    Prop where
  ends : ∀ srt, found = some srt → srt.src = me ∧ srt.dst = dst
  along : ∀ srt, found = some srt → srt.Over met
  cached : ∀ srt, found = some srt → srt = foundRoute me dst srt.addrs

theorem rtcFind_honest {found : Option DsrSrt} (honest : host.Honest met now)
    (time : outside.now = now) (ran : host.rtcFind outside dst = .ok (after, found)) :
    StaysHonest met now host after ∧ Finds met host.node.myaddr dst found := by
  obtain ⟨result, looked, ran⟩ := bind_ok.mp ran
  cases ran
  rw [time] at looked
  obtain ⟨keeps, valid, -⟩ := Node.routeFind_ready honest.valid looked
  obtain ⟨links, routes⟩ := Node.routeFind_over honest.linkCache honest.valid honest.links looked
  refine ⟨honest.of_node keeps.myaddr keeps.config valid links (fun _ => id) rfl, ?_, ?_, ?_⟩
  · exact fun srt here => ⟨(routes srt here).1, (routes srt here).2.1⟩
  · exact fun srt here => (routes srt here).2.2
  · intro srt here
    have whole : result = (result.1, some srt) := Prod.ext rfl here
    rw [whole] at looked
    exact Node.routeFind_some looked

/-! ## Sending -/

theorem xmit_honest (meets : Meets nodes met) (honest : host.Honest met now)
    (own : dp.src = host.node.myaddr) (plain : dp.opth = []) (starts : srt.src = host.node.myaddr)
    (ends : srt.dst = dp.dst) (along : srt.Over met)
    (ran : host.xmit outside dp srt = .ok after) : StaysHonest met now host after := by
  obtain ⟨transmitted, started, ran⟩ := bind_ok.mp ran
  cases transmitted with
  | none =>
      cases ran
      exact honest.of_node rfl rfl honest.valid honest.links (fun _ => id) rfl
  | some p =>
      cases ran
      obtain ⟨dp', added, started⟩ := bind_ok.mp started
      obtain ⟨costs, -, started⟩ := bind_ok.mp started
      have sendable := dsrSrtAdd_sendable meets along starts ends own plain added costs
      refine ⟨⟨honest.linkCache, honest.valid, honest.links, honest.own, ?_⟩, rfl⟩
      intro pair member
      cases List.mem_append.mp member with
      | inl old => exact honest.sent pair old
      | inr new =>
          rw [List.mem_singleton.mp new]
          exact sendable.transmitted (Except.ok.inj started)

theorem sendBuffered_honest (meets : Meets nodes met) (honest : host.Honest met now)
    (time : outside.now = now) (own : dp.src = host.node.myaddr) (plain : dp.opth = [])
    (ran : sendBuffered outside host dp = .ok after) : StaysHonest met now host after := by
  obtain ⟨⟨between, found⟩, looked, ran⟩ := bind_ok.mp ran
  obtain ⟨stays, finds⟩ := rtcFind_honest honest time looked
  cases found with
  | none =>
      cases ran
      have honest := stays.honest
      exact stays.trans
        (honest.of_node rfl rfl honest.valid honest.links (fun _ => id) rfl)
  | some srt =>
      obtain ⟨starts, ends⟩ := finds.ends srt rfl
      exact stays.trans (xmit_honest meets stays.honest (own.trans stays.myaddr.symm) plain
        (starts.trans stays.myaddr.symm) ends (finds.along srt rfl) ran)

theorem sendBufSend_honest (meets : Meets nodes met) (honest : host.Honest met now)
    (time : outside.now = now) (ran : host.sendBufSend outside dst = .ok after) :
    StaysHonest met now host after := by
  obtain ⟨last, sent, ran⟩ := bind_ok.mp ran
  cases ran
  have stays := foldlM_seen sent (fun _ acc => StaysHonest met now host acc) honest.stays (by
    intro seen dp acc acc' member stays ran
    obtain ⟨entry, among, rfl⟩ := List.mem_map.mp member
    obtain ⟨own, plain⟩ := honest.own _ (List.mem_map_of_mem (List.mem_filter.mp among).1)
    exact stays.trans (sendBuffered_honest meets stays.honest time
      (own.trans stays.myaddr.symm) plain ran))
  have honest' := stays.honest
  refine ⟨⟨honest'.linkCache, honest'.valid, honest'.links, ?_, honest'.sent⟩, stays.myaddr⟩
  intro dp member
  obtain ⟨entry, among, rfl⟩ := List.mem_map.mp member
  obtain ⟨own, plain⟩ := honest.own _ (List.mem_map_of_mem (List.mem_filter.mp among).1)
  exact ⟨own.trans stays.myaddr.symm, plain⟩

theorem sendAndCancel_honest (meets : Meets nodes met) (honest : host.Honest met now)
    (time : outside.now = now) (ran : host.sendAndCancel outside dst = .ok after) :
    StaysHonest met now host after := by
  obtain ⟨sent, verdict, ran⟩ := bind_ok.mp ran
  cases ran
  have stays := sendBufSend_honest meets honest time verdict
  have honest' := stays.honest
  exact stays.trans (honest'.of_node rfl rfl honest'.valid honest'.links (fun _ => id) rfl)

theorem verdicts_honest {dsts : List InAddr} (meets : Meets nodes met)
    (honest : host.Honest met now) (time : outside.now = now)
    (ran : dsts.foldlM (sendAndCancel outside) host = .ok after) :
    StaysHonest met now host after :=
  foldlM_seen ran (fun _ acc => StaysHonest met now host acc) honest.stays
    fun _ _ _ _ _ stays ran => stays.trans (sendAndCancel_honest meets stays.honest time ran)

theorem sendCalls_honest {calls : List Call} (meets : Meets nodes met)
    (honest : host.Honest met now) (time : outside.now = now)
    (ran : host.sendCalls outside calls = .ok after) : StaysHonest met now host after := by
  refine foldlM_seen ran (fun _ acc => StaysHonest met now host acc) honest.stays ?_
  intro seen call acc acc' _ stays ran
  cases call with
  | sendBufSend dst => exact stays.trans (sendBufSend_honest meets stays.honest time ran)
  | neighTblAdd | discoveryCancel | gratRrepTblAdd | rrepSend | ackSend =>
      cases ran
      exact stays

/-! ## Acting by itself -/

theorem dsrStartXmit_honest (meets : Meets nodes met) (honest : host.Honest met now)
    (time : outside.now = now) (own : dp.src = host.node.myaddr) (plain : dp.opth = [])
    (ran : host.dsrStartXmit outside config dp = .ok after) : StaysHonest met now host after := by
  obtain ⟨⟨between, found⟩, looked, ran⟩ := bind_ok.mp ran
  obtain ⟨stays, finds⟩ := rtcFind_honest honest time looked
  cases found with
  | some srt =>
      obtain ⟨starts, ends⟩ := finds.ends srt rfl
      exact stays.trans (xmit_honest meets stays.honest (own.trans stays.myaddr.symm) plain
        (starts.trans stays.myaddr.symm) ends (finds.along srt rfl) ran)
  | none =>
      obtain ⟨discovery, -, ran⟩ := bind_ok.mp ran
      cases ran
      have honest' := stays.honest
      refine ⟨⟨honest'.linkCache, honest'.valid, honest'.links, ?_, honest'.sent⟩, stays.myaddr⟩
      intro waits member
      cases mem_waiting_enqueue member with
      | inl new =>
          rw [new]
          exact ⟨own.trans stays.myaddr.symm, plain⟩
      | inr old => exact honest'.own waits old

theorem Acts.honest (acts : host.Acts config now after) (meets : Meets nodes met)
    (honest : host.Honest met now) : StaysHonest met now host after := by
  cases acts with
  | startXmit outside dp time own plain ran =>
      exact dsrStartXmit_honest meets honest time own plain ran
  | timeout sendBufferTimeout =>
      refine honest.of_node rfl rfl honest.valid honest.links (fun dp member => ?_) rfl
      obtain ⟨entry, stored, rfl⟩ := List.mem_map.mp member
      exact List.mem_map_of_mem (List.mem_filter.mp stored).1
  | find outside dst time ran => exact (rtcFind_honest honest time ran).1
  | deleteLink src1 src2 =>
      exact honest.of_node rfl rfl (honest.valid.deleteEdge src1 src2 true) honest.links.deleteEdge
        (fun _ => id) rfl
  | tables table gratRrep getCost =>
      exact honest.of_node rfl rfl honest.valid honest.links (fun _ => id) rfl

theorem Fresh.honest {addr : InAddr} (fresh : host.Fresh addr) : host.Honest met now := by
  refine ⟨fresh.linkCache, ?_, ?_, ?_, ?_⟩
  · unfold Node.Valid
    rw [fresh.links]
    exact (LinkCache.LinkRun.init now).valid
  · rw [fresh.links]
    rintro origin last ⟨edge, member, -⟩
    simp [LinkCache.edgesFrom] at member
  · intro dp member
    rw [Host.waiting, fresh.waiting] at member
    cases member
  · rw [fresh.sent]
    exact List.forall_mem_nil _

/-! ## Learning -/

theorem routeAdd_honest {node : Node} (meets : Meets nodes met) (honest : host.Honest met now)
    (linked : srt.nodes.IsChain met) (ran : host.node.routeAdd now srt = .ok node) :
    StaysHonest met now host { host with node := node } := by
  obtain ⟨config, myaddr, valid⟩ := Node.routeAdd_valid honest.valid ran
  refine honest.of_node myaddr config valid ?_ (fun _ => id) rfl
  unfold Node.routeAdd at ran
  simp only [honest.linkCache, Bool.false_eq_true, if_false] at ran
  cases ran
  exact honest.links.phSrtAddLinkMap meets.symm linked

theorem learnRreq_honest (meets : Meets nodes met) (honest : host.Honest met now)
    (time : outside.now = now) (linked : srt.nodes.IsChain met)
    (ran : host.learnRreq outside srt = .ok after) : StaysHonest met now host after := by
  obtain ⟨node, added, ran⟩ := bind_ok.mp ran
  rw [time] at added
  have stays := routeAdd_honest meets honest linked added
  exact stays.trans (verdicts_honest meets stays.honest time ran)

theorem learnSrt_honest {intended prvHop : InAddr} (meets : Meets nodes met)
    (honest : host.Honest met now) (time : outside.now = now) (linked : srt.nodes.IsChain met)
    (heard : met host.node.myaddr prvHop)
    (ran : host.learnSrt outside srt intended prvHop = .ok after) :
    StaysHonest met now host after := by
  unfold learnSrt at ran
  rw [time] at ran
  simp only [honest.linkCache, Bool.false_eq_true, if_false] at ran
  obtain ⟨sent, verdicts, ran⟩ := bind_ok.mp ran
  obtain ⟨node, added, ran⟩ := bind_ok.mp ran
  cases ran
  have first : StaysHonest met now host { host with
      node.links := host.node.links.phAddLinkMap now host.node.myaddr prvHop
        host.node.config.routeCacheTimeout } :=
    honest.of_node rfl rfl (LinkCache.Valid.addEdges honest.valid _ _)
      (honest.links.addEdges meets.symm heard) (fun _ => id) rfl
  have second := verdicts_honest meets first.honest time verdicts
  exact (first.trans second).trans (routeAdd_honest meets second.honest linked added)

end Host

end SyncFanet.Dsr
