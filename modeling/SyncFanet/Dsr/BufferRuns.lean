import SyncFanet.Dsr.BufferedPackets

/-!
# Runs with a send buffer

In which runs of a node nothing that waits for a route is lost when a route is learned.
-/

set_option autoImplicit false

namespace SyncFanet.Dsr

/-- The states of a node at times that do not decrease, where the packets it receives are
allowed ones. Its data packets come from above, for other nodes. -/
inductive HostRun (config : RreqConfig) (allowed : SimTime → Host → DSRPkt → Prop) :
    SimTime → Host → Prop where
  | start (now : SimTime) (node : Node) (table : RreqTable) (lookups : Nat)
      (sent : List (DsrPkt × DSRPkt)) (freed : List DsrPkt)
      (paths : node.paths = { paths := ∅, nextPurge := 0 })
      (links : node.links = { linkArray := ∅, routeMap := ∅ }) :
      HostRun config allowed now
        { node := node, table := table, packetBuffer := [], lookups := lookups, sent := sent
          freed := freed }
  | wait {now later : SimTime} {host : Host} (before : HostRun config allowed now host)
      (le : now ≤ later) : HostRun config allowed later host
  | startXmit {now : SimTime} {host after : Host} (before : HostRun config allowed now host)
      (outside : Outside) (dp : DsrPkt) (time : outside.now = now)
      (own : dp.src = host.node.myaddr) (other : dp.dst ≠ host.node.myaddr)
      (ran : host.dsrStartXmit outside config dp = .ok after) : HostRun config allowed now after
  | timeout {now : SimTime} {host : Host} (before : HostRun config allowed now host)
      (sendBufferTimeout : Nat) :
      HostRun config allowed now (host.sendBufTimeout now sendBufferTimeout)
  | find {now : SimTime} {host after : Host} {found : Option DsrSrt}
      (before : HostRun config allowed now host) (outside : Outside) (dst : InAddr)
      (time : outside.now = now) (ran : host.rtcFind outside dst = .ok (after, found)) :
      HostRun config allowed now after
  | deleteLink {now : SimTime} {host : Host} (before : HostRun config allowed now host)
      (src1 src2 : InAddr) :
      HostRun config allowed now { host with node := host.node.deleteLink now src1 src2 }
  | tables {now : SimTime} {host : Host} (before : HostRun config allowed now host)
      (table : RreqTable) (gratRrep : List (InAddr × InAddr)) (getCost : InAddr → ℚ) :
      HostRun config allowed now
        { host with
          node := { host.node with gratRrep := gratRrep, getCost := getCost }, table := table }
  | receive {now : SimTime} {host : Host} {result : Host × List (DsrSrt × DsrSrt) × Fate}
      (before : HostRun config allowed now host) (outside : Outside) (promisc : Bool) (p : DSRPkt)
      (time : outside.now = now) (permitted : allowed now host p)
      (ran : host.processDsr outside config promisc p = .ok result) :
      HostRun config allowed now result.1

namespace Host

variable {now : SimTime} {outside : Outside} {config : RreqConfig} {host after : Host}
  {dp : DsrPkt} {p : DSRPkt}

/-! ## The invariant -/

theorem xmit_frame {srt : DsrSrt} (ran : host.xmit outside dp srt = .ok after) :
    after.node = host.node ∧ after.packetBuffer = host.packetBuffer := by
  obtain ⟨transmitted, _, ran⟩ := bind_ok.mp ran
  cases transmitted with
  | none =>
      cases ran
      exact ⟨rfl, rfl⟩
  | some p =>
      cases ran
      exact ⟨rfl, rfl⟩

theorem mem_insertStorage {entry other : PacketStoreage} {entries : List PacketStoreage}
    (member : other ∈ insertStorage entry entries) : other = entry ∨ other ∈ entries := by
  induction entries with
  | nil => exact .inl (List.mem_singleton.mp member)
  | cons first rest ih =>
      unfold insertStorage at member
      split at member
      · exact List.mem_cons.mp member
      · cases List.mem_cons.mp member with
        | inl same => exact .inr (same ▸ List.mem_cons_self)
        | inr later => exact (ih later).imp_right (List.mem_cons_of_mem _)

theorem mem_waiting_enqueue {waits : DsrPkt}
    (member : waits ∈ (host.sendBufEnqueuePacket now dp).waiting) :
    waits = dp ∨ waits ∈ host.waiting := by
  obtain ⟨entry, stored, rfl⟩ := List.mem_map.mp member
  cases mem_insertStorage stored with
  | inl new => exact .inl (new ▸ rfl)
  | inr old =>
      refine .inr (List.mem_map_of_mem ?_)
      split at old
      · exact List.mem_of_mem_eraseIdx old
      · exact old

theorem Sound.of_waiting (sound : host.Sound now) (myaddr : after.node.myaddr = host.node.myaddr)
    (valid : after.node.Valid now) (waiting : ∀ dp ∈ after.waiting, dp ∈ host.waiting) :
    after.Sound now := by
  refine ⟨valid, ?_⟩
  rw [myaddr]
  exact fun dp member => sound.own dp (waiting dp member)

theorem dsrStartXmit_sound (sound : host.Sound now) (time : outside.now = now)
    (own : dp.src = host.node.myaddr) (other : dp.dst ≠ host.node.myaddr)
    (ran : host.dsrStartXmit outside config dp = .ok after) : after.Sound now := by
  obtain ⟨found, looked, ran⟩ := bind_ok.mp ran
  obtain ⟨node, same, keeps, valid, -⟩ := rtcFind_ready sound.valid time looked
  cases route : found.2 with
  | some srt =>
      rw [route] at ran
      obtain ⟨sameNode, buffer⟩ := xmit_frame ran
      rw [same] at sameNode buffer
      refine sound.of_waiting (sameNode ▸ keeps.myaddr) ?_ ?_
      · rw [sameNode]
        exact valid
      · unfold waiting
        rw [buffer]
        exact fun _ => id
  | none =>
      rw [route] at ran
      obtain ⟨discovery, _, ran⟩ := bind_ok.mp ran
      cases ran
      rw [same]
      refine ⟨valid, ?_⟩
      intro waits member
      have there : node.myaddr = host.node.myaddr := keeps.myaddr
      have mine : waits.src = host.node.myaddr ∧ waits.dst ≠ host.node.myaddr := by
        cases mem_waiting_enqueue member with
        | inl new => exact new ▸ ⟨own, other⟩
        | inr old => exact sound.own waits old
      exact there ▸ mine

theorem processDsr_goes {promisc : Bool} {result : Host × List (DsrSrt × DsrSrt) × Fate}
    (sound : host.Sound now) (time : outside.now = now) (spares : Spares now host p)
    (ran : host.processDsr outside config promisc p = .ok result) : Goes now host result.1 := by
  cases promisc with
  | true =>
      rw [processDsr_overheard] at ran
      cases ran
      exact .refl sound
  | false =>
      unfold processDsr at ran
      split at ran
      · exact dsrRecv_goes ⟨spares, rfl, rfl, rfl, rfl⟩ sound time ran
      · cases ran
        exact .refl sound

end Host

theorem HostRun.sound {now : SimTime} {config : RreqConfig} {host : Host}
    (run : HostRun config Host.Spares now host) : host.Sound now := by
  induction run with
  | start now node table lookups sent freed paths links =>
      refine ⟨?_, nofun⟩
      unfold Node.Valid
      rw [links]
      exact (LinkCache.LinkRun.init now).valid
  | wait _ le ih => exact ⟨ih.valid.wait le, ih.own⟩
  | startXmit _ outside dp time own other ran ih =>
      exact Host.dsrStartXmit_sound ih time own other ran
  | timeout _ sendBufferTimeout ih =>
      refine ⟨ih.valid, fun dp member => ih.own dp ?_⟩
      obtain ⟨entry, stored, rfl⟩ := List.mem_map.mp member
      exact List.mem_map_of_mem (List.mem_filter.mp stored).1
  | find _ outside dst time ran ih =>
      obtain ⟨node, rfl, keeps, valid, -⟩ := Host.rtcFind_ready ih.valid time ran
      exact ih.of_waiting keeps.myaddr valid fun _ => id
  | deleteLink _ src1 src2 ih => exact (Host.deleteLink_goes ih src1 src2).sound
  | tables _ table gratRrep getCost ih => exact ih.of_waiting rfl ih.valid fun _ => id
  | receive _ outside promisc p time permitted ran ih =>
      exact (Host.processDsr_goes ih time permitted ran).sound

/-! ## Receiving -/

/-- A node with empty caches. -/
def emptyHost (pathCache : Bool) : Host where
  node :=
    { config :=
        { pathCache := pathCache, etxActive := false, useNetworkLayerAck := false
          rrepDestinationOnly := true, routeCacheTimeout := 300000000 }
      myaddr := 1
      paths := { paths := ∅, nextPurge := 0 }
      links := { linkArray := ∅, routeMap := ∅ }
      gratRrep := []
      getCost := fun _ => 1 }
  table := { dsrRreqTbl := ∅, rreqInfoMap := ∅, rreqSeqno := 0 }
  packetBuffer := []
  lookups := 0
  sent := []
  freed := []

def atStart : Outside where
  now := 0
  refreshIntermediate := false
  chance := fun _ _ => .first
  ackReq := fun _ => none

def defaultRreqs : RreqConfig where
  requestTableIds := 16
  maxRequestRexmt := 16
  maxRequestPeriod := 10
  requestPeriod := 500
  rreqMaxVisit := 1

def dataPacket : DsrPkt where
  src := 1
  dst := 3
  nxtHop := 0
  prvHop := 0
  flags := 0
  salvage := 0
  ttl := 32
  payloadLen := 512
  opth := []
  srtOpt := none
  rrepOpt := []
  srt := none
  costVector := []

/-- The reply of node 3 to node 1, as node 2 forwards it. -/
def replyPacket : DSRPkt where
  src := 3
  dst := 1
  nextAddress := some 1
  ttl := 63
  payloadLen := 0
  dsrOptions :=
    [[.srt { length := 6, salv := 0, sleft := 0, addrs := [2] },
      .rrep { length := 9, addrs := [2, 3], cost := [] }]]
  costVector := []

/-- A node receives the reply while its data packet waits: with the link cache it frees the
packet. -/
theorem reply_received (pathCache : Bool) (allowed : SimTime → Host → DSRPkt → Prop) :
    ∃ host result, HostRun defaultRreqs allowed 0 host ∧
      host.processDsr atStart defaultRreqs false replyPacket = .ok result ∧
      host.node.config.pathCache = pathCache ∧ host.node.Lasting ∧ host.waiting.length = 1 ∧
      host.freed.length = 0 ∧ result.1.freed.length = if pathCache then 0 else 1 := by
  have computed : ∀ pathCache,
      (((emptyHost pathCache).dsrStartXmit atStart defaultRreqs dataPacket).bind fun host =>
        (host.processDsr atStart defaultRreqs false replyPacket).map fun result =>
          (host.node.config.pathCache, host.node.config.routeCacheTimeout, host.waiting.length,
            host.freed.length, result.1.freed.length)) =
        .ok (pathCache, 300000000, 1, 0, if pathCache then 0 else 1) := by
    decide +kernel
  obtain ⟨host, enqueued, received⟩ := bind_ok.mp (computed pathCache)
  obtain ⟨result, received, same⟩ := map_ok received
  simp only [Prod.mk.injEq] at same
  obtain ⟨cached, timeout, waits, freed, lost⟩ := same
  refine ⟨host, result, ?_, received, cached, ?_, waits, freed, lost⟩
  · exact (HostRun.start 0 (emptyHost pathCache).node _ 0 [] [] rfl rfl).startXmit atStart dataPacket
      rfl rfl (show (3 : Nat) ≠ 1 by decide) enqueued
  · unfold Node.Lasting
    rw [timeout]
    decide

/-- In a run all whose received packets are spared ones, a node that receives one more keeps
or transmits every packet in its buffer. -/
theorem buffered_kept {now : SimTime} {config : RreqConfig} {host : Host}
    (run : HostRun config Host.Spares now host) (outside : Outside) (time : outside.now = now)
    (promisc : Bool) (p : DSRPkt) (spares : host.Spares now p)
    {result : Host × List (DsrSrt × DsrSrt) × Fate}
    (ran : host.processDsr outside config promisc p = .ok result) : Host.Kept host result.1 :=
  (Host.processDsr_goes run.sound time spares ran).kept

/-- With the path cache the reply loses nothing. -/
theorem buffered_kept_reply :
    ∃ host result, host.waiting.length = 1 ∧
      host.processDsr atStart defaultRreqs false replyPacket = .ok result ∧
      Host.Kept host result.1 := by
  obtain ⟨host, result, run, received, cached, lasting, waits, _⟩ :=
    reply_received true Host.Spares
  have spares : Host.Spares 0 host replyPacket := by
    refine ⟨lasting, fun _ => by decide, ?_, fun uncached => absurd cached (by simp [uncached])⟩
    intro before opt after split
    have listed : .rerr opt ∈ replyPacket.dsrOptions.flatten := by simp [split]
    simp [replyPacket] at listed
  exact ⟨host, result, waits, received,
    buffered_kept run atStart rfl false replyPacket spares received⟩

/-- With the link cache the verdict on the nodes of the source route comes before the route is
learned, and the packet is freed. -/
theorem not_buffered_kept :
    ¬∀ (host : Host) (result : Host × List (DsrSrt × DsrSrt) × Fate),
      HostRun defaultRreqs (fun _ _ _ => True) 0 host →
      host.processDsr atStart defaultRreqs false replyPacket = .ok result →
      Host.Kept host result.1 := by
  intro kept
  obtain ⟨host, result, run, received, _, _, _, freed, lost⟩ :=
    reply_received false fun _ _ _ => True
  have same := congrArg List.length (kept host result run received).freed
  rw [freed, lost] at same
  cases same

end SyncFanet.Dsr
