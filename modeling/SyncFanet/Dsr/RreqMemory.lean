import SyncFanet.Dsr.HostReceive
import SyncFanet.Dsr.RouteDiscovery

/-!
# Requests that a node remembers

Whatever a node receives or does, it remembers a request in `rreqInfoMap` for 100 s.
-/

set_option autoImplicit false

namespace SyncFanet.Dsr

def RreqTable.Remembers (table : RreqTable) (since : SimTime) (initiator : InAddr) (id : Nat) :
    Prop :=
  ∃ infos, table.rreqInfoMap.lookup initiator = some infos ∧
    ∃ info ∈ infos, info.seq = id ∧ since ≤ info.time

/-! ## The search -/

section

variable {now since : SimTime} {id : Nat} {infos : List RreqSeqInfo} {info : RreqSeqInfo}

theorem mem_of_old {first : RreqSeqInfo} (member : info ∈ first :: infos)
    (young : now - info.time ≤ rreqInfoTime) (old : now - first.time > rreqInfoTime) :
    info ∈ infos := by
  rcases List.mem_cons.mp member with rfl | later
  · exact absurd young (not_le.mpr old)
  · exact later

theorem mem_searchSeq (number : Nat) (member : info ∈ infos)
    (young : now - info.time ≤ rreqInfoTime) : info ∈ (searchSeq now number infos).1 := by
  induction infos with
  | nil => cases member
  | cons first rest ih =>
      rw [searchSeq]
      split
      · next old => exact ih (mem_of_old member young old)
      · split
        · rcases List.mem_cons.mp member with rfl | later
          · exact List.mem_cons_self
          · exact List.mem_cons_of_mem first (ih later)
        · exact member

theorem searchSeq_found (member : info ∈ infos) (same : info.seq = id)
    (young : now - info.time ≤ rreqInfoTime) : (searchSeq now id infos).2 = true := by
  induction infos with
  | nil => cases member
  | cons first rest ih =>
      rw [searchSeq]
      split
      · next old => exact ih (mem_of_old member young old)
      · split
        · next other =>
          rcases List.mem_cons.mp member with rfl | later
          · exact absurd same other
          · exact ih later
        · rfl

variable {config : RreqConfig} {table : RreqTable} {initiator target : InAddr} {length : Int}
  {addrs : List InAddr}

theorem dsrRreqDuplicate_remembered (recent : now - since ≤ rreqInfoTime)
    (known : table.Remembers since initiator id) :
    (dsrRreqDuplicate config now table initiator target id length addrs).2 = true := by
  obtain ⟨infos, stored, info, member, same, later⟩ := known
  have found : (searchSeq now id infos).2 = true := by
    refine searchSeq_found member same ?_
    simp only [SimTime] at *
    omega
  simp [dsrRreqDuplicate, stored, found]

theorem dsrRreqDuplicate_new
    (fresh : (dsrRreqDuplicate config now table initiator target id length addrs).2 = false) :
    (dsrRreqDuplicate config now table initiator target id length addrs).1.Remembers now initiator
      id := by
  unfold dsrRreqDuplicate at fresh ⊢
  dsimp only at fresh ⊢
  split
  · next found =>
    rw [if_pos found] at fresh
    cases fresh
  · split <;>
      exact ⟨_, Finmap.lookup_insert _, _, List.mem_append_right _ (List.mem_singleton_self _), rfl,
        le_refl now⟩

theorem dsrRreqDuplicate_keeps {asked : InAddr} {number : Nat}
    (recent : now - since ≤ rreqInfoTime) (known : table.Remembers since initiator id) :
    (dsrRreqDuplicate config now table asked target number length addrs).1.Remembers since
      initiator id := by
  obtain ⟨infos, stored, info, member, same, later⟩ := known
  have young : now - info.time ≤ rreqInfoTime := by
    simp only [SimTime] at *
    omega
  unfold dsrRreqDuplicate
  dsimp only
  by_cases here : initiator = asked
  · subst here
    rw [stored, Option.getD_some]
    have kept := mem_searchSeq number member young
    split
    · exact ⟨_, Finmap.lookup_insert _, info, kept, same, later⟩
    · split <;>
        exact ⟨_, Finmap.lookup_insert _, info, List.mem_append_left _ kept, same, later⟩
  · split
    · exact ⟨infos, (Finmap.lookup_insert_of_ne _ here).trans stored, info, member, same, later⟩
    · split <;>
        exact ⟨infos, (Finmap.lookup_insert_of_ne _ here).trans stored, info, member, same, later⟩

end

variable {node node' : Node}

/-! ## Handlers that leave the memory alone -/

theorem Node.routeFind_myaddr {refreshIntermediate : Bool} {now : SimTime}
    {chance : Nat → LinkCache.Chance} {src dst : InAddr} {found : Option DsrSrt}
    (ran : node.routeFind refreshIntermediate now chance src dst = .ok (node', found)) :
    node'.myaddr = node.myaddr := by
  obtain ⟨⟨paths, links, rfl⟩, -⟩ := Node.routeFind_ok ran
  rfl

theorem Node.routeAdd_myaddr {now : SimTime} {srt : DsrSrt}
    (ran : node.routeAdd now srt = .ok node') : node'.myaddr = node.myaddr := by
  obtain ⟨paths, links, rfl⟩ := Node.routeAdd_ok ran
  rfl

theorem Node.routeAdd?_myaddr {now : SimTime} {srt : Option DsrSrt}
    (ran : node.routeAdd? now srt = .ok node') : node'.myaddr = node.myaddr := by
  cases srt with
  | none =>
      cases ran
      rfl
  | some srt => exact Node.routeAdd_myaddr ran

theorem learnPaths_myaddr {now : SimTime} {srt : DsrSrt} {intended prvHop : InAddr}
    (ran : learnPaths now node srt intended prvHop = .ok node') :
    node'.myaddr = node.myaddr := by
  obtain ⟨routes, _, ran⟩ := bind_ok.mp ran
  obtain ⟨middle, first, second⟩ := bind_ok.mp ran
  have added := Node.routeAdd?_myaddr first
  exact (Node.routeAdd?_myaddr second).trans added

namespace Host

variable {outside : Outside} {host after : Host} {dp : DsrPkt}

variable {dst : InAddr} {srt : DsrSrt}

/-- The same node remembers the same requests. -/
structure SameMemory (host after : Host) : Prop where
  myaddr : after.node.myaddr = host.node.myaddr
  rreqInfoMap : after.table.rreqInfoMap = host.table.rreqInfoMap

theorem SameMemory.refl (host : Host) : SameMemory host host := ⟨rfl, rfl⟩

theorem SameMemory.trans {first second third : Host} (left : SameMemory first second)
    (right : SameMemory second third) : SameMemory first third :=
  ⟨right.myaddr.trans left.myaddr, right.rreqInfoMap.trans left.rreqInfoMap⟩

theorem foldlM_sameMemory {Item : Type} {step : Host → Item → Except Fault Host}
    {items : List Item} (next : ∀ host after item, step host item = .ok after → SameMemory host after)
    (ran : items.foldlM step host = .ok after) : SameMemory host after := by
  induction items generalizing host with
  | nil =>
      cases ran
      exact .refl _
  | cons item rest ih =>
      rw [List.foldlM_cons] at ran
      obtain ⟨middle, first, ran⟩ := bind_ok.mp ran
      exact (next host middle item first).trans (ih ran)

theorem rtcFind_sameMemory {found : Option DsrSrt}
    (ran : host.rtcFind outside dst = .ok (after, found)) : SameMemory host after := by
  obtain ⟨result, looked, ran⟩ := bind_ok.mp ran
  cases ran
  exact ⟨Node.routeFind_myaddr looked, rfl⟩

theorem rtcFind_ends (ran : host.rtcFind outside dst = .ok (after, some srt)) : srt.dst = dst := by
  obtain ⟨result, looked, ran⟩ := bind_ok.mp ran
  obtain ⟨node, found⟩ := result
  cases ran
  rw [Node.routeFind_some looked]
  rfl

theorem xmit_sameMemory (ran : host.xmit outside dp srt = .ok after) :
    SameMemory host after := by
  obtain ⟨sent, _, ran⟩ := bind_ok.mp ran
  cases sent with
  | none =>
      cases ran
      exact ⟨rfl, rfl⟩
  | some p =>
      cases ran
      exact ⟨rfl, rfl⟩

theorem sendBuffered_sameMemory (ran : host.sendBuffered outside dp = .ok after) :
    SameMemory host after := by
  obtain ⟨found, looked, ran⟩ := bind_ok.mp ran
  have looks := rtcFind_sameMemory looked
  cases route : found.2 with
  | none =>
      rw [route] at ran
      cases ran
      exact ⟨looks.myaddr, looks.rreqInfoMap⟩
  | some srt =>
      rw [route] at ran
      exact looks.trans (xmit_sameMemory ran)

theorem sendBufSend_sameMemory (ran : host.sendBufSend outside dst = .ok after) :
    SameMemory host after := by
  obtain ⟨last, sent, ran⟩ := bind_ok.mp ran
  cases ran
  have sends := foldlM_sameMemory (fun _ _ _ => sendBuffered_sameMemory) sent
  exact ⟨sends.myaddr, sends.rreqInfoMap⟩

theorem rreqTblRouteDiscoveryCancel_rreqInfoMap (table : RreqTable) (dst : InAddr) :
    (rreqTblRouteDiscoveryCancel table dst).1.rreqInfoMap = table.rreqInfoMap := by
  unfold rreqTblRouteDiscoveryCancel
  split <;> rfl

theorem sendAndCancel_sameMemory (ran : host.sendAndCancel outside dst = .ok after) :
    SameMemory host after := by
  obtain ⟨sent, sends, ran⟩ := bind_ok.mp ran
  cases ran
  have same := sendBufSend_sameMemory sends
  exact ⟨same.myaddr,
    (rreqTblRouteDiscoveryCancel_rreqInfoMap sent.table dst).trans same.rreqInfoMap⟩

theorem learnRreq_sameMemory {srtRev : DsrSrt} (ran : host.learnRreq outside srtRev = .ok after) :
    SameMemory host after := by
  obtain ⟨node, added, ran⟩ := bind_ok.mp ran
  have learned : SameMemory host { host with node := node } := ⟨Node.routeAdd_myaddr added, rfl⟩
  exact learned.trans (foldlM_sameMemory (fun _ _ _ => sendAndCancel_sameMemory) ran)

theorem learnSrt_sameMemory {intended prvHop : InAddr}
    (ran : host.learnSrt outside srt intended prvHop = .ok after) : SameMemory host after := by
  unfold learnSrt at ran
  split at ran
  · obtain ⟨node, learned, ran⟩ := bind_ok.mp ran
    cases ran
    exact ⟨learnPaths_myaddr learned, rfl⟩
  · obtain ⟨sent, sends, ran⟩ := bind_ok.mp ran
    obtain ⟨node, added, ran⟩ := bind_ok.mp ran
    cases ran
    have same := foldlM_sameMemory (fun _ _ _ => sendAndCancel_sameMemory) sends
    exact ⟨(Node.routeAdd_myaddr added).trans same.myaddr, same.rreqInfoMap⟩

theorem answerRreq_sameMemory {opt : DsrRreqOpt} {srtRev : DsrSrt} {recv : HostRecv DsrRreqOpt}
    (ran : host.answerRreq outside dp opt srt srtRev = .ok recv) :
    SameMemory host recv.host := by
  obtain ⟨same | ⟨found, looks⟩, -⟩ := answerRreq_ok ran
  · rw [same]
    exact .refl host
  · exact rtcFind_sameMemory looks

theorem rrepOptRecv_sameMemory {opt : DsrRrepOpt} {recv : HostRecv DsrRrepOpt}
    (ran : host.rrepOptRecv outside dp opt = .ok recv) : SameMemory host recv.host := by
  unfold rrepOptRecv at ran
  split at ran
  · cases ran
    exact .refl host
  · obtain ⟨srt, _, ran⟩ := bind_ok.mp ran
    obtain ⟨node, added, ran⟩ := bind_ok.mp ran
    cases ran
    exact ⟨Node.routeAdd_myaddr added, rreqTblRouteDiscoveryCancel_rreqInfoMap host.table srt.dst⟩

theorem srtOptRecv_sameMemory {opt : DsrSrtOpt} {recv : HostRecv DsrSrtOpt}
    (ran : host.srtOptRecv outside dp opt = .ok recv) : SameMemory host recv.host := by
  obtain ⟨received, _, ran⟩ := bind_ok.mp ran
  obtain ⟨srt, _, ran⟩ := bind_ok.mp ran
  obtain ⟨intended, _, ran⟩ := bind_ok.mp ran
  obtain ⟨prvHop, _, ran⟩ := bind_ok.mp ran
  obtain ⟨learned, learns, ran⟩ := bind_ok.mp ran
  cases ran
  exact learnSrt_sameMemory learns

/-! ## Discoveries of the node itself -/

theorem rreqTblAddId_rreqInfoMap {config : RreqConfig} {now : SimTime} {table table' : RreqTable}
    {asked target : InAddr} {number : Nat} {cost : ℚ} {addrs : List InAddr} {length : Int}
    (ran : rreqTblAddId config now table asked target number cost addrs length = .ok table') :
    table'.rreqInfoMap = table.rreqInfoMap := by
  obtain ⟨found, _, ran⟩ := bind_ok.mp ran
  obtain ⟨ids, _, ran⟩ := bind_ok.mp ran
  cases ran
  rfl

theorem dsrRreqRouteDiscovery_rreqInfoMap {config : RreqConfig} {now : SimTime}
    {table table' : RreqTable} {target : InAddr} {acts : List RreqAct}
    (ran : dsrRreqRouteDiscovery config now table target = .ok (table', acts)) :
    table'.rreqInfoMap = table.rreqInfoMap := by
  obtain ⟨found, _, ran⟩ := bind_ok.mp ran
  split at ran <;> cases ran <;> rfl

theorem perform_rreqInfoMap {config : RreqConfig} {now : SimTime} {table table' : RreqTable}
    {event : RreqEvent} {acts : List RreqAct}
    (ran : table.perform config now event = .ok (table', acts)) :
    table'.rreqInfoMap = table.rreqInfoMap := by
  cases event with
  | routeDiscovery target => exact dsrRreqRouteDiscovery_rreqInfoMap ran
  | addId initiator target number cost addrs length =>
      obtain ⟨added, adds, ran⟩ := bind_ok.mp ran
      cases ran
      exact rreqTblAddId_rreqInfoMap adds
  | discoveryCancel dst =>
      have same := rreqTblRouteDiscoveryCancel_rreqInfoMap table dst
      rw [Except.ok.inj ran] at same
      exact same
  | timer key =>
      simp only [RreqTable.perform, rreqTimerTest] at ran
      split at ran
      · cases ran
        rfl
      · obtain ⟨found, _, ran⟩ := bind_ok.mp ran
        split at ran
        · split at ran <;> cases ran
          rfl
        · cases ran
          rfl

/-! ## Whatever a node receives -/

structure KeepsMemory (since : SimTime) (initiator : InAddr) (id : Nat) (host after : Host) :
    Prop where
  myaddr : after.node.myaddr = host.node.myaddr
  remembers : host.table.Remembers since initiator id → after.table.Remembers since initiator id

section

variable {since : SimTime} {initiator : InAddr} {id : Nat} {config : RreqConfig}

variable {result : Host × List (DsrSrt × DsrSrt) × Fate}

theorem KeepsMemory.refl (host : Host) : KeepsMemory since initiator id host host := ⟨rfl, fun h => h⟩

theorem KeepsMemory.trans {first second third : Host}
    (left : KeepsMemory since initiator id first second)
    (right : KeepsMemory since initiator id second third) :
    KeepsMemory since initiator id first third :=
  ⟨right.myaddr.trans left.myaddr, fun known => right.remembers (left.remembers known)⟩

theorem SameMemory.keeps (same : SameMemory host after) :
    KeepsMemory since initiator id host after :=
  ⟨same.myaddr, by simp only [RreqTable.Remembers, same.rreqInfoMap]; exact fun known => known⟩

variable (recent : outside.now - since ≤ rreqInfoTime)
include recent

theorem rreqOptRecv_keeps {first : Bool} {opt : DsrRreqOpt} {recv : HostRecv DsrRreqOpt}
    (ran : host.rreqOptRecv outside config first dp opt = .ok recv) :
    KeepsMemory since initiator id host recv.host := by
  have kept : ∀ {checked : RreqTable} {seen : Bool},
      dsrRreqDuplicate config outside.now host.table dp.src opt.target opt.id (rreqAddrsLen opt)
        opt.addrs = (checked, seen) →
      KeepsMemory since initiator id host { host with table := checked } := by
    intro checked seen found
    obtain rfl := congrArg Prod.fst found
    exact ⟨rfl, dsrRreqDuplicate_keeps recent⟩
  cases rreqOptRecv_ok ran with
  | dropped => exact .refl host
  | duplicate found => exact kept found
  | @answered checked table _ _ _ _ _ fresh added _ _ learns answers =>
      have named : SameMemory { host with table := checked } { host with table := table } :=
        ⟨rfl, rreqTblAddId_rreqInfoMap added⟩
      exact (kept fresh).trans ((named.trans (learnRreq_sameMemory learns)).trans
        (answerRreq_sameMemory answers)).keeps

theorem recvOption_keeps {seen : List DsrOpt} {dopt : DsrOpt} {recv : HostRecv DsrOpt}
    (ran : host.recvOption outside config seen dp dopt = .ok recv) :
    KeepsMemory since initiator id host recv.host := by
  cases dopt with
  | padn | prevHop | timeout | flowid | pad1 =>
      cases ran
      exact .refl host
  | rreq opt =>
      simp only [recvOption] at ran
      split at ran
      · cases ran
        exact .refl host
      · obtain ⟨received, handled, rfl⟩ := map_ok ran
        exact rreqOptRecv_keeps recent handled
  | rrep opt =>
      simp only [recvOption] at ran
      split at ran
      · cases ran
        exact .refl host
      · obtain ⟨received, handled, rfl⟩ := map_ok ran
        exact (rrepOptRecv_sameMemory handled).keeps
  | rerr opt =>
      simp only [recvOption] at ran
      split at ran
      · cases ran
        exact .refl host
      · cases ran
        unfold rerrOptRecv
        split
        · exact ⟨rfl, fun known => known⟩
        · exact .refl host
  | ack opt =>
      simp only [recvOption] at ran
      split at ran <;> cases ran <;> exact .refl host
  | srt opt =>
      obtain ⟨received, handled, rfl⟩ := map_ok ran
      exact (srtOptRecv_sameMemory handled).keeps
  | ackReq number =>
      cases ran
      exact .refl host

theorem recvOptions_keeps {options : List DsrOpt} {start final : HostRecv (List DsrOpt)}
    (ran : recvOptions outside config start options = .ok final) :
    KeepsMemory since initiator id start.host final.host := by
  induction options generalizing start with
  | nil =>
      cases ran
      exact .refl _
  | cons dopt rest ih =>
      obtain ⟨recv, received, ran⟩ := bind_ok.mp ran
      exact (recvOption_keeps recent received).trans (ih ran)

omit recent in
theorem sendCalls_sameMemory {calls : List Call} (ran : host.sendCalls outside calls = .ok after) :
    SameMemory host after := by
  refine foldlM_sameMemory (fun host after call sent => ?_) ran
  cases call with
  | sendBufSend dst => exact sendBufSend_sameMemory sent
  | neighTblAdd | discoveryCancel | gratRrepTblAdd | rrepSend | ackSend =>
      cases sent
      exact .refl _

theorem dsrRecv_keeps (ran : host.dsrRecv outside config dp = .ok result) :
    KeepsMemory since initiator id host result.1 := by
  obtain ⟨recv, received, ran⟩ := bind_ok.mp ran
  obtain ⟨final, options, received⟩ := bind_ok.mp received
  cases received
  have keeps : KeepsMemory since initiator id host final.host := recvOptions_keeps recent options
  dsimp only at ran
  split at ran
  · cases ran
    exact keeps
  · obtain ⟨sent, calls, ran⟩ := bind_ok.mp ran
    cases ran
    exact keeps.trans (sendCalls_sameMemory calls).keeps

theorem processDsr_keeps {promisc : Bool} {p : DSRPkt}
    (ran : host.processDsr outside config promisc p = .ok result) :
    KeepsMemory since initiator id host result.1 := by
  unfold processDsr at ran
  split at ran
  · exact dsrRecv_keeps recent ran
  · cases ran
    exact .refl host

omit recent in
theorem processDsr_myaddr {promisc : Bool} {p : DSRPkt}
    (ran : host.processDsr outside config promisc p = .ok result) :
    result.1.node.myaddr = host.node.myaddr := by
  have recent : outside.now - outside.now ≤ rreqInfoTime := by
    rw [Int.sub_self]
    decide
  have keeps : KeepsMemory outside.now 0 0 host result.1 := processDsr_keeps recent ran
  exact keeps.myaddr

end

end Host

end SyncFanet.Dsr
