import SyncFanet.Dsr.FalseLinkBreaks
import SyncFanet.Dsr.MaintReturns

/-!
# Accounting for the maintenance buffer

Every event is handled to its end, and between events the timer is set for the first entry of
the buffer, which is sorted and not too long, and every packet is there or has left. A next hop
that the last event declared broken has no entry left, unless it was the link layer that
reported the failure.
-/

set_option autoImplicit false

namespace SyncFanet.Dsr

variable {Cache : Type}

/-- What is accounted for between events. -/
structure BetweenEvents (s : MaintState Cache) : Prop where
  pending : s.Pending
  keyed : ∀ slot ∈ s.maintBuf, slot.key = slot.entry.expires
  bounded : s.maintBuf.length ≤ maxMaintBuff
  accounted : s.Accounted
  cleared : ∀ nxtHop ∈ s.broken, s.Clear nxtHop

/-- An event comes at its time: the timer when it is set to it, any other not later. -/
structure MaintState.Comes (s : MaintState Cache) (time : SimTime) (event : MaintEvent Cache) :
    Prop where
  later : s.now ≤ time
  pending : ∀ expires ∈ s.ackTimer, time ≤ expires
  fired : event.fires → s.ackTimer = some time

/-- The entries that an event keeps, before it looks for timeouts. -/
def MaintEvent.keeps (myaddr : InAddr) : MaintEvent Cache → Slot → Bool
  | .ackOptRecv ack, slot => ack.dst = myaddr ∧ ¬MaintAgent.covers ack.src ack.id slot
  | .rerrOptRecv opt, slot => opt.errType = nodeUnreachable ∧ slot.entry.nxtHop ≠ opt.errDst
  | .packetLinkAck nxtHop, slot => slot.entry.nxtHop ≠ nxtHop
  | .ackTimer, _ => true
  | _, _ => false

/-- The link layer reports the failure of a next hop for which no packet is buffered, with a
packet that can be reported and salvaged; the routes that the cache has fit into the segments
left of a packet; and the entries that are due can be handled. -/
structure Orderly (agent : MaintAgent Cache) (offers : Cache → InAddr → List InAddr → Prop)
    (s : MaintState Cache) (time : SimTime) (event : MaintEvent Cache) : Prop where
  failed : ∀ dp nxtHop, event = .packetFailed dp nxtHop → s.Clear nxtHop ∧
    dp.Reports agent.myaddr ∧ ∀ opt ∈ dp.srtOpt, DsrPkt.Separates { dp with nxtHop := nxtHop } opt
  short : ∀ dest addrs, offers s.cache dest addrs → addrs.length < 2 ^ 6
  expires : agent.Expires time (s.maintBuf.filter (event.keeps agent.myaddr))

namespace MaintAgent

variable {agent : MaintAgent Cache} {offers : Cache → InAddr → List InAddr → Prop}
  {s s' : MaintState Cache}

variable {depth : Nat} {event : MaintEvent Cache}

theorem deleteAll_tidies (guarded : Guarded offers s) (gone : Slot → Bool) (how : Leave) :
    Tidies offers s (s.deleteAll gone how) :=
  .of_sublist guarded List.filter_sublist rfl rfl fun _ _ offered => offered

theorem acknowledge_tidies (guarded : Guarded offers s) (nxtHop : InAddr) (id : Nat) :
    Tidies offers s (maintBufAcknowledge nxtHop id s) := by
  cases s.acknowledge_cases nxtHop id with
  | inl same => exact same ▸ deleteAll_tidies guarded _ _
  | inr updated =>
      obtain ⟨neigh, rtt, -, same⟩ := updated
      rw [same]
      exact .of_sublist guarded List.filter_sublist rfl rfl fun _ _ offered => offered

theorem perform_clear (lawful : agent.routes.Lawful offers) (guarded : Guarded offers s)
    (unbroken : s.broken = [])
    (failed : ∀ dp nxtHop, event = .packetFailed dp nxtHop → s.Clear nxtHop)
    (ran : agent.perform depth event s = .ok s') : ∀ nxtHop ∈ s'.broken, s'.Clear nxtHop := by
  have undeclared {nxtHop : InAddr} : nxtHop ∉ s.broken := by
    rw [unbroken]
    exact List.not_mem_nil
  have unchanged : ∀ nxtHop ∈ s.broken, s.Clear nxtHop := fun _ declared =>
    absurd declared undeclared
  have tidy {s s' : MaintState Cache} (held : Guarded offers s)
      (ran : agent.maintBufSetTimeout depth s = .ok s') : Tidies offers s s' :=
    maintBufSetTimeout_tidies lawful held ran
  cases event with
  | omnetXmit dp =>
      have whole : Tidies offers s s' := maintBufAdd_tidies tidy guarded undeclared ran
      exact fun nxtHop declared => whole.cleared nxtHop declared undeclared
  | ackOptRecv ack =>
      by_cases mine : ack.dst = agent.myaddr
      · rw [perform, if_neg (not_not.mpr mine)] at ran
        have acknowledged := acknowledge_tidies guarded ack.src ack.id
        have whole := acknowledged.trans (tidy acknowledged.guarded ran)
        exact fun nxtHop declared => whole.cleared nxtHop declared undeclared
      · rw [perform, if_pos mine] at ran
        cases ran
        exact unchanged
  | rerrOptRecv opt =>
      by_cases unreachable : opt.errType = nodeUnreachable
      · rw [perform, if_pos unreachable] at ran
        obtain ⟨s₁, deleted, ran⟩ := bind_ok.mp ran
        cases ran
        have discarded : Tidies offers s _ :=
          deleteAll_tidies guarded (fun slot => slot.entry.nxtHop = opt.errDst) .discarded
        have whole : Tidies offers s s₁ := discarded.trans (tidy discarded.guarded deleted)
        exact fun nxtHop declared => whole.cleared nxtHop declared undeclared
      · rw [perform, if_neg unreachable] at ran
        cases ran
        exact unchanged
  | packetLinkAck nxtHop =>
      have deleted : Tidies offers s _ :=
        deleteAll_tidies guarded (fun slot => slot.entry.nxtHop = nxtHop) .acknowledged
      have whole : Tidies offers s s' := deleted.trans (tidy deleted.guarded ran)
      exact fun nxtHop declared => whole.cleared nxtHop declared undeclared
  | packetFailed dp nxtHop =>
      obtain ⟨s₁, sent, salvaged⟩ := bind_ok.mp ran
      have deleted : Guarded offers (agent.deleteLink nxtHop s) :=
        guarded.deleteLink lawful nxtHop
      have reported := (dsrRerrSend_tidies lawful deleted sent).1
      have whole : Tidies offers (agent.deleteLink nxtHop s) s' :=
        reported.trans (maintBufSalvage_tidies lawful tidy reported.guarded salvaged)
      have clear : s.Clear nxtHop := failed dp nxtHop rfl
      intro other declared
      by_cases same : other = nxtHop
      · subst same
        exact whole.clear List.mem_cons_self clear
      · refine whole.cleared other declared fun between => ?_
        cases List.mem_cons.mp between with
        | inl this => exact same this
        | inr before => exact undeclared before
  | neighTblAdd addr =>
      cases ran
      exact unchanged
  | routesChange cache =>
      cases ran
      exact unchanged
  | ackTimer =>
      have stopped : Tidies offers s { s with ackTimer := none } :=
        .of_sublist guarded (.refl _) rfl rfl fun _ _ offered => offered
      have whole : Tidies offers s s' :=
        stopped.trans (maintBufTimeout_tidies lawful tidy stopped.guarded ran)
      exact fun nxtHop declared => whole.cleared nxtHop declared undeclared

structure Orders (agent : MaintAgent Cache) (s : MaintState Cache) : Prop where
  reached : agent.Reached s
  settled : s.Settled
  cleared : ∀ nxtHop ∈ s.broken, s.Clear nxtHop

theorem Orders.step {time : SimTime} (lawful : agent.routes.Lawful offers)
    (orders : agent.Orders s) (orderly : Orderly agent offers s time event)
    (happens : agent.Step s time event s') :
    agent.Orders s' := by
  refine ⟨orders.reached.step happens, orders.settled.step happens, ?_⟩
  obtain ⟨depth, ran⟩ := happens.performed
  have guarded : Guarded offers (s.at time) :=
    ⟨orders.settled.ordered.of_sublist (.refl _) (Nat.le_refl _),
      fun _ declared => absurd declared List.not_mem_nil, orderly.short⟩
  exact perform_clear lawful guarded rfl (fun dp nxtHop same => (orderly.failed dp nxtHop same).1)
    ran

theorem Orders.run {events : List (SimTime × MaintEvent Cache)}
    (lawful : agent.routes.Lawful offers) (orders : agent.Orders s)
    (run : agent.Run (fun s time event _ _ => Orderly agent offers s time event) s events s') :
    agent.Orders s' := by
  induction run with
  | stop s => exact orders
  | step happens allows rest ih => exact ih (orders.step lawful allows happens)

/-! ## Events that are handled -/

/-- A packet is buffered while the timer is set, or into an empty buffer. -/
theorem buffer_calm (timed : s.Timed) (pending : s.Pending) {dp : DsrPkt} {neigh : Neighbor}
    (known : s.neighborMap.lookup dp.nxtHop = some neigh) (holdoff : Nat) :
    (s.buffer holdoff dp neigh).ackTimer.isSome ∨
      ∀ slot ∈ (s.buffer holdoff dp neigh).maintBuf, ¬slot.Due s.now := by
  by_cases empty : s.maintBuf = []
  · right
    intro slot member
    cases MaintState.mem_maintInsert member with
    | inl created =>
        rw [created]
        exact MaintState.not_due_of_timeout (timed.long known)
    | inr old =>
        rw [empty] at old
        exact absurd old List.not_mem_nil
  · obtain ⟨expires, set, -⟩ := pending empty
    exact .inl (Option.isSome_iff_exists.mpr ⟨expires, set⟩)

theorem deleted_returns (lawful : agent.routes.Lawful offers) (guarded : Guarded offers s)
    (consistent : s.Consistent) (idle : s.ackTimer = none)
    (expires : agent.Expires s.now s.maintBuf) (deep : salvageRounds + maxMaintBuff < depth) :
    ∃ s', agent.maintBufSetTimeout depth s = .ok s' := by
  refine maintBufSetTimeout_returns lawful guarded ?_ expires ?_
  · exact ⟨consistent.ordered, consistent.timed, fun _ _ _ => idle⟩
  · have few : (dueAmong s.now s.maintBuf).length ≤ maxMaintBuff :=
      (List.length_filter_le _ _).trans consistent.ordered.bounded
    omega

theorem perform_returns (lawful : agent.routes.Lawful offers) {time : SimTime}
    (settled : s.Settled) (orderly : Orderly agent offers s time event)
    (deep : salvageRounds + maxMaintBuff < depth) :
    ∃ s', agent.perform depth event (s.at time) = .ok s' := by
  have guarded : Guarded offers (s.at time) :=
    ⟨settled.ordered.of_sublist (.refl _) (Nat.le_refl _),
      fun _ declared => absurd declared List.not_mem_nil, orderly.short⟩
  have consistent : (s.at time).Consistent := settled.consistent time
  have pending : (s.at time).Pending := settled.pending
  have expires := orderly.expires
  obtain ⟨rounds, rfl⟩ : ∃ rounds, depth = rounds + 1 := Nat.exists_eq_add_one.mpr (by omega)
  cases event with
  | omnetXmit dp =>
      rw [perform, maintBufAdd]
      cases asked : dp.hasFlag pktRequestAck with
      | false => exact ⟨_, rfl⟩
      | true =>
          cases known : (s.at time).neighborMap.lookup dp.nxtHop with
          | none => exact ⟨_, rfl⟩
          | some neigh =>
              simp only [if_true]
              exact maintBufSetTimeout_calm (buffer_calm consistent.timed pending known _) rounds
  | ackOptRecv ack =>
      by_cases mine : ack.dst = agent.myaddr
      · rw [perform, if_neg (not_not.mpr mine)]
        obtain ⟨now, idle, kept⟩ := (s.at time).acknowledge_same ack.src ack.id
        refine deleted_returns lawful (acknowledge_tidies guarded ack.src ack.id).guarded
          (consistent.begins (.acknowledged mine)) idle ?_ deep
        rw [now, kept]
        have same : (MaintEvent.keeps agent.myaddr (.ackOptRecv ack : MaintEvent Cache)) =
            fun slot => decide ¬covers ack.src ack.id slot := by
          funext slot
          simp [MaintEvent.keeps, mine]
        rw [same] at expires
        exact expires
      · rw [perform, if_pos mine]
        exact ⟨_, rfl⟩
  | rerrOptRecv opt =>
      by_cases unreachable : opt.errType = nodeUnreachable
      · rw [perform, if_pos unreachable]
        have same : (MaintEvent.keeps agent.myaddr (.rerrOptRecv opt : MaintEvent Cache)) =
            fun slot => decide ¬decide (slot.entry.nxtHop = opt.errDst) := by
          funext slot
          simp [MaintEvent.keeps, unreachable]
        rw [same] at expires
        have held := (deleteAll_tidies guarded (fun slot => slot.entry.nxtHop = opt.errDst)
          .discarded).guarded
        obtain ⟨s₁, deleted⟩ :=
          deleted_returns lawful held consistent.deleteAll rfl expires deep
        exact ⟨_, bind_ok.mpr ⟨s₁, deleted, rfl⟩⟩
      · rw [perform, if_neg unreachable]
        exact ⟨_, rfl⟩
  | packetLinkAck nxtHop =>
      have same : (MaintEvent.keeps agent.myaddr (.packetLinkAck nxtHop : MaintEvent Cache)) =
          fun slot => decide ¬decide (slot.entry.nxtHop = nxtHop) := by
        funext slot
        simp [MaintEvent.keeps]
      rw [same] at expires
      have held := (deleteAll_tidies guarded (fun slot => slot.entry.nxtHop = nxtHop)
        .acknowledged).guarded
      exact deleted_returns lawful held consistent.deleteAll rfl expires deep
  | packetFailed dp nxtHop =>
      obtain ⟨-, reports, separates⟩ := orderly.failed dp nxtHop rfl
      obtain ⟨s₁, sent⟩ :=
        dsrRerrSend_returns reports nxtHop (agent.deleteLink nxtHop (s.at time))
      have deleted : Guarded offers (agent.deleteLink nxtHop (s.at time)) :=
        guarded.deleteLink lawful nxtHop
      have reported := (dsrRerrSend_tidies lawful deleted sent).1
      suffices salvaged : ∃ s', agent.maintBufSalvage (agent.maintBufSetTimeout (rounds + 1))
          { dp with nxtHop := nxtHop } (fun _ => []) s₁ = .ok s' by
        obtain ⟨s', salvaged⟩ := salvaged
        exact ⟨s', bind_ok.mpr ⟨s₁, sent, salvaged⟩⟩
      obtain ⟨cache, addrs, rfl, -⟩ := dsrRerrSend_ok sent
      obtain ⟨cache, left, -, ran | ⟨dp', neigh, -, known, ran⟩⟩ :=
        maintBufSalvage_calls lawful (agent.maintBufSetTimeout (rounds + 1))
          { dp with nxtHop := nxtHop } (fun _ => []) reported.guarded separates
      · exact ⟨_, ran⟩
      · rw [ran]
        apply maintBufSetTimeout_calm
        apply buffer_calm
        · exact settled.timed.of_sublist rfl (List.Subset.refl _)
        · exact pending
        · exact known
  | neighTblAdd addr => exact ⟨_, rfl⟩
  | routesChange cache => exact ⟨_, rfl⟩
  | ackTimer =>
      have stopped : MaintState.Alert { s.at time with ackTimer := none } :=
        ⟨guarded.ordered.of_sublist (.refl _) (Nat.le_refl _),
          consistent.timed.of_sublist rfl (List.Subset.refl _), fun _ _ _ => rfl⟩
      have held : Tidies offers (s.at time) { s.at time with ackTimer := none } :=
        .of_sublist guarded (.refl _) rfl rfl fun _ _ offered => offered
      have few : (dueAmong time s.maintBuf).length ≤ maxMaintBuff :=
        (List.length_filter_le _ _).trans settled.ordered.bounded
      have all : s.maintBuf.filter (MaintEvent.keeps agent.myaddr (.ackTimer : MaintEvent Cache)) =
          s.maintBuf := List.filter_eq_self.mpr fun _ _ => rfl
      rw [all] at expires
      have enough : salvageRounds + (dueAmong time s.maintBuf).length < rounds + 1 := by omega
      exact expired_returns lawful held.guarded stopped expires enough rfl

end MaintAgent

/-- A node with the neighbours 2 and 3, while there is a link to 3 with a route over it to 5. -/
def detourAgent : MaintAgent Bool where
  myaddr := 1
  maintHoldoffTime := 250000
  maxMaintRexmt := 2
  routes :=
    { rtcFind := fun _ me dst linked =>
        (if linked ∧ dst = 5 then
          some { src := me, dst := dst, flags := 0, laddrs := 4, addrs := [3], cost := [] }
        else none, linked)
      deleteLink := fun _ _ _ via linked => linked ∧ via ≠ 3 }

/-- The state of the node behind its events, the latest of which comes first. -/
def detourState : List (SimTime × MaintEvent Bool) → MaintState Bool
  | [] => .initial true
  | (time, event) :: before =>
      match detourAgent.perform 8 event ((detourState before).at time) with
      | .ok s => s
      | .error _ => detourState before

def nearbyPkt (dst : InAddr) : DsrPkt :=
  { neighborPkt with
    dst := dst, srtOpt := some { length := 6, salv := 0, sleft := 1, addrs := [2] } }

/-- Two packets are sent so close together that they expire as one. -/
def detourEvents : List (SimTime × MaintEvent Bool) :=
  [(0, .neighTblAdd 2), (0, .neighTblAdd 3), (usecs 1000000, .omnetXmit (nearbyPkt 5)),
    (usecs 1000050, .omnetXmit (nearbyPkt 5)), (usecs 1060000, .ackTimer),
    (usecs 1120000, .ackTimer)]

def DetourOffers (linked : Bool) (dst : InAddr) (addrs : List InAddr) : Prop :=
  linked = true ∧ dst = 5 ∧ addrs = [3]

theorem detourAgent_lawful : detourAgent.routes.Lawful DetourOffers := by
  constructor
  · intro now me dst linked srt found
    simp only [detourAgent] at found
    split at found
    · next offered =>
        cases found
        exact ⟨rfl, rfl, offered.1, offered.2, rfl⟩
    · cases found
  · exact fun offered => offered
  · intro now me origin via dest linked addrs offered
    obtain ⟨linked, dest, addrs⟩ := offered
    exact ⟨(of_decide_eq_true linked).1, dest, addrs⟩
  · intro now me nxtHop dest linked addrs offered
    obtain ⟨linked, -, rfl⟩ := offered
    exact (of_decide_eq_true linked).2.symm

theorem detourState_step {before : List (SimTime × MaintEvent Bool)} {time : SimTime}
    {event : MaintEvent Bool} (later : (detourState before).now ≤ time)
    (pending : (detourState before).ackTimer.all (fun expires => time ≤ expires) = true)
    (fired : event.fires = true → (detourState before).ackTimer = some time)
    (ran : detourAgent.perform 8 event ((detourState before).at time) =
      .ok (detourState ((time, event) :: before))) :
    detourAgent.Step (detourState before) time event (detourState ((time, event) :: before)) :=
  .of_all 8 later pending fired ran

theorem detour_orderly {s : MaintState Bool} {time : SimTime} {event : MaintEvent Bool}
    (other : ∀ dp nxtHop, event ≠ .packetFailed dp nxtHop) (count : Nat) (few : count ≤ 2)
    (sent : s.maintBuf.map (fun slot => (slot.entry.nxtHop, slot.entry.dp)) =
      List.replicate count (2, nearbyPkt 5)) :
    Orderly detourAgent DetourOffers s time event := by
  have length : s.maintBuf.length ≤ 2 := by
    have same := congrArg List.length sent
    rw [List.length_map, List.length_replicate] at same
    omega
  have routed : ∀ slot ∈ s.maintBuf, slot.entry.nxtHop = 2 ∧ slot.entry.dp = nearbyPkt 5 := by
    intro slot member
    have among := List.mem_map_of_mem (f := fun slot => (slot.entry.nxtHop, slot.entry.dp)) member
    rw [sent] at among
    exact Prod.mk.inj (List.eq_of_mem_replicate among)
  have among {slot : Slot}
      (member : slot ∈ dueAmong time (s.maintBuf.filter (event.keeps detourAgent.myaddr))) :
      slot ∈ s.maintBuf :=
    List.mem_of_mem_filter (mem_dueAmong.mp member).1
  refine ⟨fun dp nxtHop same => absurd same (other dp nxtHop), ?_, ?_, ?_, ?_, ?_⟩
  · rintro dest addrs ⟨-, -, rfl⟩
    decide
  · intro slot member next member' _ _
    rw [(routed slot (among member)).1, (routed next (among member')).1]
  · intro slot next third three _
    have long : 3 ≤ 2 := three.length_le.trans
      ((List.length_filter_le _ _).trans ((List.length_filter_le _ _).trans length))
    exact absurd long (by decide)
  · intro slot member _ opt _
    rw [(routed slot (among member)).2]
    exact .inl rfl
  · intro slot member _ next member' _ opt route
    rw [(routed next (List.mem_of_mem_filter member')).2] at route ⊢
    cases route
    exact ⟨⟨[], rfl⟩, rfl, fun none => absurd none (List.cons_ne_nil _ _)⟩

def failedEvents : List (SimTime × MaintEvent Unit) :=
  [(0, .neighTblAdd 2), (usecs 1000000, .omnetXmit neighborPkt),
    (usecs 1000500, .omnetXmit neighborPkt),
    (usecs 1001000, .packetFailed { neighborPkt with flags := 0 } 2)]

/-- With a packet for another destination before them, the second packet is salvaged by the
loop, whose iterator is at the third one. -/
def danglingEvents : List (SimTime × MaintEvent Bool) :=
  [(0, .neighTblAdd 2), (0, .neighTblAdd 3), (usecs 1000000, .omnetXmit (nearbyPkt 4)),
    (usecs 1000040, .omnetXmit (nearbyPkt 5)), (usecs 1000080, .omnetXmit (nearbyPkt 5)),
    (usecs 1060000, .ackTimer)]

example :
    (match detourAgent.perform 8 .ackTimer
        ((detourState danglingEvents.reverse).at (usecs 1120000)) with
      | .error fault => some fault
      | .ok _ => none) = some .danglingIterator := by
  decide +kernel

end SyncFanet.Dsr
