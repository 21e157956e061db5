import SyncFanet.Dsr.MaintInvariants

/-!
# Which entries an acknowledgement covers

An acknowledgement with an identifier deletes the entries of its neighbour whose identifier
is not greater, as numbers of 16 bits. These are the entries from before the request that it
answers as long as the identifiers have not started again between them.
-/

set_option autoImplicit false

namespace SyncFanet.Dsr

variable {Cache : Type}

/-- The most recent request to a neighbour that had an identifier, counted among all
requests to it. -/
structure MaintState.NewestRequest (s : MaintState Cache) (nxtHop : InAddr) (id number : Nat) :
    Prop where
  made : number ≤ s.requests nxtHop
  identified : number % 2 ^ 16 = id
  newest : s.requests nxtHop < number + 2 ^ 16

/-- An entry from before a request has an identifier of the same round of the counter, or it
is older by a whole round and its identifier is no greater all the same. -/
def Slot.SameRound (slot : Slot) (number : Nat) : Prop :=
  (slot.requestsBefore + 1) / 2 ^ 16 = number / 2 ^ 16 ∨
    slot.requestsBefore + 1 + 2 ^ 16 ≤ number ∧ slot.entry.id ≤ number % 2 ^ 16

/-- An event acknowledges and removes the entries with a property, and acknowledges no
other. -/
def AcknowledgesExactly (s s' : MaintState Cache) (covered : Slot → Prop) : Prop :=
  ∀ slot ∈ s.maintBuf,
    (slot.leaves .acknowledged ∈ s'.left ↔ covered slot) ∧
      (covered slot → ∀ other ∈ s'.maintBuf, other.packet ≠ slot.packet)

namespace MaintState

variable {s s' : MaintState Cache}

theorem Accounted.unique (accounted : s.Accounted) {slot other : Slot}
    (member : slot ∈ s.maintBuf) (among : other ∈ s.maintBuf)
    (same : slot.packet = other.packet) : slot = other := by
  have distinct : s.allPackets.Nodup := accounted.nodup_iff.mpr List.nodup_range
  exact List.inj_on_of_nodup_map (List.nodup_append.mp distinct).2.1 member among same

end MaintState

/-! ## What a call acknowledges -/

namespace MaintAgent

variable {agent : MaintAgent Cache} {s s' : MaintState Cache}

def LeavesOtherwise (before after : List Departure) : Prop :=
  ∃ more, after = before ++ more ∧ ∀ departure ∈ more, departure.how ≠ .acknowledged

theorem LeavesOtherwise.append {before after more : List Departure}
    (leaves : LeavesOtherwise before after)
    (others : ∀ departure ∈ more, departure.how ≠ .acknowledged) :
    LeavesOtherwise before (after ++ more) := by
  obtain ⟨first, same, earlier⟩ := leaves
  refine ⟨first ++ more, by rw [same, List.append_assoc], ?_⟩
  intro departure member
  cases List.mem_append.mp member with
  | inl among => exact earlier departure among
  | inr among => exact others departure among

theorem evicted_otherwise (s : MaintState Cache) :
    ∀ departure ∈ s.evicted.map (fun first => first.leaves .evicted),
      departure.how ≠ .acknowledged := by
  intro departure member
  obtain ⟨first, -, rfl⟩ := List.mem_map.mp member
  exact Leave.noConfusion

theorem break_otherwise {slot : Slot} {how : Leave} (given : how = .salvaged ∨ how = .dropped) :
    ∀ departure ∈ [slot.leaves how], departure.how ≠ .acknowledged := by
  intro departure member
  cases List.mem_singleton.mp member
  cases given with
  | inl salvaged => exact salvaged ▸ Leave.noConfusion
  | inr dropped => exact dropped ▸ Leave.noConfusion

theorem Changes.left (changes : agent.Changes s s') : LeavesOtherwise s.left s'.left := by
  have start : LeavesOtherwise s.left s.left := ⟨[], by simp, by simp⟩
  have step {s₁ s₂ : MaintState Cache} (holds : LeavesOtherwise s.left s₁.left)
      (change : Change agent s₁ s₂) : LeavesOtherwise s.left s₂.left := by
    cases change with
    | setTimer first waits => exact holds
    | retransmit idle first due again => exact holds.append (evicted_otherwise _)
    | linkBreak cache reported idle first due exhausted given names =>
        exact holds.append (break_otherwise given)
    | salvage cache among declared given => exact holds.append (break_otherwise given)
    | buffer known => exact holds.append (evicted_otherwise _)
    | routes cache => exact holds
  exact Changes.keeps changes start step

end MaintAgent

variable {count : Nat} {slot : Slot}

/-! ## What an acknowledgement covers -/

theorem left_acknowledge (nxtHop : InAddr) (id : Nat) (s : MaintState Cache) :
    (MaintAgent.maintBufAcknowledge nxtHop id s).left = s.left ++
      (s.maintBuf.filter (MaintAgent.covers nxtHop id)).map fun slot =>
        slot.leaves .acknowledged := by
  cases s.acknowledge_cases nxtHop id with
  | inl same => rw [same]; rfl
  | inr updated =>
      obtain ⟨neigh, rtt, -, same⟩ := updated
      rw [same]
      rfl

/-- Processing an acknowledgement acknowledges the entries whose identifier is not
greater. -/
theorem acknowledgesExactly_covers {agent : MaintAgent Cache} {s s' : MaintState Cache}
    {time : SimTime} {ack : DsrAckOpt} (reached : agent.Reached s)
    (mine : ack.dst = agent.myaddr) (step : agent.Step s time (.ackOptRecv ack) s') :
    AcknowledgesExactly s s' fun slot => MaintAgent.covers ack.src ack.id slot = true := by
  have accounted := reached.accounted
  have accounted' : s'.Accounted := (reached.step step).accounted
  obtain ⟨depth, ran⟩ := step.performed
  rw [MaintAgent.perform, if_neg (not_not.mpr mine)] at ran
  obtain ⟨more, same, others⟩ := (MaintAgent.maintBufSetTimeout_changes ran).left
  rw [left_acknowledge] at same
  have left : s'.left = s.left ++ (s.maintBuf.filter (MaintAgent.covers ack.src ack.id)).map
      (fun slot => slot.leaves .acknowledged) ++ more := same
  intro slot member
  have acknowledged (covered : MaintAgent.covers ack.src ack.id slot = true) :
      slot.leaves .acknowledged ∈ s'.left := by
    rw [left]
    exact List.mem_append_left _ (List.mem_append_right _
      (List.mem_map_of_mem (List.mem_filter.mpr ⟨member, covered⟩)))
  refine ⟨⟨?_, acknowledged⟩, fun covered other among => ?_⟩
  · intro gone
    rw [left, List.mem_append, List.mem_append] at gone
    rcases gone with (earlier | now) | later
    · exact absurd rfl (accounted.absent earlier member)
    · obtain ⟨other, among, equal⟩ := List.mem_map.mp now
      obtain ⟨there, covered⟩ := List.mem_filter.mp among
      have packet : other.packet = slot.packet := congrArg Departure.packet equal
      exact accounted.unique there member packet ▸ covered
    · exact absurd rfl (others _ later)
  · exact accounted'.absent (acknowledged covered) among

/-- The comparison of two identifiers, for an entry that is not half a round newer than the
request. -/
theorem covered_iff_sameRound {before number : Nat} (recent : before < number + 2 ^ 15) :
    ((before + 1) % 2 ^ 16 ≤ number % 2 ^ 16 ↔ before < number) ↔
      (before + 1) / 2 ^ 16 = number / 2 ^ 16 ∨
        before + 1 + 2 ^ 16 ≤ number ∧ (before + 1) % 2 ^ 16 ≤ number % 2 ^ 16 := by
  omega

/-! ## Past the greatest identifier -/

/-- The node 1, that never knows a route. -/
def lonelyAgent : MaintAgent Unit where
  myaddr := 1
  maintHoldoffTime := 250000
  maxMaintRexmt := 2
  routes :=
    { rtcFind := fun _ _ _ cache => (none, cache)
      deleteLink := fun _ _ _ _ cache => cache }

def neighborPkt : DsrPkt where
  src := 1
  dst := 2
  nxtHop := 2
  prvHop := 0
  flags := pktRequestAck
  salvage := 0
  ttl := 64
  payloadLen := 512
  opth := []
  srtOpt := none
  rrepOpt := []
  srt := none
  costVector := []

structure Exchanged (s : MaintState Unit) (count : Nat) : Prop where
  reached : lonelyAgent.Reached s
  before : s.now < usecs ((count + 1) * 1000000)
  empty : s.maintBuf = []
  idle : s.ackTimer = none
  known : ∃ neigh, s.neighborMap.lookup 2 = some neigh ∧ 0 ≤ neigh.lastAckReq ∧
    neigh.lastAckReq ≤ count * 1000000
  requests : s.requests 2 = count

theorem exchanged_start : ∃ s, Exchanged s 0 := by
  have added : lonelyAgent.Step (.initial ()) 0 (.neighTblAdd 2)
      { (MaintState.initial ()).at 0 with
        neighborMap := neighTblAdd (MaintState.initial ()).neighborMap 2 } :=
    ⟨Int.le_refl _, by simp [MaintState.initial], Bool.noConfusion, 0, rfl⟩
  refine ⟨_, (MaintAgent.Reached.start ()).step added, by decide, rfl, rfl, ?_, rfl⟩
  refine ⟨neighTblCreate, ?_, by decide, by decide⟩
  simp [neighTblAdd, MaintState.initial]

structure Awaiting (s : MaintState Unit) (count : Nat) (slot : Slot) : Prop where
  reached : lonelyAgent.Reached s
  now : s.now = usecs ((count + 1) * 1000000)
  buffered : s.maintBuf = [slot]
  hop : slot.entry.nxtHop = 2
  before : slot.requestsBefore = count
  waits : s.now + usecs 10000 ≤ slot.key
  timer : ∃ expires, s.ackTimer = some expires ∧ s.now + usecs 9999 ≤ expires
  known : ∃ neigh, s.neighborMap.lookup 2 = some neigh ∧
    neigh.lastAckReq = (count + 1) * 1000000
  requests : s.requests 2 = count + 1

theorem gettime_seconds (count : Nat) :
    gettime (usecs (count * 1000000)) = count * 1000000 := by
  simp only [gettime, usecs, SimTime]
  omega

theorem Exchanged.send {s : MaintState Unit} (exchanged : Exchanged s count)
    (few : count < 2 ^ 16) : ∃ s' slot, Awaiting s' count slot := by
  obtain ⟨neigh, known, nonneg, recent⟩ := exchanged.known
  let time : SimTime := usecs ((count + 1) * 1000000)
  have ranged : 20 ≤ neigh.tRxtcur := exchanged.reached.timed.neighbors _ _ known
  have step : lonelyAgent.Step s time (.omnetXmit neighborPkt)
      ((s.at time).buffer lonelyAgent.maintHoldoffTime neighborPkt neigh).arm :=
    MaintAgent.omnetXmit_step exchanged.reached exchanged.before.le
      (by simp [exchanged.idle]) rfl known (by simp [exchanged.empty])
  have clock : gettime time = (count + 1) * 1000000 := by
    exact_mod_cast gettime_seconds (count + 1)
  have asked : (s.at time).asks lonelyAgent.maintHoldoffTime neigh = true := by
    simp only [MaintState.asks, MaintState.at, lonelyAgent, clock, decide_eq_true_eq]
    omega
  let slot : Slot := (s.at time).maintEntryCreate neighborPkt neigh true
  have empty : (s.at time).maintBuf = [] := exchanged.empty
  have buffered : ((s.at time).buffer lonelyAgent.maintHoldoffTime neighborPkt neigh).maintBuf =
      [slot] := by
    rw [MaintState.maintBuf_buffer (by simp [empty, maxMaintBuff]), empty, asked]
    rfl
  rw [MaintState.arm_of_cons buffered] at step
  have long : time + usecs 10000 ≤ slot.key := by
    show time + usecs 10000 ≤ time + usecs neigh.rto
    simp only [usecs, Neighbor.rto, SimTime]
    omega
  refine ⟨_, slot, exchanged.reached.step step, rfl, buffered, rfl, exchanged.requests, long,
    ⟨_, rfl, ?_⟩, ⟨neigh.requested time, ?_, clock⟩, ?_⟩
  · show time + usecs 9999 ≤ usecs 1 * gettime slot.key
    simp only [gettime, usecs, SimTime] at long ⊢
    omega
  · simp only [MaintState.setTimer, MaintState.buffer, asked, if_true]
    exact Finmap.lookup_insert _
  · simp only [MaintState.setTimer, MaintState.buffer, asked, if_true]
    exact (Function.update_self 2 _ _).trans (congrArg (· + 1) exchanged.requests)

theorem Awaiting.quiet {s : MaintState Unit} (awaiting : Awaiting s count slot) :
    ∀ other ∈ s.maintBuf, ¬other.Due (s.now + usecs 1000) := by
  intro other member
  rw [awaiting.buffered, List.mem_singleton] at member
  subst member
  have waits := awaiting.waits
  simp only [Slot.Due, earliness, usecs, SimTime] at waits ⊢
  omega

theorem Awaiting.ackStep {s : MaintState Unit} (awaiting : Awaiting s count slot) :
    lonelyAgent.Step s (s.now + usecs 1000)
      (.ackOptRecv { id := idAfter count, src := 2, dst := 1 })
      (MaintAgent.maintBufAcknowledge 2 (idAfter count) (s.at (s.now + usecs 1000))).arm := by
  apply MaintAgent.ackOptRecv_step (Int.le_add_of_nonneg_right (by decide)) _ rfl awaiting.quiet
  obtain ⟨expires, set, late⟩ := awaiting.timer
  intro other pending
  rw [set] at pending
  cases pending
  simp only [usecs, SimTime] at late ⊢
  omega

theorem Awaiting.acknowledge {s : MaintState Unit} (awaiting : Awaiting s count slot) :
    ∃ s', Exchanged s' (count + 1) := by
  obtain ⟨neigh, known, asked⟩ := awaiting.known
  have covered : MaintAgent.covers 2 (idAfter count) slot = true := by
    have id := awaiting.reached.numbered.slots slot (by simp [awaiting.buffered])
    simp [MaintAgent.covers, awaiting.hop, id, awaiting.before]
  have gone : ((s.at (s.now + usecs 1000)).deleteAll (MaintAgent.covers 2 (idAfter count))
      .acknowledged).maintBuf = [] := by
    simp [MaintState.deleteAll, MaintState.at, awaiting.buffered, covered]
  have later : s.now + usecs 1000 < usecs ((count + 1 + 1) * 1000000) := by
    rw [awaiting.now]
    simp only [usecs, SimTime]
    omega
  have reached := awaiting.reached.step awaiting.ackStep
  cases (s.at (s.now + usecs 1000)).acknowledge_cases 2 (idAfter count) with
  | inl same =>
      rw [same, MaintState.arm, gone] at reached
      exact ⟨_, reached, later, gone, rfl, ⟨neigh, known, by omega, by push_cast; omega⟩,
        awaiting.requests⟩
  | inr updated =>
      obtain ⟨neigh', rtt, known', same⟩ := updated
      have neighbor : neigh' = neigh := Option.some.inj (known'.symm.trans known)
      rw [same, MaintState.arm] at reached
      simp only [gone] at reached
      exact ⟨_, reached, later, rfl, rfl, ⟨neigh'.setRto rtt, Finmap.lookup_insert _,
        by show 0 ≤ neigh'.lastAckReq; rw [neighbor]; omega,
        by show neigh'.lastAckReq ≤ _; rw [neighbor]; push_cast; omega⟩, awaiting.requests⟩

theorem exists_exchanged (count : Nat) (few : count ≤ 2 ^ 16) : ∃ s, Exchanged s count := by
  induction count with
  | zero => exact exchanged_start
  | succ count ih =>
      obtain ⟨s, exchanged⟩ := ih (by omega)
      obtain ⟨s', slot, awaiting⟩ := exchanged.send (by omega)
      exact awaiting.acknowledge

theorem Awaiting.follow {s : MaintState Unit} (awaiting : Awaiting s count slot) :
    ∃ s' s'' time, lonelyAgent.Reached s' ∧
      lonelyAgent.Step s' time (.ackOptRecv { id := idAfter count, src := 2, dst := 1 }) s'' ∧
      s'.requests 2 = count + 1 ∧
      ∃ follower ∈ s'.maintBuf, follower.entry.nxtHop = 2 ∧
        follower.requestsBefore = count + 1 := by
  obtain ⟨expires, set, late⟩ := awaiting.timer
  obtain ⟨neigh, known, asked⟩ := awaiting.known
  have early : s.now + usecs 500 ≤ expires := by
    simp only [usecs, SimTime] at late ⊢
    omega
  have quiet : ∀ other ∈ s.maintBuf, ¬other.Due (s.now + usecs 500) := by
    intro other member due
    apply awaiting.quiet other member
    simp only [Slot.Due, earliness, usecs, SimTime] at due ⊢
    omega
  have step : lonelyAgent.Step s (s.now + usecs 500) (.omnetXmit neighborPkt) _ :=
    MaintAgent.omnetXmit_step awaiting.reached (Int.le_add_of_nonneg_right (by decide))
      (by rw [set]; rintro _ ⟨⟩; exact early) rfl known quiet
  let next := s.at (s.now + usecs 500)
  have holds : next.asks lonelyAgent.maintHoldoffTime neigh = false := by
    have clock : gettime (s.now + usecs 500) = (count + 1) * 1000000 + 500 := by
      rw [awaiting.now]
      simp only [gettime, usecs, SimTime]
      omega
    simp only [next, MaintState.asks, MaintState.at, lonelyAgent, clock, asked,
      decide_eq_false_iff_not]
    omega
  let follower : Slot := next.maintEntryCreate neighborPkt neigh false
  have slots : next.maintBuf = [slot] := awaiting.buffered
  have buffered : (next.buffer lonelyAgent.maintHoldoffTime neighborPkt neigh).maintBuf =
      insertSlot follower [slot] := by
    rw [MaintState.maintBuf_buffer (by simp [slots, maxMaintBuff]), slots, holds]
  have waits : ∀ other ∈ insertSlot follower [slot], s.now + usecs 10000 ≤ other.key := by
    intro other member
    cases mem_insertSlot.mp member with
    | inl created =>
        have ranged : 20 ≤ neigh.tRxtcur := awaiting.reached.timed.neighbors _ _ known
        rw [created]
        show s.now + usecs 10000 ≤ s.now + usecs 500 + usecs neigh.rto
        simp only [usecs, Neighbor.rto, SimTime]
        omega
    | inr old => exact List.mem_singleton.mp old ▸ awaiting.waits
  have nonempty : insertSlot follower [slot] ≠ [] :=
    List.ne_nil_of_mem (mem_insertSlot.mpr (.inl rfl))
  refine ⟨_, _, s.now + usecs 1000, awaiting.reached.step step,
    MaintAgent.ackOptRecv_step ?_ ?_ rfl ?_, ?_, follower, ?_, rfl, awaiting.requests⟩
  · rw [MaintState.now_arm]
    exact Int.add_le_add_left (by decide) s.now
  · apply MaintState.arm_pending (buffered ▸ nonempty)
    rw [buffered]
    intro other member
    have long := waits other member
    simp only [usecs, SimTime] at long ⊢
    omega
  · rw [MaintState.maintBuf_arm, buffered]
    intro other member due
    have long := waits other member
    simp only [Slot.Due, earliness, usecs, SimTime] at long due
    omega
  · rw [MaintState.requests_arm, MaintState.buffer, holds]
    exact awaiting.requests
  · rw [MaintState.maintBuf_arm, buffered]
    exact mem_insertSlot.mpr (.inl rfl)

/-! ## Exactly what was sent -/

/-- An acknowledgement covers what was sent up to its request if and only if the
identifiers have not started again in between. -/
theorem acknowledgesExactly_iff {agent : MaintAgent Cache} {s s' : MaintState Cache}
    {time : SimTime} {ack : DsrAckOpt} {number : Nat} (reached : agent.Reached s)
    (mine : ack.dst = agent.myaddr) (step : agent.Step s time (.ackOptRecv ack) s')
    (request : s.NewestRequest ack.src ack.id number)
    (recent : s.requests ack.src < number + 2 ^ 15) :
    (AcknowledgesExactly s s' fun slot =>
      slot.entry.nxtHop = ack.src ∧ slot.requestsBefore < number) ↔
      ∀ slot ∈ s.maintBuf, slot.entry.nxtHop = ack.src → slot.SameRound number := by
  have covers := acknowledgesExactly_covers reached mine step
  have numbered := reached.numbered
  have compared : ∀ slot ∈ s.maintBuf, slot.entry.nxtHop = ack.src →
      ((MaintAgent.covers ack.src ack.id slot = true ↔ slot.requestsBefore < number) ↔
        slot.SameRound number) := by
    intro slot member hop
    have near : slot.requestsBefore < number + 2 ^ 15 := by
      have bound := numbered.earlier slot member
      rw [hop] at bound
      omega
    have iff := covered_iff_sameRound near
    have id := numbered.slots slot member
    rw [Slot.SameRound, id, idAfter, ← iff]
    simp [MaintAgent.covers, hop, id, idAfter, ← request.identified]
  constructor
  · intro exactly slot member hop
    have iff : MaintAgent.covers ack.src ack.id slot = true ↔
        slot.entry.nxtHop = ack.src ∧ slot.requestsBefore < number :=
      (covers slot member).1.symm.trans (exactly slot member).1
    refine (compared slot member hop).mp ?_
    rw [iff]
    exact and_iff_right hop
  · intro rounds slot member
    have iff : MaintAgent.covers ack.src ack.id slot = true ↔
        slot.entry.nxtHop = ack.src ∧ slot.requestsBefore < number := by
      by_cases hop : slot.entry.nxtHop = ack.src
      · rw [(compared slot member hop).mpr (rounds slot member hop)]
        exact (and_iff_right hop).symm
      · simp [MaintAgent.covers, hop]
    exact ⟨(covers slot member).1.trans iff, fun covered => (covers slot member).2 (iff.mpr covered)⟩

/-- The first packet of all is acknowledged, with nothing else in the buffer. -/
theorem acknowledgesExactly_iff_first : ∃ s s' : MaintState Unit,
    lonelyAgent.Reached s ∧ s.maintBuf ≠ [] ∧
      AcknowledgesExactly s s' fun slot => slot.entry.nxtHop = 2 ∧ slot.requestsBefore < 1 := by
  obtain ⟨s₀, exchanged⟩ := exists_exchanged 0 (by decide)
  obtain ⟨s, slot, awaiting⟩ := exchanged.send (by decide)
  have request : s.NewestRequest 2 (idAfter 0) 1 :=
    ⟨awaiting.requests.ge, rfl, by rw [awaiting.requests]; decide⟩
  have recent : s.requests 2 < 1 + 2 ^ 15 := by
    rw [awaiting.requests]
    decide
  refine ⟨s, _, awaiting.reached, by simp [awaiting.buffered],
    (acknowledgesExactly_iff awaiting.reached rfl awaiting.ackStep request recent).mpr ?_⟩
  intro other member hop
  rw [awaiting.buffered, List.mem_singleton] at member
  rw [member]
  exact .inl (by rw [awaiting.before])

/-- An acknowledgement with the greatest identifier also covers a packet that was sent after
its request, with the identifier 0. -/
theorem not_acknowledgesExactly_wrapped :
    ¬ ∀ (s s' : MaintState Unit) (time : SimTime) (ack : DsrAckOpt) (number : Nat),
      lonelyAgent.Reached s → ack.dst = lonelyAgent.myaddr →
      lonelyAgent.Step s time (.ackOptRecv ack) s' →
      s.NewestRequest ack.src ack.id number → s.requests ack.src < number + 2 ^ 15 →
      AcknowledgesExactly s s' fun slot =>
        slot.entry.nxtHop = ack.src ∧ slot.requestsBefore < number := by
  intro holds
  obtain ⟨s₀, exchanged⟩ := exists_exchanged 65534 (by decide)
  obtain ⟨s₁, slot, awaiting⟩ := exchanged.send (by decide)
  obtain ⟨s, s', time, reached, step, requests, follower, member, hop, before⟩ :=
    awaiting.follow
  have id := reached.numbered.slots follower member
  have covered : MaintAgent.covers 2 (idAfter 65534) follower = true := by
    simp [MaintAgent.covers, hop, id, before, idAfter]
  have acknowledged :=
    (acknowledgesExactly_covers reached rfl step follower member).1.mpr covered
  have request : s.NewestRequest 2 (idAfter 65534) 65535 :=
    ⟨requests.ge, rfl, by rw [requests]; decide⟩
  have recent : s.requests 2 < 65535 + 2 ^ 15 := by
    rw [requests]
    decide
  have wrong := (holds s s' time _ 65535 reached rfl step request recent follower member).1.mp
    acknowledged
  have late : follower.requestsBefore < 65535 := wrong.2
  rw [before] at late
  exact absurd late (by decide)

end SyncFanet.Dsr
