import SyncFanet.Dsr.MaintRuns

/-!
# What holds of the maintenance buffer in every state

Every packet that was ever buffered is in the buffer or has left it, once. The identifiers
count the requests to a neighbour in 16 bits.
-/

set_option autoImplicit false

namespace SyncFanet.Dsr

variable {Cache : Type}

theorem perm_insertSlot (slot : Slot) (buf : List Slot) :
    (insertSlot slot buf).Perm (slot :: buf) := by
  induction buf with
  | nil => exact .refl _
  | cons first rest ih =>
      unfold insertSlot
      split
      · exact (ih.cons first).trans (.swap slot first rest)
      · exact .refl _

theorem mem_insertSlot {slot other : Slot} {buf : List Slot} :
    other ∈ insertSlot slot buf ↔ other = slot ∨ other ∈ buf := by
  rw [(perm_insertSlot slot buf).mem_iff, List.mem_cons]

namespace MaintState

variable {s : MaintState Cache} {slot : Slot}

theorem evicted_append : s.evicted ++ s.maintBuf.drop s.evicted.length = s.maintBuf := by
  unfold evicted
  split
  · cases s.maintBuf <;> rfl
  · rfl

theorem mem_maintInsert {other : Slot} (member : other ∈ (s.maintInsert slot).maintBuf) :
    other = { slot with node := s.nodes } ∨ other ∈ s.maintBuf :=
  (mem_insertSlot.mp member).imp id List.mem_of_mem_drop

theorem maintBuf_buffer {holdoff : Nat} {dp : DsrPkt} {neigh : Neighbor}
    (room : s.maintBuf.length < maxMaintBuff) :
    (s.buffer holdoff dp neigh).maintBuf =
      insertSlot (s.maintEntryCreate dp neigh (s.asks holdoff neigh)) s.maintBuf := by
  have none : s.evicted = [] := if_neg (Nat.not_le.mpr room)
  unfold buffer maintInsert
  rw [none]
  rfl

/-! ## Accounting -/

/-- The numbers of the packets that left and of those still there. -/
def allPackets (s : MaintState Cache) : List Nat :=
  s.left.map Departure.packet ++ s.maintBuf.map Slot.packet

def Accounted (s : MaintState Cache) : Prop :=
  s.allPackets.Perm (List.range s.packets)

theorem allPackets_maintInsert :
    (s.maintInsert slot).allPackets.Perm (slot.packet :: s.allPackets) := by
  have inserted := (perm_insertSlot { slot with node := s.nodes }
    (s.maintBuf.drop s.evicted.length)).map Slot.packet
  have kept : s.maintBuf.map Slot.packet = s.evicted.map Slot.packet ++
      (s.maintBuf.drop s.evicted.length).map Slot.packet := by
    rw [← List.map_append, evicted_append]
  have gone : (s.evicted.map fun first => first.leaves .evicted).map Departure.packet =
      s.evicted.map Slot.packet := by
    rw [List.map_map]
    rfl
  unfold allPackets
  rw [kept, maintInsert, List.map_append, gone, List.append_assoc]
  refine ((inserted.append_left _).append_left _).trans ?_
  rw [List.map_cons, ← List.append_assoc, ← List.append_assoc]
  exact List.perm_middle

theorem Accounted.step {agent : MaintAgent Cache} {s s' : MaintState Cache}
    (accounted : s.Accounted) (change : Change agent s s') : s'.Accounted := by
  unfold Accounted at accounted ⊢
  cases change with
  | setTimer first waits => exact accounted
  | retransmit idle first due again =>
      refine allPackets_maintInsert.trans (.trans ?_ accounted)
      unfold allPackets
      rw [first, List.map_cons]
      exact List.perm_middle.symm
  | linkBreak cache reported idle first due exhausted given names =>
      refine .trans ?_ accounted
      unfold allPackets
      rw [first, List.map_cons, List.map_append, List.append_assoc]
      exact .refl _
  | salvage cache among declared given =>
      refine .trans ?_ accounted
      unfold allPackets
      rw [among]
      simp only [List.map_append, List.map_cons, List.map_nil, List.append_assoc,
        List.cons_append, List.nil_append]
      exact List.perm_middle.symm.append_left _
  | buffer known =>
      rw [show (s.buffer _ _ _).packets = s.packets + 1 from rfl, List.range_succ]
      refine allPackets_maintInsert.trans ((accounted.cons s.packets).trans ?_)
      exact (List.perm_append_singleton s.packets _).symm
  | routes cache => exact accounted

theorem Accounted.deleteAll {gone : Slot → Bool} {how : Leave} (accounted : s.Accounted) :
    (s.deleteAll gone how).Accounted := by
  refine .trans ?_ accounted
  unfold allPackets MaintState.deleteAll
  have split := (List.filter_append_perm gone s.maintBuf).map Slot.packet
  have leaves : ((s.maintBuf.filter gone).map fun slot => slot.leaves how).map Departure.packet =
      (s.maintBuf.filter gone).map Slot.packet := by
    rw [List.map_map]
    rfl
  rw [List.map_append, leaves, List.append_assoc, ← List.map_append]
  refine .append_left _ ?_
  simpa using split

theorem acknowledge_cases (nxtHop : InAddr) (id : Nat) (s : MaintState Cache) :
    let deleted := s.deleteAll (MaintAgent.covers nxtHop id) .acknowledged
    MaintAgent.maintBufAcknowledge nxtHop id s = deleted ∨
      ∃ neigh rtt, s.neighborMap.lookup nxtHop = some neigh ∧
        MaintAgent.maintBufAcknowledge nxtHop id s =
          { deleted with
            neighborMap := s.neighborMap.insert nxtHop (Neighbor.setRto neigh rtt) } := by
  intro deleted
  unfold MaintAgent.maintBufAcknowledge
  cases known : deleted.neighborMap.lookup nxtHop with
  | none => exact .inl (by simp only [deleted] at known; simp only [known, deleted])
  | some neigh =>
      by_cases measured : MaintAgent.ackRtt s.now id
          (s.maintBuf.filter (MaintAgent.covers nxtHop id)) > 0
      · exact .inr ⟨neigh, _, known, by
          simp only [deleted] at known
          simp only [known, measured, if_true]
          rfl⟩
      · exact .inl (by
          simp only [deleted] at known
          simp only [known, measured, if_false, deleted])

theorem acknowledge_same (nxtHop : InAddr) (id : Nat) (s : MaintState Cache) :
    (MaintAgent.maintBufAcknowledge nxtHop id s).now = s.now ∧
      (MaintAgent.maintBufAcknowledge nxtHop id s).ackTimer = none ∧
      (MaintAgent.maintBufAcknowledge nxtHop id s).maintBuf =
        s.maintBuf.filter fun slot => ¬MaintAgent.covers nxtHop id slot := by
  cases s.acknowledge_cases nxtHop id with
  | inl same =>
      rw [same]
      exact ⟨rfl, rfl, rfl⟩
  | inr updated =>
      obtain ⟨neigh, rtt, -, same⟩ := updated
      rw [same]
      exact ⟨rfl, rfl, rfl⟩

theorem Accounted.begins {agent : MaintAgent Cache} {event : MaintEvent Cache}
    {s s' : MaintState Cache} (accounted : s.Accounted) (begins : MaintAgent.Begins agent event s s') :
    s'.Accounted := by
  cases begins with
  | other => exact accounted
  | @acknowledged ack mine =>
      have deleted : (s.deleteAll (MaintAgent.covers ack.src ack.id) .acknowledged).Accounted :=
        accounted.deleteAll
      cases acknowledge_cases ack.src ack.id s with
      | inl same => exact same ▸ deleted
      | inr updated =>
          obtain ⟨neigh, rtt, -, same⟩ := updated
          rw [same]
          exact deleted
  | linkAcknowledged => exact accounted.deleteAll
  | routeError => exact accounted.deleteAll
  | failed cache reported names => exact accounted
  | neighbor => exact accounted
  | timer => exact accounted

end MaintState

theorem MaintAgent.Reached.keeps {agent : MaintAgent Cache} {invariant : MaintState Cache → Prop}
    {s : MaintState Cache} (reached : agent.Reached s)
    (start : ∀ cache, invariant (.initial cache))
    (time : ∀ s now, invariant s → invariant (s.at now))
    (begins : ∀ event s s', invariant s → Begins agent event s s' → invariant s')
    (change : ∀ s s', invariant s → Change agent s s' → invariant s') : invariant s := by
  induction reached with
  | start cache => exact start cache
  | step before happens ih =>
      obtain ⟨depth, ran⟩ := happens.performed
      obtain ⟨s₁, begun, changes⟩ := perform_changes ran
      exact changes.keeps (begins _ _ _ (time _ _ ih) begun) (change _ _)

theorem MaintAgent.Reached.accounted {agent : MaintAgent Cache} {s : MaintState Cache}
    (reached : agent.Reached s) : s.Accounted :=
  reached.keeps (fun _ => .refl _) (fun _ _ accounted => accounted)
    (fun _ _ _ accounted begun => accounted.begins begun)
    (fun _ _ accounted change => accounted.step change)

theorem MaintState.Accounted.absent {s : MaintState Cache} (accounted : s.Accounted)
    {departure : Departure} (gone : departure ∈ s.left) {slot : Slot}
    (member : slot ∈ s.maintBuf) : slot.packet ≠ departure.packet := by
  have distinct : s.allPackets.Nodup := accounted.nodup_iff.mpr List.nodup_range
  intro same
  exact (List.nodup_append.mp distinct).2.2 _ (List.mem_map_of_mem gone) _
    (List.mem_map_of_mem member) same.symm

/-! ## Identifiers -/

def idAfter (requests : Nat) : Nat :=
  (requests + 1) % 2 ^ 16

structure MaintState.Numbered (s : MaintState Cache) : Prop where
  neighbors : ∀ addr neigh, s.neighborMap.lookup addr = some neigh →
    neigh.id = idAfter (s.requests addr)
  strangers : ∀ addr, s.neighborMap.lookup addr = none → s.requests addr = 0
  slots : ∀ slot ∈ s.maintBuf, slot.entry.id = idAfter slot.requestsBefore
  earlier : ∀ slot ∈ s.maintBuf, slot.requestsBefore ≤ s.requests slot.entry.nxtHop

namespace MaintState.Numbered

variable {s s' : MaintState Cache}

theorem of_subset (numbered : s.Numbered) (neighbors : s'.neighborMap = s.neighborMap)
    (requests : s'.requests = s.requests)
    (slots : ∀ slot ∈ s'.maintBuf, ∃ old ∈ s.maintBuf, slot.entry.id = old.entry.id ∧
      slot.entry.nxtHop = old.entry.nxtHop ∧ slot.requestsBefore = old.requestsBefore) :
    s'.Numbered := by
  constructor
  · rw [neighbors, requests]
    exact numbered.neighbors
  · rw [neighbors, requests]
    exact numbered.strangers
  · intro slot member
    obtain ⟨old, among, id, -, before⟩ := slots slot member
    rw [id, before]
    exact numbered.slots old among
  · intro slot member
    obtain ⟨old, among, -, hop, before⟩ := slots slot member
    rw [requests, hop, before]
    exact numbered.earlier old among

theorem of_sublist (numbered : s.Numbered) (neighbors : s'.neighborMap = s.neighborMap)
    (requests : s'.requests = s.requests) (slots : s'.maintBuf ⊆ s.maintBuf) : s'.Numbered :=
  numbered.of_subset neighbors requests fun slot member =>
    ⟨slot, slots member, rfl, rfl, rfl⟩

theorem id_requested {neigh : Neighbor} {requests : Nat} (id : neigh.id = idAfter requests)
    (now : SimTime) : (neigh.requested now).id = idAfter (requests + 1) := by
  simp only [Neighbor.requested, id, idAfter]
  omega

theorem buffer (numbered : s.Numbered) {holdoff : Nat} {dp : DsrPkt} {neigh : Neighbor}
    (known : s.neighborMap.lookup dp.nxtHop = some neigh) :
    (s.buffer holdoff dp neigh).Numbered := by
  have more : ∀ addr, s.requests addr ≤ (s.buffer holdoff dp neigh).requests addr := by
    intro addr
    cases asked : s.asks holdoff neigh with
    | false => simp [MaintState.buffer, asked]
    | true =>
        by_cases same : addr = dp.nxtHop
        · simp [MaintState.buffer, asked, same]
        · simp [MaintState.buffer, asked, same]
  constructor
  · intro addr other found
    cases asked : s.asks holdoff neigh with
    | false =>
        simp only [MaintState.buffer, asked, Bool.false_eq_true, if_false] at found ⊢
        exact numbered.neighbors addr other found
    | true =>
        simp only [MaintState.buffer, asked, if_true] at found ⊢
        by_cases same : addr = dp.nxtHop
        · subst same
          rw [Finmap.lookup_insert] at found
          cases found
          rw [Function.update_self]
          exact id_requested (numbered.neighbors _ _ known) s.now
        · rw [Finmap.lookup_insert_of_ne _ same] at found
          rw [Function.update_of_ne same]
          exact numbered.neighbors addr other found
  · intro addr missing
    cases asked : s.asks holdoff neigh with
    | false =>
        simp only [MaintState.buffer, asked, Bool.false_eq_true, if_false] at missing ⊢
        exact numbered.strangers addr missing
    | true =>
        simp only [MaintState.buffer, asked, if_true] at missing ⊢
        by_cases same : addr = dp.nxtHop
        · subst same
          rw [Finmap.lookup_insert] at missing
          cases missing
        · rw [Finmap.lookup_insert_of_ne _ same] at missing
          rw [Function.update_of_ne same]
          exact numbered.strangers addr missing
  · intro slot member
    cases mem_maintInsert member with
    | inl created =>
        rw [created]
        exact numbered.neighbors _ _ known
    | inr old => exact numbered.slots slot old
  · intro slot member
    cases mem_maintInsert member with
    | inl created =>
        rw [created]
        exact more _
    | inr old => exact (numbered.earlier slot old).trans (more _)

theorem step {agent : MaintAgent Cache} (numbered : s.Numbered) (change : Change agent s s') :
    s'.Numbered := by
  cases change with
  | setTimer first waits => exact numbered.of_sublist rfl rfl (List.Subset.refl _)
  | @retransmit slot rest idle first due again =>
      refine numbered.of_subset rfl rfl ?_
      intro other member
      cases mem_maintInsert member with
      | inl again => exact ⟨slot, by simp [first], by rw [again], by rw [again], by rw [again]⟩
      | inr old => exact ⟨other, by simp [first, old], rfl, rfl, rfl⟩
  | linkBreak cache reported idle first due exhausted given names =>
      exact numbered.of_sublist rfl rfl (by simp [first])
  | salvage cache among declared given =>
      refine numbered.of_sublist rfl rfl ?_
      rw [among]
      exact fun _ member => by
        simp only [List.mem_append, List.mem_cons] at member ⊢
        exact member.imp id .inr
  | buffer known => exact numbered.buffer known
  | routes cache => exact numbered.of_sublist rfl rfl (List.Subset.refl _)

theorem deleteAll (numbered : s.Numbered) {gone : Slot → Bool} {how : Leave} :
    (s.deleteAll gone how).Numbered :=
  numbered.of_sublist rfl rfl List.filter_sublist.subset

theorem begins {agent : MaintAgent Cache} {event : MaintEvent Cache} (numbered : s.Numbered)
    (begins : MaintAgent.Begins agent event s s') : s'.Numbered := by
  cases begins with
  | other => exact numbered
  | @acknowledged ack mine =>
      have deleted : (s.deleteAll (MaintAgent.covers ack.src ack.id) .acknowledged).Numbered :=
        numbered.deleteAll
      cases acknowledge_cases ack.src ack.id s with
      | inl same => exact same ▸ deleted
      | inr updated =>
          obtain ⟨neigh, rtt, known, same⟩ := updated
          rw [same]
          constructor
          · intro addr other found
            by_cases own : addr = ack.src
            · subst own
              rw [Finmap.lookup_insert] at found
              cases found
              exact deleted.neighbors _ neigh known
            · rw [Finmap.lookup_insert_of_ne _ own] at found
              exact deleted.neighbors addr other found
          · intro addr missing
            by_cases own : addr = ack.src
            · subst own
              rw [Finmap.lookup_insert] at missing
              cases missing
            · rw [Finmap.lookup_insert_of_ne _ own] at missing
              exact deleted.strangers addr missing
          · exact deleted.slots
          · exact deleted.earlier
  | linkAcknowledged => exact numbered.deleteAll
  | routeError => exact numbered.deleteAll
  | failed cache reported names => exact numbered.of_sublist rfl rfl (List.Subset.refl _)
  | @neighbor addr =>
      unfold Dsr.neighTblAdd
      split
      · exact numbered
      · next missing =>
        constructor
        · intro other neigh found
          by_cases same : other = addr
          · subst same
            rw [Finmap.lookup_insert] at found
            cases found
            simp [numbered.strangers _ missing, idAfter, neighTblCreate]
          · rw [Finmap.lookup_insert_of_ne _ same] at found
            exact numbered.neighbors other neigh found
        · intro other absent
          by_cases same : other = addr
          · subst same
            exact numbered.strangers _ missing
          · rw [Finmap.lookup_insert_of_ne _ same] at absent
            exact numbered.strangers other absent
        · exact numbered.slots
        · exact numbered.earlier
  | timer => exact numbered.of_sublist rfl rfl (List.Subset.refl _)

end MaintState.Numbered

theorem MaintAgent.Reached.numbered {agent : MaintAgent Cache} {s : MaintState Cache}
    (reached : agent.Reached s) : s.Numbered := by
  refine reached.keeps ?_ ?_ ?_ ?_
  · intro cache
    exact ⟨by simp [MaintState.initial], fun _ _ => rfl, by simp [MaintState.initial],
      by simp [MaintState.initial]⟩
  · intro s now numbered
    exact numbered.of_sublist rfl rfl (List.Subset.refl _)
  · intro event s s' numbered begun
    exact numbered.begins begun
  · intro s s' numbered change
    exact numbered.step change

/-! ## Timeouts -/

theorem rexmtRange_bounds (value : Nat) : 20 ≤ rexmtRange value ∧ rexmtRange value ≤ 1280 := by
  unfold rexmtRange rangeSet
  split
  · omega
  · split <;> omega

/-- The timeouts of the neighbours and of the entries are in the range of `t_rxtcur`, far
above the time by which an entry may be taken early. -/
structure MaintState.Timed (s : MaintState Cache) : Prop where
  neighbors : ∀ addr neigh, s.neighborMap.lookup addr = some neigh → 20 ≤ neigh.tRxtcur
  slots : ∀ slot ∈ s.maintBuf, 10000 ≤ slot.entry.rto

namespace MaintState.Timed

variable {s s' : MaintState Cache}

theorem of_subset (timed : s.Timed) (neighbors : s'.neighborMap = s.neighborMap)
    (slots : ∀ slot ∈ s'.maintBuf, ∃ old ∈ s.maintBuf, slot.entry.rto = old.entry.rto) :
    s'.Timed := by
  constructor
  · rw [neighbors]
    exact timed.neighbors
  · intro slot member
    obtain ⟨old, among, rto⟩ := slots slot member
    rw [rto]
    exact timed.slots old among

theorem of_sublist (timed : s.Timed) (neighbors : s'.neighborMap = s.neighborMap)
    (slots : s'.maintBuf ⊆ s.maintBuf) : s'.Timed :=
  timed.of_subset neighbors fun slot member => ⟨slot, slots member, rfl⟩

theorem insert_neighbor (timed : s.Timed) (addr : InAddr) {neigh : Neighbor}
    (ranged : 20 ≤ neigh.tRxtcur) :
    ({ s with neighborMap := s.neighborMap.insert addr neigh } : MaintState Cache).Timed := by
  refine ⟨?_, timed.slots⟩
  intro other found known
  by_cases same : other = addr
  · subst same
    rw [Finmap.lookup_insert] at known
    cases known
    exact ranged
  · rw [Finmap.lookup_insert_of_ne _ same] at known
    exact timed.neighbors other found known

theorem buffer (timed : s.Timed) {holdoff : Nat} {dp : DsrPkt} {neigh : Neighbor}
    (known : s.neighborMap.lookup dp.nxtHop = some neigh) :
    (s.buffer holdoff dp neigh).Timed := by
  have ranged := timed.neighbors _ _ known
  constructor
  · intro addr other found
    cases asked : s.asks holdoff neigh with
    | false =>
        simp only [MaintState.buffer, asked, Bool.false_eq_true, if_false] at found
        exact timed.neighbors addr other found
    | true =>
        simp only [MaintState.buffer, asked, if_true] at found
        have ranged' : 20 ≤ (neigh.requested s.now).tRxtcur := ranged
        exact (timed.insert_neighbor dp.nxtHop ranged').neighbors addr other found
  · intro slot member
    cases mem_maintInsert member with
    | inl created =>
        rw [created]
        show 10000 ≤ neigh.rto
        unfold Neighbor.rto
        omega
    | inr old => exact timed.slots slot old

theorem step {agent : MaintAgent Cache} (timed : s.Timed) (change : Change agent s s') :
    s'.Timed := by
  cases change with
  | setTimer first waits => exact timed.of_sublist rfl (List.Subset.refl _)
  | @retransmit slot rest idle first due again =>
      refine timed.of_subset rfl ?_
      intro other member
      cases mem_maintInsert member with
      | inl again => exact ⟨slot, by simp [first], by rw [again]⟩
      | inr old => exact ⟨other, by simp [first, old], rfl⟩
  | linkBreak cache reported idle first due exhausted given names =>
      exact timed.of_sublist rfl (by simp [first])
  | salvage cache among declared given =>
      refine timed.of_sublist rfl ?_
      rw [among]
      exact fun _ member => by
        simp only [List.mem_append, List.mem_cons] at member ⊢
        exact member.imp id .inr
  | buffer known => exact timed.buffer known
  | routes cache => exact timed.of_sublist rfl (List.Subset.refl _)

theorem begins {agent : MaintAgent Cache} {event : MaintEvent Cache} (timed : s.Timed)
    (begins : MaintAgent.Begins agent event s s') : s'.Timed := by
  have deleted {gone : Slot → Bool} {how : Leave} : (s.deleteAll gone how).Timed :=
    timed.of_sublist rfl List.filter_sublist.subset
  cases begins with
  | other => exact timed
  | @acknowledged ack mine =>
      cases acknowledge_cases ack.src ack.id s with
      | inl same => exact same ▸ deleted
      | inr updated =>
          obtain ⟨neigh, rtt, -, same⟩ := updated
          have kept : (s.deleteAll (MaintAgent.covers ack.src ack.id) .acknowledged).Timed :=
            deleted
          rw [same]
          exact kept.insert_neighbor ack.src (rexmtRange_bounds _).1
  | linkAcknowledged => exact deleted
  | routeError => exact deleted
  | failed cache reported names => exact timed.of_sublist rfl (List.Subset.refl _)
  | @neighbor addr =>
      unfold Dsr.neighTblAdd
      split
      · exact timed
      · have ranged : 20 ≤ neighTblCreate.tRxtcur := by decide
        exact timed.insert_neighbor addr ranged
  | timer => exact timed.of_sublist rfl (List.Subset.refl _)

end MaintState.Timed

theorem MaintAgent.Reached.timed {agent : MaintAgent Cache} {s : MaintState Cache}
    (reached : agent.Reached s) : s.Timed := by
  refine reached.keeps ?_ ?_ ?_ ?_
  · intro cache
    exact ⟨by simp [MaintState.initial], by simp [MaintState.initial]⟩
  · intro s now timed
    exact timed.of_sublist rfl (List.Subset.refl _)
  · intro event s s' timed begun
    exact timed.begins begun
  · intro s s' timed change
    exact timed.step change

/-! ## Setting the timer -/

/-- The timer as `maint_buf_set_timeout` sets it where no entry is due. -/
def MaintState.arm (s : MaintState Cache) : MaintState Cache :=
  match s.maintBuf with
  | [] => s
  | slot :: _ => s.setTimer slot.key

@[simp] theorem MaintState.maintBuf_arm (s : MaintState Cache) : s.arm.maintBuf = s.maintBuf := by
  unfold arm
  split <;> rfl

theorem MaintState.arm_of_cons {s : MaintState Cache} {slot : Slot} {rest : List Slot}
    (first : s.maintBuf = slot :: rest) : s.arm = s.setTimer slot.key := by
  unfold arm
  rw [first]

@[simp] theorem MaintState.now_arm (s : MaintState Cache) : s.arm.now = s.now := by
  unfold arm
  split <;> rfl

@[simp] theorem MaintState.requests_arm (s : MaintState Cache) : s.arm.requests = s.requests := by
  unfold arm
  split <;> rfl

theorem MaintState.arm_pending {s : MaintState Cache} {time : SimTime}
    (nonempty : s.maintBuf ≠ []) (waits : ∀ slot ∈ s.maintBuf, time + usecs 1 ≤ slot.key) :
    ∀ expires ∈ s.arm.ackTimer, time ≤ expires := by
  cases first : s.maintBuf with
  | nil => exact absurd first nonempty
  | cons slot rest =>
      have long := waits slot (by simp [first])
      rw [arm_of_cons first]
      intro expires set
      cases set
      simp only [gettime, usecs, SimTime] at long ⊢
      omega

theorem maintBufSetTimeout_quiet {agent : MaintAgent Cache} {s : MaintState Cache} (depth : Nat)
    (quiet : ∀ slot ∈ s.maintBuf, ¬slot.Due s.now) :
    agent.maintBufSetTimeout (depth + 1) s = .ok s.arm := by
  unfold MaintAgent.maintBufSetTimeout MaintState.arm
  cases first : s.maintBuf with
  | nil => rfl
  | cons slot rest =>
      have waits : ¬slot.Due s.now := quiet slot (by simp [first])
      simp only [waits, if_false]

theorem MaintState.not_due_of_timeout {now : SimTime} {rto : Nat} (long : 10000 ≤ rto) :
    ¬ now + usecs rto ≤ now + earliness := by
  have longer : (10000 : Int) ≤ rto := by exact_mod_cast long
  simp only [earliness, usecs, SimTime]
  intro early
  omega

/-! ## Quiet events -/

namespace MaintAgent

variable {agent : MaintAgent Cache} {s : MaintState Cache} {time : SimTime}

theorem omnetXmit_step (reached : agent.Reached s) {dp : DsrPkt} {neigh : Neighbor}
    (later : s.now ≤ time) (pending : ∀ expires ∈ s.ackTimer, time ≤ expires)
    (asked : dp.hasFlag pktRequestAck = true)
    (known : s.neighborMap.lookup dp.nxtHop = some neigh)
    (quiet : ∀ slot ∈ s.maintBuf, ¬slot.Due time) :
    agent.Step s time (.omnetXmit dp)
      ((s.at time).buffer agent.maintHoldoffTime dp neigh).arm := by
  refine ⟨later, pending, Bool.noConfusion, 1, ?_⟩
  have ranged : 20 ≤ neigh.tRxtcur := reached.timed.neighbors _ _ known
  have known' : (s.at time).neighborMap.lookup dp.nxtHop = some neigh := known
  unfold perform maintBufAdd
  simp only [asked, if_true, known']
  apply maintBufSetTimeout_quiet
  intro slot member
  cases MaintState.mem_maintInsert member with
  | inl created =>
      rw [created]
      apply MaintState.not_due_of_timeout
      unfold Neighbor.rto
      omega
  | inr old => exact quiet slot old

theorem ackOptRecv_step {ack : DsrAckOpt} (later : s.now ≤ time)
    (pending : ∀ expires ∈ s.ackTimer, time ≤ expires) (mine : ack.dst = agent.myaddr)
    (quiet : ∀ slot ∈ s.maintBuf, ¬slot.Due time) :
    agent.Step s time (.ackOptRecv ack)
      (maintBufAcknowledge ack.src ack.id (s.at time)).arm := by
  refine ⟨later, pending, Bool.noConfusion, 1, ?_⟩
  rw [perform, if_neg (not_not.mpr mine)]
  apply maintBufSetTimeout_quiet
  obtain ⟨now, -, kept⟩ := (s.at time).acknowledge_same ack.src ack.id
  rw [now, kept]
  intro slot member
  exact quiet slot (List.mem_of_mem_filter member)

end MaintAgent

end SyncFanet.Dsr
