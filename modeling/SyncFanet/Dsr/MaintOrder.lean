import SyncFanet.Dsr.MaintInvariants

/-!
# The order of the maintenance buffer

The buffer is sorted by the times at which its entries expire, which are also their keys. A
call of `maint_buf_set_timeout` that returns leaves the timer set for the first of them.
-/

set_option autoImplicit false

namespace SyncFanet.Dsr

variable {Cache : Type}

/-! ## Insertion -/

theorem sorted_insertSlot {slot : Slot} {buf : List Slot}
    (sorted : buf.Pairwise fun first later => first.key ≤ later.key) :
    (insertSlot slot buf).Pairwise fun first later => first.key ≤ later.key := by
  induction buf with
  | nil => exact List.pairwise_singleton _ slot
  | cons first rest ih =>
      obtain ⟨least, sorted⟩ := List.pairwise_cons.mp sorted
      unfold insertSlot
      by_cases behind : first.key ≤ slot.key
      · rw [if_pos behind]
        apply List.pairwise_cons.mpr
        refine ⟨?_, ih sorted⟩
        intro other member
        cases mem_insertSlot.mp member with
        | inl same => exact same ▸ behind
        | inr among => exact least other among
      · rw [if_neg behind]
        have ahead : slot.key ≤ first.key := (Int.lt_of_not_ge behind).le
        apply List.pairwise_cons.mpr
        refine ⟨?_, List.pairwise_cons.mpr ⟨least, sorted⟩⟩
        intro other member
        cases List.mem_cons.mp member with
        | inl same => exact same ▸ ahead
        | inr among => exact ahead.trans (least other among)

theorem pairwise_insertSlot {related : Slot → Slot → Prop} {slot : Slot} {buf : List Slot}
    (pairs : buf.Pairwise related) (ahead : ∀ other ∈ buf, related slot other)
    (behind : ∀ other ∈ buf, related other slot) : (insertSlot slot buf).Pairwise related := by
  induction buf with
  | nil => exact List.pairwise_singleton _ slot
  | cons first rest ih =>
      obtain ⟨least, pairs⟩ := List.pairwise_cons.mp pairs
      unfold insertSlot
      split
      · apply List.pairwise_cons.mpr
        refine ⟨?_, ih pairs (fun other member => ahead other (List.mem_cons_of_mem _ member))
          fun other member => behind other (List.mem_cons_of_mem _ member)⟩
        intro other member
        cases mem_insertSlot.mp member with
        | inl same => exact same ▸ behind first List.mem_cons_self
        | inr among => exact least other among
      · exact List.pairwise_cons.mpr ⟨ahead, List.pairwise_cons.mpr ⟨least, pairs⟩⟩

namespace MaintState

/-! ## Keys -/

/-- The buffer is sorted by its keys, which are the times of the entries, and not longer
than `MaxMaintBuff`. -/
structure Ordered (s : MaintState Cache) : Prop where
  sorted : s.maintBuf.Pairwise fun first later => first.key ≤ later.key
  keyed : ∀ slot ∈ s.maintBuf, slot.key = slot.entry.expires
  bounded : s.maintBuf.length ≤ maxMaintBuff
  fresh : ∀ slot ∈ s.maintBuf, slot.node < s.nodes
  distinct : s.maintBuf.Pairwise fun slot other => slot.node ≠ other.node

namespace Ordered

variable {s s' : MaintState Cache}

theorem of_sublist (ordered : s.Ordered) (kept : s'.maintBuf.Sublist s.maintBuf)
    (nodes : s.nodes ≤ s'.nodes) : s'.Ordered := by
  constructor
  · exact ordered.sorted.sublist kept
  · exact fun slot member => ordered.keyed slot (kept.subset member)
  · exact kept.length_le.trans ordered.bounded
  · exact fun slot member => (ordered.fresh slot (kept.subset member)).trans_le nodes
  · exact ordered.distinct.sublist kept

theorem maintInsert (ordered : s.Ordered) {slot : Slot} (keyed : slot.key = slot.entry.expires) :
    (s.maintInsert slot).Ordered := by
  constructor
  · exact sorted_insertSlot (ordered.sorted.sublist (List.drop_sublist _ _))
  · intro other member
    cases mem_maintInsert member with
    | inl created =>
        rw [created]
        exact keyed
    | inr old => exact ordered.keyed other old
  · have length := (perm_insertSlot { slot with node := s.nodes }
      (s.maintBuf.drop s.evicted.length)).length_eq
    have few := ordered.bounded
    show (insertSlot _ _).length ≤ _
    rw [length, List.length_cons, List.length_drop]
    unfold evicted
    split
    · rw [List.length_take]
      unfold maxMaintBuff at *
      omega
    · simp only [List.length_nil]
      omega
  · intro other member
    cases mem_maintInsert member with
    | inl created =>
        rw [created]
        exact Nat.lt_succ_self s.nodes
    | inr old => exact (ordered.fresh other old).trans (Nat.lt_succ_self s.nodes)
  · apply pairwise_insertSlot (ordered.distinct.sublist (List.drop_sublist _ _))
    · exact fun other member => (ordered.fresh other (List.mem_of_mem_drop member)).ne'
    · exact fun other member => (ordered.fresh other (List.mem_of_mem_drop member)).ne

theorem retransmit (ordered : s.Ordered) {slot : Slot} {rest : List Slot}
    (first : s.maintBuf = slot :: rest) : (s.retransmit slot rest).Ordered := by
  have removed : ({ s with maintBuf := rest } : MaintState Cache).Ordered :=
    ordered.of_sublist (by rw [first]; exact List.sublist_cons_self slot rest) (Nat.le_refl _)
  exact removed.maintInsert rfl

theorem buffer (ordered : s.Ordered) (holdoff : Nat) (dp : DsrPkt) (neigh : Neighbor) :
    (s.buffer holdoff dp neigh).Ordered := by
  have inserted : (s.maintInsert
      (s.maintEntryCreate dp neigh (s.asks holdoff neigh))).Ordered := ordered.maintInsert rfl
  exact ⟨inserted.sorted, inserted.keyed, inserted.bounded, inserted.fresh, inserted.distinct⟩

theorem step {agent : MaintAgent Cache} (ordered : s.Ordered) (change : Change agent s s') :
    s'.Ordered := by
  cases change with
  | setTimer first waits => exact ordered.of_sublist (.refl _) (Nat.le_refl _)
  | retransmit idle first due again => exact ordered.retransmit first
  | @linkBreak slot rest how cache reported idle first due exhausted given names =>
      exact ordered.of_sublist (by rw [first]; exact List.sublist_cons_self slot rest)
        (Nat.le_refl _)
  | @salvage before after slot how cache among declared given =>
      refine ordered.of_sublist ?_ (Nat.le_refl _)
      rw [among]
      exact (List.sublist_cons_self slot after).append_left before
  | buffer known => exact ordered.buffer _ _ _
  | routes cache => exact ordered.of_sublist (.refl _) (Nat.le_refl _)

theorem first_key (ordered : s.Ordered) {slot : Slot} {rest : List Slot}
    (first : s.maintBuf = slot :: rest) : ∀ other ∈ s.maintBuf, slot.key ≤ other.key := by
  have sorted := ordered.sorted
  rw [first] at sorted ⊢
  intro other member
  cases List.mem_cons.mp member with
  | inl same => exact same ▸ Int.le_refl _
  | inr among => exact (List.pairwise_cons.mp sorted).1 other among

end Ordered

/-! ## The timer -/

/-- The timer is set, and fires no later than a microsecond behind any entry. -/
def Pending (s : MaintState Cache) : Prop :=
  s.maintBuf ≠ [] → ∃ expires, s.ackTimer = some expires ∧
    ∀ slot ∈ s.maintBuf, expires ≤ slot.key + usecs 1

/-- Inside an event a timer that is set may be too late for a new entry, but not for one
that is due. -/
structure Consistent (s : MaintState Cache) : Prop where
  ordered : s.Ordered
  timed : s.Timed
  punctual : ∀ expires ∈ s.ackTimer, ∀ slot ∈ s.maintBuf, slot.Due s.now →
    expires ≤ slot.key + usecs 1

theorem rounded_le (key : SimTime) : usecs 1 * gettime key ≤ key + usecs 1 := by
  simp only [usecs, gettime, SimTime] at key ⊢
  omega

theorem Ordered.pending_setTimer {s : MaintState Cache} (ordered : s.Ordered) {slot : Slot}
    {rest : List Slot} (first : s.maintBuf = slot :: rest) : (s.setTimer slot.key).Pending := by
  intro _
  refine ⟨_, rfl, ?_⟩
  intro other member
  have least : slot.key ≤ other.key := ordered.first_key first other member
  exact (rounded_le slot.key).trans (Int.add_le_add_right least _)

namespace Consistent

variable {s s' : MaintState Cache}

theorem step {agent : MaintAgent Cache} (consistent : s.Consistent)
    (change : Change agent s s') : s'.Consistent := by
  refine ⟨consistent.ordered.step change, consistent.timed.step change, ?_⟩
  cases change with
  | @setTimer slot rest first waits =>
      intro expires set other member due
      have least : slot.key ≤ other.key := consistent.ordered.first_key first other member
      exact absurd (least.trans due) waits
  | retransmit idle first due again =>
      intro expires set
      have stopped : s.ackTimer = some expires := set
      rw [idle] at stopped
      cases stopped
  | linkBreak cache reported idle first due exhausted given names =>
      intro expires set
      have stopped : s.ackTimer = some expires := set
      rw [idle] at stopped
      cases stopped
  | @salvage before after slot how cache among declared given =>
      intro expires set other member due
      refine consistent.punctual expires set other ?_ due
      have kept : other ∈ before ++ after := member
      rw [among]
      simp only [List.mem_append, List.mem_cons] at kept ⊢
      exact kept.imp id .inr
  | @buffer dp neigh known =>
      intro expires set other member due
      cases mem_maintInsert member with
      | inl created =>
          have ranged : 20 ≤ neigh.tRxtcur := consistent.timed.neighbors _ _ known
          have long : 10000 ≤ neigh.rto := by
            unfold Neighbor.rto
            omega
          rw [created] at due
          exact absurd due (not_due_of_timeout long)
      | inr old => exact consistent.punctual expires set other old due
  | routes cache => exact consistent.punctual

end Consistent

end MaintState

/-! ## Calls that return -/

namespace MaintAgent

open MaintState

variable {agent : MaintAgent Cache} {s s' : MaintState Cache}

theorem Changes.consistent (changes : agent.Changes s s') (consistent : s.Consistent) :
    s'.Consistent :=
  changes.keeps consistent fun holds change => holds.step change

theorem maintBufTimeout_pending
    {setTimeout : MaintState Cache → Except Fault (MaintState Cache)}
    (sets : ∀ {s s' : MaintState Cache}, setTimeout s = .ok s' → agent.Changes s s')
    (pends : ∀ {s s' : MaintState Cache}, s.Consistent → setTimeout s = .ok s' → s'.Pending)
    {rounds : Nat} (consistent : s.Consistent)
    (overdue : s.ackTimer.isSome → ∃ slot rest, s.maintBuf = slot :: rest ∧ slot.Due s.now)
    (ran : agent.maintBufTimeout setTimeout rounds s = .ok s') : s'.Pending := by
  cases maintBufTimeout_cases ran with
  | pending pending same =>
      subst same
      -- the first entry is due, and the timer was set for it
      obtain ⟨slot, rest, first, due⟩ := overdue pending
      obtain ⟨expires, set⟩ := Option.isSome_iff_exists.mp pending
      have soon : expires ≤ slot.key + usecs 1 :=
        consistent.punctual expires set slot (by simp [first]) due
      intro _
      refine ⟨expires, set, ?_⟩
      intro other member
      have least : slot.key ≤ other.key := consistent.ordered.first_key first other member
      exact soon.trans (Int.add_le_add_right least _)
  | empty none same =>
      subst same
      exact fun nonempty => absurd none nonempty
  | early _ _ ran => exact pends consistent ran
  | linkBreak idle first due exhausted ran =>
      obtain ⟨s₁, changes, set⟩ := linkBreak_sets sets idle first due exhausted ran
      exact pends (changes.consistent consistent) set
  | retransmit idle first due left ran =>
      exact pends (consistent.step (.retransmit idle first due left)) ran

theorem maintBufSetTimeout_pending {depth : Nat} (consistent : s.Consistent)
    (ran : agent.maintBufSetTimeout depth s = .ok s') : s'.Pending := by
  induction depth generalizing s s' with
  | zero => cases ran
  | succ depth ih =>
      rcases maintBufSetTimeout_cases ran with
        ⟨none, rfl⟩ | ⟨slot, rest, first, ⟨due, ran⟩ | ⟨-, rfl⟩⟩
      · exact fun nonempty => absurd none nonempty
      · exact maintBufTimeout_pending maintBufSetTimeout_changes ih consistent
          (fun _ => ⟨slot, rest, first, due⟩) ran
      · exact consistent.ordered.pending_setTimer first

theorem maintBufAdd_pending {depth : Nat} {dp : DsrPkt} (consistent : s.Consistent)
    (pending : s.Pending)
    (ran : agent.maintBufAdd (agent.maintBufSetTimeout depth) dp s = .ok s') : s'.Pending := by
  rcases maintBufAdd_cases ran with rfl | ⟨neigh, known, ran⟩
  · exact pending
  · exact maintBufSetTimeout_pending (consistent.step (.buffer known)) ran

theorem maintBufSalvage_pending {depth : Nat} {dp : DsrPkt} {leaves : Leave → List Departure}
    (consistent : s.Consistent) (pending : s.Pending)
    (ran : agent.maintBufSalvage (agent.maintBufSetTimeout depth) dp leaves s = .ok s') :
    s'.Pending := by
  obtain ⟨salvaged, -, ran⟩ := bind_ok.mp ran
  cases salvaged with
  | none =>
      cases ran
      exact pending
  | some dp' =>
      refine maintBufAdd_pending ?_ ?_ ran
      · exact ⟨consistent.ordered.of_sublist (.refl _) (Nat.le_refl _),
          consistent.timed.of_sublist rfl (List.Subset.refl _), consistent.punctual⟩
      · exact pending

end MaintAgent

/-! ## Between events -/

namespace MaintState

variable {agent : MaintAgent Cache} {s s' : MaintState Cache}

theorem Consistent.deleteAll (consistent : s.Consistent) {gone : Slot → Bool} {how : Leave} :
    (s.deleteAll gone how).Consistent :=
  ⟨consistent.ordered.of_sublist List.filter_sublist (Nat.le_refl _),
    consistent.timed.of_sublist rfl List.filter_sublist.subset, nofun⟩

theorem Consistent.begins {event : MaintEvent Cache} (consistent : s.Consistent)
    (begins : MaintAgent.Begins agent event s s') : s'.Consistent := by
  have timed : s'.Timed := consistent.timed.begins begins
  cases begins with
  | other => exact consistent
  | @acknowledged ack mine =>
      have deleted : (s.deleteAll (MaintAgent.covers ack.src ack.id) .acknowledged).Consistent :=
        consistent.deleteAll
      cases acknowledge_cases ack.src ack.id s with
      | inl same => exact same ▸ deleted
      | inr updated =>
          obtain ⟨neigh, rtt, -, same⟩ := updated
          rw [same] at timed ⊢
          exact ⟨deleted.ordered.of_sublist (.refl _) (Nat.le_refl _), timed, nofun⟩
  | linkAcknowledged => exact consistent.deleteAll
  | routeError => exact consistent.deleteAll
  | failed cache reported names =>
      exact ⟨consistent.ordered.of_sublist (.refl _) (Nat.le_refl _), timed, consistent.punctual⟩
  | neighbor =>
      exact ⟨consistent.ordered.of_sublist (.refl _) (Nat.le_refl _), timed, consistent.punctual⟩
  | timer => exact ⟨consistent.ordered.of_sublist (.refl _) (Nat.le_refl _), timed, nofun⟩

structure Settled (s : MaintState Cache) : Prop where
  ordered : s.Ordered
  timed : s.Timed
  pending : s.Pending

namespace Settled

theorem initial (cache : Cache) : (MaintState.initial cache).Settled :=
  ⟨⟨.nil, by simp [MaintState.initial], Nat.zero_le _, by simp [MaintState.initial], .nil⟩,
    ⟨by simp [MaintState.initial], by simp [MaintState.initial]⟩, fun nonempty => absurd rfl nonempty⟩

theorem consistent (settled : s.Settled) (time : SimTime) : (s.at time).Consistent := by
  refine ⟨settled.ordered.of_sublist (.refl _) (Nat.le_refl _),
    settled.timed.of_sublist rfl (List.Subset.refl _), ?_⟩
  intro expires set slot member due
  obtain ⟨other, set', soon⟩ := settled.pending (List.ne_nil_of_mem member)
  have same : some other = some expires := set'.symm.trans set
  cases same
  exact soon slot member

theorem perform {depth : Nat} {event : MaintEvent Cache} {time : SimTime} (settled : s.Settled)
    (ran : agent.perform depth event (s.at time) = .ok s') : s'.Pending := by
  have consistent : (s.at time).Consistent := settled.consistent time
  have pending : (s.at time).Pending := settled.pending
  cases event with
  | omnetXmit dp => exact MaintAgent.maintBufAdd_pending consistent pending ran
  | ackOptRecv ack =>
      by_cases mine : ack.dst = agent.myaddr
      · rw [MaintAgent.perform, if_neg (not_not.mpr mine)] at ran
        exact MaintAgent.maintBufSetTimeout_pending (consistent.begins (.acknowledged mine)) ran
      · rw [MaintAgent.perform, if_pos mine] at ran
        cases ran
        exact pending
  | rerrOptRecv opt =>
      by_cases unreachable : opt.errType = nodeUnreachable
      · rw [MaintAgent.perform, if_pos unreachable] at ran
        obtain ⟨s₁, deleted, ran⟩ := bind_ok.mp ran
        cases ran
        have pending₁ : s₁.Pending :=
          MaintAgent.maintBufSetTimeout_pending consistent.deleteAll deleted
        exact pending₁
      · rw [MaintAgent.perform, if_neg unreachable] at ran
        cases ran
        exact pending
  | packetLinkAck nxtHop =>
      exact MaintAgent.maintBufSetTimeout_pending consistent.deleteAll ran
  | packetFailed dp nxtHop =>
      obtain ⟨s₁, sent, salvaged⟩ := bind_ok.mp ran
      obtain ⟨cache, reported, rfl, names⟩ := MaintAgent.dsrRerrSend_ok sent
      have begun : MaintAgent.Begins agent (.packetFailed dp nxtHop) (s.at time) _ :=
        .failed cache reported names
      exact MaintAgent.maintBufSalvage_pending (consistent.begins begun) pending salvaged
  | neighTblAdd addr =>
      cases ran
      exact pending
  | routesChange cache =>
      cases ran
      exact pending
  | ackTimer =>
      have stopped : ({ s.at time with ackTimer := none } : MaintState Cache).Consistent :=
        ⟨consistent.ordered.of_sublist (.refl _) (Nat.le_refl _),
          consistent.timed.of_sublist rfl (List.Subset.refl _), by simp⟩
      exact MaintAgent.maintBufTimeout_pending MaintAgent.maintBufSetTimeout_changes
        MaintAgent.maintBufSetTimeout_pending stopped (by simp) ran

theorem step {event : MaintEvent Cache} {time : SimTime} (settled : s.Settled)
    (happens : agent.Step s time event s') : s'.Settled := by
  obtain ⟨depth, ran⟩ := happens.performed
  obtain ⟨s₁, begun, changes⟩ := MaintAgent.perform_changes ran
  have consistent : s'.Consistent :=
    changes.consistent ((settled.consistent time).begins begun)
  exact ⟨consistent.ordered, consistent.timed, settled.perform ran⟩

end Settled

end MaintState

end SyncFanet.Dsr
