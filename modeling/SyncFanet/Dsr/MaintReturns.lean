import SyncFanet.Dsr.SalvageLoop

/-!
# Timeouts that return

An entry that was sent as often as it may be takes the others for its next hop along. Those
that are due may be handled inside, by another call of `maint_buf_timeout`, which takes them
out of the buffer.
-/

set_option autoImplicit false

namespace SyncFanet.Dsr

variable {Cache : Type}

open MaintState

/-! ## Timeouts -/

/-- The due entries of a buffer can be handled. Those that were sent as often as they may be
are all for one next hop; of the due entries behind one of them at most the last is for that
next hop; and the packets for it can be salvaged and reported. -/
structure MaintAgent.Expires (agent : MaintAgent Cache) (now : SimTime) (buf : List Slot) :
    Prop where
  one : ∀ slot ∈ dueAmong now buf, ∀ other ∈ dueAmong now buf, agent.Exhausted slot →
    agent.Exhausted other → slot.entry.nxtHop = other.entry.nxtHop
  last : ∀ slot other third, [slot, other, third].Sublist (dueAmong now buf) →
    agent.Exhausted slot → slot.entry.nxtHop ≠ other.entry.nxtHop
  reports : ∀ slot ∈ dueAmong now buf, agent.Exhausted slot →
    slot.entry.dp.Reports agent.myaddr
  separates : ∀ slot ∈ dueAmong now buf, agent.Exhausted slot → ∀ other ∈ buf,
    other.entry.nxtHop = slot.entry.nxtHop → ∀ opt ∈ other.entry.dp.srtOpt,
      other.entry.dp.Separates opt

/-- The rounds in which the loop salvages all entries of a buffer: behind each that it takes
out, it goes over the others at most once. -/
def salvageRounds : Nat :=
  maxMaintBuff * (maxMaintBuff + 1) + maxMaintBuff

namespace MaintAgent

variable {agent : MaintAgent Cache} {offers : Cache → InAddr → List InAddr → Prop}
  {s s' : MaintState Cache} {depth : Nat}

variable {slot : Slot} {rest : List Slot}

/-- Fewer entries are due, and the new ones are not for the next hop of such an entry. -/
theorem Expires.of_fewer {now : SimTime} {buf buf' : List Slot} (expires : agent.Expires now buf)
    (fewer : (dueAmong now buf').Sublist (dueAmong now buf))
    (old : ∀ slot ∈ dueAmong now buf', agent.Exhausted slot → ∀ other ∈ buf',
      other.entry.nxtHop = slot.entry.nxtHop → ∃ before ∈ buf,
        before.entry.nxtHop = other.entry.nxtHop ∧ before.entry.dp = other.entry.dp) :
    agent.Expires now buf' := by
  constructor
  · exact fun slot member other among =>
      expires.one slot (fewer.subset member) other (fewer.subset among)
  · exact fun slot other third three => expires.last slot other third (three.trans fewer)
  · exact fun slot member => expires.reports slot (fewer.subset member)
  · intro slot member exhausted other among same
    obtain ⟨before, known, hop, dp⟩ := old slot member exhausted other among same
    rw [← dp]
    exact expires.separates slot (fewer.subset member) exhausted before known (hop.trans same)

variable (lawful : agent.routes.Lawful offers)

include lawful

/-- The entries behind one whose link breaks, with the link deleted and reported. -/
theorem Expires.looping (guarded : Guarded offers s) (alert : s.Alert)
    (expires : agent.Expires s.now s.maintBuf) (first : s.maintBuf = slot :: rest)
    (due : slot.Due s.now) (exhausted : agent.Exhausted slot)
    (sent : agent.dsrRerrSend slot.entry.dp slot.entry.nxtHop
      (agent.deleteLink slot.entry.nxtHop { s with maintBuf := rest }) = .ok s') :
    agent.Looping offers slot.entry.nxtHop s' ∧ s'.maintBuf = rest ∧ s'.now = s.now := by
  have kept : rest.Sublist s.maintBuf := by
    rw [first]
    exact List.sublist_cons_self slot rest
  have removed : Tidies offers s { s with maintBuf := rest } :=
    .of_sublist guarded kept rfl rfl fun _ _ offered => offered
  have deleted : Guarded offers (agent.deleteLink slot.entry.nxtHop { s with maintBuf := rest }) :=
    removed.guarded.deleteLink lawful slot.entry.nxtHop
  have reported := (dsrRerrSend_tidies lawful deleted sent).1
  obtain ⟨cache, addrs, rfl, -⟩ := dsrRerrSend_ok sent
  have firstDue : slot ∈ dueAmong s.now s.maintBuf := by
    rw [first, dueAmong_cons due]
    exact List.mem_cons_self
  have behind {other : Slot} (member : other ∈ rest) (due : other.Due s.now) :
      other ∈ dueAmong s.now s.maintBuf :=
    mem_dueAmong.mpr ⟨kept.subset member, due⟩
  refine ⟨⟨reported.guarded, ⟨reported.guarded.ordered, ?_, ?_⟩, List.mem_cons_self, ?_, ?_, ?_⟩,
    rfl, rfl⟩
  · exact alert.timed.of_sublist rfl kept.subset
  · exact fun other member => alert.stopped other (kept.subset member)
  · exact fun other member =>
      expires.separates slot firstDue exhausted other (kept.subset member)
  · exact fun other member due used =>
      expires.one other (behind member due) slot firstDue used exhausted
  · apply List.pairwise_iff_forall_sublist.mpr
    intro other third pair same
    refine expires.last slot other third ?_ exhausted same.symm
    rw [first, dueAmong_cons due]
    exact pair.cons_cons slot

/-- The first packet of a link break is salvaged. Where the timeouts are looked for, the loop
has not begun, and fewer entries are due. -/
theorem Looping.salvageFirst (leaves : Leave → List Departure) {nxtHop : InAddr}
    (looping : agent.Looping offers nxtHop s) (expires : agent.Expires s.now s.maintBuf)
    (room : s.maintBuf.length < maxMaintBuff)
    (separates : ∀ opt ∈ slot.entry.dp.srtOpt, slot.entry.dp.Separates opt)
    (returns : ∀ {t : MaintState Cache}, Guarded offers t → t.Alert →
      agent.Expires t.now t.maintBuf → dueAmong t.now t.maintBuf = dueAmong s.now s.maintBuf →
      ∃ t', agent.maintBufSetTimeout depth t = .ok t') :
    ∃ s', agent.maintBufSalvage (agent.maintBufSetTimeout depth) slot.entry.dp leaves s = .ok s' ∧
      agent.Looping offers nxtHop s' := by
  obtain ⟨cache, left, tidies, ran | ⟨dp', neigh, unbroken, known, ran⟩⟩ :=
    maintBufSalvage_calls lawful (agent.maintBufSetTimeout depth) slot.entry.dp leaves
      looping.guarded separates
  · exact ⟨_, ran, looping.salvaged lawful ran (.inl rfl)⟩
  · let searched : MaintState Cache := { s with cache := cache, left := left }
    let buffered : MaintState Cache := searched.buffer agent.maintHoldoffTime dp' neigh
    let created : Slot := searched.maintEntryCreate dp' neigh
      (searched.asks agent.maintHoldoffTime neigh)
    have added : Change agent searched buffered := .buffer known
    have alert : buffered.Alert := looping.alert.of_cache.change added
    have buf : buffered.maintBuf = insertSlot created s.maintBuf :=
      maintBuf_buffer room
    have later : ¬created.Due s.now := not_due_of_timeout (looping.alert.timed.long known)
    have sameDue : dueAmong s.now buffered.maintBuf = dueAmong s.now s.maintBuf := by
      rw [buf, dueAmong_insertSlot later]
    have expires₁ : agent.Expires s.now buffered.maintBuf := by
      apply expires.of_fewer (sameDue ▸ .refl _)
      intro slot member exhausted other among same
      rw [sameDue] at member
      obtain ⟨old, due⟩ := mem_dueAmong.mp member
      have broken : slot.entry.nxtHop = nxtHop := looping.exhausted slot old due exhausted
      rw [buf] at among
      cases mem_insertSlot.mp among with
      | inl new =>
          have hop : dp'.nxtHop = nxtHop := by
            rw [← broken, ← same, new]
            rfl
          exact absurd looping.declared (hop ▸ unbroken)
      | inr before => exact ⟨other, before, rfl, rfl⟩
    have begun : Tidies offers searched buffered := .buffer tidies.guarded _ neigh unbroken
    obtain ⟨s', returned⟩ := returns begun.guarded alert expires₁ sameDue
    refine ⟨s', ran.trans returned, looping.salvaged lawful (ran.trans returned) (.inr ?_)⟩
    exact maintBufSetTimeout_quiets alert returned

omit lawful in
/-- The loop begins with the first entry that is left. -/
theorem Looping.iterating {nxtHop : InAddr} (looping : agent.Looping offers nxtHop s)
    (deep : salvageRounds < depth) :
    agent.Iterating offers nxtHop depth (s.maintBuf.head?.map Slot.node) s := by
  refine ⟨looping, ?_, ?_, ?_⟩
  · exact looping.guarded.passed (List.nil_append _).symm fun _ member =>
      absurd member List.not_mem_nil
  · intro node member
    obtain ⟨other, first, rfl⟩ := Option.mem_map.mp member
    exact ⟨other, List.mem_of_mem_head? first, rfl⟩
  · intro node _
    have few := looping.guarded.ordered.bounded
    have waiting : s.waitingFor nxtHop ≤ maxMaintBuff := List.countP_le_length.trans few
    have ahead : (s.maintBuf.dropWhile fun slot => slot.node ≠ node).length ≤ maxMaintBuff :=
      (List.dropWhile_sublist _).length_le.trans few
    have rounds := Nat.mul_le_mul_right (maxMaintBuff + 1) waiting
    unfold salvageRounds at deep
    omega

theorem linkBreak_returns (guarded : Guarded offers s) (alert : s.Alert)
    (expires : agent.Expires s.now s.maintBuf) (first : s.maintBuf = slot :: rest)
    (due : slot.Due s.now) (exhausted : agent.Exhausted slot) (deep : salvageRounds < depth)
    (returns : ∀ {t : MaintState Cache}, Guarded offers t → t.Alert →
      agent.Expires t.now t.maintBuf →
      (dueAmong t.now t.maintBuf).length < (dueAmong s.now s.maintBuf).length →
      ∃ t', agent.maintBufSetTimeout depth t = .ok t') :
    ∃ s', agent.linkBreak (agent.maintBufSetTimeout depth) depth slot
      { s with maintBuf := rest } = .ok s' := by
  have firstDue : slot ∈ dueAmong s.now s.maintBuf := by
    rw [first, dueAmong_cons due]
    exact List.mem_cons_self
  obtain ⟨s₁, sent⟩ := dsrRerrSend_returns (expires.reports slot firstDue exhausted)
    slot.entry.nxtHop (agent.deleteLink slot.entry.nxtHop { s with maintBuf := rest })
  obtain ⟨looping₁, buf₁, now₁⟩ :=
    expires.looping lawful guarded alert first due exhausted sent
  have bounded := guarded.ordered.bounded
  rw [first, List.length_cons] at bounded
  have room : s₁.maintBuf.length < maxMaintBuff := by
    rw [buf₁]
    exact bounded
  have expires₁ : agent.Expires s₁.now s₁.maintBuf := by
    rw [buf₁, now₁]
    refine expires.of_fewer ?_ fun _ _ _ other among _ => ⟨other, ?_, rfl, rfl⟩
    · rw [first, dueAmong_cons due]
      exact List.sublist_cons_self slot _
    · rw [first]
      exact List.mem_cons_of_mem slot among
  obtain ⟨s₂, salvaged, looping₂⟩ := looping₁.salvageFirst lawful
    (fun how => [slot.leaves how]) expires₁ room
    (expires.separates slot firstDue exhausted slot (mem_dueAmong.mp firstDue).1 rfl)
    fun {t} held alert expires same => returns held alert expires (by
      rw [same, buf₁, now₁, first, dueAmong_cons due]
      exact Nat.lt_succ_self _)
  have iterating := looping₂.iterating deep
  have deep' : maxMaintBuff < depth := by
    unfold salvageRounds at deep
    omega
  obtain ⟨s₃, looped, looping₃⟩ := salvageLoop_returns lawful deep' iterating
  have clear : s₃.Clear slot.entry.nxtHop :=
    (salvageLoop_tidies lawful (maintBufSetTimeout_tidies lawful) looping₂.guarded
      looping₂.declared iterating.passed looped).2
  have few : (dueAmong s₃.now s₃.maintBuf).length < depth :=
    (List.length_filter_le _ _).trans_lt (looping₃.guarded.ordered.bounded.trans_lt deep')
  obtain ⟨s', returned, -⟩ := maintBufSetTimeout_retransmits looping₃.alert
    (fun other member due used => clear other member (looping₃.exhausted other member due used))
    few
  exact ⟨s', bind_ok.mpr ⟨s₁, sent, bind_ok.mpr ⟨s₂, salvaged,
    bind_ok.mpr ⟨s₃, looped, returned⟩⟩⟩⟩

theorem maintBufTimeout_returns (guarded : Guarded offers s) (alert : s.Alert)
    (expires : agent.Expires s.now s.maintBuf) (first : s.maintBuf = slot :: rest)
    (due : slot.Due s.now) (deep : salvageRounds < depth)
    (returns : ∀ {t : MaintState Cache}, Guarded offers t → t.Alert →
      agent.Expires t.now t.maintBuf →
      (dueAmong t.now t.maintBuf).length < (dueAmong s.now s.maintBuf).length →
      ∃ t', agent.maintBufSetTimeout depth t = .ok t') :
    ∃ s', agent.maintBufTimeout (agent.maintBufSetTimeout depth) depth s = .ok s' := by
  have idle : s.ackTimer = none := alert.stopped slot (by simp [first]) due
  rw [maintBufTimeout_due idle first due]
  by_cases exhausted : slot.entry.rexmt + 1 ≥ agent.maxMaintRexmt
  · rw [if_pos exhausted]
    exact linkBreak_returns lawful guarded alert expires first due exhausted deep returns
  · rw [if_neg exhausted]
    obtain ⟨sent, waits, hop, dp, buf⟩ := retransmit_again alert first
    have sameDue : dueAmong s.now (s.retransmit slot rest).maintBuf = dueAmong s.now rest := by
      rw [buf, dueAmong_insertSlot waits]
    have again : Tidies offers s (s.retransmit slot rest) := .retransmit guarded first
    have alert₁ : (s.retransmit slot rest).Alert :=
      alert.change (.retransmit idle first due (Nat.lt_of_not_le exhausted))
    have fewer : (dueAmong s.now (s.retransmit slot rest).maintBuf).length <
        (dueAmong s.now s.maintBuf).length := by
      rw [sameDue, first, dueAmong_cons due]
      exact Nat.lt_succ_self _
    refine returns again.guarded alert₁ (expires.of_fewer ?_ ?_) fewer
    · rw [sameDue, first, dueAmong_cons due]
      exact List.sublist_cons_self slot _
    · intro _ _ _ other among _
      rw [buf] at among
      cases mem_insertSlot.mp among with
      | inl same => exact ⟨slot, by simp [first], by rw [same, hop], by rw [same, dp]⟩
      | inr old => exact ⟨other, by simp [first, old], rfl, rfl⟩

theorem maintBufSetTimeout_returns (guarded : Guarded offers s) (alert : s.Alert)
    (expires : agent.Expires s.now s.maintBuf)
    (enough : salvageRounds + (dueAmong s.now s.maintBuf).length < depth) :
    ∃ s', agent.maintBufSetTimeout depth s = .ok s' := by
  induction depth generalizing s with
  | zero => exact absurd enough (Nat.not_lt_zero _)
  | succ depth ih =>
      by_cases quiet : ∀ slot ∈ s.maintBuf, ¬slot.Due s.now
      · exact ⟨s.arm, maintBufSetTimeout_quiet depth quiet⟩
      obtain ⟨slot, rest, first, due⟩ := alert.ordered.first_due quiet
      have some : 0 < (dueAmong s.now s.maintBuf).length := by
        rw [first, dueAmong_cons due]
        exact Nat.succ_pos _
      rw [maintBufSetTimeout_due first due]
      refine maintBufTimeout_returns lawful guarded alert expires first due (by omega) ?_
      exact fun held alert expires fewer => ih held alert expires (by omega)

/-- The handler of the timer. -/
theorem expired_returns (guarded : Guarded offers s) (alert : s.Alert)
    (expires : agent.Expires s.now s.maintBuf)
    (enough : salvageRounds + (dueAmong s.now s.maintBuf).length < depth)
    (idle : s.ackTimer = none) :
    ∃ s', agent.maintBufTimeout (agent.maintBufSetTimeout depth) depth s = .ok s' := by
  by_cases quiet : ∀ slot ∈ s.maintBuf, ¬slot.Due s.now
  · obtain ⟨rounds, rfl⟩ : ∃ rounds, depth = rounds + 1 := Nat.exists_eq_add_one.mpr (by omega)
    unfold maintBufTimeout
    simp only [idle, Option.isSome_none, Bool.false_eq_true, if_false]
    cases first : s.maintBuf with
    | nil => exact ⟨s, rfl⟩
    | cons slot rest =>
        have waits : ¬slot.Due s.now := quiet slot (by simp [first])
        simp only [waits, not_false_eq_true, if_true]
        exact ⟨s.arm, maintBufSetTimeout_quiet rounds quiet⟩
  · obtain ⟨slot, rest, first, due⟩ := alert.ordered.first_due quiet
    refine maintBufTimeout_returns lawful guarded alert expires first due (by omega) ?_
    exact fun held alert expires fewer =>
      maintBufSetTimeout_returns lawful held alert expires (by omega)

omit lawful in
/-- While the timer is set, or no entry is due, a call comes to an end at once. -/
theorem maintBufSetTimeout_calm (calm : s.ackTimer.isSome ∨ ∀ slot ∈ s.maintBuf, ¬slot.Due s.now)
    (depth : Nat) : ∃ s', agent.maintBufSetTimeout (depth + 1) s = .ok s' := by
  cases calm with
  | inl set =>
      rw [maintBufSetTimeout]
      cases s.maintBuf with
      | nil => exact ⟨s, rfl⟩
      | cons slot rest =>
          by_cases due : slot.Due s.now
          · exact ⟨s, by simp only [due, if_true, maintBufTimeout, set]⟩
          · exact ⟨_, if_neg due⟩
  | inr quiet => exact ⟨s.arm, maintBufSetTimeout_quiet depth quiet⟩

end MaintAgent

end SyncFanet.Dsr
