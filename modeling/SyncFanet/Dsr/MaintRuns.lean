import Mathlib.Logic.Relation
import SyncFanet.Dsr.MaintBuffer
import SyncFanet.Library.Fold

/-!
# Runs of the maintenance functions

The events that reach the maintenance buffer, in the order of their times, and what the
calls inside an event can change. An invariant of the changes is an invariant of every
nesting of `maint_buf_timeout` and `maint_buf_set_timeout`.
-/

set_option autoImplicit false

namespace SyncFanet.Dsr

variable {Cache : Type}

/-! ## Events -/

/-- An event of an agent: a packet to transmit, an acknowledgement or a route error
received, the acknowledgement or failure of a transmission that the link layer reports, a
new neighbour, anything that changes the route cache, or the timer. -/
inductive MaintEvent (Cache : Type) where
  | omnetXmit (dp : DsrPkt)
  | ackOptRecv (ack : DsrAckOpt)
  | rerrOptRecv (opt : DsrRerrOpt)
  | packetLinkAck (nxtHop : InAddr)
  | packetFailed (dp : DsrPkt) (nxtHop : InAddr)
  | neighTblAdd (addr : InAddr)
  | routesChange (cache : Cache)
  | ackTimer

/-- Whether the event is the timer's. -/
def MaintEvent.fires : MaintEvent Cache → Bool
  | .ackTimer => true
  | _ => false

/-- `NODE_UNREACHABLE`. -/
def nodeUnreachable : Nat := 1

namespace MaintAgent

variable (agent : MaintAgent Cache)

def perform (depth : Nat) (event : MaintEvent Cache) (s : MaintState Cache) :
    Except Fault (MaintState Cache) :=
  match event with
  | .omnetXmit dp => agent.maintBufAdd (agent.maintBufSetTimeout depth) dp s
  | .ackOptRecv ack =>
      if ack.dst ≠ agent.myaddr then .ok s
      else maintBufDelAllId (agent.maintBufSetTimeout depth) ack.src ack.id s
  | .rerrOptRecv opt =>
      if opt.errType = nodeUnreachable then
        (maintBufDelAll (agent.maintBufSetTimeout depth) opt.errDst .discarded s).bind fun s =>
          .ok { s with cache :=
            agent.routes.deleteLink s.now agent.myaddr opt.errSrc opt.info s.cache }
      else .ok s
  | .packetLinkAck nxtHop =>
      maintBufDelAll (agent.maintBufSetTimeout depth) nxtHop .acknowledged s
  | .packetFailed dp nxtHop =>
      (agent.dsrRerrSend dp nxtHop (agent.deleteLink nxtHop s)).bind fun s =>
        agent.maintBufSalvage (agent.maintBufSetTimeout depth) { dp with nxtHop := nxtHop }
          (fun _ => []) s
  | .neighTblAdd addr => .ok { s with neighborMap := Dsr.neighTblAdd s.neighborMap addr }
  | .routesChange cache => .ok { s with cache := cache }
  | .ackTimer =>
      agent.maintBufTimeout (agent.maintBufSetTimeout depth) depth { s with ackTimer := none }

end MaintAgent

/-- The state at the time of an event, with nothing declared in it yet. -/
def MaintState.at (s : MaintState Cache) (time : SimTime) : MaintState Cache :=
  { s with now := time, broken := [], reported := [] }

/-- An event at its time: the timer is an event at the time it was set to, and no event
comes later than that while it is set. -/
structure MaintAgent.Step (agent : MaintAgent Cache) (s : MaintState Cache) (time : SimTime)
    (event : MaintEvent Cache) (s' : MaintState Cache) : Prop where
  later : s.now ≤ time
  pending : ∀ expires ∈ s.ackTimer, time ≤ expires
  fired : event.fires → s.ackTimer = some time
  performed : ∃ depth, agent.perform depth event (s.at time) = .ok s'

/-- The state of an agent when it starts, at time 0. -/
def MaintState.initial (cache : Cache) : MaintState Cache where
  now := 0
  maintBuf := []
  ackTimer := none
  neighborMap := ∅
  cache := cache
  nodes := 0
  packets := 0
  left := []
  requests := fun _ => 0
  broken := []
  reported := []

/-- The states that an agent reaches. -/
inductive MaintAgent.Reached (agent : MaintAgent Cache) : MaintState Cache → Prop where
  | start (cache : Cache) : Reached agent (.initial cache)
  | step {s s' : MaintState Cache} {time : SimTime} {event : MaintEvent Cache}
      (before : Reached agent s) (happens : agent.Step s time event s') : Reached agent s'

/-- A run through events at their times, each of which is allowed in its state and before
the events to come. -/
inductive MaintAgent.Run (agent : MaintAgent Cache)
    (allowed : MaintState Cache → SimTime → MaintEvent Cache → MaintState Cache →
      List (SimTime × MaintEvent Cache) → Prop) :
    MaintState Cache → List (SimTime × MaintEvent Cache) → MaintState Cache → Prop where
  | stop (s : MaintState Cache) : Run agent allowed s [] s
  | step {s s₁ s' : MaintState Cache} {time : SimTime} {event : MaintEvent Cache}
      {events : List (SimTime × MaintEvent Cache)} (happens : agent.Step s time event s₁)
      (allows : allowed s time event s₁ events) (rest : Run agent allowed s₁ events s') :
      Run agent allowed s ((time, event) :: events) s'

/-! ## Changes inside an event -/

/-- What a call of the maintenance functions changes, one entry at a time. -/
inductive Change (agent : MaintAgent Cache) : MaintState Cache → MaintState Cache → Prop where
  | setTimer {s : MaintState Cache} {slot : Slot} {rest : List Slot}
      (first : s.maintBuf = slot :: rest) (waits : ¬slot.Due s.now) :
      Change agent s (s.setTimer slot.key)
  | retransmit {s : MaintState Cache} {slot : Slot} {rest : List Slot}
      (idle : s.ackTimer = none) (first : s.maintBuf = slot :: rest) (due : slot.Due s.now)
      (again : slot.entry.rexmt + 1 < agent.maxMaintRexmt) :
      Change agent s (s.retransmit slot rest)
  | linkBreak {s : MaintState Cache} {slot : Slot} {rest : List Slot} {how : Leave}
      (cache : Cache) (reported : List InAddr)
      (idle : s.ackTimer = none) (first : s.maintBuf = slot :: rest) (due : slot.Due s.now)
      (exhausted : agent.maxMaintRexmt ≤ slot.entry.rexmt + 1)
      (given : how = .salvaged ∨ how = .dropped)
      (names : ∀ addr ∈ reported, addr = slot.entry.nxtHop ∨ addr ∈ s.reported) :
      Change agent s { s with
        maintBuf := rest
        cache := cache
        left := s.left ++ [slot.leaves how]
        broken := slot.entry.nxtHop :: s.broken
        reported := reported }
  | salvage {s : MaintState Cache} {before after : List Slot} {slot : Slot} {how : Leave}
      (cache : Cache)
      (among : s.maintBuf = before ++ slot :: after) (declared : slot.entry.nxtHop ∈ s.broken)
      (given : how = .salvaged ∨ how = .dropped) :
      Change agent s { s with
        maintBuf := before ++ after
        cache := cache
        left := s.left ++ [slot.leaves how] }
  | buffer {s : MaintState Cache} {dp : DsrPkt} {neigh : Neighbor}
      (known : s.neighborMap.lookup dp.nxtHop = some neigh) :
      Change agent s (s.buffer agent.maintHoldoffTime dp neigh)
  | routes {s : MaintState Cache} (cache : Cache) : Change agent s { s with cache := cache }

namespace MaintAgent

variable {agent : MaintAgent Cache}

/-- A call is made of changes. -/
def Changes (agent : MaintAgent Cache) : MaintState Cache → MaintState Cache → Prop :=
  Relation.ReflTransGen (Change agent)

theorem Changes.keeps {invariant : MaintState Cache → Prop} {s s' : MaintState Cache}
    (changes : agent.Changes s s') (holds : invariant s)
    (step : ∀ {s s'}, invariant s → Change agent s s' → invariant s') : invariant s' := by
  induction changes with
  | refl => exact holds
  | tail _ last ih => exact step ih last

theorem Change.broken {s s' : MaintState Cache} (change : Change agent s s') {addr : InAddr}
    (declared : addr ∈ s.broken) : addr ∈ s'.broken := by
  cases change with
  | linkBreak cache reported => exact List.mem_cons_of_mem _ declared
  | setTimer first waits => exact declared
  | retransmit idle first due again => exact declared
  | salvage cache among known given => exact declared
  | buffer known => exact declared
  | routes cache => exact declared

theorem Changes.broken {s s' : MaintState Cache} (changes : agent.Changes s s') {addr : InAddr}
    (declared : addr ∈ s.broken) : addr ∈ s'.broken :=
  changes.keeps declared fun holds change => Change.broken change holds

theorem erase_at {buf later : List Slot} {node : Nat} {slot : Slot}
    (position : (buf.dropWhile fun slot => slot.node ≠ node) = slot :: later) :
    slot.node = node ∧ ∃ before, buf = before ++ slot :: later ∧
      (buf.eraseP fun other => other.node = node) = before ++ later := by
  induction buf with
  | nil => simp at position
  | cons first rest ih =>
      by_cases here : first.node = node
      · simp only [List.dropWhile_cons, here, ne_eq, not_true_eq_false, decide_false,
          Bool.false_eq_true, if_false, List.cons.injEq] at position
        obtain ⟨rfl, rfl⟩ := position
        exact ⟨here, [], rfl, by simp [here]⟩
      · simp only [List.dropWhile_cons, here, ne_eq, not_false_eq_true, decide_true,
          if_true] at position
        obtain ⟨there, before, whole, out⟩ := ih position
        refine ⟨there, first :: before, by rw [whole]; rfl, ?_⟩
        rw [List.eraseP_cons_of_neg (by simpa using here), out]
        rfl

theorem dsrRerrSend_ok {s s' : MaintState Cache} {dp : DsrPkt} {unrAddr : InAddr}
    (ran : agent.dsrRerrSend dp unrAddr s = .ok s') :
    ∃ cache reported, s' = { s with cache := cache, reported := reported } ∧
      ∀ addr ∈ reported, addr = unrAddr ∨ addr ∈ s.reported := by
  unfold dsrRerrSend at ran
  cases route : dp.srtOpt with
  | none =>
      simp only [route] at ran
      cases ran
      exact ⟨s.cache, s.reported, rfl, fun _ member => .inr member⟩
  | some opt =>
      simp only [route] at ran
      by_cases own : dp.src = agent.myaddr
      · simp only [own, if_true] at ran
        cases ran
        exact ⟨s.cache, s.reported, rfl, fun _ member => .inr member⟩
      · simp only [own, if_false] at ran
        obtain ⟨dst, -, ran⟩ := bind_ok.mp ran
        cases ran
        refine ⟨_, _, rfl, ?_⟩
        intro addr member
        split at member
        · exact List.mem_cons.mp member
        · exact .inr member

section

variable {setTimeout : MaintState Cache → Except Fault (MaintState Cache)}
  {s s' : MaintState Cache}

variable {rounds : Nat} {dp : DsrPkt}

theorem maintBufAdd_cases (ran : agent.maintBufAdd setTimeout dp s = .ok s') :
    s' = s ∨ ∃ neigh, s.neighborMap.lookup dp.nxtHop = some neigh ∧
      setTimeout (s.buffer agent.maintHoldoffTime dp neigh) = .ok s' := by
  unfold maintBufAdd at ran
  cases asked : dp.hasFlag pktRequestAck with
  | false =>
      simp only [asked, Bool.false_eq_true, if_false] at ran
      exact .inl (Except.ok.inj ran).symm
  | true =>
      simp only [asked, if_true] at ran
      cases known : s.neighborMap.lookup dp.nxtHop with
      | none =>
          simp only [known] at ran
          exact .inl (Except.ok.inj ran).symm
      | some neigh =>
          simp only [known] at ran
          exact .inr ⟨neigh, rfl, ran⟩

/-- What `maint_buf_timeout` comes to. -/
inductive TimedOut (agent : MaintAgent Cache)
    (setTimeout : MaintState Cache → Except Fault (MaintState Cache)) (rounds : Nat)
    (s s' : MaintState Cache) : Prop where
  | pending (set : s.ackTimer.isSome) (same : s' = s)
  | empty (none : s.maintBuf = []) (same : s' = s)
  | early {slot : Slot} {rest : List Slot} (first : s.maintBuf = slot :: rest)
      (early : ¬slot.Due s.now) (ran : setTimeout s = .ok s')
  | linkBreak {slot : Slot} {rest : List Slot} (idle : s.ackTimer = none)
      (first : s.maintBuf = slot :: rest) (due : slot.Due s.now)
      (exhausted : agent.maxMaintRexmt ≤ slot.entry.rexmt + 1)
      (ran : agent.linkBreak setTimeout rounds slot { s with maintBuf := rest } = .ok s')
  | retransmit {slot : Slot} {rest : List Slot} (idle : s.ackTimer = none)
      (first : s.maintBuf = slot :: rest) (due : slot.Due s.now)
      (left : slot.entry.rexmt + 1 < agent.maxMaintRexmt)
      (ran : setTimeout (s.retransmit slot rest) = .ok s')

theorem maintBufTimeout_cases (ran : agent.maintBufTimeout setTimeout rounds s = .ok s') :
    agent.TimedOut setTimeout rounds s s' := by
  unfold maintBufTimeout at ran
  by_cases pending : s.ackTimer.isSome
  · rw [if_pos pending] at ran
    exact .pending pending (Except.ok.inj ran).symm
  rw [if_neg pending] at ran
  have idle : s.ackTimer = none := Option.not_isSome_iff_eq_none.mp pending
  cases first : s.maintBuf with
  | nil =>
      simp only [first] at ran
      exact .empty first (Except.ok.inj ran).symm
  | cons slot rest =>
      simp only [first] at ran
      by_cases due : slot.Due s.now
      · rw [if_neg (not_not.mpr due)] at ran
        by_cases exhausted : slot.entry.rexmt + 1 ≥ agent.maxMaintRexmt
        · rw [if_pos exhausted] at ran
          exact .linkBreak idle first due exhausted ran
        · rw [if_neg exhausted] at ran
          exact .retransmit idle first due (Nat.lt_of_not_le exhausted) ran
      · rw [if_pos due] at ran
        exact .early first due ran

theorem maintBufSetTimeout_cases {depth : Nat}
    (ran : agent.maintBufSetTimeout (depth + 1) s = .ok s') :
    s.maintBuf = [] ∧ s' = s ∨ ∃ slot rest, s.maintBuf = slot :: rest ∧
      (slot.Due s.now ∧
          agent.maintBufTimeout (agent.maintBufSetTimeout depth) depth s = .ok s' ∨
        ¬slot.Due s.now ∧ s' = s.setTimer slot.key) := by
  unfold maintBufSetTimeout at ran
  cases first : s.maintBuf with
  | nil =>
      simp only [first] at ran
      exact .inl ⟨rfl, (Except.ok.inj ran).symm⟩
  | cons slot rest =>
      simp only [first] at ran
      refine .inr ⟨slot, rest, rfl, ?_⟩
      by_cases due : slot.Due s.now
      · rw [if_pos due] at ran
        exact .inl ⟨due, ran⟩
      · rw [if_neg due] at ran
        exact .inr ⟨due, (Except.ok.inj ran).symm⟩

variable (sets : ∀ {s s' : MaintState Cache}, setTimeout s = .ok s' → agent.Changes s s')
include sets

theorem maintBufAdd_changes (ran : agent.maintBufAdd setTimeout dp s = .ok s') :
    agent.Changes s s' := by
  rcases maintBufAdd_cases ran with rfl | ⟨neigh, known, ran⟩
  · exact .refl
  · exact .head (.buffer known) (sets ran)

theorem maintBufSalvage_changes {leaves : Leave → List Departure}
    (ran : agent.maintBufSalvage setTimeout dp leaves s = .ok s') :
    ∃ (how : Leave) (cache : Cache), (how = .salvaged ∨ how = .dropped) ∧
      agent.Changes { s with cache := cache, left := s.left ++ leaves how } s' := by
  obtain ⟨salvaged, -, ran⟩ := bind_ok.mp ran
  cases salvaged with
  | none =>
      cases ran
      exact ⟨.dropped, _, .inr rfl, .refl⟩
  | some dp' => exact ⟨.salvaged, _, .inl rfl, maintBufAdd_changes sets ran⟩

theorem salvageLoop_changes {nxtHop : InAddr} {node : Option Nat} (declared : nxtHop ∈ s.broken)
    (ran : agent.salvageLoop setTimeout nxtHop rounds node s = .ok s') :
    agent.Changes s s' := by
  induction rounds generalizing node s with
  | zero =>
      cases node with
      | none =>
          cases ran
          exact .refl
      | some node => cases ran
  | succ rounds ih =>
      cases node with
      | none =>
          cases ran
          exact .refl
      | some node =>
          cases position : s.maintBuf.dropWhile fun slot => slot.node ≠ node with
          | nil =>
              rw [salvageLoop, position] at ran
              cases ran
          | cons slot later =>
              rw [salvageLoop, position] at ran
              by_cases same : slot.entry.nxtHop = nxtHop
              · simp only [same, if_true] at ran
                obtain ⟨s₁, salvaged, ran⟩ := bind_ok.mp ran
                obtain ⟨how, cache, given, changes⟩ := maintBufSalvage_changes sets salvaged
                obtain ⟨-, before, among, out⟩ := erase_at position
                have first : Change agent s _ := .salvage cache among (same ▸ declared) given
                rw [out] at changes
                have whole : agent.Changes s s₁ := .head first changes
                exact whole.trans (ih (whole.broken declared) ran)
              · simp only [same, if_false] at ran
                exact ih declared ran

theorem linkBreak_sets {slot : Slot} {rest : List Slot} (idle : s.ackTimer = none)
    (first : s.maintBuf = slot :: rest) (due : slot.Due s.now)
    (exhausted : agent.maxMaintRexmt ≤ slot.entry.rexmt + 1)
    (ran : agent.linkBreak setTimeout rounds slot { s with maintBuf := rest } = .ok s') :
    ∃ s₁, agent.Changes s s₁ ∧ setTimeout s₁ = .ok s' := by
  obtain ⟨s₁, sent, then₁⟩ := bind_ok.mp ran
  obtain ⟨s₂, salvaged, then₂⟩ := bind_ok.mp then₁
  obtain ⟨s₃, looped, set⟩ := bind_ok.mp then₂
  obtain ⟨cache, reported, rfl, names⟩ := dsrRerrSend_ok sent
  obtain ⟨how, cache', given, changes⟩ := maintBufSalvage_changes sets salvaged
  have breaks : Change agent s _ := .linkBreak cache' reported idle first due exhausted given names
  have declared : agent.Changes s s₂ := .head breaks changes
  have known : slot.entry.nxtHop ∈ s₂.broken :=
    Changes.broken changes List.mem_cons_self
  exact ⟨s₃, declared.trans (salvageLoop_changes sets known looped), set⟩

theorem maintBufTimeout_changes (ran : agent.maintBufTimeout setTimeout rounds s = .ok s') :
    agent.Changes s s' := by
  cases maintBufTimeout_cases ran with
  | pending _ same =>
      rw [same]
      exact .refl
  | empty _ same =>
      rw [same]
      exact .refl
  | early _ _ ran => exact sets ran
  | linkBreak idle first due exhausted ran =>
      obtain ⟨s₁, changes, set⟩ := linkBreak_sets sets idle first due exhausted ran
      exact changes.trans (sets set)
  | retransmit idle first due left ran =>
      exact .head (.retransmit idle first due left) (sets ran)

end

theorem maintBufSetTimeout_changes {depth : Nat} {s s' : MaintState Cache}
    (ran : agent.maintBufSetTimeout depth s = .ok s') : agent.Changes s s' := by
  induction depth generalizing s s' with
  | zero => cases ran
  | succ depth ih =>
      rcases maintBufSetTimeout_cases ran with
        ⟨-, rfl⟩ | ⟨slot, rest, first, ⟨-, ran⟩ | ⟨early, rfl⟩⟩
      · exact .refl
      · exact maintBufTimeout_changes ih ran
      · exact .single (.setTimer first early)

/-! ## Changes by an event -/

/-- What the handler of an event does before it calls any of the functions above. -/
inductive Begins (agent : MaintAgent Cache) :
    MaintEvent Cache → MaintState Cache → MaintState Cache → Prop where
  | other {event : MaintEvent Cache} {s : MaintState Cache} : Begins agent event s s
  | acknowledged {ack : DsrAckOpt} {s : MaintState Cache} (mine : ack.dst = agent.myaddr) :
      Begins agent (.ackOptRecv ack) s (maintBufAcknowledge ack.src ack.id s)
  | linkAcknowledged {nxtHop : InAddr} {s : MaintState Cache} :
      Begins agent (.packetLinkAck nxtHop) s
        (s.deleteAll (fun slot => slot.entry.nxtHop = nxtHop) .acknowledged)
  | routeError {opt : DsrRerrOpt} {s : MaintState Cache} :
      Begins agent (.rerrOptRecv opt) s
        (s.deleteAll (fun slot => slot.entry.nxtHop = opt.errDst) .discarded)
  | failed {dp : DsrPkt} {nxtHop : InAddr} {s : MaintState Cache} (cache : Cache)
      (reported : List InAddr) (names : ∀ addr ∈ reported, addr = nxtHop ∨ addr ∈ s.reported) :
      Begins agent (.packetFailed dp nxtHop) s
        { s with cache := cache, broken := nxtHop :: s.broken, reported := reported }
  | neighbor {addr : InAddr} {s : MaintState Cache} :
      Begins agent (.neighTblAdd addr) s
        { s with neighborMap := Dsr.neighTblAdd s.neighborMap addr }
  | timer {s : MaintState Cache} : Begins agent .ackTimer s { s with ackTimer := none }

theorem perform_changes {depth : Nat} {event : MaintEvent Cache} {s s' : MaintState Cache}
    (ran : agent.perform depth event s = .ok s') :
    ∃ s₁, Begins agent event s s₁ ∧ agent.Changes s₁ s' := by
  have sets {s s' : MaintState Cache} (ran : agent.maintBufSetTimeout depth s = .ok s') :
      agent.Changes s s' := maintBufSetTimeout_changes ran
  cases event with
  | omnetXmit dp => exact ⟨s, .other, maintBufAdd_changes sets ran⟩
  | ackOptRecv ack =>
      by_cases mine : ack.dst = agent.myaddr
      · rw [perform, if_neg (not_not.mpr mine)] at ran
        exact ⟨_, .acknowledged mine, sets ran⟩
      · rw [perform, if_pos mine] at ran
        cases ran
        exact ⟨s, .other, .refl⟩
  | rerrOptRecv opt =>
      by_cases unreachable : opt.errType = nodeUnreachable
      · rw [perform, if_pos unreachable] at ran
        obtain ⟨s₁, deleted, ran⟩ := bind_ok.mp ran
        cases ran
        exact ⟨_, .routeError, (sets deleted).tail (.routes _)⟩
      · rw [perform, if_neg unreachable] at ran
        cases ran
        exact ⟨s, .other, .refl⟩
  | packetLinkAck nxtHop => exact ⟨_, .linkAcknowledged, sets ran⟩
  | packetFailed dp nxtHop =>
      obtain ⟨s₁, sent, salvaged⟩ := bind_ok.mp ran
      obtain ⟨cache, reported, rfl, names⟩ := dsrRerrSend_ok sent
      obtain ⟨how, cache', -, changes⟩ := maintBufSalvage_changes sets salvaged
      refine ⟨_, .failed cache' reported names, ?_⟩
      rw [List.append_nil] at changes
      exact changes
  | neighTblAdd addr =>
      cases ran
      exact ⟨_, .neighbor, .refl⟩
  | routesChange cache =>
      cases ran
      exact ⟨s, .other, .single (.routes _)⟩
  | ackTimer => exact ⟨_, .timer, maintBufTimeout_changes sets ran⟩

end MaintAgent

end SyncFanet.Dsr
