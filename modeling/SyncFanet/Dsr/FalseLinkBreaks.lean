import SyncFanet.Dsr.AckIds

/-!
# Link breaks with a next hop that answers

A next hop that receives everything and answers every acknowledgement request in time is
declared broken only for a packet that was buffered in the hold-off time and for which no
acknowledgement was ever requested.
-/

set_option autoImplicit false

namespace SyncFanet.Dsr

variable {Cache : Type}

/-! ## A next hop that answers -/

namespace MaintEvent

/-- An acknowledgement from a neighbour with an identifier. -/
def answers (myaddr nxtHop : InAddr) (id : Nat) : MaintEvent Cache → Bool
  | .ackOptRecv ack => ack.dst = myaddr ∧ ack.src = nxtHop ∧ ack.id = id
  | _ => false

/-- The link layer reports that a transmission to a neighbour failed. -/
def fails (nxtHop : InAddr) : MaintEvent Cache → Bool
  | .packetFailed _ failed => failed = nxtHop
  | _ => false

end MaintEvent

/-- The acknowledgement arrives among the events, and until then the time of an entry has not
come, or the events end before its time. -/
def AnsweredIn (myaddr nxtHop : InAddr) (id : Nat) (key : SimTime) :
    List (SimTime × MaintEvent Cache) → Prop
  | [] => True
  | (time, event) :: rest =>
      time + earliness < key ∧
        (event.answers myaddr nxtHop id = true ∨ AnsweredIn myaddr nxtHop id key rest)

instance decidableAnsweredIn (myaddr nxtHop : InAddr) (id : Nat) (key : SimTime) :
    (events : List (SimTime × MaintEvent Cache)) →
      Decidable (AnsweredIn myaddr nxtHop id key events)
  | [] => isTrue trivial
  | (time, event) :: rest =>
      have := decidableAnsweredIn myaddr nxtHop id key rest
      inferInstanceAs (Decidable (time + earliness < key ∧
        (event.answers myaddr nxtHop id = true ∨ AnsweredIn myaddr nxtHop id key rest)))

/-- The neighbour receives what is sent to it, and answers the requests that a step makes
before the timeout of their entries. -/
structure Answers (agent : MaintAgent Cache) (nxtHop : InAddr) (s : MaintState Cache)
    (event : MaintEvent Cache) (s' : MaintState Cache)
    (events : List (SimTime × MaintEvent Cache)) : Prop where
  receives : event.fails nxtHop = false
  answered : ∀ slot ∈ s'.maintBuf, slot ∉ s.maintBuf → slot.entry.nxtHop = nxtHop →
    slot.entry.ackReqSent = true →
    AnsweredIn agent.myaddr nxtHop slot.entry.id slot.key events

theorem Answers.of_all {agent : MaintAgent Cache} {nxtHop : InAddr} {s s' : MaintState Cache}
    {event : MaintEvent Cache} {events : List (SimTime × MaintEvent Cache)}
    (receives : event.fails nxtHop = false)
    (answered : ∀ slot ∈ s'.maintBuf, slot.entry.nxtHop = nxtHop →
      slot.entry.ackReqSent = true →
      AnsweredIn agent.myaddr nxtHop slot.entry.id slot.key events) :
    Answers agent nxtHop s event s' events :=
  ⟨receives, fun slot member _ => answered slot member⟩

/-- No link break was declared for a neighbour, none reported in a route error, and no packet
for it was salvaged or dropped. -/
structure NoBreak (nxtHop : InAddr) (s : MaintState Cache) : Prop where
  declared : nxtHop ∉ s.broken
  reported : nxtHop ∉ s.reported
  kept : ∀ departure ∈ s.left, departure.nxtHop = nxtHop →
    departure.how ≠ .salvaged ∧ departure.how ≠ .dropped

/-- No entry for which no acknowledgement was requested has its last timeout. -/
def HoldsOff (agent : MaintAgent Cache) (nxtHop : InAddr) (s : MaintState Cache)
    (time : SimTime) : Prop :=
  ∀ slot ∈ s.maintBuf, slot.entry.nxtHop = nxtHop → slot.entry.ackReqSent = false →
    slot.Due time → slot.entry.rexmt + 1 < agent.maxMaintRexmt

/-! ## Inside an event -/

/-- What no change inside an event gives up: the entries of the neighbour that are due have a
timeout to go, and no break of its link has been declared. -/
structure Calm (agent : MaintAgent Cache) (nxtHop : InAddr) (s : MaintState Cache) : Prop where
  timed : s.Timed
  early : ∀ slot ∈ s.maintBuf, slot.entry.nxtHop = nxtHop → slot.Due s.now →
    slot.entry.rexmt + 1 < agent.maxMaintRexmt
  unbroken : NoBreak nxtHop s

namespace NoBreak

variable {nxtHop : InAddr} {s s' : MaintState Cache}

theorem leave (unbroken : NoBreak nxtHop s) {more : List Departure}
    (declared : nxtHop ∉ s'.broken) (reported : nxtHop ∉ s'.reported)
    (left : s'.left = s.left ++ more)
    (others : ∀ departure ∈ more, departure.nxtHop = nxtHop →
      departure.how ≠ .salvaged ∧ departure.how ≠ .dropped) : NoBreak nxtHop s' := by
  refine ⟨declared, reported, ?_⟩
  rw [left]
  intro departure member
  cases List.mem_append.mp member with
  | inl among => exact unbroken.kept departure among
  | inr among => exact others departure among

theorem another (unbroken : NoBreak nxtHop s) {failed : InAddr} {reported : List InAddr}
    (other : failed ≠ nxtHop) (names : ∀ addr ∈ reported, addr = failed ∨ addr ∈ s.reported) :
    nxtHop ∉ failed :: s.broken ∧ nxtHop ∉ reported := by
  constructor
  · intro declared
    cases List.mem_cons.mp declared with
    | inl same => exact other same.symm
    | inr earlier => exact unbroken.declared earlier
  · intro among
    cases names nxtHop among with
    | inl same => exact other same.symm
    | inr earlier => exact unbroken.reported earlier

theorem maintInsert (unbroken : NoBreak nxtHop s) {slot : Slot} :
    NoBreak nxtHop (s.maintInsert slot) := by
  refine unbroken.leave unbroken.declared unbroken.reported rfl ?_
  intro departure member _
  obtain ⟨first, -, rfl⟩ := List.mem_map.mp member
  exact ⟨Leave.noConfusion, Leave.noConfusion⟩

theorem deleteAll (unbroken : NoBreak nxtHop s) {gone : Slot → Bool} {how : Leave}
    (given : how = .acknowledged ∨ how = .discarded) :
    NoBreak nxtHop (s.deleteAll gone how) := by
  refine unbroken.leave unbroken.declared unbroken.reported rfl ?_
  intro departure member _
  obtain ⟨first, -, rfl⟩ := List.mem_map.mp member
  cases given with
  | inl acknowledged => exact acknowledged ▸ ⟨Leave.noConfusion, Leave.noConfusion⟩
  | inr discarded => exact discarded ▸ ⟨Leave.noConfusion, Leave.noConfusion⟩

end NoBreak

namespace Calm

variable {agent : MaintAgent Cache} {nxtHop : InAddr} {s s' : MaintState Cache}

theorem of_subset (calm : Calm agent nxtHop s) (timed : s'.Timed) (now : s'.now = s.now)
    (slots : s'.maintBuf ⊆ s.maintBuf) (unbroken : NoBreak nxtHop s') :
    Calm agent nxtHop s' := by
  refine ⟨timed, ?_, unbroken⟩
  intro slot member hop due
  exact calm.early slot (slots member) hop (now ▸ due)

theorem step (calm : Calm agent nxtHop s) (change : Change agent s s') :
    Calm agent nxtHop s' := by
  have timed : s'.Timed := calm.timed.step change
  have unbroken := calm.unbroken
  cases change with
  | setTimer first waits =>
      exact calm.of_subset timed rfl (List.Subset.refl _)
        ⟨unbroken.declared, unbroken.reported, unbroken.kept⟩
  | @retransmit slot rest idle first due again =>
      have kept : NoBreak nxtHop { s with maintBuf := rest } :=
        ⟨unbroken.declared, unbroken.reported, unbroken.kept⟩
      refine ⟨timed, ?_, kept.maintInsert⟩
      intro other member hop early
      cases MaintState.mem_maintInsert member with
      | inl inserted =>
          rw [inserted] at early
          exact absurd early (MaintState.not_due_of_timeout
            (calm.timed.slots slot (by simp [first])))
      | inr old => exact calm.early other (by simp [first, old]) hop early
  | @linkBreak slot rest how cache reported idle first due exhausted given names =>
      have here : slot ∈ s.maintBuf := by simp [first]
      have other : slot.entry.nxtHop ≠ nxtHop := by
        intro same
        exact Nat.not_le.mpr (calm.early slot here same due) exhausted
      obtain ⟨declared, among⟩ := unbroken.another other names
      refine calm.of_subset timed rfl (by simp [first]) (unbroken.leave declared among rfl ?_)
      intro departure member hop
      cases List.mem_singleton.mp member
      exact absurd hop other
  | @salvage before after slot how cache among declared given =>
      have other : slot.entry.nxtHop ≠ nxtHop := by
        intro same
        exact unbroken.declared (same ▸ declared)
      refine calm.of_subset timed rfl ?_ (unbroken.leave unbroken.declared unbroken.reported rfl ?_)
      · rw [among]
        exact fun _ member => by
          simp only [List.mem_append, List.mem_cons] at member ⊢
          exact member.imp id .inr
      · intro departure member hop
        cases List.mem_singleton.mp member
        exact absurd hop other
  | @buffer dp neigh known =>
      have kept : NoBreak nxtHop (s.maintInsert (s.maintEntryCreate dp neigh
          (s.asks agent.maintHoldoffTime neigh))) := unbroken.maintInsert
      refine ⟨timed, ?_, ⟨kept.declared, kept.reported, kept.kept⟩⟩
      intro other member hop early
      cases MaintState.mem_maintInsert member with
      | inl inserted =>
          have ranged : 20 ≤ neigh.tRxtcur := calm.timed.neighbors _ _ known
          have long : 10000 ≤ neigh.rto := by
            unfold Neighbor.rto
            omega
          rw [inserted] at early
          exact absurd early (MaintState.not_due_of_timeout long)
      | inr old => exact calm.early other old hop early
  | routes cache =>
      exact calm.of_subset timed rfl (List.Subset.refl _)
        ⟨unbroken.declared, unbroken.reported, unbroken.kept⟩

theorem begins {event : MaintEvent Cache} (calm : Calm agent nxtHop s)
    (receives : event.fails nxtHop = false) (begins : MaintAgent.Begins agent event s s') :
    Calm agent nxtHop s' := by
  have timed : s'.Timed := calm.timed.begins begins
  have unbroken := calm.unbroken
  have filtered {gone : Slot → Bool} :
      (s.maintBuf.filter fun slot => ¬gone slot) ⊆ s.maintBuf := List.filter_sublist.subset
  cases begins with
  | other => exact calm
  | @acknowledged ack mine =>
      have deleted : NoBreak nxtHop
          (s.deleteAll (MaintAgent.covers ack.src ack.id) .acknowledged) :=
        unbroken.deleteAll (.inl rfl)
      cases s.acknowledge_cases ack.src ack.id with
      | inl same =>
          rw [same] at timed ⊢
          exact calm.of_subset timed rfl filtered deleted
      | inr updated =>
          obtain ⟨neigh, rtt, -, same⟩ := updated
          rw [same] at timed ⊢
          exact calm.of_subset timed rfl filtered
            ⟨deleted.declared, deleted.reported, deleted.kept⟩
  | linkAcknowledged =>
      exact calm.of_subset timed rfl filtered (unbroken.deleteAll (.inl rfl))
  | routeError => exact calm.of_subset timed rfl filtered (unbroken.deleteAll (.inr rfl))
  | @failed dp failed _ cache reported names =>
      have other : failed ≠ nxtHop := by simpa [MaintEvent.fails] using receives
      obtain ⟨declared, among⟩ := unbroken.another other names
      exact calm.of_subset timed rfl (List.Subset.refl _) ⟨declared, among, unbroken.kept⟩
  | neighbor =>
      exact calm.of_subset timed rfl (List.Subset.refl _)
        ⟨unbroken.declared, unbroken.reported, unbroken.kept⟩
  | timer =>
      exact calm.of_subset timed rfl (List.Subset.refl _)
        ⟨unbroken.declared, unbroken.reported, unbroken.kept⟩

end Calm

/-! ## Runs -/

section

variable {agent : MaintAgent Cache} {nxtHop : InAddr} {s s' : MaintState Cache}
  {time : SimTime} {event : MaintEvent Cache} {events : List (SimTime × MaintEvent Cache)}

/-- What a run keeps between its events: the requests to the neighbour are answered by the
events to come. -/
structure Promised (agent : MaintAgent Cache) (nxtHop : InAddr) (s : MaintState Cache)
    (events : List (SimTime × MaintEvent Cache)) : Prop where
  reached : agent.Reached s
  unbroken : NoBreak nxtHop s
  answered : ∀ slot ∈ s.maintBuf, slot.entry.nxtHop = nxtHop → slot.entry.ackReqSent = true →
    AnsweredIn agent.myaddr nxtHop slot.entry.id slot.key events

theorem Promised.calm (promised : Promised agent nxtHop s ((time, event) :: events))
    (covered : HoldsOff agent nxtHop s time) : Calm agent nxtHop (s.at time) := by
  have timed := promised.reached.timed
  have unbroken := promised.unbroken
  refine ⟨⟨timed.neighbors, timed.slots⟩, ?_, ⟨List.not_mem_nil, List.not_mem_nil, unbroken.kept⟩⟩
  intro slot member hop due
  cases asked : slot.entry.ackReqSent with
  | false => exact covered slot member hop asked due
  | true =>
      have early := (promised.answered slot member hop asked).1
      exact absurd due (Int.not_le.mpr early)

theorem Promised.step (promised : Promised agent nxtHop s ((time, event) :: events))
    (happens : agent.Step s time event s') (answers : Answers agent nxtHop s event s' events)
    (covered : HoldsOff agent nxtHop s time) : Promised agent nxtHop s' events := by
  obtain ⟨depth, ran⟩ := happens.performed
  obtain ⟨s₁, begun, changes⟩ := MaintAgent.perform_changes ran
  have started : Calm agent nxtHop s₁ :=
    (promised.calm covered).begins answers.receives begun
  have calm : Calm agent nxtHop s' := changes.keeps started fun holds change => holds.step change
  refine ⟨promised.reached.step happens, calm.unbroken, ?_⟩
  intro slot member hop asked
  by_cases old : slot ∈ s.maintBuf
  · cases (promised.answered slot old hop asked).2 with
    | inr later => exact later
    | inl now =>
        cases event with
        | ackOptRecv ack =>
            simp only [MaintEvent.answers, decide_eq_true_eq] at now
            have removed := (acknowledgesExactly_covers promised.reached now.1 happens slot old).2
            have gone := removed (by simp [MaintAgent.covers, hop, now.2]) slot member
            exact absurd rfl gone
        | omnetXmit dp => cases now
        | rerrOptRecv opt => cases now
        | packetLinkAck nxtHop => cases now
        | packetFailed dp nxtHop => cases now
        | neighTblAdd addr => cases now
        | routesChange cache => cases now
        | ackTimer => cases now
  · exact answers.answered slot member old hop asked

theorem Promised.run {allowed : MaintState Cache → SimTime → MaintEvent Cache →
      MaintState Cache → List (SimTime × MaintEvent Cache) → Prop}
    (promised : Promised agent nxtHop s events) (run : agent.Run allowed s events s')
    (conditions : ∀ s time event s' events, allowed s time event s' events →
      Answers agent nxtHop s event s' events ∧ HoldsOff agent nxtHop s time) :
    NoBreak nxtHop s' := by
  induction run with
  | stop s => exact promised.unbroken
  | step happens allows rest ih =>
      obtain ⟨answers, covered⟩ := conditions _ _ _ _ _ allows
      exact ih (promised.step happens answers covered)

end

/-- With a neighbour that answers every request in time, no link break is declared for it in
a run in which no entry without a request has its last timeout. -/
theorem noBreak_of_holdsOff (agent : MaintAgent Cache) (nxtHop : InAddr) (cache : Cache)
    (events : List (SimTime × MaintEvent Cache)) (s : MaintState Cache)
    (run : agent.Run
      (fun s time event s' events =>
        Answers agent nxtHop s event s' events ∧ HoldsOff agent nxtHop s time)
      (.initial cache) events s) :
    NoBreak nxtHop s := by
  have promised : Promised agent nxtHop (.initial cache) events :=
    ⟨.start cache, ⟨List.not_mem_nil, List.not_mem_nil, by simp [MaintState.initial]⟩,
      by simp [MaintState.initial]⟩
  exact promised.run run fun _ _ _ _ _ allows => allows

/-! ## A packet in the hold-off time -/

def lonelyState : List (SimTime × MaintEvent Unit) → MaintState Unit
  | [] => .initial ()
  | (time, event) :: before =>
      match lonelyAgent.perform 4 event ((lonelyState before).at time) with
      | .ok s => s
      | .error _ => lonelyState before

/-- The neighbour is known, a packet is sent to it at 1 s and acknowledged a millisecond
later. -/
def answeredEvents : List (SimTime × MaintEvent Unit) :=
  [(0, .neighTblAdd 2), (usecs 1000000, .omnetXmit neighborPkt),
    (usecs 1001000, .ackOptRecv { id := 1, src := 2, dst := 1 })]

def heldOffEvents : List (SimTime × MaintEvent Unit) :=
  [(0, .neighTblAdd 2), (usecs 1000000, .omnetXmit neighborPkt),
    (usecs 1000500, .omnetXmit neighborPkt),
    (usecs 1001000, .ackOptRecv { id := 1, src := 2, dst := 1 }),
    (usecs 1060500, .ackTimer), (usecs 1120500, .ackTimer)]

theorem MaintAgent.Step.of_all {Cache : Type} {agent : MaintAgent Cache} {s s' : MaintState Cache}
    {time : SimTime} {event : MaintEvent Cache} (depth : Nat) (later : s.now ≤ time)
    (pending : s.ackTimer.all (fun expires => time ≤ expires) = true)
    (fired : event.fires = true → s.ackTimer = some time)
    (ran : agent.perform depth event (s.at time) = .ok s') : agent.Step s time event s' := by
  refine ⟨later, ?_, fired, depth, ran⟩
  intro expires set
  rw [set] at pending
  simpa using pending

theorem lonelyState_step {before : List (SimTime × MaintEvent Unit)} {time : SimTime}
    {event : MaintEvent Unit} (later : (lonelyState before).now ≤ time)
    (pending : (lonelyState before).ackTimer.all (fun expires => time ≤ expires) = true)
    (fired : event.fires = true → (lonelyState before).ackTimer = some time)
    (ran : lonelyAgent.perform 4 event ((lonelyState before).at time) =
      .ok (lonelyState ((time, event) :: before))) :
    lonelyAgent.Step (lonelyState before) time event (lonelyState ((time, event) :: before)) :=
  .of_all 4 later pending fired ran

theorem noBreak_of_holdsOff_answered : NoBreak 2 (lonelyState answeredEvents.reverse) := by
  refine noBreak_of_holdsOff lonelyAgent 2 () answeredEvents _ ?_
  show lonelyAgent.Run _ (lonelyState []) answeredEvents _
  refine .step (lonelyState_step (by decide) rfl Bool.noConfusion rfl)
    ⟨.of_all rfl (by decide), by unfold HoldsOff; decide⟩ ?_
  refine .step (lonelyState_step (by decide) rfl Bool.noConfusion rfl)
    ⟨.of_all rfl (by decide), by unfold HoldsOff; decide⟩ ?_
  exact .step (lonelyState_step (by decide) rfl Bool.noConfusion rfl)
    ⟨.of_all rfl (by decide), by unfold HoldsOff; decide⟩ (.stop _)

/-- The packet that was sent in the hold-off time is never asked for, and breaks the link. -/
theorem not_noBreak_heldOff :
    ¬ ∀ (events : List (SimTime × MaintEvent Unit)) (s : MaintState Unit),
      lonelyAgent.Run
        (fun s _ event s' events => Answers lonelyAgent 2 s event s' events)
        (.initial ()) events s →
      NoBreak 2 s := by
  intro holds
  have run : lonelyAgent.Run
      (fun s _ event s' events => Answers lonelyAgent 2 s event s' events)
      (lonelyState []) heldOffEvents (lonelyState heldOffEvents.reverse) := by
    refine .step (lonelyState_step (by decide) rfl Bool.noConfusion rfl)
      (.of_all rfl (by decide)) ?_
    refine .step (lonelyState_step (by decide) rfl Bool.noConfusion rfl)
      (.of_all rfl (by decide)) ?_
    refine .step (lonelyState_step (by decide) rfl Bool.noConfusion rfl)
      (.of_all rfl (by decide)) ?_
    refine .step (lonelyState_step (by decide) rfl Bool.noConfusion rfl)
      (.of_all rfl (by decide)) ?_
    refine .step (lonelyState_step (by decide) rfl (fun _ => rfl) rfl)
      (.of_all rfl (by decide)) ?_
    refine .step (lonelyState_step (by decide) rfl (fun _ => rfl) rfl)
      (.of_all rfl (by decide)) (.stop _)
  have declared : 2 ∈ (lonelyState heldOffEvents.reverse).broken := by decide
  exact (holds _ _ run).declared declared

end SyncFanet.Dsr
