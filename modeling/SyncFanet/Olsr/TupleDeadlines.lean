import SyncFanet.Olsr.TimerOwnership

/-!
# Deadlines of tuples

The timer of a tuple is armed for the time that the tuple had then. A message that
gives the tuple an earlier time does not move the timer.
-/

set_option autoImplicit false

namespace SyncFanet.Olsr

/-- Two microseconds, of which a timer takes one. -/
def tolerance : Int := 2 * Time.microsecond

/-- The timer of the tuple fires by the time, but for the tolerance. -/
def DueBy (queue : List (Int × Timer)) (ref : TupleRef) (time : Int) : Prop :=
  ∀ entry ∈ queue, entry.2.tuple = some ref → entry.1 ≤ time + tolerance

instance (queue : List (Int × Timer)) (ref : TupleRef) (time : Int) :
    Decidable (DueBy queue ref time) :=
  inferInstanceAs (Decidable (∀ entry ∈ queue, _))

def timesOf {Tuple : Type} (kind : TupleKind) (id : Tuple → TupleId) (time : Tuple → Int)
    (tuples : List Tuple) : List (TupleRef × Int) :=
  tuples.map fun tuple => ((kind, id tuple), time tuple)

def deadlines (state : State) : List (TupleRef × Int) :=
  timesOf .dup DupTuple.id DupTuple.time state.dupset ++
    timesOf .link LinkTuple.id LinkTuple.time state.linkset ++
    timesOf .nb2hop Nb2hopTuple.id Nb2hopTuple.time state.nb2hopset ++
    timesOf .mprsel MprselTuple.id MprselTuple.time state.mprselset ++
    timesOf .topology TopologyTuple.id TopologyTuple.time state.topologyset

/-- The HELLO gives the link to the address new times. -/
def Hello.Renews (hello : Hello) (addr : NsAddr) : Prop :=
  ∃ group ∈ hello.helloMsgs, group.invalid = false ∧
    (group.linkType = symLink ∨ group.linkType = asymLink) ∧ addr ∈ group.nbIfaceAddrs

instance (hello : Hello) (addr : NsAddr) : Decidable (hello.Renews addr) :=
  inferInstanceAs (Decidable (∃ group ∈ hello.helloMsgs, _))

structure Timely (node : Node) : Prop where
  due : ∀ ref time, (ref, time) ∈ deadlines node.state → DueBy node.timerQueue ref time
  held : ∀ ref time, (ref, time) ∈ deadlines node.state → ref.2 < node.nextId
  armed : ∀ entry ∈ node.timerQueue, ∀ ref, entry.2.tuple = some ref → ref.2 < node.nextId

structure NewTimers (node node' : Node) : Prop where
  nextId : node.nextId ≤ node'.nextId
  entries : ∀ entry ∈ node'.timerQueue, ∀ ref, entry.2.tuple = some ref →
    entry ∈ node.timerQueue ∨ (node.nextId ≤ ref.2 ∧ ref.2 < node'.nextId)

section

variable {node node' : Node} {queue queue' : List (Int × Timer)} {ref : TupleRef}
  {now time later : Int} {config : Config}

variable {state : State}

theorem DueBy.mono (due : DueBy queue ref time) (ordered : time ≤ later) :
    DueBy queue ref later := by
  intro entry member owns
  have early := due entry member owns
  omega

/-! ## Timers -/

theorem NewTimers.refl (node : Node) : NewTimers node node :=
  ⟨le_refl _, fun _ member _ _ => .inl member⟩

theorem NewTimers.trans {first second third : Node} (left : NewTimers first second)
    (right : NewTimers second third) : NewTimers first third where
  nextId := left.nextId.trans right.nextId
  entries entry member ref owns := by
    cases right.entries entry member ref owns with
    | inl old =>
        cases left.entries entry old ref owns with
        | inl old => exact .inl old
        | inr new => exact .inr ⟨new.1, Nat.lt_of_lt_of_le new.2 right.nextId⟩
    | inr new => exact .inr ⟨left.nextId.trans new.1, new.2⟩

theorem NewTimers.dueBy (timers : NewTimers node node') (old : ref.2 < node.nextId)
    (due : DueBy node.timerQueue ref time) : DueBy node'.timerQueue ref time := by
  intro entry member owns
  cases timers.entries entry member ref owns with
  | inl before => exact due entry before owns
  | inr new => exact absurd old (Nat.not_lt.mpr new.1)

theorem newTimers_of_eq (same : node'.timerQueue = node.timerQueue)
    (nextId : node'.nextId = node.nextId) : NewTimers node node' :=
  ⟨le_of_eq nextId.symm, fun _ member _ _ => .inl (same ▸ member)⟩

theorem newTimers_insert {key : Int} {timer : Timer}
    (queue : node'.timerQueue = insertTimer key timer node.timerQueue)
    (nextId : node.nextId ≤ node'.nextId)
    (fresh : ∀ ref, timer.tuple = some ref → node.nextId ≤ ref.2 ∧ ref.2 < node'.nextId) :
    NewTimers node node' := by
  refine ⟨nextId, ?_⟩
  intro entry member ref owns
  rw [queue] at member
  cases List.mem_cons.mp ((insertTimer_perm key timer node.timerQueue).mem_iff.mp member) with
  | inl new =>
      subst new
      exact .inr (fresh ref owns)
  | inr old => exact .inl old

theorem Timely.step (timely : Timely node) (timers : NewTimers node node')
    (times : ∀ ref time, (ref, time) ∈ deadlines node'.state →
      (ref, time) ∈ deadlines node.state ∨
        (ref.2 < node'.nextId ∧ DueBy node'.timerQueue ref time)) : Timely node' where
  due ref time member := by
    cases times ref time member with
    | inl old => exact timers.dueBy (timely.held ref time old) (timely.due ref time old)
    | inr new => exact new.2
  held ref time member := by
    cases times ref time member with
    | inl old => exact Nat.lt_of_lt_of_le (timely.held ref time old) timers.nextId
    | inr new => exact new.1
  armed entry member ref owns := by
    cases timers.entries entry member ref owns with
    | inl old => exact Nat.lt_of_lt_of_le (timely.armed entry old ref owns) timers.nextId
    | inr new => exact new.2

theorem Timely.fewer (timely : Timely node) (timers : NewTimers node node')
    (times : deadlines node'.state ⊆ deadlines node.state) : Timely node' :=
  timely.step timers fun _ _ member => .inl (times member)

theorem Timely.refresh (timely : Timely node) (timers : NewTimers node node')
    (times : ∀ ref time, (ref, time) ∈ deadlines node'.state →
      (ref, time) ∈ deadlines node.state ∨
        ∃ before, (ref, before) ∈ deadlines node.state ∧ DueBy node.timerQueue ref time) :
    Timely node' := by
  refine timely.step timers fun ref time member => ?_
  cases times ref time member with
  | inl old => exact .inl old
  | inr renewed =>
      obtain ⟨before, old, due⟩ := renewed
      have known := timely.held ref before old
      exact .inr ⟨Nat.lt_of_lt_of_le known timers.nextId, timers.dueBy known due⟩

theorem delay_le (now time : Int) : now + delay now time ≤ max now time + Time.microsecond := by
  unfold delay
  split <;> omega

theorem Timely.add (timely : Timely node) {kind : TupleKind} {key : Int} {timer : Timer}
    (owns : timer.tuple = some (kind, node.nextId))
    (queue : node'.timerQueue = insertTimer key timer node.timerQueue)
    (nextId : node'.nextId = node.nextId + 1)
    (times : ∀ ref time, (ref, time) ∈ deadlines node'.state →
      (ref, time) ∈ deadlines node.state ∨
        (ref = (kind, node.nextId) ∧ key ≤ time + tolerance)) :
    NewTimers node node' ∧ Timely node' := by
  have timers : NewTimers node node' := by
    refine newTimers_insert queue (nextId ▸ Nat.le_succ _) ?_
    intro ref same
    cases owns.symm.trans same
    exact ⟨le_refl _, by simp [nextId]⟩
  refine ⟨timers, timely.step timers ?_⟩
  intro ref time member
  cases times ref time member with
  | inl old => exact .inl old
  | inr new =>
      obtain ⟨rfl, early⟩ := new
      refine .inr ⟨by simp [nextId], ?_⟩
      intro entry among same
      rw [queue] at among
      cases List.mem_cons.mp ((insertTimer_perm key timer node.timerQueue).mem_iff.mp among) with
      | inl new => exact new ▸ early
      | inr old => exact absurd (timely.armed entry old _ same) (Nat.lt_irrefl _)

/-! ## Times of one set -/

theorem mem_timesOf {Tuple : Type} {kind : TupleKind} {id : Tuple → TupleId} {at' : Tuple → Int}
    {tuples : List Tuple} :
    (ref, time) ∈ timesOf kind id at' tuples ↔
      ∃ tuple ∈ tuples, (kind, id tuple) = ref ∧ at' tuple = time := by
  simp [timesOf]

theorem mem_deadlines :
    (ref, time) ∈ deadlines state ↔
      (∃ tuple ∈ state.dupset, (TupleKind.dup, tuple.id) = ref ∧ tuple.time = time) ∨
      (∃ tuple ∈ state.linkset, (TupleKind.link, tuple.id) = ref ∧ tuple.time = time) ∨
      (∃ tuple ∈ state.nb2hopset, (TupleKind.nb2hop, tuple.id) = ref ∧ tuple.time = time) ∨
      (∃ tuple ∈ state.mprselset, (TupleKind.mprsel, tuple.id) = ref ∧ tuple.time = time) ∨
      (∃ tuple ∈ state.topologyset, (TupleKind.topology, tuple.id) = ref ∧ tuple.time = time) := by
  simp only [deadlines, List.mem_append, mem_timesOf, or_assoc]

theorem deadlines_subset {state' : State} (dups : state'.dupset ⊆ state.dupset)
    (links : state'.linkset ⊆ state.linkset) (hops : state'.nb2hopset ⊆ state.nb2hopset)
    (selectors : state'.mprselset ⊆ state.mprselset)
    (topology : state'.topologyset ⊆ state.topologyset) : deadlines state' ⊆ deadlines state := by
  intro entry member
  obtain ⟨ref, time⟩ := entry
  rw [mem_deadlines] at member ⊢
  exact member.imp (fun ⟨tuple, among, same⟩ => ⟨tuple, dups among, same⟩)
    (Or.imp (fun ⟨tuple, among, same⟩ => ⟨tuple, links among, same⟩)
      (Or.imp (fun ⟨tuple, among, same⟩ => ⟨tuple, hops among, same⟩)
        (Or.imp (fun ⟨tuple, among, same⟩ => ⟨tuple, selectors among, same⟩)
          (fun ⟨tuple, among, same⟩ => ⟨tuple, topology among, same⟩))))

/-! ## Links -/

structure SensedTimes (now validity : Int) (renews : Prop) (link sensed : LinkTuple) : Prop where
  time : link.time ≤ sensed.time ∨ (renews ∧ now + validity ≤ sensed.time)
  valid : now + validity ≤ sensed.time
  sym : sensed.symTime = link.symTime ∨ sensed.symTime = now - Time.second ∨
    (renews ∧ sensed.symTime = now + validity)

theorem senseLink_sensedTimes (config : Config) (now validity : Int) (receiverIface : NsAddr)
    (hello : Hello) (link : LinkTuple) (updated : Bool) :
    SensedTimes now validity (hello.Renews receiverIface) link
      (senseLink config now validity receiverIface hello.helloMsgs link updated).1 := by
  have hold : 0 ≤ config.neighbHoldTime := by
    have positive := config.refreshInterval_pos
    unfold Config.neighbHoldTime
    omega
  have groups : ∀ acc : LinkTuple × Bool,
      acc = hello.helloMsgs.foldl (senseGroup config now validity receiverIface)
        ({ link with asymTime := now + validity }, updated) →
      acc.1.asymTime = now + validity ∧
        (acc.1.time = link.time ∨
          (hello.Renews receiverIface ∧ now + validity ≤ acc.1.time)) ∧
        (acc.1.symTime = link.symTime ∨ acc.1.symTime = now - Time.second ∨
          (hello.Renews receiverIface ∧ acc.1.symTime = now + validity)) := by
    rintro _ rfl
    refine foldl_keeps (senseGroup config now validity receiverIface)
      (fun acc => acc.1.asymTime = now + validity ∧
        (acc.1.time = link.time ∨
          (hello.Renews receiverIface ∧ now + validity ≤ acc.1.time)) ∧
        (acc.1.symTime = link.symTime ∨ acc.1.symTime = now - Time.second ∨
          (hello.Renews receiverIface ∧ acc.1.symTime = now + validity)))
      ⟨rfl, .inl rfl, .inl rfl⟩ ?_
    intro group acc member holds
    obtain ⟨asym, time, sym⟩ := holds
    unfold senseGroup
    split
    · exact ⟨asym, time, sym⟩
    · next valid =>
      split
      · next listed =>
        split
        · exact ⟨asym, time, .inr (.inl rfl)⟩
        · split
          · next type =>
            have renews : hello.Renews receiverIface :=
              ⟨group, member, by simpa using valid, type, listed⟩
            exact ⟨asym, .inr ⟨renews, by simp [hold]⟩, .inr (.inr ⟨renews, rfl⟩)⟩
          · exact ⟨asym, time, sym⟩
      · exact ⟨asym, time, sym⟩
  obtain ⟨asym, time, sym⟩ := groups _ rfl
  refine ⟨?_, ?_, sym⟩
  · cases time with
    | inl same => exact .inl (same ▸ le_max_left _ _)
    | inr renewed => exact .inr ⟨renewed.1, renewed.2.trans (le_max_left _ _)⟩
  · exact asym ▸ le_max_right _ _

/-- The link tuples after `link_sensing`: the others, and the one that it wrote. -/
theorem linkSensing_timely {msg : Msg} {hello : Hello} {receiverIface senderIface : NsAddr}
    {index : Nat} {changed : Bool}
    (ran : linkSensingWith true config now msg.vtime hello receiverIface senderIface index node =
      .ok (node', changed)) (timely : Timely node)
    (onTime : ∀ link, node.state.findLinkTuple senderIface = some link →
      hello.Renews receiverIface →
        DueBy node.timerQueue (.link, link.id) (now + emfToSeconds msg.vtime)) :
    NewTimers node node' ∧ Timely node' := by
  have positive := emfToSeconds_pos msg.vtime
  rcases linkSensingWith_cases ran with
    ⟨known, link, found, sensed, rfl⟩ | ⟨_, _, created, link, updated, rfl, sensed, rfl⟩
  · have times := senseLink_sensedTimes config now (emfToSeconds msg.vtime) receiverIface hello
      known true
    rw [sensed] at times
    have id := (senseLink_same sensed).id
    obtain ⟨linkset, nbset, written, _⟩ :=
      writeSensed_links config now hello.willingness link changed node.state
    have stored := List.mem_of_find?_eq_some found
    have timers : NewTimers node { node with
        state := writeSensed config now hello.willingness link changed node.state } :=
      newTimers_of_eq rfl rfl
    refine ⟨timers, timely.refresh timers ?_⟩
    intro ref time member
    have old : (TupleKind.link, known.id) = ref → time = link.time →
        ∃ before, (ref, before) ∈ deadlines node.state ∧ DueBy node.timerQueue ref time := by
      rintro rfl rfl
      have before : ((TupleKind.link, known.id), known.time) ∈ deadlines node.state :=
        mem_deadlines.mpr (.inr (.inl ⟨known, stored, rfl, rfl⟩))
      refine ⟨known.time, before, ?_⟩
      cases times.time with
      | inl later => exact (timely.due _ _ before).mono later
      | inr renewed => exact (onTime known found renewed.1).mono renewed.2
    rw [mem_deadlines] at member
    rcases member with dup | ⟨other, among, same, at'⟩ | rest
    · rw [written] at dup
      exact .inl (mem_deadlines.mpr (.inl dup))
    · cases mem_writeSensed among with
      | inl before => exact .inl (mem_deadlines.mpr (.inr (.inl ⟨other, before, same, at'⟩)))
      | inr new =>
          subst new
          exact .inr (old (id ▸ same) at'.symm)
    · rw [written] at rest
      exact .inl (mem_deadlines.mpr (.inr (.inr rest)))
  · have times := senseLink_sensedTimes config now (emfToSeconds msg.vtime) receiverIface hello
      (newLinkTuple node.nextId now (emfToSeconds msg.vtime) receiverIface senderIface index) false
    rw [sensed] at times
    have id : link.id = node.nextId := (senseLink_same sensed).id
    have owns : (Timer.link link.id true).tuple = some (.link, node.nextId) := by
      rw [id]
      rfl
    have sym : link.symTime ≤ now + emfToSeconds msg.vtime := by
      have past : now - Time.second ≤ now + emfToSeconds msg.vtime := by
        have second : 0 < Time.second := by decide
        omega
      rcases times.sym with same | lost | renewed
      · exact same ▸ past
      · exact lost ▸ past
      · exact le_of_eq renewed.2
    have early : ∀ time, now + emfToSeconds msg.vtime ≤ time →
        now + delay now (min link.time link.symTime) ≤ time + tolerance := by
      intro time later
      have bound := delay_le now (min link.time link.symTime)
      have micro : Time.microsecond ≤ tolerance := by decide
      omega
    obtain ⟨linkset, nbset, written, _⟩ := writeSensed_links config now hello.willingness link
      updated (addLinkTuple now (newLinkTuple node.nextId now (emfToSeconds msg.vtime) receiverIface
        senderIface index) hello.willingness node.state)
    refine timely.add owns rfl rfl ?_
    intro ref time member
    rw [mem_deadlines] at member
    rcases member with dup | ⟨other, among, same, at'⟩ | rest
    · simp only [Node.scheduleTuple, Node.schedule, written] at dup
      exact .inl (mem_deadlines.mpr (.inl dup))
    · cases mem_writeSensed among with
      | inl added =>
          cases List.mem_append.mp added with
          | inl before => exact .inl (mem_deadlines.mpr (.inr (.inl ⟨other, before, same, at'⟩)))
          | inr last =>
              have new := List.mem_singleton.mp last
              subst new
              exact .inr ⟨same.symm, at' ▸ early _ (le_refl _)⟩
      | inr new =>
          subst new
          exact .inr ⟨id ▸ same.symm, at' ▸ early _ times.valid⟩
    · simp only [Node.scheduleTuple, Node.schedule, written] at rest
      exact .inl (mem_deadlines.mpr (.inr (.inr rest)))

/-! ## 2-hop tuples -/

/-- Every tuple that the message may refresh has a timer that fires by then. -/
def Renewable {Tuple : Type} (kind : TupleKind) (id : Tuple → TupleId) (refreshed : Tuple → Prop)
    (tuples : List Tuple) (queue : List (Int × Timer)) (expires : Int) : Prop :=
  ∀ tuple ∈ tuples, refreshed tuple → DueBy queue (kind, id tuple) expires

instance {Tuple : Type} (kind : TupleKind) (id : Tuple → TupleId) (refreshed : Tuple → Prop)
    [DecidablePred refreshed] (tuples : List Tuple) (queue : List (Int × Timer)) (expires : Int) :
    Decidable (Renewable kind id refreshed tuples queue expires) :=
  inferInstanceAs (Decidable (∀ tuple ∈ tuples, _))

/-- The timers of new tuples are added, and every timer is set early enough. -/
structure Retimed (node node' : Node) : Prop where
  timers : NewTimers node node'
  timely : Timely node'

section

variable {Tuple : Type} {kind : TupleKind} {id : Tuple → TupleId} {expires : Tuple → Int}
  {tuples : List Tuple} {created : Tuple}

/-- A tuple is stored with a timer of its own, at the end of its set. -/
theorem Timely.addTuple (timely : Timely node) {key : Int} {timer : Timer}
    (old : ∀ tuple ∈ tuples, ((kind, id tuple), expires tuple) ∈ deadlines node.state)
    (times : ∀ {ref time}, (ref, time) ∈ deadlines node'.state → (ref, time) ∈ deadlines node.state ∨
      ∃ tuple ∈ tuples ++ [created], (kind, id tuple) = ref ∧ expires tuple = time)
    (queue : node'.timerQueue = insertTimer key timer node.timerQueue)
    (nextId : node'.nextId = node.nextId + 1) (owns : timer.tuple = some (kind, node.nextId))
    (fresh : id created = node.nextId) (early : key ≤ expires created + tolerance) :
    Retimed node node' := by
  suffices added : NewTimers node node' ∧ Timely node' from ⟨added.1, added.2⟩
  refine timely.add owns queue nextId ?_
  intro ref time member
  cases times member with
  | inl old => exact .inl old
  | inr stored =>
      obtain ⟨tuple, among, same, at'⟩ := stored
      cases List.mem_append.mp among with
      | inl before => exact .inl (same ▸ at' ▸ old tuple before)
      | inr last =>
          rw [List.mem_singleton.mp last] at same at'
          exact .inr ⟨fresh ▸ same.symm, at' ▸ early⟩

theorem Timely.addRenewable (timely : Timely node) (added : Retimed node node')
    {refreshed : Tuple → Prop}
    (old : ∀ tuple ∈ tuples, ((kind, id tuple), expires tuple) ∈ deadlines node.state)
    (stored : ((kind, id created), expires created) ∈ deadlines node'.state)
    (onTime : Renewable kind id refreshed tuples node.timerQueue (expires created)) :
    Renewable kind id refreshed (tuples ++ [created]) node'.timerQueue (expires created) := by
  intro tuple among renewed
  cases List.mem_append.mp among with
  | inl before =>
      exact added.timers.dueBy (timely.held _ _ (old tuple before)) (onTime tuple before renewed)
  | inr last =>
      rw [List.mem_singleton.mp last]
      exact added.timely.due _ _ stored

/-- A tuple is given another time and keeps its timer. -/
theorem Timely.renewTuple (timely : Timely node) {concerns : Tuple → Bool} {renew : Tuple → Tuple}
    (old : ∀ tuple ∈ tuples, ((kind, id tuple), expires tuple) ∈ deadlines node.state)
    (times : ∀ {ref time}, (ref, time) ∈ deadlines node'.state → (ref, time) ∈ deadlines node.state ∨
      ∃ tuple ∈ updateFirst concerns renew tuples, (kind, id tuple) = ref ∧ expires tuple = time)
    (queue : node'.timerQueue = node.timerQueue) (nextId : node'.nextId = node.nextId)
    (same : ∀ tuple, id (renew tuple) = id tuple)
    (due : ∀ tuple ∈ tuples, concerns tuple = true →
      DueBy node.timerQueue (kind, id tuple) (expires (renew tuple))) : Retimed node node' := by
  have timers : NewTimers node node' := newTimers_of_eq queue nextId
  refine ⟨timers, timely.refresh timers ?_⟩
  intro ref time member
  cases times member with
  | inl old => exact .inl old
  | inr stored =>
      obtain ⟨tuple, among, rfl, rfl⟩ := stored
      cases updateFirst.mem_cases among with
      | inl before => exact .inl (old tuple before)
      | inr updated =>
          obtain ⟨before, stored, here, rfl⟩ := updated
          rw [same]
          exact .inr ⟨expires before, old before stored, due before stored here⟩

theorem armed_early {validity : Int} (positive : 0 < validity) :
    now + delay now (now + validity) ≤ now + validity + tolerance := by
  have bound := delay_le now (now + validity)
  have micro : Time.microsecond ≤ tolerance := by decide
  omega

end

variable {addr origAddr : NsAddr} {validity : Int}

theorem deadlines_nb2hop {hops : List Nb2hopTuple}
    (member : (ref, time) ∈ deadlines { state with nb2hopset := hops }) :
    (ref, time) ∈ deadlines state ∨
      ∃ hop ∈ hops, (TupleKind.nb2hop, hop.id) = ref ∧ hop.time = time := by
  rw [mem_deadlines] at member ⊢
  rcases member with dup | link | hop | rest
  · exact .inl (.inl dup)
  · exact .inl (.inr (.inl link))
  · exact .inr hop
  · exact .inl (.inr (.inr (.inr rest)))

theorem nb2hop_deadline {hop : Nb2hopTuple} (member : hop ∈ state.nb2hopset) :
    ((TupleKind.nb2hop, hop.id), hop.time) ∈ deadlines state :=
  mem_deadlines.mpr (.inr (.inr (.inl ⟨hop, member, rfl, rfl⟩)))

/-- The 2-hop tuples that a HELLO refreshes. -/
def RefreshedHop (origAddr : NsAddr) (listed : NsAddr → Prop) (hop : Nb2hopTuple) : Prop :=
  hop.nbMainAddr = origAddr ∧ listed hop.nb2hopAddr

instance (origAddr : NsAddr) (listed : NsAddr → Prop) [DecidablePred listed] :
    DecidablePred (RefreshedHop origAddr listed) :=
  fun _ => inferInstanceAs (Decidable (_ ∧ _))

theorem populateAddr_timely (positive : 0 < validity) {nbType : Nat} {acc : Node × Bool}
    {listed : NsAddr → Prop} (lists : nbType = symNeigh ∨ nbType = mprNeigh → listed addr)
    (timely : Timely acc.1)
    (onTime : Renewable .nb2hop Nb2hopTuple.id (RefreshedHop origAddr listed)
      acc.1.state.nb2hopset acc.1.timerQueue (now + validity)) :
    let next := (populateAddr config now validity origAddr nbType acc addr).1
    NewTimers acc.1 next ∧ Timely next ∧
      Renewable .nb2hop Nb2hopTuple.id (RefreshedHop origAddr listed) next.state.nb2hopset
        next.timerQueue (now + validity) := by
  unfold populateAddr
  dsimp only
  split
  · next type =>
    split
    · exact ⟨NewTimers.refl _, timely, onTime⟩
    · split
      · have added : Retimed acc.1 (acc.1.addNb2hopTuple now origAddr addr validity) :=
          timely.addTuple (fun _ => nb2hop_deadline) deadlines_nb2hop rfl rfl rfl rfl
            (armed_early positive)
        exact ⟨added.timers, added.timely, timely.addRenewable added (fun _ => nb2hop_deadline)
          (nb2hop_deadline (List.mem_append_right _ (List.mem_singleton_self _))) onTime⟩
      · have renewed : Retimed acc.1 (acc.1.mapState fun state => state.updateNb2hopTuple origAddr
            addr fun tuple => { tuple with time := now + validity }) := by
          refine timely.renewTuple (fun _ => nb2hop_deadline) deadlines_nb2hop rfl rfl
            (fun _ => rfl) ?_
          intro before stored here
          have names : before.nbMainAddr = origAddr ∧ before.nb2hopAddr = addr :=
            of_decide_eq_true here
          exact onTime before stored ⟨names.1, names.2 ▸ lists type⟩
        exact ⟨renewed.timers, renewed.timely,
          updateFirst.forall_mem onTime fun before stored _ => onTime before stored⟩
  · split
    · have timers : NewTimers acc.1 (acc.1.eraseNb2hopTuples origAddr addr) :=
        newTimers_of_eq rfl rfl
      have fewer : (acc.1.eraseNb2hopTuples origAddr addr).state.nb2hopset ⊆
          acc.1.state.nb2hopset := List.filter_subset_self _
      refine ⟨timers, timely.fewer timers ?_, fun hop among => onTime hop (fewer among)⟩
      exact deadlines_subset (List.Subset.refl _) (List.Subset.refl _) fewer (List.Subset.refl _)
        (List.Subset.refl _)
    · exact ⟨NewTimers.refl _, timely, onTime⟩

/-! ## MPR selectors -/

theorem deadlines_mprsel {selectors : List MprselTuple}
    (member : (ref, time) ∈ deadlines { state with mprselset := selectors }) :
    (ref, time) ∈ deadlines state ∨
      ∃ tuple ∈ selectors, (TupleKind.mprsel, tuple.id) = ref ∧ tuple.time = time := by
  rw [mem_deadlines] at member ⊢
  rcases member with dup | link | hop | selector | topology
  · exact .inl (.inl dup)
  · exact .inl (.inr (.inl link))
  · exact .inl (.inr (.inr (.inl hop)))
  · exact .inr selector
  · exact .inl (.inr (.inr (.inr (.inr topology))))

theorem mprsel_deadline {tuple : MprselTuple} (member : tuple ∈ state.mprselset) :
    ((TupleKind.mprsel, tuple.id), tuple.time) ∈ deadlines state :=
  mem_deadlines.mpr (.inr (.inr (.inr (.inl ⟨tuple, member, rfl, rfl⟩))))

theorem populateSelector_timely (positive : 0 < validity) (timely : Timely node)
    (onTime : node.state.getMainAddr addr = config.raAddr →
      Renewable .mprsel MprselTuple.id (fun tuple => tuple.mainAddr = origAddr)
        node.state.mprselset node.timerQueue (now + validity)) :
    let next := populateSelector config now validity origAddr node addr
    NewTimers node next ∧ Timely next ∧
      next.state.getMainAddr = node.state.getMainAddr ∧
      (Renewable .mprsel MprselTuple.id (fun tuple => tuple.mainAddr = origAddr)
        node.state.mprselset node.timerQueue (now + validity) →
      Renewable .mprsel MprselTuple.id (fun tuple => tuple.mainAddr = origAddr)
        next.state.mprselset next.timerQueue (now + validity)) := by
  unfold populateSelector
  dsimp only
  split
  · next own =>
    split
    · have added : Retimed node (node.addMprselTuple now origAddr validity) :=
        timely.addTuple (fun _ => mprsel_deadline) deadlines_mprsel rfl rfl rfl rfl
          (armed_early positive)
      exact ⟨added.timers, added.timely, rfl, timely.addRenewable added (fun _ => mprsel_deadline)
        (mprsel_deadline (List.mem_append_right _ (List.mem_singleton_self _)))⟩
    · have renewed : Retimed node (node.mapState fun state => state.updateMprselTuple origAddr
          fun tuple => { tuple with time := now + validity }) :=
        timely.renewTuple (fun _ => mprsel_deadline) deadlines_mprsel rfl rfl (fun _ => rfl)
          fun before stored here => onTime own before stored (of_decide_eq_true here)
      refine ⟨renewed.timers, renewed.timely, rfl, fun onTime => ?_⟩
      exact updateFirst.forall_mem onTime fun before stored _ => onTime before stored
  · exact ⟨NewTimers.refl _, timely, rfl, id⟩

/-! ## Topology tuples -/

theorem deadlines_topology {tuples : List TopologyTuple}
    (member : (ref, time) ∈ deadlines { state with topologyset := tuples }) :
    (ref, time) ∈ deadlines state ∨
      ∃ tuple ∈ tuples, (TupleKind.topology, tuple.id) = ref ∧ tuple.time = time := by
  rw [mem_deadlines] at member ⊢
  rcases member with dup | link | hop | selector | topology
  · exact .inl (.inl dup)
  · exact .inl (.inr (.inl link))
  · exact .inl (.inr (.inr (.inl hop)))
  · exact .inl (.inr (.inr (.inr (.inl selector))))
  · exact .inr topology

theorem topology_deadline {tuple : TopologyTuple} (member : tuple ∈ state.topologyset) :
    ((TupleKind.topology, tuple.id), tuple.time) ∈ deadlines state :=
  mem_deadlines.mpr (.inr (.inr (.inr (.inr ⟨tuple, member, rfl, rfl⟩))))

/-- The topology tuples that a TC message refreshes. -/
def RefreshedTopology (origAddr : NsAddr) (tc : Tc) (tuple : TopologyTuple) : Prop :=
  tuple.lastAddr = origAddr ∧ ¬ tuple.seq < tc.ansn ∧ tuple.destAddr ∈ tc.nbMainAddrs

instance (origAddr : NsAddr) (tc : Tc) : DecidablePred (RefreshedTopology origAddr tc) :=
  fun _ => inferInstanceAs (Decidable (_ ∧ _ ∧ _))

def NoneOlder (origAddr : NsAddr) (tc : Tc) (state : State) : Prop :=
  ∀ tuple ∈ state.topologyset, tuple.lastAddr = origAddr → ¬ tuple.seq < tc.ansn

theorem advertise_timely (positive : 0 < validity) {tc : Tc} {index : Nat}
    (listed : addr ∈ tc.nbMainAddrs) (timely : Timely node)
    (current : NoneOlder origAddr tc node.state)
    (onTime : Renewable .topology TopologyTuple.id (RefreshedTopology origAddr tc)
      node.state.topologyset node.timerQueue (now + validity)) :
    let next := advertise now origAddr tc.ansn validity index node addr
    NewTimers node next ∧ Timely next ∧ NoneOlder origAddr tc next.state ∧
      Renewable .topology TopologyTuple.id (RefreshedTopology origAddr tc)
        next.state.topologyset next.timerQueue (now + validity) := by
  unfold advertise
  dsimp only
  split
  · have renewed : Retimed node (node.mapState fun state => state.updateTopologyTuple addr
        origAddr fun tuple => { tuple with time := now + validity }) := by
      refine timely.renewTuple (fun _ => topology_deadline) deadlines_topology rfl rfl
        (fun _ => rfl) ?_
      intro before stored here
      have names : before.destAddr = addr ∧ before.lastAddr = origAddr := of_decide_eq_true here
      exact onTime before stored ⟨names.2, current before stored names.2, names.1 ▸ listed⟩
    refine ⟨renewed.timers, renewed.timely, ?_, ?_⟩
    · exact updateFirst.forall_mem current fun before stored _ => current before stored
    · exact updateFirst.forall_mem onTime fun before stored _ => onTime before stored
  · have added : Retimed node (node.addTopologyTuple now addr origAddr tc.ansn validity index) :=
      timely.addTuple (fun _ => topology_deadline) deadlines_topology rfl rfl rfl rfl
        (armed_early positive)
    refine ⟨added.timers, added.timely, ?_, timely.addRenewable added (fun _ => topology_deadline)
      (topology_deadline (List.mem_append_right _ (List.mem_singleton_self _))) onTime⟩
    intro tuple among last
    cases List.mem_append.mp among with
    | inl old => exact current tuple old last
    | inr new => exact List.mem_singleton.mp new ▸ Nat.lt_irrefl _

/-! ## Duplicate tuples -/

def DupsWithin (clock : Int) (node : Node) : Prop :=
  ∀ tuple ∈ node.state.dupset, tuple.time ≤ clock + dupHoldTime

theorem DupsWithin.mono {clock : Int} (within : DupsWithin clock node) (later : clock ≤ now)
    (dupset : node'.state.dupset ⊆ node.state.dupset) : DupsWithin now node' := by
  intro tuple member
  have bound := within tuple (dupset member)
  omega

theorem deadlines_dup {dups : List DupTuple}
    (member : (ref, time) ∈ deadlines { state with dupset := dups }) :
    (ref, time) ∈ deadlines state ∨
      ∃ tuple ∈ dups, (TupleKind.dup, tuple.id) = ref ∧ tuple.time = time := by
  rw [mem_deadlines] at member ⊢
  rcases member with dup | rest
  · exact .inr dup
  · exact .inl (.inr rest)

theorem dup_deadline {tuple : DupTuple} (member : tuple ∈ state.dupset) :
    ((TupleKind.dup, tuple.id), tuple.time) ∈ deadlines state :=
  mem_deadlines.mpr (.inl ⟨tuple, member, rfl, rfl⟩)

structure Quiet (node node' : Node) : Prop where
  timers : NewTimers node node'
  times : deadlines node'.state ⊆ deadlines node.state

theorem Quiet.trans {first second third : Node} (left : Quiet first second)
    (right : Quiet second third) : Quiet first third :=
  ⟨left.timers.trans right.timers, List.Subset.trans right.times left.times⟩

theorem quiet_of_eq (queue : node'.timerQueue = node.timerQueue) (nextId : node'.nextId = node.nextId)
    (times : deadlines node'.state ⊆ deadlines node.state) : Quiet node node' :=
  ⟨newTimers_of_eq queue nextId, times⟩

theorem Quiet.refl (node : Node) : Quiet node node :=
  quiet_of_eq rfl rfl (List.Subset.refl _)

theorem Timely.quiet (timely : Timely node) (quiet : Quiet node node') : Timely node' :=
  timely.fewer quiet.timers quiet.times

theorem schedule_quiet (key : Int) {timer : Timer} (owns : timer.tuple = none)
    (queue : node'.timerQueue = insertTimer key timer node.timerQueue)
    (nextId : node'.nextId = node.nextId) (state : node'.state = node.state) : Quiet node node' := by
  refine ⟨newTimers_insert queue (le_of_eq nextId.symm) ?_, state ▸ List.Subset.refl _⟩
  intro ref same
  rw [owns] at same
  cases same

theorem enqueMsg_quiet (config : Config) (now : Int) (msg : Msg) (node : Node) :
    Quiet node (node.enqueMsg config now msg) := by
  have owns : Timer.msg.tuple = none := rfl
  exact schedule_quiet (now + (node.drawJitter config).1) owns rfl rfl rfl

theorem forwardDefault_timely {msg : Msg} {dupTuple : Option DupTuple} {localIface srcAddr : NsAddr}
    (timely : Timely node) (within : DupsWithin now node) :
    let next := forwardDefault config now msg dupTuple localIface srcAddr node
    NewTimers node next ∧ Timely next ∧ DupsWithin now next := by
  rcases forwardDefault_cases config now msg dupTuple localIface srcAddr node with
    same | ⟨_, sent, sending, forwarded⟩
  · rw [same]
    exact ⟨NewTimers.refl _, timely, within⟩
  · have quiet : Quiet node sent := by
      rw [sending]
      split
      · exact enqueMsg_quiet config now _ node
      · exact Quiet.refl node
    have dups : sent.state.dupset = node.state.dupset := by
      rw [sending]
      split <;> rfl
    have timely := timely.quiet quiet
    have within : DupsWithin now sent := within.mono (le_refl _) (dups ▸ List.Subset.refl _)
    rw [forwarded]
    cases dupTuple with
    | some old =>
        have renewed : Retimed sent (sent.mapState fun state => state.updateDupTuple msg.origAddr
            msg.msgSeqNum fun tuple => { tuple with
              time := now + dupHoldTime
              retransmitted := retransmits msg srcAddr node.state
              ifaceList := tuple.ifaceList ++ [localIface] }) :=
          timely.renewTuple (fun _ => dup_deadline) deadlines_dup rfl rfl (fun _ => rfl)
            fun before stored _ =>
              (timely.due _ _ (dup_deadline stored)).mono (within before stored)
        exact ⟨quiet.timers.trans renewed.timers, renewed.timely,
          updateFirst.forall_mem within fun _ _ _ => le_refl _⟩
    | none =>
        have added : Retimed sent (sent.addDupTuple now msg.origAddr msg.msgSeqNum
            (retransmits msg srcAddr node.state) localIface) :=
          timely.addTuple (fun _ => dup_deadline) deadlines_dup rfl rfl rfl rfl
            (armed_early (by decide : 0 < dupHoldTime))
        refine ⟨quiet.timers.trans added.timers, added.timely, ?_⟩
        intro tuple among
        cases List.mem_append.mp among with
        | inl before => exact within tuple before
        | inr last => exact List.mem_singleton.mp last ▸ le_refl _

end

end SyncFanet.Olsr
