import SyncFanet.Dsr.RreqTable
import SyncFanet.Library.Fold

/-!
# Route discovery

The runs of the functions on the request table, and what they do about one target: one
discovery after another, each of which sends its requests at growing intervals until it is
cancelled or the last request has not been answered.
-/

set_option autoImplicit false

namespace SyncFanet.Dsr

/-! ## Runs -/

/-- An event of the request table: a packet without a route, a request received that is not
a duplicate, a route learned, or the timer of an entry. -/
inductive RreqEvent where
  | routeDiscovery (target : InAddr)
  | addId (initiator target : InAddr) (id : Nat) (cost : ℚ) (addr : List InAddr) (length : Int)
  | discoveryCancel (dst : InAddr)
  | timer (key : InAddr)

def RreqTable.perform (config : RreqConfig) (now : SimTime) (table : RreqTable) :
    RreqEvent → Except Fault (RreqTable × List RreqAct)
  | .routeDiscovery target => dsrRreqRouteDiscovery config now table target
  | .addId initiator target id cost addr length =>
      (rreqTblAddId config now table initiator target id cost addr length).bind fun table =>
        .ok (table, [])
  | .discoveryCancel dst => .ok (rreqTblRouteDiscoveryCancel table dst)
  | .timer key => rreqTimerTest config now table key

/-- An event at its time: a timer is an event at the time it is scheduled for, and no event
comes later than a timer that is pending. -/
structure RreqTable.Step (config : RreqConfig) (now : SimTime) (table : RreqTable)
    (time : SimTime) (event : RreqEvent) (table' : RreqTable) (acts : List RreqAct) : Prop where
  later : now ≤ time
  pending : ∀ key e, table.dsrRreqTbl.lookup key = some e → ∀ expires ∈ e.timer, time ≤ expires
  fired : ∀ key, event = .timer key →
    ∃ e, table.dsrRreqTbl.lookup key = some e ∧ e.timer = some time
  performed : table.perform config time event = .ok (table', acts)

def RreqTable.initial : RreqTable where
  dsrRreqTbl := ∅
  rreqInfoMap := ∅
  rreqSeqno := 0

/-- The runs of a node from time 0, with what it has done at which time. -/
inductive RreqRun (config : RreqConfig) : SimTime → RreqTable → List (SimTime × RreqAct) → Prop where
  | start : RreqRun config 0 .initial []
  | step {now time : SimTime} {table table' : RreqTable} {done : List (SimTime × RreqAct)}
      {event : RreqEvent} {acts : List RreqAct} (before : RreqRun config now table done)
      (happens : table.Step config now time event table' acts) :
      RreqRun config time table' (done ++ acts.map fun act => (time, act))

/-! ## Discoveries -/

/-- What is done about a target. -/
inductive TargetAct where
  | send (ttl : Nat)
  | removed
  | cancelled
  deriving DecidableEq

def RreqAct.about (target : InAddr) : RreqAct → Option TargetAct
  | .send opt ttl => if opt.target = target then some (.send ttl) else none
  | .removed addr => if addr = target then some .removed else none
  | .cancelled addr => if addr = target then some .cancelled else none

def actsAbout (target : InAddr) (done : List (SimTime × RreqAct)) : List (SimTime × TargetAct) :=
  done.filterMap fun act => (act.2.about target).map fun about => (act.1, about)

namespace RreqConfig

variable (config : RreqConfig)

/-- The wait after a request of a discovery, in microseconds. -/
def waitAfter (k : Nat) : Nat :=
  min (config.requestPeriod * 1000 * 2 ^ k) (config.maxRequestPeriod * 1000000)

/-- The times of the requests of a discovery, if it is not cancelled. -/
def sendTime (start : SimTime) : Nat → SimTime
  | 0 => start
  | k + 1 =>
      setTimer (sendTime start k) (gettime (sendTime start k) + config.waitAfter k)

end RreqConfig

/-- The TTL of a request of a discovery. -/
def ttlOf (k : Nat) : Nat :=
  min (10 * 2 ^ k) 255

/-- The first requests of a discovery. -/
def requests (config : RreqConfig) (start : SimTime) (count : Nat) : List (SimTime × TargetAct) :=
  (List.range count).map fun k => (config.sendTime start k, .send (ttlOf k))

/-- Discoveries for a target that have ended: with `MaxRequestRexmt + 1` requests, after the
wait for the last one, or cancelled before the next request. -/
inductive Discoveries (config : RreqConfig) : List (SimTime × TargetAct) → Prop where
  | none : Discoveries config []
  | removed {done : List (SimTime × TargetAct)} (start : SimTime)
      (earlier : Discoveries config done) :
      Discoveries config (done ++ requests config start (config.maxRequestRexmt + 1) ++
        [(config.sendTime start (config.maxRequestRexmt + 1), .removed)])
  | cancelled {done : List (SimTime × TargetAct)} (start time : SimTime) (k : Nat)
      (earlier : Discoveries config done) (within : k ≤ config.maxRequestRexmt)
      (sent : config.sendTime start k ≤ time) (waits : time ≤ config.sendTime start (k + 1)) :
      Discoveries config (done ++ requests config start (k + 1) ++ [(time, .cancelled)])

/-- What has been done about a target, and its entry: no discovery is going on, or one has
sent some of its requests and waits. -/
inductive TargetHistory (config : RreqConfig) (now : SimTime) :
    Option RreqTblEntry → List (SimTime × TargetAct) → Prop where
  | idle {done : List (SimTime × TargetAct)} (entry : Option RreqTblEntry)
      (earlier : Discoveries config done)
      (rests : ∀ e ∈ entry, e.state = .idle ∧ e.timer = none) :
      TargetHistory config now entry done
  | running {done : List (SimTime × TargetAct)} (e : RreqTblEntry) (start : SimTime)
      (earlier : Discoveries config done) (going : e.state = .inRouteDisc)
      (within : e.numRexmts ≤ config.maxRequestRexmt)
      (sent : config.sendTime start e.numRexmts ≤ now)
      (waits : e.timer = some (config.sendTime start (e.numRexmts + 1)))
      (ttl : e.ttl = ttlOf e.numRexmts) (timeout : e.timeout = config.waitAfter e.numRexmts) :
      TargetHistory config now (some e) (done ++ requests config start (e.numRexmts + 1))

/-- A table with one entry for each address, in which the timer of an entry is pending
while a discovery goes on, and what has been done about each target. -/
structure Discovering (config : RreqConfig) (now : SimTime) (table : RreqTable)
    (done : List (SimTime × RreqAct)) : Prop where
  single : ∀ key e, table.dsrRreqTbl.lookup key = some e → e.nodeAddr = key
  timers : ∀ key e, table.dsrRreqTbl.lookup key = some e →
    (e.timer.isSome = true ↔ e.state = .inRouteDisc)
  histories : ∀ target,
    TargetHistory config now (table.dsrRreqTbl.lookup target) (actsAbout target done)

/-! ## The waits -/

section

variable {config : RreqConfig}

theorem waitAfter_succ (k : Nat) : config.waitAfter (k + 1) =
      min (config.waitAfter k * 2) (config.maxRequestPeriod * 1000000) := by
  unfold RreqConfig.waitAfter
  rw [pow_succ, ← mul_assoc]
  omega

theorem waitAfter_zero (ordered : config.requestPeriod * 1000 ≤ config.maxRequestPeriod * 1000000) :
    config.waitAfter 0 = config.requestPeriod * 1000 := by
  unfold RreqConfig.waitAfter
  omega

theorem ttlOf_succ (k : Nat) : ttlOf (k + 1) = min (ttlOf k * 2) maxTtl := by
  unfold ttlOf maxTtl
  rw [pow_succ, ← mul_assoc]
  omega

theorem requests_succ (start : SimTime) (count : Nat) :
    requests config start (count + 1) =
      requests config start count ++ [(config.sendTime start count, .send (ttlOf count))] := by
  simp [requests, List.range_succ]

/-! ## What is done about one target -/

namespace TargetHistory

variable {now time : SimTime} {entry : Option RreqTblEntry} {e : RreqTblEntry}
  {history : List (SimTime × TargetAct)} {target : InAddr}

theorem later (follows : TargetHistory config now entry history) (passes : now ≤ time) :
    TargetHistory config time entry history := by
  cases follows with
  | idle entry earlier rests => exact .idle entry earlier rests
  | running e start earlier going within sent waits ttl timeout =>
      exact .running e start earlier going within (sent.trans passes) waits ttl timeout

theorem touch (follows : TargetHistory config now entry history) (ids : List IdEntry)
    (lastUsed : Int) :
    TargetHistory config now
      (some { entry.getD (rreqTblEntryCreate target) with lastUsed := lastUsed, rreqIdTbl := ids })
      history := by
  cases follows with
  | idle entry earlier rests =>
      apply idle _ earlier
      intro e' same
      cases same
      cases entry with
      | none => exact ⟨rfl, rfl⟩
      | some e => exact rests e rfl
  | running e start earlier going within sent waits ttl timeout =>
      exact .running { e with lastUsed := lastUsed, rreqIdTbl := ids } start earlier going within
        sent waits ttl timeout

theorem timer_iff (follows : TargetHistory config now (some e) history) :
    e.timer.isSome = true ↔ e.state = .inRouteDisc := by
  cases follows with
  | idle entry earlier rests =>
      have resting := rests e rfl
      simp [resting.1, resting.2]
  | running e start earlier going within sent waits ttl timeout => simp [going, waits]

theorem start (ordered : config.requestPeriod * 1000 ≤ config.maxRequestPeriod * 1000000)
    (follows : TargetHistory config now entry history)
    (rests : ∀ e ∈ entry, e.state ≠ .inRouteDisc) (going : e.state = .inRouteDisc)
    (first : e.numRexmts = 0) (ttl : e.ttl = 10)
    (timeout : e.timeout = config.requestPeriod * 1000)
    (waits : e.timer = some (setTimer now (gettime now + config.requestPeriod * 1000))) :
    TargetHistory config now (some e) (history ++ [(now, .send 10)]) := by
  cases follows with
  | idle entry earlier _ =>
      have sends : [(now, TargetAct.send 10)] = requests config now (e.numRexmts + 1) := by
        rw [first]
        rfl
      have expires : config.sendTime now (e.numRexmts + 1) =
          setTimer now (gettime now + config.requestPeriod * 1000) := by
        rw [first]
        simp only [RreqConfig.sendTime, waitAfter_zero ordered]
        rfl
      rw [sends]
      apply running e now earlier going
      · rw [first]
        exact Nat.zero_le _
      · rw [first]
        exact le_refl now
      · rw [waits, expires]
      · rw [ttl, first]
        rfl
      · rw [timeout, first, waitAfter_zero ordered]
  | running e' start earlier going' => exact absurd going' (rests e' rfl)

theorem again (follows : TargetHistory config now (some e) history) (due : e.timer = some now)
    (more : e.numRexmts < config.maxRequestRexmt) :
    TargetHistory config now
      (some { e with
        numRexmts := e.numRexmts + 1
        ttl := min (e.ttl * 2) maxTtl
        timeout := min (e.timeout * 2) (config.maxRequestPeriod * 1000000)
        lastUsed := gettime now
        timer := some (setTimer now
          (gettime now + (min (e.timeout * 2) (config.maxRequestPeriod * 1000000) : Nat))) })
      (history ++ [(now, .send (min (e.ttl * 2) maxTtl))]) := by
  cases follows with
  | idle entry earlier rests => simp [(rests e rfl).2] at due
  | @running done e start earlier going within sent waits ttl timeout =>
      have here : config.sendTime start (e.numRexmts + 1) = now :=
        Option.some_injective _ (waits.symm.trans due)
      have ttl' : min (e.ttl * 2) maxTtl = ttlOf (e.numRexmts + 1) := by
        rw [ttl, ttlOf_succ]
      have timeout' : min (e.timeout * 2) (config.maxRequestPeriod * 1000000) =
          config.waitAfter (e.numRexmts + 1) := by
        rw [timeout, waitAfter_succ]
      have sends : done ++ requests config start (e.numRexmts + 1) ++
          [(now, TargetAct.send (ttlOf (e.numRexmts + 1)))] =
            done ++ requests config start (e.numRexmts + 1 + 1) := by
        rw [requests_succ start (e.numRexmts + 1), here, List.append_assoc]
      rw [ttl', timeout', sends]
      have next : setTimer now (gettime now + config.waitAfter (e.numRexmts + 1)) =
          config.sendTime start (e.numRexmts + 1 + 1) := by
        rw [RreqConfig.sendTime, here]
      exact running
        { e with
          numRexmts := e.numRexmts + 1
          ttl := ttlOf (e.numRexmts + 1)
          timeout := config.waitAfter (e.numRexmts + 1)
          lastUsed := gettime now
          timer := some (setTimer now (gettime now + config.waitAfter (e.numRexmts + 1))) }
        start earlier going more here.le (congrArg some next) rfl rfl

theorem remove (follows : TargetHistory config now (some e) history) (due : e.timer = some now)
    (last : config.maxRequestRexmt ≤ e.numRexmts) :
    TargetHistory config now none (history ++ [(now, .removed)]) := by
  cases follows with
  | idle entry earlier rests => simp [(rests e rfl).2] at due
  | running e start earlier going within sent waits ttl timeout =>
      have here : config.sendTime start (e.numRexmts + 1) = now :=
        Option.some_injective _ (waits.symm.trans due)
      have all : e.numRexmts = config.maxRequestRexmt := le_antisymm within last
      rw [← here, all]
      exact .idle none (.removed start earlier) nofun

theorem timer_first {start : SimTime} {ttl : Nat}
    (follows : TargetHistory config now (some e) [(start, .send ttl)])
    (going : e.state = .inRouteDisc) : e.timer = some (config.sendTime start 1) := by
  generalize whole : [(start, TargetAct.send ttl)] = history at follows
  cases follows with
  | idle entry earlier rests => simp [(rests e rfl).1] at going
  | @running done e start' earlier going' within sent waits ttl' timeout =>
      have count : 1 = done.length + (e.numRexmts + 1) := by
        simpa [requests] using congrArg List.length whole
      have empty : done = [] := List.eq_nil_of_length_eq_zero (by omega)
      have zero : e.numRexmts = 0 := by omega
      rw [empty, zero] at whole
      have same : start = start' := (congrArg Prod.fst (List.head_eq_of_cons_eq whole))
      rw [waits, zero, same]

theorem cancel (follows : TargetHistory config now (some e) history)
    (going : e.state = .inRouteDisc) (pending : ∀ expires ∈ e.timer, now ≤ expires) :
    TargetHistory config now none (history ++ [(now, .cancelled)]) := by
  cases follows with
  | idle entry earlier rests => simp [(rests e rfl).1] at going
  | running e start earlier going within sent waits ttl timeout =>
      exact .idle none (.cancelled start now e.numRexmts earlier within sent (pending _ waits)) nofun

theorem erase (follows : TargetHistory config now (some e) history)
    (rests : e.state ≠ .inRouteDisc) : TargetHistory config now none history := by
  cases follows with
  | idle entry earlier _ => exact .idle none earlier nofun
  | running e start earlier going => exact absurd going rests

end TargetHistory

/-! ## Steps -/

structure Concerns (config : RreqConfig) (time : SimTime) (table table' : RreqTable)
    (acts : List RreqAct) (history : List (SimTime × TargetAct)) (key : InAddr) : Prop where
  others : ∀ other, other ≠ key →
    table'.dsrRreqTbl.lookup other = table.dsrRreqTbl.lookup other
  single : ∀ e, table'.dsrRreqTbl.lookup key = some e → e.nodeAddr = key
  silent : ∀ other, other ≠ key → acts.filterMap (RreqAct.about other) = []
  follows : TargetHistory config time (table'.dsrRreqTbl.lookup key)
    (history ++ (acts.filterMap (RreqAct.about key)).map fun act => (time, act))

theorem rreqTblEntry_ok {tbl : DsrRreqTbl} {addr : InAddr} {found : DsrRreqTbl × RreqTblEntry}
    (ran : rreqTblEntry tbl addr = .ok found) :
    found.2 = (tbl.lookup addr).getD (rreqTblEntryCreate addr) ∧
      found.1.lookup addr = some found.2 ∧
      ∀ other, other ≠ addr → found.1.lookup other = tbl.lookup other := by
  unfold rreqTblEntry rreqTblAdd at ran
  cases stored : tbl.lookup addr with
  | some e =>
      rw [stored] at ran
      cases ran
      exact ⟨rfl, stored, fun _ _ => rfl⟩
  | none =>
      simp only [stored] at ran
      cases ran
      exact ⟨rfl, Finmap.lookup_insert _, fun other different =>
        Finmap.lookup_insert_of_ne _ different⟩

section

variable {now time : SimTime} {table table' : RreqTable} {acts : List RreqAct}
  {done : List (SimTime × RreqAct)} {key : InAddr} {history : List (SimTime × TargetAct)}

theorem nodeAddr_getD (single : ∀ e, table.dsrRreqTbl.lookup key = some e → e.nodeAddr = key) :
    ((table.dsrRreqTbl.lookup key).getD (rreqTblEntryCreate key)).nodeAddr = key := by
  cases stored : table.dsrRreqTbl.lookup key with
  | none => rfl
  | some e => exact single e stored

theorem addId_concerns {target : InAddr} {id : Nat} {cost : ℚ} {addr : List InAddr} {length : Int}
    (ran : rreqTblAddId config time table key target id cost addr length = .ok table')
    (single : ∀ e, table.dsrRreqTbl.lookup key = some e → e.nodeAddr = key)
    (follows : TargetHistory config time (table.dsrRreqTbl.lookup key) history) :
    Concerns config time table table' [] history key := by
  obtain ⟨found, entry, ran⟩ := bind_ok.mp ran
  obtain ⟨ids, _, ran⟩ := bind_ok.mp ran
  obtain ⟨made, _, others⟩ := rreqTblEntry_ok entry
  cases ran
  constructor
  · intro other different
    exact (Finmap.lookup_insert_of_ne _ different).trans (others other different)
  · intro e stored
    rw [Finmap.lookup_insert] at stored
    cases stored
    rw [made]
    exact nodeAddr_getD single
  · exact fun _ _ => rfl
  · rw [Finmap.lookup_insert, made]
    simpa using follows.touch ids (gettime time)

theorem cancel_concerns
    (ran : rreqTblRouteDiscoveryCancel table key = (table', acts))
    (single : ∀ e, table.dsrRreqTbl.lookup key = some e → e.nodeAddr = key)
    (pending : ∀ e, table.dsrRreqTbl.lookup key = some e → ∀ expires ∈ e.timer, time ≤ expires)
    (follows : TargetHistory config time (table.dsrRreqTbl.lookup key) history) :
    Concerns config time table table' acts history key := by
  unfold rreqTblRouteDiscoveryCancel at ran
  cases stored : table.dsrRreqTbl.lookup key with
  | none =>
      rw [stored] at ran
      cases ran
      exact ⟨fun _ _ => rfl, single, fun _ _ => rfl, by simpa using follows⟩
  | some e =>
      simp only [stored] at ran follows
      cases ran
      have gone : (table.dsrRreqTbl.erase key).lookup key = none := Finmap.lookup_erase _ _
      refine ⟨fun other different => Finmap.lookup_erase_ne different, ?_, ?_, ?_⟩
      · intro e' stored'
        rw [gone] at stored'
        cases stored'
      · intro other different
        split
        · simp [RreqAct.about, different.symm]
        · rfl
      · rw [gone]
        by_cases going : e.state = .inRouteDisc
        · simpa [going, RreqAct.about] using follows.cancel going (pending e stored)
        · simpa [going] using follows.erase going

theorem discovery_concerns
    (ordered : config.requestPeriod * 1000 ≤ config.maxRequestPeriod * 1000000)
    (fits : config.requestUsecs = config.requestPeriod * 1000)
    (ran : dsrRreqRouteDiscovery config time table key = .ok (table', acts))
    (single : ∀ e, table.dsrRreqTbl.lookup key = some e → e.nodeAddr = key)
    (follows : TargetHistory config time (table.dsrRreqTbl.lookup key) history) :
    Concerns config time table table' acts history key := by
  obtain ⟨found, entry, ran⟩ := bind_ok.mp ran
  obtain ⟨made, stored, others⟩ := rreqTblEntry_ok entry
  split at ran
  · next going =>
      cases ran
      have same : table.dsrRreqTbl.lookup key = some found.2 := by
        cases there : table.dsrRreqTbl.lookup key with
        | none =>
            rw [made, there] at going
            cases going
        | some e => rw [made, there]; rfl
      refine ⟨others, ?_, fun _ _ => rfl, ?_⟩
      · intro e stored'
        exact single e (same.trans (stored.symm.trans stored'))
      · show TargetHistory config time (found.1.lookup key) _
        rw [stored, ← same]
        simpa using follows
  · next resting =>
      cases ran
      refine ⟨?_, ?_, ?_, ?_⟩
      · intro other different
        exact (Finmap.lookup_insert_of_ne _ different).trans (others other different)
      · intro e stored'
        have here : e = _ := Option.some_injective _
          (stored'.symm.trans (Finmap.lookup_insert found.1))
        rw [here]
        show found.2.nodeAddr = key
        rw [made]
        exact nodeAddr_getD single
      · intro other different
        simp [dsrRreqSend, RreqAct.about, different.symm]
      · have rests : ∀ e ∈ table.dsrRreqTbl.lookup key, e.state ≠ .inRouteDisc := by
          intro e there
          rw [made, there] at resting
          exact resting
        simp only [dsrRreqSend, Finmap.lookup_insert]
        have started := follows.start (e := { found.2 with
          lastUsed := gettime time, ttl := ttlStart, timeout := config.requestUsecs,
          state := .inRouteDisc, numRexmts := 0,
          timer := some (setTimer time (gettime time + config.requestUsecs)) })
          ordered rests rfl rfl rfl fits (by rw [fits]; rfl)
        simpa [RreqAct.about, ttlStart] using started

theorem timer_concerns
    (fits : config.maxRequestUsecs = config.maxRequestPeriod * 1000000)
    (ran : rreqTimerTest config time table key = .ok (table', acts)) {e : RreqTblEntry}
    (stored : table.dsrRreqTbl.lookup key = some e) (due : e.timer = some time)
    (own : e.nodeAddr = key)
    (follows : TargetHistory config time (some e) history) :
    Concerns config time table table' acts history key := by
  have found : findOwn table.dsrRreqTbl key e.nodeAddr = .ok true := by
    rw [findOwn, own, stored]
    exact if_pos rfl
  simp only [rreqTimerTest, rreqTblTimeout, stored, found, Except.bind, if_true] at ran
  by_cases last : config.maxRequestRexmt ≤ e.numRexmts
  · rw [if_pos last] at ran
    cases ran
    have gone : (table.dsrRreqTbl.erase key).lookup key = none := Finmap.lookup_erase _ _
    rw [own]
    refine ⟨fun other different => Finmap.lookup_erase_ne different, ?_, ?_, ?_⟩
    · intro e' stored'
      rw [gone] at stored'
      cases stored'
    · intro other different
      simp [RreqAct.about, different.symm]
    · rw [gone]
      simpa [RreqAct.about] using follows.remove due last
  · rw [if_neg last] at ran
    cases ran
    refine ⟨fun other different => Finmap.lookup_insert_of_ne _ different, ?_, ?_, ?_⟩
    · intro e' stored'
      have here : e' = _ := Option.some_injective _
        (stored'.symm.trans (Finmap.lookup_insert table.dsrRreqTbl))
      rw [here]
      exact own
    · intro other different
      simp [dsrRreqSend, RreqAct.about, own, different.symm]
    · simp only [dsrRreqSend, Finmap.lookup_insert]
      have next := follows.again due (Nat.lt_of_not_le last)
      simpa [RreqAct.about, fits, own] using next

theorem Discovering.step
    (ordered : config.requestPeriod * 1000 ≤ config.maxRequestPeriod * 1000000)
    (fits : config.requestUsecs = config.requestPeriod * 1000)
    (fitsMax : config.maxRequestUsecs = config.maxRequestPeriod * 1000000)
    (discovering : Discovering config now table done) {event : RreqEvent}
    (happens : table.Step config now time event table' acts) :
    Discovering config time table' (done ++ acts.map fun act => (time, act)) := by
  have follows : ∀ key, TargetHistory config time (table.dsrRreqTbl.lookup key)
      (actsAbout key done) := fun key => (discovering.histories key).later happens.later
  have concerns : ∃ key, Concerns config time table table' acts (actsAbout key done) key := by
    have ran := happens.performed
    cases event with
    | routeDiscovery target =>
        exact ⟨target, discovery_concerns ordered fits ran (discovering.single target)
          (follows target)⟩
    | addId initiator target id cost addr length =>
        obtain ⟨written, added, same⟩ := bind_ok.mp ran
        cases same
        exact ⟨initiator, addId_concerns added (discovering.single initiator) (follows initiator)⟩
    | discoveryCancel dst =>
        have ran' : rreqTblRouteDiscoveryCancel table dst = (table', acts) := by
          simpa [RreqTable.perform] using ran
        exact ⟨dst, cancel_concerns ran' (discovering.single dst) (happens.pending dst)
          (follows dst)⟩
    | timer key =>
        obtain ⟨e, stored, due⟩ := happens.fired key rfl
        exact ⟨key, timer_concerns fitsMax ran stored due (discovering.single key e stored)
          (stored ▸ follows key)⟩
  obtain ⟨key, concerns⟩ := concerns
  have about : ∀ target, actsAbout target (done ++ acts.map fun act => (time, act)) =
      actsAbout target done ++
        (acts.filterMap (RreqAct.about target)).map fun act => (time, act) := by
    intro target
    simp [actsAbout, List.filterMap_map, List.map_filterMap]
  have histories : ∀ target, TargetHistory config time (table'.dsrRreqTbl.lookup target)
      (actsAbout target (done ++ acts.map fun act => (time, act))) := by
    intro target
    rw [about]
    by_cases here : target = key
    · subst here
      exact concerns.follows
    · rw [concerns.others target here, concerns.silent target here]
      simpa using follows target
  constructor
  · intro address e stored
    by_cases here : address = key
    · subst here
      exact concerns.single e stored
    · exact discovering.single address e ((concerns.others address here).symm.trans stored)
  · intro address e stored
    exact (stored ▸ histories address : TargetHistory config time (some e) _).timer_iff
  · exact histories

end

/-! ## Runs of the state machine -/

theorem discovering_initial : Discovering config 0 .initial [] := by
  constructor
  · exact nofun
  · exact nofun
  · exact fun target => .idle none .none nofun

theorem ordered_of_discovering (fits : config.requestPeriod * 1000 < 2 ^ 32)
    (always : ∀ now table done, RreqRun config now table done →
      Discovering config now table done) :
    config.requestPeriod * 1000 ≤ config.maxRequestPeriod * 1000000 := by
  have usecs : config.requestUsecs = config.requestPeriod * 1000 := Nat.mod_eq_of_lt fits
  have started : RreqTable.Step config 0 .initial 0 (.routeDiscovery 2) _ _ :=
    ⟨le_refl 0, nofun, nofun, rfl⟩
  have discovering := always _ _ _ (.step .start started)
  have timer := (discovering.histories 2).timer_first rfl
  have set : ∀ wait : Nat, setTimer 0 (gettime 0 + wait) = 1000000 * (wait : Int) := by
    intro wait
    have zero : gettime 0 = 0 := rfl
    rw [setTimer, zero, zero_add]
    exact max_eq_right (Int.mul_nonneg (by decide) (Int.natCast_nonneg wait))
  have expires := Option.some_injective _ timer
  rw [RreqConfig.sendTime, RreqConfig.sendTime, set, set, usecs, RreqConfig.waitAfter] at expires
  simp only [SimTime] at expires
  omega

/-- The discoveries of every run wait as long as they should if and only if the first wait
is not longer than the longest one. -/
theorem discovering_iff (config : RreqConfig) (fits : config.requestPeriod * 1000 < 2 ^ 32)
    (fitsMax : config.maxRequestPeriod * 1000000 < 2 ^ 32) :
    (∀ now table done, RreqRun config now table done → Discovering config now table done) ↔
      config.requestPeriod * 1000 ≤ config.maxRequestPeriod * 1000000 := by
  constructor
  · exact ordered_of_discovering fits
  · intro ordered now table done run
    have usecs : config.requestUsecs = config.requestPeriod * 1000 := Nat.mod_eq_of_lt fits
    have usecsMax : config.maxRequestUsecs = config.maxRequestPeriod * 1000000 :=
      Nat.mod_eq_of_lt fitsMax
    induction run with
    | start => exact discovering_initial
    | step before happens ih => exact ih.step ordered usecs usecsMax happens

/-- The default values. -/
def RreqConfig.default : RreqConfig where
  requestTableIds := 16
  maxRequestRexmt := 16
  maxRequestPeriod := 10
  requestPeriod := 500
  rreqMaxVisit := 1

/-- The discoveries with the default values wait as long as they should. -/
theorem discovering_default :
    (∀ now table done, RreqRun .default now table done → Discovering .default now table done) ∧
      500 * 1000 ≤ 10 * 1000000 :=
  ⟨(discovering_iff .default (by decide) (by decide)).mpr (by decide), by decide⟩

/-- With two seconds to wait first and one at most, the first wait is two seconds. -/
theorem not_discovering :
    ¬∀ now table done,
      RreqRun { RreqConfig.default with requestPeriod := 2000, maxRequestPeriod := 1 } now table
          done →
        Discovering { RreqConfig.default with requestPeriod := 2000, maxRequestPeriod := 1 } now
          table done := by
  intro always
  exact absurd (ordered_of_discovering (by decide) always) (by decide)

end

end SyncFanet.Dsr
