import SyncFanet.Olsr.Agent

/-!
# Timers and runs of an agent

The messages that an agent originates, the expiry of its timers, and the events
that drive it.
-/

set_option autoImplicit false

namespace SyncFanet.Olsr

/-! ## `seconds_to_emf` -/

/-- `OLSR_C`, a sixteenth of a second. -/
def emfUnit : Int := Time.second / 16

/-- The first exponent whose power exceeds the duration. Above fifteen the result
no longer depends on it, which bounds the loop. -/
def emfExponent (seconds : Int) : Nat → Nat → Nat
  | 0, b => b
  | fuel + 1, b =>
      if seconds ≥ emfUnit * 2 ^ b then emfExponent seconds fuel (b + 1) else b

def secondsToEmf (seconds : Int) : Nat :=
  match emfExponent seconds 32 0 with
  | 0 => 1 * 16 + 0
  | b + 1 =>
      if b > 15 then 15 * 16 + 15
      else
        let a := (16 * seconds / (emfUnit * 2 ^ b) - 16).toNat
        ((a % 16) * 16 + (b + a / 16)) % 256

/-! ## Messages that the agent originates -/

def maxTtl : Nat := 255

/-- The link type that `send_hello` advertises. -/
def helloLinkType (config : Config) (now : Int) (link : LinkTuple) : Nat :=
  if config.useMac ∧ link.lostTime ≥ now then lostLink
  else if link.symTime ≥ now then symLink
  else if link.asymTime ≥ now then asymLink
  else lostLink

/-- The neighbor type, unless the neighbor is unknown. -/
def helloNbType (state : State) (link : LinkTuple) : Option Nat :=
  let mainAddr := state.getMainAddr link.nbIfaceAddr
  if mainAddr ∈ state.mprset then some mprNeigh
  else
    (state.findNbTuple mainAddr).map fun nb =>
      match nb.status with
      | .sym => symNeigh
      | .notSym => notNeigh

/-- Add an interface to the group of its link code, the last group if it is new. -/
def addToGroup (linkCode : Nat) (ifaceAddr : NsAddr) :
    List HelloMsg → List HelloMsg
  | [] => [{ linkCode := linkCode, nbIfaceAddrs := [ifaceAddr] }]
  | group :: groups =>
      if group.linkCode = linkCode then
        { group with nbIfaceAddrs := group.nbIfaceAddrs ++ [ifaceAddr] } :: groups
      else group :: addToGroup linkCode ifaceAddr groups

def advertiseLink (config : Config) (now : Int) (state : State) (groups : List HelloMsg)
    (link : LinkTuple) : List HelloMsg :=
  if state.getMainAddr link.localIfaceAddr = config.raAddr ∧ link.time ≥ now then
    match helloNbType state link with
    | none => groups
    | some nbType =>
        let linkCode := (helloLinkType config now link &&& 0x03) ||| ((nbType <<< 2) &&& 0x0f)
        addToGroup linkCode link.nbIfaceAddr groups
  else groups

/-- `send_hello`. -/
def sendHello (config : Config) (now : Int) (node : Node) : Except Fault Node :=
  let node := node.nextMsgSeq
  let groups := node.state.linkset.foldl (advertiseLink config now node.state) []
  if maxHellos < groups.length then .error (.assertFailed "count < OLSR_MAX_HELLOS")
  else if groups.any fun group => decide (maxAddrs < group.nbIfaceAddrs.length) then
    .error (.assertFailed "i < OLSR_MAX_ADDRS")
  else
    .ok (node.enqueMsg config now {
      vtime := secondsToEmf config.neighbHoldTime
      origAddr := config.raAddr
      ttl := 1
      hopCount := 0
      msgSeqNum := node.msgSeq
      body := .hello {
        htime := secondsToEmf config.helloIval
        willingness := config.willingness
        helloMsgs := groups } })

/-- `send_tc`. -/
def sendTc (config : Config) (now : Int) (node : Node) : Except Fault Node :=
  let node := node.nextMsgSeq
  let tc : Tc := {
    ansn := node.ansn
    nbMainAddrs := node.state.mprselset.map MprselTuple.mainAddr }
  if maxAddrs < tc.nbMainAddrs.length then .error (.assertFailed "count < OLSR_MAX_ADDRS")
  else
    .ok ((node.record (.sentTc tc)).enqueMsg config now {
      vtime := secondsToEmf (3 * config.tcIval)
      origAddr := config.raAddr
      ttl := maxTtl
      hopCount := 0
      msgSeqNum := node.msgSeq
      body := .tc tc })

/-- `send_mid`. -/
def sendMid (config : Config) (now : Int) (node : Node) : Node :=
  if config.ifaces.length ≤ 1 ∧ config.optimizedMid then node
  else
    let node := node.nextMsgSeq
    node.enqueMsg config now {
      vtime := secondsToEmf (3 * config.midIval)
      origAddr := config.raAddr
      ttl := maxTtl
      hopCount := 0
      msgSeqNum := node.msgSeq
      body := .mid { ifaceAddrs := config.ifaces.map Iface.addr } }

/-! What the agent sends is one message of its own at the end of the buffer. -/

section

variable {config : Config} {now : Int} {node node' : Node}

theorem sendHello_ok (ran : sendHello config now node = .ok node') :
    ∃ msg hello, node' = node.nextMsgSeq.enqueMsg config now msg ∧
      msg.origAddr = config.raAddr ∧ msg.body = .hello hello ∧
      hello.helloMsgs = node.state.linkset.foldl (advertiseLink config now node.state) [] := by
  unfold sendHello at ran
  dsimp only at ran
  split at ran
  · cases ran
  · split at ran
    · cases ran
    · exact ⟨_, _, (Except.ok.inj ran).symm, rfl, rfl, rfl⟩

theorem sendTc_ok (ran : sendTc config now node = .ok node') :
    ∃ msg tc, node' = (node.nextMsgSeq.record (.sentTc tc)).enqueMsg config now msg ∧
      msg.origAddr = config.raAddr ∧ msg.body = .tc tc ∧ tc.ansn = node.ansn ∧
      tc.nbMainAddrs = node.state.mprselset.map MprselTuple.mainAddr := by
  unfold sendTc at ran
  dsimp only at ran
  split at ran
  · cases ran
  · exact ⟨_, _, (Except.ok.inj ran).symm, rfl, rfl, rfl, rfl⟩

theorem sendMid_cases (config : Config) (now : Int) (node : Node) :
    sendMid config now node = node ∨ ∃ msg, msg.origAddr = config.raAddr ∧
      sendMid config now node = node.nextMsgSeq.enqueMsg config now msg := by
  unfold sendMid
  split
  · exact .inl rfl
  · exact .inr ⟨_, rfl, rfl⟩

end

/-- One packet, with the next messages of the buffer. -/
def sendOnePkt (node : Node) : Node :=
  let node := node.nextPktSeq
  { node with msgs := node.msgs.drop maxMsgs }.record
    (.sentPkt { pktSeqNum := node.pktSeq, msgs := node.msgs.take maxMsgs })

def sendPkts : Nat → Node → Node
  | 0, node => node
  | numPkts + 1, node => sendPkts numPkts (sendOnePkt node)

/-- `send_pkt`. -/
def sendPkt (node : Node) : Node :=
  let numMsgs := node.msgs.length
  let numPkts := if numMsgs % maxMsgs = 0 then numMsgs / maxMsgs else numMsgs / maxMsgs + 1
  sendPkts numPkts node

/-! ## Expiry -/

/-- The common part of the tuple timers: delete the tuple once its time is over,
otherwise wait for the time it has now. -/
def expireTuple {Tuple : Type} (time : Tuple → Int) (found : Option Tuple) (now : Int)
    (timer : Timer) (rm : Tuple → Node) (node : Node) : Except Fault Node :=
  match found with
  | none => .error .freedTuple
  | some tuple =>
      if time tuple < now then .ok (rm tuple)
      else .ok (node.scheduleTuple now (time tuple) timer)

namespace Node

def rmDupTuple (node : Node) (tuple : DupTuple) : Node :=
  node.mapState fun state =>
    { state with dupset := state.dupset.eraseP fun other => other.id = tuple.id }

def rmNb2hopTuple (node : Node) (tuple : Nb2hopTuple) : Node :=
  { node.mapState fun state =>
      { state with nb2hopset := state.nb2hopset.eraseP fun other => other.id = tuple.id } with
    detachedNb2hop := node.detachedNb2hop.eraseP fun other => other.id = tuple.id
    topologyChange := true }

/-- `rm_mprsel_tuple`, which advances the ANSN also for a detached tuple. -/
def rmMprselTuple (node : Node) (tuple : MprselTuple) : Node :=
  let same := fun other : MprselTuple => decide (other.id = tuple.id)
  let node' := ({ node.mapState fun state =>
      { state with mprselset := state.mprselset.eraseP same } with
    detachedMprsel := node.detachedMprsel.eraseP same } : Node).nextAnsn
  if node.state.mprselset.any same then node'.record .selectorsChanged else node'

def rmTopologyTuple (node : Node) (tuple : TopologyTuple) : Node :=
  { node.mapState fun state =>
      { state with topologyset := state.topologyset.eraseP fun other => other.id = tuple.id } with
    detachedTopology := node.detachedTopology.eraseP fun other => other.id = tuple.id
    topologyChange := true }

def rmIfaceassocTuple (node : Node) (tuple : IfaceAssocTuple) : Node :=
  { node.mapState fun state => { state with
      ifaceassocset := state.ifaceassocset.eraseP fun other => other.id = tuple.id } with
    topologyChange := true }

end Node

/-- `OLSR_LinkTupleTimer::expire`. -/
def expireLink (config : Config) (now : Int) (id : TupleId) (firstTime : Bool) (node : Node) :
    Except Fault Node :=
  match node.state.linkset.find? fun link => link.id = id with
  | none => .error .freedTuple
  | some link =>
      if link.time < now then
        .ok { node.mapState (rmLinkTuple link) with topologyChange := true }
      else if link.symTime < now then
        (if firstTime then .ok node else nbLoss config now link node).bind fun node =>
          .ok (node.scheduleTuple now link.time (.link id false))
      else .ok (node.scheduleTuple now (min link.time link.symTime) (.link id firstTime))

/-- The `expire` of every timer class. -/
def expireTimer (config : Config) (now : Int) (timer : Timer) (node : Node) :
    Except Fault Node :=
  match timer with
  | .hello =>
      (sendHello config now node).bind fun node =>
        let (jitter, node) := node.drawJitter config
        .ok (node.schedule (now + config.helloIval - jitter) .hello)
  | .tc =>
      (if 0 < node.state.mprselset.length then sendTc config now node
        else .ok node).bind fun node =>
        let (jitter, node) := node.drawJitter config
        .ok (node.schedule (now + config.tcIval - jitter) .tc)
  | .mid =>
      if config.isInMacLayer then .ok node
      else
        let (jitter, node) := (sendMid config now node).drawJitter config
        .ok (node.schedule (now + config.midIval - jitter) .mid)
  | .msg => .ok (sendPkt node)
  | .dup id =>
      expireTuple DupTuple.time (node.state.dupset.find? fun tuple => tuple.id = id) now timer
        node.rmDupTuple node
  | .link id firstTime => expireLink config now id firstTime node
  | .nb2hop id =>
      expireTuple Nb2hopTuple.time
        ((node.state.nb2hopset ++ node.detachedNb2hop).find? fun tuple => tuple.id = id) now timer
        node.rmNb2hopTuple node
  | .mprsel id =>
      expireTuple MprselTuple.time
        ((node.state.mprselset ++ node.detachedMprsel).find? fun tuple => tuple.id = id) now timer
        node.rmMprselTuple node
  | .topology id =>
      expireTuple TopologyTuple.time
        ((node.state.topologyset ++ node.detachedTopology).find? fun tuple => tuple.id = id) now
        timer node.rmTopologyTuple node
  | .ifaceAssoc id =>
      expireTuple IfaceAssocTuple.time
        (node.state.ifaceassocset.find? fun tuple => tuple.id = id) now timer
        node.rmIfaceassocTuple node

/-! ## Events and runs -/

inductive Event where
  | recv (iface : Iface) (srcAddr : NsAddr) (pkt : Pkt)
  | timer
  | linkBreak (destAddr : NsAddr)

/-- How an agent receives a packet, which is where `OLSR` and `OLSROPT` differ. -/
abbrev Reception := Config → Int → Iface → NsAddr → Pkt → Node → Except Fault Node

/-- One event: a packet, the first timer of the queue, or a link failure. -/
def stepWith (recv : Reception) (config : Config) (now : Int) (event : Event) (node : Node) :
    Except Fault Node :=
  match event with
  | .recv iface srcAddr pkt => recv config now iface srcAddr pkt node
  | .timer =>
      match node.timerQueue with
      | [] => .ok node
      | (_, timer) :: rest => expireTimer config now timer { node with timerQueue := rest }
  | .linkBreak destAddr =>
      if config.useMac then macFailed config now destAddr node else .ok node

/-- What the simulator lets happen next: time does not go back, no timer is
overdue, and a timer fires at its own time. -/
structure Enabled (config : Config) (clock now : Int) (event : Event) (node : Node) : Prop where
  later : clock ≤ now
  onTime : ∀ entry ∈ node.timerQueue, now ≤ entry.1
  due : event = .timer → ∃ entry ∈ node.timerQueue, entry.1 = now
  known : ∀ iface srcAddr pkt, event = .recv iface srcAddr pkt → iface ∈ config.ifaces

/-- The states of the runs in which every step met the condition, with the time of
the last step. -/
inductive Reached (recv : Reception) (config : Config) (condition : Int → Event → Node → Prop) :
    Int → Node → Prop where
  | initial (start maxTime : Int) :
      Reached recv config condition start (initialNode config start maxTime)
  | step {clock now : Int} {event : Event} {node node' : Node}
      (before : Reached recv config condition clock node)
      (enabled : Enabled config clock now event node) (met : condition now event node)
      (stepped : stepWith recv config now event node = .ok node') :
      Reached recv config condition now node'

theorem Reached.weaken {recv : Reception} {config : Config}
    {condition weaker : Int → Event → Node → Prop} {clock : Int} {node : Node}
    (reached : Reached recv config condition clock node)
    (implied : ∀ now event node, condition now event node → weaker now event node) :
    Reached recv config weaker clock node := by
  induction reached with
  | initial start maxTime => exact .initial start maxTime
  | step _ enabled met stepped ih => exact ih.step enabled (implied _ _ _ met) stepped

/-! ## Simulation -/

def isEnabled (config : Config) (allowed : Int → Event → Node → Bool) (clock now : Int)
    (event : Event) (node : Node) : Bool :=
  decide (clock ≤ now) && (node.timerQueue.all fun entry => decide (now ≤ entry.1)) &&
    (match event with
    | .recv iface _ _ => decide (iface ∈ config.ifaces)
    | .timer => node.timerQueue.any fun entry => decide (entry.1 = now)
    | .linkBreak _ => true) &&
    allowed now event node

theorem enabled_of_isEnabled {config : Config} {allowed : Int → Event → Node → Bool}
    {clock now : Int} {event : Event} {node : Node}
    (checked : isEnabled config allowed clock now event node = true) :
    Enabled config clock now event node ∧ allowed now event node = true := by
  simp only [isEnabled, Bool.and_eq_true, decide_eq_true_eq, List.all_eq_true] at checked
  obtain ⟨⟨⟨later, onTime⟩, shape⟩, met⟩ := checked
  refine ⟨⟨later, onTime, ?_, ?_⟩, met⟩
  · rintro rfl
    simpa using shape
  · rintro iface srcAddr pkt rfl
    simpa using shape

section

variable (recv : Reception) (config : Config) (allowed : Int → Event → Node → Bool)

variable {current next : Int × Node}

def perform (now : Int) (event : Event) (current : Int × Node) : Option (Int × Node) :=
  if isEnabled config allowed current.1 now event current.2 then
    match stepWith recv config now event current.2 with
    | .ok node => some (now, node)
    | .error _ => none
  else none

/-- Fire the timers that are due before a time, at most as many as the fuel. -/
def fireTimers (horizon : Int) : Nat → Int × Node → Option (Int × Node)
  | 0, _ => none
  | fuel + 1, current =>
      match current.2.timerQueue with
      | (key, _) :: _ =>
          if key < horizon then
            (perform recv config allowed key .timer current).bind (fireTimers horizon fuel)
          else some current
      | [] => some current

def simulate (fuel : Nat) : List (Int × Event) → Int × Node → Option (Int × Node)
  | [], current => some current
  | (now, event) :: rest, current =>
      ((fireTimers recv config allowed now fuel current).bind
        (perform recv config allowed now event)).bind (simulate fuel rest)

variable {recv config allowed}

theorem perform_reached {now : Int} {event : Event}
    (before : Reached recv config (fun now event node => allowed now event node = true)
      current.1 current.2) (ran : perform recv config allowed now event current = some next) :
    Reached recv config (fun now event node => allowed now event node = true)
      next.1 next.2 := by
  unfold perform at ran
  split at ran
  · next checked =>
    cases stepped : stepWith recv config now event current.2 with
    | error fault => simp [stepped] at ran
    | ok node =>
        simp only [stepped, Option.some.injEq] at ran
        rw [← ran]
        obtain ⟨enabled, met⟩ := enabled_of_isEnabled checked
        exact before.step enabled met stepped
  · cases ran

theorem fireTimers_reached {horizon : Int} {fuel : Nat}
    (before : Reached recv config (fun now event node => allowed now event node = true)
      current.1 current.2) (ran : fireTimers recv config allowed horizon fuel current = some next) :
    Reached recv config (fun now event node => allowed now event node = true)
      next.1 next.2 := by
  induction fuel generalizing current with
  | zero => cases ran
  | succ fuel ih =>
      unfold fireTimers at ran
      split at ran
      · split at ran
        · obtain ⟨middle, fired, rest⟩ := Option.bind_eq_some_iff.mp ran
          exact ih (perform_reached before fired) rest
        · cases ran
          exact before
      · cases ran
        exact before

theorem simulate_reached {fuel : Nat} {events : List (Int × Event)}
    (before : Reached recv config (fun now event node => allowed now event node = true)
      current.1 current.2) (ran : simulate recv config allowed fuel events current = some next) :
    Reached recv config (fun now event node => allowed now event node = true)
      next.1 next.2 := by
  induction events generalizing current with
  | nil =>
      cases ran
      exact before
  | cons head rest ih =>
      obtain ⟨now, event⟩ := head
      obtain ⟨middle, first, ran⟩ := Option.bind_eq_some_iff.mp ran
      obtain ⟨fired, timers, performed⟩ := Option.bind_eq_some_iff.mp first
      exact ih (perform_reached (fireTimers_reached before timers) performed) ran

end

/-! ## An agent with one interface -/

def oneIfaceConfig : Config where
  raAddr := 1
  ifaces := [{ index := 0, addr := 1 }]
  localAddrs := [1]
  isInMacLayer := true
  addrSize := 6
  useMac := true
  optimizedMid := true
  willingness := willDefault
  refreshInterval := 2 * Time.second
  helloIval := 5 * Time.second
  tcIval := 2 * Time.second
  midIval := 5 * Time.second
  jitter _ := 0
  raAddr_local := by decide
  ifaces_local := by decide
  refreshInterval_pos := by decide
  jitter_le := by intro _; decide

def receive (srcAddr origAddr msgSeqNum vtime : Nat) (body : MsgBody) : Event :=
  .recv { index := 0, addr := 1 } srcAddr {
    pktSeqNum := msgSeqNum
    msgs := [{
      vtime := vtime
      origAddr := origAddr
      ttl := 1
      hopCount := 0
      msgSeqNum := msgSeqNum
      body := body }] }

def receiveHello (srcAddr origAddr msgSeqNum vtime linkCode : Nat) : Event :=
  receive srcAddr origAddr msgSeqNum vtime (.hello {
    htime := 0
    willingness := willDefault
    helloMsgs := [{ linkCode := linkCode, nbIfaceAddrs := [1] }] })

def runOf (recv : Reception) (allowed : Int → Event → Node → Bool)
    (events : List (Int × Event)) : Option (Int × Node) :=
  simulate recv oneIfaceConfig allowed 20 events (0, initialNode oneIfaceConfig 0 0)

theorem exists_reached_of_runOf (recv : Reception) (allowed : Int → Event → Node → Bool)
    (events : List (Int × Event)) (check : Int × Node → Bool)
    (checked : (runOf recv allowed events).any check = true) :
    ∃ clock node, Reached recv oneIfaceConfig
      (fun now event node => allowed now event node = true) clock node ∧
      check (clock, node) = true := by
  obtain ⟨⟨clock, node⟩, ran, passed⟩ := (Option.any_eq_true check _).mp checked
  exact ⟨clock, node, simulate_reached (Reached.initial 0 0) ran, passed⟩

end SyncFanet.Olsr
