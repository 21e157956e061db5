import SyncFanet.OlsrOpt.ReportedChanges

/-!
# Skipped computations of OLSROPT

`OLSROPT::recv_olsr` computes the routes after messages that report a change, and
`OLSROPT::process_hello` the MPRs when it reports one. Both stay current in a packet where a
HELLO message that reports a change follows every willingness that none reported, and where
some message or an expired tuple asks for routes if a willingness or an association changed.
-/

set_option autoImplicit false

namespace SyncFanet.OlsrOpt

open Olsr

/-- The MPRs and the routes of the node are those that its repositories give. -/
structure Current (config : Config) (now : Int) (node : Node) : Prop where
  mprs : mprComputation config.isLocalAddress node.state = some node.state.mprset
  routes : rtableComputation node.state now = .ok node.rtable

/-- No tuple has expired. -/
structure Unexpired (now : Int) (state : State) : Prop where
  links : ∀ tuple ∈ state.linkset, now ≤ tuple.time
  nb2hops : ∀ tuple ∈ state.nb2hopset, now ≤ tuple.time
  topologies : ∀ tuple ∈ state.topologyset, now ≤ tuple.time
  mprsels : ∀ tuple ∈ state.mprselset, now ≤ tuple.time
  dups : ∀ tuple ∈ state.dupset, now ≤ tuple.time
  assocs : ∀ tuple ∈ state.ifaceassocset, now ≤ tuple.time

theorem current_iff {config : Config} {now : Int} {node : Node} :
    Current config now node ↔
      mprComputation config.isLocalAddress node.state = some node.state.mprset ∧
        rtableComputation node.state now = .ok node.rtable :=
  ⟨fun current => ⟨current.mprs, current.routes⟩, fun both => ⟨both.1, both.2⟩⟩

instance (config : Config) (now : Int) (node : Node) : Decidable (Current config now node) :=
  decidable_of_iff _ current_iff.symm

theorem unexpired_iff {now : Int} {state : State} :
    Unexpired now state ↔ (∀ tuple ∈ state.linkset, now ≤ tuple.time) ∧
      (∀ tuple ∈ state.nb2hopset, now ≤ tuple.time) ∧
      (∀ tuple ∈ state.topologyset, now ≤ tuple.time) ∧
      (∀ tuple ∈ state.mprselset, now ≤ tuple.time) ∧
      (∀ tuple ∈ state.dupset, now ≤ tuple.time) ∧
      ∀ tuple ∈ state.ifaceassocset, now ≤ tuple.time :=
  ⟨fun unexpired => ⟨unexpired.links, unexpired.nb2hops, unexpired.topologies, unexpired.mprsels,
      unexpired.dups, unexpired.assocs⟩,
    fun ⟨links, nb2hops, topologies, mprsels, dups, assocs⟩ =>
      ⟨links, nb2hops, topologies, mprsels, dups, assocs⟩⟩

instance (now : Int) (state : State) : Decidable (Unexpired now state) :=
  decidable_of_iff _ unexpired_iff.symm

/-! ## One message -/

/-- Whether the message reports a change once it is processed. -/
def reports (config : Config) (now : Int) (iface : Iface) (srcAddr : NsAddr) (msg : Msg)
    (state : State) : Bool :=
  match msg.body with
  | .hello hello => reportsHello config now msg hello iface.addr srcAddr state
  | .tc tc => changesTopology now msg tc srcAddr state
  | _ => false

/-- Whether the message changes what the computations read in a way that none reports. -/
def changesUnreported (now : Int) (srcAddr : NsAddr) (msg : Msg) (state : State) : Bool :=
  match msg.body with
  | .hello hello => changesWillingness hello msg.origAddr state
  | .mid mid => addsAssociation now msg mid srcAddr state
  | _ => false

section

variable {config : Config} {now : Int} {iface : Iface} {srcAddr : NsAddr} {msg : Msg} {node : Node}
  {result : Node × Bool}

theorem processMsg_table (ran : processMsg config now iface srcAddr msg node = .ok result) :
    result.1.rtable = node.rtable ∧ result.1.topologyChange = node.topologyChange := by
  unfold processMsg at ran
  split at ran
  · obtain ⟨sensed, _, populated, _, computed, first, second, third, fourth, _⟩ :=
      processHello_stages ran
    obtain ⟨_, _, _, _, rfl⟩ := linkSensingWith_writes first
    obtain ⟨_, _, _, _, rfl⟩ := populateNb2hopsetWith_writes second
    obtain ⟨_, _, _, _, _, written⟩ := populateMprselset_writes fourth
    split at third
    · obtain ⟨_, _, rfl⟩ := recomputeMprs_writes third
      rw [written]
      exact ⟨rfl, rfl⟩
    · obtain rfl := Except.ok.inj third
      rw [written]
      exact ⟨rfl, rfl⟩
  · obtain ⟨_, _, _, _, written⟩ := processTc_writes ran
    rw [written]
    exact ⟨rfl, rfl⟩
  · next mid body =>
    obtain ⟨_, _, _, written⟩ := processMid_writes now msg mid srcAddr iface.index node
    rw [← Except.ok.inj ran, written]
    exact ⟨rfl, rfl⟩
  · rw [← Except.ok.inj ran]
    exact ⟨rfl, rfl⟩

theorem processMsg_flag (ran : processMsg config now iface srcAddr msg node = .ok result)
    (linked : LinkIds node) : result.2 = reports config now iface srcAddr msg node.state := by
  unfold processMsg at ran
  unfold reports
  cases body : msg.body with
  | hello hello =>
      rw [body] at ran
      exact processHello_flag ran linked
  | tc tc =>
      rw [body] at ran
      exact (processTc_spec ran).1
  | mid mid | other msgType =>
      rw [body] at ran
      rw [← Except.ok.inj ran]

theorem processMsg_sameInputs (ran : processMsg config now iface srcAddr msg node = .ok result)
    (linked : LinkIds node) (unexpired : ∀ link ∈ node.state.linkset, now ≤ link.time)
    (unreported : result.2 = false)
    (unchanged : changesUnreported now srcAddr msg node.state = false) :
    SameInputs now node.state result.1.state := by
  unfold processMsg at ran
  unfold changesUnreported at unchanged
  cases body : msg.body with
  | hello hello =>
      rw [body] at ran unchanged
      exact (processHello_refreshes ran unreported).sameInputs linked.ids unexpired unchanged
  | tc tc =>
      rw [body] at ran
      have ends := (processTc_spec ran).2 unreported
      obtain ⟨_, _, _, _, written⟩ := processTc_writes ran
      rw [written] at ends ⊢
      exact ⟨rfl, rfl, rfl, ends, rfl⟩
  | mid mid =>
      rw [body] at ran unchanged
      have addrs : (processMid now msg mid srcAddr iface.index node).state.ifaceassocset.map
          assocAddrs = node.state.ifaceassocset.map assocAddrs := processMid_known unchanged
      rw [← Except.ok.inj ran]
      obtain ⟨_, _, _, written⟩ := processMid_writes now msg mid srcAddr iface.index node
      rw [written] at addrs ⊢
      exact ⟨rfl, rfl, rfl, rfl, addrs⟩
  | other msgType =>
      rw [body] at ran
      rw [← Except.ok.inj ran]
      exact .refl now node.state

/-- Whether the MPRs are out of date after the message. -/
def mprsStale (config : Config) (now : Int) (iface : Iface) (srcAddr : NsAddr) (msg : Msg)
    (state : State) (stale : Bool) : Bool :=
  match msg.body with
  | .hello hello =>
      !reportsHello config now msg hello iface.addr srcAddr state &&
        (stale || changesWillingness hello msg.origAddr state)
  | _ => stale

theorem processMsg_mprs (ran : processMsg config now iface srcAddr msg node = .ok result)
    (linked : LinkIds node) {stale : Bool}
    (before : stale = false →
      mprComputation config.isLocalAddress node.state = some node.state.mprset)
    (fresh : mprsStale config now iface srcAddr msg node.state stale = false) :
    mprComputation config.isLocalAddress result.1.state = some result.1.state.mprset := by
  unfold processMsg at ran
  unfold mprsStale at fresh
  cases body : msg.body with
  | hello hello =>
      rw [body] at ran fresh
      dsimp only at ran fresh
      have flag := processHello_flag ran linked
      cases reported : result.2 with
      | true => exact processHello_computes ran reported
      | false =>
          rw [← flag, reported, Bool.not_false, Bool.true_and, Bool.or_eq_false_iff] at fresh
          have refreshes := processHello_refreshes ran reported
          rw [refreshes.mprset, mprComputation_congr config.isLocalAddress
            (refreshes.nbset.trans (populateNbset_same fresh.2)) refreshes.hops]
          exact before fresh.1
  | tc tc =>
      rw [body] at ran fresh
      obtain ⟨_, _, _, _, written⟩ := processTc_writes ran
      rw [written]
      exact before fresh
  | mid mid =>
      rw [body] at ran fresh
      obtain ⟨_, _, _, written⟩ := processMid_writes now msg mid srcAddr iface.index node
      rw [← Except.ok.inj ran, written]
      exact before fresh
  | other msgType =>
      rw [body] at ran fresh
      rw [← Except.ok.inj ran]
      exact before fresh

end

/-! ## The messages of a packet -/

/-- What messages leave to compute: whether the MPRs are out of date, whether the routes are
unless a change is reported, and whether one is. -/
structure Pending where
  mprs : Bool
  routes : Bool
  reported : Bool

def Pending.after (pending : Pending) (config : Config) (now : Int) (iface : Iface)
    (srcAddr : NsAddr) (msg : Msg) (state : State) : Pending :=
  if processes config msg state then {
    mprs := mprsStale config now iface srcAddr msg state pending.mprs
    routes := pending.routes || changesUnreported now srcAddr msg state
    reported := pending.reported || reports config now iface srcAddr msg state }
  else pending

/-- What the messages of a packet leave to compute. -/
def pendingAfter (config : Config) (now : Int) (iface : Iface) (srcAddr : NsAddr) :
    List Msg → Node → Pending → Pending
  | [], _, pending => pending
  | msg :: rest, node, pending =>
      match recvMsg config now iface srcAddr node msg with
      | .ok (node', _) =>
          pendingAfter config now iface srcAddr rest node'
            (pending.after config now iface srcAddr msg node.state)
      | .error _ => pending

/-- Whether the packet makes up for the changes in it that none reported. -/
def makesUp (config : Config) (now : Int) (iface : Iface) (srcAddr : NsAddr) (pkt : Pkt)
    (node : Node) : Bool :=
  let pending := pendingAfter config now (receiver config iface) srcAddr pkt.msgs node
    { mprs := false, routes := false, reported := node.topologyChange }
  !pending.mprs && (!pending.routes || pending.reported)

structure Tracks (config : Config) (now : Int) (start : Node) (pending : Pending)
    (acc : Node × Bool) : Prop where
  linked : LinkIds acc.1
  rtable : acc.1.rtable = start.rtable
  reported : pending.reported = (acc.2 || acc.1.topologyChange)
  mprs : pending.mprs = false →
    mprComputation config.isLocalAddress acc.1.state = some acc.1.state.mprset
  inputs : pending.reported = false → pending.routes = false →
    SameInputs now start.state acc.1.state

namespace Tracks

variable {config : Config} {now : Int} {start : Node} {pending : Pending} {node : Node}
  {recalculateRoutes : Bool} {iface : Iface} {srcAddr : NsAddr} {msg : Msg}
  {result : Node × Bool}

theorem forwarded (tracks : Tracks config now start pending (node, recalculateRoutes))
    {node' : Node} (written : WritesForwarding node node') :
    Tracks config now start pending (node', recalculateRoutes) := by
  have linked := tracks.linked.of_neighborhood (sameNeighborhood_of_forwarding written)
  obtain ⟨_, _, _, _, _, _, rfl⟩ := written
  refine ⟨linked, tracks.rtable, tracks.reported, tracks.mprs, fun unreported unchanged => ?_⟩
  exact (tracks.inputs unreported unchanged).trans ⟨rfl, rfl, rfl, rfl, rfl⟩

theorem processed (tracks : Tracks config now start pending (node, recalculateRoutes))
    (unexpired : ∀ link ∈ start.state.linkset, now ≤ link.time)
    (taken : processes config msg node.state = true)
    (ran : processMsg config now iface srcAddr msg
      (node.record (.processed msg.origAddr msg.msgSeqNum)) = .ok result) :
    Tracks config now start (pending.after config now iface srcAddr msg node.state)
      (result.1, recalculateRoutes || result.2) := by
  have recorded : LinkIds (node.record (.processed msg.origAddr msg.msgSeqNum)) :=
    tracks.linked.of_same rfl (le_refl _)
  have kept : LinkIds result.1 := recorded.processMsg ran
  have flag := processMsg_flag ran recorded
  obtain ⟨rtable, change⟩ := processMsg_table ran
  rw [Pending.after, if_pos taken]
  refine ⟨kept, rtable.trans tracks.rtable, ?_, ?_, ?_⟩
  · have before := tracks.reported
    dsimp only at before flag ⊢
    rw [change, before, flag]
    exact Bool.or_right_comm _ _ _
  · intro fresh
    have current := processMsg_mprs ran recorded tracks.mprs fresh
    exact current
  · intro unreported unchanged
    dsimp only at unreported unchanged
    rw [Bool.or_eq_false_iff] at unreported unchanged
    have before : SameInputs now start.state node.state := tracks.inputs unreported.1 unchanged.1
    have later := processMsg_sameInputs ran recorded (before.unexpired unexpired)
      (flag.trans unreported.2) unchanged.2
    exact before.trans later

theorem recvMsg (tracks : Tracks config now start pending (node, recalculateRoutes))
    (unexpired : ∀ link ∈ start.state.linkset, now ≤ link.time)
    (ran : recvMsg config now iface srcAddr node msg = .ok result) :
    Tracks config now start (pending.after config now iface srcAddr msg node.state)
      (result.1, recalculateRoutes || result.2) := by
  obtain ⟨processed, processing, forwarding⟩ := recvMsg_stages ran
  have kept : Tracks config now start (pending.after config now iface srcAddr msg node.state)
      (processed, recalculateRoutes || result.2) := by
    split at processing
    · next taken => exact tracks.processed unexpired taken processing
    · next dropped =>
      rw [Pending.after, if_neg dropped, processing.1, processing.2, Bool.or_false]
      exact tracks
  rcases forwarding with same | written
  · exact same ▸ kept
  · exact kept.forwarded written

theorem recvMsgs {msgs : List Msg} {acc : Node × Bool}
    (tracks : Tracks config now start pending acc)
    (unexpired : ∀ link ∈ start.state.linkset, now ≤ link.time)
    (ran : recvMsgs config now iface srcAddr msgs acc = .ok result) :
    Tracks config now start (pendingAfter config now iface srcAddr msgs acc.1 pending)
      result := by
  induction msgs generalizing acc pending with
  | nil => exact Except.ok.inj ran ▸ tracks
  | cons msg rest ih =>
      obtain ⟨⟨node, changed⟩, first, later⟩ := bind_ok.mp ran
      have here := tracks.recvMsg unexpired first
      rw [pendingAfter, first]
      exact ih here later

end Tracks

/-- A packet that makes up for the changes in it keeps MPRs and routes current. -/
theorem recvOlsr_current {config : Config} {clock : Int} {node : Node}
    (reached : Reached recvOlsr config (fun _ _ _ => True) clock node) {now : Int}
    (unexpired : Unexpired now node.state) (current : Current config now node) {iface : Iface}
    {srcAddr : NsAddr} {pkt : Pkt} (madeUp : makesUp config now iface srcAddr pkt node = true)
    {node' : Node} (ran : recvOlsr config now iface srcAddr pkt node = .ok node') :
    Current config now node' := by
  rcases recvOlsr_stages ran with ⟨_, rfl⟩ | ⟨handled, recalculateRoutes, loop, table⟩
  · exact current
  · have start : Tracks config now node
        { mprs := false, routes := false, reported := node.topologyChange } (node, false) :=
      ⟨reached_linkIds reached, rfl, (Bool.false_or _).symm, fun _ => current.mprs,
        fun _ _ => .refl now node.state⟩
    have tracks := start.recvMsgs unexpired.links loop
    simp only [makesUp, Bool.and_eq_true, Bool.not_eq_true', Bool.or_eq_true] at madeUp
    have mprs := tracks.mprs madeUp.1
    split at table
    · obtain ⟨rtable, computed, rfl⟩ := recomputeRtable_writes table
      exact ⟨mprs, computed⟩
    · next unasked =>
      obtain rfl := Except.ok.inj table
      have unreported := tracks.reported.trans (Bool.not_eq_true _ ▸ unasked)
      have unchanged := madeUp.2.resolve_right (by rw [unreported]; exact Bool.false_ne_true)
      refine ⟨mprs, ?_⟩
      rw [rtableComputation_congr (tracks.inputs unreported unchanged), tracks.rtable]
      exact current.routes

/-! ## An association of a neighbor -/

def greetedRun : Option (Int × Node) :=
  simulate recvOlsr oneIfaceConfig (fun _ _ _ => true) 20
    [(Time.second, receiveHello 2 2 0 134 10)]
    (0, initialNode oneIfaceConfig 0 (100 * Time.second))

theorem exists_reached_of_greetedRun (check : Int × Node → Bool)
    (checked : greetedRun.any check = true) :
    ∃ clock node, Reached recvOlsr oneIfaceConfig (fun _ _ _ => True) clock node ∧
      check (clock, node) = true := by
  obtain ⟨⟨clock, node⟩, ran, passed⟩ := (Option.any_eq_true check _).mp checked
  have reached := simulate_reached (Reached.initial 0 (100 * Time.second)) ran
  exact ⟨clock, node, reached.weaken fun _ _ _ _ => trivial, passed⟩

def onlyIface : Iface := { index := 0, addr := 1 }

def fromNeighbor (msgSeqNum : Nat) (body : MsgBody) : Msg where
  vtime := 134
  origAddr := 2
  ttl := 1
  hopCount := 0
  msgSeqNum := msgSeqNum
  body := body

def associationPkt : Pkt where
  pktSeqNum := 1
  msgs := [fromNeighbor 1 (.mid { ifaceAddrs := [5] })]

def advertisingPkt : Pkt where
  pktSeqNum := 1
  msgs := [fromNeighbor 1 (.mid { ifaceAddrs := [5] }),
    fromNeighbor 2 (.tc { ansn := 1, nbMainAddrs := [4] })]

theorem recvOlsr_current_advertising :
    ∃ node node', makesUp oneIfaceConfig (2 * Time.second) onlyIface 2 advertisingPkt node = true ∧
      recvOlsr oneIfaceConfig (2 * Time.second) onlyIface 2 advertisingPkt node = .ok node' ∧
      Current oneIfaceConfig (2 * Time.second) node' := by
  obtain ⟨clock, node, reached, checked⟩ := exists_reached_of_greetedRun
    (fun current => decide (Unexpired (2 * Time.second) current.2.state) &&
      decide (Current oneIfaceConfig (2 * Time.second) current.2) &&
      makesUp oneIfaceConfig (2 * Time.second) onlyIface 2 advertisingPkt current.2 &&
      (recvOlsr oneIfaceConfig (2 * Time.second) onlyIface 2 advertisingPkt
        current.2).toOption.isSome)
    (by decide +kernel)
  simp only [Bool.and_eq_true, decide_eq_true_eq] at checked
  obtain ⟨⟨⟨unexpired, current⟩, madeUp⟩, returns⟩ := checked
  cases ran : recvOlsr oneIfaceConfig (2 * Time.second) onlyIface 2 advertisingPkt node with
  | error fault => simp [ran, Except.toOption] at returns
  | ok node' =>
      exact ⟨node, node', madeUp, ran, recvOlsr_current reached unexpired current madeUp ran⟩

/-- The association that a MID message adds leaves the node without a route to it. -/
theorem stale_of_association :
    ¬ ∀ (config : Config) (clock : Int) (node : Node),
      Reached recvOlsr config (fun _ _ _ => True) clock node →
        ∀ (now : Int) (iface : Iface) (srcAddr : NsAddr) (pkt : Pkt) (node' : Node),
          Enabled config clock now (.recv iface srcAddr pkt) node →
          Unexpired now node.state → Current config now node →
          recvOlsr config now iface srcAddr pkt node = .ok node' → Current config now node' := by
  intro claimed
  obtain ⟨clock, node, reached, checked⟩ := exists_reached_of_greetedRun
    (fun current =>
      isEnabled oneIfaceConfig (fun _ _ _ => true) current.1 (2 * Time.second)
        (.recv onlyIface 2 associationPkt) current.2 &&
      decide (Unexpired (2 * Time.second) current.2.state) &&
      decide (Current oneIfaceConfig (2 * Time.second) current.2) &&
      (recvOlsr oneIfaceConfig (2 * Time.second) onlyIface 2 associationPkt
        current.2).toOption.any fun node' =>
          decide (¬ Current oneIfaceConfig (2 * Time.second) node'))
    (by decide +kernel)
  simp only [Bool.and_eq_true, decide_eq_true_eq] at checked
  obtain ⟨⟨⟨enabled, unexpired⟩, current⟩, stale⟩ := checked
  cases ran : recvOlsr oneIfaceConfig (2 * Time.second) onlyIface 2 associationPkt node with
  | error fault => simp [ran, Except.toOption] at stale
  | ok node' =>
      simp only [ran, Except.toOption, Option.any_some, decide_eq_true_eq] at stale
      exact stale (claimed oneIfaceConfig clock node reached (2 * Time.second) onlyIface 2
        associationPkt node' (enabled_of_isEnabled enabled).1 unexpired current ran)

end SyncFanet.OlsrOpt
