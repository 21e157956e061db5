import SyncFanet.Olsr.Timers

/-!
# Start, shutdown and crash of a node

The operations of the node's lifecycle and a change of its interfaces, beside the
events of the agent. A shutdown deletes every queued timer but the three periodic
ones, and the destructor of a timer deletes its tuple.
-/

set_option autoImplicit false

namespace SyncFanet.Olsr

/-! ## Deleting timers -/

/-- The destructors of the tuple timers: remove the tuple from its set and free it. -/
def deleteTuple {Tuple : Type} (found : Option Tuple) (rm : Tuple → Node) : Except Fault Node :=
  match found with
  | none => .error .freedTuple
  | some tuple => .ok (rm tuple)

/-- One round of the loop in `handleNodeShutdown`: the periodic timers are only taken
out of the queue, the others are deleted. -/
def deleteTimer (timer : Timer) (node : Node) : Except Fault Node :=
  match timer with
  | .hello | .tc | .mid => .ok node
  | .msg => .ok node
  | .dup id =>
      deleteTuple (node.state.dupset.find? fun tuple => tuple.id = id) node.rmDupTuple
  | .link id _ =>
      deleteTuple (node.state.linkset.find? fun tuple => tuple.id = id) fun link =>
        { node.mapState (rmLinkTuple link) with topologyChange := true }
  | .nb2hop id =>
      deleteTuple
        ((node.state.nb2hopset ++ node.detachedNb2hop).find? fun tuple => tuple.id = id)
        node.rmNb2hopTuple
  | .mprsel id =>
      deleteTuple
        ((node.state.mprselset ++ node.detachedMprsel).find? fun tuple => tuple.id = id)
        node.rmMprselTuple
  | .topology id =>
      deleteTuple
        ((node.state.topologyset ++ node.detachedTopology).find? fun tuple => tuple.id = id)
        node.rmTopologyTuple
  | .ifaceAssoc id =>
      deleteTuple (node.state.ifaceassocset.find? fun tuple => tuple.id = id)
        node.rmIfaceassocTuple

/-- The loop that empties the timer queue. -/
def deleteTimers : List (Int × Timer) → Node → Except Fault Node
  | [], node => .ok { node with timerQueue := [] }
  | (_, timer) :: rest, node =>
      (deleteTimer timer { node with timerQueue := rest }).bind (deleteTimers rest)

/-! ## Lifecycle operations -/

/-- `handleNodeShutdown` and `handleNodeCrash`, which do the same. -/
def handleNodeShutdown (node : Node) : Except Fault Node :=
  deleteTimers node.timerQueue { node with rtable := [], msgs := [] }

/-- `OLSR_Timer::resched`. -/
def Node.resched (node : Node) (key : Int) (timer : Timer) : Node :=
  { node with timerQueue := node.timerQueue.eraseP fun entry => entry.2 = timer }.schedule key timer

/-- `handleNodeStart`. -/
def handleNodeStart (config : Config) (now : Int) (node : Node) : Node :=
  ((node.resched (now + config.helloIval) .hello).resched
    (now + config.helloIval) .tc).resched
    (now + config.helloIval) .mid

structure Host where
  node : Node
  isOperational : Bool

inductive HostEvent where
  | agent (event : Event)
  | start
  | shutdown
  | crash
  | changeInterface

/-- Packets and timers reach the agent through `handleMessage`, which drops them on a
node that is down; link failures do not. -/
def reaches (event : Event) (host : Host) : Bool :=
  match event with
  | .recv _ _ _ | .timer => host.isOperational
  | .linkBreak _ => true

def hostStep (config : Config) (now : Int) (event : HostEvent) (host : Host) :
    Except Fault Host :=
  match event with
  | .agent event =>
      if reaches event host then
        (stepWith recvOlsr config now event host.node).bind fun node =>
          .ok { host with node := node }
      else .ok host
  | .start => .ok { node := handleNodeStart config now host.node, isOperational := true }
  | .shutdown | .crash =>
      (handleNodeShutdown host.node).bind fun node =>
        .ok { node := node, isOperational := false }
  | .changeInterface =>
      (handleNodeShutdown host.node).bind fun node =>
        .ok { host with node := handleNodeStart config now node }

/-- The states of the runs with lifecycle operations, at any times. -/
inductive HostReached (config : Config) : Host → Prop where
  | initial (start maxTime : Int) :
      HostReached config { node := initialNode config start maxTime, isOperational := true }
  | step {host host' : Host} {now : Int} {event : HostEvent} (before : HostReached config host)
      (stepped : hostStep config now event host = .ok host') : HostReached config host'

def hostRun (config : Config) (events : List (Int × HostEvent)) (host : Host) :
    Except Fault Host :=
  events.foldlM (fun host (now, event) => hostStep config now event host) host

theorem hostRun_reached {config : Config} {events : List (Int × HostEvent)} {host host' : Host}
    (before : HostReached config host) (ran : hostRun config events host = .ok host') :
    HostReached config host' := by
  induction events generalizing host with
  | nil => exact Except.ok.inj ran ▸ before
  | cons first rest ih =>
      obtain ⟨now, event⟩ := first
      obtain ⟨next, stepped, ran⟩ := bind_ok.mp ran
      exact ih (before.step stepped) ran

end SyncFanet.Olsr
