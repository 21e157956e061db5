import Mathlib.Data.List.Sort
import SyncFanet.Dsr.LinkRemoval
import SyncFanet.Dsr.RouteFind
import SyncFanet.Dsr.RreqTable

/-!
# The life of a node

`handleOperationStage` and the events of a node. A handler of a message is given by the
calls it makes to the route caches, the timers and the request table, in any order.
-/

set_option autoImplicit false

namespace SyncFanet.Dsr

/-! ## Nodes with timers -/

/-- The timers of a node besides `etx_timer` and those of the request table. -/
inductive DsruuTimer where
  | gratRrepTbl
  | sendBuf
  | neighTbl
  | lc
  | ack
  deriving DecidableEq

/-- What does not change: the parameters for ETX in picoseconds, and those of the request
table. -/
structure LifeConfig where
  etxTime : SimTime
  etxWindowSize : SimTime
  rreq : RreqConfig
  refreshIntermediate : Bool

structure Agent where
  nodeActive : Bool
  node : Node
  rreqTable : RreqTable
  /-- The times of the probes received from each neighbour. -/
  etxNeighborTable : List (InAddr × List SimTime)
  timers : DsruuTimer → Option SimTime
  etxTimer : Option SimTime

/-! ## Calls -/

/-- A call that a handler makes. -/
inductive LifeCall where
  | routeAdd (srt : DsrSrt)
  | addNode (addr : InAddr)
  | addLink (src dst : InAddr)
  | deleteLink (src1 src2 : InAddr)
  | routeFind (chance : Nat → LinkCache.Chance) (src dst : InAddr)
  | setTimer (timer : DsruuTimer) (expires : SimTime)
  | delTimer (timer : DsruuTimer)
  | rreqAddId (initiator target : InAddr) (id : Nat) (cost : ℚ) (addr : List InAddr)
      (length : Int)
  | rreqDiscovery (target : InAddr)
  | rreqCancel (dst : InAddr)

/-- The call stores routes or links. -/
def LifeCall.learns : LifeCall → Bool
  | .routeAdd _ | .addNode _ | .addLink _ _ => true
  | _ => false

/-- The call may leave a timer pending. -/
def LifeCall.arms : LifeCall → Bool
  | .setTimer _ _ | .rreqDiscovery _ => true
  | _ => false

/-- `ph_srt_delete_link_map` on the caches of a node. -/
def Node.deleteLink (now : SimTime) (node : Node) (src1 src2 : InAddr) : Node :=
  let data := DataBase.phSrtDeleteLinkMap node.myaddr now
    { paths := node.paths.paths, links := node.links } src1 src2
  { node with paths := { node.paths with paths := data.paths }, links := data.links }

def LifeCall.perform (config : LifeConfig) (now : SimTime) (agent : Agent) :
    LifeCall → Except Fault Agent
  | .routeAdd srt =>
      (agent.node.routeAdd now srt).bind fun node => .ok { agent with node := node }
  | .addNode addr => .ok { agent with node := agent.node.phSrtAddNodeMap now addr }
  | .addLink src dst =>
      .ok { agent with
        node.links := agent.node.links.phAddLinkMap now src dst agent.node.config.routeCacheTimeout }
  | .deleteLink src1 src2 => .ok { agent with node := agent.node.deleteLink now src1 src2 }
  | .routeFind chance src dst =>
      (agent.node.routeFind config.refreshIntermediate now chance src dst).bind fun found =>
        .ok { agent with node := found.1 }
  | .setTimer timer expires =>
      .ok { agent with timers := Function.update agent.timers timer (some (max now expires)) }
  | .delTimer timer => .ok { agent with timers := Function.update agent.timers timer none }
  | .rreqAddId initiator target id cost addr length =>
      (rreqTblAddId config.rreq now agent.rreqTable initiator target id cost addr length).bind
        fun table => .ok { agent with rreqTable := table }
  | .rreqDiscovery target =>
      (dsrRreqRouteDiscovery config.rreq now agent.rreqTable target).bind fun found =>
        .ok { agent with rreqTable := found.1 }
  | .rreqCancel dst =>
      .ok { agent with rreqTable := (rreqTblRouteDiscoveryCancel agent.rreqTable dst).1 }

namespace Agent

/-- The calls of a handler in their order. -/
def handle (config : LifeConfig) (now : SimTime) (calls : List LifeCall) (agent : Agent) :
    Except Fault Agent :=
  calls.foldlM (LifeCall.perform config now) agent

/-! ## The events -/

/-- `EtxMsgSend`: neighbours whose probes are all too old are forgotten with their links, and
the timer is set again. -/
def etxMsgSend (config : LifeConfig) (now : SimTime) (agent : Agent) : Agent :=
  let table := agent.etxNeighborTable.map fun entry =>
    (entry.1, entry.2.dropWhile fun time => now - time > config.etxWindowSize)
  let node := (table.filter fun entry => entry.2 = []).foldl
    (fun node entry => node.deleteLink now node.myaddr entry.1) agent.node
  { agent with
    node := node
    etxNeighborTable := table.filter fun entry => entry.2 ≠ []
    etxTimer := some (now + config.etxTime) }

/-- `EtxMsgProc`, as far as the times of the probes go. -/
def etxMsgProc (config : LifeConfig) (now : SimTime) (agent : Agent) (src : InAddr) : Agent :=
  { agent with
    etxNeighborTable :=
      if agent.etxNeighborTable.any fun entry => entry.1 = src then
        updateFirst (fun entry => entry.1 = src)
          (fun entry => (entry.1,
            (entry.2.dropWhile fun time => now - time > config.etxWindowSize) ++ [now]))
          agent.etxNeighborTable
      else agent.etxNeighborTable.orderedInsert (fun entry other => entry.1 ≤ other.1) (src, [now]) }

/-- `cleanAllDataBase`, which leaves the route map. -/
def cleanAllDataBase (node : Node) : Node :=
  { node with
    paths := { node.paths with paths := ∅ }
    links := { node.links with linkArray := ∅ } }

/-- What `handleOperationStage` does for a shutdown and for a crash. -/
def stop (agent : Agent) : Agent where
  nodeActive := false
  node := { cleanAllDataBase agent.node with gratRrep := [] }
  rreqTable := { agent.rreqTable with dsrRreqTbl := ∅ }
  etxNeighborTable := []
  timers := fun _ => none
  etxTimer := none

/-- The events of a node: messages, timers, signals of the link layer and the operations of
its life. -/
inductive Event where
  | message (calls : List LifeCall)
  | probe (src : InAddr)
  | timer (timer : DsruuTimer) (calls : List LifeCall)
  | rreqTimer (key : InAddr)
  | etxTimer
  | signal (calls : List LifeCall)
  | nodeStart
  | nodeShutdown
  | nodeCrash

/-- An event, at the time of a timer where it is one. A node that is not active deletes the
messages that arrive, but not the signals. -/
def perform (config : LifeConfig) (now : SimTime) (agent : Agent) : Event → Except Fault Agent
  | .message calls => if agent.nodeActive then agent.handle config now calls else .ok agent
  | .probe src => if agent.nodeActive then .ok (agent.etxMsgProc config now src) else .ok agent
  | .timer timer calls =>
      if agent.timers timer ≠ some now then .ok agent
      -- the message of a timer is a part of it
      else if ¬agent.nodeActive then .error .danglingIterator
      else
        { agent with timers := Function.update agent.timers timer none }.handle config now calls
  | .rreqTimer key =>
      if (agent.rreqTable.dsrRreqTbl.lookup key).bind RreqTblEntry.timer ≠ some now then .ok agent
      else if ¬agent.nodeActive then .error .danglingIterator
      else
        (rreqTimerTest config.rreq now agent.rreqTable key).bind fun found =>
          .ok { agent with rreqTable := found.1 }
  | .etxTimer =>
      if agent.etxTimer ≠ some now then .ok agent
      else if ¬agent.nodeActive then .error .danglingIterator
      else .ok (agent.etxMsgSend config now)
  | .signal calls => agent.handle config now calls
  | .nodeStart => .ok { agent with nodeActive := true }
  | .nodeShutdown => .ok agent.stop
  | .nodeCrash => .ok agent.stop

/-- A node after `initialize`. -/
def initial (config : Config) (myaddr : InAddr) (getCost : InAddr → ℚ) : Agent where
  nodeActive := true
  node :=
    { config := config, myaddr := myaddr, paths := { paths := ∅, nextPurge := 0 }
      links := { linkArray := ∅, routeMap := ∅ }, gratRrep := [], getCost := getCost }
  rreqTable := { dsrRreqTbl := ∅, rreqInfoMap := ∅, rreqSeqno := 0 }
  etxNeighborTable := []
  timers := fun _ => none
  etxTimer := if config.etxActive then some 0 else none

end Agent

end SyncFanet.Dsr
