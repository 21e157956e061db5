import SyncFanet.Olsr.RtableComputation
import SyncFanet.Olsr.MprComputation

/-!
# Nodes

The fields of an `OLSR` agent, its timers and the operations on both that the
agent's functions are made of. A tuple that leaves its set while its timer is
pending stays with the timer, which frees it later: such tuples are detached.
-/

set_option autoImplicit false

namespace SyncFanet.Olsr

structure Iface where
  index : Nat
  addr : NsAddr
  deriving DecidableEq, Repr

/-- Parameters of an agent and the addresses of its host. The random stream of the
agent is the sequence of its jitters. -/
structure Config where
  raAddr : NsAddr
  ifaces : List Iface
  localAddrs : List NsAddr
  isInMacLayer : Bool
  addrSize : Nat
  useMac : Bool
  optimizedMid : Bool
  willingness : Nat
  refreshInterval : Int
  helloIval : Int
  tcIval : Int
  midIval : Int
  jitter : Nat → Nat
  raAddr_local : raAddr ∈ localAddrs
  ifaces_local : ∀ iface ∈ ifaces, iface.addr ∈ localAddrs
  refreshInterval_pos : 0 < refreshInterval
  jitter_le : ∀ draw, 4 * (jitter draw : Int) ≤ helloIval

namespace Config

def isLocalAddress (config : Config) (addr : NsAddr) : Bool := addr ∈ config.localAddrs

/-- `OLSR_NEIGHB_HOLD_TIME`. -/
def neighbHoldTime (config : Config) : Int := 3 * config.refreshInterval

end Config

/-- The timer classes. A link timer carries `first_time_`. -/
inductive Timer where
  | hello
  | tc
  | mid
  | msg
  | dup (id : TupleId)
  | link (id : TupleId) (firstTime : Bool)
  | nb2hop (id : TupleId)
  | mprsel (id : TupleId)
  | topology (id : TupleId)
  | ifaceAssoc (id : TupleId)
  deriving DecidableEq, Repr

inductive Action where
  | processed (origAddr : NsAddr) (msgSeqNum : Nat)
  | enqueued (msg : Msg)
  | sentTc (tc : Tc)
  | selectorsChanged
  | sentPkt (pkt : Pkt)
  deriving DecidableEq, Repr

structure Node where
  state : State
  rtable : Rtable := []
  msgs : List Msg := []
  pktSeq : Nat := maxSeqNum
  msgSeq : Nat := maxSeqNum
  ansn : Nat := maxSeqNum
  timerQueue : List (Int × Timer) := []
  topologyChange : Bool := false
  detachedNb2hop : List Nb2hopTuple := []
  detachedMprsel : List MprselTuple := []
  detachedTopology : List TopologyTuple := []
  nextId : TupleId
  draws : Nat := 0
  history : List Action := []

/-- `DELAY` and `DELAY_T`. -/
def delay (now time : Int) : Int :=
  if time < now then Time.microsecond else time - now + Time.microsecond

/-- Insertion into the multimap: after the timers of the same time. -/
def insertTimer (key : Int) (timer : Timer) : List (Int × Timer) → List (Int × Timer)
  | [] => [(key, timer)]
  | head :: tail =>
      if head.1 ≤ key then head :: insertTimer key timer tail
      else (key, timer) :: head :: tail

namespace Node

def mapState (node : Node) (update : State → State) : Node :=
  { node with state := update node.state }

def record (node : Node) (action : Action) : Node :=
  { node with history := node.history ++ [action] }

def schedule (node : Node) (key : Int) (timer : Timer) : Node :=
  { node with timerQueue := insertTimer key timer node.timerQueue }

/-- Schedule the deletion of a tuple that is valid until the given time. -/
def scheduleTuple (node : Node) (now time : Int) (timer : Timer) : Node :=
  node.schedule (now + delay now time) timer

/-- The next value of `jitter()`. -/
def drawJitter (node : Node) (config : Config) : Int × Node :=
  ((config.jitter node.draws : Int), { node with draws := node.draws + 1 })

/-- `enque_msg` with a jittered delay. -/
def enqueMsg (node : Node) (config : Config) (now : Int) (msg : Msg) : Node :=
  let (jitter, node) := node.drawJitter config
  ({ node with msgs := node.msgs ++ [msg] }.schedule (now + jitter) .msg).record (.enqueued msg)

def nextPktSeq (node : Node) : Node :=
  { node with pktSeq := (node.pktSeq + 1) % (maxSeqNum + 1) }

def nextMsgSeq (node : Node) : Node :=
  { node with msgSeq := (node.msgSeq + 1) % (maxSeqNum + 1) }

def nextAnsn (node : Node) : Node :=
  { node with ansn := (node.ansn + 1) % (maxSeqNum + 1) }

/-! ## Tuples and their timers -/

def addDupTuple (node : Node) (now : Int) (addr : NsAddr) (seqNum : Nat)
    (retransmitted : Bool) (localIface : NsAddr) : Node :=
  let tuple : DupTuple := {
    id := node.nextId
    addr := addr
    seqNum := seqNum
    retransmitted := retransmitted
    ifaceList := [localIface]
    time := now + dupHoldTime }
  { node with
    state := { node.state with dupset := node.state.dupset ++ [tuple] }
    nextId := node.nextId + 1 }.scheduleTuple now tuple.time (.dup tuple.id)

def addNb2hopTuple (node : Node) (now : Int) (nbMainAddr nb2hopAddr : NsAddr)
    (validity : Int) : Node :=
  let tuple : Nb2hopTuple := {
    id := node.nextId
    nbMainAddr := nbMainAddr
    nb2hopAddr := nb2hopAddr
    time := now + validity }
  { node with
    state := { node.state with nb2hopset := node.state.nb2hopset ++ [tuple] }
    nextId := node.nextId + 1 }.scheduleTuple now tuple.time (.nb2hop tuple.id)

/-- The two-address `erase_nb2hop_tuples`. -/
def eraseNb2hopTuples (node : Node) (nbMainAddr nb2hopAddr : NsAddr) : Node :=
  let erased := fun tuple : Nb2hopTuple =>
    decide (tuple.nbMainAddr = nbMainAddr ∧ tuple.nb2hopAddr = nb2hopAddr)
  { node with
    state := { node.state with nb2hopset := node.state.nb2hopset.filter fun t => !erased t }
    detachedNb2hop := node.detachedNb2hop ++ node.state.nb2hopset.filter erased }

/-- The one-address `erase_nb2hop_tuples`. -/
def eraseNb2hopTuplesOf (node : Node) (nbMainAddr : NsAddr) : Node :=
  let erased := fun tuple : Nb2hopTuple => decide (tuple.nbMainAddr = nbMainAddr)
  { node with
    state := { node.state with nb2hopset := node.state.nb2hopset.filter fun t => !erased t }
    detachedNb2hop := node.detachedNb2hop ++ node.state.nb2hopset.filter erased }

/-- `add_mprsel_tuple` and the timer of the tuple. -/
def addMprselTuple (node : Node) (now : Int) (mainAddr : NsAddr) (validity : Int) : Node :=
  let tuple : MprselTuple := {
    id := node.nextId
    mainAddr := mainAddr
    time := now + validity }
  (({ node with
    state := { node.state with mprselset := node.state.mprselset ++ [tuple] }
    nextId := node.nextId + 1 }.nextAnsn).record .selectorsChanged).scheduleTuple now tuple.time
      (.mprsel tuple.id)

/-- `erase_mprsel_tuples`, which leaves the ANSN alone. -/
def eraseMprselTuples (node : Node) (mainAddr : NsAddr) : Node :=
  let erased := fun tuple : MprselTuple => decide (tuple.mainAddr = mainAddr)
  let node' := { node with
    state := { node.state with mprselset := node.state.mprselset.filter fun t => !erased t }
    detachedMprsel := node.detachedMprsel ++ node.state.mprselset.filter erased }
  if node.state.mprselset.any erased then node'.record .selectorsChanged else node'

def addTopologyTuple (node : Node) (now : Int) (destAddr lastAddr : NsAddr) (seq : Nat)
    (validity : Int) (index : Nat) : Node :=
  let tuple : TopologyTuple := {
    id := node.nextId
    destAddr := destAddr
    lastAddr := lastAddr
    seq := seq
    time := now + validity
    localIfaceIndex := index }
  { node with
    state := { node.state with topologyset := node.state.topologyset ++ [tuple] }
    nextId := node.nextId + 1 }.scheduleTuple now tuple.time (.topology tuple.id)

/-- Erase the topology tuples that satisfy the condition, which stay with their
timers. -/
def eraseTopologyTuples (node : Node) (erased : TopologyTuple → Bool) : Node :=
  { node with
    state := { node.state with topologyset := node.state.topologyset.filter fun t => !erased t }
    detachedTopology := node.detachedTopology ++ node.state.topologyset.filter erased }

def addIfaceassocTuple (node : Node) (now : Int) (ifaceAddr mainAddr : NsAddr)
    (validity : Int) (index : Nat) : Node :=
  let tuple : IfaceAssocTuple := {
    id := node.nextId
    ifaceAddr := ifaceAddr
    mainAddr := mainAddr
    time := now + validity
    localIfaceIndex := index }
  { node with
    state := { node.state with ifaceassocset := node.state.ifaceassocset ++ [tuple] }
    nextId := node.nextId + 1 }.scheduleTuple now tuple.time (.ifaceAssoc tuple.id)

/-! ## The two computations -/

def recomputeMprs (node : Node) (config : Config) : Except Fault Node :=
  match mprComputation config.isLocalAddress node.state with
  | some mprset => .ok (node.mapState fun state => { state with mprset := mprset })
  | none => .error .diverges

def recomputeRtable (node : Node) (now : Int) : Except Fault Node :=
  (rtableComputation node.state now).bind fun rtable =>
    .ok { node with rtable := rtable, topologyChange := false }

end Node

/-- `initialize`: the associations of the own interfaces never expire and have no
timer; `maxTime` is the last representable time. -/
def initialNode (config : Config) (start maxTime : Int) : Node :=
  let assocs := config.ifaces.zipIdx.map fun (iface, position) => ({
    id := position
    ifaceAddr := iface.addr
    mainAddr := config.raAddr
    time := maxTime
    localIfaceIndex := iface.index } : IfaceAssocTuple)
  (((({ state := { ifaceassocset := assocs }, nextId := config.ifaces.length } : Node).schedule
    (start + config.helloIval) .hello).schedule
    (start + config.helloIval) .tc).schedule
    (start + config.helloIval) .mid)

end SyncFanet.Olsr
