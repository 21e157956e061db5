import SyncFanet.OlsrEtx.QualityRuns

/-!
# The sets of an OLSR_ETX agent

`OLSR_ETX::process_hello`, `OLSR_ETX::process_tc` and what an `OLSR_ETX` agent inherits
from `OLSR`, on the sets that they fill. The neighbor, MPR and duplicate sets, the routing
table and the timer queue are left out: an event says which message is processed, whose
timer fires or which link fails, and may name any of them.
-/

set_option autoImplicit false

namespace SyncFanet.OlsrEtx

open Olsr

structure EtxNode where
  linkset : List MeasuredLink := []
  nb2hopset : List QosNb2hopTuple := []
  mprselset : List MprselTuple := []
  topologyset : List QosTopologyTuple := []
  ifaceassocset : List IfaceAssocTuple := []
  nextId : TupleId

/-- What link sensing reads of an address. -/
def QosAddress.sensed (addr : QosAddress) : IfaceAddress where
  ifaceAddress := addr.ifaceAddress
  linkQuality := addr.linkQuality
  nbLinkQuality := addr.nbLinkQuality

def QosHello.sensed (hello : QosHello) : EtxHello where
  htime := hello.htime
  willingness := hello.willingness
  helloMsgs := hello.helloMsgs.map fun group => {
    linkCode := group.linkCode
    nbEtxIfaceAddrs := group.nbIfaceAddrs.map QosAddress.sensed }

def QosMessage.sensed (msg : QosMessage QosHello) : EtxMsg where
  vtime := msg.vtime
  origAddr := msg.origAddr
  ttl := msg.ttl
  hopCount := msg.hopCount
  msgSeqNum := msg.msgSeqNum
  body := .hello msg.body.sensed

namespace EtxNode

/-- The sets that `get_main_addr` and the searches for links read. -/
def base (node : EtxNode) : State where
  linkset := node.linkset.map MeasuredLink.toLinkTuple
  ifaceassocset := node.ifaceassocset

/-! ## HELLO messages -/

/-- One advertised address in `OLSR::populate_mprselset`. -/
def populateSelector (config : Config) (time : Int) (origAddr : NsAddr) (node : EtxNode)
    (addr : QosAddress) : EtxNode :=
  if node.base.getMainAddr addr.ifaceAddress = config.raAddr then
    match node.mprselset.find? fun tuple => tuple.mainAddr = origAddr with
    | none =>
        { node with
          mprselset := node.mprselset ++ [{
            id := node.nextId
            mainAddr := origAddr
            time := time }]
          nextId := node.nextId + 1 }
    | some _ =>
        { node with
          mprselset := updateFirst (fun tuple => tuple.mainAddr = origAddr)
            (fun tuple => { tuple with time := time }) node.mprselset }
  else node

/-- `OLSR::populate_mprselset`. -/
def populateMprselset (config : Config) (now : Int) (msg : QosMessage QosHello)
    (node : EtxNode) : Except Fault EtxNode :=
  let selecting := msg.body.helloMsgs.filter fun group => group.nbType = mprNeigh
  if maxHellos < msg.body.helloMsgs.length then .error (.assertFailed "hello.count")
  else if selecting.any fun group => decide (maxAddrs < group.nbIfaceAddrs.length) then
    .error (.assertFailed "hello_msg.count")
  else
    .ok (selecting.foldl
      (fun node group => group.nbIfaceAddrs.foldl
        (populateSelector config (now + emfToSeconds msg.vtime) msg.origAddr) node) node)

/-- What `populate_nb2hopset` reads and writes. -/
def nb2hopNode (config : Config) (node : EtxNode) : Nb2hopNode where
  raAddr := config.raAddr
  linkset := node.linkset.map MeasuredLink.toLinkTuple
  ifaceassocset := node.ifaceassocset
  nb2hopset := node.nb2hopset
  nextId := node.nextId
  nb2hopTimers := []

/-- `OLSR_ETX::process_hello`. -/
def processHello (behaviour : LinkQuality) (config : Config) (now : Int)
    (msg : QosMessage QosHello) (receiverIface senderIface : NsAddr)
    (pktSeqNum unsetIndex : Nat) (node : EtxNode) : Except Fault EtxNode :=
  (linkSensing behaviour config now msg.sensed msg.body.sensed receiverIface senderIface
    pktSeqNum unsetIndex { linkset := node.linkset, nextId := node.nextId }).bind fun sensed =>
  let node := { node with linkset := sensed.linkset, nextId := sensed.nextId }
  (populateNb2hopset behaviour now msg (node.nb2hopNode config)).bind fun populated =>
  populateMprselset config now msg
    { node with nb2hopset := populated.nb2hopset, nextId := populated.nextId }

/-! ## TC and MID messages -/

def isTopology (destAddr lastAddr : NsAddr) (tuple : QosTopologyTuple) : Bool :=
  tuple.destAddr = destAddr ∧ tuple.lastAddr = lastAddr

/-- Step 4 of `OLSR_ETX::process_tc` for one advertised address. -/
def advertise (time : Int) (origAddr : NsAddr) (ansn unsetIndex : Nat) (node : EtxNode)
    (addr : QosAddress) : EtxNode :=
  match node.topologyset.find? (isTopology addr.ifaceAddress origAddr) with
  | some _ =>
      { node with
        topologyset := updateFirst (isTopology addr.ifaceAddress origAddr)
          (fun tuple => .listed { tuple.toTopologyTuple with time := time } addr)
          node.topologyset }
  | none =>
      { node with
        topologyset := node.topologyset ++ [.listed {
          id := node.nextId
          destAddr := addr.ifaceAddress
          lastAddr := origAddr
          seq := ansn
          time := time
          localIfaceIndex := unsetIndex } addr]
        nextId := node.nextId + 1 }

/-- `OLSR_ETX::process_tc`, which leaves the interface index of a new tuple unset. -/
def processTc (now : Int) (msg : QosMessage QosTc) (senderIface : NsAddr) (unsetIndex : Nat)
    (node : EtxNode) : Except Fault EtxNode :=
  match node.base.findSymLinkTuple senderIface now with
  | none => .ok node
  | some _ =>
      if node.topologyset.any fun tuple =>
          tuple.lastAddr = msg.origAddr ∧ tuple.seq > msg.body.ansn then .ok node
      else if maxAddrs < msg.body.nbMainAddrs.length then
        .error (.assertFailed "i < OLSR_ETX_MAX_ADDRS")
      else
        let older := fun tuple : QosTopologyTuple =>
          decide (tuple.lastAddr = msg.origAddr ∧ tuple.seq < msg.body.ansn)
        .ok (msg.body.nbMainAddrs.foldl
          (advertise (now + emfToSeconds msg.vtime) msg.origAddr msg.body.ansn unsetIndex)
          { node with topologyset := node.topologyset.filter fun tuple => !older tuple })

/-- `OLSR::process_mid` for one interface address. -/
def associate (time : Int) (origAddr : NsAddr) (index : Nat) (node : EtxNode)
    (ifaceAddr : NsAddr) : EtxNode :=
  let matching := fun tuple : IfaceAssocTuple =>
    decide (tuple.ifaceAddr = ifaceAddr ∧ tuple.mainAddr = origAddr)
  if node.ifaceassocset.any matching then
    { node with ifaceassocset := node.ifaceassocset.map fun tuple =>
        if matching tuple then { tuple with time := time } else tuple }
  else
    { node with
      ifaceassocset := node.ifaceassocset ++ [{
        id := node.nextId
        ifaceAddr := ifaceAddr
        mainAddr := origAddr
        time := time
        localIfaceIndex := index }]
      nextId := node.nextId + 1 }

/-- `OLSR::process_mid`. -/
def processMid (now : Int) (msg : QosMessage Mid) (senderIface : NsAddr) (index : Nat)
    (node : EtxNode) : EtxNode :=
  match node.base.findSymLinkTuple senderIface now with
  | none => node
  | some _ =>
      msg.body.ifaceAddrs.foldl
        (associate (now + emfToSeconds msg.vtime) msg.origAddr index) node

/-! ## Losses and expiry -/

/-- What `OLSR_ETX::nb_loss` erases. -/
def nbLoss (link : MeasuredLink) (node : EtxNode) : EtxNode :=
  let mainAddr := node.base.getMainAddr link.nbIfaceAddr
  { node with
    nb2hopset := node.nb2hopset.filter fun tuple => tuple.nbMainAddr ≠ mainAddr
    mprselset := node.mprselset.filter fun tuple => tuple.mainAddr ≠ mainAddr }

/-- `OLSR::mac_failed` once it has found the link tuple of the next hop. -/
def macFailed (config : Config) (now : Int) (link : MeasuredLink) (node : EtxNode) : EtxNode :=
  nbLoss link { node with
    linkset := updateFirst (fun other => other.nbIfaceAddr = link.nbIfaceAddr)
      (fun other => { other with
        lostTime := now + config.neighbHoldTime
        time := now + config.neighbHoldTime }) node.linkset }

/-- `OLSR_LinkTupleTimer::expire`. -/
def expireLink (now : Int) (id : TupleId) (firstTime : Bool) (node : EtxNode) : EtxNode :=
  match node.linkset.find? fun link => link.id = id with
  | none => node
  | some link =>
      if link.time < now then
        { node with linkset := node.linkset.eraseP fun other => other.id = id }
      else if link.symTime < now then
        if firstTime then node else nbLoss link node
      else node

/-- The first tuple with the identity leaves its set once its time is over. -/
def expireTuple {Tuple : Type} (idOf : Tuple → TupleId) (timeOf : Tuple → Int) (now : Int)
    (id : TupleId) (tuples : List Tuple) : List Tuple :=
  match tuples.find? fun tuple => idOf tuple = id with
  | none => tuples
  | some tuple =>
      if timeOf tuple < now then tuples.eraseP fun other => idOf other = id else tuples

end EtxNode

/-! ## Runs -/

inductive EtxEvent where
  | hello (msg : QosMessage QosHello) (receiverIface senderIface : NsAddr) (pktSeqNum : Nat)
  | tc (msg : QosMessage QosTc) (senderIface : NsAddr)
  | mid (msg : QosMessage Mid) (senderIface : NsAddr) (index : Nat)
  | linkTimer (id : TupleId) (firstTime : Bool)
  | nb2hopTimer (id : TupleId)
  | mprselTimer (id : TupleId)
  | topologyTimer (id : TupleId)
  | ifaceAssocTimer (id : TupleId)
  | linkQualityTimer
  | linkBreak (nextAddr : NsAddr)

/-- One event at its time. -/
def EtxNode.step (behaviour : LinkQuality) (config : Config) (unsetIndex : Nat) (now : Int)
    (event : EtxEvent) (node : EtxNode) : Except Fault EtxNode :=
  match event with
  | .hello msg receiverIface senderIface pktSeqNum =>
      node.processHello behaviour config now msg receiverIface senderIface pktSeqNum unsetIndex
  | .tc msg senderIface => node.processTc now msg senderIface unsetIndex
  | .mid msg senderIface index => .ok (node.processMid now msg senderIface index)
  | .linkTimer id firstTime => .ok (node.expireLink now id firstTime)
  | .nb2hopTimer id =>
      .ok { node with
        nb2hopset := expireTuple (fun tuple => tuple.id) (fun tuple => tuple.time) now id
          node.nb2hopset }
  | .mprselTimer id =>
      .ok { node with
        mprselset := expireTuple MprselTuple.id MprselTuple.time now id node.mprselset }
  | .topologyTimer id =>
      .ok { node with
        topologyset := expireTuple (fun tuple => tuple.id) (fun tuple => tuple.time) now id
          node.topologyset }
  | .ifaceAssocTimer id =>
      .ok { node with
        ifaceassocset := expireTuple IfaceAssocTuple.id IfaceAssocTuple.time now id
          node.ifaceassocset }
  | .linkQualityTimer =>
      let checked := linkQuality behaviour now { linkset := node.linkset, nextId := node.nextId }
      .ok { node with linkset := checked.linkset }
  | .linkBreak nextAddr =>
      match node.linkset.find? fun link => link.nbIfaceAddr = nextAddr with
      | some link => if config.useMac then .ok (node.macFailed config now link) else .ok node
      | none => .ok node

/-- The nodes after any events at times that do not go back, from the associations of the
own interfaces. -/
inductive EtxReached (behaviour : LinkQuality) (config : Config) : Int → EtxNode → Prop where
  | initial (start maxTime : Int) :
      EtxReached behaviour config start {
        ifaceassocset := (initialNode config start maxTime).state.ifaceassocset
        nextId := config.ifaces.length }
  | step {clock now : Int} {node node' : EtxNode} (before : EtxReached behaviour config clock node)
      (later : clock ≤ now) (unsetIndex : Nat) (event : EtxEvent)
      (ran : node.step behaviour config unsetIndex now event = .ok node') :
      EtxReached behaviour config now node'

end SyncFanet.OlsrEtx
