import SyncFanet.Olsr.Node

/-!
# The OLSR agent

Reception of packets, emission of messages, link failures and timers. Every
function that the source runs to completion returns the next node; a failed
assertion or a loop that does not end is a fault.
-/

set_option autoImplicit false

namespace SyncFanet.Olsr

/-! ## Link set and neighbor set -/

/-- `add_nb_tuple`. -/
def addNbTuple (state : State) (tuple : NbTuple) : State :=
  (state.eraseNbTuple tuple.nbMainAddr).insertNbTuple tuple

def symStatus (now : Int) (link : LinkTuple) : NbStatus :=
  if link.symTime ≥ now then .sym else .notSym

/-- `add_link_tuple`. -/
def addLinkTuple (now : Int) (link : LinkTuple) (willingness : Nat) (state : State) : State :=
  let state := state.insertLinkTuple link
  addNbTuple state {
    nbMainAddr := state.getMainAddr link.nbIfaceAddr
    status := symStatus now link
    willingness := willingness }

/-- `rm_link_tuple`: the neighbor tuple goes with the link tuple. -/
def rmLinkTuple (link : LinkTuple) (state : State) : State :=
  (state.eraseLinkTuple link).eraseNbTuple (state.getMainAddr link.nbIfaceAddr)

/-- `find_or_add_nb`: a new tuple replaces the one under the interface address. -/
def findOrAddNb (now : Int) (link : LinkTuple) (willingness : Nat) (state : State) : State :=
  match state.findNbTuple (state.getMainAddr link.nbIfaceAddr) with
  | some _ => state
  | none => addNbTuple (state.eraseNbTuple link.nbIfaceAddr) {
      nbMainAddr := state.getMainAddr link.nbIfaceAddr
      status := symStatus now link
      willingness := willingness }

/-- The status that `updated_link_tuple` computes from the one link tuple. -/
def linkStatus (config : Config) (now : Int) (link : LinkTuple) : NbStatus :=
  if config.useMac ∧ link.lostTime ≥ now then .notSym
  else if link.symTime ≥ now then .sym
  else .notSym

def updatedLinkTuple (config : Config) (now : Int) (link : LinkTuple) (willingness : Nat)
    (state : State) : State :=
  (findOrAddNb now link willingness state).updateNbTuple
    (state.getMainAddr link.nbIfaceAddr)
    fun tuple => { tuple with status := linkStatus config now link }

/-- `nb_loss`. -/
def nbLoss (config : Config) (now : Int) (link : LinkTuple) (node : Node) :
    Except Fault Node := do
  let mainAddr := node.state.getMainAddr link.nbIfaceAddr
  let node := node.mapState (updatedLinkTuple config now link willDefault)
  let node := (node.eraseNb2hopTuplesOf mainAddr).eraseMprselTuples mainAddr
  let node ← node.recomputeMprs config
  node.recomputeRtable now

def ipBroadcast : NsAddr := 4294967295

/-- `mac_failed`, which `processLinkBreak` calls when `use_mac` is set. -/
def macFailed (config : Config) (now : Int) (destAddr : NsAddr) (node : Node) :
    Except Fault Node :=
  if destAddr = ipBroadcast then .ok node
  else
    match node.rtable.lookup destAddr with
    | none => .ok node
    | some entry =>
        match node.state.findLinkTuple entry.nextAddr with
        | none => .ok node
        | some link =>
            let link := { link with
              lostTime := now + config.neighbHoldTime
              time := now + config.neighbHoldTime }
            nbLoss config now link (node.mapState fun state => state.updateLinkTuple link)

/-! ## HELLO messages -/

/-- Advertised links that `link_sensing` must not process. -/
def HelloMsg.invalid (helloMsg : HelloMsg) : Bool :=
  (helloMsg.linkType = symLink ∧ helloMsg.nbType = notNeigh) ∨
    (helloMsg.nbType ≠ symNeigh ∧ helloMsg.nbType ≠ mprNeigh ∧ helloMsg.nbType ≠ notNeigh)

/-- One link-code group: the first mention of the receiving interface decides. -/
def senseGroup (config : Config) (now validity : Int) (receiverIface : NsAddr)
    (acc : LinkTuple × Bool) (helloMsg : HelloMsg) : LinkTuple × Bool :=
  if helloMsg.invalid then acc
  else if receiverIface ∈ helloMsg.nbIfaceAddrs then
    if helloMsg.linkType = lostLink then
      ({ acc.1 with symTime := now - Time.second }, true)
    else if helloMsg.linkType = symLink ∨ helloMsg.linkType = asymLink then
      ({ acc.1 with
        symTime := now + validity
        time := now + validity + config.neighbHoldTime
        lostTime := 0 }, true)
    else acc
  else acc

/-- The link tuple after the HELLO, and whether it counts as updated. -/
def senseLink (config : Config) (now validity : Int) (receiverIface : NsAddr)
    (helloMsgs : List HelloMsg) (link : LinkTuple) (updated : Bool) : LinkTuple × Bool :=
  let (link, updated) := helloMsgs.foldl (senseGroup config now validity receiverIface)
    ({ link with asymTime := now + validity }, updated)
  ({ link with time := max link.time link.asymTime }, updated)

/-- A link tuple for a sending interface that has none. -/
def newLinkTuple (id : TupleId) (now validity : Int) (receiverIface senderIface : NsAddr)
    (index : Nat) : LinkTuple where
  id := id
  localIfaceAddr := receiverIface
  nbIfaceAddr := senderIface
  symTime := now - Time.second
  asymTime := 0
  lostTime := 0
  time := now + validity
  localIfaceIndex := index

/-- `link_sensing` of `OLSR` and `OLSROPT`, which differ in whether a known link
counts as updated from the start. The flag is `updated || created`. -/
def linkSensingWith (knownUpdated : Bool) (config : Config) (now : Int) (vtime : Nat)
    (hello : Hello) (receiverIface senderIface : NsAddr) (index : Nat) (node : Node) :
    Except Fault (Node × Bool) :=
  let validity := emfToSeconds vtime
  if maxHellos < hello.helloMsgs.length then .error (.assertFailed "hello.count")
  else if hello.helloMsgs.any fun group =>
      !group.invalid && decide (maxAddrs < group.nbIfaceAddrs.length) then
    .error (.assertFailed "hello_msg.count")
  else
    match node.state.findLinkTuple senderIface with
    | some known =>
        let (link, updated) :=
          senseLink config now validity receiverIface hello.helloMsgs known knownUpdated
        let state := node.state.updateLinkTuple link
        let state :=
          if updated then updatedLinkTuple config now link hello.willingness state else state
        .ok ({ node with state := state }, updated)
    | none =>
        let created := newLinkTuple node.nextId now validity receiverIface senderIface index
        let state := addLinkTuple now created hello.willingness node.state
        let (link, updated) :=
          senseLink config now validity receiverIface hello.helloMsgs created false
        let state := state.updateLinkTuple link
        let state :=
          if updated then updatedLinkTuple config now link hello.willingness state else state
        .ok ({ node with state := state, nextId := node.nextId + 1 }.scheduleTuple now
          (min link.time link.symTime) (.link link.id true), true)

/-- `populate_nbset` of both agents. -/
def populateNbset (hello : Hello) (origAddr : NsAddr) (state : State) : State :=
  state.updateNbTuple origAddr fun tuple => { tuple with willingness := hello.willingness }

/-- One advertised address in `populate_nb2hopset`; the flag is `changedTopology`. -/
def populateAddr (config : Config) (now validity : Int) (origAddr : NsAddr) (nbType : Nat)
    (acc : Node × Bool) (nb2hopAddr : NsAddr) : Node × Bool :=
  let node := acc.1
  if nbType = symNeigh ∨ nbType = mprNeigh then
    if nb2hopAddr = config.raAddr then acc
    else
      match node.state.findNb2hopTuple origAddr nb2hopAddr with
      | none => (node.addNb2hopTuple now origAddr nb2hopAddr validity, true)
      | some _ =>
          (node.mapState fun state => state.updateNb2hopTuple origAddr nb2hopAddr
            fun tuple => { tuple with time := now + validity }, acc.2)
  else if nbType = notNeigh then
    (node.eraseNb2hopTuples origAddr nb2hopAddr,
      acc.2 || (node.state.findNb2hopTuple origAddr nb2hopAddr).isSome)
  else acc

/-- The links that make `populate_nb2hopset` process the HELLO, once for each. -/
def symLinksOf (now : Int) (origAddr : NsAddr) (state : State) : List LinkTuple :=
  state.linkset.filter fun link =>
    state.getMainAddr link.nbIfaceAddr = origAddr ∧ link.symTime ≥ now

/-- `populate_nb2hopset` of `OLSR` and `OLSROPT`, which differ in the 2-hop address
they make of an advertised one. -/
def populateNb2hopsetWith (resolve : State → NsAddr → NsAddr) (config : Config) (now : Int)
    (vtime : Nat) (hello : Hello) (origAddr : NsAddr) (node : Node) :
    Except Fault (Node × Bool) :=
  let links := symLinksOf now origAddr node.state
  if links ≠ [] ∧ maxHellos < hello.helloMsgs.length then
    .error (.assertFailed "hello.count")
  else if links ≠ [] ∧ hello.helloMsgs.any fun group =>
      decide (maxAddrs < group.nbIfaceAddrs.length) then
    .error (.assertFailed "hello_msg.count")
  else
    .ok (links.foldl
      (fun acc _ => hello.helloMsgs.foldl
        (fun acc group => (group.nbIfaceAddrs.map (resolve node.state)).foldl
          (populateAddr config now (emfToSeconds vtime) origAddr group.nbType) acc) acc)
      (node, false))

/-- One advertised address in `populate_mprselset`. -/
def populateSelector (config : Config) (now validity : Int) (origAddr : NsAddr)
    (node : Node) (addr : NsAddr) : Node :=
  if node.state.getMainAddr addr = config.raAddr then
    match node.state.findMprselTuple origAddr with
    | none => node.addMprselTuple now origAddr validity
    | some _ =>
        node.mapState fun state => state.updateMprselTuple origAddr
          fun tuple => { tuple with time := now + validity }
  else node

/-- `populate_mprselset`. -/
def populateMprselset (config : Config) (now : Int) (vtime : Nat) (hello : Hello)
    (origAddr : NsAddr) (node : Node) : Except Fault Node :=
  let selecting := hello.helloMsgs.filter fun group => group.nbType = mprNeigh
  if maxHellos < hello.helloMsgs.length then .error (.assertFailed "hello.count")
  else if selecting.any fun group => decide (maxAddrs < group.nbIfaceAddrs.length) then
    .error (.assertFailed "hello_msg.count")
  else
    .ok (selecting.foldl
      (fun node group => group.nbIfaceAddrs.foldl
        (populateSelector config now (emfToSeconds vtime) origAddr) node) node)

/-- `OLSR::process_hello`. -/
def processHello (config : Config) (now : Int) (msg : Msg) (hello : Hello)
    (receiverIface senderIface : NsAddr) (index : Nat) (node : Node) :
    Except Fault Node := do
  let (node, _) ← linkSensingWith true config now msg.vtime hello receiverIface senderIface
    index node
  let node := node.mapState (populateNbset hello msg.origAddr)
  let (node, _) ← populateNb2hopsetWith State.getMainAddr config now msg.vtime hello
    msg.origAddr node
  let node ← node.recomputeMprs config
  populateMprselset config now msg.vtime hello msg.origAddr node

/-! ## TC and MID messages -/

/-- Step 4 of `OLSR::process_tc` for one advertised address. -/
def advertise (now : Int) (origAddr : NsAddr) (ansn : Nat) (validity : Int) (index : Nat)
    (node : Node) (addr : NsAddr) : Node :=
  match node.state.findTopologyTuple addr origAddr with
  | some _ =>
      node.mapState fun state => state.updateTopologyTuple addr origAddr
        fun tuple => { tuple with time := now + validity }
  | none => node.addTopologyTuple now addr origAddr ansn validity index

/-- `erase_older_topology_tuples`. -/
def eraseOlderTopologyTuples (lastAddr : NsAddr) (ansn : Nat) (node : Node) : Node :=
  node.eraseTopologyTuples fun tuple => tuple.lastAddr = lastAddr ∧ tuple.seq < ansn

/-- `OLSR::process_tc`. -/
def processTc (now : Int) (msg : Msg) (tc : Tc) (senderIface : NsAddr) (index : Nat)
    (node : Node) : Except Fault Node :=
  match node.state.findSymLinkTuple senderIface now with
  | none => .ok node
  | some _ =>
      match node.state.findNewerTopologyTuple msg.origAddr tc.ansn with
      | some _ => .ok node
      | none =>
          if maxAddrs < tc.nbMainAddrs.length then .error (.assertFailed "i < OLSR_MAX_ADDRS")
          else
            .ok (tc.nbMainAddrs.foldl
              (advertise now msg.origAddr tc.ansn (emfToSeconds msg.vtime) index)
              (eraseOlderTopologyTuples msg.origAddr tc.ansn node))

/-- `process_mid` for one interface address: every matching tuple is refreshed. -/
def associate (now : Int) (origAddr : NsAddr) (validity : Int) (index : Nat) (node : Node)
    (ifaceAddr : NsAddr) : Node :=
  let matching := fun tuple : IfaceAssocTuple =>
    decide (tuple.ifaceAddr = ifaceAddr ∧ tuple.mainAddr = origAddr)
  if node.state.ifaceassocset.any matching then
    node.mapState fun state => { state with
      ifaceassocset := state.ifaceassocset.map fun tuple =>
        if matching tuple then { tuple with time := now + validity } else tuple }
  else node.addIfaceassocTuple now ifaceAddr origAddr validity index

/-- `OLSR::process_mid`. -/
def processMid (now : Int) (msg : Msg) (mid : Mid) (senderIface : NsAddr) (index : Nat)
    (node : Node) : Node :=
  match node.state.findSymLinkTuple senderIface now with
  | none => node
  | some _ =>
      mid.ifaceAddrs.foldl (associate now msg.origAddr (emfToSeconds msg.vtime) index) node

/-! ## Forwarding and reception -/

/-- Whether `forward_default` retransmits: the TTL allows it and the sender is an
MPR selector. -/
def retransmits (msg : Msg) (srcAddr : NsAddr) (state : State) : Bool :=
  decide (1 < msg.ttl) && (state.findMprselTuple (state.getMainAddr srcAddr)).isSome

/-- `forward_default`; the duplicate tuple is the one found before processing. -/
def forwardDefault (config : Config) (now : Int) (msg : Msg) (dupTuple : Option DupTuple)
    (localIface srcAddr : NsAddr) (node : Node) : Node :=
  match node.state.findSymLinkTuple srcAddr now with
  | none => node
  | some _ =>
      if dupTuple.any DupTuple.retransmitted then node
      else
        let retransmitted := retransmits msg srcAddr node.state
        let node :=
          if retransmitted then
            node.enqueMsg config now
              { msg with ttl := msg.ttl - 1, hopCount := msg.hopCount + 1 }
          else node
        match dupTuple with
        | some _ =>
            node.mapState fun state => state.updateDupTuple msg.origAddr msg.msgSeqNum
              fun tuple => { tuple with
                time := now + dupHoldTime
                retransmitted := retransmitted
                ifaceList := tuple.ifaceList ++ [localIface] }
        | none =>
            node.addDupTuple now msg.origAddr msg.msgSeqNum retransmitted localIface

/-- The processing of a message that is no duplicate. -/
def processMsg (config : Config) (now : Int) (iface : Iface) (srcAddr : NsAddr) (msg : Msg)
    (node : Node) : Except Fault Node :=
  match msg.body with
  | .hello hello => processHello config now msg hello iface.addr srcAddr iface.index node
  | .tc tc => processTc now msg tc srcAddr iface.index node
  | .mid mid => .ok (processMid now msg mid srcAddr iface.index node)
  | .other _ => .ok node

/-- A message whose duplicate tuple exists has been processed before. -/
def processUnlessDuplicated (config : Config) (now : Int) (iface : Iface) (srcAddr : NsAddr)
    (msg : Msg) (duplicated : Option DupTuple) (node : Node) : Except Fault Node :=
  match duplicated with
  | none =>
      processMsg config now iface srcAddr msg
        (node.record (.processed msg.origAddr msg.msgSeqNum))
  | some _ => .ok node

/-- HELLO messages are never forwarded, and other messages not again when they were
considered on this interface. -/
def doForwarding (iface : Iface) (msg : Msg) (duplicated : Option DupTuple) : Bool :=
  match msg.body with
  | .hello _ => false
  | _ => !(duplicated.any fun tuple => decide (iface.addr ∈ tuple.ifaceList))

/-- The loop body of `recv_olsr`. -/
def recvMsg (config : Config) (now : Int) (iface : Iface) (srcAddr : NsAddr) (node : Node)
    (msg : Msg) : Except Fault Node :=
  if msg.ttl = 0 ∨ config.isLocalAddress msg.origAddr then .ok node
  else
    let duplicated := node.state.findDupTuple msg.origAddr msg.msgSeqNum
    (processUnlessDuplicated config now iface srcAddr msg duplicated node).bind fun node =>
      .ok (if doForwarding iface msg duplicated then
        forwardDefault config now msg duplicated iface.addr srcAddr node
      else node)

/-- `OLSR::recv_olsr` from the length check on. -/
def recvOlsr (config : Config) (now : Int) (iface : Iface) (srcAddr : NsAddr) (pkt : Pkt)
    (node : Node) : Except Fault Node :=
  if pkt.byteLength config.addrSize < pktHdrSize + msgHdrSize config.addrSize then .ok node
  else if maxMsgs < pkt.msgs.length then .error (.assertFailed "msgArraySize")
  else
    (pkt.msgs.foldlM (recvMsg config now iface srcAddr) node).bind fun node =>
      node.recomputeRtable now

end SyncFanet.Olsr
