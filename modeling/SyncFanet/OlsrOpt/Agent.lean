import SyncFanet.Olsr.Agent

/-!
# The OLSROPT agent

`OLSROPT` overrides the processing of HELLO and TC messages and the reception of
packets, to compute MPRs and routes only after a change. It takes every message as
received on its main address. Its `nb_loss` does what that of `OLSR` does.
-/

set_option autoImplicit false

namespace SyncFanet.OlsrOpt

open Olsr

/-! ## TC messages -/

/-- The loops of `update_topology_tuples`. Tuples of the originator that are not
advertised leave the set, the others take the ANSN and a new time, and an address
that matched none of them gets a tuple each time it is listed. The number counts the
changes. -/
def updateTopologyTuples (now : Int) (msg : Msg) (tc : Tc) (index : Nat) (node : Node) :
    Except Fault (Node × Nat) :=
  if tc.nbMainAddrs = [] then .ok (node, 0)
  else
    let validity := emfToSeconds msg.vtime
    let known := node.state.topologyset.filter fun tuple => tuple.lastAddr = msg.origAddr
    if known ≠ [] ∧ maxAddrs < tc.nbMainAddrs.length then
      .error (.assertFailed "i < OLSR_MAX_ADDRS")
    else
      let erased := fun tuple : TopologyTuple =>
        decide (tuple.lastAddr = msg.origAddr ∧ tuple.destAddr ∉ tc.nbMainAddrs)
      let node := (node.eraseTopologyTuples erased).mapState fun state => { state with
        topologyset := state.topologyset.map fun tuple =>
          if tuple.lastAddr = msg.origAddr then
            { tuple with seq := tc.ansn, time := now + validity }
          else tuple }
      let added := tc.nbMainAddrs.filter fun addr =>
        !(known.any fun tuple => tuple.destAddr = addr)
      .ok (added.foldl (fun node addr =>
          node.addTopologyTuple now addr msg.origAddr tc.ansn validity index) node,
        known.countP erased + added.length)

/-- `OLSROPT::process_tc`. -/
def processTc (now : Int) (msg : Msg) (tc : Tc) (senderIface : NsAddr) (index : Nat)
    (node : Node) : Except Fault (Node × Bool) :=
  match node.state.findSymLinkTuple senderIface now with
  | none => .ok (node, false)
  | some _ =>
      match node.state.findNewerTopologyTuple msg.origAddr tc.ansn with
      | some _ => .ok (node, false)
      | none =>
          (updateTopologyTuples now msg tc index node).bind fun (node, changedTuples) =>
            .ok (node, decide (changedTuples ≠ 0))

/-! ## HELLO messages -/

/-- `OLSROPT::process_hello`, which takes advertised addresses for main addresses. -/
def processHello (config : Config) (now : Int) (msg : Msg) (hello : Hello)
    (receiverIface senderIface : NsAddr) (index : Nat) (node : Node) :
    Except Fault (Node × Bool) := do
  let (node, ret2) ← linkSensingWith false config now msg.vtime hello receiverIface senderIface
    index node
  let node := node.mapState (populateNbset hello msg.origAddr)
  let (node, ret1) ← populateNb2hopsetWith (fun _ addr => addr) config now msg.vtime hello
    msg.origAddr node
  let node ← if ret1 || ret2 then node.recomputeMprs config else .ok node
  let node ← populateMprselset config now msg.vtime hello msg.origAddr node
  .ok (node, ret1 || ret2)

/-! ## Reception -/

/-- The interface that the agent takes messages to be received on. -/
def receiver (config : Config) (iface : Iface) : Iface := { iface with addr := config.raAddr }

/-- The processing of a message that is no duplicate, and what it adds to
`recalculateRoutes`. -/
def processMsg (config : Config) (now : Int) (iface : Iface) (srcAddr : NsAddr) (msg : Msg)
    (node : Node) : Except Fault (Node × Bool) :=
  match msg.body with
  | .hello hello => processHello config now msg hello iface.addr srcAddr iface.index node
  | .tc tc => processTc now msg tc srcAddr iface.index node
  | .mid mid => .ok (processMid now msg mid srcAddr iface.index node, false)
  | .other _ => .ok (node, false)

def processUnlessDuplicated (config : Config) (now : Int) (iface : Iface) (srcAddr : NsAddr)
    (msg : Msg) (duplicated : Option DupTuple) (node : Node) : Except Fault (Node × Bool) :=
  match duplicated with
  | none =>
      processMsg config now iface srcAddr msg
        (node.record (.processed msg.origAddr msg.msgSeqNum))
  | some _ => .ok (node, false)

/-- The loop body of `OLSROPT::recv_olsr`, with what it adds to `recalculateRoutes`. -/
def recvMsg (config : Config) (now : Int) (iface : Iface) (srcAddr : NsAddr) (node : Node)
    (msg : Msg) : Except Fault (Node × Bool) :=
  if msg.ttl = 0 ∨ config.isLocalAddress msg.origAddr then .ok (node, false)
  else
    let duplicated := node.state.findDupTuple msg.origAddr msg.msgSeqNum
    (processUnlessDuplicated config now iface srcAddr msg duplicated node).bind
      fun (node, changed) =>
        .ok (if doForwarding iface msg duplicated then
          forwardDefault config now msg duplicated iface.addr srcAddr node
        else node, changed)

/-- The messages of a packet in turn; the flag is `recalculateRoutes`. -/
def recvMsgs (config : Config) (now : Int) (iface : Iface) (srcAddr : NsAddr) :
    List Msg → Node × Bool → Except Fault (Node × Bool)
  | [], acc => .ok acc
  | msg :: rest, acc =>
      (recvMsg config now iface srcAddr acc.1 msg).bind fun (node, changed) =>
        recvMsgs config now iface srcAddr rest (node, acc.2 || changed)

/-- `OLSROPT::recv_olsr` from the length check on. -/
def recvOlsr (config : Config) (now : Int) (iface : Iface) (srcAddr : NsAddr) (pkt : Pkt)
    (node : Node) : Except Fault Node :=
  if pkt.byteLength config.addrSize < pktHdrSize + msgHdrSize config.addrSize then .ok node
  else if maxMsgs < pkt.msgs.length then .error (.assertFailed "msgArraySize")
  else
    (recvMsgs config now (receiver config iface) srcAddr pkt.msgs (node, false)).bind
      fun (node, recalculateRoutes) =>
        if recalculateRoutes || node.topologyChange then node.recomputeRtable now else .ok node

end SyncFanet.OlsrOpt
