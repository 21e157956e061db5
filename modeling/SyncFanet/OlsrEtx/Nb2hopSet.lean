import SyncFanet.Library.FirstMatch
import SyncFanet.Olsr.Agent
import SyncFanet.OlsrEtx.Messages

/-!
# 2-hop neighbors of OLSR_ETX

`OLSR_ETX::populate_nb2hopset` with the qualities and delays of the 2-hop tuples. Of a
node only what this function reads and writes is here.
-/

set_option autoImplicit false

namespace SyncFanet.OlsrEtx

open Olsr

/-- `etx` of an address, in the behaviour that the sender wrote into the group. -/
def QosAddress.etx (behaviour : LinkQuality) (addr : QosAddress) : ℚ :=
  etxOf behaviour (addr.linkQuality * addr.nbLinkQuality)

/-- Neighbor type in the bits above the link type. -/
def QosGroup.nbType (group : QosGroup) : Nat := group.linkCode >>> 2

/-- `OLSR_ETX_nb2hop_tuple`. -/
structure QosNb2hopTuple extends Nb2hopTuple where
  linkQuality : ℚ
  nbLinkQuality : ℚ
  etx : ℚ
  linkDelay : ℚ
  nbLinkDelay : ℚ
  deriving DecidableEq

namespace QosNb2hopTuple

def updateLinkQuality (behaviour : LinkQuality) (linkQuality nbLinkQuality : ℚ)
    (tuple : QosNb2hopTuple) : QosNb2hopTuple :=
  { tuple with
    linkQuality := linkQuality
    nbLinkQuality := nbLinkQuality
    etx := etxOf behaviour (linkQuality * nbLinkQuality) }

def updateLinkDelay (linkDelay nbLinkDelay : ℚ) (tuple : QosNb2hopTuple) : QosNb2hopTuple :=
  { tuple with linkDelay := linkDelay, nbLinkDelay := nbLinkDelay }

/-- A new tuple, with the link quality and link delay it is initialized with. -/
def created (behaviour : LinkQuality) (id : TupleId) (nbMainAddr nb2hopAddr : NsAddr)
    (time : Int) : QosNb2hopTuple where
  id := id
  nbMainAddr := nbMainAddr
  nb2hopAddr := nb2hopAddr
  time := time
  linkQuality := 0
  nbLinkQuality := 0
  etx := etxOf behaviour (0 * 0)
  linkDelay := 1
  nbLinkDelay := 1

/-- The information about the best link only. -/
def keepBest (behaviour sender : LinkQuality) (addr : QosAddress) (tuple : QosNb2hopTuple) :
    QosNb2hopTuple :=
  let rated :=
    match behaviour with
    | .etx =>
        if addr.etx sender < tuple.etx then
          tuple.updateLinkQuality behaviour addr.linkQuality addr.nbLinkQuality
        else tuple
    | .ml =>
        if addr.etx sender > tuple.etx then
          tuple.updateLinkQuality behaviour addr.linkQuality addr.nbLinkQuality
        else tuple
    | .none => tuple
  if addr.nbLinkDelay < rated.nbLinkDelay then
    rated.updateLinkDelay addr.linkDelay addr.nbLinkDelay
  else rated

end QosNb2hopTuple

structure Nb2hopNode where
  raAddr : NsAddr
  linkset : List LinkTuple
  ifaceassocset : List IfaceAssocTuple
  nb2hopset : List QosNb2hopTuple
  nextId : TupleId
  nb2hopTimers : List (TupleId × Int)
  deriving DecidableEq

namespace Nb2hopNode

/-- The sets that `get_main_addr` and the search for symmetric links read. -/
def base (node : Nb2hopNode) : State :=
  { linkset := node.linkset, ifaceassocset := node.ifaceassocset }

def is2hop (nbMainAddr nb2hopAddr : NsAddr) (tuple : QosNb2hopTuple) : Bool :=
  tuple.nbMainAddr = nbMainAddr ∧ tuple.nb2hopAddr = nb2hopAddr

def findNb2hopTuple (node : Nb2hopNode) (nbMainAddr nb2hopAddr : NsAddr) :
    Option QosNb2hopTuple :=
  node.nb2hopset.find? (is2hop nbMainAddr nb2hopAddr)

def updateNb2hopTuple (node : Nb2hopNode) (nbMainAddr nb2hopAddr : NsAddr)
    (update : QosNb2hopTuple → QosNb2hopTuple) : Nb2hopNode :=
  { node with nb2hopset := updateFirst (is2hop nbMainAddr nb2hopAddr) update node.nb2hopset }

/-- `add_nb2hop_tuple` and the timer of the tuple. -/
def addNb2hopTuple (node : Nb2hopNode) (behaviour : LinkQuality)
    (nbMainAddr nb2hopAddr : NsAddr) (time : Int) : Nb2hopNode :=
  { node with
    nb2hopset := node.nb2hopset ++
      [.created behaviour node.nextId nbMainAddr nb2hopAddr time]
    nextId := node.nextId + 1
    nb2hopTimers := node.nb2hopTimers ++ [(node.nextId, time)] }

def eraseNb2hopTuples (node : Nb2hopNode) (nbMainAddr nb2hopAddr : NsAddr) : Nb2hopNode :=
  { node with nb2hopset := node.nb2hopset.filter fun tuple => !is2hop nbMainAddr nb2hopAddr tuple }

end Nb2hopNode

/-- One advertised address in `populate_nb2hopset`. -/
def populateQosAddr (behaviour : LinkQuality) (validityTime : Int) (origAddr : NsAddr)
    (group : QosGroup) (node : Nb2hopNode) (addr : QosAddress) : Nb2hopNode :=
  let nb2hopAddr := node.base.getMainAddr addr.ifaceAddress
  if group.nbType = symNeigh ∨ group.nbType = mprNeigh then
    if nb2hopAddr = node.raAddr then node
    else
      let node :=
        match node.findNb2hopTuple origAddr nb2hopAddr with
        | none => node.addNb2hopTuple behaviour origAddr nb2hopAddr validityTime
        | some _ =>
            node.updateNb2hopTuple origAddr nb2hopAddr fun tuple =>
              { tuple with time := validityTime }
      node.updateNb2hopTuple origAddr nb2hopAddr
        (QosNb2hopTuple.keepBest behaviour group.qosBehaviour addr)
  else if group.nbType = notNeigh then node.eraseNb2hopTuples origAddr nb2hopAddr
  else node

/-- `OLSR_ETX::populate_nb2hopset`, which stops after the first symmetric link. -/
def populateNb2hopset (behaviour : LinkQuality) (now : Int) (msg : QosMessage QosHello)
    (node : Nb2hopNode) : Except Fault Nb2hopNode :=
  if symLinksOf now msg.origAddr node.base = [] then .ok node
  else if maxHellos < msg.body.helloMsgs.length then .error (.assertFailed "hello.count")
  else if msg.body.helloMsgs.any fun group =>
      decide (maxAddrs < group.nbIfaceAddrs.length) then
    .error (.assertFailed "hello_msg.count")
  else
    .ok (msg.body.helloMsgs.foldl
      (fun node group => group.nbIfaceAddrs.foldl
        (populateQosAddr behaviour (now + emfToSeconds msg.vtime) msg.origAddr group) node) node)

end SyncFanet.OlsrEtx
