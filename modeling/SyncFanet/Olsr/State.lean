import Mathlib.Data.Finset.Basic
import SyncFanet.Library.FirstMatch
import SyncFanet.Olsr.Packet

/-!
# Repositories of an OLSR node

The tuples of `OLSR_repositories.h` and the sets of `OLSR_state`. The vectors of
pointers are lists of tuples; a tuple that the code erases by pointer carries in
`id` its identity, which stands for its address in memory. A write through a
pointer that a search returned changes the first tuple the search matches.
-/

set_option autoImplicit false

namespace SyncFanet.Olsr

abbrev TupleId := Nat

structure IfaceAssocTuple where
  id : TupleId
  ifaceAddr : NsAddr
  mainAddr : NsAddr
  time : Int
  localIfaceIndex : Nat
  deriving DecidableEq, Repr

structure LinkTuple where
  id : TupleId
  localIfaceAddr : NsAddr
  nbIfaceAddr : NsAddr
  symTime : Int
  asymTime : Int
  lostTime : Int
  time : Int
  localIfaceIndex : Nat
  deriving DecidableEq, Repr

inductive NbStatus where
  | notSym
  | sym
  deriving DecidableEq, Repr

structure NbTuple where
  nbMainAddr : NsAddr
  status : NbStatus
  willingness : Nat
  deriving DecidableEq, Repr

structure Nb2hopTuple where
  id : TupleId
  nbMainAddr : NsAddr
  nb2hopAddr : NsAddr
  time : Int
  deriving DecidableEq, Repr

structure MprselTuple where
  id : TupleId
  mainAddr : NsAddr
  time : Int
  deriving DecidableEq, Repr

structure DupTuple where
  id : TupleId
  addr : NsAddr
  seqNum : Nat
  retransmitted : Bool
  ifaceList : List NsAddr
  time : Int
  deriving DecidableEq, Repr

structure TopologyTuple where
  id : TupleId
  destAddr : NsAddr
  lastAddr : NsAddr
  seq : Nat
  time : Int
  localIfaceIndex : Nat
  deriving DecidableEq, Repr

structure State where
  linkset : List LinkTuple := []
  nbset : List NbTuple := []
  nb2hopset : List Nb2hopTuple := []
  topologyset : List TopologyTuple := []
  mprset : Finset NsAddr := ∅
  mprselset : List MprselTuple := []
  dupset : List DupTuple := []
  ifaceassocset : List IfaceAssocTuple := []

namespace State

/-! ## MPR selector set -/

def findMprselTuple (state : State) (mainAddr : NsAddr) : Option MprselTuple :=
  state.mprselset.find? fun tuple => tuple.mainAddr = mainAddr

def updateMprselTuple (state : State) (mainAddr : NsAddr)
    (update : MprselTuple → MprselTuple) : State :=
  { state with mprselset :=
      updateFirst (fun tuple => tuple.mainAddr = mainAddr) update state.mprselset }

/-! ## Neighbor set -/

def findNbTuple (state : State) (mainAddr : NsAddr) : Option NbTuple :=
  state.nbset.find? fun tuple => tuple.nbMainAddr = mainAddr

def findSymNbTuple (state : State) (mainAddr : NsAddr) : Option NbTuple :=
  state.nbset.find? fun tuple => tuple.nbMainAddr = mainAddr ∧ tuple.status = .sym

def findNbTupleWilling (state : State) (mainAddr : NsAddr) (willingness : Nat) :
    Option NbTuple :=
  state.nbset.find? fun tuple =>
    tuple.nbMainAddr = mainAddr ∧ tuple.willingness = willingness

def eraseNbTuple (state : State) (mainAddr : NsAddr) : State :=
  { state with nbset := state.nbset.eraseP fun tuple => tuple.nbMainAddr = mainAddr }

def insertNbTuple (state : State) (tuple : NbTuple) : State :=
  { state with nbset := state.nbset ++ [tuple] }

def updateNbTuple (state : State) (mainAddr : NsAddr) (update : NbTuple → NbTuple) : State :=
  { state with nbset :=
      updateFirst (fun tuple => tuple.nbMainAddr = mainAddr) update state.nbset }

/-! ## 2-hop neighbor set -/

def findNb2hopTuple (state : State) (nbMainAddr nb2hopAddr : NsAddr) : Option Nb2hopTuple :=
  state.nb2hopset.find? fun tuple =>
    tuple.nbMainAddr = nbMainAddr ∧ tuple.nb2hopAddr = nb2hopAddr

def updateNb2hopTuple (state : State) (nbMainAddr nb2hopAddr : NsAddr)
    (update : Nb2hopTuple → Nb2hopTuple) : State :=
  { state with
    nb2hopset := updateFirst
      (fun tuple => tuple.nbMainAddr = nbMainAddr ∧ tuple.nb2hopAddr = nb2hopAddr) update
      state.nb2hopset }

/-! ## Link set -/

def findLinkTuple (state : State) (ifaceAddr : NsAddr) : Option LinkTuple :=
  state.linkset.find? fun tuple => tuple.nbIfaceAddr = ifaceAddr

/-- Only the first link tuple of the interface counts: the search stops there
whether or not it is symmetric. -/
def findSymLinkTuple (state : State) (ifaceAddr : NsAddr) (now : Int) : Option LinkTuple :=
  match state.findLinkTuple ifaceAddr with
  | some tuple => if tuple.symTime > now then some tuple else none
  | none => none

def insertLinkTuple (state : State) (tuple : LinkTuple) : State :=
  { state with linkset := state.linkset ++ [tuple] }

def eraseLinkTuple (state : State) (tuple : LinkTuple) : State :=
  { state with linkset := state.linkset.eraseP fun other => other.id = tuple.id }

def updateLinkTuple (state : State) (tuple : LinkTuple) : State :=
  { state with linkset :=
      updateFirst (fun other => other.id = tuple.id) (fun _ => tuple) state.linkset }

/-! ## Duplicate set -/

def findDupTuple (state : State) (addr : NsAddr) (seqNum : Nat) : Option DupTuple :=
  state.dupset.find? fun tuple => tuple.addr = addr ∧ tuple.seqNum = seqNum

def updateDupTuple (state : State) (addr : NsAddr) (seqNum : Nat)
    (update : DupTuple → DupTuple) : State :=
  { state with dupset :=
      updateFirst (fun tuple => tuple.addr = addr ∧ tuple.seqNum = seqNum) update state.dupset }

/-! ## Topology set -/

def findTopologyTuple (state : State) (destAddr lastAddr : NsAddr) : Option TopologyTuple :=
  state.topologyset.find? fun tuple =>
    tuple.destAddr = destAddr ∧ tuple.lastAddr = lastAddr

def findNewerTopologyTuple (state : State) (lastAddr : NsAddr) (ansn : Nat) :
    Option TopologyTuple :=
  state.topologyset.find? fun tuple => tuple.lastAddr = lastAddr ∧ tuple.seq > ansn

def updateTopologyTuple (state : State) (destAddr lastAddr : NsAddr)
    (update : TopologyTuple → TopologyTuple) : State :=
  { state with
    topologyset := updateFirst
      (fun tuple => tuple.destAddr = destAddr ∧ tuple.lastAddr = lastAddr) update
      state.topologyset }

/-! ## Interface association set -/

def findIfaceassocTuple (state : State) (ifaceAddr : NsAddr) : Option IfaceAssocTuple :=
  state.ifaceassocset.find? fun tuple => tuple.ifaceAddr = ifaceAddr

/-- `OLSR::get_main_addr`: the address itself unless an association names it. -/
def getMainAddr (state : State) (ifaceAddr : NsAddr) : NsAddr :=
  match state.findIfaceassocTuple ifaceAddr with
  | some tuple => tuple.mainAddr
  | none => ifaceAddr

@[simp] theorem getMainAddr_updateLinkTuple (state : State) (tuple : LinkTuple) :
    (state.updateLinkTuple tuple).getMainAddr = state.getMainAddr := rfl

@[simp] theorem findMprselTuple_updateLinkTuple (state : State) (tuple : LinkTuple) :
    (state.updateLinkTuple tuple).findMprselTuple = state.findMprselTuple := rfl

end State

/-- `OLSR::seq_num_bigger_than`, the circular order on sequence numbers. -/
def seqNumBiggerThan (s1 s2 : Nat) : Bool :=
  (s1 > s2 ∧ s1 - s2 ≤ maxSeqNum / 2) ∨ (s2 > s1 ∧ s2 - s1 > maxSeqNum / 2)

end SyncFanet.Olsr
