import SyncFanet.Library.Fold
import SyncFanet.Olsr.Rtable

/-!
# Routing table computation

`OLSR::rtable_computation`: the symmetric neighbors, then the 2-hop neighbors,
then the topology set layer by layer, each layer followed by the interface
associations. The table starts empty.
-/

set_option autoImplicit false

namespace SyncFanet.Olsr

open Rtable (notMeasured)

/-! ## Symmetric neighbors -/

/-- Unexpired link tuples that resolve to the neighbor. -/
def linksOf (state : State) (now : Int) (nb : NbTuple) : List LinkTuple :=
  state.linkset.filter fun link =>
    state.getMainAddr link.nbIfaceAddr = nb.nbMainAddr ∧ link.time ≥ now

def addLinkEntry (rtable : Rtable) (link : LinkTuple) : Rtable :=
  rtable.addEntry link.nbIfaceAddr link.nbIfaceAddr link.localIfaceAddr 1
    link.localIfaceIndex notMeasured notMeasured

/-- The entry of the main address when no link is on it, through the last link. -/
def addMainEntry (rtable : Rtable) (nb : NbTuple) (lt : LinkTuple) : Rtable :=
  rtable.addEntry nb.nbMainAddr lt.nbIfaceAddr lt.localIfaceAddr 1 lt.localIfaceIndex
    notMeasured notMeasured

def addNeighborEntries (state : State) (now : Int) (rtable : Rtable) (nb : NbTuple) : Rtable :=
  if nb.status = .sym then
    let links := linksOf state now nb
    let rtable := links.foldl addLinkEntry rtable
    if links.any fun link => link.nbIfaceAddr = nb.nbMainAddr then rtable
    else
      match links.getLast? with
      | some lt => addMainEntry rtable nb lt
      | none => rtable
  else rtable

def neighborPass (state : State) (now : Int) : Rtable :=
  state.nbset.foldl (addNeighborEntries state now) []

/-! ## 2-hop neighbors -/

/-- The tuples of N2: the neighbor is symmetric and willing, the 2-hop address is
no symmetric neighbor. -/
def inN2 (state : State) (hop : Nb2hopTuple) : Bool :=
  match state.findSymNbTuple hop.nbMainAddr with
  | none => false
  | some _ =>
      match state.findNbTupleWilling hop.nbMainAddr willNever with
      | some _ => false
      | none => (state.findSymNbTuple hop.nb2hopAddr).isNone

/-- Whether the tuple replaces the entry that its 2-hop address already has. -/
def betterAlternative (state : State) (rtable : Rtable) (hop : Nb2hopTuple) : Bool :=
  match rtable.lookup hop.nb2hopAddr with
  | none => true
  | some entry2hop =>
      match state.findSymNbTuple entry2hop.nextAddr,
        state.findSymNbTuple hop.nbMainAddr with
      | some nbTupleOld, some nbTupleNew => !(nbTupleOld.willingness > nbTupleNew.willingness)
      | _, _ => true

def addTwoHopEntry (state : State) (rtable : Rtable) (hop : Nb2hopTuple) :
    Except Fault Rtable :=
  if inN2 state hop then
    match rtable.lookup hop.nbMainAddr with
    | none => .error (.assertFailed "entry != nullptr")
    | some entry =>
        if betterAlternative state rtable hop then
          .ok (rtable.addEntry hop.nb2hopAddr entry.nextAddr entry.ifaceAddr 2
            entry.localIfaceIndex notMeasured notMeasured)
        else .ok rtable
  else .ok rtable

def twoHopPass (state : State) (rtable : Rtable) : Except Fault Rtable :=
  state.nb2hopset.foldlM (addTwoHopEntry state) rtable

/-! ## Topology and interface associations -/

/-- Step 4.1 for one topology tuple; the flag is `added`. -/
def addTopologyEntry (h : Nat) (acc : Rtable × Bool) (tuple : TopologyTuple) : Rtable × Bool :=
  match acc.1.lookup tuple.destAddr, acc.1.lookup tuple.lastAddr with
  | none, some entry2 =>
      if entry2.dist = h then
        (acc.1.addEntryVia tuple.destAddr entry2.nextAddr entry2.ifaceAddr (h + 1)
          entry2.localIfaceIndex entry2 notMeasured notMeasured, true)
      else acc
  | _, _ => acc

/-- Step 5 for one interface association tuple. -/
def addAliasEntry (acc : Rtable × Bool) (tuple : IfaceAssocTuple) : Rtable × Bool :=
  match acc.1.lookup tuple.mainAddr, acc.1.lookup tuple.ifaceAddr with
  | some entry1, none =>
      (acc.1.addEntryVia tuple.ifaceAddr entry1.nextAddr entry1.ifaceAddr entry1.dist
        entry1.localIfaceIndex entry1 notMeasured notMeasured, true)
  | _, _ => acc

def topologyPass (state : State) (h : Nat) (rtable : Rtable) : Rtable × Bool :=
  state.topologyset.foldl (addTopologyEntry h) (rtable, false)

def aliasPass (state : State) (acc : Rtable × Bool) : Rtable × Bool :=
  state.ifaceassocset.foldl addAliasEntry acc

/-- The loop over `h`, which ends with the first layer that adds no entry. -/
def layers (state : State) : Nat → Nat → Rtable → Except Fault Rtable
  | 0, _, _ => .error .diverges
  | fuel + 1, h, rtable =>
      let (rtable, added) := aliasPass state (topologyPass state h rtable)
      if added then layers state fuel (h + 1) rtable else .ok rtable

/-- `OLSR::rtable_computation`. The last layer adds nothing and every other layer
adds an entry for a tuple that had none, which bounds the loop. -/
def rtableComputation (state : State) (now : Int) : Except Fault Rtable :=
  (twoHopPass state (neighborPass state now)).bind fun rtable =>
    layers state (state.topologyset.length + state.ifaceassocset.length + 1) 2 rtable

end SyncFanet.Olsr
