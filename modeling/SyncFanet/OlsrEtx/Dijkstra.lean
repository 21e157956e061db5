import SyncFanet.Olsr.Rtable
import SyncFanet.OlsrEtx.LinkSensing

/-!
# Dijkstra routes of OLSR_ETX

The class `Dijkstra` and `OLSR_ETX::rtable_dijkstra_computation`, which records the
links of three repositories in one graph. Sets of addresses are lists in ascending
order.
-/

set_option autoImplicit false

namespace SyncFanet.OlsrEtx

open Olsr

/-! ## The graph -/

structure Edge where
  lastNode : NsAddr
  quality : ℚ
  delay : ℚ
  deriving DecidableEq

structure Hop where
  link : Edge
  hopCount : Int
  deriving DecidableEq

/-- A node without a path, which `add_edge` enters with the hop count -1. -/
def unreached : Hop where
  link := { lastNode := 0, quality := 0, delay := 0 }
  hopCount := -1

/-- Insertion into a set of addresses. -/
def insertNode (node : NsAddr) : List NsAddr → List NsAddr
  | [] => [node]
  | head :: tail =>
      if head < node then head :: insertNode node tail
      else if head = node then head :: tail
      else node :: head :: tail

/-- The vectors of `link_array_` are one list, each edge with its destination. Every
node of the two sets has an entry in `dijkstraMap`, since `add_edge` enters it in all
three. -/
structure Dijkstra where
  linkArray : List (NsAddr × Edge) := []
  nonprocessedNodes : List NsAddr := []
  allNodes : List NsAddr := []
  dijkstraMap : NsAddr → Hop := fun _ => unreached

namespace Dijkstra

/-- `add_edge`. -/
def addEdge (dijkstra : Dijkstra) (destNode : NsAddr) (link : Edge) (directConnected : Bool) :
    Dijkstra where
  linkArray := dijkstra.linkArray ++ [(destNode, link)]
  nonprocessedNodes := insertNode destNode dijkstra.nonprocessedNodes
  allNodes := insertNode destNode dijkstra.allNodes
  dijkstraMap :=
    if directConnected then
      Function.update dijkstra.dijkstraMap destNode { link := link, hopCount := 1 }
    else if destNode ∈ dijkstra.allNodes then dijkstra.dijkstraMap
    else Function.update dijkstra.dijkstraMap destNode
      { dijkstra.dijkstraMap destNode with hopCount := -1 }

/-- Whether `best_cost` prefers a node to the best one before it. -/
def better (parameter : Parameter) (hop best : Hop) : Bool :=
  if parameter.linkDelay then hop.link.delay < best.link.delay
  else
    match parameter.linkQuality with
    | .etx => hop.link.quality < best.link.quality
    | .ml => hop.link.quality > best.link.quality
    | .none => false

def pickBest (parameter : Parameter) (dijkstraMap : NsAddr → Hop) (best : Option NsAddr)
    (node : NsAddr) : Option NsAddr :=
  if (dijkstraMap node).hopCount = -1 then best
  else
    match best with
    | none => some node
    | some other =>
        if better parameter (dijkstraMap node) (dijkstraMap other) then some node else some other

/-- `best_cost`. -/
def bestCost (parameter : Parameter) (dijkstra : Dijkstra) : Option NsAddr :=
  dijkstra.nonprocessedNodes.foldl (pickBest parameter dijkstra.dijkstraMap) none

/-- `get_edge`: the first edge that was recorded with these ends. -/
def getEdge (dijkstra : Dijkstra) (destNode lastNode : NsAddr) : Option Edge :=
  (dijkstra.linkArray.find? fun entry =>
    entry.1 = destNode ∧ entry.2.lastNode = lastNode).map Prod.snd

/-- The path to the current node, extended by an edge. -/
def extendHop (current : Hop) (edge : Edge) (quality delay : ℚ) : Hop where
  link := { lastNode := edge.lastNode, quality := quality, delay := delay }
  hopCount := current.hopCount + 1

/-- What becomes of the path to a node when an edge from the current node is tried. -/
def relax (parameter : Parameter) (current : Hop) (edge : Edge) (dest : Hop) : Hop :=
  let quality := current.link.quality + edge.quality
  let product := current.link.quality * edge.quality
  let delay := current.link.delay + edge.delay
  if dest.hopCount = -1 then
    match parameter.linkQuality with
    | .etx => extendHop current edge quality delay
    | .ml => extendHop current edge product delay
    | .none => dest
  else if parameter.linkDelay then
    match parameter.linkQuality with
    | .etx => if delay < dest.link.delay then extendHop current edge quality delay else dest
    | .ml => if delay < dest.link.delay then extendHop current edge product delay else dest
    | .none => dest
  else
    match parameter.linkQuality with
    | .etx =>
        if quality < dest.link.quality then extendHop current edge quality dest.link.delay
        else dest
    | .ml =>
        if product > dest.link.quality then extendHop current edge product dest.link.delay
        else dest
    | .none => dest

def relaxNode (parameter : Parameter) (current : NsAddr) (dijkstra : Dijkstra)
    (destNode : NsAddr) : Dijkstra :=
  if destNode ∈ dijkstra.nonprocessedNodes then
    match dijkstra.getEdge destNode current with
    | none => dijkstra
    | some edge =>
        { dijkstra with
          dijkstraMap := Function.update dijkstra.dijkstraMap destNode
            (relax parameter (dijkstra.dijkstraMap current) edge
              (dijkstra.dijkstraMap destNode)) }
  else dijkstra

/-- One round of `run`: the links of the best node, which is processed then. -/
def processNode (parameter : Parameter) (current : NsAddr) (dijkstra : Dijkstra) : Dijkstra :=
  let relaxed := dijkstra.allNodes.foldl (relaxNode parameter current) dijkstra
  { relaxed with nonprocessedNodes := relaxed.nonprocessedNodes.erase current }

/-- `run`. Every round processes a node, which bounds the loop. -/
def run (parameter : Parameter) : Nat → Dijkstra → Except Fault Dijkstra
  | 0, dijkstra =>
      if dijkstra.nonprocessedNodes = [] then .ok dijkstra else .error .diverges
  | fuel + 1, dijkstra =>
      match bestCost parameter dijkstra with
      | none => .ok dijkstra
      | some current => run parameter fuel (processNode parameter current dijkstra)

end Dijkstra

/-! ## The repositories -/

/-- The two qualities of a link in a link, 2-hop or topology tuple. Every write to one of
them recomputes `etx_` from both. -/
structure Qualities where
  linkQuality : ℚ
  nbLinkQuality : ℚ
  nbLinkDelay : ℚ
  deriving DecidableEq

def Qualities.etx (behaviour : LinkQuality) (qualities : Qualities) : ℚ :=
  etxOf behaviour (qualities.linkQuality * qualities.nbLinkQuality)

structure MetricLink extends LinkTuple where
  qualities : Qualities
  deriving DecidableEq

structure MetricNb2hop extends Nb2hopTuple where
  qualities : Qualities
  deriving DecidableEq

structure MetricTopology extends TopologyTuple where
  qualities : Qualities
  deriving DecidableEq

/-- The sets of `OLSR_ETX_state` that the routing table is computed from. -/
structure Repositories where
  linkset : List MetricLink
  nbset : List NbTuple
  nb2hopset : List MetricNb2hop
  topologyset : List MetricTopology
  ifaceassocset : List IfaceAssocTuple

namespace Repositories

def findSymLinkTuple (state : Repositories) (ifaceAddr : NsAddr) (now : Int) :
    Option MetricLink :=
  match state.linkset.find? fun tuple => tuple.nbIfaceAddr = ifaceAddr with
  | some tuple => if tuple.symTime > now then some tuple else none
  | none => none

def findSymNbTuple (state : Repositories) (mainAddr : NsAddr) : Option NbTuple :=
  state.nbset.find? fun tuple => tuple.nbMainAddr = mainAddr ∧ tuple.status = .sym

def findNbTupleWilling (state : Repositories) (mainAddr : NsAddr) (willingness : Nat) :
    Option NbTuple :=
  state.nbset.find? fun tuple =>
    tuple.nbMainAddr = mainAddr ∧ tuple.willingness = willingness

def findNb2hopTuple (state : Repositories) (nbMainAddr nb2hopAddr : NsAddr) :
    Option MetricNb2hop :=
  state.nb2hopset.find? fun tuple =>
    tuple.nbMainAddr = nbMainAddr ∧ tuple.nb2hopAddr = nb2hopAddr

def betterLink (parameter : Parameter) (tuple best : MetricLink) : Bool :=
  if parameter.linkDelay then tuple.qualities.nbLinkDelay < best.qualities.nbLinkDelay
  else
    match parameter.linkQuality with
    | .etx => tuple.qualities.etx .etx < best.qualities.etx .etx
    | .ml => tuple.qualities.etx .ml > best.qualities.etx .ml
    | .none => false

def pickLink (parameter : Parameter) (state : Repositories) (mainAddr : NsAddr) (now : Int)
    (best : Option MetricLink) (assoc : IfaceAssocTuple) : Option MetricLink :=
  if assoc.mainAddr = mainAddr then
    match state.findSymLinkTuple assoc.ifaceAddr now, best with
    | none, _ => best
    | some tuple, none => some tuple
    | some tuple, some other =>
        if betterLink parameter tuple other then some tuple else some other
  else best

/-- `find_best_sym_link_tuple`. -/
def findBestSymLinkTuple (parameter : Parameter) (state : Repositories) (mainAddr : NsAddr)
    (now : Int) : Option MetricLink :=
  match state.ifaceassocset.foldl (pickLink parameter state mainAddr now) none with
  | some best => some best
  | none => state.findSymLinkTuple mainAddr now

end Repositories

/-! ## Recording the graph -/

section

variable (parameter : Parameter) (raAddr : NsAddr) (state : Repositories) (now : Int)

/-- The edge that is recorded for a link with these qualities. -/
def edgeOver (lastNode : NsAddr) (qualities : Qualities) : Edge where
  lastNode := lastNode
  quality := qualities.etx parameter.linkQuality
  delay := qualities.nbLinkDelay

/-- The edge to a neighbor, over the best link to it. -/
def directEdge (nb : NbTuple) : Option (NsAddr × Edge) :=
  (state.findBestSymLinkTuple parameter nb.nbMainAddr now).map fun best =>
    (nb.nbMainAddr, edgeOver parameter best.localIfaceAddr best.qualities)

/-- The 2-hop tuples that count: the neighbor is symmetric and willing. -/
def usable2hop (hop : MetricNb2hop) : Bool :=
  decide (hop.nb2hopAddr ≠ raAddr) && (state.findSymNbTuple hop.nbMainAddr).isSome &&
    (state.findNbTupleWilling hop.nbMainAddr willNever).isNone

def hopEdge (hop : MetricNb2hop) : NsAddr × Edge :=
  (hop.nb2hopAddr, edgeOver parameter hop.nbMainAddr hop.qualities)

def topologyEdge (tuple : MetricTopology) : NsAddr × Edge :=
  (tuple.destAddr, edgeOver parameter tuple.lastAddr tuple.qualities)

/-- The vectors of `N` in one list: the tuple that `find_nb2hop_tuple` returns, once for
each pair of addresses. -/
def collectHop (links : List MetricNb2hop) (hop : MetricNb2hop) : List MetricNb2hop :=
  if usable2hop raAddr state hop then
    match state.findNb2hopTuple hop.nbMainAddr hop.nb2hopAddr with
    | none => links
    | some best =>
        if links.any fun link =>
            link.nbMainAddr = hop.nbMainAddr ∧ link.nb2hopAddr = hop.nb2hopAddr then links
        else links ++ [best]
  else links

/-- The 2-hop links, in the order of their neighbors' addresses. -/
def hopLinks : List MetricNb2hop :=
  let links := state.nb2hopset.foldl (collectHop raAddr state) []
  let index := links.foldl (fun index link => insertNode link.nbMainAddr index) []
  index.flatMap fun nbMainAddr => links.filter fun link => link.nbMainAddr = nbMainAddr

def directEdges : List (NsAddr × Edge) :=
  state.nbset.filterMap (directEdge parameter state now)

def topologyEdges : List (NsAddr × Edge) :=
  (state.topologyset.filter fun tuple => tuple.destAddr ≠ raAddr).map (topologyEdge parameter)

def farEdges : List (NsAddr × Edge) :=
  (hopLinks raAddr state).map (hopEdge parameter) ++ topologyEdges parameter raAddr state

/-- The graph before `run`. -/
def recordGraph : Dijkstra :=
  (farEdges parameter raAddr state).foldl (fun dijkstra edge => dijkstra.addEdge edge.1 edge.2 false)
    ((directEdges parameter state now).foldl
      (fun dijkstra edge => dijkstra.addEdge edge.1 edge.2 true) {})

/-! ## Routes -/

/-- The interface index -1, in the 32 bits of the field. -/
def noIfaceIndex : Nat := 4294967295

/-- Insertion into the multimap of nodes in the order of their hops. -/
def insertHops (hops : Int) (node : NsAddr) : List (Int × NsAddr) → List (Int × NsAddr)
  | [] => [(hops, node)]
  | head :: tail =>
      if head.1 ≤ hops then head :: insertHops hops node tail
      else (hops, node) :: head :: tail

def processedNodes (dijkstra : Dijkstra) : List (Int × NsAddr) :=
  dijkstra.allNodes.foldl
    (fun nodes node => insertHops (dijkstra.dijkstraMap node).hopCount node nodes) []

def addRoute (dijkstraMap : NsAddr → Hop) (rtable : Rtable) (processed : Int × NsAddr) :
    Except Fault Rtable :=
  let link := (dijkstraMap processed.2).link
  if processed.1 = 1 then
    .ok (rtable.addEntry processed.2 processed.2 link.lastNode 1 noIfaceIndex link.quality
      link.delay)
  else if processed.1 > 1 then
    match rtable.lookup link.lastNode with
    | none => .error (.runtimeError "entry not found")
    | some entry =>
        .ok (rtable.addEntry processed.2 entry.nextAddr entry.ifaceAddr processed.1.toNat
          entry.localIfaceIndex link.quality link.delay)
  else .ok rtable

/-- Step 5 for one interface association tuple. -/
def addAlias (rtable : Rtable) (tuple : IfaceAssocTuple) : Rtable :=
  match rtable.lookup tuple.mainAddr, rtable.lookup tuple.ifaceAddr with
  | some entry1, none =>
      rtable.addEntry tuple.ifaceAddr entry1.nextAddr entry1.ifaceAddr entry1.dist
        entry1.localIfaceIndex entry1.quality entry1.delay
  | _, _ => rtable

/-- The graph after `run`. -/
def dijkstraPaths : Except Fault Dijkstra :=
  let dijkstra := recordGraph parameter raAddr state now
  dijkstra.run parameter dijkstra.nonprocessedNodes.length

/-- `OLSR_ETX::rtable_dijkstra_computation`, as far as the table goes. -/
def rtableDijkstraComputation : Except Fault Rtable :=
  (dijkstraPaths parameter raAddr state now).bind fun dijkstra =>
    ((processedNodes dijkstra).foldlM (addRoute dijkstra.dijkstraMap) []).bind fun rtable =>
      .ok (state.ifaceassocset.foldl addAlias rtable)

end

end SyncFanet.OlsrEtx
