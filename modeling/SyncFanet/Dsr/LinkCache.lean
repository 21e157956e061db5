import SyncFanet.Dsr.PathCache
import SyncFanet.Library.FirstMatch

/-!
# The link cache

The links of `DsrDataBase`, kept by the node they start from, and the functions that add
to them.
-/

set_option autoImplicit false

namespace SyncFanet.Dsr

/-- `DijkstraShortest::Edge`. -/
structure Edge where
  lastNode : InAddr
  costAdd : ℚ
  expires : SimTime
  deriving DecidableEq

/-- `DijkstraShortest::State`: the edge of a node is the one from `idPrev`. -/
structure RouteState where
  costAdd : ℚ
  idPrev : InAddr
  perm : Bool
  deriving DecidableEq

structure LinkCache where
  linkArray : Finmap fun _ : InAddr => List Edge
  routeMap : Finmap fun _ : InAddr => RouteState

namespace LinkCache

/-- `DsrDataBase::addEdge`. -/
def addEdge (now : SimTime) (cache : LinkCache) (originNode lastNode : InAddr) (cost : ℚ)
    (exp : Nat) : LinkCache :=
  let link : Edge := { lastNode := lastNode, costAdd := cost, expires := now + usecs exp }
  let links := (cache.linkArray.lookup originNode).getD []
  let written :=
    if links.any fun edge => edge.lastNode = lastNode then
      updateFirst (fun edge => edge.lastNode = lastNode) (fun _ => link) links
    else links ++ [link]
  { linkArray := cache.linkArray.insert originNode written, routeMap := ∅ }

/-- An edge in both directions. -/
def addEdges (now : SimTime) (timeout : Nat) (cache : LinkCache) (link : InAddr × InAddr) :
    LinkCache :=
  (cache.addEdge now link.1 link.2 1 timeout).addEdge now link.2 link.1 1 timeout

/-- The links from a node. -/
def links (cache : LinkCache) (originNode : InAddr) : List Edge :=
  (cache.linkArray.lookup originNode).getD []

/-- The links from a node without the first one to another. -/
def eraseEdge (cache : LinkCache) (originNode lastNode : InAddr) : LinkCache :=
  let left := (cache.links originNode).eraseP fun edge => edge.lastNode = lastNode
  { linkArray := cache.linkArray.insert originNode left, routeMap := ∅ }

/-- `DsrDataBase::deleteEdge`: it ends at the first link that it finds. -/
def deleteEdge (cache : LinkCache) (originNode lastNode : InAddr) (bidirectional : Bool) :
    LinkCache :=
  if cache.linkArray = ∅ then cache
  else if (cache.links originNode).any fun edge => edge.lastNode = lastNode then
    cache.eraseEdge originNode lastNode
  else if bidirectional ∧ (cache.links lastNode).any fun edge => edge.lastNode = originNode then
    cache.eraseEdge lastNode originNode
  else { cache with routeMap := ∅ }

/-- `ph_add_link_map`. -/
def phAddLinkMap (now : SimTime) (cache : LinkCache) (src dst : InAddr) (timeout : Nat) :
    LinkCache :=
  cache.addEdges now (timeout % 2 ^ 32) (src, dst)

/-- `ph_srt_add_link_map`: the first link, the last one, and those between relays. -/
def phSrtAddLinkMap (now : SimTime) (cache : LinkCache) (srt : DsrSrt) (timeout : Nat) :
    LinkCache :=
  let links :=
    match srt.addrs.head?, srt.addrs.getLast? with
    | some first, some last =>
        (srt.src, first) :: (srt.dst, last) :: srt.addrs.zip srt.addrs.tail
    | _, _ => [(srt.src, srt.dst)]
  links.foldl (addEdges now (timeout % 2 ^ 32)) cache

end LinkCache

end SyncFanet.Dsr
