import Mathlib.Data.Finmap
import Mathlib.Data.Rat.Defs
import SyncFanet.Dsr.SourceRoute

/-!
# The path cache

The paths of `DsrDataBase`, kept by destination, and `ph_srt_add_map`, which stores in it
what a source route says about the routes of this node. Simulation times are integers in
picoseconds. A `std::map` is a finite map.
-/

set_option autoImplicit false

namespace SyncFanet.Dsr

abbrev SimTime := Int

/-- A duration given in microseconds. -/
def usecs (timeout : Nat) : SimTime := timeout * 1000000

theorem lt_add_usecs {now : SimTime} {timeout : Nat} (positive : 0 < timeout) :
    now < now + usecs timeout := by
  simp only [SimTime, usecs] at *
  omega

abbrev PathCacheRoute := List InAddr

abbrev PathCacheCost := List ℚ

/-- `DsrDataBase::Path`. -/
structure Path where
  status : Int
  cost : ℚ
  expires : SimTime
  route : PathCacheRoute
  vectorCost : PathCacheCost
  deriving DecidableEq

/-- The status `VALID`. -/
def valid : Int := 0

abbrev PathsCache := Finmap fun _ : InAddr => List Path

namespace PathsCache

/-- The paths to a destination, also where the map has no entry. -/
def paths (cache : PathsCache) (dest : InAddr) : List Path :=
  (cache.lookup dest).getD []

/-! ## Storing a path -/

/-- The loop of `setPath`: it ends at a path with the same route, and drops the expired
paths that it passes. -/
def setPathAmong (now : SimTime) (path : Path) : List Path → List Path
  | [] => [path]
  | old :: rest =>
      if path.route = old.route then path :: rest
      else if old.expires ≤ now then setPathAmong now path rest
      else old :: setPathAmong now path rest

/-- `DsrDataBase::setPath`. -/
def setPath (now : SimTime) (cache : PathsCache) (dest : InAddr) (route : PathCacheRoute)
    (costVect : PathCacheCost) (cost : ℚ) (status : Int) (timeout : Nat) : PathsCache :=
  let path : Path :=
    { status := status, cost := cost, expires := now + usecs timeout, route := route,
      vectorCost := costVect }
  cache.insert dest (setPathAmong now path (cache.paths dest))

/-! ## Finding a path -/

def costPath (path : Path) : ℚ :=
  match path.vectorCost with
  | [] => path.route.length + 1
  | costs => costs.sum

/-- The path that the search has chosen so far, with its position among the live paths. -/
structure Choice where
  position : Nat
  route : PathCacheRoute
  costVect : PathCacheCost
  cost : ℚ
  expire : SimTime

def choosePath (chosen : Option Choice) (cont : Nat) (path : Path) : Option Choice :=
  if path.status = valid then
    let better : Choice :=
      { position := cont, route := path.route, costVect := path.vectorCost,
        cost := costPath path, expire := path.expires }
    match chosen with
    | none => some better
    | some best =>
        if costPath path < best.cost ∨ best.cost = costPath path ∧ best.expire < path.expires then
          some better
        else some best
  else chosen

/-- `DsrDataBase::getPathCosVect`, with the cache it leaves. -/
def getPathCosVect (now : SimTime) (cache : PathsCache) (dest : InAddr) (timeout : Nat) :
    PathsCache × Option (PathCacheRoute × PathCacheCost × ℚ) :=
  match cache.lookup dest with
  | none => (cache, none)
  | some stored =>
      match stored.filter fun path => now < path.expires with
      | [] => (cache.erase dest, none)
      | live =>
          match live.zipIdx.foldl (fun chosen entry => choosePath chosen entry.2 entry.1) none with
          | none => (cache.insert dest live, none)
          | some best =>
              let kept :=
                if timeout > 0 then
                  live.modify best.position fun path =>
                    { path with expires := now + usecs timeout }
                else live
              (cache.insert dest kept, some (best.route, best.costVect, best.cost))

end PathsCache

/-! ## Learning from a source route -/

/-- The cache of an agent, with the time of its next purge. -/
structure PathCacheMap where
  paths : PathsCache
  nextPurge : SimTime

/-- A path handed to `setPath`. -/
structure StoredPath where
  dest : InAddr
  route : PathCacheRoute
  costVect : PathCacheCost
  deriving DecidableEq

/-- The parts of a source route from which paths are stored: `route` and `costVect` for
the nodes towards its destination, `route2` and `costVect2` for those towards its
source. -/
structure RouteParts where
  isFirst : Bool
  isLast : Bool
  pos : Option Nat
  route : PathCacheRoute
  costVect : PathCacheCost
  route2 : PathCacheRoute
  costVect2 : PathCacheCost

/-- The first `count` costs, where there are costs. -/
def leadingCosts (cost : List Nat) (count : Nat) : Except Fault PathCacheCost :=
  match cost with
  | [] => .ok []
  | cost => if count ≤ cost.length then .ok ((cost.take count).map (↑)) else .error .outOfBounds

def DsrSrt.parts (srt : DsrSrt) (myaddr : InAddr) : Except Fault RouteParts :=
  if srt.src = myaddr then
    .ok { isFirst := true, isLast := false, pos := none, route := srt.addrs,
          costVect := srt.cost.map (↑), route2 := [], costVect2 := [] }
  else if srt.dst = myaddr then
    .ok { isFirst := false, isLast := true, pos := none, route := [], costVect := [],
          route2 := srt.addrs.reverse, costVect2 := (srt.cost.map (↑)).reverse }
  else
    match srt.addrs.findIdx? fun addr => addr = myaddr with
    | none =>
        .ok { isFirst := false, isLast := false, pos := none, route := [], costVect := [],
              route2 := [], costVect2 := [] }
    | some pos =>
        (leadingCosts srt.cost (pos + 1)).bind fun costs =>
          .ok { isFirst := false, isLast := false, pos := some pos,
                route := srt.addrs.take pos, costVect := costs,
                route2 := (srt.addrs.take pos).reverse, costVect2 := costs.reverse }

/-- The loop that stores a path to each node of a route: the node at an index of `keys`,
with the part of the route before this index. -/
def subPaths (etxActive : Bool) (keys route : PathCacheRoute) (costVect : PathCacheCost) :
    Except Fault (List StoredPath) :=
  (List.range route.length).mapM fun i =>
    (at? keys i).bind fun dest =>
      .ok { dest := dest
            route := route.take i
            costVect := if etxActive ∧ i + 1 < costVect.length then costVect.take (i + 1) else [] }

/-- The condition under which `ph_srt_add_map` stores paths towards the source. -/
def bidirectional (srt : DsrSrt) (flags : Nat) : Prop :=
  srt.flags &&& srtBidir &&& flags ≠ 0

instance (srt : DsrSrt) (flags : Nat) : Decidable (bidirectional srt flags) :=
  inferInstanceAs (Decidable (_ ≠ _))

/-- The path to an end of the route, unless this node is that end. -/
def wholePath (myaddr dest : InAddr) (route : PathCacheRoute) (costVect : PathCacheCost) :
    List StoredPath :=
  if myaddr ≠ dest then [{ dest := dest, route := route, costVect := costVect }] else []

/-- The paths that `ph_srt_add_map` stores, in order. -/
def storedPaths (myaddr : InAddr) (etxActive : Bool) (srt : DsrSrt) (flags : Nat)
    (parts : RouteParts) : Except Fault (List StoredPath) :=
  (subPaths etxActive parts.route parts.route parts.costVect).bind fun towardsDst =>
    let forward := towardsDst ++ wholePath myaddr srt.dst parts.route parts.costVect
    if parts.isFirst then .ok forward
    else if bidirectional srt flags then
      -- the destinations are read from `route` here too
      (subPaths etxActive parts.route parts.route2 parts.costVect2).bind fun towardsSrc =>
        .ok (forward ++ towardsSrc ++ wholePath myaddr srt.src parts.route2 parts.costVect2)
    else .ok forward

/-- The search for neighbours on a route that this node is not on: what it finds is not
stored, but the search drops expired paths. -/
def searchNeighbors (now : SimTime) (cache : PathsCache) (srt : DsrSrt) : PathsCache :=
  srt.addrs.foldl (fun cache addr => (cache.getPathCosVect now addr 0).1) cache

/-- `DSRUU::ph_srt_add_map`, with the paths it stores. -/
def phSrtAddMap (myaddr : InAddr) (etxActive : Bool) (now : SimTime) (cache : PathCacheMap)
    (srt : DsrSrt) (timeout flags : Nat) (oportunity : Bool) :
    Except Fault (PathCacheMap × List StoredPath) :=
  let nextPurge := if cache.paths = ∅ then now + usecs timeout else cache.nextPurge
  (srt.parts myaddr).bind fun parts =>
    let searched :=
      if oportunity ∧ ¬parts.isFirst ∧ ¬parts.isLast ∧ parts.pos = none then
        searchNeighbors now cache.paths srt
      else cache.paths
    (storedPaths myaddr etxActive srt flags parts).bind fun stored =>
      let paths := stored.foldl (fun paths path =>
        paths.setPath now path.dest path.route path.costVect (path.route.length + 1) valid
          (timeout % 2 ^ 32)) searched
      .ok ({ paths := paths, nextPurge := nextPurge }, stored)

end SyncFanet.Dsr
