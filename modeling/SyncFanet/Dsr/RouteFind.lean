import SyncFanet.Dsr.LinkRoutes
import SyncFanet.Dsr.PathStore
import SyncFanet.Dsr.Receive
import SyncFanet.Library.Fold

/-!
# Looking up a route

`RouteFind`, which `dsr_rtc_find` stands for: `ph_srt_find_map` with the path cache, where
the costs of the links decide if ETX is active, and `ph_srt_find_link_route_map` with the
link cache.
-/

set_option autoImplicit false

namespace SyncFanet.Dsr

/-! ## A path to a destination -/

namespace PathsCache

/-- The loop of `getPath`: the paths that have not expired, of which the valid ones with
costs have a new first cost, and the path chosen so far. -/
structure PathScan where
  live : List Path
  cost : ℚ
  chosen : Option (Nat × PathCacheRoute × SimTime)

/-- A round of the loop of `getPath`. -/
def scanPath (now : SimTime) (scan : PathScan) (path : Path) : PathScan :=
  if path.expires ≤ now then scan
  else if path.status ≠ valid then { scan with live := scan.live ++ [path] }
  else
    let path := { path with
      vectorCost :=
        match path.vectorCost with
        | [] => []
        | _ :: rest => scan.cost :: rest }
    let better : PathScan :=
      { live := scan.live ++ [path], cost := costPath path
        chosen := some (scan.live.length, path.route, path.expires) }
    match scan.chosen with
    | none => better
    | some (_, _, expire) =>
        if scan.cost > costPath path ∨ scan.cost = costPath path ∧ expire < path.expires then better
        else { scan with live := scan.live ++ [path] }

/-- `DsrDataBase::getPath`, with the cache it leaves. -/
def getPath (now : SimTime) (cache : PathsCache) (dest : InAddr) (timeout : Nat) :
    PathsCache × Option (PathCacheRoute × ℚ) :=
  match cache.lookup dest with
  | none => (cache, none)
  | some stored =>
      let scan := stored.foldl (scanPath now) { live := [], cost := 10 ^ 100, chosen := none }
      match scan.live, scan.chosen with
      | [], _ => (cache.erase dest, none)
      | live, none => (cache.insert dest live, none)
      | live, some (position, route, _) =>
          let kept :=
            if timeout > 0 then
              live.modify position fun path => { path with expires := now + usecs timeout }
            else live
          (cache.insert dest kept, some (route, scan.cost))

end PathsCache

/-- The source route that a lookup makes of a cached route. -/
def foundRoute (src dst : InAddr) (route : PathCacheRoute) : DsrSrt where
  src := src
  dst := dst
  flags := 0
  laddrs := route.length * dsrAddressSize
  addrs := route
  cost := []

/-! ## The path cache -/

/-- A round of the search for the cheapest path: the first cost is replaced by the one that
this node has for the link. -/
def cheaperPath (node : Node) (best : ℚ × PathCacheRoute)
    (path : PathCacheRoute × PathCacheCost) : Except Fault (ℚ × PathCacheRoute) :=
  match path.2 with
  | [] => .error .outOfBounds
  | _ :: rest =>
      let costRoute := (node.getCost (path.1.headD node.myaddr) :: rest).sum
      if costRoute < best.1 then .ok (costRoute, path.1) else .ok best

/-- The branch of `ph_srt_find_map` for active ETX. -/
def findCheapest (now : SimTime) (node : Node) (dst : InAddr) (timeout : Nat) :
    Except Fault (PathsCache × Option PathCacheRoute) :=
  let found := node.paths.paths.getPaths now dst
  match found.2 with
  | none => .ok (found.1, none)
  | some result =>
      (result.foldlM (cheaperPath node) (10 ^ 100, [])).bind fun best =>
        .ok (if timeout > 0 then found.1.setPathsTimer now dst best.2 timeout else found.1,
          some best.2)

/-- The loop of `ph_srt_find_map` over the nodes of a route. -/
def refreshRelays (now : SimTime) (paths : PathsCache) (route : PathCacheRoute) (timeout : Nat) :
    PathsCache :=
  route.dropLast.foldl
    (fun paths relay => paths.setPathsTimer now relay (route.take 1) timeout) paths

/-- `ph_srt_find_map`, with the parameter `refreshIntermediate`. -/
def phSrtFindMap (refreshIntermediate : Bool) (now : SimTime) (node : Node) (src dst : InAddr)
    (timeout : Nat) : Except Fault (Node × Option DsrSrt) :=
  (if node.config.etxActive then findCheapest now node dst timeout
    else
      let found := node.paths.paths.getPath now dst timeout
      .ok (found.1, found.2.map Prod.fst)).bind fun found =>
    match found.2 with
    | none => .ok ({ node with paths.paths := found.1 }, none)
    | some route =>
        let paths :=
          if refreshIntermediate then refreshRelays now found.1 route timeout else found.1
        let paths : PathCacheMap :=
          if paths ≠ ∅ ∧ node.paths.nextPurge ≤ now then
            { paths := paths.purgePathCache now, nextPurge := now + usecs timeout }
          else { paths := paths, nextPurge := node.paths.nextPurge }
        .ok ({ node with paths := paths }, some (foundRoute src dst route))

/-! ## Both caches -/

/-- `RouteFind`. -/
def Node.routeFind (refreshIntermediate : Bool) (now : SimTime) (chance : Nat → LinkCache.Chance)
    (node : Node) (src dst : InAddr) : Except Fault (Node × Option DsrSrt) :=
  let timeout := node.config.routeCacheTimeout % 2 ^ 32
  if node.config.pathCache then phSrtFindMap refreshIntermediate now node src dst timeout
  else
    (node.links.phSrtFindLinkRouteMap node.myaddr now chance src dst timeout).bind fun found =>
      .ok ({ node with links := found.1 }, found.2)

section

variable {refreshIntermediate : Bool} {now : SimTime} {chance : Nat → LinkCache.Chance}
  {node node' : Node} {src dst : InAddr} {srt : DsrSrt}

/-- A lookup changes no more than the caches, and finds a route with nothing but the nodes of
the cached one. -/
theorem Node.routeFind_ok {found : Option DsrSrt}
    (ran : node.routeFind refreshIntermediate now chance src dst = .ok (node', found)) :
    (∃ paths links, node' = { node with paths := paths, links := links }) ∧
      ∀ srt, found = some srt → srt = foundRoute src dst srt.addrs := by
  unfold Node.routeFind at ran
  dsimp only at ran
  split at ran
  · obtain ⟨chosen, _, ran⟩ := bind_ok.mp ran
    cases here : chosen.2 with
    | none =>
        rw [here] at ran
        cases ran
        exact ⟨⟨_, _, rfl⟩, fun _ failed => by cases failed⟩
    | some route =>
        rw [here] at ran
        cases ran
        exact ⟨⟨_, _, rfl⟩, fun _ same => by cases same; rfl⟩
  · obtain ⟨chosen, looked, ran⟩ := bind_ok.mp ran
    obtain ⟨inner, _, looked⟩ := bind_ok.mp looked
    cases looked
    cases ran
    refine ⟨⟨_, _, rfl⟩, fun srt same => ?_⟩
    cases here : inner.2 with
    | none =>
        rw [here] at same
        cases same
    | some route =>
        rw [here] at same
        cases same
        rfl

theorem Node.routeFind_some
    (ran : node.routeFind refreshIntermediate now chance src dst = .ok (node', some srt)) :
    srt = foundRoute src dst srt.addrs :=
  (Node.routeFind_ok ran).2 srt rfl

theorem Node.routeAdd_ok (ran : node.routeAdd now srt = .ok node') :
    ∃ paths links, node' = { node with paths := paths, links := links } := by
  unfold Node.routeAdd at ran
  split at ran
  · obtain ⟨stored, _, ran⟩ := bind_ok.mp ran
    cases ran
    exact ⟨_, _, rfl⟩
  · cases ran
    exact ⟨_, _, rfl⟩

end

end SyncFanet.Dsr
