import Mathlib.Order.WithBot
import SyncFanet.Dsr.CostVector
import SyncFanet.Dsr.PathLookups

/-!
# The cheapest path with link costs

`ph_srt_find_map` for active ETX. The search compares sums in which a neighbour that is not
known counts for -1 and a direct path has the cost of this node itself; a path without costs
is read out of range. Of the nodes of the route only those before the last are refreshed, and
only the path over the first of them.
-/

set_option autoImplicit false

namespace SyncFanet.Dsr

open PathsCache

/-! ## What is searched for -/

/-- The cost of a path with the cost that this node has now for its first link, which ends at
the destination if there are no relays. -/
def trueCost (node : Node) (dst : InAddr) (path : Path) : WithTop ℚ :=
  let cost := node.getCost (path.route.headD dst)
  if cost = -1 then ⊤
  else
    match path.vectorCost with
    | [] => ((path.route.length + 1 : ℚ) : WithTop ℚ)
    | _ :: rest => ((cost + rest.sum : ℚ) : WithTop ℚ)

/-- The route of a live path that no other is cheaper than. -/
def CheapestRoute (node : Node) (dst : InAddr) (live : List Path) (route : PathCacheRoute) : Prop :=
  ∃ path ∈ live, path.route = route ∧ ∀ other ∈ live, trueCost node dst path ≤ trueCost node dst other

/-- The cached paths to the nodes of a route, over the nodes before them, have a new time. -/
def PrefixesRefreshed (now : SimTime) (timeout : Nat) (before after : PathsCache)
    (route : PathCacheRoute) : Prop :=
  ∀ i hop, route[i]? = some hop → (∃ path ∈ before.livePaths now hop, path.route = route.take i) →
    ∃ path ∈ after.paths hop, path.route = route.take i ∧ path.expires = now + usecs timeout

/-- What a lookup leaves and returns where there is a path. -/
structure FindsCheapest (refreshIntermediate : Bool) (now : SimTime) (node : Node)
    (src dst : InAddr) (timeout : Nat) (after : Node) (srt : DsrSrt) : Prop where
  made : srt = foundRoute src dst srt.addrs
  cheapest : CheapestRoute node dst (node.paths.paths.livePaths now dst) srt.addrs
  refreshed : refreshIntermediate = true → 0 < timeout →
    PrefixesRefreshed now timeout node.paths.paths after.paths.paths srt.addrs

/-- The lookup ends without an error, and finds a cheapest path if there is one. -/
def LooksUpCheapest (refreshIntermediate : Bool) (now : SimTime) (node : Node) (src dst : InAddr)
    (timeout : Nat) : Prop :=
  ∃ after found, phSrtFindMap refreshIntermediate now node src dst timeout = .ok (after, found) ∧
    if node.paths.paths.livePaths now dst = [] then found = none
    else ∃ srt, found = some srt ∧
      FindsCheapest refreshIntermediate now node src dst timeout after srt

/-! ## What the search compares -/

/-- The sum that the search has for a path. -/
def lookupSum (node : Node) (path : Path) : ℚ :=
  (node.getCost (path.route.headD node.myaddr) :: path.vectorCost.tail).sum

/-- The route of the first live path with the least sum, or none where all sums are too
large. -/
def FirstLeast (node : Node) (live : List Path) (route : PathCacheRoute) : Prop :=
  (∃ before path after, live = before ++ path :: after ∧ path.route = route ∧
      lookupSum node path < 10 ^ 100 ∧ (∀ other ∈ before, lookupSum node path < lookupSum node other) ∧
        ∀ other ∈ after, lookupSum node path ≤ lookupSum node other) ∨
    (∀ path ∈ live, 10 ^ 100 ≤ lookupSum node path) ∧ route = []

/-- The cached paths to the nodes of a route are among those that the loop refreshes, or have
the new time already. -/
def PrefixesCovered (now : SimTime) (timeout : Nat) (cache : PathsCache) (route : PathCacheRoute) :
    Prop :=
  ∀ i hop, route[i]? = some hop → ∀ path ∈ cache.livePaths now hop, path.route = route.take i →
    i = 1 ∧ hop ∈ route.dropLast ∨ path.expires = now + usecs timeout

/-- Every live path has costs, and the first one with the least sum is a cheapest one of which
the loop covers the nodes. -/
structure SumsFit (refreshIntermediate : Bool) (now : SimTime) (node : Node) (dst : InAddr)
    (timeout : Nat) : Prop where
  costs : ∀ path ∈ node.paths.paths.livePaths now dst, path.vectorCost ≠ []
  cheapest : node.paths.paths.livePaths now dst ≠ [] →
    ∀ route, FirstLeast node (node.paths.paths.livePaths now dst) route →
      CheapestRoute node dst (node.paths.paths.livePaths now dst) route ∧
        (refreshIntermediate = true → 0 < timeout →
          PrefixesCovered now timeout node.paths.paths route)

section

variable {now : SimTime} {node : Node} {src dst : InAddr} {timeout : Nat} {live : List Path}
  {route route' : PathCacheRoute}

theorem FirstLeast.unique (one : FirstLeast node live route) (other : FirstLeast node live route') :
    route = route' := by
  rcases one with ⟨before, path, after, split, rfl, small, first, least⟩ | ⟨large, rfl⟩
  · rcases other with ⟨before', path', after', split', rfl, small', first', least'⟩ | ⟨large, -⟩
    · rcases List.append_eq_append_iff.mp (split.symm.trans split') with
        ⟨between, rfl, rest⟩ | ⟨between, rfl, rest⟩
      · cases between with
        | nil => exact congrArg Path.route (List.cons.inj rest).1
        | cons head between =>
            obtain ⟨rfl, rfl⟩ := List.cons.inj rest
            have later := first' path (by simp)
            have sooner := least path' (by simp)
            exact absurd later (not_lt.mpr sooner)
      · cases between with
        | nil => exact congrArg Path.route (List.cons.inj rest).1.symm
        | cons head between =>
            obtain ⟨rfl, rfl⟩ := List.cons.inj rest
            have later := first path' (by simp)
            have sooner := least' path (by simp)
            exact absurd later (not_lt.mpr sooner)
    · exact absurd small (not_lt.mpr (large path (by simp [split])))
  · rcases other with ⟨before', path', after', split', rfl, small', -⟩ | ⟨-, rfl⟩
    · exact absurd small' (not_lt.mpr (large path' (by simp [split'])))
    · rfl

def BestSum (node : Node) (seen : List Path) (best : ℚ × PathCacheRoute) : Prop :=
  (∃ before path after, seen = before ++ path :: after ∧ best = (lookupSum node path, path.route) ∧
      lookupSum node path < 10 ^ 100 ∧ (∀ other ∈ before, lookupSum node path < lookupSum node other) ∧
        ∀ other ∈ after, lookupSum node path ≤ lookupSum node other) ∨
    (∀ path ∈ seen, 10 ^ 100 ≤ lookupSum node path) ∧ best = (10 ^ 100, [])

theorem BestSum.firstLeast {best : ℚ × PathCacheRoute} (sums : BestSum node live best) :
    FirstLeast node live best.2 := by
  rcases sums with ⟨before, path, after, split, rfl, small, first, least⟩ | ⟨large, rfl⟩
  · exact .inl ⟨before, path, after, split, rfl, small, first, least⟩
  · exact .inr ⟨large, rfl⟩

theorem BestSum.step {seen : List Path} {best : ℚ × PathCacheRoute} {path : Path}
    (sums : BestSum node seen best) :
    BestSum node (seen ++ [path])
      (if lookupSum node path < best.1 then (lookupSum node path, path.route) else best) := by
  have bound : best.1 ≤ 10 ^ 100 ∧ ∀ other ∈ seen, best.1 ≤ lookupSum node other := by
    rcases sums with ⟨before, chosen, after, rfl, rfl, small, first, least⟩ | ⟨large, rfl⟩
    · refine ⟨small.le, fun other member => ?_⟩
      rcases List.mem_append.mp member with earlier | later
      · exact (first other earlier).le
      · rcases List.mem_cons.mp later with rfl | later
        · exact le_refl _
        · exact least other later
    · exact ⟨le_refl _, large⟩
  by_cases better : lookupSum node path < best.1
  · rw [if_pos better]
    exact .inl ⟨seen, path, [], rfl, rfl, better.trans_le bound.1,
      fun other member => better.trans_le (bound.2 other member),
      fun other member => absurd member List.not_mem_nil⟩
  · rw [if_neg better]
    have worse := not_lt.mp better
    rcases sums with ⟨before, chosen, after, rfl, rfl, small, first, least⟩ | ⟨large, rfl⟩
    · refine .inl ⟨before, chosen, after ++ [path], by simp, rfl, small, first, ?_⟩
      intro other member
      rcases List.mem_append.mp member with later | last
      · exact least other later
      · rw [List.mem_singleton.mp last]
        exact worse
    · refine .inr ⟨fun other member => ?_, rfl⟩
      rcases List.mem_append.mp member with earlier | last
      · exact large other earlier
      · rw [List.mem_singleton.mp last]
        exact worse

/-! ## The search -/

theorem cheaperPath_costs {path : Path} (best : ℚ × PathCacheRoute) (costs : path.vectorCost ≠ []) :
    cheaperPath node best (path.route, path.vectorCost) =
      .ok (if lookupSum node path < best.1 then (lookupSum node path, path.route) else best) := by
  obtain ⟨first, rest, same⟩ := List.exists_cons_of_ne_nil costs
  simp only [cheaperPath, lookupSum, same, List.tail_cons]
  split <;> rfl

theorem foldlM_cheaperPath (node : Node) (costs : ∀ path ∈ live, path.vectorCost ≠ []) :
    ∃ best, (live.map fun path => (path.route, path.vectorCost)).foldlM (cheaperPath node)
        (10 ^ 100, []) = .ok best ∧ BestSum node live best := by
  rw [List.foldlM_map]
  refine foldlM_total_split _ (BestSum node) ?_ ?_
  · exact .inr ⟨fun path member => absurd member List.not_mem_nil, rfl⟩
  · intro seen path rest best split sums
    exact ⟨_, cheaperPath_costs best (costs path (by simp [split])), sums.step⟩

theorem foldlM_cheaperPath_error {path : Path} (best : ℚ × PathCacheRoute) (member : path ∈ live)
    (free : path.vectorCost = []) :
    (live.map fun path => (path.route, path.vectorCost)).foldlM (cheaperPath node) best =
      .error .outOfBounds := by
  induction live generalizing best with
  | nil => cases member
  | cons first live ih =>
      rw [List.map_cons, List.foldlM_cons]
      by_cases none : first.vectorCost = []
      · simp only [cheaperPath, none]
        rfl
      · have later : path ∈ live := by
          rcases List.mem_cons.mp member with rfl | later
          · exact absurd free none
          · exact later
        rw [cheaperPath_costs best none]
        exact ih _ later

theorem getPaths_found (now : SimTime) (cache : PathsCache) (dest : InAddr) :
    (cache.getPaths now dest).2 =
      if cache.livePaths now dest = [] then none
      else some ((cache.livePaths now dest).map fun path => (path.route, path.vectorCost)) := by
  unfold getPaths livePaths paths
  cases cache.lookup dest with
  | none => rfl
  | some stored =>
      dsimp only [Option.getD_some]
      split
      · next none => rw [if_pos none]
      · next some => rw [if_neg some]

theorem findCheapest_eq (node : Node) (timeout : Nat)
    (some : node.paths.paths.livePaths now dst ≠ []) :
    ((∃ path ∈ node.paths.paths.livePaths now dst, path.vectorCost = []) →
        findCheapest now node dst timeout = .error .outOfBounds) ∧
      ((∀ path ∈ node.paths.paths.livePaths now dst, path.vectorCost ≠ []) →
        ∃ route, FirstLeast node (node.paths.paths.livePaths now dst) route ∧
          findCheapest now node dst timeout =
            .ok (((node.paths.paths.getPaths now dst).1.setPathsTimer now dst route timeout),
              Option.some route)) := by
  unfold findCheapest
  dsimp only
  rw [getPaths_found, if_neg some]
  dsimp only
  constructor
  · rintro ⟨path, member, free⟩
    rw [foldlM_cheaperPath_error _ member free]
    rfl
  · intro costs
    obtain ⟨best, ran, sums⟩ := foldlM_cheaperPath node costs
    refine ⟨best.2, sums.firstLeast, ?_⟩
    rw [ran]
    dsimp only [Except.bind]
    split
    · rfl
    · next zero =>
        have none : timeout = 0 := by omega
        rw [setPathsTimer, if_pos none]

/-! ## What is refreshed -/

/-- No two paths to a destination have the same route. -/
def UniqueRoutes (cache : PathsCache) : Prop :=
  ∀ dest, ((cache.paths dest).map Path.route).Nodup

section

variable {cache : PathsCache} {dest key hop : InAddr} {path : Path} {relays : List InAddr}

/-- No cache has two paths with one route: `setPath` writes a path in the place of the one with
its route. -/
theorem uniqueRoutes_setPath {costVect : PathCacheCost} {cost : ℚ} {status : Int}
    (unique : UniqueRoutes cache) :
    UniqueRoutes (cache.setPath now dest route costVect cost status timeout) := by
  intro key
  by_cases here : key = dest
  · rw [here, setPath, paths_insert]
    exact routes_setPathAmong (unique dest)
  · rw [paths_setPath_ne here]
    exact unique key

theorem uniqueRoutes_setPathsTimer (unique : UniqueRoutes cache) :
    UniqueRoutes (cache.setPathsTimer now dest route timeout) := by
  intro key
  unfold setPathsTimer
  split
  · exact unique key
  · by_cases here : key = dest
    · rw [here, paths_updatePath]
      exact (unique dest).sublist (routes_updateAmong fun _ => rfl)
    · rw [paths_updatePath_ne here]
      exact unique key

theorem setPathsTimer_keeps (unique : UniqueRoutes cache) (unexpired : now < path.expires)
    (other : ¬(key = dest ∧ path.route = route)) (member : path ∈ cache.paths key) :
    path ∈ (cache.setPathsTimer now dest route timeout).paths key := by
  unfold setPathsTimer
  split
  · exact member
  · by_cases here : key = dest
    · subst here
      rw [paths_updatePath, mem_updateAmong (unique key) unexpired]
      exact .inl ⟨member, fun same => other ⟨rfl, same⟩⟩
    · rw [paths_updatePath_ne here]
      exact member

theorem setPathsTimer_refreshes (now : SimTime) (unique : UniqueRoutes cache) (positive : 0 < timeout)
    (member : path ∈ cache.paths dest) (same : path.route = route) :
    { path with expires := now + usecs timeout } ∈
      (cache.setPathsTimer now dest route timeout).paths dest := by
  rw [setPathsTimer, if_neg (Nat.pos_iff_ne_zero.mp positive), paths_updatePath,
    mem_updateAmong (unique dest) (lt_add_usecs positive)]
  exact .inr ⟨path, member, same, rfl⟩

def refreshAll (now : SimTime) (timeout : Nat) (route : PathCacheRoute) (relays : List InAddr)
    (cache : PathsCache) : PathsCache :=
  relays.foldl (fun cache relay => cache.setPathsTimer now relay route timeout) cache

theorem uniqueRoutes_refreshAll (unique : UniqueRoutes cache) :
    UniqueRoutes (refreshAll now timeout route relays cache) :=
  foldl_keeps _ UniqueRoutes unique fun _ _ _ => uniqueRoutes_setPathsTimer

theorem refreshAll_keeps (timeout : Nat) (route : PathCacheRoute) (unique : UniqueRoutes cache) (unexpired : now < path.expires)
    (other : ¬(key ∈ relays ∧ path.route = route)) (member : path ∈ cache.paths key) :
    path ∈ (refreshAll now timeout route relays cache).paths key := by
  have kept : UniqueRoutes (refreshAll now timeout route relays cache) ∧
      path ∈ (refreshAll now timeout route relays cache).paths key := by
    apply foldl_keeps _ fun cache : PathsCache => UniqueRoutes cache ∧ path ∈ cache.paths key
    · exact ⟨unique, member⟩
    · intro relay cache among kept
      exact ⟨uniqueRoutes_setPathsTimer kept.1, setPathsTimer_keeps kept.1 unexpired
        (fun both => other ⟨both.1 ▸ among, both.2⟩) kept.2⟩
  exact kept.2

theorem refreshAll_again (unique : UniqueRoutes cache) (positive : 0 < timeout)
    (new : path.expires = now + usecs timeout) (member : path ∈ cache.paths key) :
    path ∈ (refreshAll now timeout route relays cache).paths key := by
  have kept : UniqueRoutes (refreshAll now timeout route relays cache) ∧
      path ∈ (refreshAll now timeout route relays cache).paths key := by
    apply foldl_keeps _ fun cache : PathsCache => UniqueRoutes cache ∧ path ∈ cache.paths key
    · exact ⟨unique, member⟩
    · intro relay cache _ kept
      refine ⟨uniqueRoutes_setPathsTimer kept.1, ?_⟩
      by_cases here : key = relay ∧ path.route = route
      · have again := setPathsTimer_refreshes now kept.1 positive (here.1 ▸ kept.2) here.2
        rw [← new] at again
        rw [here.1]
        exact again
      · exact setPathsTimer_keeps kept.1 (new ▸ lt_add_usecs positive) here kept.2
  exact kept.2

theorem refreshAll_refreshes (unique : UniqueRoutes cache) (positive : 0 < timeout)
    (unexpired : now < path.expires) (among : key ∈ relays) (same : path.route = route)
    (member : path ∈ cache.paths key) :
    { path with expires := now + usecs timeout } ∈
      (refreshAll now timeout route relays cache).paths key := by
  obtain ⟨before, after, rfl, first⟩ := List.eq_append_cons_of_mem among
  have reached := refreshAll_keeps timeout route unique unexpired
    (fun both => first both.1) member
  have refreshed := setPathsTimer_refreshes now (uniqueRoutes_refreshAll unique) positive reached same
  have whole : refreshAll now timeout route (before ++ key :: after) cache =
      refreshAll now timeout route after
        ((refreshAll now timeout route before cache).setPathsTimer now key route timeout) := by
    rw [refreshAll, List.foldl_append, List.foldl_cons]
    rfl
  rw [whole]
  exact refreshAll_again (uniqueRoutes_setPathsTimer (uniqueRoutes_refreshAll unique)) positive rfl
    refreshed

theorem uniqueRoutes_getPaths (unique : UniqueRoutes cache) :
    UniqueRoutes (cache.getPaths now dest).1 := by
  intro key
  by_cases here : key = dest
  · rw [here, paths_getPaths]
    exact (unique dest).sublist (List.filter_sublist.map _)
  · rw [paths_getPaths_ne here]
    exact unique key

theorem getPaths_keeps (member : path ∈ cache.livePaths now key) :
    path ∈ (cache.getPaths now dest).1.paths key := by
  by_cases here : key = dest
  · subst here
    rw [paths_getPaths]
    exact member
  · rw [paths_getPaths_ne here]
    exact List.mem_of_mem_filter member

def refreshedCache (now : SimTime) (timeout : Nat) (dest : InAddr) (route : PathCacheRoute)
    (cache : PathsCache) : PathsCache :=
  refreshAll now timeout (route.take 1) route.dropLast
    ((cache.getPaths now dest).1.setPathsTimer now dest route timeout)

theorem uniqueRoutes_refreshedCache (unique : UniqueRoutes cache) :
    UniqueRoutes (refreshedCache now timeout dest route cache) :=
  uniqueRoutes_refreshAll (uniqueRoutes_setPathsTimer (uniqueRoutes_getPaths unique))

theorem winner_keeps {i : Nat} (timeout : Nat) (dest : InAddr) (unique : UniqueRoutes cache) (here : route[i]? = some hop)
    (member : path ∈ cache.livePaths now hop) (same : path.route = route.take i) :
    path ∈ ((cache.getPaths now dest).1.setPathsTimer now dest route timeout).paths hop := by
  refine setPathsTimer_keeps (uniqueRoutes_getPaths unique) (mem_livePaths member) ?_
    (getPaths_keeps member)
  rintro ⟨-, whole⟩
  have short := congrArg List.length (same.symm.trans whole)
  obtain ⟨inside, -⟩ := List.getElem?_eq_some_iff.mp here
  rw [List.length_take] at short
  omega

theorem prefixesRefreshed_iff {after : PathsCache} (unique : UniqueRoutes cache)
    (positive : 0 < timeout) (uniqueAfter : UniqueRoutes after)
    (kept : ∀ key path, now < path.expires →
      path ∈ (refreshedCache now timeout dest route cache).paths key → path ∈ after.paths key) :
    PrefixesRefreshed now timeout cache after route ↔ PrefixesCovered now timeout cache route := by
  have uniqueWinner : UniqueRoutes
      ((cache.getPaths now dest).1.setPathsTimer now dest route timeout) :=
    uniqueRoutes_setPathsTimer (uniqueRoutes_getPaths unique)
  have later : now < now + usecs timeout := lt_add_usecs positive
  constructor
  · intro refreshed i hop here path member same
    by_cases covered : i = 1 ∧ hop ∈ route.dropLast
    · exact .inl covered
    obtain ⟨inside, -⟩ := List.getElem?_eq_some_iff.mp here
    have missed : ¬(hop ∈ route.dropLast ∧ path.route = route.take 1) := by
      rintro ⟨among, first⟩
      have length := congrArg List.length (same.symm.trans first)
      rw [List.length_take, List.length_take] at length
      exact covered ⟨by omega, among⟩
    have unexpired := mem_livePaths member
    have stays := kept hop path unexpired (refreshAll_keeps timeout (route.take 1) uniqueWinner
      unexpired missed (winner_keeps timeout dest unique here member same))
    obtain ⟨new, among, same', time⟩ := refreshed i hop here ⟨path, member, same⟩
    have one : path = new :=
      List.inj_on_of_nodup_map (uniqueAfter hop) stays among (same.trans same'.symm)
    exact .inr (one ▸ time)
  · rintro covered i hop here ⟨path, member, same⟩
    have winner := winner_keeps timeout dest unique here member same
    rcases covered i hop here path member same with ⟨rfl, among⟩ | new
    · exact ⟨_, kept hop _ later (refreshAll_refreshes uniqueWinner positive (mem_livePaths member)
        among same winner), same, rfl⟩
    · exact ⟨path, kept hop path (mem_livePaths member)
        (refreshAll_again uniqueWinner positive new winner), same, new⟩

end

/-! ## The lookup -/

theorem phSrtFindMap_found {refreshIntermediate : Bool} (active : node.config.etxActive = true)
    (unique : UniqueRoutes node.paths.paths)
    (ran : findCheapest now node dst timeout =
      .ok ((node.paths.paths.getPaths now dst).1.setPathsTimer now dst route timeout, some route)) :
    ∃ after, phSrtFindMap refreshIntermediate now node src dst timeout =
        .ok (after, some (foundRoute src dst route)) ∧
      (refreshIntermediate = true → UniqueRoutes after.paths.paths ∧
        ∀ key path, now < path.expires →
          path ∈ (refreshedCache now timeout dst route node.paths.paths).paths key →
            path ∈ after.paths.paths.paths key) := by
  unfold phSrtFindMap
  rw [if_pos active, ran]
  dsimp only [Except.bind]
  refine ⟨_, rfl, fun refreshes => ?_⟩
  rw [if_pos refreshes]
  have same : refreshRelays now ((node.paths.paths.getPaths now dst).1.setPathsTimer now dst route
      timeout) route timeout = refreshedCache now timeout dst route node.paths.paths := rfl
  rw [same]
  split
  · refine ⟨fun key => ?_, fun key path unexpired member => ?_⟩
    · rw [purgePathCache, paths_keepPaths]
      exact (uniqueRoutes_refreshedCache unique key).sublist (List.filter_sublist.map _)
    · rw [purgePathCache, paths_keepPaths]
      exact List.mem_filter.mpr ⟨member, decide_eq_true unexpired⟩
  · exact ⟨uniqueRoutes_refreshedCache unique, fun key path _ member => member⟩

theorem phSrtFindMap_none {refreshIntermediate : Bool} (active : node.config.etxActive = true)
    (none : node.paths.paths.livePaths now dst = []) :
    ∃ after, phSrtFindMap refreshIntermediate now node src dst timeout =
      .ok (after, Option.none) := by
  have missing := getPaths_found now node.paths.paths dst
  rw [if_pos none] at missing
  unfold phSrtFindMap findCheapest
  dsimp only
  rw [if_pos active, missing]
  exact ⟨_, rfl⟩

theorem phSrtFindMap_error {refreshIntermediate : Bool} (active : node.config.etxActive = true)
    (fails : findCheapest now node dst timeout = .error .outOfBounds) :
    phSrtFindMap refreshIntermediate now node src dst timeout = .error .outOfBounds := by
  unfold phSrtFindMap
  rw [if_pos active, fails]
  rfl

/-- A cheapest path is found and its prefixes are refreshed if and only if every live path has
costs, and the first one with the least sum is a cheapest one of which the loop covers the
nodes. -/
theorem looksUpCheapest_iff (refreshIntermediate : Bool) (now : SimTime) (node : Node)
    (src dst : InAddr) (timeout : Nat) (active : node.config.etxActive = true)
    (unique : UniqueRoutes node.paths.paths) :
    LooksUpCheapest refreshIntermediate now node src dst timeout ↔
      SumsFit refreshIntermediate now node dst timeout := by
  by_cases none : node.paths.paths.livePaths now dst = []
  · obtain ⟨after, ran⟩ := phSrtFindMap_none active none
    refine iff_of_true ⟨after, Option.none, ran, ?_⟩ ⟨fun path member => ?_, fun some => ?_⟩
    · rw [if_pos none]
    · rw [none] at member
      exact absurd member List.not_mem_nil
    · exact absurd none some
  obtain ⟨fails, finds⟩ := findCheapest_eq node timeout none
  by_cases costs : ∀ path ∈ node.paths.paths.livePaths now dst, path.vectorCost ≠ []
  · obtain ⟨route, least, ran⟩ := finds costs
    obtain ⟨after, looked, leaves⟩ := phSrtFindMap_found active unique ran
    have covers : refreshIntermediate = true → 0 < timeout →
        (PrefixesRefreshed now timeout node.paths.paths after.paths.paths route ↔
          PrefixesCovered now timeout node.paths.paths route) := fun refreshes positive =>
      prefixesRefreshed_iff unique positive (leaves refreshes).1 (leaves refreshes).2
    constructor
    · rintro ⟨after', found, looked', finds⟩
      cases looked.symm.trans looked'
      rw [if_neg none] at finds
      obtain ⟨srt, same, finds⟩ := finds
      cases same
      refine ⟨costs, fun _ route' least' => ?_⟩
      obtain rfl := least.unique least'
      exact ⟨finds.cheapest, fun refreshes positive =>
        (covers refreshes positive).mp (finds.refreshed refreshes positive)⟩
    · intro fits
      obtain ⟨cheapest, covered⟩ := fits.cheapest none route least
      refine ⟨after, _, looked, ?_⟩
      rw [if_neg none]
      exact ⟨_, rfl, rfl, cheapest, fun refreshes positive =>
        (covers refreshes positive).mpr (covered refreshes positive)⟩
  · refine iff_of_false ?_ fun fits => costs fits.costs
    obtain ⟨path, member, free⟩ : ∃ path ∈ node.paths.paths.livePaths now dst,
        path.vectorCost = [] := by
      by_contra all
      exact costs fun path member free => all ⟨path, member, free⟩
    rintro ⟨after, found, looked, -⟩
    rw [phSrtFindMap_error active (fails ⟨path, member, free⟩)] at looked
    cases looked

end

/-- Paths to the node 2, first over a worse link and then over more relays, and to one of these
relays. -/
def twoWays : PathsCache :=
  (((∅ : PathsCache).setPath 0 2 [4] [2, 5] 2 valid 10).setPath 0 2 [3, 5, 6] [1, 1, 1, 1] 4
    valid 10).setPath 0 5 [3] [1, 1] 2 valid 10

theorem uniqueRoutes_twoWays : UniqueRoutes twoWays := by
  have none : UniqueRoutes ∅ := fun dest => by simp [paths]
  exact uniqueRoutes_setPath (uniqueRoutes_setPath (uniqueRoutes_setPath none))

/-- A node that knows them, with the neighbours 3 and 4. -/
def betweenNeighbors : Node :=
  { etxNode 1 [(3, 1), (4, 1 / 2)] with paths := { paths := twoWays, nextPurge := 0 } }

/-- The second path is found, and the one to its second relay is refreshed. -/
theorem looksUpCheapest_twoWays : LooksUpCheapest true 0 betweenNeighbors 1 2 5 := by
  let byFour : Path :=
    { status := valid, cost := 2, expires := usecs 10, route := [4], vectorCost := [2, 5] }
  let byThree : Path :=
    { status := valid, cost := 4, expires := usecs 10, route := [3, 5, 6],
      vectorCost := [1, 1, 1, 1] }
  have live : twoWays.livePaths 0 2 = [byFour, byThree] := by decide +kernel
  have sumFour : lookupSum betweenNeighbors byFour = 7 := by decide +kernel
  have sumThree : lookupSum betweenNeighbors byThree = 4 := by decide +kernel
  refine (looksUpCheapest_iff true 0 betweenNeighbors 1 2 5 rfl uniqueRoutes_twoWays).mpr
    ⟨fun path member => ?_, fun _ route least => ?_⟩
  · have member : path ∈ twoWays.livePaths 0 2 := member
    rw [live] at member
    rcases List.mem_pair.mp member with rfl | rfl <;> simp [byFour, byThree]
  · obtain rfl : route = [3, 5, 6] := by
      refine least.unique (.inl ⟨[byFour], byThree, [], live, rfl, ?_, ?_, by simp⟩)
      · rw [sumThree]
        norm_num
      · intro other member
        rw [List.mem_singleton.mp member, sumThree, sumFour]
        norm_num
    have costs : trueCost betweenNeighbors 2 byThree ≤ trueCost betweenNeighbors 2 byFour := by
      decide +kernel
    constructor
    · refine ⟨byThree, ?_, rfl, fun other member => ?_⟩
      · exact live ▸ List.mem_cons_of_mem _ List.mem_cons_self
      · have member : other ∈ twoWays.livePaths 0 2 := member
        rw [live] at member
        rcases List.mem_pair.mp member with rfl | rfl
        · exact costs
        · exact le_refl _
    · intro _ _ i hop here path member same
      have lone : ∀ relay ∈ [3, 6], twoWays.livePaths 0 relay = [] := by decide +kernel
      have member : path ∈ twoWays.livePaths 0 hop := member
      match i, here with
      | 0, rfl => rw [lone 3 (by decide)] at member; cases member
      | 1, rfl => exact .inl ⟨rfl, by decide⟩
      | 2, rfl => rw [lone 6 (by decide)] at member; cases member

/-- A node with a path to the node 2 over its neighbour 3. -/
def overNeighbor (costs : PathCacheCost) : Node :=
  { etxNode 1 [(3, 1)] with
    paths :=
      { paths := Finmap.singleton 2
          [{ status := valid, cost := 0, expires := 10, route := [3], vectorCost := costs }]
        nextPurge := 0 } }

/-- The first element of a path without costs is written. -/
theorem not_looksUpCheapest_overNeighbor :
    phSrtFindMap true 0 (overNeighbor []) 1 2 5 = .error .outOfBounds ∧
      ¬LooksUpCheapest true 0 (overNeighbor []) 1 2 5 := by
  have only : (overNeighbor []).paths.paths.livePaths 0 2 =
      [{ status := valid, cost := 0, expires := 10, route := [3], vectorCost := [] }] := by
    decide +kernel
  have failed : phSrtFindMap true 0 (overNeighbor []) 1 2 5 = .error .outOfBounds := by
    refine phSrtFindMap_error rfl ((findCheapest_eq (overNeighbor []) 5 ?_).1
      ⟨{ status := valid, cost := 0, expires := 10, route := [3], vectorCost := [] }, ?_, rfl⟩)
    · rw [only]
      exact List.cons_ne_nil _ _
    · rw [only]
      exact List.mem_cons_self
  refine ⟨failed, ?_⟩
  rintro ⟨after, found, looked, -⟩
  rw [failed] at looked
  cases looked

end SyncFanet.Dsr
