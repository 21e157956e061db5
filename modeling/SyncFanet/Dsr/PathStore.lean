import SyncFanet.Dsr.PathCache
import SyncFanet.Library.FinmapValues

/-!
# The operations of the path cache

The operations of `DsrDataBase` on its paths. A path that has expired stays in the cache
until a scan comes across it.
-/

set_option autoImplicit false

namespace SyncFanet.Dsr

namespace PathsCache

/-! ## Changing a path -/

/-- The loop of `setPathStatus` and `setPathsTimer`: it ends at a path with the route, and
drops the expired paths that it passes. -/
def updateAmong (now : SimTime) (route : PathCacheRoute) (update : Path → Path) :
    List Path → List Path
  | [] => []
  | old :: rest =>
      if route = old.route then update old :: rest
      else if old.expires ≤ now then updateAmong now route update rest
      else old :: updateAmong now route update rest

/-- The paths to a destination written back, or the destination taken out where there are
none. -/
def putPaths (cache : PathsCache) (dest : InAddr) (stored : List Path) : PathsCache :=
  match stored with
  | [] => cache.erase dest
  | stored => cache.insert dest stored

/-- A change of the path to a destination with a route, where the map has the
destination. -/
def updatePath (now : SimTime) (cache : PathsCache) (dest : InAddr) (route : PathCacheRoute)
    (update : Path → Path) : PathsCache :=
  match cache.lookup dest with
  | none => cache
  | some stored => cache.putPaths dest (updateAmong now route update stored)

/-- `DsrDataBase::setPathStatus`. -/
def setPathStatus (now : SimTime) (cache : PathsCache) (dest : InAddr) (route : PathCacheRoute)
    (status : Int) : PathsCache :=
  cache.updatePath now dest route fun path => { path with status := status }

/-- `DsrDataBase::setPathsTimer`. -/
def setPathsTimer (now : SimTime) (cache : PathsCache) (dest : InAddr) (route : PathCacheRoute)
    (timeout : Nat) : PathsCache :=
  if timeout = 0 then cache
  else cache.updatePath now dest route fun path => { path with expires := now + usecs timeout }

/-! ## Erasing paths -/

/-- `DsrDataBase::deleteAddress`. -/
def deleteAddress (cache : PathsCache) (dest : InAddr) : PathsCache :=
  cache.erase dest

/-- A scan over all destinations, without those that no path is left to. -/
def keepPaths (kept : InAddr → Path → Bool) (cache : PathsCache) : PathsCache :=
  filterMapValues
    (fun dest stored =>
      match stored.filter (kept dest) with
      | [] => none
      | live => some live) cache

/-- `DsrDataBase::purgePathCache`. -/
def purgePathCache (now : SimTime) (cache : PathsCache) : PathsCache :=
  cache.keepPaths fun _ path => now < path.expires

/-- `DsrDataBase::erasePathWithNode`. -/
def erasePathWithNode (now : SimTime) (cache : PathsCache) (dest : InAddr) : PathsCache :=
  (cache.deleteAddress dest).keepPaths fun _ path => now < path.expires ∧ dest ∉ path.route

/-- The range search for the two nodes of a link, of which the code gives the first only. -/
def searchLink (first second : InAddr) (route : PathCacheRoute) : Bool :=
  route.tails.any fun rest => ([first, second].take 1).isPrefixOf rest

/-- The paths that the scan of `erasePathWithLink` erases, besides those that have
expired. -/
def erasesPath (addr1 addr2 : InAddr) (eraseFirst bidirectional : Bool) (dest : InAddr)
    (route : PathCacheRoute) : Bool :=
  -- the destination address is addr2 and the last node in the route is addr1
  dest = addr2 ∧ route.getLast? = some addr1 ∨
  -- the first node is addr2
  eraseFirst ∧ (route = [] ∧ dest = addr2 ∨ route.head? = some addr2) ∨
  searchLink addr1 addr2 route ∨
  bidirectional ∧ (dest = addr1 ∧ route.getLast? = some addr2 ∨ searchLink addr2 addr1 route)

/-- The scan of the paths to one destination, without the one-hop path to it. -/
def eraseDirect (now : SimTime) (cache : PathsCache) (dest : InAddr) : PathsCache :=
  match cache.lookup dest with
  | none => cache
  | some stored =>
      cache.putPaths dest (stored.filter fun path => now < path.expires ∧ path.route ≠ [])

/-- The branch of `erasePathWithLink` for a link from this node. -/
def eraseFirstLink (now : SimTime) (cache : PathsCache) (addr2 : InAddr) : PathsCache :=
  (cache.eraseDirect now addr2).keepPaths fun _ path =>
    now < path.expires ∧ path.route.head? ≠ some addr2

/-- `DsrDataBase::erasePathWithLink`. -/
def erasePathWithLink (rootNode : InAddr) (now : SimTime) (cache : PathsCache)
    (addr1 addr2 : InAddr) (eraseFirst bidirectional : Bool) : PathsCache :=
  if rootNode = addr1 then cache.eraseFirstLink now addr2
  else cache.keepPaths fun dest path =>
    now < path.expires ∧ ¬erasesPath addr1 addr2 eraseFirst bidirectional dest path.route

/-! ## All paths -/

/-- `DsrDataBase::getPaths`, with the cache it leaves. -/
def getPaths (now : SimTime) (cache : PathsCache) (dest : InAddr) :
    PathsCache × Option (List (PathCacheRoute × PathCacheCost)) :=
  match cache.lookup dest with
  | none => (cache, none)
  | some stored =>
      match stored.filter fun path => now < path.expires with
      | [] => (cache.erase dest, none)
      | live => (cache.insert dest live, some (live.map fun path => (path.route, path.vectorCost)))

/-! ## What the scans leave -/

section

variable {now : SimTime} {cache : PathsCache} {dest key : InAddr} {route : PathCacheRoute}
  {stored : List Path} {path : Path}

@[simp] theorem paths_insert : paths (cache.insert dest stored) dest = stored := by
  simp [paths]

@[simp] theorem paths_insert_ne (other : key ≠ dest) :
    paths (cache.insert dest stored) key = cache.paths key := by
  simp only [paths, Finmap.lookup_insert_of_ne _ other]

@[simp] theorem paths_erase : paths (cache.erase dest) dest = [] := by
  simp [paths]

@[simp] theorem paths_erase_ne (other : key ≠ dest) :
    paths (cache.erase dest) key = cache.paths key := by
  simp only [paths, Finmap.lookup_erase_ne other]

@[simp] theorem paths_putPaths : (cache.putPaths dest stored).paths dest = stored := by
  cases stored with
  | nil => exact paths_erase
  | cons first rest => exact paths_insert

theorem paths_putPaths_ne (other : key ≠ dest) :
    (cache.putPaths dest stored).paths key = cache.paths key := by
  cases stored with
  | nil => exact paths_erase_ne other
  | cons first rest => exact paths_insert_ne other

@[simp] theorem paths_keepPaths (kept : InAddr → Path → Bool) :
    (cache.keepPaths kept).paths key = (cache.paths key).filter (kept key) := by
  unfold paths keepPaths
  rw [lookup_filterMapValues]
  cases found : cache.lookup key with
  | none => rfl
  | some stored =>
      simp only [Option.bind_some, Option.getD_some]
      split
      · next empty => simp [empty]
      · rfl

theorem paths_eraseDirect : (cache.eraseDirect now dest).paths dest =
    (cache.paths dest).filter fun path => now < path.expires ∧ path.route ≠ [] := by
  unfold eraseDirect
  cases found : cache.lookup dest with
  | none => simp [paths, found]
  | some stored =>
      have same : cache.paths dest = stored := by simp [paths, found]
      rw [same]
      exact paths_putPaths

theorem paths_eraseDirect_ne (other : key ≠ dest) :
    (cache.eraseDirect now dest).paths key = cache.paths key := by
  unfold eraseDirect
  split
  · rfl
  · exact paths_putPaths_ne other

theorem paths_getPaths : (cache.getPaths now dest).1.paths dest =
    (cache.paths dest).filter fun path => now < path.expires := by
  unfold getPaths
  cases found : cache.lookup dest with
  | none => simp [paths, found]
  | some stored =>
      have same : cache.paths dest = stored := by simp [paths, found]
      rw [same]
      simp only
      split
      · next none => rw [none]; exact paths_erase
      · exact paths_insert

theorem paths_getPaths_ne (other : key ≠ dest) :
    (cache.getPaths now dest).1.paths key = cache.paths key := by
  unfold getPaths
  split
  · rfl
  · split
    · exact paths_erase_ne other
    · exact paths_insert_ne other

theorem paths_updatePath {update : Path → Path} : (cache.updatePath now dest route update).paths dest =
    updateAmong now route update (cache.paths dest) := by
  unfold updatePath
  cases found : cache.lookup dest with
  | none => simp [paths, found, updateAmong]
  | some stored =>
      have same : cache.paths dest = stored := by simp [paths, found]
      rw [same]
      exact paths_putPaths

theorem paths_updatePath_ne {update : Path → Path} (other : key ≠ dest) :
    (cache.updatePath now dest route update).paths key = cache.paths key := by
  unfold updatePath
  split
  · rfl
  · exact paths_putPaths_ne other

end

end PathsCache

end SyncFanet.Dsr
