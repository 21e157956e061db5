import SyncFanet.Dsr.PathStoreMap
import SyncFanet.Dsr.RouteFind

/-!
# The two lookups of a path

`getPathCosVect` chooses the cheapest path and only reads. `getPath` writes the least cost so
far over the first cost of each valid path that it compares, so it does the same only where
these costs are already equal.
-/

set_option autoImplicit false

namespace SyncFanet.Dsr

namespace PathsCache

/-! ## What a lookup is to do -/

/-- The valid path of least cost among live paths, the one that lasts longest among equals, is
found, and its time is all that is changed. -/
inductive LooksUp (now : SimTime) (timeout : Nat) (live : List Path) :
    Option (PathCacheRoute × ℚ) → List Path → Prop where
  | none (unusable : ∀ path ∈ live, path.status ≠ valid) : LooksUp now timeout live none live
  | some (before after : List Path) (path : Path) (split : live = before ++ path :: after)
      (usable : path.status = valid)
      (least : ∀ other ∈ live, other.status = valid → costPath path < costPath other ∨
        costPath path = costPath other ∧ other.expires ≤ path.expires) :
      LooksUp now timeout live (some (path.route, costPath path))
        (before ++ (if 0 < timeout then { path with expires := now + usecs timeout }
          else path) :: after)

/-- The paths to a destination that have not expired. -/
def livePaths (now : SimTime) (cache : PathsCache) (dest : InAddr) : List Path :=
  (cache.paths dest).filter fun path => now < path.expires

/-- Both lookups find the same, and leave everything else as it is. -/
structure LookupsAgree (now : SimTime) (cache : PathsCache) (dest : InAddr) (timeout : Nat) :
    Prop where
  same : (cache.getPath now dest timeout).2 =
    (cache.getPathCosVect now dest timeout).2.map fun found => (found.1, found.2.2)
  getPath : LooksUp now timeout (cache.livePaths now dest) (cache.getPath now dest timeout).2
    ((cache.getPath now dest timeout).1.paths dest)
  getPathCosVect : LooksUp now timeout (cache.livePaths now dest)
    ((cache.getPathCosVect now dest timeout).2.map fun found => (found.1, found.2.2))
    ((cache.getPathCosVect now dest timeout).1.paths dest)
  others : ∀ key, key ≠ dest → (cache.getPath now dest timeout).1.lookup key = cache.lookup key ∧
    (cache.getPathCosVect now dest timeout).1.lookup key = cache.lookup key

/-- The least cost of the valid paths of a list, or 10^100 without any. -/
def LeastCost (paths : List Path) (cost : ℚ) : Prop :=
  (∀ path ∈ paths, path.status ≠ valid) ∧ cost = 10 ^ 100 ∨
    (∃ path ∈ paths, path.status = valid ∧ cost = costPath path) ∧
      ∀ path ∈ paths, path.status = valid → cost ≤ costPath path

/-- Each valid path with costs has as its first cost the least one of the paths before it. -/
def FirstCostsLeast (live : List Path) : Prop :=
  ∀ before path after first rest, live = before ++ path :: after → path.status = valid →
    path.vectorCost = first :: rest → LeastCost before first

section

variable {now : SimTime} {cache : PathsCache} {dest : InAddr} {timeout : Nat} {live : List Path}
  {path : Path} {cost cost' : ℚ}

variable {scan : PathScan}

theorem LeastCost.unique (one : LeastCost live cost) (other : LeastCost live cost') :
    cost = cost' := by
  rcases one with ⟨none, rfl⟩ | ⟨⟨path, member, usable, rfl⟩, least⟩
  · rcases other with ⟨-, rfl⟩ | ⟨⟨path, member, usable, -⟩, -⟩
    · rfl
    · exact absurd usable (none path member)
  · rcases other with ⟨none, -⟩ | ⟨⟨path', member', usable', rfl⟩, least'⟩
    · exact absurd usable (none path member)
    · exact le_antisymm (least path' member' usable') (least' path member usable)

theorem firstCostsLeast_append : FirstCostsLeast (live ++ [path]) ↔
    FirstCostsLeast live ∧ (path.status = valid →
      ∀ first rest, path.vectorCost = first :: rest → LeastCost live first) := by
  constructor
  · intro least
    refine ⟨fun before other after first rest split usable costs => ?_,
      fun usable first rest costs => least live path [] first rest rfl usable costs⟩
    exact least before other (after ++ [path]) first rest (by simp [split]) usable costs
  · rintro ⟨least, last⟩ before other after first rest split usable costs
    rcases List.eq_nil_or_concat' after with rfl | ⟨after, final, rfl⟩
    · obtain ⟨rfl, same⟩ := List.append_inj' split rfl
      cases List.singleton_inj.mp same
      exact last usable first rest costs
    · have regrouped : live ++ [path] = (before ++ other :: after) ++ [final] := by simp [split]
      exact least before other after first rest (List.append_inj' regrouped rfl).1 usable costs

/-! ## The lookup that reads -/

def refreshAt (now : SimTime) (timeout : Nat) (live : List Path) (position : Option Nat) :
    List Path :=
  match position with
  | none => live
  | some position =>
      if timeout > 0 then
        live.modify position fun path => { path with expires := now + usecs timeout }
      else live

theorem refreshAt_split {before after : List Path} :
    refreshAt now timeout (before ++ path :: after) (some before.length) =
      before ++ (if 0 < timeout then { path with expires := now + usecs timeout } else path) ::
        after := by
  unfold refreshAt
  dsimp only
  split
  · rw [List.modify_eq_take_drop, List.take_left, List.drop_left, List.modifyHead_cons]
  · rfl

theorem choose_append (live : List Path) (path : Path) :
    choose (live ++ [path]) = choosePath (choose live) live.length path := by
  simp [choose, List.zipIdx_append]

theorem looksUp_choose (live : List Path) :
    LooksUp now timeout live ((choose live).map fun best => (best.route, best.cost))
      (refreshAt now timeout live ((choose live).map Choice.position)) := by
  have among := chosenAmong_choose live
  cases chosen : choose live with
  | none =>
      rw [chosen] at among
      refine .none fun path member => ?_
      obtain ⟨position, entry⟩ := exists_position member
      exact among _ entry
  | some best =>
      rw [chosen] at among
      obtain ⟨⟨path, position⟩, member, usable, rfl, least⟩ := among
      obtain ⟨before, after, split, rfl⟩ : ∃ before after, live = before ++ path :: after ∧
          before.length = position := by
        obtain ⟨inside, here⟩ :=
          List.getElem?_eq_some_iff.mp (List.mk_mem_zipIdx_iff_getElem?.mp member)
        refine ⟨live.take position, live.drop (position + 1), ?_, List.length_take_of_le inside.le⟩
        rw [← here, List.getElem_cons_drop, List.take_append_drop]
      have refreshed := @refreshAt_split now timeout path before after
      rw [← split] at refreshed
      simp only [Option.map_some, chosenAt, refreshed]
      refine .some before after path split usable fun other among usable' => ?_
      obtain ⟨position', there⟩ := exists_position among
      exact least _ there usable'

theorem getPathCosVect_eq (now : SimTime) (cache : PathsCache) (dest : InAddr) (timeout : Nat) :
    ((cache.getPathCosVect now dest timeout).2.map fun found => (found.1, found.2.2)) =
        ((choose (cache.livePaths now dest)).map fun best => (best.route, best.cost)) ∧
      (cache.getPathCosVect now dest timeout).1.paths dest =
        refreshAt now timeout (cache.livePaths now dest)
          ((choose (cache.livePaths now dest)).map Choice.position) ∧
      ∀ key, key ≠ dest →
        (cache.getPathCosVect now dest timeout).1.lookup key = cache.lookup key := by
  cases found : cache.lookup dest with
  | none =>
      have empty : cache.paths dest = [] := by simp [paths, found]
      have none : cache.livePaths now dest = [] := by rw [livePaths, empty, List.filter_nil]
      rw [getPathCosVect, found, none]
      exact ⟨rfl, empty, fun _ _ => rfl⟩
  | some stored =>
      have same : cache.paths dest = stored := by simp [paths, found]
      cases filtered : stored.filter fun path => now < path.expires with
      | nil =>
          have none : cache.livePaths now dest = [] := by rw [livePaths, same, filtered]
          simp only [getPathCosVect, found, filtered, none]
          exact ⟨rfl, paths_erase, fun _ other => Finmap.lookup_erase_ne other⟩
      | cons first rest =>
          have live : cache.livePaths now dest = first :: rest := by rw [livePaths, same, filtered]
          rw [getPathCosVect_live found filtered (List.cons_ne_nil _ _), live]
          cases choose (first :: rest) with
          | none => exact ⟨rfl, paths_insert, fun _ other => Finmap.lookup_insert_of_ne _ other⟩
          | some best =>
              exact ⟨rfl, paths_insert, fun _ other => Finmap.lookup_insert_of_ne _ other⟩

/-! ## The lookup that writes -/

/-- The loop of `getPath` over live paths. -/
def scanAll (now : SimTime) (live : List Path) : PathScan :=
  live.foldl (scanPath now) { live := [], cost := 10 ^ 100, chosen := none }

def scanned (cost : ℚ) (path : Path) : Path :=
  if path.status = valid then
    { path with
      vectorCost :=
        match path.vectorCost with
        | [] => []
        | _ :: rest => cost :: rest }
  else path

theorem scanPath_valid (unexpired : now < path.expires) (usable : path.status = valid) :
    scanPath now scan path =
      let better : PathScan :=
        { live := scan.live ++ [scanned scan.cost path], cost := costPath (scanned scan.cost path)
          chosen := some (scan.live.length, path.route, path.expires) }
      match scan.chosen with
      | none => better
      | some (_, _, expire) =>
          if scan.cost > costPath (scanned scan.cost path) ∨
              scan.cost = costPath (scanned scan.cost path) ∧ expire < path.expires then better
          else { scan with live := scan.live ++ [scanned scan.cost path] } := by
  have written : scanned scan.cost path = _ := if_pos usable
  rw [written]
  exact (if_neg (not_le.mpr unexpired)).trans (if_neg (not_not.mpr usable))

theorem scanPath_invalid (unexpired : now < path.expires) (unusable : path.status ≠ valid) :
    scanPath now scan path = { scan with live := scan.live ++ [path] } := by
  rw [scanPath, if_neg (not_le.mpr unexpired), if_pos unusable]

theorem scanPath_live (scan : PathScan) (unexpired : now < path.expires) :
    (scanPath now scan path).live = scan.live ++ [scanned scan.cost path] := by
  by_cases usable : path.status = valid
  · rw [scanPath_valid unexpired usable]
    cases scan.chosen with
    | none => rfl
    | some choice =>
        dsimp only
        split <;> rfl
  · rw [scanPath_invalid unexpired usable, scanned, if_neg usable]

structure Mirrors (scan : PathScan) (live : List Path) : Prop where
  unchanged : scan.live = live
  chosen : scan.chosen = (choose live).map fun best => (best.position, best.route, best.expire)
  cost : scan.cost = (choose live).elim (10 ^ 100) Choice.cost

theorem Mirrors.leastCost (mirrors : Mirrors scan live) :
    LeastCost live scan.cost := by
  have among := chosenAmong_choose live
  rw [mirrors.cost]
  cases chosen : choose live with
  | none =>
      rw [chosen] at among
      refine .inl ⟨fun path member => ?_, rfl⟩
      obtain ⟨position, entry⟩ := exists_position member
      exact among _ entry
  | some best =>
      rw [chosen] at among
      obtain ⟨⟨path, position⟩, member, usable, rfl, least⟩ := among
      refine .inr ⟨⟨path, List.fst_mem_of_mem_zipIdx member, usable, rfl⟩, ?_⟩
      intro other among usable'
      obtain ⟨position', there⟩ := exists_position among
      rcases least _ there usable' with less | ⟨equal, -⟩
      · exact less.le
      · exact equal.le

theorem Mirrors.step (mirrors : Mirrors scan live) (unexpired : now < path.expires)
    (same : scanned scan.cost path = path) :
    Mirrors (scanPath now scan path) (live ++ [path]) := by
  have listed := scanPath_live scan unexpired
  rw [same, mirrors.unchanged] at listed
  suffices chooses : (scanPath now scan path).chosen = ((choose (live ++ [path])).map fun best =>
      (best.position, best.route, best.expire)) ∧
      (scanPath now scan path).cost = (choose (live ++ [path])).elim (10 ^ 100) Choice.cost from
    ⟨listed, chooses.1, chooses.2⟩
  have chosen := mirrors.chosen
  have cost := mirrors.cost
  rw [choose_append]
  by_cases usable : path.status = valid
  · rw [scanPath_valid unexpired usable, same, choosePath, if_pos usable, mirrors.unchanged]
    cases earlier : choose live with
    | none =>
        rw [earlier] at chosen
        rw [chosen]
        exact ⟨rfl, rfl⟩
    | some best =>
        rw [earlier] at chosen cost
        rw [chosen, cost]
        by_cases better : costPath path < best.cost ∨
            best.cost = costPath path ∧ best.expire < path.expires
        · simp only [Option.map_some, Option.elim_some, gt_iff_lt, if_pos better, and_self]
        · simp only [Option.map_some, Option.elim_some, gt_iff_lt, if_neg better, and_self]
  · rw [scanPath_invalid unexpired usable, choosePath, if_neg usable]
    exact ⟨chosen, cost⟩

theorem scanned_eq_self (costs : path.status = valid →
    ∀ first rest, path.vectorCost = first :: rest → first = cost) : scanned cost path = path := by
  unfold scanned
  split
  · next usable =>
      obtain ⟨status, total, expires, route, vectorCost⟩ := path
      cases vectorCost with
      | nil => rfl
      | cons first rest => rw [← costs usable first rest rfl]
  · rfl

theorem mirrors_scanAll (unexpired : ∀ path ∈ live, now < path.expires)
    (least : FirstCostsLeast live) : Mirrors (scanAll now live) live := by
  induction live using List.reverseRecOn with
  | nil => exact ⟨rfl, rfl, rfl⟩
  | append_singleton live path ih =>
      obtain ⟨earlier, last⟩ := firstCostsLeast_append.mp least
      have mirrors := ih (fun path member => unexpired path (List.mem_append_left _ member)) earlier
      rw [scanAll, List.foldl_concat]
      refine mirrors.step (unexpired path (by simp)) (scanned_eq_self fun usable first rest costs => ?_)
      exact (last usable first rest costs).unique mirrors.leastCost

theorem firstCostsLeast_of_scanAll (unexpired : ∀ path ∈ live, now < path.expires)
    (same : (scanAll now live).live.map Path.vectorCost = live.map Path.vectorCost) :
    FirstCostsLeast live := by
  induction live using List.reverseRecOn with
  | nil =>
      intro before path after first rest split
      exact absurd split (by simp)
  | append_singleton live path ih =>
      have alive : ∀ path ∈ live, now < path.expires := fun path member =>
        unexpired path (List.mem_append_left _ member)
      rw [scanAll, List.foldl_concat, scanPath_live _ (unexpired path (by simp)), List.map_append,
        List.map_append] at same
      obtain ⟨earlier, last⟩ := List.append_inj' same rfl
      have least := ih alive earlier
      have mirrors := mirrors_scanAll alive least
      refine firstCostsLeast_append.mpr ⟨least, fun usable first rest costs => ?_⟩
      have written := List.singleton_inj.mp last
      rw [scanned, if_pos usable, costs] at written
      rw [← (List.cons.inj written).1]
      exact mirrors.leastCost

theorem length_scanAll (unexpired : ∀ path ∈ live, now < path.expires) :
    (scanAll now live).live.length = live.length := by
  induction live using List.reverseRecOn with
  | nil => rfl
  | append_singleton live path ih =>
      have kept := ih fun path member => unexpired path (List.mem_append_left _ member)
      rw [scanAll, List.foldl_concat, scanPath_live _ (unexpired path (by simp)), List.length_append,
        List.length_append]
      exact congrArg (· + 1) kept

theorem foldl_scanPath_filter (stored : List Path) (scan : PathScan) :
    stored.foldl (scanPath now) scan =
      (stored.filter fun path => now < path.expires).foldl (scanPath now) scan := by
  rw [List.foldl_filter]
  refine congrArg (List.foldl · scan stored) (funext fun scan => funext fun path => ?_)
  by_cases unexpired : now < path.expires
  · rw [if_pos (decide_eq_true unexpired)]
  · rw [if_neg (by simpa using unexpired), scanPath, if_pos (not_lt.mp unexpired)]

theorem mem_livePaths (member : path ∈ cache.livePaths now dest) : now < path.expires :=
  of_decide_eq_true (List.mem_filter.mp member).2

theorem getPath_eq (now : SimTime) (cache : PathsCache) (dest : InAddr) (timeout : Nat) :
    (cache.getPath now dest timeout).2 =
        ((scanAll now (cache.livePaths now dest)).chosen.map fun choice =>
          (choice.2.1, (scanAll now (cache.livePaths now dest)).cost)) ∧
      (cache.getPath now dest timeout).1.paths dest =
        refreshAt now timeout (scanAll now (cache.livePaths now dest)).live
          ((scanAll now (cache.livePaths now dest)).chosen.map Prod.fst) ∧
      ∀ key, key ≠ dest → (cache.getPath now dest timeout).1.lookup key = cache.lookup key := by
  cases found : cache.lookup dest with
  | none =>
      have empty : cache.paths dest = [] := by simp [paths, found]
      have none : cache.livePaths now dest = [] := by rw [livePaths, empty, List.filter_nil]
      rw [getPath, found, none]
      exact ⟨rfl, empty, fun _ _ => rfl⟩
  | some stored =>
      have same : cache.paths dest = stored := by simp [paths, found]
      have alive : ∀ path ∈ cache.livePaths now dest, now < path.expires := fun _ => mem_livePaths
      have length := length_scanAll alive
      have scanned : stored.foldl (scanPath now) { live := [], cost := 10 ^ 100, chosen := none } =
          scanAll now (cache.livePaths now dest) := by
        rw [foldl_scanPath_filter, scanAll, livePaths, same]
      rw [getPath, found]
      dsimp only
      rw [scanned]
      generalize cache.livePaths now dest = live at length ⊢
      cases left : (scanAll now live).live with
      | nil =>
          rw [left] at length
          obtain rfl := List.length_eq_zero_iff.mp length.symm
          exact ⟨rfl, paths_erase, fun _ other => Finmap.lookup_erase_ne other⟩
      | cons first rest =>
          cases (scanAll now live).chosen with
          | none => exact ⟨rfl, paths_insert, fun _ other => Finmap.lookup_insert_of_ne _ other⟩
          | some choice =>
              exact ⟨rfl, paths_insert, fun _ other => Finmap.lookup_insert_of_ne _ other⟩

theorem map_vectorCost_refreshAt (position : Option Nat) :
    (refreshAt now timeout live position).map Path.vectorCost = live.map Path.vectorCost := by
  unfold refreshAt
  split
  · rfl
  · next position =>
      split
      · induction live generalizing position with
        | nil => cases position <;> rfl
        | cons first rest ih =>
            cases position with
            | zero => rfl
            | succ position =>
                rw [List.modify_succ_cons, List.map_cons, List.map_cons, ih]
      · rfl

theorem LooksUp.vectorCosts {found : Option (PathCacheRoute × ℚ)} {after : List Path}
    (looksUp : LooksUp now timeout live found after) :
    after.map Path.vectorCost = live.map Path.vectorCost := by
  cases looksUp with
  | none => rfl
  | some before after path split =>
      rw [split, List.map_append, List.map_append, List.map_cons, List.map_cons]
      split <;> rfl

theorem LookupsAgree.firstCostsLeast (agree : LookupsAgree now cache dest timeout) :
    FirstCostsLeast (cache.livePaths now dest) := by
  refine firstCostsLeast_of_scanAll (fun _ => mem_livePaths) ?_
  obtain ⟨-, left, -⟩ := getPath_eq now cache dest timeout
  have vectors := agree.getPath.vectorCosts
  rwa [left, map_vectorCost_refreshAt] at vectors

end

/-- A path to the node 2 with the cost of its link. -/
def onePath : PathsCache :=
  Finmap.singleton 2
    [{ status := valid, cost := 0, expires := 10, route := [], vectorCost := [1] }]

end PathsCache

end SyncFanet.Dsr
