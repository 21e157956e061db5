import SyncFanet.Dsr.LearnedPaths
import SyncFanet.Dsr.LinkRouteRuns
import SyncFanet.Dsr.PathStoreMap
import SyncFanet.Dsr.RouteFind

/-!
# Routes that a node knows

When a lookup in one of the caches finds a route, and that neither lookups nor learning make
a node forget one.
-/

set_option autoImplicit false

namespace SyncFanet.Dsr

/-! ## Lists of paths -/

def LiveIn (now : SimTime) (stored : List Path) : Prop :=
  ∃ path ∈ stored, now < path.expires ∧ path.status = valid

def KeepsPaths (now : SimTime) (before after : List Path) : Prop :=
  LiveIn now before → LiveIn now after

section

variable {now : SimTime} {before after stored : List Path} {path path' : Path}

theorem LiveIn.cons (live : LiveIn now stored) : LiveIn now (path :: stored) := by
  obtain ⟨other, member, usable⟩ := live
  exact ⟨other, List.mem_cons_of_mem _ member, usable⟩

theorem KeepsPaths.cons (rest : KeepsPaths now before after)
    (later : now < path.expires → now < path'.expires)
    (status : path.status = valid → path'.status = valid) :
    KeepsPaths now (path :: before) (path' :: after) := by
  intro live
  obtain ⟨other, member, inTime, isValid⟩ := live
  cases List.mem_cons.mp member with
  | inl here =>
      subst here
      exact ⟨path', List.mem_cons_self, later inTime, status isValid⟩
  | inr there => exact (rest ⟨other, there, inTime, isValid⟩).cons

theorem KeepsPaths.drop (rest : KeepsPaths now before after) (expired : path.expires ≤ now) :
    KeepsPaths now (path :: before) after := by
  intro live
  obtain ⟨other, member, inTime, isValid⟩ := live
  cases List.mem_cons.mp member with
  | inl here => exact absurd inTime (not_lt.mpr (here ▸ expired))
  | inr there => exact rest ⟨other, there, inTime, isValid⟩

theorem KeepsPaths.same (rest : KeepsPaths now before after) :
    KeepsPaths now (path :: before) (path :: after) :=
  rest.cons id id

theorem KeepsPaths.append_left (rest : KeepsPaths now before after) :
    KeepsPaths now (stored ++ before) (stored ++ after) := by
  induction stored with
  | nil => exact rest
  | cons first stored ih => exact ih.same

theorem keepsPaths_filter {kept : Path → Bool}
    (keeps : ∀ path, now < path.expires → kept path = true) :
    KeepsPaths now stored (stored.filter kept) := by
  intro live
  obtain ⟨path, member, inTime, isValid⟩ := live
  exact ⟨path, List.mem_filter.mpr ⟨member, keeps path inTime⟩, inTime, isValid⟩

theorem KeepsPaths.extended {expires : SimTime} (rest : KeepsPaths now before after)
    (later : now < expires) :
    KeepsPaths now (path :: before) ({ path with expires := expires } :: after) :=
  rest.cons (fun _ => later) id

theorem keepsPaths_modify {position : Nat} {expires : SimTime} (later : now < expires) :
    KeepsPaths now stored
      (stored.modify position fun path => { path with expires := expires }) := by
  induction stored generalizing position with
  | nil => cases position <;> exact id
  | cons first rest ih =>
      cases position with
      | zero => exact KeepsPaths.extended id later
      | succ position => exact ih.same

theorem keepsPaths_updateAmong {route : PathCacheRoute} {expires : SimTime}
    (later : now < expires) :
    KeepsPaths now stored
      (PathsCache.updateAmong now route (fun path => { path with expires := expires }) stored) := by
  induction stored with
  | nil => exact id
  | cons first rest ih =>
      unfold PathsCache.updateAmong
      split
      · exact KeepsPaths.extended id later
      · split
        · next expired => exact ih.drop expired
        · exact ih.same

theorem live_setPathAmong (inTime : now < path.expires) (isValid : path.status = valid) :
    LiveIn now (PathsCache.setPathAmong now path stored) := by
  induction stored with
  | nil => exact ⟨path, List.mem_cons_self, inTime, isValid⟩
  | cons first rest ih =>
      unfold PathsCache.setPathAmong
      split
      · exact ⟨path, List.mem_cons_self, inTime, isValid⟩
      · split
        · exact ih
        · exact ih.cons

end

/-! ## The path cache -/

def KeepsCache (now : SimTime) (before after : PathsCache) : Prop :=
  ∀ dest, KeepsPaths now (before.paths dest) (after.paths dest)

namespace PathsCache

variable {now : SimTime} {cache between after : PathsCache} {dest : InAddr}

variable {route : PathCacheRoute} {timeout : Nat}

theorem keepsCache_trans (first : KeepsCache now cache between)
    (second : KeepsCache now between after) : KeepsCache now cache after :=
  fun dest => second dest ∘ first dest

theorem keepsCache_of_dest (other : ∀ key, key ≠ dest → after.paths key = cache.paths key)
    (here : KeepsPaths now (cache.paths dest) (after.paths dest)) :
    KeepsCache now cache after := by
  intro key
  by_cases same : key = dest
  · rw [same]
    exact here
  · rw [other key same]
    exact id

theorem keepsCache_setPathsTimer :
    KeepsCache now cache (cache.setPathsTimer now dest route timeout) := by
  unfold setPathsTimer
  split
  · exact fun _ => id
  · next positive =>
      apply keepsCache_of_dest (fun key other => paths_updatePath_ne other)
      rw [paths_updatePath]
      exact keepsPaths_updateAmong (lt_add_usecs (Nat.pos_of_ne_zero positive))

theorem keepsCache_refreshRelays :
    KeepsCache now cache (refreshRelays now cache route timeout) := by
  unfold refreshRelays
  apply foldl_keeps _ (KeepsCache now cache) fun _ => id
  intro relay paths _ kept
  exact keepsCache_trans kept keepsCache_setPathsTimer

theorem keepsCache_purgePathCache : KeepsCache now cache (cache.purgePathCache now) := by
  intro key
  rw [purgePathCache, paths_keepPaths]
  exact keepsPaths_filter fun path inTime => decide_eq_true inTime

theorem setPath_live {costVect : PathCacheCost} {cost : ℚ} (positive : 0 < timeout) :
    LiveIn now ((cache.setPath now dest route costVect cost valid timeout).paths dest) := by
  unfold setPath
  rw [paths_insert]
  exact live_setPathAmong (lt_add_usecs positive) rfl

theorem keepsCache_setPath {costVect : PathCacheCost} {cost : ℚ} (positive : 0 < timeout) :
    KeepsCache now cache (cache.setPath now dest route costVect cost valid timeout) :=
  keepsCache_of_dest (fun _ other => paths_setPath_ne other) fun _ => setPath_live positive

/-! ## Looking up a path -/

/-- A round of the loop of `getPath` chooses a path if it comes to one that may be used. -/
theorem scanPath_keeps (scan : PathScan) (path : Path) (rest : List Path) :
    KeepsPaths now (scan.live ++ path :: rest) ((scanPath now scan path).live ++ rest) ∧
      (scan.chosen ≠ none ∨ now < path.expires ∧ path.status = valid →
        (scanPath now scan path).chosen ≠ none) := by
  unfold scanPath
  by_cases expired : path.expires ≤ now
  · rw [if_pos expired]
    refine ⟨KeepsPaths.append_left (KeepsPaths.drop id expired), ?_⟩
    intro either
    exact either.resolve_right fun live => not_lt.mpr expired live.1
  · rw [if_neg expired]
    by_cases invalid : path.status ≠ valid
    · rw [if_pos invalid]
      refine ⟨by simp [KeepsPaths], ?_⟩
      intro either
      exact either.resolve_right fun live => invalid live.2
    · rw [if_neg invalid]
      dsimp only
      have keeps : ∀ path' : Path, path'.expires = path.expires → path'.status = path.status →
          KeepsPaths now (scan.live ++ path :: rest) (scan.live ++ [path'] ++ rest) := by
        intro path' expires status
        rw [List.append_assoc]
        apply KeepsPaths.append_left
        apply KeepsPaths.cons id
        · rw [expires]
          exact id
        · rw [status]
          exact id
      cases chosen : scan.chosen with
      | none => exact ⟨keeps _ rfl rfl, fun _ => Option.some_ne_none _⟩
      | some best =>
          dsimp only
          split_ifs
          · exact ⟨keeps _ rfl rfl, fun _ => Option.some_ne_none _⟩
          · exact ⟨keeps _ rfl rfl, fun _ => Option.some_ne_none _⟩

theorem foldl_scanPath (stored : List Path) (scan : PathScan) :
    KeepsPaths now (scan.live ++ stored) (stored.foldl (scanPath now) scan).live ∧
      (scan.chosen ≠ none ∨ LiveIn now stored →
        (stored.foldl (scanPath now) scan).chosen ≠ none) := by
  induction stored generalizing scan with
  | nil =>
      refine ⟨by simp [KeepsPaths], ?_⟩
      intro either
      exact either.resolve_right fun live => by
        obtain ⟨path, member, -⟩ := live
        cases member
  | cons path rest ih =>
      obtain ⟨keeps, chooses⟩ : KeepsPaths now _ _ ∧ _ := scanPath_keeps scan path rest
      obtain ⟨keeps', chooses'⟩ := ih (scanPath now scan path)
      refine ⟨keeps' ∘ keeps, ?_⟩
      intro either
      apply chooses'
      cases either with
      | inl chosen => exact .inl (chooses (.inl chosen))
      | inr live =>
          obtain ⟨other, member, inTime, isValid⟩ := live
          cases List.mem_cons.mp member with
          | inl here => exact .inl (chooses (.inr (here ▸ ⟨inTime, isValid⟩)))
          | inr there => exact .inr ⟨other, there, inTime, isValid⟩

theorem getPath_live (timeout : Nat) :
    KeepsCache now cache (cache.getPath now dest timeout).1 ∧
      (LiveIn now (cache.paths dest) → (cache.getPath now dest timeout).2 ≠ none) := by
  unfold getPath
  cases here : cache.lookup dest with
  | none =>
      refine ⟨fun _ => id, ?_⟩
      intro live
      obtain ⟨path, member, -⟩ := live
      simp [paths, here] at member
  | some stored =>
      have paths : cache.paths dest = stored := by simp [paths, here]
      obtain ⟨keeps, chooses⟩ : KeepsPaths now _ _ ∧ _ := foldl_scanPath stored
        { live := [], cost := 10 ^ 100, chosen := none }
      dsimp only
      generalize found : stored.foldl (scanPath now)
        { live := [], cost := 10 ^ 100, chosen := none } = scan at keeps chooses
      rw [List.nil_append] at keeps
      rw [paths]
      have only : ∀ after : PathsCache, (∀ key, key ≠ dest → after.paths key = cache.paths key) →
          KeepsPaths now stored (after.paths dest) → KeepsCache now cache after := by
        intro after other here
        exact keepsCache_of_dest other (paths ▸ here)
      cases live : scan.live with
      | nil =>
          rw [live] at keeps
          refine ⟨only _ (fun key other => paths_erase_ne other) (by rwa [paths_erase]), ?_⟩
          intro some
          obtain ⟨path, member, -⟩ := keeps some
          cases member
      | cons first rest =>
          rw [live] at keeps
          cases chosen : scan.chosen with
          | none =>
              refine ⟨only _ (fun key other => paths_insert_ne other) (by rwa [paths_insert]), ?_⟩
              intro some
              exact absurd chosen (chooses (.inr some))
          | some best =>
              obtain ⟨position, route, expire⟩ := best
              refine ⟨only _ (fun key other => paths_insert_ne other) ?_,
                fun _ => Option.some_ne_none _⟩
              rw [paths_insert]
              split
              · next positive => exact keepsPaths_modify (lt_add_usecs positive) ∘ keeps
              · exact keeps

theorem keepsCache_getPaths : KeepsCache now cache (cache.getPaths now dest).1 := by
  apply keepsCache_of_dest (fun key other => paths_getPaths_ne other)
  rw [paths_getPaths]
  exact keepsPaths_filter fun path inTime => decide_eq_true inTime

theorem getPaths_live (live : LiveIn now (cache.paths dest)) :
    (cache.getPaths now dest).2 ≠ none := by
  obtain ⟨path, member, inTime, -⟩ := live
  unfold getPaths
  cases here : cache.lookup dest with
  | none => simp [paths, here] at member
  | some stored =>
      simp only [paths, here, Option.getD_some] at member
      have kept : path ∈ stored.filter fun path => now < path.expires :=
        List.mem_filter.mpr ⟨member, decide_eq_true inTime⟩
      dsimp only
      split
      · next none =>
          rw [none] at kept
          cases kept
      · exact Option.some_ne_none _

end PathsCache

section

variable {now : SimTime} {node node' : Node} {dst : InAddr}

/-- A lookup among the paths keeps what is known, and finds a route where a path may be
used. -/
theorem phSrtFindMap_live {refreshIntermediate : Bool} {src : InAddr} {timeout : Nat}
    {found : Option DsrSrt}
    (ran : phSrtFindMap refreshIntermediate now node src dst timeout = .ok (node', found)) :
    (∃ paths, node' = { node with paths := paths } ∧
      KeepsCache now node.paths.paths paths.paths) ∧
      (LiveIn now (node.paths.paths.paths dst) → found ≠ none) := by
  obtain ⟨first, looked, ran⟩ := bind_ok.mp ran
  have looks : KeepsCache now node.paths.paths first.1 ∧
      (LiveIn now (node.paths.paths.paths dst) → first.2 ≠ none) := by
    split at looked
    · unfold findCheapest at looked
      dsimp only at looked
      split at looked
      · next none =>
          cases looked
          exact ⟨PathsCache.keepsCache_getPaths,
            fun live => absurd none (PathsCache.getPaths_live live)⟩
      · obtain ⟨best, _, looked⟩ := bind_ok.mp looked
        cases looked
        refine ⟨?_, fun _ => Option.some_ne_none _⟩
        dsimp only
        split
        · exact PathsCache.keepsCache_trans PathsCache.keepsCache_getPaths
            PathsCache.keepsCache_setPathsTimer
        · exact PathsCache.keepsCache_getPaths
    · cases looked
      have lookup := @PathsCache.getPath_live now node.paths.paths dst timeout
      refine ⟨lookup.1, ?_⟩
      intro live none
      exact lookup.2 live (Option.map_eq_none_iff.mp none)
  obtain ⟨keeps, finds⟩ := looks
  cases route : first.2 with
  | none =>
      rw [route] at ran
      cases ran
      exact ⟨⟨_, rfl, keeps⟩, fun live => absurd route (finds live)⟩
  | some route' =>
      rw [route] at ran
      cases ran
      refine ⟨⟨_, rfl, ?_⟩, fun _ => Option.some_ne_none _⟩
      have refreshed : KeepsCache now node.paths.paths
          (if refreshIntermediate then refreshRelays now first.1 route' timeout else first.1) := by
        split
        · exact PathsCache.keepsCache_trans keeps PathsCache.keepsCache_refreshRelays
        · exact keeps
      generalize (if refreshIntermediate then refreshRelays now first.1 route' timeout
        else first.1) = paths at refreshed ⊢
      split
      · exact PathsCache.keepsCache_trans refreshed PathsCache.keepsCache_purgePathCache
      · exact refreshed

end

/-! ## The link cache -/

namespace LinkCache

variable {now : SimTime} {cache : LinkCache} {origin last : InAddr} {link : InAddr × InAddr}

theorem unexpired_addEdge {originNode lastNode : InAddr} {cost : ℚ} {exp : Nat}
    (positive : 0 < exp)
    (known : Unexpired cache.linkArray now origin last ∨ origin = originNode ∧ last = lastNode) :
    Unexpired (cache.addEdge now originNode lastNode cost exp).linkArray now origin last := by
  have later : now < now + usecs exp := lt_add_usecs positive
  unfold Unexpired
  rw [edgesFrom_addEdge]
  by_cases here : origin = originNode
  · rw [if_pos here]
    by_cases stored : (edgesFrom cache.linkArray origin).any fun edge => edge.lastNode = lastNode
    · rw [if_pos stored]
      by_cases there : last = lastNode
      · obtain ⟨_, _, written⟩ := updateFirst.exists_mem_update stored
        exact ⟨_, written, there.symm, later⟩
      · obtain ⟨edge, member, ends, inTime⟩ := known.resolve_right fun new => there new.2
        refine ⟨edge, updateFirst.mem_of_other member ?_, ends, inTime⟩
        rw [ends]
        exact decide_eq_false there
    · rw [if_neg stored]
      cases known with
      | inl old =>
          obtain ⟨edge, member, ends, inTime⟩ := old
          exact ⟨edge, List.mem_append_left _ member, ends, inTime⟩
      | inr new =>
          exact ⟨_, List.mem_append_right _ List.mem_cons_self, new.2.symm, later⟩
  · rw [if_neg here]
    exact known.resolve_right fun new => here new.1

theorem unexpired_addEdges {timeout : Nat} (positive : 0 < timeout)
    (known : Unexpired cache.linkArray now origin last ∨ (origin, last) = link ∨
      (last, origin) = link) :
    Unexpired (cache.addEdges now timeout link).linkArray now origin last := by
  apply unexpired_addEdge positive
  cases known with
  | inl old => exact .inl (unexpired_addEdge positive (.inl old))
  | inr new =>
      cases new with
      | inl same =>
          rw [← same]
          exact .inl (unexpired_addEdge positive (.inr ⟨rfl, rfl⟩))
      | inr same =>
          rw [← same]
          exact .inr ⟨rfl, rfl⟩

/-- The links that `ph_srt_add_link_map` adds. -/
def srtLinks (srt : DsrSrt) : List (InAddr × InAddr) :=
  match srt.addrs.head?, srt.addrs.getLast? with
  | some first, some last =>
      (srt.src, first) :: (srt.dst, last) :: srt.addrs.zip srt.addrs.tail
  | _, _ => [(srt.src, srt.dst)]

theorem unexpired_phSrtAddLinkMap {srt : DsrSrt} {timeout : Nat} (positive : 0 < timeout % 2 ^ 32)
    (known : Unexpired cache.linkArray now origin last ∨ (origin, last) ∈ srtLinks srt ∨
      (last, origin) ∈ srtLinks srt) :
    Unexpired (cache.phSrtAddLinkMap now srt timeout).linkArray now origin last := by
  have loop : ∀ links : List (InAddr × InAddr), ∀ cache : LinkCache,
      (Unexpired cache.linkArray now origin last ∨ (origin, last) ∈ links ∨
        (last, origin) ∈ links) →
      Unexpired (links.foldl (addEdges now (timeout % 2 ^ 32)) cache).linkArray now origin last := by
    intro links
    induction links with
    | nil =>
        intro cache known
        simpa using known
    | cons link links ih =>
        intro cache known
        apply ih
        simp only [List.mem_cons] at known
        rcases known with old | (first | later) | (first | later)
        · exact .inl (unexpired_addEdges positive (.inl old))
        · exact .inl (unexpired_addEdges positive (.inr (.inl first)))
        · exact .inr (.inl later)
        · exact .inl (unexpired_addEdges positive (.inr (.inr first)))
        · exact .inr (.inr later)
  exact loop (srtLinks srt) cache known

theorem isChain_zip_tail (nodes : List InAddr) :
    nodes.IsChain fun origin last => (origin, last) ∈ nodes.zip nodes.tail := by
  induction nodes with
  | nil => exact List.isChain_nil
  | cons first rest ih =>
      cases rest with
      | nil => exact List.isChain_singleton _
      | cons second rest =>
          refine List.isChain_cons_cons.mpr ⟨List.mem_cons_self, ih.imp ?_⟩
          intro origin last linked
          exact List.mem_cons_of_mem _ linked

theorem srtLinks_chain (srt : DsrSrt) :
    (srt.src :: (srt.addrs ++ [srt.dst])).IsChain fun origin last =>
      (origin, last) ∈ srtLinks srt ∨ (last, origin) ∈ srtLinks srt := by
  cases addrs : srt.addrs with
  | nil => simp [srtLinks, addrs]
  | cons first rest =>
      have ends : ∃ last, srt.addrs.getLast? = some last := by
        rw [addrs]
        exact ⟨_, List.getLast?_cons⟩
      obtain ⟨last, ends⟩ := ends
      have links : srtLinks srt =
          (srt.src, first) :: (srt.dst, last) :: srt.addrs.zip srt.addrs.tail := by
        have head : srt.addrs.head? = some first := by
          rw [addrs]
          rfl
        simp only [srtLinks, head, ends]
      rw [links, ← addrs]
      have inner := isChain_zip_tail srt.addrs
      have outer : (srt.addrs ++ [srt.dst]).IsChain fun origin later =>
          (origin, later) ∈ (srt.src, first) :: (srt.dst, last) :: srt.addrs.zip srt.addrs.tail ∨
          (later, origin) ∈ (srt.src, first) :: (srt.dst, last) :: srt.addrs.zip srt.addrs.tail := by
        refine List.isChain_append.mpr ⟨inner.imp ?_, List.isChain_singleton _, ?_⟩
        · intro origin later linked
          exact .inl (List.mem_cons_of_mem _ (List.mem_cons_of_mem _ linked))
        · intro origin there later here
          rw [ends] at there
          cases there
          cases here
          exact .inr (List.mem_cons_of_mem _ List.mem_cons_self)
      rw [addrs] at outer ⊢
      exact List.isChain_cons_cons.mpr ⟨.inl List.mem_cons_self, outer⟩

/-- After a route of this node was added, every node of it is reached over links that have
not expired. -/
theorem livePath_phSrtAddLinkMap {srt : DsrSrt} {timeout : Nat} {dst : InAddr}
    (positive : 0 < timeout % 2 ^ 32) (among : dst ∈ srt.addrs ++ [srt.dst]) :
    ∃ addrs, LivePath srt.src now (cache.phSrtAddLinkMap now srt timeout).linkArray dst addrs := by
  obtain ⟨before, after, split⟩ := List.append_of_mem among
  refine ⟨before, ?_⟩
  have chain := srtLinks_chain srt
  rw [split, ← List.cons_append] at chain
  have start : (srt.src :: (before ++ [dst])).IsChain fun origin last =>
      (origin, last) ∈ srtLinks srt ∨ (last, origin) ∈ srtLinks srt := by
    have whole : srt.src :: before ++ dst :: after = (srt.src :: (before ++ [dst])) ++ after := by
      simp
    rw [whole] at chain
    exact chain.left_of_append
  exact start.imp fun origin last linked => unexpired_phSrtAddLinkMap positive (.inr linked)

end LinkCache

/-! ## Nodes -/

namespace Node

def Ready (now : SimTime) (node : Node) (dst : InAddr) : Prop :=
  if node.config.pathCache then LiveIn now (node.paths.paths.paths dst)
  else ∃ addrs, LinkCache.LivePath node.myaddr now node.links.linkArray dst addrs

structure Keeps (now : SimTime) (before after : Node) : Prop where
  config : after.config = before.config
  myaddr : after.myaddr = before.myaddr
  paths : KeepsCache now before.paths.paths after.paths.paths
  links : ∀ origin last, LinkCache.Unexpired before.links.linkArray now origin last →
    LinkCache.Unexpired after.links.linkArray now origin last

def Valid (now : SimTime) (node : Node) : Prop :=
  LinkCache.Valid node.myaddr now node.links

variable {now : SimTime} {node between after : Node} {srt : DsrSrt} {dst : InAddr}

theorem Keeps.refl : Keeps now node node :=
  ⟨rfl, rfl, fun _ => id, fun _ _ => id⟩

theorem Keeps.trans (first : Keeps now node between) (second : Keeps now between after) :
    Keeps now node after :=
  ⟨second.config.trans first.config, second.myaddr.trans first.myaddr,
    PathsCache.keepsCache_trans first.paths second.paths,
    fun origin last => second.links origin last ∘ first.links origin last⟩

theorem Keeps.ready (keeps : Keeps now node after) (ready : node.Ready now dst) :
    after.Ready now dst := by
  unfold Ready at ready ⊢
  rw [keeps.config, keeps.myaddr]
  split at ready
  · next cached =>
      rw [if_pos cached]
      exact keeps.paths dst ready
  · next cached =>
      rw [if_neg cached]
      obtain ⟨addrs, path⟩ := ready
      exact ⟨addrs, path.imp keeps.links⟩

/-! ## Lookups -/

theorem routeFind_ready {refreshIntermediate : Bool} {chance : Nat → LinkCache.Chance} {src : InAddr}
    {found : Option DsrSrt} (valid : node.Valid now)
    (ran : node.routeFind refreshIntermediate now chance src dst = .ok (after, found)) :
    Keeps now node after ∧ after.Valid now ∧
      (dst ≠ node.myaddr → node.Ready now dst → found ≠ none) := by
  unfold routeFind at ran
  dsimp only at ran
  split at ran
  · next cached =>
      obtain ⟨⟨paths, rfl, keeps⟩, finds⟩ := phSrtFindMap_live ran
      refine ⟨⟨rfl, rfl, keeps, fun _ _ => id⟩, valid, ?_⟩
      intro _ ready
      rw [Ready, if_pos cached] at ready
      exact finds ready
  · next cached =>
      obtain ⟨chosen, looked, ran⟩ := bind_ok.mp ran
      cases ran
      obtain ⟨result, searched, looked⟩ := bind_ok.mp looked
      cases looked
      by_cases other : dst = node.myaddr
      · rw [other] at searched
        obtain ⟨valid', same⟩ := LinkCache.getRoute_root valid searched
        exact ⟨⟨rfl, rfl, fun _ => id, fun origin last => (same origin last).mpr⟩, valid',
          fun different => absurd other different⟩
      · obtain ⟨links, route, again, valid', same, shortest⟩ :=
          LinkCache.getRoute_ok chance (node.config.routeCacheTimeout % 2 ^ 32) 0 other valid
        rw [searched] at again
        cases again
        refine ⟨⟨rfl, rfl, fun _ => id, fun origin last => (same origin last).mpr⟩, valid', ?_⟩
        intro _ ready none
        rw [Ready, if_neg cached] at ready
        exact shortest.none_iff.mp (Option.map_eq_none_iff.mp none) ready

/-! ## Learning -/

/-- Routes are cached for some time. -/
def Lasting (node : Node) : Prop :=
  0 < node.config.routeCacheTimeout % 2 ^ 32

theorem Keeps.lasting (keeps : Keeps now node after) (lasting : node.Lasting) :
    after.Lasting := by
  unfold Lasting
  rw [keeps.config]
  exact lasting

theorem foldl_setPath {timeout : Nat} (positive : 0 < timeout) (stored : List StoredPath)
    (cache : PathsCache) :
    KeepsCache now cache
        (stored.foldl (fun paths path => paths.setPath now path.dest path.route path.costVect
          (path.route.length + 1) valid timeout) cache) ∧
      ∀ path ∈ stored, LiveIn now ((stored.foldl (fun paths path =>
        paths.setPath now path.dest path.route path.costVect (path.route.length + 1) valid
          timeout) cache).paths path.dest) := by
  induction stored generalizing cache with
  | nil => exact ⟨fun _ => id, fun path member => by cases member⟩
  | cons first rest ih =>
      obtain ⟨keeps, lives⟩ := ih (cache.setPath now first.dest first.route first.costVect
        (first.route.length + 1) valid timeout)
      refine ⟨PathsCache.keepsCache_trans (PathsCache.keepsCache_setPath positive) keeps, ?_⟩
      intro path member
      cases List.mem_cons.mp member with
      | inl here =>
          rw [here]
          exact keeps first.dest (PathsCache.setPath_live positive)
      | inr later => exact lives path later

theorem routeAdd_valid (valid : node.Valid now) (ran : node.routeAdd now srt = .ok after) :
    after.config = node.config ∧ after.myaddr = node.myaddr ∧ after.Valid now := by
  unfold routeAdd at ran
  split at ran
  · obtain ⟨result, _, ran⟩ := bind_ok.mp ran
    cases ran
    exact ⟨rfl, rfl, valid⟩
  · cases ran
    refine ⟨rfl, rfl, ?_⟩
    unfold Valid LinkCache.phSrtAddLinkMap
    apply foldl_keeps _ (LinkCache.Valid node.myaddr now) valid
    exact fun link cache _ valid => valid.addEdges _ link

theorem routeAdd_keeps (lasting : node.Lasting) (ran : node.routeAdd now srt = .ok after) :
    Keeps now node after := by
  unfold routeAdd at ran
  split at ran
  · obtain ⟨result, added, ran⟩ := bind_ok.mp ran
    cases ran
    obtain ⟨parts, _, added⟩ := bind_ok.mp added
    obtain ⟨stored, _, added⟩ := bind_ok.mp added
    cases added
    refine ⟨rfl, rfl, ?_, fun _ _ => id⟩
    simpa using (foldl_setPath lasting stored node.paths.paths).1
  · cases ran
    exact ⟨rfl, rfl, fun _ => id,
      fun origin last live => LinkCache.unexpired_phSrtAddLinkMap lasting (.inl live)⟩

theorem routeAdd_ready (first : srt.src = node.myaddr) (lasting : node.Lasting)
    (ran : node.routeAdd now srt = .ok after) (among : dst ∈ srt.addrs ++ [srt.dst])
    (other : dst ≠ node.myaddr) : after.Ready now dst := by
  unfold routeAdd at ran
  split at ran
  · next cached =>
      obtain ⟨result, added, ran⟩ := bind_ok.mp ran
      cases ran
      obtain ⟨parts, split, added⟩ := bind_ok.mp added
      obtain ⟨stored, stores, added⟩ := bind_ok.mp added
      cases added
      rw [DsrSrt.parts, if_pos first] at split
      cases split
      obtain ⟨towardsDst, walked, dests, -⟩ :=
        subPaths_self node.config.etxActive srt.addrs (srt.cost.map (↑))
      obtain ⟨_, walked', stores⟩ := bind_ok.mp stores
      rw [walked] at walked'
      cases walked'
      cases stores
      unfold Ready
      rw [if_pos cached]
      have some : ∃ path ∈ towardsDst ++
          wholePath node.myaddr srt.dst srt.addrs (srt.cost.map (↑)), path.dest = dst := by
        cases List.mem_append.mp among with
        | inl relay =>
            rw [← dests] at relay
            obtain ⟨path, member, same⟩ := List.mem_map.mp relay
            exact ⟨path, List.mem_append_left _ member, same⟩
        | inr last =>
            have same : dst = srt.dst := List.mem_singleton.mp last
            rw [wholePath, if_pos (same ▸ other.symm)]
            exact ⟨_, List.mem_append_right _ List.mem_cons_self, same.symm⟩
      obtain ⟨path, member, same⟩ := some
      rw [← same]
      simpa using (foldl_setPath lasting _ node.paths.paths).2 path member
  · next links =>
      cases ran
      unfold Ready
      rw [if_neg links, ← first]
      exact LinkCache.livePath_phSrtAddLinkMap lasting among

end Node

end SyncFanet.Dsr
