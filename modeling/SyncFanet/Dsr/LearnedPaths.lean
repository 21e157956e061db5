import SyncFanet.Dsr.PathCache
import SyncFanet.Library.Fold

/-!
# Paths learned from a source route

Which of the paths that `ph_srt_add_map` stores run along the source route it was given.
They do at the source of the route, and elsewhere hardly ever: a relay stores the nodes
before it as the way to the destination.
-/

set_option autoImplicit false

namespace SyncFanet.Dsr

/-! ## Writing the cache -/

namespace PathsCache

variable {now : SimTime} {path other : Path} {cache : PathsCache} {dest key : InAddr}
  {route : PathCacheRoute} {costVect : PathCacheCost} {cost : ℚ} {status : Int} {timeout : Nat}

theorem mem_setPathAmong {stored : List Path} (member : other ∈ setPathAmong now path stored) :
    other = path ∨ other ∈ stored := by
  induction stored with
  | nil => exact .inl (by simpa [setPathAmong] using member)
  | cons old rest ih =>
      unfold setPathAmong at member
      split at member
      · cases List.mem_cons.mp member with
        | inl new => exact .inl new
        | inr later => exact .inr (List.mem_cons_of_mem old later)
      · split at member
        · cases ih member with
          | inl new => exact .inl new
          | inr later => exact .inr (List.mem_cons_of_mem old later)
        · cases List.mem_cons.mp member with
          | inl first => exact .inr (List.mem_cons.mpr (.inl first))
          | inr later =>
              cases ih later with
              | inl new => exact .inl new
              | inr later => exact .inr (List.mem_cons_of_mem old later)

theorem paths_setPath_ne (different : key ≠ dest) :
    (cache.setPath now dest route costVect cost status timeout).paths key = cache.paths key := by
  simp only [paths, setPath, Finmap.lookup_insert_of_ne _ different]

/-- A path in the cache after `setPath` was there before, or is the path that was set. -/
theorem mem_paths_setPath
    (member : path ∈ (cache.setPath now dest route costVect cost status timeout).paths key) :
    path ∈ cache.paths key ∨ key = dest ∧ path.route = route := by
  by_cases same : key = dest
  · subst same
    simp only [paths, setPath, Finmap.lookup_insert, Option.getD_some] at member
    cases mem_setPathAmong member with
    | inl new => exact .inr ⟨rfl, by rw [new]⟩
    | inr old => exact .inl old
  · rw [paths_setPath_ne same] at member
    exact .inl member

end PathsCache

/-! ## The paths of a route -/

section

variable {etxActive : Bool} {keys route : PathCacheRoute} {costVect : PathCacheCost}

theorem subPaths_self (etxActive : Bool) (route : PathCacheRoute) (costVect : PathCacheCost) :
    ∃ stored, subPaths etxActive route route costVect = .ok stored ∧
      stored.map StoredPath.dest = route ∧
      ∀ path ∈ stored, path.route ++ [path.dest] <+: route := by
  let pathAt (i : Nat) : StoredPath :=
    { dest := (route[i]?).getD 0
      route := route.take i
      costVect := if etxActive ∧ i + 1 < costVect.length then costVect.take (i + 1) else [] }
  refine ⟨(List.range route.length).map pathAt, ?_, ?_, ?_⟩
  · apply mapM_ok
    intro i inside
    rw [List.mem_range] at inside
    simp only [at?, List.getElem?_eq_getElem inside, pathAt]
    rfl
  · apply List.ext_getElem
    · simp
    · intro i _ inside
      simp [pathAt, List.getElem?_eq_getElem inside]
  · intro path member
    obtain ⟨i, inside, rfl⟩ := List.mem_map.mp member
    rw [List.mem_range] at inside
    simp only [pathAt, List.getElem?_eq_getElem inside, Option.getD_some,
      List.take_concat_get' route i inside]
    exact List.take_prefix _ _

theorem subPaths_nil_keys (nonempty : route ≠ []) :
    subPaths etxActive [] route costVect = .error .outOfBounds := by
  unfold subPaths
  obtain ⟨count, length⟩ := Nat.exists_eq_succ_of_ne_zero
    (Nat.ne_of_gt (List.length_pos_of_ne_nil nonempty))
  rw [length, List.range_succ_eq_map, List.mapM_cons]
  rfl

end

variable {stored : List StoredPath}

/-! ## What a source route reports -/

variable {srt : DsrSrt} {myaddr : InAddr} {flags : Nat} {route : List InAddr}

/-- The nodes of a path of this node are a run of the source route, read forwards, or
backwards where paths towards the source are stored. -/
def Reported (myaddr : InAddr) (srt : DsrSrt) (flags : Nat) (path : StoredPath) : Prop :=
  myaddr :: path.route ++ [path.dest] <:+: srt.nodes ∨
    bidirectional srt flags ∧ myaddr :: path.route ++ [path.dest] <:+: srt.nodes.reverse

theorem Reported.mem {path : StoredPath} (reported : Reported myaddr srt flags path) :
    myaddr ∈ srt.nodes := by
  cases reported with
  | inl forward => exact forward.subset List.mem_cons_self
  | inr backward => exact List.mem_reverse.mp (backward.2.subset List.mem_cons_self)

theorem dst_fresh (distinct : srt.nodes.Nodup) : srt.dst ∉ srt.src :: srt.addrs := by
  intro member
  rw [DsrSrt.nodes, List.nodup_append] at distinct
  exact distinct.2.2 _ member _ List.mem_cons_self rfl

theorem not_infix_reverse (distinct : srt.nodes.Nodup) :
    ¬ myaddr :: route ++ [srt.dst] <:+: srt.nodes.reverse := by
  rintro ⟨before, after, split⟩
  have later : srt.dst ∈ (srt.src :: srt.addrs).reverse := by
    have reversed : srt.nodes.reverse = srt.dst :: (srt.src :: srt.addrs).reverse := by
      simp [DsrSrt.nodes]
    rw [reversed] at split
    cases before with
    | nil =>
        have rest := (List.cons.inj split).2
        rw [← rest]
        simp
    | cons first before =>
        have rest := (List.cons.inj split).2
        rw [← rest]
        simp
  exact dst_fresh distinct (List.mem_reverse.mp later)

theorem suffix_of_infix (distinct : srt.nodes.Nodup)
    (run : myaddr :: route ++ [srt.dst] <:+: srt.nodes) :
    myaddr :: route <:+ srt.src :: srt.addrs := by
  obtain ⟨before, after, split⟩ := run
  cases after using List.reverseRecOn with
  | nil =>
      refine ⟨before, ?_⟩
      have same : before ++ myaddr :: route ++ [srt.dst] = srt.src :: srt.addrs ++ [srt.dst] := by
        simpa [DsrSrt.nodes] using split
      exact List.append_cancel_right same
  | append_singleton after last =>
      have same : (before ++ myaddr :: route ++ [srt.dst] ++ after) ++ [last] =
          (srt.src :: srt.addrs) ++ [srt.dst] := by
        simpa [DsrSrt.nodes] using split
      exact absurd (List.append_inj_left' same rfl ▸ by simp) (dst_fresh distinct)

theorem relay_whole {pos : Nat} (distinct : srt.nodes.Nodup) (inside : pos < srt.addrs.length)
    (run : srt.addrs[pos] :: srt.addrs.take pos ++ [srt.dst] <:+: srt.nodes) :
    srt.addrs.length = 1 := by
  obtain ⟨before, split⟩ := suffix_of_infix distinct run
  have distinct' : (srt.src :: srt.addrs).Nodup :=
    distinct.sublist (List.sublist_append_left _ _)
  have length := congrArg List.length split
  simp only [List.length_append, List.length_cons, List.length_take] at length
  -- the relay stands at `before.length` and at `pos + 1`
  have here : (srt.src :: srt.addrs)[before.length]? = some srt.addrs[pos] := by
    rw [← split]
    simp
  have there : (srt.src :: srt.addrs)[pos + 1]? = some srt.addrs[pos] := by
    rw [List.getElem?_cons_succ, List.getElem?_eq_getElem inside]
  have same : before.length = pos + 1 :=
    (List.getElem?_inj (by simp; omega) distinct').mp (here.trans there.symm)
  cases pos with
  | zero => omega
  | succ pos =>
      have first : (srt.src :: srt.addrs)[before.length + 1]? = some srt.addrs[0] := by
        rw [← split, List.getElem?_append_right (by omega)]
        simp
      have early : (srt.src :: srt.addrs)[1]? = some srt.addrs[0] := by
        rw [List.getElem?_cons_succ, List.getElem?_eq_getElem]
      have clash : before.length + 1 = 1 :=
        (List.getElem?_inj (by simp; omega) distinct').mp (first.trans early.symm)
      omega

/-! ## The paths that are stored -/

/-- The call returns, the paths it stores are reported by the source route, and there are
none where this node is not on the route. -/
def StoresReported (myaddr : InAddr) (etxActive : Bool) (now : SimTime) (cache : PathCacheMap)
    (srt : DsrSrt) (timeout flags : Nat) (oportunity : Bool) : Prop :=
  ∃ cache' stored,
    phSrtAddMap myaddr etxActive now cache srt timeout flags oportunity = .ok (cache', stored) ∧
      (∀ path ∈ stored, Reported myaddr srt flags path) ∧ (myaddr ∉ srt.nodes → stored = [])

/-- This node is the source; or it is the destination, and paths towards the source are
not stored or the source is a neighbour; or it is the only relay. -/
def LearnsRight (myaddr : InAddr) (srt : DsrSrt) (flags : Nat) : Prop :=
  myaddr = srt.src ∨ (myaddr = srt.dst ∧ (¬bidirectional srt flags ∨ srt.addrs = [])) ∨
    srt.addrs = [myaddr]

theorem Reported.nothing (absent : myaddr ∉ srt.nodes)
    (reported : ∀ path ∈ stored, Reported myaddr srt flags path) : stored = [] := by
  cases stored with
  | nil => rfl
  | cons path rest => exact absurd (reported path List.mem_cons_self).mem absent

variable {etxActive oportunity : Bool} {now : SimTime} {cache : PathCacheMap} {timeout : Nat}

theorem storesReported_iff_storedPaths :
    StoresReported myaddr etxActive now cache srt timeout flags oportunity ↔
      ∃ (parts : RouteParts) (stored : List StoredPath), srt.parts myaddr = .ok parts ∧
        storedPaths myaddr etxActive srt flags parts = .ok stored ∧
        ∀ path ∈ stored, Reported myaddr srt flags path := by
  constructor
  · rintro ⟨cache', stored, ran, reported, -⟩
    obtain ⟨parts, split, rest⟩ := bind_ok.mp ran
    obtain ⟨stored', paths, done⟩ := bind_ok.mp rest
    cases done
    exact ⟨parts, stored, split, paths, reported⟩
  · rintro ⟨parts, stored, split, paths, reported⟩
    have returns : ∃ cache',
        phSrtAddMap myaddr etxActive now cache srt timeout flags oportunity =
          .ok (cache', stored) :=
      ⟨_, bind_ok.mpr ⟨parts, split, bind_ok.mpr ⟨stored, paths, rfl⟩⟩⟩
    obtain ⟨cache', ran⟩ := returns
    exact ⟨cache', stored, ran, reported, fun absent => Reported.nothing absent reported⟩

theorem whole_mem {parts : RouteParts} (other : myaddr ≠ srt.dst)
    (paths : storedPaths myaddr etxActive srt flags parts = .ok stored) :
    ∃ path ∈ stored, path.dest = srt.dst ∧ path.route = parts.route := by
  obtain ⟨towardsDst, -, rest⟩ := bind_ok.mp paths
  refine ⟨{ dest := srt.dst, route := parts.route, costVect := parts.costVect }, ?_, rfl, rfl⟩
  have whole : wholePath myaddr srt.dst parts.route parts.costVect =
      [{ dest := srt.dst, route := parts.route, costVect := parts.costVect }] :=
    if_pos other
  simp only [whole] at rest
  split at rest
  · cases rest
    simp
  · split at rest
    · obtain ⟨towardsSrc, -, done⟩ := bind_ok.mp rest
      cases done
      simp
    · cases rest
      simp

theorem learnsRight_of_relay {parts : RouteParts} {pos : Nat} (distinct : srt.nodes.Nodup)
    (inside : pos < srt.addrs.length) (here : srt.addrs[pos] = myaddr)
    (before : parts.route = srt.addrs.take pos) (other : myaddr ≠ srt.dst)
    (paths : storedPaths myaddr etxActive srt flags parts = .ok stored)
    (reported : ∀ path ∈ stored, Reported myaddr srt flags path) : srt.addrs = [myaddr] := by
  obtain ⟨path, member, dest, route⟩ := whole_mem other paths
  have claimed := reported path member
  rw [Reported, dest, route, before] at claimed
  cases claimed with
  | inl forward =>
      rw [← here] at forward
      have single := relay_whole distinct inside forward
      obtain ⟨relay, same⟩ := List.length_eq_one_iff.mp single
      have first : pos = 0 := by omega
      subst first
      simp only [same, List.getElem_cons_zero] at here
      rw [same, here]
  | inr backward => exact absurd backward.2 (not_infix_reverse distinct)

theorem storedPaths_first (first : myaddr = srt.src) :
    ∃ (parts : RouteParts) (stored : List StoredPath), srt.parts myaddr = .ok parts ∧
      storedPaths myaddr etxActive srt flags parts = .ok stored ∧
      ∀ path ∈ stored, Reported myaddr srt flags path := by
  subst first
  obtain ⟨towardsDst, walked, -, along⟩ :=
    subPaths_self etxActive srt.addrs (srt.cost.map (↑))
  refine ⟨_, _, if_pos rfl, bind_ok.mpr ⟨towardsDst, walked, rfl⟩, ?_⟩
  intro path member
  left
  cases List.mem_append.mp member with
  | inl early =>
      obtain ⟨rest, split⟩ := along path early
      refine ⟨[], rest ++ [srt.dst], ?_⟩
      simp [DsrSrt.nodes, ← split]
  | inr whole =>
      unfold wholePath at whole
      split at whole
      · simp only [List.mem_singleton] at whole
        subst whole
        exact List.infix_rfl
      · cases whole

section

variable {parts : RouteParts}

theorem storedPaths_oneWay (empty : parts.route = []) (oneWay : ¬bidirectional srt flags) :
    storedPaths myaddr etxActive srt flags parts =
      .ok (wholePath myaddr srt.dst [] parts.costVect) := by
  unfold storedPaths
  rw [empty]
  cases parts.isFirst with
  | true => rfl
  | false => simp only [subPaths, oneWay, if_false]; rfl

theorem storedPaths_bothWays (other : parts.isFirst = false) (empty : parts.route = [])
    (empty2 : parts.route2 = []) (both : bidirectional srt flags) :
    storedPaths myaddr etxActive srt flags parts =
      .ok (wholePath myaddr srt.dst [] parts.costVect ++
        wholePath myaddr srt.src [] parts.costVect2) := by
  unfold storedPaths
  rw [other, empty, empty2]
  have none : ∀ costs, subPaths etxActive [] [] costs = .ok [] := fun _ => rfl
  simp [none, both, Except.bind]

theorem storedPaths_outOfBounds (other : parts.isFirst = false) (empty : parts.route = [])
    (nonempty : parts.route2 ≠ []) (both : bidirectional srt flags) :
    storedPaths myaddr etxActive srt flags parts = .error .outOfBounds := by
  unfold storedPaths
  rw [other, empty, subPaths_nil_keys nonempty]
  simp only [both, if_true]
  rfl

theorem reported_ends (both : bidirectional srt flags)
    (beforeDst : myaddr ≠ srt.dst → [myaddr, srt.dst] <:+: srt.nodes)
    (afterSrc : myaddr ≠ srt.src → [myaddr, srt.src] <:+: srt.nodes.reverse) {path : StoredPath}
    {costVect costVect2 : PathCacheCost}
    (member : path ∈ wholePath myaddr srt.dst [] costVect ++ wholePath myaddr srt.src [] costVect2) :
    Reported myaddr srt flags path := by
  unfold wholePath at member
  cases List.mem_append.mp member with
  | inl towardsDst =>
      split at towardsDst
      · next other =>
          rw [List.mem_singleton] at towardsDst
          subst towardsDst
          exact .inl (beforeDst other)
      · cases towardsDst
  | inr towardsSrc =>
      split at towardsSrc
      · next other =>
          rw [List.mem_singleton] at towardsSrc
          subst towardsSrc
          exact .inr ⟨both, afterSrc other⟩
      · cases towardsSrc

end

theorem parts_last (apart : srt.src ≠ srt.dst) :
    srt.parts srt.dst =
      .ok { isFirst := false, isLast := true, pos := none, route := [], costVect := [],
            route2 := srt.addrs.reverse, costVect2 := (srt.cost.map (↑)).reverse } := by
  rw [DsrSrt.parts, if_neg apart, if_pos rfl]

theorem learnsRight_of_last (apart : srt.src ≠ srt.dst) {parts : RouteParts}
    (split : srt.parts srt.dst = .ok parts)
    (paths : storedPaths srt.dst etxActive srt flags parts = .ok stored) :
    ¬bidirectional srt flags ∨ srt.addrs = [] := by
  rw [parts_last apart] at split
  cases split
  by_contra wrong
  rw [not_or, not_not] at wrong
  obtain ⟨both, relays⟩ := wrong
  rw [storedPaths_outOfBounds rfl rfl (by simpa using relays) both] at paths
  cases paths

theorem storedPaths_last (apart : srt.src ≠ srt.dst)
    (stops : ¬bidirectional srt flags ∨ srt.addrs = []) :
    ∃ (parts : RouteParts) (stored : List StoredPath), srt.parts srt.dst = .ok parts ∧
      storedPaths srt.dst etxActive srt flags parts = .ok stored ∧
      ∀ path ∈ stored, Reported srt.dst srt flags path := by
  by_cases both : bidirectional srt flags
  · have direct : srt.addrs = [] := stops.resolve_left fun oneWay => oneWay both
    refine ⟨_, _, parts_last apart, storedPaths_bothWays rfl rfl (by simp [direct]) both, ?_⟩
    intro path member
    apply reported_ends both _ _ member
    · intro other
      exact absurd rfl other
    · intro _
      exact ⟨[], [], by simp [DsrSrt.nodes, direct]⟩
  · refine ⟨_, _, parts_last apart, storedPaths_oneWay rfl both, ?_⟩
    intro path member
    rw [wholePath, if_neg (not_not.mpr rfl)] at member
    cases member

theorem parts_only (notFirst : srt.src ≠ myaddr) (notLast : srt.dst ≠ myaddr)
    (only : srt.addrs = [myaddr]) :
    ∃ parts, srt.parts myaddr = .ok parts ∧ parts.isFirst = false ∧ parts.route = [] ∧
      parts.route2 = [] := by
  rw [DsrSrt.parts, if_neg notFirst, if_neg notLast, only]
  simp only [List.findIdx?_singleton, decide_true, if_true]
  cases srt.cost with
  | nil => exact ⟨_, rfl, rfl, rfl, rfl⟩
  | cons first rest => exact ⟨_, by simp [leadingCosts, Except.bind]; rfl, rfl, rfl, rfl⟩

theorem storedPaths_only (distinct : srt.nodes.Nodup) (only : srt.addrs = [myaddr]) :
    ∃ (parts : RouteParts) (stored : List StoredPath), srt.parts myaddr = .ok parts ∧
      storedPaths myaddr etxActive srt flags parts = .ok stored ∧
      ∀ path ∈ stored, Reported myaddr srt flags path := by
  have apart : srt.src ≠ myaddr ∧ srt.dst ≠ myaddr := by
    simp only [DsrSrt.nodes, only, List.cons_append, List.nil_append, List.nodup_cons,
      List.mem_cons, List.not_mem_nil, or_false, not_or] at distinct
    exact ⟨distinct.1.1, Ne.symm distinct.2.1⟩
  obtain ⟨parts, split, notFirst, empty, empty2⟩ := parts_only apart.1 apart.2 only
  by_cases both : bidirectional srt flags
  · refine ⟨parts, _, split, storedPaths_bothWays notFirst empty empty2 both, ?_⟩
    intro path member
    apply reported_ends both _ _ member
    · intro _
      exact ⟨[srt.src], [], by simp [DsrSrt.nodes, only]⟩
    · intro _
      exact ⟨[srt.dst], [], by simp [DsrSrt.nodes, only]⟩
  · refine ⟨parts, _, split, storedPaths_oneWay empty both, ?_⟩
    intro path member
    rw [wholePath, if_pos (Ne.symm apart.2), List.mem_singleton] at member
    subst member
    exact .inl ⟨[srt.src], [], by simp [DsrSrt.nodes, only]⟩

theorem not_reported_absent {parts : RouteParts} (notLast : srt.dst ≠ myaddr)
    (notFirst : srt.src ≠ myaddr) (absent : srt.addrs.findIdx? (fun addr => addr = myaddr) = none)
    (paths : storedPaths myaddr etxActive srt flags parts = .ok stored) :
    ¬ ∀ path ∈ stored, Reported myaddr srt flags path := by
  intro reported
  obtain ⟨path, member, -, -⟩ := whole_mem (Ne.symm notLast) paths
  have present := (reported path member).mem
  have relay : myaddr ∈ srt.addrs := by
    simpa [DsrSrt.nodes, Ne.symm notFirst, Ne.symm notLast] using present
  simpa using List.findIdx?_eq_none_iff.mp absent myaddr relay

/-- What `ph_srt_add_map` stores is reported by the source route exactly at its source, at
a destination that stores nothing or hears its source, and at an only relay. -/
theorem storesReported_iff (distinct : srt.nodes.Nodup) :
    StoresReported myaddr etxActive now cache srt timeout flags oportunity ↔
      LearnsRight myaddr srt flags := by
  have apart : srt.src ≠ srt.dst := by
    intro same
    exact dst_fresh distinct (same ▸ List.mem_cons_self)
  rw [storesReported_iff_storedPaths]
  constructor
  · rintro ⟨parts, stored, split, paths, reported⟩
    by_cases first : srt.src = myaddr
    · exact .inl first.symm
    by_cases last : srt.dst = myaddr
    · subst last
      exact .inr (.inl ⟨rfl, learnsRight_of_last apart split paths⟩)
    rw [DsrSrt.parts, if_neg first, if_neg last] at split
    cases found : srt.addrs.findIdx? fun addr => addr = myaddr with
    | none => exact absurd reported (not_reported_absent last first found paths)
    | some pos =>
        rw [found] at split
        obtain ⟨costs, -, rest⟩ := bind_ok.mp split
        cases rest
        obtain ⟨inside, here, -⟩ := List.findIdx?_eq_some_iff_getElem.mp found
        have relay := learnsRight_of_relay distinct inside (by simpa using here) rfl
          (Ne.symm last) paths reported
        exact .inr (.inr relay)
  · intro right
    rcases right with first | ⟨rfl, stops⟩ | only
    · exact storedPaths_first first
    · exact storedPaths_last apart stops
    · exact storedPaths_only distinct only

/-- Node 3 relays a reply about the route 1, 2, 3, 4, 5. -/
private def relayedRoute : DsrSrt :=
  { src := 1, dst := 5, flags := 1, laddrs := 12, addrs := [2, 3, 4], cost := [] }

private def emptyCache : PathCacheMap := { paths := ∅, nextPurge := 0 }

theorem storesReported_iff_source :
    StoresReported 1 false 0 emptyCache relayedRoute 300000000 0 false ↔
      LearnsRight 1 relayedRoute 0 :=
  storesReported_iff (by decide)

/-- The relay takes the destination for a neighbour of the first node. -/
theorem not_storesReported_relay :
    ¬ StoresReported 3 false 0 emptyCache relayedRoute 300000000 0 false := by
  rw [storesReported_iff_storedPaths]
  rintro ⟨parts, stored, split, paths, reported⟩
  cases split
  cases paths
  have claimed := reported { dest := 5, route := [2], costVect := [] } (by decide)
  revert claimed
  unfold Reported
  decide

end SyncFanet.Dsr
