import SyncFanet.Dsr.WeightedSearch

/-!
# Hop counts in the link cache

Where every link has cost 1, the nearest of the nodes with a link to another are on its shortest
paths, so that `run` finds the hop counts, whatever the random numbers and the shape of the heap
are.
-/

set_option autoImplicit false

namespace SyncFanet.Dsr

namespace LinkCache

structure Tree (rootNode : InAddr) (links : InAddr → InAddr → Prop) (routeMap : RouteMap) :
    Prop where
  root : ∃ state, routeMap.lookup rootNode = some state ∧ state.costAdd = 0
  placed : ∀ node state, routeMap.lookup node = some state → node ≠ rootNode →
    links state.idPrev node ∧ ∃ prev, routeMap.lookup state.idPrev = some prev ∧
      prev.perm = true ∧ state.costAdd = prev.costAdd + 1

/-- What a route map says about the links it was built from: nothing, or the hop counts of
the nodes that paths lead to. -/
structure Mapped (rootNode : InAddr) (links : InAddr → InAddr → Prop) (routeMap : RouteMap) :
    Prop where
  tree : routeMap = ∅ ∨ Tree rootNode links routeMap
  sound : ∀ node best, label routeMap node = some best →
    PathCost (starts rootNode) (hop links) node best
  least : ∀ node cost, node ≠ rootNode → PathCost (starts rootNode) (hop links) node cost →
    ∃ best ≤ cost, label routeMap node = some best

/-! ## Links of cost 1 -/

section

variable {linkArray pruned : LinkArray} {now : SimTime} {origin : InAddr}

theorem WellFormed.sublist (wellFormed : WellFormed linkArray)
    (fewer : ∀ node, (edgesFrom pruned node).Sublist (edgesFrom linkArray node))
    (keys : ∀ node ∈ linkArray, node ∈ pruned) : WellFormed pruned := by
  constructor
  · exact fun node edge member => wellFormed.unit node edge ((fewer node).subset member)
  · exact fun node => (wellFormed.single node).sublist ((fewer node).map Edge.lastNode)
  · intro node edge member
    obtain ⟨known, stored⟩ := wellFormed.ends node edge ((fewer node).subset member)
    exact Option.isSome_iff_exists.mp (Finmap.lookup_isSome.mpr
      (keys edge.lastNode (Finmap.lookup_isSome.mp (by rw [stored]; rfl))))

theorem WellFormed.prune (wellFormed : WellFormed linkArray) {edges : List Edge}
    (fewer : edges.Sublist (edgesFrom linkArray origin)) :
    WellFormed (linkArray.insert origin edges) := by
  refine wellFormed.sublist (fun node => ?_) fun node key => Finmap.mem_insert.mpr (.inr key)
  rw [edgesFrom_insert]
  split
  · next same => exact same ▸ fewer
  · exact List.Sublist.refl _

theorem WellFormed.weighted (wellFormed : WellFormed linkArray) : Weighted linkArray where
  nonneg := fun origin edge member => (wellFormed.unit origin edge member).symm ▸ zero_le_one
  single := wellFormed.single
  ends := fun origin edge member => by
    obtain ⟨edges, stored⟩ := wellFormed.ends origin edge member
    exact Finmap.lookup_isSome.mp (by rw [stored]; rfl)

theorem WellFormed.linkCost_eq (wellFormed : WellFormed linkArray) :
    linkCost linkArray now = hop (Unexpired linkArray now) := by
  funext origin last weight
  refine propext ⟨?_, ?_⟩
  · rintro ⟨edge, member, same, live, rfl⟩
    exact ⟨⟨edge, member, same, live⟩, wellFormed.unit origin edge member⟩
  · rintro ⟨⟨edge, member, same, live⟩, rfl⟩
    exact ⟨edge, member, same, live, wellFormed.unit origin edge member⟩

theorem nearestBest_hop (rootNode : InAddr) (links : InAddr → InAddr → Prop) :
    NearestBest rootNode (hop links) := by
  rintro near node weight cost other ⟨-, rfl⟩ - nearest total path
  cases path with
  | first first => exact absurd first.1 other
  | next path linked =>
      have bound := nearest _ _ _ linked path
      rw [linked.2]
      linarith

end

/-! ## The hop counts -/

section

variable {rootNode : InAddr} {now : SimTime} {linkArray : LinkArray} {order : List InAddr}
  {search : Search}

theorem Weighing.wellFormed (weighing : Weighing rootNode now linkArray order search)
    (wellFormed : WellFormed linkArray) : WellFormed search.linkArray := by
  refine wellFormed.sublist (fun node => ?_) fun node key => (weighing.keys node).mpr key
  rw [weighing.pruned]
  split
  · exact List.filter_sublist
  · exact List.Sublist.refl _

theorem Weighing.unexpired_iff (weighing : Weighing rootNode now linkArray order search)
    {origin last : InAddr} :
    Unexpired search.linkArray now origin last ↔ Unexpired linkArray now origin last := by
  unfold Unexpired
  rw [weighing.pruned]
  split
  · constructor
    · rintro ⟨edge, member, here⟩
      exact ⟨edge, List.mem_of_mem_filter member, here⟩
    · rintro ⟨edge, member, here, live⟩
      exact ⟨edge, List.mem_filter.mpr ⟨member, decide_eq_true live⟩, here, live⟩
  · exact Iff.rfl

theorem Weighing.tree (weighing : Weighing rootNode now linkArray order search)
    (wellFormed : WellFormed linkArray) (empty : search.heap = []) :
    Tree rootNode (Unexpired linkArray now) search.routeMap := by
  refine ⟨weighing.root, fun node state stored other => ?_⟩
  obtain ⟨-, prev, weight, there, linked, sum⟩ := weighing.placed node state stored other
  rw [wellFormed.linkCost_eq] at linked
  exact ⟨linked.1, prev, there, weighing.permanent empty there, linked.2 ▸ sum⟩

end

/-- `run` builds the hop counts over the links that have not expired, and erases no other
links. -/
theorem run_ok (rootNode : InAddr) (now : SimTime) {cache : LinkCache} (chance : Chance)
    (wellFormed : WellFormed cache.linkArray) :
    ∃ built, cache.run rootNode now chance = .ok built ∧ WellFormed built.linkArray ∧
      (∀ origin last, Unexpired built.linkArray now origin last ↔
        Unexpired cache.linkArray now origin last) ∧
      Mapped rootNode (Unexpired cache.linkArray now) built.routeMap := by
  cases stored : cache.linkArray.lookup rootNode with
  | none =>
      refine ⟨{ cache with routeMap := ∅ }, by rw [run, stored], wellFormed,
        fun _ _ => Iff.rfl, .inl rfl, ?_, ?_⟩
      · intro node best labelled
        simp [label] at labelled
      · intro node cost other path
        have none : ∀ last, ¬Unexpired cache.linkArray now rootNode last := by
          intro last linked
          obtain ⟨edge, member, _⟩ := linked
          simp [edgesFrom, stored] at member
        have stays : node = rootNode := by
          clear other
          induction path with
          | first first => exact first.1
          | @next last node cost weight path linked ih =>
              rw [ih] at linked
              exact absurd linked.1 (none node)
        exact absurd stays other
  | some edges =>
      have key : rootNode ∈ cache.linkArray := Finmap.lookup_isSome.mp (by rw [stored]; rfl)
      obtain ⟨built, made⟩ := built_ok wellFormed.weighted key now chance
      obtain ⟨order, weighing⟩ := made.weighing
      have nearest := nearestBest_hop rootNode (Unexpired cache.linkArray now)
      have cheapest := made.cheapest (wellFormed.linkCost_eq ▸ nearest)
      rw [wellFormed.linkCost_eq] at cheapest
      refine ⟨built, made.ran, weighing.wellFormed wellFormed, fun _ _ => weighing.unexpired_iff,
        .inr (weighing.tree wellFormed rfl), ?_, ?_⟩
      · intro node best labelled
        obtain ⟨state, there, rfl⟩ := Option.map_eq_some_iff.mp labelled
        exact (cheapest.least node state there).1
      · intro node cost _ path
        obtain ⟨state, there⟩ := Option.isSome_iff_exists.mp
          (Finmap.lookup_isSome.mpr (cheapest.reached node cost path))
        exact ⟨state.costAdd, (cheapest.least node state there).2 path, by rw [label, there]; rfl⟩

end LinkCache

end SyncFanet.Dsr
