import SyncFanet.Olsr.Network
import SyncFanet.Olsr.RtableLayers

/-!
# Shortest paths in a converged network

Nodes advertise only their MPR selectors. The MPR sets are a relay cover, so every
node beyond the first hop has an advertised last hop one layer closer, and the
loop over `h` finds the nodes in the order of their distance.
-/

set_option autoImplicit false

namespace SyncFanet.Olsr

/-- The topology set holds what the other nodes advertise. -/
def MirrorsAdvertisements (state : NsAddr → State) (network : Network) (root : NsAddr) : Prop :=
  ∀ u m, (∃ tuple ∈ (state root).topologyset, tuple.destAddr = u ∧ tuple.lastAddr = m) ↔
    m ∈ network.nodes ∧ m ≠ root ∧ ∃ selector ∈ (state m).mprselset, selector.mainAddr = u

/-- The entry sits at the distance of its destination and starts with a neighbor
of the root that is one hop closer. -/
structure ShortestRoute (network : Network) (root dest : NsAddr) (entry : RtEntry) : Prop where
  dist : entry.dist = network.graph.dist root dest
  next : network.graph.Adj root entry.nextAddr
  closer : network.graph.dist entry.nextAddr dest + 1 = network.graph.dist root dest

/-- A table whose routes are shortest and at most `deepest` hops long, with a
route to every node up to the layer `full`. -/
structure Layered (network : Network) (root : NsAddr) (full deepest : Nat)
    (rtable : Rtable) : Prop where
  sound : ∀ dest entry, rtable.lookup dest = some entry →
    dest ≠ root ∧ ShortestRoute network root dest entry ∧ entry.dist ≤ deepest
  complete : ∀ dest ∈ network.nodes, dest ≠ root → network.graph.dist root dest ≤ full →
    (rtable.lookup dest).isSome

section

variable {network : Network} {horizon now : Int} {root : NsAddr} {state : State}

theorem symNeighbor_iff (mirrors : MirrorsNeighborhood network horizon root state)
    (addr : NsAddr) : SymNeighbor state addr ↔ network.graph.Adj root addr := by
  constructor
  · rintro ⟨nb, member, rfl, _⟩
    exact mirrors.neighbor_adj nb member
  · intro adjacent
    obtain ⟨nb, member, main⟩ := mirrors.neighbor addr adjacent
    exact ⟨nb, member, main, (mirrors.neighbor_sym nb member).1⟩

theorem oneHop_of_adj (mirrors : MirrorsNeighborhood network horizon root state)
    (early : now ≤ horizon) {addr : NsAddr} (adjacent : network.graph.Adj root addr) :
    OneHop state now addr := by
  obtain ⟨nb, member, main⟩ := mirrors.neighbor addr adjacent
  obtain ⟨link, included, iface⟩ := mirrors.linked addr adjacent
  refine ⟨nb, member, (mirrors.neighbor_sym nb member).1, link, ?_, .inl iface⟩
  have unexpired := (mirrors.link_sym link included).2
  exact mem_linksOf.mpr ⟨included, by rw [mirrors.getMainAddr, iface, main], by omega⟩

theorem neighborEntry_shape (mirrors : MirrorsNeighborhood network horizon root state)
    {entry : RtEntry} (neighbor : NeighborEntry state now entry) :
    network.graph.Adj root entry.destAddr ∧ entry.nextAddr = entry.destAddr ∧
      entry.dist = 1 := by
  obtain ⟨nb, member, _, link, included, shape⟩ := neighbor
  obtain ⟨_, main, _⟩ := mem_linksOf.mp included
  rw [mirrors.getMainAddr] at main
  rcases shape with rfl | rfl
  · exact ⟨by rw [linkEntry, main]; exact mirrors.neighbor_adj nb member, rfl, rfl⟩
  · exact ⟨mirrors.neighbor_adj nb member, main, rfl⟩

theorem inN2_iff_dist (mirrors : MirrorsNeighborhood network horizon root state)
    {hop : Nb2hopTuple} (member : hop ∈ state.nb2hopset) :
    inN2 state hop = true ↔ network.graph.dist root hop.nb2hopAddr = 2 := by
  obtain ⟨step, step', different⟩ :=
    (mirrors.twoHop hop.nbMainAddr hop.nb2hopAddr).mp ⟨hop, member, rfl, rfl⟩
  rw [inN2_iff, symNeighbor_iff mirrors, symNeighbor_iff mirrors]
  have one := SimpleGraph.dist_eq_one_iff_adj.mpr step
  have upper := RelayCover.dist_le_succ root step'
  constructor
  · rintro ⟨_, _, apart⟩
    have far := SimpleGraph.Reachable.one_lt_dist_of_ne_of_not_adj
      (step.reachable.trans step'.reachable) different.symm apart
    omega
  · intro two
    refine ⟨step, fun nb included _ => (mirrors.neighbor_sym nb included).2, ?_⟩
    intro adjacent
    rw [SimpleGraph.dist_eq_one_iff_adj.mpr adjacent] at two
    omega

theorem layered_two (mirrors : MirrorsNeighborhood network horizon root state)
    (early : now ≤ horizon) (isNode : root ∈ network.nodes) {rtable : Rtable}
    (table : TwoHopTable state (neighborPass state now) state.nb2hopset rtable) :
    Layered network root 2 2 rtable := by
  constructor
  · intro dest entry found
    by_cases twoHop : ∃ hop ∈ state.nb2hopset, inN2 state hop = true ∧ hop.nb2hopAddr = dest
    · obtain ⟨hop, member, qualifies, rfl⟩ := twoHop
      have two := (inN2_iff_dist mirrors member).mp qualifies
      obtain ⟨other, among, _, same, via, based, stored⟩ :=
        table.reached hop member qualifies
      rw [found] at stored
      cases stored
      obtain ⟨adjacent, next, _⟩ := neighborEntry_shape mirrors (neighborPass_found based)
      obtain ⟨_, step, different⟩ :=
        (mirrors.twoHop other.nbMainAddr other.nb2hopAddr).mp ⟨other, among, rfl, rfl⟩
      rw [Rtable.lookup_dest based] at adjacent next
      rw [same] at step different
      have last := SimpleGraph.dist_eq_one_iff_adj.mpr step
      refine ⟨different, ⟨two.symm, ?_, ?_⟩, le_refl 2⟩
      · simpa [twoHopEntry, next] using adjacent
      · simp only [twoHopEntry, next]
        omega
    · push Not at twoHop
      rw [table.kept dest fun hop member qualifies => twoHop hop member qualifies] at found
      obtain ⟨adjacent, next, dist⟩ := neighborEntry_shape mirrors (neighborPass_found found)
      rw [Rtable.lookup_dest found] at adjacent next
      have one := SimpleGraph.dist_eq_one_iff_adj.mpr adjacent
      refine ⟨adjacent.ne', ⟨by omega, next ▸ adjacent, ?_⟩, by omega⟩
      rw [next, SimpleGraph.dist_self, one]
  · intro dest node different near
    have positive := SimpleGraph.Reachable.pos_dist_of_ne (network.connected root isNode dest node)
      different.symm
    rcases Nat.lt_or_ge (network.graph.dist root dest) 2 with one | two
    · have adjacent := SimpleGraph.dist_eq_one_iff_adj.mp
        (show network.graph.dist root dest = 1 by omega)
      rw [table.lookup_symNeighbor ((symNeighbor_iff mirrors dest).mpr adjacent)]
      exact neighborPass_isSome_of_oneHop (oneHop_of_adj mirrors early adjacent)
    · have far : network.graph.dist root dest = 1 + 1 := by omega
      obtain ⟨m, step', one⟩ := RelayCover.exists_adj_dist far
      have step := SimpleGraph.dist_eq_one_iff_adj.mp one
      obtain ⟨hop, member, _, rfl⟩ := (mirrors.twoHop m dest).mpr ⟨step, step', different⟩
      obtain ⟨_, _, _, _, _, _, stored⟩ :=
        table.reached hop member ((inN2_iff_dist mirrors member).mpr far)
      exact Option.isSome_of_eq_some stored

end

section

variable {network : Network} {horizon now : Int} {root : NsAddr} {state : NsAddr → State}

theorem advertised_adj (converged : Converged network horizon state)
    (advertised : MirrorsAdvertisements state network root) {tuple : TopologyTuple}
    (member : tuple ∈ (state root).topologyset) :
    network.graph.Adj tuple.lastAddr tuple.destAddr := by
  obtain ⟨last, _, selects⟩ := (advertised tuple.destAddr tuple.lastAddr).mp
    ⟨tuple, member, rfl, rfl⟩
  obtain ⟨dest, picked⟩ :=
    (converged.selectors tuple.lastAddr last tuple.destAddr).mp selects
  exact (converged.relayCover.adjacent _ _ ⟨dest, picked⟩).symm

/-- A new entry of layer `h` is a shortest route over its last hop. -/
theorem Layered.extend {h : Nat} {dest last : NsAddr} {rtable : Rtable} {via : RtEntry}
    (layered : Layered network root h (h + 1) rtable)
    (found : rtable.lookup last = some via) (layer : via.dist = h) (beyond : 2 ≤ h)
    (step : network.graph.Adj last dest) (absent : rtable.lookup dest = none) :
    Layered network root h (h + 1) (rtable.store (extendEntry dest (h + 1) via)) := by
  obtain ⟨_, route, _⟩ := layered.sound last via found
  have dist := route.dist
  have closer := route.closer
  have different : dest ≠ root := by
    rintro rfl
    have one := SimpleGraph.dist_eq_one_iff_adj.mpr step.symm
    omega
  have far : h < network.graph.dist root dest := by
    by_contra near
    have present := layered.complete dest (network.adj_mem last dest step) different (by omega)
    rw [absent] at present
    cases present
  have upper := RelayCover.dist_le_succ root step
  have next := SimpleGraph.dist_eq_one_iff_adj.mpr route.next
  have lower := SimpleGraph.Reachable.dist_triangle_left route.next.reachable dest
  have tail := RelayCover.dist_le_succ via.nextAddr step
  constructor
  · intro other entry stored
    rw [Rtable.lookup_store] at stored
    by_cases same : other = (extendEntry dest (h + 1) via).destAddr
    · rw [if_pos same] at stored
      cases stored
      cases same
      refine ⟨different, ⟨?_, route.next, ?_⟩, le_refl (h + 1)⟩
      · simp only [extendEntry]
        omega
      · simp only [extendEntry]
        omega
    · rw [if_neg same] at stored
      exact layered.sound other entry stored
  · intro other node different near
    exact (Extends.store absent).isSome (layered.complete other node different near)

theorem Layered.next (converged : Converged network horizon state)
    (advertised : MirrorsAdvertisements state network root) (isNode : root ∈ network.nodes)
    {h : Nat} (beyond : 2 ≤ h) {rtable : Rtable} (layered : Layered network root h h rtable) :
    Layered network root (h + 1) (h + 1) (layer (state root) h rtable).1 := by
  have grown : Layered network root h (h + 1) (layer (state root) h rtable).1 := by
    refine layer_keeps (Layered network root h (h + 1)) ?_ ?_ ?_
    · refine ⟨fun dest entry found => ?_, layered.complete⟩
      obtain ⟨different, route, bound⟩ := layered.sound dest entry found
      exact ⟨different, route, by omega⟩
    · intro rtable holds tuple member absent via found dist
      exact holds.extend found dist beyond (advertised_adj converged advertised member) absent
    · intro rtable holds tuple member _ via found
      have main := ((converged.mirrors root isNode).single tuple member).2
      exact absurd main (holds.sound tuple.mainAddr via found).1
  refine ⟨grown.sound, ?_⟩
  intro dest node different near
  rcases Nat.lt_or_ge h (network.graph.dist root dest) with far | closer
  · have distance : network.graph.dist root dest = (h - 1) + 2 := by omega
    obtain ⟨m, ⟨_, picked⟩, layerDist⟩ := converged.relayCover.exists_relay_on_layer distance
    have adjacent := converged.relayCover.adjacent dest m ⟨node, picked⟩
    have relay := network.adj_mem dest m adjacent
    have notRoot : m ≠ root := by
      rintro rfl
      rw [SimpleGraph.dist_self] at layerDist
      omega
    obtain ⟨tuple, member, rfl, rfl⟩ := (advertised dest m).mpr
      ⟨relay, notRoot, (converged.selectors m relay dest).mpr ⟨node, picked⟩⟩
    obtain ⟨via, found⟩ := Option.isSome_iff_exists.mp
      (layered.complete tuple.lastAddr relay notRoot (by omega))
    obtain ⟨_, route, _⟩ := layered.sound tuple.lastAddr via found
    have onLayer : via.dist = h := by
      have := route.dist
      omega
    exact (aliasPass_extends (state root) _).isSome (topologyPass_covers member found onLayer)
  · exact grown.complete dest node different closer

theorem Layered.closed (converged : Converged network horizon state)
    (advertised : MirrorsAdvertisements state network root) (isNode : root ∈ network.nodes)
    {h : Nat} (beyond : 2 ≤ h) {rtable : Rtable} (layered : Layered network root h h rtable)
    (ended : (layer (state root) h rtable).2 = false) (dest : NsAddr) :
    network.graph.dist root dest ≤ h := by
  by_contra far
  obtain ⟨first, distance⟩ := RelayCover.exists_dist_eq
    (show h + 1 ≤ network.graph.dist root dest by omega)
  obtain ⟨previous, step, _⟩ := RelayCover.exists_adj_dist distance
  have different : first ≠ root := by
    rintro rfl
    rw [SimpleGraph.dist_self] at distance
    omega
  have next := Layered.next converged advertised isNode beyond layered
  rw [(layer_flagged (state root) h rtable).1 ended] at next
  obtain ⟨entry, found⟩ := Option.isSome_iff_exists.mp
    (next.complete first (network.adj_mem previous first step) different (by omega))
  obtain ⟨_, route, bound⟩ := layered.sound first entry found
  have := route.dist
  omega

/-- In a converged network the routing table of a node has a shortest route to
every other node and no entry for the node itself. -/
theorem rtableComputation_shortest (network : Network) (horizon now : Int) (root : NsAddr)
    (state : NsAddr → State) (isNode : root ∈ network.nodes) (early : now ≤ horizon)
    (converged : Converged network horizon state)
    (advertised : MirrorsAdvertisements state network root) :
    ∃ rtable, rtableComputation (state root) now = .ok rtable ∧
      (∀ dest ∈ network.nodes, dest ≠ root → ∃ entry, rtable.lookup dest = some entry ∧
        ShortestRoute network root dest entry) ∧
      rtable.lookup root = none := by
  have mirrors := converged.mirrors root isNode
  obtain ⟨twoHop, started⟩ := (twoHopPass_ok_iff (state root) now).mpr (by
    intro hop member _
    obtain ⟨step, _, _⟩ := (mirrors.twoHop hop.nbMainAddr hop.nb2hopAddr).mp
      ⟨hop, member, rfl, rfl⟩
    exact oneHop_of_adj mirrors early step)
  have bound := missing_le (state root) twoHop
  obtain ⟨final, last, ran, ⟨beyond, layered⟩, _, ended, _⟩ := layers_spec (state root)
    (fun h rtable => 2 ≤ h ∧ Layered network root h h rtable)
    (fun h rtable holds _ =>
      ⟨by omega, Layered.next converged advertised isNode holds.1 holds.2⟩)
    ((state root).topologyset.length + (state root).ifaceassocset.length + 1) 2 twoHop
    (by omega) ⟨le_refl 2, layered_two mirrors early isNode (twoHopPass_spec started)⟩
  refine ⟨final, bind_ok.mpr ⟨twoHop, started, ran⟩, ?_, ?_⟩
  · intro dest node different
    have near := Layered.closed converged advertised isNode beyond layered ended dest
    obtain ⟨entry, found⟩ := Option.isSome_iff_exists.mp
      (layered.complete dest node different near)
    exact ⟨entry, found, (layered.sound dest entry found).2.1⟩
  · cases found : final.lookup root with
    | none => rfl
    | some entry => exact absurd rfl (layered.sound root entry found).1

/-- On a path of four nodes the first node routes over its only neighbor. -/
theorem rtableComputation_shortest_path :
    ∃ rtable, rtableComputation (pathState 0 1) 0 = .ok rtable ∧
      (∀ dest ∈ pathNetwork.nodes, dest ≠ 1 → ∃ entry, rtable.lookup dest = some entry ∧
        ShortestRoute pathNetwork 1 dest entry) ∧
      rtable.lookup 1 = none :=
  rtableComputation_shortest pathNetwork 0 0 1 (pathState 0) (by decide) (le_refl 0)
    (pathState_converged 0) (by
      intro u m
      simp only [pathState, mirrorState, List.mem_flatMap, List.mem_map, List.mem_filter]
      constructor
      · rintro ⟨tuple, ⟨last, ⟨node, other⟩, dest, selects, rfl⟩, rfl, rfl⟩
        exact ⟨by simpa [pathNetwork] using node, by simpa using other, _, ⟨dest, selects, rfl⟩, rfl⟩
      · rintro ⟨node, other, selector, ⟨dest, selects, rfl⟩, rfl⟩
        exact ⟨_, ⟨m, ⟨by simpa [pathNetwork] using node, by simpa using other⟩, dest, selects, rfl⟩,
          rfl, rfl⟩)

end

end SyncFanet.Olsr
