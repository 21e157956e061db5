import SyncFanet.Olsr.RtableLayers
import SyncFanet.Olsr.TruthfulLinks

/-!
# Routes over heard links

The routing table of a truthful agent: the links of the symmetric neighbors, one hop more
for the 2-hop neighbors, and one hop more for every layer of the topology set.
-/

set_option autoImplicit false

namespace SyncFanet.Olsr

variable {Agent : Type} {air : Air Agent} {agent : Agent} {config : Config} {now : Int}
  {node node' : Node}

/-! ## Entries -/

theorem Leads.rename {via entry : RtEntry} (leads : Leads air agent via)
    (route : entry.route = via.route) (dest : air.owner entry.destAddr = air.owner via.destAddr)
    (next : entry.nextAddr = via.nextAddr) (iface : entry.ifaceAddr = via.ifaceAddr)
    (dist : entry.dist = via.dist) : Leads air agent entry := by
  have same : (entry.route ++ [entry.destAddr]).map air.owner =
      (via.route ++ [via.destAddr]).map air.owner := by
    simp [route, dest]
  constructor
  · rw [same]
    exact leads.linked
  · rw [route, dist]
    exact leads.hops
  · rw [same, next]
    exact leads.first
  · rw [iface]
    exact leads.leaves

theorem Leads.extend {via : RtEntry} {dest : NsAddr} (leads : Leads air agent via)
    (link : air.Both (air.owner via.destAddr) (air.owner dest)) :
    Leads air agent (extendEntry dest (via.dist + 1) via) := by
  have route : (extendEntry dest (via.dist + 1) via).route = via.route ++ [via.destAddr] := by
    simp [extendEntry]
  constructor
  · have before : List.IsChain air.Both
        ((agent :: via.route.map air.owner) ++ [air.owner via.destAddr]) := by
      simpa using leads.linked
    have chain := List.isChain_split.mpr
      ⟨before, List.isChain_cons_cons.mpr ⟨link, List.isChain_singleton _⟩⟩
    simpa [route, extendEntry] using chain
  · rw [route, List.length_append, List.length_singleton, leads.hops]
    rfl
  · rw [route, List.map_append, List.head?_append, leads.first]
    rfl
  · exact leads.leaves

theorem leads_neighbor {entry : RtEntry} (route : entry.route = []) (dist : entry.dist = 1)
    (next : air.owner entry.nextAddr = air.owner entry.destAddr)
    (leaves : air.owner entry.ifaceAddr = agent)
    (link : air.Both agent (air.owner entry.destAddr)) : Leads air agent entry := by
  constructor
  · rw [route]
    exact List.isChain_cons_cons.mpr ⟨link, List.isChain_singleton _⟩
  · rw [route, dist]
    rfl
  · rw [route, next]
    rfl
  · exact leaves

/-! ## Passes -/

theorem Truthful.neighborEntry (truthful : Truthful air agent now node) {entry : RtEntry}
    (stored : NeighborEntry node.state now entry) :
    Leads air agent entry ∧ entry.dist = 1 ∧
      air.owner entry.nextAddr = air.owner entry.destAddr := by
  obtain ⟨nb, member, sym, link, listed, same⟩ := stored
  obtain ⟨among, resolves, _⟩ := mem_linksOf.mp listed
  have both := truthful.nbs nb member sym
  have behind : air.owner link.nbIfaceAddr = air.owner nb.nbMainAddr := by
    rw [← truthful.owner_getMainAddr link.nbIfaceAddr, resolves]
  have inbound := (truthful.links link among).inbound
  rcases same with rfl | rfl
  · refine ⟨leads_neighbor rfl rfl rfl inbound ?_, rfl, rfl⟩
    exact behind ▸ both
  · exact ⟨leads_neighbor rfl rfl behind inbound both, rfl, behind⟩

theorem Truthful.twoHopPass (truthful : Truthful air agent now node) {rtable : Rtable}
    (ran : twoHopPass node.state (neighborPass node.state now) = .ok rtable)
    {dest : NsAddr} {entry : RtEntry} (found : rtable.lookup dest = some entry) :
    Leads air agent entry := by
  have table := twoHopPass_spec ran
  by_cases reached : ∃ hop ∈ node.state.nb2hopset,
      inN2 node.state hop = true ∧ hop.nb2hopAddr = dest
  · obtain ⟨hop, member, qualifies, rfl⟩ := reached
    obtain ⟨other, among, _, same, via, base, stored⟩ := table.reached hop member qualifies
    obtain rfl := Option.some.inj (stored.symm.trans found)
    obtain ⟨leads, dist, next⟩ := truthful.neighborEntry (neighborPass_found base)
    have link := truthful.hops other among
    rw [← Rtable.lookup_dest base, same] at link
    -- the route has the next hop where an extended one would have the destination
    have further := leads.extend link
    have short : via.route = [] := by
      have hops := leads.hops
      rw [dist] at hops
      exact List.length_eq_zero_iff.mp (by omega)
    constructor
    · simpa [extendEntry, twoHopEntry, short, next] using further.linked
    · rfl
    · rfl
    · exact further.leaves
  · push Not at reached
    rw [table.kept dest reached] at found
    exact (truthful.neighborEntry (neighborPass_found found)).1

theorem Truthful.layer (truthful : Truthful air agent now node) {h : Nat} {rtable : Rtable}
    (start : ∀ dest entry, rtable.lookup dest = some entry → Leads air agent entry) :
    ∀ dest entry, (layer node.state h rtable).1.lookup dest = some entry →
      Leads air agent entry := by
  have stores : ∀ (rtable : Rtable) (new : RtEntry), Leads air agent new →
      (∀ dest entry, rtable.lookup dest = some entry → Leads air agent entry) →
      ∀ dest entry, (rtable.store new).lookup dest = some entry → Leads air agent entry := by
    intro rtable new leads holds dest entry found
    rw [Rtable.lookup_store] at found
    split at found
    · exact Option.some.inj found ▸ leads
    · exact holds dest entry found
  refine layer_keeps (fun rtable => ∀ dest entry, rtable.lookup dest = some entry →
    Leads air agent entry) start ?_ ?_
  · intro rtable holds tuple member _ via found dist
    have link := (truthful.topology tuple member).2.symm
    rw [← Rtable.lookup_dest found] at link
    exact stores rtable _ (dist ▸ (holds _ via found).extend link) holds
  · intro rtable holds tuple member _ via found
    refine stores rtable _ ((holds _ via found).rename ?_ ?_ rfl rfl rfl) holds
    · simp [extendEntry]
    · rw [Rtable.lookup_dest found]
      exact truthful.assocs tuple member

theorem Truthful.recomputeRtable (truthful : Truthful air agent now node)
    (ran : node.recomputeRtable now = .ok node') : Truthful air agent now node' := by
  obtain ⟨rtable, computed, rfl⟩ := recomputeRtable_writes ran
  refine { truthful with routes := ?_ }
  obtain ⟨twoHop, started, rest⟩ := bind_ok.mp computed
  have bound := missing_le node.state twoHop
  obtain ⟨final, _, loop, holds, _⟩ := layers_spec node.state
    (fun _ rtable => ∀ dest entry, rtable.lookup dest = some entry → Leads air agent entry)
    (fun h rtable holds _ => truthful.layer holds)
    (node.state.topologyset.length + node.state.ifaceassocset.length + 1) 2 twoHop (by omega)
    (fun _ _ found => truthful.twoHopPass started found)
  obtain rfl := Except.ok.inj (loop.symm.trans rest)
  exact holds

end SyncFanet.Olsr
