import SyncFanet.Dsr.RouteAlgebra
import SyncFanet.Dsr.RouteNetwork
import SyncFanet.Library.Chains

/-!
# Routes over links that were heard

The link cache of a node holds links between nodes of which one has received a packet from the
other. A lookup then finds a route over such links, and what the node sends with it says nothing
else.
-/

set_option autoImplicit false

namespace SyncFanet.Dsr

/-! ## Links and routes -/

/-- A relation without a direction between the nodes of a network, of which a route without
loops fits into an option. -/
structure Meets (nodes : Finset InAddr) (met : InAddr → InAddr → Prop) : Prop where
  symm : ∀ a b, met a b → met b a
  inside : ∀ a b, met a b → a ∈ nodes
  few : nodes.card ≤ 63
  unicast : dsrBroadcast ∉ nodes

structure DsrSrt.Over (srt : DsrSrt) (met : InAddr → InAddr → Prop) : Prop where
  laddrs : srt.laddrs = dsrAddressSize * srt.addrs.length
  distinct : srt.nodes.Nodup
  linked : srt.nodes.IsChain met

section

variable {nodes : Finset InAddr} {met : InAddr → InAddr → Prop} {route : List InAddr}

theorem Meets.among (meets : Meets nodes met) (linked : route.IsChain met)
    (several : 1 < route.length) : ∀ node ∈ route, node ∈ nodes := by
  intro node member
  obtain ⟨other, here | there⟩ := mem_link linked several member
  · exact meets.inside node other here
  · exact meets.inside node other (meets.symm other node there)

theorem Meets.length_le (meets : Meets nodes met) (distinct : route.Nodup)
    (among : ∀ node ∈ route, node ∈ nodes) : route.length ≤ 63 := by
  have fewer : route.toFinset.card ≤ nodes.card :=
    Finset.card_le_card fun node member => among node (List.mem_toFinset.mp member)
  rw [List.toFinset_card_of_nodup distinct] at fewer
  exact fewer.trans meets.few

theorem DsrSrt.Over.short {srt : DsrSrt} (along : srt.Over met) (meets : Meets nodes met) :
    srt.addrs.length ≤ 61 := by
  have length := srt.length_nodes
  have bound := meets.length_le along.distinct (meets.among along.linked (by omega))
  omega

end

namespace LinkCache

variable {met : InAddr → InAddr → Prop} {now : SimTime} {cache : LinkCache}
  {origin last : InAddr}

variable {lastNode originNode : InAddr}

def LinksIn (met : InAddr → InAddr → Prop) (now : SimTime) (cache : LinkCache) : Prop :=
  ∀ origin last, Unexpired cache.linkArray now origin last → met origin last

theorem unexpired_of_addEdge {exp : Nat}
    (live : Unexpired (cache.addEdge now originNode lastNode 1 exp).linkArray now origin last) :
    Unexpired cache.linkArray now origin last ∨ origin = originNode ∧ last = lastNode := by
  obtain ⟨edge, member, ends, inTime⟩ := live
  cases mem_addEdge member with
  | inl old => exact .inl ⟨edge, old, ends, inTime⟩
  | inr new => exact .inr ⟨new.1, ends.symm.trans new.2.1⟩

theorem LinksIn.addEdges {timeout : Nat} {link : InAddr × InAddr}
    (inside : cache.LinksIn met now) (symm : ∀ a b, met a b → met b a)
    (linked : met link.1 link.2) : (cache.addEdges now timeout link).LinksIn met now := by
  intro origin last live
  cases unexpired_of_addEdge live with
  | inr back =>
      rw [back.1, back.2]
      exact symm _ _ linked
  | inl earlier =>
      cases unexpired_of_addEdge earlier with
      | inr there =>
          rw [there.1, there.2]
          exact linked
      | inl old => exact inside origin last old

/-- The links of a route are those that `ph_srt_add_link_map` adds. -/
theorem met_srtLinks {srt : DsrSrt} (symm : ∀ a b, met a b → met b a)
    (linked : srt.nodes.IsChain met) : ∀ link ∈ srtLinks srt, met link.1 link.2 := by
  unfold DsrSrt.nodes at linked
  cases addrs : srt.addrs with
  | nil =>
      rw [addrs] at linked
      have direct := (List.isChain_cons_cons.mp linked).1
      simpa [srtLinks, addrs] using direct
  | cons first rest =>
      obtain ⟨front, final, split⟩ : ∃ front final, srt.addrs = front ++ [final] :=
        (List.eq_nil_or_concat' srt.addrs).resolve_left (by simp [addrs])
      have head : srt.addrs.head? = some first := by
        rw [addrs]
        rfl
      have ending : srt.addrs.getLast? = some final := by
        rw [split, List.getLast?_concat]
      have inner : srt.addrs.IsChain met := by
        rw [List.cons_append] at linked
        exact linked.tail.left_of_append
      have start : met srt.src first := by
        rw [addrs] at linked
        exact (List.isChain_cons_cons.mp linked).1
      have finish : met final srt.dst := by
        rw [List.cons_append, split, List.append_assoc] at linked
        exact (List.isChain_cons_cons.mp linked.tail.right_of_append).1
      intro link member
      simp only [srtLinks, head, ending, List.mem_cons] at member
      rcases member with rfl | rfl | among
      · exact start
      · exact symm _ _ finish
      · exact zip_tail_of_isChain inner link among

theorem LinksIn.phSrtAddLinkMap {srt : DsrSrt} {timeout : Nat} (inside : cache.LinksIn met now)
    (symm : ∀ a b, met a b → met b a) (linked : srt.nodes.IsChain met) :
    (cache.phSrtAddLinkMap now srt timeout).LinksIn met now :=
  foldl_keeps _ (LinksIn met now) inside fun link _ member inside =>
    inside.addEdges symm (met_srtLinks symm linked link member)

theorem LinksIn.of_edges {after : LinkCache} (inside : cache.LinksIn met now)
    (fewer : ∀ origin, ∀ edge ∈ edgesFrom after.linkArray origin,
      edge ∈ edgesFrom cache.linkArray origin) : after.LinksIn met now := by
  intro origin last live
  obtain ⟨edge, member, ends, inTime⟩ := live
  exact inside origin last ⟨edge, fewer origin edge member, ends, inTime⟩

theorem mem_eraseEdge {edge : Edge}
    (member : edge ∈ edgesFrom (cache.eraseEdge originNode lastNode).linkArray origin) :
    edge ∈ edgesFrom cache.linkArray origin := by
  change edge ∈ cache.links origin
  have stored : edge ∈ (cache.eraseEdge originNode lastNode).links origin := member
  by_cases here : origin = originNode
  · subst here
    rw [links_eraseEdge] at stored
    exact List.eraseP_sublist.subset stored
  · rw [links_eraseEdge_ne here] at stored
    exact stored

theorem LinksIn.deleteEdge {bidirectional : Bool} (inside : cache.LinksIn met now) :
    (cache.deleteEdge originNode lastNode bidirectional).LinksIn met now := by
  unfold LinkCache.deleteEdge
  split_ifs
  · exact inside
  · exact inside.of_edges fun _ _ => mem_eraseEdge
  · exact inside.of_edges fun _ _ => mem_eraseEdge
  · exact inside

theorem LinksIn.wait {later : SimTime} (inside : cache.LinksIn met now) (le : now ≤ later) :
    cache.LinksIn met later := by
  intro origin last live
  obtain ⟨edge, member, ends, inTime⟩ := live
  exact inside origin last ⟨edge, member, ends, lt_of_le_of_lt le inTime⟩

theorem getRoute_root_none {rootNode : InAddr} {chance : Nat → LinkCache.Chance} {exp depth : Nat}
    {after : LinkCache} {found : Option PathCacheRoute}
    (result : cache.getRoute rootNode now chance exp rootNode depth = .ok (after, found)) :
    found = none := by
  cases depth with
  | zero => cases result
  | succ depth =>
      obtain ⟨built, ready, _⟩ := bind_ok.mp result
      cases stored : built.routeMap.lookup rootNode with
      | none =>
          rw [getRoute_missing ready stored] at result
          cases result
          rfl
      | some state =>
          rw [getRoute_walk exp ready stored, walk_root] at result
          cases result

end LinkCache

namespace Node

variable {met : InAddr → InAddr → Prop} {now : SimTime} {node after : Node} {dst : InAddr}

theorem routeFind_over {refreshIntermediate : Bool} {chance : Nat → LinkCache.Chance}
    {found : Option DsrSrt} (linkCache : node.config.pathCache = false) (valid : node.Valid now)
    (inside : node.links.LinksIn met now)
    (ran : node.routeFind refreshIntermediate now chance node.myaddr dst = .ok (after, found)) :
    after.links.LinksIn met now ∧
      ∀ srt, found = some srt → srt.src = node.myaddr ∧ srt.dst = dst ∧ srt.Over met := by
  unfold routeFind at ran
  simp only [linkCache, Bool.false_eq_true, if_false] at ran
  obtain ⟨chosen, looked, ran⟩ := bind_ok.mp ran
  cases ran
  obtain ⟨result, searched, looked⟩ := bind_ok.mp looked
  cases looked
  by_cases other : dst = node.myaddr
  · subst other
    obtain ⟨-, same⟩ := LinkCache.getRoute_root valid searched
    refine ⟨fun origin last live => inside origin last ((same origin last).mp live), ?_⟩
    have none := LinkCache.getRoute_root_none searched
    intro srt here
    rw [none] at here
    cases here
  · obtain ⟨links, route, again, -, same, shortest⟩ :=
      LinkCache.getRoute_ok chance (node.config.routeCacheTimeout % 2 ^ 32) 0 other valid
    rw [searched] at again
    cases again
    refine ⟨fun origin last live => inside origin last ((same origin last).mp live), ?_⟩
    intro srt here
    obtain ⟨addrs, listed, rfl⟩ := Option.map_eq_some_iff.mp here
    have path := shortest.path addrs listed
    refine ⟨rfl, rfl, Nat.mul_comm _ _, ?_, path.imp inside⟩
    exact nodup_of_shortest other path (shortest.least addrs listed)

end Node

end SyncFanet.Dsr
