import SyncFanet.Dsr.HopCounts
import SyncFanet.Dsr.LinkRemoval

/-!
# Lookups in the link cache

The route map outlives the links it was built from. As links only expire until the map is
cleared, the paths that are left were there when it was built: a path of the map that has
not expired is still a shortest one.
-/

set_option autoImplicit false

namespace SyncFanet.Dsr

namespace LinkCache

/-! ## Paths and their costs -/

theorem isChain_concat {kind : InAddr → InAddr → Prop} {nodes : List InAddr} {last next : InAddr}
    (chain : nodes.IsChain kind) (ends : nodes.getLast? = some last) (linked : kind last next) :
    (nodes ++ [next]).IsChain kind := by
  apply List.isChain_append.mpr
  refine ⟨chain, List.isChain_singleton _, ?_⟩
  intro before here after there
  rw [ends] at here
  cases here
  cases there
  exact linked

section

variable {rootNode : InAddr} {links : InAddr → InAddr → Prop}

theorem pathCost_of_chain {start last : InAddr} {nodes : List InAddr} {cost : ℚ}
    (path : PathCost (starts rootNode) (hop links) start cost)
    (chain : (start :: nodes).IsChain links) (ends : (start :: nodes).getLast? = some last) :
    PathCost (starts rootNode) (hop links) last (cost + nodes.length) := by
  induction nodes generalizing start cost with
  | nil =>
      cases ends
      simpa using path
  | cons next nodes ih =>
      obtain ⟨first, rest⟩ := List.isChain_cons_cons.mp chain
      have ends' : (next :: nodes).getLast? = some last := by
        rw [← ends, List.getLast?_cons_cons]
      have longer := ih (path.next ⟨first, rfl⟩) rest ends'
      have same : cost + ((next :: nodes).length : ℚ) = cost + 1 + nodes.length := by
        push_cast [List.length_cons]
        ring
      rw [same]
      exact longer

theorem chain_of_pathCost {node : InAddr} {cost : ℚ}
    (path : PathCost (starts rootNode) (hop links) node cost) :
    ∃ nodes, (rootNode :: nodes).IsChain links ∧ (rootNode :: nodes).getLast? = some node ∧
      cost = nodes.length := by
  induction path with
  | first first =>
      obtain ⟨rfl, rfl⟩ := first
      exact ⟨[], List.isChain_singleton _, rfl, by simp⟩
  | @next last node cost weight path linked ih =>
      obtain ⟨nodes, chain, ends, rfl⟩ := ih
      obtain ⟨linked, rfl⟩ := linked
      refine ⟨nodes ++ [node], ?_, ?_, ?_⟩
      · exact isChain_concat chain ends linked
      · rw [← List.cons_append]
        exact List.getLast?_concat
      · simp

theorem pathCost_iff {dst : InAddr} {cost : ℚ} (other : dst ≠ rootNode) :
    PathCost (starts rootNode) (hop links) dst cost ↔
      ∃ addrs : List InAddr, (rootNode :: (addrs ++ [dst])).IsChain links ∧
        cost = addrs.length + 1 := by
  constructor
  · intro path
    obtain ⟨nodes, chain, ends, same⟩ := chain_of_pathCost path
    cases List.eq_nil_or_concat' nodes with
    | inl empty =>
        rw [empty] at ends
        cases ends
        exact absurd rfl other
    | inr last =>
        obtain ⟨addrs, final, rfl⟩ := last
        have final' : final = dst := by
          rw [← List.cons_append, List.getLast?_concat] at ends
          exact Option.some_injective _ ends
        exact ⟨addrs, final' ▸ chain, by simp [same]⟩
  · intro found
    obtain ⟨addrs, chain, rfl⟩ := found
    have root : PathCost (starts rootNode) (hop links) rootNode 0 := .first ⟨rfl, rfl⟩
    have ends : (rootNode :: (addrs ++ [dst])).getLast? = some dst := by
      rw [← List.cons_append]
      exact List.getLast?_concat
    simpa using pathCost_of_chain root chain ends

end

/-! ## Links with new times -/

section

variable {now expires : SimTime} {before after : LinkArray} {origin last : InAddr}

theorem edgesFrom_extendEdge {node : InAddr} :
    edgesFrom (extendEdge before origin last expires) node =
      if node = origin then
        updateFirst (fun edge => edge.lastNode = last)
          (fun edge => { edge with expires := expires }) (edgesFrom before node)
      else edgesFrom before node := by
  unfold extendEdge
  cases stored : before.lookup origin with
  | none =>
      by_cases same : node = origin
      · subst same
        simp [edgesFrom, stored, updateFirst]
      · simp [same]
  | some edges =>
      simp only [edgesFrom_insert]
      split
      · next same => rw [same, edgesFrom_of_lookup stored]
      · rfl

theorem WellFormed.edge_iff (wellFormed : WellFormed before) {edge : Edge} :
    edge? before origin last = some edge ↔
      edge ∈ edgesFrom before origin ∧ edge.lastNode = last := by
  constructor
  · intro found
    exact ⟨List.mem_of_find?_eq_some found, by simpa using List.find?_some found⟩
  · intro stored
    obtain ⟨member, rfl⟩ := stored
    exact find?_key (wellFormed.single origin) member

theorem WellFormed.unexpired_iff (wellFormed : WellFormed before) :
    Unexpired before now origin last ↔
      ∃ edge, edge? before origin last = some edge ∧ now < edge.expires := by
  simp only [Unexpired, wellFormed.edge_iff, and_assoc]

theorem edge_extendEdge {origin' last' : InAddr} :
    edge? (extendEdge before origin last expires) origin' last' =
      if origin' = origin ∧ last' = last then
        (edge? before origin last).map fun edge => { edge with expires := expires }
      else edge? before origin' last' := by
  show (edgesFrom _ _).find? _ = _
  rw [edgesFrom_extendEdge]
  by_cases here : origin' = origin
  · subst here
    rw [if_pos rfl]
    by_cases same : last' = last
    · subst same
      rw [if_pos ⟨rfl, rfl⟩]
      apply updateFirst.find?_same
      exact fun _ found => found
    · rw [if_neg fun both => same both.2]
      apply updateFirst.find?_other
      intro edge found
      have ends : edge.lastNode = last := by simpa using found
      simp [ends, Ne.symm same]
  · rw [if_neg here, if_neg fun both => here both.1]
    rfl

/-- The link expires then. -/
def ExpiresAt (linkArray : LinkArray) (expires : SimTime) (origin last : InAddr) : Prop :=
  ∃ edge, edge? linkArray origin last = some edge ∧ edge.expires = expires

structure Refreshed (now expires : SimTime) (before after : LinkArray) : Prop where
  wellFormed : WellFormed after
  stored : ∀ origin last edge, edge? before origin last = some edge →
    ∃ edge, edge? after origin last = some edge
  unexpired : ∀ origin last, Unexpired after now origin last ↔ Unexpired before now origin last
  extended : ∀ origin last, ExpiresAt before expires origin last →
    ExpiresAt after expires origin last

def SameLive (now : SimTime) (before after : LinkArray) : Prop :=
  ∀ origin last, Unexpired after now origin last ↔ Unexpired before now origin last

theorem Refreshed.refl (wellFormed : WellFormed before) : Refreshed now expires before before :=
  ⟨wellFormed, fun _ _ edge found => ⟨edge, found⟩, fun _ _ => Iff.rfl, fun _ _ same => same⟩

theorem Refreshed.trans {between : LinkArray} (first : Refreshed now expires before between)
    (second : Refreshed now expires between after) : Refreshed now expires before after := by
  constructor
  · exact second.wellFormed
  · intro origin last edge found
    obtain ⟨edge', found'⟩ := first.stored origin last edge found
    exact second.stored origin last edge' found'
  · exact fun origin last =>
      (second.unexpired origin last).trans (first.unexpired origin last)
  · exact fun origin last there => second.extended origin last (first.extended origin last there)

theorem WellFormed.extendEdge (wellFormed : WellFormed before) :
    WellFormed (extendEdge before origin last expires) := by
  have lastNodes : ∀ node, (edgesFrom (LinkCache.extendEdge before origin last expires) node).map
      Edge.lastNode = (edgesFrom before node).map Edge.lastNode := by
    intro node
    rw [edgesFrom_extendEdge]
    split
    · apply updateFirst.map_key
      exact fun _ => rfl
    · rfl
  have keys : ∀ node, (∃ edges, before.lookup node = some edges) →
      ∃ edges, (LinkCache.extendEdge before origin last expires).lookup node = some edges := by
    intro node known
    unfold LinkCache.extendEdge
    cases stored : before.lookup origin with
    | none => exact known
    | some edges =>
        by_cases same : node = origin
        · subst same
          exact ⟨_, Finmap.lookup_insert _⟩
        · exact known.imp fun _ there => (Finmap.lookup_insert_of_ne _ same).trans there
  constructor
  · intro node
    rw [edgesFrom_extendEdge]
    split
    · exact updateFirst.forall_mem (wellFormed.unit node) fun old among _ =>
        wellFormed.unit node old among
    · exact wellFormed.unit node
  · intro node
    rw [lastNodes]
    exact wellFormed.single node
  · intro node edge member
    have among : edge.lastNode ∈ (edgesFrom before node).map Edge.lastNode := by
      rw [← lastNodes node]
      exact List.mem_map_of_mem member
    obtain ⟨old, stored, same⟩ := List.mem_map.mp among
    rw [← same]
    exact keys _ (wellFormed.ends node old stored)

theorem refreshed_extendEdge (wellFormed : WellFormed before)
    (live : Unexpired before now origin last) (later : now < expires) :
    Refreshed now expires before (extendEdge before origin last expires) ∧
      ExpiresAt (extendEdge before origin last expires) expires origin last := by
  obtain ⟨edge, found, inTime⟩ := wellFormed.unexpired_iff.mp live
  have here : edge? (extendEdge before origin last expires) origin last =
      some { edge with expires := expires } := by
    rw [edge_extendEdge, if_pos ⟨rfl, rfl⟩, found]
    rfl
  refine ⟨⟨wellFormed.extendEdge, ?_, ?_, ?_⟩, _, here, rfl⟩
  · intro origin' last' edge' found'
    by_cases same : origin' = origin ∧ last' = last
    · obtain ⟨rfl, rfl⟩ := same
      exact ⟨_, here⟩
    · exact ⟨edge', by rw [edge_extendEdge, if_neg same, found']⟩
  · intro origin' last'
    rw [wellFormed.extendEdge.unexpired_iff, wellFormed.unexpired_iff]
    by_cases same : origin' = origin ∧ last' = last
    · obtain ⟨rfl, rfl⟩ := same
      exact ⟨fun _ => ⟨edge, found, inTime⟩, fun _ => ⟨_, here, later⟩⟩
    · rw [edge_extendEdge, if_neg same]
  · intro origin' last' there
    by_cases same : origin' = origin ∧ last' = last
    · obtain ⟨rfl, rfl⟩ := same
      exact ⟨_, here, rfl⟩
    · unfold ExpiresAt
      rw [edge_extendEdge, if_neg same]
      exact there

end

/-! ## Following the route map -/

section

variable {rootNode node dst : InAddr} {now : SimTime} {links : InAddr → InAddr → Prop}
  {routeMap : RouteMap} {state : RouteState} {linkArray : LinkArray}

theorem Mapped.natural (mapped : Mapped rootNode links routeMap)
    (stored : routeMap.lookup node = some state) : ∃ hops : Nat, state.costAdd = hops := by
  have labelled : label routeMap node = some state.costAdd := by simp [label, stored]
  obtain ⟨nodes, _, _, same⟩ := chain_of_pathCost (mapped.sound node _ labelled)
  exact ⟨nodes.length, same⟩

theorem Mapped.placed (mapped : Mapped rootNode links routeMap)
    (stored : routeMap.lookup node = some state) (other : node ≠ rootNode) :
    links state.idPrev node ∧ ∃ prev, routeMap.lookup state.idPrev = some prev ∧
      state.costAdd = prev.costAdd + 1 := by
  cases mapped.tree with
  | inl empty =>
      rw [empty, Finmap.lookup_empty] at stored
      cases stored
  | inr tree =>
      obtain ⟨linked, prev, before, _, cost⟩ := tree.placed node state stored other
      exact ⟨linked, prev, before, cost⟩

theorem Mapped.root (mapped : Mapped rootNode links routeMap)
    (stored : routeMap.lookup rootNode = some state) : state.costAdd = 0 := by
  cases mapped.tree with
  | inl empty =>
      rw [empty, Finmap.lookup_empty] at stored
      cases stored
  | inr tree =>
      obtain ⟨root, there, zero⟩ := tree.root
      rw [stored] at there
      cases there
      exact zero

theorem Mapped.hops_lt (mapped : Mapped rootNode links routeMap) {hops : Nat}
    (stored : routeMap.lookup node = some state) (cost : state.costAdd = hops) :
    hops < routeMap.keys.card := by
  have within : ∃ nodes : Finset InAddr, nodes ⊆ routeMap.keys ∧ nodes.card = hops + 1 ∧
      ∀ other ∈ nodes, ∃ state, routeMap.lookup other = some state ∧ state.costAdd ≤ hops := by
    induction hops generalizing node state with
    | zero =>
        refine ⟨{node}, ?_, Finset.card_singleton _, ?_⟩
        · intro other member
          rw [Finset.mem_singleton.mp member]
          exact Finmap.mem_keys.mpr (Finmap.lookup_isSome.mp (by rw [stored]; rfl))
        · intro other member
          rw [Finset.mem_singleton.mp member]
          exact ⟨state, stored, cost.le⟩
    | succ hops ih =>
        have other : node ≠ rootNode := by
          intro same
          subst same
          rw [mapped.root stored] at cost
          norm_cast at cost
        obtain ⟨_, prev, before, next⟩ := mapped.placed stored other
        have cost' : prev.costAdd = hops := by
          rw [cost] at next
          push_cast at next
          linarith
        obtain ⟨nodes, sub, card, bound⟩ := ih before cost'
        have fresh : node ∉ nodes := by
          intro member
          obtain ⟨state', stored', le⟩ := bound node member
          rw [stored] at stored'
          cases stored'
          rw [cost] at le
          have : hops + 1 ≤ hops := by exact_mod_cast le
          omega
        refine ⟨insert node nodes, ?_, ?_, ?_⟩
        · apply Finset.insert_subset _ sub
          exact Finmap.mem_keys.mpr (Finmap.lookup_isSome.mp (by rw [stored]; rfl))
        · rw [Finset.card_insert_of_notMem fresh, card]
        · intro other member
          cases Finset.mem_insert.mp member with
          | inl same => exact ⟨state, same ▸ stored, cost.le⟩
          | inr among =>
              obtain ⟨state', stored', le⟩ := bound other among
              refine ⟨state', stored', le.trans ?_⟩
              push_cast
              linarith
  obtain ⟨nodes, sub, card, _⟩ := within
  have := Finset.card_le_card sub
  omega

/-- What the loop of `getRoute` leaves: the path to a node, with the same time for every
link where the links are extended, or a link of the map that has expired. -/
def WalkEnds (rootNode node : InAddr) (now : SimTime) (exp : Nat) (routeMap : RouteMap)
    (hops : Nat) (before after : LinkArray) (path : List InAddr) (found : Option (List InAddr)) :
    Prop :=
  (found = none ∧ ∃ last state, routeMap.lookup last = some state ∧ last ≠ rootNode ∧
    ¬Unexpired before now state.idPrev last) ∨
  ∃ nodes, found = some (path ++ nodes) ∧ nodes.length = hops ∧
    (rootNode :: nodes.reverse).getLast? = some node ∧
    (rootNode :: nodes.reverse).IsChain (Unexpired before now) ∧
    (0 < exp → (rootNode :: nodes.reverse).IsChain (ExpiresAt after (now + usecs exp)))

theorem walk_root {exp fuel : Nat} {path : List InAddr} :
    walk rootNode now exp routeMap fuel linkArray rootNode state path =
      .ok (linkArray, some path) := by
  unfold walk
  rw [if_pos rfl]

theorem WalkEnds.step {exp hops' hops : Nat} {between after : LinkArray} {path : List InAddr}
    {found : Option (List InAddr)}
    (ended : WalkEnds rootNode state.idPrev now exp routeMap hops' between after (path ++ [node])
      found)
    (refreshed : Refreshed now (now + usecs exp) linkArray between)
    (refreshed' : Refreshed now (now + usecs exp) between after)
    (live : Unexpired linkArray now state.idPrev node)
    (extended : 0 < exp → ExpiresAt between (now + usecs exp) state.idPrev node)
    (more : hops = hops' + 1) :
    WalkEnds rootNode node now exp routeMap hops linkArray after path found := by
  have unexpired : Unexpired between now = Unexpired linkArray now := by
    funext origin last
    exact propext (refreshed.unexpired origin last)
  unfold WalkEnds at ended ⊢
  rw [unexpired] at ended
  apply ended.imp_right
  intro returned
  obtain ⟨nodes, result, length, ends, chain, expires⟩ := returned
  have whole : rootNode :: (node :: nodes).reverse = (rootNode :: nodes.reverse) ++ [node] := by
    rw [List.reverse_cons, List.cons_append]
  have longer : ∀ (kind : InAddr → InAddr → Prop), (rootNode :: nodes.reverse).IsChain kind →
      kind state.idPrev node → (rootNode :: (node :: nodes).reverse).IsChain kind := by
    intro kind chain linked
    rw [whole]
    exact isChain_concat chain ends linked
  refine ⟨node :: nodes, ?_, ?_, ?_, longer _ chain live, ?_⟩
  · rw [result, List.append_assoc, List.singleton_append]
  · rw [List.length_cons, length, more]
  · rw [whole]
    exact List.getLast?_concat
  · intro positive
    exact longer _ (expires positive) (refreshed'.extended _ _ (extended positive))

/-- The loop of `getRoute` ends, as every round is one hop nearer to the root. -/
theorem walk_ok (now : SimTime) (exp : Nat) (mapped : Mapped rootNode links routeMap)
    {fuel hops : Nat}
    (wellFormed : WellFormed linkArray)
    (edges : ∀ origin last, links origin last → ∃ edge, edge? linkArray origin last = some edge)
    (stored : routeMap.lookup node = some state) (cost : state.costAdd = hops)
    (enough : hops ≤ fuel) (path : List InAddr) :
    ∃ after found, walk rootNode now exp routeMap fuel linkArray node state path =
        .ok (after, found) ∧ Refreshed now (now + usecs exp) linkArray after ∧
      WalkEnds rootNode node now exp routeMap hops linkArray after path found := by
  induction fuel generalizing node state hops linkArray path with
  | zero =>
      have here : node = rootNode := by
        by_contra other
        obtain ⟨_, prev, before, next⟩ := mapped.placed stored other
        obtain ⟨hops', cost'⟩ := mapped.natural before
        rw [cost, cost', Nat.le_zero.mp enough] at next
        norm_cast at next
      subst here
      have none : hops = 0 := by
        rw [mapped.root stored] at cost
        exact_mod_cast cost.symm
      refine ⟨linkArray, some path, walk_root, .refl wellFormed, .inr ⟨[], ?_⟩⟩
      simp [none]
  | succ fuel ih =>
      by_cases here : node = rootNode
      · subst here
        have none : hops = 0 := by
          rw [mapped.root stored] at cost
          exact_mod_cast cost.symm
        refine ⟨linkArray, some path, walk_root, .refl wellFormed, .inr ⟨[], ?_⟩⟩
        simp [none]
      · obtain ⟨linked, prev, before, next⟩ := mapped.placed stored here
        obtain ⟨edge, found⟩ := edges _ _ linked
        by_cases expired : edge.expires ≤ now
        · refine ⟨linkArray, none, ?_, .refl wellFormed, .inl ⟨rfl, node, state, stored, here, ?_⟩⟩
          · simp [walk, here, found, expired]
          · intro live
            obtain ⟨edge', found', later⟩ := wellFormed.unexpired_iff.mp live
            rw [found] at found'
            cases found'
            exact absurd later (not_lt.mpr expired)
        · have live : Unexpired linkArray now state.idPrev node :=
            wellFormed.unexpired_iff.mpr ⟨edge, found, not_le.mp expired⟩
          obtain ⟨hops', cost'⟩ := mapped.natural before
          have more : hops = hops' + 1 := by
            rw [cost, cost'] at next
            exact_mod_cast next
          have extends' : ∃ between, (if exp > 0 then
                extendEdge linkArray state.idPrev node (now + usecs exp) else linkArray) = between ∧
              Refreshed now (now + usecs exp) linkArray between ∧
              (0 < exp → ExpiresAt between (now + usecs exp) state.idPrev node) := by
            by_cases positive : 0 < exp
            · obtain ⟨refreshed, extended⟩ :=
                refreshed_extendEdge wellFormed live (lt_add_usecs positive)
              exact ⟨_, if_pos positive, refreshed, fun _ => extended⟩
            · exact ⟨_, if_neg positive, .refl wellFormed, fun positive' => absurd positive' positive⟩
          obtain ⟨between, same, refreshed, extended⟩ := extends'
          have edges' : ∀ origin last, links origin last →
              ∃ edge, edge? between origin last = some edge := by
            intro origin last linked
            obtain ⟨edge, found⟩ := edges origin last linked
            exact refreshed.stored origin last edge found
          obtain ⟨after, result, ran, refreshed', ended⟩ :=
            ih refreshed.wellFormed edges' before cost' (by omega) (path ++ [node])
          refine ⟨after, result, ?_, refreshed.trans refreshed', ?_⟩
          · simp only [walk, here, found, expired, same, before, if_false]
            exact ran
          · exact ended.step refreshed refreshed' live extended more

end

/-! ## A lookup -/

section

variable {rootNode dst : InAddr} {now : SimTime} {cache : LinkCache}

variable {exp depth : Nat}

variable {built : LinkCache} {chance : Nat → Chance}

/-- The nodes lead from the root to a node over links that have not expired. -/
def LivePath (rootNode : InAddr) (now : SimTime) (linkArray : LinkArray) (dst : InAddr)
    (addrs : List InAddr) : Prop :=
  (rootNode :: (addrs ++ [dst])).IsChain (Unexpired linkArray now)

/-- What a lookup is for: a path of the fewest hops, if there is one, whose links are
extended. -/
structure Looked (rootNode dst : InAddr) (now : SimTime) (exp : Nat) (before after : LinkArray)
    (found : Option PathCacheRoute) : Prop where
  none_iff : found = none ↔ ¬∃ addrs, LivePath rootNode now before dst addrs
  path : ∀ route, found = some route → LivePath rootNode now before dst route
  least : ∀ route, found = some route → ∀ addrs, LivePath rootNode now before dst addrs →
    route.length ≤ addrs.length
  extended : ∀ route, found = some route → 0 < exp →
    (rootNode :: (route ++ [dst])).IsChain (ExpiresAt after (now + usecs exp))

/-- The route map was built from links that are still there, among them all that have not
expired. -/
structure MapOf (rootNode : InAddr) (now : SimTime) (links : InAddr → InAddr → Prop)
    (cache : LinkCache) : Prop where
  wellFormed : WellFormed cache.linkArray
  mapped : Mapped rootNode links cache.routeMap
  covers : ∀ origin last, Unexpired cache.linkArray now origin last → links origin last
  stored : ∀ origin last, links origin last →
    ∃ edge, edge? cache.linkArray origin last = some edge

structure Valid (rootNode : InAddr) (now : SimTime) (cache : LinkCache) : Prop where
  wellFormed : WellFormed cache.linkArray
  mapped : cache.routeMap = ∅ ∨ ∃ links, MapOf rootNode now links cache

theorem MapOf.refresh {links : InAddr → InAddr → Prop} (mapOf : MapOf rootNode now links cache)
    {expires : SimTime} {after : LinkArray}
    (refreshed : Refreshed now expires cache.linkArray after) :
    MapOf rootNode now links { cache with linkArray := after } := by
  constructor
  · exact refreshed.wellFormed
  · exact mapOf.mapped
  · exact fun origin last live =>
      mapOf.covers origin last ((refreshed.unexpired origin last).mp live)
  · intro origin last linked
    obtain ⟨edge, found⟩ := mapOf.stored origin last linked
    exact refreshed.stored origin last edge found

theorem MapOf.noPath {links : InAddr → InAddr → Prop} (mapOf : MapOf rootNode now links cache)
    (other : dst ≠ rootNode) (missing : cache.routeMap.lookup dst = none) :
    ¬∃ addrs, LivePath rootNode now cache.linkArray dst addrs := by
  intro found
  obtain ⟨addrs, path⟩ := found
  obtain ⟨best, _, labelled⟩ := mapOf.mapped.least dst _ other
    ((pathCost_iff other).mpr ⟨addrs, path.imp mapOf.covers, rfl⟩)
  simp [label, missing] at labelled

theorem MapOf.hops_le {links : InAddr → InAddr → Prop} (mapOf : MapOf rootNode now links cache)
    (other : dst ≠ rootNode) {state : RouteState} (stored : cache.routeMap.lookup dst = some state)
    {hops : Nat} (cost : state.costAdd = hops) {addrs : List InAddr}
    (path : LivePath rootNode now cache.linkArray dst addrs) : hops ≤ addrs.length + 1 := by
  obtain ⟨best, le, labelled⟩ := mapOf.mapped.least dst _ other
    ((pathCost_iff other).mpr ⟨addrs, path.imp mapOf.covers, rfl⟩)
  have same : best = hops := by
    rw [label, stored] at labelled
    cases labelled
    exact cost
  rw [same] at le
  exact_mod_cast le

theorem MapOf.looked {links : InAddr → InAddr → Prop} (mapOf : MapOf rootNode now links cache)
    (other : dst ≠ rootNode) {state : RouteState}
    (stored : cache.routeMap.lookup dst = some state) {hops : Nat} (cost : state.costAdd = hops)
    {after : LinkArray} {nodes : List InAddr} (length : nodes.length = hops)
    (ends : (rootNode :: nodes.reverse).getLast? = some dst)
    (chain : (rootNode :: nodes.reverse).IsChain (Unexpired cache.linkArray now))
    (expires : 0 < exp → (rootNode :: nodes.reverse).IsChain (ExpiresAt after (now + usecs exp))) :
    ∃ route, forwards nodes = .ok route ∧
      Looked rootNode dst now exp cache.linkArray after (some route) := by
  cases nodes with
  | nil =>
      cases ends
      exact absurd rfl other
  | cons last rest =>
      rw [List.reverse_cons] at chain expires ends
      have same : last = dst := by
        rw [← List.cons_append, List.getLast?_concat] at ends
        exact Option.some_injective _ ends
      subst same
      refine ⟨rest.reverse, rfl, ?_, ?_, ?_, ?_⟩
      · constructor
        · intro none
          cases none
        · exact fun absent => absurd ⟨rest.reverse, chain⟩ absent
      · intro route found
        cases found
        exact chain
      · intro route found addrs path
        cases found
        have bound := mapOf.hops_le other stored cost path
        rw [List.length_cons] at length
        rw [List.length_reverse]
        omega
      · intro route found positive
        cases found
        exact expires positive

theorem getRoute_missing
    (ready : (if cache.routeMap = ∅ then cache.run rootNode now (chance depth) else .ok cache) =
      .ok built) (missing : built.routeMap.lookup dst = none) :
    cache.getRoute rootNode now chance exp dst (depth + 1) = .ok (built, none) := by
  rw [getRoute, ready]
  dsimp only [Except.bind]
  rw [missing]

theorem getRoute_walk {state : RouteState} (exp : Nat)
    (ready : (if cache.routeMap = ∅ then cache.run rootNode now (chance depth) else .ok cache) =
      .ok built) (stored : built.routeMap.lookup dst = some state) :
    cache.getRoute rootNode now chance exp dst (depth + 1) =
      (walk rootNode now exp built.routeMap built.routeMap.keys.card built.linkArray dst state
        []).bind fun walked =>
          match walked.2 with
          | some path =>
              (forwards path).bind fun route =>
                .ok ({ built with linkArray := walked.1 }, some route)
          | none =>
              getRoute rootNode now chance exp dst depth
                { linkArray := walked.1, routeMap := ∅ } := by
  rw [getRoute, ready]
  dsimp only [Except.bind]
  rewrite [stored]
  rfl

/-- A call of `getRoute` with a route map: it returns, or clears the map because of a link
that has expired and calls itself. -/
theorem getRoute_step (cache : LinkCache) (chance : Nat → Chance) {links : InAddr → InAddr → Prop}
    (other : dst ≠ rootNode)
    (ready : (if cache.routeMap = ∅ then cache.run rootNode now (chance depth) else .ok cache) =
      .ok built) (mapOf : MapOf rootNode now links built) :
    (∃ after found, cache.getRoute rootNode now chance exp dst (depth + 1) = .ok (after, found) ∧
      Valid rootNode now after ∧ SameLive now built.linkArray after.linkArray ∧
      Looked rootNode dst now exp built.linkArray after.linkArray found) ∨
    ∃ after, cache.getRoute rootNode now chance exp dst (depth + 1) =
        getRoute rootNode now chance exp dst depth { linkArray := after, routeMap := ∅ } ∧
      Refreshed now (now + usecs exp) built.linkArray after ∧
      ∃ origin last, links origin last ∧ ¬Unexpired built.linkArray now origin last := by
  cases stored : built.routeMap.lookup dst with
  | none =>
      refine .inl ⟨built, none, ?_, ⟨mapOf.wellFormed, .inr ⟨links, mapOf⟩⟩, ?_, ?_⟩
      · exact getRoute_missing ready stored
      · exact fun _ _ => Iff.rfl
      · have absent := mapOf.noPath other stored
        exact ⟨⟨fun _ => absent, fun _ => rfl⟩, by simp, by simp, by simp⟩
  | some state =>
      obtain ⟨hops, cost⟩ := mapOf.mapped.natural stored
      have enough : hops ≤ built.routeMap.keys.card := (mapOf.mapped.hops_lt stored cost).le
      obtain ⟨after, walked, ran, refreshed, ended⟩ :=
        walk_ok now exp mapOf.mapped mapOf.wellFormed mapOf.stored stored cost enough []
      have unfolded := getRoute_walk exp ready stored
      rw [ran] at unfolded
      cases ended with
      | inl expired =>
          obtain ⟨rfl, last, state', there, away, dead⟩ := expired
          have linked := (mapOf.mapped.placed there away).1
          exact .inr ⟨after, unfolded, refreshed, _, _, linked, dead⟩
      | inr returned =>
          obtain ⟨nodes, rfl, length, ends, chain, expires⟩ := returned
          obtain ⟨route, forward, looked⟩ :=
            mapOf.looked other stored cost length ends chain expires
          refine .inl ⟨{ built with linkArray := after }, some route, ?_,
            ⟨refreshed.wellFormed, .inr ⟨links, mapOf.refresh refreshed⟩⟩, refreshed.unexpired,
            looked⟩
          rw [unfolded, List.nil_append]
          show (forwards nodes).bind _ = _
          rw [forward]
          rfl

theorem Looked.congr {before between after : LinkArray} {found : Option PathCacheRoute}
    (looked : Looked rootNode dst now exp between after found)
    (same : ∀ origin last, Unexpired between now origin last ↔ Unexpired before now origin last) :
    Looked rootNode dst now exp before after found := by
  have paths : LivePath rootNode now between = LivePath rootNode now before := by
    have unexpired : Unexpired between now = Unexpired before now := by
      funext origin last
      exact propext (same origin last)
    unfold LivePath
    rw [unexpired]
  obtain ⟨none_iff, path, least, extended⟩ := looked
  rw [paths] at none_iff path least
  exact ⟨none_iff, path, least, extended⟩

theorem run_mapOf (rootNode : InAddr) (now : SimTime) (chance : Chance)
    (wellFormed : WellFormed cache.linkArray) :
    ∃ built, cache.run rootNode now chance = .ok built ∧
      MapOf rootNode now (Unexpired built.linkArray now) built ∧
      ∀ origin last,
        Unexpired built.linkArray now origin last ↔ Unexpired cache.linkArray now origin last := by
  obtain ⟨built, ran, wellFormed', same, mapped⟩ := run_ok rootNode now chance wellFormed
  have unexpired : Unexpired built.linkArray now = Unexpired cache.linkArray now := by
    funext origin last
    exact propext (same origin last)
  refine ⟨built, ran, ⟨wellFormed', unexpired ▸ mapped, fun _ _ live => live, ?_⟩, same⟩
  intro origin last live
  obtain ⟨edge, found, _⟩ := wellFormed'.unexpired_iff.mp live
  exact ⟨edge, found⟩

theorem getRoute_fresh (chance : Nat → Chance) (exp depth : Nat) (other : dst ≠ rootNode)
    {linkArray : LinkArray} (wellFormed : WellFormed linkArray) :
    ∃ after found, getRoute rootNode now chance exp dst (depth + 1)
        { linkArray := linkArray, routeMap := ∅ } = .ok (after, found) ∧
      Valid rootNode now after ∧ SameLive now linkArray after.linkArray ∧
      Looked rootNode dst now exp linkArray after.linkArray found := by
  have built : ∃ built, run rootNode now (chance depth) { linkArray := linkArray, routeMap := ∅ } =
      .ok built ∧ MapOf rootNode now (Unexpired built.linkArray now) built ∧
      ∀ origin last,
        Unexpired built.linkArray now origin last ↔ Unexpired linkArray now origin last :=
    run_mapOf rootNode now (chance depth) wellFormed
  obtain ⟨built, ran, mapOf, same⟩ := built
  cases getRoute_step { linkArray := linkArray, routeMap := ∅ } chance other
      ((if_pos rfl).trans ran) mapOf with
  | inl returned =>
      obtain ⟨after, found, result, valid, live, looked⟩ := returned
      exact ⟨after, found, result, valid,
        fun origin last => (live origin last).trans (same origin last), looked.congr same⟩
  | inr expired =>
      obtain ⟨_, _, _, _, _, live, dead⟩ := expired
      exact absurd live dead

theorem getRoute_ok (chance : Nat → Chance) (exp depth : Nat) (other : dst ≠ rootNode)
    (valid : Valid rootNode now cache) :
    ∃ after found, cache.getRoute rootNode now chance exp dst (depth + 2) = .ok (after, found) ∧
      Valid rootNode now after ∧ SameLive now cache.linkArray after.linkArray ∧
      Looked rootNode dst now exp cache.linkArray after.linkArray found := by
  cases cache with
  | mk linkArray routeMap =>
      by_cases empty : routeMap = ∅
      · subst empty
        exact getRoute_fresh chance exp (depth + 1) other valid.wellFormed
      · obtain ⟨links, mapOf⟩ := valid.mapped.resolve_left empty
        cases getRoute_step { linkArray := linkArray, routeMap := routeMap } chance other
            (if_neg empty) mapOf with
        | inl returned => exact returned
        | inr expired =>
            obtain ⟨between, again, refreshed, _⟩ := expired
            obtain ⟨after, found, result, valid', live, looked⟩ :=
              getRoute_fresh chance exp depth other refreshed.wellFormed
            refine ⟨after, found, again.trans result, valid', ?_, looked.congr refreshed.unexpired⟩
            exact fun origin last => (live origin last).trans (refreshed.unexpired origin last)

theorem getRoute_root {after : LinkCache} {found : Option PathCacheRoute}
    (valid : Valid rootNode now cache)
    (result : cache.getRoute rootNode now chance exp rootNode depth = .ok (after, found)) :
    Valid rootNode now after ∧ SameLive now cache.linkArray after.linkArray := by
  cases depth with
  | zero => cases result
  | succ depth =>
      have prepared : ∃ built links, (if cache.routeMap = ∅ then
          cache.run rootNode now (chance depth) else .ok cache) = .ok built ∧
          MapOf rootNode now links built ∧ SameLive now cache.linkArray built.linkArray := by
        by_cases empty : cache.routeMap = ∅
        · obtain ⟨built, ran, mapOf, same⟩ := run_mapOf rootNode now (chance depth) valid.wellFormed
          exact ⟨built, _, (if_pos empty).trans ran, mapOf, same⟩
        · obtain ⟨links, mapOf⟩ := valid.mapped.resolve_left empty
          exact ⟨cache, links, if_neg empty, mapOf, fun _ _ => Iff.rfl⟩
      obtain ⟨built, links, ready, mapOf, same⟩ := prepared
      cases stored : built.routeMap.lookup rootNode with
      | none =>
          rw [getRoute_missing ready stored] at result
          cases result
          exact ⟨⟨mapOf.wellFormed, .inr ⟨links, mapOf⟩⟩, same⟩
      | some state =>
          rw [getRoute_walk exp ready stored, walk_root] at result
          cases result

end

/-! ## Runs -/

section

variable {myaddr : InAddr} {now : SimTime} {cache : LinkCache}

variable {exp : Nat} {lastNode originNode : InAddr}

theorem edgesFrom_addEdge {node : InAddr} {cost : ℚ} :
    edgesFrom (cache.addEdge now originNode lastNode cost exp).linkArray node =
      if node = originNode then
        if (edgesFrom cache.linkArray node).any fun edge => edge.lastNode = lastNode then
          updateFirst (fun edge => edge.lastNode = lastNode)
            (fun _ => { lastNode := lastNode, costAdd := cost, expires := now + usecs exp })
            (edgesFrom cache.linkArray node)
        else
          edgesFrom cache.linkArray node ++
            [{ lastNode := lastNode, costAdd := cost, expires := now + usecs exp }]
      else edgesFrom cache.linkArray node := by
  unfold addEdge
  rw [edgesFrom_insert]
  split
  · next same =>
      subst same
      rfl
  · rfl

theorem mem_addEdge {node : InAddr} {edge : Edge}
    (member : edge ∈ edgesFrom (cache.addEdge now originNode lastNode 1 exp).linkArray node) :
    edge ∈ edgesFrom cache.linkArray node ∨
      node = originNode ∧ edge.lastNode = lastNode ∧ edge.costAdd = 1 := by
  rw [edgesFrom_addEdge] at member
  split at member
  · next same =>
      split at member
      · cases updateFirst.mem_cases member with
        | inl old => exact .inl old
        | inr written =>
            obtain ⟨_, _, _, rfl⟩ := written
            exact .inr ⟨same, rfl, rfl⟩
      · cases List.mem_append.mp member with
        | inl old => exact .inl old
        | inr new =>
            rw [List.mem_singleton.mp new]
            exact .inr ⟨same, rfl, rfl⟩
  · exact .inl member

theorem single_addEdge {cost : ℚ}
    (single : ∀ origin, ((edgesFrom cache.linkArray origin).map Edge.lastNode).Nodup)
    (node : InAddr) :
    ((edgesFrom (cache.addEdge now originNode lastNode cost exp).linkArray node).map
      Edge.lastNode).Nodup := by
  rw [edgesFrom_addEdge]
  split
  · split
    · rw [updateFirst.map_key_of_found]
      · exact single node
      · intro edge found
        simpa [eq_comm] using found
    · next absent =>
        rw [List.map_append, List.nodup_append]
        refine ⟨single node, List.nodup_singleton _, ?_⟩
        intro last member other there same
        rw [List.map_singleton, List.mem_singleton] at there
        obtain ⟨edge, stored, ends⟩ := List.mem_map.mp member
        apply absent
        exact List.any_eq_true.mpr ⟨edge, stored, decide_eq_true (by rw [ends, same, there])⟩
  · exact single node

theorem mem_keys_addEdge {node : InAddr} {cost : ℚ} :
    node ∈ (cache.addEdge now originNode lastNode cost exp).linkArray ↔
      node = originNode ∨ node ∈ cache.linkArray := by
  unfold addEdge
  exact Finmap.mem_insert

theorem WellFormed.addEdges (wellFormed : WellFormed cache.linkArray) (timeout : Nat)
    (link : InAddr × InAddr) : WellFormed (cache.addEdges now timeout link).linkArray := by
  have origins : ∀ origin, ∀ edge ∈ edgesFrom (cache.addEdges now timeout link).linkArray origin,
      edge.costAdd = 1 ∧ edge.lastNode ∈ (cache.addEdges now timeout link).linkArray := by
    intro origin edge member
    have grown : ∀ node, node = link.1 ∨ node = link.2 ∨ node ∈ cache.linkArray →
        node ∈ (cache.addEdges now timeout link).linkArray := by
      intro node known
      unfold LinkCache.addEdges
      rw [mem_keys_addEdge, mem_keys_addEdge]
      tauto
    cases mem_addEdge member with
    | inr back => exact ⟨back.2.2, grown _ (.inl back.2.1)⟩
    | inl earlier =>
        cases mem_addEdge earlier with
        | inr there => exact ⟨there.2.2, grown _ (.inr (.inl there.2.1))⟩
        | inl old =>
            refine ⟨wellFormed.unit origin edge old, grown _ (.inr (.inr ?_))⟩
            obtain ⟨edges, stored⟩ := wellFormed.ends origin edge old
            exact Finmap.lookup_isSome.mp (by rw [stored]; rfl)
  constructor
  · exact fun origin edge member => (origins origin edge member).1
  · exact single_addEdge (single_addEdge wellFormed.single)
  · intro origin edge member
    have key := Finmap.lookup_isSome.mpr (origins origin edge member).2
    exact Option.isSome_iff_exists.mp key

theorem Valid.addEdges (valid : Valid myaddr now cache) (timeout : Nat) (link : InAddr × InAddr) :
    Valid myaddr now (cache.addEdges now timeout link) :=
  ⟨valid.wellFormed.addEdges timeout link, .inl rfl⟩

theorem Valid.deleteEdge (valid : Valid myaddr now cache) (originNode lastNode : InAddr)
    (bidirectional : Bool) : Valid myaddr now (cache.deleteEdge originNode lastNode bidirectional) := by
  unfold LinkCache.deleteEdge
  split
  · exact valid
  · split
    · exact ⟨valid.wellFormed.prune List.eraseP_sublist, .inl rfl⟩
    · split
      · exact ⟨valid.wellFormed.prune List.eraseP_sublist, .inl rfl⟩
      · exact ⟨valid.wellFormed, .inl rfl⟩

theorem Valid.wait {later : SimTime} (valid : Valid myaddr now cache) (le : now ≤ later) :
    Valid myaddr later cache := by
  refine ⟨valid.wellFormed, valid.mapped.imp_right ?_⟩
  intro mapped
  obtain ⟨links, mapOf⟩ := mapped
  refine ⟨links, mapOf.wellFormed, mapOf.mapped, ?_, mapOf.stored⟩
  intro origin last live
  obtain ⟨edge, member, ends, inTime⟩ := live
  exact mapOf.covers origin last ⟨edge, member, ends, lt_of_le_of_lt le inTime⟩

/-- The calls of one node at times that do not decrease, from an empty cache. -/
inductive LinkRun (myaddr : InAddr) : SimTime → LinkCache → Prop where
  | init (now : SimTime) : LinkRun myaddr now { linkArray := ∅, routeMap := ∅ }
  | wait {now later : SimTime} {cache : LinkCache} (before : LinkRun myaddr now cache)
      (le : now ≤ later) : LinkRun myaddr later cache
  | add {now : SimTime} {cache : LinkCache} (before : LinkRun myaddr now cache)
      (src dst : InAddr) (timeout : Nat) :
      LinkRun myaddr now (cache.phAddLinkMap now src dst timeout)
  | addSrt {now : SimTime} {cache : LinkCache} (before : LinkRun myaddr now cache) (srt : DsrSrt)
      (timeout : Nat) : LinkRun myaddr now (cache.phSrtAddLinkMap now srt timeout)
  | delete {now : SimTime} {data : DataBase} (before : LinkRun myaddr now data.links)
      (src1 src2 : InAddr) : LinkRun myaddr now (data.phSrtDeleteLinkMap myaddr now src1 src2).links
  | find {now : SimTime} {cache after : LinkCache} {found : Option DsrSrt}
      (before : LinkRun myaddr now cache) (chance : Nat → Chance) (src dst : InAddr)
      (timeout : Nat)
      (returns : phSrtFindLinkRouteMap myaddr now chance cache src dst timeout = .ok (after, found)) :
      LinkRun myaddr now after

theorem LinkRun.valid (run : LinkRun myaddr now cache) : Valid myaddr now cache := by
  induction run with
  | init now =>
      refine ⟨⟨?_, ?_, ?_⟩, .inl rfl⟩ <;> simp [edgesFrom]
  | wait _ le ih => exact ih.wait le
  | add _ src dst timeout ih => exact ih.addEdges _ _
  | addSrt _ srt timeout ih =>
      unfold phSrtAddLinkMap
      apply foldl_keeps _ (Valid myaddr _) ih
      exact fun link cache _ valid => valid.addEdges _ link
  | delete _ src1 src2 ih => exact ih.deleteEdge src1 src2 true
  | find _ chance src dst timeout returns ih =>
      obtain ⟨result, ran, same⟩ := bind_ok.mp returns
      cases same
      by_cases other : dst = myaddr
      · subst other
        exact (getRoute_root ih ran).1
      · obtain ⟨after, found, ran', valid, _⟩ := getRoute_ok chance timeout 0 other ih
        rw [ran] at ran'
        cases ran'
        exact valid

/-- Whatever happened to the links, a lookup of another node returns a shortest path over
the links that have not expired, where there is one, and extends its links. -/
theorem findLinkRoute_looked (run : LinkRun myaddr now cache) (chance : Nat → Chance)
    (src dst : InAddr) (timeout : Nat) (other : dst ≠ myaddr) :
    ∃ after found, phSrtFindLinkRouteMap myaddr now chance cache src dst timeout =
        .ok (after, found) ∧
      Looked myaddr dst now timeout cache.linkArray after.linkArray (found.map DsrSrt.addrs) ∧
      ∀ srt, found = some srt → srt.src = src ∧ srt.dst = dst ∧
        srt.laddrs = srt.addrs.length * dsrAddressSize := by
  obtain ⟨after, found, ran, _, _, looked⟩ := getRoute_ok chance timeout 0 other run.valid
  refine ⟨after, _, bind_ok.mpr ⟨(after, found), ran, rfl⟩, ?_, ?_⟩
  · have same : (found.map fun route : PathCacheRoute =>
        ({ src := src, dst := dst, flags := 0, laddrs := route.length * dsrAddressSize,
           addrs := route, cost := [] } : DsrSrt)).map DsrSrt.addrs = found := by
      cases found <;> rfl
    rw [same]
    exact looked
  · intro srt here
    obtain ⟨route, _, rfl⟩ := Option.map_eq_some_iff.mp here
    exact ⟨rfl, rfl, rfl⟩

theorem findLinkRoute_looked_relay :
    let cache := (phAddLinkMap 0 (phAddLinkMap 0 { linkArray := ∅, routeMap := ∅ } 1 2 300) 2 3 300)
    ∃ after srt, phSrtFindLinkRouteMap 1 0 (fun _ => .first) cache 1 3 300 =
        .ok (after, some srt) ∧ srt.addrs.length ≤ 1 := by
  intro cache
  have run : LinkRun 1 0 cache := ((LinkRun.init 0).add 1 2 300).add 2 3 300
  obtain ⟨after, found, ran, looked, _⟩ :=
    findLinkRoute_looked run (fun _ => .first) 1 3 300 (by decide)
  have path : LivePath 1 0 cache.linkArray 3 [2] := by
    have edges : edgesFrom cache.linkArray 1 = [⟨2, 1, 0 + usecs 300⟩] ∧
        edgesFrom cache.linkArray 2 = [⟨1, 1, 0 + usecs 300⟩, ⟨3, 1, 0 + usecs 300⟩] := by
      have none : ∀ node, edgesFrom (∅ : LinkArray) node = [] := fun node => by simp [edgesFrom]
      simp [cache, phAddLinkMap, addEdges, edgesFrom_addEdge, none]
    refine List.isChain_cons_cons.mpr ⟨?_, List.isChain_cons_cons.mpr ⟨?_, List.isChain_singleton _⟩⟩
    · exact ⟨_, by rw [edges.1]; exact List.mem_cons_self, rfl, by decide⟩
    · exact ⟨_, by rw [edges.2]; exact List.mem_cons_of_mem _ List.mem_cons_self, rfl, by decide⟩
  cases found with
  | none => exact absurd ⟨[2], path⟩ (looked.none_iff.mp rfl)
  | some srt => exact ⟨after, srt, ran, looked.least _ rfl [2] path⟩

end

end LinkCache

end SyncFanet.Dsr
