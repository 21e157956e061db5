import SyncFanet.Dsr.LinkRouteRuns

/-!
# Least costs and routes from the link cache

The route map of `run` holds the least costs where the nearest of the nodes with a link to
another are on its cheapest paths; where a node is found over a cheaper link later, it need not.
`getRoute` and `getRouteCost` follow it back in the same way and differ in what they report: the
relays in their order, and the nodes as they were passed, with the destination.
-/

set_option autoImplicit false

namespace SyncFanet.Dsr

namespace LinkCache

/-- `DsrDataBase::getRouteCost`, with a bound on the depth of its calls. -/
def getRouteCost (rootNode : InAddr) (now : SimTime) (chance : Nat → Chance) (exp : Nat)
    (nodeId : InAddr) :
    Nat → LinkCache → Except Fault (LinkCache × Option (PathCacheRoute × ℚ))
  | 0, _ => .error .diverges
  | depth + 1, cache =>
      (if cache.routeMap = ∅ then cache.run rootNode now (chance depth) else .ok cache).bind
        fun cache =>
          match cache.routeMap.lookup nodeId with
          | none => .ok (cache, none)
          | some state =>
              (walk rootNode now exp cache.routeMap cache.routeMap.keys.card cache.linkArray nodeId
                state []).bind fun walked =>
                match walked.2 with
                | some path =>
                    .ok ({ cache with linkArray := walked.1 }, some (path, state.costAdd))
                | none =>
                    getRouteCost rootNode now chance exp nodeId depth
                      { linkArray := walked.1, routeMap := ∅ }

section

variable {rootNode node : InAddr} {now : SimTime} {links : InAddr → InAddr → ℚ → Prop}
  {routeMap : RouteMap} {linkArray : LinkArray} {order : List InAddr} {search : Search}

/-! ## Following the states -/

def Alive (links : InAddr → InAddr → ℚ → Prop) (now : SimTime) (linkArray : LinkArray) : Prop :=
  ∀ origin last weight, links origin last weight →
    ∃ edge, edge? linkArray origin last = some edge ∧ now < edge.expires

theorem Alive.extendEdge (alive : Alive links now linkArray) {origin last : InAddr}
    {expires : SimTime} (later : now < expires) :
    Alive links now (extendEdge linkArray origin last expires) := by
  intro origin' last' weight linked
  obtain ⟨edge, found, live⟩ := alive origin' last' weight linked
  rw [edge_extendEdge]
  split
  · next same =>
      rw [same.1, same.2] at found
      rw [found]
      exact ⟨_, rfl, later⟩
  · exact ⟨edge, found, live⟩

/-- The loop of `getRoute` passes the nodes that the states lead to, by induction on them. -/
theorem Leads.walk {exp fuel : Nat} {state root : RouteState} {nodes : List InAddr} {cost : ℚ}
    (leads : Leads rootNode links routeMap node nodes cost)
    (stored : routeMap.lookup node = some state) (rooted : routeMap.lookup rootNode = some root)
    (alive : Alive links now linkArray) (enough : nodes.length ≤ fuel) (path : List InAddr) :
    ∃ after, LinkCache.walk rootNode now exp routeMap fuel linkArray node state path =
      .ok (after, some (path ++ nodes.reverse)) := by
  induction leads generalizing fuel linkArray state path with
  | root => exact ⟨linkArray, by rw [walk_root, List.reverse_nil, List.append_nil]⟩
  | @next node state' nodes cost weight stored' other before linked ih =>
      obtain rfl := Option.some.inj (stored'.symm.trans stored)
      rw [List.length_append, List.length_singleton] at enough
      cases fuel with
      | zero => omega
      | succ fuel =>
          obtain ⟨edge, found, live⟩ := alive _ _ _ linked
          have prev : ∃ prev, routeMap.lookup state'.idPrev = some prev := by
            cases before with
            | root => exact ⟨root, rooted⟩
            | next there _ _ _ => exact ⟨_, there⟩
          obtain ⟨prev, there⟩ := prev
          have alive' : Alive links now (if exp > 0 then
              LinkCache.extendEdge linkArray state'.idPrev node (now + usecs exp)
              else linkArray) := by
            split
            · next positive => exact alive.extendEdge (lt_add_usecs positive)
            · exact alive
          have shorter : nodes.length ≤ fuel := by omega
          obtain ⟨after, walked⟩ := ih there alive' shorter (path ++ [node])
          refine ⟨after, ?_⟩
          simp only [LinkCache.walk, if_neg other, found, if_neg (not_le.mpr live), there]
          rw [walked, List.reverse_append, List.append_assoc, List.reverse_singleton]

theorem Weighing.alive (weighing : Weighing rootNode now linkArray order search)
    (weighted : Weighted linkArray) :
    Alive (linkCost linkArray now) now search.linkArray := by
  rintro origin last weight ⟨edge, member, rfl, live, rfl⟩
  refine ⟨edge, ?_, live⟩
  have among : edge ∈ edgesFrom search.linkArray origin ∧
      ((edgesFrom search.linkArray origin).map Edge.lastNode).Nodup := by
    rw [weighing.pruned]
    split
    · exact ⟨List.mem_filter.mpr ⟨member, decide_eq_true live⟩,
        (weighted.single origin).sublist (List.filter_sublist.map _)⟩
    · exact ⟨member, weighted.single origin⟩
  exact find?_key among.2 among.1

theorem Weighing.length_order_le (weighing : Weighing rootNode now linkArray order search) :
    order.length ≤ search.routeMap.keys.card := by
  rw [← List.toFinset_card_of_nodup weighing.nodup]
  refine Finset.card_le_card fun node member => ?_
  obtain ⟨state, stored, _⟩ := (weighing.settled node).mp (List.mem_toFinset.mp member)
  exact Finmap.mem_keys.mpr (Finmap.lookup_isSome.mp (by rw [stored]; rfl))

structure Reported (rootNode node : InAddr) (now : SimTime) (chance : Nat → Chance)
    (exp depth : Nat) (built : LinkCache) (links : InAddr → InAddr → ℚ → Prop)
    (relays : PathCacheRoute) (cost : ℚ) : Prop where
  leads : Leads rootNode links built.routeMap node (relays ++ [node]) cost
  getRoute : ∃ after, built.getRoute rootNode now chance exp node (depth + 1) =
    .ok (after, some relays)
  getRouteCost : ∃ after, built.getRouteCost rootNode now chance exp node (depth + 1) =
    .ok (after, some (node :: relays.reverse, cost))

theorem Built.reported {cache built : LinkCache} {chance : Chance}
    (made : Built rootNode now chance cache built) (weighted : Weighted cache.linkArray)
    {state : RouteState} (stored : built.routeMap.lookup node = some state)
    (other : node ≠ rootNode) (chance' : Nat → Chance) (exp depth : Nat) :
    ∃ relays, Reported rootNode node now chance' exp depth built (linkCost cache.linkArray now)
      relays state.costAdd := by
  obtain ⟨order, weighing⟩ := made.weighing
  obtain ⟨root, rooted, _⟩ := weighing.root
  obtain ⟨nodes, leads, short⟩ := weighing.leads stored
  obtain ⟨relays, rfl⟩ := leads.ends other
  have enough : (relays ++ [node]).length ≤ built.routeMap.keys.card :=
    (short.trans List.idxOf_le_length).trans weighing.length_order_le
  obtain ⟨after, walked⟩ := leads.walk stored rooted (weighing.alive weighted) enough []
  have nonempty : built.routeMap ≠ ∅ := by
    intro none
    rw [none, Finmap.lookup_empty] at stored
    cases stored
  rw [List.nil_append, List.reverse_append, List.reverse_singleton, List.singleton_append]
    at walked
  refine ⟨relays, leads, ⟨{ built with linkArray := after }, ?_⟩,
    { built with linkArray := after }, ?_⟩
  · simp only [LinkCache.getRoute, if_neg nonempty, Except.bind, stored]
    rw [walked]
    simp only [forwards, List.reverse_reverse]
  · simp only [LinkCache.getRouteCost, if_neg nonempty, Except.bind, stored]
    rw [walked]

/-! ## Dijkstra's algorithm -/

/-- `run` is Dijkstra's algorithm over the links that have not expired, and the lookups that come
next for a node report a path of the least cost, and that cost; `report` is the path that
`getRouteCost` reports where `getRoute` reports these relays. -/
def RunsDijkstra (report : InAddr → PathCacheRoute → PathCacheRoute) (rootNode : InAddr)
    (now : SimTime) (chance : Chance) (cache : LinkCache) : Prop :=
  ∃ built, cache.run rootNode now chance = .ok built ∧
    CheapestMap rootNode (linkCost cache.linkArray now) built.routeMap ∧
    ∀ node cost, node ≠ rootNode →
      PathCost (starts rootNode) (linkCost cache.linkArray now) node cost →
      ∀ (chance' : Nat → Chance) (exp depth : Nat), ∃ route least,
        IsLeast { cost |
          PathCost (starts rootNode) (linkCost cache.linkArray now) node cost } least ∧
        Leads rootNode (linkCost cache.linkArray now) built.routeMap node (route ++ [node]) least ∧
        (∃ after, built.getRoute rootNode now chance' exp node (depth + 1) =
          .ok (after, some route)) ∧
        ∃ after, built.getRouteCost rootNode now chance' exp node (depth + 1) =
          .ok (after, some (report node route, least))

section

variable {cache built : LinkCache} {chance : Chance}

theorem Built.backwards (made : Built rootNode now chance cache built)
    (weighted : Weighted cache.linkArray)
    (cheapest : CheapestMap rootNode (linkCost cache.linkArray now) built.routeMap) :
    RunsDijkstra (fun node route => node :: route.reverse) rootNode now chance cache := by
  refine ⟨built, made.ran, cheapest, fun node cost other path chance' exp depth => ?_⟩
  obtain ⟨state, stored⟩ :=
    Option.isSome_iff_exists.mp (Finmap.lookup_isSome.mpr (cheapest.reached node cost path))
  obtain ⟨relays, reported⟩ := made.reported weighted stored other chance' exp depth
  exact ⟨relays, state.costAdd, cheapest.least node state stored, reported.leads,
    reported.getRoute, reported.getRouteCost⟩

theorem Built.cheapest_alone (made : Built rootNode now chance cache built)
    (weighted : Weighted cache.linkArray)
    (alone : ∀ node cost,
      PathCost (starts rootNode) (linkCost cache.linkArray now) node cost → node = rootNode) :
    CheapestMap rootNode (linkCost cache.linkArray now) built.routeMap := by
  obtain ⟨order, weighing⟩ := made.weighing
  refine weighing.cheapestMap rfl fun node state stored _ edge member => ?_
  obtain ⟨nodes, leads, _⟩ := weighing.leads stored
  obtain ⟨among, live⟩ := List.mem_filter.mp member
  have path := leads.pathCost.next
    ⟨edge, among, rfl, of_decide_eq_true live, (rfl : edge.costAdd = edge.costAdd)⟩
  obtain ⟨root, rooted, zero⟩ := weighing.root
  have same := alone node _ leads.pathCost
  rw [same] at stored
  rw [alone _ _ path]
  obtain rfl := Option.some.inj (rooted.symm.trans stored)
  exact ⟨root, rooted, le_add_of_nonneg_left (weighted.nonneg node edge among)⟩

/-- The path of `getRouteCost` has the destination besides the relays. -/
theorem Built.forwards_iff (made : Built rootNode now chance cache built)
    (weighted : Weighted cache.linkArray) :
    RunsDijkstra (fun _ route => route) rootNode now chance cache ↔ ∀ node cost,
      PathCost (starts rootNode) (linkCost cache.linkArray now) node cost → node = rootNode := by
  constructor
  · rintro ⟨built', ran, cheapest, lookups⟩ node cost path
    obtain rfl := Except.ok.inj (made.ran.symm.trans ran)
    by_contra other
    obtain ⟨route, least, -, -, ⟨after, found⟩, after', found'⟩ :=
      lookups node cost other path (fun _ => .first) 0 0
    obtain ⟨state, stored⟩ :=
      Option.isSome_iff_exists.mp (Finmap.lookup_isSome.mpr (cheapest.reached node cost path))
    obtain ⟨relays, reported⟩ := made.reported weighted stored other (fun _ => .first) 0 0
    obtain ⟨_, relays'⟩ := reported.getRoute
    obtain ⟨_, backwards⟩ := reported.getRouteCost
    rw [found] at relays'
    rw [found'] at backwards
    have longer : route = node :: route.reverse := by
      injection backwards with both
      injection relays' with both'
      simp only [Prod.mk.injEq, Option.some.injEq] at both both'
      rw [both'.2]
      exact both'.2 ▸ both.2.1
    have lengths := congrArg List.length longer
    rw [List.length_cons, List.length_reverse] at lengths
    omega
  · intro alone
    refine ⟨built, made.ran, made.cheapest_alone weighted alone, ?_⟩
    exact fun node cost other path => absurd (alone node cost path) other

end

end

theorem mem_keys_of_edgesFrom {linkArray : LinkArray} {origin : InAddr} {edge : Edge}
    (member : edge ∈ edgesFrom linkArray origin) : origin ∈ linkArray.keys := by
  by_contra missing
  rw [edgesFrom, Finmap.lookup_eq_none.mpr (missing ∘ Finmap.mem_keys.mpr)] at member
  cases member

theorem weighted_of_keys {linkArray : LinkArray}
    (links : ∀ origin ∈ linkArray.keys, ((edgesFrom linkArray origin).map Edge.lastNode).Nodup ∧
      ∀ edge ∈ edgesFrom linkArray origin, 0 ≤ edge.costAdd ∧ edge.lastNode ∈ linkArray.keys) :
    Weighted linkArray := by
  constructor
  · exact fun origin edge member =>
      ((links origin (mem_keys_of_edgesFrom member)).2 edge member).1
  · intro origin
    cases from' : edgesFrom linkArray origin with
    | nil => exact List.nodup_nil
    | cons first rest =>
        have member : first ∈ edgesFrom linkArray origin := from' ▸ List.mem_cons_self
        exact from' ▸ (links origin (mem_keys_of_edgesFrom member)).1
  · exact fun origin edge member =>
      Finmap.mem_keys.mp ((links origin (mem_keys_of_edgesFrom member)).2 edge member).2

/-- The links, from a node to a node, with their costs, for a microsecond. -/
def ofLinks (links : List (InAddr × InAddr × ℚ)) : LinkCache :=
  links.foldl (fun cache link => cache.addEdge 0 link.1 link.2.1 link.2.2 1)
    { linkArray := ∅, routeMap := ∅ }

/-- Two ways over one relay, of which the cheaper relay has the cheaper link. -/
def diamond : LinkCache := ofLinks [(1, 2, 2), (1, 3, 3), (2, 4, 1), (3, 4, 5), (4, 2, 1)]

/-- The cheapest way to the last node is over all the others, and its cost is known only when the
node has become permanent over one relay. -/
def detour : LinkCache :=
  ofLinks [(1, 3, 5), (1, 2, 1), (2, 3, 2), (2, 4, 3), (3, 4, 1 / 2), (4, 3, 1 / 2)]

end LinkCache

end SyncFanet.Dsr
