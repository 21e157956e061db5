import Mathlib.Logic.Relation
import SyncFanet.Olsr.KernelRoutes
import SyncFanet.Olsr.RouteDestinations

/-!
# The installed routes and the routing table

The computation writes its own table and the IPv4 routing table entry by entry. The two
agree afterwards if no route of an earlier computation is left.
-/

set_option autoImplicit false

namespace SyncFanet.Olsr

def routesTo (dst : NsAddr) (routes : List IpRoute) : List IpRoute :=
  routes.filter fun route => route.destination = dst

structure IsRouteOf (ip : IpConfig) (entry : RtEntry) (route : IpRoute) : Prop where
  destination : route.destination = entry.destAddr
  gateway : route.gateway = entry.nextAddr
  metric : route.metric = shortInt entry.dist
  sourceType : route.sourceType = ip.sourceType

/-- Destination by destination, the routes that the agent has installed and the entries
have the same gateways and metrics. -/
def InstalledExactly (ip : IpConfig) (routing : Routing) : Prop :=
  ∀ dst, ((routesTo dst routing.routes).filter fun route =>
      route.sourceType = ip.sourceType).map (fun route => (route.gateway, route.metric)) =
    (routing.rtable.lookup dst).toList.map fun entry => (entry.nextAddr, (entry.dist : Int))

section

variable {ip : IpConfig} {state : State} {now : Int} {routing routing' : Routing}
  {routes routes' before : List IpRoute} {dst other : NsAddr}

/-! ## One route -/

theorem routesTo_cons (dst : NsAddr) (route : IpRoute) (routes : List IpRoute) :
    routesTo dst (route :: routes) =
      if route.destination = dst then route :: routesTo dst routes else routesTo dst routes := by
  simp [routesTo, List.filter_cons]

theorem routesTo_addRoute (inserts : ip.InsertsRoutes) (routes : List IpRoute) (route : IpRoute)
    (dst : NsAddr) :
    (routesTo dst (ip.addRoute routes route)).Perm (routesTo dst (route :: routes)) :=
  (inserts routes route).filter _

/-- `omnet_chg_rte` replaces the only route to its destination. -/
theorem changeRoute_routesTo (inserts : ip.InsertsRoutes)
    (aboveIp : ip.config.isInMacLayer = false) {gtwy : NsAddr} {hops : Nat} {iface : NsAddr}
    {index : Nat} (few : (routesTo dst routes).length ≤ 1)
    (ran : changeRoute ip dst gtwy hops iface index routes = .ok routes') :
    ∃ ie, let route : IpRoute := {
        destination := dst
        netmask := allOnesAddress
        gateway := gtwy
        metric := shortInt hops
        interface := .wlan ie
        sourceType := ip.sourceType }
      routesTo dst routes' = [route] ∧
      (∀ other ≠ dst, (routesTo other routes').Perm (routesTo other routes)) ∧
      ∀ other ∈ routes', other ∈ routes ∨ other = route := by
  unfold changeRoute at ran
  rw [aboveIp] at ran
  cases interface : ip.interface iface index with
  | none => simp [interface] at ran
  | some ie =>
      simp only [interface, Bool.false_eq_true, if_false] at ran
      refine ⟨ie, ?_⟩
      generalize same : IpRoute.mk dst allOnesAddress gtwy (shortInt hops) (.wlan ie)
        ip.sourceType = route at ran
      have dest : route.destination = dst := by rw [← same]
      dsimp only
      cases found : routes.find? fun route => route.destination = dst with
      | none =>
          rw [found] at ran
          cases ran
          have empty : routesTo dst routes = [] := by
            refine List.filter_eq_nil_iff.mpr fun other member => ?_
            simpa using List.find?_eq_none.mp found other member
          refine ⟨?_, ?_, ?_⟩
          · have added := routesTo_addRoute inserts routes route dst
            rw [routesTo_cons, if_pos dest, empty] at added
            exact List.perm_singleton.mp added
          · intro other different
            have added := routesTo_addRoute inserts routes route other
            rwa [routesTo_cons, if_neg fun same => different (same.symm.trans dest)] at added
          · intro other member
            exact (List.mem_cons.mp ((inserts routes route).mem_iff.mp member)).symm
      | some oldentry =>
          rw [found] at ran
          have member := List.mem_of_find?_eq_some found
          have old : oldentry.destination = dst := by simpa using List.find?_some found
          have taken (dst : NsAddr) := (List.perm_cons_erase member).filter
            fun route => decide (route.destination = dst)
          change ∀ dst, (routesTo dst routes).Perm
            (routesTo dst (oldentry :: routes.erase oldentry)) at taken
          have only := taken dst
          rw [routesTo_cons, if_pos old] at only
          have rest : routesTo dst (routes.erase oldentry) = [] := by
            have length := only.length_eq
            rw [List.length_cons] at length
            exact List.length_eq_zero_iff.mp (by omega)
          rw [rest] at only
          dsimp only at ran
          split at ran
          · next equal =>
            cases ran
            rw [equal] at only
            exact ⟨List.perm_singleton.mp only, fun _ _ => .refl _, fun _ member => .inl member⟩
          · cases ran
            refine ⟨?_, ?_, ?_⟩
            · have added := routesTo_addRoute inserts (routes.erase oldentry) route dst
              rw [routesTo_cons, if_pos dest, rest] at added
              exact List.perm_singleton.mp added
            · intro other different
              have added := routesTo_addRoute inserts (routes.erase oldentry) route other
              rw [routesTo_cons, if_neg fun same => different (same.symm.trans dest)] at added
              have kept := taken other
              rw [routesTo_cons, if_neg fun same => different (same.symm.trans old)] at kept
              exact added.trans kept.symm
            · intro other member
              rcases List.mem_cons.mp ((inserts _ route).mem_iff.mp member) with same | member
              · exact .inr same
              · exact .inl (List.mem_of_mem_erase member)

/-! ## One entry -/

/-- The addresses that can become destinations. -/
def addresses (state : State) : List NsAddr :=
  state.linkset.map LinkTuple.nbIfaceAddr ++ state.nbset.map NbTuple.nbMainAddr ++
    state.nb2hopset.map Nb2hopTuple.nb2hopAddr ++ state.topologyset.map TopologyTuple.destAddr ++
    state.ifaceassocset.map IfaceAssocTuple.ifaceAddr

def Installs (ip : IpConfig) (state : State) (routing routing' : Routing) : Prop :=
  ∃ entry : RtEntry, entry.destAddr ∈ addresses state ∧
    routing'.rtable = routing.rtable.store entry ∧
    changeRoute ip entry.destAddr entry.nextAddr entry.dist entry.ifaceAddr entry.localIfaceIndex
      routing.routes = .ok routing'.routes

structure Synced (ip : IpConfig) (before : List IpRoute) (routing : Routing) : Prop where
  entry : ∀ dst entry, routing.rtable.lookup dst = some entry →
    ∃ route, routesTo dst routing.routes = [route] ∧ IsRouteOf ip entry route
  others : ∀ dst, routing.rtable.lookup dst = none →
    (routesTo dst routing.routes).Perm (routesTo dst before)
  wlan : ∀ route ∈ routing.routes, route ∈ before ∨ ∃ ie, route.interface = .wlan ie

theorem Synced.installs (inserts : ip.InsertsRoutes) (aboveIp : ip.config.isInMacLayer = false)
    (few : ∀ dst ∈ addresses state, (routesTo dst before).length ≤ 1)
    (synced : Synced ip before routing) (step : Installs ip state routing routing') :
    Synced ip before routing' := by
  obtain ⟨entry, known, stored, changed⟩ := step
  have single : (routesTo entry.destAddr routing.routes).length ≤ 1 := by
    cases found : routing.rtable.lookup entry.destAddr with
    | some old =>
        obtain ⟨route, only, _⟩ := synced.entry _ _ found
        rw [only]
        exact Nat.le_refl 1
    | none =>
        rw [(synced.others _ found).length_eq]
        exact few _ known
  obtain ⟨ie, only, others, members⟩ := changeRoute_routesTo inserts aboveIp single changed
  refine ⟨?_, ?_, ?_⟩
  · intro dst other found
    rw [stored, Rtable.lookup_store] at found
    split at found
    · next same =>
      subst same
      cases found
      exact ⟨_, only, rfl, rfl, rfl, rfl⟩
    · next different =>
      obtain ⟨route, alone, isRoute⟩ := synced.entry dst other found
      refine ⟨route, List.perm_singleton.mp ?_, isRoute⟩
      rw [← alone]
      exact others dst different
  · intro dst missing
    rw [stored, Rtable.lookup_store] at missing
    split at missing
    · cases missing
    · next different => exact (others dst different).trans (synced.others dst missing)
  · intro route member
    rcases members route member with old | rfl
    · exact synced.wlan route old
    · exact .inr ⟨ie, rfl⟩

/-! ## The passes -/

theorem install_ok {rtable : Rtable} {gtwy iface : NsAddr} {hops index : Nat}
    (ran : routing.install ip rtable dst gtwy hops iface index = .ok routing') :
    routing'.rtable = rtable ∧
      changeRoute ip dst gtwy hops iface index routing.routes = .ok routing'.routes := by
  obtain ⟨routes, changed, same⟩ := bind_ok.mp ran
  cases same
  exact ⟨rfl, changed⟩

theorem install_installs (entry : RtEntry) (known : entry.destAddr ∈ addresses state)
    (ran : routing.install ip (routing.rtable.store entry) entry.destAddr entry.nextAddr entry.dist
      entry.ifaceAddr entry.localIfaceIndex = .ok routing') : Installs ip state routing routing' :=
  ⟨entry, known, install_ok ran⟩

theorem installLink_installs {link : LinkTuple} (member : link ∈ state.linkset)
    (ran : installLink ip routing link = .ok routing') :
    routing'.rtable = addLinkEntry routing.rtable link ∧ Installs ip state routing routing' := by
  refine ⟨(install_ok ran).1, install_installs (linkEntry link) ?_ ran⟩
  simp only [addresses, List.mem_append, List.mem_map]
  exact .inl (.inl (.inl (.inl ⟨link, member, rfl⟩)))

theorem foldlM_installs {Item Acc Table : Type} (table : Acc → Table) (tables : Acc → Routing)
    {step : Acc → Item → Except Fault Acc} {pass : Table → Item → Table} {items : List Item}
    {acc acc' : Acc}
    (next : ∀ acc acc' item, item ∈ items → step acc item = .ok acc' →
      table acc' = pass (table acc) item ∧
        Relation.ReflTransGen (Installs ip state) (tables acc) (tables acc'))
    (ran : items.foldlM step acc = .ok acc') :
    table acc' = items.foldl pass (table acc) ∧
      Relation.ReflTransGen (Installs ip state) (tables acc) (tables acc') := by
  induction items generalizing acc with
  | nil =>
      have same : acc = acc' := by simpa [pure, Except.pure] using ran
      subst same
      exact ⟨rfl, .refl⟩
  | cons item rest ih =>
      rw [List.foldlM_cons] at ran
      obtain ⟨middle, stepped, ran⟩ := bind_ok.mp ran
      obtain ⟨written, first⟩ := next acc middle item (by simp) stepped
      obtain ⟨final, later⟩ :=
        ih (fun acc acc' item member => next acc acc' item (by simp [member])) ran
      exact ⟨by rw [final, written, List.foldl_cons], first.trans later⟩

theorem installNeighbor_installs {nb : NbTuple} (member : nb ∈ state.nbset)
    (ran : installNeighbor ip state now routing nb = .ok routing') :
    routing'.rtable = addNeighborEntries state now routing.rtable nb ∧
      Relation.ReflTransGen (Installs ip state) routing routing' := by
  unfold installNeighbor at ran
  unfold addNeighborEntries
  split at ran
  · next sym =>
    obtain ⟨linked, links, ran⟩ := bind_ok.mp ran
    obtain ⟨written, installed⟩ := foldlM_installs Routing.rtable id
      (fun routing routing' link among stepped =>
        (installLink_installs (mem_linksOf.mp among).1 stepped).imp_right .single) links
    rw [if_pos sym]
    dsimp only
    rw [← written]
    split at ran
    · next direct =>
      rw [if_pos direct, ← Except.ok.inj ran]
      exact ⟨rfl, installed⟩
    · next indirect =>
      rw [if_neg indirect]
      cases last : (linksOf state now nb).getLast? with
      | some lt =>
        simp only [last] at ran
        refine ⟨(install_ok ran).1, installed.tail
          (install_installs (mainEntry nb lt) ?_ ran)⟩
        simp only [addresses, List.mem_append, List.mem_map]
        exact .inl (.inl (.inl (.inr ⟨nb, member, rfl⟩)))
      | none =>
        simp only [last] at ran
        rw [← Except.ok.inj ran]
        exact ⟨rfl, installed⟩
  · next notSym =>
    rw [if_neg notSym, ← Except.ok.inj ran]
    exact ⟨rfl, .refl⟩

theorem installTwoHop_installs {hop : Nb2hopTuple} (member : hop ∈ state.nb2hopset)
    (ran : installTwoHop ip state routing hop = .ok routing') :
    addTwoHopEntry state routing.rtable hop = .ok routing'.rtable ∧
      Relation.ReflTransGen (Installs ip state) routing routing' := by
  unfold installTwoHop at ran
  unfold addTwoHopEntry
  split at ran
  · next qualifies =>
    rw [if_pos qualifies]
    cases found : routing.rtable.lookup hop.nbMainAddr with
    | none =>
      simp only [found] at ran
      cases ran
    | some entry =>
      simp only [found] at ran
      dsimp only
      split at ran
      · next better =>
        rw [if_pos better, (install_ok ran).1]
        refine ⟨rfl, .single (install_installs (twoHopEntry hop.nb2hopAddr entry) ?_ ran)⟩
        simp only [addresses, List.mem_append, List.mem_map]
        exact .inl (.inl (.inr ⟨hop, member, rfl⟩))
      · next worse =>
        rw [if_neg worse, ← Except.ok.inj ran]
        exact ⟨rfl, .refl⟩
  · next outside =>
    rw [if_neg outside, ← Except.ok.inj ran]
    exact ⟨rfl, .refl⟩

theorem installTopology_installs {h : Nat} {acc acc' : Routing × Bool} {tuple : TopologyTuple}
    (member : tuple ∈ state.topologyset) (ran : installTopology ip h acc tuple = .ok acc') :
    (acc'.1.rtable, acc'.2) = addTopologyEntry h (acc.1.rtable, acc.2) tuple ∧
      Relation.ReflTransGen (Installs ip state) acc.1 acc'.1 := by
  have skip (same : acc = acc') : (acc'.1.rtable, acc'.2) = (acc.1.rtable, acc.2) ∧
      Relation.ReflTransGen (Installs ip state) acc.1 acc'.1 := same ▸ ⟨rfl, .refl⟩
  unfold installTopology at ran
  unfold addTopologyEntry
  cases dest : acc.1.rtable.lookup tuple.destAddr with
  | some entry1 =>
      simp only [dest] at ran
      exact skip (Except.ok.inj ran)
  | none =>
      cases last : acc.1.rtable.lookup tuple.lastAddr with
      | none =>
          simp only [dest, last] at ran
          exact skip (Except.ok.inj ran)
      | some entry2 =>
          simp only [dest, last] at ran ⊢
          split at ran
          · next here =>
            obtain ⟨routing, installed, same⟩ := bind_ok.mp ran
            cases same
            rw [if_pos here, (install_ok installed).1]
            refine ⟨rfl, .single (install_installs
              (extendEntry tuple.destAddr (h + 1) entry2) ?_ installed)⟩
            simp only [addresses, List.mem_append, List.mem_map]
            exact .inl (.inr ⟨tuple, member, rfl⟩)
          · next elsewhere =>
            rw [if_neg elsewhere]
            exact skip (Except.ok.inj ran)

theorem installAlias_installs {acc acc' : Routing × Bool} {tuple : IfaceAssocTuple}
    (member : tuple ∈ state.ifaceassocset) (ran : installAlias ip acc tuple = .ok acc') :
    (acc'.1.rtable, acc'.2) = addAliasEntry (acc.1.rtable, acc.2) tuple ∧
      Relation.ReflTransGen (Installs ip state) acc.1 acc'.1 := by
  have skip (same : acc = acc') : (acc'.1.rtable, acc'.2) = (acc.1.rtable, acc.2) ∧
      Relation.ReflTransGen (Installs ip state) acc.1 acc'.1 := same ▸ ⟨rfl, .refl⟩
  unfold installAlias at ran
  unfold addAliasEntry
  cases main : acc.1.rtable.lookup tuple.mainAddr with
  | none =>
      simp only [main] at ran
      exact skip (Except.ok.inj ran)
  | some entry1 =>
      cases iface : acc.1.rtable.lookup tuple.ifaceAddr with
      | some entry2 =>
          simp only [main, iface] at ran
          exact skip (Except.ok.inj ran)
      | none =>
          simp only [main, iface] at ran ⊢
          obtain ⟨routing, installed, same⟩ := bind_ok.mp ran
          cases same
          rw [(install_ok installed).1]
          refine ⟨rfl, .single (install_installs
            (extendEntry tuple.ifaceAddr entry1.dist entry1) ?_ installed)⟩
          simp only [addresses, List.mem_append, List.mem_map]
          exact .inr ⟨tuple, member, rfl⟩

theorem installTwoHops_installs {hops : List Nb2hopTuple} (known : ∀ hop ∈ hops, hop ∈ state.nb2hopset)
    (ran : hops.foldlM (installTwoHop ip state) routing = .ok routing') :
    hops.foldlM (addTwoHopEntry state) routing.rtable = .ok routing'.rtable ∧
      Relation.ReflTransGen (Installs ip state) routing routing' := by
  induction hops generalizing routing with
  | nil =>
      have same : routing = routing' := by simpa [pure, Except.pure] using ran
      subst same
      exact ⟨rfl, .refl⟩
  | cons hop rest ih =>
      rw [List.foldlM_cons] at ran
      obtain ⟨middle, stepped, ran⟩ := bind_ok.mp ran
      obtain ⟨written, first⟩ := installTwoHop_installs (known hop (by simp)) stepped
      obtain ⟨final, later⟩ := ih (fun hop member => known hop (by simp [member])) ran
      refine ⟨?_, first.trans later⟩
      rw [List.foldlM_cons, written]
      exact final

theorem installLayers_installs {fuel h : Nat}
    (ran : installLayers ip state fuel h routing = .ok routing') :
    layers state fuel h routing.rtable = .ok routing'.rtable ∧
      Relation.ReflTransGen (Installs ip state) routing routing' := by
  induction fuel generalizing h routing with
  | zero => cases ran
  | succ fuel ih =>
      unfold installLayers at ran
      obtain ⟨middle, topology, ran⟩ := bind_ok.mp ran
      obtain ⟨⟨last, added⟩, assocs, ran⟩ := bind_ok.mp ran
      obtain ⟨extended, first⟩ :=
        foldlM_installs (fun acc : Routing × Bool => (acc.1.rtable, acc.2)) Prod.fst
          (fun _ _ tuple member => installTopology_installs member) topology
      obtain ⟨aliased, second⟩ :=
        foldlM_installs (fun acc : Routing × Bool => (acc.1.rtable, acc.2)) Prod.fst
          (fun _ _ tuple member => installAlias_installs member) assocs
      have layered : aliasPass state (topologyPass state h routing.rtable) = (last.rtable, added) := by
        rw [aliased, extended]
        rfl
      unfold layers
      rw [layered]
      cases added with
      | true =>
          obtain ⟨final, later⟩ := ih ran
          exact ⟨final, (first.trans second).trans later⟩
      | false =>
          rw [← Except.ok.inj ran]
          exact ⟨rfl, first.trans second⟩

/-- The table is that of `rtableComputation`, and every write to it has its route. -/
theorem computeRoutes_installs (ran : computeRoutes ip state now routing = .ok routing') :
    rtableComputation state now = .ok routing'.rtable ∧
      Relation.ReflTransGen (Installs ip state)
        { rtable := [], routes := cleanUp ip routing.routes } routing' := by
  obtain ⟨near, neighbors, ran⟩ := bind_ok.mp ran
  obtain ⟨far, twoHops, ran⟩ := bind_ok.mp ran
  obtain ⟨nearTable, first⟩ := foldlM_installs Routing.rtable id
    (fun _ _ nb member => installNeighbor_installs member) neighbors
  obtain ⟨passed, second⟩ := installTwoHops_installs (fun _ member => member) twoHops
  obtain ⟨final, third⟩ := installLayers_installs ran
  refine ⟨bind_ok.mpr ⟨far.rtable, ?_, final⟩, (first.trans second).trans third⟩
  rw [nearTable] at passed
  exact passed

/-! ## Distances -/

/-- The metric of a route is a `short int`, which holds the distances in question. -/
theorem layers_dist {fuel h : Nat} {rtable final : Rtable}
    (ran : layers state fuel h rtable = .ok final)
    (bound : ∀ addr entry, rtable.lookup addr = some entry → entry.dist ≤ h) {addr : NsAddr}
    {entry : RtEntry} (found : final.lookup addr = some entry) : entry.dist ≤ h + fuel := by
  induction fuel generalizing h rtable with
  | zero => cases ran
  | succ fuel ih =>
      have next : ∀ addr entry, (layer state h rtable).1.lookup addr = some entry →
          entry.dist ≤ h + 1 := by
        refine layer_keeps (fun table => ∀ addr entry, table.lookup addr = some entry →
          entry.dist ≤ h + 1)
          (fun addr entry found => Nat.le_succ_of_le (bound addr entry found)) ?_ ?_
        · intro table holds tuple _ _ via _ _ addr entry found
          rw [Rtable.lookup_store] at found
          split at found
          · cases found
            exact Nat.le_refl _
          · exact holds addr entry found
        · intro table holds tuple _ _ via main addr entry found
          rw [Rtable.lookup_store] at found
          split at found
          · cases found
            exact holds _ via main
          · exact holds addr entry found
      rcases layers_succ ran with rfl | ran
      · exact (next addr entry found).trans (by omega)
      · exact (ih ran next).trans (by omega)

theorem rtableComputation_dist {rtable : Rtable} (computed : rtableComputation state now = .ok rtable)
    {addr : NsAddr} {entry : RtEntry} (found : rtable.lookup addr = some entry) :
    entry.dist ≤ state.topologyset.length + state.ifaceassocset.length + 3 := by
  obtain ⟨twoHop, passed, ran⟩ := bind_ok.mp computed
  have bound : ∀ addr entry, twoHop.lookup addr = some entry → entry.dist ≤ 2 := by
    intro addr entry found
    rcases twoHopPass_cases passed found with ⟨_, _, via, _, _, _, rfl⟩ | ⟨_, based⟩
    · exact Nat.le_refl 2
    · rw [(neighborPass_found based).dist]
      exact Nat.le_succ 1
  have dist := layers_dist ran bound found
  omega

theorem shortInt_dist {dist : Nat} (short : dist < 32768) : shortInt dist = dist := by
  unfold shortInt
  omega

/-! ## Runs -/

/-- What a computation needs so that no earlier route is left: it deletes all routes of
the agent, or every destination that has one gets an entry again. Besides, other
routes to a destination are few, and distances fit into the metric. -/
def LeavesNone (ip : IpConfig) (event : RoutingEvent) (routing : Routing) : Prop :=
  match event with
  | .compute state now =>
      (ip.delOnlyRtEntriesInrtable = true → ∀ route ∈ routing.routes,
        route.sourceType = ip.sourceType → Routable state now route.destination) ∧
      (∀ dst ∈ addresses state, (routesTo dst (cleanUp ip routing.routes)).length ≤ 1) ∧
      state.topologyset.length + state.ifaceassocset.length + 3 < 32768
  | _ => True

def OwnInterfaces (ip : IpConfig) (routes : List IpRoute) : Prop :=
  ∀ route ∈ routes, route.sourceType = ip.sourceType → ∃ ie, route.interface = .wlan ie

theorem computeRoutes_synced (inserts : ip.InsertsRoutes) (aboveIp : ip.config.isInMacLayer = false)
    (few : ∀ dst ∈ addresses state, (routesTo dst (cleanUp ip routing.routes)).length ≤ 1)
    (computed : computeRoutes ip state now routing = .ok routing') :
    Synced ip (cleanUp ip routing.routes) routing' := by
  have initial : Synced ip (cleanUp ip routing.routes)
      { rtable := [], routes := cleanUp ip routing.routes } :=
    ⟨nofun, fun _ _ => .refl _, fun _ member => .inl member⟩
  have installs := (computeRoutes_installs computed).2
  clear computed
  induction installs with
  | refl => exact initial
  | tail _ step ih => exact ih.installs inserts aboveIp few step

theorem mem_cleanUp {route : IpRoute} (member : route ∈ cleanUp ip routes) : route ∈ routes := by
  unfold cleanUp cleanRoutes at member
  split at member
  · exact member
  · split at member
    · exact member
    · exact List.mem_of_mem_filter member

theorem routingStep_ownInterfaces (inserts : ip.InsertsRoutes)
    (aboveIp : ip.config.isInMacLayer = false) {event : RoutingEvent}
    (met : LeavesNone ip event routing) (own : OwnInterfaces ip routing.routes)
    (stepped : routingStep ip event routing = .ok routing') :
    OwnInterfaces ip routing'.routes := by
  cases event with
  | compute state now =>
      intro route member installed
      rcases (computeRoutes_synced inserts aboveIp met.2.1 stepped).wlan route member with old | wlan
      · exact own route (mem_cleanUp old) installed
      · exact wlan
  | deleteIpEntry destAddr =>
      cases stepped
      intro route member
      simp only [deleteRoutes, aboveIp] at member
      exact own route (List.mem_of_mem_filter member)
  | shutdown =>
      cases stepped
      exact own
  | changeInterface =>
      cases stepped
      exact fun route member => own route (List.mem_of_mem_filter member)

theorem routingReached_ownInterfaces (inserts : ip.InsertsRoutes)
    (aboveIp : ip.config.isInMacLayer = false)
    (reached : RoutingReached ip (LeavesNone ip) routing) : OwnInterfaces ip routing.routes := by
  induction reached with
  | initial routes foreign =>
      exact fun route member installed => absurd installed (foreign route member)
  | step _ met stepped ih => exact routingStep_ownInterfaces inserts aboveIp met ih stepped

theorem cleanUp_foreign (aboveIp : ip.config.isInMacLayer = false)
    (met : LeavesNone ip (.compute state now) routing) (own : OwnInterfaces ip routing.routes)
    (computed : rtableComputation state now = .ok routing'.rtable)
    (missing : routing'.rtable.lookup dst = none) :
    ∀ route ∈ routesTo dst (cleanUp ip routing.routes), route.sourceType ≠ ip.sourceType := by
  intro route member installed
  obtain ⟨member, dest⟩ := List.mem_filter.mp member
  replace dest : route.destination = dst := of_decide_eq_true dest
  cases mode : ip.delOnlyRtEntriesInrtable with
  | true =>
      have routable := met.1 mode route (mem_cleanUp member) installed
      have present := routable.lookup computed
      rw [dest, missing] at present
      cases present
  | false =>
      obtain ⟨ie, interface⟩ := own route (mem_cleanUp member) installed
      simp only [cleanUp, mode, cleanRoutes, aboveIp] at member
      have kept := (List.mem_filter.mp member).2
      rw [interface] at kept
      cases kept

end

/-- After a computation the routes of the agent are those of its table, if the
computations so far left no earlier route. -/
theorem routes_installed_exactly (ip : IpConfig) (inserts : ip.InsertsRoutes)
    (aboveIp : ip.config.isInMacLayer = false) (routing : Routing)
    (reached : RoutingReached ip (LeavesNone ip) routing) (state : State) (now : Int)
    (met : LeavesNone ip (.compute state now) routing) (routing' : Routing)
    (computed : computeRoutes ip state now routing = .ok routing') :
    rtableComputation state now = .ok routing'.rtable ∧ InstalledExactly ip routing' := by
  have own := routingReached_ownInterfaces inserts aboveIp reached
  have synced := computeRoutes_synced inserts aboveIp met.2.1 computed
  have table := (computeRoutes_installs computed).1
  refine ⟨table, fun dst => ?_⟩
  cases found : routing'.rtable.lookup dst with
  | some entry =>
      obtain ⟨route, only, isRoute⟩ := synced.entry dst entry found
      have short := shortInt_dist ((rtableComputation_dist table found).trans_lt met.2.2)
      simp [only, isRoute.gateway, isRoute.metric, isRoute.sourceType, short]
  | none =>
      have foreign := cleanUp_foreign aboveIp met own table found
      have none : (routesTo dst routing'.routes).filter
          (fun route => route.sourceType = ip.sourceType) = [] := by
        refine List.filter_eq_nil_iff.mpr fun route member => ?_
        simpa using foreign route ((synced.others dst found).mem_iff.mp member)
      simp [none]

/-! ## A neighbor that is lost -/

def ipConfig (delOnly : Bool) : IpConfig where
  config := { oneIfaceConfig with isInMacLayer := false }
  delOnlyRtEntriesInrtable := delOnly
  useIndex := false
  useManetLabelRouting := true
  addRoute routes route := routes ++ [route]

theorem ipConfig_inserts (delOnly : Bool) : (ipConfig delOnly).InsertsRoutes :=
  fun routes route => List.perm_append_singleton route routes

def oneNeighbor : State where
  linkset := [{
    id := 1
    localIfaceAddr := 1
    nbIfaceAddr := 2
    symTime := 20
    asymTime := 20
    lostTime := 0
    time := 26
    localIfaceIndex := 0 }]
  nbset := [{ nbMainAddr := 2, status := .sym, willingness := willDefault }]
  ifaceassocset := [{ id := 0, ifaceAddr := 1, mainAddr := 1, time := 100, localIfaceIndex := 0 }]

def noNeighbor : State where
  ifaceassocset := [{ id := 0, ifaceAddr := 1, mainAddr := 1, time := 100, localIfaceIndex := 0 }]

def emptyTables : Routing where
  rtable := []
  routes := []

def neighborRoute : IpRoute where
  destination := 2
  netmask := allOnesAddress
  gateway := 2
  metric := 1
  interface := .wlan { index := 0, addr := 1 }
  sourceType := .manet

def neighborTables : Routing where
  rtable := neighborPass oneNeighbor 10
  routes := [neighborRoute]

theorem neighborTables_reached (delOnly : Bool)
    (condition : RoutingEvent → Routing → Prop)
    (met : condition (.compute oneNeighbor 10) emptyTables) :
    RoutingReached (ipConfig delOnly) condition neighborTables := by
  refine RoutingReached.step (.initial [] nofun) met ?_
  cases delOnly <;> decide +kernel

theorem routes_installed_exactly_afterLoss :
    ∃ routing', computeRoutes (ipConfig false) noNeighbor 30 neighborTables = .ok routing' ∧
      InstalledExactly (ipConfig false) routing' := by
  have computed : computeRoutes (ipConfig false) noNeighbor 30 neighborTables =
      .ok emptyTables := by decide +kernel
  have first : LeavesNone (ipConfig false) (.compute oneNeighbor 10) emptyTables :=
    ⟨nofun, by decide +kernel, by decide⟩
  have second : LeavesNone (ipConfig false) (.compute noNeighbor 30) neighborTables :=
    ⟨nofun, by decide +kernel, by decide⟩
  exact ⟨emptyTables, computed, (routes_installed_exactly (ipConfig false)
    (ipConfig_inserts false) rfl neighborTables (neighborTables_reached false _ first) noNeighbor 30
    second emptyTables computed).2⟩

/-- With `DelOnlyRtEntriesInrtable_` the route to the lost neighbor stays. -/
theorem route_stale_afterLoss :
    ¬ ∀ ip : IpConfig, ip.InsertsRoutes → ip.config.isInMacLayer = false → ∀ routing,
      RoutingReached ip (fun _ _ => True) routing → ∀ state now routing',
      computeRoutes ip state now routing = .ok routing' → InstalledExactly ip routing' := by
  intro claim
  have computed : computeRoutes (ipConfig true) noNeighbor 30 neighborTables =
      .ok { rtable := [], routes := [neighborRoute] } := by decide +kernel
  have exactly' := claim (ipConfig true) (ipConfig_inserts true) rfl neighborTables
    (neighborTables_reached true _ trivial) noNeighbor 30 _ computed 2
  revert exactly'
  decide +kernel

end SyncFanet.Olsr
