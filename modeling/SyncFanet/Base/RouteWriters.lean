import Mathlib.Data.List.Perm.Basic
import SyncFanet.Base.RouteStores
import SyncFanet.Library.Fold

/-!
# The writers of the IPv4 routing table

What both `omnet_chg_rte` and `setRoute` do to the routes for a destination: one of these
routes is replaced, and all of them are deleted.
-/

set_option autoImplicit false

namespace SyncFanet.Base

open Olsr (Fault)

/-! ## Routes for a destination -/

/-- The route for a destination that a writer is asked for. -/
structure Wanted where
  destination : Nat
  netmask : Nat
  gateway : Nat
  metric : Int
  interface : InterfaceEntry

def Wanted.MatchedBy (wanted : Wanted) (route : IPv4Route) : Prop :=
  route.destination = wanted.destination ∧ route.netmask = wanted.netmask ∧
    route.gateway = wanted.gateway ∧ route.metric = wanted.metric ∧
    route.interface = some wanted.interface

def routesTo (destination : Nat) (routes : List IPv4Route) : List IPv4Route :=
  routes.filter fun route => route.destination = destination

def otherRoutes (destination : Nat) (routes : List IPv4Route) : List IPv4Route :=
  routes.filter fun route => route.destination ≠ destination

/-- The wanted route is the only one for its destination, and no other route has changed. -/
structure Added (wanted : Wanted) (before after : List IPv4Route) : Prop where
  only : ∃ route, routesTo wanted.destination after = [route] ∧ wanted.MatchedBy route
  others : (otherRoutes wanted.destination after).Perm (otherRoutes wanted.destination before)

/-- The destination has no route, and no other route has changed. -/
structure Deleted (destination : Nat) (before after : List IPv4Route) : Prop where
  none : routesTo destination after = []
  others : (otherRoutes destination after).Perm (otherRoutes destination before)

section

variable {destination : Nat} {routes : List IPv4Route}

theorem routesTo_append_otherRoutes (destination : Nat) (routes : List IPv4Route) :
    (routesTo destination routes ++ otherRoutes destination routes).Perm routes := by
  have parts := List.filter_append_perm (fun route : IPv4Route => route.destination = destination)
    routes
  have complement : otherRoutes destination routes =
      routes.filter fun route => !decide (route.destination = destination) := by
    unfold otherRoutes
    congr 1
    funext route
    exact decide_not
  rw [complement]
  exact parts

theorem routesTo_otherRoutes (destination : Nat) (routes : List IPv4Route) :
    routesTo destination (otherRoutes destination routes) = [] := by
  simp [routesTo, otherRoutes]

theorem otherRoutes_otherRoutes (destination : Nat) (routes : List IPv4Route) :
    otherRoutes destination (otherRoutes destination routes) = otherRoutes destination routes := by
  simp [otherRoutes]

theorem routesTo_perm {other : List IPv4Route} (destination : Nat) (perm : routes.Perm other) :
    (routesTo destination routes).Perm (routesTo destination other) :=
  perm.filter _

theorem otherRoutes_perm {other : List IPv4Route} (destination : Nat) (perm : routes.Perm other) :
    (otherRoutes destination routes).Perm (otherRoutes destination other) :=
  perm.filter _

theorem routesTo_cons {route : IPv4Route} (same : route.destination = destination) :
    routesTo destination (route :: routes) = route :: routesTo destination routes := by
  simp [routesTo, same]

theorem otherRoutes_cons {route : IPv4Route} (same : route.destination = destination) :
    otherRoutes destination (route :: routes) = otherRoutes destination routes := by
  simp [otherRoutes, same]

theorem deleted_otherRoutes (destination : Nat) (routes : List IPv4Route) :
    Deleted destination routes (otherRoutes destination routes) where
  none := routesTo_otherRoutes destination routes
  others := by rw [otherRoutes_otherRoutes]

theorem added_of_perm {wanted : Wanted} {before after : List IPv4Route} {route : IPv4Route}
    (matched : wanted.MatchedBy route)
    (perm : after.Perm (route :: otherRoutes wanted.destination before)) :
    Added wanted before after := by
  constructor
  · have only := routesTo_perm wanted.destination perm
    rw [routesTo_cons matched.1, routesTo_otherRoutes] at only
    exact ⟨route, List.perm_singleton.mp only, matched⟩
  · have others := otherRoutes_perm wanted.destination perm
    rwa [otherRoutes_cons matched.1, otherRoutes_otherRoutes] at others

end

/-! ## Replacing a route -/

/-- What is assumed of the routing table: it adds exactly the given route. -/
def Agent.AddsExactly (agent : Agent) : Prop :=
  ∀ routes entry, ∃ added, agent.addRoute routes entry = .ok added ∧ added.Perm (entry :: routes)

section

variable {agent : Agent} {entry : IPv4Route} {source : SourceType} {before after : List IPv4Route}

/-- The first route for the destination is gone, and the new one is there, unless it is the same
but for its source. -/
theorem replaceRoute_spec (adds : agent.AddsExactly) (entry : IPv4Route) (source : SourceType)
    (before : List IPv4Route) :
    ∃ after, agent.replaceRoute entry source before = .ok after ∧
      (routesTo entry.destination before = [] ∧ after.Perm (entry :: before) ∨
        ∃ oldentry ∈ before, oldentry.destination = entry.destination ∧
          (oldentry = { entry with sourceType := source } ∧ after = before ∨
            oldentry ≠ { entry with sourceType := source } ∧
              after.Perm (entry :: before.erase oldentry))) := by
  unfold Agent.replaceRoute
  cases found : before.find? fun route => route.destination = entry.destination with
  | none =>
      obtain ⟨after, added, perm⟩ := adds before entry
      refine ⟨after, added, .inl ⟨?_, perm⟩⟩
      rw [routesTo, List.filter_eq_nil_iff]
      exact List.find?_eq_none.mp found
  | some oldentry =>
      have member := List.mem_of_find?_eq_some found
      have same : oldentry.destination = entry.destination := by simpa using List.find?_some found
      dsimp only
      split
      · next unchanged =>
        exact ⟨before, rfl, .inr ⟨oldentry, member, same, .inl ⟨unchanged, rfl⟩⟩⟩
      · next changed =>
        obtain ⟨after, added, perm⟩ := adds (before.erase oldentry) entry
        exact ⟨after, added, .inr ⟨oldentry, member, same, .inr ⟨changed, perm⟩⟩⟩

/-- With at most one route for the destination, the table is then one route before the
others. -/
theorem replaceRoute_few (adds : agent.AddsExactly) (entry : IPv4Route) (source : SourceType)
    (few : (routesTo entry.destination before).length ≤ 1) :
    ∃ after route, agent.replaceRoute entry source before = .ok after ∧
      after.Perm (route :: otherRoutes entry.destination before) ∧
      (route = { entry with sourceType := source } ∧ route ∈ before ∨
        route = entry ∧ { entry with sourceType := source } ∉ before) := by
  have parts := routesTo_append_otherRoutes entry.destination before
  obtain ⟨after, ran, ⟨none, perm⟩ | ⟨oldentry, member, same, cases⟩⟩ :=
    replaceRoute_spec adds entry source before
  · rw [none, List.nil_append] at parts
    refine ⟨after, entry, ran, perm.trans (parts.symm.cons entry), .inr ⟨rfl, ?_⟩⟩
    intro stored
    have listed : { entry with sourceType := source } ∈ routesTo entry.destination before :=
      List.mem_filter.mpr ⟨stored, by simp⟩
    rw [none] at listed
    cases listed
  · have listed : oldentry ∈ routesTo entry.destination before :=
      List.mem_filter.mpr ⟨member, by simp [same]⟩
    have only : routesTo entry.destination before = [oldentry] := by
      obtain ⟨route, one⟩ := List.length_eq_one_iff.mp
        (Nat.le_antisymm few (List.length_pos_of_mem listed))
      rw [one] at listed ⊢
      rw [List.mem_singleton.mp listed]
    rw [only, List.singleton_append] at parts
    rcases cases with ⟨unchanged, rfl⟩ | ⟨changed, perm⟩
    · exact ⟨after, oldentry, ran, parts.symm, .inl ⟨unchanged, member⟩⟩
    · have erased := (parts.symm.erase oldentry).trans (by rw [List.erase_cons_head])
      refine ⟨after, entry, ran, perm.trans (erased.cons entry), .inr ⟨rfl, ?_⟩⟩
      intro stored
      have among : { entry with sourceType := source } ∈ routesTo entry.destination before :=
        List.mem_filter.mpr ⟨stored, by simp⟩
      rw [only] at among
      exact changed (List.mem_singleton.mp among).symm

theorem length_routesTo_replaceRoute (adds : agent.AddsExactly)
    (ran : agent.replaceRoute entry source before = .ok after) :
    (routesTo entry.destination before).length ≤ (routesTo entry.destination after).length := by
  obtain ⟨other, ranOther, cases⟩ := replaceRoute_spec adds entry source before
  cases ran.symm.trans ranOther
  rcases cases with ⟨none, -⟩ | ⟨oldentry, member, same, ⟨-, rfl⟩ | ⟨-, perm⟩⟩
  · rw [none]
    exact Nat.zero_le _
  · exact Nat.le_refl _
  · have erased := routesTo_perm entry.destination (List.perm_cons_erase member)
    rw [routesTo_cons same] at erased
    have added := routesTo_perm entry.destination perm
    rw [routesTo_cons rfl] at added
    rw [erased.length_eq, added.length_eq, List.length_cons, List.length_cons]

end

/-! ## The three writers -/

def Wanted.route (wanted : Wanted) (source : SourceType) : IPv4Route where
  destination := wanted.destination
  netmask := wanted.netmask
  gateway := wanted.gateway
  metric := wanted.metric
  interface := some wanted.interface
  sourceType := source

/-- The arguments ask for a route, of an agent that routes above IP: `iface` and `index` are the
address and the index of its interface. -/
structure Asks (agent : Agent) (dst gtwy netm iface : L3Address) (index : Int)
    (wanted : Wanted) : Prop where
  registered : agent.isRegistered = true
  ipLayer : agent.macLayer = false
  destination : dst.toIPv4 = .ok wanted.destination
  gateway : gtwy.toIPv4 = .ok wanted.gateway
  netmask : ∃ mask, netm.toIPv4 = .ok mask ∧
    wanted.netmask = if netm.isUnspecified then allOnesAddress else mask
  byAddress : agent.getInterfaceWlanByAddress iface = .ok (some wanted.interface)
  byIndex : agent.getInterfaceEntry index = .ok wanted.interface

/-- What the writers have to do: to add the route, to delete the routes for its destination, and
to leave the same routes as the others. For `setRoute` an unspecified next hop stands for a
deletion. -/
structure MeetSpecification (agent : Agent) (stores : Stores) (dst gtwy netm iface : L3Address)
    (index : Int) (wanted : Wanted) : Prop where
  add : ∃ byAddress byIndex,
    omnetChgRte agent stores dst gtwy netm wanted.metric false iface = .ok byAddress ∧
    omnetChgRteIndex agent stores dst gtwy netm wanted.metric false index = .ok byIndex ∧
    Added wanted stores.inetRt byAddress.inetRt ∧ Added wanted stores.inetRt byIndex.inetRt ∧
    byIndex.inetRt.Perm byAddress.inetRt
  set : gtwy.isUnspecified = false → ∃ byAddress set,
    omnetChgRte agent stores dst gtwy netm wanted.metric false iface = .ok byAddress ∧
    setRoute agent stores dst gtwy index wanted.metric netm = .ok (true, set) ∧
    Added wanted stores.inetRt set.inetRt ∧ set.inetRt.Perm byAddress.inetRt
  delete : ∀ unspecified : L3Address, unspecified.isUnspecified → ∃ byAddress byIndex set,
    omnetChgRte agent stores dst gtwy netm wanted.metric true iface = .ok byAddress ∧
    omnetChgRteIndex agent stores dst gtwy netm wanted.metric true index = .ok byIndex ∧
    setRoute agent stores dst unspecified index wanted.metric netm = .ok (true, set) ∧
    Deleted wanted.destination stores.inetRt byAddress.inetRt ∧
    byIndex.inetRt = byAddress.inetRt ∧ set.inetRt = byAddress.inetRt

section

variable {agent : Agent} {stores : Stores} {dst gtwy netm iface : L3Address} {index : Int}
  {wanted : Wanted}

theorem Wanted.matchedBy_route (wanted : Wanted) (source : SourceType) :
    wanted.MatchedBy (wanted.route source) := ⟨rfl, rfl, rfl, rfl, rfl⟩

def Stores.replaced (stores : Stores) (agent : Agent) (dst gtwy : L3Address) (entry : IPv4Route)
    (source : SourceType) : Except Fault Stores :=
  (agent.replaceRoute entry source stores.inetRt).bind fun inetRt =>
    .ok { stores.record agent dst gtwy false with inetRt := inetRt }

theorem Asks.change_add (asks : Asks agent dst gtwy netm iface index wanted)
    (source : SourceType) :
    stores.change agent dst gtwy netm wanted.metric false (.ok (some wanted.interface)) source =
      stores.replaced agent dst gtwy (wanted.route agent.sourceType) source := by
  obtain ⟨mask, converted, chosen⟩ := asks.netmask
  simp only [Stores.change, Agent.changeInetRt, asks.ipLayer, asks.destination, asks.gateway,
    converted, Except.bind, Bool.false_eq_true, if_false, Stores.replaced, Wanted.route, chosen]
  rfl

theorem Asks.change_delete (asks : Asks agent dst gtwy netm iface index wanted)
    (gtwy : L3Address) (ie : Except Fault (Option InterfaceEntry)) (source : SourceType) :
    stores.change agent dst gtwy netm wanted.metric true ie source =
      .ok { stores.record agent dst gtwy true with
        inetRt := otherRoutes wanted.destination stores.inetRt } := by
  simp only [Stores.change, Agent.changeInetRt, asks.ipLayer, asks.destination, Except.bind,
    Bool.false_eq_true, if_false, if_true]
  rfl

theorem Asks.omnetChgRte_add (asks : Asks agent dst gtwy netm iface index wanted) :
    omnetChgRte agent stores dst gtwy netm wanted.metric false iface =
      stores.replaced agent dst gtwy (wanted.route agent.sourceType) agent.sourceType := by
  rw [omnetChgRte, if_pos asks.registered, asks.byAddress, asks.change_add]

theorem Asks.omnetChgRteIndex_add (asks : Asks agent dst gtwy netm iface index wanted) :
    omnetChgRteIndex agent stores dst gtwy netm wanted.metric false index =
      stores.replaced agent dst gtwy (wanted.route agent.sourceType) agent.sourceType := by
  rw [omnetChgRteIndex, if_pos asks.registered, asks.byIndex]
  exact asks.change_add agent.sourceType

theorem Asks.index_inside (asks : Asks agent dst gtwy netm iface index wanted) :
    ¬((agent.interfaces.length : Int) ≤ index) := by
  have found := asks.byIndex
  unfold Agent.getInterfaceEntry at found
  dsimp only at found
  split at found
  · cases found
  · next nonneg =>
    intro beyond
    have missing : agent.interfaces[index.toNat]? = none :=
      List.getElem?_eq_none (by omega)
    rw [missing] at found
    cases found

theorem Asks.setRoute_eq (asks : Asks agent dst gtwy netm iface index wanted)
    (next : L3Address) :
    setRoute agent stores dst next index wanted.metric netm =
      (stores.change agent dst next netm wanted.metric next.isUnspecified
        (.ok (some wanted.interface)) .manual).bind fun stores => .ok (true, stores) := by
  simp only [setRoute, asks.registered, asks.destination, asks.index_inside, asks.byIndex,
    Except.bind, and_false, if_true, if_false]
  rfl

theorem Asks.setRoute_add (asks : Asks agent dst gtwy netm iface index wanted)
    (specified : gtwy.isUnspecified = false) :
    setRoute agent stores dst gtwy index wanted.metric netm =
      (stores.replaced agent dst gtwy (wanted.route agent.sourceType) .manual).bind fun stores =>
        .ok (true, stores) := by
  rw [asks.setRoute_eq, specified, asks.change_add]

theorem replaced_few (adds : agent.AddsExactly)
    (few : (routesTo wanted.destination stores.inetRt).length ≤ 1) (dst gtwy : L3Address)
    (source : SourceType) :
    ∃ after route,
      stores.replaced agent dst gtwy (wanted.route agent.sourceType) source = .ok after ∧
      after.inetRt.Perm (route :: otherRoutes wanted.destination stores.inetRt) ∧
      route = wanted.route
        (if wanted.route source ∈ stores.inetRt then source else agent.sourceType) := by
  obtain ⟨after, route, ran, perm, cases⟩ :=
    replaceRoute_few adds (wanted.route agent.sourceType) source few
  refine ⟨_, route, by rw [Stores.replaced, ran]; rfl, perm, ?_⟩
  rcases cases with ⟨same, stored⟩ | ⟨same, missing⟩
  · rw [same] at stored
    have known : wanted.route source ∈ stores.inetRt := stored
    rw [if_pos known]
    exact same
  · have unknown : wanted.route source ∉ stores.inetRt := missing
    rw [if_neg unknown]
    exact same

theorem replaced_added (adds : agent.AddsExactly)
    (few : (routesTo wanted.destination stores.inetRt).length ≤ 1) (dst gtwy : L3Address) :
    ∃ after,
      stores.replaced agent dst gtwy (wanted.route agent.sourceType) agent.sourceType =
        .ok after ∧
      after.inetRt.Perm (wanted.route agent.sourceType ::
        otherRoutes wanted.destination stores.inetRt) ∧
      Added wanted stores.inetRt after.inetRt := by
  obtain ⟨after, route, ran, perm, same⟩ :=
    replaced_few adds few dst gtwy agent.sourceType
  rw [ite_self] at same
  rw [same] at perm
  exact ⟨after, ran, perm, added_of_perm (wanted.matchedBy_route _) perm⟩

theorem agent_sourceType_ne_manual (agent : Agent) : agent.sourceType ≠ .manual := by
  unfold Agent.sourceType
  split <;> simp

end

/-! ## A host with one interface -/

private def wlan0 : InterfaceEntry where
  name := "wlan0"
  macAddress := 1
  ipAddress := 1

private def hostAgent : Agent where
  isRegistered := true
  macLayer := false
  address := { type := .ipv4, value := 1 }
  mod := 0
  interfaces := [wlan0]
  interfaceVector := [wlan0]
  useManetLabelRouting := true
  addRoute := fun routes route => .ok (route :: routes)

private def ip (value : Nat) : L3Address where
  type := .ipv4
  value := value

/-- The route to 9 with the next hop 2. -/
private def toNine : Wanted where
  destination := 9
  netmask := allOnesAddress
  gateway := 2
  metric := 1
  interface := wlan0

private def storesWith (inetRt : List IPv4Route) : Stores where
  createInternalStore := false
  routesVector := none
  globalRouteMap := none
  inetRt := inetRt

private theorem asks_toNine : Asks hostAgent (ip 9) (ip 2) .unspecified .unspecified 0 toNine where
  registered := rfl
  ipLayer := rfl
  destination := rfl
  gateway := rfl
  netmask := ⟨0, rfl, rfl⟩
  byAddress := rfl
  byIndex := rfl

/-- Two routes to 9 over the nodes 3 and 4, as two protocols may have left them. -/
private def twoRoutes : List IPv4Route :=
  [{ toNine.route .other with gateway := 3 }, { toNine.route .other with gateway := 4 }]

/-- A route to 9 over the node 3 among routes to other nodes. -/
private def fewRoutes : List IPv4Route :=
  [{ toNine.route .other with destination := 7 }, { toNine.route .manual with gateway := 3 },
    { toNine.route .manual with destination := 8 }]

end SyncFanet.Base
