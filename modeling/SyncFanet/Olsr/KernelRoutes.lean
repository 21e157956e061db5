import SyncFanet.Olsr.RouteReaders
import SyncFanet.Olsr.RtableComputation

/-!
# Host routes in the IPv4 routing table

`omnet_chg_rte`, `omnet_clean_rte` and `rtable_computation` with the routes that it
installs. The routes are kept in the order in which the IPv4 routing table numbers
them.
-/

set_option autoImplicit false

namespace SyncFanet.Olsr

/-! ## The IPv4 routing table -/

/-- The interfaces of the agent are named `wlan`, others are not. -/
inductive IpInterface where
  | wlan (iface : Iface)
  | other (id : Nat)
  deriving DecidableEq

inductive SourceType where
  | manet
  | manet2
  | other
  deriving DecidableEq

structure IpRoute where
  destination : NsAddr
  netmask : NsAddr
  gateway : NsAddr
  metric : Int
  interface : IpInterface
  sourceType : SourceType
  deriving DecidableEq

/-- `IPv4Address::ALLONES_ADDRESS`. -/
def allOnesAddress : NsAddr := 4294967295

/-- The value of a `short int`. -/
def shortInt (value : Int) : Int := (value + 32768) % 65536 - 32768

/-- Parameters of the agent and of the IPv4 routing table, which decides where a new
route is placed. -/
structure IpConfig where
  config : Config
  delOnlyRtEntriesInrtable : Bool
  useIndex : Bool
  useManetLabelRouting : Bool
  addRoute : List IpRoute → IpRoute → List IpRoute

/-- `addRoute` inserts exactly the given route. -/
def IpConfig.InsertsRoutes (ip : IpConfig) : Prop :=
  ∀ routes route, (ip.addRoute routes route).Perm (route :: routes)

def IpConfig.sourceType (ip : IpConfig) : SourceType :=
  if ip.useManetLabelRouting then .manet else .manet2

/-- `getInterfaceEntry`, for the interfaces of the agent. -/
def getInterfaceEntry (config : Config) (index : Nat) : Option Iface :=
  config.ifaces.find? fun iface => iface.index = index

/-- The interface that `rtable_computation` passes, by address or by index. -/
def IpConfig.interface (ip : IpConfig) (iface : NsAddr) (index : Nat) : Option Iface :=
  if ip.useIndex then getInterfaceEntry ip.config index
  else getInterfaceWlanByAddress ip.config iface

/-- `omnet_chg_rte` with `del_entry`. -/
def deleteRoutes (ip : IpConfig) (dst : NsAddr) (routes : List IpRoute) : List IpRoute :=
  if ip.config.isInMacLayer then routes
  else routes.filter fun route => route.destination ≠ dst

/-- `omnet_chg_rte` without `del_entry`: the first route to the destination gives way to
the new one. `addRoute` rejects a route without an interface. -/
def changeRoute (ip : IpConfig) (dst gtwy : NsAddr) (hops : Nat) (iface : NsAddr) (index : Nat)
    (routes : List IpRoute) : Except Fault (List IpRoute) :=
  if ip.config.isInMacLayer then .ok routes
  else
    match ip.interface iface index with
    | none => .error (.runtimeError "addRoute(): interface cannot be nullptr")
    | some ie =>
        let entry : IpRoute := {
          destination := dst
          netmask := allOnesAddress
          gateway := gtwy
          metric := shortInt hops
          interface := .wlan ie
          sourceType := ip.sourceType }
        match routes.find? fun route => route.destination = dst with
        | none => .ok (ip.addRoute routes entry)
        | some oldentry =>
            if oldentry = entry then .ok routes
            else .ok (ip.addRoute (routes.erase oldentry) entry)

/-- `omnet_clean_rte`. -/
def cleanRoutes (ip : IpConfig) (routes : List IpRoute) : List IpRoute :=
  if ip.config.isInMacLayer then routes
  else routes.filter fun route =>
    match route.interface with
    | .wlan _ => false
    | .other _ => true

/-! ## The computation -/

structure Routing where
  rtable : Rtable
  routes : List IpRoute
  deriving DecidableEq

/-- `add_entry`, whose result is given, and `omnet_chg_rte` for the same entry. -/
def Routing.install (routing : Routing) (ip : IpConfig) (rtable : Rtable)
    (dst gtwy : NsAddr) (hops : Nat) (iface : NsAddr) (index : Nat) : Except Fault Routing :=
  (changeRoute ip dst gtwy hops iface index routing.routes).bind fun routes =>
    .ok { rtable := rtable, routes := routes }

def installLink (ip : IpConfig) (routing : Routing) (link : LinkTuple) : Except Fault Routing :=
  routing.install ip (addLinkEntry routing.rtable link) link.nbIfaceAddr link.nbIfaceAddr 1
    link.localIfaceAddr link.localIfaceIndex

def installNeighbor (ip : IpConfig) (state : State) (now : Int) (routing : Routing)
    (nb : NbTuple) : Except Fault Routing :=
  if nb.status = .sym then
    let links := linksOf state now nb
    (links.foldlM (installLink ip) routing).bind fun routing =>
      if links.any fun link => link.nbIfaceAddr = nb.nbMainAddr then .ok routing
      else
        match links.getLast? with
        | some lt =>
            routing.install ip (addMainEntry routing.rtable nb lt) nb.nbMainAddr lt.nbIfaceAddr 1
              lt.localIfaceAddr lt.localIfaceIndex
        | none => .ok routing
  else .ok routing

def installTwoHop (ip : IpConfig) (state : State) (routing : Routing) (hop : Nb2hopTuple) :
    Except Fault Routing :=
  if inN2 state hop then
    match routing.rtable.lookup hop.nbMainAddr with
    | none => .error (.assertFailed "entry != nullptr")
    | some entry =>
        if betterAlternative state routing.rtable hop then
          routing.install ip
            (routing.rtable.addEntry hop.nb2hopAddr entry.nextAddr entry.ifaceAddr 2
              entry.localIfaceIndex Rtable.notMeasured Rtable.notMeasured)
            hop.nb2hopAddr entry.nextAddr 2 entry.ifaceAddr entry.localIfaceIndex
        else .ok routing
  else .ok routing

def installTopology (ip : IpConfig) (h : Nat) (acc : Routing × Bool) (tuple : TopologyTuple) :
    Except Fault (Routing × Bool) :=
  match acc.1.rtable.lookup tuple.destAddr, acc.1.rtable.lookup tuple.lastAddr with
  | none, some entry2 =>
      if entry2.dist = h then
        (acc.1.install ip
          (acc.1.rtable.addEntryVia tuple.destAddr entry2.nextAddr entry2.ifaceAddr (h + 1)
            entry2.localIfaceIndex entry2 Rtable.notMeasured Rtable.notMeasured)
          tuple.destAddr entry2.nextAddr (h + 1) entry2.ifaceAddr
          entry2.localIfaceIndex).bind fun routing => .ok (routing, true)
      else .ok acc
  | _, _ => .ok acc

def installAlias (ip : IpConfig) (acc : Routing × Bool) (tuple : IfaceAssocTuple) :
    Except Fault (Routing × Bool) :=
  match acc.1.rtable.lookup tuple.mainAddr, acc.1.rtable.lookup tuple.ifaceAddr with
  | some entry1, none =>
      (acc.1.install ip
        (acc.1.rtable.addEntryVia tuple.ifaceAddr entry1.nextAddr entry1.ifaceAddr entry1.dist
          entry1.localIfaceIndex entry1 Rtable.notMeasured Rtable.notMeasured)
        tuple.ifaceAddr entry1.nextAddr entry1.dist entry1.ifaceAddr
        entry1.localIfaceIndex).bind fun routing => .ok (routing, true)
  | _, _ => .ok acc

def installLayers (ip : IpConfig) (state : State) : Nat → Nat → Routing → Except Fault Routing
  | 0, _, _ => .error .diverges
  | fuel + 1, h, routing =>
      (state.topologyset.foldlM (installTopology ip h) (routing, false)).bind fun acc =>
        (state.ifaceassocset.foldlM (installAlias ip) acc).bind fun (routing, added) =>
          if added then installLayers ip state fuel (h + 1) routing else .ok routing

/-- The clean-up at the start. The loop over the entries of the old table compares its
iterator with `begin`, so that it deletes nothing. -/
def cleanUp (ip : IpConfig) (routes : List IpRoute) : List IpRoute :=
  if ip.delOnlyRtEntriesInrtable then routes else cleanRoutes ip routes

/-- `rtable_computation`. -/
def computeRoutes (ip : IpConfig) (state : State) (now : Int) (routing : Routing) :
    Except Fault Routing :=
  (state.nbset.foldlM (installNeighbor ip state now)
    { rtable := [], routes := cleanUp ip routing.routes }).bind fun routing =>
      (state.nb2hopset.foldlM (installTwoHop ip state) routing).bind fun routing =>
        installLayers ip state (state.topologyset.length + state.ifaceassocset.length + 1) 2
          routing

/-! ## Runs -/

/-- What reads or writes the two tables: a computation on the repositories that the
agent has then, the `deleteIpEntry` at the end of `mac_failed`, and the node's lifecycle
and interfaces. -/
inductive RoutingEvent where
  | compute (state : State) (now : Int)
  | deleteIpEntry (destAddr : NsAddr)
  | shutdown
  | changeInterface

def routingStep (ip : IpConfig) (event : RoutingEvent) (routing : Routing) :
    Except Fault Routing :=
  match event with
  | .compute state now => computeRoutes ip state now routing
  | .deleteIpEntry destAddr =>
      .ok { routing with routes := deleteRoutes ip destAddr routing.routes }
  | .shutdown => .ok { routing with rtable := [] }
  | .changeInterface =>
      .ok {
        rtable := []
        routes := routing.routes.filter fun route =>
          match route.interface with
          | .wlan _ => false
          | .other _ => true }

/-- The tables in the runs whose steps met the condition. No agent has installed a route
at the start. -/
inductive RoutingReached (ip : IpConfig) (condition : RoutingEvent → Routing → Prop) :
    Routing → Prop where
  | initial (routes : List IpRoute)
      (foreign : ∀ route ∈ routes, route.sourceType ≠ ip.sourceType) :
      RoutingReached ip condition { rtable := [], routes := routes }
  | step {event : RoutingEvent} {routing routing' : Routing}
      (before : RoutingReached ip condition routing) (met : condition event routing)
      (stepped : routingStep ip event routing = .ok routing') :
      RoutingReached ip condition routing'

end SyncFanet.Olsr
