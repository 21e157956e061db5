import SyncFanet.Base.GlobalRoutes

/-!
# Route stores of a routing agent

`omnet_chg_rte`, `setRoute` and `omnet_clean_rte` record a route in the agent's internal
store, in its table of the inspector and in the IPv4 routing table.
-/

set_option autoImplicit false

namespace SyncFanet.Base

open Olsr (Fault)

/-! ## The IPv4 routing table -/

structure InterfaceEntry where
  name : String
  macAddress : Nat
  ipAddress : Nat
  deriving DecidableEq

inductive SourceType where
  | manual
  | manet
  | manet2
  | other
  deriving DecidableEq

structure IPv4Route where
  destination : Nat
  netmask : Nat
  gateway : Nat
  metric : Int
  interface : Option InterfaceEntry
  sourceType : SourceType
  deriving DecidableEq

/-- `IPv4Address::ALLONES_ADDRESS`. -/
def allOnesAddress : Nat := 4294967295

/-- What a registered agent does not change. `interfaces` are those of the host and
`interfaceVector` those of the agent. `addRoute` belongs to the routing table, which
decides where a route is placed. -/
structure Agent where
  isRegistered : Bool
  macLayer : Bool
  address : L3Address
  mod : ModuleId
  interfaces : List InterfaceEntry
  interfaceVector : List InterfaceEntry
  useManetLabelRouting : Bool
  addRoute : List IPv4Route → IPv4Route → Except Fault (List IPv4Route)

namespace Agent

def sourceType (agent : Agent) : SourceType :=
  if agent.useManetLabelRouting then .manet else .manet2

/-- `getInterfaceEntry`. -/
def getInterfaceEntry (agent : Agent) (index : Int) : Except Fault InterfaceEntry :=
  let missing : Fault := .runtimeError "getInterface(): interface index out of range"
  if index < 0 then .error missing
  else
    match agent.interfaces[index.toNat]? with
    | none => .error missing
    | some entry => .ok entry

/-- `getInterfaceWlanByAddress`. -/
def getInterfaceWlanByAddress (agent : Agent) (add : L3Address) :
    Except Fault (Option InterfaceEntry) :=
  if add.isUnspecified then .ok agent.interfaceVector.head?
  else if add.type = .mac then
    .ok (agent.interfaceVector.find? fun entry => entry.macAddress = add.value)
  else
    add.toIPv4.bind fun ip => .ok (agent.interfaceVector.find? fun entry => entry.ipAddress = ip)

/-- A route takes the place of the first one with its destination, unless that one is
the same already; `sourceType` is what the comparison takes for the same source. -/
def replaceRoute (agent : Agent) (entry : IPv4Route) (sourceType : SourceType)
    (inetRt : List IPv4Route) : Except Fault (List IPv4Route) :=
  match inetRt.find? fun route => route.destination = entry.destination with
  | none => agent.addRoute inetRt entry
  | some oldentry =>
      if oldentry = { entry with sourceType := sourceType } then .ok inetRt
      else agent.addRoute (inetRt.erase oldentry) entry

/-- The part of the route changing functions that works on the IPv4 routing table. -/
def changeInetRt (agent : Agent) (dst gtwy netm : L3Address) (hops : Int) (delEntry : Bool)
    (ie : Except Fault (Option InterfaceEntry)) (sourceType : SourceType)
    (inetRt : List IPv4Route) : Except Fault (List IPv4Route) :=
  dst.toIPv4.bind fun desAddress =>
    if delEntry then .ok (inetRt.filter fun route => route.destination ≠ desAddress)
    else
      netm.toIPv4.bind fun netmask =>
        gtwy.toIPv4.bind fun gateway =>
          ie.bind fun interface =>
            let entry : IPv4Route := {
              destination := desAddress
              netmask := if netm.isUnspecified then allOnesAddress else netmask
              gateway := gateway
              metric := hops
              interface := interface
              sourceType := agent.sourceType }
            agent.replaceRoute entry sourceType inetRt

end Agent

/-! ## The stores -/

structure Stores where
  createInternalStore : Bool
  routesVector : Option RouteMap
  globalRouteMap : Option InspectorRouteMap
  inetRt : List IPv4Route

/-- The find, erase and insert branches of `setRouteInternalStorege`. -/
def setInternalEntry (dest next : L3Address) (erase : Bool) (routesVector : RouteMap) : RouteMap :=
  match routesVector.lookup dest with
  | some _ => if erase then routesVector.erase dest else routesVector.insert dest next
  | none => routesVector.insert dest next

/-- `setRouteInternalStorege`. -/
def setRouteInternalStorege (createInternalStore : Bool) (dest next : L3Address) (erase : Bool)
    (routesVector : Option RouteMap) : Option RouteMap :=
  if createInternalStore then routesVector.map (setInternalEntry dest next erase) else none

def Stores.record (stores : Stores) (agent : Agent) (dst gtwy : L3Address) (delEntry : Bool) :
    Stores :=
  { stores with
    routesVector :=
      setRouteInternalStorege stores.createInternalStore dst gtwy delEntry stores.routesVector
    globalRouteMap :=
      (setInspectorRoute stores.globalRouteMap agent.mod agent.address dst gtwy delEntry).2 }

def notRegistered : Fault := .runtimeError "Manet routing protocol is not register"

/-- Write the stores, then the IPv4 routing table unless the agent routes in the MAC
layer. -/
def Stores.change (stores : Stores) (agent : Agent) (dst gtwy netm : L3Address) (hops : Int)
    (delEntry : Bool) (ie : Except Fault (Option InterfaceEntry)) (sourceType : SourceType) :
    Except Fault Stores :=
  let stores := stores.record agent dst gtwy delEntry
  if agent.macLayer then .ok stores
  else
    (agent.changeInetRt dst gtwy netm hops delEntry ie sourceType stores.inetRt).bind fun inetRt =>
      .ok { stores with inetRt := inetRt }

/-- `omnet_chg_rte` with the address of an interface. -/
def omnetChgRte (agent : Agent) (stores : Stores) (dst gtwy netm : L3Address) (hops : Int)
    (delEntry : Bool) (iface : L3Address) : Except Fault Stores :=
  if agent.isRegistered then
    stores.change agent dst gtwy netm hops delEntry (agent.getInterfaceWlanByAddress iface)
      agent.sourceType
  else .error notRegistered

/-- `omnet_chg_rte` with the index of an interface. -/
def omnetChgRteIndex (agent : Agent) (stores : Stores) (dst gtwy netm : L3Address) (hops : Int)
    (delEntry : Bool) (index : Int) : Except Fault Stores :=
  if agent.isRegistered then
    stores.change agent dst gtwy netm hops delEntry ((agent.getInterfaceEntry index).map some)
      agent.sourceType
  else .error notRegistered

/-- `setRoute` with the index of an interface. The index is checked after the stores are
written, and the source of an unchanged route is expected to be `MANUAL`. -/
def setRoute (agent : Agent) (stores : Stores) (destination nextHop : L3Address)
    (ifaceIndex hops : Int) (mask : L3Address) : Except Fault (Bool × Stores) :=
  if agent.isRegistered then
    destination.toIPv4.bind fun _ =>
      let delEntry := nextHop.isUnspecified
      if agent.macLayer = false ∧ (agent.interfaces.length : Int) ≤ ifaceIndex then
        .ok (false, stores.record agent destination nextHop delEntry)
      else
        (stores.change agent destination nextHop mask hops delEntry
          ((agent.getInterfaceEntry ifaceIndex).map some) .manual).bind fun stores =>
            .ok (true, stores)
  else .error notRegistered

/-- `setRoute` with the name of an interface. -/
def setRouteByName (agent : Agent) (stores : Stores) (destination nextHop : L3Address)
    (ifaceName : String) (hops : Int) (mask : L3Address) : Except Fault (Bool × Stores) :=
  if agent.isRegistered then
    match agent.interfaces.findIdx? fun entry => entry.name = ifaceName with
    | none => .ok (false, stores)
    | some index => setRoute agent stores destination nextHop index hops mask
  else .error notRegistered

/-- `strstr(name, "wlan")`. -/
def isWlan (entry : InterfaceEntry) : Bool :=
  entry.name.toList.tails.any fun rest => "wlan".toList.isPrefixOf rest

/-- `omnet_clean_rte`. -/
def omnetCleanRte (agent : Agent) (stores : Stores) : Except Fault Stores :=
  if agent.isRegistered then
    if agent.macLayer then .ok stores
    else
      .ok { stores with
        inetRt := stores.inetRt.filter fun route => !(route.interface.any isWlan) }
  else .error notRegistered

end SyncFanet.Base
