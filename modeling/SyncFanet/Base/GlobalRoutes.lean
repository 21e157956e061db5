import Mathlib.Data.Finmap
import SyncFanet.Olsr.Rtable

/-!
# Global route maps

The tables that routing agents publish: one map of `ManetRoutingBase`, shared by all
agents, and one of `GlobalWirelessLinkInspector`. Both are searched for a whole route by
the same walk from node to node. A `std::map` is a finite map.
-/

set_option autoImplicit false

namespace SyncFanet.Base

open Olsr (Fault)

/-! ## Addresses -/

inductive AddressType where
  | none
  | ipv4
  | ipv6
  | mac
  | moduleId
  | modulePath
  deriving DecidableEq

structure L3Address where
  type : AddressType
  value : Nat
  deriving DecidableEq

namespace L3Address

/-- `L3Address()`. -/
def unspecified : L3Address := { type := .none, value := 0 }

def isUnspecified (address : L3Address) : Bool :=
  match address.type with
  | .none => true
  | _ => address.value = 0

def get (address : L3Address) (type : AddressType) : Except Fault Nat :=
  if address.type = type then .ok address.value
  else .error (.runtimeError "Address is not of the given type")

def toIPv4 (address : L3Address) : Except Fault Nat :=
  if address.type = .none then .ok 0 else address.get .ipv4

end L3Address

/-! ## The maps -/

/-- Next hops by destination. -/
abbrev RouteMap := Finmap fun _ : L3Address => L3Address

/-- The table of one routing protocol of a node. -/
structure ProtocolRoutingData where
  routesVector : RouteMap
  isProactive : Bool

abbrev ProtocolsRoutes := List ProtocolRoutingData

abbrev ModuleId := Nat

/-- In the inspector a table also has its owner. -/
structure OwnedRoutingData extends ProtocolRoutingData where
  mod : ModuleId

/-- `ManetRoutingBase::globalRouteMap`. -/
abbrev GlobalRouteMap := Finmap fun _ : L3Address => ProtocolsRoutes

/-- `GlobalWirelessLinkInspector::globalRouteMap`. -/
abbrev InspectorRouteMap := Finmap fun _ : L3Address => List OwnedRoutingData

/-- The protocols of a node as the inspector's search sees them. -/
def InspectorRouteMap.protocols (routes : InspectorRouteMap) (node : L3Address) :
    Option ProtocolsRoutes :=
  (routes.lookup node).map fun owned => owned.map OwnedRoutingData.toProtocolRoutingData

/-! ## Searching a route -/

/-- The next hop at one node. With two protocols the proactive one is searched first. -/
def searchNextHop (protocols : ProtocolsRoutes) (dest : L3Address) :
    Except Fault (Option L3Address) :=
  match protocols with
  | [] => .ok none
  | [only] => .ok (only.routesVector.lookup dest)
  | [first, second] =>
      let rt := if first.isProactive then first.routesVector else second.routesVector
      match rt.lookup dest with
      | some hop => .ok (some hop)
      | none =>
          let rt := if first.isProactive then second.routesVector else first.routesVector
          .ok (rt.lookup dest)
  | _ => .error (.runtimeError "Number of routing protocols bigger that 2")

/-- The `while (1)` loop of both searches, with the nodes visited so far. -/
def walkRoute (protocolsOf : L3Address → Option ProtocolsRoutes) (dest : L3Address) :
    Nat → L3Address → List L3Address → Except Fault (Bool × List L3Address)
  | 0, _, _ => .error .diverges
  | fuel + 1, next, route =>
      match protocolsOf next with
      | none => .ok (false, route)
      | some protocols =>
          (searchNextHop protocols dest).bind fun found =>
            match found with
            | none => .ok (false, route)
            | some hop =>
                if hop = dest then .ok (true, route ++ [dest])
                else walkRoute protocolsOf dest fuel hop (route ++ [hop])

/-- `GlobalWirelessLinkInspector::getRoute`, with the contents of `route` at the call. -/
def getRoute (globalRouteMap : Option InspectorRouteMap) (fuel : Nat) (src dest : L3Address)
    (route : List L3Address) : Except Fault (Bool × List L3Address) :=
  match globalRouteMap with
  | none => .ok (false, route)
  | some routes =>
      if src = dest then .ok (true, [src])
      else walkRoute routes.protocols dest fuel src [src]

/-- `ManetRoutingBase::getRouteFromGlobal`. -/
def getRouteFromGlobal (createInternalStore : Bool) (globalRouteMap : Option GlobalRouteMap)
    (fuel : Nat) (src dest : L3Address) (route : List L3Address) :
    Except Fault (Bool × List L3Address) :=
  if createInternalStore then
    match globalRouteMap with
    | none => .ok (false, route)
    | some routes => walkRoute (fun node => routes.lookup node) dest fuel src [src]
  else .ok (false, route)

/-! ## Writing the inspector's tables -/

/-- The table that the inspector keeps for a module: the first one with that owner. -/
def InspectorRouteMap.table (routes : InspectorRouteMap) (orgA : L3Address) (mod : ModuleId) :
    Option RouteMap :=
  (routes.lookup orgA).bind fun owned =>
    (owned.find? fun data => data.mod = mod).map fun data => data.routesVector

/-- The find, erase and insert branches of `GlobalWirelessLinkInspector::setRoute`. -/
def setInspectorEntry (dest gw : L3Address) (erase : Bool) (table : RouteMap) : RouteMap :=
  match table.lookup dest with
  | some _ => if erase then table.erase dest else table.insert dest gw
  | none => if erase then table else table.insert dest gw

/-- `GlobalWirelessLinkInspector::setRoute`. -/
def setInspectorRoute (globalRouteMap : Option InspectorRouteMap) (mod : ModuleId)
    (orgA dest gw : L3Address) (erase : Bool) : Bool × Option InspectorRouteMap :=
  match globalRouteMap with
  | none => (false, none)
  | some routes =>
      match routes.lookup orgA with
      | none => (false, some routes)
      | some owned =>
          match owned.find? fun data => data.mod = mod with
          | none => (false, some routes)
          | some _ =>
              let written := updateFirst (fun data => data.mod = mod)
                (fun data =>
                  { data with routesVector := setInspectorEntry dest gw erase data.routesVector })
                owned
              (true, some (routes.insert orgA written))

/-- `GlobalWirelessLinkInspector::initRoutingTables`. -/
def initRoutingTables (globalRouteMap : Option InspectorRouteMap) (mod : ModuleId)
    (orgA : L3Address) (isProact : Bool) : Option InspectorRouteMap :=
  globalRouteMap.map fun routes =>
    let data : OwnedRoutingData := { routesVector := ∅, isProactive := isProact, mod := mod }
    match routes.lookup orgA with
    | none => routes.insert orgA [data]
    | some owned => routes.insert orgA (owned ++ [data])

end SyncFanet.Base
