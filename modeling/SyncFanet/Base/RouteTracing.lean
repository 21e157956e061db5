import SyncFanet.Base.GlobalRoutes
import SyncFanet.Library.Successor

/-!
# Tracing a route through the global route maps

The walk of `getRoute` and `getRouteFromGlobal` ends exactly if the stored next hops do
not lead back to a node that it has visited. A route that it reports consists of stored
next hops.
-/

set_option autoImplicit false

namespace SyncFanet.Base

open Olsr (Fault)

variable {protocolsOf : L3Address → Option ProtocolsRoutes} {src dest node hop : L3Address}
  {protocols : ProtocolsRoutes} {fuel : Nat} {route : List L3Address}

variable {found : List L3Address} {result : Bool × List L3Address}

/-! ## One node -/

/-- A table of the node stores the hop, and a reactive table decides only if no proactive
one has the destination. -/
structure StoredHop (protocols : ProtocolsRoutes) (dest hop : L3Address) : Prop where
  stored : ∃ data ∈ protocols, data.routesVector.lookup dest = some hop ∧
    (data.isProactive = false → ∀ other ∈ protocols, other.isProactive = true →
      other.routesVector.lookup dest = none)

def FewProtocols (protocolsOf : L3Address → Option ProtocolsRoutes) (node : L3Address) : Prop :=
  ∀ protocols, protocolsOf node = some protocols → protocols.length ≤ 2

/-- The node that the walk visits after this one, if it goes on. -/
def continuesTo (protocolsOf : L3Address → Option ProtocolsRoutes) (dest node : L3Address) :
    Option L3Address :=
  match protocolsOf node with
  | none => none
  | some protocols =>
      match searchNextHop protocols dest with
      | .ok (some hop) => if hop = dest then none else some hop
      | _ => none

theorem searchNextHop_stored (found : searchNextHop protocols dest = .ok (some hop)) :
    StoredHop protocols dest hop := by
  match protocols with
  | [] => cases found
  | [only] =>
      refine ⟨only, List.mem_singleton_self only, Except.ok.inj found, ?_⟩
      intro reactive other member proactive
      rw [List.mem_singleton.mp member, reactive] at proactive
      cases proactive
  | [first, second] =>
      simp only [searchNextHop] at found
      cases kind : first.isProactive with
      | true =>
          simp only [kind, if_true] at found
          cases searched : first.routesVector.lookup dest with
          | some stored =>
              rw [searched] at found
              cases found
              exact ⟨first, List.mem_cons_self, searched, by simp [kind]⟩
          | none =>
              rw [searched] at found
              refine ⟨second, by simp, Except.ok.inj found, ?_⟩
              intro reactive other member proactive
              simp only [List.mem_cons, List.not_mem_nil, or_false] at member
              cases member with
              | inl here => exact here ▸ searched
              | inr here => simp [here, reactive] at proactive
      | false =>
          simp only [kind, Bool.false_eq_true, if_false] at found
          cases searched : second.routesVector.lookup dest with
          | some stored =>
              rw [searched] at found
              cases found
              refine ⟨second, by simp, searched, ?_⟩
              intro reactive other member proactive
              simp only [List.mem_cons, List.not_mem_nil, or_false] at member
              cases member with
              | inl here => simp [here, kind] at proactive
              | inr here => simp [here, reactive] at proactive
          | none =>
              rw [searched] at found
              refine ⟨first, List.mem_cons_self, Except.ok.inj found, ?_⟩
              intro _ other member proactive
              simp only [List.mem_cons, List.not_mem_nil, or_false] at member
              cases member with
              | inl here => simp [here, kind] at proactive
              | inr here => exact here ▸ searched
  | _ :: _ :: _ :: _ => cases found

theorem searchNextHop_ok (few : protocols.length ≤ 2) (dest : L3Address) :
    ∃ found, searchNextHop protocols dest = .ok found := by
  match protocols with
  | [] => exact ⟨_, rfl⟩
  | [only] => exact ⟨_, rfl⟩
  | [first, second] =>
      simp only [searchNextHop]
      split
      · exact ⟨_, rfl⟩
      · exact ⟨_, rfl⟩
  | _ :: _ :: _ :: rest => simp at few

theorem length_of_searchNextHop {found : Option L3Address}
    (ran : searchNextHop protocols dest = .ok found) : protocols.length ≤ 2 := by
  match protocols with
  | [] => simp
  | [only] => simp
  | [first, second] => simp
  | _ :: _ :: _ :: _ => cases ran

theorem storedHop_of_continuesTo (step : continuesTo protocolsOf dest node = some hop) :
    ∃ protocols, protocolsOf node = some protocols ∧
      searchNextHop protocols dest = .ok (some hop) ∧ hop ≠ dest := by
  unfold continuesTo at step
  split at step
  · cases step
  · next protocols known =>
    split at step
    · next stored searched =>
      split at step
      · cases step
      · next other =>
        cases step
        exact ⟨protocols, known, searched, other⟩
    · cases step

/-! ## One round -/

theorem walkRoute_of_continuesTo (step : continuesTo protocolsOf dest node = some hop)
    (fuel : Nat) (route : List L3Address) :
    walkRoute protocolsOf dest (fuel + 1) node route =
      walkRoute protocolsOf dest fuel hop (route ++ [hop]) := by
  obtain ⟨protocols, known, searched, other⟩ := storedHop_of_continuesTo step
  simp only [walkRoute, known, searched, Except.bind, if_neg other]

theorem walkRoute_of_last (last : continuesTo protocolsOf dest node = none)
    (few : FewProtocols protocolsOf node) (fuel : Nat) (route : List L3Address) :
    walkRoute protocolsOf dest (fuel + 1) node route = .ok (false, route) ∨
      walkRoute protocolsOf dest (fuel + 1) node route = .ok (true, route ++ [dest]) ∧
        ∃ protocols, protocolsOf node = some protocols ∧ StoredHop protocols dest dest := by
  unfold continuesTo at last
  cases known : protocolsOf node with
  | none =>
      left
      simp only [walkRoute, known]
  | some protocols =>
      obtain ⟨found, searched⟩ := searchNextHop_ok (few protocols known) dest
      simp only [known, searched] at last
      cases found with
      | none =>
          left
          simp only [walkRoute, known, searched, Except.bind]
      | some hop =>
          by_cases arrived : hop = dest
          · right
            subst arrived
            exact ⟨by simp only [walkRoute, known, searched, Except.bind, if_true],
              protocols, rfl, searchNextHop_stored searched⟩
          · simp [if_neg arrived] at last

theorem fewProtocols_of_walkRoute (ran : walkRoute protocolsOf dest fuel node route = .ok result) :
    FewProtocols protocolsOf node := by
  intro protocols known
  cases fuel with
  | zero => cases ran
  | succ fuel =>
      simp only [walkRoute, known] at ran
      cases searched : searchNextHop protocols dest with
      | error fault =>
          rw [searched] at ran
          cases ran
      | ok found => exact length_of_searchNextHop searched

/-! ## The whole walk -/

/-- The chain of stored next hops never leads back, and no node on it has more than two
protocols. -/
def EndsWithoutReturn (protocolsOf : L3Address → Option ProtocolsRoutes)
    (src dest : L3Address) : Prop :=
  ∀ path, Successor.Follows (continuesTo protocolsOf dest) src path →
    (src :: path).Nodup ∧ ∀ node ∈ src :: path, FewProtocols protocolsOf node

theorem stops_of_walkRoute (ran : walkRoute protocolsOf dest fuel node route = .ok result) :
    Successor.stops (continuesTo protocolsOf dest) fuel node = true := by
  induction fuel generalizing node route with
  | zero => cases ran
  | succ fuel ih =>
      cases step : continuesTo protocolsOf dest node with
      | none => simp only [Successor.stops, step]
      | some hop =>
          rw [walkRoute_of_continuesTo step] at ran
          rw [Successor.stops_succ_of_some step]
          exact ih ran

theorem fewProtocols_of_follows {path : List L3Address}
    (follows : Successor.Follows (continuesTo protocolsOf dest) node path)
    (ran : walkRoute protocolsOf dest fuel node route = .ok result) :
    ∀ other ∈ node :: path, FewProtocols protocolsOf other := by
  induction follows generalizing fuel route with
  | nil start =>
      intro other member
      rw [List.mem_singleton.mp member]
      exact fewProtocols_of_walkRoute ran
  | cons step rest ih =>
      intro other member
      cases List.mem_cons.mp member with
      | inl here => exact here ▸ fewProtocols_of_walkRoute ran
      | inr later =>
          cases fuel with
          | zero => cases ran
          | succ fuel =>
              rw [walkRoute_of_continuesTo step] at ran
              exact ih ran other later

theorem walkRoute_of_stops
    (stopped : Successor.stops (continuesTo protocolsOf dest) fuel node = true)
    (few : ∀ path, Successor.Follows (continuesTo protocolsOf dest) node path →
      ∀ other ∈ node :: path, FewProtocols protocolsOf other) (route : List L3Address) :
    ∃ result, walkRoute protocolsOf dest fuel node route = .ok result := by
  induction fuel generalizing node route with
  | zero => cases stopped
  | succ fuel ih =>
      cases step : continuesTo protocolsOf dest node with
      | none =>
          have here := few [] (.nil node) node List.mem_cons_self
          cases walkRoute_of_last step here fuel route with
          | inl lost => exact ⟨_, lost⟩
          | inr arrived => exact ⟨_, arrived.1⟩
      | some hop =>
          rw [Successor.stops_succ_of_some step] at stopped
          rw [walkRoute_of_continuesTo step]
          apply ih stopped
          intro path follows other member
          exact few (hop :: path) (.cons step follows) other (List.mem_cons_of_mem _ member)

theorem walkRoute_returns_iff {nodes : Finset L3Address}
    (finite : ∀ node protocols, protocolsOf node = some protocols → node ∈ nodes)
    (src dest : L3Address) (route : List L3Address) :
    (∃ fuel result, walkRoute protocolsOf dest fuel src route = .ok result) ↔
      EndsWithoutReturn protocolsOf src dest := by
  have domain : ∀ node, (continuesTo protocolsOf dest node).isSome → node ∈ nodes := by
    intro node goesOn
    obtain ⟨hop, step⟩ := Option.isSome_iff_exists.mp goesOn
    obtain ⟨protocols, known, -⟩ := storedHop_of_continuesTo step
    exact finite node protocols known
  constructor
  · rintro ⟨fuel, result, ran⟩ path follows
    exact ⟨follows.nodup (stops_of_walkRoute ran), fewProtocols_of_follows follows ran⟩
  · intro ends
    obtain ⟨fuel, stopped⟩ := (Successor.exists_stops_iff domain src).mpr fun path follows =>
      (ends path follows).1
    obtain ⟨result, ran⟩ := walkRoute_of_stops stopped (fun path follows => (ends path follows).2)
      route
    exact ⟨fuel, result, ran⟩

/-! ## Reported routes -/

/-- From the source to the last node over next hops that the nodes store for `dest`. -/
structure TracedRoute (protocolsOf : L3Address → Option ProtocolsRoutes)
    (dest src last : L3Address) (route : List L3Address) : Prop where
  starts : route.head? = some src
  ends : route.getLast? = some last
  hops : route.IsChain fun node hop =>
    ∃ protocols, protocolsOf node = some protocols ∧ StoredHop protocols dest hop

theorem TracedRoute.start (protocolsOf : L3Address → Option ProtocolsRoutes)
    (dest src : L3Address) : TracedRoute protocolsOf dest src src [src] where
  starts := rfl
  ends := rfl
  hops := List.isChain_singleton _

theorem TracedRoute.extend {last : L3Address}
    (traced : TracedRoute protocolsOf dest src last route)
    (step : ∃ protocols, protocolsOf last = some protocols ∧ StoredHop protocols dest hop) :
    TracedRoute protocolsOf dest src hop (route ++ [hop]) where
  starts := by
    have starts := traced.starts
    cases route with
    | nil => cases starts
    | cons head rest => exact starts
  ends := List.getLast?_concat
  hops := by
    apply List.isChain_append.mpr
    refine ⟨traced.hops, List.isChain_singleton _, ?_⟩
    intro before isLast after isFirst
    rw [traced.ends] at isLast
    cases isLast
    cases isFirst
    exact step

theorem walkRoute_traced (ran : walkRoute protocolsOf dest fuel node route = .ok (true, found))
    (traced : TracedRoute protocolsOf dest src node route) :
    TracedRoute protocolsOf dest src dest found := by
  induction fuel generalizing node route with
  | zero => cases ran
  | succ fuel ih =>
      cases step : continuesTo protocolsOf dest node with
      | none =>
          cases walkRoute_of_last step (fewProtocols_of_walkRoute ran) fuel route with
          | inl lost =>
              rw [lost] at ran
              cases ran
          | inr arrived =>
              rw [arrived.1] at ran
              cases ran
              exact traced.extend arrived.2
      | some hop =>
          rw [walkRoute_of_continuesTo step] at ran
          obtain ⟨protocols, known, searched, -⟩ := storedHop_of_continuesTo step
          exact ih ran (traced.extend ⟨protocols, known, searchNextHop_stored searched⟩)

/-! ## The two searches -/

/-- The map that `getRouteFromGlobal` searches. -/
def publishedMap (createInternalStore : Bool) (globalRouteMap : Option GlobalRouteMap) :
    Option GlobalRouteMap :=
  if createInternalStore then globalRouteMap else none

/-- Every node has the same protocols in both maps. -/
def SameContents (inspector : Option InspectorRouteMap) (published : Option GlobalRouteMap) :
    Prop :=
  (inspector.map fun routes => routes.protocols) =
    published.map fun routes node => routes.lookup node

/-- What the searches of both maps for one route do. -/
structure TracesRoute (inspector : Option InspectorRouteMap) (createInternalStore : Bool)
    (globalRouteMap : Option GlobalRouteMap) (src dest : L3Address) : Prop where
  inspectorReturns : ∀ route, ∃ fuel result, getRoute inspector fuel src dest route = .ok result
  baseReturns : ∀ route, ∃ fuel result,
    getRouteFromGlobal createInternalStore globalRouteMap fuel src dest route = .ok result
  inspectorSound : ∀ fuel route found,
    getRoute inspector fuel src dest route = .ok (true, found) →
      ∃ routes, inspector = some routes ∧ TracedRoute routes.protocols dest src dest found
  baseSound : ∀ fuel route found,
    getRouteFromGlobal createInternalStore globalRouteMap fuel src dest route =
        .ok (true, found) →
      ∃ routes, publishedMap createInternalStore globalRouteMap = some routes ∧
        TracedRoute (fun node => routes.lookup node) dest src dest found
  agree : SameContents inspector (publishedMap createInternalStore globalRouteMap) →
    src ≠ dest → ∀ fuel route, getRoute inspector fuel src dest route =
      getRouteFromGlobal createInternalStore globalRouteMap fuel src dest route

theorem getRouteFromGlobal_eq (createInternalStore : Bool)
    (globalRouteMap : Option GlobalRouteMap) (fuel : Nat) (src dest : L3Address)
    (route : List L3Address) :
    getRouteFromGlobal createInternalStore globalRouteMap fuel src dest route =
      match publishedMap createInternalStore globalRouteMap with
      | none => .ok (false, route)
      | some routes => walkRoute (fun node => routes.lookup node) dest fuel src [src] := by
  cases createInternalStore with
  | false => rfl
  | true => cases globalRouteMap <;> rfl

theorem protocols_finite (routes : InspectorRouteMap) (node : L3Address)
    (protocols : ProtocolsRoutes) (known : routes.protocols node = some protocols) :
    node ∈ routes.keys := by
  obtain ⟨owned, stored, -⟩ := Option.map_eq_some_iff.mp known
  exact Finmap.mem_keys.mpr (Finmap.mem_of_lookup_eq_some stored)

theorem lookup_finite (routes : GlobalRouteMap) (node : L3Address) (protocols : ProtocolsRoutes)
    (known : routes.lookup node = some protocols) : node ∈ routes.keys :=
  Finmap.mem_keys.mpr (Finmap.mem_of_lookup_eq_some known)

theorem getRoute_returns_iff (inspector : Option InspectorRouteMap) (src dest : L3Address) :
    (∀ route, ∃ fuel result, getRoute inspector fuel src dest route = .ok result) ↔
      ∀ routes, inspector = some routes → src ≠ dest →
        EndsWithoutReturn routes.protocols src dest := by
  cases inspector with
  | none =>
      constructor
      · intro _ routes present
        cases present
      · intro _ route
        exact ⟨0, _, rfl⟩
  | some routes =>
      by_cases same : src = dest
      · constructor
        · intro _ _ _ different
          exact absurd same different
        · intro _ route
          refine ⟨0, (true, [src]), ?_⟩
          simp only [getRoute, if_pos same]
      · simp only [getRoute, if_neg same]
        rw [walkRoute_returns_iff (protocols_finite routes)]
        constructor
        · intro ends routes' present _
          cases present
          exact ends []
        · intro ends _
          exact ends routes rfl same

theorem getRouteFromGlobal_returns_iff (createInternalStore : Bool)
    (globalRouteMap : Option GlobalRouteMap) (src dest : L3Address) :
    (∀ route, ∃ fuel result,
        getRouteFromGlobal createInternalStore globalRouteMap fuel src dest route = .ok result) ↔
      ∀ routes, publishedMap createInternalStore globalRouteMap = some routes →
        EndsWithoutReturn (fun node => routes.lookup node) src dest := by
  simp only [getRouteFromGlobal_eq]
  cases publishedMap createInternalStore globalRouteMap with
  | none =>
      constructor
      · intro _ routes present
        cases present
      · intro _ route
        exact ⟨0, _, rfl⟩
  | some routes =>
      simp only
      rw [walkRoute_returns_iff (lookup_finite routes)]
      constructor
      · intro ends routes' present
        cases present
        exact ends []
      · intro ends _
        exact ends routes rfl

theorem getRoute_sound {inspector : Option InspectorRouteMap}
    (ran : getRoute inspector fuel src dest route = .ok (true, found)) :
    ∃ routes, inspector = some routes ∧ TracedRoute routes.protocols dest src dest found := by
  cases inspector with
  | none => cases ran
  | some routes =>
      refine ⟨routes, rfl, ?_⟩
      by_cases same : src = dest
      · simp only [getRoute, if_pos same] at ran
        cases ran
        subst same
        exact TracedRoute.start _ src src
      · simp only [getRoute, if_neg same] at ran
        exact walkRoute_traced ran (TracedRoute.start _ dest src)

theorem getRouteFromGlobal_sound {createInternalStore : Bool}
    {globalRouteMap : Option GlobalRouteMap}
    (ran : getRouteFromGlobal createInternalStore globalRouteMap fuel src dest route =
      .ok (true, found)) :
    ∃ routes, publishedMap createInternalStore globalRouteMap = some routes ∧
      TracedRoute (fun node => routes.lookup node) dest src dest found := by
  rw [getRouteFromGlobal_eq] at ran
  cases published : publishedMap createInternalStore globalRouteMap with
  | none =>
      rw [published] at ran
      cases ran
  | some routes =>
      rw [published] at ran
      exact ⟨routes, rfl, walkRoute_traced ran (TracedRoute.start _ dest src)⟩

theorem getRoute_eq_getRouteFromGlobal {inspector : Option InspectorRouteMap}
    {createInternalStore : Bool} {globalRouteMap : Option GlobalRouteMap}
    (same : SameContents inspector (publishedMap createInternalStore globalRouteMap))
    (different : src ≠ dest) (fuel : Nat) (route : List L3Address) :
    getRoute inspector fuel src dest route =
      getRouteFromGlobal createInternalStore globalRouteMap fuel src dest route := by
  rw [getRouteFromGlobal_eq]
  unfold SameContents at same
  cases inspector with
  | none =>
      cases published : publishedMap createInternalStore globalRouteMap with
      | none => rfl
      | some routes => simp [published] at same
  | some routes =>
      cases published : publishedMap createInternalStore globalRouteMap with
      | none => simp [published] at same
      | some shared =>
          simp only [published, Option.map_some, Option.some.injEq] at same
          simp only [getRoute, if_neg different, same]

/-- Both searches return, report stored routes only and agree with each other exactly if
the next hops stored in the searched maps never lead back on the way. -/
theorem tracesRoute_iff (inspector : Option InspectorRouteMap) (createInternalStore : Bool)
    (globalRouteMap : Option GlobalRouteMap) (src dest : L3Address) :
    TracesRoute inspector createInternalStore globalRouteMap src dest ↔
      (∀ routes, inspector = some routes → src ≠ dest →
        EndsWithoutReturn routes.protocols src dest) ∧
      ∀ routes, publishedMap createInternalStore globalRouteMap = some routes →
        EndsWithoutReturn (fun node => routes.lookup node) src dest := by
  rw [← getRoute_returns_iff, ← getRouteFromGlobal_returns_iff]
  constructor
  · intro traces
    exact ⟨traces.inspectorReturns, traces.baseReturns⟩
  · rintro ⟨inspectorReturns, baseReturns⟩
    exact {
      inspectorReturns := inspectorReturns
      baseReturns := baseReturns
      inspectorSound := fun _ _ _ ran => getRoute_sound ran
      baseSound := fun _ _ _ ran => getRouteFromGlobal_sound ran
      agree := getRoute_eq_getRouteFromGlobal }

def ipNode (value : Nat) : L3Address := { type := .ipv4, value := value }

/-- Nodes 1 and 2 store each other as the next hop for node 3. -/
def loopingRoutes : InspectorRouteMap :=
  let table (gw : Nat) : List OwnedRoutingData :=
    [{ routesVector := Finmap.singleton (ipNode 3) (ipNode gw), isProactive := true, mod := 0 }]
  (Finmap.singleton (ipNode 1) (table 2)).insert (ipNode 2) (table 1)

/-- The search from node 1 for node 3 goes to node 2 and back to node 1. -/
theorem not_tracesRoute_looping :
    ¬ TracesRoute (some loopingRoutes) false none (ipNode 1) (ipNode 3) := by
  intro traces
  have ends := (getRoute_returns_iff _ _ _).mp traces.inspectorReturns loopingRoutes rfl (by decide)
  have toSecond : continuesTo loopingRoutes.protocols (ipNode 3) (ipNode 1) = some (ipNode 2) := by
    decide
  have toFirst : continuesTo loopingRoutes.protocols (ipNode 3) (ipNode 2) = some (ipNode 1) := by
    decide
  have simple := (ends [ipNode 2, ipNode 1] (.cons toSecond (.cons toFirst (.nil _)))).1
  exact absurd simple (by decide)

end SyncFanet.Base
