import SyncFanet.OlsrEtx.DijkstraMaps
import SyncFanet.OlsrEtx.FullRoutes
import SyncFanet.OlsrEtx.QualityRuns

/-!
# Routes in the order of their hops

In a network every quality is a share of packets and no delay is negative, so that no
path gets better by an edge from a node to itself. Every predecessor is then entered
before the nodes behind it.
-/

set_option autoImplicit false

namespace SyncFanet.OlsrEtx

open Olsr

/-- The node that is reached by following `last_node` so many times. -/
def followBack (dijkstraMap : Finmap fun _ : NsAddr => Hop) : Nat → NsAddr → Option NsAddr
  | 0, node => some node
  | steps + 1, node =>
      (dijkstraMap.lookup node).bind fun hop => followBack dijkstraMap steps hop.link.lastNode

/-- The entry of a node over several hops goes to the node with one hop that
`last_node` leads back to. -/
structure FollowsBack (dijkstraMap : Finmap fun _ : NsAddr => Hop) (rtable : Rtable)
    (node : NsAddr) (entry : RtEntry) : Prop where
  dist : ∃ hop, dijkstraMap.lookup node = some hop ∧ hop.hopCount = entry.dist
  through : 2 ≤ entry.dist → ∃ first via hop,
    followBack dijkstraMap (entry.dist - 1) node = some first ∧
      dijkstraMap.lookup first = some hop ∧ hop.hopCount = 1 ∧
      rtable.lookup first = some via ∧
      entry.nextAddr = via.nextAddr ∧ entry.ifaceAddr = via.ifaceAddr

/-- The computation ends without an exception, and every entry that the loop inserts goes
to the first node of its path. -/
def RoutesInserted (parameter : Parameter) (raAddr : NsAddr) (state : Repositories) (now : Int) :
    Prop :=
  ∃ maps rtable, mapsPaths parameter raAddr state now = .ok maps ∧
    enterRoutes [] maps.dijkstraMap (processedHops maps.dijkstraMap) = .ok rtable ∧
    mapsComputation parameter raAddr state now = .ok (state.ifaceassocset.foldl addAlias rtable) ∧
    ∀ node entry, rtable.lookup node = some entry →
      FollowsBack maps.dijkstraMap rtable node entry

section

variable {parameter : Parameter} {raAddr : NsAddr} {state : Repositories} {now : Int}

/-! ## Paths without loops -/

theorem optimises_or_none (parameter : Parameter) :
    parameter.linkQuality = .none ∨ ∃ measure, Optimises parameter measure := by
  cases quality : parameter.linkQuality with
  | none => exact .inl rfl
  | etx =>
      cases delay : parameter.linkDelay with
      | true => exact .inr ⟨.delay, .delay delay (by simp [quality])⟩
      | false => exact .inr ⟨.etx, .etx delay quality⟩
  | ml =>
      cases delay : parameter.linkDelay with
      | true => exact .inr ⟨.delay, .delay delay (by simp [quality])⟩
      | false => exact .inr ⟨.ml, .ml delay quality⟩

theorem run_none (none : parameter.linkQuality = .none) {fuel : Nat}
    {dijkstra finished : Dijkstra} (ran : Dijkstra.run parameter fuel dijkstra = .ok finished) :
    finished.dijkstraMap = dijkstra.dijkstraMap := by
  have relaxed (current node : NsAddr) (dijkstra : Dijkstra) :
      (dijkstra.relaxNode parameter current node).dijkstraMap = dijkstra.dijkstraMap := by
    unfold Dijkstra.relaxNode
    split
    · split
      · rfl
      · simp [Dijkstra.relax, none]
    · rfl
  refine Dijkstra.run_keeps (fun after => after.dijkstraMap = dijkstra.dijkstraMap) ?_ ran
    rfl
  intro round current _ same
  exact foldl_keeps (Dijkstra.relaxNode parameter current)
    (fun after => after.dijkstraMap = dijkstra.dijkstraMap) same
    fun node after _ kept => (relaxed current node after).trans kept

def Repositories.InRange (parameter : Parameter) (raAddr : NsAddr) (state : Repositories)
    (now : Int) : Prop :=
  ∀ measure, Optimises parameter measure →
    Metric.Ranged measure (recordGraph parameter raAddr state now)

theorem paths_placed (inRange : state.InRange parameter raAddr now) :
    ∃ dijkstra, dijkstraPaths parameter raAddr state now = .ok dijkstra ∧
      ∀ node, Dijkstra.Placed (directEdges parameter state now) dijkstra node := by
  have graph := recordGraph_graph parameter raAddr state now
  have distinct := graph.sorted.imp ne_of_lt
  -- the runs differ in the weights of paths only
  have searched {measure : Measure} {Weight : Type} [LinearOrder Weight] [Add Weight]
      [AddRightMono Weight] (metric : Metric measure Weight)
      (optimises : Optimises parameter measure) :
      ∃ dijkstra, dijkstraPaths parameter raAddr state now = .ok dijkstra ∧
        ∀ node, Dijkstra.Placed (directEdges parameter state now) dijkstra node := by
    have ranged := inRange measure optimises
    obtain ⟨dijkstra, ran, running, _⟩ := Metric.run_finishes optimises ranged distinct
      (Metric.running_initial metric graph directEdges_functional ranged) (le_refl _)
    exact ⟨dijkstra, ran, running.placed⟩
  rcases optimises_or_none parameter with none | ⟨measure, optimises⟩
  · obtain ⟨dijkstra, ran⟩ := Dijkstra.run_total parameter
      (le_refl (recordGraph parameter raAddr state now).nonprocessedNodes.length)
    refine ⟨dijkstra, ran, fun node => ?_⟩
    have same := run_none none ran
    rcases graph.hops node with ⟨one, member⟩ | ⟨unreached, _⟩
    · exact .direct (by rw [same]; exact one) (by rw [same]; exact member)
    · exact .unreached (by rw [same]; exact unreached)
  · cases measure with
    | delay => exact searched delayMetric optimises
    | etx => exact searched etxMetric optimises
    | ml => exact searched mlMetric optimises

/-! ## The entries -/

variable {dijkstra : Dijkstra} {rtable : Rtable}

theorem followed {maps : DijkstraMaps} (represents : Represents maps dijkstra)
    (placed : ∀ node, Dijkstra.Placed (directEdges parameter state now) dijkstra node)
    (table : Table dijkstra.dijkstraMap dijkstra.allNodes rtable) (steps : Nat) {node : NsAddr}
    {entry : RtEntry} (found : rtable.lookup node = some entry) (dist : entry.dist = steps + 1) :
    ∃ first via hop, followBack maps.dijkstraMap steps node = some first ∧
      maps.dijkstraMap.lookup first = some hop ∧ hop.hopCount = 1 ∧
      rtable.lookup first = some via ∧
      entry.nextAddr = via.nextAddr ∧ entry.ifaceAddr = via.ifaceAddr := by
  induction steps generalizing node entry with
  | zero =>
      obtain ⟨known, _, route⟩ := table.route found
      have one := route.dist
      refine ⟨node, entry, _, rfl, represents.hop known, ?_, found, rfl, rfl⟩
      omega
  | succ steps ih =>
      obtain ⟨known, _, route⟩ := table.route found
      have hops := route.dist
      obtain ⟨before, stored, next, iface⟩ := route.far (by omega)
      obtain ⟨_, _, route'⟩ := table.route stored
      have fewer : before.dist = steps + 1 := by
        have hops' := route'.dist
        cases placed node with
        | unreached none => omega
        | direct one _ => omega
        | via last same _ _ _ more =>
            rw [same] at hops'
            omega
      obtain ⟨first, via, hop, followed, entered, one, present, next', iface'⟩ := ih stored fewer
      refine ⟨first, via, hop, ?_, entered, one, present, next.trans next', iface.trans iface'⟩
      rw [followBack, represents.hop known]
      exact followed

theorem routesInserted (inRange : state.InRange parameter raAddr now) :
    RoutesInserted parameter raAddr state now := by
  obtain ⟨dijkstra, ran, placed⟩ := paths_placed inRange
  have graph := recordGraph_graph parameter raAddr state now
  have distinct : dijkstra.allNodes.Nodup := run_allNodes ran ▸ graph.sorted.imp ne_of_lt
  obtain ⟨rtable, entered, table⟩ := addRoutes_table (processedNodes_ordered dijkstra) distinct
    fun node _ more => by
      cases placed node with
      | unreached none => omega
      | direct one _ => omega
      | via last same known _ reached next =>
          rw [same]
          exact ⟨known, reached, by omega⟩
  obtain ⟨maps, ran', represents⟩ := mapsPaths_represents ran
  have loop := (enterRoutes_represents ran represents).trans entered
  refine ⟨maps, rtable, ran', loop, ?_, fun node entry found => ⟨?_, fun more => ?_⟩⟩
  · simp only [mapsComputation, ran', Except.bind, loop]
  · obtain ⟨known, _, route⟩ := table.route found
    exact ⟨_, represents.hop known, route.dist.symm⟩
  · exact followed represents placed table (entry.dist - 1) found (by omega)

/-! ## Every state of a network -/

theorem Share.mul {quality nbQuality : ℚ} (share : Share quality) (share' : Share nbQuality) :
    Share (quality * nbQuality) :=
  ⟨mul_nonneg share.1 share'.1, mul_le_one₀ share.2 share'.1 share'.2⟩

theorem edgeOver_inRange {measure : Measure} (optimises : Optimises parameter measure)
    (lastNode : NsAddr) {qualities : Qualities} (share : Share qualities.linkQuality)
    (nbShare : Share qualities.nbLinkQuality) (delay : 0 ≤ qualities.nbLinkDelay) :
    measure.InRange (measure.value (edgeOver parameter lastNode qualities)) := by
  cases optimises with
  | delay _ _ => exact delay
  | etx _ etx =>
      show 0 ≤ qualities.etx parameter.linkQuality
      rw [etx]
      exact etxOf_nonneg _
  | ml _ ml =>
      show Share (qualities.etx parameter.linkQuality)
      rw [ml]
      exact share.mul nbShare

theorem QosState.inRange_repositories {qos : QosState} (inRange : qos.InRange) :
    qos.repositories.InRange parameter raAddr now := by
  intro measure optimises entry member
  rw [(recordGraph_graph parameter raAddr qos.repositories now).linkArray] at member
  rcases List.mem_append.mp member with member | member
  · obtain ⟨best, found, same⟩ := mem_directEdges member
    obtain ⟨link, among, rfl⟩ := List.mem_map.mp (findBestSymLinkTuple_mem found)
    have known := inRange.links link among
    rw [same]
    exact edgeOver_inRange optimises _ known.counts.share known.share known.nbDelay
  · rcases List.mem_append.mp member with member | member
    · obtain ⟨hop, among, rfl⟩ := List.mem_map.mp member
      obtain ⟨tuple, among', rfl⟩ := List.mem_map.mp
        (collectHops_collected.known hop (mem_hopLinks.mp among)).1
      have known := inRange.nb2hops tuple among'
      exact edgeOver_inRange optimises _ known.share known.nbShare known.nbDelay
    · obtain ⟨tuple, among, rfl⟩ := List.mem_map.mp member
      obtain ⟨tuple', among', rfl⟩ := List.mem_map.mp (List.mem_filter.mp among).1
      have known := inRange.topologies tuple' among'
      exact edgeOver_inRange optimises _ known.share known.nbShare known.nbDelay

/-- At any time the table of any node of a network can be computed, and the routes follow
the predecessors. -/
theorem dijkstra_routes_inserted {parameters : NsAddr → DelayParameter} {network : EtxNetwork}
    (reached : NetworkReached parameters network) (node : NsAddr) (now : Int) :
    RoutesInserted (parameters node).toParameter (network.nodes node).raAddr
      (network.nodes node).repositories now :=
  routesInserted (QosState.inRange_repositories (reached.inRange.nodes node))

/-! ## A node behind a neighbor -/

def smoothing : DelayParameter where
  mprAlgorithm := .default
  linkQuality := .etx
  linkDelay := false
  cAlpha := 3 / 5
  nonneg := by norm_num
  atMostOne := by norm_num

def linkToTwo : LinkTuple where
  id := 1
  localIfaceAddr := 1
  nbIfaceAddr := 2
  symTime := 20
  asymTime := 20
  lostTime := 0
  time := 26
  localIfaceIndex := 0

def nodeOne : QosState where
  raAddr := 1
  linkset := [.created linkToTwo 0]
  nbset := [{ nbMainAddr := 2, status := .sym, willingness := willDefault }]
  nb2hopset := [.created .etx 2 2 3 20]

theorem nodeOne_reached : ∃ network, NetworkReached (fun _ => smoothing) network ∧
    network.nodes 1 = nodeOne := by
  -- node 1 writes something whatever it has heard of
  have written {network : EtxNetwork} {state : QosState}
      (reached : NetworkReached (fun _ => smoothing) network)
      (step : QosStep smoothing network.sent (network.nodes 1) state) :
      ∃ network', NetworkReached (fun _ => smoothing) network' ∧ network'.nodes 1 = state :=
    ⟨_, reached.step (.write network step), by simp⟩
  obtain ⟨linked, reached, sensed⟩ := written .initial (.addLink _ linkToTwo 0)
  obtain ⟨known, reached, neighbor⟩ := written reached
    (.others _ [{ nbMainAddr := 2, status := .sym, willingness := willDefault }] [])
  obtain ⟨network, reached, behind⟩ := written reached (.addNb2hop _ 2 2 3 20)
  refine ⟨network, reached, ?_⟩
  rw [behind, neighbor, sensed]
  rfl

theorem dijkstra_routes_inserted_behind :
    ∃ network, NetworkReached (fun _ => smoothing) network ∧ network.nodes 1 = nodeOne ∧
      RoutesInserted smoothing.toParameter 1 nodeOne.repositories 10 ∧
      (mapsComputation smoothing.toParameter 1 nodeOne.repositories 10).map
        (fun rtable => (rtable.lookup 3).map fun entry => (entry.nextAddr, entry.dist)) =
          .ok (some (2, 2)) := by
  obtain ⟨network, reached, same⟩ := nodeOne_reached
  have inserted := dijkstra_routes_inserted reached 1 10
  rw [same] at inserted
  refine ⟨network, reached, same, inserted, ?_⟩
  rw [mapsComputation_eq]
  decide +kernel

end

end SyncFanet.OlsrEtx
