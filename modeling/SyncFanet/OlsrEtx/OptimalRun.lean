import Mathlib.Logic.Relation
import SyncFanet.OlsrEtx.MetricRun

/-!
# The best paths after any calls of `add_edge`

Direct and other edges may be recorded in any order. A path starts with a direct edge
and goes on over the edges that `get_edge` finds.
-/

set_option autoImplicit false

namespace SyncFanet.OlsrEtx

open Olsr

/-- The arguments of one call of `add_edge`. -/
structure EdgeCall where
  destNode : NsAddr
  link : Edge
  directConnected : Bool
  deriving DecidableEq

/-- The graph after these calls. -/
def addEdges (calls : List EdgeCall) : Dijkstra :=
  calls.foldl (fun dijkstra call =>
    dijkstra.addEdge call.destNode call.link call.directConnected) {}

namespace EdgeCall

def edge (call : EdgeCall) : NsAddr × Edge := (call.destNode, call.link)

@[simp] theorem edge_fst (call : EdgeCall) : call.edge.1 = call.destNode := rfl

@[simp] theorem edge_snd (call : EdgeCall) : call.edge.2 = call.link := rfl

/-- The direct edges among these calls. -/
def directs (calls : List EdgeCall) : List (NsAddr × Edge) :=
  (calls.filter EdgeCall.directConnected).map edge

/-- Each directly connected destination is added once as direct. -/
def DirectOnce (calls : List EdgeCall) : Prop :=
  ((calls.filter EdgeCall.directConnected).map destNode).Nodup

/-- An edge leads from the one node to the other. -/
def Leads (calls : List EdgeCall) (last node : NsAddr) : Prop :=
  ∃ call ∈ calls, call.link.lastNode = last ∧ call.destNode = node

/-- Edges lead to the node from a directly connected one. -/
def Connected (calls : List EdgeCall) (node : NsAddr) : Prop :=
  ∃ call ∈ calls, call.directConnected = true ∧
    Relation.ReflTransGen (Leads calls) call.destNode node

end EdgeCall

/-- The edges of a path to a node. -/
inductive EdgePath (calls : List EdgeCall) : NsAddr → List Edge → Prop where
  | direct {node : NsAddr} {edge : Edge} (recorded : (node, edge) ∈ EdgeCall.directs calls) :
      EdgePath calls node [edge]
  | hop {last node : NsAddr} {edges : List Edge} {edge : Edge} (path : EdgePath calls last edges)
      (found : (addEdges calls).getEdge node last = some edge) :
      EdgePath calls node (edges ++ [edge])

/-- The edges of the path that the fields `last_node` describe. -/
inductive Traced (calls : List EdgeCall) (dijkstraMap : NsAddr → Hop) :
    NsAddr → List Edge → Prop where
  | direct {node : NsAddr} (one : (dijkstraMap node).hopCount = 1)
      (recorded : (node, (dijkstraMap node).link) ∈ EdgeCall.directs calls) :
      Traced calls dijkstraMap node [(dijkstraMap node).link]
  | hop {node : NsAddr} {edges : List Edge} {edge : Edge}
      (traced : Traced calls dijkstraMap (dijkstraMap node).link.lastNode edges)
      (found : (addEdges calls).getEdge node (dijkstraMap node).link.lastNode = some edge) :
      Traced calls dijkstraMap node (edges ++ [edge])

theorem Traced.path {calls : List EdgeCall} {dijkstraMap : NsAddr → Hop} {node : NsAddr}
    {edges : List Edge} (traced : Traced calls dijkstraMap node edges) :
    EdgePath calls node edges := by
  induction traced with
  | direct _ recorded => exact .direct recorded
  | hop _ found ih => exact ih.hop found

/-- The entry of a node describes a best path to it. -/
structure BestPath (measure : Measure) (calls : List EdgeCall) (dijkstraMap : NsAddr → Hop)
    (node : NsAddr) : Prop where
  described : ∃ edges, Traced calls dijkstraMap node edges ∧ EdgePath calls node edges ∧
    (edges.length : Int) = (dijkstraMap node).hopCount ∧
    measure.total edges = measure.value (dijkstraMap node).link
  best : ∀ edges, EdgePath calls node edges →
    measure.AtLeast (measure.value (dijkstraMap node).link) (measure.total edges)
  before : 1 < (dijkstraMap node).hopCount →
    (dijkstraMap (dijkstraMap node).link.lastNode).hopCount = (dijkstraMap node).hopCount - 1

section

variable {measure : Measure} {calls : List EdgeCall}

variable {node : NsAddr} {edges : List Edge}

/-! ## The recorded graph -/

theorem addEdges_graph (calls : List EdgeCall) :
    Graph (EdgeCall.directs calls) (calls.map EdgeCall.edge) (addEdges calls) := by
  refine foldl_seen (fun dijkstra (call : EdgeCall) =>
    Dijkstra.addEdge dijkstra call.destNode call.link call.directConnected)
    (fun seen dijkstra => Graph (EdgeCall.directs seen) (seen.map EdgeCall.edge) dijkstra)
    graph_empty ?_
  intro seen call dijkstra _ graph
  cases direct : call.directConnected with
  | true => simpa [EdgeCall.directs, direct] using graph.addDirect call.edge
  | false => simpa [EdgeCall.directs, direct] using graph.addFar call.edge

theorem mem_directs {edge : Edge} :
    (node, edge) ∈ EdgeCall.directs calls ↔
      ∃ call ∈ calls, call.directConnected = true ∧ call.destNode = node ∧ call.link = edge := by
  constructor
  · intro member
    obtain ⟨call, among, same⟩ := List.mem_map.mp member
    obtain ⟨rfl, rfl⟩ := Prod.mk.inj same
    obtain ⟨among, direct⟩ := List.mem_filter.mp among
    exact ⟨call, among, direct, rfl, rfl⟩
  · rintro ⟨call, among, direct, rfl, rfl⟩
    exact List.mem_map.mpr ⟨call, List.mem_filter.mpr ⟨among, direct⟩, rfl⟩

theorem directs_functional (once : EdgeCall.DirectOnce calls) :
    Dijkstra.Functional (EdgeCall.directs calls) := by
  intro node edge edge' member member'
  obtain ⟨call, among, direct, here, rfl⟩ := mem_directs.mp member
  obtain ⟨call', among', direct', rfl, rfl⟩ := mem_directs.mp member'
  have same := List.inj_on_of_nodup_map once (List.mem_filter.mpr ⟨among, direct⟩)
    (List.mem_filter.mpr ⟨among', direct'⟩) here
  rw [same]

/-- Between the ends of a recorded edge `get_edge` finds one. -/
theorem getEdge_leads {last : NsAddr} :
    (∃ edge, (addEdges calls).getEdge node last = some edge) ↔ EdgeCall.Leads calls last node := by
  have graph := addEdges_graph calls
  constructor
  · rintro ⟨edge, found⟩
    obtain ⟨member, ends⟩ := Dijkstra.getEdge_mem found
    obtain ⟨call, among, same⟩ := List.mem_map.mp (graph.linkArray ▸ member)
    obtain ⟨rfl, rfl⟩ := Prod.mk.inj same
    exact ⟨call, among, ends, rfl⟩
  · rintro ⟨call, among, rfl, rfl⟩
    have member : call.edge ∈ (addEdges calls).linkArray :=
      graph.linkArray ▸ List.mem_map_of_mem among
    cases found : (addEdges calls).getEdge call.destNode call.link.lastNode with
    | some edge => exact ⟨edge, rfl⟩
    | none =>
        have absent := List.find?_eq_none.mp (Option.map_eq_none_iff.mp found) _ member
        simp [EdgeCall.edge] at absent

theorem ranged (inRange : ∀ call ∈ calls, measure.InRange (measure.value call.link)) :
    Metric.Ranged measure (addEdges calls) := by
  intro entry member
  rw [(addEdges_graph calls).linkArray] at member
  obtain ⟨call, among, rfl⟩ := List.mem_map.mp member
  exact inRange call among

/-! ## Paths and their costs -/

variable {Weight : Type} [LinearOrder Weight] [Add Weight] {metric : Metric measure Weight}

theorem EdgePath.inRange (ranged : Metric.Ranged measure (addEdges calls))
    (path : EdgePath calls node edges) :
    measure.InRange (measure.total edges) := by
  have graph := addEdges_graph calls
  induction path with
  | direct recorded =>
      rw [Measure.total_single]
      exact ranged _ (graph.linkArray ▸ graph.among recorded)
  | hop _ found ih =>
      rw [Measure.total_append]
      exact Measure.extend_inRange ih (ranged _ (Dijkstra.getEdge_mem found).1)

theorem EdgePath.cost (ranged : Metric.Ranged measure (addEdges calls))
    (path : EdgePath calls node edges) :
    PathCost (metric.starts (EdgeCall.directs calls)) (metric.link (addEdges calls)) node
      (metric.weigh (measure.total edges)) := by
  induction path with
  | direct recorded =>
      rw [Measure.total_single]
      exact .first ⟨_, recorded, rfl⟩
  | hop path found ih =>
      rw [Measure.total_append, metric.sum (path.inRange ranged)
        (ranged _ (Dijkstra.getEdge_mem found).1)]
      exact ih.next ⟨_, found, rfl⟩

theorem EdgeCall.Connected.path (connected : EdgeCall.Connected calls node) :
    ∃ edges, EdgePath calls node edges := by
  obtain ⟨call, among, direct, leads⟩ := connected
  induction leads with
  | refl => exact ⟨[call.link], .direct (mem_directs.mpr ⟨call, among, direct, rfl, rfl⟩)⟩
  | tail _ step ih =>
      obtain ⟨edges, path⟩ := ih
      obtain ⟨edge, found⟩ := getEdge_leads.mpr step
      exact ⟨edges ++ [edge], path.hop found⟩

theorem EdgePath.connected (path : EdgePath calls node edges) : EdgeCall.Connected calls node := by
  induction path with
  | direct recorded =>
      obtain ⟨call, among, direct, rfl, _⟩ := mem_directs.mp recorded
      exact ⟨call, among, direct, .refl⟩
  | hop _ found ih =>
      obtain ⟨call, among, direct, leads⟩ := ih
      exact ⟨call, among, direct, leads.tail (getEdge_leads.mp ⟨_, found⟩)⟩

/-! ## The entries after `run` -/

variable {finished : Dijkstra}

theorem traced_exists
    (running : metric.Running (EdgeCall.directs calls) (addEdges calls) finished) (hops : Nat)
    (node : NsAddr) (count : (finished.dijkstraMap node).hopCount = hops) :
    ∃ edges, Traced calls finished.dijkstraMap node edges ∧ edges.length = hops ∧
      measure.total edges = measure.value (finished.dijkstraMap node).link := by
  induction hops generalizing node with
  | zero =>
      have reached := (running.placed node).reached (by omega)
      omega
  | succ hops ih =>
      cases running.placed node with
      | unreached none => omega
      | direct one recorded =>
          refine ⟨_, .direct one recorded, ?_, measure.total_single _⟩
          simp only [List.length_singleton]
          omega
      | via last same _ _ reached next =>
          subst same
          obtain ⟨edge, found, value⟩ := running.priced node (by omega)
          obtain ⟨edges, traced, length, total⟩ :=
            ih (finished.dijkstraMap node).link.lastNode (by omega)
          refine ⟨edges ++ [edge], traced.hop found, by simp [length], ?_⟩
          rw [Measure.total_append, total, value]

theorem bestPath [AddRightMono Weight] (ranged : Metric.Ranged measure (addEdges calls))
    (running : metric.Running (EdgeCall.directs calls) (addEdges calls) finished)
    (exhausted : ∀ node ∈ finished.nonprocessedNodes, (finished.dijkstraMap node).hopCount = -1)
    (path : (finished.dijkstraMap node).hopCount ≠ -1) :
    BestPath measure calls finished.dijkstraMap node := by
  have reached := (running.placed node).reached path
  constructor
  · obtain ⟨edges, traced, length, total⟩ := traced_exists running
      (finished.dijkstraMap node).hopCount.toNat node (Int.toNat_of_nonneg (by omega)).symm
    exact ⟨edges, traced, traced.path, by omega, total⟩
  · intro edges path'
    have least := running.searched.isLeast
      (fun node opened => Metric.label_eq_none.mpr (exhausted node opened))
      (Metric.label_eq_some.mpr ⟨path, rfl⟩)
    exact (metric.le_iff (running.inRange node path) (path'.inRange ranged)).mp
      (least.2 (path'.cost ranged))
  · intro more
    cases running.placed node with
    | unreached none => omega
    | direct one _ => omega
    | via last same _ _ _ next =>
        rw [same]
        omega

/-- What `run` leaves, whatever the weights are that the values of paths stand for. -/
theorem run_bestPaths [AddRightMono Weight] (metric : Metric measure Weight)
    {parameter : Parameter} (optimises : Optimises parameter measure)
    (once : EdgeCall.DirectOnce calls) (ranged : Metric.Ranged measure (addEdges calls))
    {fuel : Nat} (enough : (addEdges calls).nonprocessedNodes.length ≤ fuel) :
    ∃ finished, Dijkstra.run parameter fuel (addEdges calls) = .ok finished ∧
      ∀ node, ((finished.dijkstraMap node).hopCount = -1 ↔ ¬ EdgeCall.Connected calls node) ∧
        ((finished.dijkstraMap node).hopCount ≠ -1 →
          BestPath measure calls finished.dijkstraMap node) := by
  have graph := addEdges_graph calls
  obtain ⟨finished, ran, running, exhausted⟩ := Metric.run_finishes optimises ranged
    (graph.sorted.imp ne_of_lt)
    (Metric.running_initial metric graph (directs_functional once) ranged) enough
  refine ⟨finished, ran, fun node => ⟨⟨fun unreached connected => ?_, fun apart => ?_⟩,
    bestPath ranged running exhausted⟩⟩
  · obtain ⟨edges, path⟩ := connected.path
    obtain ⟨cost, _, labelled⟩ := running.searched.finished
      (fun node opened => Metric.label_eq_none.mpr (exhausted node opened)) (path.cost ranged)
    exact (Metric.label_eq_some.mp labelled).1 unreached
  · by_contra path
    obtain ⟨edges, _, path', _⟩ := (bestPath ranged running exhausted path).described
    exact apart path'.connected

/-- `run` ends, and the entries of the nodes that edges lead to describe the best paths
to them. -/
theorem run_optimal {parameter : Parameter} (optimises : Optimises parameter measure)
    (once : EdgeCall.DirectOnce calls)
    (inRange : ∀ call ∈ calls, measure.InRange (measure.value call.link)) {fuel : Nat}
    (enough : (addEdges calls).nonprocessedNodes.length ≤ fuel) :
    ∃ finished, Dijkstra.run parameter fuel (addEdges calls) = .ok finished ∧
      ∀ node, ((finished.dijkstraMap node).hopCount = -1 ↔ ¬ EdgeCall.Connected calls node) ∧
        ((finished.dijkstraMap node).hopCount ≠ -1 →
          BestPath measure calls finished.dijkstraMap node) := by
  cases measure with
  | delay => exact run_bestPaths delayMetric optimises once (ranged inRange) enough
  | etx => exact run_bestPaths etxMetric optimises once (ranged inRange) enough
  | ml => exact run_bestPaths mlMetric optimises once (ranged inRange) enough

/-! ## A neighbor that is reached better through another one -/

def mlParameter : Parameter where
  mprAlgorithm := .default
  linkQuality := .ml
  linkDelay := false

def reroutedCalls : List EdgeCall := [
  { destNode := 2, link := { lastNode := 3, quality := 9 / 10, delay := 0 },
    directConnected := false },
  { destNode := 2, link := { lastNode := 1, quality := 1 / 2, delay := 0 },
    directConnected := true },
  { destNode := 3, link := { lastNode := 1, quality := 1, delay := 0 },
    directConnected := true }]

theorem run_optimal_rerouted :
    ∃ finished, Dijkstra.run mlParameter 2 (addEdges reroutedCalls) = .ok finished ∧
      finished.dijkstraMap 2 =
        { link := { lastNode := 3, quality := 9 / 10, delay := 0 }, hopCount := 2 } ∧
      BestPath .ml reroutedCalls finished.dijkstraMap 2 := by
  obtain ⟨finished, ran, entries⟩ := run_optimal (.ml rfl rfl : Optimises mlParameter .ml)
    (by simp [EdgeCall.DirectOnce, reroutedCalls] : EdgeCall.DirectOnce reroutedCalls)
    (by
      simp only [reroutedCalls, List.forall_mem_cons, Measure.InRange, Measure.value]
      norm_num)
    (show (addEdges reroutedCalls).nonprocessedNodes.length ≤ 2 by decide)
  have entry : (Dijkstra.run mlParameter 2 (addEdges reroutedCalls)).map
      (fun finished => finished.dijkstraMap 2) =
        .ok { link := { lastNode := 3, quality := 9 / 10, delay := 0 }, hopCount := 2 } := by
    decide +kernel
  rw [ran] at entry
  have rerouted : finished.dijkstraMap 2 =
      { link := { lastNode := 3, quality := 9 / 10, delay := 0 }, hopCount := 2 } :=
    Except.ok.inj entry
  exact ⟨finished, ran, rerouted, (entries 2).2 (by rw [rerouted]; decide)⟩

end

end SyncFanet.OlsrEtx
