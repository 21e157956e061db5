import SyncFanet.OlsrEtx.MetricRun

/-!
# Runs that add up ETX values

The recorded graph of a node whose costs are sums of ETX values, and the least costs
that `run` finds in it.
-/

set_option autoImplicit false

namespace SyncFanet.OlsrEtx

open Olsr

/-- The agent adds up ETX values: `Link_quality` is ETX and `Link_delay` is off. -/
structure SumsEtx (parameter : Parameter) : Prop where
  etx : parameter.linkQuality = .etx
  noDelay : parameter.linkDelay = false

theorem etxOf_nonneg (mult : ℚ) : 0 ≤ etxOf .etx mult := by
  unfold etxOf
  dsimp only
  split
  · norm_num
  · next large =>
    have positive : (1 : ℚ) / 100 ≤ mult := not_lt.mp large
    exact div_nonneg zero_le_one (by linarith)

theorem SumsEtx.optimises {parameter : Parameter} (sums : SumsEtx parameter) :
    Optimises parameter .etx :=
  .etx sums.noDelay sums.etx

section

variable {parameter : Parameter} {raAddr : NsAddr} {state : Repositories} {now : Int}

theorem edgeOver_nonneg (sums : SumsEtx parameter) (lastNode : NsAddr) (qualities : Qualities) :
    0 ≤ (edgeOver parameter lastNode qualities).quality := by
  simp only [edgeOver, sums.etx, Qualities.etx]
  exact etxOf_nonneg _

theorem directEdges_nonneg (sums : SumsEtx parameter) {entry : NsAddr × Edge}
    (member : entry ∈ directEdges parameter state now) : 0 ≤ entry.2.quality := by
  obtain ⟨nb, _, recorded⟩ := List.mem_filterMap.mp member
  obtain ⟨best, _, rfl⟩ := Option.map_eq_some_iff.mp recorded
  exact edgeOver_nonneg sums _ _

theorem farEdges_nonneg (sums : SumsEtx parameter) {entry : NsAddr × Edge}
    (member : entry ∈ farEdges parameter raAddr state) : 0 ≤ entry.2.quality := by
  rcases List.mem_append.mp member with member | member
  · obtain ⟨hop, _, rfl⟩ := List.mem_map.mp member
    exact edgeOver_nonneg sums _ _
  · obtain ⟨tuple, _, rfl⟩ := List.mem_map.mp member
    exact edgeOver_nonneg sums _ _

/-! ## Costs -/

namespace Dijkstra

def label (dijkstra : Dijkstra) (node : NsAddr) : Option ℚ :=
  if (dijkstra.dijkstraMap node).hopCount = -1 then none
  else some (dijkstra.dijkstraMap node).link.quality

/-- The links that `get_edge` finds. -/
def link (dijkstra : Dijkstra) (last node : NsAddr) (weight : ℚ) : Prop :=
  ∃ edge, dijkstra.getEdge node last = some edge ∧ edge.quality = weight

def starts (direct : List (NsAddr × Edge)) (node : NsAddr) (cost : ℚ) : Prop :=
  ∃ edge, (node, edge) ∈ direct ∧ edge.quality = cost

/-- The invariant of `run` on a recorded graph. -/
structure Running (direct : List (NsAddr × Edge)) (graph dijkstra : Dijkstra) : Prop
    extends Recorded graph dijkstra where
  searched : Searched (starts direct) graph.link dijkstra.label
    fun node => node ∈ dijkstra.nonprocessedNodes
  placed : ∀ node, Placed direct dijkstra node

theorem label_eq_some {dijkstra : Dijkstra} {node : NsAddr} {cost : ℚ} :
    dijkstra.label node = some cost ↔ (dijkstra.dijkstraMap node).hopCount ≠ -1 ∧
      (dijkstra.dijkstraMap node).link.quality = cost :=
  @Metric.label_eq_some _ _ _ _ etxMetric dijkstra node cost

theorem label_eq_none {dijkstra : Dijkstra} {node : NsAddr} :
    dijkstra.label node = none ↔ (dijkstra.dijkstraMap node).hopCount = -1 :=
  @Metric.label_eq_none _ _ _ _ etxMetric dijkstra node

variable {direct recorded : List (NsAddr × Edge)} {graph dijkstra : Dijkstra}

theorem path_known (isGraph : Graph direct recorded graph) {node : NsAddr} {cost : ℚ}
    (path : PathCost (starts direct) graph.link node cost) : node ∈ graph.allNodes :=
  Metric.path_known etxMetric isGraph path

theorem running_etx (running : etxMetric.Running direct graph dijkstra) :
    Running direct graph dijkstra where
  toRecorded := running.toRecorded
  searched := running.searched
  placed := running.placed

end Dijkstra

/-! ## The result -/

/-- The graph when `run` has ended. -/
structure Finished (parameter : Parameter) (raAddr : NsAddr) (state : Repositories) (now : Int)
    (dijkstra : Dijkstra) : Prop where
  running : Dijkstra.Running (directEdges parameter state now)
    (recordGraph parameter raAddr state now) dijkstra
  exhausted : ∀ node ∈ dijkstra.nonprocessedNodes, (dijkstra.dijkstraMap node).hopCount = -1

theorem dijkstraPaths_finishes (sums : SumsEtx parameter) :
    ∃ dijkstra, dijkstraPaths parameter raAddr state now = .ok dijkstra ∧
      Finished parameter raAddr state now dijkstra := by
  have graph := recordGraph_graph parameter raAddr state now
  have nonneg : ∀ entry ∈ (recordGraph parameter raAddr state now).linkArray,
      0 ≤ entry.2.quality := by
    intro entry member
    rw [graph.linkArray] at member
    rcases List.mem_append.mp member with member | member
    · exact directEdges_nonneg sums member
    · exact farEdges_nonneg sums member
  obtain ⟨dijkstra, ran, running, exhausted⟩ := Metric.run_finishes sums.optimises nonneg
    (graph.sorted.imp ne_of_lt)
    (Metric.running_initial etxMetric graph directEdges_functional nonneg) (le_refl _)
  exact ⟨dijkstra, ran, Dijkstra.running_etx running, exhausted⟩

theorem Finished.isLeast {dijkstra : Dijkstra}
    (finished : Finished parameter raAddr state now dijkstra) {node : NsAddr} {cost : ℚ}
    (labelled : dijkstra.label node = some cost) :
    IsLeast { cost | PathCost (Dijkstra.starts (directEdges parameter state now))
      (recordGraph parameter raAddr state now).link node cost } cost :=
  finished.running.searched.isLeast
    (fun node opened => Dijkstra.label_eq_none.mpr (finished.exhausted node opened)) labelled

theorem Finished.labelled {dijkstra : Dijkstra}
    (finished : Finished parameter raAddr state now dijkstra) {node : NsAddr} {cost : ℚ}
    (path : PathCost (Dijkstra.starts (directEdges parameter state now))
      (recordGraph parameter raAddr state now).link node cost) :
    ∃ best, dijkstra.label node = some best := by
  obtain ⟨best, _, labelled⟩ := finished.running.searched.finished
    (fun node opened => Dijkstra.label_eq_none.mpr (finished.exhausted node opened)) path
  exact ⟨best, labelled⟩

end

end SyncFanet.OlsrEtx
