import SyncFanet.Library.ShortestPath
import SyncFanet.OlsrEtx.Measures

/-!
# What `run` finds

The invariant of `run` for any measure: the search settles the nodes in the order of
the values of their paths.
-/

set_option autoImplicit false

namespace SyncFanet.OlsrEtx

open Olsr

namespace Dijkstra

section

variable {parameter : Parameter} {measure : Measure}

/-! ## The best node -/

def IsBest (measure : Measure) (dijkstraMap : NsAddr → Hop) (nodes : List NsAddr) :
    Option NsAddr → Prop
  | none => ∀ node ∈ nodes, (dijkstraMap node).hopCount = -1
  | some best => best ∈ nodes ∧ (dijkstraMap best).hopCount ≠ -1 ∧
      ∀ node ∈ nodes, (dijkstraMap node).hopCount ≠ -1 →
        measure.AtLeast (measure.value (dijkstraMap best).link)
          (measure.value (dijkstraMap node).link)

theorem bestCost_isBest (optimises : Optimises parameter measure) (dijkstra : Dijkstra) :
    IsBest measure dijkstra.dijkstraMap dijkstra.nonprocessedNodes
      (bestCost parameter dijkstra) := by
  refine foldl_seen (pickBest parameter dijkstra.dijkstraMap)
    (fun seen best => IsBest measure dijkstra.dijkstraMap seen best) (by simp [IsBest]) ?_
  intro seen node best _ holds
  unfold pickBest
  split
  · next unreached =>
    cases best with
    | none =>
        intro other member
        rcases List.mem_append.mp member with member | last
        · exact holds other member
        · exact List.mem_singleton.mp last ▸ unreached
    | some best =>
        refine ⟨List.mem_append_left _ holds.1, holds.2.1, fun other member reached => ?_⟩
        rcases List.mem_append.mp member with member | last
        · exact holds.2.2 other member reached
        · exact absurd (List.mem_singleton.mp last ▸ unreached) reached
  · next reached =>
    cases best with
    | none =>
        refine ⟨by simp, reached, fun other member reached' => ?_⟩
        rcases List.mem_append.mp member with member | last
        · exact absurd (holds other member) reached'
        · exact List.mem_singleton.mp last ▸ measure.atLeast_refl _
    | some best =>
        dsimp only
        split
        · next preferred =>
          have better := (better_measured optimises _ _).mp preferred
          refine ⟨by simp, reached, fun other member reached' => ?_⟩
          rcases List.mem_append.mp member with member | last
          · exact (Measure.atLeast_of_not better).trans (holds.2.2 other member reached')
          · exact List.mem_singleton.mp last ▸ measure.atLeast_refl _
        · next notPreferred =>
          refine ⟨List.mem_append_left _ holds.1, holds.2.1, fun other member reached' => ?_⟩
          rcases List.mem_append.mp member with member | last
          · exact holds.2.2 other member reached'
          · rw [List.mem_singleton.mp last]
            by_contra worse
            exact notPreferred ((better_measured optimises _ _).mpr worse)

/-! ## Trying the links of the best node -/

inductive Tried (measure : Measure) (dijkstra : Dijkstra) (current node : NsAddr) (hop : Hop) :
    Prop where
  | kept (same : hop = dijkstra.dijkstraMap node)
      (bound : node ∈ dijkstra.nonprocessedNodes → ∀ edge,
        dijkstra.getEdge node current = some edge →
        (dijkstra.dijkstraMap node).hopCount ≠ -1 ∧
          measure.AtLeast (measure.value (dijkstra.dijkstraMap node).link)
            (measure.extend (measure.value (dijkstra.dijkstraMap current).link)
              (measure.value edge)))
  | extended {edge : Edge} {quality delay : ℚ} (opened : node ∈ dijkstra.nonprocessedNodes)
      (found : dijkstra.getEdge node current = some edge)
      (same : hop = extendHop (dijkstra.dijkstraMap current) edge quality delay)
      (value : measure.value hop.link =
        measure.extend (measure.value (dijkstra.dijkstraMap current).link) (measure.value edge))
      (worse : (dijkstra.dijkstraMap node).hopCount = -1 ∨
        ¬ measure.AtLeast (measure.value (dijkstra.dijkstraMap node).link)
          (measure.extend (measure.value (dijkstra.dijkstraMap current).link)
            (measure.value edge)))

theorem Tried.moved {dijkstra : Dijkstra} {current node : NsAddr} {hop : Hop}
    (tried : Tried measure dijkstra current node hop) : Moved dijkstra current node hop := by
  cases tried with
  | kept same _ => exact .kept same
  | extended opened found same _ _ => exact .extended opened found same

theorem relaxedHop_tried (optimises : Optimises parameter measure) (dijkstra : Dijkstra)
    (current node : NsAddr) :
    Tried measure dijkstra current node (relaxedHop parameter dijkstra current node) := by
  unfold relaxedHop
  split
  · next opened =>
    cases found : dijkstra.getEdge node current with
    | none => exact .kept rfl fun _ edge found' => by simp [found] at found'
    | some edge =>
        cases relax_measured optimises (dijkstra.dijkstraMap current)
            (dijkstra.dijkstraMap node) edge with
        | kept same reached asGood =>
            refine .kept same fun _ edge' found' => ⟨reached, ?_⟩
            rw [found] at found'
            exact Option.some.inj found' ▸ asGood
        | extended same value worse => exact .extended opened found same value worse
  · next closed => exact .kept rfl fun opened => absurd opened closed

end

end Dijkstra

/-! ## The search -/

namespace Metric

section

variable {measure : Measure} {Weight : Type} [LinearOrder Weight] [Add Weight]

def weight (metric : Metric measure Weight) (edge : Edge) : Weight :=
  metric.weigh (measure.value edge)

def label (metric : Metric measure Weight) (dijkstra : Dijkstra) (node : NsAddr) :
    Option Weight :=
  if (dijkstra.dijkstraMap node).hopCount = -1 then none
  else some (metric.weight (dijkstra.dijkstraMap node).link)

/-- The links that `get_edge` finds. -/
def link (metric : Metric measure Weight) (dijkstra : Dijkstra) (last node : NsAddr)
    (weight : Weight) : Prop :=
  ∃ edge, dijkstra.getEdge node last = some edge ∧ metric.weight edge = weight

def starts (metric : Metric measure Weight) (direct : List (NsAddr × Edge)) (node : NsAddr)
    (cost : Weight) : Prop :=
  ∃ edge, (node, edge) ∈ direct ∧ metric.weight edge = cost

/-- The invariant of `run` on a recorded graph. -/
structure Running (metric : Metric measure Weight) (direct : List (NsAddr × Edge))
    (graph dijkstra : Dijkstra) : Prop extends Dijkstra.Recorded graph dijkstra where
  searched : Searched (metric.starts direct) (metric.link graph) (metric.label dijkstra)
    fun node => node ∈ dijkstra.nonprocessedNodes
  placed : ∀ node, Dijkstra.Placed direct dijkstra node
  inRange : ∀ node, (dijkstra.dijkstraMap node).hopCount ≠ -1 →
    measure.InRange (measure.value (dijkstra.dijkstraMap node).link)
  priced : ∀ node, 1 < (dijkstra.dijkstraMap node).hopCount →
    ∃ edge, graph.getEdge node (dijkstra.dijkstraMap node).link.lastNode = some edge ∧
      measure.value (dijkstra.dijkstraMap node).link = measure.extend
        (measure.value (dijkstra.dijkstraMap (dijkstra.dijkstraMap node).link.lastNode).link)
        (measure.value edge)

def Ranged (measure : Measure) (graph : Dijkstra) : Prop :=
  ∀ entry ∈ graph.linkArray, measure.InRange (measure.value entry.2)

variable {metric : Metric measure Weight} {direct recorded : List (NsAddr × Edge)}
  {graph dijkstra : Dijkstra}

theorem label_eq_some {node : NsAddr} {cost : Weight} :
    metric.label dijkstra node = some cost ↔ (dijkstra.dijkstraMap node).hopCount ≠ -1 ∧
      metric.weight (dijkstra.dijkstraMap node).link = cost := by
  unfold label
  split
  · next unreached => simp [unreached]
  · next reached => simp [reached]

theorem label_eq_none {node : NsAddr} :
    metric.label dijkstra node = none ↔ (dijkstra.dijkstraMap node).hopCount = -1 := by
  unfold label
  split
  · next unreached => simp [unreached]
  · next reached => simp [reached]

theorem path_known (metric : Metric measure Weight) (isGraph : Graph direct recorded graph) {node : NsAddr} {cost : Weight}
    (path : PathCost (metric.starts direct) (metric.link graph) node cost) :
    node ∈ graph.allNodes := by
  cases path with
  | first starts =>
      obtain ⟨edge, member, _⟩ := starts
      exact isGraph.direct_known member
  | next _ linked =>
      obtain ⟨edge, found, _⟩ := linked
      exact isGraph.edge_known found

theorem running_initial (metric : Metric measure Weight) (isGraph : Graph direct recorded graph)
    (functional : Dijkstra.Functional direct) (ranged : Ranged measure graph) :
    Running metric direct graph graph where
  toRecorded := isGraph.initial
  searched := by
    constructor
    · intro node cost labelled
      obtain ⟨reached, quality⟩ := label_eq_some.mp labelled
      rcases isGraph.hops node with ⟨_, member⟩ | ⟨unreached, _⟩
      · exact .first ⟨_, member, quality⟩
      · exact absurd unreached reached
    · rintro node cost ⟨edge, member, rfl⟩
      rcases isGraph.hops node with ⟨one, member'⟩ | ⟨_, absent⟩
      · refine ⟨metric.weight edge, le_refl _, label_eq_some.mpr ⟨by simp [one], ?_⟩⟩
        rw [functional node _ _ member' member]
      · exact absurd member (absent edge)
    · intro last node cost weight closed labelled linked
      exfalso
      obtain ⟨reached, _⟩ := label_eq_some.mp labelled
      rcases isGraph.hops last with ⟨_, member⟩ | ⟨unreached, _⟩
      · exact closed (isGraph.nonprocessed ▸ isGraph.direct_known member)
      · exact reached unreached
    · intro node cost closed path
      exact absurd (isGraph.nonprocessed ▸ path_known metric isGraph path) closed
  placed := isGraph.placed
  inRange := by
    intro node reached
    rcases isGraph.hops node with ⟨_, member⟩ | ⟨unreached, _⟩
    · exact ranged _ (isGraph.linkArray ▸ isGraph.among member)
    · exact absurd unreached reached
  priced := by
    intro node more
    rcases isGraph.hops node with ⟨one, _⟩ | ⟨unreached, _⟩ <;> omega

/-! ## One round -/

variable {parameter : Parameter} {current : NsAddr}

theorem processNode_tried (metric : Metric measure Weight)
    (optimises : Optimises parameter measure) (ranged : Ranged measure graph)
    (sorted : graph.allNodes.Nodup) (recorded : Dijkstra.Recorded graph dijkstra)
    (path : (dijkstra.dijkstraMap current).hopCount ≠ -1)
    (inRange : measure.InRange (measure.value (dijkstra.dijkstraMap current).link)) :
    (dijkstra.processNode parameter current).linkArray = dijkstra.linkArray ∧
      (dijkstra.processNode parameter current).allNodes = dijkstra.allNodes ∧
      (dijkstra.processNode parameter current).nonprocessedNodes =
        dijkstra.nonprocessedNodes.erase current ∧
      (∀ node, Dijkstra.Tried measure dijkstra current node
        ((dijkstra.processNode parameter current).dijkstraMap node)) ∧
      (dijkstra.processNode parameter current).dijkstraMap current =
        dijkstra.dijkstraMap current := by
  -- an edge from the current node to itself does not make its path better
  have unchanged : Dijkstra.relaxedHop parameter dijkstra current current =
      dijkstra.dijkstraMap current := by
    cases Dijkstra.relaxedHop_tried optimises dijkstra current current with
    | kept same _ => exact same
    | @extended edge _ _ _ found _ _ worse =>
        have edgeRange : measure.InRange (measure.value edge) :=
          ranged _ (recorded.linkArray ▸ (Dijkstra.getEdge_mem found).1)
        rcases worse with unreached | worse
        · exact absurd unreached path
        · refine absurd ((metric.le_iff inRange (Measure.extend_inRange inRange edgeRange)).mp ?_)
            worse
          rw [metric.sum inRange edgeRange]
          exact metric.inflates _ edgeRange
  unfold Dijkstra.processNode
  rw [Dijkstra.relaxNodes_map unchanged (recorded.allNodes ▸ sorted)]
  refine ⟨rfl, rfl, rfl, fun node => ?_, ?_⟩
  · dsimp only
    split
    · exact Dijkstra.relaxedHop_tried optimises dijkstra current node
    · next absent =>
      exact .kept rfl fun opened => absurd (recorded.known node opened) absent
  · dsimp only
    split
    · exact unchanged
    · rfl

theorem tried_relaxes (running : Running metric direct graph dijkstra)
    (ranged : Ranged measure graph) (path : (dijkstra.dijkstraMap current).hopCount ≠ -1)
    {dijkstra' : Dijkstra}
    (tried : ∀ node, Dijkstra.Tried measure dijkstra current node (dijkstra'.dijkstraMap node)) :
    Relaxes (metric.link graph) (fun node => node ∈ dijkstra.nonprocessedNodes) current
      (metric.weight (dijkstra.dijkstraMap current).link) (metric.label dijkstra)
      (metric.label dijkstra') := by
  have reached := (running.placed current).reached path
  have edges (node : NsAddr) : graph.getEdge node current = dijkstra.getEdge node current := by
    simp [Dijkstra.getEdge, running.linkArray]
  have edgeRange {node : NsAddr} {edge : Edge}
      (found : dijkstra.getEdge node current = some edge) :
      measure.InRange (measure.value edge) :=
    ranged _ (running.linkArray ▸ (Dijkstra.getEdge_mem found).1)
  have inRange := running.inRange current path
  -- the weight of the path over an edge from the current node
  have sum {node : NsAddr} {edge : Edge} (found : dijkstra.getEdge node current = some edge) :
      metric.weigh (measure.extend (measure.value (dijkstra.dijkstraMap current).link)
        (measure.value edge)) =
          metric.weight (dijkstra.dijkstraMap current).link + metric.weight edge :=
    metric.sum inRange (edgeRange found)
  constructor
  · intro node closed
    cases tried node with
    | kept same _ => simp [label, same]
    | extended opened _ _ _ _ => exact absurd opened closed
  · intro node cost labelled
    cases tried node with
    | kept same _ =>
        refine ⟨cost, le_refl _, ?_⟩
        simpa [label, same] using labelled
    | @extended edge _ _ _ found same value worse =>
        obtain ⟨known, rfl⟩ := label_eq_some.mp labelled
        refine ⟨metric.weight (dijkstra.dijkstraMap current).link + metric.weight edge, ?_,
          label_eq_some.mpr ⟨?_, ?_⟩⟩
        · rcases worse with unreached | worse
          · exact absurd unreached known
          · rw [← sum found]
            exact (metric.le_iff (Measure.extend_inRange inRange (edgeRange found))
              (running.inRange node known)).mpr (Measure.atLeast_of_not worse)
        · rw [same]
          show (dijkstra.dijkstraMap current).hopCount + 1 ≠ -1
          omega
        · rw [weight, value, sum found]
  · rintro node cost opened ⟨edge, found, rfl⟩
    rw [edges] at found
    cases tried node with
    | kept same bound =>
        obtain ⟨known, asGood⟩ := bound opened edge found
        refine ⟨metric.weight (dijkstra.dijkstraMap node).link, ?_,
          label_eq_some.mpr ⟨by rw [same]; exact known, by rw [same]⟩⟩
        rw [← sum found]
        exact (metric.le_iff (running.inRange node known)
          (Measure.extend_inRange inRange (edgeRange found))).mpr asGood
    | extended _ found' same value _ =>
        rw [found] at found'
        cases found'
        refine ⟨_, le_refl _, label_eq_some.mpr ⟨?_, ?_⟩⟩
        · rw [same]
          show (dijkstra.dijkstraMap current).hopCount + 1 ≠ -1
          omega
        · rw [weight, value, sum found]
  · intro node cost labelled
    cases tried node with
    | kept same _ =>
        left
        simpa [label, same] using labelled
    | @extended edge _ _ _ found same value _ =>
        obtain ⟨_, rfl⟩ := label_eq_some.mp labelled
        refine .inr ⟨metric.weight edge, ⟨edge, (edges node).trans found, rfl⟩, ?_⟩
        rw [weight, value, sum found]

variable [AddRightMono Weight]

theorem Running.processNode (running : Running metric direct graph dijkstra)
    (optimises : Optimises parameter measure) (ranged : Ranged measure graph)
    (sorted : graph.allNodes.Nodup) (best : dijkstra.bestCost parameter = some current) :
    Running metric direct graph (dijkstra.processNode parameter current) ∧
      (dijkstra.processNode parameter current).nonprocessedNodes.length + 1 =
        dijkstra.nonprocessedNodes.length := by
  have isBest := Dijkstra.bestCost_isBest optimises dijkstra
  rw [best] at isBest
  obtain ⟨opened, path, least⟩ := isBest
  have inRange := running.inRange current path
  obtain ⟨linkArray, allNodes, nonprocessed, tried, unchanged⟩ :=
    processNode_tried metric optimises ranged sorted running.toRecorded path inRange
  have open' (node : NsAddr) : node ∈ (dijkstra.processNode parameter current).nonprocessedNodes ↔
      node ∈ dijkstra.nonprocessedNodes ∧ node ≠ current := by
    rw [nonprocessed, running.nodup.mem_erase_iff, and_comm]
  have linked (node : NsAddr) : dijkstra.getEdge node current = graph.getEdge node current := by
    simp [Dijkstra.getEdge, running.linkArray]
  refine ⟨⟨⟨linkArray.trans running.linkArray, allNodes.trans running.allNodes, ?_, ?_⟩, ?_, ?_,
    ?_, ?_⟩, ?_⟩
  · intro node member
    rw [allNodes]
    exact running.known node ((open' node).mp member).1
  · rw [nonprocessed]
    exact running.nodup.erase current
  · have inflates : ∀ last node weight (cost : Weight), metric.link graph last node weight →
        cost ≤ cost + weight := by
      rintro last node weight cost ⟨edge, found, rfl⟩
      exact metric.inflates cost (ranged _ (Dijkstra.getEdge_mem found).1)
    have settled := running.searched.settle inflates
      ⟨opened, label_eq_some.mpr ⟨path, rfl⟩, fun node cost opened' labelled => by
        obtain ⟨reached, rfl⟩ := label_eq_some.mp labelled
        exact (metric.le_iff inRange (running.inRange node reached)).mpr
          (least node opened' reached)⟩
      (tried_relaxes running ranged path tried)
    simpa only [open'] using settled
  · exact Dijkstra.Placed.step running.placed path (running.known current opened) allNodes open'
      (fun node => (tried node).moved) unchanged
  · intro node reached
    cases tried node with
    | kept same _ =>
        rw [same] at reached ⊢
        exact running.inRange node reached
    | extended _ found _ value _ =>
        rw [value]
        exact Measure.extend_inRange inRange
          (ranged _ (running.linkArray ▸ (Dijkstra.getEdge_mem found).1))
  · intro node more
    cases tried node with
    | kept same _ =>
        rw [same] at more ⊢
        obtain ⟨edge, found, value⟩ := running.priced node more
        refine ⟨edge, found, ?_⟩
        -- the node before is processed, and so its entry stays
        have before : (dijkstra.processNode parameter current).dijkstraMap
            (dijkstra.dijkstraMap node).link.lastNode =
              dijkstra.dijkstraMap (dijkstra.dijkstraMap node).link.lastNode := by
          cases running.placed node with
          | unreached none => omega
          | direct one _ => omega
          | via last link _ processed _ _ =>
              rw [link]
              cases tried last with
              | kept same' _ => exact same'
              | extended opened' _ _ _ _ => exact absurd opened' processed
        rw [before]
        exact value
    | @extended edge _ _ _ found same value _ =>
        have last : ((dijkstra.processNode parameter current).dijkstraMap node).link.lastNode =
            current := by
          rw [same]
          exact (Dijkstra.getEdge_mem found).2
        rw [last, unchanged]
        exact ⟨edge, (linked node).symm.trans found, value⟩
  · rw [nonprocessed, List.length_erase_of_mem opened]
    have positive := List.length_pos_of_mem opened
    omega

/-- `run` ends with the best paths: what it left open has none. -/
theorem run_finishes (optimises : Optimises parameter measure) (ranged : Ranged measure graph)
    (sorted : graph.allNodes.Nodup) {fuel : Nat} (running : Running metric direct graph dijkstra)
    (enough : dijkstra.nonprocessedNodes.length ≤ fuel) :
    ∃ finished, Dijkstra.run parameter fuel dijkstra = .ok finished ∧
      Running metric direct graph finished ∧
      ∀ node ∈ finished.nonprocessedNodes, (finished.dijkstraMap node).hopCount = -1 := by
  induction fuel generalizing dijkstra with
  | zero =>
      have empty : dijkstra.nonprocessedNodes = [] :=
        List.eq_nil_of_length_eq_zero (Nat.le_zero.mp enough)
      exact ⟨dijkstra, by simp [Dijkstra.run, empty], running, by simp [empty]⟩
  | succ fuel ih =>
      cases best : Dijkstra.bestCost parameter dijkstra with
      | none =>
          have isBest := Dijkstra.bestCost_isBest optimises dijkstra
          rw [best] at isBest
          exact ⟨dijkstra, by simp [Dijkstra.run, best], running, isBest⟩
      | some current =>
          obtain ⟨running', shorter⟩ := running.processNode optimises ranged sorted best
          obtain ⟨finished, ran, rest⟩ := ih running' (by omega)
          exact ⟨finished, by simpa [Dijkstra.run, best] using ran, rest⟩

end

end Metric

end SyncFanet.OlsrEtx
