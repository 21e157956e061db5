import SyncFanet.Library.Fold
import SyncFanet.OlsrEtx.Dijkstra

/-!
# The recorded graph, and one round of `run`

What `add_edge` leaves for `run`, and what a round of `run` does to the entries of the
nodes, whatever the costs of paths are.
-/

set_option autoImplicit false

namespace SyncFanet.OlsrEtx

open Olsr

/-! ## The recorded graph -/

theorem mem_insertNode {node other : NsAddr} {nodes : List NsAddr} :
    other ∈ insertNode node nodes ↔ other = node ∨ other ∈ nodes := by
  induction nodes with
  | nil => simp [insertNode]
  | cons head tail ih =>
      unfold insertNode
      split
      · simp only [List.mem_cons, ih]
        tauto
      · split
        · next same => simp [same]
        · simp

theorem insertNode_sorted (node : NsAddr) {nodes : List NsAddr}
    (sorted : nodes.Pairwise (· < ·)) : (insertNode node nodes).Pairwise (· < ·) := by
  induction nodes with
  | nil => simp [insertNode]
  | cons head tail ih =>
      obtain ⟨above, rest⟩ := List.pairwise_cons.mp sorted
      unfold insertNode
      split
      · next below =>
        refine List.pairwise_cons.mpr ⟨fun other member => ?_, ih rest⟩
        rcases mem_insertNode.mp member with rfl | member
        · exact below
        · exact above other member
      · split
        · exact sorted
        · next notBelow different =>
          have first : node < head :=
            lt_of_le_of_ne (not_lt.mp notBelow) fun same => different same.symm
          refine List.pairwise_cons.mpr ⟨fun other member => ?_, sorted⟩
          rcases List.mem_cons.mp member with rfl | member
          · exact first
          · exact first.trans (above other member)
/-- What `add_edge` made of the edges recorded so far, some of them direct. -/
structure Graph (direct recorded : List (NsAddr × Edge)) (dijkstra : Dijkstra) : Prop where
  among : direct ⊆ recorded
  linkArray : dijkstra.linkArray = recorded
  nodes : ∀ node, node ∈ dijkstra.allNodes ↔ ∃ edge, (node, edge) ∈ recorded
  sorted : dijkstra.allNodes.Pairwise (· < ·)
  nonprocessed : dijkstra.nonprocessedNodes = dijkstra.allNodes
  hops : ∀ node,
    (dijkstra.dijkstraMap node).hopCount = 1 ∧ (node, (dijkstra.dijkstraMap node).link) ∈ direct ∨
      (dijkstra.dijkstraMap node).hopCount = -1 ∧ ∀ edge, (node, edge) ∉ direct

section

variable {direct recorded : List (NsAddr × Edge)} {dijkstra : Dijkstra}

theorem graph_empty : Graph [] [] {} :=
  ⟨by simp, rfl, by simp, List.Pairwise.nil, rfl, fun node => .inr ⟨rfl, by simp⟩⟩

theorem Graph.moreNodes (graph : Graph direct recorded dijkstra) (edge : NsAddr × Edge)
    (directConnected : Bool) (node : NsAddr) :
    node ∈ (dijkstra.addEdge edge.1 edge.2 directConnected).allNodes ↔
      ∃ link, (node, link) ∈ recorded ++ [edge] := by
  simp only [Dijkstra.addEdge, mem_insertNode, graph.nodes, List.mem_append, List.mem_singleton]
  constructor
  · rintro (rfl | ⟨link, member⟩)
    · exact ⟨edge.2, .inr rfl⟩
    · exact ⟨link, .inl member⟩
  · rintro ⟨link, member | same⟩
    · exact .inr ⟨link, member⟩
    · exact .inl (congrArg Prod.fst same)

theorem Graph.addDirect (graph : Graph direct recorded dijkstra) (edge : NsAddr × Edge) :
    Graph (direct ++ [edge]) (recorded ++ [edge]) (dijkstra.addEdge edge.1 edge.2 true) where
  among := List.append_subset.mpr
    ⟨List.subset_append_of_subset_left _ graph.among, List.subset_append_right _ _⟩
  linkArray := by simp [Dijkstra.addEdge, graph.linkArray]
  nodes := graph.moreNodes edge true
  sorted := insertNode_sorted _ graph.sorted
  nonprocessed := by simp [Dijkstra.addEdge, graph.nonprocessed]
  hops := by
    intro node
    by_cases here : node = edge.1
    · left
      subst here
      simp [Dijkstra.addEdge]
    · have kept : (dijkstra.addEdge edge.1 edge.2 true).dijkstraMap node =
          dijkstra.dijkstraMap node := by
        simp [Dijkstra.addEdge, here]
      rw [kept]
      rcases graph.hops node with ⟨hop, member⟩ | ⟨hop, absent⟩
      · exact .inl ⟨hop, List.mem_append_left _ member⟩
      · refine .inr ⟨hop, fun link member => ?_⟩
        rcases List.mem_append.mp member with member | last
        · exact absent link member
        · exact here (congrArg Prod.fst (List.mem_singleton.mp last))

theorem Graph.addFar (graph : Graph direct recorded dijkstra) (edge : NsAddr × Edge) :
    Graph direct (recorded ++ [edge]) (dijkstra.addEdge edge.1 edge.2 false) where
  among := List.subset_append_of_subset_left _ graph.among
  linkArray := by simp [Dijkstra.addEdge, graph.linkArray]
  nodes := graph.moreNodes edge false
  sorted := insertNode_sorted _ graph.sorted
  nonprocessed := by simp [Dijkstra.addEdge, graph.nonprocessed]
  hops := by
    intro node
    simp only [Dijkstra.addEdge, Bool.false_eq_true, if_false]
    split
    · exact graph.hops node
    · next fresh =>
      by_cases here : node = edge.1
      · subst here
        simp only [Function.update_self]
        refine .inr ⟨trivial, fun link member => fresh ?_⟩
        exact (graph.nodes edge.1).mpr ⟨link, graph.among member⟩
      · simpa [here] using graph.hops node

end

section

variable (parameter : Parameter) (raAddr : NsAddr) (state : Repositories) (now : Int)

theorem recordGraph_graph :
    Graph (directEdges parameter state now)
      (directEdges parameter state now ++ farEdges parameter raAddr state)
      (recordGraph parameter raAddr state now) := by
  have direct := foldl_seen (fun dijkstra (edge : NsAddr × Edge) =>
    Dijkstra.addEdge dijkstra edge.1 edge.2 true) (fun seen dijkstra => Graph seen seen dijkstra)
    graph_empty fun seen edge dijkstra (_ : edge ∈ directEdges parameter state now) graph =>
      graph.addDirect edge
  refine foldl_seen (fun dijkstra (edge : NsAddr × Edge) =>
    Dijkstra.addEdge dijkstra edge.1 edge.2 false)
    (fun seen dijkstra => Graph (directEdges parameter state now)
      (directEdges parameter state now ++ seen) dijkstra) ?_
    fun seen edge dijkstra _ graph => ?_
  · simpa using direct
  · simpa using graph.addFar edge

end

/-! ## Trying the links of a node -/

namespace Dijkstra

@[simp] theorem getEdge_withMap (dijkstra : Dijkstra) (dijkstraMap : NsAddr → Hop)
    (node last : NsAddr) :
    ({ dijkstra with dijkstraMap := dijkstraMap } : Dijkstra).getEdge node last =
      dijkstra.getEdge node last := rfl

theorem getEdge_mem {dijkstra : Dijkstra} {node last : NsAddr} {edge : Edge}
    (found : dijkstra.getEdge node last = some edge) :
    (node, edge) ∈ dijkstra.linkArray ∧ edge.lastNode = last := by
  obtain ⟨entry, first, rfl⟩ := Option.map_eq_some_iff.mp found
  have ends : entry.1 = node ∧ entry.2.lastNode = last := by
    simpa using List.find?_some first
  exact ⟨ends.1 ▸ List.mem_of_find?_eq_some first, ends.2⟩

section

variable {parameter : Parameter}

def relaxedHop (parameter : Parameter) (dijkstra : Dijkstra) (current node : NsAddr) : Hop :=
  if node ∈ dijkstra.nonprocessedNodes then
    match dijkstra.getEdge node current with
    | none => dijkstra.dijkstraMap node
    | some edge => relax parameter (dijkstra.dijkstraMap current) edge (dijkstra.dijkstraMap node)
  else dijkstra.dijkstraMap node

/-- The loop over all nodes tries the links of the current node, whose own entry it
leaves alone. -/
theorem relaxNodes_map {dijkstra : Dijkstra} {current : NsAddr}
    (unchanged : relaxedHop parameter dijkstra current current = dijkstra.dijkstraMap current)
    (nodup : dijkstra.allNodes.Nodup) :
    dijkstra.allNodes.foldl (relaxNode parameter current) dijkstra =
      { dijkstra with
        dijkstraMap := fun node =>
          if node ∈ dijkstra.allNodes then relaxedHop parameter dijkstra current node
          else dijkstra.dijkstraMap node } := by
  refine foldl_split (relaxNode parameter current)
    (fun seen relaxed => relaxed = { dijkstra with
      dijkstraMap := fun node =>
        if node ∈ seen then relaxedHop parameter dijkstra current node
        else dijkstra.dijkstraMap node }) (by simp) ?_
  rintro seen node rest relaxed split rfl
  have fresh : node ∉ seen := by
    rw [split] at nodup
    exact fun member => (List.nodup_append.mp nodup).2.2 node member node (by simp) rfl
  have here : (if current ∈ seen then relaxedHop parameter dijkstra current current
      else dijkstra.dijkstraMap current) = dijkstra.dijkstraMap current := by
    split
    · exact unchanged
    · rfl
  unfold relaxNode
  by_cases opened : node ∈ dijkstra.nonprocessedNodes
  · simp only [opened, if_true, getEdge_withMap]
    cases found : dijkstra.getEdge node current with
    | none =>
        dsimp only
        congr 1
        funext other
        by_cases same : other = node
        · subst same
          simp [fresh, relaxedHop, opened, found]
        · simp [same]
    | some edge =>
        simp only [here, fresh, if_false]
        congr 1
        funext other
        by_cases same : other = node
        · subst same
          simp [relaxedHop, opened, found]
        · simp [same]
  · simp only [opened, if_false]
    congr 1
    funext other
    by_cases same : other = node
    · subst same
      simp [fresh, relaxedHop, opened]
    · simp [same]

/-- `best_cost` returns an open node that has a path. -/
theorem bestCost_open {dijkstra : Dijkstra} {current : NsAddr}
    (best : bestCost parameter dijkstra = some current) :
    current ∈ dijkstra.nonprocessedNodes ∧ (dijkstra.dijkstraMap current).hopCount ≠ -1 := by
  have found : ∀ picked ∈ bestCost parameter dijkstra,
      picked ∈ dijkstra.nonprocessedNodes ∧ (dijkstra.dijkstraMap picked).hopCount ≠ -1 := by
    refine foldl_keeps (pickBest parameter dijkstra.dijkstraMap)
      (fun best => ∀ picked ∈ best, picked ∈ dijkstra.nonprocessedNodes ∧
        (dijkstra.dijkstraMap picked).hopCount ≠ -1) (by simp) ?_
    intro node best member holds
    unfold pickBest
    split
    · exact holds
    · next reached =>
      split
      · intro picked same
        cases same
        exact ⟨member, reached⟩
      · next other =>
        split
        · intro picked same
          cases same
          exact ⟨member, reached⟩
        · exact holds
  exact found current best

theorem processNode_nonprocessed (parameter : Parameter) (current : NsAddr) (dijkstra : Dijkstra) :
    (processNode parameter current dijkstra).nonprocessedNodes =
      dijkstra.nonprocessedNodes.erase current := by
  have kept : (dijkstra.allNodes.foldl (relaxNode parameter current) dijkstra).nonprocessedNodes =
      dijkstra.nonprocessedNodes := by
    refine foldl_keeps (relaxNode parameter current)
      (fun relaxed => relaxed.nonprocessedNodes = dijkstra.nonprocessedNodes) rfl ?_
    intro node relaxed _ holds
    unfold relaxNode
    split
    · split
      · exact holds
      · exact holds
    · exact holds
  unfold processNode
  rw [← kept]

theorem run_total (parameter : Parameter) {fuel : Nat} {dijkstra : Dijkstra}
    (enough : dijkstra.nonprocessedNodes.length ≤ fuel) :
    ∃ finished, run parameter fuel dijkstra = .ok finished := by
  induction fuel generalizing dijkstra with
  | zero =>
      have empty : dijkstra.nonprocessedNodes = [] :=
        List.eq_nil_of_length_eq_zero (Nat.le_zero.mp enough)
      exact ⟨dijkstra, by simp [run, empty]⟩
  | succ fuel ih =>
      unfold run
      cases best : bestCost parameter dijkstra with
      | none => exact ⟨dijkstra, rfl⟩
      | some current =>
          have opened := (bestCost_open best).1
          have shorter := List.length_erase_of_mem opened
          have positive := List.length_pos_of_mem opened
          apply ih
          rw [processNode_nonprocessed]
          omega

theorem run_keeps {parameter : Parameter} (holds : Dijkstra → Prop)
    (keeps : ∀ {dijkstra : Dijkstra} {current : NsAddr},
      bestCost parameter dijkstra = some current → holds dijkstra →
        holds (processNode parameter current dijkstra))
    {fuel : Nat} {dijkstra finished : Dijkstra} (ran : run parameter fuel dijkstra = .ok finished)
    (start : holds dijkstra) : holds finished := by
  induction fuel generalizing dijkstra with
  | zero =>
      unfold run at ran
      split at ran
      · exact Except.ok.inj ran ▸ start
      · cases ran
  | succ fuel ih =>
      unfold run at ran
      cases best : bestCost parameter dijkstra with
      | none =>
          simp only [best] at ran
          exact Except.ok.inj ran ▸ start
      | some current =>
          simp only [best] at ran
          exact ih ran (keeps best start)

end

/-! ## Where paths come from -/

/-- Where the path to a node comes from: nowhere, a direct link, or a processed node
with one hop less. -/
inductive Placed (direct : List (NsAddr × Edge)) (dijkstra : Dijkstra) (node : NsAddr) : Prop where
  | unreached (none : (dijkstra.dijkstraMap node).hopCount = -1)
  | direct (one : (dijkstra.dijkstraMap node).hopCount = 1)
      (recorded : (node, (dijkstra.dijkstraMap node).link) ∈ direct)
  | via (last : NsAddr) (same : (dijkstra.dijkstraMap node).link.lastNode = last)
      (known : last ∈ dijkstra.allNodes) (processed : last ∉ dijkstra.nonprocessedNodes)
      (reached : 1 ≤ (dijkstra.dijkstraMap last).hopCount)
      (next : (dijkstra.dijkstraMap node).hopCount = (dijkstra.dijkstraMap last).hopCount + 1)

/-- What `run` leaves alone of the recorded graph. -/
structure Recorded (graph dijkstra : Dijkstra) : Prop where
  linkArray : dijkstra.linkArray = graph.linkArray
  allNodes : dijkstra.allNodes = graph.allNodes
  known : ∀ node ∈ dijkstra.nonprocessedNodes, node ∈ dijkstra.allNodes
  nodup : dijkstra.nonprocessedNodes.Nodup

def Functional (direct : List (NsAddr × Edge)) : Prop :=
  ∀ node edge edge', (node, edge) ∈ direct → (node, edge') ∈ direct → edge = edge'

section

variable {direct : List (NsAddr × Edge)} {dijkstra : Dijkstra} {current : NsAddr}

theorem Placed.reached {node : NsAddr} (placed : Placed direct dijkstra node)
    (path : (dijkstra.dijkstraMap node).hopCount ≠ -1) :
    1 ≤ (dijkstra.dijkstraMap node).hopCount := by
  cases placed with
  | unreached none => exact absurd none path
  | direct one _ => exact one.ge
  | via _ _ _ _ reached next => omega

inductive Moved (dijkstra : Dijkstra) (current node : NsAddr) (hop : Hop) : Prop where
  | kept (same : hop = dijkstra.dijkstraMap node)
  | extended {edge : Edge} {quality delay : ℚ} (opened : node ∈ dijkstra.nonprocessedNodes)
      (found : dijkstra.getEdge node current = some edge)
      (same : hop = extendHop (dijkstra.dijkstraMap current) edge quality delay)

theorem relax_moves (parameter : Parameter) (current dest : Hop) (edge : Edge) :
    relax parameter current edge dest = dest ∨
      ∃ quality delay, relax parameter current edge dest =
        extendHop current edge quality delay := by
  unfold relax
  dsimp only
  repeat' split
  all_goals first | exact .inl rfl | exact .inr ⟨_, _, rfl⟩

theorem relaxedHop_moved (parameter : Parameter) (dijkstra : Dijkstra) (current node : NsAddr) :
    Moved dijkstra current node (relaxedHop parameter dijkstra current node) := by
  unfold relaxedHop
  split
  · next opened =>
    cases found : dijkstra.getEdge node current with
    | none => exact .kept rfl
    | some edge =>
        rcases relax_moves parameter (dijkstra.dijkstraMap current) (dijkstra.dijkstraMap node)
          edge with same | ⟨quality, delay, same⟩
        · exact .kept same
        · exact .extended opened found same
  · exact .kept rfl

theorem Placed.step {dijkstra' : Dijkstra} (placed : ∀ node, Placed direct dijkstra node)
    (path : (dijkstra.dijkstraMap current).hopCount ≠ -1) (known : current ∈ dijkstra.allNodes)
    (allNodes : dijkstra'.allNodes = dijkstra.allNodes)
    (open' : ∀ node, node ∈ dijkstra'.nonprocessedNodes ↔
      node ∈ dijkstra.nonprocessedNodes ∧ node ≠ current)
    (moved : ∀ node, Moved dijkstra current node (dijkstra'.dijkstraMap node))
    (unchanged : dijkstra'.dijkstraMap current = dijkstra.dijkstraMap current) (node : NsAddr) :
    Placed direct dijkstra' node := by
  cases moved node with
  | kept same =>
      cases placed node with
      | unreached none => exact .unreached (by rw [same]; exact none)
      | direct one recorded =>
          exact .direct (by rw [same]; exact one) (by rw [same]; exact recorded)
      | via last link known' processed reached next =>
          have closed : dijkstra'.dijkstraMap last = dijkstra.dijkstraMap last := by
            cases moved last with
            | kept same' => exact same'
            | extended opened _ _ => exact absurd opened processed
          refine .via last (by rw [same]; exact link) (allNodes ▸ known')
            (fun member => processed ((open' last).mp member).1) ?_ ?_
          · rw [closed]
            exact reached
          · rw [same, closed]
            exact next
  | extended _ found same =>
      refine .via current ?_ (allNodes ▸ known)
        (fun member => ((open' current).mp member).2 rfl) ?_ ?_
      · rw [same]
        exact (getEdge_mem found).2
      · rw [unchanged]
        exact (placed current).reached path
      · rw [same, unchanged]
        rfl

end

end Dijkstra

section

variable {direct recorded : List (NsAddr × Edge)} {dijkstra : Dijkstra}

theorem Graph.initial (graph : Graph direct recorded dijkstra) : Dijkstra.Recorded dijkstra dijkstra where
  linkArray := rfl
  allNodes := rfl
  known := fun _ member => graph.nonprocessed ▸ member
  nodup := graph.nonprocessed ▸ graph.sorted.imp ne_of_lt

theorem Graph.placed (graph : Graph direct recorded dijkstra) (node : NsAddr) :
    Dijkstra.Placed direct dijkstra node := by
  rcases graph.hops node with ⟨one, member⟩ | ⟨unreached, _⟩
  · exact .direct one member
  · exact .unreached unreached

/-- A direct edge, or one that `get_edge` finds, leads to a recorded node. -/
theorem Graph.direct_known (graph : Graph direct recorded dijkstra) {node : NsAddr} {edge : Edge}
    (member : (node, edge) ∈ direct) : node ∈ dijkstra.allNodes :=
  (graph.nodes node).mpr ⟨edge, graph.among member⟩

theorem Graph.edge_known (graph : Graph direct recorded dijkstra) {node last : NsAddr}
    {edge : Edge} (found : dijkstra.getEdge node last = some edge) : node ∈ dijkstra.allNodes :=
  (graph.nodes node).mpr ⟨edge, graph.linkArray ▸ (Dijkstra.getEdge_mem found).1⟩

end

section

variable {parameter : Parameter} {state : Repositories} {now : Int}

theorem mem_directEdges {node : NsAddr} {edge : Edge}
    (member : (node, edge) ∈ directEdges parameter state now) :
    ∃ best, state.findBestSymLinkTuple parameter node now = some best ∧
      edge = edgeOver parameter best.localIfaceAddr best.qualities := by
  obtain ⟨nb, _, recorded⟩ := List.mem_filterMap.mp member
  obtain ⟨best, found, same⟩ := Option.map_eq_some_iff.mp recorded
  obtain ⟨rfl, rfl⟩ := Prod.mk.inj same
  exact ⟨best, found, rfl⟩

theorem directEdges_functional : Dijkstra.Functional (directEdges parameter state now) := by
  intro node edge edge' member member'
  obtain ⟨best, found, rfl⟩ := mem_directEdges member
  obtain ⟨best', found', rfl⟩ := mem_directEdges member'
  rw [found] at found'
  rw [Option.some.inj found']

end

end SyncFanet.OlsrEtx
