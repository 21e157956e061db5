import Mathlib.Combinatorics.SimpleGraph.Metric

/-!
# Relays that cover the two-hop neighborhood

Every vertex of a graph picks relays among its neighbors so that each vertex two
hops away is adjacent to a relay. Two consequences are used: the links between
relays and those who picked them keep all distances, and a flood that only relays
continue still reaches every vertex.
-/

set_option autoImplicit false

namespace SyncFanet

variable {Vertex : Type}

/-- `relay u m` says that `u` picked `m`. -/
structure RelayCover (graph : SimpleGraph Vertex) (relay : Vertex → Vertex → Prop) : Prop where
  adjacent : ∀ u m, relay u m → graph.Adj u m
  covers : ∀ u m v, graph.Adj u m → graph.Adj m v → v ≠ u → ¬ graph.Adj u v →
    ∃ m', relay u m' ∧ graph.Adj m' v

namespace RelayCover

variable {graph : SimpleGraph Vertex} {relay : Vertex → Vertex → Prop}

variable {target source : Vertex} {hops : Nat}

/-! ## Distances -/

/-- A neighbor one step back on a shortest path. -/
theorem exists_adj_dist (far : graph.dist source target = hops + 1) :
    ∃ previous, graph.Adj previous target ∧ graph.dist source previous = hops := by
  obtain ⟨path, length⟩ := SimpleGraph.exists_walk_of_dist_ne_zero
    (show graph.dist source target ≠ 0 by omega)
  have long : ¬ path.Nil := by
    intro empty
    have := SimpleGraph.Walk.length_eq_zero_iff.mpr empty
    omega
  have step := path.adj_penultimate long
  have front : graph.dist source path.penultimate ≤ hops := by
    have shorter := SimpleGraph.dist_le path.dropLast
    rw [SimpleGraph.Walk.length_dropLast] at shorter
    omega
  have back := SimpleGraph.Reachable.dist_triangle_right step.reachable source
  rw [SimpleGraph.dist_eq_one_iff_adj.mpr step] at back
  exact ⟨path.penultimate, step, by omega⟩

theorem dist_le_succ (source : Vertex) {previous : Vertex} (step : graph.Adj previous target) :
    graph.dist source target ≤ graph.dist source previous + 1 := by
  have triangle := SimpleGraph.Reachable.dist_triangle_right step.reachable source
  rw [SimpleGraph.dist_eq_one_iff_adj.mpr step] at triangle
  exact triangle

/-- Distances leave no gap. -/
theorem exists_dist_eq (far : hops ≤ graph.dist source target) :
    ∃ vertex, graph.dist source vertex = hops := by
  obtain ⟨gap, total⟩ := Nat.exists_eq_add_of_le far
  induction gap generalizing target with
  | zero => exact ⟨target, total⟩
  | succ gap ih =>
      obtain ⟨previous, _, nearer⟩ := exists_adj_dist
        (show graph.dist source target = (hops + gap) + 1 by omega)
      exact ih (by omega) nearer

/-- Beyond the first hop, every vertex has a relay on the layer before it. -/
theorem exists_relay_on_layer (cover : RelayCover graph relay)
    (far : graph.dist source target = hops + 2) :
    ∃ m, relay target m ∧ graph.dist source m = hops + 1 := by
  obtain ⟨near, step, layer⟩ := exists_adj_dist far
  obtain ⟨nearer, step', layer'⟩ := exists_adj_dist layer
  have different : nearer ≠ target := by
    rintro rfl
    omega
  have apart : ¬ graph.Adj target nearer := by
    intro adjacent
    have := dist_le_succ source adjacent.symm
    omega
  obtain ⟨m, picked, reaches⟩ :=
    cover.covers target near nearer step.symm step'.symm different apart
  have upper := dist_le_succ source reaches.symm
  have lower := dist_le_succ source (cover.adjacent target m picked).symm
  exact ⟨m, picked, by omega⟩

/-! ## Flooding -/

variable [DecidableRel graph.Adj]

/-- The transmitter that a vertex hears first. -/
def firstHeard (graph : SimpleGraph Vertex) [DecidableRel graph.Adj] (log : List Vertex)
    (vertex : Vertex) : Option Vertex :=
  log.find? fun sender => graph.Adj sender vertex

/-- A log of transmissions is finished when every vertex that is a relay of the
transmitter it heard first has transmitted. -/
def Finished (graph : SimpleGraph Vertex) [DecidableRel graph.Adj]
    (relay : Vertex → Vertex → Prop) (log : List Vertex) : Prop :=
  ∀ vertex sender, firstHeard graph log vertex = some sender → relay sender vertex →
    vertex ∈ log

/-- The earliest transmitter within two hops of a vertex has a relay next to the
vertex, and that relay heard no one before it. -/
theorem heard_of_near (cover : RelayCover graph relay) {log : List Vertex}
    (finished : Finished graph relay log)
    (near : ∃ sender ∈ log, ∃ m, graph.Adj sender m ∧ graph.Adj m target) (silent : target ∉ log) :
    ∃ sender ∈ log, graph.Adj sender target := by
  classical
  by_contra unheard
  push Not at unheard
  have some' : (log.find? fun sender =>
      decide (∃ m, graph.Adj sender m ∧ graph.Adj m target)).isSome := by
    rw [List.find?_isSome]
    obtain ⟨sender, member, path⟩ := near
    exact ⟨sender, member, by simpa using path⟩
  obtain ⟨earliest, found⟩ := Option.isSome_iff_exists.mp some'
  have member := List.mem_of_find?_eq_some found
  obtain ⟨m, step, step'⟩ : ∃ m, graph.Adj earliest m ∧ graph.Adj m target := by
    simpa using List.find?_some found
  have different : target ≠ earliest := by
    rintro rfl
    exact silent member
  obtain ⟨chosen, picked, reaches⟩ :=
    cover.covers earliest m target step step' different (unheard earliest member)
  have heard : firstHeard graph log chosen = some earliest := by
    obtain ⟨_, before, after, split, earlier⟩ := List.find?_eq_some_iff_append.mp found
    refine List.find?_eq_some_iff_append.mpr
      ⟨by simpa using cover.adjacent earliest chosen picked, before, after, split, ?_⟩
    intro sender among
    have apart := earlier sender among
    simp only [Bool.not_eq_eq_eq_not, Bool.not_true, decide_eq_false_iff_not] at apart ⊢
    exact fun adjacent => apart ⟨chosen, adjacent, reaches⟩
  exact unheard chosen (finished chosen earliest heard picked) reaches

/-- A finished flood is heard along every walk from its source. -/
theorem heard_along (cover : RelayCover graph relay) {log : List Vertex}
    (finished : Finished graph relay log) {vertex : Vertex} (started : source ∈ log)
    (walk : graph.Walk source vertex) :
    vertex ∈ log ∨ ∃ sender ∈ log, graph.Adj sender vertex := by
  induction walk using SimpleGraph.Walk.concatRec with
  | Hnil => exact .inl started
  | @Hconcat first middle last walk step ih =>
      rcases ih started with transmitted | ⟨sender, member, adjacent⟩
      · exact .inr ⟨middle, transmitted, step⟩
      · by_cases spoke : last ∈ log
        · exact .inl spoke
        · exact .inr (cover.heard_of_near finished ⟨sender, member, middle, adjacent, step⟩
            spoke)

end RelayCover

end SyncFanet
