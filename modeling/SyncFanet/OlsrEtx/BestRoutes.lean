import SyncFanet.OlsrEtx.DijkstraTable

/-!
# The best known routes

Three repositories may record a link between the same two nodes, and `get_edge` returns
the link that was recorded first. The routes are the best of all known links exactly
when the links behind the first ones offer nothing cheaper.
-/

set_option autoImplicit false

namespace SyncFanet.OlsrEtx

open Olsr

section

variable (parameter : Parameter) (raAddr : NsAddr) (state : Repositories) (now : Int)

/-- The symmetric best links, the 2-hop tuples through willing symmetric neighbors and
the topology tuples. Links to the node itself are left out. -/
def knownEdges : List (NsAddr × Edge) :=
  directEdges parameter state now ++
    ((state.nb2hopset.filter (usable2hop raAddr state)).map (hopEdge parameter) ++
      topologyEdges parameter raAddr state)

def knownLink (last node : NsAddr) (weight : ℚ) : Prop :=
  ∃ edge, (node, edge) ∈ knownEdges parameter raAddr state now ∧ edge.lastNode = last ∧
    edge.quality = weight

/-- The total ETX of the paths from this node over all known links. -/
def KnownCost (node : NsAddr) (cost : ℚ) : Prop :=
  PathCost (Dijkstra.starts (directEdges parameter state now))
    (knownLink parameter raAddr state now) node cost

/-- The total ETX of the paths over the links that were recorded first. -/
def FirstCost (node : NsAddr) (cost : ℚ) : Prop :=
  PathCost (Dijkstra.starts (directEdges parameter state now))
    (recordGraph parameter raAddr state now).link node cost

/-- The quality of every entry is the least total ETX of all paths to its destination,
or to the main address that the destination is another interface of. -/
def BestRoutes (rtable : Rtable) : Prop :=
  ∀ dest entry, rtable.lookup dest = some entry → ∃ node,
    Stands state.ifaceassocset dest node ∧
      IsLeast { cost | KnownCost parameter raAddr state now node cost } entry.quality ∧
      ((∃ cost, KnownCost parameter raAddr state now dest cost) → node = dest)

/-- No known link makes a path cheaper than the links that were recorded first. -/
def FirstLinksSuffice : Prop :=
  ∀ last node weight cost, knownLink parameter raAddr state now last node weight →
    FirstCost parameter raAddr state now last cost →
    ∃ cheaper ≤ cost + weight, FirstCost parameter raAddr state now node cheaper

end

section

variable {parameter : Parameter} {raAddr : NsAddr} {state : Repositories} {now : Int}

/-! ## Recorded links are known -/

theorem usable2hop_congr {hop hop' : MetricNb2hop} (nb : hop'.nbMainAddr = hop.nbMainAddr)
    (addr : hop'.nb2hopAddr = hop.nb2hopAddr) :
    usable2hop raAddr state hop' = usable2hop raAddr state hop := by
  simp [usable2hop, nb, addr]

structure Collected (raAddr : NsAddr) (state : Repositories) (seen links : List MetricNb2hop) :
    Prop where
  known : ∀ link ∈ links, link ∈ state.nb2hopset ∧ usable2hop raAddr state link = true
  covered : ∀ hop ∈ seen, usable2hop raAddr state hop = true →
    ∃ link ∈ links, link.nbMainAddr = hop.nbMainAddr ∧ link.nb2hopAddr = hop.nb2hopAddr

theorem collectHops_collected :
    Collected raAddr state state.nb2hopset
      (state.nb2hopset.foldl (collectHop raAddr state) []) := by
  refine foldl_seen (collectHop raAddr state) (Collected raAddr state) ⟨by simp, by simp⟩ ?_
  intro seen hop links member collected
  have grow : ∀ links', links ⊆ links' →
      (usable2hop raAddr state hop = true → ∃ link ∈ links',
        link.nbMainAddr = hop.nbMainAddr ∧ link.nb2hopAddr = hop.nb2hopAddr) →
      ∀ other ∈ seen ++ [hop], usable2hop raAddr state other = true →
        ∃ link ∈ links', link.nbMainAddr = other.nbMainAddr ∧
          link.nb2hopAddr = other.nb2hopAddr := by
    intro links' sub here other among usable
    rcases List.mem_append.mp among with among | last
    · obtain ⟨link, known, same⟩ := collected.covered other among usable
      exact ⟨link, sub known, same⟩
    · rw [List.mem_singleton.mp last] at usable ⊢
      exact here usable
  unfold collectHop
  split
  · next usable =>
    cases found : state.findNb2hopTuple hop.nbMainAddr hop.nb2hopAddr with
    | none =>
        have absent := List.find?_eq_none.mp found hop member
        simp at absent
    | some best =>
        have same : best.nbMainAddr = hop.nbMainAddr ∧ best.nb2hopAddr = hop.nb2hopAddr := by
          simpa using List.find?_some found
        dsimp only
        split
        · next present =>
          refine ⟨collected.known, grow links (fun _ among => among) fun _ => ?_⟩
          simpa using present
        · refine ⟨fun link among => ?_, grow _ (List.subset_append_left _ _) fun _ =>
            ⟨best, by simp, same⟩⟩
          rcases List.mem_append.mp among with among | last
          · exact collected.known link among
          · rw [List.mem_singleton.mp last]
            exact ⟨List.mem_of_find?_eq_some found,
              (usable2hop_congr same.1 same.2).trans usable⟩
  · next unusable =>
    exact ⟨collected.known, grow links (fun _ among => among) fun usable =>
      absurd usable unusable⟩

theorem mem_hopLinks {link : MetricNb2hop} :
    link ∈ hopLinks raAddr state ↔
      link ∈ state.nb2hopset.foldl (collectHop raAddr state) [] := by
  have index (links : List MetricNb2hop) (known : List NsAddr) (addr : NsAddr) :
      addr ∈ links.foldl (fun index link => insertNode link.nbMainAddr index) known ↔
        addr ∈ known ∨ ∃ link ∈ links, link.nbMainAddr = addr := by
    induction links generalizing known with
    | nil => simp
    | cons head tail ih =>
        rw [List.foldl_cons, ih, mem_insertNode]
        constructor
        · rintro ((rfl | among) | ⟨link, among, same⟩)
          · exact .inr ⟨head, by simp, rfl⟩
          · exact .inl among
          · exact .inr ⟨link, by simp [among], same⟩
        · rintro (among | ⟨link, among, rfl⟩)
          · exact .inl (.inr among)
          · rcases List.mem_cons.mp among with rfl | among
            · exact .inl (.inl rfl)
            · exact .inr ⟨link, among, rfl⟩
  unfold hopLinks
  dsimp only
  rw [List.mem_flatMap]
  constructor
  · rintro ⟨addr, _, member⟩
    exact (List.mem_filter.mp member).1
  · intro member
    exact ⟨link.nbMainAddr, (index _ _ _).mpr (.inr ⟨link, member, rfl⟩),
      List.mem_filter.mpr ⟨member, by simp⟩⟩

theorem farEdges_known {entry : NsAddr × Edge}
    (member : entry ∈ farEdges parameter raAddr state) :
    entry ∈ knownEdges parameter raAddr state now := by
  refine List.mem_append_right _ ?_
  rcases List.mem_append.mp member with member | member
  · obtain ⟨hop, among, rfl⟩ := List.mem_map.mp member
    obtain ⟨known, usable⟩ := collectHops_collected.known hop (mem_hopLinks.mp among)
    exact List.mem_append_left _
      (List.mem_map.mpr ⟨hop, List.mem_filter.mpr ⟨known, usable⟩, rfl⟩)
  · exact List.mem_append_right _ member

theorem link_known {last node : NsAddr} {weight : ℚ}
    (linked : (recordGraph parameter raAddr state now).link last node weight) :
    knownLink parameter raAddr state now last node weight := by
  obtain ⟨edge, found, quality⟩ := linked
  obtain ⟨member, ends⟩ := Dijkstra.getEdge_mem found
  rw [(recordGraph_graph parameter raAddr state now).linkArray] at member
  refine ⟨edge, ?_, ends, quality⟩
  rcases List.mem_append.mp member with member | member
  · exact List.mem_append_left _ member
  · exact farEdges_known member

theorem known_link {last node : NsAddr} {weight : ℚ}
    (known : knownLink parameter raAddr state now last node weight) :
    ∃ weight', (recordGraph parameter raAddr state now).link last node weight' := by
  obtain ⟨edge, member, rfl, _⟩ := known
  have recorded : ∃ edge', (node, edge') ∈ (recordGraph parameter raAddr state now).linkArray ∧
      edge'.lastNode = edge.lastNode := by
    rw [(recordGraph_graph parameter raAddr state now).linkArray]
    rcases List.mem_append.mp member with member | member
    · exact ⟨edge, List.mem_append_left _ member, rfl⟩
    · rcases List.mem_append.mp member with member | member
      · obtain ⟨hop, among, same⟩ := List.mem_map.mp member
        obtain ⟨rfl, rfl⟩ := Prod.mk.inj same
        obtain ⟨among, usable⟩ := List.mem_filter.mp among
        obtain ⟨link, collected, nb, addr⟩ := collectHops_collected.covered hop among usable
        refine ⟨(hopEdge parameter link).2, List.mem_append_right _ (List.mem_append_left _ ?_), nb⟩
        exact List.mem_map.mpr ⟨link, mem_hopLinks.mpr collected, Prod.ext addr rfl⟩
      · exact ⟨edge, List.mem_append_right _ (List.mem_append_right _ member), rfl⟩
  obtain ⟨edge', member', ends⟩ := recorded
  cases found : (recordGraph parameter raAddr state now).linkArray.find? fun entry =>
      entry.1 = node ∧ entry.2.lastNode = edge.lastNode with
  | none =>
      have absent := List.find?_eq_none.mp found _ member'
      simp [ends] at absent
  | some entry =>
      exact ⟨entry.2.quality, entry.2, by simp only [Dijkstra.getEdge, found, Option.map], rfl⟩

theorem FirstCost.known {node : NsAddr} {cost : ℚ}
    (path : FirstCost parameter raAddr state now node cost) :
    KnownCost parameter raAddr state now node cost :=
  path.weaken (fun _ _ starts => starts) fun _ _ _ linked => link_known linked

/-! ## The qualities of the entries -/

/-- The routes are the best known ones exactly when no known link makes a path cheaper
than the links that were recorded first with the same ends. -/
theorem dijkstra_routes_best_iff (sums : SumsEtx parameter) (raAddr : NsAddr)
    (state : Repositories) (now : Int) :
    ∃ rtable, rtableDijkstraComputation parameter raAddr state now = .ok rtable ∧
      (BestRoutes parameter raAddr state now rtable ↔
        FirstLinksSuffice parameter raAddr state now) := by
  obtain ⟨dijkstra, rtable, entered, ran⟩ :=
    rtableDijkstraComputation_entered sums raAddr state now
  have aliased := addAliases_aliased state.ifaceassocset rtable
  refine ⟨_, ran, fun best => ?_, fun suffice => ?_⟩
  · intro last node weight cost known path
    obtain ⟨weight', linked⟩ := known_link known
    obtain ⟨least, labelled⟩ := entered.finished.labelled (path.next linked)
    obtain ⟨entry, found, quality⟩ := entered.lookup_iff.mp labelled
    have reached : KnownCost parameter raAddr state now node (cost + weight) :=
      path.known.next known
    obtain ⟨node', _, isLeast, own⟩ := best node entry (aliased.grown _ _ found)
    rw [own ⟨_, reached⟩, quality] at isLeast
    exact ⟨least, isLeast.2 reached, (entered.finished.isLeast labelled).1⟩
  · intro dest entry found
    obtain ⟨node, entry', known, quality, stands, own⟩ := aliased.origin dest entry found
    have labelled := entered.lookup_iff.mpr ⟨entry', known, rfl⟩
    have isLeast := entered.finished.isLeast labelled
    refine ⟨node, stands, ⟨?_, ?_⟩, ?_⟩
    · rw [quality]
      exact FirstCost.known isLeast.1
    · intro cost path
      obtain ⟨cheaper, bound, first⟩ := PathCost.replace suffice path
      rw [quality]
      exact (isLeast.2 first).trans bound
    · rintro ⟨cost, path⟩
      obtain ⟨cheaper, _, first⟩ := PathCost.replace suffice path
      obtain ⟨least, labelled'⟩ := entered.finished.labelled first
      obtain ⟨other, present, _⟩ := entered.lookup_iff.mp labelled'
      exact own (by simp [present])

/-! ## A link known from a HELLO and a TC -/

def etxParameter : Parameter where
  mprAlgorithm := .default
  linkQuality := .etx
  linkDelay := false

/-- Neighbor 2 lists neighbor 3 in its HELLO and in its TC, with the given qualities of
the link between them. -/
def helloAndTc (inHello inTc : ℚ) : Repositories where
  linkset := [{
    id := 1
    localIfaceAddr := 1
    nbIfaceAddr := 2
    symTime := 20
    asymTime := 20
    lostTime := 0
    time := 26
    localIfaceIndex := 0
    qualities := { linkQuality := 1, nbLinkQuality := 1, nbLinkDelay := 0 } }]
  nbset := [{ nbMainAddr := 2, status := .sym, willingness := willDefault }]
  nb2hopset := [{
    id := 2
    nbMainAddr := 2
    nb2hopAddr := 3
    time := 20
    qualities := { linkQuality := inHello, nbLinkQuality := 1, nbLinkDelay := 0 } }]
  topologyset := [{
    id := 3
    destAddr := 3
    lastAddr := 2
    seq := 0
    time := 20
    localIfaceIndex := 0
    qualities := { linkQuality := inTc, nbLinkQuality := 1, nbLinkDelay := 0 } }]
  ifaceassocset := [{ id := 0, ifaceAddr := 1, mainAddr := 1, time := 100, localIfaceIndex := 0 }]

def qualityOf (state : Repositories) (dest : NsAddr) : Option ℚ :=
  match rtableDijkstraComputation etxParameter 1 state 10 with
  | .ok rtable => (rtable.lookup dest).map RtEntry.quality
  | .error _ => none

theorem dijkstra_routes_best_iff_sameQuality :
    ∃ rtable, rtableDijkstraComputation etxParameter 1 (helloAndTc (1 / 2) (1 / 2)) 10 =
        .ok rtable ∧
      ((rtable.lookup 3).map RtEntry.quality = some 3) ∧
      (BestRoutes etxParameter 1 (helloAndTc (1 / 2) (1 / 2)) 10 rtable ↔
        FirstLinksSuffice etxParameter 1 (helloAndTc (1 / 2) (1 / 2)) 10) := by
  have sums : SumsEtx etxParameter := ⟨rfl, rfl⟩
  obtain ⟨rtable, ran, best⟩ :=
    dijkstra_routes_best_iff sums 1 (helloAndTc (1 / 2) (1 / 2)) 10
  have quality : qualityOf (helloAndTc (1 / 2) (1 / 2)) 3 = some 3 := by decide +kernel
  simp only [qualityOf, ran] at quality
  exact ⟨rtable, ran, quality, best⟩

/-- The HELLO was sent when half of the packets between 2 and 3 were lost, the TC when
none were. -/
theorem dijkstra_route_notBest :
    ¬ ∀ parameter raAddr state now rtable, SumsEtx parameter →
      rtableDijkstraComputation parameter raAddr state now = .ok rtable →
      BestRoutes parameter raAddr state now rtable := by
  intro claim
  have quality : qualityOf (helloAndTc (1 / 2) 1) 3 = some 3 := by decide +kernel
  cases ran : rtableDijkstraComputation etxParameter 1 (helloAndTc (1 / 2) 1) 10 with
  | error fault => simp only [qualityOf, ran, reduceCtorEq] at quality
  | ok rtable =>
      simp only [qualityOf, ran] at quality
      obtain ⟨entry, found, quality⟩ := Option.map_eq_some_iff.mp quality
      have direct : Dijkstra.starts (directEdges etxParameter (helloAndTc (1 / 2) 1) 10) 2 1 :=
        ⟨{ lastNode := 1, quality := 1, delay := 0 }, by decide +kernel, rfl⟩
      have linked : knownLink etxParameter 1 (helloAndTc (1 / 2) 1) 10 2 3 1 :=
        ⟨{ lastNode := 2, quality := 1, delay := 0 }, by decide +kernel, rfl, rfl⟩
      have reached : KnownCost etxParameter 1 (helloAndTc (1 / 2) 1) 10 3 (1 + 1) :=
        PathCost.next (.first direct) linked
      obtain ⟨node, _, least, own⟩ := claim _ _ _ _ rtable ⟨rfl, rfl⟩ ran 3 entry found
      rw [own ⟨_, reached⟩, quality] at least
      have bound : (3 : ℚ) ≤ 1 + 1 := least.2 reached
      norm_num at bound

end

end SyncFanet.OlsrEtx
