import SyncFanet.OlsrEtx.DijkstraRun

/-!
# The table of the best paths

`rtable_dijkstra_computation` enters the nodes in the order of their hops, each through
the entry of the node before it, and then the interface associations.
-/

set_option autoImplicit false

namespace SyncFanet.OlsrEtx

open Olsr

section

variable {parameter : Parameter} {raAddr : NsAddr} {state : Repositories} {now : Int}

/-! ## The table -/

theorem insertHops_perm (hops : Int) (node : NsAddr) (nodes : List (Int × NsAddr)) :
    (insertHops hops node nodes).Perm ((hops, node) :: nodes) := by
  induction nodes with
  | nil => exact List.Perm.refl _
  | cons head tail ih =>
      unfold insertHops
      split
      · exact (ih.cons head).trans (List.Perm.swap _ _ _)
      · exact List.Perm.refl _

theorem insertHops_sorted (hops : Int) (node : NsAddr) {nodes : List (Int × NsAddr)}
    (sorted : nodes.Pairwise fun first second => first.1 ≤ second.1) :
    (insertHops hops node nodes).Pairwise fun first second => first.1 ≤ second.1 := by
  induction nodes with
  | nil => simp [insertHops]
  | cons head tail ih =>
      obtain ⟨above, rest⟩ := List.pairwise_cons.mp sorted
      unfold insertHops
      split
      · next below =>
        refine List.pairwise_cons.mpr ⟨fun other member => ?_, ih rest⟩
        rcases List.mem_cons.mp ((insertHops_perm hops node tail).mem_iff.mp member) with
          rfl | member
        · exact below
        · exact above other member
      · next notBelow =>
        refine List.pairwise_cons.mpr ⟨fun other member => ?_, sorted⟩
        rcases List.mem_cons.mp member with rfl | member
        · exact (not_le.mp notBelow).le
        · exact (not_le.mp notBelow).le.trans (above other member)

structure Ordered (dijkstraMap : NsAddr → Hop) (nodes : List NsAddr)
    (processed : List (Int × NsAddr)) : Prop where
  perm : processed.Perm (nodes.map fun node => ((dijkstraMap node).hopCount, node))
  sorted : processed.Pairwise fun first second => first.1 ≤ second.1

theorem processedNodes_ordered (dijkstra : Dijkstra) :
    Ordered dijkstra.dijkstraMap dijkstra.allNodes (processedNodes dijkstra) := by
  refine foldl_seen _ (Ordered dijkstra.dijkstraMap) ⟨List.Perm.refl _, List.Pairwise.nil⟩ ?_
  intro seen node nodes _ holds
  refine ⟨?_, insertHops_sorted _ _ holds.sorted⟩
  rw [List.map_append]
  exact ((insertHops_perm _ _ _).trans (holds.perm.cons _)).trans
    (List.perm_append_singleton _ _).symm

/-- The entry of a node: through the entry of the node before it, if that is not this
node itself. -/
structure RouteEntry (dijkstraMap : NsAddr → Hop) (rtable : Rtable) (node : NsAddr)
    (entry : RtEntry) : Prop where
  dest : entry.destAddr = node
  dist : (entry.dist : Int) = (dijkstraMap node).hopCount
  quality : entry.quality = (dijkstraMap node).link.quality
  route : entry.route = if entry.dist = 2 then [entry.nextAddr] else []
  near : (dijkstraMap node).hopCount = 1 →
    entry.nextAddr = node ∧ entry.ifaceAddr = (dijkstraMap node).link.lastNode
  far : 1 < (dijkstraMap node).hopCount →
    ∃ via, rtable.lookup (dijkstraMap node).link.lastNode = some via ∧
      entry.nextAddr = via.nextAddr ∧ entry.ifaceAddr = via.ifaceAddr

def Extends (rtable rtable' : Rtable) : Prop :=
  ∀ dest entry, rtable.lookup dest = some entry → rtable'.lookup dest = some entry

theorem extends_store {rtable : Rtable} {entry : RtEntry}
    (fresh : rtable.lookup entry.destAddr = none) : Extends rtable (rtable.store entry) := by
  intro dest other found
  rw [Rtable.lookup_store]
  split
  · next same =>
    rw [same, fresh] at found
    cases found
  · exact found

theorem RouteEntry.extend {dijkstraMap : NsAddr → Hop} {rtable rtable' : Rtable}
    {node : NsAddr} {entry : RtEntry} (route : RouteEntry dijkstraMap rtable node entry)
    (grown : Extends rtable rtable') : RouteEntry dijkstraMap rtable' node entry where
  dest := route.dest
  dist := route.dist
  quality := route.quality
  route := route.route
  near := route.near
  far := fun more => by
    obtain ⟨via, found, same⟩ := route.far more
    exact ⟨via, grown _ _ found, same⟩

structure Table (dijkstraMap : NsAddr → Hop) (nodes : List NsAddr) (rtable : Rtable) : Prop where
  entries : ∀ node ∈ nodes, 1 ≤ (dijkstraMap node).hopCount →
    ∃ entry, rtable.lookup node = some entry ∧ RouteEntry dijkstraMap rtable node entry
  others : ∀ node, node ∉ nodes ∨ (dijkstraMap node).hopCount < 1 → rtable.lookup node = none

theorem addRoute_table {dijkstraMap : NsAddr → Hop} {nodes : List NsAddr} {rtable : Rtable}
    (table : Table dijkstraMap nodes rtable) {node : NsAddr} (fresh : node ∉ nodes)
    (before : 1 < (dijkstraMap node).hopCount →
      ∃ via, rtable.lookup (dijkstraMap node).link.lastNode = some via) :
    ∃ rtable', addRoute dijkstraMap rtable ((dijkstraMap node).hopCount, node) = .ok rtable' ∧
      Table dijkstraMap (nodes ++ [node]) rtable' := by
  have unknown := table.others node (.inl fresh)
  -- the cases with a new entry differ in the entry only
  have stored : ∀ entry : RtEntry, 1 ≤ (dijkstraMap node).hopCount →
      RouteEntry dijkstraMap rtable node entry →
      Table dijkstraMap (nodes ++ [node]) (rtable.store entry) := by
    intro entry reached route
    have grown : Extends rtable (rtable.store entry) :=
      extends_store (route.dest ▸ unknown)
    constructor
    · intro other member reached'
      rcases List.mem_append.mp member with member | last
      · obtain ⟨known, found, route'⟩ := table.entries other member reached'
        exact ⟨known, grown _ _ found, route'.extend grown⟩
      · rw [List.mem_singleton.mp last]
        refine ⟨entry, ?_, route.extend grown⟩
        have found := Rtable.lookup_store_self rtable entry
        rwa [route.dest] at found
    · intro other absent
      have different : other ≠ entry.destAddr := by
        rw [route.dest]
        rintro rfl
        rcases absent with absent | unreached
        · exact absent (by simp)
        · omega
      rw [Rtable.lookup_store_ne rtable entry different]
      exact table.others other (absent.imp_left fun absent member => absent (by simp [member]))
  unfold addRoute
  dsimp only
  split
  · next one =>
    exact ⟨_, rfl, stored _ one.ge ⟨rfl, one.symm, rfl, rfl, fun _ => ⟨rfl, rfl⟩,
      fun more => by omega⟩⟩
  · next notOne =>
    split
    · next more =>
      obtain ⟨via, found⟩ := before more
      simp only [found]
      refine ⟨_, rfl, stored _ more.le ⟨rfl, ?_, rfl, rfl, fun one => absurd one notOne,
        fun _ => ⟨via, found, rfl, rfl⟩⟩⟩
      exact Int.toNat_of_nonneg (by omega)
    · next notMore =>
      refine ⟨rtable, rfl, ?_, ?_⟩
      · intro other member reached
        rcases List.mem_append.mp member with member | last
        · exact table.entries other member reached
        · rw [List.mem_singleton.mp last] at reached
          omega
      · intro other absent
        exact table.others other (absent.imp_left fun absent member => absent (by simp [member]))

section

variable {dijkstraMap : NsAddr → Hop} {nodes : List NsAddr} {processed : List (Int × NsAddr)}

theorem Ordered.own (ordered : Ordered dijkstraMap nodes processed) {hops : Int} {node : NsAddr}
    (member : (hops, node) ∈ processed) : hops = (dijkstraMap node).hopCount ∧ node ∈ nodes := by
  obtain ⟨known, among, same⟩ := List.mem_map.mp (ordered.perm.mem_iff.mp member)
  obtain ⟨rfl, rfl⟩ := Prod.mk.inj same
  exact ⟨rfl, among⟩

theorem Ordered.listed (ordered : Ordered dijkstraMap nodes processed) :
    (processed.map Prod.snd).Perm nodes := by
  have perm := ordered.perm.map Prod.snd
  simpa [List.map_map, Function.comp_def] using perm

theorem Ordered.fresh (ordered : Ordered dijkstraMap nodes processed) (nodup : nodes.Nodup)
    {seen rest : List (Int × NsAddr)} {item : Int × NsAddr}
    (split : processed = seen ++ item :: rest) : item.2 ∉ seen.map Prod.snd := by
  have distinct : (processed.map Prod.snd).Nodup := ordered.listed.nodup_iff.mpr nodup
  rw [split, List.map_append, List.nodup_append] at distinct
  exact fun among => distinct.2.2 item.2 among item.2 (by simp) rfl

theorem Ordered.before (ordered : Ordered dijkstraMap nodes processed)
    {seen rest : List (Int × NsAddr)} {item : Int × NsAddr} {last : NsAddr}
    (split : processed = seen ++ item :: rest) (known : last ∈ nodes)
    (fewer : (dijkstraMap last).hopCount < item.1) : last ∈ seen.map Prod.snd := by
  have entered : ((dijkstraMap last).hopCount, last) ∈ processed :=
    ordered.perm.mem_iff.mpr (List.mem_map.mpr ⟨last, known, rfl⟩)
  rw [split] at entered
  rcases List.mem_append.mp entered with seen' | later
  · exact List.mem_map.mpr ⟨_, seen', rfl⟩
  · have sorted := ordered.sorted
    rw [split, List.pairwise_append] at sorted
    rcases List.mem_cons.mp later with same | later
    · have equal := congrArg Prod.fst same
      dsimp only at equal
      omega
    · have above := (List.pairwise_cons.mp sorted.2.1).1 _ later
      dsimp only at above
      omega

theorem Table.route {rtable : Rtable} (table : Table dijkstraMap nodes rtable) {node : NsAddr}
    {entry : RtEntry} (found : rtable.lookup node = some entry) :
    node ∈ nodes ∧ 1 ≤ (dijkstraMap node).hopCount ∧ RouteEntry dijkstraMap rtable node entry := by
  have reached : node ∈ nodes ∧ 1 ≤ (dijkstraMap node).hopCount := by
    by_contra absent
    have unknown := table.others node (by
      by_cases known : node ∈ nodes
      · exact .inr (not_le.mp fun reached => absent ⟨known, reached⟩)
      · exact .inl known)
    simp [unknown] at found
  obtain ⟨other, found', route⟩ := table.entries node reached.1 reached.2
  rw [found] at found'
  cases found'
  exact ⟨reached.1, reached.2, route⟩

theorem Table.perm {nodes' : List NsAddr} {rtable : Rtable}
    (table : Table dijkstraMap nodes rtable) (perm : nodes.Perm nodes') :
    Table dijkstraMap nodes' rtable where
  entries := fun node member => table.entries node (perm.mem_iff.mpr member)
  others := fun node absent => table.others node (absent.imp_left fun absent member =>
    absent (perm.mem_iff.mp member))

theorem addRoutes_table (ordered : Ordered dijkstraMap nodes processed) (nodup : nodes.Nodup)
    (linked : ∀ node ∈ nodes, 1 < (dijkstraMap node).hopCount →
      (dijkstraMap node).link.lastNode ∈ nodes ∧
        1 ≤ (dijkstraMap (dijkstraMap node).link.lastNode).hopCount ∧
        (dijkstraMap (dijkstraMap node).link.lastNode).hopCount <
          (dijkstraMap node).hopCount) :
    ∃ rtable, processed.foldlM (addRoute dijkstraMap) [] = .ok rtable ∧
      Table dijkstraMap nodes rtable := by
  obtain ⟨rtable, ran, table⟩ : ∃ rtable, processed.foldlM (addRoute dijkstraMap) [] =
      .ok rtable ∧ Table dijkstraMap (processed.map Prod.snd) rtable := by
    refine foldlM_total_split (addRoute dijkstraMap)
      (fun seen rtable => Table dijkstraMap (seen.map Prod.snd) rtable)
      ⟨by simp, fun _ _ => Rtable.lookup_nil _⟩ ?_
    rintro seen ⟨hops, node⟩ rest rtable split table
    have member : (hops, node) ∈ processed := by simp [split]
    obtain ⟨rfl, known⟩ := ordered.own member
    have fresh := ordered.fresh nodup split
    obtain ⟨rtable', added, table'⟩ := addRoute_table table fresh fun more => by
      obtain ⟨last, reached, fewer⟩ := linked node known more
      obtain ⟨via, found, _⟩ := table.entries _ (ordered.before split last fewer) reached
      exact ⟨via, found⟩
    exact ⟨rtable', added, by simpa using table'⟩
  exact ⟨rtable, ran, table.perm ordered.listed⟩

theorem addRoutes_ok (ordered : Ordered dijkstraMap nodes processed) (nodup : nodes.Nodup)
    {rtable : Rtable} (ran : processed.foldlM (addRoute dijkstraMap) [] = .ok rtable) :
    Table dijkstraMap nodes rtable ∧ ∀ node ∈ nodes, 1 < (dijkstraMap node).hopCount →
      (dijkstraMap node).link.lastNode ≠ node := by
  obtain ⟨table, acyclic⟩ := foldlM_split ran
    (fun seen rtable => Table dijkstraMap (seen.map Prod.snd) rtable ∧
      ∀ node ∈ seen.map Prod.snd, 1 < (dijkstraMap node).hopCount →
        (dijkstraMap node).link.lastNode ≠ node)
    ⟨⟨by simp, fun _ _ => Rtable.lookup_nil _⟩, by simp⟩ (by
      rintro seen ⟨hops, node⟩ rest rtable rtable' split ⟨table, acyclic⟩ added
      have member : (hops, node) ∈ processed := by simp [split]
      obtain ⟨rfl, _⟩ := ordered.own member
      have fresh := ordered.fresh nodup split
      have before : 1 < (dijkstraMap node).hopCount →
          ∃ via, rtable.lookup (dijkstraMap node).link.lastNode = some via := by
        intro more
        cases found : rtable.lookup (dijkstraMap node).link.lastNode with
        | some via => exact ⟨via, rfl⟩
        | none => simp [addRoute, more.ne', more, found] at added
      obtain ⟨same, again, table'⟩ := addRoute_table table fresh before
      rw [added] at again
      cases again
      refine ⟨by simpa using table', ?_⟩
      intro other member more
      rw [List.map_append] at member
      rcases List.mem_append.mp member with member | last
      · exact acyclic other member more
      · have here : other = node := by simpa using last
        subst here
        intro loop
        obtain ⟨via, found⟩ := before more
        rw [loop, table.others other (.inl fresh)] at found
        cases found)
  refine ⟨table.perm ordered.listed, fun node member => acyclic node ?_⟩
  exact ordered.listed.mem_iff.mpr member

end

structure Entered (parameter : Parameter) (raAddr : NsAddr) (state : Repositories) (now : Int)
    (dijkstra : Dijkstra) (rtable : Rtable) : Prop where
  paths : dijkstraPaths parameter raAddr state now = .ok dijkstra
  finished : Finished parameter raAddr state now dijkstra
  table : Table dijkstra.dijkstraMap dijkstra.allNodes rtable

theorem rtableDijkstraComputation_entered (sums : SumsEtx parameter) (raAddr : NsAddr)
    (state : Repositories) (now : Int) :
    ∃ dijkstra rtable, Entered parameter raAddr state now dijkstra rtable ∧
      rtableDijkstraComputation parameter raAddr state now =
        .ok (state.ifaceassocset.foldl addAlias rtable) := by
  obtain ⟨dijkstra, ran, finished⟩ := dijkstraPaths_finishes sums
  have graph := recordGraph_graph parameter raAddr state now
  have nodup : dijkstra.allNodes.Nodup := finished.running.allNodes ▸ graph.sorted.imp ne_of_lt
  have linked : ∀ node ∈ dijkstra.allNodes, 1 < (dijkstra.dijkstraMap node).hopCount →
      (dijkstra.dijkstraMap node).link.lastNode ∈ dijkstra.allNodes ∧
        1 ≤ (dijkstra.dijkstraMap (dijkstra.dijkstraMap node).link.lastNode).hopCount ∧
        (dijkstra.dijkstraMap (dijkstra.dijkstraMap node).link.lastNode).hopCount <
          (dijkstra.dijkstraMap node).hopCount := by
    intro node _ more
    cases finished.running.placed node with
    | unreached none => omega
    | direct one _ => omega
    | via last same known _ reached next =>
        rw [same]
        exact ⟨known, reached, by omega⟩
  obtain ⟨rtable, entered, table⟩ :=
    addRoutes_table (processedNodes_ordered dijkstra) nodup linked
  refine ⟨dijkstra, rtable, ⟨ran, finished, table⟩, ?_⟩
  simp only [rtableDijkstraComputation, ran, Except.bind, entered]

theorem Entered.lookup_iff {dijkstra : Dijkstra} {rtable : Rtable}
    (entered : Entered parameter raAddr state now dijkstra rtable) {node : NsAddr} {cost : ℚ} :
    dijkstra.label node = some cost ↔
      ∃ entry, rtable.lookup node = some entry ∧ entry.quality = cost := by
  have running := entered.finished.running
  constructor
  · intro labelled
    obtain ⟨reached, quality⟩ := Dijkstra.label_eq_some.mp labelled
    have known : node ∈ dijkstra.allNodes := running.allNodes ▸
      Dijkstra.path_known (recordGraph_graph parameter raAddr state now)
        (running.searched.sound node cost labelled)
    obtain ⟨entry, found, route⟩ := entered.table.entries node known
      ((running.placed node).reached reached)
    exact ⟨entry, found, route.quality.trans quality⟩
  · rintro ⟨entry, found, quality⟩
    obtain ⟨_, reached, route⟩ := entered.table.route found
    exact Dijkstra.label_eq_some.mpr ⟨by omega, route.quality.symm.trans quality⟩

/-! ## Interface associations -/

/-- An address stands for a node: itself, or the main address of its associations. -/
inductive Stands (assocs : List IfaceAssocTuple) : NsAddr → NsAddr → Prop where
  | self (addr : NsAddr) : Stands assocs addr addr
  | alias {tuple : IfaceAssocTuple} {node : NsAddr} (member : tuple ∈ assocs)
      (main : Stands assocs tuple.mainAddr node) : Stands assocs tuple.ifaceAddr node

structure Aliased (assocs : List IfaceAssocTuple) (rtable final : Rtable) : Prop where
  grown : Extends rtable final
  origin : ∀ dest entry, final.lookup dest = some entry → ∃ node entry',
    rtable.lookup node = some entry' ∧ entry.quality = entry'.quality ∧
      Stands assocs dest node ∧ (rtable.lookup dest ≠ none → node = dest)

theorem addAliases_aliased (assocs : List IfaceAssocTuple) (rtable : Rtable) :
    Aliased assocs rtable (assocs.foldl addAlias rtable) := by
  refine foldl_keeps addAlias (Aliased assocs rtable)
    ⟨fun _ _ found => found, fun dest entry found =>
      ⟨dest, entry, found, rfl, .self dest, fun _ => rfl⟩⟩ ?_
  intro tuple before member aliased
  unfold addAlias
  split
  · next entry1 main absent =>
    have fresh : rtable.lookup tuple.ifaceAddr = none := by
      cases found : rtable.lookup tuple.ifaceAddr with
      | none => rfl
      | some entry =>
          rw [aliased.grown _ _ found] at absent
          cases absent
    have grown : Extends before (before.addEntry tuple.ifaceAddr entry1.nextAddr entry1.ifaceAddr
        entry1.dist entry1.localIfaceIndex entry1.quality entry1.delay) :=
      extends_store absent
    constructor
    · exact fun dest entry found => grown _ _ (aliased.grown _ _ found)
    · intro dest entry found
      unfold Rtable.addEntry at found
      rw [Rtable.lookup_store] at found
      by_cases same : dest = tuple.ifaceAddr
      · rw [if_pos same] at found
        have equal := Option.some.inj found
        obtain ⟨node, entry', known, quality, stands, _⟩ := aliased.origin _ _ main
        rw [same]
        refine ⟨node, entry', known, ?_, .alias member stands, fun present => ?_⟩
        · rw [← equal]
          exact quality
        · exact absurd fresh present
      · rw [if_neg same] at found
        exact aliased.origin dest entry found
  · exact aliased

end

end SyncFanet.OlsrEtx
