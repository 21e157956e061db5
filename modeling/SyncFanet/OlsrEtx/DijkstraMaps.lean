import Mathlib.Data.Finmap
import Mathlib.Data.Finset.Sort
import SyncFanet.OlsrEtx.DijkstraTable

/-!
# The maps of `Dijkstra`

The class with `link_array_` and `dijkstraMap` as the maps that they are, and every
lookup that throws when it finds nothing. No lookup fails: the computation is the one
over total functions.
-/

set_option autoImplicit false

namespace SyncFanet.OlsrEtx

open Olsr

/-! ## The class -/

structure DijkstraMaps where
  linkArray : Finmap fun _ : NsAddr => List Edge := ∅
  nonprocessedNodes : List NsAddr := []
  allNodes : List NsAddr := []
  dijkstraMap : Finmap fun _ : NsAddr => Hop := ∅

/-- What `operator[]` enters for a node that is not in the map. -/
def newHop : Hop where
  link := { lastNode := 0, quality := 0, delay := 0 }
  hopCount := 0

namespace DijkstraMaps

/-- `add_edge`. -/
def addEdge (maps : DijkstraMaps) (destNode : NsAddr) (link : Edge) (directConnected : Bool) :
    DijkstraMaps where
  linkArray :=
    maps.linkArray.insert destNode ((maps.linkArray.lookup destNode).getD [] ++ [link])
  nonprocessedNodes := insertNode destNode maps.nonprocessedNodes
  allNodes := insertNode destNode maps.allNodes
  dijkstraMap :=
    if directConnected then maps.dijkstraMap.insert destNode { link := link, hopCount := 1 }
    else if destNode ∈ maps.allNodes then maps.dijkstraMap
    else maps.dijkstraMap.insert destNode
      { (maps.dijkstraMap.lookup destNode).getD newHop with hopCount := -1 }

def pickBest (parameter : Parameter) (dijkstraMap : Finmap fun _ : NsAddr => Hop)
    (best : Option NsAddr) (node : NsAddr) : Except Fault (Option NsAddr) :=
  match dijkstraMap.lookup node with
  | none => .error (.runtimeError "dijkstraMap error")
  | some hop =>
      if hop.hopCount = -1 then .ok best
      else
        match best with
        | none => .ok (some node)
        | some other =>
            match dijkstraMap.lookup other with
            | none => .error (.runtimeError "dijkstraMap error")
            | some bestHop =>
                .ok (if Dijkstra.better parameter hop bestHop then some node else some other)

/-- `best_cost`. -/
def bestCost (parameter : Parameter) (maps : DijkstraMaps) : Except Fault (Option NsAddr) :=
  maps.nonprocessedNodes.foldlM (pickBest parameter maps.dijkstraMap) none

/-- `get_edge`. -/
def getEdge (maps : DijkstraMaps) (destNode lastNode : NsAddr) : Except Fault (Option Edge) :=
  match maps.linkArray.lookup destNode with
  | none => .error (.runtimeError "link_array_ error")
  | some edges => .ok (edges.find? fun edge => edge.lastNode = lastNode)

def relaxNode (parameter : Parameter) (current : NsAddr) (maps : DijkstraMaps)
    (destNode : NsAddr) : Except Fault DijkstraMaps :=
  if destNode ∈ maps.nonprocessedNodes then
    (maps.getEdge destNode current).bind fun found =>
      match found with
      | none => .ok maps
      | some edge =>
          match maps.dijkstraMap.lookup destNode, maps.dijkstraMap.lookup current with
          | some destHop, some currentHop =>
              .ok { maps with
                dijkstraMap := maps.dijkstraMap.insert destNode
                  (Dijkstra.relax parameter currentHop edge destHop) }
          | _, _ => .error (.runtimeError "dijkstraMap error node not found")
  else .ok maps

def processNode (parameter : Parameter) (current : NsAddr) (maps : DijkstraMaps) :
    Except Fault DijkstraMaps :=
  (maps.allNodes.foldlM (relaxNode parameter current) maps).map fun relaxed =>
    { relaxed with nonprocessedNodes := relaxed.nonprocessedNodes.erase current }

/-- `run`. -/
def run (parameter : Parameter) : Nat → DijkstraMaps → Except Fault DijkstraMaps
  | 0, maps => if maps.nonprocessedNodes = [] then .ok maps else .error .diverges
  | fuel + 1, maps =>
      (bestCost parameter maps).bind fun best =>
        match best with
        | none => .ok maps
        | some current => (processNode parameter current maps).bind (run parameter fuel)

end DijkstraMaps

/-! ## Entering the routes -/

/-- The map is read in the order of its keys. -/
def processedHops (dijkstraMap : Finmap fun _ : NsAddr => Hop) : List (Int × NsAddr) :=
  (dijkstraMap.keys.sort (· ≤ ·)).foldl
    (fun nodes node => insertHops ((dijkstraMap.lookup node).getD newHop).hopCount node nodes) []

/-- The loop while there are processed nodes left, which erases each from the map. -/
def enterRoutes (rtable : Rtable) (dijkstraMap : Finmap fun _ : NsAddr => Hop) :
    List (Int × NsAddr) → Except Fault Rtable
  | [] => .ok rtable
  | (hopCount, node) :: rest =>
      match dijkstraMap.lookup node with
      | none => .error (.runtimeError "node not found in DijkstraMap")
      | some hop =>
          if hopCount = 1 then
            enterRoutes (rtable.addEntry node node hop.link.lastNode 1 noIfaceIndex
              hop.link.quality hop.link.delay) (dijkstraMap.erase node) rest
          else if hopCount > 1 then
            match rtable.lookup hop.link.lastNode with
            | none => .error (.runtimeError "entry not found")
            | some entry =>
                enterRoutes (rtable.addEntry node entry.nextAddr entry.ifaceAddr hopCount.toNat
                  entry.localIfaceIndex hop.link.quality hop.link.delay)
                  (dijkstraMap.erase node) rest
          else enterRoutes rtable (dijkstraMap.erase node) rest

section

variable (parameter : Parameter) (raAddr : NsAddr) (state : Repositories) (now : Int)

def recordMaps : DijkstraMaps :=
  (farEdges parameter raAddr state).foldl (fun maps edge => maps.addEdge edge.1 edge.2 false)
    ((directEdges parameter state now).foldl
      (fun maps edge => maps.addEdge edge.1 edge.2 true) {})

/-- The maps after `run`. -/
def mapsPaths : Except Fault DijkstraMaps :=
  let maps := recordMaps parameter raAddr state now
  maps.run parameter maps.nonprocessedNodes.length

/-- `OLSR_ETX::rtable_dijkstra_computation`, with the lookups that may throw. -/
def mapsComputation : Except Fault Rtable :=
  (mapsPaths parameter raAddr state now).bind fun maps =>
    (enterRoutes [] maps.dijkstraMap (processedHops maps.dijkstraMap)).bind fun rtable =>
      .ok (state.ifaceassocset.foldl addAlias rtable)

end

/-! ## The maps stand for functions -/

def edgesTo (dijkstra : Dijkstra) (node : NsAddr) : List Edge :=
  (dijkstra.linkArray.filter fun entry => entry.1 = node).map Prod.snd

structure Represents (maps : DijkstraMaps) (dijkstra : Dijkstra) : Prop where
  nonprocessed : maps.nonprocessedNodes = dijkstra.nonprocessedNodes
  allNodes : maps.allNodes = dijkstra.allNodes
  known : ∀ node ∈ dijkstra.nonprocessedNodes, node ∈ dijkstra.allNodes
  edgeKeys : ∀ node, node ∈ maps.linkArray ↔ node ∈ dijkstra.allNodes
  hopKeys : ∀ node, node ∈ maps.dijkstraMap ↔ node ∈ dijkstra.allNodes
  edges : ∀ node, (maps.linkArray.lookup node).getD [] = edgesTo dijkstra node
  hops : ∀ node, (maps.dijkstraMap.lookup node).getD unreached = dijkstra.dijkstraMap node

section

variable {maps : DijkstraMaps} {dijkstra : Dijkstra} {node last : NsAddr}

theorem lookup_of_mem {Value : Type} {map : Finmap fun _ : NsAddr => Value} {value : Value}
    (present : node ∈ map) (absent : Value) (read : (map.lookup node).getD absent = value) :
    map.lookup node = some value := by
  obtain ⟨stored, found⟩ := Finmap.mem_iff.mp present
  rw [found] at read ⊢
  exact congrArg some read

theorem Represents.hop (represents : Represents maps dijkstra) (known : node ∈ dijkstra.allNodes) :
    maps.dijkstraMap.lookup node = some (dijkstra.dijkstraMap node) :=
  lookup_of_mem ((represents.hopKeys node).mpr known) unreached (represents.hops node)

theorem Represents.getEdge (represents : Represents maps dijkstra)
    (known : node ∈ dijkstra.allNodes) :
    maps.getEdge node last = .ok (dijkstra.getEdge node last) := by
  have found := lookup_of_mem ((represents.edgeKeys node).mpr known) [] (represents.edges node)
  simp only [DijkstraMaps.getEdge, found, edgesTo, Dijkstra.getEdge, List.find?_map,
    List.find?_filter, Function.comp_def, Bool.decide_and, Bool.decide_eq_true]

theorem represents_empty : Represents {} {} where
  nonprocessed := rfl
  allNodes := rfl
  known := fun _ member => member
  edgeKeys := fun node => by simp [Finmap.notMem_empty]
  hopKeys := fun node => by simp [Finmap.notMem_empty]
  edges := fun node => by simp [edgesTo]
  hops := fun node => by simp

theorem Represents.addEdge (represents : Represents maps dijkstra) (destNode : NsAddr)
    (link : Edge) (directConnected : Bool) :
    Represents (maps.addEdge destNode link directConnected)
      (dijkstra.addEdge destNode link directConnected) where
  nonprocessed := by simp [DijkstraMaps.addEdge, Dijkstra.addEdge, represents.nonprocessed]
  allNodes := by simp [DijkstraMaps.addEdge, Dijkstra.addEdge, represents.allNodes]
  known := by
    intro node member
    rcases mem_insertNode.mp member with here | member
    · exact mem_insertNode.mpr (.inl here)
    · exact mem_insertNode.mpr (.inr (represents.known node member))
  edgeKeys := by
    intro node
    simp [DijkstraMaps.addEdge, Dijkstra.addEdge, mem_insertNode, Finmap.mem_insert,
      represents.edgeKeys]
  hopKeys := by
    intro node
    simp only [DijkstraMaps.addEdge, Dijkstra.addEdge, mem_insertNode, represents.allNodes]
    split
    · rw [Finmap.mem_insert, represents.hopKeys]
    · split
      · next known =>
        rw [represents.hopKeys]
        exact ⟨.inr, fun either => either.elim (fun here => here ▸ known) id⟩
      · rw [Finmap.mem_insert, represents.hopKeys]
  edges := by
    intro node
    by_cases here : node = destNode
    · subst here
      simp [DijkstraMaps.addEdge, Dijkstra.addEdge, edgesTo, represents.edges]
    · have different : destNode ≠ node := Ne.symm here
      have before := represents.edges node
      simpa [DijkstraMaps.addEdge, Dijkstra.addEdge, edgesTo, different,
        Finmap.lookup_insert_of_ne _ here] using before
  hops := by
    intro node
    simp only [DijkstraMaps.addEdge, Dijkstra.addEdge, represents.allNodes]
    by_cases here : node = destNode
    · subst here
      split
      · simp
      · split
        · exact represents.hops node
        · have before := represents.hops node
          cases found : maps.dijkstraMap.lookup node with
          | none =>
              rw [found] at before
              simp [← before, newHop, unreached]
          | some hop =>
              rw [found] at before
              simp [← before]
    · split
      · simpa [here, Finmap.lookup_insert_of_ne _ here] using represents.hops node
      · split
        · exact represents.hops node
        · simpa [here, Finmap.lookup_insert_of_ne _ here] using represents.hops node

/-! ## `run` -/

variable {parameter : Parameter} {current : NsAddr}

theorem Represents.pickBest (represents : Represents maps dijkstra) {best : Option NsAddr}
    (known : node ∈ dijkstra.allNodes) (seen : ∀ other ∈ best, other ∈ dijkstra.allNodes) :
    DijkstraMaps.pickBest parameter maps.dijkstraMap best node =
      .ok (Dijkstra.pickBest parameter dijkstra.dijkstraMap best node) := by
  unfold DijkstraMaps.pickBest Dijkstra.pickBest
  rw [represents.hop known]
  dsimp only
  split
  · rfl
  · cases best with
    | none => rfl
    | some other =>
        dsimp only
        rw [represents.hop (seen other rfl)]

theorem Represents.bestCost (represents : Represents maps dijkstra) :
    maps.bestCost parameter = .ok (dijkstra.bestCost parameter) := by
  -- the best node so far is one of those seen
  obtain ⟨best, ran, same, _⟩ :
      ∃ best, dijkstra.nonprocessedNodes.foldlM
          (DijkstraMaps.pickBest parameter maps.dijkstraMap) none = .ok best ∧
        best = dijkstra.bestCost parameter ∧ ∀ node ∈ best, node ∈ dijkstra.allNodes := by
    refine foldlM_follows (fun best best' : Option NsAddr => best = best' ∧
      ∀ node ∈ best, node ∈ dijkstra.allNodes) ?_ ⟨rfl, by simp⟩
    rintro node best _ member ⟨rfl, seen⟩
    have known := represents.known node member
    refine ⟨_, represents.pickBest known seen, rfl, ?_⟩
    unfold Dijkstra.pickBest
    split
    · exact seen
    · split
      · simpa using known
      · split
        · simpa using known
        · exact seen
  rw [DijkstraMaps.bestCost, represents.nonprocessed, ran, same]

theorem Represents.relaxNode (represents : Represents maps dijkstra)
    (known : node ∈ dijkstra.allNodes) (current_known : current ∈ dijkstra.allNodes) :
    ∃ maps', maps.relaxNode parameter current node = .ok maps' ∧
      Represents maps' (dijkstra.relaxNode parameter current node) := by
  unfold DijkstraMaps.relaxNode Dijkstra.relaxNode
  rw [represents.nonprocessed]
  split
  · rw [represents.getEdge known]
    cases dijkstra.getEdge node current with
    | none => exact ⟨maps, rfl, represents⟩
    | some edge =>
        simp only [Except.bind, represents.hop known, represents.hop current_known]
        refine ⟨_, rfl, rfl, represents.allNodes, represents.known, represents.edgeKeys, ?_,
          represents.edges, ?_⟩
        · intro other
          simp only [Finmap.mem_insert, represents.hopKeys]
          exact ⟨fun either => either.elim (fun here => here ▸ known) id, .inr⟩
        · intro other
          by_cases here : other = node
          · subst here
            simp
          · simpa [here, Finmap.lookup_insert_of_ne _ here] using represents.hops other
  · exact ⟨maps, rfl, represents⟩

theorem relaxNode_allNodes (parameter : Parameter) (current : NsAddr) (dijkstra : Dijkstra)
    (node : NsAddr) :
    (dijkstra.relaxNode parameter current node).allNodes = dijkstra.allNodes := by
  unfold Dijkstra.relaxNode
  split
  · split <;> rfl
  · rfl

theorem Represents.processNode (represents : Represents maps dijkstra)
    (known : current ∈ dijkstra.allNodes) :
    ∃ maps', maps.processNode parameter current = .ok maps' ∧
      Represents maps' (dijkstra.processNode parameter current) := by
  obtain ⟨relaxed, ran, holds, _⟩ :
      ∃ relaxed, dijkstra.allNodes.foldlM (DijkstraMaps.relaxNode parameter current) maps =
          .ok relaxed ∧
        Represents relaxed
          (dijkstra.allNodes.foldl (Dijkstra.relaxNode parameter current) dijkstra) ∧
        (dijkstra.allNodes.foldl (Dijkstra.relaxNode parameter current) dijkstra).allNodes =
          dijkstra.allNodes := by
    refine foldlM_follows (fun relaxed relaxed' => Represents relaxed relaxed' ∧
      relaxed'.allNodes = dijkstra.allNodes) ?_ ⟨represents, rfl⟩
    rintro node relaxed relaxed' member ⟨holds, same⟩
    obtain ⟨stepped, ran, holds'⟩ := holds.relaxNode (same ▸ member) (same ▸ known)
    exact ⟨stepped, ran, holds', (relaxNode_allNodes _ _ _ _).trans same⟩
  refine ⟨_, by rw [DijkstraMaps.processNode, represents.allNodes, ran]; rfl, ?_⟩
  refine ⟨?_, holds.allNodes, ?_, holds.edgeKeys, holds.hopKeys, holds.edges, holds.hops⟩
  · simp only [Dijkstra.processNode, holds.nonprocessed]
  · intro node member
    exact holds.known node (List.mem_of_mem_erase member)

theorem Represents.run {fuel : Nat} (represents : Represents maps dijkstra)
    {finished : Dijkstra} (ran : Dijkstra.run parameter fuel dijkstra = .ok finished) :
    ∃ maps', DijkstraMaps.run parameter fuel maps = .ok maps' ∧ Represents maps' finished := by
  induction fuel generalizing maps dijkstra with
  | zero =>
      unfold Dijkstra.run at ran
      split at ran
      · next empty =>
        cases ran
        exact ⟨maps, by simp [DijkstraMaps.run, represents.nonprocessed, empty], represents⟩
      · cases ran
  | succ fuel ih =>
      unfold Dijkstra.run at ran
      cases best : dijkstra.bestCost parameter with
      | none =>
          simp only [best] at ran
          cases ran
          exact ⟨maps, by simp [DijkstraMaps.run, represents.bestCost, best, Except.bind],
            represents⟩
      | some current =>
          simp only [best] at ran
          have known := represents.known current (Dijkstra.bestCost_open best).1
          obtain ⟨maps', stepped, represents'⟩ := represents.processNode known
          obtain ⟨final, ran', holds⟩ := ih represents' ran
          refine ⟨final, ?_, holds⟩
          simp only [DijkstraMaps.run, represents.bestCost, best, Except.bind, stepped, ran']

/-! ## The routes -/

theorem Represents.keys_sort (represents : Represents maps dijkstra)
    (sorted : dijkstra.allNodes.Pairwise (· < ·)) :
    maps.dijkstraMap.keys.sort (· ≤ ·) = dijkstra.allNodes := by
  have keys : maps.dijkstraMap.keys = dijkstra.allNodes.toFinset := by
    ext node
    rw [Finmap.mem_keys, represents.hopKeys, List.mem_toFinset]
  rw [keys]
  exact (List.toFinset_sort (· ≤ ·) (sorted.imp ne_of_lt)).mpr (sorted.imp le_of_lt)

theorem Represents.processedHops (represents : Represents maps dijkstra)
    (sorted : dijkstra.allNodes.Pairwise (· < ·)) :
    processedHops maps.dijkstraMap = processedNodes dijkstra := by
  rw [SyncFanet.OlsrEtx.processedHops, represents.keys_sort sorted]
  refine List.foldl_ext _ _ _ fun nodes node member => ?_
  rw [represents.hop member]
  rfl

theorem enterRoutes_eq {dijkstraMap : Finmap fun _ : NsAddr => Hop} {hops : NsAddr → Hop}
    {processed : List (Int × NsAddr)} (distinct : (processed.map Prod.snd).Nodup)
    (present : ∀ item ∈ processed, dijkstraMap.lookup item.2 = some (hops item.2))
    (rtable : Rtable) :
    enterRoutes rtable dijkstraMap processed = processed.foldlM (addRoute hops) rtable := by
  induction processed generalizing dijkstraMap rtable with
  | nil => rfl
  | cons item rest ih =>
      obtain ⟨hopCount, node⟩ := item
      obtain ⟨fresh, distinct⟩ := List.nodup_cons.mp distinct
      have found := present (hopCount, node) List.mem_cons_self
      have later : ∀ item ∈ rest, (dijkstraMap.erase node).lookup item.2 = some (hops item.2) := by
        intro item member
        have different : item.2 ≠ node := fun same =>
          fresh (List.mem_map.mpr ⟨item, member, same⟩)
        rw [Finmap.lookup_erase_ne different]
        exact present item (List.mem_cons_of_mem _ member)
      rw [List.foldlM_cons]
      simp only [enterRoutes, found, addRoute]
      split
      · exact ih distinct later _
      · split
        · cases rtable.lookup (hops node).link.lastNode with
          | none => rfl
          | some entry => exact ih distinct later _
        · exact ih distinct later _

end

/-! ## The computation -/

theorem run_allNodes {parameter : Parameter} {fuel : Nat} {dijkstra finished : Dijkstra}
    (ran : Dijkstra.run parameter fuel dijkstra = .ok finished) :
    finished.allNodes = dijkstra.allNodes := by
  refine Dijkstra.run_keeps (fun after => after.allNodes = dijkstra.allNodes) ?_ ran rfl
  intro round current _ same
  exact foldl_keeps (Dijkstra.relaxNode parameter current)
    (fun relaxed => relaxed.allNodes = dijkstra.allNodes) same
    fun node relaxed _ kept => (relaxNode_allNodes _ _ relaxed node).trans kept

section

variable (parameter : Parameter) (raAddr : NsAddr) (state : Repositories) (now : Int)

theorem recordMaps_represents :
    Represents (recordMaps parameter raAddr state now)
      (recordGraph parameter raAddr state now) := by
  refine List.foldl_rel (List.foldl_rel represents_empty ?_) ?_
  · exact fun edge _ maps dijkstra represents => represents.addEdge edge.1 edge.2 true
  · exact fun edge _ maps dijkstra represents => represents.addEdge edge.1 edge.2 false

variable {parameter raAddr state now}

theorem mapsPaths_represents {dijkstra : Dijkstra}
    (ran : dijkstraPaths parameter raAddr state now = .ok dijkstra) :
    ∃ maps, mapsPaths parameter raAddr state now = .ok maps ∧ Represents maps dijkstra := by
  have represents := recordMaps_represents parameter raAddr state now
  unfold mapsPaths
  dsimp only
  rw [represents.nonprocessed]
  exact represents.run ran

theorem enterRoutes_represents {maps : DijkstraMaps} {dijkstra : Dijkstra}
    (ran : dijkstraPaths parameter raAddr state now = .ok dijkstra)
    (represents : Represents maps dijkstra) :
    enterRoutes [] maps.dijkstraMap (processedHops maps.dijkstraMap) =
      (processedNodes dijkstra).foldlM (addRoute dijkstra.dijkstraMap) [] := by
  have sorted : dijkstra.allNodes.Pairwise (· < ·) :=
    run_allNodes ran ▸ (recordGraph_graph parameter raAddr state now).sorted
  have ordered := processedNodes_ordered dijkstra
  rw [represents.processedHops sorted]
  apply enterRoutes_eq
  · exact ordered.listed.nodup_iff.mpr (sorted.imp ne_of_lt)
  · exact fun item member => represents.hop (ordered.own member).2

theorem mapsComputation_eq (parameter : Parameter) (raAddr : NsAddr) (state : Repositories)
    (now : Int) :
    mapsComputation parameter raAddr state now =
      rtableDijkstraComputation parameter raAddr state now := by
  obtain ⟨dijkstra, ran⟩ := Dijkstra.run_total parameter
    (le_refl (recordGraph parameter raAddr state now).nonprocessedNodes.length)
  have paths : dijkstraPaths parameter raAddr state now = .ok dijkstra := ran
  obtain ⟨maps, ran', represents⟩ := mapsPaths_represents paths
  unfold mapsComputation rtableDijkstraComputation
  rw [paths, ran']
  simp only [Except.bind, enterRoutes_represents paths represents]

end

end SyncFanet.OlsrEtx
