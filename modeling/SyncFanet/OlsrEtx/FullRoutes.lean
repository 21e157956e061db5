import SyncFanet.Olsr.RouteReaders
import SyncFanet.OlsrEtx.BestRoutes

/-!
# Routes read from the Dijkstra table

`getRoute` reads the route vector of an entry. `rtable_dijkstra_computation` enters its
routes with the `add_entry` that fills this vector for two hops only.
-/

set_option autoImplicit false

namespace SyncFanet.OlsrEtx

open Olsr

/-! ## The readers -/

structure EtxNextHop where
  add : NsAddr
  iface : Nat
  cost : ℚ

/-- `OLSR_ETX::getNextHop` for a destination with an entry. -/
def readNextHop (config : Config) (parameter : Parameter) (rtable : Rtable) (fuel : Nat)
    (rtEntry : RtEntry) : Except Fault EtxNextHop :=
  let add := rtEntry.route.head?.getD rtEntry.nextAddr
  (rtable.findSendEntry fuel (some rtEntry)).bind fun rtEntryAux =>
    match rtEntryAux with
    | none => .error .nullDeref
    | some rtEntryAux =>
        if rtEntryAux.nextAddr ≠ add then .error databaseError
        else
          match getInterfaceWlanByAddress config rtEntry.ifaceAddr with
          | none => .error .nullDeref
          | some ie =>
              .ok {
                add := add
                iface := ie.index
                cost := if parameter.linkDelay then rtEntry.delay else rtEntry.quality }

/-- `getRoute` accepts the entry and returns its distance and as many addresses, each the
predecessor of the next on the best path, from the next hop to the destination. -/
def FullRoute (config : Config) (parameter : Parameter) (getAp : NsAddr → Option NsAddr)
    (dijkstraMap : NsAddr → Hop) (rtable : Rtable) (entry : RtEntry) : Prop :=
  ∃ fuel path hop,
    getRoute getAp rtable fuel entry.destAddr = .ok (entry.dist, path) ∧
    path.length = entry.dist ∧
    path.IsChain (fun last node => (dijkstraMap node).link.lastNode = last) ∧
    path.getLast? = some entry.destAddr ∧
    readNextHop config parameter rtable fuel entry = .ok hop ∧ path.head? = some hop.add

/-- Every node has one interface: links are on the node's own, and associations map
addresses to themselves. -/
structure SingleInterface (config : Config) (state : Repositories) : Prop where
  ifaces : config.ifaces.length = 1
  links : ∀ link ∈ state.linkset, ∃ iface ∈ config.ifaces, iface.addr = link.localIfaceAddr
  assocs : ∀ tuple ∈ state.ifaceassocset, tuple.ifaceAddr = tuple.mainAddr

/-! ## Runs with any quality -/

namespace Dijkstra

section

variable {parameter : Parameter} {direct : List (NsAddr × Edge)} {graph dijkstra : Dijkstra}
  {current : NsAddr}

/-- A processed node that the path leads to from itself. Such a node never gets an
entry. -/
def Looped (dijkstra : Dijkstra) : Prop :=
  ∃ node ∈ dijkstra.allNodes, node ∉ dijkstra.nonprocessedNodes ∧
    1 < (dijkstra.dijkstraMap node).hopCount ∧ (dijkstra.dijkstraMap node).link.lastNode = node

/-- The loop over all nodes writes entries of open nodes only, and that of the current
node once. -/
structure Framed (parameter : Parameter) (dijkstra : Dijkstra) (current : NsAddr)
    (seen : List NsAddr) (relaxed : Dijkstra) : Prop where
  linkArray : relaxed.linkArray = dijkstra.linkArray
  allNodes : relaxed.allNodes = dijkstra.allNodes
  nonprocessed : relaxed.nonprocessedNodes = dijkstra.nonprocessedNodes
  closed : ∀ node ∉ dijkstra.nonprocessedNodes,
    relaxed.dijkstraMap node = dijkstra.dijkstraMap node
  current : relaxed.dijkstraMap current =
    if current ∈ seen then relaxedHop parameter dijkstra current current
    else dijkstra.dijkstraMap current

theorem relaxNode_framed {seen : List NsAddr} {relaxed : Dijkstra} {node : NsAddr}
    (framed : Framed parameter dijkstra current seen relaxed) (fresh : node ∉ seen) :
    Framed parameter dijkstra current (seen ++ [node]) (relaxNode parameter current relaxed node) := by
  have edges : relaxed.getEdge node current = dijkstra.getEdge node current := by
    simp only [getEdge, framed.linkArray]
  have later (other : node ≠ current) : (current ∈ seen ++ [node]) = (current ∈ seen) := by
    simp [Ne.symm other]
  unfold relaxNode
  rw [framed.nonprocessed, edges]
  -- the entry of the current node when its turn does not come or changes nothing
  have same (stays : node = current → relaxedHop parameter dijkstra current current =
      dijkstra.dijkstraMap current) :
      Framed parameter dijkstra current (seen ++ [node]) relaxed := by
    refine ⟨framed.linkArray, framed.allNodes, framed.nonprocessed, framed.closed, ?_⟩
    by_cases here : node = current
    · rw [framed.current, ← here, if_neg fresh, if_pos (by simp), here, stays here]
    · simp only [later here]
      exact framed.current
  split
  · next opened =>
    cases found : dijkstra.getEdge node current with
    | none =>
        refine same fun here => ?_
        subst here
        simp [relaxedHop, found]
    | some edge =>
        refine ⟨framed.linkArray, framed.allNodes, rfl, ?_, ?_⟩
        · intro other closed
          have different : other ≠ node := fun here => closed (here ▸ opened)
          simpa [different] using framed.closed other closed
        · by_cases here : node = current
          · subst here
            have before := framed.current
            rw [if_neg fresh] at before
            simp [relaxedHop, opened, found, before]
          · have different : current ≠ node := Ne.symm here
            simp only [later here]
            simpa [different] using framed.current
  · next closed =>
    refine same fun here => ?_
    subst here
    simp [relaxedHop, closed]

theorem relaxNodes_framed (nodup : dijkstra.allNodes.Nodup) :
    Framed parameter dijkstra current dijkstra.allNodes
      (dijkstra.allNodes.foldl (relaxNode parameter current) dijkstra) := by
  refine foldl_split (relaxNode parameter current) (Framed parameter dijkstra current)
    ⟨rfl, rfl, rfl, fun _ _ => rfl, rfl⟩ ?_
  intro seen node rest relaxed split framed
  refine relaxNode_framed framed fun member => ?_
  rw [split] at nodup
  exact (List.nodup_append.mp nodup).2.2 node member node (by simp) rfl

structure Rooted (direct : List (NsAddr × Edge)) (graph dijkstra : Dijkstra) : Prop
    extends Recorded graph dijkstra where
  placed : Looped dijkstra ∨ ∀ node, Placed direct dijkstra node

theorem Rooted.processNode (rooted : Rooted direct graph dijkstra)
    (sorted : graph.allNodes.Nodup) (best : bestCost parameter dijkstra = some current) :
    Rooted direct graph (processNode parameter current dijkstra) := by
  obtain ⟨opened, path⟩ := bestCost_open best
  have nodup : dijkstra.allNodes.Nodup := rooted.allNodes ▸ sorted
  have framed : Framed parameter dijkstra current dijkstra.allNodes
      (dijkstra.allNodes.foldl (relaxNode parameter current) dijkstra) := relaxNodes_framed nodup
  have known := rooted.known current opened
  have open' (node : NsAddr) : node ∈ (Dijkstra.processNode parameter current
      dijkstra).nonprocessedNodes ↔ node ∈ dijkstra.nonprocessedNodes ∧ node ≠ current := by
    rw [and_comm, ← rooted.nodup.mem_erase_iff, ← framed.nonprocessed]
    rfl
  refine ⟨⟨framed.linkArray.trans rooted.linkArray, framed.allNodes.trans rooted.allNodes,
    ?_, ?_⟩, ?_⟩
  · intro node member
    exact framed.allNodes ▸ rooted.known node ((open' node).mp member).1
  · have erased := rooted.nodup.erase current
    rwa [← framed.nonprocessed] at erased
  · rcases rooted.placed with ⟨node, known', processed, more, loop⟩ | placed
    · left
      have same : (Dijkstra.processNode parameter current dijkstra).dijkstraMap node =
          dijkstra.dijkstraMap node := framed.closed node processed
      refine ⟨node, framed.allNodes ▸ known', fun member => processed ((open' node).mp member).1,
        ?_, ?_⟩
      · rw [same]
        exact more
      · rw [same]
        exact loop
    · by_cases unchanged : relaxedHop parameter dijkstra current current =
          dijkstra.dijkstraMap current
      · right
        have moved (node : NsAddr) : Moved dijkstra current node
            ((Dijkstra.processNode parameter current dijkstra).dijkstraMap node) := by
          unfold Dijkstra.processNode
          rw [relaxNodes_map unchanged nodup]
          dsimp only
          split
          · exact relaxedHop_moved parameter dijkstra current node
          · exact .kept rfl
        have kept : (Dijkstra.processNode parameter current dijkstra).dijkstraMap current =
            dijkstra.dijkstraMap current := by
          have written := framed.current
          rw [if_pos known, unchanged] at written
          exact written
        exact Placed.step placed path known framed.allNodes open' moved kept
      · left
        have written : (Dijkstra.processNode parameter current dijkstra).dijkstraMap current =
            relaxedHop parameter dijkstra current current := by
          have written := framed.current
          rw [if_pos known] at written
          exact written
        cases relaxedHop_moved parameter dijkstra current current with
        | kept same => exact absurd same unchanged
        | extended _ found same =>
            have reached := (placed current).reached path
            refine ⟨current, framed.allNodes ▸ known,
              fun member => ((open' current).mp member).2 rfl, ?_, ?_⟩
            · rw [written, same]
              exact Int.lt_add_one_of_le reached
            · rw [written, same]
              exact (getEdge_mem found).2

theorem run_rooted (sorted : graph.allNodes.Nodup) {fuel : Nat} {finished : Dijkstra}
    (rooted : Rooted direct graph dijkstra) (ran : run parameter fuel dijkstra = .ok finished) :
    Rooted direct graph finished :=
  run_keeps (Rooted direct graph) (fun best rooted => rooted.processNode sorted best) ran rooted

end

end Dijkstra

section

variable {parameter : Parameter} {raAddr : NsAddr} {state : Repositories} {now : Int}

structure Filled (parameter : Parameter) (state : Repositories) (now : Int) (dijkstra : Dijkstra)
    (rtable : Rtable) : Prop where
  placed : ∀ node, Dijkstra.Placed (directEdges parameter state now) dijkstra node
  table : Table dijkstra.dijkstraMap dijkstra.allNodes rtable

theorem rtableDijkstraComputation_filled {final : Rtable}
    (ran : rtableDijkstraComputation parameter raAddr state now = .ok final) :
    ∃ dijkstra rtable, dijkstraPaths parameter raAddr state now = .ok dijkstra ∧
      Filled parameter state now dijkstra rtable ∧
      final = state.ifaceassocset.foldl addAlias rtable := by
  obtain ⟨dijkstra, found, ran⟩ := bind_ok.mp ran
  obtain ⟨rtable, entered, same⟩ := bind_ok.mp ran
  have graph := recordGraph_graph parameter raAddr state now
  have sorted := graph.sorted.imp ne_of_lt
  have rooted := Dijkstra.run_rooted sorted ⟨graph.initial, .inr graph.placed⟩ found
  obtain ⟨table, acyclic⟩ := addRoutes_ok (processedNodes_ordered dijkstra)
    (rooted.allNodes ▸ sorted) entered
  refine ⟨dijkstra, rtable, found, ⟨?_, table⟩, (Except.ok.inj same).symm⟩
  rcases rooted.placed with ⟨node, known, _, more, loop⟩ | placed
  · exact absurd loop (acyclic node known more)
  · exact placed

/-! ## Entries of one and of two hops -/

theorem findSymLinkTuple_mem {ifaceAddr : NsAddr} {link : MetricLink}
    (found : state.findSymLinkTuple ifaceAddr now = some link) : link ∈ state.linkset := by
  unfold Repositories.findSymLinkTuple at found
  split at found
  · next tuple first =>
    split at found
    · exact Option.some.inj found ▸ List.mem_of_find?_eq_some first
    · cases found
  · cases found

theorem findBestSymLinkTuple_mem {mainAddr : NsAddr} {best : MetricLink}
    (found : state.findBestSymLinkTuple parameter mainAddr now = some best) :
    best ∈ state.linkset := by
  have picked : ∀ link ∈ state.ifaceassocset.foldl (state.pickLink parameter mainAddr now) none,
      link ∈ state.linkset := by
    refine foldl_keeps _ (fun best : Option MetricLink => ∀ link ∈ best, link ∈ state.linkset)
      (by simp) ?_
    intro assoc best _ holds
    unfold Repositories.pickLink
    split
    · split
      · exact holds
      · next tuple known =>
        intro link same
        cases same
        exact findSymLinkTuple_mem known
      · next tuple other known =>
        split
        · intro link same
          cases same
          exact findSymLinkTuple_mem known
        · exact holds
    · exact holds
  unfold Repositories.findBestSymLinkTuple at found
  split at found
  · next link same =>
    cases found
    exact picked _ same
  · exact findSymLinkTuple_mem found

variable {config : Config} {dijkstra : Dijkstra} {rtable : Rtable} {node : NsAddr}
  {entry : RtEntry}

theorem Filled.near (filled : Filled parameter state now dijkstra rtable)
    (single : SingleInterface config state) (found : rtable.lookup node = some entry)
    (one : (dijkstra.dijkstraMap node).hopCount = 1) :
    entry.destAddr = node ∧ entry.nextAddr = node ∧
      ∃ iface ∈ config.ifaces, iface.addr = entry.ifaceAddr := by
  obtain ⟨_, _, route⟩ := filled.table.route found
  obtain ⟨next, iface⟩ := route.near one
  refine ⟨route.dest, next, ?_⟩
  cases filled.placed node with
  | unreached none => omega
  | via last _ _ _ reached more => omega
  | direct _ recorded =>
      obtain ⟨best, chosen, same⟩ := mem_directEdges recorded
      have link := congrArg Edge.lastNode same
      rw [iface, link]
      exact single.links best (findBestSymLinkTuple_mem chosen)

theorem Filled.behind (filled : Filled parameter state now dijkstra rtable)
    (single : SingleInterface config state) (found : rtable.lookup node = some entry)
    (two : (dijkstra.dijkstraMap node).hopCount = 2) :
    ∃ via, rtable.lookup entry.nextAddr = some via ∧ via.destAddr = entry.nextAddr ∧
      via.nextAddr = entry.nextAddr ∧ entry.nextAddr ≠ node ∧
      (dijkstra.dijkstraMap node).link.lastNode = entry.nextAddr ∧
      ∃ iface ∈ config.ifaces, iface.addr = entry.ifaceAddr := by
  obtain ⟨_, _, route⟩ := filled.table.route found
  obtain ⟨via, before, next, iface⟩ := route.far (by omega)
  cases filled.placed node with
  | unreached none => omega
  | direct one _ => omega
  | via last same _ _ _ more =>
      rw [same] at before
      have one : (dijkstra.dijkstraMap last).hopCount = 1 := by omega
      obtain ⟨dest, first, known⟩ := filled.near single before one
      have through : entry.nextAddr = last := next.trans first
      refine ⟨via, through ▸ before, dest.trans through.symm, first.trans through.symm, ?_,
        same.trans through.symm, iface ▸ known⟩
      rintro equal
      rw [← equal, through] at two
      omega

theorem interface_known {addr : NsAddr} (known : ∃ iface ∈ config.ifaces, iface.addr = addr) :
    ∃ ie, getInterfaceWlanByAddress config addr = some ie := by
  obtain ⟨iface, member, same⟩ := known
  unfold getInterfaceWlanByAddress
  split
  · cases ifaces : config.ifaces with
    | nil => simp [ifaces] at member
    | cons first rest => exact ⟨first, rfl⟩
  · refine Option.isSome_iff_exists.mp (List.find?_isSome.mpr ⟨iface, member, ?_⟩)
    simpa using same

theorem addAliases_self {assocs : List IfaceAssocTuple}
    (single : ∀ tuple ∈ assocs, tuple.ifaceAddr = tuple.mainAddr) (rtable : Rtable) :
    assocs.foldl addAlias rtable = rtable := by
  refine foldl_keeps addAlias (fun final => final = rtable) rfl ?_
  rintro tuple final member rfl
  unfold addAlias
  rw [single tuple member]
  cases final.lookup tuple.mainAddr <;> rfl

/-- What `getRoute` accepts is the route vector and the destination. -/
theorem getRoute_path {getAp : NsAddr → Option NsAddr} {fuel dist : Nat} {path : List NsAddr}
    (stored : rtable.lookup node = some entry)
    (read : getRoute getAp rtable fuel node = .ok (dist, path)) :
    path = entry.route ++ [node] := by
  simp only [getRoute, stored, readRoute] at read
  obtain ⟨sent, _, read⟩ := bind_ok.mp read
  split at read
  · cases read
  · split at read
    · cases read
    · exact (congrArg Prod.snd (Except.ok.inj read)).symm

/-! ## The result -/

/-- The readers serve the entries of one and of two hops, and no others. -/
theorem fullRoute_iff (single : SingleInterface config state) {final : Rtable}
    (ran : rtableDijkstraComputation parameter raAddr state now = .ok final)
    (getAp : NsAddr → Option NsAddr) :
    ∃ dijkstra, dijkstraPaths parameter raAddr state now = .ok dijkstra ∧
      ∀ dest entry, final.lookup dest = some entry →
        (FullRoute config parameter getAp dijkstra.dijkstraMap final entry ↔ entry.dist ≤ 2) := by
  obtain ⟨dijkstra, rtable, found, filled, same⟩ := rtableDijkstraComputation_filled ran
  rw [addAliases_self single.assocs] at same
  subst same
  refine ⟨dijkstra, found, fun dest entry stored => ?_⟩
  obtain ⟨_, reached, route⟩ := filled.table.route stored
  have dist := route.dist
  have dest := route.dest
  subst dest
  constructor
  · rintro ⟨fuel, path, hop, read, length, _, _, _, _⟩
    by_contra far
    have notTwo : entry.dist ≠ 2 := by omega
    have vector : entry.route = [] := by rw [route.route, if_neg notTwo]
    have short : path = [entry.destAddr] := by rw [getRoute_path stored read, vector]; rfl
    rw [short, List.length_singleton] at length
    omega
  · intro near
    rcases Nat.lt_or_eq_of_le near with fewer | two
    · have one : entry.dist = 1 := by omega
      have vector : entry.route = [] := by rw [route.route, if_neg (by omega)]
      obtain ⟨_, next, known⟩ := filled.near single stored (by omega)
      obtain ⟨ie, interface⟩ := interface_known known
      let hop : EtxNextHop := {
        add := entry.destAddr
        iface := ie.index
        cost := if parameter.linkDelay then entry.delay else entry.quality }
      refine ⟨0, [entry.destAddr], hop, ?_, by simp [one], .singleton _, rfl, ?_, rfl⟩
      · simp [getRoute, stored, readRoute, Rtable.findSendEntry, next, vector, Except.bind]
      · simp [readNextHop, Rtable.findSendEntry, next, vector, Except.bind, interface, hop]
    · have vector : entry.route = [entry.nextAddr] := by rw [route.route, if_pos two]
      obtain ⟨via, before, viaDest, viaNext, different, last, known⟩ :=
        filled.behind single stored (by omega)
      obtain ⟨ie, interface⟩ := interface_known known
      have chain : Rtable.findSendEntry final 1 (some entry) = .ok (some via) := by
        have ends : via.destAddr = via.nextAddr := viaDest.trans viaNext.symm
        simp [Rtable.findSendEntry, Ne.symm different, before, ends]
      let hop : EtxNextHop := {
        add := entry.nextAddr
        iface := ie.index
        cost := if parameter.linkDelay then entry.delay else entry.quality }
      refine ⟨1, [entry.nextAddr, entry.destAddr], hop, ?_, by simp [two], ?_, rfl, ?_, rfl⟩
      · simp [getRoute, stored, readRoute, chain, Except.bind, vector, viaNext]
      · exact List.isChain_cons_cons.mpr ⟨last, .singleton _⟩
      · simp [readNextHop, chain, Except.bind, vector, viaNext, interface, hop]

/-! ## Two hops and three hops -/

/-- Neighbor 2 lists neighbor 3, which advertises its neighbor 4. -/
def threeHops : Repositories where
  linkset := (helloAndTc 1 1).linkset
  nbset := (helloAndTc 1 1).nbset
  nb2hopset := (helloAndTc 1 1).nb2hopset
  topologyset := [{
    id := 3
    destAddr := 4
    lastAddr := 3
    seq := 0
    time := 20
    localIfaceIndex := 0
    qualities := { linkQuality := 1, nbLinkQuality := 1, nbLinkDelay := 0 } }]
  ifaceassocset := (helloAndTc 1 1).ifaceassocset

theorem threeHops_single : SingleInterface oneIfaceConfig threeHops where
  ifaces := rfl
  links := by
    intro link member
    simp only [threeHops, helloAndTc, List.mem_singleton] at member
    subst member
    exact ⟨{ index := 0, addr := 1 }, by decide, rfl⟩
  assocs := by
    intro tuple member
    simp only [threeHops, helloAndTc, List.mem_singleton] at member
    subst member
    rfl

def vectorOf (state : Repositories) (dest : NsAddr) : Option (Nat × List NsAddr) :=
  match rtableDijkstraComputation etxParameter 1 state 10 with
  | .ok rtable => (rtable.lookup dest).map fun entry => (entry.dist, entry.route)
  | .error _ => none

theorem fullRoute_iff_twoHops :
    ∃ dijkstra rtable entry, dijkstraPaths etxParameter 1 threeHops 10 = .ok dijkstra ∧
      rtableDijkstraComputation etxParameter 1 threeHops 10 = .ok rtable ∧
      rtable.lookup 3 = some entry ∧ entry.dist = 2 ∧
      FullRoute oneIfaceConfig etxParameter (fun _ => none) dijkstra.dijkstraMap rtable entry := by
  have vector : vectorOf threeHops 3 = some (2, [2]) := by decide +kernel
  cases ran : rtableDijkstraComputation etxParameter 1 threeHops 10 with
  | error fault => simp only [vectorOf, ran, reduceCtorEq] at vector
  | ok rtable =>
      simp only [vectorOf, ran] at vector
      obtain ⟨entry, found, same⟩ := Option.map_eq_some_iff.mp vector
      have two : entry.dist = 2 := congrArg Prod.fst same
      obtain ⟨dijkstra, paths, served⟩ := fullRoute_iff threeHops_single ran fun _ => none
      exact ⟨dijkstra, rtable, entry, paths, rfl, found, two,
        (served 3 entry found).mpr (le_of_eq two)⟩

/-- `getRoute` raises the error for node 4. -/
theorem fullRoute_missing_threeHops :
    ((rtableDijkstraComputation etxParameter 1 threeHops 10).bind fun rtable =>
        getRoute (fun _ => none) rtable 2 4) = .error databaseError ∧
    ¬ ∀ config parameter raAddr state now rtable getAp, SingleInterface config state →
      rtableDijkstraComputation parameter raAddr state now = .ok rtable →
      ∃ dijkstra, dijkstraPaths parameter raAddr state now = .ok dijkstra ∧
        ∀ dest entry, rtable.lookup dest = some entry →
          FullRoute config parameter getAp dijkstra.dijkstraMap rtable entry := by
  refine ⟨by decide +kernel, fun claim => ?_⟩
  have vector : vectorOf threeHops 4 = some (3, []) := by decide +kernel
  cases ran : rtableDijkstraComputation etxParameter 1 threeHops 10 with
  | error fault => simp only [vectorOf, ran, reduceCtorEq] at vector
  | ok rtable =>
      simp only [vectorOf, ran] at vector
      obtain ⟨entry, found, same⟩ := Option.map_eq_some_iff.mp vector
      obtain ⟨dist, empty⟩ := Prod.mk.inj same
      have dest := Rtable.lookup_dest found
      obtain ⟨_, _, served⟩ :=
        claim _ _ _ _ _ rtable (fun _ => none) threeHops_single ran
      obtain ⟨fuel, path, _, read, length, _⟩ := served 4 entry found
      rw [dest] at read
      rw [getRoute_path found read, empty, dist] at length
      cases length

end

end SyncFanet.OlsrEtx
