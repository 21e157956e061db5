import SyncFanet.Olsr.MprComputation
import SyncFanet.Olsr.NeighborSet
import SyncFanet.Olsr.RtableComputation

/-!
# What the two computations read

`mpr_computation` reads the neighbor set and the addresses of the 2-hop tuples.
`rtable_computation` also reads the unexpired links of each neighbor and the addresses
of the topology tuples and associations. States that agree on these have the same
MPRs and routes.
-/

set_option autoImplicit false

namespace SyncFanet.Olsr

/-! ## MPRs -/

def hopKey (hop : Nb2hopTuple) : NsAddr × NsAddr := (hop.nbMainAddr, hop.nb2hopAddr)

section

variable (isLocalAddress : NsAddr → Bool) (nbs : List NbTuple)

theorem willAlwaysPass_map (n2 : List Nb2hopTuple) :
    willAlwaysPass Prod.fst Prod.snd nbs (n2.map hopKey) =
      ((willAlwaysPass Nb2hopTuple.nbMainAddr Nb2hopTuple.nb2hopAddr nbs n2).1.map hopKey,
        (willAlwaysPass Nb2hopTuple.nbMainAddr Nb2hopTuple.nb2hopAddr nbs n2).2) := by
  have loop : ∀ (nbs : List NbTuple) (acc : List Nb2hopTuple × Finset NsAddr),
      nbs.foldl (willAlwaysStep Prod.fst Prod.snd) (acc.1.map hopKey, acc.2) =
        ((nbs.foldl (willAlwaysStep Nb2hopTuple.nbMainAddr Nb2hopTuple.nb2hopAddr) acc).1.map
          hopKey,
          (nbs.foldl (willAlwaysStep Nb2hopTuple.nbMainAddr Nb2hopTuple.nb2hopAddr) acc).2) := by
    intro nbs
    induction nbs with
    | nil => intro acc; rfl
    | cons nb rest ih =>
        intro acc
        rw [List.foldl_cons, List.foldl_cons, ← ih]
        congr 1
        unfold willAlwaysStep
        split
        · simp only [coverTwoHopNeighbors, GreedyCover.dropCovered_map]
          rfl
        · rfl
  exact loop nbs (n2, ∅)

theorem uniqueProviderPass_map (n2 : List Nb2hopTuple) (mprset : Finset NsAddr) :
    uniqueProviderPass Prod.fst Prod.snd (n2.map hopKey) mprset =
      uniqueProviderPass Nb2hopTuple.nbMainAddr Nb2hopTuple.nb2hopAddr n2 mprset := by
  unfold uniqueProviderPass
  rw [List.foldl_map]
  congr 1
  funext acc hop
  have sole : onlyOne Prod.fst Prod.snd (n2.map hopKey) (hopKey hop) =
      onlyOne Nb2hopTuple.nbMainAddr Nb2hopTuple.nb2hopAddr n2 hop := by
    rw [onlyOne, List.any_map]
    rfl
  simp only [uniqueProviderStep, sole, GreedyCover.targetsOf_map]
  rfl

theorem reachabilityPick_map (better : Nat × NbTuple → Nat × NbTuple → Bool)
    (n2 : List Nb2hopTuple) :
    reachabilityPick Prod.fst better nbs (n2.map hopKey) =
      reachabilityPick Nb2hopTuple.nbMainAddr better nbs n2 := by
  have counts : reachabilityOf Prod.fst (n2.map hopKey) =
      reachabilityOf Nb2hopTuple.nbMainAddr n2 := by
    funext nb
    rw [reachabilityOf, List.countP_map]
    rfl
  simp only [reachabilityPick, byReachability, counts, List.length_map]

/-- `mpr_computation` over the addresses of the 2-hop tuples. -/
def mprsOf (better : Nat × NbTuple → Nat × NbTuple → Bool) (hops : List (NsAddr × NsAddr)) :
    Option (Finset NsAddr) :=
  let n2 := hops.filter (n2Member Prod.fst Prod.snd isLocalAddress nbs)
  let (n2, mprset) := willAlwaysPass Prod.fst Prod.snd nbs n2
  let (mprset, covered) := uniqueProviderPass Prod.fst Prod.snd n2 mprset
  let n2 := n2.filter fun hop => hop.2 ∉ covered
  GreedyCover.greedy Prod.fst Prod.snd (reachabilityPick Prod.fst better nbs) n2.length n2 mprset

end

theorem mprComputation_eq_mprsOf (isLocalAddress : NsAddr → Bool) (state : State) :
    mprComputation isLocalAddress state =
      mprsOf isLocalAddress (symNeighbors state.nbset) (mprBetter state)
        (state.nb2hopset.map hopKey) := by
  unfold mprsOf mprComputation
  simp only [willAlwaysPass_map, uniqueProviderPass_map, List.filter_map, List.length_map]
  rw [GreedyCover.greedy_map]
  · rfl
  · exact reachabilityPick_map (symNeighbors state.nbset) (mprBetter state)

theorem mprComputation_congr {state state' : State} (isLocalAddress : NsAddr → Bool)
    (nbset : state'.nbset = state.nbset)
    (hops : state'.nb2hopset.map hopKey = state.nb2hopset.map hopKey) :
    mprComputation isLocalAddress state' = mprComputation isLocalAddress state := by
  have degrees : degree state' = degree state := by
    funext tuple
    have counted : ∀ state : State, degree state tuple =
        (state.nb2hopset.map hopKey).countP fun hop =>
          hop.1 = tuple.nbMainAddr ∧ state.findNbTuple hop.2 = none := by
      intro state
      rw [List.countP_map]
      rfl
    have found : ∀ addr, state'.findNbTuple addr = state.findNbTuple addr := by
      intro addr
      rw [State.findNbTuple, State.findNbTuple, nbset]
    rw [counted, counted, hops]
    refine List.countP_congr fun hop _ => ?_
    rw [decide_eq_true_eq, decide_eq_true_eq, found]
  have better : mprBetter state' = mprBetter state := by
    funext current candidate
    simp only [mprBetter, degrees]
  rw [mprComputation_eq_mprsOf, mprComputation_eq_mprsOf, nbset, hops, better]

/-! ## Routes -/

/-- What `rtable_computation` reads of a link tuple. -/
structure LinkInput where
  nbIfaceAddr : NsAddr
  localIfaceAddr : NsAddr
  localIfaceIndex : Nat
  unexpired : Bool

def linkInput (now : Int) (link : LinkTuple) : LinkInput where
  nbIfaceAddr := link.nbIfaceAddr
  localIfaceAddr := link.localIfaceAddr
  localIfaceIndex := link.localIfaceIndex
  unexpired := link.time ≥ now

def topologyEnds (tuple : TopologyTuple) : NsAddr × NsAddr := (tuple.destAddr, tuple.lastAddr)

def assocAddrs (tuple : IfaceAssocTuple) : NsAddr × NsAddr := (tuple.ifaceAddr, tuple.mainAddr)

/-- The two states have the same neighbors, and tuples of the other sets that differ in what
the computations do not read. -/
structure SameInputs (now : Int) (state state' : State) : Prop where
  nbset : state'.nbset = state.nbset
  hops : state'.nb2hopset.map hopKey = state.nb2hopset.map hopKey
  links : state'.linkset.map (linkInput now) = state.linkset.map (linkInput now)
  topology : state'.topologyset.map topologyEnds = state.topologyset.map topologyEnds
  assocs : state'.ifaceassocset.map assocAddrs = state.ifaceassocset.map assocAddrs

theorem SameInputs.refl (now : Int) (state : State) : SameInputs now state state :=
  ⟨rfl, rfl, rfl, rfl, rfl⟩

theorem SameInputs.trans {now : Int} {first second third : State}
    (left : SameInputs now first second) (right : SameInputs now second third) :
    SameInputs now first third :=
  ⟨right.nbset.trans left.nbset, right.hops.trans left.hops, right.links.trans left.links,
    right.topology.trans left.topology, right.assocs.trans left.assocs⟩

section

variable {now : Int} {state state' : State} (same : SameInputs now state state')
include same

theorem SameInputs.unexpired (unexpired : ∀ link ∈ state.linkset, now ≤ link.time) :
    ∀ link ∈ state'.linkset, now ≤ link.time := by
  intro link member
  have among : linkInput now link ∈ state.linkset.map (linkInput now) :=
    same.links ▸ List.mem_map_of_mem member
  obtain ⟨old, stored, equal⟩ := List.mem_map.mp among
  have lives : decide (old.time ≥ now) = decide (link.time ≥ now) :=
    congrArg LinkInput.unexpired equal
  rw [decide_eq_true (unexpired old stored)] at lives
  exact of_decide_eq_true lives.symm

theorem linksOf_congr (nb : NbTuple) :
    (linksOf state' now nb).map (linkInput now) = (linksOf state now nb).map (linkInput now) := by
  have filtered : ∀ state : State, (linksOf state now nb).map (linkInput now) =
      (state.linkset.map (linkInput now)).filter fun input =>
        state.getMainAddr input.nbIfaceAddr = nb.nbMainAddr ∧ input.unexpired = true := by
    intro state
    rw [List.filter_map, linksOf]
    congr 1
    refine List.filter_congr fun link _ => ?_
    simp [linkInput]
  rw [filtered, filtered, same.links, getMainAddr_congr same.assocs]

theorem addNeighborEntries_congr : addNeighborEntries state' now = addNeighborEntries state now := by
  funext rtable nb
  have listed := linksOf_congr same nb
  have entries : ∀ links : List LinkTuple, links.foldl addLinkEntry rtable =
      (links.map (linkInput now)).foldl (fun rtable input =>
        rtable.addEntry input.nbIfaceAddr input.nbIfaceAddr input.localIfaceAddr 1
          input.localIfaceIndex Rtable.notMeasured Rtable.notMeasured) rtable := by
    intro links
    rw [List.foldl_map]
    rfl
  have direct : ∀ links : List LinkTuple, (links.any fun link => link.nbIfaceAddr = nb.nbMainAddr) =
      (links.map (linkInput now)).any fun input => input.nbIfaceAddr = nb.nbMainAddr := by
    intro links
    rw [List.any_map]
    rfl
  have last : (linksOf state' now nb).getLast?.map (linkInput now) =
      (linksOf state now nb).getLast?.map (linkInput now) := by
    rw [← List.getLast?_map, ← List.getLast?_map, listed]
  unfold addNeighborEntries
  split
  · dsimp only
    rw [entries, entries, direct, direct, listed]
    split
    · rfl
    · cases here : (linksOf state now nb).getLast? with
      | none =>
          rw [here] at last
          rw [Option.map_eq_none_iff.mp last]
      | some link =>
          rw [here] at last
          obtain ⟨link', found, equal⟩ := Option.map_eq_some_iff.mp last
          simp only [linkInput, LinkInput.mk.injEq] at equal
          simp only [found, addMainEntry, equal]
  · rfl

theorem twoHopPass_congr (rtable : Rtable) : twoHopPass state' rtable = twoHopPass state rtable := by
  have entries : ∀ (state : State), twoHopPass state rtable =
      (state.nb2hopset.map hopKey).foldlM (fun rtable key => addTwoHopEntry state rtable
        { id := 0, nbMainAddr := key.1, nb2hopAddr := key.2, time := 0 }) rtable := by
    intro state
    rw [List.foldlM_map]
    rfl
  have reads : addTwoHopEntry state' = addTwoHopEntry state := by
    have nbsetOnly : addTwoHopEntry state' =
        addTwoHopEntry { state with nbset := state'.nbset } := rfl
    rw [nbsetOnly, same.nbset]
  rw [entries, entries, same.hops, reads]

theorem passes_congr (h : Nat) (rtable : Rtable) :
    aliasPass state' (topologyPass state' h rtable) =
      aliasPass state (topologyPass state h rtable) := by
  have topology : ∀ state : State, topologyPass state h rtable =
      (state.topologyset.map topologyEnds).foldl (fun acc ends => addTopologyEntry h acc
        { id := 0, destAddr := ends.1, lastAddr := ends.2, seq := 0, time := 0,
          localIfaceIndex := 0 }) (rtable, false) := by
    intro state
    rw [List.foldl_map]
    rfl
  have aliases : ∀ (state : State) (acc : Rtable × Bool), aliasPass state acc =
      (state.ifaceassocset.map assocAddrs).foldl (fun acc addrs => addAliasEntry acc
        { id := 0, ifaceAddr := addrs.1, mainAddr := addrs.2, time := 0,
          localIfaceIndex := 0 }) acc := by
    intro state acc
    rw [List.foldl_map]
    rfl
  rw [aliases, aliases, topology, topology, same.topology, same.assocs]

theorem layers_congr (fuel h : Nat) (rtable : Rtable) :
    layers state' fuel h rtable = layers state fuel h rtable := by
  induction fuel generalizing h rtable with
  | zero => rfl
  | succ fuel ih =>
      simp only [layers, passes_congr same]
      split
      · exact ih (h + 1) _
      · rfl

theorem rtableComputation_congr : rtableComputation state' now = rtableComputation state now := by
  have lengths : state'.topologyset.length + state'.ifaceassocset.length =
      state.topologyset.length + state.ifaceassocset.length := by
    have topology := congrArg List.length same.topology
    have assocs := congrArg List.length same.assocs
    simp only [List.length_map] at topology assocs
    rw [topology, assocs]
  have neighbors : neighborPass state' now = neighborPass state now := by
    rw [neighborPass, neighborPass, same.nbset, addNeighborEntries_congr same]
  unfold rtableComputation
  rw [neighbors, twoHopPass_congr same, lengths]
  simp only [layers_congr same]

end

end SyncFanet.Olsr
