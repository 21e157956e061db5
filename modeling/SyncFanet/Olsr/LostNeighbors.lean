import SyncFanet.Olsr.AssertedRoutes
import SyncFanet.Olsr.RouteConditions

/-!
# Neighbors lost by the link layer

Every route starts over a link of a symmetric neighbor, and only symmetric neighbors are
MPRs. Once `mac_failed` has made the neighbor of the failed link asymmetric and has erased
its tuples, nothing goes through it. It stays the 2-hop neighbor of other neighbors, and a
datagram to the broadcast address tells nothing about a link.
-/

set_option autoImplicit false

namespace SyncFanet.Olsr

/-! ## Next hops -/

def ThroughNeighbors (state : State) (now : Int) (rtable : Rtable) : Prop :=
  ∀ dest entry, rtable.lookup dest = some entry →
    ∃ nb ∈ state.nbset, nb.status = .sym ∧ ∃ link ∈ linksOf state now nb,
      entry.nextAddr = link.nbIfaceAddr

section

variable {state : State} {now : Int} {rtable : Rtable}

theorem ThroughNeighbors.store (through : ThroughNeighbors state now rtable) {addr : NsAddr}
    {entry via : RtEntry} (known : rtable.lookup addr = some via)
    (same : entry.nextAddr = via.nextAddr) : ThroughNeighbors state now (rtable.store entry) := by
  intro dest other found
  rw [Rtable.lookup_store] at found
  split at found
  · cases found
    rw [same]
    exact through addr via known
  · exact through dest other found

theorem neighborPass_through (state : State) (now : Int) :
    ThroughNeighbors state now (neighborPass state now) := by
  intro dest entry found
  obtain ⟨nb, member, sym, link, included, rfl | rfl⟩ := neighborPass_found found
  · exact ⟨nb, member, sym, link, included, rfl⟩
  · exact ⟨nb, member, sym, link, included, rfl⟩

theorem twoHopPass_through {twoHop : Rtable}
    (ran : twoHopPass state (neighborPass state now) = .ok twoHop) :
    ThroughNeighbors state now twoHop := by
  refine foldlM_seen ran (fun _ rtable => ThroughNeighbors state now rtable)
    (neighborPass_through state now) ?_
  intro _ hop before after _ through stepped
  rcases addTwoHopEntry_cases stepped with ⟨_, rfl⟩ | ⟨_, via, found, ⟨_, rfl⟩ | rfl⟩
  · exact through
  · exact through
  · exact through.store found rfl

theorem rtableComputation_through (computed : rtableComputation state now = .ok rtable) :
    ThroughNeighbors state now rtable := by
  obtain ⟨twoHop, passed, ran⟩ := bind_ok.mp computed
  have budget := missing_le state twoHop
  obtain ⟨final, _, ran', through, _⟩ := layers_spec state
    (fun _ table => ThroughNeighbors state now table)
    (fun h table through _ => layer_keeps (ThroughNeighbors state now) through
      (fun _ through _ _ _ _ found _ => through.store found rfl)
      (fun _ through _ _ _ _ found => through.store found rfl))
    (state.topologyset.length + state.ifaceassocset.length + 1) 2 twoHop (by omega)
    (twoHopPass_through passed)
  rw [ran] at ran'
  exact Except.ok.inj ran' ▸ through

theorem rtableComputation_error {fault : Fault}
    (failed : rtableComputation state now = .error fault) : fault = missingEntry := by
  by_contra other
  have step : ∀ rtable hop, addTwoHopEntry state rtable hop ≠ .error fault := by
    intro rtable hop
    unfold addTwoHopEntry
    split
    · split
      · intro same
        exact other (Except.error.inj same).symm
      · split <;> exact nofun
    · exact nofun
  refine bind_avoids (foldlM_avoids step _ _) ?_ failed
  intro twoHop _
  have budget := missing_le state twoHop
  obtain ⟨final, _, ran, _⟩ := layers_spec state (fun _ _ => True) (fun _ _ _ _ => trivial)
    (state.topologyset.length + state.ifaceassocset.length + 1) 2 twoHop (by omega) trivial
  rw [ran]
  exact nofun

end

/-! ## Loss of a neighbor -/

/-- Nothing of the agent uses the neighbor; `refers` says which 2-hop tuples would. -/
structure NeighborLost (refers : NsAddr → Nb2hopTuple → Prop) (nbIfaceAddr mainAddr : NsAddr)
    (node : Node) : Prop where
  routes : ∀ dest entry, node.rtable.lookup dest = some entry → entry.nextAddr ≠ nbIfaceAddr
  mprset : mainAddr ∉ node.state.mprset
  mprselset : ∀ tuple ∈ node.state.mprselset, tuple.mainAddr ≠ mainAddr
  nb2hopset : ∀ tuple ∈ node.state.nb2hopset, ¬ refers mainAddr tuple
  notSym : ∃ nb, node.state.findNbTuple mainAddr = some nb ∧ nb.status = .notSym

/-- The tuple comes from a HELLO of the neighbor. -/
def ReportedBy (mainAddr : NsAddr) (tuple : Nb2hopTuple) : Prop := tuple.nbMainAddr = mainAddr

/-- The tuple has the address anywhere. -/
def Mentions (mainAddr : NsAddr) (tuple : Nb2hopTuple) : Prop :=
  tuple.nbMainAddr = mainAddr ∨ tuple.nb2hopAddr = mainAddr

theorem lossErased_erases (config : Config) (now : Int) (link : LinkTuple) (node : Node) :
    (∀ tuple ∈ (lossErased config now link node).state.nb2hopset,
      tuple.nbMainAddr ≠ node.state.getMainAddr link.nbIfaceAddr) ∧
    ∀ tuple ∈ (lossErased config now link node).state.mprselset,
      tuple.mainAddr ≠ node.state.getMainAddr link.nbIfaceAddr := by
  unfold lossErased Node.eraseMprselTuples Node.eraseNb2hopTuplesOf
  dsimp only
  split
  · exact ⟨fun tuple member => by simpa using (List.mem_filter.mp member).2,
      fun tuple member => by simpa using (List.mem_filter.mp member).2⟩
  · exact ⟨fun tuple member => by simpa using (List.mem_filter.mp member).2,
      fun tuple member => by simpa using (List.mem_filter.mp member).2⟩

section

variable {config : Config} {now : Int} {link : LinkTuple} {node : Node}

/-- The neighbor set of `nb_loss`. -/
theorem lossErased_written (mains : node.state.nbMains.Nodup) :
    NbWritten (node.state.getMainAddr link.nbIfaceAddr) (linkStatus config now link) node.state
      (lossErased config now link node).state := by
  have written := updatedLinkTuple_written config now link willDefault mains
  have same := lossErased_sameNeighborhood config now link node
  constructor
  · exact same.linkset.trans written.linkset
  · exact same.ifaceassocset.trans written.ifaceassocset
  · rw [State.nbMains, same.nbset]
    exact written.unique
  · rw [same.nbset]
    exact written.written
  · rw [State.nbMains, same.nbset]
    exact written.present

/-- The MPR computation of `nb_loss` ends, so that only the assertion of the routing table
stops it. -/
theorem nbLoss_outcome (mains : node.state.nbMains.Nodup) :
    (∃ node', nbLoss config now link node = .ok node') ∨
      nbLoss config now link node = .error missingEntry := by
  obtain ⟨mprset, computed, _⟩ := mprComputation_spec config.isLocalAddress
    (lossErased config now link node).state (lossErased_written mains).unique
  have ran : nbLoss config now link node =
      ((lossErased config now link node).mapState fun state =>
        { state with mprset := mprset }).recomputeRtable now := by
    have mprs : (lossErased config now link node).recomputeMprs config =
        .ok ((lossErased config now link node).mapState fun state =>
          { state with mprset := mprset }) := by
      simp only [Node.recomputeMprs, computed]
    have stages : nbLoss config now link node =
        ((lossErased config now link node).recomputeMprs config).bind
          fun computed => computed.recomputeRtable now := rfl
    rw [stages, mprs]
    rfl
  rw [ran, Node.recomputeRtable]
  cases table : rtableComputation ((lossErased config now link node).mapState fun state =>
      { state with mprset := mprset }).state now with
  | ok rtable => exact .inl ⟨_, rfl⟩
  | error fault =>
      right
      rw [rtableComputation_error table]
      rfl

/-- After `nb_loss` with a link that does not make its neighbor symmetric. -/
theorem nbLoss_lost {node' : Node} (mains : node.state.nbMains.Nodup)
    (lost : linkStatus config now link = .notSym) (ran : nbLoss config now link node = .ok node') :
    NeighborLost ReportedBy link.nbIfaceAddr (node.state.getMainAddr link.nbIfaceAddr) node' := by
  obtain ⟨computed, mprs, table⟩ := nbLoss_stages ran
  obtain ⟨mprset, mprsComputed, rfl⟩ := recomputeMprs_writes mprs
  obtain ⟨rtable, rtableComputed, rfl⟩ := recomputeRtable_writes table
  have written : NbWritten (node.state.getMainAddr link.nbIfaceAddr) (linkStatus config now link)
      node.state (lossErased config now link node).state := lossErased_written mains
  have asymmetric : ∀ nb ∈ (lossErased config now link node).state.nbset,
      nb.nbMainAddr = node.state.getMainAddr link.nbIfaceAddr → nb.status = .notSym := by
    intro nb member main
    rcases written.written nb member with ⟨_, status⟩ | ⟨_, different⟩
    · exact status.trans lost
    · exact absurd main different
  obtain ⟨erased, deselected⟩ := lossErased_erases config now link node
  refine ⟨?_, ?_, deselected, erased, ?_⟩
  · intro dest entry found next
    obtain ⟨nb, member, sym, other, included, through⟩ :=
      rtableComputation_through rtableComputed dest entry found
    have main := (mem_linksOf.mp included).2.1
    have same : (lossErased config now link node).state.getMainAddr other.nbIfaceAddr =
        node.state.getMainAddr link.nbIfaceAddr := by
      rw [← through, next, getMainAddr_congr (congrArg (List.map _) written.ifaceassocset)]
    have status := asymmetric nb member (main.symm.trans same)
    rw [sym] at status
    exact NbStatus.noConfusion status
  · intro selected
    obtain ⟨_, same, cover⟩ := mprComputation_spec config.isLocalAddress
      (lossErased config now link node).state written.unique
    rw [mprsComputed] at same
    obtain ⟨nb, member, main, sym, _⟩ := cover.willing _ (Option.some.inj same ▸ selected)
    rw [asymmetric nb member main] at sym
    exact NbStatus.noConfusion sym
  · obtain ⟨nb, found⟩ := Option.isSome_iff_exists.mp (findNbTuple_isSome.mpr written.present)
    refine ⟨nb, found, asymmetric nb (List.mem_of_find?_eq_some found) ?_⟩
    simpa using List.find?_some found

end

/-! ## Failures reported by the link layer -/

/-- In every run of an agent that uses the link layer, `mac_failed` for such a destination
removes the neighbor behind its route, unless the assertion of the routing table stops it. -/
def FailureRemoves (destination : NsAddr → Prop) (refers : NsAddr → Nb2hopTuple → Prop) : Prop :=
  ∀ (config : Config) (clock now : Int) (node : Node) (destAddr : NsAddr) (entry : RtEntry)
    (link : LinkTuple),
    Reached recvOlsr config (fun _ _ _ => True) clock node → config.useMac = true →
    destination destAddr → node.rtable.lookup destAddr = some entry →
    node.state.findLinkTuple entry.nextAddr = some link →
    (∃ node', macFailed config now destAddr node = .ok node' ∧
      NeighborLost refers link.nbIfaceAddr (node.state.getMainAddr link.nbIfaceAddr) node') ∨
    macFailed config now destAddr node = .error missingEntry

theorem neighbor_removed_after_failure :
    FailureRemoves (fun destAddr => destAddr ≠ ipBroadcast) ReportedBy := by
  intro config clock now node destAddr entry link reached useMac unicast routed linked
  have mains : (node.mapState fun state =>
      state.updateLinkTuple (lostLinkTuple config now link)).state.nbMains.Nodup :=
    (reached_wellLinked reached).mains
  have failed : macFailed config now destAddr node =
      nbLoss config now (lostLinkTuple config now link)
        (node.mapState fun state => state.updateLinkTuple (lostLinkTuple config now link)) := by
    simp only [macFailed, if_neg unicast, routed, linked]
    rfl
  have lost : linkStatus config now (lostLinkTuple config now link) = .notSym := by
    have held : now ≤ now + config.neighbHoldTime := by
      have positive := config.refreshInterval_pos
      unfold Config.neighbHoldTime
      omega
    exact if_pos ⟨useMac, held⟩
  rw [failed]
  rcases nbLoss_outcome mains with ⟨node', ran⟩ | stopped
  · have gone := nbLoss_lost mains lost ran
    have same : (node.mapState fun state =>
        state.updateLinkTuple (lostLinkTuple config now link)).state.getMainAddr =
          node.state.getMainAddr := State.getMainAddr_updateLinkTuple _ _
    rw [same] at gone
    exact .inl ⟨node', ran, gone⟩
  · exact .inr stopped

/-- The neighbor 2 of the node 1 fails. -/
theorem neighbor_removed_after_failure_two : ∃ clock node node',
    Reached recvOlsr oneIfaceConfig (fun _ _ _ => True) clock node ∧
      macFailed oneIfaceConfig (2 * Time.second) 2 node = .ok node' ∧
      NeighborLost ReportedBy 2 2 node' := by
  obtain ⟨clock, node, reached, checked⟩ := exists_reached_of_runOf recvOlsr
    (fun _ _ _ => true) [(Time.second, receiveHello 2 2 0 134 10)]
    (fun current =>
      ((current.2.rtable.lookup 2).any fun entry =>
        (current.2.state.findLinkTuple entry.nextAddr).any fun link =>
          link.nbIfaceAddr = 2 ∧ current.2.state.getMainAddr 2 = 2) &&
        (macFailed oneIfaceConfig (2 * Time.second) 2 current.2).toOption.isSome)
    (by decide +kernel)
  have reached : Reached recvOlsr oneIfaceConfig (fun _ _ _ => True) clock node :=
    reached.weaken fun _ _ _ _ => trivial
  simp only [Bool.and_eq_true, Option.any_eq_true, decide_eq_true_eq] at checked
  obtain ⟨⟨entry, routed, link, linked, addr, main⟩, returns⟩ := checked
  rcases neighbor_removed_after_failure oneIfaceConfig clock (2 * Time.second) node 2 entry link
    reached rfl (by decide) routed linked with ⟨node', ran, gone⟩ | stopped
  · rw [addr, main] at gone
    exact ⟨clock, node, node', reached, ran, gone⟩
  · rw [stopped] at returns
    cases returns

def receiveHelloBeside (srcAddr neighbor : NsAddr) : Event :=
  receive srcAddr srcAddr 0 134 (.hello {
    htime := 0
    willingness := willDefault
    helloMsgs := [
      { linkCode := 10, nbIfaceAddrs := [1] }, { linkCode := 6, nbIfaceAddrs := [neighbor] }] })

/-- A run after which `mac_failed` for an address leaves something of the neighbor. -/
theorem not_failureRemoves_of_run {destination : NsAddr → Prop}
    {refers : NsAddr → Nb2hopTuple → Prop} (destAddr : NsAddr) (allowed : destination destAddr)
    (events : List (Int × Event)) (left : NsAddr → NsAddr → Node → Bool)
    (kept : ∀ nbIfaceAddr mainAddr node, left nbIfaceAddr mainAddr node = true →
      ¬ NeighborLost refers nbIfaceAddr mainAddr node)
    (checked : (runOf recvOlsr (fun _ _ _ => true) events).any (fun current =>
      (current.2.rtable.lookup destAddr).any fun entry =>
        (current.2.state.findLinkTuple entry.nextAddr).any fun link =>
          (macFailed oneIfaceConfig (3 * Time.second) destAddr current.2).toOption.any
            (left link.nbIfaceAddr (current.2.state.getMainAddr link.nbIfaceAddr))) = true) :
    ¬ FailureRemoves destination refers := by
  intro claimed
  obtain ⟨clock, node, reached, checked⟩ :=
    exists_reached_of_runOf recvOlsr (fun _ _ _ => true) events _ checked
  simp only [Option.any_eq_true] at checked
  obtain ⟨entry, routed, link, linked, node', returned, leaves⟩ := checked
  rcases claimed oneIfaceConfig clock (3 * Time.second) node destAddr entry link
    (reached.weaken fun _ _ _ _ => trivial) rfl allowed routed linked with
    ⟨other, ran, gone⟩ | stopped
  · rw [ran] at returned
    cases returned
    exact kept _ _ _ leaves gone
  · rw [stopped] at returned
    cases returned

/-- The failed neighbor 2 stays a 2-hop neighbor through 3, and a datagram to the broadcast
address leaves the route over 2. -/
theorem not_failureRemoves :
    ¬ FailureRemoves (fun _ => True) Mentions ∧ ¬ FailureRemoves (fun _ => True) ReportedBy ∧
      ¬ FailureRemoves (fun destAddr => destAddr ≠ ipBroadcast) Mentions := by
  have beyond : ∀ {destination : NsAddr → Prop}, destination 2 →
      ¬ FailureRemoves destination Mentions := by
    intro destination allowed
    refine not_failureRemoves_of_run 2 allowed
      [(Time.second, receiveHello 2 2 0 134 10), (2 * Time.second, receiveHelloBeside 3 2)]
      (fun _ mainAddr node => node.state.nb2hopset.any fun tuple => tuple.nb2hopAddr = mainAddr)
      ?_ (by decide +kernel)
    intro nbIfaceAddr mainAddr node left gone
    obtain ⟨tuple, member, names⟩ := List.any_eq_true.mp left
    exact gone.nb2hopset tuple member (.inr (of_decide_eq_true names))
  have broadcast : ¬ FailureRemoves (fun _ => True) ReportedBy := by
    refine not_failureRemoves_of_run ipBroadcast trivial
      [(Time.second, receiveHelloBeside 2 ipBroadcast)]
      (fun nbIfaceAddr _ node =>
        (node.rtable.lookup ipBroadcast).any fun entry => entry.nextAddr = nbIfaceAddr)
      ?_ (by decide +kernel)
    intro nbIfaceAddr mainAddr node left gone
    obtain ⟨entry, routed, passes⟩ := (Option.any_eq_true _ _).mp left
    exact gone.routes ipBroadcast entry routed (of_decide_eq_true passes)
  exact ⟨beyond trivial, broadcast, beyond (by decide)⟩

end SyncFanet.Olsr
