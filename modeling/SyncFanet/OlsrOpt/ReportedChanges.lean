import SyncFanet.Olsr.SameInputs
import SyncFanet.OlsrOpt.LinkTuples
import SyncFanet.OlsrOpt.TupleKeys

/-!
# Changes that OLSROPT messages report

A processed message reports a change exactly when it creates a link tuple or gives it a new
time of symmetry, adds or erases a 2-hop tuple, or adds or erases a topology tuple. A
message that reports none leaves what the two computations read as it is, unless it gives a
known neighbor another willingness or adds an association.
-/

set_option autoImplicit false

namespace SyncFanet.OlsrOpt

open Olsr

/-! ## Link sensing -/

/-- Whether the link-code group counts the link of the receiving interface as updated. -/
def mentions (receiverIface : NsAddr) (group : HelloMsg) : Bool :=
  !group.invalid && decide (receiverIface ∈ group.nbIfaceAddrs) &&
    decide (group.linkType = lostLink ∨ group.linkType = symLink ∨ group.linkType = asymLink)

theorem senseGroup_raises (config : Config) (now validity : Int) (receiverIface : NsAddr) :
    RaisesFlag (fun link : LinkTuple => link) (fun _ group => mentions receiverIface group)
      (senseGroup config now validity receiverIface) := by
  intro acc group
  unfold senseGroup mentions
  by_cases invalid : group.invalid = true
  · simp [invalid]
  · by_cases listed : receiverIface ∈ group.nbIfaceAddrs
    · by_cases lost : group.linkType = lostLink
      · simp [invalid, listed, lost]
      · by_cases heard : group.linkType = symLink ∨ group.linkType = asymLink
        · simp [invalid, listed, lost, heard]
        · simp [invalid, listed, lost, heard]
    · simp [invalid, listed]

section

variable (config : Config) (now validity : Int) (receiverIface : NsAddr)
  (helloMsgs : List HelloMsg) (link : LinkTuple)

theorem senseLink_flag (updated : Bool) :
    (senseLink config now validity receiverIface helloMsgs link updated).2 =
      (updated || helloMsgs.any (mentions receiverIface)) :=
  ((senseGroup_raises config now validity receiverIface).foldl
    ({ link with asymTime := now + validity }, updated) helloMsgs).1

theorem senseLink_unmentioned (updated : Bool)
    (unmentioned : helloMsgs.any (mentions receiverIface) = false) :
    (senseLink config now validity receiverIface helloMsgs link updated).1 =
      { link with
        asymTime := now + validity
        time := max link.time (now + validity) } := by
  have same := ((senseGroup_raises config now validity receiverIface).foldl
    ({ link with asymTime := now + validity }, updated) helloMsgs).2 unmentioned
  dsimp only at same
  simp only [senseLink, same]

end

variable {node' : Node} {origAddr : NsAddr} {state : State} {vtime : Nat}

/-- The link that `link_sensing` reports to be new or updated. -/
def changesLink (hello : Hello) (receiverIface senderIface : NsAddr) (state : State) : Bool :=
  (state.findLinkTuple senderIface).isNone || hello.helloMsgs.any (mentions receiverIface)

theorem linkSensing_flag {config : Config} {now : Int} {hello : Hello}
    {receiverIface senderIface : NsAddr} {index : Nat} {node : Node} {changed : Bool}
    (ran : linkSensingWith false config now vtime hello receiverIface senderIface index node =
      .ok (node', changed)) :
    changed = changesLink hello receiverIface senderIface node.state := by
  rcases linkSensingWith_cases ran with
    ⟨known, link, found, sensed, rfl⟩ | ⟨absent, rfl, _, _, _, _, _, _⟩
  · have flag := senseLink_flag config now (emfToSeconds vtime) receiverIface hello.helloMsgs known
      false
    rw [sensed] at flag
    simpa [changesLink, found] using flag
  · simp [changesLink, absent]

theorem linkSensing_unreported {config : Config} {now : Int} {hello : Hello}
    {receiverIface senderIface : NsAddr} {index : Nat} {node : Node}
    (ran : linkSensingWith false config now vtime hello receiverIface senderIface index node =
      .ok (node', false)) :
    ∃ known ∈ node.state.linkset, node' = node.mapState fun state =>
      state.updateLinkTuple { known with
        asymTime := now + emfToSeconds vtime
        time := max known.time (now + emfToSeconds vtime) } := by
  have unreported := linkSensing_flag ran
  simp only [changesLink, Bool.false_eq, Bool.or_eq_false_iff] at unreported
  rcases linkSensingWith_cases ran with ⟨known, link, found, sensed, rfl⟩ | ⟨_, reported, _⟩
  · refine ⟨known, List.mem_of_find?_eq_some found, ?_⟩
    have same := senseLink_unmentioned config now (emfToSeconds vtime) receiverIface
      hello.helloMsgs known false unreported.2
    rw [sensed] at same
    rw [Node.mapState, ← same]
    rfl
  · cases reported

/-! ## 2-hop neighbors -/

/-- Whether the advertised address adds or erases a 2-hop tuple. -/
def changesHop (raAddr origAddr : NsAddr) (nbType : Nat) (hops : List (NsAddr × NsAddr))
    (addr : NsAddr) : Bool :=
  if nbType = symNeigh ∨ nbType = mprNeigh then
    decide (addr ≠ raAddr ∧ (origAddr, addr) ∉ hops)
  else decide (nbType = notNeigh ∧ (origAddr, addr) ∈ hops)

theorem findNb2hopTuple_isSome {nbMainAddr nb2hopAddr : NsAddr} :
    (state.findNb2hopTuple nbMainAddr nb2hopAddr).isSome ↔
      (nbMainAddr, nb2hopAddr) ∈ state.nb2hopset.map hopKey := by
  simp [State.findNb2hopTuple, List.find?_isSome, hopKey]

theorem populateAddr_raises (config : Config) (now validity : Int) (origAddr : NsAddr)
    (nbType : Nat) :
    RaisesFlag (fun node : Node => node.state.nb2hopset.map hopKey)
      (changesHop config.raAddr origAddr nbType)
      (populateAddr config now validity origAddr nbType) := by
  intro acc addr
  unfold populateAddr changesHop
  dsimp only
  split
  · next neighbor =>
    by_cases own : addr = config.raAddr
    · simp [own]
    · rw [if_neg own]
      cases found : acc.1.state.findNb2hopTuple origAddr addr with
      | none =>
          have absent : (origAddr, addr) ∉ acc.1.state.nb2hopset.map hopKey := by
            rw [← findNb2hopTuple_isSome, found]
            exact Bool.false_ne_true
          simp [own, absent]
      | some hop =>
          have present : (origAddr, addr) ∈ acc.1.state.nb2hopset.map hopKey := by
            rw [← findNb2hopTuple_isSome, found]
            rfl
          have keeps : ∀ tuple : Nb2hopTuple,
              hopKey { tuple with time := now + validity } = hopKey tuple := fun _ => rfl
          refine ⟨by simp [present], fun _ => ?_⟩
          exact updateFirst.map_key keeps acc.1.state.nb2hopset
  · by_cases erases : nbType = notNeigh
    · rw [if_pos erases]
      refine ⟨?_, fun kept => ?_⟩
      · rw [Bool.eq_iff_iff]
        simp [findNb2hopTuple_isSome, erases]
      · have absent : (origAddr, addr) ∉ acc.1.state.nb2hopset.map hopKey := by
          simpa [erases] using kept
        simp only [Node.eraseNb2hopTuples]
        rw [List.filter_eq_self.mpr]
        intro hop member
        have other : hopKey hop ≠ (origAddr, addr) :=
          fun same => absent (same ▸ List.mem_map_of_mem member)
        simpa [hopKey, imp_iff_not_or] using other
    · simp [erases]

/-- The 2-hop tuples that `populate_nb2hopset` reports to be new or gone. -/
def changesHops (config : Config) (now : Int) (hello : Hello) (origAddr : NsAddr)
    (state : State) : Bool :=
  (symLinksOf now origAddr state).any fun _ => hello.helloMsgs.any fun group =>
    group.nbIfaceAddrs.any
      (changesHop config.raAddr origAddr group.nbType (state.nb2hopset.map hopKey))

theorem populateNb2hopset_flag {config : Config} {now : Int} {hello : Hello} {node : Node}
    {changed : Bool}
    (ran : populateNb2hopsetWith (fun _ addr => addr) config now vtime hello origAddr node =
      .ok (node', changed)) :
    changed = changesHops config now hello origAddr node.state ∧
      (changed = false →
        node'.state.nb2hopset.map hopKey = node.state.nb2hopset.map hopKey) := by
  have groups : RaisesFlag (fun node : Node => node.state.nb2hopset.map hopKey)
      (fun hops (group : HelloMsg) => group.nbIfaceAddrs.any
        (changesHop config.raAddr origAddr group.nbType hops))
      (fun acc group => (group.nbIfaceAddrs.map fun addr => addr).foldl
        (populateAddr config now (emfToSeconds vtime) origAddr group.nbType) acc) := by
    intro acc group
    dsimp only
    rw [List.map_id']
    exact (populateAddr_raises config now (emfToSeconds vtime) origAddr group.nbType).foldl acc
      group.nbIfaceAddrs
  have links : RaisesFlag (fun node : Node => node.state.nb2hopset.map hopKey)
      (fun hops (_ : LinkTuple) => hello.helloMsgs.any fun group => group.nbIfaceAddrs.any
        (changesHop config.raAddr origAddr group.nbType hops))
      (fun acc _ => hello.helloMsgs.foldl (fun acc group =>
        (group.nbIfaceAddrs.map fun addr => addr).foldl
          (populateAddr config now (emfToSeconds vtime) origAddr group.nbType) acc) acc) :=
    fun acc _ => groups.foldl acc hello.helloMsgs
  obtain ⟨flag, same⟩ := links.foldl (node, false) (symLinksOf now origAddr node.state)
  obtain ⟨rfl, rfl⟩ := Prod.mk.inj (populateNb2hopsetWith_ok ran)
  exact ⟨flag, fun unchanged => same (flag.symm.trans unchanged)⟩

/-! ## HELLO messages -/

/-- Whether the HELLO gives a known neighbor another willingness. -/
def changesWillingness (hello : Hello) (origAddr : NsAddr) (state : State) : Bool :=
  (state.findNbTuple origAddr).any fun nb => decide (nb.willingness ≠ hello.willingness)

theorem populateNbset_same {hello : Hello}
    (same : changesWillingness hello origAddr state = false) :
    (populateNbset hello origAddr state).nbset = state.nbset := by
  refine updateFirst.eq_self_of_find? fun nb found => ?_
  have known : state.findNbTuple origAddr = some nb := found
  simp only [changesWillingness, known, Option.any_some, decide_eq_false_iff_not, not_not] at same
  rw [← same]

theorem any_symLinksOf_congr {now : Int} {state' : State}
    (links : state'.linkset.map (fun link => (link.nbIfaceAddr, link.symTime)) =
      state.linkset.map fun link => (link.nbIfaceAddr, link.symTime))
    (main : state'.getMainAddr = state.getMainAddr) (value : Bool) :
    ((symLinksOf now origAddr state').any fun _ => value) =
      (symLinksOf now origAddr state).any fun _ => value := by
  have read : ∀ state : State, ((symLinksOf now origAddr state).any fun _ => value) =
      (state.linkset.map fun link => (link.nbIfaceAddr, link.symTime)).any fun key =>
        decide (state.getMainAddr key.1 = origAddr ∧ key.2 ≥ now) && value := by
    intro state
    rw [symLinksOf, List.any_filter, List.any_map]
    rfl
  rw [read, read, links, main]

/-- Whether `process_hello` reports a change. -/
def reportsHello (config : Config) (now : Int) (msg : Msg) (hello : Hello)
    (receiverIface senderIface : NsAddr) (state : State) : Bool :=
  changesLink hello receiverIface senderIface state ||
    changesHops config now hello msg.origAddr state

section

variable {config : Config} {now : Int} {msg : Msg} {hello : Hello}
  {receiverIface senderIface : NsAddr} {index : Nat} {node : Node} {result : Node × Bool}
  (ran : processHello config now msg hello receiverIface senderIface index node = .ok result)

structure Refreshes (now : Int) (hello : Hello) (origAddr : NsAddr) (state state' : State) :
    Prop where
  links : ∃ known ∈ state.linkset, ∃ asymTime time, known.time ≤ time ∧ state'.linkset =
    (state.updateLinkTuple { known with asymTime := asymTime, time := time }).linkset
  nbset : state'.nbset = (populateNbset hello origAddr state).nbset
  hops : state'.nb2hopset.map hopKey = state.nb2hopset.map hopKey
  mprset : state'.mprset = state.mprset
  topologyset : state'.topologyset = state.topologyset
  ifaceassocset : state'.ifaceassocset = state.ifaceassocset

include ran

theorem processHello_flag (linked : LinkIds node) :
    result.2 = reportsHello config now msg hello receiverIface senderIface node.state := by
  obtain ⟨sensed, linkChanged, populated, changed, computed, first, second, _, _, flag⟩ :=
    processHello_stages ran
  have link := linkSensing_flag first
  cases linkChanged with
  | true => rw [flag, reportsHello, ← link, Bool.or_true, Bool.true_or]
  | false =>
      obtain ⟨known, member, rfl⟩ := linkSensing_unreported first
      have rewritten : ((node.state.updateLinkTuple { known with
          asymTime := now + emfToSeconds msg.vtime
          time := max known.time (now + emfToSeconds msg.vtime) }).linkset.map
            fun link => (link.nbIfaceAddr, link.symTime)) =
          node.state.linkset.map fun link => (link.nbIfaceAddr, link.symTime) :=
        map_updateLinkTuple linked.ids member rfl rfl
      rw [flag, reportsHello, ← link, Bool.or_false, Bool.false_or,
        (populateNb2hopset_flag second).1]
      exact any_symLinksOf_congr rewritten rfl _

theorem processHello_computes (reported : result.2 = true) :
    mprComputation config.isLocalAddress result.1.state = some result.1.state.mprset := by
  obtain ⟨_, _, populated, _, computed, _, _, third, fourth, flag⟩ := processHello_stages ran
  rw [← flag, reported, if_pos rfl] at third
  obtain ⟨mprset, computation, rfl⟩ := recomputeMprs_writes third
  obtain ⟨_, _, _, _, _, written⟩ := populateMprselset_writes fourth
  rw [written]
  exact computation

theorem processHello_refreshes (unreported : result.2 = false) :
    Refreshes now hello msg.origAddr node.state result.1.state := by
  obtain ⟨sensed, linkChanged, populated, changed, computed, first, second, third, fourth, flag⟩ :=
    processHello_stages ran
  rw [← flag, unreported] at third
  obtain ⟨rfl, rfl⟩ : changed = false ∧ linkChanged = false := by
    simpa [unreported] using flag
  obtain ⟨known, member, rfl⟩ := linkSensing_unreported first
  have hops := (populateNb2hopset_flag second).2 rfl
  obtain ⟨_, _, _, _, rfl⟩ := populateNb2hopsetWith_writes second
  obtain rfl := Except.ok.inj third
  obtain ⟨_, _, _, _, _, written⟩ := populateMprselset_writes fourth
  rw [written]
  exact ⟨⟨known, member, _, _, le_max_left _ _, rfl⟩, rfl, hops, rfl, rfl, rfl⟩

end

variable {tc : Tc}

/-- The computations read the same after a HELLO that reports nothing, while no link has expired
and the willingness of the neighbor stays. -/
theorem Refreshes.sameInputs {now : Int} {hello : Hello} {state' : State}
    (refreshes : Refreshes now hello origAddr state state')
    (ids : (state.linkset.map LinkTuple.id).Nodup)
    (unexpired : ∀ link ∈ state.linkset, now ≤ link.time)
    (willing : changesWillingness hello origAddr state = false) :
    SameInputs now state state' := by
  obtain ⟨known, member, asymTime, time, longer, links⟩ := refreshes.links
  have lives := unexpired known member
  refine ⟨refreshes.nbset.trans (populateNbset_same willing), refreshes.hops, ?_,
    by rw [refreshes.topologyset], by rw [refreshes.ifaceassocset]⟩
  rw [links]
  refine map_updateLinkTuple ids member rfl ?_
  simp [linkInput, lives, lives.trans longer]

/-! ## TC messages -/

/-- Whether `process_tc` reports a change: a tuple of the originator is not advertised, or an
advertised address has none. -/
def changesTopology (now : Int) (msg : Msg) (tc : Tc) (senderIface : NsAddr) (state : State) :
    Bool :=
  (state.findSymLinkTuple senderIface now).isSome &&
    (state.findNewerTopologyTuple msg.origAddr tc.ansn).isNone &&
    decide (tc.nbMainAddrs ≠ []) &&
    ((state.topologyset.any fun tuple =>
        decide (tuple.lastAddr = msg.origAddr ∧ tuple.destAddr ∉ tc.nbMainAddrs)) ||
      decide (unlisted msg.origAddr tc state ≠ []))

theorem updateTopologyTuples_count {now : Int} {msg : Msg} {index : Nat} {node : Node}
    {result : Node × Nat} (ran : updateTopologyTuples now msg tc index node = .ok result) :
    result.2 = 0 ↔ tc.nbMainAddrs = [] ∨
      ((∀ tuple ∈ node.state.topologyset, tuple.lastAddr = msg.origAddr →
          tuple.destAddr ∈ tc.nbMainAddrs) ∧
        unlisted msg.origAddr tc node.state = []) := by
  unfold updateTopologyTuples at ran
  split at ran
  · next empty =>
    rw [← Except.ok.inj ran]
    simp [empty]
  · next listed =>
    dsimp only at ran
    split at ran
    · cases ran
    · rw [← Except.ok.inj ran]
      dsimp only
      rw [Nat.add_eq_zero_iff, List.countP_eq_zero, List.length_eq_zero_iff]
      simp [listed, unlisted, List.mem_filter]

theorem updateTopologyTuples_unchanged {now : Int} {msg : Msg} {index : Nat} {node : Node}
    {result : Node × Nat} (ran : updateTopologyTuples now msg tc index node = .ok result)
    (unchanged : result.2 = 0) :
    result.1.state.topologyset.map topologyEnds = node.state.topologyset.map topologyEnds := by
  rw [updateTopologyTuples_ok ran]
  rcases (updateTopologyTuples_count ran).mp unchanged with empty | ⟨listed, none⟩
  · rw [if_pos empty]
  · split
    · rfl
    · rw [none]
      have kept : (node.state.topologyset.filter fun tuple =>
          !decide (tuple.lastAddr = msg.origAddr ∧ tuple.destAddr ∉ tc.nbMainAddrs)) =
            node.state.topologyset := by
        refine List.filter_eq_self.mpr fun tuple member => ?_
        simpa [imp_iff_not_or] using listed tuple member
      simp only [List.foldl_nil, refreshTopologyTuples, Node.mapState, Node.eraseTopologyTuples,
        kept, List.map_map]
      refine List.map_congr_left fun tuple _ => ?_
      simp only [Function.comp_apply]
      split
      · rfl
      · rfl

theorem processTc_spec {now : Int} {msg : Msg} {senderIface : NsAddr} {index : Nat} {node : Node}
    {result : Node × Bool} (ran : processTc now msg tc senderIface index node = .ok result) :
    result.2 = changesTopology now msg tc senderIface node.state ∧
      (result.2 = false →
        result.1.state.topologyset.map topologyEnds = node.state.topologyset.map topologyEnds) := by
  unfold processTc at ran
  split at ran
  · next absent =>
    rw [← Except.ok.inj ran]
    exact ⟨by simp [changesTopology, absent], fun _ => rfl⟩
  · next symmetric =>
    split at ran
    · next newer =>
      rw [← Except.ok.inj ran]
      exact ⟨by simp [changesTopology, newer], fun _ => rfl⟩
    · next newest =>
      obtain ⟨updated, updating, same⟩ := bind_ok.mp ran
      rw [← Except.ok.inj same]
      refine ⟨?_, fun unchanged => ?_⟩
      · have count := updateTopologyTuples_count updating
        rw [Bool.eq_iff_iff, decide_eq_true_eq, ne_eq, count, not_or, not_and_or]
        simp only [changesTopology, symmetric, newest, Option.isSome_some, Option.isNone_none,
          Bool.true_and, Bool.and_eq_true, Bool.or_eq_true, decide_eq_true_eq, List.any_eq_true,
          not_forall, exists_prop, ne_eq]
      · have none : updated.2 = 0 := by simpa using unchanged
        exact updateTopologyTuples_unchanged updating none

/-! ## MID messages -/

/-- Whether the MID message adds an association. -/
def addsAssociation (now : Int) (msg : Msg) (mid : Mid) (senderIface : NsAddr) (state : State) :
    Bool :=
  (state.findSymLinkTuple senderIface now).isSome &&
    mid.ifaceAddrs.any fun addr =>
      decide ((addr, msg.origAddr) ∉ state.ifaceassocset.map assocAddrs)

theorem associate_known {now : Int} {validity : Int} {index : Nat} {node : Node} {addr : NsAddr}
    (known : (addr, origAddr) ∈ node.state.ifaceassocset.map assocAddrs) :
    (associate now origAddr validity index node addr).state.ifaceassocset.map assocAddrs =
      node.state.ifaceassocset.map assocAddrs := by
  have found : (node.state.ifaceassocset.any fun tuple =>
      decide (tuple.ifaceAddr = addr ∧ tuple.mainAddr = origAddr)) = true := by
    obtain ⟨tuple, member, same⟩ := List.mem_map.mp known
    simp only [assocAddrs, Prod.mk.injEq] at same
    exact List.any_eq_true.mpr ⟨tuple, member, decide_eq_true same⟩
  unfold associate
  rw [if_pos found]
  simp only [Node.mapState, List.map_map]
  refine List.map_congr_left fun tuple _ => ?_
  simp only [Function.comp_apply]
  split
  · rfl
  · rfl

theorem processMid_known {now : Int} {msg : Msg} {mid : Mid} {senderIface : NsAddr} {index : Nat}
    {node : Node} (known : addsAssociation now msg mid senderIface node.state = false) :
    (processMid now msg mid senderIface index node).state.ifaceassocset.map assocAddrs =
      node.state.ifaceassocset.map assocAddrs := by
  unfold processMid
  split
  · rfl
  · next symmetric =>
    simp only [addsAssociation, symmetric, Option.isSome_some, Bool.true_and,
      List.any_eq_false, decide_eq_true_eq, not_not] at known
    refine foldl_keeps _ (fun current : Node => current.state.ifaceassocset.map assocAddrs =
      node.state.ifaceassocset.map assocAddrs) rfl ?_
    intro addr current member same
    exact (associate_known (same ▸ known addr member)).trans same

end SyncFanet.OlsrOpt
