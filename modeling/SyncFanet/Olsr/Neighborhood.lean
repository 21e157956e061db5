import SyncFanet.Olsr.AgentWrites

/-!
# Links, neighbors and associations

Which functions touch the link set, the neighbor set and the interface
associations, what `link_sensing` does to them, and the rule that carries an
invariant about them through a step.
-/

set_option autoImplicit false

namespace SyncFanet.Olsr

variable {node node' : Node}

/-! ## Functions that leave them alone -/

structure SameNeighborhood (node node' : Node) : Prop where
  linkset : node'.state.linkset = node.state.linkset
  nbset : node'.state.nbset = node.state.nbset
  ifaceassocset : node'.state.ifaceassocset = node.state.ifaceassocset
  nextId : node.nextId ≤ node'.nextId

theorem SameNeighborhood.trans {first second third : Node}
    (left : SameNeighborhood first second) (right : SameNeighborhood second third) :
    SameNeighborhood first third where
  linkset := right.linkset.trans left.linkset
  nbset := right.nbset.trans left.nbset
  ifaceassocset := right.ifaceassocset.trans left.ifaceassocset
  nextId := left.nextId.trans right.nextId

theorem SameNeighborhood.refl (node : Node) : SameNeighborhood node node :=
  ⟨rfl, rfl, rfl, le_refl _⟩

theorem SameNeighborhood.getMainAddr (same : SameNeighborhood node node') :
    node'.state.getMainAddr = node.state.getMainAddr := by
  funext ifaceAddr
  simp only [State.getMainAddr, State.findIfaceassocTuple, same.ifaceassocset]

theorem sameNeighborhood_of_nb2hop (written : WritesNb2hop node node') :
    SameNeighborhood node node' := by
  obtain ⟨_, _, _, _, rfl⟩ := written
  exact ⟨rfl, rfl, rfl, Nat.le_add_right _ _⟩

theorem sameNeighborhood_of_selectors (written : WritesSelectors node node') :
    SameNeighborhood node node' := by
  obtain ⟨_, _, _, _, _, rfl⟩ := written
  exact ⟨rfl, rfl, rfl, Nat.le_add_right _ _⟩

theorem sameNeighborhood_of_topology (written : WritesTopology node node') :
    SameNeighborhood node node' := by
  obtain ⟨_, _, _, _, rfl⟩ := written
  exact ⟨rfl, rfl, rfl, Nat.le_add_right _ _⟩

theorem sameNeighborhood_of_forwarding (written : WritesForwarding node node') :
    SameNeighborhood node node' := by
  obtain ⟨_, _, _, _, _, _, rfl⟩ := written
  exact ⟨rfl, rfl, rfl, Nat.le_add_right _ _⟩

theorem sameNeighborhood_of_output (written : WritesOutput node node') :
    SameNeighborhood node node' := by
  obtain ⟨_, _, _, _, _, _, rfl⟩ := written
  exact ⟨rfl, rfl, rfl, le_refl _⟩

theorem recomputeMprs_sameNeighborhood {config : Config}
    (ran : node.recomputeMprs config = .ok node') : SameNeighborhood node node' := by
  obtain ⟨_, _, rfl⟩ := recomputeMprs_writes ran
  exact ⟨rfl, rfl, rfl, le_refl _⟩

theorem recomputeRtable_sameNeighborhood {now : Int} (ran : node.recomputeRtable now = .ok node') :
    SameNeighborhood node node' := by
  obtain ⟨_, _, rfl⟩ := recomputeRtable_writes ran
  exact ⟨rfl, rfl, rfl, le_refl _⟩

/-- `nb_loss` rewrites the neighbor tuple and nothing else of the neighborhood. -/
theorem lossErased_sameNeighborhood (config : Config) (now : Int) (link : LinkTuple)
    (node : Node) :
    SameNeighborhood (node.mapState (updatedLinkTuple config now link willDefault))
      (lossErased config now link node) := by
  unfold lossErased Node.eraseMprselTuples
  dsimp only
  split
  · exact ⟨rfl, rfl, rfl, le_refl _⟩
  · exact ⟨rfl, rfl, rfl, le_refl _⟩

theorem rmMprselTuple_sameNeighborhood (node : Node) (tuple : MprselTuple) :
    SameNeighborhood node (node.rmMprselTuple tuple) := by
  unfold Node.rmMprselTuple
  dsimp only
  split
  · exact ⟨rfl, rfl, rfl, le_refl _⟩
  · exact ⟨rfl, rfl, rfl, le_refl _⟩

/-! ## Link sensing -/

structure SameLink (link link' : LinkTuple) : Prop where
  id : link'.id = link.id
  localIfaceAddr : link'.localIfaceAddr = link.localIfaceAddr
  nbIfaceAddr : link'.nbIfaceAddr = link.nbIfaceAddr

section

variable (config : Config) (now validity : Int) (receiverIface : NsAddr)
  (helloMsgs : List HelloMsg) (link : LinkTuple)

theorem senseGroup_keeps (acc : LinkTuple × Bool) (group : HelloMsg) :
    SameLink acc.1 (senseGroup config now validity receiverIface acc group).1 ∧
      (senseGroup config now validity receiverIface acc group).1.asymTime = acc.1.asymTime ∧
      (acc.2 = true → (senseGroup config now validity receiverIface acc group).2 = true) := by
  unfold senseGroup
  repeat' split
  all_goals exact ⟨⟨rfl, rfl, rfl⟩, rfl, fun updated => by first | exact updated | rfl⟩

theorem senseLink_spec (updated : Bool) :
    SameLink link (senseLink config now validity receiverIface helloMsgs link updated).1 ∧
      now + validity ≤
        (senseLink config now validity receiverIface helloMsgs link updated).1.time ∧
      (updated = true →
        (senseLink config now validity receiverIface helloMsgs link updated).2 = true) := by
  have groups : ∀ acc : LinkTuple × Bool,
      acc = helloMsgs.foldl (senseGroup config now validity receiverIface)
        ({ link with asymTime := now + validity }, updated) →
      SameLink link acc.1 ∧ acc.1.asymTime = now + validity ∧
        (updated = true → acc.2 = true) := by
    rintro _ rfl
    refine foldl_keeps (senseGroup config now validity receiverIface)
      (fun acc => SameLink link acc.1 ∧ acc.1.asymTime = now + validity ∧
        (updated = true → acc.2 = true)) ⟨⟨rfl, rfl, rfl⟩, rfl, fun same => same⟩ ?_
    intro group acc _ holds
    obtain ⟨same, asym, flag⟩ := senseGroup_keeps config now validity receiverIface acc group
    exact ⟨⟨same.id.trans holds.1.id, same.localIfaceAddr.trans holds.1.localIfaceAddr,
      same.nbIfaceAddr.trans holds.1.nbIfaceAddr⟩, asym.trans holds.2.1,
      fun started => flag (holds.2.2 started)⟩
  obtain ⟨same, asym, flag⟩ := groups _ rfl
  refine ⟨⟨same.id, same.localIfaceAddr, same.nbIfaceAddr⟩, ?_, flag⟩
  unfold senseLink
  dsimp only
  rw [asym]
  exact le_max_right _ _

end

variable {state : State}

/-- The state once `link_sensing` has the values of the link tuple. -/
def writeSensed (config : Config) (now : Int) (willingness : Nat) (link : LinkTuple)
    (updated : Bool) (state : State) : State :=
  if updated then updatedLinkTuple config now link willingness (state.updateLinkTuple link)
  else state.updateLinkTuple link

/-- `link_sensing` updates the link tuple of the sending interface, or creates one. -/
theorem linkSensingWith_cases {knownUpdated : Bool} {config : Config} {now : Int} {vtime : Nat}
    {hello : Hello} {receiverIface senderIface : NsAddr} {index : Nat} {changed : Bool}
    (ran : linkSensingWith knownUpdated config now vtime hello receiverIface senderIface index
      node = .ok (node', changed)) :
    (∃ known link, node.state.findLinkTuple senderIface = some known ∧
      senseLink config now (emfToSeconds vtime) receiverIface hello.helloMsgs known
        knownUpdated = (link, changed) ∧
      node' = { node with
        state := writeSensed config now hello.willingness link changed node.state }) ∨
    (node.state.findLinkTuple senderIface = none ∧ changed = true ∧ ∃ created link updated,
      created = newLinkTuple node.nextId now (emfToSeconds vtime) receiverIface senderIface index ∧
      senseLink config now (emfToSeconds vtime) receiverIface hello.helloMsgs created false =
        (link, updated) ∧
      node' = { node with
        state := writeSensed config now hello.willingness link updated
          (addLinkTuple now created hello.willingness node.state)
        nextId := node.nextId + 1 }.scheduleTuple now (min link.time link.symTime)
          (.link link.id true)) := by
  unfold linkSensingWith at ran
  dsimp only at ran
  split at ran
  · cases ran
  · split at ran
    · cases ran
    · split at ran
      · next known found =>
        simp only [Except.ok.injEq, Prod.mk.injEq] at ran
        obtain ⟨rfl, rfl⟩ := ran
        exact .inl ⟨known, _, found, rfl, rfl⟩
      · next absent =>
        simp only [Except.ok.injEq, Prod.mk.injEq] at ran
        obtain ⟨rfl, rfl⟩ := ran
        exact .inr ⟨absent, rfl, _, _, _, rfl, rfl, rfl⟩

/-! ## Neighbor tuples -/

def State.nbMains (state : State) : List NsAddr := state.nbset.map NbTuple.nbMainAddr

/-- The neighbor tuple of a main address got a status; the others kept theirs, or
are gone. -/
structure NbWritten (mainAddr : NsAddr) (status : NbStatus) (state state' : State) : Prop where
  linkset : state'.linkset = state.linkset
  ifaceassocset : state'.ifaceassocset = state.ifaceassocset
  unique : state'.nbMains.Nodup
  written : ∀ nb ∈ state'.nbset, (nb.nbMainAddr = mainAddr ∧ nb.status = status) ∨
    (nb ∈ state.nbset ∧ nb.nbMainAddr ≠ mainAddr)
  present : mainAddr ∈ state'.nbMains

theorem addNbTuple_written (unique : state.nbMains.Nodup) (tuple : NbTuple) :
    NbWritten tuple.nbMainAddr tuple.status state (addNbTuple state tuple) where
  linkset := rfl
  ifaceassocset := rfl
  unique := nodup_replace unique tuple
  written := by
    intro nb member
    simp only [addNbTuple, State.insertNbTuple, State.eraseNbTuple, eraseP_eq_filter unique,
      List.mem_append, List.mem_filter, List.mem_singleton, decide_eq_true_eq] at member
    rcases member with ⟨old, different⟩ | rfl
    · exact .inr ⟨old, different⟩
    · exact .inl ⟨rfl, rfl⟩
  present := by simp [State.nbMains, addNbTuple, State.insertNbTuple]

theorem addNbTuple_keeps (unique : state.nbMains.Nodup) (tuple : NbTuple) {nb : NbTuple}
    (member : nb ∈ state.nbset) (different : nb.nbMainAddr ≠ tuple.nbMainAddr) :
    nb ∈ (addNbTuple state tuple).nbset := by
  simp [addNbTuple, State.insertNbTuple, State.eraseNbTuple, eraseP_eq_filter unique, member,
    different]

theorem findNbTuple_isSome {mainAddr : NsAddr} :
    (state.findNbTuple mainAddr).isSome ↔ mainAddr ∈ state.nbMains := by
  simp [State.findNbTuple, State.nbMains, List.find?_isSome]

theorem updateNbTuple_written (unique : state.nbMains.Nodup) {mainAddr : NsAddr}
    (present : mainAddr ∈ state.nbMains) (status : NbStatus) :
    NbWritten mainAddr status state
      (state.updateNbTuple mainAddr fun tuple => { tuple with status := status }) where
  linkset := rfl
  ifaceassocset := rfl
  unique := by
    have keeps : ∀ tuple : NbTuple,
        NbTuple.nbMainAddr { tuple with status := status } = tuple.nbMainAddr := fun _ => rfl
    rw [State.nbMains, State.updateNbTuple, updateFirst.map_key keeps]
    exact unique
  written := by
    intro nb member
    simp only [State.updateNbTuple, updateFirst_eq_map unique, List.mem_map] at member
    obtain ⟨old, among, rfl⟩ := member
    by_cases here : old.nbMainAddr = mainAddr
    · exact .inl (by simp [here])
    · exact .inr (by simp [here, among])
  present := by
    have keeps : ∀ tuple : NbTuple,
        NbTuple.nbMainAddr { tuple with status := status } = tuple.nbMainAddr := fun _ => rfl
    rw [State.nbMains, State.updateNbTuple, updateFirst.map_key keeps]
    exact present

theorem updatedLinkTuple_written (config : Config) (now : Int) (link : LinkTuple)
    (willingness : Nat) (unique : state.nbMains.Nodup) :
    NbWritten (state.getMainAddr link.nbIfaceAddr) (linkStatus config now link) state
      (updatedLinkTuple config now link willingness state) := by
  unfold updatedLinkTuple findOrAddNb
  cases found : state.findNbTuple (state.getMainAddr link.nbIfaceAddr) with
  | some _ =>
      exact updateNbTuple_written unique (findNbTuple_isSome.mp (by simp [found])) _
  | none =>
      have erased : (state.eraseNbTuple link.nbIfaceAddr).nbMains.Nodup := nodup_eraseP unique _
      have added := addNbTuple_written erased {
        nbMainAddr := state.getMainAddr link.nbIfaceAddr
        status := symStatus now link
        willingness := willingness }
      have marked := updateNbTuple_written added.unique added.present (linkStatus config now link)
      refine ⟨rfl, rfl, marked.unique, ?_, marked.present⟩
      intro nb member
      rcases marked.written nb member with here | ⟨member, different⟩
      · exact .inl here
      · rcases added.written nb member with ⟨here, _⟩ | ⟨member, _⟩
        · exact absurd here different
        · exact .inr ⟨List.mem_of_mem_eraseP member, different⟩

theorem updatedLinkTuple_keeps (config : Config) (now : Int) {link : LinkTuple}
    (willingness : Nat) (known : state.getMainAddr link.nbIfaceAddr ∈ state.nbMains) :
    (updatedLinkTuple config now link willingness state).nbMains =
      state.nbMains := by
  have keeps : ∀ tuple : NbTuple, NbTuple.nbMainAddr
      { tuple with status := linkStatus config now link } = tuple.nbMainAddr := fun _ => rfl
  obtain ⟨nb, found⟩ := Option.isSome_iff_exists.mp (findNbTuple_isSome.mpr known)
  unfold updatedLinkTuple findOrAddNb
  rw [found]
  exact updateFirst.map_key keeps state.nbset

theorem populateNbset_nbset (hello : Hello) (origAddr : NsAddr) (state : State) :
    (populateNbset hello origAddr state).nbset.map
        (fun nb => (nb.nbMainAddr, nb.status)) =
      state.nbset.map fun nb => (nb.nbMainAddr, nb.status) := by
  have keeps : ∀ tuple : NbTuple,
      (fun nb : NbTuple => (nb.nbMainAddr, nb.status))
        { tuple with willingness := hello.willingness } = (tuple.nbMainAddr, tuple.status) :=
    fun _ => rfl
  exact updateFirst.map_key keeps state.nbset

theorem nbMains_populateNbset (hello : Hello) (origAddr : NsAddr) (state : State) :
    (populateNbset hello origAddr state).nbMains = state.nbMains := by
  have same := congrArg (List.map Prod.fst) (populateNbset_nbset hello origAddr state)
  simp only [List.map_map] at same
  exact same

theorem processHello_sensed {config : Config} {now : Int} {msg : Msg} {hello : Hello}
    {receiverIface senderIface : NsAddr} {index : Nat}
    (ran : processHello config now msg hello receiverIface senderIface index node = .ok node') :
    ∃ sensed changed,
      linkSensingWith true config now msg.vtime hello receiverIface senderIface index node =
        .ok (sensed, changed) ∧
      SameNeighborhood (sensed.mapState (populateNbset hello msg.origAddr)) node' := by
  obtain ⟨sensed, populated, computed, linked, changed, first, second, third, fourth⟩ :=
    processHello_stages ran
  refine ⟨sensed, linked, first, ?_⟩
  exact ((sameNeighborhood_of_nb2hop (populateNb2hopsetWith_writes second)).trans
    (recomputeMprs_sameNeighborhood third)).trans
      (sameNeighborhood_of_selectors (populateMprselset_writes fourth))

/-! ## Conditions on a step -/

/-- Whether `recv_olsr` processes the message. -/
def processes (config : Config) (msg : Msg) (state : State) : Bool :=
  decide (msg.ttl ≠ 0) && !config.isLocalAddress msg.origAddr &&
    (state.findDupTuple msg.origAddr msg.msgSeqNum).isNone

/-- The condition holds for every message of a packet when its turn comes. -/
def eachMsg (recv : Node → Msg → Except Fault Node) (allowed : Msg → Node → Bool) :
    List Msg → Node → Bool
  | [], _ => true
  | msg :: rest, node =>
      allowed msg node &&
        match recv node msg with
        | .ok node => eachMsg recv allowed rest node
        | .error _ => true

/-- A condition on the messages processed and on the timers that expire. -/
structure Guard where
  msg : Int → Iface → NsAddr → Msg → State → Bool
  timer : Int → Timer → State → Bool

namespace Guard

variable (guard : Guard) (config : Config) (now : Int)

def allowsMsg (iface : Iface) (srcAddr : NsAddr) (msg : Msg) (node : Node) : Bool :=
  !processes config msg node.state || guard.msg now iface srcAddr msg node.state

def allows (event : Event) (node : Node) : Bool :=
  match event with
  | .recv iface srcAddr pkt =>
      eachMsg (recvMsg config now iface srcAddr) (guard.allowsMsg config now iface srcAddr)
        pkt.msgs node
  | .timer =>
      match node.timerQueue with
      | [] => true
      | (_, timer) :: _ => guard.timer now timer node.state
  | .linkBreak _ => true

def always : Guard where
  msg _ _ _ _ _ := true
  timer _ _ _ := true

end Guard

variable {allowed : Msg → Node → Bool} {recv : Node → Msg → Except Fault Node}

theorem eachMsg_of_forall {msgs : List Msg} (met : ∀ msg ∈ msgs, ∀ node, allowed msg node = true) :
    eachMsg recv allowed msgs node = true := by
  induction msgs generalizing node with
  | nil => rfl
  | cons msg rest ih =>
      have here := met msg List.mem_cons_self node
      simp only [eachMsg, here, Bool.true_and]
      cases recv node msg with
      | error fault => rfl
      | ok node => exact ih fun msg among => met msg (List.mem_cons_of_mem _ among)

theorem Guard.always_allows (config : Config) (now : Int) (event : Event) (node : Node) :
    always.allows config now event node = true := by
  cases event with
  | recv iface srcAddr pkt =>
      refine eachMsg_of_forall ?_
      intro msg _ node
      simp only [allowsMsg, always, Bool.or_true]
  | timer =>
      cases queue : node.timerQueue with
      | nil => simp [allows, queue]
      | cons first rest => simp [allows, queue, always]
  | linkBreak destAddr => rfl

theorem eachMsg_keeps (invariant : Node → Prop)
    (next : ∀ msg node node', allowed msg node = true → recv node msg = .ok node' →
      invariant node → invariant node') {msgs : List Msg}
    (met : eachMsg recv allowed msgs node = true) (ran : msgs.foldlM recv node = .ok node')
    (holds : invariant node) : invariant node' := by
  induction msgs generalizing node with
  | nil =>
      cases ran
      exact holds
  | cons msg rest ih =>
      rw [List.foldlM_cons] at ran
      obtain ⟨middle, first, ran⟩ := bind_ok.mp ran
      simp only [eachMsg, first, Bool.and_eq_true] at met
      exact ih met.2 ran (next msg node middle met.1 first holds)

theorem eachMsg_split {before after : List Msg} {msg : Msg} {handled : Node}
    (met : eachMsg recv allowed (before ++ msg :: after) node = true)
    (ran : before.foldlM recv node = .ok handled) :
    eachMsg recv allowed before node = true ∧ allowed msg handled = true := by
  induction before generalizing node with
  | nil =>
      cases ran
      simp only [List.nil_append, eachMsg, Bool.and_eq_true] at met
      exact ⟨rfl, met.1⟩
  | cons first rest ih =>
      rw [List.foldlM_cons] at ran
      obtain ⟨middle, stepped, ran⟩ := bind_ok.mp ran
      simp only [List.cons_append, eachMsg, stepped, Bool.and_eq_true] at met
      obtain ⟨earlier, here⟩ := ih met.2 ran
      refine ⟨?_, here⟩
      simp only [eachMsg, stepped, Bool.and_eq_true]
      exact ⟨met.1, earlier⟩

theorem recvMsg_hello {config : Config} {now : Int} {iface : Iface} {srcAddr : NsAddr} {msg : Msg}
    {hello : Hello} (body : msg.body = .hello hello)
    (taken : processes config msg node.state = true)
    (ran : recvMsg config now iface srcAddr node msg = .ok node') :
    processHello config now msg hello iface.addr srcAddr iface.index
      (node.record (.processed msg.origAddr msg.msgSeqNum)) = .ok node' := by
  simp only [processes, Bool.and_eq_true, decide_eq_true_eq, Bool.not_eq_true',
    Option.isNone_iff_eq_none] at taken
  rcases recvMsg_stages ran with ⟨dropped, _⟩ | ⟨_, processed, processing, same⟩
  · simp [taken.1.1, taken.1.2] at dropped
  · rw [taken.2] at processing same
    simp only [doForwarding, body, Bool.false_eq_true, if_false] at same
    simpa [processUnlessDuplicated, processMsg, body, same] using processing

/-! ## Invariants of the neighborhood -/

/-- The link tuple that `mac_failed` hands to `nb_loss`. -/
def lostLinkTuple (config : Config) (now : Int) (link : LinkTuple) : LinkTuple :=
  { link with
    lostTime := now + config.neighbHoldTime
    time := now + config.neighbHoldTime }

/-- An invariant that every function which touches the neighborhood keeps, the
sensing of links apart. -/
structure UpkeepRules (guard : Guard) (config : Config) (now : Int)
    (invariant : Node → Prop) : Prop where
  frame : ∀ node node', SameNeighborhood node node' → invariant node → invariant node'
  mid : ∀ (iface : Iface) (srcAddr : NsAddr) (msg : Msg) (mid : Mid) (node : Node),
    msg.body = .mid mid → guard.msg now iface srcAddr msg node.state = true →
    invariant node → invariant (processMid now msg mid srcAddr iface.index node)
  loss : ∀ (node : Node), ∀ link ∈ node.state.linkset, link.symTime < now → invariant node →
    invariant (node.mapState (updatedLinkTuple config now link willDefault))
  macLoss : ∀ (node : Node), ∀ link ∈ node.state.linkset, config.useMac = true →
    invariant node →
    invariant (node.mapState fun state =>
      updatedLinkTuple config now (lostLinkTuple config now link) willDefault
        (state.updateLinkTuple (lostLinkTuple config now link)))
  rmLink : ∀ (id : TupleId) (firstTime : Bool) (node : Node), ∀ link ∈ node.state.linkset,
    link.id = id → link.time < now → guard.timer now (.link id firstTime) node.state = true →
    invariant node → invariant (node.mapState (rmLinkTuple link))
  rmAssoc : ∀ (id : TupleId) (node : Node), ∀ tuple ∈ node.state.ifaceassocset,
    tuple.id = id → tuple.time < now → guard.timer now (.ifaceAssoc id) node.state = true →
    invariant node → invariant (node.rmIfaceassocTuple tuple)

/-- An invariant that every function of `OLSR` which touches the neighborhood keeps. -/
structure NeighborhoodRules (guard : Guard) (config : Config) (now : Int)
    (invariant : Node → Prop) : Prop extends UpkeepRules guard config now invariant where
  hello : ∀ (iface : Iface) (srcAddr : NsAddr) (msg : Msg) (hello : Hello) (node node' : Node)
    (changed : Bool), iface ∈ config.ifaces → msg.body = .hello hello →
    guard.msg now iface srcAddr msg node.state = true →
    linkSensingWith true config now msg.vtime hello iface.addr srcAddr iface.index node =
      .ok (node', changed) →
    invariant node → invariant (node'.mapState (populateNbset hello msg.origAddr))

namespace UpkeepRules

variable {guard : Guard} {config : Config} {now : Int} {invariant : Node → Prop}

theorem nbLoss (rules : UpkeepRules guard config now invariant) {link : LinkTuple}
    (ran : nbLoss config now link node = .ok node')
    (lost : invariant (node.mapState (updatedLinkTuple config now link willDefault))) :
    invariant node' := by
  obtain ⟨computed, mprs, table⟩ := nbLoss_stages ran
  exact rules.frame _ _ (((lossErased_sameNeighborhood config now link node).trans
    (recomputeMprs_sameNeighborhood mprs)).trans (recomputeRtable_sameNeighborhood table)) lost

theorem expireLink (rules : UpkeepRules guard config now invariant) {id : TupleId}
    {firstTime : Bool} (met : guard.timer now (.link id firstTime) node.state = true)
    (ran : expireLink config now id firstTime node = .ok node') (holds : invariant node) :
    invariant node' := by
  obtain ⟨link, found, expiry⟩ := expireLink_ok ran
  have member := List.mem_of_find?_eq_some found
  have same : link.id = id := by simpa using List.find?_some found
  rcases expiry with ⟨expired, rfl⟩ | ⟨_, asymmetric, lost, loss, rfl⟩ | ⟨_, _, rfl⟩
  · exact rules.frame (node.mapState (rmLinkTuple link)) _ ⟨rfl, rfl, rfl, le_refl _⟩
      (rules.rmLink id firstTime node link member same expired met holds)
  · refine rules.frame lost _ ⟨rfl, rfl, rfl, le_refl _⟩ ?_
    rcases loss with ⟨_, rfl⟩ | ⟨_, loss⟩
    · exact holds
    · exact rules.nbLoss loss (rules.loss node link member asymmetric holds)
  · exact rules.frame node _ ⟨rfl, rfl, rfl, le_refl _⟩ holds

theorem expireTimer (rules : UpkeepRules guard config now invariant) {timer : Timer}
    (met : guard.timer now timer node.state = true)
    (ran : expireTimer config now timer node = .ok node') (holds : invariant node) :
    invariant node' := by
  cases timer with
  | hello | tc | mid | msg =>
      exact rules.frame _ _ (sameNeighborhood_of_output (expireTimer_output (by simp) ran)) holds
  | link id firstTime => exact rules.expireLink met ran holds
  | ifaceAssoc id =>
      obtain ⟨tuple, found, ⟨expired, rfl⟩ | ⟨_, rfl⟩⟩ := expireTuple_ok ran
      · exact rules.rmAssoc id node tuple (List.mem_of_find?_eq_some found)
          (by simpa using List.find?_some found) expired met holds
      · exact rules.frame node _ ⟨rfl, rfl, rfl, le_refl _⟩ holds
  | mprsel id =>
      obtain ⟨tuple, found, ⟨_, rfl⟩ | ⟨_, rfl⟩⟩ := expireTuple_ok ran
      · exact rules.frame node _ (rmMprselTuple_sameNeighborhood node tuple) holds
      · exact rules.frame node _ ⟨rfl, rfl, rfl, le_refl _⟩ holds
  | dup id | nb2hop id | topology id =>
      obtain ⟨tuple, found, ⟨_, rfl⟩ | ⟨_, rfl⟩⟩ := expireTuple_ok ran
      · exact rules.frame node _ ⟨rfl, rfl, rfl, le_refl _⟩ holds
      · exact rules.frame node _ ⟨rfl, rfl, rfl, le_refl _⟩ holds

theorem event (rules : UpkeepRules guard config now invariant) {recv : Reception} {event : Event}
    (met : event = .timer → guard.allows config now .timer node = true)
    (ran : stepWith recv config now event node = .ok node') (holds : invariant node)
    (received : ∀ iface srcAddr pkt, recv config now iface srcAddr pkt node = .ok node' →
      event = .recv iface srcAddr pkt → invariant node') : invariant node' := by
  cases event with
  | recv iface srcAddr pkt => exact received iface srcAddr pkt ran rfl
  | timer =>
      have met := met rfl
      cases queue : node.timerQueue with
      | nil =>
          simp only [stepWith, queue] at ran
          exact Except.ok.inj ran ▸ holds
      | cons first rest =>
          obtain ⟨key, timer⟩ := first
          simp only [stepWith, queue] at ran
          simp only [Guard.allows, queue] at met
          have started : invariant { node with timerQueue := rest } :=
            rules.frame node _ ⟨rfl, rfl, rfl, le_refl _⟩ holds
          refine rules.expireTimer ?_ ran started
          exact met
  | linkBreak destAddr =>
      simp only [stepWith] at ran
      split at ran
      · next useMac =>
        unfold macFailed at ran
        split at ran
        · exact Except.ok.inj ran ▸ holds
        · split at ran
          · exact Except.ok.inj ran ▸ holds
          · split at ran
            · exact Except.ok.inj ran ▸ holds
            · next link found =>
              exact rules.nbLoss ran
                (rules.macLoss node link (List.mem_of_find?_eq_some found) useMac holds)
      · exact Except.ok.inj ran ▸ holds

end UpkeepRules

namespace NeighborhoodRules

variable {guard : Guard} {config : Config} {now : Int} {invariant : Node → Prop}

variable {iface : Iface} {srcAddr : NsAddr}

theorem processMsg (rules : NeighborhoodRules guard config now invariant) {msg : Msg}
    (known : iface ∈ config.ifaces) (met : guard.msg now iface srcAddr msg node.state = true)
    (ran : processMsg config now iface srcAddr msg node = .ok node') (holds : invariant node) :
    invariant node' := by
  unfold Olsr.processMsg at ran
  split at ran
  · next hello body =>
    obtain ⟨sensed, changed, sensing, same⟩ := processHello_sensed ran
    exact rules.frame _ _ same
      (rules.hello iface srcAddr msg hello node sensed changed known body met sensing holds)
  · exact rules.frame _ _ (sameNeighborhood_of_topology (processTc_writes ran)) holds
  · next mid body =>
    rw [← Except.ok.inj ran]
    exact rules.mid iface srcAddr msg mid node body met holds
  · exact Except.ok.inj ran ▸ holds

theorem recvMsg (rules : NeighborhoodRules guard config now invariant) {msg : Msg}
    (known : iface ∈ config.ifaces)
    (met : guard.allowsMsg config now iface srcAddr msg node = true)
    (ran : recvMsg config now iface srcAddr node msg = .ok node') (holds : invariant node) :
    invariant node' := by
  rcases recvMsg_stages ran with ⟨_, rfl⟩ | ⟨handled, processed, processing, rfl⟩
  · exact holds
  · have kept : invariant processed := by
      unfold processUnlessDuplicated at processing
      split at processing
      · next fresh =>
        have recorded : invariant (node.record (.processed msg.origAddr msg.msgSeqNum)) :=
          rules.frame node _ ⟨rfl, rfl, rfl, le_refl _⟩ holds
        have taken : processes config msg node.state = true := by
          simp only [not_or, Bool.not_eq_true] at handled
          simp [processes, handled.1, handled.2, fresh]
        have allowed : guard.msg now iface srcAddr msg node.state = true := by
          simpa [Guard.allowsMsg, taken] using met
        refine rules.processMsg known ?_ processing recorded
        exact allowed
      · exact Except.ok.inj processing ▸ holds
    split
    · exact rules.frame _ _ (sameNeighborhood_of_forwarding
        (forwardDefault_writes config now msg _ iface.addr srcAddr processed)) kept
    · exact kept

theorem recvOlsr (rules : NeighborhoodRules guard config now invariant) {pkt : Pkt}
    (known : iface ∈ config.ifaces)
    (met : guard.allows config now (.recv iface srcAddr pkt) node = true)
    (ran : recvOlsr config now iface srcAddr pkt node = .ok node') (holds : invariant node) :
    invariant node' := by
  rcases recvOlsr_stages ran with ⟨_, rfl⟩ | ⟨handled, loop, table⟩
  · exact holds
  · refine rules.frame _ _ (recomputeRtable_sameNeighborhood table) ?_
    exact eachMsg_keeps invariant
      (fun msg node node' met ran holds => rules.recvMsg known met ran holds) met loop holds

theorem step (rules : NeighborhoodRules guard config now invariant) {clock : Int} {event : Event}
    (enabled : Enabled config clock now event node)
    (met : guard.allows config now event node = true)
    (ran : stepWith Olsr.recvOlsr config now event node = .ok node') (holds : invariant node) :
    invariant node' := by
  refine rules.event ?_ ran holds ?_
  · rintro rfl
    exact met
  · rintro iface srcAddr pkt received rfl
    exact rules.recvOlsr (enabled.known iface srcAddr pkt rfl) met received holds

end NeighborhoodRules

/-- What holds initially and follows the rules at every time holds in every run
whose steps meet the condition. -/
theorem reached_neighborhood {guard : Guard} {config : Config} {invariant : Node → Prop}
    {condition : Int → Event → Node → Prop}
    (start : ∀ time maxTime, invariant (initialNode config time maxTime))
    (rules : ∀ now, NeighborhoodRules guard config now invariant)
    (implied : ∀ now event node, condition now event node →
      guard.allows config now event node = true) {clock : Int}
    (reached : Reached recvOlsr config condition clock node) :
    invariant node := by
  induction reached with
  | initial time maxTime => exact start time maxTime
  | step _ enabled met ran ih => exact (rules _).step enabled (implied _ _ _ met) ran ih

end SyncFanet.Olsr
