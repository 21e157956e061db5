import SyncFanet.Olsr.AssertedRoutes
import SyncFanet.Olsr.InstalledRoutes
import SyncFanet.Olsr.TimerOwnership

/-!
# Routes of a node to itself

The 2-hop set has no address of the node itself, since `populate_nb2hopset` leaves it
out. The topology set and the associations of other nodes can have one.
-/

set_option autoImplicit false

namespace SyncFanet.Olsr

/-- The addresses of the node itself. -/
def Config.OwnAddr (config : Config) (addr : NsAddr) : Prop :=
  addr = config.raAddr ∨ ∃ iface ∈ config.ifaces, iface.addr = addr

instance (config : Config) (addr : NsAddr) : Decidable (config.OwnAddr addr) :=
  inferInstanceAs (Decidable (_ ∨ _))

/-! ## Own addresses in the repositories -/

/-- The links lead to other nodes, and an association is the node's own or has another
node's main address. -/
structure OwnAssociated (config : Config) (state : State) : Prop where
  links : ∀ link ∈ state.linkset, ¬ config.OwnAddr link.nbIfaceAddr
  assocs : ∀ tuple ∈ state.ifaceassocset,
    (config.OwnAddr tuple.ifaceAddr ∧ tuple.mainAddr = config.raAddr) ∨
      config.isLocalAddress tuple.mainAddr = false
  own : ∀ iface ∈ config.ifaces, ∃ tuple ∈ state.ifaceassocset,
    tuple.id < config.ifaces.length ∧ tuple.ifaceAddr = iface.addr

/-- What runs guarantee: messages come from other nodes, and the timers are those of
learnt associations. -/
def foreignGuard (config : Config) : Guard where
  msg _ _ srcAddr msg _ :=
    !decide (config.OwnAddr srcAddr) && !config.isLocalAddress msg.origAddr
  timer _ timer _ :=
    match timer with
    | .ifaceAssoc id => decide (config.ifaces.length ≤ id)
    | _ => true

section

variable {config : Config} {state : State} {now : Int} {node node' : Node}

theorem Config.OwnAddr.local {addr : NsAddr} (own : config.OwnAddr addr) :
    config.isLocalAddress addr = true := by
  cases own with
  | inl same => exact decide_eq_true (same ▸ config.raAddr_local)
  | inr iface =>
      obtain ⟨iface, member, same⟩ := iface
      exact decide_eq_true (same ▸ config.ifaces_local iface member)

theorem getMainAddr_cases (state : State) (addr : NsAddr) :
    (∃ tuple ∈ state.ifaceassocset, tuple.ifaceAddr = addr ∧
      state.getMainAddr addr = tuple.mainAddr) ∨
    ((∀ tuple ∈ state.ifaceassocset, tuple.ifaceAddr ≠ addr) ∧ state.getMainAddr addr = addr) := by
  unfold State.getMainAddr State.findIfaceassocTuple
  cases found : state.ifaceassocset.find? fun tuple => tuple.ifaceAddr = addr with
  | some tuple =>
      have member := List.mem_of_find?_eq_some found
      have same : tuple.ifaceAddr = addr := by simpa using List.find?_some found
      exact .inl ⟨tuple, member, same, rfl⟩
  | none =>
      have absent : ∀ tuple ∈ state.ifaceassocset, tuple.ifaceAddr ≠ addr := by simpa using found
      exact .inr ⟨absent, rfl⟩

namespace OwnAssociated

theorem main_own (holds : OwnAssociated config state) {addr : NsAddr}
    (own : config.OwnAddr (state.getMainAddr addr)) : state.getMainAddr addr = config.raAddr := by
  cases getMainAddr_cases state addr with
  | inl associated =>
      obtain ⟨tuple, member, _, main⟩ := associated
      rw [main] at own ⊢
      cases holds.assocs tuple member with
      | inl known => exact known.2
      | inr foreign =>
          rw [own.local] at foreign
          cases foreign
  | inr alone =>
      obtain ⟨absent, main⟩ := alone
      rw [main] at own ⊢
      cases own with
      | inl same => exact same
      | inr iface =>
          obtain ⟨iface, member, same⟩ := iface
          obtain ⟨tuple, among, _, equal⟩ := holds.own iface member
          exact absurd (equal.trans same) (absent tuple among)

theorem main_foreign (holds : OwnAssociated config state) {addr : NsAddr}
    (foreign : ¬ config.OwnAddr addr) : ¬ config.OwnAddr (state.getMainAddr addr) := by
  intro own
  cases getMainAddr_cases state addr with
  | inl associated =>
      obtain ⟨tuple, member, same, main⟩ := associated
      cases holds.assocs tuple member with
      | inl known => exact foreign (same ▸ known.1)
      | inr other =>
          rw [main] at own
          rw [own.local] at other
          cases other
  | inr alone => exact foreign (alone.2 ▸ own)

theorem not_oneHop (holds : OwnAssociated config state) {addr : NsAddr}
    (own : config.OwnAddr addr) : ¬ OneHop state now addr := by
  rintro ⟨nb, _, _, link, listed, names⟩
  obtain ⟨member, resolves, _⟩ := mem_linksOf.mp listed
  have foreign := holds.links link member
  cases names with
  | inl onLink => exact foreign (onLink ▸ own)
  | inr onMain => exact holds.main_foreign foreign (resolves ▸ onMain ▸ own)

end OwnAssociated

variable {msg : Msg} {iface : Iface} {srcAddr : NsAddr}

/-! ## Rules -/

theorem associate_assocs (now : Int) (origAddr : NsAddr) (validity : Int) (index : Nat)
    (node : Node) (addr : NsAddr) :
    (∀ tuple ∈ node.state.ifaceassocset, ∃ new ∈
        (associate now origAddr validity index node addr).state.ifaceassocset,
        new.id = tuple.id ∧ new.ifaceAddr = tuple.ifaceAddr) ∧
      ∀ new ∈ (associate now origAddr validity index node addr).state.ifaceassocset,
        new.mainAddr = origAddr ∨ ∃ tuple ∈ node.state.ifaceassocset,
          new.ifaceAddr = tuple.ifaceAddr ∧ new.mainAddr = tuple.mainAddr := by
  unfold associate
  dsimp only
  split
  · constructor
    · intro tuple member
      refine ⟨_, List.mem_map_of_mem member, ?_⟩
      split <;> exact ⟨rfl, rfl⟩
    · intro new member
      obtain ⟨tuple, among, same⟩ := List.mem_map.mp member
      refine .inr ⟨tuple, among, ?_⟩
      rw [← same]
      split <;> exact ⟨rfl, rfl⟩
  · constructor
    · intro tuple member
      exact ⟨tuple, List.mem_append_left _ member, rfl, rfl⟩
    · intro new member
      rcases List.mem_append.mp member with old | last
      · exact .inr ⟨new, old, rfl, rfl⟩
      · exact .inl (by rw [List.mem_singleton.mp last])

theorem OwnAssociated.associate (holds : OwnAssociated config node.state) {origAddr : NsAddr}
    (foreign : config.isLocalAddress origAddr = false) (validity : Int) (index : Nat)
    (addr : NsAddr) :
    OwnAssociated config (associate now origAddr validity index node addr).state := by
  obtain ⟨kept, made⟩ := associate_assocs now origAddr validity index node addr
  obtain ⟨_, _, _, written⟩ := associate_writes now origAddr validity index node addr
  constructor
  · rw [written]
    exact holds.links
  · intro new member
    rcases made new member with learnt | ⟨tuple, among, iface, main⟩
    · exact .inr (learnt ▸ foreign)
    · rw [iface, main]
      exact holds.assocs tuple among
  · intro iface member
    obtain ⟨tuple, among, short, same⟩ := holds.own iface member
    obtain ⟨new, present, id, equal⟩ := kept tuple among
    exact ⟨new, present, id ▸ short, equal.trans same⟩

theorem OwnAssociated.relink (holds : OwnAssociated config node.state) {state' : State}
    (links : ∀ link ∈ state'.linkset, ∃ old ∈ node.state.linkset,
      link.nbIfaceAddr = old.nbIfaceAddr)
    (assocs : state'.ifaceassocset = node.state.ifaceassocset) : OwnAssociated config state' where
  links link member := by
    obtain ⟨old, among, same⟩ := links link member
    exact same ▸ holds.links old among
  assocs := assocs ▸ holds.assocs
  own := assocs ▸ holds.own

theorem OwnAssociated.hello (holds : OwnAssociated config node.state) {hello : Hello}
    {changed : Bool} (foreign : ¬ config.OwnAddr srcAddr)
    (ran : linkSensingWith true config now msg.vtime hello iface.addr srcAddr iface.index node =
      .ok (node', changed)) : OwnAssociated config node'.state := by
  have assocs : node'.state.ifaceassocset = node.state.ifaceassocset := by
    obtain ⟨_, _, _, _, written⟩ := linkSensingWith_writes ran
    rw [written]
  refine ⟨?_, assocs ▸ holds.assocs, assocs ▸ holds.own⟩
  intro link member
  rcases linkSensingWith_cases ran with
    ⟨known, sensedLink, found, sensed, rfl⟩ | ⟨_, _, created, sensedLink, updated, rfl, sensed, rfl⟩
  · cases mem_writeSensed member with
    | inl old => exact holds.links link old
    | inr new =>
        rw [new, (senseLink_same sensed).nbIfaceAddr]
        exact holds.links known (List.mem_of_find?_eq_some found)
  · cases mem_writeSensed member with
    | inl added =>
        cases List.mem_append.mp added with
        | inl old => exact holds.links link old
        | inr last => exact List.mem_singleton.mp last ▸ foreign
    | inr new =>
        rw [new, (senseLink_same sensed).nbIfaceAddr]
        exact foreign

theorem ownAssociated_rules (config : Config) (now : Int) :
    NeighborhoodRules (foreignGuard config) config now fun node =>
      WellLinked config node.state node.nextId ∧ OwnAssociated config node.state where
  frame node node' same holds := by
    refine ⟨(wellLinked_rules (foreignGuard config) config now).frame node node' same holds.1, ?_⟩
    refine holds.2.relink ?_ same.ifaceassocset
    intro link member
    exact ⟨link, same.linkset ▸ member, rfl⟩
  hello iface srcAddr msg hello node node' changed among body met ran holds := by
    have linked := (wellLinked_rules (foreignGuard config) config now).hello iface srcAddr msg hello node node' changed
      among body met ran holds.1
    simp only [foreignGuard, Bool.and_eq_true, Bool.not_eq_true', decide_eq_false_iff_not] at met
    have sensed := holds.2.hello met.1 ran
    exact ⟨linked, sensed.links, sensed.assocs, sensed.own⟩
  mid iface srcAddr msg mid node body met holds := by
    have linked := (wellLinked_rules (foreignGuard config) config now).mid iface srcAddr msg mid
      node body met holds.1
    refine ⟨linked, ?_⟩
    simp only [foreignGuard, Bool.and_eq_true, Bool.not_eq_true'] at met
    unfold processMid
    split
    · exact holds.2
    · refine foldl_keeps (associate now msg.origAddr (emfToSeconds msg.vtime) iface.index)
        (fun node => OwnAssociated config node.state) holds.2 ?_
      intro addr node _ holds
      exact holds.associate met.2 _ iface.index addr
  loss node link member lost holds := by
    have linked := (wellLinked_rules (foreignGuard config) config now).loss node link member lost
      holds.1
    obtain ⟨_, written⟩ := updatedLinkTuple_writes config now link willDefault node.state
    simp only [Node.mapState, written] at linked ⊢
    exact ⟨linked, holds.2.links, holds.2.assocs, holds.2.own⟩
  macLoss node link member useMac holds := by
    have linked := (wellLinked_rules (foreignGuard config) config now).macLoss node link member
      useMac holds.1
    obtain ⟨_, written⟩ := updatedLinkTuple_writes config now (lostLinkTuple config now link)
      willDefault (node.state.updateLinkTuple (lostLinkTuple config now link))
    simp only [Node.mapState, written] at linked ⊢
    refine ⟨linked, ?_, holds.2.assocs, holds.2.own⟩
    exact updateFirst.forall_mem holds.2.links fun _ _ _ => holds.2.links link member
  rmLink id firstTime node link member same expired met holds := by
    refine ⟨(wellLinked_rules (foreignGuard config) config now).rmLink id firstTime node link member same expired met
      holds.1, ?_⟩
    refine holds.2.relink ?_ rfl
    intro other among
    exact ⟨other, List.mem_of_mem_eraseP among, rfl⟩
  rmAssoc id node tuple member same expired met holds := by
    refine ⟨(wellLinked_rules (foreignGuard config) config now).rmAssoc id node tuple member same expired met holds.1, ?_⟩
    refine ⟨holds.2.links, fun other among => holds.2.assocs other (List.mem_of_mem_eraseP among), ?_⟩
    intro iface known
    obtain ⟨own, among, short, equal⟩ := holds.2.own iface known
    refine ⟨own, ?_, short, equal⟩
    have learnt : config.ifaces.length ≤ id := of_decide_eq_true met
    refine (List.mem_eraseP_of_neg ?_).mpr among
    have different : own.id ≠ tuple.id := Nat.ne_of_lt (Nat.lt_of_lt_of_le short (same ▸ learnt))
    simpa using different

/-! ## 2-hop tuples -/

def ForeignHops (config : Config) (node node' : Node) : Prop :=
  ∀ hop ∈ node'.state.nb2hopset, (∃ old ∈ node.state.nb2hopset, old.nb2hopAddr = hop.nb2hopAddr) ∨
    ¬ config.OwnAddr hop.nb2hopAddr

theorem ForeignHops.trans {first second third : Node} (left : ForeignHops config first second)
    (right : ForeignHops config second third) : ForeignHops config first third := by
  intro hop member
  cases right hop member with
  | inr foreign => exact .inr foreign
  | inl old =>
      obtain ⟨hop', among, same⟩ := old
      exact same ▸ left hop' among

theorem foreignHops_of_subset (subset : node'.state.nb2hopset ⊆ node.state.nb2hopset) :
    ForeignHops config node node' :=
  fun hop member => .inl ⟨hop, subset member, rfl⟩

theorem foreignHops_of_eq (same : node'.state.nb2hopset = node.state.nb2hopset) :
    ForeignHops config node node' :=
  foreignHops_of_subset (same ▸ List.Subset.refl _)

theorem populateAddr_foreignHops {validity : Int} {origAddr addr : NsAddr} {nbType : Nat}
    {acc : Node × Bool} (foreign : addr ≠ config.raAddr → ¬ config.OwnAddr addr) :
    ForeignHops config acc.1 (populateAddr config now validity origAddr nbType acc addr).1 := by
  unfold populateAddr
  dsimp only
  split
  · split
    · exact foreignHops_of_eq rfl
    · next different =>
      split
      · intro hop member
        cases List.mem_append.mp member with
        | inl old => exact .inl ⟨hop, old, rfl⟩
        | inr last => exact .inr (List.mem_singleton.mp last ▸ foreign different)
      · intro hop member
        cases updateFirst.mem_cases member with
        | inl old => exact .inl ⟨hop, old, rfl⟩
        | inr updated =>
            obtain ⟨old, among, _, same⟩ := updated
            exact .inl ⟨old, among, same ▸ rfl⟩
  · split
    · exact foreignHops_of_subset (List.filter_subset_self _)
    · exact foreignHops_of_eq rfl

theorem processHello_foreignHops {hello : Hello} {receiverIface senderIface : NsAddr}
    {index : Nat}
    (ran : processHello config now msg hello receiverIface senderIface index node = .ok node')
    (holds : OwnAssociated config node.state) : ForeignHops config node node' := by
  obtain ⟨sensed, populated, computed, _, changed, first, second, third, fourth⟩ :=
    processHello_stages ran
  obtain ⟨_, _, _, _, sensing⟩ := linkSensingWith_writes first
  obtain ⟨_, _, rfl⟩ := recomputeMprs_writes third
  obtain ⟨_, _, _, _, _, rfl⟩ := populateMprselset_writes fourth
  have same : ForeignHops config node (sensed.mapState (populateNbset hello msg.origAddr)) := by
    rw [sensing]
    exact foreignHops_of_eq rfl
  have mains : (sensed.mapState (populateNbset hello msg.origAddr)).state.getMainAddr =
      node.state.getMainAddr := by
    rw [sensing]
    rfl
  have added : ForeignHops config (sensed.mapState (populateNbset hello msg.origAddr))
      (populated, changed).1 := by
    rw [populateNb2hopsetWith_ok second]
    refine populateAll_keeps
      (fun acc => ForeignHops config (sensed.mapState (populateNbset hello msg.origAddr)) acc.1)
      (foreignHops_of_eq rfl) ?_
    intro acc written group _ addr _
    refine written.trans (populateAddr_foreignHops fun different own => ?_)
    rw [mains] at different own
    exact different (holds.main_own own)
  exact (same.trans added).trans (foreignHops_of_eq rfl)

theorem recvMsg_foreignHops (ran : recvMsg config now iface srcAddr node msg = .ok node')
    (holds : OwnAssociated config node.state) : ForeignHops config node node' := by
  rcases recvMsg_stages ran with ⟨_, rfl⟩ | ⟨_, processed, processing, rfl⟩
  · exact foreignHops_of_eq rfl
  · have handled : ForeignHops config node processed := by
      unfold processUnlessDuplicated at processing
      split at processing
      · unfold processMsg at processing
        split at processing
        · have recorded : OwnAssociated config
              (node.record (.processed msg.origAddr msg.msgSeqNum)).state := holds
          have processed := processHello_foreignHops processing recorded
          exact processed
        · obtain ⟨_, _, _, _, rfl⟩ := processTc_writes processing
          exact foreignHops_of_eq rfl
        · obtain ⟨_, _, _, written⟩ := processMid_writes now msg _ srcAddr iface.index
            (node.record (.processed msg.origAddr msg.msgSeqNum))
          rw [← Except.ok.inj processing, written]
          exact foreignHops_of_eq rfl
        · exact Except.ok.inj processing ▸ foreignHops_of_eq rfl
      · exact Except.ok.inj processing ▸ foreignHops_of_eq rfl
    split
    · obtain ⟨_, _, _, _, _, _, written⟩ := forwardDefault_writes config now msg
        (node.state.findDupTuple msg.origAddr msg.msgSeqNum) iface.addr srcAddr processed
      rw [written]
      exact handled.trans (foreignHops_of_eq rfl)
    · exact handled

theorem recomputeRtable_foreignHops (ran : node.recomputeRtable now = .ok node') :
    ForeignHops config node node' := by
  obtain ⟨_, _, rfl⟩ := recomputeRtable_writes ran
  exact foreignHops_of_eq rfl

theorem nbLoss_foreignHops {link : LinkTuple} (ran : nbLoss config now link node = .ok node') :
    ForeignHops config node node' := by
  obtain ⟨computed, mprs, table⟩ := nbLoss_stages ran
  obtain ⟨_, _, rfl⟩ := recomputeMprs_writes mprs
  obtain ⟨_, written⟩ := updatedLinkTuple_writes config now link willDefault node.state
  refine ForeignHops.trans ?_ (recomputeRtable_foreignHops table)
  refine foreignHops_of_subset ?_
  have erased : (lossErased config now link node).state.nb2hopset ⊆ node.state.nb2hopset := by
    unfold lossErased Node.eraseMprselTuples Node.eraseNb2hopTuplesOf Node.mapState
    dsimp only
    rw [written]
    split <;> exact List.filter_subset_self _
  exact erased

theorem foreignHops_of_output (written : WritesOutput node node') :
    ForeignHops config node node' := by
  obtain ⟨_, _, _, _, _, _, rfl⟩ := written
  exact foreignHops_of_eq rfl

theorem expireTimer_foreignHops {timer : Timer} (ran : expireTimer config now timer node = .ok node') :
    ForeignHops config node node' := by
  cases timer with
  | hello | tc | mid | msg => exact foreignHops_of_output (expireTimer_output (by simp) ran)
  | link id firstTime =>
      obtain ⟨link, _, ⟨_, rfl⟩ | ⟨_, _, lost, loss, rfl⟩ | ⟨_, _, rfl⟩⟩ := expireLink_ok ran
      · exact foreignHops_of_eq rfl
      · refine ForeignHops.trans ?_ (foreignHops_of_eq rfl : ForeignHops config lost _)
        rcases loss with ⟨_, rfl⟩ | ⟨_, loss⟩
        · exact foreignHops_of_eq rfl
        · exact nbLoss_foreignHops loss
      · exact foreignHops_of_eq rfl
  | nb2hop id =>
      obtain ⟨tuple, found, ⟨_, rfl⟩ | ⟨_, rfl⟩⟩ := expireTuple_ok ran
      · exact foreignHops_of_subset List.eraseP_subset
      · exact foreignHops_of_eq rfl
  | mprsel id =>
      obtain ⟨tuple, found, ⟨_, rfl⟩ | ⟨_, rfl⟩⟩ := expireTuple_ok ran
      · unfold Node.rmMprselTuple
        dsimp only
        split <;> exact foreignHops_of_eq rfl
      · exact foreignHops_of_eq rfl
  | dup id | topology id | ifaceAssoc id =>
      obtain ⟨tuple, found, ⟨_, rfl⟩ | ⟨_, rfl⟩⟩ := expireTuple_ok ran
      · exact foreignHops_of_eq rfl
      · exact foreignHops_of_eq rfl

/-! ## The repositories of reachable nodes -/

structure OwnExcluded (config : Config) (node : Node) : Prop where
  linked : WellLinked config node.state node.nextId
  associated : OwnAssociated config node.state
  hops : ∀ hop ∈ node.state.nb2hopset, ¬ config.OwnAddr hop.nb2hopAddr

theorem OwnExcluded.step_of (holds : OwnExcluded config node)
    (kept : WellLinked config node'.state node'.nextId ∧ OwnAssociated config node'.state)
    (foreign : ForeignHops config node node') : OwnExcluded config node' where
  linked := kept.1
  associated := kept.2
  hops hop member := by
    cases foreign hop member with
    | inr foreign => exact foreign
    | inl old =>
        obtain ⟨hop', among, same⟩ := old
        exact same ▸ holds.hops hop' among

theorem foreignGuard_timer (owned : Owned config 0 node) :
    (foreignGuard config).allows config now .timer node = true := by
  simp only [Guard.allows]
  cases queue : node.timerQueue with
  | nil => rfl
  | cons first rest =>
      obtain ⟨key, timer⟩ := first
      cases timer with
      | ifaceAssoc id =>
          have listed : (TupleKind.ifaceAssoc, id) ∈ ownedBy node.timerQueue := by
            rw [queue]
            exact List.mem_cons_self
          have balanced := owned.balanced
          rw [zero_add] at balanced
          exact decide_eq_true (owned.bounded _ (balanced ▸ listed)).1
      | _ => rfl

theorem foreignGuard_allowsMsg (foreign : ¬ config.OwnAddr srcAddr) :
    (foreignGuard config).allowsMsg config now iface srcAddr msg node = true := by
  cases taken : processes config msg node.state with
  | false => simp [Guard.allowsMsg, taken]
  | true =>
      simp only [processes, Bool.and_eq_true, Bool.not_eq_true'] at taken
      simp [Guard.allowsMsg, foreignGuard, foreign, taken.1.2]

theorem stepWith_foreignHops {event : Event}
    (noPacket : ∀ iface srcAddr pkt, event ≠ .recv iface srcAddr pkt)
    (ran : stepWith recvOlsr config now event node = .ok node') :
    ForeignHops config node node' := by
  cases event with
  | recv iface srcAddr pkt => exact absurd rfl (noPacket iface srcAddr pkt)
  | timer =>
      cases queue : node.timerQueue with
      | nil =>
          simp only [stepWith, queue] at ran
          exact Except.ok.inj ran ▸ foreignHops_of_eq rfl
      | cons first rest =>
          obtain ⟨key, timer⟩ := first
          simp only [stepWith, queue] at ran
          have fired := expireTimer_foreignHops ran
          exact fired
  | linkBreak destAddr =>
      simp only [stepWith, macFailed] at ran
      split at ran
      · split at ran
        · exact Except.ok.inj ran ▸ foreignHops_of_eq rfl
        · split at ran
          · exact Except.ok.inj ran ▸ foreignHops_of_eq rfl
          · split at ran
            · exact Except.ok.inj ran ▸ foreignHops_of_eq rfl
            · have lost := nbLoss_foreignHops ran
              exact lost
      · exact Except.ok.inj ran ▸ foreignHops_of_eq rfl

theorem stepWith_excluded {clock : Int} {event : Event} (enabled : Enabled config clock now event node)
    (foreign : ∀ iface srcAddr pkt, event = .recv iface srcAddr pkt → ¬ config.OwnAddr srcAddr)
    (owned : Owned config 0 node) (holds : OwnExcluded config node)
    (ran : stepWith recvOlsr config now event node = .ok node') : OwnExcluded config node' := by
  have rules := ownAssociated_rules config now
  cases event with
  | recv iface srcAddr pkt =>
      have sender := foreign iface srcAddr pkt rfl
      rcases recvOlsr_stages ran with ⟨_, rfl⟩ | ⟨handled, loop, table⟩
      · exact holds
      · have received : OwnExcluded config handled := by
          refine foldlM_seen loop (fun _ node => OwnExcluded config node) holds ?_
          intro _ msg current next _ holds received
          have kept := rules.recvMsg (enabled.known iface srcAddr pkt rfl)
            (foreignGuard_allowsMsg sender) received ⟨holds.linked, holds.associated⟩
          exact holds.step_of kept (recvMsg_foreignHops received holds.associated)
        have kept := rules.frame _ _ (recomputeRtable_sameNeighborhood table)
          ⟨received.linked, received.associated⟩
        exact received.step_of kept (recomputeRtable_foreignHops table)
  | timer =>
      have noPacket : ∀ iface srcAddr pkt, Event.timer ≠ .recv iface srcAddr pkt := nofun
      refine holds.step_of ?_ (stepWith_foreignHops noPacket ran)
      refine rules.event (fun _ => foreignGuard_timer owned) ran ⟨holds.linked, holds.associated⟩ ?_
      intro _ _ _ _ received
      cases received
  | linkBreak destAddr =>
      have noPacket : ∀ iface srcAddr pkt, Event.linkBreak destAddr ≠ .recv iface srcAddr pkt :=
        nofun
      refine holds.step_of ?_ (stepWith_foreignHops noPacket ran)
      refine rules.event ?_ ran ⟨holds.linked, holds.associated⟩ ?_
      · intro fired
        cases fired
      · intro _ _ _ _ received
        cases received

/-! ## The table -/

/-- What brings an own address into the table: a topology tuple that another node
advertises, beyond a route of two hops or more, and an association of another node. -/
structure OwnUnadvertised (config : Config) (state : State) (now : Int) : Prop where
  topology : ∀ tuple ∈ state.topologyset, config.OwnAddr tuple.destAddr →
    ¬ Far state now tuple.lastAddr
  assoc : ∀ tuple ∈ state.ifaceassocset, config.OwnAddr tuple.ifaceAddr →
    tuple.mainAddr ≠ config.raAddr →
      ¬ Near state now tuple.mainAddr ∧ ¬ Far state now tuple.mainAddr

theorem rtableComputation_excludes {rtable : Rtable}
    (computed : rtableComputation node.state now = .ok rtable) (holds : OwnExcluded config node)
    (unadvertised : OwnUnadvertised config node.state now) {addr : NsAddr}
    (own : config.OwnAddr addr) : rtable.lookup addr = none := by
  obtain ⟨twoHop, passed, ran⟩ := bind_ok.mp computed
  have start : ∀ addr, config.OwnAddr addr → twoHop.lookup addr = none := by
    intro addr own
    cases found : twoHop.lookup addr with
    | none => rfl
    | some entry =>
        cases (twoHopPass_isSome_iff passed addr).mp (by simp [found]) with
        | inl near => exact absurd near (holds.associated.not_oneHop own)
        | inr far =>
            obtain ⟨hop, member, _, same⟩ := far
            exact absurd (same ▸ own) (holds.hops hop member)
  have kept : Located node.state now twoHop rtable ∧
      ∀ addr, config.OwnAddr addr → rtable.lookup addr = none := by
    refine layers_keeps (fun table => Located node.state now twoHop table ∧
      ∀ addr, config.OwnAddr addr → table.lookup addr = none) ?_ ran
      ⟨located_twoHop passed, start⟩
    intro h table beyond holds'
    refine layer_keeps (fun table => Located node.state now twoHop table ∧
      ∀ addr, config.OwnAddr addr → table.lookup addr = none) holds' ?_ ?_
    · intro table holds' tuple member missing via last dist
      refine ⟨holds'.1.topology passed beyond member missing last dist, ?_⟩
      intro addr own
      rw [Rtable.lookup_store]
      split
      · next same =>
        have equal : addr = tuple.destAddr := same
        have far := holds'.1.far _ via last (dist ▸ beyond)
        exact absurd far (unadvertised.topology tuple member (equal ▸ own))
      · exact holds'.2 addr own
    · intro table holds' tuple member missing via main
      refine ⟨holds'.1.assoc passed member missing main, ?_⟩
      intro addr own
      rw [Rtable.lookup_store]
      split
      · next same =>
        have equal : addr = tuple.ifaceAddr := same
        have ownIface : config.OwnAddr tuple.ifaceAddr := equal ▸ own
        by_cases known : tuple.mainAddr = config.raAddr
        · have absent := holds'.2 config.raAddr (.inl rfl)
          rw [← known, main] at absent
          cases absent
        · obtain ⟨notNear, notFar⟩ := unadvertised.assoc tuple member ownIface known
          by_cases short : via.dist < 2
          · exact absurd (holds'.1.near _ via main short) notNear
          · exact absurd (holds'.1.far _ via main (Nat.le_of_not_lt short)) notFar
      · exact holds'.2 addr own
  exact kept.2 addr own

/-! ## Installed routes -/

theorem changeRoute_new {ip : IpConfig} (inserts : ip.InsertsRoutes) {dst gtwy iface : NsAddr}
    {hops index : Nat} {routes routes' : List IpRoute}
    (ran : changeRoute ip dst gtwy hops iface index routes = .ok routes') {route : IpRoute}
    (member : route ∈ routes') : route ∈ routes ∨ route.destination = dst := by
  unfold changeRoute at ran
  split at ran
  · exact .inl (Except.ok.inj ran ▸ member)
  · split at ran
    · cases ran
    · dsimp only at ran
      split at ran
      · rw [← Except.ok.inj ran] at member
        cases List.mem_cons.mp ((inserts routes _).mem_iff.mp member) with
        | inl new => exact .inr (new ▸ rfl)
        | inr old => exact .inl old
      · split at ran
        · exact .inl (Except.ok.inj ran ▸ member)
        · rw [← Except.ok.inj ran] at member
          cases List.mem_cons.mp ((inserts _ _).mem_iff.mp member) with
          | inl new => exact .inr (new ▸ rfl)
          | inr old => exact .inl (List.mem_of_mem_erase old)

theorem computeRoutes_new {ip : IpConfig} (inserts : ip.InsertsRoutes) {routing routing' : Routing}
    (ran : computeRoutes ip state now routing = .ok routing') {route : IpRoute}
    (member : route ∈ routing'.routes) :
    route ∈ routing.routes ∨ (routing'.rtable.lookup route.destination).isSome := by
  have installs := (computeRoutes_installs ran).2
  clear ran
  induction installs with
  | refl => exact .inl (mem_cleanUp member)
  | tail _ step ih =>
      obtain ⟨entry, _, stored, changed⟩ := step
      rw [stored, Rtable.lookup_store]
      split
      · exact .inr rfl
      · next other =>
        cases changeRoute_new inserts changed member with
        | inl old => exact ih old
        | inr new => exact absurd new other

end

/-! ## Runs -/

/-- Packets come from other nodes, and nothing brings an own address into the table that
the step computes. -/
structure OwnUnrouted (config : Config) (now : Int) (event : Event) (node : Node) : Prop where
  foreign : ∀ iface srcAddr pkt, event = .recv iface srcAddr pkt → ¬ config.OwnAddr srcAddr
  unadvertised : ∀ input, routeInput config now event node = some input →
    OwnUnadvertised config input.state now

theorem reached_excluded {config : Config} {clock : Int} {node : Node}
    (reached : Reached recvOlsr config (OwnUnrouted config) clock node) :
    Owned config 0 node ∧ OwnExcluded config node ∧
      ∀ addr, config.OwnAddr addr → node.rtable.lookup addr = none := by
  induction reached with
  | initial start maxTime =>
      refine ⟨initialNode_owned config start maxTime, ⟨initialNode_wellLinked _ _ _, ?_, nofun⟩,
        fun _ _ => rfl⟩
      refine ⟨nofun, ?_, ?_⟩
      · intro tuple member
        obtain ⟨⟨iface, position⟩, indexed, rfl⟩ := List.mem_map.mp member
        exact .inl ⟨.inr ⟨iface, List.fst_mem_of_mem_zipIdx indexed, rfl⟩, rfl⟩
      · intro iface member
        obtain ⟨position, found⟩ := List.mem_iff_getElem?.mp member
        have indexed := List.mk_mem_zipIdx_iff_getElem?.mpr found
        have short := (List.getElem?_eq_some_iff.mp found).1
        exact ⟨_, List.mem_map_of_mem indexed, short, rfl⟩
  | step before enabled met stepped ih =>
      obtain ⟨owned, holds, absent⟩ := ih
      have after := stepWith_excluded enabled met.foreign owned holds stepped
      refine ⟨stepWith_owned stepped owned, after, ?_⟩
      have routed := stepWith_routed stepped
      unfold RoutedBy at routed
      split at routed
      · next input computed =>
        intro addr own
        have unadvertised := met.unadvertised input computed
        rw [← routed.1] at unadvertised
        exact rtableComputation_excludes (routed.1 ▸ routed.2) after unadvertised own
      · exact fun addr own => routed ▸ absent addr own

/-- In runs in which nothing brings them into the tables that are computed, the own
addresses have no entry, and no computation installs a route to them. -/
theorem own_addrs_unrouted (config : Config) (clock : Int) (node : Node)
    (reached : Reached recvOlsr config (OwnUnrouted config) clock node) :
    (∀ addr, config.OwnAddr addr → node.rtable.lookup addr = none) ∧
      ∀ now event node' input, Enabled config clock now event node →
        OwnUnrouted config now event node → stepWith recvOlsr config now event node = .ok node' →
        routeInput config now event node = some input →
        ∀ ip : IpConfig, ip.InsertsRoutes → ∀ routing routing',
          computeRoutes ip input.state now routing = .ok routing' →
          ∀ route ∈ routing'.routes, config.OwnAddr route.destination → route ∈ routing.routes := by
  refine ⟨(reached_excluded reached).2.2, ?_⟩
  intro now event node' input enabled met stepped computed ip inserts routing routing' ran route
    member own
  have absent := (reached_excluded (reached.step enabled met stepped)).2.2 _ own
  have routed := stepWith_routed stepped
  rw [computed] at routed
  have table : routing'.rtable = node'.rtable :=
    Except.ok.inj ((computeRoutes_installs ran).1.symm.trans routed.2)
  cases computeRoutes_new inserts ran member with
  | inl old => exact old
  | inr present =>
      rw [table, absent] at present
      cases present

/-- Packets come from other nodes. -/
def foreignSenders (config : Config) (event : Event) : Bool :=
  match event with
  | .recv _ srcAddr _ => !decide (config.OwnAddr srcAddr)
  | .timer | .linkBreak _ => true

def ownUnnamed (config : Config) (state : State) : Bool :=
  (state.topologyset.all fun tuple => !decide (config.OwnAddr tuple.destAddr)) &&
    state.ifaceassocset.all fun tuple =>
      !decide (config.OwnAddr tuple.ifaceAddr) || decide (tuple.mainAddr = config.raAddr)

theorem ownUnrouted_of_unnamed {config : Config} {now : Int} {event : Event} {node : Node}
    (senders : foreignSenders config event = true)
    (unnamed : ((routeInput config now event node).all fun input =>
      ownUnnamed config input.state) = true) : OwnUnrouted config now event node where
  foreign := by
    rintro iface srcAddr pkt rfl
    simpa [foreignSenders] using senders
  unadvertised input computed := by
    simp only [computed, Option.all_some, ownUnnamed, Bool.and_eq_true, List.all_eq_true,
      Bool.or_eq_true, Bool.not_eq_true', decide_eq_false_iff_not, decide_eq_true_eq] at unnamed
    constructor
    · exact fun tuple member own => absurd own (unnamed.1 tuple member)
    · exact fun tuple member own other => absurd own ((unnamed.2 tuple member).resolve_right other)

def twoHopTcRun (advertised : NsAddr) : List (Int × Event) :=
  [(Time.second, receiveTwoHopHello 0 134),
    (2 * Time.second, receive 2 3 0 134 (.tc { ansn := 0, nbMainAddrs := [advertised] }))]

theorem own_addrs_unrouted_twoHopTc :
    ∃ node : Node, (node.rtable.lookup 4).isSome ∧ node.rtable.lookup 1 = none := by
  obtain ⟨clock, node, reached, checked⟩ := exists_reached_of_runOf recvOlsr
    (fun now event node => foreignSenders oneIfaceConfig event &&
      (routeInput oneIfaceConfig now event node).all fun input =>
        ownUnnamed oneIfaceConfig input.state) (twoHopTcRun 4)
    (fun current => (current.2.rtable.lookup 4).isSome) (by decide +kernel)
  have met := reached.weaken fun now event node met =>
    ownUnrouted_of_unnamed (Bool.and_eq_true_iff.mp met).1 (Bool.and_eq_true_iff.mp met).2
  exact ⟨node, checked, (own_addrs_unrouted oneIfaceConfig clock node met).1 1 (.inl rfl)⟩

/-- Node 3, two hops away, still advertises the node itself. -/
theorem own_addr_routed_of_formerNeighbor :
    ¬ ∀ (config : Config) (clock : Int) (node : Node),
      Reached recvOlsr config (fun _ event _ => foreignSenders config event = true) clock node →
      ∀ addr, config.OwnAddr addr → node.rtable.lookup addr = none := by
  intro claim
  obtain ⟨clock, node, reached, checked⟩ := exists_reached_of_runOf recvOlsr
    (fun _ event _ => foreignSenders oneIfaceConfig event) (twoHopTcRun 1)
    (fun current => (current.2.rtable.lookup 1).isSome) (by decide +kernel)
  have absent := claim oneIfaceConfig clock node reached 1 (.inl rfl)
  rw [absent] at checked
  cases checked

end SyncFanet.Olsr
