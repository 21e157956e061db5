import SyncFanet.Olsr.TupleDeadlines

/-!
# Messages and deadlines

A message keeps the timers on time if those of the tuples that it refreshes fire by the
new times.
-/

set_option autoImplicit false

namespace SyncFanet.Olsr

section

variable {node node' : Node} {now : Int} {config : Config}

variable {hello : Hello} {index : Nat} {msg : Msg} {senderIface : NsAddr}

/-! ## What a message refreshes -/

/-- The HELLO lists an address of the main address as symmetric. -/
def Hello.ListsNeighbor (hello : Hello) (state : State) (mainAddr : NsAddr) : Prop :=
  ∃ group ∈ hello.helloMsgs, (group.nbType = symNeigh ∨ group.nbType = mprNeigh) ∧
    ∃ addr ∈ group.nbIfaceAddrs, state.getMainAddr addr = mainAddr

/-- The HELLO selects the node as MPR. -/
def Hello.Selects (hello : Hello) (config : Config) (state : State) : Prop :=
  ∃ group ∈ hello.helloMsgs, group.nbType = mprNeigh ∧
    ∃ addr ∈ group.nbIfaceAddrs, state.getMainAddr addr = config.raAddr

/-- The originator has a symmetric link when `populate_nb2hopset` looks for one. -/
def Hello.Reaches (hello : Hello) (now : Int) (receiverIface senderIface origAddr : NsAddr)
    (state : State) : Prop :=
  (∃ link ∈ state.linkset, state.getMainAddr link.nbIfaceAddr = origAddr ∧ now ≤ link.symTime) ∨
    (hello.Renews receiverIface ∧ state.getMainAddr senderIface = origAddr)

instance (hello : Hello) (state : State) (mainAddr : NsAddr) :
    Decidable (hello.ListsNeighbor state mainAddr) :=
  inferInstanceAs (Decidable (∃ group ∈ hello.helloMsgs, _))

instance (hello : Hello) (config : Config) (state : State) :
    Decidable (hello.Selects config state) :=
  inferInstanceAs (Decidable (∃ group ∈ hello.helloMsgs, _))

instance (hello : Hello) (receiverIface senderIface origAddr : NsAddr) (state : State) :
    Decidable (hello.Reaches now receiverIface senderIface origAddr state) :=
  inferInstanceAs (Decidable ((∃ link ∈ state.linkset, _) ∨ _))

/-- The timers of the tuples that a HELLO refreshes fire by their new times. -/
structure HelloOnTime (config : Config) (now : Int) (msg : Msg) (hello : Hello)
    (receiverIface senderIface : NsAddr) (node : Node) : Prop where
  link : ∀ link, node.state.findLinkTuple senderIface = some link → hello.Renews receiverIface →
    DueBy node.timerQueue (.link, link.id) (now + emfToSeconds msg.vtime)
  hops : hello.Reaches now receiverIface senderIface msg.origAddr node.state →
    Renewable .nb2hop Nb2hopTuple.id
      (RefreshedHop msg.origAddr (hello.ListsNeighbor node.state)) node.state.nb2hopset
      node.timerQueue (now + emfToSeconds msg.vtime)
  selectors : hello.Selects config node.state →
    Renewable .mprsel MprselTuple.id (fun tuple => tuple.mainAddr = msg.origAddr)
      node.state.mprselset node.timerQueue (now + emfToSeconds msg.vtime)

instance (msg : Msg) (hello : Hello) (receiverIface senderIface : NsAddr) :
    Decidable (HelloOnTime config now msg hello receiverIface senderIface node) :=
  decidable_of_iff
    ((∀ link ∈ node.state.findLinkTuple senderIface, hello.Renews receiverIface →
        DueBy node.timerQueue (.link, link.id) (now + emfToSeconds msg.vtime)) ∧
      (hello.Reaches now receiverIface senderIface msg.origAddr node.state →
        Renewable .nb2hop Nb2hopTuple.id
          (RefreshedHop msg.origAddr (hello.ListsNeighbor node.state)) node.state.nb2hopset
          node.timerQueue (now + emfToSeconds msg.vtime)) ∧
      (hello.Selects config node.state →
        Renewable .mprsel MprselTuple.id (fun tuple => tuple.mainAddr = msg.origAddr)
          node.state.mprselset node.timerQueue (now + emfToSeconds msg.vtime)))
    ⟨fun met => ⟨met.1, met.2.1, met.2.2⟩, fun met => ⟨met.link, met.hops, met.selectors⟩⟩

/-- The links of `link_sensing`: the one of the sender is the old one, expired or renewed. -/
theorem linkSensing_reaches {receiverIface : NsAddr} {changed : Bool} {origAddr : NsAddr}
    (ran : linkSensingWith true config now msg.vtime hello receiverIface senderIface index node =
      .ok (node', changed)) (linked : symLinksOf now origAddr node'.state ≠ []) :
    hello.Reaches now receiverIface senderIface origAddr node.state := by
  have mains : node'.state.getMainAddr = node.state.getMainAddr := by
    obtain ⟨_, _, _, _, written⟩ := linkSensingWith_writes ran
    rw [written]
    rfl
  obtain ⟨link, listed⟩ := List.exists_mem_of_ne_nil _ linked
  obtain ⟨member, here⟩ := List.mem_filter.mp listed
  obtain ⟨main, sym⟩ := of_decide_eq_true here
  rw [mains] at main
  have past : ¬ now ≤ now - Time.second := by
    have second : 0 < Time.second := by decide
    omega
  rcases linkSensingWith_cases ran with
    ⟨known, sensedLink, found, sensed, rfl⟩ | ⟨_, _, created, sensedLink, updated, rfl, sensed, rfl⟩
  · have times := senseLink_sensedTimes config now (emfToSeconds msg.vtime) receiverIface hello
      known true
    rw [sensed] at times
    have addr := (senseLink_same sensed).nbIfaceAddr
    have stored := List.mem_of_find?_eq_some found
    have sender : known.nbIfaceAddr = senderIface := by simpa using List.find?_some found
    cases mem_writeSensed member with
    | inl old => exact .inl ⟨link, old, main, sym⟩
    | inr new =>
        subst new
        rw [addr] at main
        rcases times.sym with same | lost | renewed
        · exact .inl ⟨known, stored, main, same ▸ sym⟩
        · exact absurd (lost ▸ sym) past
        · exact .inr ⟨renewed.1, sender ▸ main⟩
  · have times := senseLink_sensedTimes config now (emfToSeconds msg.vtime) receiverIface hello
      (newLinkTuple node.nextId now (emfToSeconds msg.vtime) receiverIface senderIface index) false
    rw [sensed] at times
    have addr := (senseLink_same sensed).nbIfaceAddr
    cases mem_writeSensed member with
    | inl added =>
        cases List.mem_append.mp added with
        | inl old => exact .inl ⟨link, old, main, sym⟩
        | inr last =>
            have new := List.mem_singleton.mp last
            subst new
            exact absurd sym past
    | inr new =>
        subst new
        rw [addr] at main
        rcases times.sym with same | lost | renewed
        · have fresh : link.symTime = now - Time.second := same
          exact absurd (fresh ▸ sym) past
        · exact absurd (lost ▸ sym) past
        · exact .inr ⟨renewed.1, main⟩

theorem recomputeMprs_quiet (ran : node.recomputeMprs config = .ok node') : Quiet node node' := by
  obtain ⟨_, _, rfl⟩ := recomputeMprs_writes ran
  exact quiet_of_eq rfl rfl (List.Subset.refl _)

theorem recomputeRtable_quiet (ran : node.recomputeRtable now = .ok node') : Quiet node node' := by
  obtain ⟨_, _, rfl⟩ := recomputeRtable_writes ran
  exact quiet_of_eq rfl rfl (List.Subset.refl _)

theorem populateAll_timely {origAddr : NsAddr} {validity : Int} (positive : 0 < validity)
    (timely : Timely node)
    (onTime : symLinksOf now origAddr node.state ≠ [] →
      Renewable .nb2hop Nb2hopTuple.id (RefreshedHop origAddr (hello.ListsNeighbor node.state))
        node.state.nb2hopset node.timerQueue (now + validity)) :
    let next := (populateAll State.getMainAddr config now validity hello origAddr node).1
    NewTimers node next ∧ Timely next := by
  dsimp only
  by_cases linked : symLinksOf now origAddr node.state = []
  · unfold populateAll
    rw [linked]
    exact ⟨NewTimers.refl node, timely⟩
  · have kept : NewTimers node (populateAll State.getMainAddr config now validity hello origAddr node).1 ∧
        Timely (populateAll State.getMainAddr config now validity hello origAddr node).1 ∧
        Renewable .nb2hop Nb2hopTuple.id (RefreshedHop origAddr (hello.ListsNeighbor node.state))
          (populateAll State.getMainAddr config now validity hello origAddr node).1.state.nb2hopset
          (populateAll State.getMainAddr config now validity hello origAddr node).1.timerQueue
          (now + validity) := by
      refine populateAll_keeps (fun acc => NewTimers node acc.1 ∧ Timely acc.1 ∧
        Renewable .nb2hop Nb2hopTuple.id (RefreshedHop origAddr (hello.ListsNeighbor node.state))
          acc.1.state.nb2hopset acc.1.timerQueue (now + validity))
        ⟨NewTimers.refl node, timely, onTime linked⟩ ?_
      intro acc holds group member addr among
      have lists : group.nbType = symNeigh ∨ group.nbType = mprNeigh →
          hello.ListsNeighbor node.state (node.state.getMainAddr addr) :=
        fun type => ⟨group, member, type, addr, among, rfl⟩
      obtain ⟨timers, after⟩ := populateAddr_timely positive lists holds.2.1 holds.2.2
      exact ⟨holds.1.trans timers, after⟩
    exact ⟨kept.1, kept.2.1⟩

theorem processHello_timely {receiverIface : NsAddr}
    (ran : processHello config now msg hello receiverIface senderIface index node = .ok node')
    (timely : Timely node)
    (onTime : HelloOnTime config now msg hello receiverIface senderIface node) :
    ∃ sensed changed,
      linkSensingWith true config now msg.vtime hello receiverIface senderIface index node =
        .ok (sensed, changed) ∧ NewTimers node sensed ∧ Timely sensed ∧
      SameNeighborhood (sensed.mapState (populateNbset hello msg.origAddr)) node' ∧
      NewTimers sensed node' ∧ Timely node' := by
  have positive := emfToSeconds_pos msg.vtime
  obtain ⟨sensed, populated, computed, linked, changed, first, second, third, fourth⟩ :=
    processHello_stages ran
  have neighborhood := ((sameNeighborhood_of_nb2hop (populateNb2hopsetWith_writes second)).trans
    (recomputeMprs_sameNeighborhood third)).trans
      (sameNeighborhood_of_selectors (populateMprselset_writes fourth))
  obtain ⟨sensing, sensedTimely⟩ := linkSensing_timely first timely onTime.link
  obtain ⟨linkset, nbset, queue, added, written⟩ := linkSensingWith_writes first
  have reaches : symLinksOf now msg.origAddr (sensed.mapState
      (populateNbset hello msg.origAddr)).state ≠ [] →
      hello.Reaches now receiverIface senderIface msg.origAddr node.state :=
    fun linked => linkSensing_reaches first linked
  -- the neighbor set has no times
  have willing : Quiet sensed (sensed.mapState (populateNbset hello msg.origAddr)) :=
    quiet_of_eq rfl rfl (List.Subset.refl _)
  generalize same : sensed.mapState (populateNbset hello msg.origAddr) = start at *
  have hopset : start.state.nb2hopset = node.state.nb2hopset := by
    rw [← same, written]
    rfl
  have selectors : start.state.mprselset = node.state.mprselset := by
    rw [← same, written]
    rfl
  have mains : start.state.getMainAddr = node.state.getMainAddr := by
    rw [← same, written]
    rfl
  have startTimers := sensing.trans willing.timers
  have sensedTimers := willing.timers
  have populatedTimely : NewTimers start populated ∧ Timely populated := by
    have result := populateNb2hopsetWith_ok second
    rw [show populated = (populated, changed).1 from rfl, result]
    refine populateAll_timely positive (sensedTimely.quiet willing) ?_
    intro linked hop among refreshed
    rw [hopset] at among
    simp only [RefreshedHop, Hello.ListsNeighbor, mains] at refreshed
    exact startTimers.dueBy (timely.held _ _ (nb2hop_deadline among))
      (onTime.hops (reaches linked) hop among refreshed)
  obtain ⟨_, _, _, _, written⟩ := populateNb2hopsetWith_writes second
  have computing := recomputeMprs_quiet third
  obtain ⟨_, _, computation⟩ := recomputeMprs_writes third
  have computedMains : computed.state.getMainAddr = node.state.getMainAddr := by
    rw [← mains, computation, show populated = (populated, changed).1 from rfl, written]
    rfl
  have computedSelectors : computed.state.mprselset = node.state.mprselset := by
    rw [← selectors, computation, show populated = (populated, changed).1 from rfl, written]
  have populating := sensedTimers.trans (populatedTimely.1.trans computing.timers)
  have final : NewTimers sensed node' ∧ Timely node' ∧
      node'.state.getMainAddr = node.state.getMainAddr ∧
      (hello.Selects config node.state →
        Renewable .mprsel MprselTuple.id (fun tuple => tuple.mainAddr = msg.origAddr)
          node'.state.mprselset node'.timerQueue (now + emfToSeconds msg.vtime)) := by
    refine populateMprselset_keeps (fun current => NewTimers sensed current ∧ Timely current ∧
      current.state.getMainAddr = node.state.getMainAddr ∧
      (hello.Selects config node.state →
        Renewable .mprsel MprselTuple.id (fun tuple => tuple.mainAddr = msg.origAddr)
          current.state.mprselset current.timerQueue (now + emfToSeconds msg.vtime))) ?_ ?_ fourth
    · refine ⟨populating, populatedTimely.2.quiet computing, computedMains, ?_⟩
      intro selects tuple among refreshed
      rw [computedSelectors] at among
      exact (sensing.trans populating).dueBy (timely.held _ _ (mprsel_deadline among))
        (onTime.selectors selects tuple among refreshed)
    · intro current group member type addr among holds
      obtain ⟨timers, currentTimely, currentMains, renewable⟩ := holds
      obtain ⟨selecting, after, keeps, renews⟩ := populateSelector_timely positive currentTimely
        fun own => renewable ⟨group, member, type, addr, among, currentMains ▸ own⟩
      exact ⟨timers.trans selecting, after, keeps.trans currentMains,
        fun selects => renews (renewable selects)⟩
  exact ⟨sensed, linked, first, sensing, sensedTimely, same ▸ neighborhood, final.1, final.2.1⟩

/-! ## TC and MID messages -/

/-- The timers of the tuples that an accepted TC message refreshes fire by their new
times. -/
def TcOnTime (now : Int) (msg : Msg) (tc : Tc) (senderIface : NsAddr) (node : Node) : Prop :=
  (node.state.findSymLinkTuple senderIface now).isSome →
    node.state.findNewerTopologyTuple msg.origAddr tc.ansn = none →
      Renewable .topology TopologyTuple.id (RefreshedTopology msg.origAddr tc)
        node.state.topologyset node.timerQueue (now + emfToSeconds msg.vtime)

instance (msg : Msg) (tc : Tc) (senderIface : NsAddr) :
    Decidable (TcOnTime now msg tc senderIface node) :=
  inferInstanceAs (Decidable (_ → _ → Renewable _ _ _ _ _ _))

theorem processTc_timely {tc : Tc} (ran : processTc now msg tc senderIface index node = .ok node')
    (timely : Timely node) (onTime : TcOnTime now msg tc senderIface node) :
    NewTimers node node' ∧ Timely node' := by
  have positive := emfToSeconds_pos msg.vtime
  unfold processTc at ran
  split at ran
  · exact Except.ok.inj ran ▸ ⟨NewTimers.refl node, timely⟩
  · next link symmetric =>
    split at ran
    · exact Except.ok.inj ran ▸ ⟨NewTimers.refl node, timely⟩
    · next accepted =>
      split at ran
      · cases ran
      · rw [← Except.ok.inj ran]
        have renewable := onTime (symmetric ▸ rfl) accepted
        let start := eraseOlderTopologyTuples msg.origAddr tc.ansn node
        have fewer : start.state.topologyset ⊆ node.state.topologyset := List.filter_subset_self _
        have erased : Quiet node start := quiet_of_eq rfl rfl (deadlines_subset (List.Subset.refl _)
          (List.Subset.refl _) (List.Subset.refl _) (List.Subset.refl _) fewer)
        have current : NoneOlder msg.origAddr tc start.state := by
          intro tuple member last older
          have kept := (List.mem_filter.mp member).2
          simp [last, older] at kept
        have kept : ∀ final, final = tc.nbMainAddrs.foldl
              (advertise now msg.origAddr tc.ansn (emfToSeconds msg.vtime) index) start →
            NewTimers node final ∧ Timely final ∧ NoneOlder msg.origAddr tc final.state ∧
              Renewable .topology TopologyTuple.id (RefreshedTopology msg.origAddr tc)
                final.state.topologyset final.timerQueue (now + emfToSeconds msg.vtime) := by
          rintro _ rfl
          refine foldl_keeps (advertise now msg.origAddr tc.ansn (emfToSeconds msg.vtime) index)
            (fun final => NewTimers node final ∧ Timely final ∧
              NoneOlder msg.origAddr tc final.state ∧
              Renewable .topology TopologyTuple.id (RefreshedTopology msg.origAddr tc)
                final.state.topologyset final.timerQueue (now + emfToSeconds msg.vtime))
            ⟨erased.timers, timely.quiet erased, current, fun tuple among =>
              renewable tuple (fewer among)⟩ ?_
          intro addr middle listed holds
          obtain ⟨timers, after⟩ := advertise_timely positive listed holds.2.1 holds.2.2.1
            holds.2.2.2
          exact ⟨holds.1.trans timers, after⟩
        have final := kept _ rfl
        exact ⟨final.1, final.2.1⟩

theorem associate_quiet (origAddr : NsAddr) (validity : Int) (index : Nat) (addr : NsAddr) :
    Quiet node (associate now origAddr validity index node addr) := by
  unfold associate
  dsimp only
  split
  · exact quiet_of_eq rfl rfl (List.Subset.refl _)
  · refine ⟨?_, List.Subset.refl _⟩
    have queue : (node.addIfaceassocTuple now addr origAddr validity index).timerQueue =
        insertTimer (now + delay now (now + validity)) (.ifaceAssoc node.nextId) node.timerQueue :=
      rfl
    refine newTimers_insert queue (Nat.le_succ _) ?_
    intro ref same
    cases same
    exact ⟨le_refl _, Nat.lt_succ_self _⟩

theorem processMid_quiet (now : Int) (msg : Msg) (mid : Mid) (senderIface : NsAddr) (index : Nat) :
    Quiet node (processMid now msg mid senderIface index node) := by
  unfold processMid
  split
  · exact Quiet.refl node
  · refine foldl_keeps (associate now msg.origAddr (emfToSeconds msg.vtime) index) (Quiet node)
      (Quiet.refl node) ?_
    intro addr current _ quiet
    exact quiet.trans (associate_quiet _ _ _ _)

/-! ## Reception -/

/-- The timers of the tuples that a message refreshes fire by their new times. -/
def MsgOnTime (config : Config) (now : Int) (iface : Iface) (srcAddr : NsAddr) (msg : Msg)
    (node : Node) : Prop :=
  match msg.body with
  | .hello hello => HelloOnTime config now msg hello iface.addr srcAddr node
  | .tc tc => TcOnTime now msg tc srcAddr node
  | .mid _ | .other _ => True

instance (iface : Iface) (srcAddr : NsAddr) (msg : Msg) :
    Decidable (MsgOnTime config now iface srcAddr msg node) :=
  match body : msg.body with
  | .hello hello =>
      decidable_of_iff (HelloOnTime config now msg hello iface.addr srcAddr node)
        (by simp [MsgOnTime, body])
  | .tc tc => decidable_of_iff (TcOnTime now msg tc srcAddr node) (by simp [MsgOnTime, body])
  | .mid _ | .other _ => .isTrue (by simp [MsgOnTime, body])

end

end SyncFanet.Olsr
