import SyncFanet.Olsr.LinkInvariants

/-!
# Neighbor set and link set

The neighbor set mirrors the link set through `get_main_addr`, as long as no
association changes the main address of a stored link and no link tuple is removed
while another one of the same neighbor remains.
-/

set_option autoImplicit false

namespace SyncFanet.Olsr

variable {state state' : State} {link link' : LinkTuple} {node : Node} {config : Config}
  {nextId : TupleId} {now : Int}

variable {mainAddr : NsAddr} {status : NbStatus}

/-! ## Conditions on associations -/

/-- Whether a MID message gives the interface of a stored link another main address. -/
def midRemaps (now : Int) (srcAddr origAddr : NsAddr) (mid : Mid) (state : State) : Bool :=
  (state.findSymLinkTuple srcAddr now).isSome &&
    state.linkset.any fun link =>
      decide (link.nbIfaceAddr ∈ mid.ifaceAddrs ∧ link.nbIfaceAddr ≠ origAddr) &&
        (state.findIfaceassocTuple link.nbIfaceAddr).isNone

def withoutAssoc (state : State) (id : TupleId) : State :=
  { state with ifaceassocset := state.ifaceassocset.eraseP fun other => other.id = id }

/-- Whether the end of an association gives the interface of a stored link another
main address. -/
def expiryRemaps (now : Int) (id : TupleId) (state : State) : Bool :=
  (state.ifaceassocset.any fun tuple => decide (tuple.id = id ∧ tuple.time < now)) &&
    state.linkset.any fun link => decide
      ((withoutAssoc state id).getMainAddr link.nbIfaceAddr ≠ state.getMainAddr link.nbIfaceAddr)

/-- No association changes the main address of a stored link. -/
def stableAssocs : Guard where
  msg now _ srcAddr msg state :=
    match msg.body with
    | .mid mid => !midRemaps now srcAddr msg.origAddr mid state
    | _ => true
  timer now timer state :=
    match timer with
    | .ifaceAssoc id => !expiryRemaps now id state
    | _ => true

structure Guard.Implies (guard weaker : Guard) : Prop where
  msg : ∀ now iface srcAddr msg state, guard.msg now iface srcAddr msg state = true →
    weaker.msg now iface srcAddr msg state = true
  timer : ∀ now timer state, guard.timer now timer state = true →
    weaker.timer now timer state = true

theorem Guard.Implies.refl (guard : Guard) : guard.Implies guard :=
  ⟨fun _ _ _ _ _ met => met, fun _ _ _ met => met⟩

/-! ## Resolution of addresses -/

/-- `get_main_addr` reads no more of an association than its two addresses. -/
theorem getMainAddr_congr
    (same : state'.ifaceassocset.map (fun tuple => (tuple.ifaceAddr, tuple.mainAddr)) =
      state.ifaceassocset.map fun tuple => (tuple.ifaceAddr, tuple.mainAddr)) :
    state'.getMainAddr = state.getMainAddr := by
  have resolve : ∀ (state : State) (addr : NsAddr), state.getMainAddr addr =
      match (state.ifaceassocset.map fun tuple => (tuple.ifaceAddr, tuple.mainAddr)).find?
        (fun pair => pair.1 = addr) with
      | some pair => pair.2
      | none => addr := by
    intro state addr
    rw [List.find?_map]
    unfold State.getMainAddr State.findIfaceassocTuple
    cases found : state.ifaceassocset.find? fun tuple => tuple.ifaceAddr = addr with
    | none => simp only [Function.comp_def, found, Option.map_none]
    | some tuple => simp only [Function.comp_def, found, Option.map_some]
  funext addr
  rw [resolve, resolve, same]

theorem getMainAddr_associate (now : Int) (origAddr : NsAddr) (validity : Int) (index : Nat)
    (node : Node) (ifaceAddr addr : NsAddr)
    (kept : addr = ifaceAddr → addr ≠ origAddr →
      (node.state.findIfaceassocTuple addr).isSome) :
    (associate now origAddr validity index node ifaceAddr).state.getMainAddr addr =
      node.state.getMainAddr addr := by
  unfold associate
  dsimp only
  split
  · refine congrFun (getMainAddr_congr ?_) addr
    simp only [Node.mapState, List.map_map]
    refine List.map_congr_left ?_
    intro tuple _
    simp only [Function.comp_apply]
    split <;> rfl
  · have appended : (node.addIfaceassocTuple now ifaceAddr origAddr validity index).state.ifaceassocset =
        node.state.ifaceassocset ++ [{
          id := node.nextId
          ifaceAddr := ifaceAddr
          mainAddr := origAddr
          time := now + validity
          localIfaceIndex := index }] := rfl
    unfold State.getMainAddr State.findIfaceassocTuple
    rw [appended, List.find?_append]
    cases found : node.state.ifaceassocset.find? fun tuple => tuple.ifaceAddr = addr with
    | some tuple => rfl
    | none =>
        by_cases here : ifaceAddr = addr
        · have main : addr = origAddr := by
            by_contra different
            simp [State.findIfaceassocTuple, found] at kept
            exact different (kept here.symm)
          simp [here, main]
        · simp [here]

theorem findIfaceassocTuple_associate (now : Int) (origAddr : NsAddr) (validity : Int)
    (index : Nat) (node : Node) (ifaceAddr addr : NsAddr)
    (known : (node.state.findIfaceassocTuple addr).isSome) :
    ((associate now origAddr validity index node ifaceAddr).state.findIfaceassocTuple
      addr).isSome := by
  simp only [State.findIfaceassocTuple, List.find?_isSome, decide_eq_true_eq] at known ⊢
  obtain ⟨tuple, member, same⟩ := known
  unfold associate
  dsimp only
  split
  · refine ⟨_, List.mem_map_of_mem member, ?_⟩
    split <;> exact same
  · exact ⟨tuple, List.mem_append_left _ member, same⟩

theorem processMid_stable {msg : Msg} {mid : Mid} {srcAddr : NsAddr} (index : Nat)
    (stable : midRemaps now srcAddr msg.origAddr mid node.state = false) :
    ∀ link ∈ node.state.linkset,
      (processMid now msg mid srcAddr index node).state.getMainAddr link.nbIfaceAddr =
        node.state.getMainAddr link.nbIfaceAddr := by
  intro link member
  unfold processMid
  cases sym : node.state.findSymLinkTuple srcAddr now with
  | none => rfl
  | some _ =>
      have known : link.nbIfaceAddr ∈ mid.ifaceAddrs → link.nbIfaceAddr ≠ msg.origAddr →
          (node.state.findIfaceassocTuple link.nbIfaceAddr).isSome := by
        intro listed different
        simp only [midRemaps, sym, Option.isSome_some, Bool.true_and, List.any_eq_false] at stable
        have unmapped := stable link member
        simp only [listed, ne_eq, different, not_false_eq_true, and_self, decide_true,
          Bool.true_and, Option.isNone_iff_eq_none] at unmapped
        exact Option.isSome_iff_ne_none.mpr unmapped
      have loop : ((listed : link.nbIfaceAddr ∈ mid.ifaceAddrs) → link.nbIfaceAddr ≠ msg.origAddr →
          ((mid.ifaceAddrs.foldl (associate now msg.origAddr (emfToSeconds msg.vtime) index)
            node).state.findIfaceassocTuple link.nbIfaceAddr).isSome) ∧
          (mid.ifaceAddrs.foldl (associate now msg.origAddr (emfToSeconds msg.vtime) index)
            node).state.getMainAddr link.nbIfaceAddr =
            node.state.getMainAddr link.nbIfaceAddr := by
        refine foldl_keeps (associate now msg.origAddr (emfToSeconds msg.vtime) index)
          (fun current => (link.nbIfaceAddr ∈ mid.ifaceAddrs → link.nbIfaceAddr ≠ msg.origAddr →
            (current.state.findIfaceassocTuple link.nbIfaceAddr).isSome) ∧
            current.state.getMainAddr link.nbIfaceAddr =
              node.state.getMainAddr link.nbIfaceAddr) ⟨known, rfl⟩ ?_
        rintro ifaceAddr current listed ⟨present, same⟩
        constructor
        · intro among different
          exact findIfaceassocTuple_associate now msg.origAddr _ index current ifaceAddr
            link.nbIfaceAddr (present among different)
        · rw [getMainAddr_associate now msg.origAddr _ index current ifaceAddr link.nbIfaceAddr
            fun here different => present (here ▸ listed) different]
          exact same
      exact loop.2

theorem rmIfaceassocTuple_stable {id : TupleId} {tuple : IfaceAssocTuple}
    (member : tuple ∈ node.state.ifaceassocset) (same : tuple.id = id)
    (expired : tuple.time < now) (stable : expiryRemaps now id node.state = false) :
    ∀ link ∈ node.state.linkset,
      (node.rmIfaceassocTuple tuple).state.getMainAddr link.nbIfaceAddr =
        node.state.getMainAddr link.nbIfaceAddr := by
  intro link among
  have ended : (node.state.ifaceassocset.any fun tuple =>
      decide (tuple.id = id ∧ tuple.time < now)) = true := by
    simpa using ⟨tuple, member, same, expired⟩
  simp only [expiryRemaps, ended, Bool.true_and, List.any_eq_false, decide_eq_true_eq,
    not_not] at stable
  have kept := stable link among
  rw [← same] at kept
  exact kept

/-! ## Neighbors without links -/

def Backed (state : State) : Prop :=
  ∀ mainAddr ∈ state.nbMains, ∃ link ∈ state.linkset,
    state.getMainAddr link.nbIfaceAddr = mainAddr

def Covered (state : State) : Prop :=
  ∀ link ∈ state.linkset, state.getMainAddr link.nbIfaceAddr ∈ state.nbMains

structure SameLinks (state state' : State) : Prop where
  keys : state'.linkset.map linkKey = state.linkset.map linkKey
  mains : ∀ link ∈ state.linkset,
    state'.getMainAddr link.nbIfaceAddr = state.getMainAddr link.nbIfaceAddr

theorem SameLinks.old (same : SameLinks state state') (member : link' ∈ state'.linkset) :
    ∃ link ∈ state.linkset, linkKey link' = linkKey link := by
  have among : linkKey link' ∈ state.linkset.map linkKey :=
    same.keys ▸ List.mem_map_of_mem member
  obtain ⟨link, old, equal⟩ := List.mem_map.mp among
  exact ⟨link, old, equal.symm⟩

theorem SameLinks.new (same : SameLinks state state') (member : link ∈ state.linkset) :
    ∃ link' ∈ state'.linkset, linkKey link' = linkKey link := by
  have among : linkKey link ∈ state'.linkset.map linkKey :=
    same.keys ▸ List.mem_map_of_mem member
  exact List.mem_map.mp among

theorem nbIfaceAddr_of_linkKey (same : linkKey link' = linkKey link) :
    link'.nbIfaceAddr = link.nbIfaceAddr :=
  congrArg (fun key => key.2.2) same

theorem Backed.transfer (backed : Backed state) (same : SameLinks state state')
    (mains : ∀ mainAddr ∈ state'.nbMains, mainAddr ∈ state.nbMains ∨
      ∃ link ∈ state'.linkset, state'.getMainAddr link.nbIfaceAddr = mainAddr) :
    Backed state' := by
  intro mainAddr member
  rcases mains mainAddr member with old | found
  · obtain ⟨link, among, resolves⟩ := backed mainAddr old
    obtain ⟨link', among', equal⟩ := same.new among
    refine ⟨link', among', ?_⟩
    rw [nbIfaceAddr_of_linkKey equal, same.mains link among]
    exact resolves
  · exact found

theorem Covered.transfer (covered : Covered state) (same : SameLinks state state')
    (mains : state.nbMains ⊆ state'.nbMains) :
    Covered state' := by
  intro link' member
  obtain ⟨link, among, equal⟩ := same.old member
  rw [nbIfaceAddr_of_linkKey equal, same.mains link among]
  exact mains (covered link among)

theorem nbMains_of_written (written : NbWritten mainAddr status state state') :
    ∀ main ∈ state'.nbMains, main = mainAddr ∨ main ∈ state.nbMains := by
  intro main member
  obtain ⟨nb, among, rfl⟩ := List.mem_map.mp member
  rcases written.written nb among with ⟨here, _⟩ | ⟨old, _⟩
  · exact .inl here
  · exact .inr (List.mem_map_of_mem old)

theorem getMainAddr_of_written (written : NbWritten mainAddr status state state') :
    state'.getMainAddr = state.getMainAddr :=
  getMainAddr_congr (by rw [written.ifaceassocset])

theorem Backed.write (backed : Backed state) (member : link ∈ state.linkset)
    (written : NbWritten (state.getMainAddr link.nbIfaceAddr) status state state') :
    Backed state' := by
  have resolves := getMainAddr_of_written written
  refine backed.transfer ⟨by rw [written.linkset], fun _ _ => by rw [resolves]⟩ ?_
  intro main among
  rcases nbMains_of_written written main among with rfl | old
  · exact .inr ⟨link, written.linkset ▸ member, by rw [resolves]⟩
  · exact .inl old

theorem updateLinkTuple_sameLinks (ids : (state.linkset.map LinkTuple.id).Nodup)
    (member : link ∈ state.linkset) (same : SameLink link link') :
    SameLinks state (state.updateLinkTuple link') :=
  ⟨linkKeys_updateLinkTuple ids member same, fun _ _ => rfl⟩

theorem mem_updated (ids : (state.linkset.map LinkTuple.id).Nodup) (member : link ∈ state.linkset)
    (same : SameLink link link') :
    link' ∈ (state.updateLinkTuple link').linkset :=
  (mem_updateLinkTuple ids member same).mpr (.inl rfl)

theorem mem_inserted (state : State) (created : LinkTuple) :
    created ∈ (state.insertLinkTuple created).linkset :=
  List.mem_append_right _ (List.mem_singleton_self _)

theorem Backed.insertLink (backed : Backed state) (now : Int) (created : LinkTuple)
    (willingness : Nat) (unique : state.nbMains.Nodup) :
    Backed (addLinkTuple now created willingness state) := by
  have inserted : Backed (state.insertLinkTuple created) := by
    intro mainAddr member
    obtain ⟨link, among, resolves⟩ := backed mainAddr member
    exact ⟨link, List.mem_append_left _ among, resolves⟩
  exact inserted.write (mem_inserted state created)
    (addLinkTuple_written now created willingness unique)

theorem mem_eraseLinkTuple (ids : (state.linkset.map LinkTuple.id).Nodup) {other : LinkTuple} :
    other ∈ (state.eraseLinkTuple link).linkset ↔
      other ∈ state.linkset ∧ other.id ≠ link.id := by
  simp [State.eraseLinkTuple, eraseP_eq_filter ids]

theorem mem_nbMains_eraseNbTuple (unique : state.nbMains.Nodup) {main : NsAddr} :
    main ∈ (state.eraseNbTuple mainAddr).nbMains ↔ main ∈ state.nbMains ∧ main ≠ mainAddr := by
  simp only [State.nbMains, State.eraseNbTuple, eraseP_eq_filter unique, List.mem_map,
    List.mem_filter, decide_eq_true_eq]
  constructor
  · rintro ⟨nb, ⟨member, different⟩, rfl⟩
    exact ⟨⟨nb, member, rfl⟩, different⟩
  · rintro ⟨⟨nb, member, rfl⟩, different⟩
    exact ⟨nb, ⟨member, different⟩, rfl⟩

theorem Backed.rmLink (linked : WellLinked config state nextId) (backed : Backed state)
    (stored : link ∈ state.linkset) : Backed (rmLinkTuple link state) := by
  intro mainAddr member
  have erased : mainAddr ∈ (state.eraseNbTuple (state.getMainAddr link.nbIfaceAddr)).nbMains :=
    member
  obtain ⟨old, different⟩ := (mem_nbMains_eraseNbTuple linked.mains).mp erased
  obtain ⟨other, among, resolves⟩ := backed mainAddr old
  refine ⟨other, (mem_eraseLinkTuple linked.ids).mpr ⟨among, ?_⟩, resolves⟩
  intro same
  rw [List.inj_on_of_nodup_map linked.ids among stored same] at resolves
  exact different resolves.symm

/-! ## Links without neighbors -/

theorem Covered.write (covered : Covered state) (config : Config) (now : Int) (willingness : Nat)
    (member : link ∈ state.linkset) (unique : state.nbMains.Nodup) :
    Covered (updatedLinkTuple config now link willingness state) := by
  have written := updatedLinkTuple_written config now link willingness unique
  have kept := updatedLinkTuple_keeps config now willingness (covered link member)
  refine covered.transfer ⟨by rw [written.linkset], fun _ _ => ?_⟩ (kept ▸ fun _ old => old)
  rw [getMainAddr_of_written written]

theorem Covered.insertLink (covered : Covered state) (now : Int) (created : LinkTuple)
    (willingness : Nat) (unique : state.nbMains.Nodup) :
    Covered (addLinkTuple now created willingness state) := by
  have written := addLinkTuple_written now created willingness unique
  intro link member
  rw [getMainAddr_of_written written]
  by_cases here : state.getMainAddr link.nbIfaceAddr = state.getMainAddr created.nbIfaceAddr
  · exact here ▸ written.present
  · rw [written.linkset] at member
    have old : link ∈ state.linkset := by
      rcases List.mem_append.mp member with old | last
      · exact old
      · have equal : link = created := by simpa using last
        exact absurd (by rw [equal]) here
    obtain ⟨nb, among, main⟩ := List.mem_map.mp (covered link old)
    exact List.mem_map.mpr ⟨nb, addNbTuple_keeps unique _ among (main ▸ here), main⟩

theorem Covered.rmLink (linked : WellLinked config state nextId) (covered : Covered state)
    (alone : ∀ other ∈ state.linkset, other.id ≠ link.id →
      state.getMainAddr other.nbIfaceAddr ≠ state.getMainAddr link.nbIfaceAddr) :
    Covered (rmLinkTuple link state) := by
  intro other member
  obtain ⟨among, different⟩ := (mem_eraseLinkTuple linked.ids).mp member
  exact (mem_nbMains_eraseNbTuple linked.mains).mpr
    ⟨covered other among, alone other among different⟩

/-! ## The two rules -/

theorem sameLinks_of_neighborhood {node' : Node} (same : SameNeighborhood node node') :
    SameLinks node.state node'.state :=
  ⟨by rw [same.linkset], fun _ _ => by rw [same.getMainAddr]⟩

theorem nbMains_of_neighborhood {node' : Node} (same : SameNeighborhood node node') :
    node'.state.nbMains = node.state.nbMains := by
  rw [State.nbMains, same.nbset]
  rfl

theorem processMid_sameLinks {msg : Msg} {mid : Mid} {srcAddr : NsAddr} {iface : Iface}
    (body : msg.body = .mid mid) (met : stableAssocs.msg now iface srcAddr msg node.state = true) :
    SameLinks node.state (processMid now msg mid srcAddr iface.index node).state ∧
      (processMid now msg mid srcAddr iface.index node).state.nbset = node.state.nbset := by
  simp only [stableAssocs, body, Bool.not_eq_true'] at met
  have mains := processMid_stable iface.index met
  obtain ⟨_, _, _, written⟩ := processMid_writes now msg mid srcAddr iface.index node
  rw [written] at mains ⊢
  exact ⟨⟨rfl, mains⟩, rfl⟩

theorem rmIfaceassocTuple_sameLinks {id : TupleId} {tuple : IfaceAssocTuple}
    (member : tuple ∈ node.state.ifaceassocset) (same : tuple.id = id)
    (expired : tuple.time < now) (met : stableAssocs.timer now (.ifaceAssoc id) node.state = true) :
    SameLinks node.state (node.rmIfaceassocTuple tuple).state := by
  simp only [stableAssocs, Bool.not_eq_true'] at met
  exact ⟨rfl, rmIfaceassocTuple_stable member same expired met⟩

/-- What ties the links to the neighbors, as every function that changes them keeps it. -/
structure KeepsTie (guard : Guard) (config : Config) (now : Int) (tie : State → Prop) : Prop where
  transfer : ∀ {state state' : State}, tie state → SameLinks state state' →
    state'.nbMains = state.nbMains → tie state'
  write : ∀ {state : State} {link : LinkTuple}, tie state → link ∈ state.linkset →
    state.nbMains.Nodup → ∀ willingness, tie (updatedLinkTuple config now link willingness state)
  insertLink : ∀ {state : State}, tie state → state.nbMains.Nodup → ∀ created willingness,
    tie (addLinkTuple now created willingness state)
  rmLink : ∀ {state : State} {nextId : TupleId} {link : LinkTuple} {firstTime : Bool},
    WellLinked config state nextId → tie state → link ∈ state.linkset → link.time < now →
    guard.timer now (.link link.id firstTime) state = true → tie (rmLinkTuple link state)

namespace KeepsTie

variable {guard : Guard} {tie : State → Prop}

theorem sensed (keeps : KeepsTie guard config now tie) (linked : WellLinked config state nextId)
    (holds : tie state) (willingness : Nat) (member : link ∈ state.linkset)
    (same : SameLink link link') (updated : Bool) :
    tie (writeSensed config now willingness link' updated state) := by
  have rewritten : tie (state.updateLinkTuple link') :=
    keeps.transfer holds (updateLinkTuple_sameLinks linked.ids member same) rfl
  cases updated with
  | false => exact rewritten
  | true =>
      exact keeps.write rewritten (mem_updated linked.ids member same)
        (linked.rewriteLink member same).mains willingness

theorem rules (keeps : KeepsTie guard config now tie) (stable : guard.Implies stableAssocs) :
    NeighborhoodRules guard config now
      (fun node => WellLinked config node.state node.nextId ∧ tie node.state) where
  frame node node' same holds :=
    ⟨(wellLinked_rules guard config now).frame node node' same holds.1,
      keeps.transfer holds.2 (sameLinks_of_neighborhood same) (nbMains_of_neighborhood same)⟩
  hello iface srcAddr msg hello node node' changed known body met ran holds := by
    obtain ⟨linked, tied⟩ := holds
    refine ⟨(wellLinked_rules guard config now).hello iface srcAddr msg hello node node' changed
      known body met ran linked, ?_⟩
    have sensed : tie node'.state := by
      rcases linkSensingWith_cases ran with
        ⟨old, link, found, sensed, rfl⟩ | ⟨absent, _, created, link, updated, rfl, sensed, rfl⟩
      · exact keeps.sensed linked tied hello.willingness (List.mem_of_find?_eq_some found)
          (senseLink_same sensed) changed
      · have added := (linked.insertLink _ rfl ⟨iface, known, rfl⟩ absent).writeNb
          (addLinkTuple_written now (newLinkTuple node.nextId now (emfToSeconds msg.vtime)
            iface.addr srcAddr iface.index) hello.willingness linked.mains)
        exact keeps.sensed added (keeps.insertLink tied linked.mains _ hello.willingness)
          hello.willingness (mem_inserted node.state _) (senseLink_same sensed) updated
    exact keeps.transfer sensed ⟨rfl, fun _ _ => rfl⟩
      (nbMains_populateNbset hello msg.origAddr node'.state)
  mid iface srcAddr msg mid node body met holds := by
    refine ⟨(wellLinked_rules guard config now).mid iface srcAddr msg mid node body met holds.1, ?_⟩
    obtain ⟨same, nbset⟩ :=
      processMid_sameLinks body (stable.msg now iface srcAddr msg node.state met)
    refine keeps.transfer holds.2 same ?_
    rw [State.nbMains, State.nbMains, nbset]
  loss node link member lost holds :=
    ⟨(wellLinked_rules guard config now).loss node link member lost holds.1,
      keeps.write holds.2 member holds.1.mains willDefault⟩
  macLoss node link member useMac holds :=
    ⟨(wellLinked_rules guard config now).macLoss node link member useMac holds.1,
      keeps.sensed holds.1 holds.2 willDefault member (lostLinkTuple_same config now link) true⟩
  rmLink id firstTime node link member same expired met holds := by
    subst same
    exact ⟨(wellLinked_rules guard config now).rmLink _ firstTime node link member rfl expired met
      holds.1, keeps.rmLink holds.1 holds.2 member expired met⟩
  rmAssoc id node tuple member same expired met holds := by
    refine ⟨(wellLinked_rules guard config now).rmAssoc id node tuple member same expired met
      holds.1, ?_⟩
    have links := rmIfaceassocTuple_sameLinks member same expired
      (stable.timer now (.ifaceAssoc id) node.state met)
    exact keeps.transfer holds.2 links rfl

end KeepsTie

theorem backed_rules {guard : Guard} (implies : guard.Implies stableAssocs) (config : Config)
    (now : Int) :
    NeighborhoodRules guard config now
      (fun node => WellLinked config node.state node.nextId ∧ Backed node.state) := by
  refine KeepsTie.rules ⟨?_, ?_, ?_, ?_⟩ implies
  · exact fun backed same mains => backed.transfer same fun _ member => .inl (mains ▸ member)
  · exact fun backed member unique willingness =>
      backed.write member (updatedLinkTuple_written config now _ willingness unique)
  · exact fun backed unique created willingness =>
      backed.insertLink now created willingness unique
  · exact fun linked backed member _ _ => backed.rmLink linked member

/-- Whether a link tuple that is removed leaves another one of its neighbor behind. -/
def orphansLink (now : Int) (id : TupleId) (state : State) : Bool :=
  state.linkset.any fun link => decide (link.id = id ∧ link.time < now) &&
    state.linkset.any fun other => decide (other.id ≠ id ∧
      state.getMainAddr other.nbIfaceAddr = state.getMainAddr link.nbIfaceAddr)

/-- No link tuple that is removed leaves another one of its neighbor behind. -/
def lastLinks : Guard where
  msg _ _ _ _ _ := true
  timer now timer state :=
    match timer with
    | .link id _ => !orphansLink now id state
    | _ => true

theorem covered_rules {guard : Guard} (stable : guard.Implies stableAssocs)
    (last : guard.Implies lastLinks) (config : Config) (now : Int) :
    NeighborhoodRules guard config now
      (fun node => WellLinked config node.state node.nextId ∧ Covered node.state) := by
  refine KeepsTie.rules ⟨?_, ?_, ?_, ?_⟩ stable
  · exact fun covered same mains => covered.transfer same (mains ▸ List.Subset.refl _)
  · exact fun covered member unique willingness =>
      covered.write config now willingness member unique
  · exact fun covered unique created willingness =>
      covered.insertLink now created willingness unique
  · intro state nextId link firstTime linked covered member expired met
    refine covered.rmLink linked fun other among different shared => ?_
    have alone := last.timer now (.link link.id firstTime) state met
    simp only [lastLinks, orphansLink, Bool.not_eq_true', List.any_eq_false, Bool.and_eq_true,
      decide_eq_true_eq, List.any_eq_true, not_and, not_exists] at alone
    exact alone link member ⟨rfl, expired⟩ other among different shared

end SyncFanet.Olsr
