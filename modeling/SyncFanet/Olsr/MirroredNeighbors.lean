import SyncFanet.Olsr.NeighborSet

/-!
# The neighbor tuple of a HELLO's sender

`updated_link_tuple` computes the status of a neighbor from one of its link tuples.
It is the status of the neighbor exactly when no other link tuple is symmetric, or
this one is.
-/

set_option autoImplicit false

namespace SyncFanet.Olsr

theorem linkStatus_sym_iff {config : Config} {now : Int} {link : LinkTuple} :
    linkStatus config now link = .sym ↔
      now ≤ link.symTime ∧ ¬ (config.useMac = true ∧ now ≤ link.lostTime) := by
  unfold linkStatus
  split
  · next lost => exact ⟨nofun, fun both => absurd lost both.2⟩
  · next kept =>
    split
    · next sym => exact ⟨fun _ => ⟨sym, kept⟩, fun _ => rfl⟩
    · next expired => exact ⟨nofun, fun both => absurd both.1 expired⟩

/-! ## The times of a sensed link -/

structure SameTimes (link link' : LinkTuple) : Prop where
  symTime : link'.symTime = link.symTime
  lostTime : link'.lostTime = link.lostTime

theorem SameTimes.linkStatus {link link' : LinkTuple} (same : SameTimes link link')
    (config : Config) (now : Int) :
    linkStatus config now link' = linkStatus config now link := by
  simp [Olsr.linkStatus, same.symTime, same.lostTime]

section

variable {config : Config} {now validity : Int} {receiverIface : NsAddr}

theorem senseGroup_congr {acc acc' : LinkTuple × Bool} (same : SameTimes acc.1 acc'.1)
    (group : HelloMsg) :
    SameTimes (senseGroup config now validity receiverIface acc group).1
      (senseGroup config now validity receiverIface acc' group).1 := by
  unfold senseGroup
  repeat' split
  all_goals first | exact same | exact ⟨same.symTime, same.lostTime⟩ | exact ⟨rfl, rfl⟩ | exact ⟨rfl, same.lostTime⟩

variable (config now validity receiverIface) in
theorem senseLink_congr {link link' : LinkTuple} (same : SameTimes link link')
    (helloMsgs : List HelloMsg) (updated : Bool) :
    SameTimes (senseLink config now validity receiverIface helloMsgs link updated).1
      (senseLink config now validity receiverIface helloMsgs link' updated).1 := by
  have loop : ∀ (groups : List HelloMsg) (acc acc' : LinkTuple × Bool), SameTimes acc.1 acc'.1 →
      SameTimes (groups.foldl (senseGroup config now validity receiverIface) acc).1
        (groups.foldl (senseGroup config now validity receiverIface) acc').1 := by
    intro groups
    induction groups with
    | nil => intro acc acc' same; exact same
    | cons group groups ih =>
        intro acc acc' same
        exact ih _ _ (senseGroup_congr same group)
  have groups := loop helloMsgs ({ link with asymTime := now + validity }, updated)
    ({ link' with asymTime := now + validity }, updated) ⟨same.symTime, same.lostTime⟩
  exact ⟨groups.symTime, groups.lostTime⟩

theorem senseLink_quiet {helloMsgs : List HelloMsg} {link link' : LinkTuple}
    (quiet : senseLink config now validity receiverIface helloMsgs link false = (link', false)) :
    link'.symTime = link.symTime := by
  have loop : (helloMsgs.foldl (senseGroup config now validity receiverIface)
      ({ link with asymTime := now + validity }, false)).2 = false →
      (helloMsgs.foldl (senseGroup config now validity receiverIface)
        ({ link with asymTime := now + validity }, false)).1.symTime = link.symTime := by
    refine foldl_keeps (senseGroup config now validity receiverIface)
      (fun acc => acc.2 = false → acc.1.symTime = link.symTime) (fun _ => rfl) ?_
    intro group acc _ kept
    unfold senseGroup
    repeat' split
    all_goals first | exact kept | exact fun down => by cases down
  simp only [senseLink, Prod.mk.injEq] at quiet
  rw [← quiet.1]
  exact loop quiet.2

end

variable {state : State} {hello : Hello} {iface : Iface} {link : LinkTuple} {srcAddr : NsAddr}
  {vtime : Nat}

/-! ## The condition -/

/-- The link tuple of the sending interface after the HELLO. -/
def sensedLink (config : Config) (now : Int) (iface : Iface) (srcAddr : NsAddr) (vtime : Nat)
    (hello : Hello) (state : State) : LinkTuple :=
  match state.findLinkTuple srcAddr with
  | some known =>
      (senseLink config now (emfToSeconds vtime) iface.addr hello.helloMsgs known true).1
  | none =>
      (senseLink config now (emfToSeconds vtime) iface.addr hello.helloMsgs
        (newLinkTuple 0 now (emfToSeconds vtime) iface.addr srcAddr iface.index) false).1

/-- The HELLO leaves its own link symmetric, or finds no other link of the sender
symmetric. -/
def speaksForSender (config : Config) (now : Int) (iface : Iface) (srcAddr : NsAddr)
    (vtime : Nat) (hello : Hello) (state : State) : Bool :=
  decide (linkStatus config now (sensedLink config now iface srcAddr vtime hello state) = .sym) ||
    state.linkset.all fun other => !decide (other.nbIfaceAddr ≠ srcAddr ∧
      state.getMainAddr other.nbIfaceAddr = state.getMainAddr srcAddr ∧
      linkStatus config now other = .sym)

/-- No association remaps a link, no removed link leaves another of its neighbor
behind, and every HELLO speaks for its sender. -/
def mirrorGuard (config : Config) : Guard where
  msg now iface srcAddr msg state :=
    stableAssocs.msg now iface srcAddr msg state &&
      match msg.body with
      | .hello hello => speaksForSender config now iface srcAddr msg.vtime hello state
      | _ => true
  timer now timer state := stableAssocs.timer now timer state && lastLinks.timer now timer state

theorem mirrorGuard_stable (config : Config) : (mirrorGuard config).Implies stableAssocs := by
  constructor
  · intro now iface srcAddr msg state met
    simp only [mirrorGuard, Bool.and_eq_true] at met
    exact met.1
  · intro now timer state met
    simp only [mirrorGuard, Bool.and_eq_true] at met
    exact met.1

theorem mirrorGuard_last (config : Config) : (mirrorGuard config).Implies lastLinks := by
  constructor
  · intro _ _ _ _ _ _
    rfl
  · intro now timer state met
    simp only [mirrorGuard, Bool.and_eq_true] at met
    exact met.2

/-! ## The status after a HELLO -/

/-- The neighbor tuple of the main address has status SYM exactly when one of its
link tuples is symmetric and not lost. -/
def Settled (config : Config) (now : Int) (mainAddr : NsAddr) (state : State) : Prop :=
  ∃ nb, state.findNbTuple mainAddr = some nb ∧
    (nb.status = .sym ↔ ∃ link ∈ state.linkset,
      state.getMainAddr link.nbIfaceAddr = mainAddr ∧ now ≤ link.symTime ∧
        ¬ (config.useMac = true ∧ now ≤ link.lostTime))

/-- The status of the neighbor is the status of its link, which no other link of the
neighbor contradicts. -/
theorem settled_of_link {config : Config} {now : Int} {mainAddr : NsAddr}
    (unique : state.nbMains.Nodup) (present : mainAddr ∈ state.nbMains)
    (status : ∀ nb ∈ state.nbset, nb.nbMainAddr = mainAddr →
      nb.status = linkStatus config now link) (member : link ∈ state.linkset)
    (resolves : state.getMainAddr link.nbIfaceAddr = mainAddr)
    (others : ∀ other ∈ state.linkset, state.getMainAddr other.nbIfaceAddr = mainAddr →
      linkStatus config now other = .sym → linkStatus config now link = .sym) :
    Settled config now mainAddr state := by
  obtain ⟨nb, among, rfl⟩ := List.mem_map.mp present
  refine ⟨nb, find?_key unique among, ?_⟩
  rw [status nb among rfl]
  constructor
  · intro sym
    exact ⟨link, member, resolves, linkStatus_sym_iff.mp sym⟩
  · rintro ⟨other, stored, shared, sym⟩
    exact others other stored shared (linkStatus_sym_iff.mpr sym)

theorem status_of_written {mainAddr : NsAddr} {status : NbStatus} {state' : State}
    (written : NbWritten mainAddr status state state') :
    ∀ nb ∈ state'.nbset, nb.nbMainAddr = mainAddr → nb.status = status := by
  intro nb member main
  rcases written.written nb member with ⟨_, same⟩ | ⟨_, different⟩
  · exact same
  · exact absurd main different

theorem writeSensed_settled {config : Config} {nextId : TupleId}
    (linked : WellLinked config state nextId) (now : Int) (willingness : Nat) {known : LinkTuple}
    (member : known ∈ state.linkset) (same : SameLink known link) (updated : Bool)
    (quiet : updated = false → state.getMainAddr link.nbIfaceAddr ∈ state.nbMains ∧
      ∀ nb ∈ state.nbset, nb.nbMainAddr = state.getMainAddr link.nbIfaceAddr →
        nb.status = linkStatus config now link)
    (others : ∀ other ∈ state.linkset, other.id ≠ known.id →
      state.getMainAddr other.nbIfaceAddr = state.getMainAddr link.nbIfaceAddr →
      linkStatus config now other = .sym → linkStatus config now link = .sym) :
    Settled config now (state.getMainAddr link.nbIfaceAddr)
      (writeSensed config now willingness link updated state) := by
  have stored := mem_updated linked.ids member same
  have rivals : ∀ other ∈ (state.updateLinkTuple link).linkset,
      state.getMainAddr other.nbIfaceAddr = state.getMainAddr link.nbIfaceAddr →
      linkStatus config now other = .sym → linkStatus config now link = .sym := by
    intro other among shared sym
    rcases (mem_updateLinkTuple linked.ids member same).mp among with rfl | ⟨old, different⟩
    · exact sym
    · exact others other old different shared sym
  cases updated with
  | false =>
      obtain ⟨present, status⟩ := quiet rfl
      exact settled_of_link linked.mains present status stored rfl rivals
  | true =>
      have written := updatedLinkTuple_written config now link willingness
        (linked.rewriteLink member same).mains
      have resolves := getMainAddr_of_written written
      change Settled config now _
        (updatedLinkTuple config now link willingness (state.updateLinkTuple link))
      refine settled_of_link written.unique written.present (status_of_written written) ?_ ?_ ?_
      · exact written.linkset ▸ stored
      · exact congrFun resolves link.nbIfaceAddr
      · intro other among shared sym
        rw [written.linkset] at among
        exact rivals other among ((congrFun resolves other.nbIfaceAddr).symm.trans shared) sym

theorem sensedLink_known {config : Config} {now : Int} {known : LinkTuple} {updated : Bool}
    (found : state.findLinkTuple srcAddr = some known)
    (sensed : senseLink config now (emfToSeconds vtime) iface.addr hello.helloMsgs known true =
      (link, updated)) :
    sensedLink config now iface srcAddr vtime hello state = link := by
  simp [sensedLink, found, sensed]

theorem sensedLink_created {config : Config} {now : Int} {id : TupleId} {updated : Bool}
    (absent : state.findLinkTuple srcAddr = none)
    (sensed : senseLink config now (emfToSeconds vtime) iface.addr hello.helloMsgs
      (newLinkTuple id now (emfToSeconds vtime) iface.addr srcAddr iface.index) false =
        (link, updated)) :
    linkStatus config now (sensedLink config now iface srcAddr vtime hello state) =
      linkStatus config now link := by
  have start : SameTimes (newLinkTuple 0 now (emfToSeconds vtime) iface.addr srcAddr iface.index)
      (newLinkTuple id now (emfToSeconds vtime) iface.addr srcAddr iface.index) := ⟨rfl, rfl⟩
  have times : SameTimes (sensedLink config now iface srcAddr vtime hello state) link := by
    have both := senseLink_congr config now (emfToSeconds vtime) iface.addr start
      hello.helloMsgs false
    rw [sensed] at both
    simpa [sensedLink, absent] using both
  exact (times.linkStatus config now).symm

theorem status_of_speaks {config : Config} {now : Int}
    (speaks : speaksForSender config now iface srcAddr vtime hello state = true)
    {other : LinkTuple} (member : other ∈ state.linkset) (apart : other.nbIfaceAddr ≠ srcAddr)
    (shared : state.getMainAddr other.nbIfaceAddr = state.getMainAddr srcAddr)
    (sym : linkStatus config now other = .sym) :
    linkStatus config now (sensedLink config now iface srcAddr vtime hello state) = .sym := by
  simp only [speaksForSender, Bool.or_eq_true, decide_eq_true_eq, List.all_eq_true,
    Bool.not_eq_true', decide_eq_false_iff_not, not_and] at speaks
  rcases speaks with own | alone
  · exact own
  · exact absurd sym (alone other member apart shared)

/-- The state that `link_sensing` leaves. -/
theorem linkSensing_settled {config : Config} {now : Int} {node node' : Node} {changed : Bool}
    (linked : WellLinked config node.state node.nextId) (known : iface ∈ config.ifaces)
    (speaks : speaksForSender config now iface srcAddr vtime hello node.state = true)
    (ran : linkSensingWith true config now vtime hello iface.addr srcAddr iface.index node =
      .ok (node', changed)) :
    Settled config now (node.state.getMainAddr srcAddr) node'.state := by
  rcases linkSensingWith_cases ran with
    ⟨old, link, found, sensed, rfl⟩ | ⟨absent, _, created, link, updated, rfl, sensed, rfl⟩
  · have member := List.mem_of_find?_eq_some found
    have same := senseLink_same sensed
    have oldAddr : old.nbIfaceAddr = srcAddr := by simpa using List.find?_some found
    have addr : link.nbIfaceAddr = srcAddr := same.nbIfaceAddr.trans oldAddr
    have flag : changed = true := by
      have spec := senseLink_spec config now (emfToSeconds vtime) iface.addr hello.helloMsgs old true
      rw [sensed] at spec
      exact spec.2.2 rfl
    have rivals : ∀ other ∈ node.state.linkset, other.id ≠ old.id →
        node.state.getMainAddr other.nbIfaceAddr = node.state.getMainAddr link.nbIfaceAddr →
        linkStatus config now other = .sym → linkStatus config now link = .sym := by
      intro other among different shared sym
      have apart : other.nbIfaceAddr ≠ srcAddr := by
        intro equal
        have twin := List.inj_on_of_nodup_map linked.addrs among member (equal.trans oldAddr.symm)
        exact different (congrArg LinkTuple.id twin)
      rw [← sensedLink_known found sensed]
      exact status_of_speaks speaks among apart (addr ▸ shared) sym
    rw [← addr]
    exact writeSensed_settled linked now hello.willingness member same changed
      (fun down => absurd (flag.symm.trans down) nofun) rivals
  · have same := senseLink_same sensed
    have written := addLinkTuple_written now (newLinkTuple node.nextId now (emfToSeconds vtime)
      iface.addr srcAddr iface.index) hello.willingness linked.mains
    have added := (linked.insertLink _ rfl ⟨iface, known, rfl⟩ absent).writeNb written
    have addr : link.nbIfaceAddr = srcAddr := same.nbIfaceAddr
    have settled := writeSensed_settled added now hello.willingness
      (mem_inserted node.state _) same updated ?_ ?_
    · rw [addr] at settled
      exact settled
    · rintro rfl
      refine ⟨addr ▸ written.present, ?_⟩
      intro nb among main
      rw [status_of_written written nb among (main.trans (by rw [addr]; rfl))]
      have past : ¬ now ≤ now - Time.second := by
        unfold Time.second
        omega
      have stale : link.symTime = now - Time.second := senseLink_quiet sensed
      cases status : linkStatus config now link with
      | notSym => simp [symStatus, newLinkTuple, past]
      | sym => exact absurd (stale ▸ (linkStatus_sym_iff.mp status).1) past
    · intro other among different shared sym
      rw [written.linkset] at among
      have old : other ∈ node.state.linkset := by
        rcases List.mem_append.mp among with old | last
        · exact old
        · exact absurd (congrArg LinkTuple.id (List.mem_singleton.mp last)) different
      have apart : other.nbIfaceAddr ≠ srcAddr := by
        simp only [State.findLinkTuple, List.find?_eq_none, decide_eq_true_eq] at absent
        exact absent other old
      rw [← sensedLink_created absent sensed]
      exact status_of_speaks speaks old apart (addr ▸ shared) sym

theorem Settled.congr {config : Config} {now : Int} {mainAddr : NsAddr} {state' : State}
    (settled : Settled config now mainAddr state) (linkset : state'.linkset = state.linkset)
    (resolves : state'.getMainAddr = state.getMainAddr)
    (nbset : state'.nbset.map (fun nb => (nb.nbMainAddr, nb.status)) =
      state.nbset.map fun nb => (nb.nbMainAddr, nb.status)) :
    Settled config now mainAddr state' := by
  obtain ⟨nb, found, status⟩ := settled
  have pair := congrArg (List.find? fun pair : NsAddr × NbStatus => pair.1 = mainAddr) nbset
  simp only [List.find?_map, Function.comp_def] at pair
  have old : state.nbset.find? (fun nb => nb.nbMainAddr = mainAddr) = some nb := found
  rw [old] at pair
  obtain ⟨nb', found', same⟩ := Option.map_eq_some_iff.mp pair
  have equal : nb'.status = nb.status := congrArg Prod.snd same
  refine ⟨nb', found', ?_⟩
  rw [linkset, resolves, equal]
  exact status

/-- What holds after every HELLO of a packet. -/
def HellosSettle (config : Config) (now : Int) (event : Event) (node : Node) : Prop :=
  ∀ iface srcAddr pkt before msg after hello handled node',
    event = .recv iface srcAddr pkt → pkt.msgs = before ++ msg :: after →
    msg.body = .hello hello →
    before.foldlM (recvMsg config now iface srcAddr) node = .ok handled →
    processes config msg handled.state = true →
    recvMsg config now iface srcAddr handled msg = .ok node' →
    Settled config now (node'.state.getMainAddr srcAddr) node'.state

theorem hellosSettle_of_guard {config : Config} {now : Int} {event : Event} {node : Node}
    (linked : WellLinked config node.state node.nextId)
    (known : ∀ iface srcAddr pkt, event = .recv iface srcAddr pkt → iface ∈ config.ifaces)
    (met : (mirrorGuard config).allows config now event node = true) :
    HellosSettle config now event node := by
  rintro iface srcAddr pkt before msg after hello handled node' rfl split body ran taken received
  simp only [Guard.allows, split] at met
  obtain ⟨earlier, allowed⟩ := eachMsg_split met ran
  have here := known iface srcAddr pkt rfl
  have prefixed : WellLinked config handled.state handled.nextId :=
    eachMsg_keeps (fun node => WellLinked config node.state node.nextId)
      (fun msg node node' met ran holds =>
        (wellLinked_rules (mirrorGuard config) config now).recvMsg here met ran holds)
      earlier ran linked
  have speaks : speaksForSender config now iface srcAddr msg.vtime hello handled.state = true := by
    simp only [Guard.allowsMsg, taken, Bool.not_true, Bool.false_or, mirrorGuard, body,
      Bool.and_eq_true] at allowed
    exact allowed.2
  obtain ⟨sensed, changed, sensing, same⟩ := processHello_sensed (recvMsg_hello body taken received)
  have recorded : WellLinked config (handled.record (.processed msg.origAddr msg.msgSeqNum)).state
      (handled.record (.processed msg.origAddr msg.msgSeqNum)).nextId := prefixed
  have settled := linkSensing_settled recorded here speaks sensing
  have resolves : node'.state.getMainAddr = handled.state.getMainAddr := by
    obtain ⟨_, _, _, _, written⟩ := linkSensingWith_writes sensing
    rw [same.getMainAddr, written]
    rfl
  rw [resolves]
  have willing : Settled config now (handled.state.getMainAddr srcAddr)
      (populateNbset hello msg.origAddr sensed.state) :=
    settled.congr rfl rfl (populateNbset_nbset hello msg.origAddr sensed.state)
  refine willing.congr same.linkset same.getMainAddr ?_
  rw [same.nbset]
  rfl

/-- The neighbor set has one tuple for a main address, and the main addresses are
those that the link tuples resolve to. -/
def NbsetMirrors (state : State) : Prop :=
  state.nbMains.Nodup ∧ ∀ mainAddr, mainAddr ∈ state.nbMains ↔
    ∃ link ∈ state.linkset, state.getMainAddr link.nbIfaceAddr = mainAddr

/-- The neighbor set mirrors the link set while no association remaps a link, no
removed link leaves another one of its neighbor behind and every HELLO speaks for
its sender. -/
theorem nbset_mirrors_linkset (config : Config) (clock : Int) (node : Node)
    (reached : Reached recvOlsr config
      (fun now event node => (mirrorGuard config).allows config now event node = true) clock node) :
    NbsetMirrors node.state ∧
      ∀ now event, Enabled config clock now event node →
        (mirrorGuard config).allows config now event node = true →
        HellosSettle config now event node := by
  have linked := reached_wellLinked reached
  have backed := reached_neighborhood (fun time maxTime =>
    ⟨initialNode_wellLinked config time maxTime, nofun⟩)
    (backed_rules (mirrorGuard_stable config) config) (fun _ _ _ met => met) reached
  have covered := reached_neighborhood (fun time maxTime =>
    ⟨initialNode_wellLinked config time maxTime, nofun⟩)
    (covered_rules (mirrorGuard_stable config) (mirrorGuard_last config) config)
    (fun _ _ _ met => met) reached
  refine ⟨⟨linked.mains, ?_⟩, ?_⟩
  · intro mainAddr
    constructor
    · exact backed.2 mainAddr
    · rintro ⟨link, member, rfl⟩
      exact covered.2 link member
  · intro now event enabled met
    exact hellosSettle_of_guard linked enabled.known met

def announcedIfaceRun : List (Int × Event) :=
  [(Time.second, receiveHello 2 2 0 134 10),
    (2 * Time.second, receive 2 2 1 134 (.mid { ifaceAddrs := [2, 5] })),
    (3 * Time.second, receiveHello 5 2 2 134 10)]

def lateMidRun : List (Int × Event) :=
  [(Time.second, receiveHello 5 2 0 134 10),
    (2 * Time.second, receive 5 2 1 134 (.mid { ifaceAddrs := [2, 5] }))]

/-- Two link tuples of one neighbor. -/
theorem nbset_mirrors_linkset_announcedIface :
    ∃ clock node, node.state.linkset.map LinkTuple.nbIfaceAddr = [2, 5] ∧
      node.state.nbMains = [2] ∧ NbsetMirrors node.state ∧
      ∀ now event, Enabled oneIfaceConfig clock now event node →
        (mirrorGuard oneIfaceConfig).allows oneIfaceConfig now event node = true →
        HellosSettle oneIfaceConfig now event node := by
  obtain ⟨clock, node, reached, checked⟩ := exists_reached_of_runOf recvOlsr
    ((mirrorGuard oneIfaceConfig).allows oneIfaceConfig) announcedIfaceRun
    (fun current => decide
      (current.2.state.linkset.map LinkTuple.nbIfaceAddr = [2, 5] ∧
        current.2.state.nbMains = [2]))
    (by decide +kernel)
  obtain ⟨links, mains⟩ := of_decide_eq_true checked
  exact ⟨clock, node, links, mains, nbset_mirrors_linkset oneIfaceConfig clock node reached⟩

/-- The late association leaves the neighbor tuple under the interface address. -/
theorem nbset_unmirrored_of_lateMid :
    ¬ ∀ (config : Config) (clock : Int) (node : Node),
      Reached recvOlsr config (fun _ _ _ => True) clock node →
        NbsetMirrors node.state ∧ ∀ now event, Enabled config clock now event node →
          HellosSettle config now event node := by
  intro claimed
  obtain ⟨clock, node, reached, checked⟩ := exists_reached_of_runOf recvOlsr
    (fun _ _ _ => true) lateMidRun
    (fun current => decide (5 ∈ current.2.state.nbMains ∧
      ∀ link ∈ current.2.state.linkset, current.2.state.getMainAddr link.nbIfaceAddr ≠ 5))
    (by decide +kernel)
  obtain ⟨present, unbacked⟩ := of_decide_eq_true checked
  obtain ⟨mirrors, _⟩ := claimed oneIfaceConfig clock node
    (reached.weaken fun _ _ _ _ => trivial)
  obtain ⟨link, member, resolves⟩ := (mirrors.2 5).mp present
  exact unbacked link member resolves

end SyncFanet.Olsr
