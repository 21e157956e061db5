import SyncFanet.Dsr.RouteErrors
import SyncFanet.Dsr.SourceRouteRuns

/-!
# The way of a packet that is salvaged

A data packet with a source route is passed on from node to node, and salvaged where a link
has failed and the node knows another route. The nodes may be in any state. The option
counts the salvages in 4 bits, and `maint_buf_salvage` does not look at the count.
-/

set_option autoImplicit false

namespace SyncFanet.Dsr

/-! ## Runs -/

/-- A node that has transmitted a packet, the number of hops that the packet has made up to
it, and the nodes that have salvaged the packet, with the hops up to them. -/
structure Carrier where
  node : InAddr
  dp : DsrPkt
  hops : Nat
  salvagers : List (InAddr × Nat)

/-- What a search for a route meets at a node. -/
structure Lookup where
  refreshIntermediate : Bool
  now : SimTime
  chance : Nat → LinkCache.Chance
  node : Node

/-- `dsr_rtc_find`. -/
def Lookup.route (lookup : Lookup) (me dst : InAddr) : Option DsrSrt :=
  match { lookup.node with myaddr := me }.routeFind lookup.refreshIntermediate lookup.now
      lookup.chance me dst with
  | .ok (_, found) => found
  | .error _ => none

/-- The packet of which a transmission has failed: the one kept in the maintenance buffer,
or the one that the link layer gives back. -/
inductive Failed (dp : DsrPkt) : DsrPkt → Prop where
  | kept : Failed dp dp
  | returned {useNetworkLayerAck : Bool} {ackReq : Option Nat} {p : DSRPkt} {nxtHop : InAddr}
      (sent : omnetXmit ackReq dp = some p) (next : p.nextAddress = some nxtHop) :
      Failed dp { dsrPktAlloc useNetworkLayerAck p with nxtHop := nxtHop }

/-- The carriers of a data packet, with the routes that it may start with and the failures
at which a node may find another one. -/
inductive Carried (begins : DsrPkt → DsrSrt → Prop) (allowed : Carrier → DsrSrt → Prop) :
    Carrier → Prop where
  | source {dp dp' : DsrPkt} {srt : DsrSrt} {etxActive : Bool} {costs : List EtxCost}
      (fresh : dp.opth = []) (unsalvaged : dp.salvage = 0) (starts : begins dp srt)
      (added : dsrSrtAdd dp srt = .ok dp') (cost : addCost etxActive srt = .ok costs) :
      Carried begins allowed
        { node := dp.src, dp := { dp' with costVector := costs }, hops := 0, salvagers := [] }
  | forward {carrier : Carrier} (before : Carried begins allowed carrier) {ackReq : Option Nat}
      {p : DSRPkt} {next : InAddr} {hop : Hop} {received : Received} {dp' : DsrPkt}
      (sent : omnetXmit ackReq carrier.dp = some p) (reaches : p.nextAddress = some next)
      (processed : processDsr hop.handlers hop.now { hop.node with myaddr := next }
        { p with ttl := hop.ttl } = .ok received)
      (fate : received.fate = .xmit dp') :
      Carried begins allowed
        { node := next, dp := dp', hops := carrier.hops + 1, salvagers := carrier.salvagers }
  | salvage {carrier : Carrier} (before : Carried begins allowed carrier) {dp dp' : DsrPkt}
      (failed : Failed carrier.dp dp) {lookup : Lookup} {srt : DsrSrt}
      (found : lookup.route carrier.node dp.dst = some srt) (allows : allowed carrier srt)
      (salvaged : salvagePacket carrier.node dp (some srt) = .ok (some dp')) :
      Carried begins allowed
        { node := carrier.node, dp := dp', hops := carrier.hops
          salvagers := carrier.salvagers ++ [(carrier.node, carrier.hops)] }

/-! ## What a node leaves of the option -/

structure Routed (dp : DsrPkt) (opt : DsrSrtOpt) (ids : List Nat) : Prop where
  options : dp.opth = [.srt opt :: ids.map .ackReq]
  srtOpt : dp.srtOpt = some opt

section

variable {dp dp' : DsrPkt} {opt : DsrSrtOpt} {ids : List Nat} {p : DSRPkt} {node : Node}
  {handlers : Handlers} {now : SimTime}

variable {srt : DsrSrt} {me : InAddr}

variable {lookup : Lookup} {route : PathCacheRoute}

/-- What `omnet_xmit` takes over from a packet. -/
structure Sent (dp : DsrPkt) (p : DSRPkt) : Prop where
  src : p.src = dp.src
  dst : p.dst = dp.dst
  payloadLen : p.payloadLen = dp.payloadLen
  costVector : p.costVector = dp.costVector
  next : ∀ next, p.nextAddress = some next → next = dp.nxtHop

theorem Routed.xmit {ackReq : Option Nat} (routed : Routed dp opt ids)
    (sent : omnetXmit ackReq dp = some p) :
    Sent dp p ∧ ∃ ids' : List Nat, p.dsrOptions = [.srt opt :: ids'.map .ackReq] := by
  rw [omnetXmit_some sent]
  refine ⟨⟨rfl, rfl, rfl, rfl, ?_⟩, ?_⟩
  · intro next here
    dsimp only at here
    split at here
    · exact (Option.some.inj here).symm
    · cases here
  · rcases opth_withAckReq ackReq dp with same | ⟨id, added⟩
    · exact ⟨ids, same.trans routed.options⟩
    · refine ⟨ids ++ [id], ?_⟩
      dsimp only
      rw [added, routed.options, dsrAckReqOptAdd_srt]

theorem dsrPktAlloc_routed (useNetworkLayerAck : Bool)
    (options : p.dsrOptions = [.srt opt :: ids.map .ackReq]) :
    Routed (dsrPktAlloc useNetworkLayerAck p) opt ids := by
  refine ⟨options, ?_⟩
  simp [dsrPktAlloc, dsrOptParse, options]

/-- What `dsr_srt_opt_recv` leaves of the option and of the packet. -/
structure OptKept (dp : DsrPkt) (opt : DsrSrtOpt) (recv : Recv DsrSrtOpt) : Prop where
  salv : recv.opt.salv = opt.salv
  addrs : recv.opt.addrs = opt.addrs
  length : recv.opt.length = opt.length
  srtOpt : recv.dp.srtOpt = some recv.opt
  flags : recv.dp.flags = dp.flags
  src : recv.dp.src = dp.src
  dst : recv.dp.dst = dp.dst

theorem dsrSrtOptRecv_keeps {recv : Recv DsrSrtOpt}
    (handled : dsrSrtOptRecv now node dp opt = .ok recv) : OptKept dp opt recv := by
  obtain ⟨srt, _, handled⟩ := bind_ok.mp handled
  obtain ⟨intended, _, handled⟩ := bind_ok.mp handled
  obtain ⟨prvHop, _, handled⟩ := bind_ok.mp handled
  obtain ⟨nxtHop, _, handled⟩ := bind_ok.mp handled
  obtain ⟨learned, _, handled⟩ := bind_ok.mp handled
  obtain ⟨remaining, _, handled⟩ := bind_ok.mp handled
  -- the four ends of the handler, with other calls where the route was shortened
  have finished : ∀ calls : List Call, Except.ok (
      if dp.hasFlag pktPromiscRecv then
        { node := learned.1, calls := calls,
          dp := { dp with srt := some srt, srtOpt := some opt, salvage := opt.salv,
                          prvHop := prvHop, nxtHop := nxtHop },
          opt := opt, action := dsrPktDrop }
      else if opt.sleft = 0 then
        { node := learned.1, calls := calls,
          dp := { dp with srt := some srt, srtOpt := some opt, salvage := opt.salv,
                          prvHop := prvHop, nxtHop := nxtHop },
          opt := opt, action := dsrPktSrtRemove }
      else if opt.sleft > srt.count then
        { node := learned.1, calls := calls,
          dp := { dp with srt := some srt, srtOpt := some opt, salvage := opt.salv,
                          prvHop := prvHop, nxtHop := nxtHop },
          opt := opt, action := dsrPktSendIcmp }
      else
        let dp := { dp with srt := some srt, srtOpt := some opt, salvage := opt.salv,
                            prvHop := prvHop, nxtHop := nxtHop }
        let opt := { opt with sleft := opt.sleft - 1 }
        let costs := if node.config.etxActive then updateCost node dp else dp.costVector
        { node := learned.1, calls := calls,
          dp := { dp with srtOpt := some opt, costVector := costs }, opt := opt,
          action := dsrPktForward }) = (.ok recv : Except Fault (Recv DsrSrtOpt)) →
      OptKept dp opt recv := by
    intro calls ended
    split at ended
    · cases ended
      exact ⟨rfl, rfl, rfl, rfl, rfl, rfl, rfl⟩
    · split at ended
      · cases ended
        exact ⟨rfl, rfl, rfl, rfl, rfl, rfl, rfl⟩
      · split at ended
        · cases ended
          exact ⟨rfl, rfl, rfl, rfl, rfl, rfl, rfl⟩
        · cases ended
          exact ⟨rfl, rfl, rfl, rfl, rfl, rfl, rfl⟩
  dsimp only at handled
  split at handled
  · obtain ⟨shortened, _, handled⟩ := bind_ok.mp handled
    cases shortened with
    | none =>
        cases handled
        exact ⟨rfl, rfl, rfl, rfl, rfl, rfl, rfl⟩
    | some extra => exact finished _ handled
  · exact finished _ handled

theorem actOn_xmit {bit : Nat} (fate : (actOn dp bit).2 = some (.xmit dp')) : dp' = dp := by
  unfold actOn at fate
  by_cases drops : bit = dsrPktDrop ∨ bit = dsrPktError
  · simp [drops] at fate
  · by_cases forwards : bit = dsrPktForward
    · rw [if_neg drops, if_pos forwards] at fate
      by_cases dead : dp.ttl < 1
      · simp [dead] at fate
      · simpa [dead, eq_comm] using fate
    · rw [if_neg drops, if_neg forwards] at fate
      by_cases rreq : bit = dsrPktForwardRreq
      · simpa [rreq, eq_comm] using fate
      · rw [if_neg rreq] at fate
        split at fate
        · cases fate
        · split at fate
          · cases fate
          · cases fate

/-- A packet that `dsr_recv` transmits is the one it has processed. -/
theorem actLoop_xmit {action rounds mask : Nat}
    (fate : (actLoop dp action rounds mask).2 = .xmit dp') : dp' = dp := by
  induction rounds generalizing mask with
  | zero => cases fate
  | succ rounds ih =>
      unfold actLoop at fate
      split at fate
      · next calls decided acted =>
          have decided' : decided = .xmit dp' := fate
          apply actOn_xmit
          rw [acted, decided']
      · exact ih fate

structure PassedOn (before after : DsrSrtOpt) (src dst : InAddr) (ids : List Nat) (dp : DsrPkt) :
    Prop where
  routed : Routed dp after ids
  salv : after.salv = before.salv
  addrs : after.addrs = before.addrs
  length : after.length = before.length
  src : dp.src = src
  dst : dp.dst = dst

theorem dsrOptRecv_routed {recv : Recv (List (List DsrOpt))}
    (options : dp.opth = [.srt opt :: ids.map .ackReq])
    (direct : dp.hasFlag pktPromiscRecv = false)
    (handled : dsrOptRecv handlers now node dp = .ok recv) :
    ∃ inner, dsrSrtOptRecv now node dp opt = .ok inner ∧
      recv.dp = { inner.dp with opth := [.srt inner.opt :: ids.map .ackReq] } ∧
      recv.calls = inner.calls ++ ids.map (.ackSend inner.dp.prvHop) := by
  obtain ⟨headers, ran, same⟩ := bind_ok.mp handled
  cases same
  rw [options] at ran
  obtain ⟨header, inHeader, same⟩ := bind_ok.mp ran
  cases same
  obtain ⟨first, routed, later⟩ := bind_ok.mp inHeader
  obtain ⟨inner, route, rfl⟩ := map_ok routed
  have kept := dsrSrtOptRecv_keeps route
  have direct' : (inner.map DsrOpt.srt).dp.hasFlag pktPromiscRecv = false := by
    show decide (inner.dp.flags &&& pktPromiscRecv ≠ 0) = false
    rw [kept.flags]
    exact direct
  have present : (inner.map DsrOpt.srt).dp.srtOpt ≠ none := by
    show inner.dp.srtOpt ≠ none
    rw [kept.srtOpt]
    exact Option.some_ne_none _
  have same := later.symm.trans (recvOptions_ackReqs
    { node := (inner.map DsrOpt.srt).node, calls := [] ++ (inner.map DsrOpt.srt).calls,
      dp := (inner.map DsrOpt.srt).dp, opt := [] ++ [(inner.map DsrOpt.srt).opt],
      action := _ } ids direct' present)
  cases same
  exact ⟨inner, route, rfl, rfl⟩

theorem dsrOptRecv_keeps {recv : Recv (List (List DsrOpt))}
    (options : dp.opth = [.srt opt :: ids.map .ackReq])
    (direct : dp.hasFlag pktPromiscRecv = false)
    (handled : dsrOptRecv handlers now node dp = .ok recv) :
    ∃ opt', PassedOn opt opt' dp.src dp.dst ids recv.dp := by
  obtain ⟨inner, route, same, -⟩ := dsrOptRecv_routed options direct handled
  have kept := dsrSrtOptRecv_keeps route
  rw [same]
  exact ⟨inner.opt, ⟨rfl, kept.srtOpt⟩, kept.salv, kept.addrs, kept.length, kept.src, kept.dst⟩

theorem processDsr_xmit {received : Received}
    (options : p.dsrOptions = [.srt opt :: ids.map .ackReq])
    (processed : processDsr handlers now node p = .ok received)
    (fate : received.fate = .xmit dp') :
    ∃ opt', PassedOn opt opt' p.src p.dst ids dp' ∧ p.src ≠ node.myaddr := by
  by_cases others : p.src ≠ node.myaddr
  · obtain ⟨recv, handled, rfl⟩ := processDsr_handled others processed
    obtain ⟨opt', passed⟩ := dsrOptRecv_keeps options (alloc_direct _ _) handled
    rw [actLoop_xmit fate]
    exact ⟨opt', passed, others⟩
  · rw [processDsr, if_neg (show ¬ (dsrPktAlloc _ p).src ≠ node.myaddr from others)] at processed
    cases processed
    cases fate

/-! ## What a salvage makes of the packet -/

/-- The next hop is the first one of the route: the node is its source. -/
def AtSource (dp : DsrPkt) (opt : DsrSrtOpt) : Prop :=
  (opt.addrs ++ [dp.dst]).head? = some dp.nxtHop

instance (dp : DsrPkt) (opt : DsrSrtOpt) : Decidable (AtSource dp opt) :=
  inferInstanceAs (Decidable (_ = _))

/-- The relays of the new route: at the source those that the node knows, and else the ones
up to this node, itself and those that it knows. -/
def salvagedAddrs (me : InAddr) (dp : DsrPkt) (opt : DsrSrtOpt) (route : PathCacheRoute) :
    List InAddr :=
  if AtSource dp opt then route else opt.addrs.takeWhile (· ≠ me) ++ me :: route

/-- The nodes of the new route. -/
def salvagedNodes (me : InAddr) (dp : DsrPkt) (opt : DsrSrtOpt) (route : PathCacheRoute) :
    List InAddr :=
  (if AtSource dp opt then me else dp.src) :: salvagedAddrs me dp opt route ++ [dp.dst]

structure Salvaged (me : InAddr) (dp : DsrPkt) (opt : DsrSrtOpt) (route : PathCacheRoute)
    (ids : List Nat) (dp' : DsrPkt) (opt' : DsrSrtOpt) : Prop where
  routed : Routed dp' opt' ids
  salv : opt'.salv = (opt.salv + 1) % 2 ^ 4
  addrs : opt'.addrs = salvagedAddrs me dp opt route
  distinct : (salvagedNodes me dp opt route).Nodup
  length : opt'.length = ((salvagedAddrs me dp opt route).length * 4 + 2) % 2 ^ 8
  sleft : opt'.sleft = route.length % 2 ^ 6
  src : dp'.src = dp.src
  dst : dp'.dst = dp.dst
  payloadLen : dp'.payloadLen = dp.payloadLen
  free : dp'.costVector = []
  next : dsrSrtNextHop
    { src := if AtSource dp opt then me else dp.src, dst := dp.dst, flags := 0
      laddrs := (salvagedAddrs me dp opt route).length * 4, addrs := salvagedAddrs me dp opt route
      cost := [] } opt'.sleft = .ok dp'.nxtHop

theorem setSrtOpt_single (opt' : DsrSrtOpt) :
    setSrtOpt [.srt opt :: ids.map .ackReq] opt' = [.srt opt' :: ids.map .ackReq] := by
  simp [setSrtOpt, updateFirst]

theorem dsrSrtCheckDuplicate_false (sized : srt.count = srt.addrs.length)
    (checked : dsrSrtCheckDuplicate srt = .ok false) : srt.nodes.Nodup := by
  unfold dsrSrtCheckDuplicate at checked
  rw [sized, List.take_length] at checked
  dsimp only at checked
  split at checked
  · cases checked
  · next distinct =>
      rw [if_pos (le_refl _)] at checked
      have last : srt.dst ∉ srt.src :: srt.addrs := by
        simpa using checked
      unfold DsrSrt.nodes
      refine List.nodup_append.mpr ⟨not_not.mp distinct, List.nodup_singleton _, ?_⟩
      intro node member other single same
      rw [List.mem_singleton.mp single] at same
      exact last (same ▸ member)

theorem Lookup.route_some {dst : InAddr} (found : lookup.route me dst = some srt) :
    srt = foundRoute me dst srt.addrs := by
  unfold Lookup.route at found
  split at found
  · next node' result ran =>
      cases found
      exact Node.routeFind_some ran
  · cases found

theorem foundRoute_count (src dst : InAddr) (route : PathCacheRoute) :
    (foundRoute src dst route).count = route.length := by
  simp only [DsrSrt.count, foundRoute, dsrAddressSize]
  omega

theorem dsrSrtNewSplit_some {split : DsrSrt} (found : dsrSrtNewSplit srt me = .ok (some split)) :
    split.src = srt.src ∧ split.addrs = srt.addrs.takeWhile (· ≠ me) ∧
      split.count = split.addrs.length := by
  obtain ⟨_, _, found⟩ := bind_ok.mp found
  cases position : srt.addrs.findIdx? fun hop => hop = me with
  | none =>
      rw [position] at found
      cases found
  | some i =>
      rw [position] at found
      dsimp only at found
      split at found
      · cases found
        have inside := (List.findIdx?_eq_some_iff_findIdx_eq.mp position).1
        have first := (List.findIdx?_eq_some_iff_findIdx_eq.mp position).2
        refine ⟨rfl, ?_, ?_⟩
        · have before : srt.addrs.takeWhile (· ≠ me) =
              srt.addrs.take (srt.addrs.findIdx fun hop => hop = me) := by
            rw [List.takeWhile_eq_take_findIdx_not]
            simp
          rw [before, first]
        · simp only [DsrSrt.count, dsrAddressSize, List.length_take]
          omega
      · cases found

theorem salvageRoute_some {oldSrt : DsrSrt} {sleft : Nat} (old : oldSrt.addrs = opt.addrs)
    (ends : oldSrt.dst = dp.dst) (starts : oldSrt.src = dp.src)
    (made : salvageRoute me dp oldSrt (foundRoute me dp.dst route) = .ok (some (srt, sleft))) :
    srt.src = (if AtSource dp opt then me else dp.src) ∧ srt.dst = dp.dst ∧
      srt.addrs = salvagedAddrs me dp opt route ∧
      srt.laddrs = (salvagedAddrs me dp opt route).length * 4 ∧ sleft = route.length := by
  obtain ⟨atSource, decided, made⟩ := bind_ok.mp made
  have source : atSource = true ↔ AtSource dp opt := by
    rw [old, ends] at decided
    unfold AtSource
    cases none : opt.addrs with
    | nil =>
        rw [none] at decided
        by_cases direct : dp.dst = dp.nxtHop
        · simp [direct] at decided
          simp [← decided, direct]
        · simp [direct, at?, Except.bind] at decided
    | cons first rest =>
        rw [none] at decided
        simp [at?, Except.bind] at decided
        simp [← decided]
  cases atSource with
  | true =>
      cases made
      have here := source.mp rfl
      simp only [salvagedAddrs, if_pos here]
      exact ⟨rfl, rfl, rfl, rfl, rfl⟩
  | false =>
      have relay : ¬AtSource dp opt := fun here => absurd (source.mpr here) Bool.false_ne_true
      simp only [Bool.false_eq_true, if_false] at made
      obtain ⟨split, found, made⟩ := bind_ok.mp made
      cases split with
      | none => cases made
      | some srtToMe =>
          obtain ⟨whole, joined, made⟩ := bind_ok.mp made
          cases made
          obtain ⟨starts', addrs, count⟩ := dsrSrtNewSplit_some found
          obtain ⟨_, _, joined⟩ := bind_ok.mp joined
          obtain ⟨_, _, joined⟩ := bind_ok.mp joined
          cases joined
          have counts := foundRoute_count me dp.dst route
          have whole : srtToMe.addrs ++ me :: route = salvagedAddrs me dp opt route := by
            rw [salvagedAddrs, if_neg relay, addrs, old]
          refine ⟨?_, rfl, whole, ?_, ?_⟩
          · rw [if_neg relay]
            exact starts'.trans starts
          · rw [← whole, counts, count, dsrAddressSize]
            simp only [List.length_append, List.length_cons]
            omega
          · simp only [foundRoute, List.length_append, List.length_cons]
            omega

/-- What `maint_buf_salvage` makes of a packet. -/
theorem salvagePacket_some (routed : Routed dp opt ids)
    (salvaged : salvagePacket me dp (some (foundRoute me dp.dst route)) = .ok (some dp')) :
    ∃ opt', Salvaged me dp opt route ids dp' opt' := by
  unfold salvagePacket at salvaged
  rw [routed.srtOpt] at salvaged
  obtain ⟨oldSrt, parsed, salvaged⟩ := bind_ok.mp salvaged
  obtain ⟨_, _, parsed⟩ := bind_ok.mp parsed
  cases parsed
  obtain ⟨made, replaced, salvaged⟩ := bind_ok.mp salvaged
  cases made with
  | none => cases salvaged
  | some made =>
      obtain ⟨srt, sleft⟩ := made
      obtain ⟨duplicate, checked, salvaged⟩ := bind_ok.mp salvaged
      cases duplicate with
      | true => cases salvaged
      | false =>
          obtain ⟨nxtHop, hops, salvaged⟩ := bind_ok.mp salvaged
          cases salvaged
          obtain ⟨source, ends, addrs, laddrs, left⟩ := salvageRoute_some rfl rfl rfl replaced
          have sized : srt.count = srt.addrs.length := by
            rw [DsrSrt.count, laddrs, addrs]
            exact Nat.mul_div_cancel _ (by decide)
          have distinct := dsrSrtCheckDuplicate_false sized checked
          refine ⟨_, ⟨?_, rfl⟩, rfl, addrs, ?_, ?_, ?_, rfl, rfl, rfl, rfl, ?_⟩
          · rw [routed.options]
            exact setSrtOpt_single _
          · rwa [DsrSrt.nodes, source, addrs, ends] at distinct
          · rw [laddrs]
          · rw [left]
          · rw [← hops]
            unfold dsrSrtNextHop DsrSrt.count
            rw [laddrs, addrs, ends]

/-! ## The count of the salvages -/

theorem Failed.routed (failed : Failed dp dp') (routed : Routed dp opt ids) :
    (∃ ids', Routed dp' opt ids') ∧ dp'.src = dp.src ∧ dp'.dst = dp.dst ∧
      dp'.nxtHop = dp.nxtHop := by
  cases failed with
  | kept => exact ⟨⟨ids, routed⟩, rfl, rfl, rfl⟩
  | @returned useNetworkLayerAck _ _ _ sent next =>
      obtain ⟨same, ids', options⟩ := routed.xmit sent
      have again := dsrPktAlloc_routed useNetworkLayerAck options
      exact ⟨⟨ids', again.options, again.srtOpt⟩, same.src, same.dst, same.next _ next⟩

theorem salvagedNodes_congr (src : dp'.src = dp.src) (dst : dp'.dst = dp.dst)
    (nxtHop : dp'.nxtHop = dp.nxtHop) :
    salvagedNodes me dp' opt route = salvagedNodes me dp opt route := by
  have source : AtSource dp' opt ↔ AtSource dp opt := by
    unfold AtSource
    rw [dst, nxtHop]
  unfold salvagedNodes salvagedAddrs
  by_cases here : AtSource dp opt
  · simp only [if_pos here, if_pos (source.mpr here), dst]
  · have relay : ¬AtSource dp' opt := fun there => here (source.mp there)
    simp only [if_neg here, if_neg relay, src, dst]

def Carrier.Counted (carrier : Carrier) : Prop :=
  ∃ opt ids, Routed carrier.dp opt ids ∧ opt.salv = carrier.salvagers.length % 2 ^ 4

variable {begins : DsrPkt → DsrSrt → Prop} {allowed : Carrier → DsrSrt → Prop}
  {carrier : Carrier}

theorem counted_source {costs : List EtxCost} (fresh : dp.opth = []) (unsalvaged : dp.salvage = 0)
    (added : dsrSrtAdd dp srt = .ok dp') :
    Carrier.Counted
      { node := dp.src, dp := { dp' with costVector := costs }, hops := 0, salvagers := [] } := by
  obtain ⟨nxtHop, _, added⟩ := bind_ok.mp added
  cases added
  refine ⟨dsrSrtOptAdd dp.salvage srt, [], ⟨?_, rfl⟩, ?_⟩
  · simp [fresh]
  · simp [dsrSrtOptAdd, unsalvaged]

theorem Carrier.Counted.forward {ackReq : Option Nat} {next : InAddr} {hop : Hop}
    {received : Received} (counted : carrier.Counted) (sent : omnetXmit ackReq carrier.dp = some p)
    (processed : processDsr hop.handlers hop.now { hop.node with myaddr := next }
      { p with ttl := hop.ttl } = .ok received)
    (fate : received.fate = .xmit dp') :
    Carrier.Counted
      { node := next, dp := dp', hops := carrier.hops + 1, salvagers := carrier.salvagers } := by
  obtain ⟨opt, ids, routed, count⟩ := counted
  obtain ⟨same, ids', options⟩ := routed.xmit sent
  obtain ⟨opt', passed, -⟩ := processDsr_xmit (p := { p with ttl := hop.ttl }) options processed fate
  exact ⟨opt', ids', passed.routed, passed.salv.trans count⟩

theorem Carrier.Counted.salvage {dp : DsrPkt} (counted : carrier.Counted)
    (failed : Failed carrier.dp dp) (found : lookup.route carrier.node dp.dst = some srt)
    (salvaged : salvagePacket carrier.node dp (some srt) = .ok (some dp')) :
    Carrier.Counted
      { node := carrier.node, dp := dp', hops := carrier.hops
        salvagers := carrier.salvagers ++ [(carrier.node, carrier.hops)] } := by
  obtain ⟨opt, ids, routed, count⟩ := counted
  obtain ⟨⟨ids', routed'⟩, -⟩ := failed.routed routed
  rw [Lookup.route_some found] at salvaged
  obtain ⟨opt', made⟩ := salvagePacket_some routed' salvaged
  refine ⟨opt', ids', made.routed, ?_⟩
  rw [made.salv, count, List.length_append, List.length_singleton, Nat.mod_add_mod]

theorem carried_counted (carried : Carried begins allowed carrier) : carrier.Counted := by
  induction carried with
  | source fresh unsalvaged starts added cost => exact counted_source fresh unsalvaged added
  | forward before sent reaches processed fate ih => exact ih.forward sent processed fate
  | salvage before failed found allows salvaged ih => exact ih.salvage failed found salvaged

/-- The condition: a node that knows another route for a packet that was salvaged as often
as it may be knows one that is not free of loops. -/
def Spared (maxSalvageCount : Nat) (carrier : Carrier) (srt : DsrSrt) : Prop :=
  carrier.salvagers.length < maxSalvageCount ∨
    ∀ opt, carrier.dp.srtOpt = some opt →
      ¬(salvagedNodes carrier.node carrier.dp opt srt.addrs).Nodup

theorem Spared.refuses {maxSalvageCount : Nat} {dp : DsrPkt} (counted : carrier.Counted)
    (spared : Spared maxSalvageCount carrier srt) (failed : Failed carrier.dp dp)
    (found : lookup.route carrier.node dp.dst = some srt)
    (salvaged : salvagePacket carrier.node dp (some srt) = .ok (some dp')) :
    carrier.salvagers.length < maxSalvageCount := by
  cases spared with
  | inl fewer => exact fewer
  | inr repeats =>
      obtain ⟨opt, ids, routed, _⟩ := counted
      obtain ⟨⟨ids', routed'⟩, src, dst, nxtHop⟩ := failed.routed routed
      rw [Lookup.route_some found] at salvaged
      obtain ⟨opt', made⟩ := salvagePacket_some routed' salvaged
      have distinct := made.distinct
      rw [salvagedNodes_congr src dst nxtHop] at distinct
      exact absurd distinct (repeats opt routed.srtOpt)

theorem carried_bounded {maxSalvageCount : Nat}
    (carried : Carried begins (Spared maxSalvageCount) carrier) :
    carrier.salvagers.length ≤ maxSalvageCount := by
  induction carried with
  | source fresh unsalvaged starts added cost => exact Nat.zero_le _
  | forward before sent reaches processed fate ih => exact ih
  | salvage before failed found allows salvaged ih =>
      have fewer := allows.refuses (carried_counted before) failed found salvaged
      rw [List.length_append, List.length_singleton]
      exact fewer

/-- What becomes of a packet that a node does not salvage: it is freed, and the node that is
responsible hears of the link where a route to it is known. -/
structure DroppedAt (node : InAddr) (maxSalvageCount : Nat) (dp : DsrPkt) (opt : DsrSrtOpt)
    (rtcFind : InAddr → Option DsrSrt) (unreachable : InAddr) : Prop where
  freed : ∀ dp', salvagePacket node dp (rtcFind dp.dst) ≠ .ok (some dp')
  told : ∀ dst srt, dp.src ≠ node → rerrDst dp opt = .ok dst → rtcFind dst = some srt →
    ∃ rerr, dsrRerrSend node maxSalvageCount rtcFind dp unreachable = .ok (some rerr) ∧
      rerr.src = node ∧ rerr.dst = dst ∧
      .rerr (dsrRerrOptAdd node dst unreachable opt.salv) ∈ rerr.opth.flatten

theorem dsrRerrSend_told (maxSalvageCount : Nat) {rtcFind : InAddr → Option DsrSrt} {dst : InAddr}
    (unreachable : InAddr) (route : dp.srtOpt = some opt) (other : dp.src ≠ me)
    (addressed : rerrDst dp opt = .ok dst) (known : rtcFind dst = some srt)
    (cached : srt = foundRoute me dst srt.addrs) :
    ∃ rerr, dsrRerrSend me maxSalvageCount rtcFind dp unreachable = .ok (some rerr) ∧
      rerr.src = me ∧ rerr.dst = dst ∧
      .rerr (dsrRerrOptAdd me dst unreachable opt.salv) ∈ rerr.opth.flatten := by
  have hop : ∃ nxtHop, dsrSrtNextHop srt srt.count = .ok nxtHop := by
    rw [cached]
    unfold dsrSrtNextHop
    rw [foundRoute_count]
    cases nodes : srt.addrs with
    | nil => exact ⟨_, rfl⟩
    | cons first rest =>
        refine ⟨first, ?_⟩
        simp [foundRoute, atInt, at?]
  obtain ⟨nxtHop, hop⟩ := hop
  unfold dsrRerrSend
  simp only [route, if_neg other, addressed, known, hop, Except.bind]
  refine ⟨_, rfl, rfl, rfl, ?_⟩
  simp

/-! ## A source with many neighbours -/

def oneRelay (relay : InAddr) : Lookup where
  refreshIntermediate := true
  now := 0
  chance := fun _ => .first
  node :=
    { config :=
        { pathCache := true, etxActive := false, useNetworkLayerAck := false
          rrepDestinationOnly := false, routeCacheTimeout := 300000000 }
      myaddr := 1
      paths :=
        { paths := (∅ : PathsCache).insert 99
            [{ status := valid, cost := 1, expires := usecs 300000000, route := [relay]
               vectorCost := [] }]
          nextPurge := usecs 300000000 }
      links := { linkArray := ∅, routeMap := ∅ }
      gratRrep := []
      getCost := fun _ => 1 }

/-- The packet of the node 1 for the node 99, sent to a relay. -/
def sentTo (relay : InAddr) (salv : Nat) : DsrPkt where
  src := 1
  dst := 99
  nxtHop := relay
  prvHop := 0
  flags := 0
  salvage := 0
  ttl := 64
  payloadLen := 512
  opth := [[.srt { length := 6, salv := salv, sleft := 1, addrs := [relay] }]]
  srtOpt := some { length := 6, salv := salv, sleft := 1, addrs := [relay] }
  rrepOpt := []
  srt := some (foundRoute 1 99 [relay])
  costVector := []

def unsent : DsrPkt :=
  { sentTo 2 0 with nxtHop := 0, opth := [], srtOpt := none, srt := none }

/-- The packet after the failures of a number of neighbours, the first of which is the
node 2. -/
def afterFailures (count : Nat) : Carrier where
  node := 1
  dp := sentTo (count + 2) (count % 2 ^ 4)
  hops := 0
  salvagers := List.replicate count (1, 0)

theorem oneRelay_route : ∀ count : Nat, count < 16 →
    (oneRelay (count + 3)).route 1 99 = some (foundRoute 1 99 [count + 3]) := by
  decide +kernel

theorem salvagePacket_sentTo {relay other : InAddr} {salv : Nat} (here : other ≠ 1)
    (there : other ≠ 99) :
    salvagePacket 1 (sentTo relay salv) (some (foundRoute 1 99 [other])) =
      .ok (some (sentTo other ((salv + 1) % 2 ^ 4))) := by
  have distinct : dsrSrtCheckDuplicate (foundRoute 1 99 [other]) = .ok false := by
    simp [dsrSrtCheckDuplicate, foundRoute, DsrSrt.count, dsrAddressSize, here.symm, there.symm]
  have made : salvageRoute 1 (sentTo relay salv)
      { src := 1, dst := 99, flags := srtBidir, laddrs := 6 - 2, addrs := [relay], cost := [] }
      (foundRoute 1 99 [other]) = .ok (some (foundRoute 1 99 [other], 1)) := by
    simp [salvageRoute, sentTo, at?, foundRoute, Except.bind]
  have parsed : dsrSrtNew 1 99 (6 - 2) [relay] [] = .ok
      { src := 1, dst := 99, flags := srtBidir, laddrs := 6 - 2, addrs := [relay],
        cost := [] } := rfl
  unfold salvagePacket
  refine bind_ok.mpr ⟨_, parsed, bind_ok.mpr ⟨_, made, bind_ok.mpr ⟨_, distinct, ?_⟩⟩⟩
  have next : dsrSrtNextHop (foundRoute 1 99 [other]) (1 % 2 ^ 6 : Nat) = .ok other := by
    simp [dsrSrtNextHop, atInt, at?, foundRoute, DsrSrt.count, dsrAddressSize]
  have replaced : ∀ opt', setSrtOpt (sentTo relay salv).opth opt' = [[.srt opt']] :=
    fun _ => rfl
  refine bind_ok.mpr ⟨_, next, ?_⟩
  rw [replaced]
  rfl

theorem carried_afterFailures {bound : Nat} (small : bound ≤ 16)
    (starts : begins unsent (foundRoute 1 99 [2]))
    (allows : ∀ count : Nat, count < bound →
      allowed (afterFailures count) (foundRoute 1 99 [count + 3])) :
    ∀ count : Nat, count ≤ bound → Carried begins allowed (afterFailures count) := by
  intro count
  induction count with
  | zero =>
      intro _
      have cost : addCost false (foundRoute 1 99 [2]) = .ok [] := rfl
      have added : dsrSrtAdd unsent (foundRoute 1 99 [2]) = .ok (sentTo 2 0) := rfl
      exact .source rfl rfl starts added cost
  | succ count ih =>
      intro few
      have before := ih (by omega)
      have found := oneRelay_route count (by omega)
      have salvaged : salvagePacket 1 (sentTo (count + 2) (count % 2 ^ 4))
          (some (foundRoute 1 99 [count + 3])) =
            .ok (some (sentTo (count + 3) ((count + 1) % 2 ^ 4))) := by
        rw [salvagePacket_sentTo, Nat.mod_add_mod]
        · show count + 3 ≠ 1
          omega
        · show count + 3 ≠ 99
          omega
      have next : Carried begins allowed
          { node := 1, dp := sentTo (count + 3) ((count + 1) % 2 ^ 4), hops := 0
            salvagers := List.replicate count (1, 0) ++ [(1, 0)] } :=
        .salvage before .kept found (allows count few) salvaged
      rwa [← List.replicate_succ'] at next

/-! ## The bound -/

/-- While a packet that was salvaged as often as it may be finds no further route without
loops, it is salvaged at most so often, the option counts the salvages and a last failure
frees it. -/
theorem salvages_bounded {maxSalvageCount : Nat}
    (carried : Carried begins (Spared maxSalvageCount) carrier) :
    ∃ opt, carrier.dp.srtOpt = some opt ∧ carrier.salvagers.length ≤ maxSalvageCount ∧
      (maxSalvageCount ≤ 15 → opt.salv = carrier.salvagers.length) ∧
      (carrier.salvagers.length = maxSalvageCount →
        ∀ (dp : DsrPkt) (lookup : Lookup) (unreachable : InAddr), Failed carrier.dp dp →
          (∀ srt, lookup.route carrier.node dp.dst = some srt →
            Spared maxSalvageCount carrier srt) →
          DroppedAt carrier.node maxSalvageCount dp opt (lookup.route carrier.node)
            unreachable) := by
  have counted := carried_counted carried
  have bounded := carried_bounded carried
  obtain ⟨opt, ids, routed, count⟩ := counted
  refine ⟨opt, routed.srtOpt, bounded, ?_, ?_⟩
  · intro few
    omega
  · intro last dp lookup unreachable failed spared
    obtain ⟨⟨ids', routed'⟩, -⟩ := failed.routed routed
    refine ⟨?_, ?_⟩
    · intro dp' salvaged
      cases found : lookup.route carrier.node dp.dst with
      | none =>
          rw [found] at salvaged
          cases salvaged
      | some srt =>
          rw [found] at salvaged
          have fewer := (spared srt found).refuses (carried_counted carried) failed found salvaged
          omega
    · intro dst srt other addressed known
      exact dsrRerrSend_told _ _ routed'.srtOpt other addressed known (Lookup.route_some known)

theorem salvages_bounded_neighbours :
    ∃ opt, (afterFailures 15).dp.srtOpt = some opt ∧ opt.salv = 15 ∧
      ∀ (lookup : Lookup) (unreachable : InAddr),
        (∀ srt, lookup.route 1 99 = some srt → Spared 15 (afterFailures 15) srt) →
          DroppedAt 1 15 (afterFailures 15).dp opt (lookup.route 1) unreachable := by
  have carried : Carried (fun _ _ => True) (Spared 15) (afterFailures 15) := by
    have small : 15 ≤ 16 := by decide
    apply carried_afterFailures small trivial _ 15 le_rfl
    intro count few
    left
    rwa [afterFailures, List.length_replicate]
  obtain ⟨opt, present, -, counts, last⟩ := salvages_bounded carried
  exact ⟨opt, present, counts le_rfl, fun lookup unreachable => last rfl _ lookup unreachable .kept⟩

/-- Where every neighbour fails, the packet is salvaged for a sixteenth time, and the count
starts anew. -/
theorem salvaged_sixteen_times :
    Carried (fun dp srt => srt = foundRoute dp.src dp.dst srt.addrs ∧ srt.nodes.Nodup)
        (fun _ _ => True) (afterFailures 16) ∧
      15 < (afterFailures 16).salvagers.length ∧
      (afterFailures 16).dp.srtOpt.map DsrSrtOpt.salv = some 0 := by
  refine ⟨?_, by decide, rfl⟩
  exact carried_afterFailures le_rfl ⟨rfl, by decide⟩ (fun _ _ => trivial) 16 le_rfl

end

end SyncFanet.Dsr
