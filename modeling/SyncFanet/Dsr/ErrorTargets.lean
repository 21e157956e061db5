import SyncFanet.Dsr.SalvageRuns

/-!
# Whom a route error reaches

A packet stands at one position of its source route, also when it has been salvaged: the
nodes up to the one that salvages it stay on the route, unless that is the source.
-/

set_option autoImplicit false

namespace SyncFanet.Dsr

/-! ## Routes that fit the option -/

/-- The packet starts with a cached route without loops, which fits the option. -/
structure StartsWell (dp : DsrPkt) (srt : DsrSrt) : Prop where
  cached : srt = foundRoute dp.src dp.dst srt.addrs
  distinct : srt.nodes.Nodup
  fits : srt.addrs.length ≤ 63
  unicast : dp.dst ≠ dsrBroadcast
  payload : dp.payloadLen ≠ 0
  unsalvaged : dp.salvage = 0

/-- The new route fits the option too. -/
def SalvageFits (carrier : Carrier) (srt : DsrSrt) : Prop :=
  ∀ opt, carrier.dp.srtOpt = some opt →
    (salvagedAddrs carrier.node carrier.dp opt srt.addrs).length ≤ 63

/-! ## Positions -/

section

variable {nodes : List InAddr} {node : InAddr} {i j : Nat}

theorem position_unique (distinct : nodes.Nodup) (first : nodes[i]? = some node)
    (second : nodes[j]? = some node) : i = j := by
  have inside : i < nodes.length := (List.getElem?_eq_some_iff.mp first).1
  exact (List.getElem?_inj inside distinct).mp (first.trans second.symm)

theorem takeWhile_position (distinct : nodes.Nodup) (here : nodes[i]? = some node) :
    nodes.takeWhile (· ≠ node) = nodes.take i := by
  induction nodes generalizing i with
  | nil => simp at here
  | cons first rest ih =>
      obtain ⟨fresh, distinct⟩ := List.nodup_cons.mp distinct
      cases i with
      | zero =>
          rw [List.getElem?_cons_zero] at here
          simp [Option.some.inj here]
      | succ i =>
          rw [List.getElem?_cons_succ] at here
          have other : first ≠ node := by
            intro same
            exact fresh (same ▸ List.mem_of_getElem? here)
          rw [List.takeWhile_cons_of_pos (by simpa using other), List.take_succ_cons,
            ih distinct here]

end

/-- The carrier stands on the route of the packet, behind as many hops as the packet has
made, and so does the node of the last salvage. -/
structure OnRoute (carrier : Carrier) (routed : RoutedPacket) (ids : List Nat) : Prop where
  well : routed.WellFormed
  fits : routed.addrs.length ≤ 63
  leaves : Leaves routed carrier.hops ids carrier.dp.ttl carrier.dp
  srtOpt : carrier.dp.srtOpt = some (routed.option carrier.hops)
  here : (routed.src :: routed.addrs)[carrier.hops]? = some carrier.node
  next : (routed.addrs ++ [routed.dst])[carrier.hops]? = some carrier.dp.nxtHop
  salv : routed.salv = carrier.salvagers.length % 2 ^ 4
  last : ∀ node hops, carrier.salvagers.getLast? = some (node, hops) →
    (routed.src :: routed.addrs)[hops]? = some node ∧ hops ≤ carrier.hops

section

variable {carrier : Carrier} {routed : RoutedPacket} {ids : List Nat} {dp dp' : DsrPkt}

theorem OnRoute.inside (onRoute : OnRoute carrier routed ids) :
    carrier.hops ≤ routed.addrs.length := by
  have inside := (List.getElem?_eq_some_iff.mp onRoute.here).1
  rw [List.length_cons] at inside
  omega

theorem dsrSrtNextHop_position {srt : DsrSrt} {i : Nat} {nxtHop : InAddr}
    (sized : srt.count = srt.addrs.length) (inside : i ≤ srt.addrs.length)
    (hop : dsrSrtNextHop srt ((srt.addrs.length - i : Nat) : Int) = .ok nxtHop) :
    (srt.addrs ++ [srt.dst])[i]? = some nxtHop := by
  have within : i < (srt.addrs ++ [srt.dst]).length := by
    simp
    omega
  have here := List.getElem?_eq_getElem within
  rw [dsrSrtNextHop_at sized here] at hop
  cases hop
  exact here

theorem onRoute_source {srt : DsrSrt} {etxActive : Bool} {costs : List EtxCost}
    (fresh : dp.opth = []) (starts : StartsWell dp srt)
    (added : dsrSrtAdd dp srt = .ok dp') (cost : addCost etxActive srt = .ok costs) :
    ∃ routed ids, OnRoute
      { node := dp.src, dp := { dp' with costVector := costs }, hops := 0, salvagers := [] }
      routed ids := by
  obtain ⟨cached, distinct, fits, unicast, payload, unsalvaged⟩ := starts
  obtain ⟨nxtHop, hop, added⟩ := bind_ok.mp added
  cases added
  rw [cached] at distinct hop cost ⊢
  have free : costs = [] := by
    have none : (foundRoute dp.src dp.dst srt.addrs).cost = [] := rfl
    rw [addCost, if_pos (Or.inr none)] at cost
    cases cost
    rfl
  let routed : RoutedPacket :=
    { src := dp.src, dst := dp.dst, addrs := srt.addrs, salv := 0, payloadLen := dp.payloadLen }
  have option : dsrSrtOptAdd dp.salvage (foundRoute dp.src dp.dst srt.addrs) =
      routed.option 0 := by
    have small : srt.addrs.length % 2 ^ 6 = srt.addrs.length := Nat.mod_eq_of_lt (by omega)
    have short : (srt.addrs.length * 4 + 2) % 2 ^ 8 = 4 * srt.addrs.length + 2 := by omega
    rw [dsrSrtOptAdd, foundRoute_count, unsalvaged, small]
    simp only [foundRoute, dsrAddressSize, short]
    rfl
  refine ⟨routed, [], ?_⟩
  constructor
  · exact ⟨distinct, unicast, payload⟩
  · exact fits
  · exact ⟨rfl, rfl, rfl, rfl, free, by simp [fresh, option]⟩
  · exact congrArg some option
  · rfl
  · have counts := foundRoute_count dp.src dp.dst srt.addrs
    rw [counts] at hop
    exact dsrSrtNextHop_position counts (Nat.zero_le _) hop
  · rfl
  · intro node hops none
    cases none

/-! ## The next hop -/

theorem OnRoute.transmitted {ackReq : Option Nat} {p : DSRPkt}
    (onRoute : OnRoute carrier routed ids) (sent : omnetXmit ackReq carrier.dp = some p) :
    ∃ ids' ttl, p = routed.onLink carrier.hops ids' ttl := by
  obtain ⟨ids', onLink⟩ :=
    transmitted_onLink onRoute.well.unicast onRoute.leaves onRoute.next sent
  exact ⟨ids', _, onLink⟩

theorem OnRoute.forward {ackReq : Option Nat} {p : DSRPkt} {next : InAddr} {hop : Hop}
    {received : Received} (onRoute : OnRoute carrier routed ids)
    (sent : omnetXmit ackReq carrier.dp = some p) (reaches : p.nextAddress = some next)
    (processed : processDsr hop.handlers hop.now { hop.node with myaddr := next }
      { p with ttl := hop.ttl } = .ok received)
    (fate : received.fate = .xmit dp') :
    ∃ ids', OnRoute
      { node := next, dp := dp', hops := carrier.hops + 1, salvagers := carrier.salvagers }
      routed ids' := by
  obtain ⟨ids', ttl, rfl⟩ := onRoute.transmitted sent
  have reached : (routed.addrs ++ [routed.dst])[carrier.hops]? = some next := reaches
  have within := onRoute.inside
  let host : Node := { hop.node with myaddr := next }
  rcases Nat.lt_or_eq_of_le within with between | atEnd
  · have further : carrier.hops + 1 < (routed.addrs ++ [routed.dst, routed.dst]).length := by
      simp
      omega
    have ahead := List.getElem?_eq_getElem further
    rcases Nat.eq_zero_or_pos hop.ttl with dead | alive
    · obtain ⟨freed, ran, free⟩ : ∃ freed, processDsr hop.handlers hop.now host
          (routed.onLink carrier.hops ids' 0) = .ok freed ∧ freed.fate = .free :=
        processDsr_dead _ _ ⟨onRoute.well, between, reached, onRoute.here, ahead⟩
      rw [← dead] at ran
      cases ran.symm.trans processed
      cases free.symm.trans fate
    · obtain ⟨passed, dp, ran, transmits, leaves, -, nxtHop⟩ : ∃ passed dp,
          processDsr hop.handlers hop.now host (routed.onLink carrier.hops ids' hop.ttl) =
            .ok passed ∧ passed.fate = .xmit dp ∧
          Leaves routed (carrier.hops + 1) ids' hop.ttl dp ∧ dp.prvHop = carrier.node ∧
          dp.nxtHop = (routed.addrs ++ [routed.dst, routed.dst])[carrier.hops + 1] :=
        processDsr_relay _ _ ⟨onRoute.well, between, reached, onRoute.here, ahead⟩ alive
      cases ran.symm.trans processed
      cases transmits.symm.trans fate
      obtain ⟨opt', kept, -⟩ := processDsr_xmit
        (p := { routed.onLink carrier.hops ids' carrier.dp.ttl with ttl := hop.ttl }) rfl processed
        fate
      refine ⟨ids', onRoute.well, onRoute.fits, ?_, ?_, ?_, ?_, onRoute.salv, ?_⟩
      · rw [leaves.ttl]
        exact leaves
      · have same := leaves.options.symm.trans kept.routed.options
        rw [kept.routed.srtOpt]
        simp at same
        rw [same]
      · show routed.addrs[carrier.hops]? = some next
        rwa [List.getElem?_append_left between] at reached
      · have same : routed.addrs ++ [routed.dst, routed.dst] =
            (routed.addrs ++ [routed.dst]) ++ [routed.dst] := by
          simp
        have inside : carrier.hops + 1 < (routed.addrs ++ [routed.dst]).length := by
          simp
          omega
        rw [nxtHop, ← ahead, same, List.getElem?_append_left inside]
      · intro node hops last
        obtain ⟨there, before⟩ := onRoute.last node hops last
        exact ⟨there, Nat.le_succ_of_le before⟩
  · -- the packet has arrived, and is delivered
    have arrived : routed.dst = next := by
      rw [atEnd] at reached
      simpa using reached
    have previous := onRoute.here
    rw [atEnd] at previous
    obtain ⟨given, dp, ran, delivers, -⟩ : ∃ given dp, processDsr hop.handlers hop.now host
        (routed.onLink routed.addrs.length ids' hop.ttl) = .ok given ∧
        given.fate = .deliver dp ∧ dp.src = routed.src ∧ dp.dst = routed.dst ∧
        dp.payloadLen = routed.payloadLen ∧ dp.prvHop = carrier.node :=
      processDsr_last _ _ onRoute.well arrived previous
    rw [← atEnd] at ran
    cases ran.symm.trans processed
    cases delivers.symm.trans fate

/-! ## A salvage -/

theorem Failed.onRoute (onRoute : OnRoute carrier routed ids) (failed : Failed carrier.dp dp) :
    ∃ ids', Leaves routed carrier.hops ids' dp.ttl dp ∧
      dp.srtOpt = some (routed.option carrier.hops) ∧ dp.nxtHop = carrier.dp.nxtHop := by
  cases failed with
  | kept => exact ⟨ids, onRoute.leaves, onRoute.srtOpt, rfl⟩
  | @returned useNetworkLayerAck ackReq _ _ sent next =>
      obtain ⟨ids', ttl, rfl⟩ := onRoute.transmitted sent
      have hop : (routed.addrs ++ [routed.dst])[carrier.hops]? = some _ := next
      refine ⟨ids', ⟨rfl, rfl, rfl, rfl, rfl, rfl⟩, rfl, ?_⟩
      exact Option.some.inj (hop.symm.trans onRoute.next)

theorem OnRoute.atSource_iff (onRoute : OnRoute carrier routed ids)
    (dst : dp.dst = routed.dst) (nxtHop : dp.nxtHop = carrier.dp.nxtHop) (i : Nat) :
    AtSource dp (routed.option i) ↔ carrier.hops = 0 := by
  have distinct : (routed.addrs ++ [routed.dst]).Nodup :=
    (List.nodup_cons.mp onRoute.well.distinct).2
  have first : (routed.addrs ++ [dp.dst]).head? = (routed.addrs ++ [routed.dst])[0]? := by
    rw [dst, List.head?_eq_getElem?]
  unfold AtSource
  constructor
  · intro head
    rw [show (routed.option i).addrs = routed.addrs from rfl, first, nxtHop] at head
    exact position_unique distinct onRoute.next head
  · intro start
    have next := onRoute.next
    rw [start] at next
    rw [nxtHop, ← next]
    exact first

/-- The new route leads through the node that salvages the packet, as far from the source
as before. -/
theorem OnRoute.split (onRoute : OnRoute carrier routed ids)
    (dst : dp.dst = routed.dst) (nxtHop : dp.nxtHop = carrier.dp.nxtHop) (route : PathCacheRoute) :
    ∃ before : List InAddr, before.length = carrier.hops ∧
      routed.src :: salvagedAddrs carrier.node dp (routed.option carrier.hops) route =
        before ++ carrier.node :: route := by
  have source := onRoute.atSource_iff dst nxtHop carrier.hops
  have here := onRoute.here
  cases position : carrier.hops with
  | zero =>
      rw [position] at source here
      refine ⟨[], rfl, ?_⟩
      rw [salvagedAddrs, if_pos (source.mpr rfl), Option.some.inj here]
      rfl
  | succ h =>
      rw [position] at source here
      have relay : ¬AtSource dp (routed.option (h + 1)) := by
        intro first
        exact Nat.succ_ne_zero h (source.mp first)
      have distinct : routed.addrs.Nodup := by
        have distinct := (List.nodup_cons.mp onRoute.well.distinct).2
        exact (List.nodup_append.mp distinct).1
      have there : routed.addrs[h]? = some carrier.node := here
      have inside := (List.getElem?_eq_some_iff.mp there).1
      refine ⟨routed.src :: routed.addrs.take h, by simp; omega, ?_⟩
      rw [salvagedAddrs, if_neg relay, show (routed.option (h + 1)).addrs = routed.addrs from rfl,
        takeWhile_position distinct there]
      rfl

theorem OnRoute.salvage {srt : DsrSrt} {lookup : Lookup} (onRoute : OnRoute carrier routed ids)
    (failed : Failed carrier.dp dp) (found : lookup.route carrier.node dp.dst = some srt)
    (fits : SalvageFits carrier srt)
    (salvaged : salvagePacket carrier.node dp (some srt) = .ok (some dp')) :
    ∃ routed' ids', OnRoute
      { node := carrier.node, dp := dp', hops := carrier.hops
        salvagers := carrier.salvagers ++ [(carrier.node, carrier.hops)] } routed' ids' := by
  obtain ⟨ids', leaves, srtOpt, nxtHop⟩ := Failed.onRoute onRoute failed
  have routes : Routed dp (routed.option carrier.hops) ids' := ⟨leaves.options, srtOpt⟩
  rw [Lookup.route_some found] at salvaged
  obtain ⟨opt', made⟩ := salvagePacket_some routes salvaged
  obtain ⟨before, long, split⟩ := onRoute.split leaves.dst nxtHop srt.addrs
  have source := onRoute.atSource_iff leaves.dst nxtHop carrier.hops
  have sent := onRoute.atSource_iff onRoute.leaves.dst rfl carrier.hops
  have fits := fits _ onRoute.srtOpt
  have same : salvagedAddrs carrier.node carrier.dp (routed.option carrier.hops) srt.addrs =
      salvagedAddrs carrier.node dp (routed.option carrier.hops) srt.addrs := by
    unfold salvagedAddrs
    simp only [source, sent]
  rw [same] at fits
  generalize whole : salvagedAddrs carrier.node dp (routed.option carrier.hops) srt.addrs =
    addrs at split fits
  let routed' : RoutedPacket :=
    { src := routed.src, dst := routed.dst, addrs := addrs, salv := opt'.salv
      payloadLen := routed.payloadLen }
  have starts : (if AtSource dp (routed.option carrier.hops) then carrier.node else dp.src) =
      routed.src := by
    by_cases first : AtSource dp (routed.option carrier.hops)
    · have here := onRoute.here
      rw [source.mp first] at here
      rw [if_pos first]
      exact (Option.some.inj here).symm
    · rw [if_neg first, leaves.src]
  have distinct := made.distinct
  have next := made.next
  rw [salvagedNodes, starts, whole, leaves.dst] at distinct
  rw [starts, whole, leaves.dst] at next
  have count : addrs.length = carrier.hops + srt.addrs.length := by
    have lengths := congrArg List.length split
    simp only [List.length_cons, List.length_append] at lengths
    omega
  have left : opt'.sleft = addrs.length - carrier.hops := by
    have short : srt.addrs.length % 2 ^ 6 = srt.addrs.length := Nat.mod_eq_of_lt (by omega)
    rw [made.sleft, short, count, Nat.add_sub_cancel_left]
  let srt' : DsrSrt :=
    { src := routed.src, dst := routed.dst, flags := 0, laddrs := addrs.length * 4, addrs := addrs
      cost := [] }
  have sized : srt'.count = addrs.length := Nat.mul_div_cancel _ (by decide)
  have inside : carrier.hops ≤ addrs.length := by omega
  have option : opt' = routed'.option carrier.hops := by
    have length := made.length
    have addrs' := made.addrs
    rw [whole] at length addrs'
    cases opt' with
    | mk length' salv sleft nodes =>
        dsimp only at length addrs' left
        rw [length, addrs', left]
        have short : (addrs.length * 4 + 2) % 2 ^ 8 = dsrAddressSize * addrs.length + 2 := by
          rw [dsrAddressSize]
          omega
        rw [short]
        rfl
  have reaches : (routed'.src :: routed'.addrs)[carrier.hops]? = some carrier.node := by
    show (routed.src :: addrs)[carrier.hops]? = _
    rw [split, ← long, List.getElem?_append_right le_rfl, Nat.sub_self]
    rfl
  refine ⟨routed', ids', ⟨distinct, onRoute.well.unicast, onRoute.well.payload⟩, fits, ?_, ?_,
    reaches, ?_, ?_, ?_⟩
  · refine ⟨made.src.trans leaves.src, made.dst.trans leaves.dst, rfl,
      made.payloadLen.trans leaves.payload, made.free, ?_⟩
    rw [made.routed.options, option]
  · rw [made.routed.srtOpt, option]
  · rw [left] at next
    exact dsrSrtNextHop_position sized inside next
  · have counted : (routed.option carrier.hops).salv = carrier.salvagers.length % 2 ^ 4 :=
      onRoute.salv
    show opt'.salv = _
    rw [made.salv, counted, List.length_append, List.length_singleton, Nat.mod_add_mod]
  · intro node hops last
    rw [List.getLast?_concat] at last
    cases last
    exact ⟨reaches, le_rfl⟩

theorem carried_onRoute (carried : Carried StartsWell SalvageFits carrier) :
    ∃ routed ids, OnRoute carrier routed ids := by
  induction carried with
  | source fresh unsalvaged starts added cost => exact onRoute_source fresh starts added cost
  | forward before sent reaches processed fate ih =>
      obtain ⟨routed, ids, onRoute⟩ := ih
      exact ⟨routed, onRoute.forward sent reaches processed fate⟩
  | salvage before failed found allows salvaged ih =>
      obtain ⟨routed, ids, onRoute⟩ := ih
      exact onRoute.salvage failed found allows salvaged

/-! ## Route errors -/

/-- Each route error that a node sends about a lost packet is for the node that chose the
route, and no address is read beyond the option. -/
def ErrorsReach (carrier : Carrier) (dp : DsrPkt) (opt : DsrSrtOpt) : Prop :=
  ∀ (maxSalvageCount : Nat) (rtcFind : InAddr → Option DsrSrt) (unreachable : InAddr),
    (∀ dst srt, rtcFind dst = some srt → srt = foundRoute carrier.node dst srt.addrs) →
      ∃ sent, dsrRerrSend carrier.node maxSalvageCount rtcFind dp unreachable = .ok sent ∧
        ∀ rerr, sent = some rerr → rerr.dst ≠ carrier.node ∧
          if opt.salv = 0 then rerr.dst = dp.src
          else ∃ hops, carrier.salvagers.getLast? = some (rerr.dst, hops)

/-- The condition: the count of the salvages stands at zero, or the last salvage was made
two hops behind the source and the packet has been passed on since. -/
def SalvagedSecond (carrier : Carrier) : Prop :=
  carrier.salvagers.length % 2 ^ 4 = 0 ∨
    (carrier.salvagers.getLast?.map Prod.snd = some 2 ∧ carrier.hops ≠ 2)

variable {opt : DsrSrtOpt}

theorem errorsReach_addressed (option : dp.srtOpt = some opt) (other : dp.src ≠ carrier.node) :
    ErrorsReach carrier dp opt ↔
      ∃ dst, rerrDst dp opt = .ok dst ∧ dst ≠ carrier.node ∧
        if opt.salv = 0 then dst = dp.src
        else ∃ hops, carrier.salvagers.getLast? = some (dst, hops) := by
  constructor
  · intro reach
    let neighbours : InAddr → Option DsrSrt := fun dst => some (foundRoute carrier.node dst [])
    have cached : ∀ dst srt, neighbours dst = some srt →
        srt = foundRoute carrier.node dst srt.addrs := by
      intro dst srt known
      cases known
      rfl
    obtain ⟨sent, ran, right⟩ := reach 0 neighbours 0 cached
    cases addressed : rerrDst dp opt with
    | error fault =>
        simp [dsrRerrSend, option, if_neg other, addressed, Except.bind] at ran
    | ok dst =>
        have known : neighbours dst = some (foundRoute carrier.node dst []) := rfl
        obtain ⟨rerr, told, -, toDst, -⟩ :=
          dsrRerrSend_told 0 0 option other addressed known rfl
        cases ran.symm.trans told
        have right := right rerr rfl
        rw [toDst] at right
        exact ⟨dst, rfl, right⟩
  · rintro ⟨dst, addressed, right⟩ maxSalvageCount rtcFind unreachable cached
    cases known : rtcFind dst with
    | none =>
        refine ⟨none, ?_, ?_⟩
        · simp [dsrRerrSend, option, addressed, Except.bind, known]
        · intro rerr sent
          cases sent
    | some srt =>
        obtain ⟨rerr, told, -, toDst, -⟩ := dsrRerrSend_told maxSalvageCount unreachable option
          other addressed known (cached dst srt known)
        refine ⟨some rerr, told, ?_⟩
        intro rerr' same
        cases same
        rw [toDst]
        exact right

theorem OnRoute.addressed_iff (onRoute : OnRoute carrier routed ids) (src : dp.src = routed.src)
    (relay : carrier.node ≠ routed.src) :
    (∃ dst, rerrDst dp (routed.option carrier.hops) = .ok dst ∧ dst ≠ carrier.node ∧
      if (routed.option carrier.hops).salv = 0 then dst = dp.src
      else ∃ hops, carrier.salvagers.getLast? = some (dst, hops)) ↔ SalvagedSecond carrier := by
  have distinct : (routed.src :: routed.addrs).Nodup := (List.nodup_append.mp onRoute.well.distinct).1
  have salv : (routed.option carrier.hops).salv = carrier.salvagers.length % 2 ^ 4 := onRoute.salv
  by_cases zero : carrier.salvagers.length % 2 ^ 4 = 0
  · rw [zero] at salv
    constructor
    · intro _
      exact .inl zero
    · intro _
      refine ⟨dp.src, by rw [rerrDst, if_pos salv], ?_, ?_⟩
      · rw [src]
        exact relay.symm
      · rw [if_pos salv]
  · have counted : (routed.option carrier.hops).salv ≠ 0 := by
      rw [salv]
      exact zero
    have read : rerrDst dp (routed.option carrier.hops) = at? routed.addrs 1 := if_neg counted
    simp only [read, if_neg counted]
    constructor
    · rintro ⟨dst, second, other, hops, last⟩
      obtain ⟨there, -⟩ := onRoute.last dst hops last
      have here : (routed.src :: routed.addrs)[2]? = some dst := by
        unfold at? at second
        split at second
        · cases second
        · next item found =>
            cases second
            exact found
      have two := position_unique distinct there here
      right
      refine ⟨by simp [last, two], ?_⟩
      intro same
      have node := onRoute.here
      rw [same, here] at node
      exact other (Option.some.inj node)
    · intro second
      rcases second with none | ⟨two, further⟩
      · exact absurd none zero
      · obtain ⟨⟨node, hops⟩, last, same⟩ := Option.map_eq_some_iff.mp two
        have same : hops = 2 := same
        obtain ⟨there, -⟩ := onRoute.last node hops last
        rw [same] at there
        have found : routed.addrs[1]? = some node := there
        refine ⟨node, by rw [at?, found], ?_, hops, last⟩
        intro here
        rw [here] at there
        exact further (position_unique distinct onRoute.here there)

end

/-! ## A relay behind the node 1 -/

def noOthers : Handlers where
  rreqOptRecv := fun _ _ _ _ => .error .outOfBounds
  rrepOptRecv := fun _ _ _ _ => .error .outOfBounds
  rerrOptRecv := fun _ _ _ _ => .error .outOfBounds
  ackOptRecv := fun _ _ _ _ => .error .outOfBounds

/-- The relay of the packet after a number of failures. -/
def atRelay (count : Nat) : Carrier where
  node := count + 2
  dp :=
    { sentTo (count + 2) (count % 2 ^ 4) with
      nxtHop := 99, prvHop := 1, salvage := count % 2 ^ 4
      opth := [[.srt { length := 6, salv := count % 2 ^ 4, sleft := 0, addrs := [count + 2] }]]
      srtOpt := some { length := 6, salv := count % 2 ^ 4, sleft := 0, addrs := [count + 2] }
      srt := some { foundRoute 1 99 [count + 2] with flags := srtBidir, laddrs := 6 } }
  hops := 1
  salvagers := List.replicate count (1, 0)

def toRelay (count : Nat) : DSRPkt where
  src := 1
  dst := 99
  nextAddress := some (count + 2)
  ttl := 64
  payloadLen := 512
  dsrOptions := (sentTo (count + 2) (count % 2 ^ 4)).opth
  costVector := []

def relayHop : Hop where
  handlers := noOthers
  now := 0
  node := (oneRelay 2).node
  ttl := 64
  ackReq := none

theorem processDsr_toRelay : ∀ count : Nat, count ≤ 1 →
    ∃ received, processDsr relayHop.handlers relayHop.now
        { relayHop.node with myaddr := count + 2 } { toRelay count with ttl := relayHop.ttl } =
          .ok received ∧
      received.fate = .xmit (atRelay count).dp
  | 0, _ => ⟨_, rfl, rfl⟩
  | 1, _ => ⟨_, rfl, rfl⟩

theorem startsWell_unsent : StartsWell unsent (foundRoute 1 99 [2]) where
  cached := rfl
  distinct := by decide
  fits := by decide
  unicast := by decide
  payload := by decide
  unsalvaged := rfl

theorem carried_atRelay : ∀ count : Nat, count ≤ 1 →
    Carried StartsWell SalvageFits (atRelay count) := by
  intro count few
  have small : 1 ≤ 16 := by decide
  have fits : ∀ count : Nat, count < 1 →
      SalvageFits (afterFailures count) (foundRoute 1 99 [count + 3]) := by
    intro count first opt present
    cases Nat.lt_one_iff.mp first
    cases present
    decide
  have before := carried_afterFailures small startsWell_unsent fits count few
  obtain ⟨received, processed, fate⟩ := processDsr_toRelay count few
  have sent : omnetXmit none (afterFailures count).dp = some (toRelay count) := rfl
  exact .forward before sent rfl processed fate

/-! ## Whom the errors reach -/

section

variable {carrier : Carrier} {dp : DsrPkt} {opt : DsrSrtOpt}

/-- A failure at a relay is reported to the right node under the condition, and only then. -/
theorem errorsReach_iff (carried : Carried StartsWell SalvageFits carrier)
    (failed : Failed carrier.dp dp) (option : dp.srtOpt = some opt)
    (relay : carrier.node ≠ carrier.dp.src) :
    ErrorsReach carrier dp opt ↔ SalvagedSecond carrier := by
  obtain ⟨routed, ids, onRoute⟩ := carried_onRoute carried
  obtain ⟨ids', leaves, srtOpt, -⟩ := Failed.onRoute onRoute failed
  cases option.symm.trans srtOpt
  have start : carrier.dp.src = routed.src := onRoute.leaves.src
  rw [start] at relay
  have other : dp.src ≠ carrier.node := by
    rw [leaves.src]
    exact relay.symm
  rw [errorsReach_addressed option other]
  exact onRoute.addressed_iff leaves.src relay

theorem errorsReach_unsalvaged :
    ErrorsReach (atRelay 0) (atRelay 0).dp
      { length := 6, salv := 0, sleft := 0, addrs := [2] } :=
  (errorsReach_iff (carried_atRelay 0 (by decide)) .kept rfl (by decide)).mpr (.inl rfl)

/-- The source has salvaged the packet, and the option of its new route has one address. -/
theorem not_errorsReach_salvaged :
    Carried StartsWell SalvageFits (atRelay 1) ∧ (atRelay 1).node ≠ (atRelay 1).dp.src ∧
      (∀ maxSalvageCount rtcFind unreachable,
        dsrRerrSend 3 maxSalvageCount rtcFind (atRelay 1).dp unreachable = .error .outOfBounds) ∧
      ¬ErrorsReach (atRelay 1) (atRelay 1).dp
        { length := 6, salv := 1, sleft := 0, addrs := [3] } := by
  have beyond : ∀ maxSalvageCount rtcFind unreachable,
      dsrRerrSend 3 maxSalvageCount rtcFind (atRelay 1).dp unreachable = .error .outOfBounds :=
    fun _ _ _ => rfl
  refine ⟨carried_atRelay 1 le_rfl, by decide, beyond, ?_⟩
  intro reach
  obtain ⟨sent, ran, -⟩ := reach 0 (fun _ => none) 0 (fun _ _ none => by cases none)
  cases (beyond 0 _ 0).symm.trans ran

end

end SyncFanet.Dsr
