import Mathlib.Data.List.GetD
import SyncFanet.Dsr.LearnedPaths
import SyncFanet.Dsr.Receive

/-!
# Forwarding along a source route

A data packet with a source route goes from node to node: each receives it with
`dsr_recv` and transmits it to the next hop. The states of the nodes, the times, the
acknowledgement requests and the remaining time to live are those of the environment.
-/

set_option autoImplicit false

namespace SyncFanet.Dsr

/-! ## Hops of a route -/

section

variable {srt : DsrSrt} {i : Nat}

theorem atInt_ofNat {Item : Type} {items : List Item} (inside : i < items.length) :
    atInt items (i : Int) = .ok items[i] := by
  have notNegative : ¬ (i : Int) < 0 := by omega
  rw [atInt, if_neg notNegative, Int.toNat_natCast, at?, List.getElem?_eq_getElem inside]

/-- With as many segments left as there are nodes from a position on, the next hop is the
node at this position. -/
theorem dsrSrtNextHop_at {hop : InAddr} (sized : srt.count = srt.addrs.length)
    (here : (srt.addrs ++ [srt.dst])[i]? = some hop) :
    dsrSrtNextHop srt ((srt.addrs.length - i : Nat) : Int) = .ok hop := by
  cases Nat.lt_or_ge i srt.addrs.length with
  | inl relay =>
      have left : ¬ ((srt.addrs.length - i : Nat) : Int) ≤ 0 := by omega
      have index : (srt.count : Int) - ((srt.addrs.length - i : Nat) : Int) = (i : Int) := by omega
      rw [List.getElem?_append_left relay, List.getElem?_eq_getElem relay] at here
      rw [dsrSrtNextHop, if_neg left, index, atInt_ofNat relay, Option.some.inj here]
  | inr last =>
      have left : ((srt.addrs.length - i : Nat) : Int) ≤ 0 := by omega
      rw [List.getElem?_append_right last] at here
      obtain ⟨inside, same⟩ := List.getElem?_eq_some_iff.mp here
      rw [dsrSrtNextHop, if_pos left]
      simpa using same

theorem dsrSrtPrevHop_at {hop : InAddr} (sized : srt.count = srt.addrs.length)
    (inside : i ≤ srt.addrs.length) (here : (srt.src :: srt.addrs)[i]? = some hop) :
    dsrSrtPrevHop srt (((srt.addrs.length - i : Nat) : Int) - 1) = .ok hop := by
  cases i with
  | zero =>
      have first : (srt.count : Int) - 1 = ((srt.addrs.length - 0 : Nat) : Int) - 1 := by omega
      rw [dsrSrtPrevHop, if_pos first]
      exact congrArg Except.ok (Option.some.inj here)
  | succ i =>
      have later : ¬ (srt.count : Int) - 1 = ((srt.addrs.length - (i + 1) : Nat) : Int) - 1 := by
        omega
      have index : (srt.count : Int) - 2 - (((srt.addrs.length - (i + 1) : Nat) : Int) - 1) =
          (i : Int) := by omega
      rw [List.getElem?_cons_succ, List.getElem?_eq_getElem inside] at here
      rw [dsrSrtPrevHop, if_neg later, index, atInt_ofNat inside, Option.some.inj here]

theorem dsrSrtNextHop_after {hop : InAddr} (sized : srt.count = srt.addrs.length)
    (inside : i ≤ srt.addrs.length)
    (next : (srt.addrs ++ [srt.dst, srt.dst])[i + 1]? = some hop) :
    dsrSrtNextHop srt (((srt.addrs.length - i : Nat) : Int) - 1) = .ok hop := by
  have longer : srt.addrs ++ [srt.dst, srt.dst] = (srt.addrs ++ [srt.dst]) ++ [srt.dst] := by
    simp
  rw [longer] at next
  cases Nat.lt_or_eq_of_le inside with
  | inl relay =>
      have index : ((srt.addrs.length - i : Nat) : Int) - 1 =
          ((srt.addrs.length - (i + 1) : Nat) : Int) := by omega
      rw [List.getElem?_append_left (by simpa using relay)] at next
      rw [index]
      exact dsrSrtNextHop_at sized next
  | inr last =>
      have left : ((srt.addrs.length - i : Nat) : Int) - 1 ≤ 0 := by omega
      rw [List.getElem?_append_right (by simp [last])] at next
      rw [dsrSrtNextHop, if_pos left]
      simpa [last] using next

end

/-! ## Learning from the route -/

section

variable {srt : DsrSrt} {me : InAddr} {size : Nat}

theorem foldlM_same {Item Acc Error : Type} {step : Acc → Item → Except Error Acc} {acc : Acc}
    {items : List Item} (same : ∀ item ∈ items, step acc item = .ok acc) :
    items.foldlM step acc = .ok acc := by
  induction items with
  | nil => rfl
  | cons item rest ih =>
      rw [List.foldlM_cons, same item List.mem_cons_self]
      exact ih fun other member => same other (List.mem_cons_of_mem item member)

theorem cutToDest_other {cost : List Nat} {k : Nat} (inside : k < srt.addrs.length)
    (absent : me ∉ srt.addrs) : cutToDest me cost size srt k = .ok srt := by
  have different : srt.addrs[k] ≠ me := by
    intro same
    exact absent (same ▸ List.getElem_mem inside)
  simp [cutToDest, at?, List.getElem?_eq_getElem inside, different, Except.bind]

theorem cutToSrc_other {k : Nat} (inside : k < srt.addrs.length) (absent : me ∉ srt.addrs) :
    cutToSrc me size srt k = .ok srt := by
  have different : srt.addrs[k] ≠ me := by
    intro same
    exact absent (same ▸ List.getElem_mem inside)
  simp [cutToSrc, at?, List.getElem?_eq_getElem inside, different, Except.bind]

theorem splitToDest_ok {l : Nat} (absent : me ∉ srt.addrs.drop (l + 1)) :
    ∃ toDest, splitToDest srt me me l = .ok toDest ∧ ∀ route ∈ toDest, route.src = me := by
  unfold splitToDest
  by_cases done : ((srt.addrs.length : Int) - l - 1).toNat = 0
  · exact ⟨none, if_pos done, by simp⟩
  · have notFirst : ¬ (me = srt.src ∧ me ≠ me) := fun both => both.2 rfl
    have same : ((l : Int) + 1).toNat = l + 1 := by omega
    simp only [if_neg done, if_neg notFirst, same]
    rw [foldlM_same]
    · exact ⟨_, rfl, by simp⟩
    · intro k member
      rw [List.mem_range] at member
      exact cutToDest_other (by simp; omega) absent

theorem splitToSrc_ok (free : srt.cost = []) (inside : size ≤ srt.addrs.length)
    (absent : me ∉ srt.addrs.take size) :
    ∃ toSrc, splitToSrc srt me size = .ok toSrc ∧ ∀ route ∈ toSrc, route.src = me := by
  unfold splitToSrc
  by_cases done : size = 0
  · exact ⟨none, if_pos done, by simp⟩
  · have read : (List.range size).mapM (fun k : Nat => atInt srt.addrs ((size : Int) - k - 1)) =
        .ok ((List.range size).map fun k => srt.addrs.getD (size - k - 1) 0) := by
      apply mapM_ok
      intro k member
      rw [List.mem_range] at member
      have index : (size : Int) - k - 1 = ((size - k - 1 : Nat) : Int) := by omega
      rw [index, atInt_ofNat (by omega), List.getD_eq_getElem]
    have elsewhere : me ∉ (List.range size).map fun k => srt.addrs.getD (size - k - 1) 0 := by
      intro member
      obtain ⟨k, ranged, same⟩ := List.mem_map.mp member
      rw [List.mem_range] at ranged
      rw [List.getD_eq_getElem _ _ (by omega)] at same
      apply absent
      rw [← same, List.mem_take_iff_getElem]
      exact ⟨size - k - 1, by omega, rfl⟩
    rw [if_neg done, read, if_pos free]
    simp only [Except.bind]
    rw [foldlM_same]
    · exact ⟨_, rfl, by simp⟩
    · intro k member
      rw [List.mem_range] at member
      exact cutToSrc_other (by simpa using member) elsewhere

theorem dsrSrtSplitBoth_ok (sized : srt.count = srt.addrs.length) (free : srt.cost = [])
    (distinct : srt.nodes.Nodup) (member : me ∈ srt.addrs ++ [srt.dst]) :
    ∃ routes, dsrSrtSplitBoth srt me me = .ok routes ∧
      (∀ route ∈ routes.1, route.src = me) ∧ ∀ route ∈ routes.2, route.src = me := by
  have notFirst : me ≠ srt.src := by
    intro same
    exact (List.nodup_cons.mp distinct).1 (same ▸ member)
  unfold dsrSrtSplitBoth
  rw [DsrSrt.checkSize, if_pos sized]
  simp only [Except.bind, if_neg notFirst, ne_eq, not_true_eq_false, if_false]
  by_cases direct : srt.addrs.length = 0
  · exact ⟨(none, none), if_pos direct, by simp, by simp⟩
  rw [if_neg direct]
  by_cases last : me = srt.dst
  · have absent : me ∉ srt.addrs := by
      intro relay
      exact dst_fresh distinct (List.mem_cons_of_mem _ (last ▸ relay))
    rw [if_pos last, if_neg absent, if_pos last]
    have beyond : splitToDest srt me me ((srt.addrs.length : Int) + 1) = .ok none := by
      rw [splitToDest, if_pos (by omega)]
    obtain ⟨toSrc, split, mine⟩ := splitToSrc_ok free (Nat.le_refl srt.addrs.length)
      (fun early => absent (List.mem_of_mem_take early))
    rw [beyond, split]
    exact ⟨(none, toSrc), rfl, by simp, mine⟩
  · rw [if_neg last]
    have relay : me ∈ srt.addrs := by simpa [last] using member
    cases found : srt.addrs.findIdx? fun hop => me = hop with
    | none =>
        have missed := List.findIdx?_eq_none_iff.mp found me relay
        simp at missed
    | some i =>
        obtain ⟨inside, here, before⟩ := List.findIdx?_eq_some_iff_getElem.mp found
        have here' : me = srt.addrs[i] := by simpa using here
        have unique : srt.addrs.Nodup :=
          (distinct.sublist (List.sublist_cons_self _ _)).sublist (List.sublist_append_left _ _)
        have later : me ∉ srt.addrs.drop (i + 1) := by
          have rest := unique.sublist (List.drop_sublist i srt.addrs)
          rw [List.drop_eq_getElem_cons inside, ← here'] at rest
          exact (List.nodup_cons.mp rest).1
        have earlier : me ∉ srt.addrs.take i := by
          intro early
          rw [List.mem_take_iff_getElem] at early
          obtain ⟨j, bound, same⟩ := early
          have clash := before j (by omega)
          simp [same] at clash
        obtain ⟨toDest, split, mine⟩ := splitToDest_ok (l := i) later
        obtain ⟨toSrc, split', mine'⟩ := splitToSrc_ok free inside.le earlier
        simp only [split, if_neg last, split']
        exact ⟨(toDest, toSrc), rfl, mine, mine'⟩

end

theorem routeAdd_ok (now : SimTime) {node : Node} {srt : DsrSrt} (mine : srt.src = node.myaddr) :
    ∃ node', node.routeAdd now srt = .ok node' ∧ node'.myaddr = node.myaddr := by
  unfold Node.routeAdd
  cases node.config.pathCache with
  | false => exact ⟨_, rfl, rfl⟩
  | true =>
      have stores : StoresReported node.myaddr node.config.etxActive now node.paths srt
          node.config.routeCacheTimeout 0 false :=
        storesReported_iff_storedPaths.mpr (storedPaths_first mine.symm)
      obtain ⟨cache', stored, ran, -, -⟩ := stores
      rw [if_pos rfl, ran]
      exact ⟨_, rfl, rfl⟩

theorem routeAdd?_ok (now : SimTime) {node : Node} {srt : Option DsrSrt}
    (mine : ∀ route ∈ srt, route.src = node.myaddr) :
    ∃ node', node.routeAdd? now srt = .ok node' ∧ node'.myaddr = node.myaddr := by
  cases srt with
  | none => exact ⟨node, rfl, rfl⟩
  | some srt => exact routeAdd_ok now (mine srt rfl)

/-! ## One hop -/

section

variable {now : SimTime} {node : Node} {dp : DsrPkt} {opt : DsrSrtOpt} {srt : DsrSrt} {i : Nat}

theorem learn_ok {prvHop : InAddr} (sized : srt.count = srt.addrs.length) (free : srt.cost = [])
    (distinct : srt.nodes.Nodup) (member : node.myaddr ∈ srt.addrs ++ [srt.dst]) :
    ∃ learned, (if node.config.pathCache then
      (learnPaths now node srt node.myaddr prvHop).bind fun node => .ok (node, [])
      else learnLinks now node srt prvHop) = .ok learned := by
  cases mode : node.config.pathCache with
  | false =>
      simp only [Bool.false_eq_true, if_false, learnLinks, Node.routeAdd, mode, Except.bind]
      exact ⟨_, rfl⟩
  | true =>
      obtain ⟨routes, split, mine, mine'⟩ := dsrSrtSplitBoth_ok sized free distinct member
      obtain ⟨first, added, same⟩ : ∃ first,
          (node.phSrtAddNodeMap now prvHop).routeAdd? now routes.1 = .ok first ∧
            first.myaddr = node.myaddr := routeAdd?_ok now mine
      obtain ⟨second, added', -⟩ : ∃ second, first.routeAdd? now routes.2 = .ok second ∧
          second.myaddr = first.myaddr := routeAdd?_ok now fun route among =>
        (mine' route among).trans same.symm
      have learned : learnPaths now node srt node.myaddr prvHop = .ok second := by
        refine bind_ok.mpr ⟨routes, ?_, bind_ok.mpr ⟨first, added, added'⟩⟩
        simp only [Node.phSrtAddNodeMap, ne_eq, not_true_eq_false, if_false]
        exact split
      rw [if_pos rfl, learned]
      exact ⟨_, rfl⟩

theorem dsrSrtOptRecv_of {prvHop nxtHop : InAddr} {learned : Node × List Call}
    (direct : dp.hasFlag pktPromiscRecv = false) (free : dp.costVector = [])
    (route : dsrSrtNew dp.src dp.dst opt.length opt.addrs dp.costVector = .ok srt)
    (small : opt.sleft ≤ srt.count)
    (intended : dsrSrtNextHop srt opt.sleft = .ok node.myaddr)
    (previous : dsrSrtPrevHop srt ((opt.sleft : Int) - 1) = .ok prvHop)
    (next : dsrSrtNextHop srt ((opt.sleft : Int) - 1) = .ok nxtHop)
    (learns : (if node.config.pathCache then
      (learnPaths now node srt node.myaddr prvHop).bind fun node => .ok (node, [])
      else learnLinks now node srt prvHop) = .ok learned) :
    dsrSrtOptRecv now node dp opt = .ok {
      node := learned.1
      calls := Call.neighTblAdd prvHop :: learned.2
      dp := { dp with
        srt := some srt
        srtOpt := some { opt with sleft := opt.sleft - 1 }
        salvage := opt.salv
        prvHop := prvHop
        nxtHop := nxtHop }
      opt := { opt with sleft := opt.sleft - 1 }
      action := if opt.sleft = 0 then dsrPktSrtRemove else dsrPktForward } := by
  unfold dsrSrtOptRecv
  have own : (if node.myaddr ≠ node.myaddr then dsrSrtFindAddr srt node.myaddr opt.sleft
      else .ok false) = .ok false := if_neg fun other => other rfl
  refine bind_ok.mpr ⟨srt, route, bind_ok.mpr ⟨_, intended, bind_ok.mpr ⟨prvHop, previous,
    bind_ok.mpr ⟨nxtHop, next, bind_ok.mpr ⟨learned, learns, bind_ok.mpr ⟨false, own, ?_⟩⟩⟩⟩⟩⟩
  have flag : ({ dp with
      srt := some srt, srtOpt := some opt, salvage := opt.salv, prvHop := prvHop,
      nxtHop := nxtHop } : DsrPkt).hasFlag pktPromiscRecv = false := direct
  have costs : ∀ dp' : DsrPkt, dp'.costVector = [] → updateCost node dp' = [] := by
    intro dp' none
    rw [updateCost, none]
    rfl
  have bounded : ¬ opt.sleft > srt.count := Nat.not_lt.mpr small
  simp only [Bool.false_eq_true, false_and, if_false, flag, if_neg bounded]
  by_cases last : opt.sleft = 0
  · have same : opt = { opt with sleft := opt.sleft - 1 } := by rw [last, Nat.zero_sub, ← last]
    simp only [if_pos last, ← same]
  · have kept : (if node.config.etxActive = true then updateCost node { dp with
        srt := some srt, srtOpt := some opt, salvage := opt.salv, prvHop := prvHop,
        nxtHop := nxtHop } else dp.costVector) = dp.costVector := by
      split
      · exact (costs _ free).trans free.symm
      · rfl
    simp only [if_neg last, kept]

def DsrSrtOpt.route (opt : DsrSrtOpt) (dp : DsrPkt) : DsrSrt where
  src := dp.src
  dst := dp.dst
  flags := srtBidir
  laddrs := opt.length
  addrs := opt.addrs
  cost := []

/-- At the position `i` of the route the option counts one segment down, and asks to
forward the packet or, at the destination, to remove the route. -/
theorem dsrSrtOptRecv_at {prvHop nxtHop : InAddr}
    (sized : (opt.route dp).count = opt.addrs.length) (inside : i ≤ opt.addrs.length)
    (left : opt.sleft = opt.addrs.length - i) (distinct : (opt.route dp).nodes.Nodup)
    (direct : dp.hasFlag pktPromiscRecv = false) (free : dp.costVector = [])
    (here : (opt.addrs ++ [dp.dst])[i]? = some node.myaddr)
    (previous : (dp.src :: opt.addrs)[i]? = some prvHop)
    (next : (opt.addrs ++ [dp.dst, dp.dst])[i + 1]? = some nxtHop) :
    ∃ node' calls, dsrSrtOptRecv now node dp opt = .ok {
      node := node'
      calls := calls
      dp := { dp with
        srt := some (opt.route dp)
        srtOpt := some { opt with sleft := opt.sleft - 1 }
        salvage := opt.salv
        prvHop := prvHop
        nxtHop := nxtHop }
      opt := { opt with sleft := opt.sleft - 1 }
      action := if opt.sleft = 0 then dsrPktSrtRemove else dsrPktForward } := by
  have route : dsrSrtNew dp.src dp.dst opt.length opt.addrs dp.costVector =
      .ok (opt.route dp) := by
    rw [free]
    rfl
  have small : opt.sleft ≤ (opt.route dp).count := by omega
  have among : node.myaddr ∈ (opt.route dp).addrs ++ [(opt.route dp).dst] :=
    List.mem_of_getElem? here
  obtain ⟨learned, learns⟩ := learn_ok sized rfl distinct among
  refine ⟨learned.1, _, dsrSrtOptRecv_of direct free route small ?_ ?_ ?_ learns⟩
  · rw [left]
    exact dsrSrtNextHop_at sized here
  · rw [left]
    exact dsrSrtPrevHop_at sized inside previous
  · rw [left]
    exact dsrSrtNextHop_after sized inside next

/-! ## The other options and the actions -/

/-- The acknowledgement requests behind the source route leave the packet as it is, and are
answered to its previous hop. -/
theorem recvOptions_ackReqs {handlers : Handlers} (start : Recv (List DsrOpt)) (ids : List Nat)
    (direct : start.dp.hasFlag pktPromiscRecv = false) (routed : start.dp.srtOpt ≠ none) :
    recvOptions handlers now start (ids.map .ackReq) = .ok {
      node := start.node
      calls := start.calls ++ ids.map (.ackSend start.dp.prvHop)
      dp := start.dp
      opt := start.opt ++ ids.map .ackReq
      action := if ids = [] then start.action else start.action ||| dsrPktNone } := by
  induction ids generalizing start with
  | nil => simp [recvOptions]
  | cons id rest ih =>
      let handled : Recv (List DsrOpt) :=
        { node := start.node, calls := start.calls ++ [.ackSend start.dp.prvHop id],
          dp := start.dp, opt := start.opt ++ [.ackReq id],
          action := start.action ||| dsrPktNone }
      have acked : recvOption handlers now start.node start.dp (.ackReq id) = .ok
          { node := start.node, calls := [.ackSend start.dp.prvHop id], dp := start.dp,
            opt := .ackReq id, action := dsrPktNone } := by
        simp [recvOption, dsrAckReqOptRecv, direct, routed, Recv.map]
      rw [List.map_cons, recvOptions]
      refine bind_ok.mpr ⟨_, acked, (ih handled direct routed).trans (congrArg Except.ok ?_)⟩
      cases rest with
      | nil => simp [handled]
      | cons next rest =>
          simp only [handled, List.map_cons, List.append_assoc, List.cons_append, List.nil_append,
            reduceCtorEq, if_false, Nat.or_assoc, Nat.or_self]

theorem actLoop_forward (dp : DsrPkt) (extra : Bool) (alive : 0 < dp.ttl) :
    actLoop dp (if extra then dsrPktForward ||| dsrPktNone else dsrPktForward) dsrPktActionLast
      dsrPktNone = ([], .xmit dp) := by
  have living : ¬ dp.ttl < 1 := by omega
  cases extra <;>
    simp [actLoop, actOn, dsrPktActionLast, dsrPktForward, dsrPktNone, dsrPktDrop, dsrPktError,
      dsrPktForwardRreq, dsrPktSendBuffered, dsrPktDeliver, living]

theorem actLoop_dead (dp : DsrPkt) (extra : Bool) (dead : dp.ttl = 0) :
    actLoop dp (if extra then dsrPktForward ||| dsrPktNone else dsrPktForward) dsrPktActionLast
      dsrPktNone = ([], .free) := by
  cases extra <;>
    simp [actLoop, actOn, dsrPktActionLast, dsrPktForward, dsrPktNone, dsrPktDrop, dsrPktError,
      dsrPktForwardRreq, dsrPktSendBuffered, dsrPktDeliver, dead]

theorem actLoop_deliver (dp : DsrPkt) (extra : Bool) :
    actLoop dp (if extra then dsrPktDeliver ||| dsrPktSrtRemove ||| dsrPktNone
      else dsrPktDeliver ||| dsrPktSrtRemove) dsrPktActionLast dsrPktNone = ([], .deliver dp) := by
  cases extra <;>
    simp [actLoop, actOn, dsrPktActionLast, dsrPktForward, dsrPktNone, dsrPktDrop, dsrPktError,
      dsrPktForwardRreq, dsrPktSendBuffered, dsrPktDeliver, dsrPktSrtRemove]

end

end SyncFanet.Dsr
