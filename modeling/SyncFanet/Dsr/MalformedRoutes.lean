import Mathlib.Data.List.Infix
import SyncFanet.Dsr.CostVector
import SyncFanet.Dsr.SplitRoutes

/-!
# Malformed source routes

`dsr_srt_opt_recv` compares the segments left with the number of addresses only after it has
read the hops of the route. The other reads are in range where the costs of the packet and
the split of the route are.
-/

set_option autoImplicit false

namespace SyncFanet.Dsr

open DsrSrt

theorem ok_ne_error {Value : Type} {fault : Fault} (value : Value) :
    (.ok value : Except Fault Value) ≠ .error fault :=
  fun failed => by cases failed

/-! ## The costs of a received packet -/

section

variable {addrs : List InAddr} {cost : List EtxCost} {src dst : InAddr} {costs : List Nat}

theorem matchAddresses_eq (cost : List EtxCost) (addrs : List InAddr) :
    matchAddresses cost addrs =
      if cost.map EtxCost.address <+: addrs then .ok true
      else if addrs <+: cost.map EtxCost.address then .error .outOfBounds
      else .ok false := by
  induction cost generalizing addrs with
  | nil => simp [matchAddresses]
  | cons link cost ih =>
      cases addrs with
      | nil => simp [matchAddresses]
      | cons addr addrs =>
          simp only [matchAddresses, List.map_cons, List.cons_prefix_cons, ih]
          by_cases same : link.address = addr
          · simp [same]
          · simp [same, Ne.symm same]

theorem requireAddresses_eq (addrs : List InAddr) (cost : List EtxCost) :
    requireAddresses addrs cost =
      if addrs <+: cost.map EtxCost.address then .ok ()
      else if cost.map EtxCost.address <+: addrs then .error .outOfBounds
      else .error etxMismatch := by
  induction addrs generalizing cost with
  | nil => simp [requireAddresses]
  | cons addr addrs ih =>
      cases cost with
      | nil => simp [requireAddresses]
      | cons link cost =>
          simp only [requireAddresses, List.map_cons, List.cons_prefix_cons, ih]
          by_cases same : link.address = addr
          · simp [same]
          · simp [same, Ne.symm same]

/-- There is a cost for each link, or none at all; or else the costs before the one of the
source are those of the first addresses backwards, or neither they go on behind the last
address nor do the costs after it end before it. -/
def CostsInRange (src : InAddr) (addrs : List InAddr) (cost : List EtxCost) : Prop :=
  cost = [] ∨ addrs.length + 1 = cost.length ∨
    ∀ j, cost.findIdx? (fun link => link.address = src) = some j →
      (cost.take j).reverse.map EtxCost.address <+: addrs ∨
        ¬addrs <+: (cost.take j).reverse.map EtxCost.address ∧
          ¬(cost.drop (j + 1)).map EtxCost.address <+: addrs

theorem requireAddresses_backwards {backwards : List EtxCost}
    (long : addrs.length ≤ backwards.length) :
    requireAddresses addrs backwards ≠ .error .outOfBounds := by
  rw [requireAddresses_eq]
  split
  · exact ok_ne_error _
  · next other =>
      split
      · next part =>
          have same : backwards.map EtxCost.address = addrs :=
            part.eq_of_length_le (by simpa using long)
          exact absurd (same ▸ List.prefix_refl _) other
      · exact fun failed => by cases failed

theorem srtCosts_outOfBounds_iff :
    srtCosts src dst addrs cost = .error .outOfBounds ↔ ¬CostsInRange src addrs cost := by
  unfold srtCosts CostsInRange
  by_cases none : cost = []
  · simp [none]
  rw [if_neg none, or_iff_right none]
  by_cases full : addrs.length + 1 = cost.length
  · rw [if_pos full]
    refine ⟨fun failed => ?_, fun outside => absurd (.inl full) outside⟩
    exfalso
    split at failed
    · cases failed
    · dsimp only at failed
      rcases bind_error.mp failed with failed | ⟨_, _, failed⟩
      · refine requireAddresses_backwards ?_ failed
        split
        · simp; omega
        · split <;> simp <;> omega
      · cases failed
  rw [if_neg full, or_iff_right full]
  cases found : cost.findIdx? (fun link => link.address = src) with
  | none => simp [etxMismatch]
  | some j =>
      have behindLength : ((cost.drop (j + 1)).map EtxCost.address).length =
          cost.length - (j + 1) := by simp
      simp only [Option.some.injEq, forall_eq', matchAddresses_eq, requireAddresses_eq]
      generalize (cost.take j).reverse.map EtxCost.address = before
      generalize (cost.drop (j + 1)).map EtxCost.address = behind at behindLength ⊢
      by_cases inverse : before <+: addrs
      · simp [inverse, Except.bind]
      by_cases beyond : addrs <+: before
      · simp [inverse, beyond, Except.bind]
      by_cases covered : addrs <+: behind
      · have bound := covered.length_le
        have ends : behind <+: addrs ↔ ¬j + 1 + addrs.length < cost.length := by
          constructor
          · intro back
            have same := back.length_le
            omega
          · intro short
            have same := covered.eq_of_length_le (by omega)
            exact same ▸ List.prefix_refl _
        have here : j < cost.length := (List.findIdx?_eq_some_iff_getElem.mp found).1
        by_cases longer : j + 1 + addrs.length < cost.length
        · simp [inverse, beyond, covered, ends, longer, Except.bind]
        · simp [inverse, beyond, covered, ends, longer, Except.bind]
      · by_cases ended : behind <+: addrs
        · simp [inverse, beyond, covered, ended, Except.bind]
        · simp [inverse, beyond, covered, ended, Except.bind, etxMismatch]

theorem length_srtCosts (taken : srtCosts src dst addrs cost = .ok costs) :
    cost = [] ∧ costs = [] ∨ cost ≠ [] ∧ costs.length = addrs.length + 1 := by
  unfold srtCosts at taken
  by_cases none : cost = []
  · rw [if_pos none] at taken
    cases taken
    exact .inl ⟨none, rfl⟩
  refine .inr ⟨none, ?_⟩
  rw [if_neg none] at taken
  split at taken
  · next full =>
      split at taken
      · cases taken
        simp [full]
      · obtain ⟨_, _, taken⟩ := bind_ok.mp taken
        cases taken
        simp [full]
  · split at taken
    · cases taken
    · next j found =>
        obtain ⟨here, -⟩ := List.findIdx?_eq_some_iff_getElem.mp found
        obtain ⟨inverse, matched, taken⟩ := bind_ok.mp taken
        split at taken
        · next same =>
            rw [matchAddresses_eq, same] at matched
            split at matched
            · next part =>
                have bound := part.length_le
                simp only [List.length_map, List.length_reverse, List.length_take] at bound
                cases taken
                simp only [List.length_append, List.length_map, List.length_reverse,
                  List.length_take, List.length_replicate]
                omega
            · split at matched <;> cases matched
        · obtain ⟨_, _, taken⟩ := bind_ok.mp taken
          split at taken
          · cases taken
            simp only [List.length_map, List.length_take, List.length_drop]
            omega
          · cases taken

end

/-! ## Learning from the route -/

section

variable {now : SimTime} {node : Node} {srt : DsrSrt} {intended prvHop : InAddr}

theorem learnPaths_range (now : SimTime) (node : Node) (intended prvHop : InAddr)
    (sized : srt.count = srt.addrs.length)
    (costs : srt.cost = [] ∨ srt.cost.length = srt.addrs.length + 1) :
    (SplitsInRange srt (if intended ≠ node.myaddr then prvHop else node.myaddr) node.myaddr →
        ∃ learned, learnPaths now node srt intended prvHop = .ok learned) ∧
      (¬SplitsInRange srt (if intended ≠ node.myaddr then prvHop else node.myaddr) node.myaddr →
        learnPaths now node srt intended prvHop = .error .outOfBounds) := by
  obtain ⟨within, outside⟩ := dsrSrtSplitBoth_range
    costs (if intended ≠ node.myaddr then prvHop else node.myaddr) node.myaddr sized
  constructor
  · intro inRange
    obtain ⟨routes, split, toDest, toSrc⟩ := within inRange
    obtain ⟨first, added, same⟩ : ∃ first,
        (node.phSrtAddNodeMap now prvHop).routeAdd? now routes.1 = .ok first ∧
          first.myaddr = node.myaddr := routeAdd?_ok now fun route among => (toDest route among).1
    obtain ⟨second, added', -⟩ : ∃ second, first.routeAdd? now routes.2 = .ok second ∧
        second.myaddr = first.myaddr := routeAdd?_ok now fun route among =>
      (toSrc route among).1.trans same.symm
    exact ⟨second, bind_ok.mpr ⟨routes, split, bind_ok.mpr ⟨first, added, added'⟩⟩⟩
  · intro out
    have failed := outside out
    exact bind_error.mpr (.inl failed)

theorem learnLinks_total (now : SimTime) (srt : DsrSrt) (prvHop : InAddr) (node : Node)
    (mode : node.config.pathCache = false) :
    ∃ learned, learnLinks now node srt prvHop = .ok learned := by
  simp only [learnLinks, Node.routeAdd, mode, Except.bind]
  exact ⟨_, rfl⟩

end

/-! ## Shortening -/

section

variable {srt cut : DsrSrt} {node : Node} {dp : DsrPkt} {prvHop a1 a2 : InAddr}

def lastPosition (addrs : List InAddr) (addr : InAddr) (initial : Int) : Int :=
  addrs.zipIdx.foldl (fun found entry => if entry.1 = addr then (entry.2 : Int) + 1 else found)
    initial

def shortcutEnds (srt : DsrSrt) (a1 a2 : InAddr) : Int × Int :=
  (lastPosition srt.addrs a1 (if srt.src = a1 then 0 else -1),
    if srt.dst = a2 then (srt.addrs.length : Int) + 1 else lastPosition srt.addrs a2 (-1))

def outside {Item : Type} (ends : Int × Int) (items : List Item) : List Item :=
  (items.zipIdx.filter fun entry =>
    ¬((entry.2 : Int) + 1 > ends.1 ∧ (entry.2 : Int) + 1 < ends.2)).map Prod.fst

def cutBetween (srt : DsrSrt) (ends : Int × Int) : Except Fault DsrSrt :=
  let nCut : Int := srt.addrs.length - (ends.2 - ends.1 - 1)
  if nCut = 0 then
    .ok { src := srt.src, dst := srt.dst, flags := srt.flags, laddrs := 0, addrs := [], cost := [] }
  else if (outside ends srt.addrs).length = nCut then
    .ok { src := srt.src, dst := srt.dst, flags := srt.flags,
          laddrs := nCut.toNat * dsrAddressSize, addrs := outside ends srt.addrs,
          cost := outside ends srt.cost }
  else .error (.runtimeError "DSR src cut error ")

theorem dsrSrtShortcut_eq (srt : DsrSrt) (a1 a2 : InAddr) :
    dsrSrtShortcut srt a1 a2 =
      srt.checkSize.bind fun _ => cutBetween srt (shortcutEnds srt a1 a2) := rfl

theorem length_outside {Item : Type} (ends : Int × Int) (items : List Item) :
    (outside ends items).length = (List.range items.length).countP fun index : Nat =>
      ¬((index : Int) + 1 > ends.1 ∧ (index : Int) + 1 < ends.2) := by
  rw [outside, List.length_map, ← List.countP_eq_length_filter, List.range_eq_range',
    ← List.zipIdx_map_snd 0 items, List.countP_map]
  rfl

theorem lastPosition_le (addrs : List InAddr) (addr : InAddr) {initial bound : Int}
    (low : initial ≤ bound) (long : addrs.length ≤ bound) :
    lastPosition addrs addr initial ≤ bound := by
  apply foldl_keeps _ (fun found : Int => found ≤ bound)
  · exact low
  · intro entry found member kept
    have inside := List.snd_lt_of_mem_zipIdx member
    split
    · omega
    · exact kept

theorem shortcutEnds_le (srt : DsrSrt) (a1 a2 : InAddr) :
    (shortcutEnds srt a1 a2).2 ≤ srt.addrs.length + 1 := by
  unfold shortcutEnds
  dsimp only
  split
  · exact le_refl _
  · exact lastPosition_le srt.addrs a2 (by omega) (by omega)

theorem cost_dsrSrtShortcut (costs : srt.cost = [] ∨ srt.cost.length = srt.addrs.length + 1)
    (ran : dsrSrtShortcut srt a1 a2 = .ok cut) :
    cut.cost = [] ∨ cut.cost.length = cut.addrs.length + 1 := by
  rw [dsrSrtShortcut_eq] at ran
  obtain ⟨_, _, ran⟩ := bind_ok.mp ran
  unfold cutBetween at ran
  dsimp only at ran
  split at ran
  · cases ran
    exact .inl rfl
  · split at ran
    · cases ran
      rcases costs with free | priced
      · exact .inl (by simp [outside, free])
      · refine .inr ?_
        have last := shortcutEnds_le srt a1 a2
        dsimp only
        rw [length_outside _ srt.cost, length_outside _ srt.addrs, priced, List.range_succ,
          List.countP_append, List.countP_singleton, if_pos]
        exact decide_eq_true fun between => absurd last (not_le.mpr between.2)
    · cases ran

theorem checkSize_avoids (srt : DsrSrt) : srt.checkSize ≠ .error .outOfBounds := by
  unfold checkSize
  split <;> exact fun failed => by cases failed

theorem dsrSrtNewRev_avoids (srt : DsrSrt) : dsrSrtNewRev srt ≠ .error .outOfBounds :=
  bind_avoids (checkSize_avoids srt) fun _ _ => ok_ne_error _

theorem dsrSrtNewSplitRev_avoids {addr : InAddr}
    (costs : srt.cost = [] ∨ srt.cost.length = srt.addrs.length + 1) :
    dsrSrtNewSplitRev srt addr ≠ .error .outOfBounds := by
  refine bind_avoids ?_ fun split _ => ?_
  · refine bind_avoids (checkSize_avoids srt) fun _ _ => ?_
    split
    · exact ok_ne_error _
    · next i found =>
        have inside := (List.findIdx?_eq_some_iff_getElem.mp found).1
        rw [if_pos (costs.imp id fun priced => by omega)]
        exact ok_ne_error _
  · split
    · exact ok_ne_error _
    · exact bind_avoids (dsrSrtNewRev_avoids _) fun _ _ => ok_ne_error _

theorem dsrSrtShortcut_avoids : dsrSrtShortcut srt a1 a2 ≠ .error .outOfBounds := by
  rw [dsrSrtShortcut_eq]
  refine bind_avoids (checkSize_avoids srt) fun _ _ => ?_
  unfold cutBetween
  dsimp only
  split
  · exact ok_ne_error _
  · split <;> exact fun failed => by cases failed

def repriced (node : Node) (prvHop : InAddr) (srtCut : DsrSrt) : DsrSrt :=
  if node.config.etxActive then
    let among := srtCut.addrs.take srtCut.count
    let j := min (among.idxOf node.myaddr + 1) among.length
    { srtCut with
      cost := srtCut.cost.set j (EtxCost.toUnsigned ⟨prvHop, node.getCost prvHop⟩) }
  else srtCut

def routeBack (srtCut : DsrSrt) (me : InAddr) : Except Fault (Option DsrSrt) :=
  if srtCut.count = 0 then (dsrSrtNewRev srtCut).bind fun srt => .ok (some srt)
  else dsrSrtNewSplitRev srtCut me

theorem shorten_eq (node : Node) (dp : DsrPkt) (srt : DsrSrt) (prvHop : InAddr) :
    shorten node dp srt prvHop =
      (dsrSrtShortcut srt prvHop node.myaddr).bind fun srtCut =>
        (routeBack (repriced node prvHop srtCut) node.myaddr).bind fun back =>
          match back with
          | none => .ok none
          | some back =>
              .ok (some [.gratRrepTblAdd dp.src prvHop,
                .rrepSend back (repriced node prvHop srtCut)]) := rfl

theorem repriced_addrs (node : Node) (prvHop : InAddr) (srtCut : DsrSrt) :
    (repriced node prvHop srtCut).addrs = srtCut.addrs := by
  unfold repriced
  split <;> rfl

theorem repriced_cost (node : Node) (prvHop : InAddr) (srtCut : DsrSrt) :
    (repriced node prvHop srtCut).cost.length = srtCut.cost.length := by
  unfold repriced
  split
  · exact List.length_set
  · rfl

theorem shorten_avoids (costs : srt.cost = [] ∨ srt.cost.length = srt.addrs.length + 1) :
    shorten node dp srt prvHop ≠ .error .outOfBounds := by
  rw [shorten_eq]
  refine bind_avoids dsrSrtShortcut_avoids fun cut ran => bind_avoids ?_ fun back _ => ?_
  · unfold routeBack
    split
    · exact bind_avoids (dsrSrtNewRev_avoids _) fun _ _ => ok_ne_error _
    · refine dsrSrtNewSplitRev_avoids ?_
      rw [← List.length_eq_zero_iff, repriced_cost, repriced_addrs, List.length_eq_zero_iff]
      exact cost_dsrSrtShortcut costs ran
  · split <;> exact ok_ne_error _

end

/-! ## Receiving the option -/

section

variable {now : SimTime} {node : Node} {dp : DsrPkt} {opt : DsrSrtOpt} {srt : DsrSrt}

theorem findAddrAmong_eq (sized : srt.count = srt.addrs.length) (addr : InAddr) {sleft : Nat}
    (inside : sleft ≤ srt.addrs.length) :
    findAddrAmong srt addr sleft =
      .ok (decide (addr ∈ srt.addrs.drop (srt.addrs.length - sleft) ++ [srt.dst])) := by
  induction sleft with
  | zero => simp [findAddrAmong]
  | succ sleft ih =>
      have index : (srt.count : Int) - ((sleft : Int) + 1) =
          ((srt.addrs.length - (sleft + 1) : Nat) : Int) := by omega
      have bound : srt.addrs.length - (sleft + 1) < srt.addrs.length := by omega
      have next : srt.addrs.length - (sleft + 1) + 1 = srt.addrs.length - sleft := by omega
      rw [findAddrAmong, index, atInt_ofNat bound, List.drop_eq_getElem_cons bound,
        next, ih (by omega)]
      simp only [Except.bind]
      by_cases here : srt.addrs[srt.addrs.length - (sleft + 1)] = addr
      · simp [here]
      · simp [here, Ne.symm here]

theorem dsrSrtFindAddr_eq (sized : srt.count = srt.addrs.length) (addr : InAddr) {sleft : Nat}
    (inside : sleft ≤ srt.addrs.length) :
    dsrSrtFindAddr srt addr sleft =
      .ok (decide (sleft ≠ 0 ∧ addr ∈ srt.addrs.drop (srt.addrs.length - sleft) ++ [srt.dst])) := by
  rw [dsrSrtFindAddr, findAddrAmong_eq sized addr inside]
  by_cases none : sleft = 0
  · simp [none]
  · have some : ¬(srt.count = 0 ∨ sleft > srt.count ∨ sleft < 1) := by omega
    rw [if_neg some]
    simp [none]

/-- The next hop that the option names, with its segments left. -/
def intendedHop (dp : DsrPkt) (opt : DsrSrtOpt) : InAddr :=
  (opt.addrs ++ [dp.dst]).getD (opt.addrs.length - opt.sleft) 0

/-- The hop before it. -/
def previousHop (dp : DsrPkt) (opt : DsrSrtOpt) : InAddr :=
  (dp.src :: opt.addrs).getD (opt.addrs.length - opt.sleft) 0

/-- The node at which the route of the option is split. -/
def splitHop (node : Node) (dp : DsrPkt) (opt : DsrSrtOpt) : InAddr :=
  if intendedHop dp opt ≠ node.myaddr then previousHop dp opt else node.myaddr

/-- The addresses of the option are read in range, and too many segments left are answered
before anything else is done. -/
structure RejectsMalformed (now : SimTime) (node : Node) (dp : DsrPkt) (opt : DsrSrtOpt) :
    Prop where
  inRange : dsrSrtOptRecv now node dp opt ≠ .error .outOfBounds
  rejects : opt.addrs.length < opt.sleft → ∃ recv, dsrSrtOptRecv now node dp opt = .ok recv ∧
    recv.action = (if dp.hasFlag pktPromiscRecv then dsrPktDrop else dsrPktSendIcmp) ∧
      recv.node = node ∧ recv.calls = []

/-- There are not more segments left than addresses, the costs of the packet are read in
range, and so is the route where it is split. -/
structure ReadsInRange (node : Node) (dp : DsrPkt) (opt : DsrSrtOpt) : Prop where
  left : opt.sleft ≤ opt.addrs.length
  costs : CostsInRange dp.src opt.addrs dp.costVector
  splits : ∀ srt, dsrSrtNew dp.src dp.dst opt.length opt.addrs dp.costVector = .ok srt →
    node.config.pathCache = true → SplitsInRange srt (splitHop node dp opt) node.myaddr

structure MadeOf (dp : DsrPkt) (opt : DsrSrtOpt) (srt : DsrSrt) : Prop where
  src : srt.src = dp.src
  dst : srt.dst = dp.dst
  addrs : srt.addrs = opt.addrs
  sized : srt.count = srt.addrs.length
  costs : srt.cost = [] ∨ srt.cost.length = srt.addrs.length + 1
  free : srt.cost = [] ↔ dp.costVector = []

theorem madeOf_dsrSrtNew (fits : opt.length = dsrAddressSize * opt.addrs.length + 2)
    (ran : dsrSrtNew dp.src dp.dst opt.length opt.addrs dp.costVector = .ok srt) :
    MadeOf dp opt srt := by
  obtain ⟨costs, taken, ran⟩ := bind_ok.mp ran
  cases ran
  have sized : opt.length / dsrAddressSize = opt.addrs.length := by
    simp only [fits, dsrAddressSize]
    omega
  rcases length_srtCosts taken with ⟨free, none⟩ | ⟨priced, some⟩
  · exact ⟨rfl, rfl, rfl, sized, .inl none, iff_of_true none free⟩
  · exact ⟨rfl, rfl, rfl, sized, .inr some,
      iff_of_false (List.ne_nil_of_length_eq_add_one some) priced⟩

theorem MadeOf.intended (made : MadeOf dp opt srt) (left : opt.sleft ≤ opt.addrs.length) :
    dsrSrtNextHop srt opt.sleft = .ok (intendedHop dp opt) := by
  have segments : opt.sleft = srt.addrs.length - (srt.addrs.length - opt.sleft) := by
    rw [made.addrs]
    omega
  rw [segments]
  refine dsrSrtNextHop_at made.sized ?_
  have inside : opt.addrs.length - opt.sleft < (opt.addrs ++ [dp.dst]).length := by
    rw [List.length_append, List.length_singleton]
    omega
  rw [made.addrs, made.dst, intendedHop, List.getD_eq_getElem _ _ inside,
    List.getElem?_eq_getElem]

theorem MadeOf.previous (made : MadeOf dp opt srt) (left : opt.sleft ≤ opt.addrs.length) :
    dsrSrtPrevHop srt ((opt.sleft : Int) - 1) = .ok (previousHop dp opt) := by
  have segments : opt.sleft = srt.addrs.length - (srt.addrs.length - opt.sleft) := by
    rw [made.addrs]
    omega
  rw [segments]
  refine dsrSrtPrevHop_at made.sized (Nat.sub_le _ _) ?_
  have inside : opt.addrs.length - opt.sleft < (dp.src :: opt.addrs).length := by
    rw [List.length_cons]
    omega
  rw [made.addrs, made.src, previousHop, List.getD_eq_getElem _ _ inside,
    List.getElem?_eq_getElem]

theorem MadeOf.next (made : MadeOf dp opt srt) (left : opt.sleft ≤ opt.addrs.length) :
    ∃ nxtHop, dsrSrtNextHop srt ((opt.sleft : Int) - 1) = .ok nxtHop := by
  have segments : opt.sleft = srt.addrs.length - (srt.addrs.length - opt.sleft) := by
    rw [made.addrs]
    omega
  rw [segments]
  have inside : srt.addrs.length - opt.sleft + 1 < (srt.addrs ++ [srt.dst, srt.dst]).length := by
    rw [List.length_append]
    exact Nat.lt_of_le_of_lt (Nat.succ_le_succ (Nat.sub_le _ _)) (Nat.lt_succ_self _)
  exact ⟨_, dsrSrtNextHop_after made.sized (Nat.sub_le _ _) (List.getElem?_eq_getElem inside)⟩

theorem MadeOf.beyond (made : MadeOf dp opt srt) (more : opt.addrs.length < opt.sleft) :
    dsrSrtNextHop srt opt.sleft = .error .outOfBounds := by
  have sized := made.sized
  rw [made.addrs] at sized
  rw [dsrSrtNextHop, if_neg (by omega), atInt, if_pos (by omega)]

theorem dsrSrtOptRecv_avoids (fits : opt.length = dsrAddressSize * opt.addrs.length + 2)
    (reads : ReadsInRange node dp opt) : dsrSrtOptRecv now node dp opt ≠ .error .outOfBounds := by
  refine bind_avoids ?_ fun srt ran => ?_
  · refine bind_avoids (fun failed => ?_) fun _ _ => ok_ne_error _
    exact srtCosts_outOfBounds_iff.mp failed reads.costs
  have made := madeOf_dsrSrtNew fits ran
  obtain ⟨nxtHop, next⟩ := made.next reads.left
  refine bind_avoids (ne_of_eq_of_ne (made.intended reads.left) (ok_ne_error _)) ?_
  intro intended same
  obtain rfl : intendedHop dp opt = intended :=
    Except.ok.inj ((made.intended reads.left).symm.trans same)
  refine bind_avoids (ne_of_eq_of_ne (made.previous reads.left) (ok_ne_error _)) ?_
  intro prvHop same
  obtain rfl : previousHop dp opt = prvHop :=
    Except.ok.inj ((made.previous reads.left).symm.trans same)
  refine bind_avoids (ne_of_eq_of_ne next (ok_ne_error _)) fun nxtHop _ => ?_
  refine bind_avoids ?_ fun learned _ => bind_avoids ?_ fun remaining _ => ?_
  · cases mode : node.config.pathCache with
    | true =>
        obtain ⟨after, learns⟩ := (learnPaths_range now node (intendedHop dp opt)
          (previousHop dp opt) made.sized made.costs).1 (reads.splits srt ran mode)
        rw [if_pos rfl, learns]
        exact ok_ne_error _
    | false =>
        obtain ⟨learned, learns⟩ := learnLinks_total now srt (previousHop dp opt) node mode
        rw [if_neg Bool.false_ne_true, learns]
        exact ok_ne_error _
  · split
    · rw [dsrSrtFindAddr_eq made.sized _ (made.addrs ▸ reads.left)]
      exact ok_ne_error _
    · exact ok_ne_error _
  · dsimp only
    split
    · refine bind_avoids (shorten_avoids made.costs) fun shortened _ => ?_
      split <;> exact ok_ne_error _
    · exact ok_ne_error _

theorem dsrSrtOptRecv_costs (outside : ¬CostsInRange dp.src opt.addrs dp.costVector) :
    dsrSrtOptRecv now node dp opt = .error .outOfBounds :=
  bind_error.mpr (.inl (bind_error.mpr (.inl (srtCosts_outOfBounds_iff.mpr outside))))

theorem dsrSrtOptRecv_beyond (fits : opt.length = dsrAddressSize * opt.addrs.length + 2)
    (more : opt.addrs.length < opt.sleft)
    (ran : dsrSrtNew dp.src dp.dst opt.length opt.addrs dp.costVector = .ok srt) :
    dsrSrtOptRecv now node dp opt = .error .outOfBounds :=
  bind_error.mpr (.inr ⟨srt, ran,
    bind_error.mpr (.inl ((madeOf_dsrSrtNew fits ran).beyond more))⟩)

theorem dsrSrtOptRecv_splits (fits : opt.length = dsrAddressSize * opt.addrs.length + 2)
    (left : opt.sleft ≤ opt.addrs.length)
    (ran : dsrSrtNew dp.src dp.dst opt.length opt.addrs dp.costVector = .ok srt)
    (mode : node.config.pathCache = true)
    (outside : ¬SplitsInRange srt (splitHop node dp opt) node.myaddr) :
    dsrSrtOptRecv now node dp opt = .error .outOfBounds := by
  have made := madeOf_dsrSrtNew fits ran
  obtain ⟨nxtHop, next⟩ := made.next left
  have learns := (learnPaths_range now node (intendedHop dp opt) (previousHop dp opt)
    made.sized made.costs).2 outside
  refine bind_error.mpr (.inr ⟨srt, ran, bind_error.mpr (.inr ⟨_, made.intended left,
    bind_error.mpr (.inr ⟨_, made.previous left, bind_error.mpr (.inr ⟨nxtHop, next,
      bind_error.mpr (.inl ?_)⟩)⟩)⟩)⟩)
  rw [if_pos mode, learns]
  rfl

/-- Malformed source routes are rejected before use if and only if the reads that come before
the check are in range. -/
theorem rejectsMalformed_iff (now : SimTime) (node : Node) (dp : DsrPkt) (opt : DsrSrtOpt)
    (fits : opt.length = dsrAddressSize * opt.addrs.length + 2) :
    RejectsMalformed now node dp opt ↔ ReadsInRange node dp opt := by
  constructor
  · intro rejects
    have left : opt.sleft ≤ opt.addrs.length := by
      by_contra more
      obtain ⟨recv, received, -⟩ := rejects.rejects (not_le.mp more)
      obtain ⟨srt, ran, -⟩ := bind_ok.mp received
      exact rejects.inRange (dsrSrtOptRecv_beyond fits (not_le.mp more) ran)
    refine ⟨left, ?_, fun srt ran mode => ?_⟩
    · by_contra outside
      exact rejects.inRange (dsrSrtOptRecv_costs outside)
    · by_contra outside
      exact rejects.inRange (dsrSrtOptRecv_splits fits left ran mode outside)
  · intro reads
    exact ⟨dsrSrtOptRecv_avoids fits reads, fun more => absurd reads.left (not_le.mpr more)⟩

end

/-- A packet that the node 1 sends to the node 4. -/
def routedPkt : DsrPkt :=
  { freshRreq 1 with dst := 4 }

/-- Its way over the nodes 2 and 3. -/
def routedOpt (sleft : Nat) : DsrSrtOpt where
  length := 10
  salv := 0
  sleft := sleft
  addrs := [2, 3]

/-- The first relay receives it. -/
theorem rejectsMalformed_relay :
    RejectsMalformed 0 (etxNode 2 []) routedPkt (routedOpt 2) := by
  refine (rejectsMalformed_iff 0 (etxNode 2 []) routedPkt (routedOpt 2) (by decide)).mpr
    ⟨by decide, .inl rfl, fun srt ran _ => ?_⟩
  have made : MadeOf routedPkt (routedOpt 2) srt := madeOf_dsrSrtNew (by decide) ran
  have here : splitHop (etxNode 2 []) routedPkt (routedOpt 2) = 2 := by decide
  refine .inr ?_
  rw [here, made.dst, made.src, if_neg (by decide), behind, made.src, made.addrs]
  exact .inl (by decide)

/-- With more segments left than addresses, the address before the first one is read. -/
theorem not_rejectsMalformed_beyond :
    dsrSrtOptRecv 0 (etxNode 2 []) routedPkt (routedOpt 3) = .error .outOfBounds ∧
      ¬RejectsMalformed 0 (etxNode 2 []) routedPkt (routedOpt 3) := by
  have failed : dsrSrtOptRecv 0 (etxNode 2 []) routedPkt (routedOpt 3) = .error .outOfBounds := rfl
  exact ⟨failed, fun rejects => rejects.inRange failed⟩

end SyncFanet.Dsr
