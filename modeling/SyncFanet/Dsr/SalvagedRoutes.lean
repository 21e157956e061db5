import SyncFanet.Dsr.HeaderLengths

/-!
# The route of a salvaged packet

`maint_buf_salvage` for a packet at a node of its source route, up to the packet that it
transmits, with the length in the options header.
-/

set_option autoImplicit false

namespace SyncFanet.Dsr

/-! ## The packet and its new route -/

def srtOption : DsrOpt → Option DsrSrtOpt
  | .srt opt => some opt
  | _ => none

/-- A node is the source of a packet or a relay of its route, and the next hop is the node that
follows it. The packet has one options header, with a source route that repeats no node. -/
structure Salvageable (me : InAddr) (dp : DsrPkt) (header : List DsrOpt) (opt : DsrSrtOpt) : Prop
    where
  options : dp.opth = [header]
  routed : header.findSome? srtOption = some opt
  parsed : dp.srtOpt = some opt
  sized : opt.length = opt.addrs.length * dsrAddressSize + 2
  loopFree : (dp.src :: opt.addrs ++ [dp.dst]).Nodup
  here : ∃ position, (dp.src :: opt.addrs ++ [dp.dst])[position]? = some me ∧
    (dp.src :: opt.addrs ++ [dp.dst])[position + 1]? = some dp.nxtHop
  free : dp.costVector = []

/-- The alternative route at the source, and behind the route up to this node at a relay. -/
def newAddrs (me : InAddr) (dp : DsrPkt) (opt : DsrSrtOpt) (route : List InAddr) : List InAddr :=
  if me = dp.src then route else opt.addrs.takeWhile (· ≠ me) ++ me :: route

def newSrt (me : InAddr) (dp : DsrPkt) (opt : DsrSrtOpt) (route : List InAddr) : DsrSrt where
  src := dp.src
  dst := dp.dst
  flags := 0
  laddrs := (newAddrs me dp opt route).length * dsrAddressSize
  addrs := newAddrs me dp opt route
  cost := []

def newOpt (me : InAddr) (dp : DsrPkt) (opt : DsrSrtOpt) (route : List InAddr) : DsrSrtOpt where
  length := ((newAddrs me dp opt route).length * dsrAddressSize + 2) % 2 ^ 8
  salv := (opt.salv + 1) % 2 ^ 4
  sleft := route.length % 2 ^ 6
  addrs := newAddrs me dp opt route

/-- The packet that `maint_buf_salvage` transmits. -/
def salvagedPkt (me : InAddr) (dp : DsrPkt) (opt : DsrSrtOpt) (route : List InAddr) : DsrPkt :=
  { dp with
    srtOpt := some (newOpt me dp opt route)
    opth := setSrtOpt dp.opth (newOpt me dp opt route)
    nxtHop := (route ++ [dp.dst]).headD dp.dst
    srt := some (newSrt me dp opt route)
    costVector := [] }

section

variable {me : InAddr} {dp : DsrPkt} {header : List DsrOpt} {opt : DsrSrtOpt}
  {route : List InAddr}

theorem newSrt_count : (newSrt me dp opt route).count = (newSrt me dp opt route).addrs.length :=
  Nat.mul_div_cancel _ (by decide)

theorem Salvageable.relay (salvageable : Salvageable me dp header opt) (other : me ≠ dp.src) :
    me ∈ opt.addrs ∧ opt.addrs.head? ≠ some dp.nxtHop := by
  obtain ⟨position, here, next⟩ := salvageable.here
  have distinct := salvageable.loopFree
  cases position with
  | zero => exact absurd (Option.some.inj here).symm other
  | succ i =>
      rw [List.cons_append, List.getElem?_cons_succ] at here next
      have inside : i < opt.addrs.length := by
        have bound := (List.getElem?_eq_some_iff.mp next).1
        rw [List.length_append, List.length_singleton] at bound
        omega
      rw [List.getElem?_append_left inside] at here
      refine ⟨List.mem_of_getElem? here, fun first => ?_⟩
      have nodup := (List.nodup_cons.mp distinct).2
      rw [List.head?_eq_getElem?] at first
      have start : (opt.addrs ++ [dp.dst])[0]? = some dp.nxtHop := by
        rw [List.getElem?_append_left (by omega)]
        exact first
      obtain ⟨zero, startsAt⟩ := List.getElem?_eq_some_iff.mp start
      obtain ⟨later, endsAt⟩ := List.getElem?_eq_some_iff.mp next
      have same := (List.Nodup.getElem_inj_iff nodup).mp (startsAt.trans endsAt.symm)
      omega

theorem Salvageable.source (salvageable : Salvageable me dp header opt) (own : me = dp.src) :
    (opt.addrs ++ [dp.dst]).head? = some dp.nxtHop := by
  obtain ⟨position, here, next⟩ := salvageable.here
  have first : (dp.src :: opt.addrs ++ [dp.dst])[0]? = some me := by
    rw [own]
    rfl
  obtain ⟨zero, startsAt⟩ := List.getElem?_eq_some_iff.mp first
  obtain ⟨there, foundAt⟩ := List.getElem?_eq_some_iff.mp here
  have same := (List.Nodup.getElem_inj_iff salvageable.loopFree).mp (foundAt.trans startsAt.symm)
  rw [same] at next
  rw [List.head?_eq_getElem?]
  exact next

theorem dsrSrtNewSplit_of_mem {srt : DsrSrt} (sized : srt.count = srt.addrs.length)
    (free : srt.cost = []) (listed : me ∈ srt.addrs) :
    dsrSrtNewSplit srt me = .ok (some
      { src := srt.src, dst := me, flags := srt.flags
        laddrs := dsrAddressSize * (srt.addrs.takeWhile (· ≠ me)).length
        addrs := srt.addrs.takeWhile (· ≠ me), cost := [] }) := by
  have before : srt.addrs.takeWhile (· ≠ me) =
      srt.addrs.take (srt.addrs.findIdx fun hop => hop = me) := by
    rw [List.takeWhile_eq_take_findIdx_not]
    simp
  have inside : srt.addrs.findIdx (fun hop => decide (hop = me)) < srt.addrs.length :=
    List.findIdx_lt_length_of_exists ⟨me, listed, decide_eq_true rfl⟩
  have position : srt.addrs.findIdx? (fun hop => hop = me) =
      some (srt.addrs.findIdx fun hop => hop = me) :=
    List.findIdx?_eq_some_iff_findIdx_eq.mpr ⟨inside, rfl⟩
  have length : (srt.addrs.take (srt.addrs.findIdx fun hop => hop = me)).length =
      srt.addrs.findIdx fun hop => hop = me := by
    rw [List.length_take]
    exact min_eq_left inside.le
  rw [before, length]
  unfold dsrSrtNewSplit DsrSrt.checkSize
  simp only [sized, if_true, position, free, true_or, List.take_nil, Except.bind]

theorem dsrSrtCheckDuplicate_eq {srt : DsrSrt} (sized : srt.count = srt.addrs.length) :
    dsrSrtCheckDuplicate srt = .ok (decide ¬srt.nodes.Nodup) := by
  unfold dsrSrtCheckDuplicate
  rw [sized, List.take_length]
  have split : srt.nodes.Nodup ↔
      (srt.src :: srt.addrs).Nodup ∧ srt.dst ∉ srt.src :: srt.addrs := by
    unfold DsrSrt.nodes
    rw [List.nodup_append]
    constructor
    · rintro ⟨distinct, -, apart⟩
      exact ⟨distinct, fun listed => apart _ listed _ (List.mem_singleton.mpr rfl) rfl⟩
    · rintro ⟨distinct, fresh⟩
      refine ⟨distinct, List.nodup_singleton _, fun node member other single same => ?_⟩
      rw [List.mem_singleton.mp single] at same
      exact fresh (same ▸ member)
  by_cases distinct : (srt.src :: srt.addrs).Nodup
  · by_cases ends : srt.dst ∈ srt.src :: srt.addrs
    · simp [distinct, ends, split]
    · simp [distinct, ends, split]
  · simp [distinct, split]

theorem dsrSrtConcatenate_eq {srt1 srt2 : DsrSrt} (sized1 : srt1.count = srt1.addrs.length)
    (sized2 : srt2.count = srt2.addrs.length) :
    dsrSrtConcatenate srt1 srt2 = .ok
      { src := srt1.src, dst := srt2.dst, flags := srt1.flags &&& srt2.flags
        laddrs := (srt1.count + srt2.count + 1) * dsrAddressSize
        addrs := srt1.addrs ++ srt2.src :: srt2.addrs, cost := [] } :=
  bind_ok.mpr ⟨(), if_pos sized1, bind_ok.mpr ⟨(), if_pos sized2, rfl⟩⟩

/-! ## What `maint_buf_salvage` makes of it -/

theorem salvageRoute_eq (salvageable : Salvageable me dp header opt) :
    salvageRoute me dp
      { src := dp.src, dst := dp.dst, flags := srtBidir, laddrs := opt.length - 2
        addrs := opt.addrs, cost := [] } (foundRoute me dp.dst route) =
      .ok (some (newSrt me dp opt route, route.length)) := by
  by_cases own : me = dp.src
  · have first := salvageable.source own
    have atSource : (if opt.addrs = [] ∧ dp.dst = dp.nxtHop then (.ok true : Except Fault Bool)
        else (at? opt.addrs 0).bind fun first => .ok (decide (first = dp.nxtHop))) = .ok true := by
      cases addrs : opt.addrs with
      | nil =>
          rw [addrs] at first
          exact if_pos ⟨rfl, Option.some.inj first⟩
      | cons hop rest =>
          rw [addrs] at first
          rw [if_neg (fun both => absurd both.1 (List.cons_ne_nil _ _))]
          exact congrArg Except.ok (decide_eq_true (Option.some.inj first))
    refine bind_ok.mpr ⟨true, atSource, ?_⟩
    rw [if_pos rfl, newSrt, newAddrs, if_pos own, own]
    rfl
  · obtain ⟨listed, first⟩ := salvageable.relay own
    have atRelay : (if opt.addrs = [] ∧ dp.dst = dp.nxtHop then (.ok true : Except Fault Bool)
        else (at? opt.addrs 0).bind fun first => .ok (decide (first = dp.nxtHop))) = .ok false := by
      cases addrs : opt.addrs with
      | nil =>
          rw [addrs] at listed
          cases listed
      | cons hop rest =>
          rw [addrs] at first
          rw [if_neg (fun both => absurd both.1 (List.cons_ne_nil _ _))]
          exact congrArg Except.ok (decide_eq_false fun same => first (congrArg some same))
    have sized : DsrSrt.count
        { src := dp.src, dst := dp.dst, flags := srtBidir, laddrs := opt.length - 2
          addrs := opt.addrs, cost := [] } = opt.addrs.length := by
      rw [DsrSrt.count, salvageable.sized, Nat.add_sub_cancel]
      exact Nat.mul_div_cancel _ (by decide)
    have toMe : DsrSrt.count
        { src := dp.src, dst := me, flags := srtBidir
          laddrs := dsrAddressSize * (opt.addrs.takeWhile (· ≠ me)).length
          addrs := opt.addrs.takeWhile (· ≠ me), cost := [] } =
        (opt.addrs.takeWhile (· ≠ me)).length :=
      Nat.mul_div_cancel_left _ (by decide)
    have joined : newAddrs me dp opt route = opt.addrs.takeWhile (· ≠ me) ++ me :: route :=
      if_neg own
    have count : (newAddrs me dp opt route).length =
        (opt.addrs.takeWhile (· ≠ me)).length + route.length + 1 := by
      rw [joined, List.length_append, List.length_cons]
      omega
    have segments : (newAddrs me dp opt route).length -
        (opt.addrs.takeWhile (· ≠ me)).length - 1 = route.length := by
      rw [count]
      omega
    refine bind_ok.mpr ⟨false, atRelay, bind_ok.mpr ⟨_, dsrSrtNewSplit_of_mem sized rfl listed,
      bind_ok.mpr ⟨newSrt me dp opt route, ?_, ?_⟩⟩⟩
    · rw [dsrSrtConcatenate_eq toMe (foundRoute_count _ _ _), toMe, foundRoute_count, newSrt,
        count, joined]
      simp only [foundRoute, Nat.and_zero]
    · show Except.ok (some (newSrt me dp opt route, (newAddrs me dp opt route).length -
        (opt.addrs.takeWhile (· ≠ me)).length - 1)) = _
      rw [segments]

theorem dsrSrtNextHop_newSrt (short : route.length < 2 ^ 6) :
    dsrSrtNextHop (newSrt me dp opt route) ((route.length % 2 ^ 6 : Nat) : Int) =
      .ok ((route ++ [dp.dst]).headD dp.dst) := by
  rw [Nat.mod_eq_of_lt short]
  unfold dsrSrtNextHop
  cases route with
  | nil => rfl
  | cons hop rest =>
      have positive : ¬(((hop :: rest).length : Nat) : Int) ≤ 0 := by
        simp only [List.length_cons]
        omega
      rw [if_neg positive, newSrt_count]
      obtain ⟨kept, split⟩ : ∃ kept, newAddrs me dp opt (hop :: rest) = kept ++ hop :: rest := by
        unfold newAddrs
        split
        · exact ⟨[], rfl⟩
        · exact ⟨opt.addrs.takeWhile (· ≠ me) ++ [me], by simp⟩
      have offset : ((newAddrs me dp opt (hop :: rest)).length : Int) - (hop :: rest).length =
          kept.length := by
        rw [split, List.length_append]
        push_cast
        omega
      show atInt (newAddrs me dp opt (hop :: rest))
        ((newAddrs me dp opt (hop :: rest)).length - (hop :: rest).length) = _
      rw [offset, split]
      simp [atInt, at?]

theorem salvagePacket_eq (salvageable : Salvageable me dp header opt)
    (short : (newAddrs me dp opt route).length < 2 ^ 6) :
    salvagePacket me dp (some (foundRoute me dp.dst route)) = .ok
      (if (newSrt me dp opt route).nodes.Nodup then some (salvagedPkt me dp opt route)
        else none) := by
  have fewer : route.length < 2 ^ 6 := by
    refine lt_of_le_of_lt ?_ short
    unfold newAddrs
    split
    · exact le_rfl
    · simp only [List.length_append, List.length_cons]
      omega
  unfold salvagePacket
  rw [salvageable.parsed]
  have parsed : dsrSrtNew dp.src dp.dst (opt.length - 2) opt.addrs dp.costVector = .ok
      { src := dp.src, dst := dp.dst, flags := srtBidir, laddrs := opt.length - 2
        addrs := opt.addrs, cost := [] } := by
    rw [salvageable.free]
    rfl
  simp only [parsed, Except.bind, salvageRoute_eq salvageable,
    dsrSrtCheckDuplicate_eq newSrt_count]
  by_cases distinct : (newSrt me dp opt route).nodes.Nodup
  · rw [if_neg (by simp [distinct]), if_pos distinct, dsrSrtNextHop_newSrt fewer]
    rfl
  · rw [if_pos (by simp [distinct]), if_neg distinct]

/-! ## The options of the packet that is transmitted -/

theorem setSrtOpt_header (sizes : Sizes) (routed : header.findSome? srtOption = some opt)
    (opt' : DsrSrtOpt) : ∃ header', setSrtOpt [header] opt' = [header'] ∧
      header'.findSome? srtOption = some opt' ∧
      optionsLen sizes header' + (opt.length + 2) =
        optionsLen sizes header + (opt'.length + 2) ∧
      requestIds [header'] = requestIds [header] := by
  let isSrt : DsrOpt → Bool
    | .srt _ => true
    | _ => false
  have replaced : ∀ header : List DsrOpt, header.findSome? srtOption = some opt →
      header.any isSrt = true ∧
      (updateFirst isSrt (fun _ => .srt opt') header).findSome? srtOption = some opt' ∧
      optionsLen sizes (updateFirst isSrt (fun _ => .srt opt') header) + (opt.length + 2) =
        optionsLen sizes header + (opt'.length + 2) ∧
      (updateFirst isSrt (fun _ => .srt opt') header).filterMap requestId =
        header.filterMap requestId := by
    intro header routed
    induction header with
    | nil => cases routed
    | cons first rest ih =>
        cases first with
        | srt found =>
            cases routed
            refine ⟨rfl, rfl, ?_, rfl⟩
            simp only [updateFirst, isSrt, if_true, optionsLen_cons, DsrOpt.size]
            omega
        | padn | rreq | rrep | rerr | prevHop | ack | timeout | flowid | ackReq | pad1 =>
            obtain ⟨listed, found, length, ids⟩ := ih routed
            refine ⟨listed, found, ?_, ?_⟩
            · show optionsLen sizes (_ :: updateFirst isSrt (fun _ => .srt opt') rest) + _ = _
              rw [optionsLen_cons, optionsLen_cons]
              omega
            · show (_ :: updateFirst isSrt (fun _ => .srt opt') rest).filterMap requestId = _
              rw [List.filterMap_cons, List.filterMap_cons, ids]
  obtain ⟨listed, found, length, ids⟩ := replaced header routed
  refine ⟨_, ?_, found, length, ?_⟩
  · show updateFirst (fun header => header.any isSrt) (updateFirst isSrt fun _ => .srt opt')
      [header] = _
    rw [updateFirst, if_pos listed]
  · rw [requestIds_cons, requestIds_cons, ids]

theorem salvagePLen_eq {pLen : Nat} (ranged : pLen < 2 ^ 16) (opt : DsrSrtOpt) (srt : DsrSrt) :
    (salvagePLen pLen opt srt : Int) =
      ((pLen : Int) - (opt.length + 2 : Nat) + dsrSrtOptLen srt) % 2 ^ 16 := by
  unfold salvagePLen
  dsimp only
  split <;> omega

/-! ## A correct route -/

/-- The packet goes on with its new source route, and `p_len` counts its options. -/
structure Resent (sizes : Sizes) (me : InAddr) (dp : DsrPkt) (opt : DsrSrtOpt)
    (route : List InAddr) (sent : SentPkt) : Prop where
  routed : ∃ header' opt', sent.p.dsrOptions = [header'] ∧
    header'.findSome? srtOption = some opt' ∧ opt'.addrs = newAddrs me dp opt route ∧
    opt'.sleft = route.length ∧ opt'.salv = opt.salv + 1 ∧
    sent.pLen = optionsLen sizes header'
  loopFree : (dp.src :: newAddrs me dp opt route ++ [dp.dst]).Nodup
  src : sent.p.src = dp.src
  dst : sent.p.dst = dp.dst
  payloadLen : sent.p.payloadLen = dp.payloadLen
  next : ∀ next, sent.p.nextAddress = some next → (route ++ [dp.dst]).head? = some next

/-- `maint_buf_salvage` returns −1, or transmits the packet on a correct route. -/
def SalvagesRight (sizes : Sizes) (me : InAddr) (ackReq : Option Nat) (dp : DsrPkt) (pLen : Nat)
    (opt : DsrSrtOpt) (route : List InAddr) : Prop :=
  maintBufSalvageXmit sizes me ackReq dp pLen (some (foundRoute me dp.dst route)) = .ok none ∨
    ∃ sent, maintBufSalvageXmit sizes me ackReq dp pLen (some (foundRoute me dp.dst route)) =
      .ok (some (some sent)) ∧ Resent sizes me dp opt route sent

/-- A request is added to the packet. -/
def Requests (ackReq : Option Nat) (dp : DsrPkt) : Prop :=
  ackReq.isSome ∧ dp.hasFlag pktRequestAck

instance (ackReq : Option Nat) (dp : DsrPkt) : Decidable (Requests ackReq dp) :=
  inferInstanceAs (Decidable (_ ∧ _))

/-- `p_len` is right before, or too great by the request that will not be counted; and it can
count the options with the new route. -/
structure RightLength (sizes : Sizes) (ackReq : Option Nat) (dp : DsrPkt) (header : List DsrOpt)
    (pLen : Nat) (opt : DsrSrtOpt) (relays : Nat) : Prop where
  before : pLen = (optionsLen sizes header + if Requests ackReq dp ∧ requestIds dp.opth ≠ [] then
    sizes.ackReqHdrLen else 0) % 2 ^ 16
  fits : optionsLen sizes header + (dsrSrtHdrLen + relays * dsrAddressSize) +
    (if Requests ackReq dp then sizes.ackReqHdrLen else 0) < 2 ^ 16 + (opt.length + 2)

theorem maintBufSalvageXmit_eq (sizes : Sizes) (ackReq : Option Nat) (pLen : Nat)
    (salvageable : Salvageable me dp header opt)
    (short : (newAddrs me dp opt route).length < 2 ^ 6) :
    maintBufSalvageXmit sizes me ackReq dp pLen (some (foundRoute me dp.dst route)) = .ok
      (if (newSrt me dp opt route).nodes.Nodup then
        some (xmitWithLength sizes ackReq (salvagedPkt me dp opt route)
          (salvagePLen pLen opt (newSrt me dp opt route)))
      else none) := by
  unfold maintBufSalvageXmit
  refine bind_ok.mpr ⟨_, salvagePacket_eq salvageable short, ?_⟩
  rw [salvageable.parsed]
  by_cases distinct : (newSrt me dp opt route).nodes.Nodup
  · rw [if_pos distinct, if_pos distinct]
    rfl
  · rw [if_neg distinct, if_neg distinct]

/-- The packet reaches the next hop: it still lives, or it is given another time to live with the
first request. -/
def Lives (ackReq : Option Nat) (dp : DsrPkt) : Prop :=
  dp.ttl ≠ 0 ∨ Requests ackReq dp ∧ requestIds dp.opth = []

theorem opth_requests (ackReq : Option Nat) (dp : DsrPkt) : (withAckReq ackReq dp).opth =
    if Requests ackReq dp then dsrAckReqOptAdd dp.opth (ackReq.getD 0) else dp.opth := by
  unfold withAckReq
  cases ackReq with
  | none => exact (if_neg fun requests => Bool.noConfusion requests.1).symm
  | some id =>
      dsimp only
      by_cases flagged : dp.hasFlag pktRequestAck = true
      · rw [if_pos flagged]
        exact (if_pos ⟨rfl, flagged⟩).symm
      · rw [if_neg flagged]
        exact (if_neg fun requests => flagged requests.2).symm

theorem lives_iff (ackReq : Option Nat) (dp : DsrPkt) :
    (withAckReq ackReq dp).ttl ≠ 0 ↔ Lives ackReq dp := by
  by_cases alive : dp.ttl = 0
  · rw [Lives, or_iff_right (not_not.mpr alive)]
    unfold withAckReq
    cases ackReq with
    | none => exact iff_of_false (not_not.mpr alive) fun requests => Bool.noConfusion requests.1.1
    | some id =>
        dsimp only
        by_cases flagged : dp.hasFlag pktRequestAck = true
        · rw [if_pos flagged, and_iff_right (show Requests (some id) dp from ⟨rfl, flagged⟩)]
          unfold ackReqTtl
          by_cases asked : dp.opth.any hasAckReq = true
          · rw [if_pos asked]
            exact iff_of_false (not_not.mpr alive) ((any_hasAckReq _).mp asked)
          · rw [if_neg asked]
            refine iff_of_true (dsrBuildIpTtl_ne_zero _) (not_not.mp fun listed => asked ?_)
            exact (any_hasAckReq _).mpr listed
        · rw [if_neg flagged]
          exact iff_of_false (not_not.mpr alive) fun requests => flagged requests.1.2
  · exact iff_of_true (by rwa [ttl_withAckReq ackReq alive]) (.inl alive)

theorem salvagedPkt_lives (ackReq : Option Nat) (route : List InAddr)
    (salvageable : Salvageable me dp header opt) :
    Lives ackReq (salvagedPkt me dp opt route) ↔ Lives ackReq dp := by
  obtain ⟨header', options, -, -, ids⟩ :=
    setSrtOpt_header ⟨0, 0⟩ salvageable.routed (newOpt me dp opt route)
  have unasked : requestIds (salvagedPkt me dp opt route).opth = requestIds dp.opth := by
    show requestIds (setSrtOpt dp.opth _) = _
    rw [salvageable.options, options, ids]
  rw [Lives, unasked]
  rfl

theorem xmitWithLength_salvaged (sizes : Sizes) (ackReq : Option Nat) (pLen : Nat)
    (route : List InAddr) (salvageable : Salvageable me dp header opt) (lives : Lives ackReq dp) :
    ∃ sent header', xmitWithLength sizes ackReq (salvagedPkt me dp opt route) pLen = some sent ∧
      sent.p.dsrOptions = [header'] ∧
      header'.findSome? srtOption = some (newOpt me dp opt route) ∧
      optionsLen sizes header' + (opt.length + 2) =
        optionsLen sizes header + ((newOpt me dp opt route).length + 2) +
          (if Requests ackReq dp then sizes.ackReqHdrLen else 0) ∧
      sent.pLen =
        (if Requests ackReq dp then
          (if requestIds dp.opth ≠ [] then pLen else (pLen + sizes.ackReqHdrLen) % 2 ^ 16)
        else pLen) ∧
      sent.p.src = dp.src ∧ sent.p.dst = dp.dst ∧ sent.p.payloadLen = dp.payloadLen ∧
      ∀ next, sent.p.nextAddress = some next → (route ++ [dp.dst]).head? = some next := by
  obtain ⟨header', options, found, length, ids⟩ :=
    setSrtOpt_header sizes salvageable.routed (newOpt me dp opt route)
  have opth : (salvagedPkt me dp opt route).opth = [header'] := by
    show setSrtOpt dp.opth _ = _
    rw [salvageable.options, options]
  have first : (route ++ [dp.dst]).head? = some (salvagedPkt me dp opt route).nxtHop := by
    cases route <;> rfl
  have added : ackReqPLen sizes [header'] pLen =
      if requestIds dp.opth ≠ [] then pLen else (pLen + sizes.ackReqHdrLen) % 2 ^ 16 := by
    rw [ackReqPLen, ids, ← salvageable.options]
  have same : Requests ackReq (salvagedPkt me dp opt route) ↔ Requests ackReq dp := Iff.rfl
  have living := (salvagedPkt_lives ackReq route salvageable).mpr lives
  obtain ⟨p, xmit⟩ := omnetXmit_lives ((lives_iff ackReq _).mpr living)
  have sent := opth_requests ackReq (salvagedPkt me dp opt route)
  have made := omnetXmit_some xmit
  unfold xmitWithLength
  rw [xmit, opth, Option.map_some]
  rw [opth, dsrAckReqOptAdd_single] at sent
  have hop : ∀ hop, p.nextAddress = some hop → (route ++ [dp.dst]).head? = some hop := by
    intro hop there
    rw [made] at there
    dsimp only at there
    split at there
    · rw [← Option.some.inj there]
      exact first
    · cases there
  have src : p.src = dp.src := by rw [made]; rfl
  have dst : p.dst = dp.dst := by rw [made]; rfl
  have payload : p.payloadLen = dp.payloadLen := by rw [made]; rfl
  replace sent : p.dsrOptions = _ := (congrArg DSRPkt.dsrOptions made).trans sent
  by_cases requests : Requests ackReq dp
  · rw [if_pos (same.mpr requests)] at sent
    refine ⟨_, _, rfl, sent, ?_, ?_, ?_, src, dst, payload, hop⟩
    · rw [List.findSome?_append, found]
      rfl
    · rw [if_pos requests, optionsLen_append, optionsLen_cons, optionsLen_nil, DsrOpt.size]
      omega
    · rw [if_pos requests]
      exact (if_pos requests).trans added
  · rw [if_neg fun requested => requests (same.mp requested)] at sent
    refine ⟨_, _, rfl, sent, found, ?_, ?_, src, dst, payload, hop⟩
    · rw [if_neg requests]
      exact length
    · rw [if_neg requests]
      exact if_neg requests

theorem xmitWithLength_dead (sizes : Sizes) (ackReq : Option Nat) (pLen : Nat)
    (salvageable : Salvageable me dp header opt) (dead : ¬ Lives ackReq dp) :
    xmitWithLength sizes ackReq (salvagedPkt me dp opt route) pLen = none := by
  have spent : (withAckReq ackReq (salvagedPkt me dp opt route)).ttl = 0 :=
    not_not.mp fun lives =>
      dead ((salvagedPkt_lives ackReq route salvageable).mp ((lives_iff ackReq _).mp lives))
  unfold xmitWithLength omnetXmit
  dsimp only
  rw [if_pos spent]
  rfl

theorem rightLength_iff {sizes : Sizes} {ackReq : Option Nat} {pLen sentLen : Nat} {srt : DsrSrt}
    {header' : List DsrOpt} {relays : Nat} (ranged : pLen < 2 ^ 16)
    (newLen : dsrSrtOptLen srt = dsrSrtHdrLen + relays * dsrAddressSize)
    (length : optionsLen sizes header' + (opt.length + 2) =
      optionsLen sizes header + dsrSrtOptLen srt +
        (if Requests ackReq dp then sizes.ackReqHdrLen else 0))
    (sent : sentLen =
      (if Requests ackReq dp then
        (if requestIds dp.opth ≠ [] then salvagePLen pLen opt srt
          else (salvagePLen pLen opt srt + sizes.ackReqHdrLen) % 2 ^ 16)
      else salvagePLen pLen opt srt)) :
    sentLen = optionsLen sizes header' ↔
      RightLength sizes ackReq dp header pLen opt relays := by
  have kept := salvagePLen_eq ranged opt srt
  have right : RightLength sizes ackReq dp header pLen opt relays ↔
      pLen = (optionsLen sizes header + if Requests ackReq dp ∧ requestIds dp.opth ≠ [] then
          sizes.ackReqHdrLen else 0) % 2 ^ 16 ∧
        optionsLen sizes header + dsrSrtOptLen srt +
          (if Requests ackReq dp then sizes.ackReqHdrLen else 0) < 2 ^ 16 + (opt.length + 2) := by
    rw [newLen]
    exact ⟨fun right => ⟨right.before, right.fits⟩, fun right => ⟨right.1, right.2⟩⟩
  rw [right, sent]
  by_cases requests : Requests ackReq dp
  · by_cases doubled : requestIds dp.opth ≠ []
    · rw [if_pos requests] at length
      rw [if_pos requests, if_pos doubled, if_pos ⟨requests, doubled⟩, if_pos requests]
      omega
    · rw [if_pos requests] at length
      rw [if_pos requests, if_neg doubled, if_neg fun both => doubled both.2, if_pos requests]
      omega
  · rw [if_neg requests] at length
    rw [if_neg requests, if_neg fun both => requests both.1, if_neg requests]
    omega

/-- A packet that can be salvaged goes on as it should if and only if it has not been salvaged
15 times, lives or is given a time to live with its first request, and its length is right. -/
theorem salvagesRight_iff (sizes : Sizes) (ackReq : Option Nat) {pLen : Nat}
    (salvageable : Salvageable me dp header opt) (ranged : pLen < 2 ^ 16)
    (short : (newAddrs me dp opt route).length ≤ 63) :
    SalvagesRight sizes me ackReq dp pLen opt route ↔
      ((dp.src :: newAddrs me dp opt route ++ [dp.dst]).Nodup →
        opt.salv + 1 < 2 ^ 4 ∧ Lives ackReq dp ∧
          RightLength sizes ackReq dp header pLen opt (newAddrs me dp opt route).length) := by
  have fewer : (newAddrs me dp opt route).length < 2 ^ 6 := by omega
  unfold SalvagesRight
  rw [maintBufSalvageXmit_eq sizes ackReq pLen salvageable fewer]
  by_cases distinct : (newSrt me dp opt route).nodes.Nodup
  · rw [if_pos distinct]
    have nodes : (dp.src :: newAddrs me dp opt route ++ [dp.dst]).Nodup := distinct
    have segments : route.length ≤ (newAddrs me dp opt route).length := by
      unfold newAddrs
      split
      · exact le_rfl
      · simp only [List.length_append, List.length_cons]
        omega
    by_cases lives : Lives ackReq dp
    swap
    · rw [xmitWithLength_dead sizes ackReq _ salvageable lives]
      constructor
      · rintro (refused | ⟨sent, none, -⟩)
        · cases refused
        · cases none
      · intro meets
        exact absurd (meets nodes).2.1 lives
    · obtain ⟨sent, header', xmit, options, found, length, pLens, src, dst, payload, next⟩ :=
        xmitWithLength_salvaged sizes ackReq (salvagePLen pLen opt (newSrt me dp opt route))
          route salvageable lives
      have newLen : dsrSrtOptLen (newSrt me dp opt route) =
          dsrSrtHdrLen + (newAddrs me dp opt route).length * dsrAddressSize := rfl
      have optLen : (newOpt me dp opt route).length + 2 =
          dsrSrtHdrLen + (newAddrs me dp opt route).length * dsrAddressSize := by
        simp only [newOpt, dsrSrtHdrLen, dsrAddressSize]
        omega
      have counted : sent.pLen = optionsLen sizes header' ↔
          RightLength sizes ackReq dp header pLen opt (newAddrs me dp opt route).length :=
        rightLength_iff ranged newLen (by rw [length, optLen, newLen]) pLens
      rw [xmit]
      constructor
      · rintro (refused | ⟨sent', same, resent⟩) -
        · cases refused
        · cases same
          obtain ⟨header'', opt', options', found', -, -, salv, total⟩ := resent.routed
          rw [options] at options'
          cases options'
          rw [found] at found'
          cases found'
          refine ⟨?_, lives, counted.mp total⟩
          simp only [newOpt] at salv
          omega
      · intro meets
        obtain ⟨salv, -, right⟩ := meets nodes
        refine .inr ⟨sent, rfl, ⟨header', _, options, found, rfl, ?_, ?_, counted.mpr right⟩, nodes,
          src, dst, payload, next⟩
        · exact Nat.mod_eq_of_lt (by omega)
        · exact Nat.mod_eq_of_lt salv
  · rw [if_neg distinct]
    exact ⟨fun _ nodes => absurd nodes distinct, fun _ => .inl rfl⟩

end

/-! ## A relay that knows another way -/

def unsentPkt (ids : List Nat) : DsrPkt where
  src := 1
  dst := 4
  nxtHop := 3
  prvHop := 1
  flags := pktRequestAck
  salvage := 0
  ttl := 60
  payloadLen := 512
  opth := [.srt { length := 10, salv := 0, sleft := 1, addrs := [2, 3] } :: ids.map .ackReq]
  srtOpt := some { length := 10, salv := 0, sleft := 1, addrs := [2, 3] }
  rrepOpt := []
  srt := none
  costVector := []

theorem unsentPkt_salvageable (ids : List Nat) :
    Salvageable 2 (unsentPkt ids)
      (.srt { length := 10, salv := 0, sleft := 1, addrs := [2, 3] } :: ids.map .ackReq)
      { length := 10, salv := 0, sleft := 1, addrs := [2, 3] } :=
  ⟨rfl, rfl, rfl, rfl, by simp [unsentPkt], ⟨1, rfl, rfl⟩, rfl⟩

/-- Over the node 5 the packet goes on as it should. -/
theorem salvagesRight_iff_relay :
    SalvagesRight { ackReqHdrLen := 16, ackHdrLen := 24 } 2 (some 1) (unsentPkt []) 12
      { length := 10, salv := 0, sleft := 1, addrs := [2, 3] } [5] :=
  (salvagesRight_iff _ _ (unsentPkt_salvageable []) (by decide) (by decide)).mpr fun _ =>
    ⟨by decide, .inl (by decide), by decide, by decide⟩

/-- With a request of the previous hop in it the header is too short for the options. -/
theorem not_salvagesRight :
    ¬∀ (sizes : Sizes) (me : InAddr) (ackReq : Option Nat) (dp : DsrPkt) (header : List DsrOpt)
      (pLen : Nat) (opt : DsrSrtOpt) (route : List InAddr),
      Salvageable me dp header opt → pLen = optionsLen sizes header → pLen < 2 ^ 16 →
      (newAddrs me dp opt route).length ≤ 63 →
      SalvagesRight sizes me ackReq dp pLen opt route := by
  intro holds
  have salvages := holds { ackReqHdrLen := 16, ackHdrLen := 24 } 2 (some 1) (unsentPkt [7]) _ 28 _
    [5] (unsentPkt_salvageable [7]) rfl (by decide) (by decide)
  rcases salvages with refused | ⟨sent, same, resent⟩
  · cases refused
  · cases same
    obtain ⟨header', opt', options, -, -, -, -, total⟩ := resent.routed
    cases options
    exact absurd total (by decide)

end SyncFanet.Dsr
