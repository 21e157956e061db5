import SyncFanet.Dsr.AttestedRoutes

/-!
# Packets over links that were heard

What a packet in the network says: a source route leads over links that were heard, at its
sender and with the next hop behind it, a reply reports such a route, and a request lists the
nodes that it has come over. A node whose cache and buffers hold nothing else sends no other
packets.
-/

set_option autoImplicit false

namespace SyncFanet.Dsr

/-! ## Options -/

/-- A source route at one of its nodes, with the next hop, and the nodes that are left. -/
structure Routing (met : InAddr → InAddr → Prop) (sender src dst next : InAddr)
    (opt : DsrSrtOpt) : Prop where
  length : opt.length = dsrAddressSize * opt.addrs.length + 2
  distinct : (src :: opt.addrs ++ [dst]).Nodup
  linked : (src :: opt.addrs ++ [dst]).IsChain met
  left : opt.sleft ≤ opt.addrs.length
  here : (src :: opt.addrs)[opt.addrs.length - opt.sleft]? = some sender
  next : (opt.addrs ++ [dst])[opt.addrs.length - opt.sleft]? = some next

/-- A request at the last node that it lists. -/
structure Seeking (met : InAddr → InAddr → Prop) (sender src : InAddr) (opt : DsrRreqOpt) :
    Prop where
  length : opt.length = dsrAddressSize * opt.addrs.length + 6
  distinct : (src :: opt.addrs).Nodup
  linked : (src :: opt.addrs).IsChain met
  last : (src :: opt.addrs).getLast? = some sender
  target : opt.target ∉ opt.addrs

/-- The route that a reply reports to its destination. -/
def Reporting (met : InAddr → InAddr → Prop) (dst : InAddr) (opt : DsrRrepOpt) : Prop :=
  (dst :: opt.addrs).IsChain met

def DsrOpt.Silent : DsrOpt → Prop
  | .rreq _ | .rrep _ | .srt _ => False
  | _ => True

def Truthful (met : InAddr → InAddr → Prop) (dst : InAddr) (dopt : DsrOpt) : Prop :=
  dopt.Silent ∨ ∃ opt, dopt = .rrep opt ∧ Reporting met dst opt

/-- The options of a packet: a request, a source route and options behind it, or options
without a route. -/
inductive Header (met : InAddr → InAddr → Prop) (sender src dst : InAddr) (next : Option InAddr)
    (payloadLen : Nat) : List DsrOpt → Prop where
  | request {opt : DsrRreqOpt} (seeking : Seeking met sender src opt) (empty : payloadLen = 0) :
      Header met sender src dst next payloadLen [.rreq opt]
  | routed {opt : DsrSrtOpt} {hop : InAddr} {rest : List DsrOpt}
      (routing : Routing met sender src dst hop opt) (reaches : next = some hop)
      (others : ∀ dopt ∈ rest, Truthful met dst dopt) :
      Header met sender src dst next payloadLen (.srt opt :: rest)
  | plain {options : List DsrOpt} (silent : ∀ dopt ∈ options, dopt.Silent) :
      Header met sender src dst next payloadLen options

def Attested (met : InAddr → InAddr → Prop) (copy : RreqCopy) : Prop :=
  ∃ options, copy.p.dsrOptions = [options] ∧
    Header met copy.sender copy.p.src copy.p.dst copy.p.nextAddress copy.p.payloadLen options

structure Sendable (met : InAddr → InAddr → Prop) (me : InAddr) (dp : DsrPkt) : Prop where
  header : ∃ options, dp.opth = [options] ∧
    Header met me dp.src dp.dst (if dp.dst ≠ dsrBroadcast then some dp.nxtHop else none)
      dp.payloadLen options
  quiet : ∀ opt, dp.opth = [[.rreq opt]] → dp.hasFlag pktRequestAck = false

section

variable {met more : InAddr → InAddr → Prop} {me sender src dst hop : InAddr}
  {next : Option InAddr} {payloadLen : Nat} {options : List DsrOpt} {dp : DsrPkt} {p : DSRPkt}

/-! ## More links -/

theorem Truthful.mono (grows : ∀ a b, met a b → more a b) {dopt : DsrOpt}
    (truthful : Truthful met dst dopt) : Truthful more dst dopt :=
  truthful.imp_right fun ⟨opt, same, reporting⟩ => ⟨opt, same, reporting.imp grows⟩

theorem Header.mono (grows : ∀ a b, met a b → more a b)
    (header : Header met sender src dst next payloadLen options) :
    Header more sender src dst next payloadLen options := by
  cases header with
  | request seeking empty =>
      exact .request ⟨seeking.length, seeking.distinct, seeking.linked.imp grows, seeking.last,
        seeking.target⟩ empty
  | routed routing reaches others =>
      exact .routed ⟨routing.length, routing.distinct, routing.linked.imp grows, routing.left,
        routing.here, routing.next⟩ reaches fun dopt member => (others dopt member).mono grows
  | plain silent => exact .plain silent

theorem Attested.mono (grows : ∀ a b, met a b → more a b) {copy : RreqCopy}
    (attested : Attested met copy) : Attested more copy := by
  obtain ⟨options, whole, header⟩ := attested
  exact ⟨options, whole, header.mono grows⟩

/-! ## Transmitting -/

theorem Header.ackReq {id : Nat} (header : Header met sender src dst next payloadLen options)
    (asks : ∀ opt, options ≠ [.rreq opt]) :
    Header met sender src dst next payloadLen (options ++ [.ackReq id]) := by
  cases header with
  | request seeking empty => exact absurd rfl (asks _)
  | routed routing reaches others =>
      refine .routed routing reaches fun dopt member => ?_
      cases List.mem_append.mp member with
      | inl old => exact others dopt old
      | inr new =>
          rw [List.mem_singleton.mp new]
          exact .inl trivial
  | plain silent =>
      refine .plain fun dopt member => ?_
      cases List.mem_append.mp member with
      | inl old => exact silent dopt old
      | inr new =>
          rw [List.mem_singleton.mp new]
          exact trivial

theorem Sendable.transmitted {ackReq : Option Nat} (sendable : Sendable met me dp)
    (sent : omnetXmit ackReq dp = some p) : Attested met ⟨me, p⟩ := by
  obtain ⟨options, whole, header⟩ := sendable.header
  obtain rfl := omnetXmit_some sent
  by_cases asks : dp.hasFlag pktRequestAck = true
  · have other : ∀ opt, options ≠ [.rreq opt] := by
      rintro opt rfl
      rw [sendable.quiet opt whole] at asks
      cases asks
    rcases opth_withAckReq ackReq dp with same | ⟨id, added⟩
    · exact ⟨options, same.trans whole, header⟩
    · exact ⟨options ++ [.ackReq id], by rw [added, whole, dsrAckReqOptAdd_single],
        header.ackReq other⟩
  · refine ⟨options, ?_, header⟩
    rw [← whole]
    unfold withAckReq
    cases ackReq with
    | none => rfl
    | some id => exact congrArg DsrPkt.opth (if_neg asks)

theorem length_dsrAckReqOptAdd {first : List DsrOpt} {headers : List (List DsrOpt)} {id : Nat} :
    (dsrAckReqOptAdd (first :: headers) id).length = headers.length + 1 := by
  unfold dsrAckReqOptAdd
  split
  · rw [updateFirst.length_updateFirst, List.length_cons]
  · simp

theorem omnetXmit_options {ackReq : Option Nat} (sent : omnetXmit ackReq dp = some p) :
    p.src = dp.src ∧ p.dst = dp.dst ∧
      p.nextAddress = (if dp.dst ≠ dsrBroadcast then some dp.nxtHop else none) ∧
      (p.dsrOptions = dp.opth ∨ ∃ id, p.dsrOptions = dsrAckReqOptAdd dp.opth id) := by
  rw [omnetXmit_some sent]
  exact ⟨rfl, rfl, rfl, opth_withAckReq ackReq dp⟩

theorem transmitted_header {ackReq : Option Nat} {header : List DsrOpt}
    (sent : omnetXmit ackReq dp = some p) (whole : dp.opth = [header]) :
    ∃ ids : List Nat, p.dsrOptions = [header ++ ids.map .ackReq] := by
  rcases (omnetXmit_options sent).2.2.2 with same | ⟨id, added⟩
  · exact ⟨[], by simp [same, whole]⟩
  · exact ⟨[id], by rw [added, whole, dsrAckReqOptAdd_single]; rfl⟩

theorem header_of_transmitted {ackReq : Option Nat} (sent : omnetXmit ackReq dp = some p)
    (whole : p.dsrOptions = [options]) :
    ∃ (header : List DsrOpt) (ids : List Nat), options = header ++ ids.map .ackReq ∧
      (dp.opth = [header] ∨ dp.opth = [] ∧ header = []) := by
  rcases (omnetXmit_options sent).2.2.2 with same | ⟨id, added⟩
  · rw [same] at whole
    exact ⟨options, [], by simp, .inl whole⟩
  · rw [added] at whole
    cases opth : dp.opth with
    | nil =>
        rw [opth] at whole
        cases whole
        exact ⟨[], [id], rfl, .inr ⟨rfl, rfl⟩⟩
    | cons header headers =>
        cases headers with
        | nil =>
            rw [opth, dsrAckReqOptAdd_single] at whole
            exact ⟨header, [id], (List.singleton_inj.mp whole).symm, .inl rfl⟩
        | cons second headers =>
            have length := congrArg List.length whole
            rw [opth, length_dsrAckReqOptAdd] at length
            simp at length

/-! ## Source routes -/

variable {nodes : Finset InAddr} {opt : DsrSrtOpt} {srt : DsrSrt} {rest : List DsrOpt}

theorem routing_at (i salvage : Nat) {length : Nat} (meets : Meets nodes met) (along : srt.Over met)
    (here : (srt.src :: srt.addrs)[i]? = some me)
    (next : dsrSrtNextHop srt (((srt.addrs.length - i) % 2 ^ 6 : Nat) : Int) = .ok hop)
    (counted : length = (srt.laddrs + 2) % 2 ^ 8) :
    Routing met me srt.src srt.dst hop
      { length := length, salv := salvage, sleft := (srt.addrs.length - i) % 2 ^ 6,
        addrs := srt.addrs } := by
  have short := along.short meets
  have inside : i ≤ srt.addrs.length := by
    have bound := (List.getElem?_eq_some_iff.mp here).1
    rw [List.length_cons] at bound
    omega
  have small : (srt.addrs.length - i) % 2 ^ 6 = srt.addrs.length - i := by omega
  have position : srt.addrs.length - (srt.addrs.length - i) = i := by omega
  rw [small] at next ⊢
  refine ⟨?_, along.distinct, along.linked, Nat.sub_le _ _, ?_, ?_⟩
  · rw [counted, along.laddrs]
    simp only [dsrAddressSize]
    omega
  · simp only [position]
    exact here
  · simp only [position]
    obtain ⟨there, listed⟩ : ∃ there, (srt.addrs ++ [srt.dst])[i]? = some there :=
      ⟨_, List.getElem?_eq_getElem (by simp; omega)⟩
    have same := dsrSrtNextHop_at (DsrSrt.count_of_laddrs along.laddrs) listed
    rw [next] at same
    rw [listed, Except.ok.inj same]

theorem Routing.sendable (meets : Meets nodes met)
    (routing : Routing met me dp.src dp.dst dp.nxtHop opt) (whole : dp.opth = [.srt opt :: rest])
    (others : ∀ dopt ∈ rest, Truthful met dp.dst dopt) : Sendable met me dp := by
  have unicast : dp.dst ≠ dsrBroadcast := by
    intro broadcast
    have last := meets.among routing.linked (by simp) dp.dst (by simp)
    exact meets.unicast (broadcast ▸ last)
  refine ⟨⟨_, whole, .routed routing (if_pos unicast) others⟩, fun asked same => ?_⟩
  rw [whole] at same
  cases same

theorem dsrSrtAdd_sendable {dp' : DsrPkt} (meets : Meets nodes met) (along : srt.Over met)
    (starts : srt.src = me) (ends : srt.dst = dp.dst) (own : dp.src = me) (plain : dp.opth = [])
    (added : dsrSrtAdd dp srt = .ok dp') (costs : List EtxCost) :
    Sendable met me { dp' with costVector := costs } := by
  obtain ⟨nxtHop, next, added⟩ := bind_ok.mp added
  cases added
  have counted := DsrSrt.count_of_laddrs along.laddrs
  have short := along.short meets
  have small : srt.count % 2 ^ 6 = (srt.addrs.length - 0) % 2 ^ 6 := by rw [counted, Nat.sub_zero]
  have first : dsrSrtNextHop srt (((srt.addrs.length - 0) % 2 ^ 6 : Nat) : Int) = .ok nxtHop := by
    rw [← small, Nat.mod_eq_of_lt (by omega)]
    exact next
  have routing := routing_at 0 (dp.salvage % 2 ^ 4) meets along (congrArg some starts) first rfl
  have written : dsrSrtOptAdd dp.salvage srt =
      { length := (srt.laddrs + 2) % 2 ^ 8, salv := dp.salvage % 2 ^ 4,
        sleft := (srt.addrs.length - 0) % 2 ^ 6, addrs := srt.addrs } := by
    rw [dsrSrtOptAdd, small]
  have route : Routing met me dp.src dp.dst nxtHop (dsrSrtOptAdd dp.salvage srt) := by
    rw [written, own, ← starts, ← ends]
    exact starts ▸ routing
  have whole : dp.opth ++ [[.srt (dsrSrtOptAdd dp.salvage srt)]] =
      [[.srt (dsrSrtOptAdd dp.salvage srt)]] := by
    rw [plain]
    rfl
  exact Routing.sendable meets route whole (List.forall_mem_nil _)

/-! ## Packets that a node makes -/

theorem request_attested (request : Request) (ttl : Nat) :
    Attested met ⟨request.initiator, request.first ttl⟩ :=
  ⟨_, rfl, .request
    ⟨rfl, List.nodup_singleton _, List.isChain_singleton _, rfl, List.not_mem_nil⟩ rfl⟩

theorem dsrAckSend_sendable (id : Nat) : Sendable met me (dsrAckSend me dst id) := by
  refine ⟨⟨_, rfl, .plain fun dopt member => ?_⟩, fun opt same => ?_⟩
  · rw [List.mem_singleton.mp member]
    trivial
  · cases same

theorem routing_start (salvage : Nat) (meets : Meets nodes met) (along : srt.Over met)
    (starts : srt.src = me) (next : (srt.addrs ++ [srt.dst])[0]? = some hop) :
    Routing met me srt.src srt.dst hop (dsrSrtOptAdd salvage srt) := by
  have counted := DsrSrt.count_of_laddrs along.laddrs
  have short := along.short meets
  have small : srt.count % 2 ^ 6 = (srt.addrs.length - 0) % 2 ^ 6 := by rw [counted, Nat.sub_zero]
  rw [dsrSrtOptAdd, small]
  refine routing_at 0 _ meets along (congrArg some starts) ?_ rfl
  rw [Nat.mod_eq_of_lt (by omega)]
  exact dsrSrtNextHop_at counted next

theorem dsrRrepSend_sendable {node : Node} {srtToMe : DsrSrt} (meets : Meets nodes met)
    (along : srt.Over met) (starts : srt.src = node.myaddr) (reports : srtToMe.src = srt.dst)
    (linked : srtToMe.nodes.IsChain met) (ran : node.dsrRrepSend srt srtToMe = .ok dp) :
    Sendable met node.myaddr dp := by
  obtain ⟨nxtHop, next, ran⟩ := bind_ok.mp ran
  obtain ⟨costs, -, ran⟩ := bind_ok.mp ran
  cases ran
  have first : (srt.addrs ++ [srt.dst])[0]? = some nxtHop := by
    have laddrs := along.laddrs
    cases addrs : srt.addrs with
    | nil =>
        rw [addrs, List.length_nil, Nat.mul_zero] at laddrs
        rw [if_pos laddrs] at next
        exact congrArg some (Except.ok.inj next)
    | cons relay rest =>
        rw [addrs] at laddrs next
        rw [if_neg (by rw [laddrs, dsrAddressSize, List.length_cons]; omega)] at next
        exact congrArg some (Except.ok.inj next)
  have routing := routing_start 0 meets along starts first
  rw [starts] at routing
  refine Routing.sendable meets routing rfl fun dopt member =>
    .inr ⟨_, List.mem_singleton.mp member, ?_⟩
  unfold Reporting dsrRrepOptAdd
  rw [← reports]
  exact linked

theorem dsrRerrSend_sendable {maxSalvageCount : Nat} {dpTrigg : DsrPkt} {unrAddr : InAddr}
    {found : Option DsrSrt} (meets : Meets nodes met)
    (along : ∀ srt, found = some srt → srt.Over met ∧ srt.src = me)
    (whom : ∀ opt, dpTrigg.srtOpt = some opt → ∀ dst, rerrDst dpTrigg opt = .ok dst →
      ∀ srt, found = some srt → srt.dst = dst)
    (ran : dsrRerrSend me maxSalvageCount (fun _ => found) dpTrigg unrAddr = .ok (some dp)) :
    Sendable met me dp := by
  unfold dsrRerrSend at ran
  split at ran
  · cases ran
  · next opt routed =>
    split at ran
    · cases ran
    · obtain ⟨dst, told, ran⟩ := bind_ok.mp ran
      cases found with
      | none => cases ran
      | some srt =>
          obtain ⟨nxtHop, next, ran⟩ := bind_ok.mp ran
          cases ran
          obtain ⟨along, starts⟩ := along srt rfl
          obtain rfl := whom opt routed dst told srt rfl
          have counted := DsrSrt.count_of_laddrs along.laddrs
          obtain ⟨there, listed⟩ : ∃ there, (srt.addrs ++ [srt.dst])[0]? = some there :=
            ⟨_, List.getElem?_eq_getElem (by simp)⟩
          have same := dsrSrtNextHop_at counted listed
          rw [Nat.sub_zero, ← counted, next] at same
          have routing := routing_start 0 meets along starts listed
          rw [← Except.ok.inj same, starts] at routing
          refine Routing.sendable meets routing rfl fun dopt member => .inl ?_
          rcases List.mem_cons.mp member with rfl | old
          · trivial
          · unfold oldErrors at old
            rcases List.mem_append.mp old with rerr | ack
            · obtain ⟨opt, -, rfl⟩ := List.mem_map.mp rerr
              trivial
            · obtain ⟨opt, -, rfl⟩ := List.mem_map.mp ack
              trivial

/-! ## Salvaged packets -/

theorem Routing.atSource_iff (routing : Routing met me dp.src dp.dst dp.nxtHop opt) :
    AtSource dp opt ↔ me = dp.src := by
  have distinct := routing.distinct
  obtain ⟨unrepeated, later⟩ := List.nodup_cons.mp distinct
  have here := routing.here
  have next := routing.next
  generalize opt.addrs.length - opt.sleft = i at here next
  unfold AtSource
  rw [List.head?_eq_getElem?]
  constructor
  · intro first
    obtain ⟨zero, startsAt⟩ := List.getElem?_eq_some_iff.mp first
    obtain ⟨there, foundAt⟩ := List.getElem?_eq_some_iff.mp next
    have same := (List.Nodup.getElem_inj_iff later).mp (foundAt.trans startsAt.symm)
    rw [same] at here
    exact (Option.some.inj here).symm
  · rintro rfl
    cases i with
    | zero => exact next
    | succ k =>
        rw [List.getElem?_cons_succ] at here
        exact absurd (List.mem_append_left _ (List.mem_of_getElem? here)) unrepeated

theorem Routing.relay (routing : Routing met me dp.src dp.dst dp.nxtHop opt)
    (other : me ≠ dp.src) : ∃ after,
      opt.addrs = opt.addrs.takeWhile (· ≠ me) ++ me :: after := by
  have here := List.mem_of_getElem? routing.here
  have listed : me ∈ opt.addrs := (List.mem_cons.mp here).resolve_left other
  obtain ⟨before, after, split, fresh⟩ := List.eq_append_cons_of_mem listed
  have front : opt.addrs.takeWhile (· ≠ me) = before := by
    rw [split, List.takeWhile_append_of_pos]
    · simp
    · intro addr member
      exact decide_eq_true fun same => fresh (same ▸ member)
  exact ⟨after, by rw [front]; exact split⟩

theorem salvageRoute_linked {oldSrt : DsrSrt} {route : PathCacheRoute} {sleft : Nat}
    (routing : Routing met me dp.src dp.dst dp.nxtHop opt) (old : oldSrt.addrs = opt.addrs)
    (starts : oldSrt.src = dp.src) (ends : oldSrt.dst = dp.dst)
    (mine : (me :: (route ++ [dp.dst])).IsChain met)
    (made : salvageRoute me dp oldSrt (foundRoute me dp.dst route) = .ok (some (srt, sleft))) :
    srt.src = dp.src ∧ srt.dst = dp.dst ∧ srt.laddrs = dsrAddressSize * srt.addrs.length ∧
      srt.nodes.IsChain met ∧ sleft = route.length ∧ sleft ≤ srt.addrs.length ∧
      (srt.src :: srt.addrs)[srt.addrs.length - sleft]? = some me := by
  obtain ⟨source, last, addrs, laddrs, left⟩ := salvageRoute_some old ends starts made
  have sized : srt.laddrs = dsrAddressSize * srt.addrs.length := by
    rw [laddrs, addrs]
    exact Nat.mul_comm _ _
  by_cases here : AtSource dp opt
  · have own := routing.atSource_iff.mp here
    rw [salvagedAddrs, if_pos here] at addrs
    rw [if_pos here] at source
    refine ⟨source.trans own, last, sized, ?_, left, ?_, ?_⟩
    · rw [DsrSrt.nodes, source, addrs, last]
      exact mine
    · rw [left, addrs]
    · rw [left, addrs, Nat.sub_self, source]
      rfl
  · have other : me ≠ dp.src := fun own => here (routing.atSource_iff.mpr own)
    obtain ⟨after, split⟩ := routing.relay other
    rw [salvagedAddrs, if_neg here] at addrs
    rw [if_neg here] at source
    have front := routing.linked
    rw [split, List.cons_append, List.append_assoc, List.cons_append, ← List.cons_append] at front
    have length := congrArg List.length addrs
    rw [List.length_append, List.length_cons] at length
    refine ⟨source, last, sized, ?_, left, by omega, ?_⟩
    · rw [DsrSrt.nodes, source, addrs, last, List.cons_append, List.append_assoc,
        List.cons_append, ← List.cons_append]
      exact List.isChain_split.mpr ⟨(List.isChain_split.mp front).1, mine⟩
    · have position : srt.addrs.length - sleft =
          (opt.addrs.takeWhile (· ≠ me)).length + 1 := by omega
      rw [position, addrs, List.getElem?_cons_succ, List.getElem?_append_right le_rfl,
        Nat.sub_self]
      rfl

/-- The packet of `maint_buf_salvage` is at its node on the new route. -/
theorem salvagePacket_sendable {dp' : DsrPkt} (meets : Meets nodes met)
    (routing : Routing met me dp.src dp.dst dp.nxtHop opt) (whole : dp.opth = [.srt opt :: rest])
    (parsed : dp.srtOpt = some opt) (others : ∀ dopt ∈ rest, Truthful met dp.dst dopt)
    {found : Option DsrSrt}
    (along : ∀ srt, found = some srt → srt = foundRoute me dp.dst srt.addrs ∧ srt.Over met)
    (salvaged : salvagePacket me dp found = .ok (some dp')) : Sendable met me dp' := by
  cases found with
  | none => cases salvaged
  | some alt =>
      obtain ⟨same, along⟩ := along alt rfl
      have mine : (me :: (alt.addrs ++ [dp.dst])).IsChain met := by
        have linked := along.linked
        rwa [same] at linked
      unfold salvagePacket at salvaged
      rw [parsed, same] at salvaged
      obtain ⟨oldSrt, made, salvaged⟩ := bind_ok.mp salvaged
      obtain ⟨_, _, made⟩ := bind_ok.mp made
      cases made
      obtain ⟨made, replaced, salvaged⟩ := bind_ok.mp salvaged
      cases made with
      | none => cases salvaged
      | some made =>
          obtain ⟨srt, sleft⟩ := made
          obtain ⟨duplicate, checked, salvaged⟩ := bind_ok.mp salvaged
          cases duplicate with
          | true => cases salvaged
          | false =>
              obtain ⟨nxtHop, hops, salvaged⟩ := bind_ok.mp salvaged
              cases salvaged
              obtain ⟨starts, ends, sized, linked, -, fewer, here⟩ :=
                salvageRoute_linked routing rfl rfl rfl mine replaced
              have distinct := dsrSrtCheckDuplicate_false (DsrSrt.count_of_laddrs sized) checked
              have back : sleft = srt.addrs.length - (srt.addrs.length - sleft) := by omega
              rw [back] at hops
              have routing' := routing_at _ ((opt.salv + 1) % 2 ^ 4) meets
                ⟨sized, distinct, linked⟩ here hops rfl
              rw [starts, ends, ← back] at routing'
              have written : ∀ opt', setSrtOpt dp.opth opt' = [.srt opt' :: rest] := by
                simp [whole, setSrtOpt, updateFirst]
              exact Routing.sendable meets routing' (written _) others

end

end SyncFanet.Dsr
