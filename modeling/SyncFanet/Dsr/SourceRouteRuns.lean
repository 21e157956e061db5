import SyncFanet.Dsr.Forwarding

/-!
# The journey of a source-routed packet

A packet that was given a source route visits exactly the nodes of the route, in order, and
is delivered once at the end. The nodes on the way may be in any state: what they have
cached, whether they ask for acknowledgements and when the packet arrives is left open.
-/

set_option autoImplicit false

namespace SyncFanet.Dsr

/-! ## Journeys -/

/-- What the environment decides about the reception of a packet at the next node: the
state of the node, the time, the time to live left and the request that the maintenance
buffer adds when the node transmits. -/
structure Hop where
  handlers : Handlers
  now : SimTime
  node : Node
  ttl : Nat
  ackReq : Option Nat

/-- A node that transmitted the packet on, with the hops it computed and the segments left
before and after. -/
structure Relay where
  node : InAddr
  prvHop : InAddr
  nxtHop : InAddr
  sentTo : Option InAddr
  sleftBefore : Option Nat
  sleftAfter : Option Nat
  deriving DecidableEq

inductive Outcome where
  | delivered (node : InAddr) (dp : DsrPkt)
  | freed
  | onTheWay (p : DSRPkt)

/-- The segments left in the source route option of a packet. -/
def sleftIn (opth : List (List DsrOpt)) : Option Nat :=
  opth.flatten.findSome? fun
    | .srt opt => some opt.sleft
    | _ => none

/-- The packet is received at its next address, and so on. -/
def journey : List Hop → DSRPkt → Except Fault (List Relay × Outcome)
  | [], p => .ok ([], .onTheWay p)
  | hop :: rest, p =>
      match p.nextAddress with
      | none => .ok ([], .onTheWay p)
      | some addr =>
          (processDsr hop.handlers hop.now { hop.node with myaddr := addr }
            { p with ttl := hop.ttl }).bind fun received =>
            match received.fate with
            | .free => .ok ([], .freed)
            | .deliver dp => .ok ([], .delivered addr dp)
            | .xmit dp =>
                match omnetXmit hop.ackReq dp with
                | none => .ok ([], .freed)
                | some p' =>
                    (journey rest p').bind fun later =>
                      let relay : Relay :=
                        { node := addr, prvHop := dp.prvHop, nxtHop := dp.nxtHop,
                          sentTo := p'.nextAddress, sleftBefore := sleftIn p.dsrOptions,
                          sleftAfter := sleftIn p'.dsrOptions }
                      .ok (relay :: later.1, later.2)

/-- `dsr_start_xmit` where a route is known. -/
def dsrStartXmit (etxActive : Bool) (ackReq : Option Nat) (dp : DsrPkt) (srt : DsrSrt) :
    Except Fault (Option DSRPkt) :=
  (dsrSrtAdd dp srt).bind fun dp =>
    (addCost etxActive srt).bind fun costs =>
      .ok (omnetXmit ackReq { dp with costVector := costs })

/-! ## The packet on a link -/

structure RoutedPacket where
  src : InAddr
  dst : InAddr
  addrs : List InAddr
  salv : Nat
  payloadLen : Nat

namespace RoutedPacket

variable (routed : RoutedPacket)

def option (i : Nat) : DsrSrtOpt where
  length := dsrAddressSize * routed.addrs.length + 2
  salv := routed.salv
  sleft := routed.addrs.length - i
  addrs := routed.addrs

def onLink (i : Nat) (ids : List Nat) (ttl : Nat) : DSRPkt where
  src := routed.src
  dst := routed.dst
  nextAddress := (routed.addrs ++ [routed.dst])[i]?
  ttl := ttl
  payloadLen := routed.payloadLen
  dsrOptions := [.srt (routed.option i) :: ids.map .ackReq]
  costVector := []

def relay (i : Nat) : Relay where
  node := (routed.addrs ++ [routed.dst]).getD i 0
  prvHop := (routed.src :: routed.addrs).getD i 0
  nxtHop := (routed.addrs ++ [routed.dst]).getD (i + 1) 0
  sentTo := (routed.addrs ++ [routed.dst])[i + 1]?
  sleftBefore := some (routed.addrs.length - i)
  sleftAfter := some (routed.addrs.length - (i + 1))

/-- The assumptions on a route: distinct nodes, none of them the broadcast address, and no
more than the option has room for. -/
structure WellFormed : Prop where
  distinct : (routed.src :: routed.addrs ++ [routed.dst]).Nodup
  unicast : routed.dst ≠ dsrBroadcast
  payload : routed.payloadLen ≠ 0

theorem WellFormed.dst_fresh {routed : RoutedPacket} (well : routed.WellFormed) :
    routed.dst ∉ routed.addrs := by
  intro member
  have apart := (List.nodup_append.mp well.distinct).2.2
  exact apart _ (List.mem_cons_of_mem _ member) _ List.mem_cons_self rfl

end RoutedPacket

/-! ## One hop -/

section

variable {routed : RoutedPacket} {handlers : Handlers} {now : SimTime} {node : Node} {i : Nat}
  {ids : List Nat} {ttl : Nat}

variable {prvHop nxtHop : InAddr}

theorem dsrAckReqOptAdd_single (header : List DsrOpt) (id : Nat) :
    dsrAckReqOptAdd [header] id = [header ++ [.ackReq id]] := by
  unfold dsrAckReqOptAdd
  split
  · next listed =>
      rw [List.any_cons, List.any_nil, Bool.or_false] at listed
      rw [updateFirst, if_pos listed]
  · rfl

theorem dsrAckReqOptAdd_srt (opt : DsrSrtOpt) (ids : List Nat) (id : Nat) :
    dsrAckReqOptAdd [.srt opt :: ids.map .ackReq] id =
      [.srt opt :: (ids ++ [id]).map DsrOpt.ackReq] := by
  rw [dsrAckReqOptAdd_single, List.map_append]
  rfl

/-- The packet as a node hands it over, to the link to the position `i` or to the layer
above. -/
structure Leaves (routed : RoutedPacket) (i : Nat) (ids : List Nat) (ttl : Nat) (dp : DsrPkt) :
    Prop where
  src : dp.src = routed.src
  dst : dp.dst = routed.dst
  ttl : dp.ttl = ttl
  payload : dp.payloadLen = routed.payloadLen
  free : dp.costVector = []
  options : dp.opth = [.srt (routed.option i) :: ids.map .ackReq]

theorem transmitted_onLink {ackReq : Option Nat} {dp : DsrPkt} {p : DSRPkt}
    (unicast : routed.dst ≠ dsrBroadcast) (leaves : Leaves routed i ids ttl dp)
    (next : (routed.addrs ++ [routed.dst])[i]? = some dp.nxtHop)
    (sent : omnetXmit ackReq dp = some p) :
    ∃ ids', p = routed.onLink i ids' (withAckReq ackReq dp).ttl := by
  obtain ⟨src, dst, living, payload, free, options⟩ := leaves
  obtain ⟨ids', added⟩ : ∃ ids' : List Nat, (withAckReq ackReq dp).opth =
      [.srt (routed.option i) :: ids'.map .ackReq] := by
    rcases opth_withAckReq ackReq dp with same | ⟨id, added⟩
    · exact ⟨ids, same.trans options⟩
    · exact ⟨ids ++ [id], by rw [added, options, dsrAckReqOptAdd_srt]⟩
  refine ⟨ids', (omnetXmit_some sent).trans ?_⟩
  simp [dst, unicast, src, payload, free, RoutedPacket.onLink, next, added]

theorem omnetXmit_onLink {ackReq : Option Nat} {dp : DsrPkt} (unicast : routed.dst ≠ dsrBroadcast)
    (leaves : Leaves routed i ids ttl dp) (alive : 0 < ttl)
    (next : (routed.addrs ++ [routed.dst])[i]? = some dp.nxtHop) :
    ∃ ids', omnetXmit ackReq dp = some (routed.onLink i ids' ttl) := by
  have living : dp.ttl ≠ 0 := leaves.ttl ▸ Nat.pos_iff_ne_zero.mp alive
  obtain ⟨p, sent⟩ := omnetXmit_alive ackReq living
  obtain ⟨ids', rfl⟩ := transmitted_onLink unicast leaves next sent
  rw [ttl_withAckReq ackReq living, leaves.ttl] at sent
  exact ⟨ids', sent⟩

theorem alloc_direct (useNetworkLayerAck : Bool) (p : DSRPkt) :
    (dsrPktAlloc useNetworkLayerAck p).hasFlag pktPromiscRecv = false := by
  unfold dsrPktAlloc dsrOptParse DsrPkt.hasFlag
  by_cases asks : p.payloadLen ≠ 0 ∧ useNetworkLayerAck
  · simp only [if_pos asks]
    rfl
  · simp only [if_neg asks]
    rfl

/-- The options of a packet at the node at the position `i` of the route. -/
theorem dsrOptRecv_onLink (handlers : Handlers) (now : SimTime) {dp : DsrPkt}
    (well : routed.WellFormed) (arrives : Leaves routed i ids ttl dp)
    (direct : dp.hasFlag pktPromiscRecv = false) (inside : i ≤ routed.addrs.length)
    (here : (routed.addrs ++ [routed.dst])[i]? = some node.myaddr)
    (previous : (routed.src :: routed.addrs)[i]? = some prvHop)
    (next : (routed.addrs ++ [routed.dst, routed.dst])[i + 1]? = some nxtHop) :
    ∃ recv, dsrOptRecv handlers now node dp = .ok recv ∧
      Leaves routed (i + 1) ids ttl recv.dp ∧ recv.dp.prvHop = prvHop ∧
      recv.dp.nxtHop = nxtHop ∧
      recv.action =
        let action := (if routed.dst = node.myaddr then dsrPktDeliver else 0) |||
          (if routed.addrs.length - i = 0 then dsrPktSrtRemove else dsrPktForward)
        if ids = [] then action else action ||| dsrPktNone := by
  obtain ⟨src, dst, living, payload, free, options⟩ := arrives
  have sized : ((routed.option i).route dp).count = (routed.option i).addrs.length := by
    simp only [DsrSrtOpt.route, RoutedPacket.option, DsrSrt.count, dsrAddressSize]
    omega
  have nodes : ((routed.option i).route dp).nodes.Nodup := by
    simp only [DsrSrtOpt.route, RoutedPacket.option, DsrSrt.nodes, src, dst]
    exact well.distinct
  obtain ⟨node', calls, handled⟩ := dsrSrtOptRecv_at sized inside rfl
    nodes direct free (by rw [dst]; exact here) (by rw [src]; exact previous)
    (by rw [dst]; exact next)
  let arrived : DsrPkt := { dp with
    srt := some ((routed.option i).route dp)
    srtOpt := some { routed.option i with sleft := (routed.option i).sleft - 1 }
    salvage := routed.salv, prvHop := prvHop, nxtHop := nxtHop }
  let first : Recv (List DsrOpt) :=
    { node := node', calls := calls, dp := arrived,
      opt := [.srt (routed.option (i + 1))],
      action := (if dp.dst = node.myaddr ∧ dp.payloadLen ≠ 0 then dsrPktDeliver else 0) |||
        (if routed.addrs.length - i = 0 then dsrPktSrtRemove else dsrPktForward) }
  have directly : first.dp.hasFlag pktPromiscRecv = false := direct
  let calls' := calls ++ ids.map (.ackSend prvHop)
  have header : recvOptions handlers now
      { node := node, calls := [], dp := dp, opt := [],
        action := if dp.dst = node.myaddr ∧ dp.payloadLen ≠ 0 then dsrPktDeliver else 0 }
      (.srt (routed.option i) :: ids.map .ackReq) =
        .ok { node := node', calls := calls', dp := arrived,
              opt := .srt (routed.option (i + 1)) :: ids.map .ackReq,
              action := if ids = [] then first.action else first.action ||| dsrPktNone } := by
    rw [recvOptions, recvOption, handled]
    exact recvOptions_ackReqs first ids directly (Option.some_ne_none _)
  let options' : List (List DsrOpt) := [.srt (routed.option (i + 1)) :: ids.map .ackReq]
  let recv : Recv (List (List DsrOpt)) :=
    { node := node', calls := calls', dp := { arrived with opth := options' }, opt := options',
      action := if ids = [] then first.action else first.action ||| dsrPktNone }
  refine ⟨recv, ?_, ⟨src, dst, living, payload, free, rfl⟩, rfl, rfl, ?_⟩
  · refine bind_ok.mpr ⟨{ recv with dp := arrived }, ?_, rfl⟩
    rw [options]
    exact bind_ok.mpr ⟨_, header, rfl⟩
  · simp only [recv, first, dst, payload, ne_eq, well.payload, not_false_eq_true, and_true]

theorem processDsr_handled {p : DSRPkt} {received : Received} (others : p.src ≠ node.myaddr)
    (processed : processDsr handlers now node p = .ok received) :
    ∃ recv, dsrOptRecv handlers now node (dsrPktAlloc node.config.useNetworkLayerAck p) =
        .ok recv ∧
      received = {
        node := recv.node
        calls := recv.calls ++ (actLoop recv.dp recv.action dsrPktActionLast dsrPktNone).1
        fate := (actLoop recv.dp recv.action dsrPktActionLast dsrPktNone).2 } := by
  unfold processDsr at processed
  dsimp only at processed
  rw [if_pos (show (dsrPktAlloc _ p).src ≠ node.myaddr from others)] at processed
  obtain ⟨recv, handled, processed⟩ := bind_ok.mp processed
  rw [alloc_direct] at processed
  exact ⟨recv, handled, (Except.ok.inj processed).symm⟩

theorem processDsr_of {p : DSRPkt} {recv : Recv (List (List DsrOpt))} {calls : List Call}
    {fate : Fate} (others : p.src ≠ node.myaddr)
    (handled : dsrOptRecv handlers now node (dsrPktAlloc node.config.useNetworkLayerAck p) =
      .ok recv)
    (acted : actLoop recv.dp recv.action dsrPktActionLast dsrPktNone = (calls, fate)) :
    processDsr handlers now node p =
      .ok { node := recv.node, calls := recv.calls ++ calls, fate := fate } := by
  have other : (dsrPktAlloc node.config.useNetworkLayerAck p).src ≠ node.myaddr := others
  refine (if_pos other).trans (bind_ok.mpr ⟨recv, handled, ?_⟩)
  rw [alloc_direct]
  simp only [Bool.false_eq_true, if_false, acted]

/-- The node is a relay of the route, between the two hops. -/
structure IsRelay (routed : RoutedPacket) (i : Nat) (node : Node) (prvHop nxtHop : InAddr) :
    Prop where
  well : routed.WellFormed
  inside : i < routed.addrs.length
  here : (routed.addrs ++ [routed.dst])[i]? = some node.myaddr
  previous : (routed.src :: routed.addrs)[i]? = some prvHop
  next : (routed.addrs ++ [routed.dst, routed.dst])[i + 1]? = some nxtHop

theorem processDsr_between (handlers : Handlers) (now : SimTime) (ids : List Nat)
    (relay : IsRelay routed i node prvHop nxtHop) :
    ∃ recv : Recv (List (List DsrOpt)), Leaves routed (i + 1) ids ttl recv.dp ∧
      recv.dp.prvHop = prvHop ∧ recv.dp.nxtHop = nxtHop ∧
      ∀ fate, actLoop recv.dp (if decide (ids ≠ []) then dsrPktForward ||| dsrPktNone
          else dsrPktForward) dsrPktActionLast dsrPktNone = ([], fate) →
        processDsr handlers now node (routed.onLink i ids ttl) =
          .ok { node := recv.node, calls := recv.calls ++ [], fate := fate } := by
  obtain ⟨well, inside, here, previous, next⟩ := relay
  have others : routed.src ≠ node.myaddr := by
    intro same
    exact (List.nodup_cons.mp well.distinct).1 (same ▸ List.mem_of_getElem? here)
  have notLast : routed.dst ≠ node.myaddr := by
    intro same
    rw [List.getElem?_append_left inside, ← same] at here
    exact well.dst_fresh (List.mem_of_getElem? here)
  have arrives : Leaves routed i ids ttl
      (dsrPktAlloc node.config.useNetworkLayerAck (routed.onLink i ids ttl)) :=
    ⟨rfl, rfl, rfl, rfl, rfl, rfl⟩
  obtain ⟨recv, handled, leaves, prv, nxt, action⟩ := dsrOptRecv_onLink handlers now well arrives
    (alloc_direct _ _) inside.le here previous next
  have left : routed.addrs.length - i ≠ 0 := by omega
  have forwards : recv.action = if decide (ids ≠ []) then dsrPktForward ||| dsrPktNone
      else dsrPktForward := by
    rw [action, if_neg notLast, if_neg left]
    by_cases none : ids = [] <;> simp [none]
  refine ⟨recv, leaves, prv, nxt, ?_⟩
  intro fate acted
  rw [← forwards] at acted
  exact processDsr_of others handled acted

theorem processDsr_relay (handlers : Handlers) (now : SimTime)
    (relay : IsRelay routed i node prvHop nxtHop) (alive : 0 < ttl) :
    ∃ received dp, processDsr handlers now node (routed.onLink i ids ttl) = .ok received ∧
      received.fate = .xmit dp ∧ Leaves routed (i + 1) ids ttl dp ∧ dp.prvHop = prvHop ∧
      dp.nxtHop = nxtHop := by
  obtain ⟨recv, leaves, prv, nxt, processed⟩ := processDsr_between handlers now ids relay
  have acted := actLoop_forward recv.dp (decide (ids ≠ [])) (leaves.ttl ▸ alive)
  exact ⟨_, recv.dp, processed _ acted, rfl, leaves, prv, nxt⟩

theorem processDsr_dead (handlers : Handlers) (now : SimTime)
    (relay : IsRelay routed i node prvHop nxtHop) :
    ∃ received, processDsr handlers now node (routed.onLink i ids 0) = .ok received ∧
      received.fate = .free := by
  obtain ⟨recv, leaves, prv, nxt, processed⟩ := processDsr_between handlers now ids relay
  have acted := actLoop_dead recv.dp (decide (ids ≠ [])) leaves.ttl
  exact ⟨_, processed _ acted, rfl⟩

theorem processDsr_last (handlers : Handlers) (now : SimTime) (well : routed.WellFormed)
    (here : routed.dst = node.myaddr)
    (previous : (routed.src :: routed.addrs)[routed.addrs.length]? = some prvHop) :
    ∃ received dp,
      processDsr handlers now node (routed.onLink routed.addrs.length ids ttl) = .ok received ∧
        received.fate = .deliver dp ∧ dp.src = routed.src ∧ dp.dst = routed.dst ∧
        dp.payloadLen = routed.payloadLen ∧ dp.prvHop = prvHop := by
  have others : routed.src ≠ node.myaddr := by
    intro same
    exact (List.nodup_cons.mp well.distinct).1 (by simp [same, here])
  have arrives : Leaves routed routed.addrs.length ids ttl
      (dsrPktAlloc node.config.useNetworkLayerAck
        (routed.onLink routed.addrs.length ids ttl)) :=
    ⟨rfl, rfl, rfl, rfl, rfl, rfl⟩
  have position : (routed.addrs ++ [routed.dst])[routed.addrs.length]? = some node.myaddr := by
    simp [here]
  have beyond : (routed.addrs ++ [routed.dst, routed.dst])[routed.addrs.length + 1]? =
      some routed.dst := by
    simp
  obtain ⟨recv, handled, leaves, prv, -, action⟩ := dsrOptRecv_onLink handlers now well arrives
    (alloc_direct _ _) (Nat.le_refl _) position previous beyond
  have delivers : recv.action = if decide (ids ≠ []) then
      dsrPktDeliver ||| dsrPktSrtRemove ||| dsrPktNone
      else dsrPktDeliver ||| dsrPktSrtRemove := by
    rw [action, if_pos here, if_pos (Nat.sub_self _)]
    by_cases none : ids = [] <;> simp [none]
  have acted := actLoop_deliver recv.dp (decide (ids ≠ []))
  rw [← delivers] at acted
  exact ⟨_, recv.dp, processDsr_of others handled acted, rfl, leaves.src, leaves.dst,
    leaves.payload, prv⟩

end

/-! ## The relays of a route -/

theorem map_range_getD {Item : Type} {items : List Item} (offset : Nat) {count : Nat}
    (default : Item) (inside : offset + count ≤ items.length) :
    (List.range count).map (fun k => items.getD (k + offset) default) =
      (items.drop offset).take count := by
  apply List.ext_getElem
  · simp
    omega
  · intro k ranged _
    rw [List.length_map, List.length_range] at ranged
    rw [List.getElem_map, List.getElem_range, List.getD_eq_getElem _ _ (by omega),
      List.getElem_take, List.getElem_drop]
    congr 1
    omega

namespace RoutedPacket

def relays (routed : RoutedPacket) : List Relay :=
  (List.range routed.addrs.length).map routed.relay

variable {routed : RoutedPacket}

theorem map_node_relays : routed.relays.map Relay.node = routed.addrs := by
  rw [relays, List.map_map]
  refine (map_range_getD 0 0 (by simp)).trans ?_
  simp

theorem map_prvHop_relays :
    routed.relays.map Relay.prvHop = (routed.src :: routed.addrs).take routed.addrs.length := by
  rw [relays, List.map_map]
  exact map_range_getD 0 0 (by simp)

theorem map_nxtHop_relays :
    routed.relays.map Relay.nxtHop = (routed.addrs ++ [routed.dst]).drop 1 := by
  rw [relays, List.map_map]
  refine (map_range_getD 1 0 (by simp [Nat.add_comm])).trans ?_
  rw [List.take_of_length_le (by simp)]

theorem map_sentTo_relays :
    (routed.addrs ++ [routed.dst])[0]? :: routed.relays.map Relay.sentTo =
      (routed.addrs ++ [routed.dst]).map some := by
  have later : routed.relays.map Relay.sentTo = (routed.relays.map Relay.nxtHop).map some := by
    rw [relays, List.map_map, List.map_map, List.map_map]
    apply List.map_congr_left
    intro k ranged
    rw [List.mem_range] at ranged
    have inside : k + 1 < (routed.addrs ++ [routed.dst]).length := by
      simpa using ranged
    simp only [Function.comp, relay, List.getD_eq_getElem _ _ inside,
      List.getElem?_eq_getElem inside]
  rw [later, map_nxtHop_relays]
  cases routed.addrs <;> rfl

end RoutedPacket

/-! ## The whole journey -/

variable {routed : RoutedPacket}

variable {hop : Hop} {rest : List Hop}

theorem journey_xmit {p p' : DSRPkt} {addr : InAddr} {received : Received} {dp : DsrPkt}
    (next : p.nextAddress = some addr)
    (processed : processDsr hop.handlers hop.now { hop.node with myaddr := addr }
      { p with ttl := hop.ttl } = .ok received)
    (fate : received.fate = .xmit dp) (sent : omnetXmit hop.ackReq dp = some p') :
    journey (hop :: rest) p =
      (journey rest p').bind fun later =>
        .ok ({ node := addr, prvHop := dp.prvHop, nxtHop := dp.nxtHop, sentTo := p'.nextAddress,
               sleftBefore := sleftIn p.dsrOptions, sleftAfter := sleftIn p'.dsrOptions } ::
            later.1, later.2) := by
  rw [journey]
  simp only [next] at processed ⊢
  rw [processed]
  simp only [Except.bind, fate, sent]

theorem journey_deliver {p : DSRPkt} {addr : InAddr} {received : Received} {dp : DsrPkt}
    (next : p.nextAddress = some addr)
    (processed : processDsr hop.handlers hop.now { hop.node with myaddr := addr }
      { p with ttl := hop.ttl } = .ok received)
    (fate : received.fate = .deliver dp) :
    journey (hop :: rest) p = .ok ([], .delivered addr dp) := by
  rw [journey]
  simp only [next] at processed ⊢
  rw [processed]
  simp only [Except.bind, fate]

theorem journey_relay (well : routed.WellFormed) {i : Nat} (relays : i < routed.addrs.length)
    (living : 0 < hop.ttl) (ids : List Nat) (ttl : Nat) :
    ∃ ids', journey (hop :: rest) (routed.onLink i ids ttl) =
      (journey rest (routed.onLink (i + 1) ids' hop.ttl)).bind fun later =>
        .ok (routed.relay i :: later.1, later.2) := by
  have here : (routed.addrs ++ [routed.dst])[i]? =
      some ((routed.addrs ++ [routed.dst]).getD i 0) := by
    rw [List.getElem?_eq_getElem (by simp; omega), List.getD_eq_getElem]
  have previous : (routed.src :: routed.addrs)[i]? =
      some ((routed.src :: routed.addrs).getD i 0) := by
    rw [List.getElem?_eq_getElem (by simp; omega), List.getD_eq_getElem]
  have next : (routed.addrs ++ [routed.dst])[i + 1]? =
      some ((routed.addrs ++ [routed.dst]).getD (i + 1) 0) := by
    rw [List.getElem?_eq_getElem (by simp; omega), List.getD_eq_getElem]
  have longer : routed.addrs ++ [routed.dst, routed.dst] =
      (routed.addrs ++ [routed.dst]) ++ [routed.dst] := by simp
  have next' : (routed.addrs ++ [routed.dst, routed.dst])[i + 1]? =
      some ((routed.addrs ++ [routed.dst]).getD (i + 1) 0) := by
    rw [longer, List.getElem?_append_left (by simp; omega), next]
  let node : Node := { hop.node with myaddr := (routed.addrs ++ [routed.dst]).getD i 0 }
  obtain ⟨received, dp, processed, fate, leaves, prv, nxt⟩ :
      ∃ received dp, processDsr hop.handlers hop.now node (routed.onLink i ids hop.ttl) =
          .ok received ∧ received.fate = .xmit dp ∧ Leaves routed (i + 1) ids hop.ttl dp ∧
        dp.prvHop = _ ∧ dp.nxtHop = _ :=
    processDsr_relay hop.handlers hop.now ⟨well, relays, here, previous, next'⟩ living
  obtain ⟨ids', sent⟩ : ∃ ids', omnetXmit hop.ackReq dp =
      some (routed.onLink (i + 1) ids' hop.ttl) :=
    omnetXmit_onLink well.unicast leaves living (by rw [nxt]; exact next)
  refine ⟨ids', (journey_xmit here processed fate sent).trans ?_⟩
  rw [prv, nxt]
  rfl

theorem journey_last (well : routed.WellFormed) (ids : List Nat) (ttl : Nat) :
    ∃ dp, journey (hop :: rest) (routed.onLink routed.addrs.length ids ttl) =
        .ok ([], .delivered routed.dst dp) ∧
      dp.src = routed.src ∧ dp.dst = routed.dst ∧ dp.payloadLen = routed.payloadLen ∧
      (routed.src :: routed.addrs)[routed.addrs.length]? = some dp.prvHop := by
  have here : (routed.addrs ++ [routed.dst])[routed.addrs.length]? = some routed.dst := by simp
  have previous : (routed.src :: routed.addrs)[routed.addrs.length]? =
      some ((routed.src :: routed.addrs).getD routed.addrs.length 0) := by
    rw [List.getElem?_eq_getElem (by simp), List.getD_eq_getElem]
  let node : Node := { hop.node with myaddr := routed.dst }
  obtain ⟨received, dp, processed, fate, src, dst, payload, prv⟩ :
      ∃ received dp, processDsr hop.handlers hop.now node
          (routed.onLink routed.addrs.length ids hop.ttl) = .ok received ∧
        received.fate = .deliver dp ∧ dp.src = routed.src ∧ dp.dst = routed.dst ∧
          dp.payloadLen = routed.payloadLen ∧ dp.prvHop = _ :=
    processDsr_last hop.handlers hop.now well rfl previous
  exact ⟨dp, journey_deliver here processed fate, src, dst, payload, by rw [prv]; exact previous⟩

theorem journey_onLink (well : routed.WellFormed) {hops : List Hop} {i : Nat}
    (ids : List Nat) (ttl : Nat) (inside : i ≤ routed.addrs.length)
    (enough : routed.addrs.length - i < hops.length) (alive : ∀ hop ∈ hops, 0 < hop.ttl) :
    ∃ dp, journey hops (routed.onLink i ids ttl) =
        .ok ((List.range' i (routed.addrs.length - i)).map routed.relay,
          .delivered routed.dst dp) ∧
      dp.src = routed.src ∧ dp.dst = routed.dst ∧ dp.payloadLen = routed.payloadLen ∧
      (routed.src :: routed.addrs)[routed.addrs.length]? = some dp.prvHop := by
  induction hops generalizing i ttl ids with
  | nil => cases enough
  | cons hop rest ih =>
      cases Nat.lt_or_eq_of_le inside with
      | inl relays =>
          obtain ⟨ids', step⟩ : ∃ ids', journey (hop :: rest) (routed.onLink i ids ttl) = _ :=
            journey_relay well relays (alive hop List.mem_cons_self) ids ttl
          have fewer : routed.addrs.length - (i + 1) < rest.length := by
            rw [List.length_cons] at enough
            omega
          obtain ⟨dp, later, delivered⟩ := ih ids' hop.ttl relays fewer
            (fun other member => alive other (List.mem_cons_of_mem hop member))
          refine ⟨dp, ?_, delivered⟩
          have more : routed.addrs.length - i = routed.addrs.length - (i + 1) + 1 := by omega
          rw [more, List.range'_succ, List.map_cons, step, later]
          rfl
      | inr last =>
          subst last
          rw [Nat.sub_self, List.range'_zero, List.map_nil]
          exact journey_last well ids ttl

/-! ## From the source -/

def routedPacket (dp : DsrPkt) (srt : DsrSrt) : RoutedPacket where
  src := dp.src
  dst := dp.dst
  addrs := srt.addrs
  salv := dp.salvage % 2 ^ 4
  payloadLen := dp.payloadLen

theorem dsrStartXmit_onLink {etxActive : Bool} {ackReq : Option Nat} {dp : DsrPkt} {srt : DsrSrt}
    (well : (routedPacket dp srt).WellFormed) (fits : srt.addrs.length ≤ 63)
    (sized : srt.laddrs = dsrAddressSize * srt.addrs.length) (ends : srt.dst = dp.dst)
    (free : srt.cost = []) (fresh : dp.opth = []) (alive : 0 < dp.ttl) :
    ∃ ids, dsrStartXmit etxActive ackReq dp srt =
      .ok (some ((routedPacket dp srt).onLink 0 ids dp.ttl)) := by
  have counted : srt.count = srt.addrs.length := by
    rw [DsrSrt.count, sized, dsrAddressSize]
    omega
  have option : dsrSrtOptAdd dp.salvage srt = (routedPacket dp srt).option 0 := by
    simp only [dsrSrtOptAdd, counted, sized, dsrAddressSize, RoutedPacket.option, routedPacket,
      DsrSrtOpt.mk.injEq, and_true, true_and]
    omega
  have here : (srt.addrs ++ [srt.dst])[0]? = some ((srt.addrs ++ [srt.dst]).getD 0 0) := by
    rw [List.getElem?_eq_getElem (by simp), List.getD_eq_getElem]
  have next : dsrSrtNextHop srt srt.count = .ok ((srt.addrs ++ [srt.dst]).getD 0 0) := by
    rw [counted]
    exact dsrSrtNextHop_at (i := 0) counted here
  let sent : DsrPkt := { dp with
    srt := some srt, nxtHop := (srt.addrs ++ [srt.dst]).getD 0 0, ttl := dsrBuildIpTtl dp.ttl,
    opth := [[.srt ((routedPacket dp srt).option 0)]],
    srtOpt := some ((routedPacket dp srt).option 0), costVector := [] }
  have living : dsrBuildIpTtl dp.ttl = dp.ttl := dsrBuildIpTtl_of_ne_zero (by omega)
  have leaves : Leaves (routedPacket dp srt) 0 [] dp.ttl sent :=
    ⟨rfl, rfl, living, rfl, rfl, rfl⟩
  obtain ⟨ids, xmit⟩ : ∃ ids, omnetXmit ackReq sent = _ :=
    omnetXmit_onLink well.unicast leaves alive (by rw [← here, ends]; rfl)
  refine ⟨ids, ?_⟩
  unfold dsrStartXmit dsrSrtAdd addCost
  simp only [next, Except.bind, option, fresh, List.nil_append, free, or_true, if_true]
  exact congrArg Except.ok xmit

/-- A data packet with a source route is transmitted to the nodes of the route, one after
another and to nobody else, and is delivered once, at the destination. -/
theorem sourceRoute_forwarded (etxActive : Bool) (ackReq : Option Nat) (dp : DsrPkt)
    (srt : DsrSrt) (hops : List Hop)
    (starts : srt.src = dp.src) (ends : srt.dst = dp.dst) (distinct : srt.nodes.Nodup)
    (unicast : dp.dst ≠ dsrBroadcast) (fits : srt.addrs.length ≤ 63)
    (sized : srt.laddrs = dsrAddressSize * srt.addrs.length) (free : srt.cost = [])
    (fresh : dp.opth = []) (data : dp.payloadLen ≠ 0) (alive : 0 < dp.ttl)
    (enough : srt.addrs.length < hops.length) (living : ∀ hop ∈ hops, 0 < hop.ttl) :
    ∃ p relays received,
      dsrStartXmit etxActive ackReq dp srt = .ok (some p) ∧
      journey hops p = .ok (relays, .delivered srt.dst received) ∧
      p.nextAddress :: relays.map Relay.sentTo = (srt.addrs ++ [srt.dst]).map some ∧
      relays.map Relay.node = srt.addrs ∧
      relays.map Relay.prvHop = (srt.src :: srt.addrs).take srt.addrs.length ∧
      relays.map Relay.nxtHop = (srt.addrs ++ [srt.dst]).drop 1 ∧
      relays.map Relay.sleftBefore =
        (List.range srt.addrs.length).map (fun k => some (srt.addrs.length - k)) ∧
      relays.map Relay.sleftAfter =
        (List.range srt.addrs.length).map (fun k => some (srt.addrs.length - (k + 1))) ∧
      received.src = dp.src ∧ received.dst = dp.dst ∧ received.payloadLen = dp.payloadLen ∧
      (srt.src :: srt.addrs).getLast? = some received.prvHop := by
  have well : (routedPacket dp srt).WellFormed := by
    refine ⟨?_, unicast, data⟩
    rw [DsrSrt.nodes, starts, ends] at distinct
    exact distinct
  obtain ⟨ids, sent⟩ : ∃ ids, dsrStartXmit etxActive ackReq dp srt = _ :=
    dsrStartXmit_onLink well fits sized ends free fresh alive
  obtain ⟨received, ran, src, dst, payload, prv⟩ :=
    journey_onLink well ids dp.ttl (Nat.zero_le _) enough living
  rw [Nat.sub_zero, ← List.range_eq_range'] at ran
  rw [starts, ends]
  refine ⟨_, (routedPacket dp srt).relays, received, sent, ran,
    RoutedPacket.map_sentTo_relays, RoutedPacket.map_node_relays,
    RoutedPacket.map_prvHop_relays, RoutedPacket.map_nxtHop_relays, ?_, ?_, src, dst, payload, ?_⟩
  · rw [RoutedPacket.relays, List.map_map]
    rfl
  · rw [RoutedPacket.relays, List.map_map]
    rfl
  · rw [List.getLast?_eq_getElem?]
    exact prv

def emptyHop (now : SimTime) : Hop where
  handlers :=
    { rreqOptRecv := fun _ _ _ _ => .error .nullDeref
      rrepOptRecv := fun _ _ _ _ => .error .nullDeref
      rerrOptRecv := fun _ _ _ _ => .error .nullDeref
      ackOptRecv := fun _ _ _ _ => .error .nullDeref }
  now := now
  node :=
    { config := { pathCache := true, etxActive := false, useNetworkLayerAck := true,
                  rrepDestinationOnly := false, routeCacheTimeout := 300000000 }
      myaddr := 0
      paths := { paths := ∅, nextPurge := 0 }
      links := { linkArray := ∅, routeMap := ∅ }
      gratRrep := []
      getCost := fun _ => 0 }
  ttl := 16
  ackReq := some 7

def dataPkt (src dst : InAddr) : DsrPkt where
  src := src
  dst := dst
  nxtHop := 0
  prvHop := 0
  flags := pktRequestAck
  salvage := 0
  ttl := 32
  payloadLen := 512
  opth := []
  srtOpt := none
  rrepOpt := []
  srt := none
  costVector := []

theorem sourceRoute_forwarded_relays : ∃ p relays received,
    dsrStartXmit false (some 1) (dataPkt 1 4)
      { src := 1, dst := 4, flags := 0, laddrs := 8, addrs := [2, 3], cost := [] } =
        .ok (some p) ∧
      journey [emptyHop 1, emptyHop 2, emptyHop 3] p = .ok (relays, .delivered 4 received) ∧
      p.nextAddress :: relays.map Relay.sentTo = [some 2, some 3, some 4] ∧
      relays.map Relay.prvHop = [1, 2] ∧ received.payloadLen = 512 := by
  obtain ⟨p, relays, received, sent, ran, onLinks, -, previous, -, -, -, -, -, payload, -⟩ :=
    sourceRoute_forwarded false (some 1) (dataPkt 1 4)
      { src := 1, dst := 4, flags := 0, laddrs := 8, addrs := [2, 3], cost := [] }
      [emptyHop 1, emptyHop 2, emptyHop 3]
      rfl rfl (by decide) (by decide) (by decide) rfl rfl rfl (by decide) (by decide) (by decide)
      (by simp [emptyHop])
  exact ⟨p, relays, received, sent, ran, onLinks, previous, payload⟩

end SyncFanet.Dsr
