import Mathlib.Algebra.Order.Field.Rat
import Mathlib.Data.Rat.Cast.Order
import Mathlib.Tactic.Linarith
import SyncFanet.Olsr.Neighborhood
import SyncFanet.OlsrEtx.LinkSensing

/-!
# Links without losses

A neighbor sends packets and a node receives all of them, in order. The node counts
no loss while every packet of the neighbor carries one HELLO.
-/

set_option autoImplicit false

namespace SyncFanet.OlsrEtx

open Olsr

/-! ## The channel -/

/-- The two ends of a link: the neighbor that sends, the packets in flight and the
node that receives. -/
structure Channel where
  sender : Sender
  inFlight : List EtxPkt
  receiver : LinkNode

/-- What does not change on the way. -/
structure ChannelConfig where
  behaviour : LinkQuality
  linkDelay : Bool
  unset : EtxMsg
  unsetIndex : Nat
  config : Config
  nbIfaceAddr : NsAddr

/-- `deliver` hands the oldest packet in flight to the node and `hear` a packet of
another sender. The rest of the agent removes link tuples and writes their times. -/
inductive ChannelEvent where
  | enqueue (msg : EtxMsg)
  | send
  | deliver (now : Int) (iface : Iface) (received : List (EtxMsg × Bool))
  | hear (now : Int) (iface : Iface) (srcAddr : NsAddr) (pktSeqNum : Nat)
      (received : List (EtxMsg × Bool))
  | linkQuality (now : Int)
  | remove (id : TupleId)
  | retime (id : TupleId) (symTime lostTime time : Int)

def channelStep (params : ChannelConfig) (event : ChannelEvent) (channel : Channel) :
    Except Fault Channel :=
  match event with
  | .enqueue msg =>
      .ok { channel with sender := { channel.sender with msgs := channel.sender.msgs ++ [msg] } }
  | .send =>
      let (sender, pkts) := sendPkt params.linkDelay params.unset channel.sender
      .ok { channel with sender := sender, inFlight := channel.inFlight ++ pkts }
  | .deliver now iface received =>
      match channel.inFlight with
      | [] => .ok channel
      | pkt :: rest =>
          (recvOlsr params.behaviour params.config now iface params.nbIfaceAddr pkt.pktSeqNum
            params.unsetIndex received channel.receiver).bind fun receiver =>
            .ok { channel with inFlight := rest, receiver := receiver }
  | .hear now iface srcAddr pktSeqNum received =>
      (recvOlsr params.behaviour params.config now iface srcAddr pktSeqNum params.unsetIndex
        received channel.receiver).bind fun receiver =>
        .ok { channel with receiver := receiver }
  | .linkQuality now =>
      .ok { channel with receiver := linkQuality params.behaviour now channel.receiver }
  | .remove id =>
      .ok { channel with receiver := { channel.receiver with
        linkset := channel.receiver.linkset.filter fun link => link.id ≠ id } }
  | .retime id symTime lostTime time =>
      .ok { channel with receiver := { channel.receiver with
        linkset := channel.receiver.linkset.map fun link =>
          if link.id = id then
            { link with symTime := symTime, lostTime := lostTime, time := time }
          else link } }

/-- A delivery is of the packet's own messages, other packets come from elsewhere, and
the packets of the neighbor arrive before their timeout. -/
def Faithful (params : ChannelConfig) (event : ChannelEvent) (channel : Channel) : Prop :=
  match event with
  | .deliver _ _ received =>
      ∀ pkt ∈ channel.inFlight.head?, received.map Prod.fst = pkt.msgs
  | .hear _ _ srcAddr _ _ => srcAddr ≠ params.nbIfaceAddr
  | .linkQuality now =>
      ∀ link ∈ channel.receiver.linkset, link.nbIfaceAddr = params.nbIfaceAddr →
        now ≤ link.window.nextHello
  | _ => True

/-- The states of the runs on a loss-free link, whatever the neighbor sends. -/
inductive ChannelReached (params : ChannelConfig)
    (condition : ChannelEvent → Channel → Prop) : Channel → Prop where
  | initial (sender : Sender) (inOrder : sender.pktSeq ≤ maxSeqNum) :
      ChannelReached params condition
        { sender := sender, inFlight := [], receiver := { linkset := [], nextId := 0 } }
  | step {channel channel' : Channel} {event : ChannelEvent}
      (before : ChannelReached params condition channel)
      (faithful : Faithful params event channel) (met : condition event channel)
      (stepped : channelStep params event channel = .ok channel') :
      ChannelReached params condition channel'

/-- The runs from a state to a later one. -/
inductive ChannelRun (params : ChannelConfig) (condition : ChannelEvent → Channel → Prop) :
    Channel → Channel → Prop where
  | refl (channel : Channel) : ChannelRun params condition channel channel
  | step {first channel channel' : Channel} {event : ChannelEvent}
      (before : ChannelRun params condition first channel)
      (faithful : Faithful params event channel) (met : condition event channel)
      (stepped : channelStep params event channel = .ok channel') :
      ChannelRun params condition first channel'

def helloCount (config : Config) (received : List (EtxMsg × Bool)) : Nat :=
  (received.filterMap (processedHello config)).length

/-- Packets are not paired, a packet has at most one HELLO that is processed, and one
that arrives over a known link has one. -/
def CountedOnce (params : ChannelConfig) (event : ChannelEvent) (channel : Channel) : Prop :=
  params.linkDelay = false ∧
    match event with
    | .deliver _ _ received =>
        helloCount params.config received ≤ 1 ∧
          ((channel.receiver.findLinkTuple params.nbIfaceAddr).isSome →
            helloCount params.config received = 1)
    | _ => True

instance (params : ChannelConfig) (event : ChannelEvent) (channel : Channel) :
    Decidable (Faithful params event channel) :=
  match event with
  | .deliver _ _ received =>
      inferInstanceAs (Decidable (∀ pkt ∈ channel.inFlight.head?, received.map Prod.fst = pkt.msgs))
  | .hear _ _ srcAddr _ _ => inferInstanceAs (Decidable (srcAddr ≠ params.nbIfaceAddr))
  | .linkQuality now =>
      inferInstanceAs (Decidable (∀ link ∈ channel.receiver.linkset,
        link.nbIfaceAddr = params.nbIfaceAddr → now ≤ link.window.nextHello))
  | .enqueue _ | .send | .remove _ | .retime _ _ _ _ => inferInstanceAs (Decidable True)

instance (params : ChannelConfig) (event : ChannelEvent) (channel : Channel) :
    Decidable (CountedOnce params event channel) :=
  match event with
  | .deliver _ _ received =>
      inferInstanceAs (Decidable (params.linkDelay = false ∧ helloCount params.config received ≤ 1 ∧
        ((channel.receiver.findLinkTuple params.nbIfaceAddr).isSome →
          helloCount params.config received = 1)))
  | .enqueue _ | .send | .hear _ _ _ _ _ | .linkQuality _ | .remove _ | .retime _ _ _ _ =>
      inferInstanceAs (Decidable (params.linkDelay = false ∧ True))

def simulateChannel (params : ChannelConfig) (condition : ChannelEvent → Channel → Bool) :
    List ChannelEvent → Channel → Option Channel
  | [], channel => some channel
  | event :: events, channel =>
      if Faithful params event channel ∧ condition event channel = true then
        match channelStep params event channel with
        | .ok channel' => simulateChannel params condition events channel'
        | .error _ => none
      else none

theorem simulateChannel_reached {params : ChannelConfig}
    {condition : ChannelEvent → Channel → Bool} {events : List ChannelEvent}
    {channel final : Channel}
    (before : ChannelReached params (fun event channel => condition event channel = true) channel)
    (ran : simulateChannel params condition events channel = some final) :
    ChannelReached params (fun event channel => condition event channel = true) final := by
  induction events generalizing channel with
  | nil => exact Option.some.inj ran ▸ before
  | cons event events ih =>
      unfold simulateChannel at ran
      split at ran
      · next enabled =>
        cases stepped : channelStep params event channel with
        | error fault => simp [stepped] at ran
        | ok channel' =>
            simp only [stepped] at ran
            exact ih (before.step enabled.1 enabled.2 stepped) ran
      · cases ran

/-! ## The window of a loss-free link -/

structure Clean (expected : Nat) (window : LossWindow) : Prop where
  seqno : window.lossSeqno = expected
  missed : window.lossMissedHellos = 0
  noLoss : window.lostPackets = 0
  bits : ∀ bit ∈ window.lossBitmap, bit = false
  size : window.lossWindowSize = defaultLossWindowSize
  total : window.totalPackets ≤ defaultLossWindowSize
  quality : window.linkQuality = (window.totalPackets : ℚ) / defaultLossWindowSize

def nextNumber (number : Nat) : Nat := (number + 1) % (maxSeqNum + 1)

section

variable {expected : Nat}

variable {link : MeasuredLink} {senderIface receiverIface : NsAddr} {window : LossWindow}
  {hello : EtxHello} {msg : EtxMsg}

theorem linkQualityInit_clean (seqno : Nat) :
    Clean seqno (linkQualityInit seqno defaultLossWindowSize) where
  seqno := rfl
  missed := rfl
  noLoss := rfl
  bits := fun _ member => List.eq_of_mem_replicate member
  size := rfl
  total := Int.natCast_nonneg _
  quality := by simp [linkQualityInit]

theorem Clean.bit (clean : Clean expected window) (index : Nat) :
    window.lossBitmap.getD index false = false := by
  rw [List.getD_eq_getElem?_getD]
  cases found : window.lossBitmap[index]? with
  | none => rfl
  | some bit => exact clean.bits bit (List.mem_of_getElem? found)

theorem Clean.processPacket (clean : Clean expected window) (behaviour : LinkQuality)
    (now htime : Int) :
    Clean expected (window.processPacket behaviour now true htime) ∧
      window.linkQuality ≤ (window.processPacket behaviour now true htime).linkQuality := by
  have unmarked : window.markPacket true = window := by
    unfold LossWindow.markPacket
    rw [clean.bit]
    rfl
  have size : (0 : ℚ) < defaultLossWindowSize := by
    simp [defaultLossWindowSize]
  unfold LossWindow.processPacket
  simp only [unmarked, if_true, clean.noLoss, clean.size, Int.cast_zero, sub_zero]
  have total := clean.total
  constructor
  · constructor
    · exact clean.seqno
    · exact clean.missed
    · rfl
    · exact clean.bits
    · rfl
    · dsimp only
      split
      · omega
      · exact total
    · rfl
  · rw [clean.quality]
    refine div_le_div_of_nonneg_right ?_ size.le
    split
    · push_cast
      linarith
    · exact le_refl _

theorem Clean.receive {window' : LossWindow} (clean : Clean expected window)
    {behaviour : LinkQuality} {now htime : Int}
    (ran : window.receive behaviour now expected htime = .ok window') :
    Clean (nextNumber expected) window' ∧ window.linkQuality ≤ window'.linkQuality := by
  have skipped : window.skipMissed behaviour now expected htime maxSeqNum = .ok window := by
    simp [maxSeqNum, LossWindow.skipMissed, clean.seqno]
  simp only [LossWindow.receive, skipped, Except.bind, Except.ok.injEq] at ran
  obtain ⟨counted, better⟩ := clean.processPacket behaviour now htime
  rw [← ran]
  exact ⟨⟨rfl, rfl, counted.noLoss, counted.bits, counted.size, counted.total, counted.quality⟩,
    better⟩

theorem Clean.updateLinkQuality (clean : Clean expected window) (behaviour : LinkQuality)
    (nbLinkQuality : ℚ) :
    Clean expected (window.updateLinkQuality behaviour nbLinkQuality) :=
  ⟨clean.seqno, clean.missed, clean.noLoss, clean.bits, clean.size, clean.total, clean.quality⟩

/-! ## Link sensing -/

structure Improved (link link' : MeasuredLink) : Prop where
  id : link'.id = link.id
  nbIfaceAddr : link'.nbIfaceAddr = link.nbIfaceAddr
  better : link.window.linkQuality ≤ link'.window.linkQuality

theorem Improved.refl (link : MeasuredLink) : Improved link link :=
  ⟨rfl, rfl, le_refl _⟩

theorem Improved.trans {first second third : MeasuredLink} (left : Improved first second)
    (right : Improved second third) : Improved first third :=
  ⟨right.id.trans left.id, right.nbIfaceAddr.trans left.nbIfaceAddr,
    left.better.trans right.better⟩

/-- A link tuple while the groups of a HELLO are read: its window counts what the
window after the packet was received does. -/
structure Sensed (link : MeasuredLink) (window : LossWindow) (sensed : MeasuredLink) : Prop where
  id : sensed.id = link.id
  nbIfaceAddr : sensed.nbIfaceAddr = link.nbIfaceAddr
  quality : sensed.window.linkQuality = window.linkQuality
  clean : ∀ expected, Clean expected window → Clean expected sensed.window

theorem senseGroup_sensed {sensed : MeasuredLink} (before : Sensed link window sensed)
    (behaviour : LinkQuality) (config : Config) (now validity : Int) (receiverIface : NsAddr)
    (helloMsg : EtxHelloMsg) :
    Sensed link window
      (senseGroup behaviour config now validity receiverIface sensed helloMsg) := by
  unfold senseGroup
  split
  · exact before
  · split
    · exact before
    · next addr _ =>
      have same := (senseGroup_keeps config now validity receiverIface
        (sensed.toLinkTuple, false) helloMsg.base).1
      exact ⟨same.id.trans before.id, same.nbIfaceAddr.trans before.nbIfaceAddr, before.quality,
        fun expected clean =>
          (before.clean expected clean).updateLinkQuality behaviour addr.linkQuality⟩

theorem senseLink_sensed {behaviour : LinkQuality} {config : Config} {now : Int} {pktSeqNum : Nat}
    {link' : MeasuredLink}
    (ran : senseLink behaviour config now msg hello receiverIface pktSeqNum link = .ok link') :
    ∃ window, link.window.receive behaviour now pktSeqNum (emfToSeconds hello.htime) =
      .ok window ∧ Sensed link window link' := by
  obtain ⟨window, received, ran⟩ := bind_ok.mp ran
  refine ⟨window, received, ?_⟩
  split at ran
  · cases ran
  · split at ran
    · cases ran
    · have groups : Sensed link window (hello.helloMsgs.foldl
          (senseGroup behaviour config now (emfToSeconds msg.vtime) receiverIface)
          { link with asymTime := now + emfToSeconds msg.vtime, window := window }) :=
        foldl_keeps _ (Sensed link window) ⟨rfl, rfl, rfl, fun _ clean => clean⟩
          fun helloMsg sensed _ before => senseGroup_sensed before behaviour config now
            (emfToSeconds msg.vtime) receiverIface helloMsg
      rw [← Except.ok.inj ran]
      exact ⟨groups.id, groups.nbIfaceAddr, groups.quality, groups.clean⟩

theorem senseLink_clean {behaviour : LinkQuality} {config : Config} {now : Int}
    {link' : MeasuredLink}
    (ran : senseLink behaviour config now msg hello receiverIface expected link = .ok link')
    (clean : Clean expected link.window) :
    Clean (nextNumber expected) link'.window ∧ Improved link link' := by
  obtain ⟨window, received, sensed⟩ := senseLink_sensed ran
  obtain ⟨counted, better⟩ := clean.receive received
  exact ⟨sensed.clean _ counted, sensed.id, sensed.nbIfaceAddr, sensed.quality ▸ better⟩

/-! ## Reception -/

structure Kept (nbIfaceAddr : NsAddr) (expected : Nat) (node : LinkNode) : Prop where
  unique : (node.linkset.map fun link => link.nbIfaceAddr).Nodup
  fresh : ∀ link ∈ node.linkset, link.id < node.nextId
  clean : ∀ link ∈ node.linkset, link.nbIfaceAddr = nbIfaceAddr → Clean expected link.window

structure Grown (nbIfaceAddr : NsAddr) (node node' : LinkNode) : Prop where
  nextId : node.nextId ≤ node'.nextId
  links : ∀ link' ∈ node'.linkset, link'.nbIfaceAddr = nbIfaceAddr → link'.id < node.nextId →
    ∃ link ∈ node.linkset, Improved link link'

variable {nbIfaceAddr : NsAddr} {node node' : LinkNode}

theorem Grown.refl (nbIfaceAddr : NsAddr) (node : LinkNode) : Grown nbIfaceAddr node node :=
  ⟨le_refl _, fun link member _ _ => ⟨link, member, .refl link⟩⟩

theorem Grown.trans {first second third : LinkNode} (left : Grown nbIfaceAddr first second)
    (right : Grown nbIfaceAddr second third) : Grown nbIfaceAddr first third where
  nextId := left.nextId.trans right.nextId
  links := by
    intro link'' member addr old
    obtain ⟨link', among, later⟩ := right.links link'' member addr (old.trans_le left.nextId)
    obtain ⟨link, known, earlier⟩ := left.links link' among (later.nbIfaceAddr ▸ addr)
      (later.id ▸ old)
    exact ⟨link, known, earlier.trans later⟩

theorem findLinkTuple_addr {known : MeasuredLink}
    (found : node.findLinkTuple senderIface = some known) :
    known ∈ node.linkset ∧ known.nbIfaceAddr = senderIface :=
  ⟨List.mem_of_find?_eq_some found, by simpa using List.find?_some found⟩

theorem mem_updateLinkTuple {other : MeasuredLink}
    (unique : (node.linkset.map fun link => link.nbIfaceAddr).Nodup)
    (member : other ∈ (node.updateLinkTuple senderIface link).linkset) :
    other = link ∨ other ∈ node.linkset ∧ other.nbIfaceAddr ≠ senderIface := by
  rw [LinkNode.updateLinkTuple, updateFirst_eq_map unique] at member
  obtain ⟨before, among, written⟩ := List.mem_map.mp member
  by_cases here : before.nbIfaceAddr = senderIface
  · simp only [here, if_true] at written
    exact .inl written.symm
  · simp only [here, if_false] at written
    exact .inr ⟨written ▸ among, written ▸ here⟩

theorem Kept.updateLinkTuple {known : MeasuredLink} {before after : Nat}
    (kept : Kept nbIfaceAddr before node) (found : node.findLinkTuple senderIface = some known)
    (id : link.id = known.id) (addr : link.nbIfaceAddr = known.nbIfaceAddr)
    (counted : senderIface = nbIfaceAddr →
      Clean after link.window ∧ known.window.linkQuality ≤ link.window.linkQuality)
    (other : senderIface ≠ nbIfaceAddr → after = before) :
    Kept nbIfaceAddr after (node.updateLinkTuple senderIface link) ∧
      Grown nbIfaceAddr node (node.updateLinkTuple senderIface link) := by
  obtain ⟨member, sent⟩ := findLinkTuple_addr found
  refine ⟨⟨?_, ?_, ?_⟩, ⟨le_refl _, ?_⟩⟩
  · rw [LinkNode.updateLinkTuple, updateFirst.map_key_of_found]
    · exact kept.unique
    · intro value matched
      have here : value.nbIfaceAddr = senderIface := by simpa using matched
      rw [addr, sent, here]
  · intro value among
    rcases mem_updateLinkTuple kept.unique among with rfl | ⟨among, _⟩
    · exact id ▸ kept.fresh known member
    · exact kept.fresh value among
  · intro value among same
    rcases mem_updateLinkTuple kept.unique among with rfl | ⟨among, different⟩
    · exact (counted (sent ▸ addr ▸ same)).1
    · have unchanged := other fun here => different (here ▸ same)
      exact unchanged ▸ kept.clean value among same
  · intro value among same _
    rcases mem_updateLinkTuple kept.unique among with rfl | ⟨among, _⟩
    · exact ⟨known, member, id, addr, (counted (sent ▸ addr ▸ same)).2⟩
    · exact ⟨value, among, .refl value⟩

theorem Kept.addLinkTuple {before after : Nat} (kept : Kept nbIfaceAddr before node)
    (absent : node.findLinkTuple senderIface = none) (id : link.id = node.nextId)
    (addr : link.nbIfaceAddr = senderIface)
    (counted : senderIface = nbIfaceAddr → Clean after link.window)
    (other : senderIface ≠ nbIfaceAddr → after = before) :
    Kept nbIfaceAddr after
        { linkset := node.linkset ++ [link], nextId := node.nextId + 1 } ∧
      Grown nbIfaceAddr node
        { linkset := node.linkset ++ [link], nextId := node.nextId + 1 } := by
  have others : ∀ value ∈ node.linkset, value.nbIfaceAddr ≠ senderIface := by
    intro value member
    simpa using List.find?_eq_none.mp absent value member
  refine ⟨⟨?_, ?_, ?_⟩, ⟨Nat.le_succ _, ?_⟩⟩
  · rw [List.map_append, List.nodup_append]
    refine ⟨kept.unique, by simp, ?_⟩
    intro value member last among
    obtain ⟨known, included, rfl⟩ := List.mem_map.mp member
    have same : last = senderIface := by simpa [addr] using among
    exact same ▸ others known included
  · intro value among
    rcases List.mem_append.mp among with among | last
    · exact Nat.lt_succ_of_lt (kept.fresh value among)
    · rw [List.mem_singleton.mp last, id]
      exact Nat.lt_succ_self _
  · intro value among same
    rcases List.mem_append.mp among with among | last
    · have unchanged := other fun here => others value among (here ▸ same)
      exact unchanged ▸ kept.clean value among same
    · rw [List.mem_singleton.mp last] at same ⊢
      exact counted (addr ▸ same)
  · intro value among _ old
    rcases List.mem_append.mp among with among | last
    · exact ⟨value, among, .refl value⟩
    · rw [List.mem_singleton.mp last, id] at old
      exact absurd old (lt_irrefl _)

theorem linkSensing_counts {behaviour : LinkQuality} {config : Config} {now : Int}
    {unsetIndex : Nat}
    (ran : linkSensing behaviour config now msg hello receiverIface nbIfaceAddr expected unsetIndex
      node = .ok node') (kept : Kept nbIfaceAddr expected node) :
    Kept nbIfaceAddr (nextNumber expected) node' ∧ Grown nbIfaceAddr node node' := by
  unfold linkSensing at ran
  cases found : node.findLinkTuple nbIfaceAddr with
  | some known =>
      simp only [found] at ran
      obtain ⟨link, sensed, same⟩ := bind_ok.mp ran
      obtain ⟨member, sent⟩ := findLinkTuple_addr found
      obtain ⟨counted, improved⟩ := senseLink_clean sensed (kept.clean known member sent)
      rw [← Except.ok.inj same]
      exact kept.updateLinkTuple found improved.id improved.nbIfaceAddr
        (fun _ => ⟨counted, improved.better⟩) fun different => absurd rfl different
  | none =>
      simp only [found] at ran
      obtain ⟨link, sensed, same⟩ := bind_ok.mp ran
      obtain ⟨counted, improved⟩ := senseLink_clean sensed (linkQualityInit_clean expected)
      rw [← Except.ok.inj same]
      exact kept.addLinkTuple found improved.id improved.nbIfaceAddr (fun _ => counted)
        fun different => absurd rfl different

theorem linkSensing_other {behaviour : LinkQuality} {config : Config} {now : Int}
    {pktSeqNum unsetIndex : Nat}
    (ran : linkSensing behaviour config now msg hello receiverIface senderIface pktSeqNum
      unsetIndex node = .ok node') (different : senderIface ≠ nbIfaceAddr)
    (kept : Kept nbIfaceAddr expected node) :
    Kept nbIfaceAddr expected node' ∧ Grown nbIfaceAddr node node' := by
  unfold linkSensing at ran
  cases found : node.findLinkTuple senderIface with
  | some known =>
      simp only [found] at ran
      obtain ⟨link, sensed, same⟩ := bind_ok.mp ran
      obtain ⟨_, _, sensed⟩ := senseLink_sensed sensed
      rw [← Except.ok.inj same]
      exact kept.updateLinkTuple found sensed.id sensed.nbIfaceAddr
        (fun same => absurd same different) fun _ => rfl
  | none =>
      simp only [found] at ran
      obtain ⟨link, sensed, same⟩ := bind_ok.mp ran
      obtain ⟨_, _, sensed⟩ := senseLink_sensed sensed
      rw [← Except.ok.inj same]
      exact kept.addLinkTuple found sensed.id sensed.nbIfaceAddr
        (fun same => absurd same different) fun _ => rfl

section

variable {behaviour : LinkQuality} {config : Config} {now : Int} {iface : Iface}
  {srcAddr : NsAddr} {pktSeqNum unsetIndex : Nat} {received : List (EtxMsg × Bool)}

theorem recvMsgs_unread (none : helloCount config received = 0)
    (ran : received.foldlM (recvMsg behaviour config now iface srcAddr pktSeqNum unsetIndex) node =
      .ok node') : node' = node := by
  induction received generalizing node with
  | nil => exact (Except.ok.inj ran).symm
  | cons first rest ih =>
      obtain ⟨next, stepped, ran⟩ := bind_ok.mp ran
      cases read : processedHello config first with
      | some hello => simp [helloCount, read] at none
      | none =>
          simp only [recvMsg, read] at stepped
          rw [← Except.ok.inj stepped] at ran
          exact ih (by simpa [helloCount, read] using none) ran

theorem recvMsgs_once (once : helloCount config received = 1)
    (ran : received.foldlM (recvMsg behaviour config now iface srcAddr pktSeqNum unsetIndex) node =
      .ok node') : ∃ msg hello, linkSensing behaviour config now msg hello iface.addr srcAddr
        pktSeqNum unsetIndex node = .ok node' := by
  induction received generalizing node with
  | nil => simp [helloCount] at once
  | cons first rest ih =>
      obtain ⟨next, stepped, ran⟩ := bind_ok.mp ran
      cases read : processedHello config first with
      | some hello =>
          simp only [recvMsg, read] at stepped
          have unread : helloCount config rest = 0 := by simpa [helloCount, read] using once
          rw [recvMsgs_unread unread ran]
          exact ⟨first.1, hello, stepped⟩
      | none =>
          simp only [recvMsg, read] at stepped
          rw [← Except.ok.inj stepped] at ran
          exact ih (by simpa [helloCount, read] using once) ran

theorem recvOlsr_counts (atMost : helloCount config received ≤ 1)
    (known : (node.findLinkTuple nbIfaceAddr).isSome → helloCount config received = 1)
    (ran : recvOlsr behaviour config now iface nbIfaceAddr expected unsetIndex received node =
      .ok node') (kept : Kept nbIfaceAddr expected node) :
    Kept nbIfaceAddr (nextNumber expected) node' ∧ Grown nbIfaceAddr node node' := by
  unfold recvOlsr at ran
  split at ran
  · cases ran
  · cases found : node.findLinkTuple nbIfaceAddr with
    | some link =>
        obtain ⟨msg, hello, sensed⟩ := recvMsgs_once (known (by simp [found])) ran
        exact linkSensing_counts sensed kept
    | none =>
        rcases Nat.le_one_iff_eq_zero_or_eq_one.mp atMost with unread | once
        · rw [recvMsgs_unread unread ran]
          refine ⟨⟨kept.unique, kept.fresh, fun link member sent => ?_⟩, .refl _ _⟩
          have absent := List.find?_eq_none.mp found link member
          simp [sent] at absent
        · obtain ⟨msg, hello, sensed⟩ := recvMsgs_once once ran
          exact linkSensing_counts sensed kept

theorem recvOlsr_other (different : srcAddr ≠ nbIfaceAddr)
    (ran : recvOlsr behaviour config now iface srcAddr pktSeqNum unsetIndex received node =
      .ok node') (kept : Kept nbIfaceAddr expected node) :
    Kept nbIfaceAddr expected node' ∧ Grown nbIfaceAddr node node' := by
  unfold recvOlsr at ran
  split at ran
  · cases ran
  · refine foldlM_seen ran
      (fun _ after => Kept nbIfaceAddr expected after ∧ Grown nbIfaceAddr node after)
      ⟨kept, .refl _ _⟩ ?_
    intro _ message before after _ holds stepped
    unfold recvMsg at stepped
    split at stepped
    · obtain ⟨kept', grown⟩ := linkSensing_other stepped different holds.1
      exact ⟨kept', holds.2.trans grown⟩
    · exact Except.ok.inj stepped ▸ holds

end

/-! ## The rest of the agent -/

theorem Kept.map (kept : Kept nbIfaceAddr expected node) (update : MeasuredLink → MeasuredLink)
    (id : ∀ link, (update link).id = link.id)
    (addr : ∀ link, (update link).nbIfaceAddr = link.nbIfaceAddr)
    (window : ∀ link ∈ node.linkset, link.nbIfaceAddr = nbIfaceAddr →
      (update link).window = link.window) :
    Kept nbIfaceAddr expected { node with linkset := node.linkset.map update } ∧
      Grown nbIfaceAddr node { node with linkset := node.linkset.map update } := by
  refine ⟨⟨?_, ?_, ?_⟩, ⟨le_refl _, ?_⟩⟩
  · have same : (node.linkset.map update).map (fun link => link.nbIfaceAddr) =
        node.linkset.map fun link => link.nbIfaceAddr := by
      simp [Function.comp_def, addr]
    exact same ▸ kept.unique
  · intro link member
    obtain ⟨before, among, rfl⟩ := List.mem_map.mp member
    exact id before ▸ kept.fresh before among
  · intro link member sent
    obtain ⟨before, among, rfl⟩ := List.mem_map.mp member
    rw [addr] at sent
    exact window before among sent ▸ kept.clean before among sent
  · intro link member sent _
    obtain ⟨before, among, rfl⟩ := List.mem_map.mp member
    rw [addr] at sent
    exact ⟨before, among, id before, addr before, by rw [window before among sent]⟩

theorem Kept.filter (kept : Kept nbIfaceAddr expected node) (stays : MeasuredLink → Bool) :
    Kept nbIfaceAddr expected { node with linkset := node.linkset.filter stays } ∧
      Grown nbIfaceAddr node { node with linkset := node.linkset.filter stays } := by
  refine ⟨⟨kept.unique.sublist (List.filter_sublist.map _), ?_, ?_⟩, ⟨le_refl _, ?_⟩⟩
  · intro link member
    exact kept.fresh link (List.mem_filter.mp member).1
  · intro link member
    exact kept.clean link (List.mem_filter.mp member).1
  · intro link member _ _
    exact ⟨link, (List.mem_filter.mp member).1, .refl link⟩

/-! ## Packets in order -/

def Numbered : Nat → List EtxPkt → Nat → Prop
  | first, [], next => first = next
  | first, pkt :: rest, next => pkt.pktSeqNum = first ∧ Numbered (nextNumber first) rest next

theorem Numbered.append {first middle next : Nat} {pkts pkts' : List EtxPkt}
    (left : Numbered first pkts middle) (right : Numbered middle pkts' next) :
    Numbered first (pkts ++ pkts') next := by
  induction pkts generalizing first with
  | nil =>
      have same : first = middle := left
      exact same ▸ right
  | cons pkt rest ih => exact ⟨left.1, ih left.2⟩

theorem sendPkts_numbered (numPkts : Nat) (sender : Sender) :
    Numbered (nextNumber sender.pktSeq) (sendPkts numPkts sender).2
      (nextNumber (sendPkts numPkts sender).1.pktSeq) := by
  induction numPkts generalizing sender with
  | zero => rfl
  | succ numPkts ih => exact ⟨rfl, ih (sendOnePkt sender).1⟩

theorem sendPkt_numbered (unset : EtxMsg) (sender : Sender) :
    Numbered (nextNumber sender.pktSeq) (sendPkt false unset sender).2
      (nextNumber (sendPkt false unset sender).1.pktSeq) := by
  unfold sendPkt
  simp only [Bool.false_eq_true, false_and, if_false]
  exact sendPkts_numbered _ sender

/-! ## Runs -/

def Accurate (params : ChannelConfig) (channel : Channel) : Prop :=
  ∃ expected, Kept params.nbIfaceAddr expected channel.receiver ∧
    Numbered expected channel.inFlight (nextNumber channel.sender.pktSeq)

variable {params : ChannelConfig} {channel channel' : Channel} {event : ChannelEvent}

theorem channelStep_accurate (faithful : Faithful params event channel)
    (met : CountedOnce params event channel)
    (stepped : channelStep params event channel = .ok channel')
    (accurate : Accurate params channel) :
    Accurate params channel' ∧
      Grown params.nbIfaceAddr channel.receiver channel'.receiver := by
  obtain ⟨expected, kept, numbered⟩ := accurate
  cases event with
  | enqueue msg =>
      rw [← Except.ok.inj stepped]
      exact ⟨⟨expected, kept, numbered⟩, .refl _ _⟩
  | send =>
      have unpaired := met.1
      simp only [channelStep, unpaired] at stepped
      rw [← Except.ok.inj stepped]
      exact ⟨⟨expected, kept, numbered.append (sendPkt_numbered _ _)⟩, .refl _ _⟩
  | deliver now iface received =>
      unfold channelStep at stepped
      cases flight : channel.inFlight with
      | nil =>
          simp only [flight] at stepped
          rw [← Except.ok.inj stepped]
          exact ⟨⟨expected, kept, numbered⟩, .refl _ _⟩
      | cons pkt rest =>
          simp only [flight] at stepped
          obtain ⟨receiver, ran, same⟩ := bind_ok.mp stepped
          rw [flight] at numbered
          rw [numbered.1] at ran
          obtain ⟨kept', grown⟩ := recvOlsr_counts met.2.1 met.2.2 ran kept
          rw [← Except.ok.inj same]
          exact ⟨⟨_, kept', numbered.2⟩, grown⟩
  | hear now iface srcAddr pktSeqNum received =>
      obtain ⟨receiver, ran, same⟩ := bind_ok.mp stepped
      obtain ⟨kept', grown⟩ := recvOlsr_other faithful ran kept
      rw [← Except.ok.inj same]
      exact ⟨⟨_, kept', numbered⟩, grown⟩
  | linkQuality now =>
      rw [← Except.ok.inj stepped]
      obtain ⟨kept', grown⟩ := kept.map
        (fun link =>
          if link.window.nextHello < now then
            { link with window := link.window.packetTimeout params.behaviour now }
          else link)
        (fun link => by split <;> rfl) (fun link => by split <;> rfl)
        (fun link member sent => by rw [if_neg (not_lt.mpr (faithful link member sent))])
      exact ⟨⟨_, kept', numbered⟩, grown⟩
  | remove id =>
      rw [← Except.ok.inj stepped]
      obtain ⟨kept', grown⟩ := kept.filter fun link => link.id ≠ id
      exact ⟨⟨_, kept', numbered⟩, grown⟩
  | retime id symTime lostTime time =>
      rw [← Except.ok.inj stepped]
      obtain ⟨kept', grown⟩ := kept.map
        (fun link =>
          if link.id = id then
            { link with symTime := symTime, lostTime := lostTime, time := time }
          else link)
        (fun link => by split <;> rfl) (fun link => by split <;> rfl)
        (fun link _ _ => by split <;> rfl)
      exact ⟨⟨_, kept', numbered⟩, grown⟩

theorem channelReached_accurate (reached : ChannelReached params (CountedOnce params) channel) :
    Accurate params channel := by
  induction reached with
  | initial sender inOrder =>
      exact ⟨_, ⟨List.nodup_nil, fun _ member => (List.not_mem_nil member).elim,
        fun _ member => (List.not_mem_nil member).elim⟩, rfl⟩
  | step _ faithful met stepped ih => exact (channelStep_accurate faithful met stepped ih).1

theorem channelRun_grown (run : ChannelRun params (CountedOnce params) channel channel')
    (accurate : Accurate params channel) :
    Accurate params channel' ∧
      Grown params.nbIfaceAddr channel.receiver channel'.receiver := by
  induction run with
  | refl => exact ⟨accurate, .refl _ _⟩
  | step _ faithful met stepped ih =>
      obtain ⟨before, grown⟩ := ih
      obtain ⟨after, grown'⟩ := channelStep_accurate faithful met stepped before
      exact ⟨after, grown.trans grown'⟩

/-! ## Two runs -/

def twoNodes : ChannelConfig where
  behaviour := .etx
  linkDelay := false
  unset := { vtime := 0, origAddr := 0, ttl := 0, hopCount := 0, msgSeqNum := 0, body := .other 0 }
  unsetIndex := 0
  config := oneIfaceConfig
  nbIfaceAddr := 2

def sentMsg (msgSeqNum : Nat) (body : EtxMsgBody) : EtxMsg where
  vtime := 134
  origAddr := 2
  ttl := 1
  hopCount := 0
  msgSeqNum := msgSeqNum
  body := body

def sentHello (msgSeqNum : Nat) : EtxMsg :=
  sentMsg msgSeqNum (.hello {
    htime := 5
    willingness := willDefault
    helloMsgs := [{
      linkCode := 10
      nbEtxIfaceAddrs := [{ ifaceAddress := 1, linkQuality := 1, nbLinkQuality := 1 }] }] })

def exchange (now : Int) (msg : EtxMsg) : List ChannelEvent :=
  [.enqueue msg, .send, .deliver now { index := 0, addr := 1 } [(msg, false)]]

def firstChannel : Channel where
  sender := { msgs := [], pktSeq := maxSeqNum }
  inFlight := []
  receiver := { linkset := [], nextId := 0 }

def linksAfter (condition : ChannelEvent → Channel → Bool) (events : List ChannelEvent) :
    Option (List MeasuredLink) :=
  (simulateChannel twoNodes condition events firstChannel).map fun channel =>
    channel.receiver.linkset

theorem exists_reached_of_linksAfter (condition : ChannelEvent → Channel → Bool)
    (events : List ChannelEvent) (check : List MeasuredLink → Bool)
    (checked : (linksAfter condition events).any check = true) :
    ∃ channel, ChannelReached twoNodes (fun event channel => condition event channel = true)
      channel ∧ check channel.receiver.linkset = true := by
  obtain ⟨links, ran, passed⟩ := (Option.any_eq_true check _).mp checked
  obtain ⟨channel, simulated, rfl⟩ := Option.map_eq_some_iff.mp ran
  exact ⟨channel, simulateChannel_reached (.initial _ (le_refl _)) simulated, passed⟩

/-! ## Losses -/

/-- On a link without losses nothing is counted as lost, and the quality of the link
tuple does not decrease while it exists. -/
theorem lossFree_link_keeps (reached : ChannelReached params (CountedOnce params) channel) :
    (∀ link ∈ channel.receiver.linkset, link.nbIfaceAddr = params.nbIfaceAddr →
      link.window.lostPackets = 0) ∧
    ∀ channel', ChannelRun params (CountedOnce params) channel channel' →
      ∀ link ∈ channel.receiver.linkset, ∀ link' ∈ channel'.receiver.linkset,
        link.nbIfaceAddr = params.nbIfaceAddr → link'.nbIfaceAddr = params.nbIfaceAddr →
        link'.id = link.id → link.window.linkQuality ≤ link'.window.linkQuality := by
  have accurate := channelReached_accurate reached
  obtain ⟨expected, kept, _⟩ := accurate
  refine ⟨fun link member sent => (kept.clean link member sent).noLoss, ?_⟩
  intro channel' run link member link' member' sent sent' same
  obtain ⟨_, grown⟩ := channelRun_grown run (channelReached_accurate reached)
  obtain ⟨known, among, improved⟩ := grown.links link' member' sent'
    (same ▸ kept.fresh link member)
  have equal : known = link := List.inj_on_of_nodup_map kept.unique among member
    ((improved.nbIfaceAddr.symm.trans sent').trans sent.symm)
  exact equal ▸ improved.better

theorem lossFree_link_keeps_twoHellos :
    ∃ channel : Channel, ∃ link ∈ channel.receiver.linkset,
      link.window.totalPackets = 2 ∧ link.window.lostPackets = 0 := by
  obtain ⟨channel, reached, checked⟩ := exists_reached_of_linksAfter
    (fun event channel => decide (CountedOnce twoNodes event channel))
    (exchange Time.second (sentHello 0) ++ exchange (3 * Time.second) (sentHello 1))
    (fun links => links.any fun link => link.nbIfaceAddr = 2 ∧ link.window.totalPackets = 2)
    (by decide +kernel)
  simp only [List.any_eq_true, decide_eq_true_eq] at checked
  obtain ⟨link, member, sent, total⟩ := checked
  simp only [decide_eq_true_eq] at reached
  exact ⟨channel, link, member, total, (lossFree_link_keeps reached).1 link member sent⟩

/-- A TC message in a packet of its own between two HELLOs. -/
theorem loss_counted_without_loss :
    ¬ ∀ params channel, ChannelReached params (fun _ _ => True) channel →
      ∀ link ∈ channel.receiver.linkset, link.nbIfaceAddr = params.nbIfaceAddr →
        link.window.lostPackets = 0 := by
  intro claim
  obtain ⟨channel, reached, checked⟩ := exists_reached_of_linksAfter (fun _ _ => true)
    (exchange Time.second (sentHello 0) ++ exchange (2 * Time.second) (sentMsg 1 .tc) ++
      exchange (3 * Time.second) (sentHello 2))
    (fun links => links.any fun link => link.nbIfaceAddr = 2 ∧ link.window.lostPackets = 1)
    (by decide +kernel)
  simp only [List.any_eq_true, decide_eq_true_eq] at checked
  obtain ⟨link, member, sent, lost⟩ := checked
  have unlost := claim twoNodes channel (by simpa using reached) link member sent
  simp [unlost] at lost

end

end SyncFanet.OlsrEtx
