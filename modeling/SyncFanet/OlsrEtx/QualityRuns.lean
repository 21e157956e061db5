import Mathlib.Data.Set.Insert
import SyncFanet.OlsrEtx.LinkDelay
import SyncFanet.OlsrEtx.LossWindow
import SyncFanet.OlsrEtx.Nb2hopSet

/-!
# Qualities and delays in a network

Everything that writes the qualities and delays of link, 2-hop and topology tuples, in a
network of nodes that send each other the qualities and delays of their links. Addresses,
times and the other sets may change in any way.
-/

set_option autoImplicit false

namespace SyncFanet.OlsrEtx

open Olsr

/-! ## Link delay -/

/-- `OLSR_ETX_link_tuple`: its times, its loss window and the probes of its delay. -/
structure SensedLink extends LinkTuple where
  window : LossWindow
  linkDelay : ℚ
  nbLinkDelay : ℚ
  recv1 : List ℚ
  recv2 : List ℚ

/-- A new tuple, after `link_quality_init` and `link_delay_init`. -/
def SensedLink.created (tuple : LinkTuple) (pktSeqNum : Nat) : SensedLink where
  toLinkTuple := tuple
  window := linkQualityInit pktSeqNum defaultLossWindowSize
  linkDelay := 4
  nbLinkDelay := 6
  recv1 := List.replicate capprobeMaxArray (-1)
  recv2 := List.replicate capprobeMaxArray (-1)

/-- `link_delay_computation` for the probe with this number. -/
def SensedLink.linkDelayComputation (cAlpha now : ℚ) (sn : Nat) (sendTime : ℚ)
    (link : SensedLink) : SensedLink :=
  if sn % capprobeMaxArray % 2 = 0 then
    -- the quotient of -1 is 0 in the source as well
    let i := (sn % capprobeMaxArray - 1) / 2
    let received := now - sendTime
    let first := link.recv1.getD i 0
    let disp := received - first
    { link with
      linkDelay :=
        if first > 0 ∧ disp > 0 then cAlpha * disp + (1 - cAlpha) * link.linkDelay
        else link.linkDelay
      recv1 := link.recv1.set i (-1)
      recv2 := link.recv2.set i (-1) }
  else
    let i := sn % capprobeMaxArray / 2
    { link with
      recv1 := link.recv1.set i (now - sendTime)
      recv2 := link.recv2.set i 0 }

/-! ## Nodes -/

/-- `OLSR_ETX_topology_tuple`. -/
structure QosTopologyTuple extends TopologyTuple where
  linkQuality : ℚ
  nbLinkQuality : ℚ
  linkDelay : ℚ
  nbLinkDelay : ℚ

/-- A parameter with the factor that smoothes link delays, from 0 to 1. -/
structure DelayParameter extends Parameter where
  cAlpha : ℚ
  nonneg : 0 ≤ cAlpha
  atMostOne : cAlpha ≤ 1

structure QosState where
  raAddr : NsAddr
  linkset : List SensedLink := []
  nbset : List NbTuple := []
  nb2hopset : List QosNb2hopTuple := []
  topologyset : List QosTopologyTuple := []
  ifaceassocset : List IfaceAssocTuple := []

/-- What the routing table is computed from. -/
def QosState.repositories (state : QosState) : Repositories where
  linkset := state.linkset.map fun link => {
    link.toLinkTuple with
    qualities := {
      linkQuality := link.window.linkQuality
      nbLinkQuality := link.window.nbLinkQuality
      nbLinkDelay := link.nbLinkDelay } }
  nbset := state.nbset
  nb2hopset := state.nb2hopset.map fun tuple => {
    tuple.toNb2hopTuple with
    qualities := {
      linkQuality := tuple.linkQuality
      nbLinkQuality := tuple.nbLinkQuality
      nbLinkDelay := tuple.nbLinkDelay } }
  topologyset := state.topologyset.map fun tuple => {
    tuple.toTopologyTuple with
    qualities := {
      linkQuality := tuple.linkQuality
      nbLinkQuality := tuple.nbLinkQuality
      nbLinkDelay := tuple.nbLinkDelay } }
  ifaceassocset := state.ifaceassocset

/-- What `send_hello` and `send_tc` write for an address. -/
def SensedLink.measured (link : SensedLink) (ifaceAddress : NsAddr) : QosAddress where
  ifaceAddress := ifaceAddress
  linkQuality := link.window.linkQuality
  nbLinkQuality := link.window.nbLinkQuality
  linkDelay := link.linkDelay
  nbLinkDelay := link.nbLinkDelay

section

variable (parameter : DelayParameter) (sent : Set QosAddress)

/-- The writes to a link tuple. Times and interface indices may change in any way. -/
inductive LinkWrite : SensedLink → SensedLink → Prop where
  | retimed (link : SensedLink) (tuple : LinkTuple) :
      LinkWrite link { link with toLinkTuple := tuple }
  | received (link : SensedLink) (now : Int) (seqno : Nat) (htime : Int) {window : LossWindow}
      (ran : link.window.receive parameter.linkQuality now seqno htime = .ok window) :
      LinkWrite link { link with window := window }
  | listed (link : SensedLink) {addr : QosAddress} (heard : addr ∈ sent) :
      LinkWrite link { link with
        window := link.window.updateLinkQuality parameter.linkQuality addr.linkQuality
        nbLinkDelay := addr.linkDelay }
  | timedOut (link : SensedLink) (now : Int) :
      LinkWrite link { link with window := link.window.packetTimeout parameter.linkQuality now }
  | probed (link : SensedLink) (now : ℚ) (sn : Nat) (sendTime : ℚ) :
      LinkWrite link (link.linkDelayComputation parameter.cAlpha now sn sendTime)

/-- The writes to a 2-hop tuple. -/
inductive Nb2hopWrite : QosNb2hopTuple → QosNb2hopTuple → Prop where
  | retimed (tuple : QosNb2hopTuple) (time : Int) : Nb2hopWrite tuple { tuple with time := time }
  | advertised (tuple : QosNb2hopTuple) (sender : LinkQuality) {addr : QosAddress}
      (heard : addr ∈ sent) :
      Nb2hopWrite tuple (tuple.keepBest parameter.linkQuality sender addr)

/-- A topology tuple with what a TC says about the link. -/
def QosTopologyTuple.listed (tuple : TopologyTuple) (addr : QosAddress) : QosTopologyTuple where
  toTopologyTuple := tuple
  linkQuality := addr.linkQuality
  nbLinkQuality := addr.nbLinkQuality
  linkDelay := addr.linkDelay
  nbLinkDelay := addr.nbLinkDelay

/-- One write of a node that has heard of these addresses. -/
inductive QosStep : QosState → QosState → Prop where
  | addLink (state : QosState) (tuple : LinkTuple) (pktSeqNum : Nat) :
      QosStep state
        { state with linkset := state.linkset ++ [SensedLink.created tuple pktSeqNum] }
  | writeLink {state : QosState} {before after : List SensedLink} {link link' : SensedLink}
      (split : state.linkset = before ++ link :: after)
      (write : LinkWrite parameter sent link link') :
      QosStep state { state with linkset := before ++ link' :: after }
  | removeLinks (state : QosState) (stays : SensedLink → Bool) :
      QosStep state { state with linkset := state.linkset.filter stays }
  | addNb2hop (state : QosState) (id : TupleId) (nbMainAddr nb2hopAddr : NsAddr) (time : Int) :
      QosStep state { state with
        nb2hopset := state.nb2hopset ++
          [.created parameter.linkQuality id nbMainAddr nb2hopAddr time] }
  | writeNb2hop {state : QosState} {before after : List QosNb2hopTuple}
      {tuple tuple' : QosNb2hopTuple} (split : state.nb2hopset = before ++ tuple :: after)
      (write : Nb2hopWrite parameter sent tuple tuple') :
      QosStep state { state with nb2hopset := before ++ tuple' :: after }
  | removeNb2hops (state : QosState) (stays : QosNb2hopTuple → Bool) :
      QosStep state { state with nb2hopset := state.nb2hopset.filter stays }
  | addTopology (state : QosState) (tuple : TopologyTuple) {addr : QosAddress}
      (heard : addr ∈ sent) :
      QosStep state { state with topologyset := state.topologyset ++ [.listed tuple addr] }
  | writeTopology {state : QosState} {before after : List QosTopologyTuple}
      {tuple : QosTopologyTuple} (split : state.topologyset = before ++ tuple :: after)
      (written : TopologyTuple) {addr : QosAddress} (heard : addr ∈ sent) :
      QosStep state { state with topologyset := before ++ .listed written addr :: after }
  | removeTopologies (state : QosState) (stays : QosTopologyTuple → Bool) :
      QosStep state { state with topologyset := state.topologyset.filter stays }
  | others (state : QosState) (nbset : List NbTuple) (ifaceassocset : List IfaceAssocTuple) :
      QosStep state { state with nbset := nbset, ifaceassocset := ifaceassocset }

end

variable {window window' : LossWindow} {behaviour : LinkQuality} {htime now : Int} {seqno : Nat}

/-! ## Networks -/

/-- The nodes, and all that was written into their HELLO and TC messages. -/
structure EtxNetwork where
  nodes : NsAddr → QosState
  sent : Set QosAddress

inductive NetworkStep (parameters : NsAddr → DelayParameter) : EtxNetwork → EtxNetwork → Prop where
  | write (network : EtxNetwork) {node : NsAddr} {state : QosState}
      (step : QosStep (parameters node) network.sent (network.nodes node) state) :
      NetworkStep parameters network
        { network with nodes := Function.update network.nodes node state }
  | send (network : EtxNetwork) {node : NsAddr} {link : SensedLink}
      (member : link ∈ (network.nodes node).linkset) (ifaceAddress : NsAddr) :
      NetworkStep parameters network
        { network with sent := insert (link.measured ifaceAddress) network.sent }

/-- The networks that nodes without tuples get to. -/
inductive NetworkReached (parameters : NsAddr → DelayParameter) : EtxNetwork → Prop where
  | initial : NetworkReached parameters { nodes := fun node => { raAddr := node }, sent := ∅ }
  | step {network network' : EtxNetwork} (reached : NetworkReached parameters network)
      (step : NetworkStep parameters network network') : NetworkReached parameters network'

/-! ## Ranges -/

def Share (quality : ℚ) : Prop := 0 ≤ quality ∧ quality ≤ 1

def LossWindow.Counts (window : LossWindow) : Prop :=
  ∃ ring handled, window.Holds ring handled ∧ ring.slots.count true ≤ handled

theorem LossWindow.Counts.share (counts : window.Counts) :
    Share window.linkQuality := by
  obtain ⟨ring, handled, holds, few⟩ := counts
  have size := holds.size
  have atMost : ring.slots.count true ≤ ring.slots.length := List.count_le_length
  have positive : 0 < window.lossWindowSize := Nat.zero_lt_of_lt holds.inside
  have lost : window.lostPackets ≤ window.totalPackets := by
    rw [holds.lost, holds.total]
    omega
  have total : window.totalPackets ≤ window.lossWindowSize := by
    rw [holds.total]
    omega
  have none : 0 ≤ window.lostPackets := by
    rw [holds.lost]
    omega
  have arrived : (0 : ℚ) ≤ window.totalPackets - window.lostPackets := by
    rw [sub_nonneg]
    exact_mod_cast lost
  have whole : (window.totalPackets - window.lostPackets : ℚ) ≤ window.lossWindowSize := by
    rw [sub_le_iff_le_add]
    exact_mod_cast total.trans (le_add_of_nonneg_right none)
  rw [holds.quality]
  exact ⟨div_nonneg arrived (Nat.cast_nonneg _),
    (div_le_one (by exact_mod_cast positive)).mpr whole⟩

theorem LossWindow.Counts.processPacket (counts : window.Counts) (behaviour : LinkQuality)
    (now : Int) (received : Bool) (htime : Int) :
    (window.processPacket behaviour now received htime).Counts := by
  obtain ⟨ring, handled, holds, few⟩ := counts
  refine ⟨_, _, holds.processPacket behaviour now received htime, ?_⟩
  have counted := LossWindow.Holds.count_write ring (!received)
  split at counted <;> split at counted <;> omega

theorem LossWindow.Counts.of_same (counts : window.Counts)
    (same : (window'.lossBitmap, window'.lossIndex, window'.lossWindowSize, window'.lostPackets,
      window'.totalPackets, window'.linkQuality) =
        (window.lossBitmap, window.lossIndex, window.lossWindowSize, window.lostPackets,
          window.totalPackets, window.linkQuality)) : window'.Counts := by
  obtain ⟨ring, handled, holds, few⟩ := counts
  simp only [Prod.mk.injEq] at same
  obtain ⟨bitmap, index, size, lost, total, quality⟩ := same
  refine ⟨ring, handled, ⟨?_, ?_, ?_, ?_, ?_, ?_⟩, few⟩
  · rw [bitmap, size]
    exact holds.room
  · rw [bitmap, size]
    exact holds.slots
  · rw [index]
    exact holds.index
  · rw [lost]
    exact holds.lost
  · rw [total, size]
    exact holds.total
  · rw [quality, total, lost, size]
    exact holds.quality

theorem LossWindow.Counts.skipMissed (counts : window.Counts) {fuel : Nat}
    (ran : window.skipMissed behaviour now seqno htime fuel = .ok window') : window'.Counts := by
  induction fuel generalizing window with
  | zero =>
      unfold LossWindow.skipMissed at ran
      split at ran
      · exact Except.ok.inj ran ▸ counts
      · cases ran
  | succ fuel ih =>
      unfold LossWindow.skipMissed at ran
      split at ran
      · exact Except.ok.inj ran ▸ counts
      · refine ih ?_ ran
        split
        · exact (counts.processPacket behaviour now false htime).of_same rfl
        · exact counts.of_same rfl

theorem LossWindow.Counts.receive (counts : window.Counts)
    (ran : window.receive behaviour now seqno htime = .ok window') : window'.Counts := by
  obtain ⟨skipped, missed, same⟩ := bind_ok.mp ran
  cases same
  exact ((counts.skipMissed missed).processPacket behaviour now true htime).of_same rfl

theorem LossWindow.skipMissed_nbLinkQuality {fuel : Nat}
    (ran : window.skipMissed behaviour now seqno htime fuel = .ok window') :
    window'.nbLinkQuality = window.nbLinkQuality := by
  induction fuel generalizing window with
  | zero =>
      unfold LossWindow.skipMissed at ran
      split at ran
      · exact Except.ok.inj ran ▸ rfl
      · cases ran
  | succ fuel ih =>
      unfold LossWindow.skipMissed at ran
      split at ran
      · exact Except.ok.inj ran ▸ rfl
      · refine (ih ran).trans ?_
        dsimp only
        split <;> simp

theorem LossWindow.receive_nbLinkQuality
    (ran : window.receive behaviour now seqno htime = .ok window') :
    window'.nbLinkQuality = window.nbLinkQuality := by
  obtain ⟨skipped, missed, same⟩ := bind_ok.mp ran
  cases same
  exact (LossWindow.processPacket_nbLinkQuality behaviour now true htime skipped).trans
    (LossWindow.skipMissed_nbLinkQuality missed)

structure SensedLink.InRange (link : SensedLink) : Prop where
  counts : link.window.Counts
  share : Share link.window.nbLinkQuality
  delay : 0 ≤ link.linkDelay
  nbDelay : 0 ≤ link.nbLinkDelay

structure QosAddress.InRange (addr : QosAddress) : Prop where
  share : Share addr.linkQuality
  nbShare : Share addr.nbLinkQuality
  delay : 0 ≤ addr.linkDelay
  nbDelay : 0 ≤ addr.nbLinkDelay

structure QosNb2hopTuple.InRange (tuple : QosNb2hopTuple) : Prop where
  share : Share tuple.linkQuality
  nbShare : Share tuple.nbLinkQuality
  nbDelay : 0 ≤ tuple.nbLinkDelay

structure QosTopologyTuple.InRange (tuple : QosTopologyTuple) : Prop where
  share : Share tuple.linkQuality
  nbShare : Share tuple.nbLinkQuality
  nbDelay : 0 ≤ tuple.nbLinkDelay

structure QosState.InRange (state : QosState) : Prop where
  links : ∀ link ∈ state.linkset, link.InRange
  nb2hops : ∀ tuple ∈ state.nb2hopset, tuple.InRange
  topologies : ∀ tuple ∈ state.topologyset, tuple.InRange

section

variable {parameter : DelayParameter} {sent : Set QosAddress}

theorem SensedLink.created_inRange (tuple : LinkTuple) (pktSeqNum : Nat) :
    (SensedLink.created tuple pktSeqNum).InRange where
  counts := ⟨_, 0, LossWindow.Holds.start pktSeqNum (by decide) (by decide), by
    simp [List.count_replicate]⟩
  share := ⟨le_refl 0, zero_le_one⟩
  delay := by norm_num [SensedLink.created]
  nbDelay := by norm_num [SensedLink.created]

theorem SensedLink.InRange.probed {link : SensedLink} (inRange : link.InRange) (now : ℚ) (sn : Nat)
    (sendTime : ℚ) :
    (link.linkDelayComputation parameter.cAlpha now sn sendTime).InRange := by
  unfold SensedLink.linkDelayComputation
  split
  · refine ⟨inRange.counts, inRange.share, ?_, inRange.nbDelay⟩
    dsimp only
    split
    · next dispersed =>
      have old : 0 ≤ (1 - parameter.cAlpha) * link.linkDelay :=
        mul_nonneg (sub_nonneg.mpr parameter.atMostOne) inRange.delay
      exact add_nonneg (mul_nonneg parameter.nonneg dispersed.2.le) old
    · exact inRange.delay
  · exact ⟨inRange.counts, inRange.share, inRange.delay, inRange.nbDelay⟩

theorem LinkWrite.inRange {link link' : SensedLink} (write : LinkWrite parameter sent link link')
    (heard : ∀ addr ∈ sent, addr.InRange) (inRange : link.InRange) : link'.InRange := by
  cases write with
  | retimed tuple => exact ⟨inRange.counts, inRange.share, inRange.delay, inRange.nbDelay⟩
  | @received now seqno htime window ran =>
      have kept := LossWindow.receive_nbLinkQuality ran
      exact ⟨inRange.counts.receive ran, kept ▸ inRange.share, inRange.delay, inRange.nbDelay⟩
  | @listed addr among =>
      have known := heard addr among
      exact ⟨inRange.counts.of_same rfl, known.share, inRange.delay, known.delay⟩
  | timedOut now =>
      have kept : (link.window.packetTimeout parameter.linkQuality now).nbLinkQuality =
          link.window.nbLinkQuality :=
        LossWindow.processPacket_nbLinkQuality parameter.linkQuality now false 0 link.window
      have counts := inRange.counts.processPacket parameter.linkQuality now false 0
      exact ⟨counts.of_same rfl, kept ▸ inRange.share, inRange.delay, inRange.nbDelay⟩
  | probed now sn sendTime => exact inRange.probed now sn sendTime

theorem keepBest_inRange {tuple : QosNb2hopTuple} {addr : QosAddress} (inRange : tuple.InRange)
    (heard : addr.InRange) (behaviour sender : LinkQuality) :
    (tuple.keepBest behaviour sender addr).InRange := by
  have updated : (tuple.updateLinkQuality behaviour addr.linkQuality addr.nbLinkQuality).InRange :=
    ⟨heard.share, heard.nbShare, inRange.nbDelay⟩
  have delayed {rated : QosNb2hopTuple} (inRange : rated.InRange) :
      (if addr.nbLinkDelay < rated.nbLinkDelay then
        rated.updateLinkDelay addr.linkDelay addr.nbLinkDelay else rated).InRange := by
    split
    · exact ⟨inRange.share, inRange.nbShare, heard.nbDelay⟩
    · exact inRange
  unfold QosNb2hopTuple.keepBest
  apply delayed
  split
  · split
    · exact updated
    · exact inRange
  · split
    · exact updated
    · exact inRange
  · exact inRange

theorem Nb2hopWrite.inRange {tuple tuple' : QosNb2hopTuple}
    (write : Nb2hopWrite parameter sent tuple tuple') (heard : ∀ addr ∈ sent, addr.InRange)
    (inRange : tuple.InRange) : tuple'.InRange := by
  cases write with
  | retimed time => exact ⟨inRange.share, inRange.nbShare, inRange.nbDelay⟩
  | advertised sender among => exact keepBest_inRange inRange (heard _ among) _ sender

theorem forall_mem_replaced {Item : Type} {inRange : Item → Prop} {before after : List Item}
    {old new : Item} (all : ∀ item ∈ before ++ old :: after, inRange item) (replaced : inRange new) :
    ∀ item ∈ before ++ new :: after, inRange item := by
  intro item member
  rcases List.mem_append.mp member with member | member
  · exact all item (List.mem_append_left _ member)
  · rcases List.mem_cons.mp member with rfl | member
    · exact replaced
    · exact all item (List.mem_append_right _ (List.mem_cons_of_mem _ member))

theorem forall_mem_added {Item : Type} {inRange : Item → Prop} {items : List Item} {new : Item}
    (all : ∀ item ∈ items, inRange item) (added : inRange new) :
    ∀ item ∈ items ++ [new], inRange item := by
  intro item member
  rcases List.mem_append.mp member with member | last
  · exact all item member
  · exact List.mem_singleton.mp last ▸ added

theorem QosStep.inRange {state state' : QosState} (step : QosStep parameter sent state state')
    (heard : ∀ addr ∈ sent, addr.InRange) (inRange : state.InRange) : state'.InRange := by
  obtain ⟨links, nb2hops, topologies⟩ := inRange
  have listed {addr : QosAddress} (among : addr ∈ sent) (tuple : TopologyTuple) :
      (QosTopologyTuple.listed tuple addr).InRange :=
    ⟨(heard addr among).share, (heard addr among).nbShare, (heard addr among).nbDelay⟩
  cases step with
  | addLink tuple pktSeqNum =>
      exact ⟨forall_mem_added links (SensedLink.created_inRange tuple pktSeqNum), nb2hops, topologies⟩
  | @writeLink before after link link' split write =>
      rw [split] at links
      have old := links link (by simp)
      exact ⟨forall_mem_replaced links (write.inRange heard old), nb2hops, topologies⟩
  | removeLinks stays =>
      exact ⟨fun link member => links link (List.mem_filter.mp member).1, nb2hops, topologies⟩
  | addNb2hop id nbMainAddr nb2hopAddr time =>
      refine ⟨links, forall_mem_added nb2hops ⟨?_, ?_, ?_⟩, topologies⟩
      · exact ⟨le_refl 0, zero_le_one⟩
      · exact ⟨le_refl 0, zero_le_one⟩
      · exact zero_le_one
  | @writeNb2hop before after tuple tuple' split write =>
      rw [split] at nb2hops
      have old := nb2hops tuple (by simp)
      exact ⟨links, forall_mem_replaced nb2hops (write.inRange heard old), topologies⟩
  | removeNb2hops stays =>
      exact ⟨links, fun tuple member => nb2hops tuple (List.mem_filter.mp member).1, topologies⟩
  | addTopology tuple among =>
      exact ⟨links, nb2hops, forall_mem_added topologies (listed among tuple)⟩
  | writeTopology split written among =>
      rw [split] at topologies
      exact ⟨links, nb2hops, forall_mem_replaced topologies (listed among written)⟩
  | removeTopologies stays =>
      exact ⟨links, nb2hops, fun tuple member => topologies tuple (List.mem_filter.mp member).1⟩
  | others nbset ifaceassocset => exact ⟨links, nb2hops, topologies⟩

structure EtxNetwork.InRange (network : EtxNetwork) : Prop where
  nodes : ∀ node, (network.nodes node).InRange
  sent : ∀ addr ∈ network.sent, addr.InRange

theorem NetworkStep.inRange {parameters : NsAddr → DelayParameter} {network network' : EtxNetwork}
    (step : NetworkStep parameters network network') (inRange : network.InRange) :
    network'.InRange := by
  cases step with
  | @write node state step =>
      refine ⟨fun other => ?_, inRange.sent⟩
      by_cases here : other = node
      · subst here
        simpa using step.inRange inRange.sent (inRange.nodes other)
      · simpa [here] using inRange.nodes other
  | @send node link member ifaceAddress =>
      have known := (inRange.nodes node).links link member
      refine ⟨inRange.nodes, fun addr among => ?_⟩
      rcases among with rfl | among
      · exact ⟨known.counts.share, known.share, known.delay, known.nbDelay⟩
      · exact inRange.sent addr among

theorem NetworkReached.inRange {parameters : NsAddr → DelayParameter} {network : EtxNetwork}
    (reached : NetworkReached parameters network) : network.InRange := by
  induction reached with
  | initial => exact ⟨fun node => ⟨by simp, by simp, by simp⟩, by simp⟩
  | step _ step ih => exact step.inRange ih

end

end SyncFanet.OlsrEtx
