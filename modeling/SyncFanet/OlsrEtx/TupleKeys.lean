import SyncFanet.Olsr.TupleKeys
import SyncFanet.OlsrEtx.Agent
import SyncFanet.OlsrEtx.LossFreeLink
import SyncFanet.OlsrOpt.TupleKeys

/-!
# Keys of the tuples of all three agents

`OLSR_ETX` keeps the keys apart as `OLSR` does. With `OLSROPT` beside them, all three do
in every run where `OLSROPT` adds no destination twice.
-/

set_option autoImplicit false

namespace SyncFanet.OlsrEtx

open Olsr

def QosNb2hopTuple.key (tuple : QosNb2hopTuple) : NsAddr × NsAddr := tuple.toNb2hopTuple.key

def QosTopologyTuple.key (tuple : QosTopologyTuple) : TopologyKey := tuple.toTopologyTuple.key

def EtxNode.tupleKeys (node : EtxNode) : TupleKeys where
  links := node.linkset.map fun link => link.nbIfaceAddr
  nb2hops := node.nb2hopset.map QosNb2hopTuple.key
  mprsels := node.mprselset.map MprselTuple.mainAddr
  topologies := node.topologyset.map QosTopologyTuple.key

/-! ## HELLO messages -/

theorem linkSensing_links {behaviour : LinkQuality} {config : Config} {now : Int} {msg : EtxMsg}
    {hello : EtxHello} {receiverIface senderIface : NsAddr} {pktSeqNum unsetIndex : Nat}
    {node node' : LinkNode}
    (ran : linkSensing behaviour config now msg hello receiverIface senderIface pktSeqNum
      unsetIndex node = .ok node')
    (unique : (node.linkset.map fun link => link.nbIfaceAddr).Nodup) :
    (node'.linkset.map fun link => link.nbIfaceAddr).Nodup := by
  unfold linkSensing at ran
  cases found : node.findLinkTuple senderIface with
  | some known =>
      simp only [found] at ran
      obtain ⟨link, sensed, same⟩ := bind_ok.mp ran
      obtain ⟨_, _, sensed⟩ := senseLink_sensed sensed
      have keeps : ∀ other : MeasuredLink, decide (other.nbIfaceAddr = senderIface) = true →
          link.nbIfaceAddr = other.nbIfaceAddr := by
        intro other here
        have known := (findLinkTuple_addr found).2
        exact sensed.nbIfaceAddr.trans (known.trans (of_decide_eq_true here).symm)
      rw [← Except.ok.inj same, LinkNode.updateLinkTuple,
        updateFirst.map_key_of_found keeps node.linkset]
      exact unique
  | none =>
      simp only [found] at ran
      obtain ⟨link, sensed, same⟩ := bind_ok.mp ran
      obtain ⟨_, _, sensed⟩ := senseLink_sensed sensed
      rw [← Except.ok.inj same, List.map_append]
      refine nodup_append_single unique ?_
      change link.nbIfaceAddr ∉ _
      rw [sensed.nbIfaceAddr]
      simpa [LinkNode.findLinkTuple, newLinkTuple] using found

theorem keepBest_key (behaviour sender : LinkQuality) (addr : QosAddress)
    (tuple : QosNb2hopTuple) :
    (tuple.keepBest behaviour sender addr).key = tuple.key := by
  unfold QosNb2hopTuple.keepBest
  cases behaviour <;> dsimp only <;> split_ifs <;> rfl

theorem populateQosAddr_nb2hops (behaviour : LinkQuality) (validityTime : Int)
    (origAddr : NsAddr) (group : QosGroup) {node : Nb2hopNode} (addr : QosAddress)
    (unique : (node.nb2hopset.map QosNb2hopTuple.key).Nodup) :
    ((populateQosAddr behaviour validityTime origAddr group node addr).nb2hopset.map
      QosNb2hopTuple.key).Nodup := by
  have rated : ∀ node : Nb2hopNode, ∀ nb2hopAddr,
      (node.nb2hopset.map QosNb2hopTuple.key).Nodup →
      ((node.updateNb2hopTuple origAddr nb2hopAddr
        (QosNb2hopTuple.keepBest behaviour group.qosBehaviour addr)).nb2hopset.map
          QosNb2hopTuple.key).Nodup := by
    intro node nb2hopAddr unique
    rw [Nb2hopNode.updateNb2hopTuple,
      updateFirst.map_key (keepBest_key behaviour group.qosBehaviour addr) node.nb2hopset]
    exact unique
  unfold populateQosAddr
  dsimp only
  split
  · split
    · exact unique
    · refine rated _ _ ?_
      cases found : node.findNb2hopTuple origAddr (node.base.getMainAddr addr.ifaceAddress) with
      | none =>
          simp only [Nb2hopNode.addNb2hopTuple, List.map_append]
          refine nodup_append_single unique ?_
          simpa [Nb2hopNode.findNb2hopTuple, Nb2hopNode.is2hop, QosNb2hopTuple.key,
            Nb2hopTuple.key, QosNb2hopTuple.created] using found
      | some _ =>
          have keeps : ∀ tuple : QosNb2hopTuple,
              QosNb2hopTuple.key { tuple with time := validityTime } = tuple.key := fun _ => rfl
          simp only [Nb2hopNode.updateNb2hopTuple]
          rw [updateFirst.map_key keeps node.nb2hopset]
          exact unique
  · split
    · exact unique.sublist (List.filter_sublist.map _)
    · exact unique

namespace EtxNode

variable {node node' : EtxNode}

variable {behaviour : LinkQuality} {config : Config} {now : Int} {unsetIndex : Nat}

theorem populateSelector_onePerKey (config : Config) (time : Int) (origAddr : NsAddr)
    (addr : QosAddress) (unique : OnePerKey node.tupleKeys) :
    OnePerKey (populateSelector config time origAddr node addr).tupleKeys := by
  unfold populateSelector
  split
  · cases found : node.mprselset.find? fun tuple => tuple.mainAddr = origAddr with
    | none =>
        have absent : origAddr ∉ node.tupleKeys.mprsels := by simpa [tupleKeys] using found
        simpa [tupleKeys] using unique.addMprsel absent
    | some _ =>
        have keeps : ∀ tuple : MprselTuple,
            MprselTuple.mainAddr { tuple with time := time } = tuple.mainAddr := fun _ => rfl
        refine unique.of_sublists (List.Sublist.refl _) (List.Sublist.refl _) ?_
          (List.Sublist.refl _)
        simp only [tupleKeys, updateFirst.map_key keeps, List.Sublist.refl]
  · exact unique

theorem processHello_onePerKey {msg : QosMessage QosHello} {receiverIface senderIface : NsAddr}
    {pktSeqNum : Nat}
    (ran : node.processHello behaviour config now msg receiverIface senderIface pktSeqNum
      unsetIndex = .ok node') (unique : OnePerKey node.tupleKeys) : OnePerKey node'.tupleKeys := by
  obtain ⟨sensed, sensing, ran⟩ := bind_ok.mp ran
  obtain ⟨populated, populating, ran⟩ := bind_ok.mp ran
  have links := linkSensing_links sensing unique.links
  have nb2hops : (populated.nb2hopset.map QosNb2hopTuple.key).Nodup := by
    unfold populateNb2hopset at populating
    split_ifs at populating
    · exact Except.ok.inj populating ▸ unique.nb2hops
    · rw [← Except.ok.inj populating]
      refine foldl_keeps _ (fun node : Nb2hopNode => (node.nb2hopset.map QosNb2hopTuple.key).Nodup)
        unique.nb2hops ?_
      intro group node _ unique
      exact foldl_keeps _ (fun node : Nb2hopNode => (node.nb2hopset.map QosNb2hopTuple.key).Nodup)
        unique fun addr node _ unique => populateQosAddr_nb2hops behaviour _ _ group addr unique
  unfold populateMprselset at ran
  dsimp only at ran
  split at ran
  · cases ran
  · split at ran
    · cases ran
    · rw [← Except.ok.inj ran]
      refine foldl_keeps _ (fun node : EtxNode => OnePerKey node.tupleKeys)
        { unique with links := links, nb2hops := nb2hops } ?_
      intro group node _ unique
      exact foldl_keeps _ (fun node : EtxNode => OnePerKey node.tupleKeys) unique
        fun addr node _ unique => populateSelector_onePerKey config _ _ addr unique

/-! ## TC messages -/

theorem advertise_onePerKey (time : Int) (origAddr : NsAddr) (ansn unsetIndex : Nat)
    (addr : QosAddress) (unique : OnePerKey node.tupleKeys)
    (current : AllAt origAddr ansn node.tupleKeys.topologies) :
    OnePerKey (advertise time origAddr ansn unsetIndex node addr).tupleKeys ∧
      AllAt origAddr ansn
        (advertise time origAddr ansn unsetIndex node addr).tupleKeys.topologies := by
  unfold advertise
  cases found : node.topologyset.find? (isTopology addr.ifaceAddress origAddr) with
  | some _ =>
      have keeps : ∀ tuple : QosTopologyTuple, QosTopologyTuple.key
          (.listed { tuple.toTopologyTuple with time := time } addr) = tuple.key := fun _ => rfl
      simp only [tupleKeys, updateFirst.map_key keeps]
      exact ⟨unique, current⟩
  | none =>
      have absent : (addr.ifaceAddress, origAddr) ∉
          node.tupleKeys.topologies.map TopologyKey.ends := by
        simpa [isTopology, tupleKeys, QosTopologyTuple.key, TopologyTuple.key, TopologyKey.ends]
          using found
      have unknown : TopologyKey.ends
          { destAddr := addr.ifaceAddress, lastAddr := origAddr, seq := ansn } ∉
            node.tupleKeys.topologies.map TopologyKey.ends := absent
      have added := unique.addTopology unknown current
      have later := current.append addr.ifaceAddress
      refine ⟨?_, ?_⟩
      · simpa [tupleKeys, QosTopologyTuple.key, QosTopologyTuple.listed, TopologyTuple.key]
          using added
      · simpa [tupleKeys, QosTopologyTuple.key, QosTopologyTuple.listed, TopologyTuple.key]
          using later

theorem processTc_onePerKey {msg : QosMessage QosTc} {senderIface : NsAddr}
    (ran : node.processTc now msg senderIface unsetIndex = .ok node')
    (unique : OnePerKey node.tupleKeys) : OnePerKey node'.tupleKeys := by
  unfold processTc at ran
  split at ran
  · exact Except.ok.inj ran ▸ unique
  · split at ran
    · exact Except.ok.inj ran ▸ unique
    · next accepted =>
      split at ran
      · cases ran
      · rw [← Except.ok.inj ran]
        refine (foldl_keeps _ (fun node : EtxNode => OnePerKey node.tupleKeys ∧
          AllAt msg.origAddr msg.body.ansn node.tupleKeys.topologies) ⟨?_, ?_⟩ ?_).1
        · exact unique.of_sublists (List.Sublist.refl _) (List.Sublist.refl _)
            (List.Sublist.refl _) (List.filter_sublist.map _)
        · intro key member same
          obtain ⟨tuple, among, rfl⟩ := List.mem_map.mp member
          obtain ⟨stored, kept⟩ := List.mem_filter.mp among
          have notOlder : ¬ (tuple.lastAddr = msg.origAddr ∧ tuple.seq < msg.body.ansn) :=
            fun older => by simp [older] at kept
          have notNewer : ¬ (tuple.lastAddr = msg.origAddr ∧ tuple.seq > msg.body.ansn) :=
            fun newer => accepted (List.any_eq_true.mpr ⟨tuple, stored, decide_eq_true newer⟩)
          exact Nat.le_antisymm (Nat.not_lt.mp fun newer => notNewer ⟨same, newer⟩)
            (Nat.not_lt.mp fun older => notOlder ⟨same, older⟩)
        · rintro addr node _ ⟨unique, current⟩
          exact advertise_onePerKey _ _ _ unsetIndex addr unique current

/-! ## Runs -/

theorem processMid_tupleKeys (now : Int) (msg : QosMessage Mid) (senderIface : NsAddr)
    (index : Nat) (node : EtxNode) :
    (node.processMid now msg senderIface index).tupleKeys = node.tupleKeys := by
  unfold processMid
  split
  · rfl
  · refine foldl_keeps _ (fun current : EtxNode => current.tupleKeys = node.tupleKeys) rfl ?_
    intro addr current _ same
    rw [← same]
    unfold associate
    dsimp only
    split <;> rfl

theorem nbLoss_onePerKey (link : MeasuredLink) (unique : OnePerKey node.tupleKeys) :
    OnePerKey (nbLoss link node).tupleKeys :=
  unique.of_sublists (List.Sublist.refl _) (List.filter_sublist.map _)
    (List.filter_sublist.map _) (List.Sublist.refl _)

theorem expireTuple_sublist {Tuple : Type} (idOf : Tuple → TupleId) (timeOf : Tuple → Int)
    (now : Int) (id : TupleId) (tuples : List Tuple) :
    (expireTuple idOf timeOf now id tuples).Sublist tuples := by
  unfold expireTuple
  split
  · exact List.Sublist.refl _
  · split
    · exact List.eraseP_sublist
    · exact List.Sublist.refl _

theorem step_onePerKey {event : EtxEvent}
    (ran : node.step behaviour config unsetIndex now event = .ok node')
    (unique : OnePerKey node.tupleKeys) : OnePerKey node'.tupleKeys := by
  cases event with
  | hello msg receiverIface senderIface pktSeqNum => exact processHello_onePerKey ran unique
  | tc msg senderIface => exact processTc_onePerKey ran unique
  | mid msg senderIface index =>
      rw [← Except.ok.inj ran, processMid_tupleKeys]
      exact unique
  | linkTimer id firstTime =>
      rw [← Except.ok.inj ran]
      unfold expireLink
      split
      · exact unique
      · split
        · exact unique.of_sublists (List.eraseP_sublist.map _) (List.Sublist.refl _)
            (List.Sublist.refl _) (List.Sublist.refl _)
        · split
          · split
            · exact unique
            · exact nbLoss_onePerKey _ unique
          · exact unique
  | nb2hopTimer id =>
      rw [← Except.ok.inj ran]
      exact unique.of_sublists (List.Sublist.refl _) ((expireTuple_sublist _ _ _ _ _).map _)
        (List.Sublist.refl _) (List.Sublist.refl _)
  | mprselTimer id =>
      rw [← Except.ok.inj ran]
      exact unique.of_sublists (List.Sublist.refl _) (List.Sublist.refl _)
        ((expireTuple_sublist _ _ _ _ _).map _) (List.Sublist.refl _)
  | topologyTimer id =>
      rw [← Except.ok.inj ran]
      exact unique.of_sublists (List.Sublist.refl _) (List.Sublist.refl _) (List.Sublist.refl _)
        ((expireTuple_sublist _ _ _ _ _).map _)
  | ifaceAssocTimer id =>
      rw [← Except.ok.inj ran]
      exact unique
  | linkQualityTimer =>
      have keeps : ∀ link : MeasuredLink,
          (if link.window.nextHello < now then
            { link with window := link.window.packetTimeout behaviour now }
          else link).nbIfaceAddr = link.nbIfaceAddr := by
        intro link
        split <;> rfl
      rw [← Except.ok.inj ran]
      refine { unique with links := ?_ }
      simp only [tupleKeys, linkQuality, List.map_map, Function.comp_def, keeps]
      exact unique.links
  | linkBreak nextAddr =>
      simp only [step] at ran
      split at ran
      · next link _ =>
        split at ran
        · rw [← Except.ok.inj ran]
          refine nbLoss_onePerKey link { unique with links := ?_ }
          have keeps : ∀ other : MeasuredLink, (fun link : MeasuredLink => link.nbIfaceAddr)
              { other with
                lostTime := now + config.neighbHoldTime
                time := now + config.neighbHoldTime } = other.nbIfaceAddr := fun _ => rfl
          simp only [tupleKeys]
          rw [updateFirst.map_key keeps]
          exact unique.links
        · exact Except.ok.inj ran ▸ unique
      · exact Except.ok.inj ran ▸ unique

theorem reached_onePerKey {clock : Int} (reached : EtxReached behaviour config clock node) :
    OnePerKey node.tupleKeys := by
  induction reached with
  | initial start maxTime =>
      exact ⟨nofun, List.nodup_nil, List.nodup_nil, List.nodup_nil, List.nodup_nil⟩
  | step _ _ _ _ ran unique => exact step_onePerKey ran unique

end EtxNode

/-! ## The three agents -/

/-- One sequence number for an originator and one tuple for a key, in every state that the
three agents reach, `OLSROPT` in runs whose steps meet the condition. -/
structure KeysApart (behaviour : LinkQuality) (config : Config)
    (condition : Int → Event → Node → Prop) : Prop where
  olsr : ∀ clock node, Reached Olsr.recvOlsr config (fun _ _ _ => True) clock node →
    OnePerKey node.state.tupleKeys
  etx : ∀ clock node, EtxReached behaviour config clock node → OnePerKey node.tupleKeys
  opt : ∀ clock node, Reached OlsrOpt.recvOlsr config condition clock node →
    OnePerKey node.state.tupleKeys

theorem keysApart_of_addsOnce (behaviour : LinkQuality) (config : Config) :
    KeysApart behaviour config
      (fun now event node => OlsrOpt.addsOnce config now event node = true) where
  olsr _ _ reached := (Olsr.reached_keyed reached).unique
  etx _ _ reached := EtxNode.reached_onePerKey reached
  opt _ _ reached := (OlsrOpt.reached_keyed reached).unique

def advertisedByTwo (nbMainAddrs : List NsAddr) : List (Int × Event) :=
  [(Time.second, receiveHello 2 2 0 134 10),
    (2 * Time.second, receive 2 2 1 134 (.tc { ansn := 0, nbMainAddrs := nbMainAddrs }))]

theorem keysApart_of_addsOnce_advertised : ∃ clock node,
    Reached OlsrOpt.recvOlsr oneIfaceConfig
      (fun now event node => OlsrOpt.addsOnce oneIfaceConfig now event node = true) clock node ∧
    node.state.tupleKeys.topologies.length = 2 ∧ OnePerKey node.state.tupleKeys := by
  obtain ⟨clock, node, reached, two⟩ := exists_reached_of_runOf OlsrOpt.recvOlsr
    (OlsrOpt.addsOnce oneIfaceConfig) (advertisedByTwo [3, 4])
    (fun current => current.2.state.tupleKeys.topologies.length = 2) (by decide +kernel)
  exact ⟨clock, node, reached, of_decide_eq_true two,
    (keysApart_of_addsOnce .etx oneIfaceConfig).opt clock node reached⟩

/-- `OLSROPT` adds the destination 3 of the originator 2 twice. -/
theorem not_keysApart : ¬ ∀ behaviour config, KeysApart behaviour config fun _ _ _ => True := by
  intro claimed
  obtain ⟨clock, node, reached, twice⟩ := exists_reached_of_runOf OlsrOpt.recvOlsr
    (fun _ _ _ => true) (advertisedByTwo [3, 3])
    (fun current => !decide (current.2.state.tupleKeys.topologies.map TopologyKey.ends).Nodup)
    (by decide +kernel)
  have unique := (claimed .etx oneIfaceConfig).opt clock node
    (reached.weaken fun _ _ _ _ => trivial)
  simp [unique.topologies] at twice

end SyncFanet.OlsrEtx
