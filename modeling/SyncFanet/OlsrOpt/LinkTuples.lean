import SyncFanet.Olsr.LinkInvariants
import SyncFanet.OlsrOpt.AgentWrites

/-!
# Link tuples of an OLSROPT agent

In every run the link tuples have identities of their own.
-/

set_option autoImplicit false

namespace SyncFanet.OlsrOpt

open Olsr

structure LinkIds (node : Node) : Prop where
  ids : (node.state.linkset.map LinkTuple.id).Nodup
  fresh : ∀ link ∈ node.state.linkset, link.id < node.nextId

namespace LinkIds

variable {config : Config} {now : Int} {node node' : Node}

variable {iface : Iface} {srcAddr : NsAddr}

theorem of_linkKeys (linked : LinkIds node)
    (keys : node'.state.linkset.map linkKey = node.state.linkset.map linkKey)
    (later : node.nextId ≤ node'.nextId) : LinkIds node' := by
  constructor
  · have same := congrArg (List.map Prod.fst) keys
    simp only [List.map_map] at same
    exact same ▸ linked.ids
  · intro link member
    have among : linkKey link ∈ node.state.linkset.map linkKey :=
      keys ▸ List.mem_map_of_mem member
    obtain ⟨old, stored, same⟩ := List.mem_map.mp among
    have equal : old.id = link.id := congrArg Prod.fst same
    exact equal ▸ Nat.lt_of_lt_of_le (linked.fresh old stored) later

theorem of_same (linked : LinkIds node) (links : node'.state.linkset = node.state.linkset)
    (later : node.nextId ≤ node'.nextId) : LinkIds node' :=
  linked.of_linkKeys (by rw [links]) later

theorem insertLink (linked : LinkIds node) {created : LinkTuple}
    (id : created.id = node.nextId)
    (links : node'.state.linkset = node.state.linkset ++ [created])
    (later : node'.nextId = node.nextId + 1) : LinkIds node' := by
  constructor
  · rw [links, List.map_append]
    refine nodup_append_single linked.ids ?_
    intro among
    obtain ⟨link, member, same⟩ := List.mem_map.mp among
    exact Nat.ne_of_lt (linked.fresh link member) (same.trans id)
  · intro link member
    rw [links] at member
    rw [later]
    rcases List.mem_append.mp member with old | last
    · exact Nat.lt_succ_of_lt (linked.fresh link old)
    · rw [List.mem_singleton.mp last, id]
      exact Nat.lt_succ_self _

theorem upkeep (guard : Guard) (config : Config) (now : Int) :
    UpkeepRules guard config now LinkIds where
  frame node node' same linked := linked.of_same same.linkset same.nextId
  mid iface srcAddr msg mid node body met linked := by
    obtain ⟨_, _, _, written⟩ := processMid_writes now msg mid srcAddr iface.index node
    rw [written]
    exact linked.of_same rfl (Nat.le_add_right _ _)
  loss node link member lost linked := by
    obtain ⟨_, written⟩ := updatedLinkTuple_writes config now link willDefault node.state
    refine linked.of_same ?_ (le_refl _)
    simp only [Node.mapState, written]
  macLoss node link member useMac linked := by
    obtain ⟨_, written⟩ := updatedLinkTuple_writes config now (lostLinkTuple config now link)
      willDefault (node.state.updateLinkTuple (lostLinkTuple config now link))
    refine linked.of_linkKeys ?_ (le_refl _)
    simp only [Node.mapState, written]
    exact linkKeys_updateLinkTuple linked.ids member (lostLinkTuple_same config now link)
  rmLink id firstTime node link member same expired met linked := by
    have fewer : (node.state.linkset.eraseP fun other => other.id = link.id).Sublist
        node.state.linkset := List.eraseP_sublist
    exact ⟨linked.ids.sublist (fewer.map _),
      fun other among => linked.fresh other (fewer.subset among)⟩
  rmAssoc id node tuple member same expired met linked := linked.of_same rfl (le_refl _)

theorem of_neighborhood (linked : LinkIds node) (same : SameNeighborhood node node') :
    LinkIds node' :=
  linked.of_same same.linkset same.nextId

theorem linkSensing {vtime : Nat} {hello : Hello} {receiverIface senderIface : NsAddr}
    {index : Nat} {changed : Bool} (linked : LinkIds node)
    (ran : linkSensingWith false config now vtime hello receiverIface senderIface index node =
      .ok (node', changed)) : LinkIds node' := by
  rcases linkSensingWith_cases ran with
    ⟨known, link, found, sensed, rfl⟩ | ⟨absent, _, created, link, updated, rfl, sensed, rfl⟩
  · refine linked.of_linkKeys ?_ (le_refl _)
    rw [linkset_writeSensed]
    exact linkKeys_updateLinkTuple linked.ids (List.mem_of_find?_eq_some found)
      (senseLink_same sensed)
  · have added : LinkIds { node with
        state := addLinkTuple now
          (newLinkTuple node.nextId now (emfToSeconds vtime) receiverIface senderIface index)
          hello.willingness node.state
        nextId := node.nextId + 1 } :=
      linked.insertLink rfl rfl rfl
    refine added.of_linkKeys ?_ (le_refl _)
    refine (congrArg (List.map linkKey) (linkset_writeSensed config now hello.willingness link
      updated _)).trans ?_
    exact linkKeys_updateLinkTuple added.ids
      (List.mem_append_right _ (List.mem_singleton_self _)) (senseLink_same sensed)

theorem processMsg {msg : Msg} {result : Node × Bool} (linked : LinkIds node)
    (ran : processMsg config now iface srcAddr msg node = .ok result) :
    LinkIds result.1 := by
  unfold OlsrOpt.processMsg at ran
  split at ran
  · next hello body =>
    obtain ⟨sensed, changed, sensing, same⟩ := processHello_sensed ran
    have willing : LinkIds (sensed.mapState (populateNbset hello msg.origAddr)) :=
      (linked.linkSensing sensing).of_same rfl (le_refl _)
    exact willing.of_neighborhood same
  · exact linked.of_neighborhood (sameNeighborhood_of_topology (processTc_writes ran))
  · next mid body =>
    obtain ⟨_, _, _, written⟩ := processMid_writes now msg mid srcAddr iface.index node
    rw [← Except.ok.inj ran, written]
    exact linked.of_same rfl (Nat.le_add_right _ _)
  · exact Except.ok.inj ran ▸ linked

theorem recvMsg {msg : Msg} {result : Node × Bool}
    (ran : recvMsg config now iface srcAddr node msg = .ok result) (linked : LinkIds node) :
    LinkIds result.1 := by
  obtain ⟨processed, processing, forwarding⟩ := recvMsg_stages ran
  have kept : LinkIds processed := by
    split at processing
    · have recorded : LinkIds (node.record (.processed msg.origAddr msg.msgSeqNum)) :=
        linked.of_same rfl (le_refl _)
      exact recorded.processMsg processing
    · exact processing.1 ▸ linked
  rcases forwarding with same | written
  · exact same ▸ kept
  · exact kept.of_neighborhood (sameNeighborhood_of_forwarding written)

theorem recvOlsr {pkt : Pkt} (linked : LinkIds node)
    (ran : recvOlsr config now iface srcAddr pkt node = .ok node') : LinkIds node' := by
  rcases recvOlsr_stages ran with ⟨_, rfl⟩ | ⟨handled, recalculateRoutes, loop, table⟩
  · exact linked
  · have kept : LinkIds handled :=
      recvMsgs_keeps LinkIds (fun _ _ _ ran linked => linked.recvMsg ran) loop linked
    split at table
    · exact kept.of_neighborhood (recomputeRtable_sameNeighborhood table)
    · exact Except.ok.inj table ▸ kept

end LinkIds

theorem reached_linkIds {config : Config} {condition : Int → Event → Node → Prop} {clock : Int}
    {node : Node} (reached : Reached recvOlsr config condition clock node) : LinkIds node := by
  induction reached with
  | initial time maxTime =>
      exact ⟨List.nodup_nil, fun _ member => absurd member List.not_mem_nil⟩
  | @step _ now event before _ _ _ _ ran linked =>
      refine (LinkIds.upkeep Guard.always config now).event ?_ ran linked ?_
      · intro _
        exact Guard.always_allows config now .timer before
      · intro iface srcAddr pkt received _
        exact linked.recvOlsr received

end SyncFanet.OlsrOpt
