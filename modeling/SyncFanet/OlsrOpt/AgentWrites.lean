import SyncFanet.Olsr.Neighborhood
import SyncFanet.OlsrOpt.Agent

/-!
# What each function of OLSROPT writes

The stages of its `process_hello`, `process_tc` and `recv_olsr`, with the fields of the node
that they may change.
-/

set_option autoImplicit false

namespace SyncFanet.OlsrOpt

open Olsr

variable {now : Int} {node : Node} {msg : Msg} {config : Config} {index : Nat}
  {result : Node × Bool}

variable {iface : Iface} {senderIface srcAddr : NsAddr} {tc : Tc}

/-! ## HELLO messages -/

theorem processHello_stages {hello : Hello} {receiverIface : NsAddr}
    (ran : processHello config now msg hello receiverIface senderIface index node = .ok result) :
    ∃ sensed linked populated changed computed,
      linkSensingWith false config now msg.vtime hello receiverIface senderIface index node =
        .ok (sensed, linked) ∧
      populateNb2hopsetWith (fun _ addr => addr) config now msg.vtime hello msg.origAddr
        (sensed.mapState (populateNbset hello msg.origAddr)) = .ok (populated, changed) ∧
      (if changed || linked then populated.recomputeMprs config else .ok populated) =
        .ok computed ∧
      populateMprselset config now msg.vtime hello msg.origAddr computed = .ok result.1 ∧
      result.2 = (changed || linked) := by
  obtain ⟨⟨sensed, linked⟩, first, ran⟩ := bind_ok.mp ran
  obtain ⟨⟨populated, changed⟩, second, ran⟩ := bind_ok.mp ran
  have selecting : ∀ computed, ((populateMprselset config now msg.vtime hello msg.origAddr
      computed).bind fun node => .ok (node, changed || linked)) = .ok result →
      populateMprselset config now msg.vtime hello msg.origAddr computed = .ok result.1 ∧
        result.2 = (changed || linked) := by
    intro computed ran
    obtain ⟨selected, fourth, same⟩ := bind_ok.mp ran
    rw [← Except.ok.inj same]
    exact ⟨fourth, rfl⟩
  dsimp only at ran
  split at ran
  · next recalculates =>
    obtain ⟨computed, third, ran⟩ := bind_ok.mp ran
    exact ⟨sensed, linked, populated, changed, computed, first, second,
      (if_pos recalculates).trans third, selecting computed ran⟩
  · next unchanged =>
    exact ⟨sensed, linked, populated, changed, populated, first, second, if_neg unchanged,
      selecting populated ran⟩

theorem processHello_sensed {hello : Hello} {receiverIface : NsAddr}
    (ran : processHello config now msg hello receiverIface senderIface index node = .ok result) :
    ∃ sensed linked,
      linkSensingWith false config now msg.vtime hello receiverIface senderIface index node =
        .ok (sensed, linked) ∧
      SameNeighborhood (sensed.mapState (populateNbset hello msg.origAddr)) result.1 := by
  obtain ⟨sensed, linked, populated, changed, computed, first, second, third, fourth, _⟩ :=
    processHello_stages ran
  have computing : SameNeighborhood populated computed := by
    split at third
    · exact recomputeMprs_sameNeighborhood third
    · exact Except.ok.inj third ▸ SameNeighborhood.refl populated
  exact ⟨sensed, linked, first,
    ((sameNeighborhood_of_nb2hop (populateNb2hopsetWith_writes second)).trans computing).trans
      (sameNeighborhood_of_selectors (populateMprselset_writes fourth))⟩

/-! ## TC messages -/

/-- The advertised addresses that no topology tuple of the originator has. -/
def unlisted (origAddr : NsAddr) (tc : Tc) (state : State) : List NsAddr :=
  tc.nbMainAddrs.filter fun addr =>
    !((state.topologyset.filter fun tuple => tuple.lastAddr = origAddr).any
      fun tuple => tuple.destAddr = addr)

/-- The first loop of `update_topology_tuples`. -/
def refreshTopologyTuples (origAddr : NsAddr) (tc : Tc) (time : Int) (node : Node) : Node :=
  (node.eraseTopologyTuples fun tuple =>
      decide (tuple.lastAddr = origAddr ∧ tuple.destAddr ∉ tc.nbMainAddrs)).mapState
    fun state => { state with
      topologyset := state.topologyset.map fun tuple =>
        if tuple.lastAddr = origAddr then { tuple with seq := tc.ansn, time := time } else tuple }

theorem updateTopologyTuples_ok {result : Node × Nat}
    (ran : updateTopologyTuples now msg tc index node = .ok result) :
    result.1 =
      if tc.nbMainAddrs = [] then node
      else
        (unlisted msg.origAddr tc node.state).foldl (fun node addr =>
            node.addTopologyTuple now addr msg.origAddr tc.ansn (emfToSeconds msg.vtime) index)
          (refreshTopologyTuples msg.origAddr tc (now + emfToSeconds msg.vtime) node) := by
  unfold updateTopologyTuples at ran
  split at ran
  · next empty => rw [if_pos empty, ← Except.ok.inj ran]
  · next listed =>
    dsimp only at ran
    split at ran
    · cases ran
    · rw [if_neg listed, ← Except.ok.inj ran]
      rfl

theorem updateTopologyTuples_writes {result : Node × Nat}
    (ran : updateTopologyTuples now msg tc index node = .ok result) :
    WritesTopology node result.1 := by
  rw [updateTopologyTuples_ok ran]
  split
  · exact ⟨_, _, 0, _, rfl⟩
  · refine foldl_keeps _ (WritesTopology node) ⟨_, _, 0, _, rfl⟩ ?_
    intro addr current _ written
    exact written.trans ⟨_, _, 1, _, rfl⟩

theorem processTc_writes (ran : processTc now msg tc senderIface index node = .ok result) :
    WritesTopology node result.1 := by
  have unchanged : WritesTopology node node := ⟨_, _, 0, _, rfl⟩
  unfold processTc at ran
  split at ran
  · exact Except.ok.inj ran ▸ unchanged
  · split at ran
    · exact Except.ok.inj ran ▸ unchanged
    · obtain ⟨updated, updating, same⟩ := bind_ok.mp ran
      rw [← Except.ok.inj same]
      exact updateTopologyTuples_writes updating

/-! ## Reception -/

theorem recvMsg_stages (ran : recvMsg config now iface srcAddr node msg = .ok result) :
    ∃ processed,
      (if processes config msg node.state = true then
        processMsg config now iface srcAddr msg
          (node.record (.processed msg.origAddr msg.msgSeqNum)) = .ok (processed, result.2)
      else processed = node ∧ result.2 = false) ∧
      (result.1 = processed ∨ WritesForwarding processed result.1) := by
  unfold recvMsg at ran
  split at ran
  · next dropped =>
    cases ran
    refine ⟨node, ?_, .inl rfl⟩
    have skipped : processes config msg node.state = false := by
      rcases dropped with dead | own
      · simp [processes, dead]
      · simp [processes, own]
    simp [skipped]
  · next handled =>
    simp only [not_or, Bool.not_eq_true] at handled
    obtain ⟨⟨processed, changed⟩, processing, same⟩ := bind_ok.mp ran
    rw [← Except.ok.inj same]
    refine ⟨processed, ?_, ?_⟩
    · unfold processUnlessDuplicated at processing
      cases fresh : node.state.findDupTuple msg.origAddr msg.msgSeqNum with
      | none =>
          rw [fresh] at processing
          rw [if_pos (by simp [processes, handled.1, handled.2, fresh])]
          exact processing
      | some known =>
          rw [fresh] at processing
          cases processing
          simp [processes, fresh]
    · dsimp only
      split
      · exact .inr (forwardDefault_writes _ _ _ _ _ _ _)
      · exact .inl rfl

/-- A packet without messages changes nothing; otherwise the routing table is computed after
the messages if one of them or a timer asks for it. -/
theorem recvOlsr_stages {pkt : Pkt} {node' : Node}
    (ran : recvOlsr config now iface srcAddr pkt node = .ok node') :
    (pkt.msgs = [] ∧ node' = node) ∨
    ∃ handled recalculateRoutes,
      recvMsgs config now (receiver config iface) srcAddr pkt.msgs (node, false) =
        .ok (handled, recalculateRoutes) ∧
      (if recalculateRoutes || handled.topologyChange then handled.recomputeRtable now
        else .ok handled) = .ok node' := by
  unfold recvOlsr at ran
  split at ran
  · next short =>
    exact .inl ⟨(Pkt.byteLength_lt_iff config.addrSize pkt).mp short, (Except.ok.inj ran).symm⟩
  · split at ran
    · cases ran
    · obtain ⟨⟨handled, recalculateRoutes⟩, loop, table⟩ := bind_ok.mp ran
      exact .inr ⟨handled, recalculateRoutes, loop, table⟩

theorem recvMsgs_keeps (invariant : Node → Prop)
    (next : ∀ msg node result, recvMsg config now iface srcAddr node msg = .ok result →
      invariant node → invariant result.1) {msgs : List Msg} {acc : Node × Bool}
    (ran : recvMsgs config now iface srcAddr msgs acc = .ok result) (holds : invariant acc.1) :
    invariant result.1 := by
  induction msgs generalizing acc with
  | nil => exact Except.ok.inj ran ▸ holds
  | cons msg rest ih =>
      obtain ⟨⟨node, changed⟩, first, later⟩ := bind_ok.mp ran
      have kept : invariant node := next msg acc.1 (node, changed) first holds
      exact ih later kept

end SyncFanet.OlsrOpt
