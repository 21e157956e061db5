import SyncFanet.Olsr.TupleKeys
import SyncFanet.OlsrOpt.AgentWrites

/-!
# Keys of the tuples of OLSROPT

`update_topology_tuples` looks for the tuples of a TC message before it adds any, so an
address that no tuple has and that is listed twice gets two. The sets have one tuple for
a key in every run where no processed TC message does that.
-/

set_option autoImplicit false

namespace SyncFanet.OlsrOpt

open Olsr

variable {node : Node} {now : Int} {msg : Msg} {config : Config} {index : Nat}
  {result : Node × Bool}

/-! ## TC messages -/

theorem refreshTopologyTuples_keyed (origAddr : NsAddr) (tc : Tc) (time : Int)
    (keyed : Keyed node) :
    Keyed (refreshTopologyTuples origAddr tc time node) ∧
      AllAt origAddr tc.ansn
        (refreshTopologyTuples origAddr tc time node).state.tupleKeys.topologies := by
  have renewed : ∀ key ∈ (refreshTopologyTuples origAddr tc time node).state.tupleKeys.topologies,
      (key.lastAddr = origAddr ∧ key.seq = tc.ansn) ∨
        (key.lastAddr ≠ origAddr ∧ key ∈ node.state.tupleKeys.topologies) := by
    intro key member
    obtain ⟨tuple, among, rfl⟩ := List.mem_map.mp member
    obtain ⟨old, kept, rfl⟩ := List.mem_map.mp among
    by_cases here : old.lastAddr = origAddr
    · exact .inl (by simp [here, TopologyTuple.key])
    · rw [if_neg here]
      exact .inr ⟨here, List.mem_map_of_mem (List.mem_filter.mp kept).1⟩
  have ends : ((refreshTopologyTuples origAddr tc time node).state.tupleKeys.topologies.map
      TopologyKey.ends).Sublist (node.state.tupleKeys.topologies.map TopologyKey.ends) := by
    have keeps : (TopologyKey.ends ∘ TopologyTuple.key ∘ fun tuple =>
        if tuple.lastAddr = origAddr then { tuple with seq := tc.ansn, time := time } else tuple) =
          TopologyKey.ends ∘ TopologyTuple.key := by
      funext tuple
      simp only [Function.comp_apply]
      split <;> rfl
    simp only [State.tupleKeys, refreshTopologyTuples, Node.mapState, Node.eraseTopologyTuples,
      List.map_map, keeps]
    exact List.filter_sublist.map _
  refine ⟨⟨{ keyed.unique with topologies := keyed.unique.topologies.sublist ends, oneSeq := ?_ },
    keyed.ids, keyed.fresh⟩, ?_⟩
  · intro first member second member' same
    rcases renewed first member with ⟨last, seq⟩ | ⟨other, old⟩ <;>
      rcases renewed second member' with ⟨last', seq'⟩ | ⟨other', old'⟩
    · exact seq.trans seq'.symm
    · exact absurd (same.symm.trans last) other'
    · exact absurd (same.trans last') other
    · exact keyed.unique.oneSeq first old second old' same
  · intro key member last
    rcases renewed key member with ⟨_, seq⟩ | ⟨other, _⟩
    · exact seq
    · exact absurd last other

theorem tupleKeys_addAll (now : Int) (origAddr : NsAddr) (ansn : Nat) (validity : Int)
    (index : Nat) (added : List NsAddr) (node : Node) :
    (added.foldl (fun node addr =>
        node.addTopologyTuple now addr origAddr ansn validity index) node).state.tupleKeys =
      { node.state.tupleKeys with
        topologies := node.state.tupleKeys.topologies ++
          added.map fun addr => { destAddr := addr, lastAddr := origAddr, seq := ansn } } := by
  induction added generalizing node with
  | nil => simp
  | cons addr rest ih =>
      rw [List.foldl_cons, ih, tupleKeys_addTopologyTuple]
      simp

theorem onePerKey_addAll_iff {origAddr : NsAddr} {ansn : Nat} {keys : TupleKeys}
    (unique : OnePerKey keys) (current : AllAt origAddr ansn keys.topologies)
    {added : List NsAddr}
    (absent : ∀ addr ∈ added, (addr, origAddr) ∉ keys.topologies.map TopologyKey.ends) :
    OnePerKey { keys with
        topologies := keys.topologies ++
          added.map fun addr => { destAddr := addr, lastAddr := origAddr, seq := ansn } } ↔
      added.Nodup := by
  constructor
  · intro after
    have ends := after.topologies
    rw [List.map_append, List.map_map] at ends
    exact List.Nodup.of_map _ (List.nodup_append.mp ends).2.1
  · intro once
    induction added generalizing keys with
    | nil => simpa using unique
    | cons addr rest ih =>
        obtain ⟨new, once⟩ := List.nodup_cons.mp once
        have unknown : TopologyKey.ends { destAddr := addr, lastAddr := origAddr, seq := ansn } ∉
            keys.topologies.map TopologyKey.ends := absent addr List.mem_cons_self
        have here := unique.addTopology unknown current
        have later := ih here (current.append addr) ?_ once
        · simpa using later
        · intro other member listed
          rw [List.map_append, List.mem_append] at listed
          rcases listed with old | last
          · exact absent other (List.mem_cons_of_mem _ member) old
          · have equal : other = addr := congrArg Prod.fst (List.mem_singleton.mp last)
            exact new (equal ▸ member)

/-- One call of `update_topology_tuples` keeps the keys apart exactly when it adds no
destination twice. -/
theorem updateTopologyTuples_onePerKey_iff {tc : Tc} {result : Node × Nat}
    (ran : updateTopologyTuples now msg tc index node = .ok result) (keyed : Keyed node) :
    OnePerKey result.1.state.tupleKeys ↔ (unlisted msg.origAddr tc node.state).Nodup := by
  rw [updateTopologyTuples_ok ran]
  split
  · next empty =>
    have none : unlisted msg.origAddr tc node.state = [] := by simp [unlisted, empty]
    rw [none]
    exact ⟨fun _ => List.nodup_nil, fun _ => keyed.unique⟩
  · next listed =>
    obtain ⟨refreshed, current⟩ := refreshTopologyTuples_keyed msg.origAddr tc
      (now + emfToSeconds msg.vtime) keyed
    rw [tupleKeys_addAll]
    refine onePerKey_addAll_iff refreshed.unique current ?_
    intro addr member ends
    obtain ⟨key, among, same⟩ := List.mem_map.mp ends
    obtain ⟨tuple, written, rfl⟩ := List.mem_map.mp among
    obtain ⟨old, kept, rfl⟩ := List.mem_map.mp written
    have unknown := (List.mem_filter.mp member).2
    simp only [TopologyKey.ends, TopologyTuple.key, Prod.mk.injEq] at same
    have dest : old.destAddr = addr ∧ old.lastAddr = msg.origAddr := by
      split at same
      · exact same
      · exact same
    simp only [Bool.not_eq_true', List.any_eq_false, List.mem_filter, decide_eq_true_eq,
      and_imp] at unknown
    exact unknown old (List.mem_filter.mp kept).1 dest.2 dest.1

theorem updateTopologyTuples_keyed {tc : Tc} {result : Node × Nat}
    (ran : updateTopologyTuples now msg tc index node = .ok result) (keyed : Keyed node)
    (once : (unlisted msg.origAddr tc node.state).Nodup) :
    Keyed result.1 := by
  have same := sameNeighborhood_of_topology (updateTopologyTuples_writes ran)
  refine ⟨(updateTopologyTuples_onePerKey_iff ran keyed).mpr once, ?_, ?_⟩
  · rw [same.linkset]
    exact keyed.ids
  · intro link member
    exact Nat.lt_of_lt_of_le (keyed.fresh link (same.linkset ▸ member)) same.nextId

/-- Whether the message adds a topology tuple twice once it is processed. -/
def addsTwice (now : Int) (srcAddr : NsAddr) (msg : Msg) (state : State) : Bool :=
  match msg.body with
  | .tc tc =>
      (state.findSymLinkTuple srcAddr now).isSome &&
        (state.findNewerTopologyTuple msg.origAddr tc.ansn).isNone &&
        decide (¬ (unlisted msg.origAddr tc state).Nodup)
  | _ => false

theorem processTc_keyed {tc : Tc} {senderIface : NsAddr}
    (ran : processTc now msg tc senderIface index node = .ok result) (body : msg.body = .tc tc)
    (once : addsTwice now senderIface msg node.state = false) (keyed : Keyed node) :
    Keyed result.1 := by
  unfold processTc at ran
  simp only [addsTwice, body] at once
  split at ran
  · rw [← Except.ok.inj ran]
    exact keyed
  · next symmetric =>
    split at ran
    · rw [← Except.ok.inj ran]
      exact keyed
    · next newest =>
      obtain ⟨updated, updating, same⟩ := bind_ok.mp ran
      rw [← Except.ok.inj same]
      exact updateTopologyTuples_keyed updating keyed (by simpa [symmetric, newest] using once)

/-! ## Runs -/

theorem processHello_keyed {hello : Hello} {receiverIface senderIface : NsAddr}
    (ran : processHello config now msg hello receiverIface senderIface index node = .ok result)
    (keyed : Keyed node) : Keyed result.1 := by
  obtain ⟨sensed, linked, populated, changed, computed, first, second, third, fourth, _⟩ :=
    processHello_stages ran
  have willing : Keyed (sensed.mapState (populateNbset hello msg.origAddr)) :=
    (linkSensingWith_keyed first keyed).drops (.of_same rfl rfl rfl rfl (le_refl _))
  have populating : Keyed populated := populateNb2hopsetWith_keyed second willing
  have computing : Keyed computed := by
    split at third
    · exact populating.drops (recomputeMprs_dropsKeys third)
    · exact Except.ok.inj third ▸ populating
  exact populateMprselset_keyed fourth computing

theorem recvMsg_keyed {iface : Iface} {srcAddr : NsAddr}
    (once : (processes config msg node.state && addsTwice now srcAddr msg node.state) = false)
    (ran : recvMsg config now iface srcAddr node msg = .ok result) (keyed : Keyed node) :
    Keyed result.1 := by
  obtain ⟨processed, processing, forwarding⟩ := recvMsg_stages ran
  have kept : Keyed processed := by
    split at processing
    · next taken =>
      have recorded : Keyed (node.record (.processed msg.origAddr msg.msgSeqNum)) :=
        keyed.drops (.of_same rfl rfl rfl rfl (le_refl _))
      rw [taken, Bool.true_and] at once
      unfold processMsg at processing
      split at processing
      · exact processHello_keyed processing recorded
      · next tc body => exact processTc_keyed processing body once recorded
      · obtain ⟨rfl, _⟩ := Prod.mk.inj (Except.ok.inj processing)
        exact recorded.drops (processMid_dropsKeys _ _ _ _ _ _)
      · obtain ⟨rfl, _⟩ := Prod.mk.inj (Except.ok.inj processing)
        exact recorded
    · exact processing.1 ▸ keyed
  rcases forwarding with same | written
  · exact same ▸ kept
  · exact kept.drops (.of_forwarding written)

/-- The node after a message, whatever the message adds to `recalculateRoutes`. -/
def afterMsg (config : Config) (now : Int) (iface : Iface) (srcAddr : NsAddr) (node : Node)
    (msg : Msg) : Except Fault Node :=
  (recvMsg config now iface srcAddr node msg).map Prod.fst

/-- Whether no message that the event processes adds a topology tuple twice. -/
def addsOnce (config : Config) (now : Int) (event : Event) (node : Node) : Bool :=
  match event with
  | .recv iface srcAddr pkt =>
      eachMsg (afterMsg config now (receiver config iface) srcAddr)
        (fun msg node => !(processes config msg node.state && addsTwice now srcAddr msg node.state))
        pkt.msgs node
  | _ => true

theorem recvMsgs_keyed {iface : Iface} {srcAddr : NsAddr} {msgs : List Msg} {acc : Node × Bool}
    (once : eachMsg (afterMsg config now iface srcAddr)
      (fun msg node => !(processes config msg node.state && addsTwice now srcAddr msg node.state))
      msgs acc.1 = true) (ran : recvMsgs config now iface srcAddr msgs acc = .ok result)
    (keyed : Keyed acc.1) :
    Keyed result.1 := by
  induction msgs generalizing acc with
  | nil => exact Except.ok.inj ran ▸ keyed
  | cons msg rest ih =>
      obtain ⟨⟨node, changed⟩, first, later⟩ := bind_ok.mp ran
      have after : afterMsg config now iface srcAddr acc.1 msg = .ok node := by
        rw [afterMsg, first]
        rfl
      simp only [eachMsg, after, Bool.and_eq_true, Bool.not_eq_true'] at once
      have here : Keyed node := recvMsg_keyed once.1 first keyed
      exact ih once.2 later here

theorem reached_keyed {clock : Int}
    (reached : Reached recvOlsr config
      (fun now event node => addsOnce config now event node = true) clock node) : Keyed node := by
  induction reached with
  | initial time maxTime => exact initialNode_keyed config time maxTime
  | step _ _ once ran keyed =>
      refine stepWith_keyed ran keyed ?_
      rintro iface srcAddr pkt rfl received
      rcases recvOlsr_stages received with ⟨_, rfl⟩ | ⟨handled, recalculateRoutes, loop, table⟩
      · exact keyed
      · simp only [addsOnce] at once
        have kept : Keyed handled := recvMsgs_keyed once loop keyed
        split at table
        · exact kept.drops (recomputeRtable_dropsKeys table)
        · exact Except.ok.inj table ▸ kept

end SyncFanet.OlsrOpt
