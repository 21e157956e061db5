import Mathlib.Data.Multiset.AddSub
import Mathlib.Data.Multiset.ZeroCons
import Mathlib.Algebra.Order.Group.Multiset
import Mathlib.Tactic.Abel
import SyncFanet.Olsr.DuplicateSet
import SyncFanet.Olsr.Lifecycle
import SyncFanet.Olsr.LinkInvariants

/-!
# Timers own tuples

A tuple is freed by the destructor of its timer. The timers of the queue own exactly
the tuples of the sets and the detached ones, each once.
-/

set_option autoImplicit false

namespace SyncFanet.Olsr

inductive TupleKind where
  | dup
  | link
  | nb2hop
  | mprsel
  | topology
  | ifaceAssoc
  deriving DecidableEq, Repr

/-- A tuple, by its kind and its identity. -/
abbrev TupleRef := TupleKind × TupleId

/-- The `tuple_` of a timer. -/
def Timer.tuple : Timer → Option TupleRef
  | .hello | .tc | .mid | .msg => none
  | .dup id => some (.dup, id)
  | .link id _ => some (.link, id)
  | .nb2hop id => some (.nb2hop, id)
  | .mprsel id => some (.mprsel, id)
  | .topology id => some (.topology, id)
  | .ifaceAssoc id => some (.ifaceAssoc, id)

def ownedBy (queue : List (Int × Timer)) : Multiset TupleRef :=
  (queue.filterMap fun entry => entry.2.tuple : List TupleRef)

def refs {Tuple : Type} (kind : TupleKind) (id : Tuple → TupleId) (tuples : List Tuple) :
    Multiset TupleRef :=
  (tuples.map fun tuple => (kind, id tuple) : List TupleRef)

/-- The associations learnt from MID messages; the own ones have the first identities. -/
def learntAssocs (config : Config) (state : State) : List IfaceAssocTuple :=
  state.ifaceassocset.filter fun tuple => config.ifaces.length ≤ tuple.id

/-- The tuples of the sets. -/
def attached (config : Config) (state : State) : Multiset TupleRef :=
  refs .dup DupTuple.id state.dupset + refs .link LinkTuple.id state.linkset +
    refs .nb2hop Nb2hopTuple.id state.nb2hopset + refs .mprsel MprselTuple.id state.mprselset +
    refs .topology TopologyTuple.id state.topologyset +
    refs .ifaceAssoc IfaceAssocTuple.id (learntAssocs config state)

def detached (node : Node) : Multiset TupleRef :=
  refs .nb2hop Nb2hopTuple.id node.detachedNb2hop +
    refs .mprsel MprselTuple.id node.detachedMprsel +
    refs .topology TopologyTuple.id node.detachedTopology

def tuplesOf (config : Config) (node : Node) : Multiset TupleRef :=
  attached config node.state + detached node

def ownAssocs (config : Config) (state : State) : List TupleId :=
  (state.ifaceassocset.map IfaceAssocTuple.id).filter fun id => id < config.ifaces.length

structure Owned (config : Config) (out : Multiset TupleRef) (node : Node) : Prop where
  balanced : out + ownedBy node.timerQueue = tuplesOf config node
  unique : (tuplesOf config node).Nodup
  bounded : ∀ ref ∈ tuplesOf config node, config.ifaces.length ≤ ref.2 ∧ ref.2 < node.nextId
  allocated : config.ifaces.length ≤ node.nextId
  own : ownAssocs config node.state = List.range config.ifaces.length

structure SameTuples (config : Config) (node node' : Node) : Prop where
  owned : ownedBy node'.timerQueue = ownedBy node.timerQueue
  tuples : tuplesOf config node' = tuplesOf config node
  nextId : node'.nextId = node.nextId
  own : ownAssocs config node'.state = ownAssocs config node.state

section

variable {config : Config} {out : Multiset TupleRef} {node node' : Node}

variable {now validity : Int} {Tuple : Type} {timer : Timer} {index : Nat} {kind : TupleKind}
  {msg : Msg} {addr origAddr senderIface : NsAddr}

variable {id : Tuple → TupleId} {tuples : List Tuple} {tuple : Tuple} {key : Int} {ref : TupleRef}
  {srcAddr : NsAddr}

theorem SameTuples.refl (config : Config) (node : Node) : SameTuples config node node :=
  ⟨rfl, rfl, rfl, rfl⟩

theorem SameTuples.trans {first second third : Node} (left : SameTuples config first second)
    (right : SameTuples config second third) : SameTuples config first third where
  owned := right.owned.trans left.owned
  tuples := right.tuples.trans left.tuples
  nextId := right.nextId.trans left.nextId
  own := right.own.trans left.own

theorem Owned.same (owned : Owned config out node) (same : SameTuples config node node') :
    Owned config out node' where
  balanced := by
    rw [same.owned, same.tuples]
    exact owned.balanced
  unique := by
    rw [same.tuples]
    exact owned.unique
  bounded := by
    rw [same.tuples, same.nextId]
    exact owned.bounded
  allocated := by
    rw [same.nextId]
    exact owned.allocated
  own := same.own.trans owned.own

/-! ## The queue -/

theorem insertTimer_perm (key : Int) (timer : Timer) (queue : List (Int × Timer)) :
    (insertTimer key timer queue).Perm ((key, timer) :: queue) := by
  induction queue with
  | nil => exact List.Perm.refl _
  | cons head tail ih =>
      unfold insertTimer
      split
      · exact (ih.cons head).trans (List.Perm.swap _ _ _)
      · exact List.Perm.refl _

theorem ownedBy_insertTimer (key : Int) (timer : Timer) (queue : List (Int × Timer)) :
    ownedBy (insertTimer key timer queue) = ownedBy ((key, timer) :: queue) :=
  Multiset.coe_eq_coe.mpr ((insertTimer_perm key timer queue).filterMap _)

theorem ownedBy_cons (queue : List (Int × Timer)) (owns : timer.tuple = some ref) :
    ownedBy ((key, timer) :: queue) = ref ::ₘ ownedBy queue := by
  simp [ownedBy, owns]

theorem ownedBy_cons_none (queue : List (Int × Timer)) (owns : timer.tuple = none) :
    ownedBy ((key, timer) :: queue) = ownedBy queue := by
  simp [ownedBy, owns]

theorem ownedBy_insertTimer_none (owns : timer.tuple = none) (key : Int)
    (queue : List (Int × Timer)) : ownedBy (insertTimer key timer queue) = ownedBy queue :=
  (ownedBy_insertTimer key timer queue).trans (ownedBy_cons_none _ owns)

theorem schedule_sameTuples (node : Node) (key : Int) (timer : Timer) (owns : timer.tuple = none) :
    SameTuples config node (node.schedule key timer) :=
  ⟨ownedBy_insertTimer_none owns key node.timerQueue, rfl, rfl, rfl⟩

theorem Owned.rearm (owned : Owned config (ref ::ₘ out) node) (key : Int)
    (owns : timer.tuple = some ref) :
    Owned config out (node.schedule key timer) where
  balanced := by
    have queue : ownedBy (node.schedule key timer).timerQueue = ref ::ₘ ownedBy node.timerQueue :=
      (ownedBy_insertTimer key timer node.timerQueue).trans (ownedBy_cons _ owns)
    rw [queue, Multiset.add_cons, ← Multiset.cons_add]
    exact owned.balanced
  unique := owned.unique
  bounded := owned.bounded
  allocated := owned.allocated
  own := owned.own

theorem Owned.add (owned : Owned config out node) (key : Int)
    (owns : timer.tuple = some (kind, node.nextId))
    (queue : node'.timerQueue = insertTimer key timer node.timerQueue)
    (tuples : tuplesOf config node' = (kind, node.nextId) ::ₘ tuplesOf config node)
    (nextId : node'.nextId = node.nextId + 1)
    (own : ownAssocs config node'.state = ownAssocs config node.state) :
    Owned config out node' where
  balanced := by
    rw [queue, ownedBy_insertTimer, ownedBy_cons _ owns, Multiset.add_cons, owned.balanced, tuples]
  unique := by
    rw [tuples, Multiset.nodup_cons]
    refine ⟨fun member => ?_, owned.unique⟩
    exact absurd (owned.bounded _ member).2 (lt_irrefl _)
  bounded := by
    rw [tuples, nextId]
    intro ref member
    rcases Multiset.mem_cons.mp member with rfl | member
    · exact ⟨owned.allocated, Nat.lt_succ_self _⟩
    · exact ⟨(owned.bounded ref member).1, Nat.lt_succ_of_lt (owned.bounded ref member).2⟩
  allocated := by
    rw [nextId]
    exact Nat.le_succ_of_le owned.allocated
  own := own.trans owned.own

theorem Owned.free (owned : Owned config (ref ::ₘ out) node)
    (queue : ownedBy node'.timerQueue = ownedBy node.timerQueue)
    (tuples : tuplesOf config node = ref ::ₘ tuplesOf config node')
    (nextId : node'.nextId = node.nextId)
    (own : ownAssocs config node'.state = ownAssocs config node.state) :
    Owned config out node' where
  balanced := by
    have balanced := owned.balanced
    rw [tuples, Multiset.cons_add] at balanced
    rw [queue]
    exact (Multiset.cons_inj_right ref).mp balanced
  unique := by
    have unique := owned.unique
    rw [tuples] at unique
    exact (Multiset.nodup_cons.mp unique).2
  bounded := by
    intro ref' member
    rw [nextId]
    exact owned.bounded ref' (tuples ▸ Multiset.mem_cons_of_mem member)
  allocated := by
    rw [nextId]
    exact owned.allocated
  own := own.trans owned.own

/-! ## Writes that keep identities -/

theorem refs_congr {tuples' : List Tuple} (same : tuples'.map id = tuples.map id) :
    refs kind id tuples' = refs kind id tuples := by
  have pairs := congrArg (List.map fun other => (kind, other)) same
  simp only [List.map_map] at pairs
  exact congrArg (fun pairs : List TupleRef => (pairs : Multiset TupleRef)) pairs

theorem refs_append (kind : TupleKind) (id : Tuple → TupleId) (tuples : List Tuple)
    (added : List Tuple) :
    refs kind id (tuples ++ added) = refs kind id tuples + refs kind id added := by
  simp [refs]

theorem refs_singleton (kind : TupleKind) (id : Tuple → TupleId) (tuple : Tuple) :
    refs kind id [tuple] = {(kind, id tuple)} := rfl

theorem refs_filter_add (kind : TupleKind) (id : Tuple → TupleId) (moved : Tuple → Bool)
    (tuples : List Tuple) :
    refs kind id (tuples.filter fun tuple => !moved tuple) + refs kind id (tuples.filter moved) =
      refs kind id tuples := by
  have perm := (List.filter_append_perm moved tuples).map fun tuple => (kind, id tuple)
  rw [add_comm, ← refs_append]
  exact Multiset.coe_eq_coe.mpr perm

theorem refs_eraseP (kind : TupleKind) (id : Tuple → TupleId) (member : tuple ∈ tuples) :
    refs kind id tuples =
      (kind, id tuple) ::ₘ refs kind id (tuples.eraseP fun other => id other = id tuple) := by
  induction tuples with
  | nil => cases member
  | cons head tail ih =>
      by_cases here : id head = id tuple
      · simp [refs, here]
      · rcases List.mem_cons.mp member with rfl | member
        · exact absurd rfl here
        · have rest := ih member
          simp only [refs] at rest
          simp only [refs, List.map_cons, here, decide_false, Bool.false_eq_true,
            not_false_eq_true, List.eraseP_cons_of_neg, ← Multiset.cons_coe]
          rw [rest, Multiset.cons_swap]

theorem eraseP_of_absent (absent : (kind, id tuple) ∉ refs kind id tuples) :
    (tuples.eraseP fun other => id other = id tuple) = tuples := by
  refine List.eraseP_of_forall_not ?_
  intro other member same
  refine absent (Multiset.mem_coe.mpr (List.mem_map.mpr ⟨other, member, ?_⟩))
  exact congrArg (Prod.mk kind) (of_decide_eq_true same)

/-! ## HELLO messages -/

theorem sameTuples_of_links {linkset : List LinkTuple} (nbset : List NbTuple)
    (ids : linkset.map LinkTuple.id = node.state.linkset.map LinkTuple.id) :
    SameTuples config node
      { node with state := { node.state with linkset := linkset, nbset := nbset } } := by
  refine ⟨rfl, ?_, rfl, rfl⟩
  simp only [tuplesOf, attached, learntAssocs, refs_congr ids]
  rfl

theorem ids_updateLinkTuple (state : State) (link : LinkTuple) :
    (state.updateLinkTuple link).linkset.map LinkTuple.id = state.linkset.map LinkTuple.id := by
  refine updateFirst.map_key_of_found (fun other here => ?_) state.linkset
  exact (of_decide_eq_true here).symm

theorem writeSensed_links (config : Config) (now : Int) (willingness : Nat) (link : LinkTuple)
    (updated : Bool) (state : State) :
    ∃ linkset nbset, writeSensed config now willingness link updated state =
        { state with linkset := linkset, nbset := nbset } ∧
      linkset.map LinkTuple.id = state.linkset.map LinkTuple.id := by
  unfold writeSensed
  split
  · obtain ⟨nbset, written⟩ :=
      updatedLinkTuple_writes config now link willingness (state.updateLinkTuple link)
    exact ⟨_, nbset, written, ids_updateLinkTuple state link⟩
  · exact ⟨_, _, rfl, ids_updateLinkTuple state link⟩

theorem linkSensingWith_owned {knownUpdated : Bool} {vtime : Nat} {hello : Hello}
    {receiverIface : NsAddr} {changed : Bool}
    (ran : linkSensingWith knownUpdated config now vtime hello receiverIface senderIface index
      node = .ok (node', changed)) (owned : Owned config out node) : Owned config out node' := by
  rcases linkSensingWith_cases ran with
    ⟨known, link, found, sensed, rfl⟩ | ⟨_, _, created, link, updated, rfl, sensed, rfl⟩
  · obtain ⟨linkset, nbset, written, ids⟩ :=
      writeSensed_links config now hello.willingness link changed node.state
    rw [written]
    exact owned.same (sameTuples_of_links nbset ids)
  · obtain ⟨linkset, nbset, written, ids⟩ := writeSensed_links config now hello.willingness link
      updated (addLinkTuple now (newLinkTuple node.nextId now (emfToSeconds vtime) receiverIface
        senderIface index) hello.willingness node.state)
    have id : link.id = node.nextId := (senseLink_same sensed).id
    have owns : (Timer.link link.id true).tuple = some (.link, node.nextId) := by
      rw [id]
      rfl
    refine owned.add _ owns rfl ?_ rfl ?_
    · simp only [Node.scheduleTuple, Node.schedule, written]
      have added : refs .link LinkTuple.id linkset =
          refs .link LinkTuple.id node.state.linkset + {(.link, node.nextId)} := by
        rw [refs_congr ids, addLinkTuple, addNbTuple, State.insertNbTuple, State.eraseNbTuple,
          State.insertLinkTuple, refs_append]
        rfl
      simp only [tuplesOf, attached, learntAssocs, detached, added, ← Multiset.singleton_add,
        addLinkTuple, addNbTuple, State.insertNbTuple, State.eraseNbTuple, State.insertLinkTuple]
      abel
    · simp only [Node.scheduleTuple, Node.schedule, written]
      rfl

theorem populateAddr_owned {nbType : Nat} {acc : Node × Bool} (owned : Owned config out acc.1) :
    Owned config out (populateAddr config now validity origAddr nbType acc addr).1 := by
  unfold populateAddr
  dsimp only
  split
  · split
    · exact owned
    · split
      · refine owned.add _ rfl rfl ?_ rfl rfl
        simp only [Node.addNb2hopTuple, Node.scheduleTuple, Node.schedule, tuplesOf, attached,
          learntAssocs, detached, refs_append, refs_singleton, ← Multiset.singleton_add]
        abel
      · refine owned.same ⟨rfl, ?_, rfl, rfl⟩
        have keeps : ∀ tuple : Nb2hopTuple,
            Nb2hopTuple.id { tuple with time := now + validity } = tuple.id := fun _ => rfl
        simp only [Node.mapState, State.updateNb2hopTuple, tuplesOf, attached, learntAssocs,
          detached, refs_congr (updateFirst.map_key keeps acc.1.state.nb2hopset)]
  · split
    · refine owned.same ⟨rfl, ?_, rfl, rfl⟩
      have moved := refs_filter_add .nb2hop Nb2hopTuple.id (fun tuple =>
        decide (tuple.nbMainAddr = origAddr ∧ tuple.nb2hopAddr = addr)) acc.1.state.nb2hopset
      simp only [Node.eraseNb2hopTuples, tuplesOf, attached, learntAssocs, detached, refs_append,
        ← moved]
      abel
    · exact owned

theorem recomputeMprs_sameTuples (ran : node.recomputeMprs config = .ok node') :
    SameTuples config node node' := by
  obtain ⟨_, _, rfl⟩ := recomputeMprs_writes ran
  exact ⟨rfl, rfl, rfl, rfl⟩

theorem recomputeRtable_sameTuples (ran : node.recomputeRtable now = .ok node') :
    SameTuples config node node' := by
  obtain ⟨_, _, rfl⟩ := recomputeRtable_writes ran
  exact ⟨rfl, rfl, rfl, rfl⟩

theorem populateSelector_owned (owned : Owned config out node) :
    Owned config out (populateSelector config now validity origAddr node addr) := by
  unfold populateSelector
  split
  · split
    · refine owned.add _ rfl rfl ?_ rfl rfl
      simp only [Node.addMprselTuple, Node.scheduleTuple, Node.schedule, Node.record,
        Node.nextAnsn, tuplesOf, attached, learntAssocs, detached, refs_append, refs_singleton,
        ← Multiset.singleton_add]
      abel
    · refine owned.same ⟨rfl, ?_, rfl, rfl⟩
      have keeps : ∀ tuple : MprselTuple,
          MprselTuple.id { tuple with time := now + validity } = tuple.id := fun _ => rfl
      simp only [Node.mapState, State.updateMprselTuple, tuplesOf, attached, learntAssocs,
        detached, refs_congr (updateFirst.map_key keeps node.state.mprselset)]
  · exact owned

theorem processHello_owned {hello : Hello} {receiverIface : NsAddr}
    (ran : processHello config now msg hello receiverIface senderIface index node = .ok node')
    (owned : Owned config out node) : Owned config out node' := by
  obtain ⟨sensed, populated, computed, linked, changed, first, second, third, fourth⟩ :=
    processHello_stages ran
  have willing : SameTuples config sensed (sensed.mapState (populateNbset hello msg.origAddr)) :=
    ⟨rfl, rfl, rfl, rfl⟩
  have linkSensed := (linkSensingWith_owned first owned).same willing
  have populatedOwned : Owned config out populated := by
    have result := populateNb2hopsetWith_ok second
    rw [show populated = (populated, changed).1 from rfl, result]
    exact populateAll_keeps (fun acc => Owned config out acc.1) linkSensed
      fun acc holds group _ addr _ => populateAddr_owned holds
  exact populateMprselset_keeps (Owned config out)
    (populatedOwned.same (recomputeMprs_sameTuples third))
    (fun _ _ _ _ _ _ holds => populateSelector_owned holds) fourth

/-! ## TC and MID messages -/

theorem advertise_owned {ansn : Nat} (owned : Owned config out node) :
    Owned config out (advertise now origAddr ansn validity index node addr) := by
  unfold advertise
  split
  · refine owned.same ⟨rfl, ?_, rfl, rfl⟩
    have keeps : ∀ tuple : TopologyTuple,
        TopologyTuple.id { tuple with time := now + validity } = tuple.id := fun _ => rfl
    simp only [Node.mapState, State.updateTopologyTuple, tuplesOf, attached, learntAssocs,
      detached, refs_congr (updateFirst.map_key keeps node.state.topologyset)]
  · refine owned.add _ rfl rfl ?_ rfl rfl
    simp only [Node.addTopologyTuple, Node.scheduleTuple, Node.schedule, tuplesOf, attached,
      learntAssocs, detached, refs_append, refs_singleton, ← Multiset.singleton_add]
    abel

theorem eraseTopologyTuples_sameTuples (erased : TopologyTuple → Bool) :
    SameTuples config node (node.eraseTopologyTuples erased) := by
  refine ⟨rfl, ?_, rfl, rfl⟩
  have moved := refs_filter_add .topology TopologyTuple.id erased node.state.topologyset
  simp only [Node.eraseTopologyTuples, tuplesOf, attached, learntAssocs, detached, refs_append,
    ← moved]
  abel

theorem processTc_owned {tc : Tc} (ran : processTc now msg tc senderIface index node = .ok node')
    (owned : Owned config out node) : Owned config out node' := by
  unfold processTc at ran
  split at ran
  · exact Except.ok.inj ran ▸ owned
  · split at ran
    · exact Except.ok.inj ran ▸ owned
    · split at ran
      · cases ran
      · rw [← Except.ok.inj ran]
        refine foldl_keeps _ (Owned config out) ?_ fun addr node _ holds => advertise_owned holds
        exact owned.same (eraseTopologyTuples_sameTuples _)

theorem associate_owned (owned : Owned config out node) :
    Owned config out (associate now origAddr validity index node addr) := by
  unfold associate
  dsimp only
  split
  · have keeps : ∀ tuple : IfaceAssocTuple, IfaceAssocTuple.id
        (if decide (tuple.ifaceAddr = addr ∧ tuple.mainAddr = origAddr) = true
          then { tuple with time := now + validity } else tuple) = tuple.id := by
      intro tuple
      split
      · rfl
      · rfl
    refine owned.same ⟨rfl, ?_, rfl, ?_⟩
    · simp only [Node.mapState, tuplesOf, attached, learntAssocs, detached, refs, List.filter_map,
        List.map_map, Function.comp_def, keeps]
    · simp only [Node.mapState, ownAssocs, List.map_map, Function.comp_def, keeps]
  · refine owned.add _ rfl rfl ?_ rfl ?_
    · simp only [Node.addIfaceassocTuple, Node.scheduleTuple, Node.schedule, tuplesOf, attached,
        learntAssocs, detached, List.filter_append, refs_append, ← Multiset.singleton_add]
      rw [List.filter_singleton]
      simp only [decide_eq_true owned.allocated, cond_true, refs_singleton]
      abel
    · simp [Node.addIfaceassocTuple, Node.scheduleTuple, Node.schedule, ownAssocs,
        owned.allocated]

theorem processMid_owned {mid : Mid} (owned : Owned config out node) :
    Owned config out (processMid now msg mid senderIface index node) := by
  unfold processMid
  split
  · exact owned
  · exact foldl_keeps _ (Owned config out) owned fun addr node _ holds => associate_owned holds

/-! ## Forwarding and reception -/

theorem enqueMsg_sameTuples (config : Config) (now : Int) (msg : Msg) (node : Node) :
    SameTuples config node (node.enqueMsg config now msg) := by
  have drawn : SameTuples config node
      { (node.drawJitter config).2 with msgs := (node.drawJitter config).2.msgs ++ [msg] } :=
    ⟨rfl, rfl, rfl, rfl⟩
  have scheduled := drawn.trans
    (schedule_sameTuples _ (now + (node.drawJitter config).1) .msg rfl)
  exact ⟨scheduled.owned, scheduled.tuples, scheduled.nextId, scheduled.own⟩

theorem forwardDefault_owned {dupTuple : Option DupTuple} {localIface : NsAddr}
    (owned : Owned config out node) :
    Owned config out (forwardDefault config now msg dupTuple localIface srcAddr node) := by
  rcases forwardDefault_cases config now msg dupTuple localIface srcAddr node with
    same | ⟨_, sent, sending, forwarded⟩
  · rw [same]
    exact owned
  · have kept : Owned config out sent := by
      rw [sending]
      split
      · exact owned.same (enqueMsg_sameTuples config now _ node)
      · exact owned
    rw [forwarded]
    cases dupTuple with
    | some old =>
        refine kept.same ⟨rfl, ?_, rfl, rfl⟩
        have keeps : ∀ tuple : DupTuple, DupTuple.id { tuple with
            time := now + dupHoldTime
            retransmitted := retransmits msg srcAddr node.state
            ifaceList := tuple.ifaceList ++ [localIface] } = tuple.id := fun _ => rfl
        simp only [Node.mapState, State.updateDupTuple, tuplesOf, attached, learntAssocs, detached,
          refs_congr (updateFirst.map_key keeps sent.state.dupset)]
    | none =>
        refine kept.add _ rfl rfl ?_ rfl rfl
        simp only [Node.addDupTuple, Node.scheduleTuple, Node.schedule, tuplesOf, attached,
          learntAssocs, detached, refs_append, refs_singleton, ← Multiset.singleton_add]
        abel

theorem recvMsg_owned {iface : Iface}
    (ran : recvMsg config now iface srcAddr node msg = .ok node') (owned : Owned config out node) :
    Owned config out node' := by
  rcases recvMsg_stages ran with ⟨_, rfl⟩ | ⟨_, processed, processing, rfl⟩
  · exact owned
  · have kept : Owned config out processed := by
      unfold processUnlessDuplicated at processing
      split at processing
      · have recorded : Owned config out (node.record (.processed msg.origAddr msg.msgSeqNum)) :=
          owned.same ⟨rfl, rfl, rfl, rfl⟩
        unfold processMsg at processing
        split at processing
        · exact processHello_owned processing recorded
        · exact processTc_owned processing recorded
        · exact Except.ok.inj processing ▸ processMid_owned recorded
        · exact Except.ok.inj processing ▸ recorded
      · exact Except.ok.inj processing ▸ owned
    split
    · exact forwardDefault_owned kept
    · exact kept

theorem recvOlsr_owned {iface : Iface} {pkt : Pkt}
    (ran : recvOlsr config now iface srcAddr pkt node = .ok node') (owned : Owned config out node) :
    Owned config out node' := by
  rcases recvOlsr_stages ran with ⟨_, rfl⟩ | ⟨handled, loop, table⟩
  · exact owned
  · have processed : Owned config out handled :=
      foldlM_seen loop (fun _ node => Owned config out node) owned
        fun _ msg node node' _ holds ran => recvMsg_owned ran holds
    exact processed.same (recomputeRtable_sameTuples table)

/-! ## Link failures -/

theorem eraseMprselTuples_sameTuples (mainAddr : NsAddr) :
    SameTuples config node (node.eraseMprselTuples mainAddr) := by
  have moved := refs_filter_add .mprsel MprselTuple.id
    (fun tuple => decide (tuple.mainAddr = mainAddr)) node.state.mprselset
  unfold Node.eraseMprselTuples
  dsimp only
  split
  · refine ⟨rfl, ?_, rfl, rfl⟩
    simp only [Node.record, tuplesOf, attached, learntAssocs, detached, refs_append, ← moved]
    abel
  · refine ⟨rfl, ?_, rfl, rfl⟩
    simp only [tuplesOf, attached, learntAssocs, detached, refs_append, ← moved]
    abel

theorem nbLoss_sameTuples {link : LinkTuple} (ran : nbLoss config now link node = .ok node') :
    SameTuples config node node' := by
  obtain ⟨computed, mprs, table⟩ := nbLoss_stages ran
  obtain ⟨nbset, written⟩ := updatedLinkTuple_writes config now link willDefault node.state
  have lost : SameTuples config node (lossErased config now link node) := by
    have linked : SameTuples config node
        (node.mapState (updatedLinkTuple config now link willDefault)) := by
      unfold Node.mapState
      rw [written]
      exact ⟨rfl, rfl, rfl, rfl⟩
    have erased : SameTuples config (node.mapState (updatedLinkTuple config now link willDefault))
        ((node.mapState (updatedLinkTuple config now link willDefault)).eraseNb2hopTuplesOf
          (node.state.getMainAddr link.nbIfaceAddr)) := by
      refine ⟨rfl, ?_, rfl, rfl⟩
      have moved := refs_filter_add .nb2hop Nb2hopTuple.id
        (fun tuple => decide (tuple.nbMainAddr = node.state.getMainAddr link.nbIfaceAddr))
        (node.mapState (updatedLinkTuple config now link willDefault)).state.nb2hopset
      simp only [Node.eraseNb2hopTuplesOf, tuplesOf, attached, learntAssocs, detached, refs_append,
        ← moved]
      abel
    exact (linked.trans erased).trans (eraseMprselTuples_sameTuples _)
  exact (lost.trans (recomputeMprs_sameTuples mprs)).trans (recomputeRtable_sameTuples table)

theorem macFailed_sameTuples {destAddr : NsAddr}
    (ran : macFailed config now destAddr node = .ok node') : SameTuples config node node' := by
  unfold macFailed at ran
  split at ran
  · exact Except.ok.inj ran ▸ SameTuples.refl config node
  · split at ran
    · exact Except.ok.inj ran ▸ SameTuples.refl config node
    · split at ran
      · exact Except.ok.inj ran ▸ SameTuples.refl config node
      · exact (sameTuples_of_links node.state.nbset (ids_updateLinkTuple node.state _)).trans
          (nbLoss_sameTuples ran)

/-! ## Messages of the node itself -/

theorem sendHello_sameTuples (ran : sendHello config now node = .ok node') :
    SameTuples config node node' := by
  obtain ⟨msg, hello, rfl, -⟩ := sendHello_ok ran
  have counted : SameTuples config node node.nextMsgSeq := ⟨rfl, rfl, rfl, rfl⟩
  exact counted.trans (enqueMsg_sameTuples config now _ _)

theorem sendTc_sameTuples (ran : sendTc config now node = .ok node') :
    SameTuples config node node' := by
  obtain ⟨msg, tc, rfl, -⟩ := sendTc_ok ran
  have announced : SameTuples config node (node.nextMsgSeq.record (.sentTc tc)) :=
    ⟨rfl, rfl, rfl, rfl⟩
  exact announced.trans (enqueMsg_sameTuples config now _ _)

theorem sendMid_sameTuples (config : Config) (now : Int) (node : Node) :
    SameTuples config node (sendMid config now node) := by
  rcases sendMid_cases config now node with same | ⟨msg, -, sent⟩
  · rw [same]
    exact SameTuples.refl config node
  · rw [sent]
    have counted : SameTuples config node node.nextMsgSeq := ⟨rfl, rfl, rfl, rfl⟩
    exact counted.trans (enqueMsg_sameTuples config now _ _)

theorem sendPkts_sameTuples (config : Config) (numPkts : Nat) (node : Node) :
    SameTuples config node (sendPkts numPkts node) := by
  induction numPkts generalizing node with
  | zero => exact SameTuples.refl config node
  | succ numPkts ih =>
      have sent : SameTuples config node (sendOnePkt node) := ⟨rfl, rfl, rfl, rfl⟩
      exact sent.trans (ih (sendOnePkt node))

/-! ## Freeing a tuple -/

theorem Owned.freeDup {tuple : DupTuple} (owned : Owned config ((.dup, tuple.id) ::ₘ out) node)
    (member : tuple ∈ node.state.dupset) : Owned config out (node.rmDupTuple tuple) := by
  refine owned.free rfl ?_ rfl rfl
  simp only [Node.rmDupTuple, Node.mapState, tuplesOf, attached, learntAssocs, detached,
    refs_eraseP .dup DupTuple.id member, ← Multiset.singleton_add]
  abel

theorem Owned.freeLink {link : LinkTuple} (owned : Owned config ((.link, link.id) ::ₘ out) node)
    (member : link ∈ node.state.linkset) :
    Owned config out { node.mapState (rmLinkTuple link) with topologyChange := true } := by
  refine owned.free rfl ?_ rfl rfl
  simp only [Node.mapState, rmLinkTuple, State.eraseLinkTuple, State.eraseNbTuple, tuplesOf,
    attached, learntAssocs, detached, refs_eraseP .link LinkTuple.id member,
    ← Multiset.singleton_add]
  abel

theorem refs_erase_moved {held moved : List Tuple}
    (unique : (refs kind id held + refs kind id moved).Nodup) (member : tuple ∈ held ++ moved) :
    refs kind id held + refs kind id moved = (kind, id tuple) ::ₘ
      (refs kind id (held.eraseP fun other => id other = id tuple) +
        refs kind id (moved.eraseP fun other => id other = id tuple)) := by
  have named : ∀ {tuples : List Tuple}, tuple ∈ tuples → (kind, id tuple) ∈ refs kind id tuples :=
    fun among => Multiset.mem_coe.mpr (List.mem_map.mpr ⟨tuple, among, rfl⟩)
  have apart : ∀ {ref}, ref ∈ refs kind id held → ref ∉ refs kind id moved :=
    Multiset.disjoint_left.mp (Multiset.nodup_add.mp unique).2.2
  rcases List.mem_append.mp member with here | here
  · rw [eraseP_of_absent (apart (named here)), ← Multiset.cons_add, ← refs_eraseP kind id here]
  · have absent : (kind, id tuple) ∉ refs kind id held := fun also => apart also (named here)
    rw [eraseP_of_absent absent, ← Multiset.add_cons, ← refs_eraseP kind id here]

theorem Owned.freeMoved {held moved : List Tuple}
    (owned : Owned config ((kind, id tuple) ::ₘ out) node) (member : tuple ∈ held ++ moved)
    (rest : Multiset TupleRef)
    (before : tuplesOf config node = refs kind id held + refs kind id moved + rest)
    (after : tuplesOf config node' =
      refs kind id (held.eraseP fun other => id other = id tuple) +
        refs kind id (moved.eraseP fun other => id other = id tuple) + rest)
    (queue : node'.timerQueue = node.timerQueue) (nextId : node'.nextId = node.nextId)
    (own : ownAssocs config node'.state = ownAssocs config node.state) :
    Owned config out node' := by
  have unique := owned.unique
  rw [before] at unique
  have erased := refs_erase_moved (Multiset.nodup_add.mp unique).1 member
  refine owned.free (congrArg ownedBy queue) ?_ nextId own
  rw [before, erased, after, Multiset.cons_add]

theorem Owned.freeNb2hop {tuple : Nb2hopTuple}
    (owned : Owned config ((.nb2hop, tuple.id) ::ₘ out) node)
    (member : tuple ∈ node.state.nb2hopset ++ node.detachedNb2hop) :
    Owned config out (node.rmNb2hopTuple tuple) := by
  refine owned.freeMoved member (refs .dup DupTuple.id node.state.dupset +
    refs .link LinkTuple.id node.state.linkset + refs .mprsel MprselTuple.id node.state.mprselset +
    refs .topology TopologyTuple.id node.state.topologyset +
    refs .ifaceAssoc IfaceAssocTuple.id (learntAssocs config node.state) +
    refs .mprsel MprselTuple.id node.detachedMprsel +
    refs .topology TopologyTuple.id node.detachedTopology) ?_ ?_ rfl rfl rfl
  · simp only [tuplesOf, attached, detached]
    abel
  · simp only [Node.rmNb2hopTuple, Node.mapState, tuplesOf, attached, learntAssocs, detached]
    abel

theorem Owned.freeTopology {tuple : TopologyTuple}
    (owned : Owned config ((.topology, tuple.id) ::ₘ out) node)
    (member : tuple ∈ node.state.topologyset ++ node.detachedTopology) :
    Owned config out (node.rmTopologyTuple tuple) := by
  refine owned.freeMoved member (refs .dup DupTuple.id node.state.dupset +
    refs .link LinkTuple.id node.state.linkset + refs .mprsel MprselTuple.id node.state.mprselset +
    refs .nb2hop Nb2hopTuple.id node.state.nb2hopset +
    refs .ifaceAssoc IfaceAssocTuple.id (learntAssocs config node.state) +
    refs .mprsel MprselTuple.id node.detachedMprsel +
    refs .nb2hop Nb2hopTuple.id node.detachedNb2hop) ?_ ?_ rfl rfl rfl
  · simp only [tuplesOf, attached, detached]
    abel
  · simp only [Node.rmTopologyTuple, Node.mapState, tuplesOf, attached, learntAssocs, detached]
    abel

theorem Owned.freeMprsel {tuple : MprselTuple}
    (owned : Owned config ((.mprsel, tuple.id) ::ₘ out) node)
    (member : tuple ∈ node.state.mprselset ++ node.detachedMprsel) :
    Owned config out (node.rmMprselTuple tuple) := by
  have erased : Owned config out { node with
      state := { node.state with
        mprselset := node.state.mprselset.eraseP fun other => other.id = tuple.id }
      detachedMprsel := node.detachedMprsel.eraseP fun other => other.id = tuple.id } := by
    refine owned.freeMoved member (refs .dup DupTuple.id node.state.dupset +
      refs .link LinkTuple.id node.state.linkset +
      refs .nb2hop Nb2hopTuple.id node.state.nb2hopset +
      refs .topology TopologyTuple.id node.state.topologyset +
      refs .ifaceAssoc IfaceAssocTuple.id (learntAssocs config node.state) +
      refs .nb2hop Nb2hopTuple.id node.detachedNb2hop +
      refs .topology TopologyTuple.id node.detachedTopology) ?_ ?_ rfl rfl rfl
    · simp only [tuplesOf, attached, detached]
      abel
    · simp only [tuplesOf, attached, learntAssocs, detached]
      abel
  unfold Node.rmMprselTuple
  dsimp only
  split
  · exact erased.same ⟨rfl, rfl, rfl, rfl⟩
  · exact erased.same ⟨rfl, rfl, rfl, rfl⟩

theorem filter_eraseP_of (kept erased : Tuple → Bool) (tuples : List Tuple) :
    ((∀ tuple, erased tuple = true → kept tuple = true) →
      (tuples.eraseP erased).filter kept = (tuples.filter kept).eraseP erased) ∧
    ((∀ tuple, erased tuple = true → kept tuple = false) →
      (tuples.eraseP erased).filter kept = tuples.filter kept) := by
  induction tuples with
  | nil => exact ⟨fun _ => rfl, fun _ => rfl⟩
  | cons head tail ih =>
      constructor
      · intro keeps
        by_cases here : erased head = true
        · simp [here, keeps head here]
        · by_cases held : kept head = true
          · simp [here, held, ih.1 keeps]
          · simp [here, held, ih.1 keeps]
      · intro drops
        by_cases here : erased head = true
        · simp [here, drops head here]
        · simp [here, List.filter_cons, ih.2 drops]

theorem Owned.freeAssoc {tuple : IfaceAssocTuple}
    (owned : Owned config ((.ifaceAssoc, tuple.id) ::ₘ out) node)
    (member : tuple ∈ node.state.ifaceassocset) :
    Owned config out (node.rmIfaceassocTuple tuple) := by
  have learnt : config.ifaces.length ≤ tuple.id := by
    refine (owned.bounded (.ifaceAssoc, tuple.id) ?_).1
    rw [← owned.balanced]
    simp
  have learnt' : tuple ∈ learntAssocs config node.state := by
    simp [learntAssocs, member, learnt]
  have same : ∀ other : IfaceAssocTuple, decide (other.id = tuple.id) = true →
      other.id = tuple.id := fun other here => of_decide_eq_true here
  refine owned.free rfl ?_ rfl ?_
  · have kept := (filter_eraseP_of (fun other : IfaceAssocTuple =>
      decide (config.ifaces.length ≤ other.id)) (fun other => decide (other.id = tuple.id))
      node.state.ifaceassocset).1 fun other here => by simp [same other here, learnt]
    simp only [Node.rmIfaceassocTuple, Node.mapState, tuplesOf, attached, detached,
      refs_eraseP .ifaceAssoc IfaceAssocTuple.id learnt', ← Multiset.singleton_add]
    simp only [learntAssocs, kept]
    abel
  · have dropped := (filter_eraseP_of (fun other : IfaceAssocTuple =>
      decide (other.id < config.ifaces.length)) (fun other => decide (other.id = tuple.id))
      node.state.ifaceassocset).2 fun other here => by
        simp [same other here, learnt]
    simp only [Node.rmIfaceassocTuple, Node.mapState, ownAssocs, List.filter_map]
    exact congrArg (List.map IfaceAssocTuple.id) dropped

/-! ## Timers -/

def Timer.taken (timer : Timer) : Multiset TupleRef :=
  match timer.tuple with
  | none => 0
  | some ref => ref ::ₘ 0

theorem Owned.pop {rest : List (Int × Timer)} (owned : Owned config 0 node)
    (queue : node.timerQueue = (key, timer) :: rest) :
    Owned config timer.taken { node with timerQueue := rest } where
  balanced := by
    have balanced := owned.balanced
    rw [queue, zero_add] at balanced
    refine Eq.trans ?_ balanced
    unfold Timer.taken
    cases owns : timer.tuple with
    | none => rw [ownedBy_cons_none rest owns, zero_add]
    | some ref => rw [ownedBy_cons rest owns, Multiset.cons_add, zero_add]
  unique := owned.unique
  bounded := owned.bounded
  allocated := owned.allocated
  own := owned.own

theorem expireLink_owned {id : TupleId} {firstTime : Bool}
    (ran : expireLink config now id firstTime node = .ok node')
    (owned : Owned config ((.link, id) ::ₘ 0) node) : Owned config 0 node' := by
  obtain ⟨link, found, expiry⟩ := expireLink_ok ran
  have member := List.mem_of_find?_eq_some found
  have same : link.id = id := by simpa using List.find?_some found
  subst same
  rcases expiry with ⟨_, rfl⟩ | ⟨_, _, lost, loss, rfl⟩ | ⟨_, _, rfl⟩
  · exact owned.freeLink member
  · have kept : Owned config ((.link, link.id) ::ₘ 0) lost := by
      rcases loss with ⟨_, rfl⟩ | ⟨_, loss⟩
      · exact owned
      · exact owned.same (nbLoss_sameTuples loss)
    exact kept.rearm _ rfl
  · exact owned.rearm _ rfl

theorem expireTuple_owned {expires : Tuple → Int} {ref : TupleId} {rm : Tuple → Node}
    (ran : expireTuple expires (tuples.find? fun tuple => id tuple = ref) now timer rm node =
      .ok node') (owns : timer.tuple = some (kind, ref))
    (owned : Owned config ((kind, ref) ::ₘ 0) node)
    (frees : ∀ {tuple}, tuple ∈ tuples → Owned config ((kind, id tuple) ::ₘ 0) node →
      Owned config 0 (rm tuple)) : Owned config 0 node' := by
  obtain ⟨tuple, found, stepped⟩ := expireTuple_ok ran
  have same : id tuple = ref := by simpa using List.find?_some found
  subst same
  rcases stepped with ⟨_, rfl⟩ | ⟨_, rfl⟩
  · exact frees (List.mem_of_find?_eq_some found) owned
  · exact owned.rearm _ owns

theorem expireTimer_owned (ran : expireTimer config now timer node = .ok node')
    (owned : Owned config timer.taken node) : Owned config 0 node' := by
  cases timer with
  | hello =>
      obtain ⟨sent, sending, scheduled⟩ := bind_ok.mp ran
      rw [← Except.ok.inj scheduled]
      have drawn : SameTuples config sent (sent.drawJitter config).2 := ⟨rfl, rfl, rfl, rfl⟩
      exact owned.same (((sendHello_sameTuples sending).trans drawn).trans
        (schedule_sameTuples _ _ .hello rfl))
  | tc =>
      obtain ⟨sent, sending, scheduled⟩ := bind_ok.mp ran
      rw [← Except.ok.inj scheduled]
      have drawn : SameTuples config sent (sent.drawJitter config).2 := ⟨rfl, rfl, rfl, rfl⟩
      have kept : SameTuples config node sent := by
        split at sending
        · exact sendTc_sameTuples sending
        · exact Except.ok.inj sending ▸ SameTuples.refl config node
      exact owned.same ((kept.trans drawn).trans (schedule_sameTuples _ _ .tc rfl))
  | mid =>
      simp only [expireTimer] at ran
      split at ran
      · exact Except.ok.inj ran ▸ owned
      · rw [← Except.ok.inj ran]
        have drawn : SameTuples config (sendMid config now node)
            ((sendMid config now node).drawJitter config).2 := ⟨rfl, rfl, rfl, rfl⟩
        exact owned.same (((sendMid_sameTuples config now node).trans drawn).trans
          (schedule_sameTuples _ _ .mid rfl))
  | msg =>
      rw [← Except.ok.inj ran]
      exact owned.same (sendPkts_sameTuples config _ node)
  | link id firstTime => exact expireLink_owned ran owned
  | dup id => exact expireTuple_owned ran rfl owned fun among held => held.freeDup among
  | nb2hop id => exact expireTuple_owned ran rfl owned fun among held => held.freeNb2hop among
  | mprsel id => exact expireTuple_owned ran rfl owned fun among held => held.freeMprsel among
  | topology id => exact expireTuple_owned ran rfl owned fun among held => held.freeTopology among
  | ifaceAssoc id => exact expireTuple_owned ran rfl owned fun among held => held.freeAssoc among

theorem stepWith_owned {event : Event} (ran : stepWith recvOlsr config now event node = .ok node')
    (owned : Owned config 0 node) :
    Owned config 0 node' := by
  cases event with
  | recv iface srcAddr pkt => exact recvOlsr_owned ran owned
  | timer =>
      cases queue : node.timerQueue with
      | nil =>
          simp only [stepWith, queue] at ran
          exact Except.ok.inj ran ▸ owned
      | cons first rest =>
          obtain ⟨key, timer⟩ := first
          simp only [stepWith, queue] at ran
          exact expireTimer_owned ran (owned.pop queue)
  | linkBreak destAddr =>
      simp only [stepWith] at ran
      split at ran
      · exact owned.same (macFailed_sameTuples ran)
      · exact Except.ok.inj ran ▸ owned

/-! ## Lifecycle operations -/

theorem deleteTuple_owned {ref : TupleId} {rm : Tuple → Node}
    (ran : deleteTuple (tuples.find? fun tuple => id tuple = ref) rm = .ok node')
    (owned : Owned config ((kind, ref) ::ₘ 0) node)
    (frees : ∀ {tuple}, tuple ∈ tuples → Owned config ((kind, id tuple) ::ₘ 0) node →
      Owned config 0 (rm tuple)) (queue : ∀ tuple, (rm tuple).timerQueue = node.timerQueue) :
    Owned config 0 node' ∧ node'.timerQueue = node.timerQueue := by
  unfold deleteTuple at ran
  split at ran
  · cases ran
  · next tuple found =>
    cases ran
    have same : id tuple = ref := by simpa using List.find?_some found
    subst same
    exact ⟨frees (List.mem_of_find?_eq_some found) owned, queue tuple⟩

theorem deleteTimer_owned (ran : deleteTimer timer node = .ok node')
    (owned : Owned config timer.taken node) :
    Owned config 0 node' ∧ node'.timerQueue = node.timerQueue := by
  cases timer with
  | hello | tc | mid | msg => exact Except.ok.inj ran ▸ ⟨owned, rfl⟩
  | dup id => exact deleteTuple_owned ran owned (fun among held => held.freeDup among) fun _ => rfl
  | link id firstTime =>
      exact deleteTuple_owned ran owned (fun among held => held.freeLink among) fun _ => rfl
  | nb2hop id =>
      exact deleteTuple_owned ran owned (fun among held => held.freeNb2hop among) fun _ => rfl
  | mprsel id =>
      refine deleteTuple_owned ran owned (fun among held => held.freeMprsel among) fun tuple => ?_
      unfold Node.rmMprselTuple
      dsimp only
      split
      · rfl
      · rfl
  | topology id =>
      exact deleteTuple_owned ran owned (fun among held => held.freeTopology among) fun _ => rfl
  | ifaceAssoc id =>
      exact deleteTuple_owned ran owned (fun among held => held.freeAssoc among) fun _ => rfl

theorem deleteTimers_owned {queue : List (Int × Timer)} (ran : deleteTimers queue node = .ok node')
    (owned : Owned config 0 { node with timerQueue := queue }) :
    Owned config 0 node' ∧ node'.timerQueue = [] := by
  induction queue generalizing node with
  | nil =>
      rw [← Except.ok.inj ran]
      exact ⟨owned, rfl⟩
  | cons first rest ih =>
      obtain ⟨key, timer⟩ := first
      obtain ⟨deleted, first, ran⟩ := bind_ok.mp ran
      obtain ⟨kept, queue⟩ := deleteTimer_owned first (owned.pop rfl)
      have same : deleted.timerQueue = rest := queue
      have remaining : { deleted with timerQueue := rest } = deleted := by
        rw [← same]
      exact ih ran (remaining ▸ kept)

theorem handleNodeShutdown_owned (ran : handleNodeShutdown node = .ok node')
    (owned : Owned config 0 node) : Owned config 0 node' ∧ node'.timerQueue = [] :=
  deleteTimers_owned ran (owned.same ⟨rfl, rfl, rfl, rfl⟩)

theorem resched_sameTuples (node : Node) (key : Int) (owns : timer.tuple = none) :
    SameTuples config node (node.resched key timer) := by
  have removed : ownedBy (node.timerQueue.eraseP fun entry => entry.2 = timer) =
      ownedBy node.timerQueue := by
    induction node.timerQueue with
    | nil => rfl
    | cons head tail ih =>
        by_cases here : head.2 = timer
        · obtain ⟨key, timer'⟩ := head
          subst here
          simp [ownedBy_cons_none tail owns]
        · simp only [ownedBy] at ih
          cases owned : head.2.tuple with
          | none => simp [ownedBy, here, owned, ih]
          | some ref => simp [ownedBy, here, owned, ← Multiset.cons_coe, ih]
  have erased : SameTuples config node
      { node with timerQueue := node.timerQueue.eraseP fun entry => entry.2 = timer } :=
    ⟨removed, rfl, rfl, rfl⟩
  exact erased.trans (schedule_sameTuples _ key timer owns)

theorem handleNodeStart_sameTuples (config : Config) (now : Int) (node : Node) :
    SameTuples config node (handleNodeStart config now node) :=
  ((resched_sameTuples node _ rfl).trans (resched_sameTuples _ _ rfl)).trans
    (resched_sameTuples _ _ rfl)

theorem hostStep_owned {event : HostEvent} {host host' : Host}
    (ran : hostStep config now event host = .ok host') (owned : Owned config 0 host.node) :
    Owned config 0 host'.node := by
  cases event with
  | agent event =>
      simp only [hostStep] at ran
      split at ran
      · obtain ⟨node, stepped, same⟩ := bind_ok.mp ran
        rw [← Except.ok.inj same]
        exact stepWith_owned stepped owned
      · exact Except.ok.inj ran ▸ owned
  | start =>
      rw [← Except.ok.inj ran]
      exact owned.same (handleNodeStart_sameTuples config now host.node)
  | shutdown | crash =>
      obtain ⟨node, stepped, same⟩ := bind_ok.mp ran
      rw [← Except.ok.inj same]
      exact (handleNodeShutdown_owned stepped owned).1
  | changeInterface =>
      obtain ⟨node, stepped, same⟩ := bind_ok.mp ran
      rw [← Except.ok.inj same]
      exact (handleNodeShutdown_owned stepped owned).1.same
        (handleNodeStart_sameTuples config now node)

theorem initialNode_owned (config : Config) (start maxTime : Int) :
    Owned config 0 (initialNode config start maxTime) := by
  have ids : (initialNode config start maxTime).state.ifaceassocset.map IfaceAssocTuple.id =
      List.range config.ifaces.length := by
    simp [initialNode, Node.schedule, Function.comp_def, List.range_eq_range']
  have short : ∀ tuple ∈ (initialNode config start maxTime).state.ifaceassocset,
      tuple.id < config.ifaces.length := by
    intro tuple member
    exact List.mem_range.mp (ids ▸ List.mem_map_of_mem member)
  have none : tuplesOf config (initialNode config start maxTime) = 0 := by
    have unlearnt : learntAssocs config (initialNode config start maxTime).state = [] := by
      refine List.filter_eq_nil_iff.mpr fun tuple member => ?_
      simpa using short tuple member
    simp only [tuplesOf, attached, unlearnt]
    rfl
  constructor
  · rw [none]
    unfold initialNode Node.schedule
    dsimp only
    rw [zero_add, ownedBy_insertTimer_none rfl, ownedBy_insertTimer_none rfl,
      ownedBy_insertTimer_none rfl]
    rfl
  · rw [none]
    exact Multiset.nodup_zero
  · rw [none]
    exact fun ref member => absurd member (Multiset.notMem_zero ref)
  · exact le_refl _
  · rw [ownAssocs, ids, List.filter_eq_self]
    intro id member
    simpa using member

theorem hostReached_owned {host : Host} (reached : HostReached config host) :
    Owned config 0 host.node := by
  induction reached with
  | initial start maxTime => exact initialNode_owned config start maxTime
  | step _ stepped ih => exact hostStep_owned stepped ih

end

/-! ## Ownership in every run -/

/-- Tuples are freed by the destructors of their timers, and those in the queue have
not run. -/
def Freed (config : Config) (node : Node) (ref : TupleRef) : Prop :=
  config.ifaces.length ≤ ref.2 ∧ ref.2 < node.nextId ∧ ref ∉ ownedBy node.timerQueue

/-- Every tuple of a set has exactly one timer in the queue, and no two timers own the
same tuple; no set holds a freed tuple, and none holds a tuple twice. -/
structure TuplesOwned (config : Config) (node : Node) : Prop where
  owner : ∀ ref ∈ attached config node.state, (ownedBy node.timerQueue).count ref = 1
  distinct : ∀ ref, (ownedBy node.timerQueue).count ref ≤ 1
  live : ∀ ref ∈ attached config node.state, ¬ Freed config node ref
  dupset : (node.state.dupset.map DupTuple.id).Nodup
  linkset : (node.state.linkset.map LinkTuple.id).Nodup
  nb2hopset : (node.state.nb2hopset.map Nb2hopTuple.id).Nodup
  mprselset : (node.state.mprselset.map MprselTuple.id).Nodup
  topologyset : (node.state.topologyset.map TopologyTuple.id).Nodup
  ifaceassocset : (node.state.ifaceassocset.map IfaceAssocTuple.id).Nodup

theorem ids_nodup {Tuple : Type} {kind : TupleKind} {id : Tuple → TupleId} {tuples : List Tuple}
    (unique : (refs kind id tuples).Nodup) : (tuples.map id).Nodup := by
  have pairs : ((tuples.map id).map fun id => (kind, id)).Nodup := by
    rw [List.map_map]
    exact Multiset.coe_nodup.mp unique
  exact pairs.of_map _

theorem Owned.tuplesOwned {config : Config} {node : Node} (owned : Owned config 0 node) :
    TuplesOwned config node := by
  have queue : ownedBy node.timerQueue = tuplesOf config node := by
    rw [← owned.balanced, zero_add]
  have unique : (attached config node.state).Nodup := (Multiset.nodup_add.mp owned.unique).1
  have sets := unique
  simp only [attached, Multiset.nodup_add] at sets
  obtain ⟨⟨⟨⟨⟨dups, links, _⟩, nb2hops, _⟩, mprsels, _⟩, topologies, _⟩, assocs, _⟩ := sets
  refine ⟨?_, ?_, ?_, ids_nodup dups, ids_nodup links, ids_nodup nb2hops, ids_nodup mprsels,
    ids_nodup topologies, ?_⟩
  · intro ref member
    rw [queue]
    exact Multiset.count_eq_one_of_mem owned.unique
      (Multiset.mem_add.mpr (.inl member))
  · intro ref
    rw [queue]
    exact Multiset.nodup_iff_count_le_one.mp owned.unique ref
  · rintro ref member ⟨_, _, freed⟩
    rw [queue] at freed
    exact freed (Multiset.mem_add.mpr (.inl member))
  · have own : ((node.state.ifaceassocset.map IfaceAssocTuple.id).filter
        fun id => id < config.ifaces.length).Nodup := by
      have same := owned.own
      unfold ownAssocs at same
      rw [same]
      exact List.nodup_range
    have learnt : ((node.state.ifaceassocset.map IfaceAssocTuple.id).filter
        fun id => !decide (id < config.ifaces.length)).Nodup := by
      have kept := ids_nodup assocs
      simp only [learntAssocs] at kept
      simpa only [List.filter_map, Function.comp_def, ← not_lt, decide_not] using kept
    refine (List.filter_append_perm (fun id => decide (id < config.ifaces.length)) _).nodup_iff.mp
      (List.nodup_append.mpr ⟨own, learnt, ?_⟩)
    rintro id first _ second rfl
    have below := (List.mem_filter.mp first).2
    have above := (List.mem_filter.mp second).2
    simp [below] at above

theorem tuples_owned (config : Config) (host : Host) (reached : HostReached config host) :
    TuplesOwned config host.node :=
  (hostReached_owned reached).tuplesOwned

def crashAndRestart : List (Int × HostEvent) :=
  [(Time.second, .agent (receiveHello 2 2 0 134 10)), (2 * Time.second, .crash),
    (3 * Time.second, .start), (4 * Time.second, .agent (receiveHello 2 2 1 134 10))]

theorem tuples_owned_afterRestart :
    ∃ host : Host, host.node.state.linkset.length = 1 ∧ TuplesOwned oneIfaceConfig host.node := by
  have checked : (match hostRun oneIfaceConfig crashAndRestart
      { node := initialNode oneIfaceConfig 0 0, isOperational := true } with
    | .ok host => decide (host.node.state.linkset.length = 1)
    | .error _ => false) = true := by decide +kernel
  cases ran : hostRun oneIfaceConfig crashAndRestart
      { node := initialNode oneIfaceConfig 0 0, isOperational := true } with
  | error fault => simp [ran] at checked
  | ok host =>
      simp only [ran, decide_eq_true_eq] at checked
      exact ⟨host, checked, tuples_owned _ _ (hostRun_reached (.initial 0 0) ran)⟩

end SyncFanet.Olsr
