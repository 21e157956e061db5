import SyncFanet.Olsr.TopologyFreshness
import SyncFanet.OlsrOpt.Agent

/-!
# In-place update of the topology set

`update_topology_tuples` of `OLSROPT` means to achieve what the erasure and addition
of `OLSR` do. The two leave the same tuples exactly when the TC message is not empty,
advertises the destination of every tuple that has its ANSN already, and finds no
second tuple of a destination with an older time, or is empty and older than no tuple.
-/

set_option autoImplicit false

namespace SyncFanet.OlsrOpt

open Olsr

variable {destAddr lastAddr : NsAddr} {state : State}

/-! ## Topology tuples as a set -/

/-- The topology tuples as (destination, last address, sequence number, time). -/
def topologySet (state : State) : Finset (NsAddr × NsAddr × Nat × Int) :=
  (state.topologyset.map fun tuple =>
    (tuple.destAddr, tuple.lastAddr, tuple.seq, tuple.time)).toFinset

/-- Sequence number and time of the tuples of a destination and last address. -/
def entriesOf (destAddr lastAddr : NsAddr) (state : State) : List (Nat × Int) :=
  state.topologyset.filterMap fun tuple =>
    if tuple.destAddr = destAddr ∧ tuple.lastAddr = lastAddr then some (tuple.seq, tuple.time)
    else none

theorem mem_topologySet {seq : Nat} {time : Int} :
    (destAddr, lastAddr, seq, time) ∈ topologySet state ↔
      (seq, time) ∈ entriesOf destAddr lastAddr state := by
  simp only [topologySet, entriesOf, List.mem_toFinset, List.mem_map, List.mem_filterMap,
    Prod.mk.injEq]
  constructor
  · rintro ⟨tuple, member, dest, last, rfl, rfl⟩
    exact ⟨tuple, member, by simp [dest, last]⟩
  · rintro ⟨tuple, member, same⟩
    split at same
    · next named =>
      cases same
      exact ⟨tuple, member, named.1, named.2, rfl, rfl⟩
    · cases same

theorem topologySet_eq_iff {state' : State} :
    topologySet state = topologySet state' ↔ ∀ destAddr lastAddr entry,
      entry ∈ entriesOf destAddr lastAddr state ↔ entry ∈ entriesOf destAddr lastAddr state' := by
  constructor
  · rintro same destAddr lastAddr ⟨seq, time⟩
    rw [← mem_topologySet, ← mem_topologySet, same]
  · intro same
    ext ⟨destAddr, lastAddr, seq, time⟩
    rw [mem_topologySet, mem_topologySet, same]

theorem entriesOf_addTopologyTuple (destAddr lastAddr : NsAddr) (node : Node) (now : Int)
    (addr origAddr : NsAddr) (seq : Nat) (validity : Int) (index : Nat) :
    entriesOf destAddr lastAddr
        (node.addTopologyTuple now addr origAddr seq validity index).state =
      entriesOf destAddr lastAddr node.state ++
        if addr = destAddr ∧ origAddr = lastAddr then [(seq, now + validity)] else [] := by
  simp only [entriesOf, Node.addTopologyTuple, Node.scheduleTuple, Node.schedule,
    List.filterMap_append]
  congr 1
  by_cases here : addr = destAddr ∧ origAddr = lastAddr
  · simp [here]
  · simp [here]

/-! ## Erasure and addition -/

def touch (ansn : Nat) (time : Int) : List (Nat × Int) → List (Nat × Int)
  | [] => [(ansn, time)]
  | (seq, _) :: rest => (seq, time) :: rest

theorem touch_touch (ansn : Nat) (time : Int) (entries : List (Nat × Int)) :
    touch ansn time (touch ansn time entries) = touch ansn time entries := by
  cases entries with
  | nil => rfl
  | cons entry rest => rfl

theorem entriesOf_eq_nil :
    entriesOf destAddr lastAddr state = [] ↔ state.findTopologyTuple destAddr lastAddr = none := by
  simp [entriesOf, State.findTopologyTuple, List.filterMap_eq_nil_iff]

theorem entriesOf_updateTopologyTuple_ne {addr origAddr : NsAddr}
    (different : ¬ (addr = destAddr ∧ origAddr = lastAddr)) (time : Int) (state : State) :
    entriesOf destAddr lastAddr (state.updateTopologyTuple addr origAddr
      fun tuple => { tuple with time := time }) = entriesOf destAddr lastAddr state := by
  unfold entriesOf State.updateTopologyTuple
  dsimp only
  induction state.topologyset with
  | nil => rfl
  | cons tuple rest ih =>
      simp only [updateFirst]
      split
      · next here =>
        have named : tuple.destAddr = addr ∧ tuple.lastAddr = origAddr := of_decide_eq_true here
        have elsewhere : ¬ (tuple.destAddr = destAddr ∧ tuple.lastAddr = lastAddr) := by
          rintro ⟨dest, last⟩
          exact different ⟨named.1.symm.trans dest, named.2.symm.trans last⟩
        simp [elsewhere]
      · simp only [List.filterMap_cons, ih]

theorem entriesOf_updateTopologyTuple (known : entriesOf destAddr lastAddr state ≠ [])
    (ansn : Nat) (time : Int) :
    entriesOf destAddr lastAddr (state.updateTopologyTuple destAddr lastAddr
      fun tuple => { tuple with time := time }) =
        touch ansn time (entriesOf destAddr lastAddr state) := by
  unfold entriesOf State.updateTopologyTuple at *
  dsimp only
  generalize state.topologyset = tuples at known ⊢
  induction tuples with
  | nil => exact absurd rfl known
  | cons tuple rest ih =>
      by_cases here : tuple.destAddr = destAddr ∧ tuple.lastAddr = lastAddr
      · simp [updateFirst, here, touch]
      · rw [List.filterMap_cons_none (by simp [here])] at known ⊢
        simpa [updateFirst, here] using ih known

/-- Step 4 of `OLSR::process_tc` touches the entries of the advertised address. -/
theorem entriesOf_advertise (destAddr lastAddr : NsAddr) (now : Int) (origAddr : NsAddr)
    (ansn : Nat) (validity : Int) (index : Nat) (node : Node) (addr : NsAddr) :
    entriesOf destAddr lastAddr (advertise now origAddr ansn validity index node addr).state =
      if addr = destAddr ∧ origAddr = lastAddr then
        touch ansn (now + validity) (entriesOf destAddr lastAddr node.state)
      else entriesOf destAddr lastAddr node.state := by
  unfold advertise
  cases found : node.state.findTopologyTuple addr origAddr with
  | some tuple =>
      by_cases here : addr = destAddr ∧ origAddr = lastAddr
      · obtain ⟨rfl, rfl⟩ := here
        have known : entriesOf addr origAddr node.state ≠ [] := by
          rw [ne_eq, entriesOf_eq_nil, found]
          exact nofun
        rw [if_pos ⟨rfl, rfl⟩]
        exact entriesOf_updateTopologyTuple known ansn (now + validity)
      · rw [if_neg here]
        exact entriesOf_updateTopologyTuple_ne here (now + validity) node.state
  | none =>
      refine (entriesOf_addTopologyTuple destAddr lastAddr node now addr origAddr ansn validity
        index).trans ?_
      by_cases here : addr = destAddr ∧ origAddr = lastAddr
      · obtain ⟨rfl, rfl⟩ := here
        rw [if_pos ⟨rfl, rfl⟩, if_pos ⟨rfl, rfl⟩, entriesOf_eq_nil.mpr found]
        rfl
      · rw [if_neg here, if_neg here, List.append_nil]

theorem entriesOf_advertiseAll (destAddr lastAddr : NsAddr) (now : Int) (origAddr : NsAddr)
    (ansn : Nat) (validity : Int) (index : Nat) (addrs : List NsAddr) (node : Node) :
    entriesOf destAddr lastAddr
        (addrs.foldl (advertise now origAddr ansn validity index) node).state =
      if destAddr ∈ addrs ∧ origAddr = lastAddr then
        touch ansn (now + validity) (entriesOf destAddr lastAddr node.state)
      else entriesOf destAddr lastAddr node.state := by
  induction addrs generalizing node with
  | nil => simp
  | cons addr rest ih =>
      rw [List.foldl_cons, ih, entriesOf_advertise]
      by_cases last : origAddr = lastAddr
      · by_cases first : addr = destAddr
        · by_cases later : destAddr ∈ rest
          · simp [last, first, later, touch_touch]
          · simp [last, first, later]
        · by_cases later : destAddr ∈ rest
          · simp [last, first, later]
          · simp [last, first, later, Ne.symm first]
      · simp [last]

theorem entriesOf_eraseTopologyTuples (destAddr lastAddr : NsAddr) (origAddr : NsAddr)
    (ansn : Nat) (node : Node) :
    entriesOf destAddr lastAddr (eraseOlderTopologyTuples origAddr ansn node).state =
      (entriesOf destAddr lastAddr node.state).filter fun entry =>
        !decide (origAddr = lastAddr ∧ entry.1 < ansn) := by
  simp only [entriesOf, eraseOlderTopologyTuples, Node.eraseTopologyTuples,
    List.filter_filterMap, List.filterMap_filter]
  refine List.filterMap_congr ?_
  intro tuple _
  by_cases here : tuple.destAddr = destAddr ∧ tuple.lastAddr = lastAddr
  · simp [here, Option.filter_some, @eq_comm _ lastAddr origAddr]
  · simp [here]

/-! ## Update in place -/

theorem mem_entriesOf {entry : Nat × Int} :
    entry ∈ entriesOf destAddr lastAddr state ↔ ∃ tuple ∈ state.topologyset,
      tuple.destAddr = destAddr ∧ tuple.lastAddr = lastAddr ∧ (tuple.seq, tuple.time) = entry := by
  simp [entriesOf, List.mem_filterMap, and_assoc]

theorem mem_entriesOf_addAll (destAddr lastAddr : NsAddr) (now : Int) (origAddr : NsAddr)
    (ansn : Nat) (validity : Int) (index : Nat) (addrs : List NsAddr) (node : Node)
    (entry : Nat × Int) :
    entry ∈ entriesOf destAddr lastAddr (addrs.foldl (fun node addr =>
        node.addTopologyTuple now addr origAddr ansn validity index) node).state ↔
      entry ∈ entriesOf destAddr lastAddr node.state ∨
        (destAddr ∈ addrs ∧ origAddr = lastAddr ∧ entry = (ansn, now + validity)) := by
  induction addrs generalizing node with
  | nil => simp
  | cons addr rest ih =>
      rw [List.foldl_cons, ih, entriesOf_addTopologyTuple, List.mem_append, List.mem_cons]
      by_cases first : addr = destAddr ∧ origAddr = lastAddr
      · rw [if_pos first, List.mem_singleton]
        simp only [first.1, first.2, true_and, true_or]
        tauto
      · rw [if_neg first]
        simp only [List.not_mem_nil, or_false]
        constructor
        · rintro (old | ⟨later, last, same⟩)
          · exact .inl old
          · exact .inr ⟨.inr later, last, same⟩
        · rintro (old | ⟨rfl | later, last, same⟩)
          · exact .inl old
          · exact absurd ⟨rfl, last⟩ first
          · exact .inr ⟨later, last, same⟩

/-- The entries that `update_topology_tuples` leaves for a message with addresses. -/
theorem mem_entriesOf_update (now : Int) (msg : Msg) {tc : Tc} (index : Nat) (node : Node)
    (addressed : tc.nbMainAddrs ≠ []) (short : tc.nbMainAddrs.length ≤ maxAddrs) :
    ∃ node' changedTuples, updateTopologyTuples now msg tc index node =
        .ok (node', changedTuples) ∧
      ∀ destAddr lastAddr entry, entry ∈ entriesOf destAddr lastAddr node'.state ↔
        if lastAddr = msg.origAddr then
          destAddr ∈ tc.nbMainAddrs ∧ entry = (tc.ansn, now + emfToSeconds msg.vtime)
        else entry ∈ entriesOf destAddr lastAddr node.state := by
  refine ⟨_, _, by
    simp only [updateTopologyTuples, if_neg addressed, Nat.not_lt.mpr short, and_false, if_false]
    rfl, ?_⟩
  intro destAddr lastAddr entry
  rw [mem_entriesOf_addAll, mem_entriesOf, mem_entriesOf]
  simp only [Node.mapState, Node.eraseTopologyTuples, List.mem_map, List.mem_filter,
    Bool.not_eq_true', decide_eq_false_iff_not, List.any_eq_false, decide_eq_true_eq]
  by_cases last : lastAddr = msg.origAddr
  · rw [if_pos last]
    constructor
    · rintro (⟨_, ⟨tuple, ⟨stored, kept⟩, rfl⟩, dest, origin, same⟩ | ⟨⟨listed, _⟩, _, same⟩)
      · by_cases here : tuple.lastAddr = msg.origAddr
        · simp only [here, if_true] at dest same
          simp only [here, true_and, not_not] at kept
          exact ⟨dest ▸ kept, same.symm⟩
        · simp only [here, if_false] at origin
          exact absurd (origin.trans last) here
      · exact ⟨listed, same⟩
    · rintro ⟨listed, same⟩
      by_cases known : ∃ tuple ∈ node.state.topologyset,
          tuple.lastAddr = msg.origAddr ∧ tuple.destAddr = destAddr
      · obtain ⟨tuple, stored, here, dest⟩ := known
        refine .inl ⟨_, ⟨tuple, ⟨stored, ?_⟩, rfl⟩, ?_⟩
        · exact fun gone => gone.2 (dest ▸ listed)
        · rw [if_pos here]
          exact ⟨dest, here.trans last.symm, same.symm⟩
      · refine .inr ⟨⟨listed, ?_⟩, last.symm, same⟩
        intro tuple stored
        exact fun dest => known ⟨tuple, stored.1, by simpa using stored.2, dest⟩
  · rw [if_neg last]
    constructor
    · rintro (⟨_, ⟨tuple, ⟨stored, _⟩, rfl⟩, dest, origin, same⟩ | ⟨_, origin, _⟩)
      · by_cases here : tuple.lastAddr = msg.origAddr
        · simp only [here, if_true] at origin
          exact absurd origin.symm last
        · simp only [here, if_false] at dest origin same
          exact ⟨tuple, stored, dest, origin, same⟩
      · exact absurd origin.symm last
    · rintro ⟨tuple, stored, dest, origin, same⟩
      have elsewhere : tuple.lastAddr ≠ msg.origAddr := origin ▸ last
      refine .inl ⟨tuple, ⟨tuple, ⟨stored, fun gone => elsewhere gone.1⟩, ?_⟩, dest, origin, same⟩
      rw [if_neg elsewhere]

/-! ## Agreement -/

/-- The entries that `erase_older_topology_tuples` leaves for a destination. -/
def currentEntries (destAddr origAddr : NsAddr) (ansn : Nat) (state : State) :
    List (Nat × Int) :=
  (entriesOf destAddr origAddr state).filter fun entry => !decide (entry.1 < ansn)

/-- An empty message is older than no tuple. Another one advertises the destination
of every tuple that is not older, and finds no second tuple of a destination with
another time than its own. -/
def UpdatesAgree (now : Int) (msg : Msg) (tc : Tc) (state : State) : Prop :=
  if tc.nbMainAddrs = [] then
    ∀ tuple ∈ state.topologyset, tuple.lastAddr = msg.origAddr → tc.ansn ≤ tuple.seq
  else
    (∀ tuple ∈ state.topologyset, tuple.lastAddr = msg.origAddr → tc.ansn ≤ tuple.seq →
      tuple.destAddr ∈ tc.nbMainAddrs) ∧
    ∀ addr ∈ tc.nbMainAddrs, ∀ entry ∈ (currentEntries addr msg.origAddr tc.ansn state).tail,
      entry.2 = now + emfToSeconds msg.vtime

/-- The message is discarded before the topology set is touched. -/
def Discards (now : Int) (msg : Msg) (tc : Tc) (senderIface : NsAddr) (state : State) : Prop :=
  state.findSymLinkTuple senderIface now = none ∨
    state.findNewerTopologyTuple msg.origAddr tc.ansn ≠ none

theorem mem_touch_iff {ansn : Nat} {time : Int} {entries : List (Nat × Int)}
    (current : ∀ entry ∈ entries, entry.1 = ansn) :
    (∀ entry, entry = (ansn, time) ↔ entry ∈ touch ansn time entries) ↔
      ∀ entry ∈ entries.tail, entry.2 = time := by
  cases entries with
  | nil => simp [touch]
  | cons first rest =>
      have equal : first.1 = ansn := current first (by simp)
      simp only [touch, equal, List.mem_cons, List.tail_cons]
      constructor
      · intro same entry member
        rw [(same entry).mpr (.inr member)]
      · intro times entry
        refine ⟨.inl, ?_⟩
        rintro (same | member)
        · exact same
        · exact Prod.ext (current entry (by simp [member])) (times entry member)

theorem entriesOf_plainUpdate (destAddr lastAddr : NsAddr) (now : Int) (origAddr : NsAddr)
    (ansn : Nat) (validity : Int) (index : Nat) (addrs : List NsAddr) (node : Node) :
    entriesOf destAddr lastAddr (addrs.foldl (advertise now origAddr ansn validity index)
        (eraseOlderTopologyTuples origAddr ansn node)).state =
      if lastAddr = origAddr then
        if destAddr ∈ addrs then
          touch ansn (now + validity) (currentEntries destAddr origAddr ansn node.state)
        else currentEntries destAddr origAddr ansn node.state
      else entriesOf destAddr lastAddr node.state := by
  rw [entriesOf_advertiseAll, entriesOf_eraseTopologyTuples]
  by_cases last : lastAddr = origAddr
  · subst last
    by_cases listed : destAddr ∈ addrs
    · simp [listed, currentEntries]
    · simp [listed, currentEntries]
  · simp [last, Ne.symm last]

theorem updates_agree_empty {msg : Msg} {tc : Tc} {node : Node} :
    topologySet node.state =
        topologySet (eraseOlderTopologyTuples msg.origAddr tc.ansn node).state ↔
      ∀ tuple ∈ node.state.topologyset, tuple.lastAddr = msg.origAddr → tc.ansn ≤ tuple.seq := by
  rw [topologySet_eq_iff]
  simp only [entriesOf_eraseTopologyTuples, List.mem_filter, Bool.not_eq_true',
    decide_eq_false_iff_not, not_and, Nat.not_lt]
  constructor
  · intro same tuple stored last
    have member : (tuple.seq, tuple.time) ∈
        entriesOf tuple.destAddr tuple.lastAddr node.state :=
      mem_entriesOf.mpr ⟨tuple, stored, rfl, rfl, rfl⟩
    exact ((same _ _ _).mp member).2 last.symm
  · intro newer destAddr lastAddr entry
    refine ⟨fun member => ⟨member, ?_⟩, And.left⟩
    rintro rfl
    obtain ⟨tuple, stored, _, last, rfl⟩ := mem_entriesOf.mp member
    exact newer tuple stored last

theorem mem_currentEntries {origAddr : NsAddr} {ansn : Nat} {entry : Nat × Int} :
    entry ∈ currentEntries destAddr origAddr ansn state ↔
      entry ∈ entriesOf destAddr origAddr state ∧ ansn ≤ entry.1 := by
  simp [currentEntries, List.mem_filter]

theorem updates_agree_addressed {now : Int} {msg : Msg} {tc : Tc} {index : Nat}
    {node inPlace : Node}
    (entries : ∀ destAddr lastAddr entry, entry ∈ entriesOf destAddr lastAddr inPlace.state ↔
      if lastAddr = msg.origAddr then
        destAddr ∈ tc.nbMainAddrs ∧ entry = (tc.ansn, now + emfToSeconds msg.vtime)
      else entry ∈ entriesOf destAddr lastAddr node.state)
    (newer : node.state.findNewerTopologyTuple msg.origAddr tc.ansn = none) :
    topologySet inPlace.state = topologySet (tc.nbMainAddrs.foldl
        (advertise now msg.origAddr tc.ansn (emfToSeconds msg.vtime) index)
        (eraseOlderTopologyTuples msg.origAddr tc.ansn node)).state ↔
      (∀ tuple ∈ node.state.topologyset, tuple.lastAddr = msg.origAddr → tc.ansn ≤ tuple.seq →
        tuple.destAddr ∈ tc.nbMainAddrs) ∧
      ∀ addr ∈ tc.nbMainAddrs,
        ∀ entry ∈ (currentEntries addr msg.origAddr tc.ansn node.state).tail,
          entry.2 = now + emfToSeconds msg.vtime := by
  have current : ∀ addr, ∀ entry ∈ currentEntries addr msg.origAddr tc.ansn node.state,
      entry.1 = tc.ansn := by
    intro addr entry member
    obtain ⟨among, notOlder⟩ := mem_currentEntries.mp member
    obtain ⟨tuple, stored, _, last, rfl⟩ := mem_entriesOf.mp among
    simp only [State.findNewerTopologyTuple, List.find?_eq_none, decide_eq_true_eq, not_and,
      Nat.not_lt] at newer
    exact Nat.le_antisymm (newer tuple stored last) notOlder
  rw [topologySet_eq_iff]
  simp only [entries, entriesOf_plainUpdate]
  constructor
  · intro same
    constructor
    · intro tuple stored last notOlder
      by_contra unlisted
      have entry := same tuple.destAddr msg.origAddr (tuple.seq, tuple.time)
      simp only [if_true, unlisted, false_and, if_false, false_iff] at entry
      exact entry (mem_currentEntries.mpr
        ⟨mem_entriesOf.mpr ⟨tuple, stored, rfl, last, rfl⟩, notOlder⟩)
    · intro addr listed
      have touched := same addr msg.origAddr
      simp only [if_true, listed, true_and] at touched
      exact (mem_touch_iff (current addr)).mp touched
  · rintro ⟨advertised, times⟩ destAddr lastAddr entry
    by_cases last : lastAddr = msg.origAddr
    · simp only [last, if_true]
      by_cases listed : destAddr ∈ tc.nbMainAddrs
      · simp only [listed, true_and, if_true]
        exact (mem_touch_iff (current destAddr)).mpr (times destAddr listed) entry
      · simp only [listed, false_and, if_false, false_iff]
        intro member
        obtain ⟨among, notOlder⟩ := mem_currentEntries.mp member
        obtain ⟨tuple, stored, dest, origin, rfl⟩ := mem_entriesOf.mp among
        exact listed (dest ▸ advertised tuple stored origin notOlder)
    · simp only [last, if_false]

/-- For every TC message, the two agents leave the same topology tuples exactly when
the message is discarded or their updates agree. -/
theorem processTc_agree_iff (now : Int) (msg : Msg) (tc : Tc) (senderIface : NsAddr)
    (index : Nat) (node : Node) (short : tc.nbMainAddrs.length ≤ maxAddrs) :
    ∃ inPlace changed plain,
      processTc now msg tc senderIface index node = .ok (inPlace, changed) ∧
      Olsr.processTc now msg tc senderIface index node = .ok plain ∧
      (topologySet inPlace.state = topologySet plain.state ↔
        Discards now msg tc senderIface node.state ∨ UpdatesAgree now msg tc node.state) := by
  unfold processTc
  cases sym : node.state.findSymLinkTuple senderIface now with
  | none =>
      refine ⟨node, false, node, rfl, by simp [Olsr.processTc, sym], ?_⟩
      simp [Discards, sym]
  | some link =>
      cases newer : node.state.findNewerTopologyTuple msg.origAddr tc.ansn with
      | some tuple =>
          refine ⟨node, false, node, rfl, by simp [Olsr.processTc, sym, newer], ?_⟩
          simp [Discards, newer]
      | none =>
          have accepted := processTc_accepted index
            (Option.isSome_iff_exists.mpr ⟨link, sym⟩) short newer
          have kept : Discards now msg tc senderIface node.state ∨
              UpdatesAgree now msg tc node.state ↔ UpdatesAgree now msg tc node.state := by
            simp [Discards, sym, newer]
          rw [kept, UpdatesAgree]
          by_cases empty : tc.nbMainAddrs = []
          · refine ⟨node, false, _, by simp [updateTopologyTuples, empty, Except.bind],
              accepted, ?_⟩
            rw [if_pos empty, empty]
            exact updates_agree_empty
          · obtain ⟨inPlace, changedTuples, ran, entries⟩ :=
              mem_entriesOf_update now msg index node empty short
            refine ⟨inPlace, decide (changedTuples ≠ 0), _, by simp [ran, Except.bind],
              accepted, ?_⟩
            rw [if_neg empty]
            exact updates_agree_addressed entries newer

/-- A first message with two addresses. -/
theorem processTc_agree_iff_first :
    ∃ inPlace changed plain,
      processTc (2 * Time.second) (tcArrival 2 1 7 [4, 5]).msg (tcArrival 2 1 7 [4, 5]).tc 2 0
        linkedNode = .ok (inPlace, changed) ∧
      Olsr.processTc (2 * Time.second) (tcArrival 2 1 7 [4, 5]).msg (tcArrival 2 1 7 [4, 5]).tc 2 0
        linkedNode = .ok plain ∧
      (topologySet inPlace.state = topologySet plain.state ↔
        Discards (2 * Time.second) (tcArrival 2 1 7 [4, 5]).msg (tcArrival 2 1 7 [4, 5]).tc 2
            linkedNode.state ∨
          UpdatesAgree (2 * Time.second) (tcArrival 2 1 7 [4, 5]).msg
            (tcArrival 2 1 7 [4, 5]).tc linkedNode.state) :=
  processTc_agree_iff (2 * Time.second) (tcArrival 2 1 7 [4, 5]).msg (tcArrival 2 1 7 [4, 5]).tc
    2 0 linkedNode (by decide)

def announcedRun : List (Int × Event) :=
  [(Time.second, receiveHello 2 2 0 134 10),
    (2 * Time.second, receive 2 9 1 134 (.tc { ansn := 1, nbMainAddrs := [4] }))]

/-- An empty message with a later ANSN erases the tuples of the originator in `OLSR`
only. -/
theorem topologySet_differs_of_emptyTc :
    ¬ ∀ (config : Config) (clock : Int) (node : Node),
      Reached Olsr.recvOlsr config (fun _ _ _ => True) clock node →
        ∀ (now : Int) (msg : Msg) (tc : Tc) (senderIface : NsAddr) (index : Nat)
          (inPlace plain : Node) (changed : Bool), clock ≤ now →
          node.state.findNewerTopologyTuple msg.origAddr tc.ansn = none →
          processTc now msg tc senderIface index node = .ok (inPlace, changed) →
          Olsr.processTc now msg tc senderIface index node = .ok plain →
          topologySet inPlace.state = topologySet plain.state := by
  intro claimed
  let arrival := tcArrival 3 2 2 []
  obtain ⟨clock, node, reached, checked⟩ := exists_reached_of_runOf Olsr.recvOlsr
    (fun _ _ _ => true) announcedRun
    (fun current => decide (current.1 ≤ 3 * Time.second) &&
      decide (current.2.state.findNewerTopologyTuple 9 2 = none) &&
      (processTc arrival.now arrival.msg arrival.tc 2 0 current.2).toOption.any fun inPlace =>
        (Olsr.processTc arrival.now arrival.msg arrival.tc 2 0 current.2).toOption.any fun plain =>
          decide (topologySet inPlace.1.state ≠ topologySet plain.state))
    (by decide +kernel)
  simp only [Bool.and_eq_true, decide_eq_true_eq] at checked
  obtain ⟨⟨later, notNewer⟩, differs⟩ := checked
  cases ranInPlace : processTc arrival.now arrival.msg arrival.tc 2 0 node with
  | error fault => simp [ranInPlace, Except.toOption] at differs
  | ok inPlace =>
      cases ranPlain : Olsr.processTc arrival.now arrival.msg arrival.tc 2 0 node with
      | error fault => simp [ranInPlace, ranPlain, Except.toOption] at differs
      | ok plain =>
          simp only [ranInPlace, ranPlain, Except.toOption, Option.any_some, decide_eq_true_eq]
            at differs
          exact differs (claimed oneIfaceConfig clock node (reached.weaken fun _ _ _ _ => trivial)
            arrival.now arrival.msg arrival.tc 2 0 inPlace.1 plain inPlace.2 later notNewer
            ranInPlace ranPlain)

end SyncFanet.OlsrOpt
