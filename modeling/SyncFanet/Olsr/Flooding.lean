import SyncFanet.Olsr.ConvergedRouting
import SyncFanet.Olsr.DuplicateSet
import SyncFanet.Olsr.TimerOwnership

/-!
# Flooding

A TC message in a converged network. The nodes send their pending copies in any order, and
all neighbors of a node receive what it sends before the next node sends.
-/

set_option autoImplicit false

namespace SyncFanet.Olsr

/-! ## Hosts and transmissions -/

/-- Every node runs an agent on its only interface. -/
structure Hosts (network : Network) where
  config : NsAddr → Config
  index : NsAddr → Nat
  main : ∀ v ∈ network.nodes, (config v).raAddr = v
  oneIface : ∀ v ∈ network.nodes, (config v).ifaces = [⟨index v, v⟩]
  apart : ∀ v ∈ network.nodes, ∀ u ∈ network.nodes, (config v).isLocalAddress u = true → u = v

def Action.packet : Action → Option Pkt
  | .sentPkt pkt => some pkt
  | _ => none

/-- The packets that a node has sent since an earlier state. -/
def packetsSent (before after : Node) : List Pkt :=
  (after.history.drop before.history.length).filterMap Action.packet

/-- How often `recv_olsr` found no duplicate tuple for the message. -/
def processings (addr : NsAddr) (seqNum : Nat) (node : Node) : Nat :=
  node.history.count (.processed addr seqNum)

structure Flood where
  clock : Int
  node : NsAddr → Node

variable {network : Network}

/-- A timer of the buffer of a node fires, whichever it is, and all neighbors receive what
the node sends. -/
inductive Transmits (hosts : Hosts network) (horizon : Int) (flood : Flood) (u : NsAddr)
    (flood' : Flood) : Prop where
  | fire (isNode : u ∈ network.nodes) (key now : Int)
      (timer : (key, .msg) ∈ (flood.node u).timerQueue) (later : flood.clock ≤ now)
      (fired : expireTimer (hosts.config u) now .msg { flood.node u with
        timerQueue := (flood.node u).timerQueue.erase (key, .msg) } = .ok (flood'.node u))
      (arrival : NsAddr → Int) (arrives : ∀ v, now ≤ arrival v ∧ arrival v ≤ flood'.clock)
      (inTime : flood'.clock ≤ horizon)
      (heard : ∀ v, network.graph.Adj u v →
        (packetsSent (flood.node u) (flood'.node u)).foldlM (fun node pkt =>
          recvOlsr (hosts.config v) (arrival v) ⟨hosts.index v, v⟩ u pkt node) (flood.node v) =
            .ok (flood'.node v))
      (others : ∀ v, v ≠ u → ¬ network.graph.Adj u v → flood'.node v = flood.node v)

/-- A node of a converged network puts a TC message into its buffer, which no node has
heard of. -/
structure Originates (hosts : Hosts network) (horizon : Int) (source : NsAddr) (seqNum : Nat)
    (before : NsAddr → Node) (start : Flood) : Prop where
  isNode : source ∈ network.nodes
  converged : Converged network horizon fun v => (before v).state
  quiet : ∀ v ∈ network.nodes, (before v).msgs = []
  number : (before source).nextMsgSeq.msgSeq = seqNum
  fresh : ∀ v ∈ network.nodes, (before v).state.findDupTuple source seqNum = none
  sent : sendTc (hosts.config source) start.clock (before source) = .ok (start.node source)
  others : ∀ v, v ≠ source → start.node v = before v

/-- The states of a flood, with the nodes that have sent a copy in their order. -/
inductive Floods (hosts : Hosts network) (horizon : Int) (start : Flood) :
    List NsAddr → Flood → Prop where
  | start : Floods hosts horizon start [] start
  | transmit {log : List NsAddr} {flood flood' : Flood} {u : NsAddr}
      (before : Floods hosts horizon start log flood)
      (step : Transmits hosts horizon flood u flood') :
      Floods hosts horizon start (if (flood.node u).msgs = [] then log else log ++ [u]) flood'

/-! ## What a flood leaves alone -/

def SameRepositories (state state' : State) : Prop :=
  ∃ topologyset dupset, state' = { state with topologyset := topologyset, dupset := dupset }

namespace SameRepositories

theorem refl (state : State) : SameRepositories state state := ⟨_, _, rfl⟩

theorem trans {first second third : State} (left : SameRepositories first second)
    (right : SameRepositories second third) : SameRepositories first third := by
  obtain ⟨_, _, rfl⟩ := left
  obtain ⟨_, _, rfl⟩ := right
  exact ⟨_, _, rfl⟩

theorem mirrors {horizon : Int} {addr : NsAddr} {state state' : State}
    (same : SameRepositories state state')
    (mirrors : MirrorsNeighborhood network horizon addr state) :
    MirrorsNeighborhood network horizon addr state' := by
  obtain ⟨_, _, rfl⟩ := same
  exact ⟨mirrors.linked, mirrors.link_adj, mirrors.link_sym, mirrors.neighbor,
    mirrors.neighbor_adj, mirrors.neighbor_sym, mirrors.neighbor_unique, mirrors.twoHop,
    mirrors.single, mirrors.mprs⟩

end SameRepositories

namespace MirrorsNeighborhood

variable {horizon now : Int} {addr : NsAddr} {state : State}

theorem findSymLinkTuple (mirrors : MirrorsNeighborhood network horizon addr state)
    (early : now ≤ horizon) {other : NsAddr} (adjacent : network.graph.Adj addr other) :
    (state.findSymLinkTuple other now).isSome := by
  obtain ⟨link, member, iface⟩ := mirrors.linked other adjacent
  have present : (state.findLinkTuple other).isSome :=
    List.find?_isSome.mpr ⟨link, member, by simpa using iface⟩
  obtain ⟨first, found⟩ := Option.isSome_iff_exists.mp present
  have stored : first ∈ state.linkset := List.mem_of_find?_eq_some found
  have valid : first.symTime > now := by
    have := (mirrors.link_sym first stored).1
    omega
  simp [State.findSymLinkTuple, found, valid]

theorem recomputeRtable {node : Node}
    (mirrors : MirrorsNeighborhood network horizon addr node.state) (early : now ≤ horizon) :
    ∃ node', node.recomputeRtable now = .ok node' := by
  obtain ⟨rtable, computed⟩ := (rtableComputation_ok_iff node.state now).mpr (by
    intro hop member _
    obtain ⟨adjacent, _⟩ := (mirrors.twoHop hop.nbMainAddr hop.nb2hopAddr).mp
      ⟨hop, member, rfl, rfl⟩
    exact oneHop_of_adj mirrors early adjacent)
  exact ⟨_, bind_ok.mpr ⟨rtable, computed, rfl⟩⟩

end MirrorsNeighborhood

variable {msg : Msg} {config : Config} {srcAddr : NsAddr} {hops : Nat}

/-! ## One reception -/

structure IsCopy (source : NsAddr) (seqNum hops : Nat) (msg : Msg) : Prop where
  origin : msg.origAddr = source
  number : msg.msgSeqNum = seqNum
  body : ∃ tc, msg.body = .tc tc ∧ tc.nbMainAddrs.length ≤ maxAddrs
  ttl : maxTtl ≤ msg.ttl + hops

theorem IsCopy.mono {source : NsAddr} {seqNum hops' : Nat} (copy : IsCopy source seqNum hops msg)
    (more : hops ≤ hops') :
    IsCopy source seqNum hops' msg :=
  ⟨copy.origin, copy.number, copy.body, copy.ttl.trans (Nat.add_le_add_left more _)⟩

theorem recvOlsr_single {now : Int} {iface : Iface} {pkt : Pkt} {node node' : Node}
    (content : pkt.msgs = [msg]) (ran : recvOlsr config now iface srcAddr pkt node = .ok node') :
    ∃ handled rtable, recvMsg config now iface srcAddr node msg = .ok handled ∧
      node' = { handled with rtable := rtable, topologyChange := false } := by
  rcases recvOlsr_stages ran with ⟨empty, _⟩ | ⟨handled, loop, table⟩
  · rw [content] at empty
    cases empty
  · rw [content, List.foldlM_cons] at loop
    obtain ⟨first, received, done⟩ := bind_ok.mp loop
    cases done
    obtain ⟨rtable, _, written⟩ := recomputeRtable_writes table
    exact ⟨handled, rtable, received, written⟩

theorem recvOlsr_of_recvMsg {now : Int} {iface : Iface} {pkt : Pkt} {node handled node' : Node}
    (content : pkt.msgs = [msg])
    (received : recvMsg config now iface srcAddr node msg = .ok handled)
    (table : handled.recomputeRtable now = .ok node') :
    recvOlsr config now iface srcAddr pkt node = .ok node' := by
  have long : ¬ pkt.byteLength config.addrSize < pktHdrSize + msgHdrSize config.addrSize := by
    rw [Pkt.byteLength_lt_iff, content]
    exact List.cons_ne_nil msg []
  have few : ¬ maxMsgs < pkt.msgs.length := by
    simp [content, maxMsgs]
  rw [recvOlsr, if_neg long, if_neg few, content, List.foldlM_cons, received]
  exact table

/-- A new message over a symmetric link gets a duplicate tuple, and its copy is sent on if
the message is retransmitted. -/
theorem forwardDefault_new {now : Int} {localIface : NsAddr} {node : Node}
    (symmetric : (node.state.findSymLinkTuple srcAddr now).isSome) :
    forwardDefault config now msg none localIface srcAddr node =
      (if retransmits msg srcAddr node.state then node.enqueMsg config now
        { msg with ttl := msg.ttl - 1, hopCount := msg.hopCount + 1 } else node).addDupTuple
          now msg.origAddr msg.msgSeqNum (retransmits msg srcAddr node.state) localIface := by
  obtain ⟨link, found⟩ := Option.isSome_iff_exists.mp symmetric
  simp [forwardDefault, found]

theorem processTc_total (now : Int) (msg : Msg) {tc : Tc} (senderIface : NsAddr) (index : Nat)
    (node : Node) (short : tc.nbMainAddrs.length ≤ maxAddrs) :
    ∃ node', processTc now msg tc senderIface index node = .ok node' := by
  unfold processTc
  split
  · exact ⟨_, rfl⟩
  · split
    · exact ⟨_, rfl⟩
    · rw [if_neg (Nat.not_lt.mpr short)]
      exact ⟨_, rfl⟩

structure Admitted (source : NsAddr) (seqNum hops : Nat) (iface : NsAddr) (relays : Prop)
    [Decidable relays] (node node' : Node) : Prop where
  same : SameRepositories node.state node'.state
  dup : ∃ tuple, node'.state.findDupTuple source seqNum = some tuple ∧ iface ∈ tuple.ifaceList
  processed : processings source seqNum node' = processings source seqNum node + 1
  copies : copies source seqNum node' =
    Olsr.copies source seqNum node + if relays then 1 else 0
  silent : ¬ relays → node'.msgs = node.msgs
  sends : relays → ∃ copy, IsCopy source seqNum (hops + 1) copy ∧ node'.msgs = node.msgs ++ [copy]
  timer : relays → ∃ key, (key, .msg) ∈ node'.timerQueue

theorem findDupTuple_addDupTuple {node : Node} {now : Int} {addr : NsAddr} {seqNum : Nat}
    {retransmitted : Bool} {localIface : NsAddr}
    (fresh : node.state.findDupTuple addr seqNum = none) :
    ∃ tuple, (node.addDupTuple now addr seqNum retransmitted localIface).state.findDupTuple
      addr seqNum = some tuple ∧ localIface ∈ tuple.ifaceList := by
  have absent : node.state.dupset.find? (fun tuple => decide (tuple.addr = addr ∧
      tuple.seqNum = seqNum)) = none := fresh
  refine ⟨{
    id := node.nextId
    addr := addr
    seqNum := seqNum
    retransmitted := retransmitted
    ifaceList := [localIface]
    time := now + dupHoldTime }, ?_, List.mem_singleton_self localIface⟩
  rw [State.findDupTuple]
  simp only [Node.addDupTuple, Node.scheduleTuple, Node.schedule]
  rw [List.find?_append, absent]
  simp

theorem mem_insertTimer {key : Int} {timer : Timer} {queue : List (Int × Timer)}
    {entry : Int × Timer} :
    entry ∈ insertTimer key timer queue ↔ entry = (key, timer) ∨ entry ∈ queue := by
  rw [(insertTimer_perm key timer queue).mem_iff, List.mem_cons]

theorem forwardDefault_admitted {now : Int} {iface source : NsAddr} {seqNum : Nat}
    {node processed : Node} (copy : IsCopy source seqNum hops msg) (alive : 1 < msg.ttl)
    (same : SameRepositories node.state processed.state)
    (fresh : processed.state.findDupTuple source seqNum = none)
    (once : processings source seqNum processed = processings source seqNum node + 1)
    (kept : copies source seqNum processed = copies source seqNum node)
    (buffer : processed.msgs = node.msgs)
    (symmetric : (processed.state.findSymLinkTuple srcAddr now).isSome) :
    Admitted source seqNum hops iface
      ((node.state.findMprselTuple (node.state.getMainAddr srcAddr)).isSome) node
      (forwardDefault config now msg none iface srcAddr processed) := by
  have relays : retransmits msg srcAddr processed.state =
      (node.state.findMprselTuple (node.state.getMainAddr srcAddr)).isSome := by
    obtain ⟨_, _, state⟩ := same
    rw [retransmits, state, decide_eq_true alive, Bool.true_and]
    rfl
  obtain ⟨rfl, rfl, body, ttl⟩ := copy
  rw [forwardDefault_new symmetric, relays]
  cases (node.state.findMprselTuple (node.state.getMainAddr srcAddr)).isSome with
  | false =>
      refine ⟨same.trans ⟨_, _, rfl⟩, findDupTuple_addDupTuple fresh, once, ?_,
        fun _ => buffer, nofun, nofun⟩
      exact kept
  | true =>
      refine ⟨same.trans ⟨_, _, rfl⟩, findDupTuple_addDupTuple fresh, ?_, ?_, nofun, fun _ => ?_,
        fun _ => ?_⟩
      · rw [← once]
        simp [processings, Node.enqueMsg, Node.drawJitter, Node.schedule, Node.record,
          Node.addDupTuple, Node.scheduleTuple]
      · have sent := copies_sent config msg.origAddr msg.msgSeqNum now msg true processed
        simp only [if_true, and_self] at sent
        rw [if_pos rfl, ← kept]
        exact sent
      · refine ⟨{ msg with ttl := msg.ttl - 1, hopCount := msg.hopCount + 1 },
          ⟨rfl, rfl, body, ?_⟩, ?_⟩
        · dsimp only
          omega
        · rw [← buffer]
          rfl
      · exact ⟨now + (config.jitter processed.draws : Int),
          mem_insertTimer.mpr (.inr (mem_insertTimer.mpr (.inl rfl)))⟩

theorem recvMsg_new (config : Config) (now : Int) (iface : Iface) (srcAddr : NsAddr)
    {source : NsAddr} {seqNum : Nat} {node : Node} (copy : IsCopy source seqNum hops msg)
    (alive : 1 < msg.ttl) (foreign : config.isLocalAddress source = false)
    (fresh : node.state.findDupTuple source seqNum = none)
    (symmetric : (node.state.findSymLinkTuple srcAddr now).isSome) :
    ∃ handled, recvMsg config now iface srcAddr node msg = .ok handled ∧
      Admitted source seqNum hops iface.addr
        ((node.state.findMprselTuple (node.state.getMainAddr srcAddr)).isSome) node handled := by
  obtain ⟨tc, body, short⟩ := copy.body
  have accepted : ¬ (msg.ttl = 0 ∨ config.isLocalAddress msg.origAddr = true) := by
    simp only [copy.origin, foreign, Bool.false_eq_true, or_false]
    omega
  obtain ⟨processed, ran⟩ := processTc_total now msg srcAddr iface.index
    (node.record (.processed source seqNum)) short
  have handled : recvMsg config now iface srcAddr node msg =
      .ok (forwardDefault config now msg none iface.addr srcAddr processed) := by
    rw [recvMsg, if_neg accepted, copy.origin, copy.number, fresh]
    simp [processUnlessDuplicated, processMsg, body, copy.origin, copy.number, ran, doForwarding,
      Except.bind]
  refine ⟨_, handled, ?_⟩
  obtain ⟨topologyset, timerQueue, added, detached, rfl⟩ := processTc_writes ran
  refine forwardDefault_admitted copy alive ⟨_, _, rfl⟩ fresh ?_ ?_ rfl symmetric
  · simp [processings, Node.record]
  · simp [copies, Node.record, List.countP_append, isCopy]

theorem recvMsg_ignored {now : Int} {iface : Iface} {source : NsAddr} {seqNum : Nat} {node : Node}
    (copy : IsCopy source seqNum hops msg)
    (known : config.isLocalAddress source = true ∨
      ∃ tuple, node.state.findDupTuple source seqNum = some tuple ∧
        iface.addr ∈ tuple.ifaceList) :
    recvMsg config now iface srcAddr node msg = .ok node := by
  obtain ⟨tc, body, _⟩ := copy.body
  by_cases dropped : msg.ttl = 0 ∨ config.isLocalAddress msg.origAddr = true
  · rw [recvMsg, if_pos dropped]
  · rcases known with own | ⟨tuple, found, considered⟩
    · rw [copy.origin] at dropped
      exact absurd (.inr own) dropped
    · rw [recvMsg, if_neg dropped, copy.origin, copy.number, found]
      simp [processUnlessDuplicated, doForwarding, body, considered, Except.bind]

/-! ## The nodes during a flood -/

section

variable [DecidableRel network.graph.Adj] {horizon : Int} {before : NsAddr → Node}
  {source : NsAddr} {seqNum : Nat} {log : List NsAddr} {u v : NsAddr} {node node' : Node}

open RelayCover

def Enqueues (network : Network) [DecidableRel network.graph.Adj] (before : NsAddr → Node)
    (source : NsAddr) (log : List NsAddr) (v : NsAddr) : Prop :=
  v = source ∨ ∃ u, firstHeard network.graph log v = some u ∧ v ∈ (before u).state.mprset

structure Informed (network : Network) [DecidableRel network.graph.Adj] (before : NsAddr → Node)
    (source : NsAddr) (seqNum : Nat) (log : List NsAddr) (v : NsAddr) (node : Node) : Prop where
  same : SameRepositories (before v).state node.state
  unheard : v ≠ source → firstHeard network.graph log v = none →
    node.state.findDupTuple source seqNum = none
  heard : v ≠ source → (firstHeard network.graph log v).isSome →
    ∃ tuple, node.state.findDupTuple source seqNum = some tuple ∧ v ∈ tuple.ifaceList
  processed : v ≠ source → processings source seqNum node =
    processings source seqNum (before v) +
      if (firstHeard network.graph log v).isSome then 1 else 0
  idle : ¬ Enqueues network before source log v →
    copies source seqNum node = copies source seqNum (before v) ∧ node.msgs = [] ∧ v ∉ log
  enqueued : Enqueues network before source log v →
    copies source seqNum node = copies source seqNum (before v) + 1 ∧ (node.msgs = [] ↔ v ∈ log)
  pending : ∀ msg ∈ node.msgs, IsCopy source seqNum log.length msg
  single : node.msgs.length ≤ 1
  timer : node.msgs ≠ [] → ∃ key, (key, .msg) ∈ node.timerQueue

structure Unmoved (source : NsAddr) (seqNum : Nat) (node node' : Node) : Prop where
  same : SameRepositories node.state node'.state
  dup : node'.state.findDupTuple source seqNum = node.state.findDupTuple source seqNum
  processed : processings source seqNum node' = processings source seqNum node
  copies : copies source seqNum node' = Olsr.copies source seqNum node
  msgs : node'.msgs = node.msgs
  timer : node.msgs ≠ [] → node'.timerQueue = node.timerQueue

theorem Unmoved.refl (source : NsAddr) (seqNum : Nat) (node : Node) :
    Unmoved source seqNum node node :=
  ⟨.refl _, rfl, rfl, rfl, rfl, fun _ => rfl⟩

theorem firstHeard_snoc (log : List NsAddr) (u v : NsAddr) :
    firstHeard network.graph (log ++ [u]) v = (firstHeard network.graph log v).or
      (if network.graph.Adj u v then some u else none) := by
  rw [firstHeard, List.find?_append]
  by_cases adjacent : network.graph.Adj u v
  · simp [firstHeard, adjacent]
  · simp [firstHeard, adjacent]

theorem Informed.unmoved {log' : List NsAddr}
    (informed : Informed network before source seqNum log v node)
    (unmoved : Unmoved source seqNum node node')
    (same : v ≠ source → firstHeard network.graph log' v = firstHeard network.graph log v)
    (members : v ∈ log' ↔ v ∈ log) (longer : log.length ≤ log'.length) :
    Informed network before source seqNum log' v node' := by
  have enqueues : Enqueues network before source log' v ↔ Enqueues network before source log v := by
    by_cases own : v = source
    · exact iff_of_true (.inl own) (.inl own)
    · rw [Enqueues, Enqueues, same own]
  constructor
  · exact informed.same.trans unmoved.same
  · intro foreign
    rw [same foreign, unmoved.dup]
    exact informed.unheard foreign
  · intro foreign
    rw [same foreign, unmoved.dup]
    exact informed.heard foreign
  · intro foreign
    rw [same foreign, unmoved.processed]
    exact informed.processed foreign
  · rw [enqueues, unmoved.copies, unmoved.msgs, members]
    exact informed.idle
  · rw [enqueues, unmoved.copies, unmoved.msgs, members]
    exact informed.enqueued
  · rw [unmoved.msgs]
    exact fun msg member => (informed.pending msg member).mono longer
  · rw [unmoved.msgs]
    exact informed.single
  · rw [unmoved.msgs]
    intro pending
    rw [unmoved.timer pending]
    exact informed.timer pending

theorem Informed.admit {relays : Prop} [Decidable relays]
    (informed : Informed network before source seqNum log v node) (foreign : v ≠ source)
    (adjacent : network.graph.Adj u v) (unheard : firstHeard network.graph log v = none)
    (picked : relays ↔ v ∈ (before u).state.mprset)
    (admitted : Admitted source seqNum log.length v relays node node') :
    Informed network before source seqNum (log ++ [u]) v node' := by
  have first : firstHeard network.graph (log ++ [u]) v = some u := by
    rw [firstHeard_snoc, unheard, if_pos adjacent, Option.none_or]
  have idle : ¬ Enqueues network before source log v := by
    rintro (own | ⟨sender, found, _⟩)
    · exact foreign own
    · rw [unheard] at found
      cases found
  obtain ⟨none, empty, outside⟩ := informed.idle idle
  have enqueues : Enqueues network before source (log ++ [u]) v ↔ relays := by
    rw [Enqueues, first, picked]
    constructor
    · rintro (own | ⟨sender, found, member⟩)
      · exact absurd own foreign
      · cases found
        exact member
    · exact fun member => .inr ⟨u, rfl, member⟩
  have apart : v ∉ log ++ [u] := by
    simp only [List.mem_append, List.mem_singleton, not_or]
    exact ⟨outside, adjacent.ne'⟩
  have processed := informed.processed foreign
  rw [unheard] at processed
  constructor
  · exact informed.same.trans admitted.same
  · rw [first]
    exact fun _ absent => absurd absent (Option.some_ne_none u)
  · exact fun _ _ => admitted.dup
  · intro _
    rw [first, admitted.processed, processed]
    rfl
  · intro silent
    rw [enqueues] at silent
    rw [admitted.copies, if_neg silent, admitted.silent silent]
    exact ⟨none, empty, apart⟩
  · intro sends
    rw [enqueues] at sends
    obtain ⟨copy, _, msgs⟩ := admitted.sends sends
    rw [admitted.copies, if_pos sends, none, msgs]
    exact ⟨rfl, iff_of_false (by simp) apart⟩
  · by_cases sends : relays
    · obtain ⟨copy, good, msgs⟩ := admitted.sends sends
      rw [msgs, empty, List.nil_append, List.length_append, List.length_singleton]
      intro msg member
      rw [List.mem_singleton.mp member]
      exact good
    · rw [admitted.silent sends, empty]
      exact fun _ member => absurd member List.not_mem_nil
  · by_cases sends : relays
    · obtain ⟨copy, _, msgs⟩ := admitted.sends sends
      simp [msgs, empty]
    · simp [admitted.silent sends, empty]
  · intro pending
    by_cases sends : relays
    · exact admitted.timer sends
    · rw [admitted.silent sends, empty] at pending
      exact absurd rfl pending

theorem Informed.send {queue : List (Int × Timer)}
    (informed : Informed network before source seqNum log u node) (pending : node.msgs ≠ []) :
    Informed network before source seqNum (log ++ [u]) u
      (sendOnePkt { node with timerQueue := queue }) := by
  have same : firstHeard network.graph (log ++ [u]) u = firstHeard network.graph log u := by
    rw [firstHeard_snoc, if_neg (SimpleGraph.irrefl _), Option.or_none]
  have enqueues : Enqueues network before source (log ++ [u]) u ↔
      Enqueues network before source log u := by
    rw [Enqueues, Enqueues, same]
  have sends : Enqueues network before source log u := by
    by_contra idle
    exact pending (informed.idle idle).2.1
  have emptied : (sendOnePkt { node with timerQueue := queue }).msgs = [] := by
    have few := informed.single
    exact List.drop_eq_nil_of_le (few.trans (by decide))
  have processed : processings source seqNum (sendOnePkt { node with timerQueue := queue }) =
      processings source seqNum node := by
    simp [processings, sendOnePkt, Node.nextPktSeq, Node.record]
  have kept : copies source seqNum (sendOnePkt { node with timerQueue := queue }) =
      copies source seqNum node := by
    simp [copies, sendOnePkt, Node.nextPktSeq, Node.record, List.countP_append, isCopy]
  constructor
  · exact informed.same.trans ⟨_, _, rfl⟩
  · rw [same]
    exact informed.unheard
  · rw [same]
    exact informed.heard
  · rw [same, processed]
    exact informed.processed
  · rw [enqueues]
    exact fun idle => absurd sends idle
  · intro _
    rw [kept, emptied]
    exact ⟨(informed.enqueued sends).1, iff_of_true rfl (by simp)⟩
  · rw [emptied]
    exact fun _ member => absurd member List.not_mem_nil
  · rw [emptied]
    exact Nat.zero_le 1
  · exact fun full => absurd emptied full

/-! ## Transmissions -/

theorem sendPkt_nil (empty : node.msgs = []) : sendPkt node = node := by
  simp [sendPkt, empty, sendPkts]

theorem sendPkt_single (single : node.msgs = [msg]) : sendPkt node = sendOnePkt node := by
  simp [sendPkt, single, sendPkts, maxMsgs]

theorem packetsSent_unchanged (queue : List (Int × Timer)) :
    packetsSent node { node with timerQueue := queue } = [] := by
  simp [packetsSent]

theorem packetsSent_sendOnePkt (queue : List (Int × Timer)) (single : node.msgs = [msg]) :
    ∃ pkt, packetsSent node (sendOnePkt { node with timerQueue := queue }) = [pkt] ∧
      pkt.msgs = [msg] := by
  refine ⟨{ pktSeqNum := node.nextPktSeq.pktSeq, msgs := node.msgs.take maxMsgs }, ?_, ?_⟩
  · simp [packetsSent, sendOnePkt, Node.nextPktSeq, Node.record, Action.packet]
  · simp [single, maxMsgs]

structure Spreading (network : Network) [DecidableRel network.graph.Adj] (before : NsAddr → Node)
    (source : NsAddr) (seqNum : Nat) (log : List NsAddr) (flood : Flood) : Prop where
  nodup : log.Nodup
  nodes : ∀ v ∈ log, v ∈ network.nodes
  informed : ∀ v ∈ network.nodes, Informed network before source seqNum log v (flood.node v)

variable {hosts : Hosts network} {start flood flood' : Flood}

theorem sendTc_copy {now : Int} (ran : sendTc config now node = .ok node') :
    ∃ msg tc, node' = (node.nextMsgSeq.record (.sentTc tc)).enqueMsg config now msg ∧
      msg.body = .tc tc ∧ IsCopy config.raAddr node.nextMsgSeq.msgSeq 0 msg := by
  unfold sendTc at ran
  dsimp only at ran
  split at ran
  · cases ran
  · next short =>
    exact ⟨_, _, (Except.ok.inj ran).symm, rfl, rfl, rfl, ⟨_, rfl, Nat.not_lt.mp short⟩, le_refl _⟩

theorem sendTc_total (config : Config) (now : Int)
    (short : node.state.mprselset.length ≤ maxAddrs) :
    ∃ node', sendTc config now node = .ok node' := by
  have fits : ¬ maxAddrs < (node.nextMsgSeq.state.mprselset.map MprselTuple.mainAddr).length := by
    rw [List.length_map]
    exact Nat.not_lt.mpr short
  unfold sendTc
  dsimp only
  rw [if_neg fits]
  exact ⟨_, rfl⟩

theorem Originates.spreading (originates : Originates hosts horizon source seqNum before start) :
    Spreading network before source seqNum [] start := by
  refine ⟨List.nodup_nil, fun _ member => absurd member List.not_mem_nil, fun v isNode => ?_⟩
  by_cases own : v = source
  · subst own
    obtain ⟨msg, tc, sent, body, copy⟩ := sendTc_copy originates.sent
    rw [hosts.main v isNode, originates.number] at copy
    have enqueues : Enqueues network before v [] v := .inl rfl
    have msgs : (start.node v).msgs = [msg] := by
      rw [sent]
      exact congrArg (· ++ [msg]) (originates.quiet v isNode)
    have enqueued : copies v seqNum (start.node v) = copies v seqNum (before v) + 1 := by
      rw [sent]
      simp [copies, Node.enqueMsg, Node.drawJitter, Node.schedule, Node.record, Node.nextMsgSeq,
        List.countP_append, isCopy, copy.origin, copy.number]
    constructor
    · rw [sent]
      exact ⟨_, _, rfl⟩
    · exact fun foreign => absurd rfl foreign
    · exact fun foreign => absurd rfl foreign
    · exact fun foreign => absurd rfl foreign
    · exact fun idle => absurd enqueues idle
    · exact fun _ => ⟨enqueued, iff_of_false (by simp [msgs]) List.not_mem_nil⟩
    · rw [msgs]
      intro other member
      rw [List.mem_singleton.mp member]
      exact copy
    · rw [msgs]
      exact le_refl 1
    · rw [sent]
      exact fun _ => ⟨_, mem_insertTimer.mpr (.inl rfl)⟩
  · rw [originates.others v own]
    have idle : ¬ Enqueues network before source [] v := by
      rintro (same | ⟨sender, found, _⟩)
      · exact own same
      · cases found
    have quiet := originates.quiet v isNode
    constructor
    · exact .refl _
    · exact fun _ _ => originates.fresh v isNode
    · exact fun _ heard => absurd heard (by simp [firstHeard])
    · exact fun _ => by simp [firstHeard]
    · exact fun _ => ⟨rfl, quiet, List.not_mem_nil⟩
    · exact fun enqueues => absurd enqueues idle
    · rw [quiet]
      exact fun _ member => absurd member List.not_mem_nil
    · rw [quiet]
      exact Nat.zero_le 1
    · exact fun pending => absurd quiet pending

omit [DecidableRel network.graph.Adj] in
theorem selector_iff {state : NsAddr → State} {nodeState : State}
    (converged : Converged network horizon state) (isNode : v ∈ network.nodes)
    (adjacent : network.graph.Adj u v) (same : SameRepositories (state v) nodeState) :
    (nodeState.findMprselTuple (nodeState.getMainAddr u)).isSome = true ↔
      v ∈ (state u).mprset := by
  have mirrors := same.mirrors (converged.mirrors v isNode)
  rw [mirrors.getMainAddr]
  have selectors : nodeState.mprselset = (state v).mprselset := by
    obtain ⟨_, _, rfl⟩ := same
    rfl
  have selected := converged.selectors v isNode u
  rw [State.findMprselTuple, List.find?_isSome, selectors]
  simp only [decide_eq_true_eq]
  rw [selected]
  exact and_iff_right (network.mem_left adjacent)

namespace Spreading

variable (converged : Converged network horizon fun v => (before v).state)
  (few : network.nodes.card ≤ 254)
include converged few

theorem receive (spreading : Spreading network before source seqNum log flood)
    (hosts : Hosts network) {now : Int} (early : now ≤ horizon) (origin : source ∈ network.nodes)
    (isNode : u ∈ network.nodes) (pending : msg ∈ (flood.node u).msgs)
    (adjacent : network.graph.Adj u v) :
    ∃ handled, recvMsg (hosts.config v) now ⟨hosts.index v, v⟩ u (flood.node v) msg =
        .ok handled ∧
      Informed network before source seqNum (log ++ [u]) v handled := by
  have sender := spreading.informed u isNode
  have receiver := network.adj_mem u v adjacent
  have informed := spreading.informed v receiver
  have copy := sender.pending msg pending
  have sends : Enqueues network before source log u := by
    by_contra idle
    rw [(sender.idle idle).2.1] at pending
    cases pending
  have outside : u ∉ log := by
    intro member
    rw [(sender.enqueued sends).2.mpr member] at pending
    cases pending
  have members : v ∈ log ++ [u] ↔ v ∈ log := by simp [adjacent.ne']
  have longer : log.length ≤ (log ++ [u]).length := by simp
  by_cases own : v = source
  · have known : (hosts.config v).isLocalAddress source = true := by
      rw [← own]
      have listed := (hosts.config v).raAddr_local
      rw [hosts.main v receiver] at listed
      exact decide_eq_true listed
    exact ⟨_, recvMsg_ignored copy (.inl known),
      informed.unmoved (.refl _ _ _) (fun foreign => absurd own foreign) members longer⟩
  · cases first : firstHeard network.graph log v with
    | some sender =>
        have known := informed.heard own (Option.isSome_of_eq_some first)
        refine ⟨_, recvMsg_ignored copy (.inr known),
          informed.unmoved (.refl _ _ _) (fun _ => ?_) members longer⟩
        rw [firstHeard_snoc, first, Option.some_or]
    | none =>
        have foreign : (hosts.config v).isLocalAddress source = false := by
          by_contra listed
          exact own (hosts.apart v receiver source origin (by simpa using listed)).symm
        have mirrors := informed.same.mirrors (converged.mirrors v receiver)
        have symmetric := mirrors.findSymLinkTuple early adjacent.symm
        -- the copy has passed the nodes of the log only, and the sender is none of them
        have bound : log.length < network.nodes.card := by
          rw [← List.toFinset_card_of_nodup spreading.nodup]
          refine Finset.card_lt_card ⟨?_, fun all => outside (List.mem_toFinset.mp (all isNode))⟩
          exact fun node member => spreading.nodes node (List.mem_toFinset.mp member)
        have ttl := copy.ttl
        have alive : 1 < msg.ttl := by
          simp only [maxTtl] at ttl
          omega
        obtain ⟨handled, ran, admitted⟩ := recvMsg_new (hosts.config v) now ⟨hosts.index v, v⟩ u
          copy alive foreign (informed.unheard own first) symmetric
        exact ⟨handled, ran, informed.admit own adjacent first
          (selector_iff converged receiver adjacent informed.same) admitted⟩

theorem transmit (spreading : Spreading network before source seqNum log flood)
    (origin : source ∈ network.nodes) (step : Transmits hosts horizon flood u flood') :
    Spreading network before source seqNum
      (if (flood.node u).msgs = [] then log else log ++ [u]) flood' := by
  obtain ⟨isNode, key, now, _, _, fired, arrival, arrives, inTime, heard, others⟩ := step
  have sender := spreading.informed u isNode
  cases msgs : (flood.node u).msgs with
  | nil =>
      have sent := (Except.ok.inj fired).symm.trans (sendPkt_nil msgs)
      rw [if_pos rfl]
      refine ⟨spreading.nodup, spreading.nodes, fun v member => ?_⟩
      have informed := spreading.informed v member
      by_cases self : v = u
      · subst self
        rw [sent]
        exact informed.unmoved ⟨.refl _, rfl, rfl, rfl, rfl, fun pending => absurd msgs pending⟩
          (fun _ => rfl) Iff.rfl (le_refl _)
      · by_cases adjacent : network.graph.Adj u v
        · have received := heard v adjacent
          rw [sent, packetsSent_unchanged] at received
          rw [← Except.ok.inj received]
          exact informed
        · rw [others v self adjacent]
          exact informed
  | cons msg rest =>
      have single : (flood.node u).msgs = [msg] := by
        have few := sender.single
        rw [msgs, List.length_cons] at few
        rw [msgs, List.eq_nil_of_length_eq_zero (by omega : rest.length = 0)]
      have pending : (flood.node u).msgs ≠ [] := by simp [single]
      have outside : u ∉ log := by
        intro member
        by_cases sends : Enqueues network before source log u
        · exact pending ((sender.enqueued sends).2.mpr member)
        · exact (sender.idle sends).2.2 member
      have sent := (Except.ok.inj fired).symm.trans (sendPkt_single single)
      obtain ⟨pkt, packets, content⟩ := packetsSent_sendOnePkt
        ((flood.node u).timerQueue.erase (key, .msg)) single
      rw [if_neg (by simp)]
      refine ⟨?_, ?_, fun v member => ?_⟩
      · exact List.nodup_append.mpr ⟨spreading.nodup, List.nodup_singleton u, by
          intro other member last among
          rw [List.mem_singleton.mp among]
          rintro rfl
          exact outside member⟩
      · intro v member
        rcases List.mem_append.mp member with old | new
        · exact spreading.nodes v old
        · exact List.mem_singleton.mp new ▸ isNode
      · by_cases self : v = u
        · subst self
          rw [sent]
          exact sender.send pending
        · by_cases adjacent : network.graph.Adj u v
          · have received := heard v adjacent
            rw [sent, packets, List.foldlM_cons] at received
            obtain ⟨after, received, done⟩ := bind_ok.mp received
            cases done
            have early : arrival v ≤ horizon := (arrives v).2.trans inTime
            obtain ⟨handled, ran, informed⟩ := spreading.receive converged few hosts early origin
              isNode (msgs ▸ List.mem_cons_self) adjacent
            obtain ⟨handled', rtable, ran', after⟩ := recvOlsr_single content received
            rw [ran] at ran'
            cases ran'
            rw [after]
            exact informed.unmoved ⟨.refl _, rfl, rfl, rfl, rfl, fun _ => rfl⟩ (fun _ => rfl)
              Iff.rfl (le_refl _)
          · rw [others v self adjacent]
            refine (spreading.informed v member).unmoved (.refl _ _ _) (fun _ => ?_) ?_ (by simp)
            · rw [firstHeard_snoc, if_neg adjacent, Option.or_none]
            · simp [self]

theorem proceeds (spreading : Spreading network before source seqNum log flood)
    (hosts : Hosts network) (early : flood.clock ≤ horizon) (origin : source ∈ network.nodes)
    (isNode : u ∈ network.nodes) (pending : (flood.node u).msgs ≠ []) :
    ∃ flood', Transmits hosts horizon flood u flood' ∧ flood'.clock = flood.clock := by
  have sender := spreading.informed u isNode
  obtain ⟨key, timer⟩ := sender.timer pending
  obtain ⟨msg, rest, msgs⟩ := List.exists_cons_of_ne_nil pending
  have single : (flood.node u).msgs = [msg] := by
    have few := sender.single
    rw [msgs, List.length_cons] at few
    rw [msgs, List.eq_nil_of_length_eq_zero (by omega : rest.length = 0)]
  let queue := (flood.node u).timerQueue.erase (key, .msg)
  let sent := sendOnePkt { flood.node u with timerQueue := queue }
  obtain ⟨pkt, packets, content⟩ := packetsSent_sendOnePkt queue single
  have received (v : NsAddr) : ∃ node', (network.graph.Adj u v →
      (packetsSent (flood.node u) sent).foldlM (fun node pkt =>
        recvOlsr (hosts.config v) flood.clock ⟨hosts.index v, v⟩ u pkt node) (flood.node v) =
          .ok node') ∧ (¬ network.graph.Adj u v → node' = flood.node v) := by
    by_cases adjacent : network.graph.Adj u v
    · obtain ⟨handled, ran, informed⟩ := spreading.receive converged few hosts early origin
        isNode (msgs ▸ List.mem_cons_self) adjacent
      have mirrors := informed.same.mirrors
        (converged.mirrors v (network.adj_mem u v adjacent))
      obtain ⟨node', table⟩ := mirrors.recomputeRtable early
      refine ⟨node', fun _ => ?_, fun apart => absurd adjacent apart⟩
      rw [packets, List.foldlM_cons, recvOlsr_of_recvMsg content ran table]
      rfl
    · exact ⟨_, fun step => absurd step adjacent, fun _ => rfl⟩
  choose node' heard others using received
  refine ⟨⟨flood.clock, fun v => if v = u then sent else node' v⟩, ?_, rfl⟩
  refine .fire isNode key flood.clock timer (le_refl _) ?_ (fun _ => flood.clock)
    (fun _ => ⟨le_refl _, le_refl _⟩) early ?_ ?_
  · have fired : sendPkt { flood.node u with timerQueue := queue } = sent := sendPkt_single single
    simp only [if_true]
    exact congrArg Except.ok fired
  · intro v adjacent
    simp only [if_true, if_neg adjacent.ne']
    exact heard v adjacent
  · intro v self apart
    simp only [if_neg self]
    exact others v apart

end Spreading

/-! ## Whole floods -/

def Flood.Quiet (network : Network) (flood : Flood) : Prop :=
  ∀ v ∈ network.nodes, (flood.node v).msgs = []

theorem Floods.spreading (originates : Originates hosts horizon source seqNum before start)
    (few : network.nodes.card ≤ 254) (run : Floods hosts horizon start log flood) :
    Spreading network before source seqNum log flood := by
  induction run with
  | start => exact originates.spreading
  | transmit _ step ih => exact ih.transmit originates.converged few originates.isNode step

theorem Floods.completes (originates : Originates hosts horizon source seqNum before start)
    (few : network.nodes.card ≤ 254) (run : Floods hosts horizon start log flood)
    (early : flood.clock ≤ horizon) :
    ∃ log' final, Floods hosts horizon start log' final ∧ final.Quiet network := by
  obtain ⟨left, length⟩ : ∃ left, network.nodes.card = log.length + left := by
    have spreading := run.spreading originates few
    refine Nat.exists_eq_add_of_le ?_
    rw [← List.toFinset_card_of_nodup spreading.nodup]
    exact Finset.card_le_card fun v member => spreading.nodes v (List.mem_toFinset.mp member)
  -- a node that sends its copy joins the log, which has room for each node once
  induction left generalizing log flood with
  | zero =>
      refine ⟨log, flood, run, fun v isNode => ?_⟩
      have spreading := run.spreading originates few
      have all : log.toFinset = network.nodes := by
        refine Finset.eq_of_subset_of_card_le
          (fun v member => spreading.nodes v (List.mem_toFinset.mp member)) ?_
        rw [List.toFinset_card_of_nodup spreading.nodup, length, Nat.add_zero]
      have member : v ∈ log := List.mem_toFinset.mp (all ▸ isNode)
      have informed := spreading.informed v isNode
      by_cases sends : Enqueues network before source log v
      · exact (informed.enqueued sends).2.mpr member
      · exact (informed.idle sends).2.1
  | succ left ih =>
      by_cases quiet : flood.Quiet network
      · exact ⟨log, flood, run, quiet⟩
      · simp only [Flood.Quiet, not_forall] at quiet
        obtain ⟨u, isNode, pending⟩ := quiet
        obtain ⟨flood', step, clock⟩ := (run.spreading originates few).proceeds
          originates.converged few hosts early originates.isNode isNode pending
        have next := Floods.transmit run step
        rw [if_neg pending] at next
        refine ih next (clock ▸ early) ?_
        rw [length, List.length_append, List.length_singleton]
        omega

theorem Spreading.finished (spreading : Spreading network before source seqNum log flood)
    (quiet : flood.Quiet network) :
    Finished network.graph (fun u m => u ∈ network.nodes ∧ m ∈ (before u).state.mprset) log := by
  rintro v sender first ⟨_, picked⟩
  have adjacent : network.graph.Adj sender v := by simpa using List.find?_some first
  have isNode := network.adj_mem sender v adjacent
  exact ((spreading.informed v isNode).enqueued (.inr ⟨sender, first, picked⟩)).2.mp
    (quiet v isNode)

theorem Spreading.heard (spreading : Spreading network before source seqNum log flood)
    (converged : Converged network horizon fun v => (before v).state)
    (origin : source ∈ network.nodes) (quiet : flood.Quiet network) (isNode : v ∈ network.nodes)
    (foreign : v ≠ source) : (firstHeard network.graph log v).isSome := by
  have started : source ∈ log :=
    ((spreading.informed source origin).enqueued (.inl rfl)).2.mp (quiet source origin)
  obtain ⟨walk⟩ := network.connected source origin v isNode
  rcases converged.relayCover.heard_along (spreading.finished quiet) started walk with
    transmitted | ⟨sender, member, adjacent⟩
  · by_contra silent
    refine ((spreading.informed v isNode).idle ?_).2.2 transmitted
    rintro (own | ⟨sender, first, _⟩)
    · exact foreign own
    · exact silent (Option.isSome_of_eq_some first)
  · exact List.find?_isSome.mpr ⟨sender, member, by simpa using adjacent⟩

end

/-- When no copy is pending any more, every node but the originator has processed the message
once, and no node has enqueued more than one copy. -/
theorem flood_reaches_all {hosts : Hosts network} {horizon : Int} {source : NsAddr}
    {seqNum : Nat} {before : NsAddr → Node} {start final : Flood} {log : List NsAddr}
    (few : network.nodes.card ≤ 254)
    (originates : Originates hosts horizon source seqNum before start)
    (run : Floods hosts horizon start log final) (quiet : final.Quiet network) :
    (∀ v ∈ network.nodes, v ≠ source → processings source seqNum (final.node v) =
      processings source seqNum (before v) + 1) ∧
    ∀ v ∈ network.nodes,
      copies source seqNum (final.node v) ≤ copies source seqNum (before v) + 1 := by
  classical
  have spreading := run.spreading originates few
  constructor
  · intro v isNode foreign
    have heard := spreading.heard originates.converged originates.isNode quiet isNode foreign
    rw [(spreading.informed v isNode).processed foreign, if_pos heard]
  · intro v isNode
    have informed := spreading.informed v isNode
    by_cases sends : Enqueues network before source log v
    · exact (informed.enqueued sends).1.le
    · exact (informed.idle sends).1.le.trans (Nat.le_succ _)

theorem addr_mem_single (iface : Iface) : ∀ other ∈ [iface], other.addr ∈ [iface.addr] := by
  intro other member
  rw [List.mem_singleton.mp member]
  exact List.mem_singleton_self _

theorem eq_of_isLocalAddress {u v : NsAddr} (single : config.localAddrs = [v])
    (listed : config.isLocalAddress u = true) : u = v := by
  have among : u ∈ config.localAddrs := by simpa [Config.isLocalAddress] using listed
  rw [single] at among
  exact List.mem_singleton.mp among

def pathHosts : Hosts pathNetwork where
  config v := { oneIfaceConfig with
    raAddr := v
    ifaces := [⟨0, v⟩]
    localAddrs := [v]
    raAddr_local := List.mem_singleton_self v
    ifaces_local := addr_mem_single ⟨0, v⟩ }
  index _ := 0
  main _ _ := rfl
  oneIface _ _ := rfl
  apart _ _ _ _ listed := eq_of_isLocalAddress rfl listed

def pathNode (v : NsAddr) : Node where
  state := pathState Time.second v
  nextId := 0

/-- A message of the first node of a path reaches the other three. -/
theorem flood_reaches_all_path :
    ∃ start log final, Originates pathHosts Time.second 1 0 pathNode start ∧
      Floods pathHosts Time.second start log final ∧ final.Quiet pathNetwork ∧
      (∀ v ∈ pathNetwork.nodes, v ≠ 1 →
        processings 1 0 (final.node v) = processings 1 0 (pathNode v) + 1) ∧
      ∀ v ∈ pathNetwork.nodes, copies 1 0 (final.node v) ≤ copies 1 0 (pathNode v) + 1 := by
  classical
  have short : (pathNode 1).state.mprselset.length ≤ maxAddrs := by
    have few : (mirrorSelectors pathAdj [1, 2, 3, 4] Time.second 1).length ≤ 4 :=
      List.length_filter_le _ _
    simp only [pathNode, pathState, mirrorState, List.length_map, maxAddrs]
    omega
  obtain ⟨sent, ran⟩ := sendTc_total (pathHosts.config 1) 0 short
  have originates : Originates pathHosts Time.second 1 0 pathNode
      ⟨0, fun v => if v = 1 then sent else pathNode v⟩ :=
    ⟨by decide, pathState_converged Time.second, fun _ _ => rfl, rfl, fun _ _ => rfl, ran,
      fun v foreign => if_neg foreign⟩
  obtain ⟨log, final, run, quiet⟩ := Floods.completes originates (by decide) .start
    (show (0 : Int) ≤ Time.second by decide)
  exact ⟨_, log, final, originates, run, quiet,
    flood_reaches_all (by decide) originates run quiet⟩

end SyncFanet.Olsr
