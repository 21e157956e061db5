import SyncFanet.Olsr.AgentOutput
import SyncFanet.Olsr.HelloContents

/-!
# Agents in a static network

Links that neither lose nor reorder packets, with a bound on the time that a packet travels. In
every run all repositories and all messages tell the truth about the network.
-/

set_option autoImplicit false

namespace SyncFanet.Olsr

/-- The agents, and the packets on the link from one address to another with the times at which
they were sent. -/
structure Scene where
  node : NsAddr → Node
  air : NsAddr → NsAddr → List (Int × Pkt)

variable {network : Network} {beacons : Beacons network} {begun clock now : Int} {u v : NsAddr}
  {scene scene' : Scene}

/-- No timer and no packet is late. -/
structure Scene.OnSchedule (beacons : Beacons network) (now : Int) (scene : Scene) : Prop where
  timers : ∀ v ∈ network.nodes, ∀ entry ∈ (scene.node v).timerQueue, now ≤ entry.1
  packets : ∀ u v, network.graph.Adj u v → ∀ entry ∈ scene.air u v, now ≤ entry.1 + beacons.flight

/-- The message is not taken for a duplicate if it is a HELLO. -/
def undoubled (msg : Msg) (node : Node) : Bool :=
  match msg.body with
  | .hello _ => (node.state.findDupTuple msg.origAddr msg.msgSeqNum).isNone
  | _ => true

namespace Beacons

/-- The first timer of an agent fires, and what it sends is on all its links. Or the first packet
on a link arrives. -/
inductive Step (beacons : Beacons network) (now : Int) (scene scene' : Scene) : Prop where
  | timer (u : NsAddr) (isNode : u ∈ network.nodes) (timer : Timer) (rest : List (Int × Timer))
      (due : (scene.node u).timerQueue = (now, timer) :: rest)
      (stepped : stepWith recvOlsr (beacons.config u) now .timer (scene.node u) =
        .ok (scene'.node u))
      (others : ∀ w, w ≠ u → scene'.node w = scene.node w)
      (sent : ∀ v, network.graph.Adj u v → scene'.air u v = scene.air u v ++
        (packetsSent (scene.node u) (scene'.node u)).map fun pkt => (now, pkt))
      (still : ∀ w v, w ≠ u → scene'.air w v = scene.air w v)
  | deliver (u v : NsAddr) (adjacent : network.graph.Adj u v) (sent : Int) (pkt : Pkt)
      (rest : List (Int × Pkt)) (first : scene.air u v = (sent, pkt) :: rest)
      (fresh : eachMsg (recvMsg (beacons.config v) now ⟨beacons.index v, v⟩ u) undoubled pkt.msgs
        (scene.node v) = true)
      (stepped : stepWith recvOlsr (beacons.config v) now (.recv ⟨beacons.index v, v⟩ u pkt)
        (scene.node v) = .ok (scene'.node v))
      (others : ∀ w, w ≠ v → scene'.node w = scene.node w)
      (taken : scene'.air u v = rest)
      (still : ∀ w x, w ≠ u ∨ x ≠ v → scene'.air w x = scene.air w x)

/-- The scenes of the runs, with the time of the last step. The agents have been initialized by
the time at which the run begins. -/
inductive Reached (beacons : Beacons network) (begun : Int) : Int → Scene → Prop where
  | initial (start maxTime : NsAddr → Int) (early : ∀ v ∈ network.nodes, start v ≤ begun) :
      Reached beacons begun begun {
        node := fun v => initialNode (beacons.config v) (start v) (maxTime v)
        air := fun _ _ => [] }
  | step {clock now : Int} {scene scene' : Scene} (before : Reached beacons begun clock scene)
      (later : clock ≤ now) (onSchedule : scene.OnSchedule beacons now)
      (stepped : beacons.Step now scene scene') : Reached beacons begun now scene'

end Beacons

variable {node node' : Node}

/-! ## Truth -/

/-- The repositories show nothing that the network does not have, and no message tells it. -/
structure Scene.Faithful (beacons : Beacons network) (clock : Int) (scene : Scene) : Prop where
  view : ∀ v ∈ network.nodes, NeighborView beacons clock v (scene.node v)
  buffered : ∀ v ∈ network.nodes, ∀ msg ∈ (scene.node v).msgs, beacons.Sends v msg
  flying : ∀ u v, network.graph.Adj u v → ∀ entry ∈ scene.air u v, ∀ msg ∈ entry.2.msgs,
    beacons.Sends u msg

theorem Beacons.Sends.of_aboutTopology {msg : Msg} (about : msg.AboutTopology) :
    beacons.Sends u msg := by
  unfold Beacons.Sends
  cases body : msg.body with
  | hello hello => exact absurd body (about.1 hello)
  | mid mid => exact absurd body (about.2 mid)
  | tc tc | other msgType => trivial

theorem Beacons.Sends.noMid {msg : Msg} (sends : beacons.Sends u msg) (mid : Mid) :
    msg.body ≠ .mid mid := by
  intro body
  simp [Beacons.Sends, body] at sends

theorem sends_of_output (grows : OutputGrows node node')
    (sends : ∀ msg ∈ node.msgs, beacons.Sends u msg) :
    ∀ msg ∈ node'.msgs, beacons.Sends u msg := by
  obtain ⟨more, same, about⟩ := grows.msgs
  intro msg member
  rw [same] at member
  rcases List.mem_append.mp member with old | new
  · exact sends msg old
  · exact .of_aboutTopology (about msg new)

/-! ## What happens at an agent -/

/-- What a timer of an agent does. -/
inductive Fires (beacons : Beacons network) (now : Int) (u : NsAddr) (timer : Timer)
    (node node' : Node) : Prop where
  | hello (fired : timer = .hello) (msg : Msg) (hello : Hello) (body : msg.body = .hello hello)
      (told : TrueHello beacons u msg hello)
      (groups : hello.helloMsgs =
        node.state.linkset.foldl (advertiseLink (beacons.config u) now node.state) [])
      (queued : HelloQueued now beacons.interval beacons.slack msg node node')
  | buffer (fired : timer = .msg) (sent : BufferSent node node')
  | other (noHello : timer ≠ .hello) (noMsg : timer ≠ .msg) (grows : OutputGrows node node')

theorem NeighborView.fires (view : NeighborView beacons now u node) (isNode : u ∈ network.nodes)
    {timer : Timer} (ran : expireTimer (beacons.config u) now timer node = .ok node') :
    Fires beacons now u timer node node' := by
  by_cases hello : timer = .hello
  · subst hello
    obtain ⟨sent, sending, _⟩ := bind_ok.mp ran
    obtain ⟨msg, hello, rfl, body, told, groups⟩ := view.sendHello isNode sending
    exact .hello rfl msg hello body told groups
      (helloTimer_queued (beacons.helloIval_le u isNode) (beacons.jitter_le u isNode) sending ran)
  · by_cases buffer : timer = .msg
    · subst buffer
      rw [← Except.ok.inj ran]
      exact .buffer rfl (sendPkt_sent node)
    · have oneIface : (beacons.config u).ifaces.length ≤ 1 := by
        rw [beacons.oneIface u isNode]
        exact le_refl 1
      exact .other hello buffer
        (expireTimer_outputGrows hello buffer oneIface (beacons.withoutMid u isNode) ran)

theorem NeighborView.expired (view : NeighborView beacons now u node) {timer : Timer}
    (ran : expireTimer (beacons.config u) now timer node = .ok node') :
    NeighborView beacons now u node' :=
  view.timer (expireTimer_effect ran)
    ((wellLinked_rules Guard.always (beacons.config u) now).expireTimer rfl ran view.linked)
    (view.keyed.drops (expireTimer_dropsKeys ran))

/-- The messages of a packet of `u` are processed at `v`, one after the other, and then the
routing table is computed. -/
inductive Hears (beacons : Beacons network) (now : Int) (v u : NsAddr) :
    List Msg → Node → Node → Prop where
  | done {node node' : Node} (same : SameView node node') : Hears beacons now v u [] node node'
  | other {msg : Msg} {rest : List Msg} {node between node' : Node}
      (noHello : ∀ hello, msg.body ≠ .hello hello) (same : SameView node between)
      (later : Hears beacons now v u rest between node') :
      Hears beacons now v u (msg :: rest) node node'
  | hello {msg : Msg} {rest : List Msg} {node between node' : Node} (hello : Hello)
      (body : msg.body = .hello hello)
      (effect : HelloEffect (beacons.config v) now
        (emfToSeconds (secondsToEmf (beacons.config u).neighbHoldTime)) v u hello node between)
      (later : Hears beacons now v u rest between node') :
      Hears beacons now v u (msg :: rest) node node'

theorem NeighborView.hears_msgs {handled : Node} (view : NeighborView beacons now v node)
    (isNode : v ∈ network.nodes) (adjacent : network.graph.Adj v u) {msgs : List Msg}
    (sends : ∀ msg ∈ msgs, beacons.Sends u msg)
    (fresh : eachMsg (Olsr.recvMsg (beacons.config v) now ⟨beacons.index v, v⟩ u) undoubled msgs
      node = true)
    (loop : msgs.foldlM (Olsr.recvMsg (beacons.config v) now ⟨beacons.index v, v⟩ u) node =
      .ok handled)
    (ended : NeighborView beacons now v handled →
      NeighborView beacons now v node' ∧ SameView handled node') :
    NeighborView beacons now v node' ∧ Hears beacons now v u msgs node node' := by
  induction msgs generalizing node with
  | nil =>
      cases loop
      obtain ⟨view', same⟩ := ended view
      exact ⟨view', .done same⟩
  | cons msg rest ih =>
      rw [List.foldlM_cons] at loop
      obtain ⟨between, first, loop⟩ := bind_ok.mp loop
      simp only [eachMsg, first, Bool.and_eq_true] at fresh
      have undoubled : ∀ hello, msg.body = .hello hello →
          node.state.findDupTuple msg.origAddr msg.msgSeqNum = none := by
        intro hello body
        simpa [undoubled, body] using fresh.1
      obtain ⟨view', taken⟩ := view.recvMsg isNode adjacent (sends msg List.mem_cons_self)
        undoubled first
      obtain ⟨view'', hears⟩ := ih view' (fun msg among => sends msg (List.mem_cons_of_mem _ among))
        fresh.2 loop
      rcases taken with ⟨same, noHello⟩ | ⟨hello, body, effect⟩
      · exact ⟨view'', .other noHello same hears⟩
      · exact ⟨view'', .hello hello body effect hears⟩

theorem NeighborView.hears (view : NeighborView beacons now v node) (isNode : v ∈ network.nodes)
    (adjacent : network.graph.Adj v u) {pkt : Pkt} (sends : ∀ msg ∈ pkt.msgs, beacons.Sends u msg)
    (fresh : eachMsg (Olsr.recvMsg (beacons.config v) now ⟨beacons.index v, v⟩ u) undoubled
      pkt.msgs node = true)
    (ran : recvOlsr (beacons.config v) now ⟨beacons.index v, v⟩ u pkt node = .ok node') :
    NeighborView beacons now v node' ∧ Hears beacons now v u pkt.msgs node node' := by
  rcases recvOlsr_stages ran with ⟨empty, rfl⟩ | ⟨handled, loop, table⟩
  · rw [empty]
    exact ⟨view, .done (.refl _)⟩
  · refine view.hears_msgs isNode adjacent sends fresh loop ?_
    intro view
    have same := recomputeRtable_sameView table
    have neighborhood := recomputeRtable_sameNeighborhood table
    have linked := (wellLinked_rules Guard.always (beacons.config v) now).frame _ _ neighborhood
      view.linked
    exact ⟨view.unseen same linked (view.keyed.drops (recomputeRtable_dropsKeys table)), same⟩

/-! ## Every scene is faithful -/

theorem initialNode_view (beacons : Beacons network) (isNode : v ∈ network.nodes)
    (clock start maxTime : Int) :
    NeighborView beacons clock v (initialNode (beacons.config v) start maxTime) := by
  refine ⟨initialNode_wellLinked _ start maxTime, initialNode_keyed _ start maxTime,
    List.forall_mem_nil _, List.forall_mem_nil _, List.forall_mem_nil _, List.forall_mem_nil _, ?_,
    List.forall_mem_nil _, List.forall_mem_nil _⟩
  intro tuple member
  obtain ⟨⟨iface, position⟩, among, rfl⟩ := List.mem_map.mp member
  have known := List.fst_mem_of_mem_zipIdx among
  rw [beacons.oneIface v isNode] at known
  obtain rfl := List.mem_singleton.mp known
  exact ⟨rfl, beacons.main v isNode⟩

namespace Scene.Faithful

theorem initial (beacons : Beacons network) (clock : Int) (start maxTime : NsAddr → Int) :
    Scene.Faithful beacons clock {
      node := fun v => initialNode (beacons.config v) (start v) (maxTime v)
      air := fun _ _ => [] } where
  view v isNode := initialNode_view beacons isNode clock (start v) (maxTime v)
  buffered _ _ := List.forall_mem_nil _
  flying _ _ _ := List.forall_mem_nil _

theorem later (faithful : scene.Faithful beacons clock) (later : clock ≤ now) :
    scene.Faithful beacons now :=
  { faithful with view := fun v isNode => (faithful.view v isNode).later later }

theorem popped (faithful : scene.Faithful beacons now) (isNode : u ∈ network.nodes)
    (rest : List (Int × Timer)) :
    NeighborView beacons now u { scene.node u with timerQueue := rest } := by
  have view := faithful.view u isNode
  refine view.unseen ⟨rfl, rfl, rfl, rfl, List.Subset.refl _⟩ view.linked ?_
  exact view.keyed.drops (.of_same rfl rfl rfl rfl (le_refl _))

end Scene.Faithful

theorem Fires.sends {timer : Timer} (fires : Fires beacons now u timer node node')
    (sends : ∀ msg ∈ node.msgs, beacons.Sends u msg) : ∀ msg ∈ node'.msgs, beacons.Sends u msg := by
  cases fires with
  | hello fired msg hello body told groups queued =>
      intro other member
      rw [queued.msgs] at member
      rcases List.mem_append.mp member with old | new
      · exact sends other old
      · rw [List.mem_singleton.mp new, Beacons.Sends, body]
        exact told
  | buffer fired sent =>
      rw [sent.empty]
      exact List.forall_mem_nil _
  | other noHello noMsg grows => exact sends_of_output grows sends

theorem Fires.packets {timer : Timer} (fires : Fires beacons now u timer node node') {pkt : Pkt}
    (sent : pkt ∈ packetsSent node node') : ∀ msg ∈ pkt.msgs, msg ∈ node.msgs := by
  cases fires with
  | hello fired msg hello body told groups queued =>
      rw [queued.silent] at sent
      cases sent
  | buffer fired buffer =>
      intro msg member
      rw [← buffer.packets]
      exact List.mem_flatMap.mpr ⟨pkt, sent, member⟩
  | other noHello noMsg grows =>
      rw [grows.packetsSent] at sent
      cases sent

theorem TimerEffect.unpopped {config : Config} {rest : List (Int × Timer)}
    (effect : TimerEffect config now { node with timerQueue := rest } node') :
    TimerEffect config now node node' := by
  cases effect with
  | unseen same =>
      exact .unseen ⟨same.linkset, same.nbset, same.nb2hopset, same.mprset, same.assocs⟩
  | linkRemoved link member expired same =>
      exact .linkRemoved link member expired
        ⟨same.linkset, same.nbset, same.nb2hopset, same.mprset, same.assocs⟩
  | neighborLost link member asymmetric lost =>
      exact .neighborLost link member asymmetric
        ⟨lost.linkset, lost.nbset, lost.nb2hopset, lost.assocs, lost.mprs⟩
  | hopRemoved hop member expired removed =>
      exact .hopRemoved hop member expired ⟨removed.linkset, removed.nbset, removed.mprset,
        removed.assocs, removed.fewer, removed.others⟩

namespace Scene.Faithful

theorem fires (faithful : scene.Faithful beacons now) (isNode : u ∈ network.nodes) {timer : Timer}
    {rest : List (Int × Timer)} (due : (scene.node u).timerQueue = (now, timer) :: rest)
    (stepped : stepWith recvOlsr (beacons.config u) now .timer (scene.node u) = .ok node') :
    NeighborView beacons now u node' ∧
      TimerEffect (beacons.config u) now (scene.node u) node' ∧
      Fires beacons now u timer { scene.node u with timerQueue := rest } node' := by
  have popped := faithful.popped isNode rest
  simp only [stepWith, due] at stepped
  exact ⟨popped.expired stepped, (expireTimer_effect stepped).unpopped,
    popped.fires isNode stepped⟩

theorem hears (faithful : scene.Faithful beacons now) (adjacent : network.graph.Adj u v)
    {sent : Int} {pkt : Pkt} {rest : List (Int × Pkt)}
    (first : scene.air u v = (sent, pkt) :: rest)
    (fresh : eachMsg (recvMsg (beacons.config v) now ⟨beacons.index v, v⟩ u) undoubled pkt.msgs
      (scene.node v) = true)
    (stepped : stepWith recvOlsr (beacons.config v) now (.recv ⟨beacons.index v, v⟩ u pkt)
      (scene.node v) = .ok node') :
    NeighborView beacons now v node' ∧ Hears beacons now v u pkt.msgs (scene.node v) node' ∧
      OutputGrows (scene.node v) node' := by
  have sends := faithful.flying u v adjacent (sent, pkt) (first ▸ List.mem_cons_self)
  have isNode := network.adj_mem u v adjacent
  obtain ⟨view, hears⟩ :=
    (faithful.view v isNode).hears isNode adjacent.symm sends fresh stepped
  exact ⟨view, hears, recvOlsr_output (fun msg among => (sends msg among).noMid) stepped⟩

theorem step (faithful : scene.Faithful beacons now) (stepped : beacons.Step now scene scene') :
    scene'.Faithful beacons now := by
  cases stepped with
  | timer u isNode timer rest due stepped others sent still =>
      obtain ⟨view, _, fires⟩ := faithful.fires isNode due stepped
      constructor
      · intro v among
        by_cases here : v = u
        · exact here ▸ view
        · exact others v here ▸ faithful.view v among
      · intro v among
        by_cases here : v = u
        · subst here
          exact fires.sends (faithful.buffered v among)
        · exact others v here ▸ faithful.buffered v among
      · intro w v adjacent entry member msg among
        by_cases here : w = u
        · subst here
          rw [sent v adjacent] at member
          rcases List.mem_append.mp member with old | new
          · exact faithful.flying w v adjacent entry old msg among
          · obtain ⟨pkt, made, rfl⟩ := List.mem_map.mp new
            exact faithful.buffered w isNode msg (fires.packets made msg among)
        · rw [still w v here] at member
          exact faithful.flying w v adjacent entry member msg among
  | deliver u v adjacent sent pkt rest first fresh stepped others taken still =>
      obtain ⟨view, _, grows⟩ := faithful.hears adjacent first fresh stepped
      constructor
      · intro w among
        by_cases here : w = v
        · exact here ▸ view
        · exact others w here ▸ faithful.view w among
      · intro w among
        by_cases here : w = v
        · subst here
          exact sends_of_output grows (faithful.buffered w among)
        · exact others w here ▸ faithful.buffered w among
      · intro w x adjacent' entry member msg among
        by_cases here : w = u ∧ x = v
        · obtain ⟨rfl, rfl⟩ := here
          rw [taken] at member
          refine faithful.flying w x adjacent' entry ?_ msg among
          exact first ▸ List.mem_cons_of_mem _ member
        · rw [still w x (by tauto)] at member
          exact faithful.flying w x adjacent' entry member msg among

end Scene.Faithful

theorem Beacons.Reached.faithful (reached : beacons.Reached begun clock scene) :
    scene.Faithful beacons clock := by
  induction reached with
  | initial start maxTime early => exact .initial beacons begun start maxTime
  | step before later onSchedule stepped ih => exact (ih.later later).step stepped

end SyncFanet.Olsr
