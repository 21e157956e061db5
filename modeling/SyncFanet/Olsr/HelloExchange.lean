import SyncFanet.Olsr.LinkInvariants

/-!
# HELLOs between two nodes

Two agents over a channel that loses, delays and reorders. The logs of the HELLOs that
each of them emitted and heard are no part of the agents.
-/

set_option autoImplicit false

namespace SyncFanet.Olsr

/-! ## HELLOs with their times -/

/-- A HELLO and the time of its emission or reception. -/
structure HelloAt where
  time : Int
  vtime : Nat
  hello : Hello
  deriving DecidableEq

def HelloAt.expires (helloAt : HelloAt) : Int := helloAt.time + emfToSeconds helloAt.vtime

def Hello.Lists (hello : Hello) (addr : NsAddr) : Prop :=
  ∃ group ∈ hello.helloMsgs,
    (group.linkType = symLink ∨ group.linkType = asymLink) ∧ addr ∈ group.nbIfaceAddrs

instance (hello : Hello) (addr : NsAddr) : Decidable (hello.Lists addr) :=
  inferInstanceAs (Decidable (∃ group ∈ hello.helloMsgs, _))

def helloAt (now : Int) (msg : Msg) : Option HelloAt :=
  match msg.body with
  | .hello hello => some { time := now, vtime := msg.vtime, hello := hello }
  | _ => none

/-- The HELLO that the HELLO timer is about to emit, which is the last message that
`send_hello` puts into the buffer. -/
def emission (config : Config) (now : Int) (node : Node) : Option HelloAt :=
  match node.timerQueue with
  | (_, .hello) :: rest =>
      match sendHello config now { node with timerQueue := rest } with
      | .ok sent => sent.msgs.getLast?.bind (helloAt now)
      | .error _ => none
  | _ => none

/-! ## The system -/

inductive Side where
  | a
  | b
  deriving DecidableEq

def Side.peer : Side → Side
  | .a => .b
  | .b => .a

/-- Two agents with one interface each, and the bound on the time between the emission
and the reception of a HELLO. -/
structure Pair where
  config : Side → Config
  iface : Side → Iface
  maxDelay : Int
  oneIface : ∀ side, (config side).ifaces = [iface side]

structure Exchange where
  node : Side → Node
  emitted : Side → List HelloAt
  heard : Side → List HelloAt

namespace Exchange

def setNode (exchange : Exchange) (side : Side) (node : Node) : Exchange :=
  { exchange with node := Function.update exchange.node side node }

/-- Timers fire and links break at any time. A packet arrives from the other node, and
its HELLOs were emitted there within the bound. -/
inductive Step (pair : Pair) (now : Int) : Exchange → Exchange → Prop where
  | timer {exchange : Exchange} (side : Side) {node : Node}
      (stepped : stepWith recvOlsr (pair.config side) now .timer (exchange.node side) = .ok node) :
      Step pair now exchange { exchange.setNode side node with
        emitted := Function.update exchange.emitted side (exchange.emitted side ++
          (emission (pair.config side) now (exchange.node side)).toList) }
  | linkBreak {exchange : Exchange} (side : Side) (destAddr : NsAddr) {node : Node}
      (stepped : stepWith recvOlsr (pair.config side) now (.linkBreak destAddr)
        (exchange.node side) = .ok node) :
      Step pair now exchange (exchange.setNode side node)
  | deliver {exchange : Exchange} (side : Side) (pkt : Pkt) {node : Node}
      (sent : ∀ received ∈ pkt.msgs.filterMap (helloAt now),
        ∃ emitted ∈ exchange.emitted side.peer, emitted.vtime = received.vtime ∧
          emitted.hello = received.hello ∧ emitted.time ≤ now ∧
          now ≤ emitted.time + pair.maxDelay)
      (stepped : stepWith recvOlsr (pair.config side) now
        (.recv (pair.iface side) (pair.iface side.peer).addr pkt) (exchange.node side) =
          .ok node) :
      Step pair now exchange { exchange.setNode side node with
        heard := Function.update exchange.heard side
          (exchange.heard side ++ pkt.msgs.filterMap (helloAt now)) }

/-- The reachable states, with the time of the last step. -/
inductive Reached (pair : Pair) : Int → Exchange → Prop where
  | initial (start maxTime : Int) :
      Reached pair start {
        node := fun side => initialNode (pair.config side) start maxTime
        emitted := fun _ => []
        heard := fun _ => [] }
  | step {clock now : Int} {exchange exchange' : Exchange}
      (before : Reached pair clock exchange) (later : clock ≤ now)
      (stepped : Step pair now exchange exchange') : Reached pair now exchange'

end Exchange

/-! ## Sensing -/

section

variable (config : Config) (now validity : Int) (receiverIface : NsAddr) (hello : Hello)
  (link : LinkTuple)

theorem senseLink_times (updated : Bool) :
    let sensed := (senseLink config now validity receiverIface hello.helloMsgs link updated).1
    sensed.asymTime = now + validity ∧
      (sensed.symTime = link.symTime ∨ sensed.symTime = now - Time.second ∨
        (hello.Lists receiverIface ∧ sensed.symTime = now + validity)) := by
  have groups : ∀ acc : LinkTuple × Bool,
      acc = hello.helloMsgs.foldl (senseGroup config now validity receiverIface)
        ({ link with asymTime := now + validity }, updated) →
      acc.1.asymTime = now + validity ∧
        (acc.1.symTime = link.symTime ∨ acc.1.symTime = now - Time.second ∨
          (hello.Lists receiverIface ∧ acc.1.symTime = now + validity)) := by
    rintro _ rfl
    refine foldl_keeps (senseGroup config now validity receiverIface)
      (fun acc => acc.1.asymTime = now + validity ∧
        (acc.1.symTime = link.symTime ∨ acc.1.symTime = now - Time.second ∨
          (hello.Lists receiverIface ∧ acc.1.symTime = now + validity))) ⟨rfl, .inl rfl⟩ ?_
    rintro group acc member ⟨asym, sym⟩
    unfold senseGroup
    split
    · exact ⟨asym, sym⟩
    · split
      · next listed =>
        split
        · exact ⟨asym, .inr (.inl rfl)⟩
        · split
          · next type => exact ⟨asym, .inr (.inr ⟨⟨group, member, type, listed⟩, rfl⟩)⟩
          · exact ⟨asym, sym⟩
      · exact ⟨asym, sym⟩
  obtain ⟨asym, sym⟩ := groups _ rfl
  exact ⟨asym, sym⟩

end

/-- Where the times of the link tuples come from. The last clause is about the neighbor
tuples, whose status follows a link. -/
structure Heard (config : Config) (addr : NsAddr) (clock : Int) (heard : List HelloAt)
    (node : Node) : Prop where
  linked : WellLinked config node.state node.nextId
  asym : ∀ link ∈ node.state.linkset, ∃ received ∈ heard,
    received.time ≤ clock ∧ link.asymTime = received.expires
  sym : ∀ link ∈ node.state.linkset, link.symTime < clock ∨ ∃ received ∈ heard,
    received.time ≤ clock ∧ received.hello.Lists addr ∧ link.symTime = received.expires
  neighbor : ∀ nb ∈ node.state.nbset, nb.status = .sym →
    ∃ received ∈ heard, received.hello.Lists addr

section

variable {config : Config} {addr : NsAddr} {clock now : Int} {heard heard' : List HelloAt}
  {node node' : Node}

theorem Heard.later (holds : Heard config addr clock heard node) (later : clock ≤ now)
    (more : heard ⊆ heard') : Heard config addr now heard' node where
  linked := holds.linked
  asym := by
    intro link member
    obtain ⟨received, among, before, same⟩ := holds.asym link member
    exact ⟨received, more among, before.trans later, same⟩
  sym := by
    intro link member
    rcases holds.sym link member with ended | ⟨received, among, before, lists, same⟩
    · exact .inl (Int.lt_of_lt_of_le ended later)
    · exact .inr ⟨received, more among, before.trans later, lists, same⟩
  neighbor := by
    intro nb member sym
    obtain ⟨received, among, lists⟩ := holds.neighbor nb member sym
    exact ⟨received, more among, lists⟩

structure HeardLink (addr : NsAddr) (clock : Int) (heard : List HelloAt) (link : LinkTuple) :
    Prop where
  asym : ∃ received ∈ heard, received.time ≤ clock ∧ link.asymTime = received.expires
  sym : link.symTime < clock ∨ ∃ received ∈ heard,
    received.time ≤ clock ∧ received.hello.Lists addr ∧ link.symTime = received.expires

theorem Heard.link (holds : Heard config addr clock heard node) {link : LinkTuple}
    (member : link ∈ node.state.linkset) : HeardLink addr clock heard link :=
  ⟨holds.asym link member, holds.sym link member⟩

theorem Heard.rewrite (holds : Heard config addr clock heard node)
    (linked : WellLinked config node'.state node'.nextId)
    (links : ∀ link ∈ node'.state.linkset, HeardLink addr clock heard link)
    (neighbors : ∀ nb ∈ node'.state.nbset, nb.status = .sym →
      (∃ old ∈ node.state.nbset, old.status = .sym) ∨
        ∃ received ∈ heard, received.hello.Lists addr) :
    Heard config addr clock heard node' where
  linked := linked
  asym := fun link member => (links link member).asym
  sym := fun link member => (links link member).sym
  neighbor := by
    intro nb member sym
    rcases neighbors nb member sym with ⟨old, among, sym⟩ | new
    · exact holds.neighbor old among sym
    · exact new

theorem writeSensed_linkset (config : Config) (now : Int) (willingness : Nat) (link : LinkTuple)
    (updated : Bool) {state : State} (unique : state.nbMains.Nodup) :
    (writeSensed config now willingness link updated state).linkset =
      (state.updateLinkTuple link).linkset := by
  cases updated with
  | false => rfl
  | true =>
      have unique' : (state.updateLinkTuple link).nbMains.Nodup := unique
      exact (updatedLinkTuple_written config now link willingness unique').linkset

theorem writeSensed_nbset (config : Config) (now : Int) (willingness : Nat) (link : LinkTuple)
    (updated : Bool) {state : State} (unique : state.nbMains.Nodup) :
    ∀ nb ∈ (writeSensed config now willingness link updated state).nbset, nb.status = .sym →
      nb ∈ state.nbset ∨ now ≤ link.symTime := by
  intro nb member sym
  cases updated with
  | false => exact .inl member
  | true =>
      have unique' : (state.updateLinkTuple link).nbMains.Nodup := unique
      have written := updatedLinkTuple_written config now link willingness unique'
      rcases written.written nb member with ⟨_, status⟩ | ⟨old, _⟩
      · rw [sym] at status
        right
        unfold linkStatus at status
        split at status
        · cases status
        · split at status
          · assumption
          · cases status
      · exact .inl old

theorem HeardLink.sense {received : HelloAt} (among : received ∈ heard)
    (here : received.time = now) {link link' : LinkTuple} {before updated : Bool}
    (sym : link.symTime < now ∨ ∃ received ∈ heard,
      received.time ≤ now ∧ received.hello.Lists addr ∧ link.symTime = received.expires)
    (sensed : senseLink config now (emfToSeconds received.vtime) addr received.hello.helloMsgs link
      before = (link', updated)) : HeardLink addr now heard link' := by
  have times := senseLink_times config now (emfToSeconds received.vtime) addr received.hello link
    before
  rw [sensed] at times
  obtain ⟨asym, same | ended | ⟨lists, same⟩⟩ := times
  · refine ⟨⟨received, among, le_of_eq here, ?_⟩, same ▸ sym⟩
    rw [asym, HelloAt.expires, here]
  · refine ⟨⟨received, among, le_of_eq here, ?_⟩, .inl ?_⟩
    · rw [asym, HelloAt.expires, here]
    · rw [ended]
      exact Int.sub_lt_self now (by decide)
  · refine ⟨⟨received, among, le_of_eq here, ?_⟩,
      .inr ⟨received, among, le_of_eq here, lists, ?_⟩⟩
    · rw [asym, HelloAt.expires, here]
    · rw [same, HelloAt.expires, here]

theorem HeardLink.lists {link : LinkTuple} (holds : HeardLink addr now heard link)
    (sym : now ≤ link.symTime) : ∃ received ∈ heard, received.hello.Lists addr := by
  rcases holds.sym with ended | ⟨received, among, _, lists, _⟩
  · exact absurd sym (Int.not_le.mpr ended)
  · exact ⟨received, among, lists⟩

def packetGuard (msgs : List Msg) : Guard where
  msg _ _ _ msg _ := decide (msg ∈ msgs)
  timer _ _ _ := true

theorem heard_hello (single : ∀ iface ∈ config.ifaces, iface.addr = addr) {iface : Iface}
    (known : iface ∈ config.ifaces) {srcAddr : NsAddr} {msg : Msg} {hello : Hello} {changed : Bool}
    (body : msg.body = .hello hello)
    (among : { time := now, vtime := msg.vtime, hello := hello } ∈ heard)
    (ran : linkSensingWith true config now msg.vtime hello iface.addr srcAddr iface.index node =
      .ok (node', changed))
    (holds : Heard config addr now heard node) :
    Heard config addr now heard (node'.mapState (populateNbset hello msg.origAddr)) := by
  have own := single iface known
  have linked := (wellLinked_rules Guard.always config now).hello iface srcAddr msg hello node node'
    changed known body rfl ran holds.linked
  let received : HelloAt := { time := now, vtime := msg.vtime, hello := hello }
  -- the status of a neighbor tuple survives `populate_nbset`
  have populated (nbs : List NbTuple) (same : nbs = node'.state.nbset)
      (neighbors : ∀ nb ∈ nbs, nb.status = .sym →
        (∃ old ∈ node.state.nbset, old.status = .sym) ∨
          ∃ received ∈ heard, received.hello.Lists addr) :
      ∀ nb ∈ (populateNbset hello msg.origAddr node'.state).nbset, nb.status = .sym →
        (∃ old ∈ node.state.nbset, old.status = .sym) ∨
          ∃ received ∈ heard, received.hello.Lists addr := by
    intro nb member sym
    have pairs := populateNbset_nbset hello msg.origAddr node'.state
    have image := List.mem_map_of_mem (f := fun nb : NbTuple => (nb.nbMainAddr, nb.status)) member
    rw [pairs] at image
    obtain ⟨old, among, equal⟩ := List.mem_map.mp image
    exact neighbors old (same ▸ among) ((congrArg Prod.snd equal).trans sym)
  rcases linkSensingWith_cases ran with
    ⟨old, link, found, sensed, rfl⟩ | ⟨absent, _, created, link, updated, rfl, sensed, rfl⟩
  · have member := List.mem_of_find?_eq_some found
    rw [own] at sensed
    have after : HeardLink addr now heard link :=
      HeardLink.sense among rfl (holds.sym old member) sensed
    refine holds.rewrite linked ?_ (populated _ rfl ?_)
    · intro other member'
      change other ∈ (writeSensed config now hello.willingness link changed node.state).linkset
        at member'
      rw [writeSensed_linkset config now hello.willingness link changed holds.linked.mains,
        mem_updateLinkTuple holds.linked.ids member (senseLink_same sensed)] at member'
      rcases member' with rfl | ⟨before, _⟩
      · exact after
      · exact holds.link before
    · intro nb member' sym
      rcases writeSensed_nbset config now hello.willingness link changed holds.linked.mains nb
        member' sym with before | valid
      · exact .inl ⟨nb, before, sym⟩
      · exact .inr (after.lists valid)
  · have inserted := holds.linked.insertLink
      (newLinkTuple node.nextId now (emfToSeconds msg.vtime) iface.addr srcAddr iface.index)
      rfl ⟨iface, known, rfl⟩ absent
    have written := addLinkTuple_written now
      (newLinkTuple node.nextId now (emfToSeconds msg.vtime) iface.addr srcAddr iface.index)
      hello.willingness holds.linked.mains
    have added := inserted.writeNb written
    generalize creation : newLinkTuple node.nextId now (emfToSeconds msg.vtime) iface.addr srcAddr
      iface.index = created at *
    have fresh : created.symTime < now := by
      rw [← creation]
      exact Int.sub_lt_self now (by decide)
    have member : created ∈ (addLinkTuple now created hello.willingness node.state).linkset := by
      rw [written.linkset]
      exact List.mem_append_right _ (List.mem_singleton_self _)
    have same := senseLink_same sensed
    rw [own] at sensed
    have after : HeardLink addr now heard link := HeardLink.sense among rfl (.inl fresh) sensed
    refine holds.rewrite linked ?_ (populated _ rfl ?_)
    · intro other member'
      change other ∈ (writeSensed config now hello.willingness link updated
        (addLinkTuple now created hello.willingness node.state)).linkset at member'
      rw [writeSensed_linkset config now hello.willingness link updated added.mains,
        mem_updateLinkTuple added.ids member same] at member'
      rcases member' with rfl | ⟨before, different⟩
      · exact after
      · rw [written.linkset] at before
        rcases List.mem_append.mp before with old | new
        · exact holds.link old
        · exact absurd (congrArg LinkTuple.id (List.mem_singleton.mp new)) different
    · intro nb member' sym
      rcases writeSensed_nbset config now hello.willingness link updated added.mains nb
        member' sym with before | valid
      · rcases written.written nb before with ⟨_, status⟩ | ⟨old, _⟩
        · rw [sym, symStatus, if_neg (Int.not_le.mpr fresh)] at status
          cases status
        · exact .inl ⟨nb, old, sym⟩
      · exact .inr (after.lists valid)

theorem Heard.writeNb (holds : Heard config addr now heard node) {mainAddr : NsAddr}
    {state : State} (written : NbWritten mainAddr .notSym node.state state) :
    Heard config addr now heard (node.mapState fun _ => state) := by
  refine holds.rewrite (holds.linked.writeNb written) ?_ ?_
  · intro link member
    exact holds.link (written.linkset ▸ member)
  · intro nb member sym
    rcases written.written nb member with ⟨_, status⟩ | ⟨old, _⟩
    · rw [sym] at status
      cases status
    · exact .inl ⟨nb, old, sym⟩

theorem heard_rules (single : ∀ iface ∈ config.ifaces, iface.addr = addr) {msgs : List Msg}
    (known : ∀ received ∈ msgs.filterMap (helloAt now), received ∈ heard) :
    NeighborhoodRules (packetGuard msgs) config now (Heard config addr now heard) where
  frame node node' same holds := by
    refine holds.rewrite
      ((wellLinked_rules (packetGuard msgs) config now).frame node node' same holds.linked) ?_ ?_
    · intro link member
      exact holds.link (same.linkset ▸ member)
    · intro nb member sym
      exact .inl ⟨nb, same.nbset ▸ member, sym⟩
  hello iface srcAddr msg hello node node' changed among body met ran holds := by
    refine heard_hello single among body (known _ ?_) ran holds
    exact List.mem_filterMap.mpr ⟨msg, of_decide_eq_true met, by simp [helloAt, body]⟩
  mid iface srcAddr msg mid node body met holds := by
    have linked := (wellLinked_rules (packetGuard msgs) config now).mid iface srcAddr msg mid node
      body met holds.linked
    obtain ⟨_, _, _, written⟩ := processMid_writes now msg mid srcAddr iface.index node
    rw [written] at linked ⊢
    exact ⟨linked, holds.asym, holds.sym, holds.neighbor⟩
  loss node link member lost holds := by
    have written := updatedLinkTuple_written config now link willDefault holds.linked.mains
    have status : linkStatus config now link = .notSym := by
      simp [linkStatus, Int.not_le.mpr lost]
    rw [status] at written
    exact holds.writeNb written
  macLoss node link member useMac holds := by
    have same := lostLinkTuple_same config now link
    have linked := holds.linked.rewriteLink member same
    have rewritten : Heard config addr now heard
        (node.mapState fun state => state.updateLinkTuple (lostLinkTuple config now link)) := by
      refine holds.rewrite linked ?_ fun nb member sym => .inl ⟨nb, member, sym⟩
      intro other member'
      rcases (mem_updateLinkTuple holds.linked.ids member same).mp member' with rfl | ⟨before, _⟩
      · have before := holds.link member
        exact ⟨before.asym, before.sym⟩
      · exact holds.link before
    have written := updatedLinkTuple_written config now (lostLinkTuple config now link)
      willDefault linked.mains
    have later : now ≤ now + config.neighbHoldTime := by
      have positive := config.refreshInterval_pos
      unfold Config.neighbHoldTime
      omega
    have status : linkStatus config now (lostLinkTuple config now link) = .notSym := by
      simp [linkStatus, lostLinkTuple, useMac, later]
    rw [status] at written
    exact rewritten.writeNb written
  rmLink id firstTime node link member same expired met holds := by
    have linked := (wellLinked_rules (packetGuard msgs) config now).rmLink id firstTime node link
      member same expired met holds.linked
    refine holds.rewrite linked ?_ ?_
    · intro other member
      exact holds.link (List.mem_of_mem_eraseP member)
    · intro nb member sym
      exact .inl ⟨nb, List.mem_of_mem_eraseP member, sym⟩
  rmAssoc id node tuple member same expired met holds := by
    have linked := (wellLinked_rules (packetGuard msgs) config now).rmAssoc id node tuple member
      same expired met holds.linked
    exact ⟨linked, holds.asym, holds.sym, holds.neighbor⟩

end

/-! ## What `send_hello` advertises -/

theorem linkType_linkCode : ∀ linkType < 4, ∀ nbType < 3,
    ((linkType &&& 0x03) ||| ((nbType <<< 2) &&& 0x0f)) &&& 0x03 = linkType := by
  decide

theorem nbType_linkCode : ∀ linkType < 4, ∀ nbType < 3,
    ((linkType &&& 0x03) ||| ((nbType <<< 2) &&& 0x0f)) >>> 2 = nbType := by
  decide

theorem helloLinkType_lt (config : Config) (now : Int) (link : LinkTuple) :
    helloLinkType config now link < 4 := by
  unfold helloLinkType
  repeat' split
  all_goals decide

theorem helloNbType_lt {state : State} {link : LinkTuple} {nbType : Nat}
    (known : helloNbType state link = some nbType) : nbType < 3 := by
  simp only [helloNbType] at known
  split at known
  · exact Option.some.inj known ▸ (by decide)
  · obtain ⟨nb, _, rfl⟩ := Option.map_eq_some_iff.mp known
    cases nb.status <;> decide

theorem addToGroup_lists {linkCode : Nat} {ifaceAddr addr : NsAddr} {group : HelloMsg}
    {groups : List HelloMsg} (member : group ∈ addToGroup linkCode ifaceAddr groups)
    (listed : addr ∈ group.nbIfaceAddrs) :
    (∃ old ∈ groups, old.linkCode = group.linkCode ∧ addr ∈ old.nbIfaceAddrs) ∨
      (group.linkCode = linkCode ∧ addr = ifaceAddr) := by
  induction groups with
  | nil =>
      rw [addToGroup, List.mem_singleton] at member
      subst member
      exact .inr ⟨rfl, List.mem_singleton.mp listed⟩
  | cons first rest ih =>
      rw [addToGroup] at member
      split at member
      · next same =>
        rcases List.mem_cons.mp member with rfl | among
        · rcases List.mem_append.mp listed with old | new
          · exact .inl ⟨first, List.mem_cons_self, rfl, old⟩
          · exact .inr ⟨same, List.mem_singleton.mp new⟩
        · exact .inl ⟨group, List.mem_cons_of_mem _ among, rfl, listed⟩
      · rcases List.mem_cons.mp member with rfl | among
        · exact .inl ⟨group, List.mem_cons_self, rfl, listed⟩
        · rcases ih among with ⟨old, before, same⟩ | new
          · exact .inl ⟨old, List.mem_cons_of_mem _ before, same⟩
          · exact .inr new

theorem advertiseLinks_lists (config : Config) (now : Int) (state : State)
    (links : List LinkTuple) :
    ∀ group ∈ links.foldl (advertiseLink config now state) [], ∀ addr ∈ group.nbIfaceAddrs,
      ∃ link ∈ links, link.nbIfaceAddr = addr ∧
        group.linkType = helloLinkType config now link ∧
        helloNbType state link = some group.nbType := by
  refine foldl_keeps (advertiseLink config now state) (fun groups =>
    ∀ group ∈ groups, ∀ addr ∈ group.nbIfaceAddrs, ∃ link ∈ links, link.nbIfaceAddr = addr ∧
      group.linkType = helloLinkType config now link ∧
      helloNbType state link = some group.nbType) nofun ?_
  intro link groups among holds group member addr listed
  unfold advertiseLink at member
  split at member
  · cases known : helloNbType state link with
    | none =>
        rw [known] at member
        exact holds group member addr listed
    | some nbType =>
        rw [known] at member
        rcases addToGroup_lists member listed with ⟨old, before, same, listed⟩ | ⟨code, rfl⟩
        · obtain ⟨link, among, here, type, status⟩ := holds old before addr listed
          exact ⟨link, among, here, (congrArg (· &&& 0x03) same).symm.trans type,
            status.trans (congrArg (fun code => some (code >>> 2)) same)⟩
        · refine ⟨link, among, rfl, ?_, ?_⟩
          · rw [HelloMsg.linkType, code]
            exact linkType_linkCode _ (helloLinkType_lt config now link) _ (helloNbType_lt known)
          · rw [known, HelloMsg.nbType, code, nbType_linkCode _ (helloLinkType_lt config now link) _
              (helloNbType_lt known)]
  · exact holds group member addr listed

theorem helloLinkType_valid {config : Config} {now : Int} {link : LinkTuple}
    (type : helloLinkType config now link = symLink ∨ helloLinkType config now link = asymLink) :
    now ≤ link.symTime ∨ now ≤ link.asymTime := by
  unfold helloLinkType at type
  split at type
  · rcases type with equal | equal <;> cases equal
  · split at type
    · next sym => exact .inl sym
    · split at type
      · next asym => exact .inr asym
      · rcases type with equal | equal <;> cases equal

/-- The message that `send_hello` leaves at the end of the buffer. -/
theorem sendHello_buffered {config : Config} {now : Int} {node sent : Node}
    (sending : sendHello config now node = .ok sent) :
    ∃ msg hello, sent.msgs = node.msgs ++ [msg] ∧ msg.body = .hello hello ∧
      hello.helloMsgs = node.state.linkset.foldl (advertiseLink config now node.state) [] := by
  obtain ⟨msg, hello, rfl, -, body, groups⟩ := sendHello_ok sending
  exact ⟨msg, hello, rfl, body, groups⟩

theorem emission_lists {config : Config} {now : Int} {node : Node} {emitted : HelloAt}
    (emits : emission config now node = some emitted) :
    emitted.time = now ∧ ∀ addr, emitted.hello.Lists addr →
      ∃ link ∈ node.state.linkset, now ≤ link.symTime ∨ now ≤ link.asymTime := by
  unfold emission at emits
  split at emits
  · split at emits
    · next sent sending =>
      obtain ⟨msg, hello, buffered, body, groups⟩ := sendHello_buffered sending
      simp only [buffered, List.getLast?_concat, Option.bind_some, helloAt, body,
        Option.some.injEq] at emits
      subst emits
      refine ⟨rfl, ?_⟩
      rintro addr ⟨group, member, type, listed⟩
      rw [groups] at member
      obtain ⟨link, among, _, same, _⟩ := advertiseLinks_lists config now node.state
        node.state.linkset group member addr listed
      exact ⟨link, among, helloLinkType_valid (same ▸ type)⟩
    · cases emits
  · cases emits

/-! ## Exchanges -/

theorem packetGuard_allows {config : Config} {now : Int} {iface : Iface} {srcAddr : NsAddr}
    {pkt : Pkt} {node : Node} :
    (packetGuard pkt.msgs).allows config now (.recv iface srcAddr pkt) node = true := by
  refine eachMsg_of_forall ?_
  intro msg member node
  simp [Guard.allowsMsg, packetGuard, member]

theorem packetGuard_allows_timer {msgs : List Msg} {config : Config} {now : Int} {node : Node} :
    (packetGuard msgs).allows config now .timer node = true := by
  simp only [Guard.allows]
  split <;> rfl

namespace Exchange

/-- Every HELLO that arrived was emitted by the other node, and every HELLO that lists
an address was emitted while a received one was valid. -/
structure Attributed (pair : Pair) (clock : Int) (exchange : Exchange) : Prop where
  heard : ∀ side, Heard (pair.config side) (pair.iface side).addr clock (exchange.heard side)
    (exchange.node side)
  sent : ∀ side, ∀ received ∈ exchange.heard side, ∃ emitted ∈ exchange.emitted side.peer,
    emitted.vtime = received.vtime ∧ emitted.hello = received.hello ∧
      emitted.time ≤ received.time ∧ received.time ≤ emitted.time + pair.maxDelay
  warranted : ∀ side, ∀ emitted ∈ exchange.emitted side, ∀ addr, emitted.hello.Lists addr →
    ∃ received ∈ exchange.heard side,
      received.time ≤ emitted.time ∧ emitted.time ≤ received.expires

variable {pair : Pair} {clock now : Int} {exchange exchange' : Exchange}

theorem attributed_initial (pair : Pair) (start maxTime : Int) :
    Attributed pair start {
      node := fun side => initialNode (pair.config side) start maxTime
      emitted := fun _ => []
      heard := fun _ => [] } where
  heard _ := ⟨initialNode_wellLinked _ _ _, nofun, nofun, nofun⟩
  sent := nofun
  warranted := nofun

theorem single_iface (pair : Pair) (side : Side) :
    ∀ iface ∈ (pair.config side).ifaces, iface.addr = (pair.iface side).addr := by
  intro iface member
  rw [pair.oneIface side, List.mem_singleton] at member
  rw [member]

theorem heard_upkeep {config : Config} {addr : NsAddr} {heard : List HelloAt} {node node' : Node}
    (single : ∀ iface ∈ config.ifaces, iface.addr = addr) {event : Event}
    (ran : stepWith recvOlsr config now event node = .ok node')
    (noPacket : ∀ iface srcAddr pkt, event ≠ .recv iface srcAddr pkt)
    (holds : Heard config addr now heard node) : Heard config addr now heard node' := by
  have rules : NeighborhoodRules (packetGuard []) config now (Heard config addr now heard) :=
    heard_rules single nofun
  refine rules.event ?_ ran holds ?_
  · intro _
    exact packetGuard_allows_timer
  · intro iface srcAddr pkt _ received
    exact absurd received (noPacket iface srcAddr pkt)

theorem Attributed.emits (holds : Attributed pair clock exchange) (later : clock ≤ now)
    {side : Side} {emitted : HelloAt}
    (emits : emission (pair.config side) now (exchange.node side) = some emitted)
    {addr : NsAddr} (lists : emitted.hello.Lists addr) :
    ∃ received ∈ exchange.heard side,
      received.time ≤ emitted.time ∧ emitted.time ≤ received.expires := by
  obtain ⟨here, listed⟩ := emission_lists emits
  obtain ⟨link, member, valid⟩ := listed addr lists
  have known := ((holds.heard side).later later (List.Subset.refl _)).link member
  rw [here]
  rcases valid with sym | asym
  · rcases known.sym with ended | ⟨received, among, before, _, same⟩
    · exact absurd sym (Int.not_le.mpr ended)
    · exact ⟨received, among, before, same ▸ sym⟩
  · obtain ⟨received, among, before, same⟩ := known.asym
    exact ⟨received, among, before, same ▸ asym⟩

theorem Attributed.update (holds : Attributed pair clock exchange) (later : clock ≤ now)
    {side : Side} {node : Node} {heard : Side → List HelloAt}
    (more : ∀ other, exchange.heard other ⊆ heard other)
    (stepped : Heard (pair.config side) (pair.iface side).addr now (heard side) node) :
    ∀ other, Heard (pair.config other) (pair.iface other).addr now (heard other)
      (Function.update exchange.node side node other) := by
  intro other
  by_cases same : other = side
  · subst same
    rw [Function.update_self]
    exact stepped
  · rw [Function.update_of_ne same]
    exact (holds.heard other).later later (more other)

theorem mem_extended {log : Side → List HelloAt} {side other : Side} {more : List HelloAt}
    {entry : HelloAt} :
    entry ∈ Function.update log side (log side ++ more) other ↔
      entry ∈ log other ∨ (other = side ∧ entry ∈ more) := by
  by_cases same : other = side
  · subst same
    simp
  · simp [same]

theorem Attributed.step (holds : Attributed pair clock exchange) (later : clock ≤ now)
    (stepped : Step pair now exchange exchange') : Attributed pair now exchange' := by
  cases stepped with
  | timer side ran =>
      have before := (holds.heard side).later later (List.Subset.refl _)
      have after := heard_upkeep (single_iface pair side) ran nofun before
      refine ⟨holds.update later (fun _ => List.Subset.refl _) after, ?_, ?_⟩
      · intro other received among
        obtain ⟨emitted, member, origin⟩ := holds.sent other received among
        exact ⟨emitted, mem_extended.mpr (.inl member), origin⟩
      · intro other emitted among addr lists
        rcases mem_extended.mp among with old | ⟨rfl, new⟩
        · exact holds.warranted other emitted old addr lists
        · exact holds.emits later (Option.mem_toList.mp new) lists
  | linkBreak side destAddr ran =>
      have before := (holds.heard side).later later (List.Subset.refl _)
      have after := heard_upkeep (single_iface pair side) ran nofun before
      exact ⟨holds.update later (fun _ => List.Subset.refl _) after, holds.sent, holds.warranted⟩
  | deliver side pkt sent ran =>
      have more : ∀ other, exchange.heard other ⊆ Function.update exchange.heard side
          (exchange.heard side ++ pkt.msgs.filterMap (helloAt now)) other := by
        intro other entry among
        exact mem_extended.mpr (.inl among)
      have before := (holds.heard side).later later (more side)
      have known : ∀ received ∈ pkt.msgs.filterMap (helloAt now),
          received ∈ Function.update exchange.heard side
            (exchange.heard side ++ pkt.msgs.filterMap (helloAt now)) side := by
        intro received among
        exact mem_extended.mpr (.inr ⟨rfl, among⟩)
      have rules := heard_rules (single_iface pair side) known
      have among : pair.iface side ∈ (pair.config side).ifaces := by
        rw [pair.oneIface side]
        exact List.mem_singleton_self _
      have after := rules.recvOlsr among packetGuard_allows ran before
      refine ⟨holds.update later more after, ?_, ?_⟩
      · intro other received among
        rcases mem_extended.mp among with old | ⟨rfl, new⟩
        · exact holds.sent other received old
        · have here : received.time = now := by
            obtain ⟨msg, _, made⟩ := List.mem_filterMap.mp new
            unfold helloAt at made
            split at made
            · exact Option.some.inj made ▸ rfl
            · cases made
          rw [here]
          exact sent received new
      · intro other emitted among addr lists
        obtain ⟨received, member, valid⟩ := holds.warranted other emitted among addr lists
        exact ⟨received, more other member, valid⟩

theorem Reached.attributed (reached : Reached pair clock exchange) :
    Attributed pair clock exchange := by
  induction reached with
  | initial start maxTime => exact attributed_initial pair start maxTime
  | step _ later stepped ih => exact ih.step later stepped

/-- A symmetric link rests on a HELLO of the other node that lists this one, and that
HELLO on one that the other node heard from this one. A node that was never heard has no
symmetric neighbor. -/
theorem symmetry_two_way (reached : Reached pair clock exchange) (later : clock ≤ now)
    (side : Side) :
    (∀ link ∈ (exchange.node side).state.linkset, now ≤ link.symTime →
      ∃ emitted ∈ exchange.emitted side.peer, emitted.hello.Lists (pair.iface side).addr ∧
        emitted.time ≤ now ∧ now ≤ emitted.expires + pair.maxDelay ∧
        ∃ received ∈ exchange.heard side.peer,
          received.time ≤ emitted.time ∧ emitted.time ≤ received.expires ∧
          ∃ first ∈ exchange.emitted side,
            first.hello = received.hello ∧ first.time ≤ received.time) ∧
      (exchange.heard side.peer = [] →
        ∀ nb ∈ (exchange.node side).state.nbset, nb.status ≠ .sym) := by
  have holds := reached.attributed
  have answered : ∀ received ∈ exchange.heard side, received.hello.Lists (pair.iface side).addr →
      ∃ emitted ∈ exchange.emitted side.peer, emitted.hello.Lists (pair.iface side).addr ∧
        emitted.time ≤ received.time ∧
        received.expires ≤ emitted.expires + pair.maxDelay ∧
        ∃ heard ∈ exchange.heard side.peer,
          heard.time ≤ emitted.time ∧ emitted.time ≤ heard.expires := by
    intro received among lists
    obtain ⟨emitted, member, vtime, hello, before, delay⟩ := holds.sent side received among
    rw [← hello] at lists
    refine ⟨emitted, member, lists, before, ?_, holds.warranted _ emitted member _ lists⟩
    unfold HelloAt.expires
    rw [vtime]
    omega
  constructor
  · intro link member sym
    rcases (((holds.heard side).later later (List.Subset.refl _)).link member).sym with
      ended | ⟨received, among, before, lists, same⟩
    · exact absurd sym (Int.not_le.mpr ended)
    · obtain ⟨emitted, member, listed, earlier, delay, heard, among, first, valid⟩ :=
        answered received among lists
      obtain ⟨origin, sent, _, hello, start, _⟩ := holds.sent side.peer heard among
      refine ⟨emitted, member, listed, earlier.trans before, ?_, heard, among, first, valid,
        origin, ?_, hello, start⟩
      · exact (same ▸ sym).trans delay
      · cases side <;> exact sent
  · intro silent nb member sym
    obtain ⟨received, among, lists⟩ := (holds.heard side).neighbor nb member sym
    obtain ⟨_, _, _, _, _, heard, member, _⟩ := answered received among lists
    rw [silent] at member
    cases member

/-! ## A handshake -/

inductive Action where
  | timer (side : Side)
  | deliver (side : Side) (pkt : Pkt)

def perform (pair : Pair) (now : Int) (exchange : Exchange) : Action → Option Exchange
  | .timer side =>
      match stepWith recvOlsr (pair.config side) now .timer (exchange.node side) with
      | .ok node => some { exchange.setNode side node with
          emitted := Function.update exchange.emitted side (exchange.emitted side ++
            (emission (pair.config side) now (exchange.node side)).toList) }
      | .error _ => none
  | .deliver side pkt =>
      if ∀ received ∈ pkt.msgs.filterMap (helloAt now), ∃ emitted ∈ exchange.emitted side.peer,
          emitted.vtime = received.vtime ∧ emitted.hello = received.hello ∧
            emitted.time ≤ now ∧ now ≤ emitted.time + pair.maxDelay then
        match stepWith recvOlsr (pair.config side) now
            (.recv (pair.iface side) (pair.iface side.peer).addr pkt) (exchange.node side) with
        | .ok node => some { exchange.setNode side node with
            heard := Function.update exchange.heard side
              (exchange.heard side ++ pkt.msgs.filterMap (helloAt now)) }
        | .error _ => none
      else none

theorem perform_step {action : Action} (ran : perform pair now exchange action = some exchange') :
    Step pair now exchange exchange' := by
  cases action with
  | timer side =>
      simp only [perform] at ran
      split at ran
      · next stepped =>
        rw [← Option.some.inj ran]
        exact .timer side stepped
      · cases ran
  | deliver side pkt =>
      simp only [perform] at ran
      split at ran
      · next sent =>
        split at ran
        · next stepped =>
          rw [← Option.some.inj ran]
          exact .deliver side pkt sent stepped
        · cases ran
      · cases ran

theorem perform_reached {actions : List Action} (before : Reached pair now exchange)
    (ran : actions.foldlM (perform pair now) exchange = some exchange') :
    Reached pair now exchange' := by
  induction actions generalizing exchange with
  | nil => exact Option.some.inj ran ▸ before
  | cons action rest ih =>
      rw [List.foldlM_cons] at ran
      obtain ⟨middle, first, ran⟩ := Option.bind_eq_some_iff.mp ran
      exact ih (before.step (le_refl _) (perform_step first)) ran

def neighbors : Pair where
  config side := { oneIfaceConfig with
    raAddr := match side with | .a => 1 | .b => 2
    ifaces := [{ index := 0, addr := match side with | .a => 1 | .b => 2 }]
    localAddrs := [match side with | .a => 1 | .b => 2]
    raAddr_local := List.mem_singleton_self _
    ifaces_local := by simp }
  iface side := { index := 0, addr := match side with | .a => 1 | .b => 2 }
  maxDelay := 0
  oneIface _ := rfl

def helloPkt (origAddr : NsAddr) (helloMsgs : List HelloMsg) : Pkt where
  pktSeqNum := 1
  msgs := [{
    vtime := secondsToEmf oneIfaceConfig.neighbHoldTime
    origAddr := origAddr
    ttl := 1
    hopCount := 0
    msgSeqNum := 1
    body := .hello {
      htime := secondsToEmf oneIfaceConfig.helloIval
      willingness := willDefault
      helloMsgs := helloMsgs } }]

def handshake : List Action := [
  .timer .a,
  .deliver .b (helloPkt 1 []),
  .timer .b,
  .timer .b,
  .deliver .a (helloPkt 2 [{ linkCode := asymLink, nbIfaceAddrs := [1] }])]

theorem symmetry_two_way_handshake : ∃ exchange, Reached neighbors Time.second exchange ∧
    (∃ link ∈ (exchange.node .a).state.linkset, Time.second ≤ link.symTime) ∧
    ∃ emitted ∈ exchange.emitted .b, emitted.hello.Lists 1 ∧ Time.second ≤ emitted.expires := by
  have ran : ((handshake.foldlM (perform neighbors Time.second) {
      node := fun side => initialNode (neighbors.config side) Time.second 0
      emitted := fun _ => []
      heard := fun _ => [] }).any fun exchange =>
        decide (∃ link ∈ (exchange.node .a).state.linkset, Time.second ≤ link.symTime)) = true := by
    decide +kernel
  obtain ⟨exchange, ended, sym⟩ := (Option.any_eq_true _ _).mp ran
  have reached := perform_reached (Reached.initial Time.second 0) ended
  obtain ⟨link, member, valid⟩ := of_decide_eq_true sym
  obtain ⟨emitted, among, lists, _, delay, _⟩ :=
    (symmetry_two_way reached (le_refl _) .a).1 link member valid
  refine ⟨exchange, reached, ⟨link, member, valid⟩, emitted, among, lists, ?_⟩
  simpa [neighbors] using delay

end Exchange

end SyncFanet.Olsr
