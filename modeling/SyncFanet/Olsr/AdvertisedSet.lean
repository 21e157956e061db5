import SyncFanet.Library.VersionLog
import SyncFanet.Olsr.AgentWrites

/-!
# The advertised set and its sequence number

The TC messages of a node announce its MPR selectors under the ANSN. Every change
of the selector set advances the ANSN, except for the selectors that `nb_loss`
erases.
-/

set_option autoImplicit false

namespace SyncFanet.Olsr

open VersionLog (Log Entry)

variable {node node' : Node} {config : Config} {now : Int}

variable {iface : Iface} {msg : Msg} {srcAddr : NsAddr}

/-! ## The log of a node -/

def selectorEntry : Action → Option (Entry (List NsAddr))
  | .sentTc tc => some (.announced tc.ansn tc.nbMainAddrs)
  | .selectorsChanged => some .changed
  | _ => none

def selectorLog (history : List Action) : List (Entry (List NsAddr)) :=
  history.filterMap selectorEntry

def advertisedAddrs (node : Node) : List NsAddr :=
  node.state.mprselset.map MprselTuple.mainAddr

/-- The log follows the discipline of version counters, and no selector left its
set while its timer was pending. -/
structure Advertises (node : Node) : Prop where
  log : Log (maxSeqNum + 1) maxSeqNum (selectorLog node.history) node.ansn (advertisedAddrs node)
  attached : node.detachedMprsel = []

structure SameSelectors (node node' : Node) : Prop where
  addrs : advertisedAddrs node' = advertisedAddrs node
  detached : node'.detachedMprsel = node.detachedMprsel
  ansn : node'.ansn = node.ansn
  log : selectorLog node'.history = selectorLog node.history

theorem SameSelectors.refl (node : Node) : SameSelectors node node := ⟨rfl, rfl, rfl, rfl⟩

theorem SameSelectors.trans {first second third : Node} (left : SameSelectors first second)
    (right : SameSelectors second third) : SameSelectors first third where
  addrs := right.addrs.trans left.addrs
  detached := right.detached.trans left.detached
  ansn := right.ansn.trans left.ansn
  log := right.log.trans left.log

theorem Advertises.same (advertises : Advertises node) (same : SameSelectors node node') :
    Advertises node' where
  log := by
    rw [same.log, same.ansn, same.addrs]
    exact advertises.log
  attached := same.detached.trans advertises.attached

theorem Advertises.changed (advertises : Advertises node)
    (ansn : node'.ansn = (node.ansn + 1) % (maxSeqNum + 1))
    (history : node'.history = node.history ++ [.selectorsChanged])
    (detached : node'.detachedMprsel = node.detachedMprsel) : Advertises node' where
  log := by
    have step := advertises.log.change (advertisedAddrs node')
    rw [ansn, history, selectorLog, List.filterMap_append]
    exact step
  attached := detached.trans advertises.attached

theorem initialNode_advertises (config : Config) (start maxTime : Int) :
    Advertises (initialNode config start maxTime) :=
  ⟨.start [] (Nat.lt_succ_self _), rfl⟩

@[simp] theorem selectorLog_append (left right : List Action) :
    selectorLog (left ++ right) = selectorLog left ++ selectorLog right :=
  List.filterMap_append

/-! ## Functions that leave the selectors alone -/

theorem sameSelectors_of_links (written : WritesLinks node node') :
    SameSelectors node node' := by
  obtain ⟨_, _, _, _, rfl⟩ := written
  exact ⟨rfl, rfl, rfl, rfl⟩

theorem sameSelectors_of_nb2hop (written : WritesNb2hop node node') :
    SameSelectors node node' := by
  obtain ⟨_, _, _, _, rfl⟩ := written
  exact ⟨rfl, rfl, rfl, rfl⟩

theorem sameSelectors_of_topology (written : WritesTopology node node') :
    SameSelectors node node' := by
  obtain ⟨_, _, _, _, rfl⟩ := written
  exact ⟨rfl, rfl, rfl, rfl⟩

theorem sameSelectors_of_assocs (written : WritesAssocs node node') :
    SameSelectors node node' := by
  obtain ⟨_, _, _, rfl⟩ := written
  exact ⟨rfl, rfl, rfl, rfl⟩

theorem recomputeMprs_sameSelectors (ran : node.recomputeMprs config = .ok node') :
    SameSelectors node node' := by
  obtain ⟨_, _, rfl⟩ := recomputeMprs_writes ran
  exact ⟨rfl, rfl, rfl, rfl⟩

theorem recomputeRtable_sameSelectors (ran : node.recomputeRtable now = .ok node') :
    SameSelectors node node' := by
  obtain ⟨_, _, rfl⟩ := recomputeRtable_writes ran
  exact ⟨rfl, rfl, rfl, rfl⟩

theorem enqueMsg_sameSelectors (config : Config) (now : Int) (msg : Msg) (node : Node) :
    SameSelectors node (node.enqueMsg config now msg) :=
  ⟨rfl, rfl, rfl, by simp [Node.enqueMsg, Node.record, Node.schedule, Node.drawJitter,
    selectorLog, selectorEntry]⟩

theorem forwardDefault_sameSelectors (config : Config) (now : Int) (msg : Msg)
    (dupTuple : Option DupTuple) (localIface srcAddr : NsAddr) (node : Node) :
    SameSelectors node
      (forwardDefault config now msg dupTuple localIface srcAddr node) := by
  have enqueued := enqueMsg_sameSelectors config now
    { msg with ttl := msg.ttl - 1, hopCount := msg.hopCount + 1 } node
  unfold forwardDefault
  split
  · exact SameSelectors.refl node
  · dsimp only
    split
    · exact SameSelectors.refl node
    · split
      · split
        · exact enqueued.trans ⟨rfl, rfl, rfl, rfl⟩
        · exact ⟨rfl, rfl, rfl, rfl⟩
      · split
        · exact enqueued.trans ⟨rfl, rfl, rfl, rfl⟩
        · exact ⟨rfl, rfl, rfl, rfl⟩

theorem sendHello_sameSelectors (ran : sendHello config now node = .ok node') :
    SameSelectors node node' := by
  obtain ⟨msg, hello, rfl, -⟩ := sendHello_ok ran
  have counted : SameSelectors node node.nextMsgSeq := ⟨rfl, rfl, rfl, rfl⟩
  exact counted.trans (enqueMsg_sameSelectors config now _ node.nextMsgSeq)

theorem sendMid_sameSelectors (config : Config) (now : Int) (node : Node) :
    SameSelectors node (sendMid config now node) := by
  rcases sendMid_cases config now node with same | ⟨msg, -, sent⟩
  · rw [same]
    exact SameSelectors.refl node
  · rw [sent]
    have counted : SameSelectors node node.nextMsgSeq := ⟨rfl, rfl, rfl, rfl⟩
    exact counted.trans (enqueMsg_sameSelectors config now _ node.nextMsgSeq)

theorem sendPkts_sameSelectors (numPkts : Nat) (node : Node) :
    SameSelectors node (sendPkts numPkts node) := by
  induction numPkts generalizing node with
  | zero => exact SameSelectors.refl node
  | succ numPkts ih =>
      have sent : SameSelectors node (sendOnePkt node) :=
        ⟨rfl, rfl, rfl, by simp [sendOnePkt, Node.record, Node.nextPktSeq, selectorLog,
          selectorEntry]⟩
      exact sent.trans (ih (sendOnePkt node))

/-! ## Functions that change the selectors -/

theorem populateSelector_advertises (config : Config) (now validity : Int) (origAddr : NsAddr)
    (addr : NsAddr) (advertises : Advertises node) :
    Advertises (populateSelector config now validity origAddr node addr) := by
  unfold populateSelector
  split
  · split
    · exact advertises.changed rfl rfl rfl
    · have keeps : ∀ tuple : MprselTuple,
          MprselTuple.mainAddr { tuple with time := now + validity } = tuple.mainAddr :=
        fun _ => rfl
      exact advertises.same ⟨updateFirst.map_key keeps _, rfl, rfl, rfl⟩
  · exact advertises

/-- Without a selector to erase `erase_mprsel_tuples` does nothing. -/
theorem eraseMprselTuples_sameSelectors {mainAddr : NsAddr}
    (unselected : node.state.findMprselTuple mainAddr = none) :
    SameSelectors node (node.eraseMprselTuples mainAddr) := by
  have others : ∀ tuple ∈ node.state.mprselset, tuple.mainAddr ≠ mainAddr := by
    simpa [State.findMprselTuple] using unselected
  have quiet : (node.state.mprselset.any fun tuple => decide (tuple.mainAddr = mainAddr)) =
      false := by
    simpa using others
  have kept : (node.state.mprselset.filter fun tuple => !decide (tuple.mainAddr = mainAddr)) =
      node.state.mprselset := by
    simpa [List.filter_eq_self] using others
  have erased : (node.state.mprselset.filter fun tuple => decide (tuple.mainAddr = mainAddr)) =
      [] := by
    simpa [List.filter_eq_nil_iff] using others
  unfold Node.eraseMprselTuples
  dsimp only
  rw [quiet, kept, erased]
  exact ⟨rfl, List.append_nil _, rfl, rfl⟩

theorem nbLoss_sameSelectors {link : LinkTuple}
    (unselected : node.state.findMprselTuple (node.state.getMainAddr link.nbIfaceAddr) = none)
    (ran : nbLoss config now link node = .ok node') : SameSelectors node node' := by
  obtain ⟨computed, mprs, table⟩ := nbLoss_stages ran
  obtain ⟨nbset, written⟩ :=
    updatedLinkTuple_writes config now link willDefault node.state
  have lost : SameSelectors node (lossErased config now link node) := by
    have linked : SameSelectors node
        ({ node with state := { node.state with nbset := nbset } }.eraseNb2hopTuplesOf
          (node.state.getMainAddr link.nbIfaceAddr)) := ⟨rfl, rfl, rfl, rfl⟩
    unfold lossErased Node.mapState
    rw [written]
    exact linked.trans (eraseMprselTuples_sameSelectors unselected)
  exact (lost.trans (recomputeMprs_sameSelectors mprs)).trans
    (recomputeRtable_sameSelectors table)

theorem sendTc_advertises (ran : sendTc config now node = .ok node')
    (advertises : Advertises node) :
    Advertises node' := by
  obtain ⟨msg, tc, rfl, -, -, ansn, nbMainAddrs⟩ := sendTc_ok ran
  refine Advertises.same ?_ (enqueMsg_sameSelectors config now _ _)
  refine ⟨?_, advertises.attached⟩
  have announced := advertises.log.announce
  simpa [Node.record, Node.nextMsgSeq, selectorLog, selectorEntry, advertisedAddrs, ansn,
    nbMainAddrs] using announced

theorem rmMprselTuple_advertises {id : TupleId} {tuple : MprselTuple}
    (advertises : Advertises node)
    (found : (node.state.mprselset ++ node.detachedMprsel).find?
      (fun other => other.id = id) = some tuple) :
    Advertises (node.rmMprselTuple tuple) := by
  rw [advertises.attached, List.append_nil] at found
  have present : (node.state.mprselset.any fun other => decide (other.id = tuple.id)) =
      true := by
    simpa using ⟨tuple, List.mem_of_find?_eq_some found, rfl⟩
  unfold Node.rmMprselTuple
  dsimp only
  rw [present]
  refine advertises.changed rfl rfl ?_
  simp [Node.nextAnsn, Node.record, advertises.attached]

/-! ## Packets -/

theorem processHello_advertises {hello : Hello} {receiverIface senderIface : NsAddr} {index : Nat}
    (ran : processHello config now msg hello receiverIface senderIface index node = .ok node')
    (advertises : Advertises node) : Advertises node' := by
  obtain ⟨sensed, populated, computed, linked, changed, first, second, third, fourth⟩ :=
    processHello_stages ran
  have willing : SameSelectors sensed (sensed.mapState (populateNbset hello msg.origAddr)) :=
    ⟨rfl, rfl, rfl, rfl⟩
  have before : SameSelectors node computed :=
    (((sameSelectors_of_links (linkSensingWith_writes first)).trans willing).trans
      (sameSelectors_of_nb2hop (populateNb2hopsetWith_writes second))).trans
        (recomputeMprs_sameSelectors third)
  exact populateMprselset_keeps Advertises (advertises.same before)
    (fun _ _ _ _ addr _ holds => populateSelector_advertises config now _ msg.origAddr addr holds)
    fourth

theorem processMsg_advertises (ran : processMsg config now iface srcAddr msg node = .ok node')
    (advertises : Advertises node) : Advertises node' := by
  unfold processMsg at ran
  split at ran
  · exact processHello_advertises ran advertises
  · exact advertises.same (sameSelectors_of_topology (processTc_writes ran))
  · rw [← Except.ok.inj ran]
    exact advertises.same (sameSelectors_of_assocs (processMid_writes now msg _ srcAddr _ node))
  · exact Except.ok.inj ran ▸ advertises

theorem recvMsg_advertises (ran : recvMsg config now iface srcAddr node msg = .ok node')
    (advertises : Advertises node) :
    Advertises node' := by
  rcases recvMsg_stages ran with ⟨_, rfl⟩ | ⟨_, processed, processing, rfl⟩
  · exact advertises
  · have handled : Advertises processed := by
      unfold processUnlessDuplicated at processing
      split at processing
      · refine processMsg_advertises processing (advertises.same ⟨rfl, rfl, rfl, ?_⟩)
        simp [Node.record, selectorLog, selectorEntry]
      · exact Except.ok.inj processing ▸ advertises
    split
    · exact handled.same (forwardDefault_sameSelectors config now msg _ iface.addr srcAddr processed)
    · exact handled

theorem recvOlsr_advertises {pkt : Pkt}
    (ran : recvOlsr config now iface srcAddr pkt node = .ok node') (advertises : Advertises node) :
    Advertises node' := by
  rcases recvOlsr_stages ran with ⟨_, rfl⟩ | ⟨handled, loop, table⟩
  · exact advertises
  · have processed : Advertises handled :=
      foldlM_seen loop (fun _ node => Advertises node) advertises
        fun _ msg node node' _ holds ran => recvMsg_advertises ran holds
    exact processed.same (recomputeRtable_sameSelectors table)

/-! ## Timers and link failures -/

/-- The neighbor for which the event runs `nb_loss`. -/
def lossTarget (config : Config) (now : Int) (event : Event) (node : Node) : Option NsAddr :=
  match event with
  | .recv _ _ _ => none
  | .timer =>
      match node.timerQueue with
      | (_, .link id false) :: _ =>
          (node.state.linkset.find? fun link => link.id = id).bind fun link =>
            if now ≤ link.time ∧ link.symTime < now then
              some (node.state.getMainAddr link.nbIfaceAddr)
            else none
      | _ => none
  | .linkBreak destAddr =>
      if config.useMac ∧ destAddr ≠ ipBroadcast then
        (node.rtable.lookup destAddr).bind fun entry =>
          (node.state.findLinkTuple entry.nextAddr).map fun link =>
            node.state.getMainAddr link.nbIfaceAddr
      else none

/-- The event erases no MPR selector through `nb_loss`. -/
def losesNoSelector (config : Config) (now : Int) (event : Event) (node : Node) : Bool :=
  match lossTarget config now event node with
  | none => true
  | some mainAddr => (node.state.findMprselTuple mainAddr).isNone

theorem unselected_of_target {event : Event} {mainAddr : NsAddr}
    (allowed : losesNoSelector config now event node = true)
    (target : lossTarget config now event node = some mainAddr) :
    node.state.findMprselTuple mainAddr = none := by
  simpa [losesNoSelector, target] using allowed

theorem expireLink_sameSelectors {id : TupleId} {firstTime : Bool} {key : Int}
    {rest : List (Int × Timer)} (queue : node.timerQueue = (key, .link id firstTime) :: rest)
    (allowed : losesNoSelector config now .timer node = true)
    (ran : expireLink config now id firstTime { node with timerQueue := rest } = .ok node') :
    SameSelectors { node with timerQueue := rest } node' := by
  obtain ⟨link, found, ⟨_, rfl⟩ | ⟨valid, asymmetric, lost, loss, rfl⟩ | ⟨_, _, rfl⟩⟩ :=
    expireLink_ok ran
  · exact ⟨rfl, rfl, rfl, rfl⟩
  · have rescheduled : SameSelectors lost (lost.scheduleTuple now link.time (.link id false)) :=
      ⟨rfl, rfl, rfl, rfl⟩
    refine SameSelectors.trans ?_ rescheduled
    rcases loss with ⟨-, rfl⟩ | ⟨rfl, loss⟩
    · exact SameSelectors.refl _
    · have target : lossTarget config now .timer node =
          some (node.state.getMainAddr link.nbIfaceAddr) := by
        have stored : node.state.linkset.find? (fun link => link.id = id) = some link := found
        simp only [lossTarget, queue]
        rw [stored]
        simp [asymmetric, valid]
      have unselected := unselected_of_target allowed target
      exact nbLoss_sameSelectors unselected loss
  · exact ⟨rfl, rfl, rfl, rfl⟩

theorem macFailed_sameSelectors {destAddr : NsAddr} (useMac : config.useMac = true)
    (allowed : losesNoSelector config now (.linkBreak destAddr) node = true)
    (ran : macFailed config now destAddr node = .ok node') : SameSelectors node node' := by
  unfold macFailed at ran
  split at ran
  · exact Except.ok.inj ran ▸ SameSelectors.refl node
  · next unicast =>
    split at ran
    · exact Except.ok.inj ran ▸ SameSelectors.refl node
    · next entry routed =>
      split at ran
      · exact Except.ok.inj ran ▸ SameSelectors.refl node
      · next link found =>
        have target : lossTarget config now (.linkBreak destAddr) node =
            some (node.state.getMainAddr link.nbIfaceAddr) := by
          simp [lossTarget, useMac, unicast, routed, found]
        have unselected := unselected_of_target allowed target
        have marked : SameSelectors node (node.mapState fun state => state.updateLinkTuple
            { link with
              lostTime := now + config.neighbHoldTime
              time := now + config.neighbHoldTime }) := ⟨rfl, rfl, rfl, rfl⟩
        exact marked.trans (nbLoss_sameSelectors (by simpa [Node.mapState] using unselected) ran)

theorem expireTimer_advertises {key : Int} {timer : Timer} {rest : List (Int × Timer)}
    (queue : node.timerQueue = (key, timer) :: rest)
    (allowed : losesNoSelector config now .timer node = true)
    (ran : expireTimer config now timer { node with timerQueue := rest } = .ok node')
    (advertises : Advertises node) : Advertises node' := by
  have started : Advertises { node with timerQueue := rest } :=
    advertises.same ⟨rfl, rfl, rfl, rfl⟩
  cases timer with
  | hello =>
      obtain ⟨sent, sending, scheduled⟩ := bind_ok.mp ran
      rw [← Except.ok.inj scheduled]
      exact (started.same (sendHello_sameSelectors sending)).same ⟨rfl, rfl, rfl, rfl⟩
  | tc =>
      obtain ⟨sent, sending, scheduled⟩ := bind_ok.mp ran
      rw [← Except.ok.inj scheduled]
      have announced : Advertises sent := by
        split at sending
        · exact sendTc_advertises sending started
        · exact Except.ok.inj sending ▸ started
      exact announced.same ⟨rfl, rfl, rfl, rfl⟩
  | mid =>
      simp only [expireTimer] at ran
      split at ran
      · exact Except.ok.inj ran ▸ started
      · rw [← Except.ok.inj ran]
        exact (started.same (sendMid_sameSelectors config now _)).same ⟨rfl, rfl, rfl, rfl⟩
  | msg =>
      rw [← Except.ok.inj ran]
      exact started.same (sendPkts_sameSelectors _ _)
  | link id firstTime => exact started.same (expireLink_sameSelectors queue allowed ran)
  | mprsel id =>
      obtain ⟨tuple, found, ⟨_, rfl⟩ | ⟨_, rfl⟩⟩ := expireTuple_ok ran
      · exact rmMprselTuple_advertises started found
      · exact started.same ⟨rfl, rfl, rfl, rfl⟩
  | dup id | nb2hop id | topology id | ifaceAssoc id =>
      obtain ⟨tuple, found, ⟨_, rfl⟩ | ⟨_, rfl⟩⟩ := expireTuple_ok ran
      · exact started.same ⟨rfl, rfl, rfl, rfl⟩
      · exact started.same ⟨rfl, rfl, rfl, rfl⟩

theorem step_advertises {event : Event} (allowed : losesNoSelector config now event node = true)
    (ran : stepWith recvOlsr config now event node = .ok node') (advertises : Advertises node) :
    Advertises node' := by
  cases event with
  | recv iface srcAddr pkt => exact recvOlsr_advertises ran advertises
  | timer =>
      cases queue : node.timerQueue with
      | nil =>
          simp only [stepWith, queue] at ran
          exact Except.ok.inj ran ▸ advertises
      | cons first rest =>
          obtain ⟨key, timer⟩ := first
          simp only [stepWith, queue] at ran
          exact expireTimer_advertises queue allowed ran advertises
  | linkBreak destAddr =>
      simp only [stepWith] at ran
      split at ran
      · next useMac => exact advertises.same (macFailed_sameSelectors useMac allowed ran)
      · exact Except.ok.inj ran ▸ advertises

theorem reached_advertises {clock : Int}
    (reached : Reached recvOlsr config
      (fun now event node => losesNoSelector config now event node = true) clock node) :
    Advertises node := by
  induction reached with
  | initial start maxTime => exact initialNode_advertises config start maxTime
  | step _ _ allowed ran ih => exact step_advertises allowed ran ih

/-! ## Announcements of a run -/

/-- Announcements with the same ANSN, and too few changes between them for it to
wrap, list the same neighbors. -/
def AnsnIdentifies (history : List Action) : Prop :=
  ∀ before between after tc tc',
    history = before ++ .sentTc tc :: (between ++ .sentTc tc' :: after) →
    tc.ansn = tc'.ansn → between.count .selectorsChanged < maxSeqNum + 1 →
    ∀ addr, addr ∈ tc.nbMainAddrs ↔ addr ∈ tc'.nbMainAddrs

theorem changes_selectorLog (history : List Action) :
    VersionLog.changes (selectorLog history) = history.count .selectorsChanged := by
  induction history with
  | nil => rfl
  | cons action history ih =>
      have split : selectorLog (action :: history) =
          selectorLog [action] ++ selectorLog history :=
        selectorLog_append [action] history
      rw [split, VersionLog.changes_append, ih, List.count_cons, Nat.add_comm]
      cases action with
      | selectorsChanged => rfl
      | processed | enqueued | sentTc | sentPkt =>
          simp [selectorLog, selectorEntry, VersionLog.changes, VersionLog.isChange]

theorem Advertises.identifies (advertises : Advertises node) :
    AnsnIdentifies node.history := by
  intro before between after tc tc' split same few addr
  have announced : selectorLog node.history =
      selectorLog before ++ .announced tc.ansn tc.nbMainAddrs ::
        (selectorLog between ++ .announced tc'.ansn tc'.nbMainAddrs :: selectorLog after) := by
    rw [split]
    simp [selectorLog, selectorEntry]
  rw [advertises.log.same_value announced same (by rwa [changes_selectorLog])]

/-- While `nb_loss` erases no selector, the ANSN identifies the advertised set and
counts its changes. -/
theorem ansn_identifies_advertised (config : Config) (clock : Int) (node : Node)
    (reached : Reached recvOlsr config
      (fun now event node => losesNoSelector config now event node = true) clock node) :
    AnsnIdentifies node.history ∧
      node.ansn = (maxSeqNum + node.history.count .selectorsChanged) % (maxSeqNum + 1) := by
  have advertises := reached_advertises reached
  refine ⟨advertises.identifies, ?_⟩
  rw [← changes_selectorLog]
  exact advertises.log.version_eq

/-- Two neighbors select the agent, then a TC message is due, and another one after
the link to the first neighbor broke. -/
def selectorLossRun : List (Int × Event) :=
  [(Time.second, receiveHello 2 2 0 134 10), (Time.second, receiveHello 3 3 0 134 10),
    (6 * Time.second, .linkBreak 2), (7 * Time.second, .timer)]

def strangerLossRun : List (Int × Event) :=
  [(Time.second, receiveHello 2 2 0 134 10), (Time.second, receiveHello 3 3 0 134 10),
    (6 * Time.second, .linkBreak 4), (7 * Time.second, .timer)]

/-- Two announcements of one run. -/
theorem ansn_identifies_advertised_strangerLoss :
    ∃ node : Node, node.history.countP (fun action => (selectorEntry action).isSome) = 4 ∧
      AnsnIdentifies node.history ∧
      node.ansn = (maxSeqNum + node.history.count .selectorsChanged) % (maxSeqNum + 1) := by
  obtain ⟨clock, node, reached, checked⟩ := exists_reached_of_runOf recvOlsr
    (losesNoSelector oneIfaceConfig) strangerLossRun
    (fun current => decide
      (current.2.history.countP (fun action => (selectorEntry action).isSome) = 4))
    (by decide +kernel)
  exact ⟨node, of_decide_eq_true checked,
    ansn_identifies_advertised oneIfaceConfig clock node reached⟩

/-- After the loss the second announcement reuses the ANSN of the first. -/
theorem ansn_reused_after_selectorLoss :
    ¬ ∀ (config : Config) (clock : Int) (node : Node),
      Reached recvOlsr config (fun _ _ _ => True) clock node →
        AnsnIdentifies node.history := by
  intro claimed
  obtain ⟨clock, node, reached, checked⟩ := exists_reached_of_runOf recvOlsr
    (fun _ _ _ => true) selectorLossRun
    (fun current =>
      let history := current.2.history
      decide (history = history.take 5 ++ .sentTc { ansn := 1, nbMainAddrs := [2, 3] } ::
        ((history.drop 6).take 3 ++ .sentTc { ansn := 1, nbMainAddrs := [3] } ::
          history.drop 10) ∧
        ((history.drop 6).take 3).count .selectorsChanged < maxSeqNum + 1))
    (by decide +kernel)
  obtain ⟨split, few⟩ := of_decide_eq_true checked
  have listed := claimed oneIfaceConfig clock node
    (reached.weaken fun _ _ _ _ => trivial) _ _ _ _ _ split rfl few 2
  simp at listed

end SyncFanet.Olsr
