import SyncFanet.Olsr.NeighborSet
import SyncFanet.Olsr.RtableLayers

/-!
# The assertion of the 2-hop pass

`rtable_computation` asserts an entry for the neighbor of every 2-hop tuple it uses.
The entry exists when associations keep the main addresses of links, so that every
neighbor has a link tuple, and an unexpired link tuple is among those of the
neighbor.
-/

set_option autoImplicit false

namespace SyncFanet.Olsr

variable {node node' : Node} {now : Int} {config : Config} {event : Event}

/-- The assertion before the entry of a neighbor is dereferenced. -/
def missingEntry : Fault := .assertFailed "entry != nullptr"

/-! ## Where the assertion can fail -/

theorem linkSensingWith_avoids (knownUpdated : Bool) (config : Config) (now : Int) (vtime : Nat)
    (hello : Hello) (receiverIface senderIface : NsAddr) (index : Nat) (node : Node) :
    linkSensingWith knownUpdated config now vtime hello receiverIface senderIface index node ≠
      .error missingEntry := by
  unfold linkSensingWith
  dsimp only
  split
  · simp [missingEntry]
  · split
    · simp [missingEntry]
    · split <;> exact nofun

theorem populateNb2hopsetWith_avoids (resolve : State → NsAddr → NsAddr) (config : Config)
    (now : Int) (vtime : Nat) (hello : Hello) (origAddr : NsAddr) (node : Node) :
    populateNb2hopsetWith resolve config now vtime hello origAddr node ≠ .error missingEntry := by
  unfold populateNb2hopsetWith
  dsimp only
  split
  · simp [missingEntry]
  · split
    · simp [missingEntry]
    · exact nofun

theorem populateMprselset_avoids (config : Config) (now : Int) (vtime : Nat) (hello : Hello)
    (origAddr : NsAddr) (node : Node) :
    populateMprselset config now vtime hello origAddr node ≠ .error missingEntry := by
  unfold populateMprselset
  dsimp only
  split
  · simp [missingEntry]
  · split
    · simp [missingEntry]
    · exact nofun

theorem recomputeMprs_avoids (config : Config) (node : Node) :
    node.recomputeMprs config ≠ .error missingEntry := by
  unfold Node.recomputeMprs
  split
  · exact nofun
  · simp [missingEntry]

theorem processHello_avoids (config : Config) (now : Int) (msg : Msg) (hello : Hello)
    (receiverIface senderIface : NsAddr) (index : Nat) (node : Node) :
    processHello config now msg hello receiverIface senderIface index node ≠
      .error missingEntry := by
  refine bind_avoids (linkSensingWith_avoids _ _ _ _ _ _ _ _ _) ?_
  intro sensed _
  refine bind_avoids (populateNb2hopsetWith_avoids _ _ _ _ _ _ _) ?_
  intro populated _
  refine bind_avoids (recomputeMprs_avoids config _) ?_
  intro computed _
  exact populateMprselset_avoids _ _ _ _ _ _

theorem processTc_avoids (now : Int) (msg : Msg) (tc : Tc) (senderIface : NsAddr) (index : Nat)
    (node : Node) : processTc now msg tc senderIface index node ≠ .error missingEntry := by
  unfold processTc
  split
  · exact nofun
  · split
    · exact nofun
    · split
      · simp [missingEntry]
      · exact nofun

theorem recvMsg_avoids (config : Config) (now : Int) (iface : Iface) (srcAddr : NsAddr)
    (node : Node) (msg : Msg) :
    recvMsg config now iface srcAddr node msg ≠ .error missingEntry := by
  unfold recvMsg
  split
  · exact nofun
  · refine bind_avoids ?_ fun _ _ => nofun
    unfold processUnlessDuplicated
    split
    · unfold processMsg
      split
      · exact processHello_avoids _ _ _ _ _ _ _ _
      · exact processTc_avoids _ _ _ _ _ _
      · exact nofun
      · exact nofun
    · exact nofun

theorem expireTuple_avoids {Tuple : Type} (time : Tuple → Int) (found : Option Tuple)
    (now : Int) (timer : Timer) (rm : Tuple → Node) (node : Node) :
    expireTuple time found now timer rm node ≠ .error missingEntry := by
  unfold expireTuple
  split
  · simp [missingEntry]
  · split <;> exact nofun

theorem sendHello_avoids (config : Config) (now : Int) (node : Node) :
    sendHello config now node ≠ .error missingEntry := by
  unfold sendHello
  dsimp only
  split
  · simp [missingEntry]
  · split
    · simp [missingEntry]
    · exact nofun

theorem sendTc_avoids (config : Config) (now : Int) (node : Node) :
    sendTc config now node ≠ .error missingEntry := by
  unfold sendTc
  dsimp only
  split
  · simp [missingEntry]
  · exact nofun

/-- What the event hands to `nb_loss`, if it calls it. -/
def nbLossInput (config : Config) (now : Int) (event : Event) (node : Node) :
    Option (LinkTuple × Node) :=
  match event with
  | .recv _ _ _ => none
  | .timer =>
      match node.timerQueue with
      | (_, .link id false) :: rest =>
          (node.state.linkset.find? fun link => link.id = id).bind fun link =>
            if now ≤ link.time ∧ link.symTime < now then
              some (link, { node with timerQueue := rest })
            else none
      | _ => none
  | .linkBreak destAddr =>
      if config.useMac ∧ destAddr ≠ ipBroadcast then
        (node.rtable.lookup destAddr).bind fun entry =>
          (node.state.findLinkTuple entry.nextAddr).map fun link =>
            (lostLinkTuple config now link, node.mapState fun state =>
              state.updateLinkTuple (lostLinkTuple config now link))
      else none

/-- The node whose routing table the event computes, if it does. -/
def routeInput (config : Config) (now : Int) (event : Event) (node : Node) : Option Node :=
  match event with
  | .recv iface srcAddr pkt =>
      if pkt.msgs = [] then none
      else (pkt.msgs.foldlM (recvMsg config now iface srcAddr) node).toOption
  | .timer | .linkBreak _ =>
      (nbLossInput config now event node).bind fun input =>
        ((lossErased config now input.1 input.2).recomputeMprs config).toOption

def Asserts (config : Config) (now : Int) (event : Event) (node : Node) : Prop :=
  ∃ input, routeInput config now event node = some input ∧
    rtableComputation input.state now = .error missingEntry

theorem recomputeRtable_asserts (failed : node.recomputeRtable now = .error missingEntry) :
    rtableComputation node.state now = .error missingEntry := by
  rcases bind_error.mp failed with failed | ⟨_, _, failed⟩
  · exact failed
  · cases failed

theorem recvOlsr_asserts {iface : Iface} {srcAddr : NsAddr} {pkt : Pkt}
    (failed : recvOlsr config now iface srcAddr pkt node = .error missingEntry) :
    Asserts config now (.recv iface srcAddr pkt) node := by
  unfold recvOlsr at failed
  split at failed
  · cases failed
  · next long =>
    rw [Pkt.byteLength_lt_iff] at long
    split at failed
    · simp [missingEntry] at failed
    · rcases bind_error.mp failed with failed | ⟨handled, ran, failed⟩
      · exact absurd failed (foldlM_avoids (recvMsg_avoids config now iface srcAddr) _ _)
      · refine ⟨handled, ?_, recomputeRtable_asserts failed⟩
        simp [routeInput, long, ran, Except.toOption]

theorem nbLoss_asserts {link : LinkTuple} {before : Node}
    (notRecv : ∀ iface srcAddr pkt, event ≠ .recv iface srcAddr pkt)
    (input : nbLossInput config now event before = some (link, node))
    (failed : nbLoss config now link node = .error missingEntry) :
    Asserts config now event before := by
  have stages : ((lossErased config now link node).recomputeMprs config).bind
      (fun computed => computed.recomputeRtable now) = .error missingEntry := failed
  rcases bind_error.mp stages with failed | ⟨computed, ran, failed⟩
  · exact absurd failed (recomputeMprs_avoids config _)
  · refine ⟨computed, ?_, recomputeRtable_asserts failed⟩
    cases event with
    | recv iface srcAddr pkt => exact absurd rfl (notRecv iface srcAddr pkt)
    | timer | linkBreak => simp [routeInput, input, ran, Except.toOption]

theorem expireTimer_asserts {key : Int} {timer : Timer} {rest : List (Int × Timer)}
    (queue : node.timerQueue = (key, timer) :: rest)
    (failed : expireTimer config now timer { node with timerQueue := rest } = .error missingEntry) :
    Asserts config now .timer node := by
  cases timer with
  | hello => exact absurd failed (bind_avoids (sendHello_avoids _ _ _) fun _ _ => by simp)
  | tc =>
      refine absurd failed (bind_avoids ?_ fun _ _ => by simp)
      split
      · exact sendTc_avoids _ _ _
      · simp
  | mid =>
      simp only [expireTimer] at failed
      split at failed <;> cases failed
  | msg => cases failed
  | link id firstTime =>
      simp only [expireTimer, expireLink] at failed
      split at failed
      · simp [missingEntry] at failed
      · next link found =>
        split at failed
        · cases failed
        · next unexpired =>
          split at failed
          · next asymmetric =>
            rcases bind_error.mp failed with failed | ⟨_, _, failed⟩
            · cases firstTime with
              | true => cases failed
              | false =>
                  refine nbLoss_asserts (by simp) ?_ failed
                  have stored : node.state.linkset.find? (fun link => link.id = id) =
                      some link := found
                  simp [nbLossInput, queue, stored, Int.not_lt.mp unexpired, asymmetric]
            · cases failed
          · cases failed
  | dup id | nb2hop id | mprsel id | topology id | ifaceAssoc id =>
      exact absurd failed (expireTuple_avoids _ _ _ _ _ _)

theorem stepWith_asserts (failed : stepWith recvOlsr config now event node = .error missingEntry) :
    Asserts config now event node := by
  cases event with
  | recv iface srcAddr pkt => exact recvOlsr_asserts failed
  | timer =>
      cases queue : node.timerQueue with
      | nil => simp [stepWith, queue] at failed
      | cons first rest =>
          obtain ⟨key, timer⟩ := first
          simp only [stepWith, queue] at failed
          exact expireTimer_asserts queue failed
  | linkBreak destAddr =>
      simp only [stepWith, macFailed] at failed
      split at failed
      · next useMac =>
        split at failed
        · cases failed
        · next unicast =>
          split at failed
          · cases failed
          · next entry routed =>
            split at failed
            · cases failed
            · next link found =>
              refine nbLoss_asserts (by simp) ?_ failed
              simp [nbLossInput, useMac, unicast, routed, found, lostLinkTuple]
      · cases failed

/-! ## The table of a step -/

def RoutedBy (input : Option Node) (now : Int) (node node' : Node) : Prop :=
  match input with
  | some input => node'.state = input.state ∧ rtableComputation input.state now = .ok node'.rtable
  | none => node'.rtable = node.rtable

theorem recomputeRtable_routed {input : Node} (ran : input.recomputeRtable now = .ok node') :
    RoutedBy (some input) now node node' := by
  obtain ⟨rtable, computed, rfl⟩ := recomputeRtable_writes ran
  exact ⟨rfl, computed⟩

theorem nbLoss_routed {link : LinkTuple} {lost before : Node}
    (notRecv : ∀ iface srcAddr pkt, event ≠ .recv iface srcAddr pkt)
    (input : nbLossInput config now event before = some (link, node))
    (ran : nbLoss config now link node = .ok lost) :
    RoutedBy (routeInput config now event before) now before lost := by
  obtain ⟨computed, mprs, table⟩ := nbLoss_stages ran
  have same : routeInput config now event before = some computed := by
    cases event with
    | recv iface srcAddr pkt => exact absurd rfl (notRecv iface srcAddr pkt)
    | timer | linkBreak => simp [routeInput, input, mprs, Except.toOption]
  rw [same]
  exact recomputeRtable_routed table

theorem output_rtable (written : WritesOutput node node') :
    node'.rtable = node.rtable := by
  obtain ⟨_, _, _, _, _, _, rfl⟩ := written
  rfl

theorem expireTimer_routed {key : Int} {timer : Timer} {rest : List (Int × Timer)}
    (queue : node.timerQueue = (key, timer) :: rest)
    (ran : expireTimer config now timer { node with timerQueue := rest } = .ok node') :
    RoutedBy (routeInput config now .timer node) now node node' := by
  cases timer with
  | hello | tc | mid | msg =>
      simp only [routeInput, nbLossInput, queue, Option.bind_none, RoutedBy]
      have kept := output_rtable (expireTimer_output (by simp) ran)
      exact kept
  | link id firstTime =>
      obtain ⟨link, found, ⟨expired, rfl⟩ | ⟨valid, asymmetric, lost, loss, rfl⟩ |
        ⟨_, symmetric, rfl⟩⟩ := expireLink_ok ran
      · have stored : node.state.linkset.find? (fun link => link.id = id) = some link := found
        have none : routeInput config now .timer node = none := by
          cases firstTime <;>
            simp [routeInput, nbLossInput, queue, stored, Int.not_le.mpr expired]
        rw [none]
        rfl
      · have stored : node.state.linkset.find? (fun link => link.id = id) = some link := found
        rcases loss with ⟨rfl, rfl⟩ | ⟨rfl, loss⟩
        · simp [routeInput, nbLossInput, queue, RoutedBy, Node.scheduleTuple, Node.schedule]
        · have routed : RoutedBy (routeInput config now .timer node) now node lost := by
            refine nbLoss_routed (by simp) ?_ loss
            simp [nbLossInput, queue, stored, valid, asymmetric]
          exact routed
      · have stored : node.state.linkset.find? (fun link => link.id = id) = some link := found
        have none : routeInput config now .timer node = none := by
          cases firstTime <;>
            simp [routeInput, nbLossInput, queue, stored, Int.not_lt.mpr symmetric]
        rw [none]
        rfl
  | mprsel id =>
      simp only [routeInput, nbLossInput, queue, Option.bind_none, RoutedBy]
      obtain ⟨tuple, found, ⟨_, rfl⟩ | ⟨_, rfl⟩⟩ := expireTuple_ok ran
      · unfold Node.rmMprselTuple
        dsimp only
        split <;> rfl
      · rfl
  | dup id | nb2hop id | topology id | ifaceAssoc id =>
      simp only [routeInput, nbLossInput, queue, Option.bind_none, RoutedBy]
      obtain ⟨tuple, found, ⟨_, rfl⟩ | ⟨_, rfl⟩⟩ := expireTuple_ok ran
      · rfl
      · rfl

theorem stepWith_routed (ran : stepWith recvOlsr config now event node = .ok node') :
    RoutedBy (routeInput config now event node) now node node' := by
  cases event with
  | recv iface srcAddr pkt =>
      rcases recvOlsr_stages ran with ⟨empty, rfl⟩ | ⟨handled, loop, table⟩
      · simp [routeInput, empty, RoutedBy]
      · by_cases empty : pkt.msgs = []
        · rw [stepWith, recvOlsr, if_pos ((Pkt.byteLength_lt_iff config.addrSize pkt).mpr empty)]
            at ran
          rw [← Except.ok.inj ran]
          simp [routeInput, empty, RoutedBy]
        · have same : routeInput config now (.recv iface srcAddr pkt) node = some handled := by
            simp [routeInput, empty, loop, Except.toOption]
          rw [same]
          exact recomputeRtable_routed table
  | timer =>
      cases queue : node.timerQueue with
      | nil =>
          simp only [stepWith, queue] at ran
          rw [← Except.ok.inj ran]
          simp [routeInput, nbLossInput, queue, RoutedBy]
      | cons first rest =>
          obtain ⟨key, timer⟩ := first
          simp only [stepWith, queue] at ran
          exact expireTimer_routed queue ran
  | linkBreak destAddr =>
      simp only [stepWith, macFailed] at ran
      split at ran
      · next useMac =>
        split at ran
        · next broadcast =>
          rw [← Except.ok.inj ran]
          simp [routeInput, nbLossInput, broadcast, RoutedBy]
        · next unicast =>
          split at ran
          · next absent =>
            rw [← Except.ok.inj ran]
            simp [routeInput, nbLossInput, absent, RoutedBy]
          · next entry routed =>
            split at ran
            · next absent =>
              rw [← Except.ok.inj ran]
              simp [routeInput, nbLossInput, routed, absent, RoutedBy]
            · next link found =>
              refine nbLoss_routed (by simp) ?_ ran
              simp [nbLossInput, useMac, unicast, routed, found, lostLinkTuple]
      · next noMac =>
        rw [← Except.ok.inj ran]
        simp [routeInput, nbLossInput, noMac, RoutedBy]

/-! ## The condition -/

/-- Whether all link tuples of a main address have expired, though there are some. -/
def onlyExpiredLinks (now : Int) (state : State) (mainAddr : NsAddr) : Bool :=
  let links := state.linkset.filter fun link => state.getMainAddr link.nbIfaceAddr = mainAddr
  !links.isEmpty && links.all fun link => decide (link.time < now)

/-- When the routing table is computed, no symmetric neighbor with a 2-hop tuple has
expired link tuples only. -/
def promptLinks (config : Config) (now : Int) (event : Event) (node : Node) : Bool :=
  (routeInput config now event node).all fun input =>
    input.state.nb2hopset.all fun hop =>
      (input.state.findSymNbTuple hop.nbMainAddr).isNone ||
        !onlyExpiredLinks now input.state hop.nbMainAddr

/-- No association remaps a link, and the links of the neighbors that the 2-hop pass
uses are current. -/
def routesSafely (config : Config) (now : Int) (event : Event) (node : Node) : Bool :=
  stableAssocs.allows config now event node && promptLinks config now event node

/-! ## The input of the computation -/

/-- What every function that touches the neighborhood keeps holds when the routing
table is computed. -/
theorem NeighborhoodRules.routeInput {guard : Guard} {invariant : Node → Prop}
    (rules : NeighborhoodRules guard config now invariant) {clock : Int} {input : Node}
    (enabled : Enabled config clock now event node)
    (met : guard.allows config now event node = true)
    (computed : routeInput config now event node = some input) (holds : invariant node) :
    invariant input := by
  have lose : ∀ link lost, invariant (lost.mapState (updatedLinkTuple config now link willDefault)) →
      ((lossErased config now link lost).recomputeMprs config).toOption = some input →
      invariant input := by
    intro link lost written ran
    cases mprs : (lossErased config now link lost).recomputeMprs config with
    | error fault => simp [mprs, Except.toOption] at ran
    | ok computed =>
        have same : computed = input := by simpa [mprs, Except.toOption] using ran
        exact same ▸ rules.frame _ _ ((lossErased_sameNeighborhood config now link lost).trans
          (recomputeMprs_sameNeighborhood mprs)) written
  cases event with
  | recv iface srcAddr pkt =>
      simp only [Olsr.routeInput] at computed
      split at computed
      · cases computed
      · cases ran : pkt.msgs.foldlM (Olsr.recvMsg config now iface srcAddr) node with
        | error fault => simp [ran, Except.toOption] at computed
        | ok handled =>
            have same : handled = input := by simpa [ran, Except.toOption] using computed
            exact same ▸ eachMsg_keeps invariant
              (fun msg node node' met ran holds =>
                rules.recvMsg (enabled.known iface srcAddr pkt rfl) met ran holds) met ran holds
  | timer =>
      obtain ⟨⟨link, lost⟩, loss, ran⟩ := Option.bind_eq_some_iff.mp computed
      simp only [nbLossInput] at loss
      split at loss
      · next id rest queue =>
        obtain ⟨stored, found, loss⟩ := Option.bind_eq_some_iff.mp loss
        split at loss
        · next asymmetric =>
          cases loss
          refine lose link _ ?_ ran
          exact rules.loss { node with timerQueue := rest } link (List.mem_of_find?_eq_some found)
            asymmetric.2 (rules.frame node _ ⟨rfl, rfl, rfl, le_refl _⟩ holds)
        · cases loss
      · cases loss
  | linkBreak destAddr =>
      obtain ⟨⟨link, lost⟩, loss, ran⟩ := Option.bind_eq_some_iff.mp computed
      simp only [nbLossInput] at loss
      split at loss
      · next useMac =>
        obtain ⟨entry, _, loss⟩ := Option.bind_eq_some_iff.mp loss
        obtain ⟨stored, found, same⟩ := Option.map_eq_some_iff.mp loss
        cases same
        exact lose _ _ (rules.macLoss node stored (List.mem_of_find?_eq_some found) useMac.1 holds)
          ran
      · cases loss

theorem oneHop_of_backed {state : State} (backed : Backed state) {mainAddr : NsAddr}
    (sym : SymNeighbor state mainAddr) (current : onlyExpiredLinks now state mainAddr = false) :
    OneHop state now mainAddr := by
  obtain ⟨nb, member, rfl, status⟩ := sym
  obtain ⟨link, stored, resolves⟩ := backed nb.nbMainAddr (List.mem_map_of_mem member)
  have among : link ∈ state.linkset.filter fun link =>
      state.getMainAddr link.nbIfaceAddr = nb.nbMainAddr :=
    List.mem_filter.mpr ⟨stored, by simpa using resolves⟩
  have nonempty : (state.linkset.filter fun link =>
      state.getMainAddr link.nbIfaceAddr = nb.nbMainAddr) ≠ [] := List.ne_nil_of_mem among
  simp only [onlyExpiredLinks, Bool.and_eq_false_iff, Bool.not_eq_false', List.isEmpty_iff,
    nonempty, false_or, List.all_eq_false, decide_eq_true_eq, Int.not_lt] at current
  obtain ⟨unexpired, filtered, later⟩ := current
  have shares := List.mem_filter.mp filtered
  refine ⟨nb, member, status, unexpired, ?_, .inr rfl⟩
  exact List.mem_filter.mpr ⟨shares.1, by simpa [later] using shares.2⟩

/-- In runs that route safely no computation of the routing table finds the entry
of a neighbor missing. -/
theorem twoHop_entries_present (config : Config) (clock : Int) (node : Node)
    (reached : Reached recvOlsr config
      (fun now event node => routesSafely config now event node = true) clock node) :
    ∀ now event, Enabled config clock now event node →
      routesSafely config now event node = true →
      stepWith recvOlsr config now event node ≠ .error missingEntry := by
  have stable : ∀ now event node, routesSafely config now event node = true →
      stableAssocs.allows config now event node = true := by
    intro now event node met
    simp only [routesSafely, Bool.and_eq_true] at met
    exact met.1
  have backed := reached_neighborhood (fun time maxTime =>
    ⟨initialNode_wellLinked config time maxTime, nofun⟩)
    (backed_rules (Guard.Implies.refl stableAssocs) config) stable reached
  intro now event enabled met failed
  obtain ⟨input, computed, asserted⟩ := stepWith_asserts failed
  have holds := (backed_rules (Guard.Implies.refl stableAssocs) config now).routeInput enabled
    (stable now event node met) computed backed
  have succeeds : ∃ rtable, rtableComputation input.state now = .ok rtable := by
    rw [rtableComputation_ok_iff]
    intro hop member qualifies
    have sym := (inN2_iff.mp qualifies).1
    refine oneHop_of_backed holds.2 sym ?_
    simp only [routesSafely, Bool.and_eq_true, promptLinks, computed, Option.all_some,
      List.all_eq_true] at met
    have prompt := met.2 hop member
    simp only [Bool.or_eq_true, Option.isNone_iff_eq_none, findSymNbTuple_eq_none,
      Bool.not_eq_true'] at prompt
    exact prompt.resolve_left fun none => none sym
  obtain ⟨rtable, ran⟩ := succeeds
  cases ran.symm.trans asserted

def receiveTwoHopHello (msgSeqNum vtime : Nat) : Event :=
  receive 2 2 msgSeqNum vtime (.hello {
    htime := 0
    willingness := willDefault
    helloMsgs := [
      { linkCode := 10, nbIfaceAddrs := [1] },
      { linkCode := 6, nbIfaceAddrs := [3] }] })

def twoHopRun : List (Int × Event) :=
  [(Time.second, receiveTwoHopHello 0 136), (2 * Time.second, receive 2 2 1 0 (.other 0))]

def shortenedLinkRun : List (Int × Event) :=
  [(Time.second, receiveTwoHopHello 0 136), (2 * Time.second, receiveHello 2 2 1 0 10),
    (9 * Time.second, .linkBreak 4)]

theorem twoHop_entries_present_twoHop :
    ∃ clock node, node.state.nb2hopset.any (inN2 node.state) = true ∧
      ∀ now event, Enabled oneIfaceConfig clock now event node →
        routesSafely oneIfaceConfig now event node = true →
        stepWith recvOlsr oneIfaceConfig now event node ≠ .error missingEntry := by
  obtain ⟨clock, node, reached, checked⟩ := exists_reached_of_runOf recvOlsr
    (routesSafely oneIfaceConfig) twoHopRun
    (fun current => current.2.state.nb2hopset.any (inN2 current.2.state)) (by decide +kernel)
  exact ⟨clock, node, checked, twoHop_entries_present oneIfaceConfig clock node reached⟩

/-- The timer of the link waits for the validity time of the first HELLO. -/
theorem twoHop_entry_missing_of_shortenedLink :
    ¬ ∀ (config : Config) (clock : Int) (node : Node),
      Reached recvOlsr config (fun _ _ _ => True) clock node →
        ∀ now event, Enabled config clock now event node →
          stepWith recvOlsr config now event node ≠ .error missingEntry := by
  intro claimed
  let packet := receive 2 2 2 0 (.other 0)
  obtain ⟨clock, node, reached, checked⟩ := exists_reached_of_runOf recvOlsr
    (fun _ _ _ => true) shortenedLinkRun
    (fun current =>
      isEnabled oneIfaceConfig (fun _ _ _ => true) current.1 (9 * Time.second) packet current.2 &&
        match stepWith recvOlsr oneIfaceConfig (9 * Time.second) packet current.2 with
        | .error fault => decide (fault = missingEntry)
        | .ok _ => false)
    (by decide +kernel)
  simp only [Bool.and_eq_true] at checked
  obtain ⟨enabled, failed⟩ := checked
  refine claimed oneIfaceConfig clock node (reached.weaken fun _ _ _ _ => trivial)
    (9 * Time.second) packet (enabled_of_isEnabled enabled).1 ?_
  split at failed
  · next fault ran => rw [ran, of_decide_eq_true failed]
  · cases failed

end SyncFanet.Olsr
