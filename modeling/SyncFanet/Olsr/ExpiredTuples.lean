import SyncFanet.Olsr.MessageDeadlines
import SyncFanet.Olsr.SymmetricDeadlines

/-!
# Expired tuples

A timer that is armed for an old deadline may fire long after a shorter one, and the
first time that a link timer fires it reports no loss. Without either, expired tuples
are gone once the timers have fired.
-/

set_option autoImplicit false

namespace SyncFanet.Olsr

section

variable {config : Config} {clock now : Int} {node node' : Node}

/-! ## The invariant -/

structure OnTime (config : Config) (clock : Int) (node : Node) : Prop where
  linked : WellLinked config node.state node.nextId
  tuples : Timely node
  dups : DupsWithin clock node
  symmetric : SymTimely clock node

theorem DupsWithin.quiet (within : DupsWithin clock node) (later : clock ≤ now)
    (times : deadlines node'.state ⊆ deadlines node.state) : DupsWithin now node' := by
  intro tuple member
  obtain ⟨old, among, _, same⟩ | other := mem_deadlines.mp (times (dup_deadline member))
  · have bound := within old among
    omega
  · simp at other

theorem WellLinked.frame (linked : WellLinked config node.state node.nextId)
    (same : SameNeighborhood node node') : WellLinked config node'.state node'.nextId :=
  (wellLinked_rules Guard.always config 0).frame node node' same linked

namespace OnTime

theorem quiet (onTime : OnTime config clock node) (later : clock ≤ now)
    (same : SameNeighborhood node node') (quiet : Quiet node node') : OnTime config now node' where
  linked := onTime.linked.frame same
  tuples := onTime.tuples.quiet quiet
  dups := onTime.dups.quiet later quiet.times
  symmetric := onTime.symmetric.frame later onTime.linked same quiet.timers

end OnTime

variable {iface : Iface} {msg : Msg} {srcAddr : NsAddr}

/-! ## Reception -/

theorem record_quiet (action : Action) : Quiet node (node.record action) :=
  quiet_of_eq rfl rfl (List.Subset.refl _)

theorem processHello_onTime {hello : Hello} {index : Nat} (onTime : OnTime config now node)
    (known : iface ∈ config.ifaces)
    (ran : processHello config now msg hello iface.addr srcAddr index node = .ok node')
    (met : HelloOnTime config now msg hello iface.addr srcAddr node) : OnTime config now node' := by
  obtain ⟨sensed, changed, sensing, _, _, same, populating, after⟩ :=
    processHello_timely ran onTime.tuples met
  have sensedLinked : WellLinked config sensed.state sensed.nextId := by
    rcases linkSensingWith_cases sensing with
      ⟨old, link, found, sense, rfl⟩ | ⟨absent, _, created, link, updated, rfl, sense, rfl⟩
    · exact onTime.linked.sensed now hello.willingness (List.mem_of_find?_eq_some found)
        (senseLink_same sense) changed
    · have added := (onTime.linked.insertLink _ rfl ⟨iface, known, rfl⟩ absent).writeNb
        (addLinkTuple_written now (newLinkTuple node.nextId now (emfToSeconds msg.vtime)
          iface.addr srcAddr index) hello.willingness onTime.linked.mains)
      exact added.sensed now hello.willingness (mem_inserted node.state _) (senseLink_same sense)
        updated
  have symmetric := linkSensing_symTimely (le_refl now) onTime.symmetric onTime.tuples
    onTime.linked ⟨iface, known, rfl⟩ sensing met.link
  have willing := sensedLinked.willing hello msg.origAddr
  have timers : NewTimers (sensed.mapState (populateNbset hello msg.origAddr)) node' :=
    ⟨populating.nextId, populating.entries⟩
  have dups := (processHello_sameDups ran).dupset
  exact ⟨willing.frame same, after, onTime.dups.mono (le_refl _) (dups ▸ List.Subset.refl _),
    (populateNbset_symTimely symmetric hello msg.origAddr).frame (le_refl _) willing same timers⟩

/-- A message that is processed keeps the main addresses of the links and refreshes
tuples in time. -/
def msgOnTime (config : Config) (now : Int) (iface : Iface) (srcAddr : NsAddr) (msg : Msg)
    (node : Node) : Bool :=
  !processes config msg node.state ||
    (stableAssocs.msg now iface srcAddr msg node.state &&
      decide (MsgOnTime config now iface srcAddr msg node))

theorem processMsg_onTime (onTime : OnTime config now node) (known : iface ∈ config.ifaces)
    (stable : stableAssocs.msg now iface srcAddr msg node.state = true)
    (met : MsgOnTime config now iface srcAddr msg node)
    (ran : processMsg config now iface srcAddr msg node = .ok node') : OnTime config now node' := by
  have dups := (processMsg_sameDups ran).dupset
  have within : DupsWithin now node' := onTime.dups.mono (le_refl _) (dups ▸ List.Subset.refl _)
  cases body : msg.body with
  | hello hello =>
      simp only [processMsg, body] at ran
      simp only [MsgOnTime, body] at met
      exact processHello_onTime onTime known ran met
  | tc tc =>
      simp only [processMsg, body] at ran
      simp only [MsgOnTime, body] at met
      obtain ⟨timers, after⟩ := processTc_timely ran onTime.tuples met
      have same := sameNeighborhood_of_topology (processTc_writes ran)
      exact ⟨onTime.linked.frame same, after, within,
        onTime.symmetric.frame (le_refl _) onTime.linked same timers⟩
  | mid mid =>
      simp only [processMsg, body] at ran
      rw [← Except.ok.inj ran] at within ⊢
      have quiet : Quiet node (processMid now msg mid srcAddr iface.index node) :=
        processMid_quiet now msg mid srcAddr iface.index
      obtain ⟨links, nbset⟩ := processMid_sameLinks body stable
      obtain ⟨_, _, _, written⟩ := processMid_writes now msg mid srcAddr iface.index node
      have linkset : (processMid now msg mid srcAddr iface.index node).state.linkset =
          node.state.linkset := by
        rw [written]
      refine ⟨(wellLinked_rules Guard.always config now).mid iface srcAddr msg mid node body rfl
        onTime.linked, onTime.tuples.quiet quiet, within, ?_⟩
      refine onTime.symmetric.transfer (le_refl _) linkset links.mains ?_ ?_
      · intro link member due
        exact quiet.timers.dueBy (onTime.linked.fresh link member) due
      · intro nb among sym
        exact ⟨nb, nbset ▸ among, rfl, sym⟩
  | other msgType =>
      simp only [processMsg, body] at ran
      exact Except.ok.inj ran ▸ onTime

theorem MsgOnTime.record (met : MsgOnTime config now iface srcAddr msg node) (action : Action) :
    MsgOnTime config now iface srcAddr msg (node.record action) := by
  cases body : msg.body with
  | hello hello =>
      simp only [MsgOnTime, body] at met ⊢
      exact ⟨met.link, met.hops, met.selectors⟩
  | tc tc =>
      simp only [MsgOnTime, body] at met ⊢
      exact met
  | mid mid => simp only [MsgOnTime, body]
  | other msgType => simp only [MsgOnTime, body]

theorem recvMsg_onTime (known : iface ∈ config.ifaces)
    (met : msgOnTime config now iface srcAddr msg node = true)
    (ran : recvMsg config now iface srcAddr node msg = .ok node')
    (onTime : OnTime config now node) : OnTime config now node' := by
  rcases recvMsg_stages ran with ⟨_, rfl⟩ | ⟨handled, processed, processing, rfl⟩
  · exact onTime
  · have after : OnTime config now processed := by
      unfold processUnlessDuplicated at processing
      split at processing
      · next fresh =>
        have taken : processes config msg node.state = true := by
          simp only [not_or, Bool.not_eq_true] at handled
          simp [processes, handled.1, handled.2, fresh]
        simp only [msgOnTime, taken, Bool.not_true, Bool.false_or, Bool.and_eq_true,
          decide_eq_true_eq] at met
        have recorded : OnTime config now (node.record (.processed msg.origAddr msg.msgSeqNum)) :=
          onTime.quiet (le_refl _) ⟨rfl, rfl, rfl, le_refl _⟩ (record_quiet _)
        have stable : stableAssocs.msg now iface srcAddr msg
            (node.record (.processed msg.origAddr msg.msgSeqNum)).state = true := met.1
        exact processMsg_onTime recorded known stable (met.2.record _) processing
      · exact Except.ok.inj processing ▸ onTime
    split
    · have forwarded : NewTimers processed (forwardDefault config now msg
            (node.state.findDupTuple msg.origAddr msg.msgSeqNum) iface.addr srcAddr processed) ∧
          Timely (forwardDefault config now msg
            (node.state.findDupTuple msg.origAddr msg.msgSeqNum) iface.addr srcAddr processed) ∧
          DupsWithin now (forwardDefault config now msg
            (node.state.findDupTuple msg.origAddr msg.msgSeqNum) iface.addr srcAddr processed) :=
        forwardDefault_timely after.tuples after.dups
      obtain ⟨timers, tuples, dups⟩ := forwarded
      have same := sameNeighborhood_of_forwarding
        (forwardDefault_writes config now msg
          (node.state.findDupTuple msg.origAddr msg.msgSeqNum) iface.addr srcAddr processed)
      exact ⟨after.linked.frame same, tuples, dups,
        after.symmetric.frame (le_refl _) after.linked same timers⟩
    · exact after

/-! ## Link failures -/

theorem nbLoss_onTime {link : LinkTuple} (ran : nbLoss config now link node = .ok node')
    (lost : OnTime config now (node.mapState (updatedLinkTuple config now link willDefault))) :
    OnTime config now node' ∧ SameNeighborhood
      (node.mapState (updatedLinkTuple config now link willDefault)) node' := by
  obtain ⟨computed, mprs, table⟩ := nbLoss_stages ran
  have same := ((lossErased_sameNeighborhood config now link node).trans
    (recomputeMprs_sameNeighborhood mprs)).trans (recomputeRtable_sameNeighborhood table)
  have erased : Quiet (node.mapState (updatedLinkTuple config now link willDefault))
      (lossErased config now link node) := by
    have fewer : deadlines (lossErased config now link node).state ⊆
        deadlines (node.mapState (updatedLinkTuple config now link willDefault)).state := by
      unfold lossErased Node.eraseMprselTuples
      dsimp only
      split
      · exact deadlines_subset (List.Subset.refl _) (List.Subset.refl _)
          (List.filter_subset_self _) (List.filter_subset_self _) (List.Subset.refl _)
      · exact deadlines_subset (List.Subset.refl _) (List.Subset.refl _)
          (List.filter_subset_self _) (List.filter_subset_self _) (List.Subset.refl _)
    refine quiet_of_eq ?_ ?_ fewer
    · unfold lossErased Node.eraseMprselTuples
      dsimp only
      split <;> rfl
    · unfold lossErased Node.eraseMprselTuples
      dsimp only
      split <;> rfl
  have quiet := (erased.trans (recomputeMprs_quiet mprs)).trans (recomputeRtable_quiet table)
  exact ⟨lost.quiet (le_refl _) same quiet, same⟩

theorem updatedLinkTuple_quiet (link : LinkTuple) :
    Quiet node (node.mapState (updatedLinkTuple config now link willDefault)) := by
  obtain ⟨nbset, written⟩ := updatedLinkTuple_writes config now link willDefault node.state
  refine quiet_of_eq rfl rfl ?_
  simp only [Node.mapState, written]
  exact deadlines_subset (List.Subset.refl _) (List.Subset.refl _) (List.Subset.refl _)
    (List.Subset.refl _) (List.Subset.refl _)

theorem symmetryLost_onTime (onTime : OnTime config clock node) (later : clock ≤ now)
    {link : LinkTuple} (member : link ∈ node.state.linkset) (ended : link.symTime < now) :
    OnTime config now (node.mapState (updatedLinkTuple config now link willDefault)) := by
  have written := updatedLinkTuple_written config now link willDefault onTime.linked.mains
  have status : linkStatus config now link = .notSym := by
    have past : ¬ link.symTime ≥ now := Int.not_le.mpr ended
    simp [linkStatus, past]
  have quiet : Quiet node (node.mapState (updatedLinkTuple config now link willDefault)) :=
    updatedLinkTuple_quiet link
  refine ⟨onTime.linked.writeNb written, onTime.tuples.quiet quiet,
    onTime.dups.quiet later quiet.times, ?_⟩
  refine onTime.symmetric.lose later onTime.linked member ⟨rfl, rfl, rfl⟩ rfl ?_
  rw [updateLinkTuple_self onTime.linked.ids member, ← status]
  exact written

/-- The timer of the link that a failure shortens fires by the new time. -/
def BreakOnTime (config : Config) (now : Int) (destAddr : NsAddr) (node : Node) : Prop :=
  ∀ entry ∈ node.rtable.lookup destAddr, ∀ link ∈ node.state.findLinkTuple entry.nextAddr,
    DueBy node.timerQueue (.link, link.id) (now + config.neighbHoldTime)

instance (destAddr : NsAddr) : Decidable (BreakOnTime config now destAddr node) :=
  inferInstanceAs (Decidable (∀ entry ∈ node.rtable.lookup destAddr, _))

theorem macFailed_onTime {destAddr : NsAddr} (onTime : OnTime config clock node)
    (later : clock ≤ now) (useMac : config.useMac = true)
    (met : BreakOnTime config now destAddr node)
    (ran : macFailed config now destAddr node = .ok node') : OnTime config now node' := by
  have unchanged : OnTime config now node :=
    onTime.quiet later (SameNeighborhood.refl node) (Quiet.refl node)
  unfold macFailed at ran
  split at ran
  · exact Except.ok.inj ran ▸ unchanged
  · split at ran
    · exact Except.ok.inj ran ▸ unchanged
    · next entry routed =>
      split at ran
      · exact Except.ok.inj ran ▸ unchanged
      · next link found =>
        refine (nbLoss_onTime ran ?_).1
        let lost := lostLinkTuple config now link
        have stored := List.mem_of_find?_eq_some found
        have same := lostLinkTuple_same config now link
        have due := met entry routed link found
        have shortened := onTime.linked.rewriteLink stored same
        have written := updatedLinkTuple_written config now lost willDefault shortened.mains
        have hold : 0 ≤ config.neighbHoldTime := by
          have positive := config.refreshInterval_pos
          unfold Config.neighbHoldTime
          omega
        have status : linkStatus config now lost = .notSym := by
          have lasting : lost.lostTime ≥ now := by
            change now + config.neighbHoldTime ≥ now
            omega
          unfold linkStatus
          rw [if_pos ⟨useMac, lasting⟩]
        let updated := node.mapState fun state => state.updateLinkTuple lost
        have tuples : Timely updated := by
          have timers : NewTimers node updated := newTimers_of_eq rfl rfl
          refine onTime.tuples.refresh timers ?_
          intro ref time member
          rw [mem_deadlines] at member
          rcases member with dup | ⟨other, among, owner, expires⟩ | rest
          · exact .inl (mem_deadlines.mpr (.inl dup))
          · cases (mem_updateLinkTuple onTime.linked.ids stored same).mp among with
            | inl here =>
                subst here
                refine .inr ⟨link.time, mem_deadlines.mpr (.inr (.inl ⟨link, stored, owner, rfl⟩)), ?_⟩
                rw [← owner, ← expires]
                exact due
            | inr old => exact .inl (mem_deadlines.mpr (.inr (.inl ⟨other, old.1, owner, expires⟩)))
          · exact .inl (mem_deadlines.mpr (.inr (.inr rest)))
        have quiet : Quiet updated (updated.mapState (updatedLinkTuple config now lost willDefault)) :=
          updatedLinkTuple_quiet lost
        refine ⟨shortened.writeNb written, tuples.quiet quiet, ?_, ?_⟩
        · have dups : (updated.mapState
              (updatedLinkTuple config now lost willDefault)).state.dupset = node.state.dupset := by
            obtain ⟨_, written⟩ := updatedLinkTuple_writes config now lost willDefault updated.state
            simp only [Node.mapState, written]
            rfl
          exact onTime.dups.mono later (dups ▸ List.Subset.refl _)
        · refine onTime.symmetric.lose later onTime.linked stored same rfl ?_
          rw [← status]
          exact written

/-! ## Timers -/

theorem Timely.rearm (timely : Timely node) {ref : TupleRef} {key : Int} {timer : Timer}
    (owns : timer.tuple = some ref) (known : ref.2 < node.nextId)
    (due : ∀ time, (ref, time) ∈ deadlines node.state → key ≤ time + tolerance) :
    Timely (node.schedule key timer) where
  due other time member entry listed entryOwns := by
    cases List.mem_cons.mp ((insertTimer_perm key timer node.timerQueue).mem_iff.mp listed) with
    | inl new =>
        subst new
        have same := Option.some.inj (owns.symm.trans entryOwns)
        exact due time (same ▸ member)
    | inr old => exact timely.due other time member entry old entryOwns
  held := timely.held
  armed entry listed other entryOwns := by
    cases List.mem_cons.mp ((insertTimer_perm key timer node.timerQueue).mem_iff.mp listed) with
    | inl new =>
        subst new
        exact Option.some.inj (owns.symm.trans entryOwns) ▸ known
    | inr old => exact timely.armed entry old other entryOwns

theorem rearm_key {time : Int} (valid : now ≤ time) : now + delay now time ≤ time + tolerance := by
  have bound := delay_le now time
  have micro : Time.microsecond ≤ tolerance := by decide
  omega

theorem expireTuple_onTime {Tuple : Type} {kind : TupleKind} {id : TupleId} {time : Tuple → Int}
    {found : Option Tuple} {timer : Timer} {rm : Tuple → Node}
    (onTime : OnTime config clock node) (later : clock ≤ now)
    (owns : timer.tuple = some (kind, id)) (noLink : kind ≠ .link) (known : id < node.nextId)
    (sole : ∀ tuple, found = some tuple → ∀ expires, ((kind, id), expires) ∈ deadlines node.state →
      expires = time tuple)
    (removed : ∀ tuple, found = some tuple → time tuple < now → OnTime config now (rm tuple))
    (ran : expireTuple time found now timer rm node = .ok node') : OnTime config now node' := by
  obtain ⟨tuple, stored, ⟨ended, rfl⟩ | ⟨valid, rfl⟩⟩ := expireTuple_ok ran
  · exact removed tuple stored ended
  · refine ⟨onTime.linked.frame ⟨rfl, rfl, rfl, le_refl _⟩, ?_,
      onTime.dups.mono later (List.Subset.refl _), ?_⟩
    · refine onTime.tuples.rearm owns known ?_
      intro expires member
      rw [sole tuple stored expires member]
      exact rearm_key valid
    · refine onTime.symmetric.transfer later rfl (fun _ _ => rfl) ?_
        fun nb among sym => ⟨nb, among, rfl, sym⟩
      intro link _ due entry listed entryOwns
      cases List.mem_cons.mp ((insertTimer_perm _ timer node.timerQueue).mem_iff.mp listed) with
      | inl new =>
          subst new
          exact absurd (congrArg Prod.fst (Option.some.inj (owns.symm.trans entryOwns))) noLink
      | inr old => exact due entry old entryOwns

theorem found_sole {Tuple : Type} {idOf : Tuple → TupleId} {id : TupleId} {held moved : List Tuple}
    {tuple other : Tuple} (unique : (held.map idOf).Nodup)
    (found : (held ++ moved).find? (fun candidate => idOf candidate = id) = some tuple)
    (member : other ∈ held) (same : idOf other = id) : other = tuple := by
  rw [List.find?_append] at found
  cases first : held.find? fun candidate => idOf candidate = id with
  | none =>
      have absent := List.find?_eq_none.mp first other member
      simp [same] at absent
  | some candidate =>
      rw [first] at found
      have here : candidate = tuple := Option.some.inj found
      subst here
      have named : idOf candidate = id := by simpa using List.find?_some first
      exact List.inj_on_of_nodup_map unique member (List.mem_of_find?_eq_some first)
        (same.trans named.symm)

/-- A neighbor whose link timer fires for the first time has another link if it is
still symmetric. -/
def SparesNeighbor (now : Int) (id : TupleId) (node : Node) : Prop :=
  ∀ link ∈ node.state.linkset.find? fun link => link.id = id,
    now ≤ link.time → link.symTime < now →
      ∀ nb ∈ node.state.nbset, nb.status = .sym →
        nb.nbMainAddr = node.state.getMainAddr link.nbIfaceAddr →
        ∃ other ∈ node.state.linkset, other.id ≠ id ∧
          node.state.getMainAddr other.nbIfaceAddr = nb.nbMainAddr ∧
          DueBy node.timerQueue (.link, other.id) other.symTime

instance (id : TupleId) : Decidable (SparesNeighbor now id node) :=
  inferInstanceAs (Decidable (∀ link ∈ node.state.linkset.find? _, _))

theorem expireLink_onTime {id : TupleId} {firstTime : Bool} (onTime : OnTime config clock node)
    (later : clock ≤ now) (met : firstTime = true → SparesNeighbor now id node)
    (ran : expireLink config now id firstTime node = .ok node') : OnTime config now node' := by
  obtain ⟨link, found, expiry⟩ := expireLink_ok ran
  have member := List.mem_of_find?_eq_some found
  have same : link.id = id := by simpa using List.find?_some found
  subst same
  have single : ∀ {current : Node}, current.state.linkset = node.state.linkset → ∀ expires,
      ((TupleKind.link, link.id), expires) ∈ deadlines current.state → expires = link.time := by
    intro current linkset expires listed
    have listed : ∃ other ∈ current.state.linkset, other.id = link.id ∧ other.time = expires := by
      simpa [mem_deadlines] using listed
    obtain ⟨other, among, equal, at'⟩ := listed
    rw [linkset] at among
    exact at' ▸ congrArg LinkTuple.time
      (List.inj_on_of_nodup_map onTime.linked.ids among member equal)
  rcases expiry with ⟨expired, rfl⟩ | ⟨valid, ended, lost, loss, rfl⟩ | ⟨valid, ahead, rfl⟩
  · have fewer : Quiet node { node.mapState (rmLinkTuple link) with topologyChange := true } :=
      quiet_of_eq rfl rfl (deadlines_subset (List.Subset.refl _) List.eraseP_subset
        (List.Subset.refl _) (List.Subset.refl _) (List.Subset.refl _))
    have removed := onTime.symmetric.rmLink later onTime.linked member
    exact ⟨(wellLinked_rules Guard.always config now).rmLink link.id firstTime node link member
      rfl expired rfl onTime.linked, onTime.tuples.quiet fewer,
      onTime.dups.quiet later fewer.times, removed.transfer (le_refl _) rfl (fun _ _ => rfl)
        (fun _ _ due => due) fun nb among sym => ⟨nb, among, rfl, sym⟩⟩
  · -- after a loss the neighbor is not symmetric, otherwise another link is
    have kept : OnTime config now lost ∧ lost.state.linkset = node.state.linkset ∧
        ∀ nb ∈ lost.state.nbset, nb.status = .sym →
          nb.nbMainAddr = lost.state.getMainAddr link.nbIfaceAddr →
          ∃ other, other.id ≠ link.id ∧ SymWitness lost nb.nbMainAddr other := by
      rcases loss with ⟨first, rfl⟩ | ⟨again, loss⟩
      · refine ⟨onTime.quiet later (SameNeighborhood.refl _) (Quiet.refl _), rfl, ?_⟩
        intro nb among sym main
        obtain ⟨other, stored, different, owner, due⟩ :=
          met first link found valid ended nb among sym main
        exact ⟨other, different, stored, owner, due⟩
      · obtain ⟨after, same⟩ := nbLoss_onTime loss
          (symmetryLost_onTime onTime later member ended)
        have written := updatedLinkTuple_written config now link willDefault
          onTime.linked.mains
        refine ⟨after, same.linkset.trans written.linkset, ?_⟩
        intro nb among sym main
        rw [same.getMainAddr] at main
        cases written.written nb (same.nbset ▸ among) with
        | inl here =>
            have past : ¬ link.symTime ≥ now := Int.not_le.mpr ended
            have status : linkStatus config now link = .notSym := by simp [linkStatus, past]
            exact nomatch (here.2.trans status).symm.trans sym
        | inr old => exact absurd (main.trans (congrFun (getMainAddr_of_written written) _)) old.2
    obtain ⟨after, linkset, others⟩ := kept
    have owns : (Timer.link link.id false).tuple = some (.link, link.id) := rfl
    have stored : link ∈ lost.state.linkset := linkset ▸ member
    refine ⟨after.linked.frame ⟨rfl, rfl, rfl, le_refl _⟩, ?_,
      after.dups.mono (le_refl _) (List.Subset.refl _), ?_⟩
    · refine after.tuples.rearm owns (after.linked.fresh link stored) ?_
      intro expires listed
      rw [single linkset expires listed]
      exact rearm_key valid
    · refine after.symmetric.rearm (le_refl _) after.linked stored owns ?_ fun _ => others
      intro ahead
      exact absurd ended (Int.not_lt.mpr ahead)
  · have owns : (Timer.link link.id firstTime).tuple = some (.link, link.id) := rfl
    have key := rearm_key (le_min valid ahead)
    refine ⟨onTime.linked.frame ⟨rfl, rfl, rfl, le_refl _⟩, ?_,
      onTime.dups.mono later (List.Subset.refl _), ?_⟩
    · refine onTime.tuples.rearm owns (onTime.linked.fresh link member) ?_
      intro expires listed
      have expiry := single rfl expires listed
      omega
    · refine onTime.symmetric.rearm later onTime.linked member owns ?_ ?_
      · intro _
        omega
      · intro ended
        exact absurd ended (Int.not_lt.mpr ahead)

/-! ## Messages sent -/

theorem sendHello_quiet (ran : sendHello config now node = .ok node') : Quiet node node' := by
  obtain ⟨msg, hello, rfl, -⟩ := sendHello_ok ran
  have counted : Quiet node node.nextMsgSeq := quiet_of_eq rfl rfl (List.Subset.refl _)
  exact counted.trans (enqueMsg_quiet config now _ _)

theorem sendTc_quiet (ran : sendTc config now node = .ok node') : Quiet node node' := by
  obtain ⟨msg, tc, rfl, -⟩ := sendTc_ok ran
  have counted : Quiet node node.nextMsgSeq := quiet_of_eq rfl rfl (List.Subset.refl _)
  exact (counted.trans (record_quiet _)).trans (enqueMsg_quiet config now _ _)

theorem sendMid_quiet (config : Config) (now : Int) (node : Node) :
    Quiet node (sendMid config now node) := by
  rcases sendMid_cases config now node with same | ⟨msg, -, sent⟩
  · rw [same]
    exact Quiet.refl node
  · rw [sent]
    have counted : Quiet node node.nextMsgSeq := quiet_of_eq rfl rfl (List.Subset.refl _)
    exact counted.trans (enqueMsg_quiet config now _ _)

theorem sendPkts_quiet (numPkts : Nat) (node : Node) : Quiet node (sendPkts numPkts node) := by
  induction numPkts generalizing node with
  | zero => exact Quiet.refl node
  | succ numPkts ih =>
      have first : Quiet node (sendOnePkt node) := quiet_of_eq rfl rfl (List.Subset.refl _)
      exact first.trans (ih (sendOnePkt node))

/-! ## One step -/

/-- The condition on the timer that fires. -/
def timerOnTime (now : Int) (timer : Timer) (node : Node) : Bool :=
  match timer with
  | .link id firstTime => !firstTime || decide (SparesNeighbor now id node)
  | .ifaceAssoc _ => stableAssocs.timer now timer node.state
  | _ => true

theorem expireTimer_onTime {timer : Timer} {before : Node} (onTime : OnTime config clock node)
    (later : clock ≤ now) (known : ∀ ref, timer.tuple = some ref → ref.2 < node.nextId)
    (owned : TuplesOwned config before) (state : before.state = node.state) (met : timerOnTime now timer node = true)
    (ran : expireTimer config now timer node = .ok node') : OnTime config now node' := by
  cases timer with
  | hello =>
      obtain ⟨sent, sending, scheduled⟩ := bind_ok.mp ran
      rw [← Except.ok.inj scheduled]
      have owns : Timer.hello.tuple = none := rfl
      have same := sameNeighborhood_of_output (sendHello_writes sending)
      exact onTime.quiet later (same.trans ⟨rfl, rfl, rfl, le_refl _⟩)
        ((sendHello_quiet sending).trans (schedule_quiet _ owns rfl rfl rfl))
  | tc =>
      obtain ⟨sent, sending, scheduled⟩ := bind_ok.mp ran
      rw [← Except.ok.inj scheduled]
      have owns : Timer.tc.tuple = none := rfl
      have kept : SameNeighborhood node sent ∧ Quiet node sent := by
        split at sending
        · exact ⟨sameNeighborhood_of_output (sendTc_writes sending), sendTc_quiet sending⟩
        · exact Except.ok.inj sending ▸ ⟨SameNeighborhood.refl node, Quiet.refl node⟩
      exact onTime.quiet later (kept.1.trans ⟨rfl, rfl, rfl, le_refl _⟩)
        (kept.2.trans (schedule_quiet _ owns rfl rfl rfl))
  | mid =>
      simp only [expireTimer] at ran
      split at ran
      · exact Except.ok.inj ran ▸
          onTime.quiet later (SameNeighborhood.refl node) (Quiet.refl node)
      · rw [← Except.ok.inj ran]
        have owns : Timer.mid.tuple = none := rfl
        have same := sameNeighborhood_of_output (sendMid_writes config now node)
        exact onTime.quiet later (same.trans ⟨rfl, rfl, rfl, le_refl _⟩)
          ((sendMid_quiet config now node).trans (schedule_quiet _ owns rfl rfl rfl))
  | msg =>
      rw [← Except.ok.inj ran]
      exact onTime.quiet later (sameNeighborhood_of_output (sendPkts_writes _ node))
        (sendPkts_quiet _ node)
  | link id firstTime =>
      refine expireLink_onTime onTime later ?_ ran
      rintro rfl
      simpa [timerOnTime] using met
  | dup id =>
      have owns : (Timer.dup id).tuple = some (.dup, id) := rfl
      refine expireTuple_onTime onTime later owns (by decide) (known _ owns) ?_ ?_ ran
      · intro tuple found expires member
        have member : ∃ other ∈ node.state.dupset, other.id = id ∧ other.time = expires := by
          simpa [mem_deadlines] using member
        obtain ⟨other, among, same, at'⟩ := member
        have simple : (node.state.dupset ++ []).find? (fun other => other.id = id) = some tuple := by
          simpa using found
        have sole := found_sole (state ▸ owned.dupset) simple among same
        exact at' ▸ congrArg DupTuple.time sole
      · intro tuple _ _
        have fewer : Quiet node (node.rmDupTuple tuple) :=
          quiet_of_eq rfl rfl (deadlines_subset List.eraseP_subset (List.Subset.refl _)
            (List.Subset.refl _) (List.Subset.refl _) (List.Subset.refl _))
        exact onTime.quiet later ⟨rfl, rfl, rfl, le_refl _⟩ fewer
  | nb2hop id =>
      have owns : (Timer.nb2hop id).tuple = some (.nb2hop, id) := rfl
      refine expireTuple_onTime onTime later owns (by decide) (known _ owns) ?_ ?_ ran
      · intro tuple found expires member
        have member : ∃ other ∈ node.state.nb2hopset, other.id = id ∧ other.time = expires := by
          simpa [mem_deadlines] using member
        obtain ⟨other, among, same, at'⟩ := member
        exact at' ▸ congrArg Nb2hopTuple.time (found_sole (state ▸ owned.nb2hopset) found among same)
      · intro tuple _ _
        have fewer : Quiet node (node.rmNb2hopTuple tuple) :=
          quiet_of_eq rfl rfl (deadlines_subset (List.Subset.refl _) (List.Subset.refl _)
            List.eraseP_subset (List.Subset.refl _) (List.Subset.refl _))
        exact onTime.quiet later ⟨rfl, rfl, rfl, le_refl _⟩ fewer
  | mprsel id =>
      have owns : (Timer.mprsel id).tuple = some (.mprsel, id) := rfl
      refine expireTuple_onTime onTime later owns (by decide) (known _ owns) ?_ ?_ ran
      · intro tuple found expires member
        have member : ∃ other ∈ node.state.mprselset, other.id = id ∧ other.time = expires := by
          simpa [mem_deadlines] using member
        obtain ⟨other, among, same, at'⟩ := member
        exact at' ▸ congrArg MprselTuple.time (found_sole (state ▸ owned.mprselset) found among same)
      · intro tuple _ _
        have fewer : Quiet node (node.rmMprselTuple tuple) := by
          unfold Node.rmMprselTuple
          dsimp only
          split <;> exact quiet_of_eq rfl rfl (deadlines_subset (List.Subset.refl _)
            (List.Subset.refl _) (List.Subset.refl _) List.eraseP_subset (List.Subset.refl _))
        exact onTime.quiet later (rmMprselTuple_sameNeighborhood node tuple) fewer
  | topology id =>
      have owns : (Timer.topology id).tuple = some (.topology, id) := rfl
      refine expireTuple_onTime onTime later owns (by decide) (known _ owns) ?_ ?_ ran
      · intro tuple found expires member
        have member : ∃ other ∈ node.state.topologyset, other.id = id ∧ other.time = expires := by
          simpa [mem_deadlines] using member
        obtain ⟨other, among, same, at'⟩ := member
        exact at' ▸ congrArg TopologyTuple.time (found_sole (state ▸ owned.topologyset) found among same)
      · intro tuple _ _
        have fewer : Quiet node (node.rmTopologyTuple tuple) :=
          quiet_of_eq rfl rfl (deadlines_subset (List.Subset.refl _) (List.Subset.refl _)
            (List.Subset.refl _) (List.Subset.refl _) List.eraseP_subset)
        exact onTime.quiet later ⟨rfl, rfl, rfl, le_refl _⟩ fewer
  | ifaceAssoc id =>
      have owns : (Timer.ifaceAssoc id).tuple = some (.ifaceAssoc, id) := rfl
      refine expireTuple_onTime onTime later owns (by decide) (known _ owns) ?_ ?_ ran
      · intro tuple _ expires member
        simp [mem_deadlines] at member
      · intro tuple found ended
        have member := List.mem_of_find?_eq_some found
        have same : tuple.id = id := by simpa using List.find?_some found
        have fewer : Quiet node (node.rmIfaceassocTuple tuple) :=
          quiet_of_eq rfl rfl (List.Subset.refl _)
        have links := rmIfaceassocTuple_sameLinks member same ended met
        refine ⟨(wellLinked_rules Guard.always config now).rmAssoc id node tuple member same ended
          rfl onTime.linked, onTime.tuples.quiet fewer, onTime.dups.quiet later fewer.times, ?_⟩
        exact onTime.symmetric.transfer later rfl links.mains (fun _ _ due => due)
          fun nb among sym => ⟨nb, among, rfl, sym⟩

/-- The condition on a step: refreshes and link failures do not undercut pending timers,
no neighbor loses its links with their first timer, and no association changes the main
address of a stored link. -/
def refreshesInTime (config : Config) (now : Int) (event : Event) (node : Node) : Bool :=
  match event with
  | .recv iface srcAddr pkt =>
      eachMsg (recvMsg config now iface srcAddr) (msgOnTime config now iface srcAddr) pkt.msgs node
  | .timer =>
      match node.timerQueue with
      | [] => true
      | (_, timer) :: _ => timerOnTime now timer node
  | .linkBreak destAddr => !config.useMac || decide (BreakOnTime config now destAddr node)

theorem stepWith_onTime {event : Event} (onTime : OnTime config clock node)
    (owned : Owned config 0 node) (enabled : Enabled config clock now event node)
    (met : refreshesInTime config now event node = true)
    (ran : stepWith recvOlsr config now event node = .ok node') : OnTime config now node' := by
  have unchanged : OnTime config now node :=
    onTime.quiet enabled.later (SameNeighborhood.refl node) (Quiet.refl node)
  cases event with
  | recv iface srcAddr pkt =>
      have known := enabled.known iface srcAddr pkt rfl
      rcases recvOlsr_stages ran with ⟨_, rfl⟩ | ⟨handled, loop, table⟩
      · exact unchanged
      · have after : OnTime config now handled :=
          eachMsg_keeps (fun node => OnTime config now node)
            (fun msg node node' met ran holds => recvMsg_onTime known met ran holds) met loop unchanged
        exact after.quiet (le_refl _) (recomputeRtable_sameNeighborhood table)
          (recomputeRtable_quiet table)
  | timer =>
      cases queue : node.timerQueue with
      | nil =>
          simp only [stepWith, queue] at ran
          exact Except.ok.inj ran ▸ unchanged
      | cons first rest =>
          obtain ⟨key, timer⟩ := first
          simp only [stepWith, queue] at ran
          simp only [refreshesInTime, queue] at met
          have popped : Quiet node { node with timerQueue := rest } := by
            refine ⟨⟨le_refl _, ?_⟩, List.Subset.refl _⟩
            intro entry listed ref _
            exact .inl (queue ▸ List.mem_cons_of_mem _ listed)
          have started : OnTime config clock { node with timerQueue := rest } :=
            onTime.quiet (le_refl _) ⟨rfl, rfl, rfl, le_refl _⟩ popped
          refine expireTimer_onTime started enabled.later ?_ owned.tuplesOwned rfl ?_ ran
          · intro ref owns
            exact onTime.tuples.armed (key, timer) (queue ▸ List.mem_cons_self) ref owns
          · cases timer with
            | link id firstTime =>
                cases firstTime with
                | false => rfl
                | true =>
                    simp only [timerOnTime, Bool.not_true, Bool.false_or, decide_eq_true_eq] at met ⊢
                    intro link found valid ended nb among sym main
                    obtain ⟨other, stored, different, owner, due⟩ :=
                      met link found valid ended nb among sym main
                    refine ⟨other, stored, different, owner, ?_⟩
                    intro entry listed owns
                    exact due entry (queue ▸ List.mem_cons_of_mem _ listed) owns
            | ifaceAssoc id => exact met
            | hello | tc | mid | msg | dup id | nb2hop id | mprsel id | topology id => rfl
  | linkBreak destAddr =>
      simp only [stepWith] at ran
      split at ran
      · next useMac =>
        simp only [refreshesInTime, useMac, Bool.not_true, Bool.false_or, decide_eq_true_eq] at met
        exact macFailed_onTime onTime enabled.later useMac met ran
      · exact Except.ok.inj ran ▸ unchanged

end

/-! ## Every run -/

theorem initialNode_onTime (config : Config) (start maxTime : Int) :
    OnTime config start (initialNode config start maxTime) := by
  refine ⟨initialNode_wellLinked config start maxTime, ⟨nofun, nofun, ?_⟩, nofun, nofun, nofun⟩
  intro entry listed ref owns
  have queue : ∀ entry ∈ (initialNode config start maxTime).timerQueue, entry.2.tuple = none := by
    simp [initialNode, Node.schedule, insertTimer, Timer.tuple]
  rw [queue entry listed] at owns
  cases owns

theorem reached_onTime {config : Config} {clock : Int} {node : Node}
    (reached : Reached recvOlsr config
      (fun now event node => refreshesInTime config now event node = true) clock node) :
    OnTime config clock node ∧ Owned config 0 node := by
  induction reached with
  | initial start maxTime =>
      exact ⟨initialNode_onTime config start maxTime, initialNode_owned config start maxTime⟩
  | step _ enabled met stepped ih =>
      exact ⟨stepWith_onTime ih.1 ih.2 enabled met stepped, stepWith_owned stepped ih.2⟩

/-- What is left once the timers that are due at a time have fired. -/
structure ExpiredDropped (now : Int) (state : State) : Prop where
  linkset : ∀ link ∈ state.linkset, ¬ link.time < now - tolerance
  nb2hopset : ∀ tuple ∈ state.nb2hopset, ¬ tuple.time < now - tolerance
  topologyset : ∀ tuple ∈ state.topologyset, ¬ tuple.time < now - tolerance
  mprselset : ∀ tuple ∈ state.mprselset, ¬ tuple.time < now - tolerance
  dupset : ∀ tuple ∈ state.dupset, ¬ tuple.time < now - tolerance
  nbset : ∀ nb ∈ state.nbset, nb.status = .sym →
    ∃ link ∈ state.linkset, state.getMainAddr link.nbIfaceAddr = nb.nbMainAddr ∧
      ¬ link.symTime < now - tolerance

theorem DueBy.ahead {config : Config} {node : Node} {ref : TupleRef} {time now : Int}
    (due : DueBy node.timerQueue ref time) (owned : TuplesOwned config node)
    (attached : ref ∈ attached config node.state)
    (fired : ∀ entry ∈ node.timerQueue, now < entry.1) : ¬ time < now - tolerance := by
  have present : ref ∈ ownedBy node.timerQueue := by
    refine Multiset.count_pos.mp ?_
    rw [owned.owner ref attached]
    exact Nat.one_pos
  obtain ⟨entry, listed, owns⟩ := List.mem_filterMap.mp (Multiset.mem_coe.mp present)
  have early := due entry listed owns
  have late := fired entry listed
  omega

theorem mem_refs {Tuple : Type} (kind : TupleKind) (id : Tuple → TupleId) {tuple : Tuple}
    {tuples : List Tuple} (member : tuple ∈ tuples) : (kind, id tuple) ∈ refs kind id tuples :=
  Multiset.mem_coe.mpr (List.mem_map.mpr ⟨tuple, member, rfl⟩)

theorem expired_dropped {config : Config} {clock : Int} {node : Node} (now : Int)
    (reached : Reached recvOlsr config
      (fun now event node => refreshesInTime config now event node = true) clock node)
    (fired : ∀ entry ∈ node.timerQueue, now < entry.1) : ExpiredDropped now node.state := by
  obtain ⟨onTime, owner⟩ := reached_onTime reached
  have owned := owner.tuplesOwned
  have tuples := onTime.tuples.due
  have linked : ∀ link ∈ node.state.linkset,
      (TupleKind.link, link.id) ∈ attached config node.state := by
    intro link member
    simp [attached, mem_refs .link LinkTuple.id member]
  constructor
  · intro link member
    have due := tuples _ _ (mem_deadlines.mpr (.inr (.inl ⟨link, member, rfl, rfl⟩)))
    exact due.ahead owned (linked link member) fired
  · intro tuple member
    refine (tuples _ _ (nb2hop_deadline member)).ahead owned ?_ fired
    simp [attached, mem_refs .nb2hop Nb2hopTuple.id member]
  · intro tuple member
    refine (tuples _ _ (topology_deadline member)).ahead owned ?_ fired
    simp [attached, mem_refs .topology TopologyTuple.id member]
  · intro tuple member
    refine (tuples _ _ (mprsel_deadline member)).ahead owned ?_ fired
    simp [attached, mem_refs .mprsel MprselTuple.id member]
  · intro tuple member
    refine (tuples _ _ (dup_deadline member)).ahead owned ?_ fired
    simp [attached, mem_refs .dup DupTuple.id member]
  · intro nb member sym
    obtain ⟨link, witness⟩ := onTime.symmetric.neighbors nb member sym
    exact ⟨link, witness.stored, witness.main,
      witness.due.ahead owned (linked link witness.stored) fired⟩

def listingHello (msgSeqNum vtime : Nat) : Event :=
  receive 2 2 msgSeqNum vtime (.hello {
    htime := 0
    willingness := willDefault
    helloMsgs := [{ linkCode := 10, nbIfaceAddrs := [1, 3] }] })

def firstTimers (count : Nat) : List (Int × Event) :=
  List.replicate count (5 * Time.second, .timer)

def steadyRun : List (Int × Event) :=
  [(Time.second, receive 2 2 0 134 (.hello { htime := 0, willingness := willDefault, helloMsgs := [] })),
    (2 * Time.second, listingHello 1 134)] ++ firstTimers 5

theorem expired_dropped_steady :
    ∃ (clock : Int) (node : Node), node.state.nbset.map NbTuple.status = [.sym] ∧
      node.state.nb2hopset.map Nb2hopTuple.nb2hopAddr = [3] ∧ ExpiredDropped clock node.state := by
  obtain ⟨clock, node, reached, checked⟩ := exists_reached_of_runOf recvOlsr
    (refreshesInTime oneIfaceConfig) steadyRun
    (fun current => decide (current.2.state.nbset.map NbTuple.status = [.sym] ∧
      current.2.state.nb2hopset.map Nb2hopTuple.nb2hopAddr = [3] ∧
      ∀ entry ∈ current.2.timerQueue, current.1 < entry.1))
    (by decide +kernel)
  obtain ⟨symmetric, hops, fired⟩ := of_decide_eq_true checked
  exact ⟨clock, node, symmetric, hops, expired_dropped clock reached fired⟩

def shortenedRun : List (Int × Event) :=
  [(Time.second, listingHello 0 134), (2 * Time.second, listingHello 1 0)] ++ firstTimers 5

theorem expired_kept_of_shorterValidity :
    ¬ ∀ (config : Config) (clock : Int) (node : Node),
      Reached recvOlsr config (fun _ _ _ => True) clock node →
        (∀ entry ∈ node.timerQueue, clock < entry.1) → ExpiredDropped clock node.state := by
  intro claimed
  obtain ⟨clock, node, reached, checked⟩ := exists_reached_of_runOf recvOlsr
    (fun _ _ _ => true) shortenedRun
    (fun current => decide ((∀ entry ∈ current.2.timerQueue, current.1 < entry.1) ∧
      ∃ tuple ∈ current.2.state.nb2hopset, tuple.time < current.1 - tolerance))
    (by decide +kernel)
  obtain ⟨fired, tuple, member, expired⟩ := of_decide_eq_true checked
  have dropped := claimed oneIfaceConfig clock node (reached.weaken fun _ _ _ _ => trivial) fired
  exact dropped.nb2hopset tuple member expired

end SyncFanet.Olsr
