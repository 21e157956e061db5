import SyncFanet.Olsr.NeighborSet
import SyncFanet.Olsr.TupleDeadlines

/-!
# Symmetric times

The timer of a link fires by its symmetric time while that lies ahead, and every
symmetric neighbor has a link whose timer does.
-/

set_option autoImplicit false

namespace SyncFanet.Olsr

structure SymWitness (node : Node) (mainAddr : NsAddr) (link : LinkTuple) : Prop where
  stored : link ∈ node.state.linkset
  main : node.state.getMainAddr link.nbIfaceAddr = mainAddr
  due : DueBy node.timerQueue (.link, link.id) link.symTime

structure SymTimely (clock : Int) (node : Node) : Prop where
  links : ∀ link ∈ node.state.linkset, clock ≤ link.symTime →
    DueBy node.timerQueue (.link, link.id) link.symTime
  neighbors : ∀ nb ∈ node.state.nbset, nb.status = .sym →
    ∃ link, SymWitness node nb.nbMainAddr link

namespace SymTimely

variable {config : Config} {clock now : Int} {node node' : Node}

theorem transfer (timely : SymTimely clock node) (later : clock ≤ now)
    (linkset : node'.state.linkset = node.state.linkset)
    (mains : ∀ link ∈ node.state.linkset,
      node'.state.getMainAddr link.nbIfaceAddr = node.state.getMainAddr link.nbIfaceAddr)
    (timers : ∀ link ∈ node.state.linkset, DueBy node.timerQueue (.link, link.id) link.symTime →
      DueBy node'.timerQueue (.link, link.id) link.symTime)
    (nbset : ∀ nb ∈ node'.state.nbset, nb.status = .sym →
      ∃ old ∈ node.state.nbset, old.nbMainAddr = nb.nbMainAddr ∧ old.status = .sym) :
    SymTimely now node' where
  links link member valid := by
    rw [linkset] at member
    exact timers link member (timely.links link member (later.trans valid))
  neighbors nb member sym := by
    obtain ⟨old, among, main, oldSym⟩ := nbset nb member sym
    obtain ⟨link, witness⟩ := timely.neighbors old among oldSym
    refine ⟨link, linkset ▸ witness.stored, ?_, timers link witness.stored witness.due⟩
    exact (mains link witness.stored).trans (witness.main.trans main)

theorem frame (timely : SymTimely clock node) (later : clock ≤ now)
    (linked : WellLinked config node.state node.nextId) (same : SameNeighborhood node node')
    (timers : NewTimers node node') : SymTimely now node' := by
  refine timely.transfer later same.linkset (fun _ _ => by rw [same.getMainAddr]) ?_ ?_
  · intro link member due
    exact timers.dueBy (linked.fresh link member) due
  · intro nb member sym
    exact ⟨nb, same.nbset ▸ member, rfl, sym⟩

theorem touch (timely : SymTimely clock node) (later : clock ≤ now) (link : LinkTuple)
    (links : ∀ other ∈ node'.state.linkset,
      other = link ∨ (other ∈ node.state.linkset ∧ other.id ≠ link.id))
    (kept : ∀ other ∈ node.state.linkset, other.id ≠ link.id → other ∈ node'.state.linkset)
    (mains : node'.state.getMainAddr = node.state.getMainAddr)
    (timers : ∀ other ∈ node.state.linkset, other.id ≠ link.id →
      DueBy node.timerQueue (.link, other.id) other.symTime →
        DueBy node'.timerQueue (.link, other.id) other.symTime)
    (due : now ≤ link.symTime → DueBy node'.timerQueue (.link, link.id) link.symTime)
    (neighbors : ∀ nb ∈ node'.state.nbset, nb.status = .sym →
      (link ∈ node'.state.linkset ∧ node.state.getMainAddr link.nbIfaceAddr = nb.nbMainAddr ∧
        now ≤ link.symTime) ∨
      ∃ other, other.id ≠ link.id ∧ SymWitness node nb.nbMainAddr other) :
    SymTimely now node' where
  links other member valid := by
    cases links other member with
    | inl here =>
        subst here
        exact due valid
    | inr old =>
        exact timers other old.1 old.2 (timely.links other old.1 (later.trans valid))
  neighbors nb member sym := by
    cases neighbors nb member sym with
    | inl here => exact ⟨link, here.1, mains ▸ here.2.1, due here.2.2⟩
    | inr elsewhere =>
        obtain ⟨other, different, witness⟩ := elsewhere
        exact ⟨other, kept other witness.stored different, mains ▸ witness.main,
          timers other witness.stored different witness.due⟩

theorem elsewhere (timely : SymTimely clock node)
    (linked : WellLinked config node.state node.nextId) {stored link : LinkTuple}
    (member : stored ∈ node.state.linkset) (same : SameLink stored link) {nb : NbTuple}
    (among : nb ∈ node.state.nbset) (sym : nb.status = .sym)
    (different : nb.nbMainAddr ≠ node.state.getMainAddr link.nbIfaceAddr) :
    ∃ other, other.id ≠ link.id ∧ SymWitness node nb.nbMainAddr other := by
  obtain ⟨other, witness⟩ := timely.neighbors nb among sym
  refine ⟨other, ?_, witness⟩
  intro equal
  have here : other = stored :=
    List.inj_on_of_nodup_map linked.ids witness.stored member (equal.trans same.id)
  rw [same.nbIfaceAddr, ← here] at different
  exact different witness.main.symm

theorem lose (timely : SymTimely clock node) (later : clock ≤ now)
    (linked : WellLinked config node.state node.nextId) {stored link : LinkTuple} {state : State}
    (member : stored ∈ node.state.linkset) (same : SameLink stored link)
    (symTime : link.symTime = stored.symTime)
    (written : NbWritten (node.state.getMainAddr link.nbIfaceAddr) .notSym
      (node.state.updateLinkTuple link) state) :
    SymTimely now { node with state := state } := by
  have mains := getMainAddr_of_written written
  refine timely.touch later link ?_ ?_ mains (fun _ _ _ due => due) ?_ ?_
  · intro other among
    have among : other ∈ state.linkset := among
    rw [written.linkset] at among
    exact (mem_updateLinkTuple linked.ids member same).mp among |>.imp_right
      fun old => ⟨old.1, same.id ▸ old.2⟩
  · intro other among different
    have updated := (mem_updateLinkTuple linked.ids member same).mpr
      (.inr ⟨among, same.id ▸ different⟩)
    exact written.linkset.symm ▸ updated
  · intro valid
    rw [symTime] at valid ⊢
    rw [same.id]
    exact timely.links stored member (later.trans valid)
  · intro nb among sym
    cases written.written nb among with
    | inl here => exact nomatch here.2.symm.trans sym
    | inr old => exact .inr (timely.elsewhere linked member same old.1 sym old.2)

theorem rmLink (timely : SymTimely clock node) (later : clock ≤ now)
    (linked : WellLinked config node.state node.nextId) {link : LinkTuple}
    (member : link ∈ node.state.linkset) :
    SymTimely now (node.mapState (rmLinkTuple link)) := by
  have erased : ∀ {other : LinkTuple},
      other ∈ (node.mapState (rmLinkTuple link)).state.linkset ↔
        other ∈ node.state.linkset ∧ other.id ≠ link.id := mem_eraseLinkTuple linked.ids
  refine timely.touch later link (fun other among => .inr (erased.mp among))
    (fun other among different => erased.mpr ⟨among, different⟩) rfl (fun _ _ _ due => due) ?_ ?_
  · intro valid
    exact timely.links link member (later.trans valid)
  · intro nb among sym
    have among : nb ∈ node.state.nbset.eraseP fun other =>
        other.nbMainAddr = node.state.getMainAddr link.nbIfaceAddr := among
    rw [eraseP_eq_filter linked.mains, List.mem_filter] at among
    exact .inr (timely.elsewhere linked member ⟨rfl, rfl, rfl⟩ among.1 sym
      (of_decide_eq_true among.2))

theorem rearm (timely : SymTimely clock node) (later : clock ≤ now)
    (linked : WellLinked config node.state node.nextId) {link : LinkTuple}
    (member : link ∈ node.state.linkset) {key : Int} {timer : Timer}
    (owns : timer.tuple = some (.link, link.id))
    (due : now ≤ link.symTime → key ≤ link.symTime + tolerance)
    (others : link.symTime < now → ∀ nb ∈ node.state.nbset, nb.status = .sym →
      nb.nbMainAddr = node.state.getMainAddr link.nbIfaceAddr →
      ∃ other, other.id ≠ link.id ∧ SymWitness node nb.nbMainAddr other) :
    SymTimely now (node.schedule key timer) := by
  have queue : ∀ entry, entry ∈ (node.schedule key timer).timerQueue ↔
      entry = (key, timer) ∨ entry ∈ node.timerQueue := fun entry =>
    (insertTimer_perm key timer node.timerQueue).mem_iff.trans List.mem_cons
  refine timely.touch later link ?_ (fun other among _ => among) rfl ?_ ?_ ?_
  · intro other among
    by_cases here : other.id = link.id
    · exact .inl (List.inj_on_of_nodup_map linked.ids among member here)
    · exact .inr ⟨among, here⟩
  · intro other among different before entry listed entryOwns
    cases (queue entry).mp listed with
    | inl new =>
        subst new
        have same := Option.some.inj (owns.symm.trans entryOwns)
        exact absurd (congrArg Prod.snd same).symm different
    | inr old => exact before entry old entryOwns
  · intro valid entry listed entryOwns
    cases (queue entry).mp listed with
    | inl new =>
        subst new
        exact due valid
    | inr old => exact timely.links link member (later.trans valid) entry old entryOwns
  · intro nb among sym
    by_cases here : nb.nbMainAddr = node.state.getMainAddr link.nbIfaceAddr
    · by_cases valid : now ≤ link.symTime
      · exact .inl ⟨member, here.symm, valid⟩
      · exact .inr (others (Int.not_le.mp valid) nb among sym here)
    · exact .inr (timely.elsewhere linked member ⟨rfl, rfl, rfl⟩ among sym here)

end SymTimely

theorem updateLinkTuple_self {state : State} (ids : (state.linkset.map LinkTuple.id).Nodup)
    {link : LinkTuple} (member : link ∈ state.linkset) : state.updateLinkTuple link = state := by
  have kept : state.linkset.map (fun other => if other.id = link.id then link else other) =
      state.linkset := by
    refine (List.map_congr_left ?_).trans (List.map_id _)
    intro other among
    by_cases here : other.id = link.id
    · rw [if_pos here]
      exact (List.inj_on_of_nodup_map ids among member here).symm
    · exact if_neg here
  simp only [State.updateLinkTuple, updateFirst_eq_map ids, kept]

/-! ## Sensing -/

section

variable {config : Config} {clock now : Int} {node node' : Node} {msg : Msg} {hello : Hello}
  {receiverIface senderIface : NsAddr} {index : Nat}

theorem linkStatus_sym {link : LinkTuple} (sym : linkStatus config now link = .sym) :
    now ≤ link.symTime := by
  unfold linkStatus at sym
  split at sym
  · cases sym
  · split at sym
    · next valid => exact valid
    · cases sym

theorem senseKnown_symTimely (later : clock ≤ now) (timely : SymTimely clock node)
    (linked : WellLinked config node.state node.nextId) {known link : LinkTuple}
    (stored : known ∈ node.state.linkset)
    (sensed : senseLink config now (emfToSeconds msg.vtime) receiverIface hello.helloMsgs known
      true = (link, true))
    (onTime : hello.Renews receiverIface →
      DueBy node.timerQueue (.link, known.id) (now + emfToSeconds msg.vtime)) :
    SymTimely now { node with
      state := writeSensed config now hello.willingness link true node.state } := by
  have times := senseLink_sensedTimes config now (emfToSeconds msg.vtime) receiverIface hello
    known true
  rw [sensed] at times
  have same := senseLink_same sensed
  have written := updatedLinkTuple_written config now link hello.willingness
    (linked.rewriteLink stored same).mains
  have mains := getMainAddr_of_written written
  have links : ∀ other, other ∈ (writeSensed config now hello.willingness link true
      node.state).linkset ↔ other = link ∨ (other ∈ node.state.linkset ∧ other.id ≠ link.id) := by
    intro other
    have updated : (writeSensed config now hello.willingness link true node.state).linkset =
        (node.state.updateLinkTuple link).linkset := written.linkset
    rw [updated, mem_updateLinkTuple linked.ids stored same, same.id]
  refine timely.touch later link (fun other => (links other).mp)
    (fun other among different => (links other).mpr (.inr ⟨among, different⟩)) mains
    (fun _ _ _ due => due) ?_ ?_
  · intro valid
    rw [same.id]
    rcases times.sym with old | lost | renewed
    · rw [old] at valid ⊢
      exact timely.links known stored (later.trans valid)
    · have past : link.symTime = now - Time.second := lost
      have second : 0 < Time.second := by decide
      omega
    · have ahead : link.symTime = now + emfToSeconds msg.vtime := renewed.2
      rw [ahead]
      exact onTime renewed.1
  · intro nb among sym
    cases written.written nb among with
    | inl here =>
        exact .inl ⟨(links link).mpr (.inl rfl), here.1.symm, linkStatus_sym (here.2 ▸ sym)⟩
    | inr old => exact .inr (timely.elsewhere linked stored same old.1 sym old.2)

theorem senseNew_symTimely (later : clock ≤ now) (timely : SymTimely clock node)
    (tuples : Timely node) (linked : WellLinked config node.state node.nextId)
    {created link : LinkTuple} {updated : Bool}
    (new : created = newLinkTuple node.nextId now (emfToSeconds msg.vtime) receiverIface
      senderIface index)
    (absent : node.state.findLinkTuple senderIface = none)
    (known : ∃ iface ∈ config.ifaces, iface.addr = receiverIface)
    (sensed : senseLink config now (emfToSeconds msg.vtime) receiverIface hello.helloMsgs created
      false = (link, updated)) :
    SymTimely now ({ node with
      state := writeSensed config now hello.willingness link updated
        (addLinkTuple now created hello.willingness node.state)
      nextId := node.nextId + 1 }.scheduleTuple now (min link.time link.symTime)
        (.link link.id true)) := by
  have same := senseLink_same sensed
  have id : link.id = node.nextId := same.id.trans (congrArg LinkTuple.id new)
  have addr : link.nbIfaceAddr = created.nbIfaceAddr := same.nbIfaceAddr
  have added := addLinkTuple_written now created hello.willingness linked.mains
  have inserted : WellLinked config (addLinkTuple now created hello.willingness node.state)
      (node.nextId + 1) := by
    subst new
    exact (linked.insertLink _ rfl known absent).writeNb added
  have stored : created ∈ (addLinkTuple now created hello.willingness node.state).linkset :=
    mem_inserted node.state created
  have addedMains := getMainAddr_of_written added
  have fresh : ∀ other ∈ node.state.linkset, other.id ≠ link.id := fun other among =>
    id ▸ Nat.ne_of_lt (linked.fresh other among)
  -- what the two writes make of the links and of the neighbors
  have result : ∀ state, state = writeSensed config now hello.willingness link updated
      (addLinkTuple now created hello.willingness node.state) →
      state.linkset = ((addLinkTuple now created hello.willingness node.state).updateLinkTuple
        link).linkset ∧ state.getMainAddr = node.state.getMainAddr ∧
      ∀ nb ∈ state.nbset, nb.status = .sym →
        (nb.nbMainAddr = node.state.getMainAddr link.nbIfaceAddr ∧ now ≤ link.symTime) ∨
          (nb ∈ node.state.nbset) := by
    rintro state rfl
    have sole : ∀ nb ∈ (addLinkTuple now created hello.willingness node.state).nbset,
        nb.status = .sym → nb ∈ node.state.nbset := by
      intro nb among sym
      cases added.written nb among with
      | inl here =>
          have past : created.symTime = now - Time.second := congrArg LinkTuple.symTime new
          have second : 0 < Time.second := by decide
          have lost : symStatus now created = .notSym := by
            unfold symStatus
            rw [if_neg (by omega)]
          exact nomatch (here.2.trans lost).symm.trans sym
      | inr old => exact old.1
    cases updated with
    | false => exact ⟨rfl, addedMains, fun nb among sym => .inr (sole nb among sym)⟩
    | true =>
        have written := updatedLinkTuple_written config now link hello.willingness
          (inserted.rewriteLink stored same).mains
        have mains := getMainAddr_of_written written
        refine ⟨written.linkset, mains.trans addedMains, ?_⟩
        intro nb among sym
        cases written.written nb among with
        | inl here =>
            have main : nb.nbMainAddr = (addLinkTuple now created hello.willingness
              node.state).getMainAddr link.nbIfaceAddr := here.1
            exact .inl ⟨addedMains ▸ main, linkStatus_sym (here.2 ▸ sym)⟩
        | inr old => exact .inr (sole nb old.1 sym)
  generalize written : writeSensed config now hello.willingness link updated
    (addLinkTuple now created hello.willingness node.state) = state at result ⊢
  obtain ⟨linkset, mains, neighbors⟩ := result state rfl
  have links : ∀ other, other ∈ state.linkset ↔ other = link ∨ other ∈ node.state.linkset := by
    intro other
    rw [linkset, mem_updateLinkTuple inserted.ids stored same]
    refine or_congr_right ⟨?_, ?_⟩
    · intro old
      cases List.mem_append.mp old.1 with
      | inl among => exact among
      | inr last => exact absurd (congrArg LinkTuple.id (List.mem_singleton.mp last)) old.2
    · intro among
      exact ⟨List.mem_append_left _ among, same.id ▸ fresh other among⟩
  have queue : ∀ entry, entry ∈ insertTimer (now + delay now (min link.time link.symTime))
      (.link link.id true) node.timerQueue ↔
      entry = (now + delay now (min link.time link.symTime), .link link.id true) ∨
        entry ∈ node.timerQueue := fun entry =>
    (insertTimer_perm _ _ node.timerQueue).mem_iff.trans List.mem_cons
  refine timely.touch later link ?_ (fun other among _ => (links other).mpr (.inr among)) mains
    ?_ ?_ ?_
  · intro other among
    exact ((links other).mp among).imp_right fun old => ⟨old, fresh other old⟩
  · intro other among different before entry listed owns
    cases (queue entry).mp listed with
    | inl newest =>
        subst newest
        exact absurd (congrArg Prod.snd (Option.some.inj owns)).symm different
    | inr old => exact before entry old owns
  · intro valid entry listed owns
    cases (queue entry).mp listed with
    | inl newest =>
        subst newest
        have bound := delay_le now (min link.time link.symTime)
        have micro : Time.microsecond ≤ tolerance := by decide
        change now + delay now (min link.time link.symTime) ≤ link.symTime + tolerance
        omega
    | inr old =>
        have bounded := tuples.armed entry old _ owns
        exact absurd (id ▸ bounded) (Nat.lt_irrefl _)
  · intro nb among sym
    cases neighbors nb among sym with
    | inl here => exact .inl ⟨(links link).mpr (.inl rfl), here.1.symm, here.2⟩
    | inr old =>
        obtain ⟨other, witness⟩ := timely.neighbors nb old sym
        exact .inr ⟨other, fresh other witness.stored, witness⟩

theorem linkSensing_symTimely {changed : Bool} (later : clock ≤ now)
    (timely : SymTimely clock node) (tuples : Timely node)
    (linked : WellLinked config node.state node.nextId)
    (known : ∃ iface ∈ config.ifaces, iface.addr = receiverIface)
    (ran : linkSensingWith true config now msg.vtime hello receiverIface senderIface index node =
      .ok (node', changed))
    (onTime : ∀ link, node.state.findLinkTuple senderIface = some link →
      hello.Renews receiverIface →
        DueBy node.timerQueue (.link, link.id) (now + emfToSeconds msg.vtime)) :
    SymTimely now node' := by
  rcases linkSensingWith_cases ran with
    ⟨old, link, found, sensed, rfl⟩ | ⟨absent, _, created, link, updated, new, sensed, rfl⟩
  · have spec := senseLink_spec config now (emfToSeconds msg.vtime) receiverIface hello.helloMsgs
      old true
    rw [sensed] at spec
    have counted : changed = true := spec.2.2 rfl
    subst counted
    exact senseKnown_symTimely later timely linked (List.mem_of_find?_eq_some found) sensed
      (onTime old found)
  · exact senseNew_symTimely later timely tuples linked new absent known sensed

theorem populateNbset_symTimely (timely : SymTimely clock node) (hello : Hello)
    (origAddr : NsAddr) : SymTimely clock (node.mapState (populateNbset hello origAddr)) := by
  refine timely.transfer (le_refl _) rfl (fun _ _ => rfl) (fun _ _ due => due) ?_
  intro nb among sym
  have pair : (nb.nbMainAddr, nb.status) ∈ (populateNbset hello origAddr node.state).nbset.map
      fun nb => (nb.nbMainAddr, nb.status) := List.mem_map_of_mem among
  rw [populateNbset_nbset] at pair
  obtain ⟨old, member, same⟩ := List.mem_map.mp pair
  exact ⟨old, member, congrArg Prod.fst same, (congrArg Prod.snd same).trans sym⟩

end

end SyncFanet.Olsr
