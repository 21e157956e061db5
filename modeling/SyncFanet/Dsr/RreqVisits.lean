import SyncFanet.Dsr.RreqMemory

/-!
# Requests that come over several routes

With `RREQMaxVisit` above 1 a request is to be accepted again when it comes over another
route. `dsr_rreq_duplicate` compares the number of the routes it came over with the flag
`RREQMulVisit` instead of that limit: for 100 s every further copy is a duplicate.
-/

set_option autoImplicit false

namespace SyncFanet.Dsr

/-! ## The search as a loop -/

/-- The loop of `dsr_rreq_duplicate`, if it ends within a number of rounds: at a request that
has come over few routes, none of which is this one, the iterator stays. -/
def scanInfos (config : RreqConfig) (now : SimTime) (id : Nat) (addrs : List InAddr) :
    Nat → List RreqSeqInfo → Option (List RreqSeqInfo × Bool)
  | 0, _ => none
  | _ + 1, [] => some ([], false)
  | rounds + 1, info :: rest =>
      if now - info.time > rreqInfoTime then scanInfos config now id addrs rounds rest
      else if info.seq ≠ id then
        (scanInfos config now id addrs rounds rest).map fun found => (info :: found.1, found.2)
      else if config.rreqMulVisit ≠ 0 ∧ info.paths.length < config.rreqMulVisit then
        if addrs ∈ info.paths then some (info :: rest, true)
        else scanInfos config now id addrs rounds (info :: rest)
      else some (info :: rest, true)

/-- `dsr_rreq_duplicate`, if its loop ends within a number of rounds. -/
def dsrRreqDuplicateWithin (rounds : Nat) (config : RreqConfig) (now : SimTime)
    (table : RreqTable) (initiator target : InAddr) (id : Nat) (length : Int)
    (addrs : List InAddr) : Option (RreqTable × Bool) :=
  (scanInfos config now id addrs rounds ((table.rreqInfoMap.lookup initiator).getD [])).map
    fun searched =>
      if searched.2 then
        ({ table with rreqInfoMap := table.rreqInfoMap.insert initiator searched.1 }, true)
      else
        let info : RreqSeqInfo := { seq := id, time := now, paths := [addrs] }
        let table := { table with
          rreqInfoMap := table.rreqInfoMap.insert initiator (searched.1 ++ [info]) }
        match table.dsrRreqTbl.lookup initiator with
        | none => (table, false)
        | some e => (table, inRreqIdTbl config e target id length addrs)

def RreqTable.Routed (table : RreqTable) : Prop :=
  ∀ initiator infos, table.rreqInfoMap.lookup initiator = some infos →
    ∀ info ∈ infos, info.paths ≠ []

section

variable {config : RreqConfig} {now : SimTime} {table : RreqTable} {initiator target : InAddr}
  {id : Nat} {length : Int} {addrs : List InAddr} {infos : List RreqSeqInfo}

theorem rreqMulVisit_le_one (config : RreqConfig) : config.rreqMulVisit ≤ 1 := by
  unfold RreqConfig.rreqMulVisit
  split
  · exact le_refl 1
  · exact Nat.zero_le 1

theorem scanInfos_ends (routed : ∀ info ∈ infos, info.paths ≠ []) {rounds : Nat}
    (enough : infos.length < rounds) :
    scanInfos config now id addrs rounds infos = some (searchSeq now id infos) := by
  induction infos generalizing rounds with
  | nil =>
      obtain ⟨rounds, rfl⟩ := Nat.exists_eq_succ_of_ne_zero (Nat.ne_of_gt enough)
      rfl
  | cons info rest ih =>
      obtain ⟨rounds, rfl⟩ :=
        Nat.exists_eq_succ_of_ne_zero (Nat.ne_of_gt (Nat.zero_lt_of_lt enough))
      have later : scanInfos config now id addrs rounds rest = some (searchSeq now id rest) :=
        ih (fun other member => routed other (List.mem_cons_of_mem info member))
          (Nat.lt_of_succ_lt_succ enough)
      have full : ¬(config.rreqMulVisit ≠ 0 ∧ info.paths.length < config.rreqMulVisit) := by
        have some := List.length_pos_iff.mpr (routed info List.mem_cons_self)
        have limit := rreqMulVisit_le_one config
        omega
      rw [scanInfos, searchSeq, later, if_neg full]
      split
      · rfl
      · split <;> rfl

theorem dsrRreqDuplicateWithin_ends (routed : table.Routed) :
    ∃ rounds, dsrRreqDuplicateWithin rounds config now table initiator target id length addrs =
      some (dsrRreqDuplicate config now table initiator target id length addrs) := by
  have stored : ∀ info ∈ (table.rreqInfoMap.lookup initiator).getD [], info.paths ≠ [] := by
    cases found : table.rreqInfoMap.lookup initiator with
    | none => exact fun _ member => absurd member List.not_mem_nil
    | some infos => exact routed initiator infos found
  refine ⟨((table.rreqInfoMap.lookup initiator).getD []).length + 1, ?_⟩
  rw [dsrRreqDuplicateWithin, scanInfos_ends stored (Nat.lt_succ_self _)]
  rfl

/-! ## What the check depends on -/

theorem searchSeq_young (found : (searchSeq now id infos).2 = true) :
    ∃ info ∈ infos, info.seq = id ∧ now - info.time ≤ rreqInfoTime := by
  induction infos with
  | nil => cases found
  | cons info rest ih =>
      have later : (searchSeq now id rest).2 = true →
          ∃ other ∈ info :: rest, other.seq = id ∧ now - other.time ≤ rreqInfoTime := by
        intro found
        obtain ⟨other, member, same, young⟩ := ih found
        exact ⟨other, List.mem_cons_of_mem info member, same, young⟩
      rw [searchSeq] at found
      split at found
      · exact later found
      · next young =>
        split at found
        · exact later found
        · next same =>
          exact ⟨info, List.mem_cons_self, not_not.mp same, not_lt.mp young⟩

theorem searchSeq_sublist (number : Nat) : (searchSeq now number infos).1.Sublist infos := by
  induction infos with
  | nil => exact List.nil_sublist []
  | cons info rest ih =>
      rw [searchSeq]
      split
      · exact ih.cons info
      · split
        · exact ih.cons_cons info
        · exact List.Sublist.refl _

theorem dsrRreqDuplicate_dsrRreqTbl :
    (dsrRreqDuplicate config now table initiator target id length addrs).1.dsrRreqTbl =
      table.dsrRreqTbl := by
  unfold dsrRreqDuplicate
  dsimp only
  split
  · rfl
  · split <;> rfl

theorem dsrRreqDuplicate_routed (routed : table.Routed) :
    (dsrRreqDuplicate config now table initiator target id length addrs).1.Routed := by
  have kept : ∀ info ∈ (searchSeq now id ((table.rreqInfoMap.lookup initiator).getD [])).1,
      info.paths ≠ [] := by
    intro info member
    have old := (searchSeq_sublist id).subset member
    cases found : table.rreqInfoMap.lookup initiator with
    | none => simp [found] at old
    | some infos => exact routed initiator infos found info (by simpa [found] using old)
  intro asked infos stored
  unfold dsrRreqDuplicate at stored
  dsimp only at stored
  by_cases here : asked = initiator
  · subst here
    split at stored
    · rw [Finmap.lookup_insert] at stored
      cases stored
      exact kept
    · have appended : infos = (searchSeq now id
          ((table.rreqInfoMap.lookup asked).getD [])).1 ++
            [{ seq := id, time := now, paths := [addrs] }] := by
        split at stored <;>
          exact Option.some.inj (stored.symm.trans (Finmap.lookup_insert _))
      rw [appended]
      intro info member
      rcases List.mem_append.mp member with old | new
      · exact kept info old
      · rw [List.mem_singleton.mp new]
        exact List.cons_ne_nil _ _
  · split at stored
    · exact routed asked infos ((Finmap.lookup_insert_of_ne _ here).symm.trans stored)
    · split at stored <;>
        exact routed asked infos ((Finmap.lookup_insert_of_ne _ here).symm.trans stored)

end

/-! ## Runs -/

/-- What a request is known by. -/
structure RreqName where
  initiator : InAddr
  target : InAddr
  id : Nat
  deriving DecidableEq

/-- A copy of a request that a node hears, with the table it has then and the verdict. -/
structure Visit where
  time : SimTime
  before : RreqTable
  request : RreqName
  cost : ℚ
  length : Int
  addrs : List InAddr
  accepted : Bool

namespace Visit

variable (config : RreqConfig) (visit : Visit)

/-- `dsr_rreq_duplicate` for the copy. -/
def duplicate : RreqTable × Bool :=
  dsrRreqDuplicate config visit.time visit.before visit.request.initiator visit.request.target
    visit.request.id visit.length visit.addrs

/-- What `dsr_rreq_opt_recv` does to the table first, with whether it goes on. -/
def hear : Except Fault (RreqTable × Bool) :=
  if (visit.duplicate config).2 then .ok ((visit.duplicate config).1, false)
  else
    (rreqTblAddId config visit.time (visit.duplicate config).1 visit.request.initiator
      visit.request.target visit.request.id visit.cost visit.addrs visit.length).bind fun table =>
      .ok (table, true)

end Visit

/-- The events that do not come with a request. -/
def RreqEvent.Own : RreqEvent → Prop
  | .addId .. => False
  | .routeDiscovery _ | .discoveryCancel _ | .timer _ => True

/-- The runs of a node from time 0, with the copies of requests that it has heard. -/
inductive VisitRun (config : RreqConfig) : SimTime → RreqTable → List Visit → Prop where
  | start : VisitRun config 0 .initial []
  | hears {now : SimTime} {table : RreqTable} {heard : List Visit} (visit : Visit)
      (earlier : VisitRun config now visit.before heard) (later : now ≤ visit.time)
      (ran : visit.hear config = .ok (table, visit.accepted)) :
      VisitRun config visit.time table (heard ++ [visit])
  | acts {now time : SimTime} {table table' : RreqTable} {heard : List Visit} {event : RreqEvent}
      {acts : List RreqAct} (earlier : VisitRun config now table heard) (later : now ≤ time)
      (own : event.Own) (ran : table.perform config time event = .ok (table', acts)) :
      VisitRun config time table' heard

def copiesOf (request : RreqName) (heard : List Visit) : List Visit :=
  heard.filter fun visit => visit.request = request

def RreqTable.Lists (table : RreqTable) (request : RreqName) : Prop :=
  ∃ e, table.dsrRreqTbl.lookup request.initiator = some e ∧
    (request.target, request.id) ∈ e.rreqIdTbl.map fun entry => (entry.trgAddr, entry.id)

section

variable {config : RreqConfig} {now time : SimTime} {table table' : RreqTable}
  {request : RreqName}

theorem lookup_of_erase {tbl : DsrRreqTbl} {key other : InAddr} {e : RreqTblEntry}
    (stored : (tbl.erase key).lookup other = some e) : tbl.lookup other = some e := by
  by_cases here : other = key
  · rw [here, Finmap.lookup_erase] at stored
    cases stored
  · rwa [Finmap.lookup_erase_ne here] at stored

theorem addIdEntry_keys {ids ids' : List IdEntry} {target : InAddr} {id : Nat}
    {route : IdEntryRoute} (ran : addIdEntry config ids target id route = .ok ids')
    {key : InAddr × Nat} (member : key ∈ ids'.map fun entry => (entry.trgAddr, entry.id)) :
    key ∈ ids.map (fun entry => (entry.trgAddr, entry.id)) ∨ key = (target, id) := by
  unfold addIdEntry at ran
  split at ran
  · cases ran
    have keeps : ∀ entry, ((visitAgain config route entry).trgAddr,
        (visitAgain config route entry).id) = (entry.trgAddr, entry.id) := by
      intro entry
      unfold visitAgain
      split
      · rfl
      · split <;> rfl
    rw [List.map_reverse, updateFirst.map_key keeps, List.map_reverse, List.reverse_reverse]
      at member
    exact .inl member
  · obtain ⟨kept, forgets, ran⟩ := bind_ok.mp ran
    cases ran
    have fewer : kept ⊆ ids := by
      unfold forgetFirst at forgets
      split at forgets
      · cases ids with
        | nil => cases forgets
        | cons first rest =>
            cases forgets
            exact List.subset_cons_self first kept
      · cases forgets
        exact List.Subset.refl _
    rw [List.map_append] at member
    rcases List.mem_append.mp member with old | new
    · exact .inl (List.map_subset _ fewer old)
    · exact .inr (List.mem_singleton.mp new)

theorem rreqTblAddId_lists {named : RreqName} {cost : ℚ} {addrs : List InAddr} {length : Int}
    (ran : rreqTblAddId config now table named.initiator named.target named.id cost addrs length =
      .ok table') (lists : table'.Lists request) : table.Lists request ∨ request = named := by
  obtain ⟨found, entry, ran⟩ := bind_ok.mp ran
  obtain ⟨ids, adds, ran⟩ := bind_ok.mp ran
  obtain ⟨made, _, others⟩ := rreqTblEntry_ok entry
  cases ran
  obtain ⟨e, stored, member⟩ := lists
  by_cases here : request.initiator = named.initiator
  · rw [here, Finmap.lookup_insert] at stored
    cases stored
    rcases addIdEntry_keys adds member with old | new
    · cases known : table.dsrRreqTbl.lookup named.initiator with
      | none =>
          rw [made, known] at old
          exact absurd old List.not_mem_nil
      | some e =>
          rw [made, known] at old
          exact .inl ⟨e, here ▸ known, old⟩
    · obtain ⟨target, id⟩ := Prod.mk.inj new
      cases request
      cases named
      exact .inr (by simp_all)
  · rw [Finmap.lookup_insert_of_ne _ here, others _ here] at stored
    exact .inl ⟨e, stored, member⟩

theorem perform_lists {event : RreqEvent} {acts : List RreqAct} (own : event.Own)
    (ran : table.perform config now event = .ok (table', acts)) (lists : table'.Lists request) :
    table.Lists request := by
  obtain ⟨e, stored, member⟩ := lists
  cases event with
  | addId => cases own
  | routeDiscovery target =>
      obtain ⟨found, entry, ran⟩ := bind_ok.mp ran
      obtain ⟨made, there, others⟩ := rreqTblEntry_ok entry
      by_cases here : request.initiator = target
      · have ids : e.rreqIdTbl = found.2.rreqIdTbl := by
          split at ran
          · cases ran
            rw [here, there] at stored
            cases stored
            rfl
          · cases ran
            rw [here] at stored
            cases stored.symm.trans (Finmap.lookup_insert found.1)
            rfl
        rw [ids, made, ← here] at member
        cases known : table.dsrRreqTbl.lookup request.initiator with
        | none =>
            rw [known] at member
            exact absurd member List.not_mem_nil
        | some old =>
            rw [known] at member
            exact ⟨old, known, member⟩
      · refine ⟨e, ?_, member⟩
        rw [← others _ here]
        split at ran
        · cases ran
          exact stored
        · cases ran
          exact (Finmap.lookup_insert_of_ne _ here).symm.trans stored
  | discoveryCancel dst =>
      refine ⟨e, ?_, member⟩
      simp only [RreqTable.perform, rreqTblRouteDiscoveryCancel] at ran
      split at ran
      · cases ran
        exact stored
      · cases ran
        exact lookup_of_erase stored
  | timer key =>
      simp only [RreqTable.perform, rreqTimerTest] at ran
      split at ran
      · cases ran
        exact ⟨e, stored, member⟩
      · next expired found =>
        obtain ⟨own, _, ran⟩ := bind_ok.mp ran
        split at ran
        · split at ran <;> cases ran
          exact ⟨e, lookup_of_erase stored, member⟩
        · cases ran
          by_cases here : request.initiator = key
          · rw [here] at stored
            cases stored.symm.trans (Finmap.lookup_insert table.dsrRreqTbl)
            exact ⟨expired, here ▸ found, member⟩
          · exact ⟨e, (Finmap.lookup_insert_of_ne _ here).symm.trans stored, member⟩

end

/-! ## What a run has left -/

section

variable {config : RreqConfig} {now : SimTime} {table : RreqTable} {heard : List Visit}
  {visit : Visit}

theorem Visit.hear_accepted (ran : visit.hear config = .ok (table, visit.accepted)) :
    visit.accepted = !(visit.duplicate config).2 := by
  unfold hear at ran
  split at ran
  · next found =>
    rw [found]
    exact (congrArg Prod.snd (Except.ok.inj ran)).symm
  · next fresh =>
    obtain ⟨added, _, ran⟩ := bind_ok.mp ran
    rw [Bool.not_eq_true] at fresh
    rw [fresh]
    exact (congrArg Prod.snd (Except.ok.inj ran)).symm

theorem Visit.hear_rreqInfoMap {accepted : Bool} (ran : visit.hear config = .ok (table, accepted)) :
    table.rreqInfoMap = (visit.duplicate config).1.rreqInfoMap := by
  unfold hear at ran
  split at ran
  · cases ran
    rfl
  · obtain ⟨added, adds, ran⟩ := bind_ok.mp ran
    cases ran
    exact Host.rreqTblAddId_rreqInfoMap adds

theorem Visit.hear_lists {accepted : Bool} {request : RreqName}
    (ran : visit.hear config = .ok (table, accepted)) (lists : table.Lists request) :
    visit.before.Lists request ∨ request = visit.request := by
  have checked : (visit.duplicate config).1.Lists request → visit.before.Lists request := by
    rintro ⟨e, stored, member⟩
    exact ⟨e, dsrRreqDuplicate_dsrRreqTbl ▸ stored, member⟩
  unfold hear at ran
  split at ran
  · cases ran
    exact .inl (checked lists)
  · obtain ⟨added, adds, ran⟩ := bind_ok.mp ran
    cases ran
    exact (rreqTblAddId_lists adds lists).imp_left checked

namespace VisitRun

theorem at_visit (run : VisitRun config now table heard) {before after : List Visit}
    (split : heard = before ++ visit :: after) :
    ∃ time, VisitRun config time visit.before before ∧ time ≤ visit.time ∧
      visit.accepted = !(visit.duplicate config).2 := by
  induction run generalizing after with
  | start => exact absurd split (by simp)
  | hears last earlier later ran ih =>
      rcases split_last split with ⟨-, rfl, rfl⟩ | ⟨rest, -, before⟩
      · exact ⟨_, earlier, later, Visit.hear_accepted ran⟩
      · exact ih before
  | acts earlier later own ran ih => exact ih split

theorem routed (run : VisitRun config now table heard) : table.Routed := by
  induction run with
  | start => exact fun _ _ stored => by cases stored
  | hears visit earlier later ran ih =>
      intro initiator infos stored
      rw [Visit.hear_rreqInfoMap ran] at stored
      exact dsrRreqDuplicate_routed ih initiator infos stored
  | acts earlier later own ran ih =>
      intro initiator infos stored
      rw [Host.perform_rreqInfoMap ran] at stored
      exact ih initiator infos stored

theorem lists (run : VisitRun config now table heard) {request : RreqName}
    (lists : table.Lists request) : ∃ visit ∈ heard, visit.request = request := by
  induction run with
  | start =>
      obtain ⟨e, stored, -⟩ := lists
      cases stored
  | hears visit earlier later ran ih =>
      rcases Visit.hear_lists ran lists with old | new
      · obtain ⟨other, member, same⟩ := ih old
        exact ⟨other, List.mem_append_left _ member, same⟩
      · exact ⟨visit, List.mem_append_right _ (List.mem_singleton_self visit), new.symm⟩
  | acts earlier later own ran ih => exact ih (perform_lists own ran lists)

theorem remembers (run : VisitRun config now table heard) (member : visit ∈ heard)
    (accepted : visit.accepted = true) (recent : now - visit.time ≤ rreqInfoTime) :
    table.Remembers visit.time visit.request.initiator visit.request.id := by
  induction run with
  | start => cases member
  | hears last earlier later ran ih =>
      have memory := Visit.hear_rreqInfoMap ran
      rcases List.mem_append.mp member with old | new
      · have known := ih old (by simp only [SimTime] at *; omega)
        unfold RreqTable.Remembers
        rw [memory]
        exact dsrRreqDuplicate_keeps recent known
      · obtain rfl := List.mem_singleton.mp new
        have fresh : (visit.duplicate config).2 = false := by
          have verdict := Visit.hear_accepted ran
          rw [accepted] at verdict
          exact Bool.not_eq_true' _ ▸ verdict.symm
        unfold RreqTable.Remembers
        rw [memory]
        exact dsrRreqDuplicate_new fresh
  | acts earlier later own ran ih =>
      have known := ih member (by simp only [SimTime] at *; omega)
      unfold RreqTable.Remembers
      rw [Host.perform_rreqInfoMap ran]
      exact known

end VisitRun

end

/-! ## A request that a node receives -/

namespace Host

variable {outside : Outside} {config : RreqConfig} {host after : Host} {dp : DsrPkt}
  {heard : List Visit}

theorem rtcFind_table {dst : InAddr} {found : Option DsrSrt}
    (ran : host.rtcFind outside dst = .ok (after, found)) : after.table = host.table := by
  obtain ⟨result, _, ran⟩ := bind_ok.mp ran
  cases ran
  rfl

theorem xmit_table {srt : DsrSrt} (ran : host.xmit outside dp srt = .ok after) :
    after.table = host.table := by
  obtain ⟨sent, _, ran⟩ := bind_ok.mp ran
  cases sent with
  | none =>
      cases ran
      rfl
  | some p =>
      cases ran
      rfl

theorem sendBuffered_table (ran : host.sendBuffered outside dp = .ok after) :
    after.table = host.table := by
  obtain ⟨⟨looked, found⟩, looks, ran⟩ := bind_ok.mp ran
  have same : looked.table = host.table := rtcFind_table looks
  cases found with
  | none =>
      cases ran
      exact same
  | some srt => exact (xmit_table ran).trans same

theorem sendBufSend_table {dst : InAddr} (ran : host.sendBufSend outside dst = .ok after) :
    after.table = host.table := by
  obtain ⟨last, sent, ran⟩ := bind_ok.mp ran
  cases ran
  exact foldlM_seen sent (fun _ (acc : Host) => acc.table = host.table) rfl
    fun _ _ _ _ _ same sends => (sendBuffered_table sends).trans same

theorem answerRreq_table {opt : DsrRreqOpt} {srt srtRev : DsrSrt} {recv : HostRecv DsrRreqOpt}
    (ran : host.answerRreq outside dp opt srt srtRev = .ok recv) :
    recv.host.table = host.table := by
  obtain ⟨same | ⟨found, looks⟩, -⟩ := answerRreq_ok ran
  · rw [same]
  · exact rtcFind_table looks

theorem learnRreq_visits {srtRev : DsrSrt} {now : SimTime} (later : now ≤ outside.now)
    (run : VisitRun config now host.table heard)
    (ran : host.learnRreq outside srtRev = .ok after) :
    ∃ now ≤ outside.now, VisitRun config now after.table heard := by
  obtain ⟨node, _, ran⟩ := bind_ok.mp ran
  refine foldlM_seen ran
    (fun _ (acc : Host) => ∃ now ≤ outside.now, VisitRun config now acc.table heard)
    ⟨now, later, run⟩ ?_
  intro _ dst acc acc' _ reached cancels
  obtain ⟨now, later, run⟩ := reached
  obtain ⟨sent, sends, cancels⟩ := bind_ok.mp cancels
  cases cancels
  rw [← sendBufSend_table sends] at run
  have own : (RreqEvent.discoveryCancel dst).Own := trivial
  exact ⟨outside.now, le_refl _, run.acts later own rfl⟩

theorem rreqOptRecv_visits {first : Bool} {opt : DsrRreqOpt} {recv : HostRecv DsrRreqOpt}
    {now : SimTime} (later : now ≤ outside.now) (run : VisitRun config now host.table heard)
    (ran : host.rreqOptRecv outside config first dp opt = .ok recv) :
    (recv.replies = [] ∧ VisitRun config now recv.host.table heard) ∨
      ∃ visit : Visit, visit.time = outside.now ∧ visit.before = host.table ∧
        visit.request = ⟨dp.src, opt.target, opt.id⟩ ∧ visit.addrs = opt.addrs ∧
        (visit.accepted = false → recv.action = dsrPktDrop) ∧
        ∃ now ≤ outside.now, VisitRun config now recv.host.table (heard ++ [visit]) := by
  let copy (accepted : Bool) : Visit :=
    { time := outside.now, before := host.table, request := ⟨dp.src, opt.target, opt.id⟩,
      cost := host.node.pathCost dp opt, length := rreqAddrsLen opt, addrs := opt.addrs,
      accepted := accepted }
  cases rreqOptRecv_ok ran with
  | dropped => exact .inl ⟨rfl, run⟩
  | @duplicate table found =>
      have hears : (copy false).hear config = .ok (table, false) := by
        simp only [Visit.hear, Visit.duplicate, copy, found, if_true]
      exact .inr ⟨copy false, rfl, rfl, rfl, rfl, fun _ => rfl, outside.now, le_refl _,
        run.hears (copy false) later hears⟩
  | @answered checked table _ _ _ _ _ fresh added _ _ learns answers =>
      have hears : (copy true).hear config = .ok (table, true) := by
        simp only [Visit.hear, Visit.duplicate, copy, fresh]
        exact bind_ok.mpr ⟨table, added, rfl⟩
      have heard' : VisitRun config outside.now table (heard ++ [copy true]) :=
        run.hears (copy true) later hears
      rw [answerRreq_table answers]
      exact .inr ⟨copy true, rfl, rfl, rfl, rfl, (fun failed => by cases failed),
        learnRreq_visits (le_refl outside.now) heard' learns⟩

end Host

/-! ## Several visits -/

/-- Whether a copy is to be accepted after the ones that have been. -/
def MayVisit (maxVisit : Nat) (accepted : List Visit) (addrs : List InAddr) : Prop :=
  accepted.length < maxVisit ∧
    ∀ old ∈ accepted, old.addrs ≠ addrs ∧ addrs.length ≤ old.addrs.length

/-- The check of every copy of a request ends, and accepts the copies that it is to accept. -/
structure SeveralVisits (config : RreqConfig) (copies : List Visit) : Prop where
  accepts : ∀ before copy after, copies = before ++ copy :: after →
    (copy.accepted = true ↔
      MayVisit config.rreqMaxVisit (before.filter Visit.accepted) copy.addrs)
  ends : ∀ copy ∈ copies, ∃ rounds,
    dsrRreqDuplicateWithin rounds config copy.time copy.before copy.request.initiator
      copy.request.target copy.request.id copy.length copy.addrs = some (copy.duplicate config)

/-- At the first copy no request of the initiator with this number is remembered, and every
other copy has the addresses of the first one or more of them. -/
def OneVisit (copies : List Visit) : Prop :=
  ∀ first rest, copies = first :: rest →
    ¬first.before.Remembers (first.time - rreqInfoTime) first.request.initiator
      first.request.id ∧
    ∀ copy ∈ rest, copy.addrs = first.addrs ∨ first.addrs.length < copy.addrs.length

section

variable {config : RreqConfig} {now : SimTime} {table : RreqTable} {heard : List Visit}
  {request : RreqName} {visit : Visit}

theorem copiesOf_split {before after : List Visit}
    (split : copiesOf request heard = before ++ visit :: after) :
    visit.request = request ∧ ∃ earlier later, heard = earlier ++ visit :: later ∧
      copiesOf request earlier = before := by
  obtain ⟨front, back, rfl, fronts, backs⟩ := List.filter_eq_append_iff.mp split
  obtain ⟨others, later, rfl, different, same, -⟩ := List.filter_eq_cons_iff.mp backs
  have none : copiesOf request others = [] := List.filter_eq_nil_iff.mpr different
  refine ⟨by simpa using same, front ++ others, later, by simp, ?_⟩
  rw [copiesOf, List.filter_append]
  exact (congrArg₂ (· ++ ·) fronts none).trans (List.append_nil before)

theorem Visit.duplicate_iff (fresh : ¬visit.before.Lists visit.request) :
    (visit.duplicate config).2 = true ↔
      visit.before.Remembers (visit.time - rreqInfoTime) visit.request.initiator
        visit.request.id := by
  constructor
  · intro found
    unfold duplicate dsrRreqDuplicate at found
    dsimp only at found
    split at found
    · next young =>
      obtain ⟨info, member, same, recent⟩ := searchSeq_young young
      cases stored : visit.before.rreqInfoMap.lookup visit.request.initiator with
      | none => simp [stored] at member
      | some infos =>
          exact ⟨infos, stored, info, by simpa [stored] using member, same, by
            simp only [SimTime] at *; omega⟩
    · split at found
      · cases found
      · next e stored =>
        obtain ⟨entry, member, same⟩ := List.any_eq_true.mp found
        simp only [decide_eq_true_eq] at same
        exact absurd ⟨e, stored, List.mem_map.mpr ⟨entry, member, Prod.ext same.1 same.2.1⟩⟩ fresh
  · intro known
    refine dsrRreqDuplicate_remembered ?_ known
    simp only [SimTime]
    omega

theorem VisitRun.first_accepted (run : VisitRun config now table heard) {first : Visit}
    {rest : List Visit} (copies : copiesOf request heard = first :: rest) :
    first.accepted = true ↔
      ¬first.before.Remembers (first.time - rreqInfoTime) first.request.initiator
        first.request.id := by
  have split : copiesOf request heard = [] ++ first :: rest := copies
  obtain ⟨same, earlier, later, whole, none⟩ := copiesOf_split split
  obtain ⟨time, before, -, verdict⟩ := run.at_visit whole
  have fresh : ¬first.before.Lists first.request := by
    intro lists
    obtain ⟨other, member, named⟩ := before.lists lists
    have among : other ∈ copiesOf request earlier :=
      List.mem_filter.mpr ⟨member, by simp [named, same]⟩
    rw [none] at among
    exact absurd among List.not_mem_nil
  rw [verdict, Bool.not_eq_true', ← Bool.not_eq_true, Visit.duplicate_iff fresh]

theorem VisitRun.later_rejected (run : VisitRun config now table heard)
    (window : ∀ copy ∈ copiesOf request heard, ∀ other ∈ copiesOf request heard,
      other.time - copy.time ≤ rreqInfoTime) {first : Visit} {rest : List Visit}
    (copies : copiesOf request heard = first :: rest) (accepted : first.accepted = true) :
    ∀ copy ∈ rest, copy.accepted = false := by
  intro copy member
  obtain ⟨front, back, rfl⟩ := List.append_of_mem member
  have split : copiesOf request heard = (first :: front) ++ copy :: back := copies
  obtain ⟨same, earlier, later, whole, before⟩ := copiesOf_split split
  obtain ⟨time, reached, within, verdict⟩ := run.at_visit whole
  have among : first ∈ copiesOf request earlier := before ▸ List.mem_cons_self
  obtain ⟨heardFirst, named⟩ := List.mem_filter.mp among
  have named : first.request = request := by simpa using named
  have recent : copy.time - first.time ≤ rreqInfoTime :=
    window first (copies ▸ List.mem_cons_self) copy
      (copies ▸ List.mem_cons_of_mem first member)
  have known := reached.remembers heardFirst accepted (by simp only [SimTime] at *; omega)
  rw [named, ← same] at known
  rw [verdict, Bool.not_eq_false']
  exact dsrRreqDuplicate_remembered recent known

theorem VisitRun.ends (run : VisitRun config now table heard)
    (member : visit ∈ copiesOf request heard) :
    ∃ rounds, dsrRreqDuplicateWithin rounds config visit.time visit.before
      visit.request.initiator visit.request.target visit.request.id visit.length visit.addrs =
        some (visit.duplicate config) := by
  obtain ⟨before, after, whole⟩ := List.append_of_mem (List.mem_filter.mp member).1
  obtain ⟨time, reached, -, -⟩ := run.at_visit whole
  exact dsrRreqDuplicateWithin_ends reached.routed

theorem mayVisit_nil {maxVisit : Nat} (several : 1 < maxVisit) (addrs : List InAddr) :
    MayVisit maxVisit [] addrs :=
  ⟨Nat.zero_lt_of_lt several, fun _ member => absurd member List.not_mem_nil⟩

theorem mayVisit_first {maxVisit : Nat} (several : 1 < maxVisit) {first : Visit}
    {front : List Visit} (accepted : first.accepted = true)
    (rejected : ∀ copy ∈ front, copy.accepted = false) (addrs : List InAddr) :
    MayVisit maxVisit ((first :: front).filter Visit.accepted) addrs ↔
      ¬(addrs = first.addrs ∨ first.addrs.length < addrs.length) := by
  have only : (first :: front).filter Visit.accepted = [first] := by
    rw [List.filter_cons_of_pos accepted, List.filter_eq_nil_iff.mpr]
    exact fun copy member => by simp [rejected copy member]
  rw [only, MayVisit, not_or, not_lt, List.length_singleton]
  simp only [List.mem_singleton, forall_eq, several, true_and]
  exact and_congr_left' ne_comm

/-- With several visits allowed, the check accepts the copies of a request that it is to accept
if and only if it is to accept one: the first. -/
theorem severalVisits_iff (several : 1 < config.rreqMaxVisit)
    (run : VisitRun config now table heard)
    (window : ∀ copy ∈ copiesOf request heard, ∀ other ∈ copiesOf request heard,
      other.time - copy.time ≤ rreqInfoTime) :
    SeveralVisits config (copiesOf request heard) ↔ OneVisit (copiesOf request heard) := by
  constructor
  · intro visits first rest copies
    have accepted : first.accepted = true :=
      (visits.accepts [] first rest copies).mpr (mayVisit_nil several first.addrs)
    have rejected := run.later_rejected window copies accepted
    refine ⟨(run.first_accepted copies).mp accepted, fun copy member => ?_⟩
    have verdict := rejected copy member
    obtain ⟨front, back, rfl⟩ := List.append_of_mem member
    have before : ∀ copy ∈ front, copy.accepted = false := fun copy among =>
      rejected copy (List.mem_append_left _ among)
    have rule := visits.accepts (first :: front) copy back copies
    rw [mayVisit_first several accepted before, verdict] at rule
    by_contra different
    exact absurd (rule.mpr different) Bool.false_ne_true
  · intro once
    constructor
    · intro before copy after copies
      cases before with
      | nil =>
          have accepted := (run.first_accepted copies).mpr (once copy after copies).1
          exact iff_of_true accepted (mayVisit_nil several copy.addrs)
      | cons first front =>
          obtain ⟨unknown, longer⟩ := once first (front ++ copy :: after) copies
          have accepted := (run.first_accepted copies).mpr unknown
          have rejected := run.later_rejected window copies accepted
          have before : ∀ copy ∈ front, copy.accepted = false := fun copy among =>
            rejected copy (List.mem_append_left _ among)
          have here : copy ∈ front ++ copy :: after :=
            List.mem_append_right _ List.mem_cons_self
          rw [mayVisit_first several accepted before, rejected copy here]
          exact iff_of_false Bool.false_ne_true (not_not.mpr (longer copy here))
    · exact fun copy member => run.ends member

end

/-! ## Two copies -/

/-- Two visits are allowed. -/
def RreqConfig.twoVisits : RreqConfig := { RreqConfig.default with rreqMaxVisit := 2 }

def copyOver (time : SimTime) (before : RreqTable) (addrs : List InAddr) (accepted : Bool) :
    Visit where
  time := time
  before := before
  request := ⟨2, 3, 7⟩
  cost := 1
  length := dsrAddressSize * addrs.length
  addrs := addrs
  accepted := accepted

theorem copyOver_first :
    ∃ table, VisitRun .twoVisits 0 table [copyOver 0 .initial [4] true] :=
  ⟨_, VisitRun.start.hears (copyOver 0 .initial [4] true) (le_refl 0) rfl⟩

theorem copyOver_second (addrs : List InAddr) :
    ∃ table before, VisitRun .twoVisits 1 table
      [copyOver 0 .initial [4] true, copyOver 1 before addrs false] := by
  obtain ⟨before, first⟩ := copyOver_first
  have soon : (1 : SimTime) - 0 ≤ rreqInfoTime := by decide
  have later : (0 : SimTime) ≤ 1 := by decide
  have known := first.remembers (List.mem_singleton_self _) rfl (by decide)
  have duplicate : ((copyOver 1 before addrs false).duplicate .twoVisits).2 = true :=
    dsrRreqDuplicate_remembered soon known
  exact ⟨_, before, first.hears (copyOver 1 before addrs false) later (if_pos duplicate)⟩

theorem copyOver_window (before : RreqTable) (addrs : List InAddr) :
    ∀ copy ∈ [copyOver 0 .initial [4] true, copyOver 1 before addrs false],
      ∀ other ∈ [copyOver 0 .initial [4] true, copyOver 1 before addrs false],
        other.time - copy.time ≤ rreqInfoTime := by
  have times : ∀ copy ∈ [copyOver 0 .initial [4] true, copyOver 1 before addrs false],
      copy.time ∈ ([0, 1] : List SimTime) := by
    simp [copyOver]
  have window : ∀ first ∈ ([0, 1] : List SimTime), ∀ second ∈ ([0, 1] : List SimTime),
      second - first ≤ rreqInfoTime := by decide
  exact fun copy member other member' =>
    window copy.time (times copy member) other.time (times other member')

/-- A copy over the same route is a duplicate, as it is to be. -/
theorem severalVisits_sameRoute :
    ∃ table before, VisitRun .twoVisits 1 table
        [copyOver 0 .initial [4] true, copyOver 1 before [4] false] ∧
      SeveralVisits .twoVisits [copyOver 0 .initial [4] true, copyOver 1 before [4] false] := by
  obtain ⟨table, before, run⟩ := copyOver_second [4]
  have exactly : SeveralVisits .twoVisits (copiesOf ⟨2, 3, 7⟩ _) ↔ _ :=
    severalVisits_iff (by decide) run (copyOver_window before [4])
  refine ⟨table, before, run, exactly.mpr ?_⟩
  intro first rest copies
  cases copies
  constructor
  · rintro ⟨infos, stored, -⟩
    cases stored
  · intro copy member
    rw [List.mem_singleton.mp member]
    exact .inl rfl

/-- A copy over another route of the same length is a duplicate. -/
theorem not_severalVisits_otherRoute :
    ¬∀ now table heard, VisitRun .twoVisits now table heard →
      (∀ copy ∈ copiesOf ⟨2, 3, 7⟩ heard, ∀ other ∈ copiesOf ⟨2, 3, 7⟩ heard,
        other.time - copy.time ≤ rreqInfoTime) →
      SeveralVisits .twoVisits (copiesOf ⟨2, 3, 7⟩ heard) := by
  intro always
  obtain ⟨table, before, run⟩ := copyOver_second [5]
  have visits := always 1 table _ run (copyOver_window before [5])
  have rule := visits.accepts [copyOver 0 .initial [4] true] (copyOver 1 before [5] false) [] rfl
  have may : MayVisit 2 [copyOver 0 .initial [4] true] [5] := by
    refine ⟨by decide, fun old member => ?_⟩
    rw [List.mem_singleton.mp member]
    decide
  exact absurd (rule.mpr may) Bool.false_ne_true

end SyncFanet.Dsr
