import SyncFanet.Dsr.AckIds
import SyncFanet.Dsr.SalvageRuns

/-!
# Acknowledgement requests

The requests in a packet that `omnet_xmit` transmits, the entry that `maint_buf_add` makes for
it, and the acknowledgements that the node which receives it sends.
-/

set_option autoImplicit false

namespace SyncFanet.Dsr

variable {Cache : Type}

/-! ## Requests -/

def requestId : DsrOpt → Option Nat
  | .ackReq id => some id
  | _ => none

/-- The identifiers of all acknowledgement requests in the options headers. -/
def requestIds (opth : List (List DsrOpt)) : List Nat :=
  opth.flatten.filterMap requestId

@[simp] theorem requestIds_append (before after : List (List DsrOpt)) :
    requestIds (before ++ after) = requestIds before ++ requestIds after := by
  simp [requestIds]

@[simp] theorem requestIds_cons (header : List DsrOpt) (rest : List (List DsrOpt)) :
    requestIds (header :: rest) = header.filterMap requestId ++ requestIds rest := by
  simp [requestIds]

theorem any_hasAckReq (opth : List (List DsrOpt)) :
    opth.any hasAckReq = true ↔ requestIds opth ≠ [] := by
  have header_iff : ∀ header : List DsrOpt, hasAckReq header = false ↔
      header.filterMap requestId = [] := by
    intro header
    rw [hasAckReq, List.any_eq_false, List.filterMap_eq_nil_iff]
    refine forall₂_congr fun dopt _ => ?_
    cases dopt <;> simp [requestId]
  rw [← not_iff_not, not_not, Bool.not_eq_true]
  induction opth with
  | nil => simp [requestIds]
  | cons header rest ih =>
      rw [List.any_cons, Bool.or_eq_false_iff, ih, header_iff, requestIds_cons,
        List.append_eq_nil_iff]

/-- `dsr_ack_req_opt_add` does not take the place of a request that is there. -/
theorem perm_requestIds_add (opth : List (List DsrOpt)) (id : Nat) :
    (requestIds (dsrAckReqOptAdd opth id)).Perm (id :: requestIds opth) := by
  unfold dsrAckReqOptAdd
  split
  · next listed =>
      induction opth with
      | nil => cases listed
      | cons header rest ih =>
          rw [updateFirst]
          split
          · simp only [requestIds_cons, List.filterMap_append, List.filterMap_cons, requestId,
              List.filterMap_nil, List.append_assoc]
            exact List.perm_middle
          · next other =>
              have later : rest.any hasAckReq = true := by
                rw [List.any_cons, Bool.or_eq_true] at listed
                exact listed.resolve_left other
              rw [requestIds_cons, requestIds_cons]
              exact ((ih later).append_left _).trans List.perm_middle
  · cases opth with
    | nil => exact .refl _
    | cons header rest =>
        obtain ⟨front, last, split⟩ : ∃ front last, header :: rest = front ++ [last] :=
          ⟨_, _, (List.dropLast_append_getLast (List.cons_ne_nil _ _)).symm⟩
        dsimp only
        rw [split]
        have added : (front ++ [last]).dropLast ++ [(front ++ [last]).getLastD [] ++ [.ackReq id]] =
            front ++ [last ++ [.ackReq id]] := by
          simp [List.getLastD_eq_getLast?]
        have last_added : requestIds [last ++ [.ackReq id]] = requestIds [last] ++ [id] := by
          simp [requestIds, requestId]
        rw [added, requestIds_append, requestIds_append, last_added, ← List.append_assoc]
        exact List.perm_append_comm

/-! ## The entry of a transmission -/

namespace MaintState

variable (s : MaintState Cache)

/-- The entry that `maint_buf_add` creates for a packet. -/
def created (holdoff : Nat) (dp : DsrPkt) : Option Slot :=
  if dp.hasFlag pktRequestAck then
    (s.neighborMap.lookup dp.nxtHop).map fun neigh =>
      s.maintEntryCreate dp neigh (s.asks holdoff neigh)
  else none

/-- The identifier that `maint_buf_add` adds to the packet. -/
def requested (holdoff : Nat) (dp : DsrPkt) : Option Nat :=
  (s.created holdoff dp).bind fun slot =>
    if slot.entry.ackReqSent then some slot.entry.id else none

end MaintState

/-- The entry is in the buffer before `maint_buf_set_timeout`. -/
theorem maintBufAdd_created (agent : MaintAgent Cache)
    (setTimeout : MaintState Cache → Except Fault (MaintState Cache)) (dp : DsrPkt)
    (s : MaintState Cache) :
    match s.created agent.maintHoldoffTime dp with
    | none => agent.maintBufAdd setTimeout dp s = .ok s
    | some slot => ∃ s', agent.maintBufAdd setTimeout dp s = setTimeout s' ∧
        slot ∈ s'.maintBuf := by
  unfold MaintState.created MaintAgent.maintBufAdd
  by_cases flagged : dp.hasFlag pktRequestAck = true
  · rw [if_pos flagged, if_pos flagged]
    cases s.neighborMap.lookup dp.nxtHop with
    | none => rfl
    | some neigh => exact ⟨_, rfl, mem_insertSlot.mpr (.inl rfl)⟩
  · rw [if_neg flagged, if_neg flagged]

/-- `omnet_xmit`, with `maint_buf_add` at its beginning. -/
def MaintAgent.xmit (agent : MaintAgent Cache) (s : MaintState Cache) (dp : DsrPkt) :
    Option DSRPkt :=
  omnetXmit (s.requested agent.maintHoldoffTime dp) dp

/-! ## The answers of a node -/

def answer : Call → Option (InAddr × Nat)
  | .ackSend dst id => some (dst, id)
  | _ => none

/-- The acknowledgements that a node sends, with the nodes that it sends them to. -/
def answers (calls : List Call) : List (InAddr × Nat) :=
  calls.filterMap answer

@[simp] theorem answers_append (before after : List Call) :
    answers (before ++ after) = answers before ++ answers after :=
  List.filterMap_append

structure Recv.Silent {Opt : Type} (recv : Recv Opt) (dp : DsrPkt) : Prop where
  calls : answers recv.calls = []
  flags : recv.dp.flags = dp.flags

structure Handlers.Silent (handlers : Handlers) : Prop where
  rreq : ∀ {now : SimTime} {node : Node} {dp : DsrPkt} {opt : DsrRreqOpt} {recv : Recv DsrRreqOpt},
    handlers.rreqOptRecv now node dp opt = .ok recv → recv.Silent dp
  rrep : ∀ {now : SimTime} {node : Node} {dp : DsrPkt} {opt : DsrRrepOpt} {recv : Recv DsrRrepOpt},
    handlers.rrepOptRecv now node dp opt = .ok recv → recv.Silent dp
  rerr : ∀ {now : SimTime} {node : Node} {dp : DsrPkt} {opt : DsrRerrOpt} {recv : Recv DsrRerrOpt},
    handlers.rerrOptRecv now node dp opt = .ok recv → recv.Silent dp
  ack : ∀ {now : SimTime} {node : Node} {dp : DsrPkt} {opt : DsrAckOpt} {recv : Recv DsrAckOpt},
    handlers.ackOptRecv now node dp opt = .ok recv → recv.Silent dp

section

variable {handlers : Handlers} {now : SimTime} {node : Node} {dp : DsrPkt}

theorem answers_learnLinks {srt : DsrSrt} {prvHop : InAddr} {learned : Node × List Call}
    (learns : learnLinks now node srt prvHop = .ok learned) : answers learned.2 = [] := by
  obtain ⟨node', added, same⟩ := bind_ok.mp learns
  cases same
  rw [answers, List.filterMap_eq_nil_iff]
  intro call among
  obtain ⟨addr, -, listed⟩ := List.mem_flatMap.mp among
  rcases List.mem_cons.mp listed with rfl | listed
  · rfl
  · rw [List.mem_singleton.mp listed]
    rfl

theorem answers_shorten {srt : DsrSrt} {prvHop : InAddr} {extra : List Call}
    (shortened : shorten node dp srt prvHop = .ok (some extra)) : answers extra = [] := by
  obtain ⟨srtCut, cut, shortened⟩ := bind_ok.mp shortened
  obtain ⟨reversed, made, shortened⟩ := bind_ok.mp shortened
  cases reversed with
  | none => cases shortened
  | some srt =>
      cases shortened
      rfl

theorem dsrSrtOptRecv_silent {opt : DsrSrtOpt} {recv : Recv DsrSrtOpt}
    (handled : dsrSrtOptRecv now node dp opt = .ok recv) :
    recv.Silent dp ∧ ∃ srt, dsrSrtNew dp.src dp.dst opt.length opt.addrs dp.costVector = .ok srt ∧
      dsrSrtPrevHop srt ((opt.sleft : Int) - 1) = .ok recv.dp.prvHop := by
  have kept := dsrSrtOptRecv_keeps handled
  obtain ⟨srt, route, handled⟩ := bind_ok.mp handled
  obtain ⟨intended, -, handled⟩ := bind_ok.mp handled
  obtain ⟨prvHop, previous, handled⟩ := bind_ok.mp handled
  obtain ⟨nxtHop, -, handled⟩ := bind_ok.mp handled
  obtain ⟨learned, learns, handled⟩ := bind_ok.mp handled
  obtain ⟨remaining, -, handled⟩ := bind_ok.mp handled
  have quiet : answers (Call.neighTblAdd prvHop :: learned.2) = [] := by
    split at learns
    · obtain ⟨node', -, same⟩ := bind_ok.mp learns
      cases same
      rfl
    · exact answers_learnLinks learns
  suffices ended : answers recv.calls = [] ∧ recv.dp.prvHop = prvHop by
    exact ⟨⟨ended.1, kept.flags⟩, srt, route, ended.2 ▸ previous⟩
  dsimp only at handled
  split at handled
  · obtain ⟨shortened, short, handled⟩ := bind_ok.mp handled
    cases shortened with
    | none =>
        cases handled
        exact ⟨quiet, rfl⟩
    | some extra =>
        have all : answers (Call.neighTblAdd prvHop :: learned.2 ++ extra) = [] := by
          rw [answers_append, quiet, answers_shorten short]
          rfl
        dsimp only at handled
        split_ifs at handled <;> cases handled <;> exact ⟨all, rfl⟩
  · split_ifs at handled <;> cases handled <;> exact ⟨quiet, rfl⟩

theorem map_silent {Opt Opt' : Type} {f : Opt → Opt'} {ran : Except Fault (Recv Opt)}
    {recv : Recv Opt'} (silent : ∀ {inner}, ran = .ok inner → inner.Silent dp)
    (handled : ran.map (Recv.map f) = .ok recv) : recv.Silent dp := by
  obtain ⟨inner, ran, rfl⟩ := map_ok handled
  exact ⟨(silent ran).calls, (silent ran).flags⟩

theorem recvOption_answers {dopt : DsrOpt} {recv : Recv DsrOpt} (silent : handlers.Silent)
    (direct : dp.hasFlag pktPromiscRecv = false)
    (handled : recvOption handlers now node dp dopt = .ok recv) :
    (answers recv.calls).map Prod.snd = (requestId dopt).toList ∧ recv.dp.flags = dp.flags := by
  have of_silent : recv.Silent dp → requestId dopt = none →
      (answers recv.calls).map Prod.snd = (requestId dopt).toList ∧
        recv.dp.flags = dp.flags := by
    intro quiet other
    rw [quiet.calls, other]
    exact ⟨rfl, quiet.flags⟩
  unfold recvOption at handled
  simp only [direct, Bool.false_eq_true, if_false] at handled
  cases dopt with
  | ackReq id =>
      cases handled
      simp only [Recv.map, dsrAckReqOptRecv, direct, Bool.false_eq_true, if_false]
      refine ⟨rfl, ?_⟩
      split <;> rfl
  | srt opt => exact of_silent (map_silent (fun ran => (dsrSrtOptRecv_silent ran).1) handled) rfl
  | rreq opt => exact of_silent (map_silent silent.rreq handled) rfl
  | rrep opt => exact of_silent (map_silent silent.rrep handled) rfl
  | rerr opt => exact of_silent (map_silent silent.rerr handled) rfl
  | ack opt => exact of_silent (map_silent silent.ack handled) rfl
  | padn | prevHop | timeout | flowid | pad1 =>
      cases handled
      exact ⟨rfl, rfl⟩

theorem recvOptions_answers (silent : handlers.Silent) {options : List DsrOpt}
    {start recv : Recv (List DsrOpt)} (direct : start.dp.hasFlag pktPromiscRecv = false)
    (handled : recvOptions handlers now start options = .ok recv) :
    (answers recv.calls).map Prod.snd =
        (answers start.calls).map Prod.snd ++ options.filterMap requestId ∧
      recv.dp.flags = start.dp.flags := by
  induction options generalizing start with
  | nil =>
      cases handled
      exact ⟨(List.append_nil _).symm, rfl⟩
  | cons dopt rest ih =>
      obtain ⟨first, one, others⟩ := bind_ok.mp handled
      obtain ⟨answered, flags⟩ := recvOption_answers silent direct one
      have direct' : first.dp.hasFlag pktPromiscRecv = false := by
        rw [DsrPkt.hasFlag, flags]
        exact direct
      obtain ⟨all, same⟩ := ih direct' others
      refine ⟨?_, same.trans flags⟩
      rw [all, answers_append, List.map_append, answered, List.append_assoc]
      cases requested : requestId dopt <;> simp [requested]

theorem recvHeaders_answers (silent : handlers.Silent) {headers : List (List DsrOpt)}
    {start recv : Recv (List (List DsrOpt))} (direct : start.dp.hasFlag pktPromiscRecv = false)
    (handled : recvHeaders handlers now start headers = .ok recv) :
    (answers recv.calls).map Prod.snd =
      (answers start.calls).map Prod.snd ++ requestIds headers := by
  induction headers generalizing start with
  | nil =>
      cases handled
      exact (List.append_nil _).symm
  | cons header rest ih =>
      obtain ⟨first, one, others⟩ := bind_ok.mp handled
      obtain ⟨answered, flags⟩ := recvOptions_answers silent direct one
      have direct' : first.dp.hasFlag pktPromiscRecv = false := by
        rw [DsrPkt.hasFlag, flags]
        exact direct
      rw [ih direct' others, answered, requestIds_cons, List.append_assoc]

theorem actLoop_answers (dp : DsrPkt) (action rounds mask : Nat) :
    answers (actLoop dp action rounds mask).1 = [] := by
  have one : ∀ bit, answers (actOn dp bit).1 = [] := by
    intro bit
    unfold actOn
    split_ifs <;> try rfl
    rw [answers, List.filterMap_eq_nil_iff]
    intro call among
    obtain ⟨opt, -, listed⟩ := List.mem_flatMap.mp among
    obtain ⟨addr, -, rfl⟩ := List.mem_map.mp listed
    rfl
  induction rounds generalizing mask with
  | zero => rfl
  | succ rounds ih =>
      have first := one (action &&& mask)
      unfold actLoop
      cases acted : actOn dp (action &&& mask) with
      | mk calls fate =>
          rw [acted] at first
          cases fate with
          | some fate => exact first
          | none => simp only [answers_append, first, ih, List.append_nil]

/-- The acknowledgements that a node sends for a packet carry the identifiers of the requests in
it, one for each. -/
theorem processDsr_answers {p : DSRPkt} {received : Received} (silent : handlers.Silent)
    (others : p.src ≠ node.myaddr) (processed : processDsr handlers now node p = .ok received) :
    (answers received.calls).map Prod.snd = requestIds p.dsrOptions := by
  obtain ⟨recv, handled, rfl⟩ := processDsr_handled others processed
  obtain ⟨headers, ran, same⟩ := bind_ok.mp handled
  cases same
  have answered := recvHeaders_answers silent (alloc_direct _ _) ran
  simp only [answers_append, actLoop_answers, List.append_nil]
  exact answered

theorem processDsr_answersTo {p : DSRPkt} {received : Received} {opt : DsrSrtOpt} {ids : List Nat}
    (options : p.dsrOptions = [.srt opt :: ids.map .ackReq]) (others : p.src ≠ node.myaddr)
    (processed : processDsr handlers now node p = .ok received) :
    ∃ srt prvHop, dsrSrtNew p.src p.dst opt.length opt.addrs p.costVector = .ok srt ∧
      dsrSrtPrevHop srt ((opt.sleft : Int) - 1) = .ok prvHop ∧
      answers received.calls = ids.map fun id => (prvHop, id) := by
  obtain ⟨recv, handled, rfl⟩ := processDsr_handled others processed
  obtain ⟨inner, route, -, calls⟩ :=
    dsrOptRecv_routed (dsrPktAlloc_routed _ options).options (alloc_direct _ _) handled
  obtain ⟨silent, srt, known, previous⟩ := dsrSrtOptRecv_silent route
  refine ⟨srt, inner.dp.prvHop, known, previous, ?_⟩
  simp only [calls, answers_append, actLoop_answers, List.append_nil, List.nil_append, silent.calls]
  rw [answers, List.filterMap_map]
  exact congrFun (List.filterMap_eq_map (f := fun id => (inner.dp.prvHop, id))) ids

theorem mem_answers {calls : List Call} {dst : InAddr} {id : Nat}
    (sent : Call.ackSend dst id ∈ calls) : (dst, id) ∈ answers calls :=
  List.mem_filterMap.mpr ⟨_, sent, rfl⟩

end

/-! ## One request for each transmission -/

/-- A packet that is transmitted carries the request that `maint_buf_add` has made for it and
no other, and a node that receives it sends an acknowledgement for this request only, to the
agent that has transmitted it where the source route says so. -/
structure OneRequest (agent : MaintAgent Cache) (s : MaintState Cache) (dp : DsrPkt)
    (p : DSRPkt) : Prop where
  requested : ∀ slot, s.created agent.maintHoldoffTime dp = some slot →
    slot.entry.ackReqSent = true → requestIds p.dsrOptions = [slot.entry.id]
  unrequested : (∀ slot, s.created agent.maintHoldoffTime dp = some slot →
    slot.entry.ackReqSent = false) → requestIds p.dsrOptions = []
  answered : ∀ handlers now node received, handlers.Silent →
    processDsr handlers now node p = .ok received →
    ∀ dst id, Call.ackSend dst id ∈ received.calls →
      ∃ slot, s.created agent.maintHoldoffTime dp = some slot ∧ slot.entry.ackReqSent = true ∧
        slot.entry.id = id ∧ (p.nextAddress = some node.myaddr → slot.entry.nxtHop = node.myaddr)
  returned : ∀ handlers now node received, processDsr handlers now node p = .ok received →
    ∀ (opt : DsrSrtOpt) (ids : List Nat) (srt : DsrSrt),
      p.dsrOptions = [.srt opt :: ids.map .ackReq] →
      dsrSrtNew p.src p.dst opt.length opt.addrs p.costVector = .ok srt →
      dsrSrtPrevHop srt ((opt.sleft : Int) - 1) = .ok agent.myaddr →
      ∀ dst id, Call.ackSend dst id ∈ received.calls → dst = agent.myaddr

section

variable {agent : MaintAgent Cache} {s : MaintState Cache} {dp : DsrPkt} {p : DSRPkt}

theorem requested_some {holdoff id : Nat} (requested : s.requested holdoff dp = some id) :
    dp.hasFlag pktRequestAck = true ∧ ∃ slot, s.created holdoff dp = some slot ∧
      slot.entry.ackReqSent = true ∧ slot.entry.id = id := by
  obtain ⟨slot, created, sent⟩ := Option.bind_eq_some_iff.mp requested
  refine ⟨?_, slot, created, ?_⟩
  · unfold MaintState.created at created
    split at created
    · next flagged => exact flagged
    · cases created
  · split at sent
    · next asked => exact ⟨asked, Option.some.inj sent⟩
    · cases sent

theorem requested_none {holdoff : Nat} (requested : s.requested holdoff dp = none) :
    ∀ slot, s.created holdoff dp = some slot → slot.entry.ackReqSent = false := by
  intro slot created
  rw [MaintState.requested, created, Option.bind_some] at requested
  split at requested
  · cases requested
  · next silent => exact Bool.not_eq_true _ ▸ silent

theorem perm_requestIds_xmit (sent : agent.xmit s dp = some p) :
    (requestIds p.dsrOptions).Perm
      ((s.requested agent.maintHoldoffTime dp).toList ++ requestIds dp.opth) := by
  rw [omnetXmit_some sent]
  unfold withAckReq
  cases requested : s.requested agent.maintHoldoffTime dp with
  | none => exact .refl _
  | some id =>
      dsimp only
      rw [if_pos (requested_some requested).1]
      exact perm_requestIds_add dp.opth id

theorem xmit_nextAddress (sent : agent.xmit s dp = some p) {next : InAddr}
    (reaches : p.nextAddress = some next) : next = dp.nxtHop := by
  rw [omnetXmit_some sent] at reaches
  dsimp only at reaches
  split at reaches
  · exact (Option.some.inj reaches).symm
  · cases reaches

theorem created_nxtHop {holdoff : Nat} {slot : Slot} (created : s.created holdoff dp = some slot) :
    slot.entry.nxtHop = dp.nxtHop := by
  unfold MaintState.created at created
  split at created
  · obtain ⟨neigh, -, rfl⟩ := Option.map_eq_some_iff.mp created
    rfl
  · cases created

theorem answers_others {handlers : Handlers} {now : SimTime} {node : Node} {received : Received}
    (processed : processDsr handlers now node p = .ok received) {call : Call}
    (made : call ∈ received.calls) : p.src ≠ node.myaddr := by
  intro own
  unfold processDsr at processed
  dsimp only at processed
  rw [if_neg (not_not.mpr (show (dsrPktAlloc _ p).src = node.myaddr from own))] at processed
  cases processed
  cases made

/-- A transmission makes one request if and only if the packet brings none with it. -/
theorem oneRequest_iff (sent : agent.xmit s dp = some p) :
    OneRequest agent s dp p ↔ requestIds dp.opth = [] := by
  have leaves := perm_requestIds_xmit sent
  constructor
  · intro one
    cases requested : s.requested agent.maintHoldoffTime dp with
    | none =>
        rw [requested, one.unrequested (requested_none requested)] at leaves
        exact List.nil_perm.mp leaves
    | some id =>
        obtain ⟨-, slot, created, asked, rfl⟩ := requested_some requested
        rw [requested, one.requested slot created asked] at leaves
        have count := leaves.length_eq
        simp only [Option.toList_some, List.length_append, List.length_singleton] at count
        exact List.length_eq_zero_iff.mp (by omega)
  · intro fresh
    rw [fresh, List.append_nil] at leaves
    refine ⟨fun slot created asked => ?_, fun silent => ?_, ?_, ?_⟩
    · rw [MaintState.requested, created, Option.bind_some, if_pos asked] at leaves
      exact List.perm_singleton.mp leaves
    · cases requested : s.requested agent.maintHoldoffTime dp with
      | none =>
          rw [requested] at leaves
          exact List.perm_nil.mp leaves
      | some id =>
          obtain ⟨-, slot, created, asked, -⟩ := requested_some requested
          rw [silent slot created] at asked
          cases asked
    · intro handlers now node received silent processed dst id made
      have answered := processDsr_answers silent (answers_others processed made) processed
      have carried : id ∈ requestIds p.dsrOptions := by
        rw [← answered]
        exact List.mem_map_of_mem (mem_answers made)
      have mine := Option.mem_toList.mp (leaves.mem_iff.mp carried)
      obtain ⟨-, slot, created, asked, same⟩ := requested_some mine
      refine ⟨slot, created, asked, same, fun reaches => ?_⟩
      rw [created_nxtHop created, xmit_nextAddress sent reaches]
    · intro handlers now node received processed opt ids srt options route previous dst id made
      obtain ⟨srt', prvHop, route', previous', answered⟩ :=
        processDsr_answersTo options (answers_others processed made) processed
      rw [route] at route'
      cases route'
      rw [previous] at previous'
      cases previous'
      have listed := mem_answers made
      rw [answered] at listed
      obtain ⟨id', -, same⟩ := List.mem_map.mp listed
      exact (congrArg Prod.fst same).symm

end

def metNeighbor : MaintState Unit :=
  { (MaintState.initial ()).at (usecs 1000000) with neighborMap := neighTblAdd ∅ 2 }

theorem metNeighbor_created {dp : DsrPkt} (flagged : dp.hasFlag pktRequestAck = true)
    (hop : dp.nxtHop = 2) :
    metNeighbor.created lonelyAgent.maintHoldoffTime dp =
      some (metNeighbor.maintEntryCreate dp neighTblCreate true) := by
  have known : metNeighbor.neighborMap.lookup dp.nxtHop = some neighTblCreate := by
    rw [hop]
    exact Finmap.lookup_insert _
  rw [MaintState.created, if_pos flagged, known]
  rfl

/-- A packet that the node sends itself. -/
theorem oneRequest_iff_originated :
    ∃ p, lonelyAgent.xmit metNeighbor neighborPkt = some p ∧
      OneRequest lonelyAgent metNeighbor neighborPkt p :=
  ⟨_, rfl, (oneRequest_iff rfl).mpr rfl⟩

def relayedPkt : DsrPkt :=
  let opt : DsrSrtOpt := { length := 6, salv := 0, sleft := 0, addrs := [1] }
  { neighborPkt with src := 4, opth := [[.srt opt, .ackReq 7]], srtOpt := some opt }

/-- The packet is sent on with the request of the node 4 and with one of this node. -/
theorem not_oneRequest :
    ¬∀ (agent : MaintAgent Unit) (s : MaintState Unit) (dp : DsrPkt) (p : DSRPkt),
      agent.xmit s dp = some p → OneRequest agent s dp p := by
  intro holds
  have sent : ∃ p, lonelyAgent.xmit metNeighbor relayedPkt = some p ∧
      requestIds p.dsrOptions = [7, 1] := by
    unfold MaintAgent.xmit MaintState.requested
    rw [metNeighbor_created rfl rfl]
    exact ⟨_, rfl, rfl⟩
  obtain ⟨p, sent, carried⟩ := sent
  have one := (holds _ _ _ p sent).requested _ (metNeighbor_created rfl rfl) rfl
  rw [carried] at one
  exact absurd one (by decide)

end SyncFanet.Dsr
