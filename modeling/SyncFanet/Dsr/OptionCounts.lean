import SyncFanet.Dsr.BufferRuns

/-!
# How many options of a packet are acted on

`dsr_opt_parse` lists the options of a kind, and the handlers list them again before they act
on them. The tests of the numbers see both, so that only half as many options of a kind are
acted on as the maxima allow.
-/

set_option autoImplicit false

namespace SyncFanet.Dsr

/-! ## The kinds of options -/

def dsrOptPadn : Nat := 0
def dsrOptRrep : Nat := 1
def dsrOptRreq : Nat := 2
def dsrOptRerr : Nat := 3
def dsrOptPrevHop : Nat := 5
def dsrOptAck : Nat := 32
def dsrOptSrt : Nat := 96
def dsrOptTimeout : Nat := 128
def dsrOptFlowid : Nat := 129
def dsrOptAckReq : Nat := 160
def dsrOptPad1 : Nat := 224

/-- The type of an option. -/
def DsrOpt.type : DsrOpt → Nat
  | .padn => dsrOptPadn
  | .rreq _ => dsrOptRreq
  | .rrep _ => dsrOptRrep
  | .rerr _ => dsrOptRerr
  | .prevHop => dsrOptPrevHop
  | .ack _ => dsrOptAck
  | .srt _ => dsrOptSrt
  | .timeout => dsrOptTimeout
  | .flowid => dsrOptFlowid
  | .ackReq _ => dsrOptAckReq
  | .pad1 => dsrOptPad1

theorem type_eq_rrep {dopt : DsrOpt} : dopt.type = dsrOptRrep ↔ ∃ opt, dopt = .rrep opt := by
  cases dopt <;> simp [DsrOpt.type, dsrOptPadn, dsrOptRrep, dsrOptRreq, dsrOptRerr, dsrOptPrevHop,
    dsrOptAck, dsrOptSrt, dsrOptTimeout, dsrOptFlowid, dsrOptAckReq, dsrOptPad1]

/-- How many options of a type there are. -/
def countOf (type : Nat) (options : List DsrOpt) : Nat :=
  options.countP fun dopt => dopt.type = type

/-- The types that a packet may have several options of. -/
def repeatedTypes : List Nat := [dsrOptRrep, dsrOptRerr, dsrOptAck]

namespace Host

variable {outside : Outside} {config : RreqConfig}

/-! ## The tests of the numbers -/

/-- The number of options lets the handler act. -/
def admits (seen : List DsrOpt) (dp : DsrPkt) : DsrOpt → Bool
  | .rreq _ => !seen.any fun
      | .rreq _ => true
      | _ => false
  | .rrep _ => dp.rrepOpt.length < maxRrepOpts
  | .rerr _ => listedBefore (fun | .rerr _ => true | _ => false) dp seen < maxParsedOpts
  | .ack _ => listedBefore (fun | .ack _ => true | _ => false) dp seen < maxParsedOpts
  | _ => true

def refusal : DsrOpt → Nat
  | .rreq _ | .rrep _ => dsrPktError
  | _ => 0

section

variable {host : Host} {dp : DsrPkt} {seen : List DsrOpt} {dopt : DsrOpt} {recv : HostRecv DsrOpt}

theorem recvOption_refused (heard : dp.hasFlag pktPromiscRecv = false)
    (refused : admits seen dp dopt = false) :
    host.recvOption outside config seen dp dopt =
      .ok { host := host, dp := dp, opt := dopt, replies := [], action := refusal dopt } := by
  cases dopt with
  | padn | prevHop | timeout | flowid | pad1 | srt | ackReq => cases refused
  | rreq opt =>
      have round : host.recvOption outside config seen dp (.rreq opt) =
          if dp.hasFlag pktPromiscRecv then
            .ok { host := host, dp := dp, opt := .rreq opt, replies := [], action := 0 }
          else (host.rreqOptRecv outside config (admits seen dp (.rreq opt)) dp opt).map
            (HostRecv.map DsrOpt.rreq) := rfl
      rw [round, refused, rreqOptRecv, heard]
      rfl
  | rrep opt =>
      have full : maxRrepOpts ≤ dp.rrepOpt.length := by
        simpa [admits] using refused
      simp only [recvOption, heard, Bool.false_eq_true, if_false, rrepOptRecv, full, or_true,
        if_true]
      rfl
  | rerr opt | ack opt =>
      exact if_pos (.inr (not_lt.mp (of_decide_eq_false refused)))

/-! ## One round -/

theorem rreqOptRecv_same {first : Bool} {opt : DsrRreqOpt} {recv : HostRecv DsrRreqOpt}
    (ran : host.rreqOptRecv outside config first dp opt = .ok recv) :
    SamePacket dp recv.dp ∧ recv.dp.rrepOpt = dp.rrepOpt := by
  cases rreqOptRecv_ok ran with
  | dropped | duplicate => exact ⟨.refl, rfl⟩
  | answered _ _ _ _ _ answers =>
      obtain ⟨packet, replies⟩ := @expandCost_same dp host.node
      rw [(answerRreq_ok answers).2.1]
      exact ⟨⟨packet.src, packet.dst, packet.flags, packet.opth⟩, replies⟩

structure ListsReply (dp : DsrPkt) (dopt : DsrOpt) (recv : HostRecv DsrOpt) : Prop where
  packet : SamePacket dp recv.dp
  type : recv.opt.type = dopt.type
  listed : recv.dp.rrepOpt.length = dp.rrepOpt.length +
    if dopt.type = dsrOptRrep ∧ dp.rrepOpt.length < maxRrepOpts then 1 else 0

theorem ListsReply.other (packet : SamePacket dp recv.dp) (type : recv.opt.type = dopt.type)
    (replies : recv.dp.rrepOpt = dp.rrepOpt) (other : ∀ opt, dopt ≠ .rrep opt) :
    ListsReply dp dopt recv where
  packet := packet
  type := type
  listed := by
    have kind : dopt.type ≠ dsrOptRrep := fun same => by
      obtain ⟨opt, here⟩ := type_eq_rrep.mp same
      exact other opt here
    rw [replies, if_neg fun both => kind both.1, Nat.add_zero]

theorem recvOption_lists (heard : dp.hasFlag pktPromiscRecv = false)
    (ran : host.recvOption outside config seen dp dopt = .ok recv) : ListsReply dp dopt recv := by
  unfold recvOption at ran
  cases dopt with
  | padn | prevHop | timeout | flowid | pad1 =>
      cases ran
      exact .other .refl rfl rfl (fun _ same => by cases same)
  | rreq opt =>
      rw [heard] at ran
      obtain ⟨result, received, rfl⟩ := map_ok ran
      obtain ⟨packet, replies⟩ := rreqOptRecv_same received
      exact .other packet rfl replies (fun _ same => by cases same)
  | rrep opt =>
      rw [heard] at ran
      obtain ⟨result, received, rfl⟩ := map_ok ran
      unfold rrepOptRecv at received
      rw [heard] at received
      split at received
      · next full =>
          have full := full.resolve_left Bool.false_ne_true
          cases received
          refine ⟨.refl, rfl, ?_⟩
          rw [if_neg fun both => not_lt.mpr full both.2]
          rfl
      · next room =>
          have room := not_le.mp fun full => room (.inr full)
          obtain ⟨srt, -, received⟩ := bind_ok.mp received
          obtain ⟨node, -, received⟩ := bind_ok.mp received
          cases received
          refine ⟨⟨rfl, rfl, rfl, rfl⟩, rfl, ?_⟩
          have lists : (DsrOpt.rrep opt).type = dsrOptRrep ∧ dp.rrepOpt.length < maxRrepOpts :=
            ⟨rfl, room⟩
          rw [if_pos lists]
          exact List.length_append
  | rerr opt | ack opt =>
      dsimp only at ran
      split at ran <;> cases ran <;> exact .other .refl rfl rfl (fun _ same => by cases same)
  | srt opt =>
      obtain ⟨result, received, rfl⟩ := map_ok ran
      obtain ⟨handled, same, received⟩ := bind_ok.mp received
      obtain ⟨srt, -, received⟩ := bind_ok.mp received
      obtain ⟨intended, -, received⟩ := bind_ok.mp received
      obtain ⟨prvHop, -, received⟩ := bind_ok.mp received
      obtain ⟨learned, -, received⟩ := bind_ok.mp received
      cases received
      obtain ⟨packet, replies, -⟩ := dsrSrtOptRecv_same same
      exact .other packet rfl replies (fun _ same => by cases same)
  | ackReq id =>
      cases ran
      unfold dsrAckReqOptRecv
      rw [heard]
      dsimp only
      refine .other ?_ rfl ?_ (fun _ same => by cases same)
      · rw [if_neg Bool.false_ne_true]
        dsimp only
        split <;> exact ⟨rfl, rfl, rfl, rfl⟩
      · rw [if_neg Bool.false_ne_true]
        dsimp only
        split <;> rfl

end

/-! ## All rounds -/

/-- The rounds of `dsr_opt_recv` over some options, with the options that are acted on and the
actions of those that are refused for their number. -/
inductive Rounds (outside : Outside) (config : RreqConfig) : HostRecv (List DsrOpt) →
    List DsrOpt → List DsrOpt → List Nat → HostRecv (List DsrOpt) → Prop where
  | done (start : HostRecv (List DsrOpt)) : Rounds outside config start [] [] [] start
  | acts {start final : HostRecv (List DsrOpt)} {dopt : DsrOpt} {rest acted : List DsrOpt}
      {refused : List Nat} {recv : HostRecv DsrOpt}
      (admitted : admits start.opt start.dp dopt = true)
      (ran : start.host.recvOption outside config start.opt start.dp dopt = .ok recv)
      (later : Rounds outside config (next start recv) rest acted refused final) :
      Rounds outside config start (dopt :: rest) (dopt :: acted) refused final
  | refuses {start final : HostRecv (List DsrOpt)} {dopt : DsrOpt} {rest acted : List DsrOpt}
      {refused : List Nat} {recv : HostRecv DsrOpt}
      (unadmitted : admits start.opt start.dp dopt = false)
      (ran : start.host.recvOption outside config start.opt start.dp dopt = .ok recv)
      (later : Rounds outside config (next start recv) rest acted refused final) :
      Rounds outside config start (dopt :: rest) acted (recv.action :: refused) final

section

variable {start here final : HostRecv (List DsrOpt)} {options rest acted : List DsrOpt}
  {refused : List Nat} {dp : DsrPkt} {seen : List DsrOpt} {dopt : DsrOpt}

theorem recvOptions_rounds :
    recvOptions outside config start options = .ok final ↔
      ∃ acted refused, Rounds outside config start options acted refused final := by
  constructor
  · intro ran
    induction options generalizing start with
    | nil =>
        cases ran
        exact ⟨[], [], .done _⟩
    | cons dopt rest ih =>
        obtain ⟨recv, received, ran⟩ := bind_ok.mp ran
        obtain ⟨acted, refused, later⟩ := ih ran
        cases admitted : admits start.opt start.dp dopt with
        | true => exact ⟨_, _, .acts admitted received later⟩
        | false => exact ⟨_, _, .refuses admitted received later⟩
  · rintro ⟨acted, refused, rounds⟩
    induction rounds with
    | done => rfl
    | acts _ ran _ ih => exact bind_ok.mpr ⟨_, ran, ih⟩
    | refuses _ ran _ ih => exact bind_ok.mpr ⟨_, ran, ih⟩

def listedAfter (type : Nat) (options seen : List DsrOpt) : Nat :=
  min maxParsedOpts (countOf type options) + countOf type seen

structure Counted (dp : DsrPkt) (seen : List DsrOpt) (here : HostRecv (List DsrOpt)) : Prop where
  packet : SamePacket dp here.dp
  types : here.opt.map DsrOpt.type = seen.map DsrOpt.type
  listed : here.dp.rrepOpt.length =
    min maxParsedOpts (listedAfter dsrOptRrep dp.opth.flatten seen)

theorem countOf_append (type : Nat) (before after : List DsrOpt) :
    countOf type (before ++ after) = countOf type before + countOf type after :=
  List.countP_append

theorem countOf_congr {type : Nat} {other : List DsrOpt}
    (types : seen.map DsrOpt.type = other.map DsrOpt.type) :
    countOf type seen = countOf type other := by
  have counts : ∀ options : List DsrOpt, countOf type options =
      (options.map DsrOpt.type).countP fun kind => kind = type := by
    intro options
    rw [List.countP_map]
    rfl
  rw [counts, counts, types]

theorem Counted.step {recv : HostRecv DsrOpt} (counted : Counted dp seen here)
    (lists : ListsReply here.dp dopt recv) : Counted dp (seen ++ [dopt]) (next here recv) where
  packet := counted.packet.trans lists.packet
  types := by
    simp only [next, List.map_append, counted.types, List.map_cons, List.map_nil, lists.type]
  listed := by
    have one : countOf dsrOptRrep [dopt] = if dopt.type = dsrOptRrep then 1 else 0 := by
      simp [countOf, List.countP_singleton]
    have same : maxRrepOpts = maxParsedOpts := rfl
    simp only [next]
    rw [lists.listed, counted.listed, listedAfter, listedAfter, countOf_append, one, same]
    by_cases kind : dopt.type = dsrOptRrep
    · simp only [kind, true_and, if_true]
      split <;> omega
    · simp only [kind, false_and, if_false]
      omega

structure Room (options seen : List DsrOpt) (dopt : DsrOpt) : Prop where
  first : dopt.type = dsrOptRreq → countOf dsrOptRreq seen = 0
  listed : dopt.type ∈ repeatedTypes → listedAfter dopt.type options seen < maxParsedOpts

theorem Counted.listedBefore_eq {kind : DsrOpt → Bool} (type : Nat)
    (counted : Counted dp seen here) (same : ∀ dopt, kind dopt = decide (dopt.type = type)) :
    listedBefore kind here.dp here.opt = listedAfter type dp.opth.flatten seen := by
  obtain rfl : kind = fun dopt => decide (dopt.type = type) := funext same
  rw [listedBefore, listedAfter, counted.packet.opth, Nat.min_comm]
  exact congrArg (_ + ·) (countOf_congr counted.types)

theorem Counted.admits_iff (counted : Counted dp seen here) :
    admits here.opt here.dp dopt = true ↔ Room dp.opth.flatten seen dopt := by
  have unlimited : dopt.type ≠ dsrOptRreq → dopt.type ∉ repeatedTypes →
      Room dp.opth.flatten seen dopt := fun first listed =>
    ⟨fun kind => absurd kind first, fun kind => absurd kind listed⟩
  cases dopt with
  | padn | prevHop | timeout | flowid | pad1 | srt | ackReq =>
      refine iff_of_true rfl (unlimited ?_ ?_)
      all_goals
        rw [DsrOpt.type]
        decide
  | rreq opt =>
      have kind : ∀ dopt : DsrOpt, (match dopt with
          | .rreq _ => true
          | _ => false) = decide (dopt.type = dsrOptRreq) := by
        intro dopt
        cases dopt <;> rfl
      have none : admits here.opt here.dp (.rreq opt) = true ↔ countOf dsrOptRreq here.opt = 0 := by
        simp [admits, kind, countOf, List.countP_eq_zero]
      rw [none, countOf_congr counted.types]
      refine ⟨fun fresh => ⟨fun _ => fresh, fun repeated => ?_⟩, fun room => room.first rfl⟩
      exact absurd repeated (by decide : dsrOptRreq ∉ repeatedTypes)
  | rrep opt =>
      have repeated : dsrOptRrep ∈ repeatedTypes := by decide
      have same : maxRrepOpts = maxParsedOpts := rfl
      have short : admits here.opt here.dp (.rrep opt) = true ↔
          listedAfter dsrOptRrep dp.opth.flatten seen < maxParsedOpts := by
        simp only [admits, decide_eq_true_eq, counted.listed, same]
        omega
      rw [short]
      exact ⟨fun room => ⟨fun kind => absurd kind (by decide : dsrOptRrep ≠ dsrOptRreq),
        fun _ => room⟩, fun room => room.listed repeated⟩
  | rerr opt =>
      have repeated : dsrOptRerr ∈ repeatedTypes := by decide
      simp only [admits, decide_eq_true_eq]
      rw [counted.listedBefore_eq dsrOptRerr fun dopt => by cases dopt <;> rfl]
      exact ⟨fun room => ⟨fun kind => absurd kind (by decide : dsrOptRerr ≠ dsrOptRreq),
        fun _ => room⟩, fun room => room.listed repeated⟩
  | ack opt =>
      have repeated : dsrOptAck ∈ repeatedTypes := by decide
      simp only [admits, decide_eq_true_eq]
      rw [counted.listedBefore_eq dsrOptAck fun dopt => by cases dopt <;> rfl]
      exact ⟨fun room => ⟨fun kind => absurd kind (by decide : dsrOptAck ≠ dsrOptRreq),
        fun _ => room⟩, fun room => room.listed repeated⟩

/-! ## Which packets have all their options acted on -/

/-- There are at most half as many options of a type as its maximum. -/
def FewOptions (options : List DsrOpt) : Prop :=
  ∀ type ∈ repeatedTypes, 2 * countOf type options ≤ maxParsedOpts

/-- Where the loops start. -/
def receives (host : Host) (dp : DsrPkt) : HostRecv (List DsrOpt) where
  host := host
  dp := dp
  opt := []
  replies := []
  action := if dp.dst = host.node.myaddr ∧ dp.payloadLen ≠ 0 then dsrPktDeliver else 0

/-- As far as the loops come, every option is acted on once, and no error is reported for the
number of options. -/
structure HandlesEach (outside : Outside) (config : RreqConfig) (host : Host) (dp : DsrPkt) :
    Prop where
  each : ∀ seen rest acted refused here, dp.opth.flatten = seen ++ rest →
    Rounds outside config (receives host dp) seen acted refused here → acted = seen
  silent : ∀ seen rest acted refused here, dp.opth.flatten = seen ++ rest →
    Rounds outside config (receives host dp) seen acted refused here → dsrPktError ∉ refused

theorem room_of_few (few : FewOptions options) (one : countOf dsrOptRreq options ≤ 1)
    (split : options = seen ++ dopt :: rest) : Room options seen dopt := by
  have more : countOf dopt.type seen + 1 ≤ countOf dopt.type options := by
    have here : countOf dopt.type (dopt :: rest) = countOf dopt.type rest + 1 :=
      List.countP_cons_of_pos (decide_eq_true rfl)
    rw [split, countOf_append, here]
    omega
  constructor
  · intro kind
    rw [kind] at more
    omega
  · intro repeated
    have half := few _ repeated
    unfold listedAfter
    omega

theorem Rounds.acts_all {dp : DsrPkt} {seen : List DsrOpt}
    (rounds : Rounds outside config start options acted refused final)
    (few : FewOptions dp.opth.flatten) (one : countOf dsrOptRreq dp.opth.flatten ≤ 1)
    (heard : dp.hasFlag pktPromiscRecv = false) (counted : Counted dp seen start)
    (split : dp.opth.flatten = seen ++ (options ++ rest)) : acted = options ∧ refused = [] := by
  induction rounds generalizing seen with
  | done => exact ⟨rfl, rfl⟩
  | acts admitted ran later ih =>
      have step := counted.step (recvOption_lists ((counted.packet.hasFlag _).trans heard) ran)
      obtain ⟨same, none⟩ := ih step (by simp [split])
      exact ⟨congrArg _ same, none⟩
  | refuses unadmitted ran later ih =>
      have room := room_of_few few one split
      rw [← counted.admits_iff, unadmitted] at room
      cases room

theorem Rounds.length_le (rounds : Rounds outside config start options acted refused final) :
    acted.length ≤ options.length := by
  induction rounds with
  | done => exact le_refl _
  | acts _ _ _ ih => exact Nat.succ_le_succ ih
  | refuses _ _ _ ih => exact ih.trans (Nat.le_succ _)

theorem Rounds.split {before after : List DsrOpt}
    (rounds : Rounds outside config start (before ++ after) acted refused final) :
    ∃ here acted1 acted2 refused1 refused2,
      Rounds outside config start before acted1 refused1 here ∧
        Rounds outside config here after acted2 refused2 final ∧ acted = acted1 ++ acted2 := by
  induction before generalizing start acted refused with
  | nil => exact ⟨start, [], acted, [], refused, .done start, rounds, rfl⟩
  | cons dopt before ih =>
      cases rounds with
      | acts admitted ran later =>
          obtain ⟨here, acted1, acted2, refused1, refused2, first, second, rfl⟩ := ih later
          exact ⟨here, _, acted2, _, refused2, .acts admitted ran first, second, rfl⟩
      | refuses unadmitted ran later =>
          obtain ⟨here, acted1, acted2, refused1, refused2, first, second, rfl⟩ := ih later
          exact ⟨here, _, acted2, _, refused2, .refuses unadmitted ran first, second, rfl⟩

theorem Rounds.counted {dp : DsrPkt}
    (rounds : Rounds outside config start options acted refused final)
    (heard : dp.hasFlag pktPromiscRecv = false) (counted : Counted dp seen start) :
    Counted dp (seen ++ options) final := by
  induction rounds generalizing seen with
  | done =>
      rw [List.append_nil]
      exact counted
  | acts _ ran _ ih | refuses _ ran _ ih =>
      have step := counted.step (recvOption_lists ((counted.packet.hasFlag _).trans heard) ran)
      have final := ih step
      rwa [List.append_assoc] at final

theorem exists_last {type : Nat} (some : countOf type options ≠ 0) :
    ∃ before dopt after, options = before ++ dopt :: after ∧ dopt.type = type ∧
      countOf type options = countOf type before + 1 := by
  induction options using List.reverseRecOn with
  | nil => exact absurd rfl some
  | append_singleton options last ih =>
      have final : countOf type [last] = if last.type = type then 1 else 0 := by
        simp [countOf, List.countP_singleton]
      rw [countOf_append, final] at some ⊢
      by_cases kind : last.type = type
      · exact ⟨options, last, [], rfl, kind, by rw [if_pos kind]⟩
      · rw [if_neg kind, Nat.add_zero] at some ⊢
        obtain ⟨before, dopt, after, split, here, counts⟩ := ih some
        exact ⟨before, dopt, after ++ [last], by simp [split], here, counts⟩

end

section

variable {useNetworkLayerAck : Bool} {p : DSRPkt}

theorem arrived_heard (useNetworkLayerAck : Bool) (p : DSRPkt) :
    (arrived useNetworkLayerAck false p).hasFlag pktPromiscRecv = false := by
  change decide ((if p.payloadLen ≠ 0 ∧ useNetworkLayerAck then pktRequestAck else 0) &&&
    pktPromiscRecv ≠ 0) = false
  split <;> decide

theorem arrived_opth (useNetworkLayerAck : Bool) (p : DSRPkt) :
    (arrived useNetworkLayerAck false p).opth = p.dsrOptions := rfl

theorem arrived_counted (host : Host) (useNetworkLayerAck : Bool) (p : DSRPkt) :
    Counted (arrived useNetworkLayerAck false p) []
      (receives host (arrived useNetworkLayerAck false p)) where
  packet := .refl
  types := rfl
  listed := by
    have replies : (repliesIn p.dsrOptions.flatten).length =
        countOf dsrOptRrep p.dsrOptions.flatten := by
      rw [repliesIn, List.length_filterMap_eq_countP]
      refine congrArg (List.countP · _) (funext fun dopt => ?_)
      cases dopt <;> rfl
    have parsed : (arrived useNetworkLayerAck false p).rrepOpt =
        (repliesIn p.dsrOptions.flatten).take maxRrepOpts := rfl
    have none : countOf dsrOptRrep [] = 0 := rfl
    have same : maxRrepOpts = maxParsedOpts := rfl
    simp only [receives]
    rw [parsed, List.length_take, replies, listedAfter, arrived_opth, none, same]
    omega

theorem handlesEach_of_few {host : Host} (few : FewOptions p.dsrOptions.flatten)
    (one : countOf dsrOptRreq p.dsrOptions.flatten ≤ 1) :
    HandlesEach outside config host (arrived useNetworkLayerAck false p) := by
  have acts : ∀ seen rest acted refused here,
      (arrived useNetworkLayerAck false p).opth.flatten = seen ++ rest →
      Rounds outside config (receives host (arrived useNetworkLayerAck false p)) seen acted refused
        here → acted = seen ∧ refused = [] := by
    intro seen rest acted refused here split rounds
    exact rounds.acts_all few one (arrived_heard _ p) (arrived_counted host _ p) split
  constructor
  · intro seen rest acted refused here split rounds
    exact (acts seen rest acted refused here split rounds).1
  · intro seen rest acted refused here split rounds
    rw [(acts seen rest acted refused here split rounds).2]
    exact List.not_mem_nil

theorem few_of_handlesEach {host : Host} {recv : HostRecv (List DsrOpt)}
    (bounded : ∀ type ∈ repeatedTypes, countOf type p.dsrOptions.flatten ≤ maxParsedOpts)
    (ran : host.dsrOptRecv outside config (arrived useNetworkLayerAck false p) = .ok recv)
    (handles : HandlesEach outside config host (arrived useNetworkLayerAck false p)) :
    FewOptions p.dsrOptions.flatten := by
  intro type repeated
  by_cases some : countOf type p.dsrOptions.flatten = 0
  · rw [some]
    exact Nat.zero_le _
  obtain ⟨seen, dopt, rest, split, kind, counts⟩ := exists_last some
  obtain ⟨final, ran, -⟩ := bind_ok.mp ran
  have ran : recvOptions outside config (receives host (arrived useNetworkLayerAck false p))
      p.dsrOptions.flatten = .ok final := ran
  obtain ⟨acted, refused, rounds⟩ := recvOptions_rounds.mp ran
  have all : acted = p.dsrOptions.flatten :=
    handles.each p.dsrOptions.flatten [] acted refused final (by rw [arrived_opth, List.append_nil])
      rounds
  rw [split] at rounds
  obtain ⟨here, acted1, acted2, refused1, refused2, before, after, joined⟩ := rounds.split
  have first : acted1 = seen :=
    handles.each seen (dopt :: rest) acted1 refused1 here (by rw [arrived_opth, split]) before
  have counted := before.counted (arrived_heard _ p) (arrived_counted host useNetworkLayerAck p)
  rw [List.nil_append] at counted
  have last : acted2 = dopt :: rest := by
    rw [all, split, first] at joined
    exact (List.append_cancel_left joined).symm
  have room : Room p.dsrOptions.flatten seen dopt := by
    cases after with
    | acts admitted => exact counted.admits_iff.mp admitted
    | refuses _ _ later =>
        have short := later.length_le
        rw [last] at short
        exact absurd short (by simp)
  have listed := room.listed (kind ▸ repeated)
  have most := bounded type repeated
  rw [kind, listedAfter] at listed
  omega

end

/-- Every option of a packet is acted on once if there are at most half as many of its type as
the maximum; and where the packet is received to its end, only then. -/
theorem handlesEach_iff (outside : Outside) (config : RreqConfig) (host : Host)
    (useNetworkLayerAck : Bool) (p : DSRPkt)
    (bounded : ∀ type ∈ repeatedTypes, countOf type p.dsrOptions.flatten ≤ maxParsedOpts)
    (one : countOf dsrOptRreq p.dsrOptions.flatten ≤ 1) :
    (FewOptions p.dsrOptions.flatten →
        HandlesEach outside config host (arrived useNetworkLayerAck false p)) ∧
      ((∃ recv, host.dsrOptRecv outside config (arrived useNetworkLayerAck false p) = .ok recv) →
        HandlesEach outside config host (arrived useNetworkLayerAck false p) →
          FewOptions p.dsrOptions.flatten) := by
  refine ⟨fun few => handlesEach_of_few few one, ?_⟩
  rintro ⟨recv, ran⟩ handles
  exact few_of_handlesEach bounded ran handles

/-- A packet with some route replies. -/
def repliesPacket (count : Nat) : DSRPkt :=
  { replyPacket with
    dsrOptions := [List.replicate count (.rrep { length := 5, addrs := [2], cost := [] })] }

/-- Five replies are all learned. -/
theorem handlesEach_five :
    HandlesEach atStart defaultRreqs (emptyHost false) (arrived false false (repliesPacket 5)) := by
  have few : FewOptions (repliesPacket 5).dsrOptions.flatten := by
    unfold FewOptions
    decide
  exact (handlesEach_iff atStart defaultRreqs (emptyHost false) false (repliesPacket 5) (by decide)
    (by decide)).1 few

/-- Of ten replies none is. -/
theorem not_handlesEach_ten :
    (∀ type ∈ repeatedTypes, countOf type (repliesPacket 10).dsrOptions.flatten ≤ maxParsedOpts) ∧
      ¬HandlesEach atStart defaultRreqs (emptyHost false)
        (arrived false false (repliesPacket 10)) := by
  refine ⟨by decide, fun handles => ?_⟩
  have refused : admits [] (arrived false false (repliesPacket 10))
      (.rrep { length := 5, addrs := [2], cost := [] }) = false := by decide
  have unheard := handles.silent [.rrep { length := 5, addrs := [2], cost := [] }]
    (List.replicate 9 (.rrep { length := 5, addrs := [2], cost := [] })) [] [dsrPktError] _ rfl
    (.refuses refused (recvOption_refused (by decide) refused) (.done _))
  exact unheard List.mem_cons_self

end Host

end SyncFanet.Dsr
