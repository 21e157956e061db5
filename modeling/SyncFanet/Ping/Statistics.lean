import Mathlib.Data.List.Nodup
import Mathlib.Data.List.Perm.Basic
import Mathlib.Tactic.Linarith
import SyncFanet.Library.Fold
import SyncFanet.Ping.PingRuns

/-!
# Statistics of PingTestApp

The losses that are inferred from jumps are the gaps of the starts so far. What `finish`
makes of them is the number of unanswered requests of the last start, as long as no
earlier start left a gap.
-/

set_option autoImplicit false

namespace SyncFanet.Ping

/-! ## Counting sequence numbers -/

theorem filter_range_lt {bound count : Nat} (small : bound ≤ count) (p : Nat → Bool) :
    (List.range count).filter (fun seqNo => seqNo < bound && p seqNo) =
      (List.range bound).filter p := by
  obtain ⟨more, rfl⟩ := Nat.exists_eq_add_of_le small
  rw [List.range_add, List.filter_append]
  have first : (List.range bound).filter (fun seqNo => seqNo < bound && p seqNo) =
      (List.range bound).filter p := by
    apply List.filter_congr
    intro seqNo member
    simp [List.mem_range.mp member]
  have rest : ((List.range more).map (bound + ·)).filter
      (fun seqNo => seqNo < bound && p seqNo) = [] := by
    simp [List.filter_eq_nil_iff]
  rw [first, rest, List.append_nil]

theorem length_filter_notMem {numbers : List Nat} {count : Nat} (once : numbers.Nodup)
    (small : ∀ number ∈ numbers, number < count) :
    ((List.range count).filter fun number => number ∉ numbers).length + numbers.length =
      count := by
  have same : ((List.range count).filter fun number => number ∈ numbers).Perm numbers := by
    rw [List.perm_ext_iff_of_nodup (List.nodup_range.filter _) once]
    intro number
    simp only [List.mem_filter, List.mem_range, decide_eq_true_eq]
    exact ⟨fun both => both.2, fun member => ⟨small number member, member⟩⟩
  have split := List.length_eq_length_filter_add (l := List.range count)
    fun number => decide (number ∈ numbers)
  rw [List.length_range, same.length_eq] at split
  simp only [decide_not]
  omega

/-! ## Records -/

theorem StartRecord.trailing_length (record : StartRecord) :
    record.gaps.length + record.trailing.length = record.unanswered.length := by
  have split := List.length_eq_length_filter_add (l := record.unanswered)
    fun seqNo => record.answered.any fun later => seqNo < later
  have rest : (record.unanswered.filter fun seqNo =>
      !(record.answered.any fun later => seqNo < later)) = record.trailing := by
    apply List.filter_congr
    intro seqNo member
    have missing : seqNo ∉ record.answered := by
      have kept := (List.mem_filter.mp member).2
      simpa using kept
    rw [Bool.eq_iff_iff]
    simp only [Bool.not_eq_true', List.any_eq_false, List.all_eq_true, decide_eq_true_eq, not_lt]
    constructor
    · intro none earlier answered
      exact lt_of_le_of_ne (none earlier answered) fun same => missing (same ▸ answered)
    · intro all earlier answered
      exact (all earlier answered).le
  rw [rest] at split
  exact split.symm

/-- The requests of a record are numbered from 0, and `expected` follows the largest
number that was answered. -/
structure StartRecord.Numbered (record : StartRecord) (count expected : Nat) : Prop where
  sent : record.sent.map Prod.fst = List.range count
  once : record.answered.Nodup
  below : ∀ seqNo ∈ record.answered, seqNo < expected
  attained : ∀ seqNo, expected = seqNo + 1 → seqNo ∈ record.answered
  bound : expected ≤ count

namespace StartRecord.Numbered

variable {record : StartRecord} {count expected : Nat}

theorem unanswered_length (numbered : record.Numbered count expected) :
    record.unanswered.length + record.answered.length = count := by
  rw [StartRecord.unanswered, numbered.sent]
  exact length_filter_notMem numbered.once fun seqNo member =>
    lt_of_lt_of_le (numbered.below seqNo member) numbered.bound

/-- A number that is not answered comes before an answered one if it is not expected
any more. -/
theorem any_later_iff (numbered : record.Numbered count expected) {seqNo : Nat}
    (missing : seqNo ∉ record.answered) :
    (record.answered.any fun later => seqNo < later) = decide (seqNo < expected) := by
  rw [Bool.eq_iff_iff]
  simp only [List.any_eq_true, decide_eq_true_eq]
  constructor
  · rintro ⟨later, member, after⟩
    exact after.trans (numbered.below later member)
  · intro within
    have positive := Nat.zero_lt_of_lt within
    obtain ⟨largest, rfl⟩ := Nat.exists_eq_succ_of_ne_zero positive.ne'
    have member := numbered.attained largest rfl
    have different : seqNo ≠ largest := fun same => missing (same ▸ member)
    exact ⟨largest, member, by omega⟩

theorem gaps_length (numbered : record.Numbered count expected) :
    record.gaps.length + record.answered.length = expected := by
  have gaps : record.gaps =
      (List.range expected).filter fun seqNo => seqNo ∉ record.answered := by
    rw [← filter_range_lt numbered.bound, StartRecord.gaps, StartRecord.unanswered, numbered.sent,
      List.filter_filter]
    apply List.filter_congr
    intro seqNo _
    by_cases missing : seqNo ∈ record.answered
    · simp [missing]
    · simp [missing, numbered.any_later_iff missing]
  rw [gaps]
  exact length_filter_notMem numbered.once numbered.below

theorem empty (pid : Int) :
    ({ pid := pid, sent := [], answers := [] } : StartRecord).Numbered 0 0 where
  sent := rfl
  once := List.nodup_nil
  below := nofun
  attained := nofun
  bound := Nat.le_refl 0

theorem send (numbered : record.Numbered count expected) (now : Int) :
    ({ record with sent := record.sent ++ [(count, now)] } : StartRecord).Numbered (count + 1)
      expected where
  sent := by rw [List.map_append, numbered.sent, List.range_succ]; rfl
  once := numbered.once
  below := numbered.below
  attained := numbered.attained
  bound := numbered.bound.trans (Nat.le_succ _)

theorem answer (numbered : record.Numbered count expected) {seqNo : Nat} (now : Int)
    (sent : seqNo < count) (missing : seqNo ∉ record.answered) :
    ({ record with answers := record.answers ++ [(seqNo, now)] } : StartRecord).Numbered count
      (max expected (seqNo + 1)) := by
  have answered : ({ record with answers := record.answers ++ [(seqNo, now)] } :
      StartRecord).answered = record.answered ++ [seqNo] := by
    simp [StartRecord.answered]
  constructor
  · exact numbered.sent
  · rw [answered]
    exact List.nodup_append.mpr ⟨numbered.once, List.nodup_singleton seqNo, by
      rintro other member _ same rfl
      rw [List.mem_singleton] at same
      exact missing (same ▸ member)⟩
  · rw [answered]
    intro other member
    rcases List.mem_append.mp member with before | last
    · have below := numbered.below other before
      omega
    · rw [List.mem_singleton.mp last]
      omega
  · rw [answered]
    intro other attained
    rcases Nat.lt_or_ge seqNo expected with within | beyond
    · exact List.mem_append_left _ (numbered.attained other (by omega))
    · exact List.mem_append_right _ (List.mem_singleton.mpr (by omega))
  · have bound := numbered.bound
    omega

end StartRecord.Numbered

theorem lateAfter_snoc (before numbers : List Nat) (seqNo : Nat) :
    lateAfter before (numbers ++ [seqNo]) =
      lateAfter before numbers +
        if (before ++ numbers).any fun earlier => seqNo < earlier then 1 else 0 := by
  induction numbers generalizing before with
  | nil => simp [lateAfter]
  | cons number numbers ih =>
      rw [List.cons_append, lateAfter, ih, lateAfter, Nat.add_assoc, List.append_assoc]
      rfl

/-! ## What the self message writes -/

namespace PingTestApp

variable {app app' : PingTestApp} {now : Int}

structure SameStatistics (app app' : PingTestApp) : Prop where
  pid : app'.pid = app.pid
  sendSeqNo : app'.sendSeqNo = app.sendSeqNo
  expectedReplySeqNo : app'.expectedReplySeqNo = app.expectedReplySeqNo
  sendTimeHistory : app'.sendTimeHistory = app.sendTimeHistory
  rttStat : app'.rttStat = app.rttStat
  lossCount : app'.lossCount = app.lossCount
  outOfOrderArrivalCount : app'.outOfOrderArrivalCount = app.outOfOrderArrivalCount

theorem SameStatistics.trans {first second third : PingTestApp}
    (left : SameStatistics first second) (right : SameStatistics second third) :
    SameStatistics first third where
  pid := right.pid.trans left.pid
  sendSeqNo := right.sendSeqNo.trans left.sendSeqNo
  expectedReplySeqNo := right.expectedReplySeqNo.trans left.expectedReplySeqNo
  sendTimeHistory := right.sendTimeHistory.trans left.sendTimeHistory
  rttStat := right.rttStat.trans left.rttStat
  lossCount := right.lossCount.trans left.lossCount
  outOfOrderArrivalCount := right.outOfOrderArrivalCount.trans left.outOfOrderArrivalCount

theorem scheduleNextPingRequest_same (params : PingParams) (now previous : Int)
    (withSleep : Bool) (sendInterval sleepDuration : Int) (app : PingTestApp) :
    SameStatistics app (app.scheduleNextPingRequest params now previous withSleep sendInterval
      sleepDuration) := by
  unfold scheduleNextPingRequest
  dsimp only
  split_ifs <;> exact ⟨rfl, rfl, rfl, rfl, rfl, rfl, rfl⟩

theorem resolveAddrs_same (srcAddr : L3Address) (resolved : List L3Address) (app : PingTestApp) :
    SameStatistics app (resolveAddrs srcAddr resolved app) := by
  unfold resolveAddrs
  dsimp only
  split_ifs <;> exact ⟨rfl, rfl, rfl, rfl, rfl, rfl, rfl⟩

theorem chooseAddr_same (chosen : app.chooseAddr = .ok app') :
    SameStatistics app app' := by
  unfold chooseAddr at chosen
  dsimp only at chosen
  split_ifs at chosen <;> cases chosen <;> exact ⟨rfl, rfl, rfl, rfl, rfl, rfl, rfl⟩

theorem advanceAddr_same (params : PingParams) (app : PingTestApp) :
    SameStatistics app (app.advanceAddr params) := by
  unfold advanceAddr
  dsimp only
  split_ifs <;> exact ⟨rfl, rfl, rfl, rfl, rfl, rfl, rfl⟩

structure SendsNext (now : Int) (app app' : PingTestApp) (msg : PingPayload) : Prop where
  running : app.pid ≠ -1
  msg : msg = { originatorId := app.pid, seqNo := app.sendSeqNo }
  pid : app'.pid = app.pid
  sendSeqNo : app'.sendSeqNo = app.sendSeqNo + 1
  expectedReplySeqNo : app'.expectedReplySeqNo = app.expectedReplySeqNo
  sendTimeHistory :
    app'.sendTimeHistory = app.sendTimeHistory.set (app.sendSeqNo % pingHistorySize) now
  rttStat : app'.rttStat = app.rttStat
  lossCount : app'.lossCount = app.lossCount
  outOfOrderArrivalCount : app'.outOfOrderArrivalCount = app.outOfOrderArrivalCount

theorem sendPing_sends {sent : PingTestApp × PingPayload} (sending : app.sendPing now = .ok sent) :
    SendsNext now app sent.1 sent.2 := by
  unfold sendPing at sending
  by_cases stopped : app.pid = -1
  · rw [if_pos stopped] at sending
    cases sending
  · rw [if_neg stopped] at sending
    cases sending
    exact ⟨stopped, rfl, rfl, rfl, rfl, rfl, rfl, rfl, rfl⟩

theorem SendsNext.frame {first last : PingTestApp} {msg : PingPayload}
    (sends : SendsNext now app app' msg) (before : SameStatistics first app)
    (after : SameStatistics app' last) : SendsNext now first last msg where
  running := by
    rw [← before.pid]
    exact sends.running
  msg := by rw [← before.pid, ← before.sendSeqNo, sends.msg]
  pid := (after.pid.trans sends.pid).trans before.pid
  sendSeqNo := by rw [after.sendSeqNo, sends.sendSeqNo, before.sendSeqNo]
  expectedReplySeqNo :=
    (after.expectedReplySeqNo.trans sends.expectedReplySeqNo).trans before.expectedReplySeqNo
  sendTimeHistory := by
    rw [after.sendTimeHistory, sends.sendTimeHistory, before.sendTimeHistory, before.sendSeqNo]
  rttStat := (after.rttStat.trans sends.rttStat).trans before.rttStat
  lossCount := (after.lossCount.trans sends.lossCount).trans before.lossCount
  outOfOrderArrivalCount :=
    (after.outOfOrderArrivalCount.trans sends.outOfOrderArrivalCount).trans
      before.outOfOrderArrivalCount

theorem handleSelfMessage_cases {params : PingParams} {srcAddr : L3Address}
    {resolved : List L3Address} {sendInterval sleepDuration : Int} {msg : Option PingPayload}
    (handled : app.handleSelfMessage params now srcAddr resolved sendInterval sleepDuration =
      .ok (app', msg)) :
    (msg = none ∧ SameStatistics app app') ∨
      ∃ payload, msg = some payload ∧ SendsNext now app app' payload := by
  have untimed : SameStatistics app { app with timer := none } :=
    ⟨rfl, rfl, rfl, rfl, rfl, rfl, rfl⟩
  obtain ⟨chosen, choice, sending⟩ := bind_ok.mp handled
  have before := (untimed.trans (resolveAddrs_same srcAddr resolved _)).trans
    (chooseAddr_same choice)
  by_cases send : chosen.timerKind = .send
  · rw [if_pos send] at sending
    obtain ⟨sent, sendPing, finished⟩ := bind_ok.mp sending
    cases finished
    have after := (advanceAddr_same params sent.1).trans
      (scheduleNextPingRequest_same params now now
        ((sent.1.advanceAddr params).timerKind = .changeAddr) sendInterval sleepDuration
        (sent.1.advanceAddr params))
    exact .inr ⟨sent.2, rfl, (sendPing_sends sendPing).frame before after⟩
  · rw [if_neg send] at sending
    cases sending
    exact .inl ⟨rfl, before⟩

end PingTestApp

/-! ## The invariant -/

/-- The losses that were inferred from a record. -/
def gapCount (records : List StartRecord) : Nat :=
  (records.map fun record => record.gaps.length).sum

def lateCount (records : List StartRecord) : Nat := (records.map StartRecord.late).sum

def Remembers (app : PingTestApp) (record : StartRecord) : Prop :=
  ∀ seqNo, seqNo < app.sendSeqNo → app.sendSeqNo ≤ seqNo + pingHistorySize →
    app.sendTimeHistory.getD (seqNo % pingHistorySize) 0 = (record.sent.lookup seqNo).getD 0

structure Running (run : PingRun) : Prop where
  up : run.up = true
  active : run.app.pid ≠ -1
  pid : run.app.pid = run.last.pid
  numbered : run.last.Numbered run.app.sendSeqNo run.app.expectedReplySeqNo
  remembers : Remembers run.app run.last

structure Stopped (run : PingRun) : Prop where
  pid : run.app.pid = -1
  sendSeqNo : run.app.sendSeqNo = 0
  expectedReplySeqNo : run.app.expectedReplySeqNo = 0
  timer : run.app.timer = none
  numbered : ∃ count expected, run.last.Numbered count expected

structure Exact (run : PingRun) : Prop where
  mode : Running run ∨ Stopped run
  numbered : ∀ record ∈ run.earlier, ∃ count expected, record.Numbered count expected
  slots : run.app.sendTimeHistory.length = pingHistorySize
  loss : run.app.lossCount = gapCount run.records
  late : run.app.outOfOrderArrivalCount = lateCount run.records
  rtts : run.app.rttStat.Sublist (run.records.flatMap StartRecord.delays)

section Records

variable (earlier : List StartRecord) (last : StartRecord)

@[simp] theorem gapCount_snoc :
    gapCount (earlier ++ [last]) = gapCount earlier + last.gaps.length := by
  simp [gapCount]

@[simp] theorem lateCount_snoc :
    lateCount (earlier ++ [last]) = lateCount earlier + last.late := by
  simp [lateCount]

@[simp] theorem delays_snoc :
    (earlier ++ [last]).flatMap StartRecord.delays =
      earlier.flatMap StartRecord.delays ++ last.delays := by
  simp

end Records

section Last

variable {record : StartRecord} {count expected : Nat}

theorem lookup_send (record : StartRecord) (now : Int) {seqNo : Nat} (sent : seqNo < count) :
    (record.sent ++ [(count, now)]).lookup seqNo = record.sent.lookup seqNo := by
  have other : (seqNo == count) = false := by
    simp
    omega
  rw [List.lookup_append]
  simp [List.lookup_cons, other]

theorem StartRecord.Numbered.lookup_last (numbered : record.Numbered count expected) (now : Int) :
    (record.sent ++ [(count, now)]).lookup count = some now := by
  have fresh : record.sent.lookup count = none := by
    rw [List.lookup_eq_none_iff]
    intro request member
    have within : request.1 ∈ record.sent.map Prod.fst := List.mem_map_of_mem member
    rw [numbered.sent, List.mem_range] at within
    simp
    omega
  rw [List.lookup_append, fresh]
  simp

theorem StartRecord.Numbered.send_counts (numbered : record.Numbered count expected) (now : Int) :
    let sent : StartRecord := { record with sent := record.sent ++ [(count, now)] }
    sent.gaps.length = record.gaps.length ∧ sent.late = record.late ∧
      sent.delays = record.delays := by
  intro sent
  have before := numbered.gaps_length
  have after : sent.gaps.length + record.answered.length = expected :=
    (numbered.send now).gaps_length
  refine ⟨by omega, rfl, ?_⟩
  · apply List.map_congr_left
    intro answer member
    have answered : answer.1 ∈ record.answered := List.mem_map_of_mem member
    have sentBefore := lt_of_lt_of_le (numbered.below _ answered) numbered.bound
    rw [lookup_send record now sentBefore]

theorem StartRecord.Numbered.answer_counts (numbered : record.Numbered count expected)
    {seqNo : Nat} (now : Int) (sent : seqNo < count) (missing : seqNo ∉ record.answered) :
    let after : StartRecord := { record with answers := record.answers ++ [(seqNo, now)] }
    after.gaps.length + expected + 1 = record.gaps.length + max expected (seqNo + 1) ∧
      after.late = record.late + (if seqNo < expected then 1 else 0) ∧
      after.delays = record.delays ++ [now - (record.sent.lookup seqNo).getD 0] := by
  intro after
  have answered : after.answered = record.answered ++ [seqNo] := by
    simp [after, StartRecord.answered]
  have gapsBefore := numbered.gaps_length
  have gapsAfter := (numbered.answer now sent missing).gaps_length
  refine ⟨?_, ?_, ?_⟩
  · change after.gaps.length + after.answered.length = _ at gapsAfter
    rw [answered, List.length_append, List.length_singleton] at gapsAfter
    omega
  · rw [StartRecord.late, answered, lateAfter_snoc, List.nil_append,
      numbered.any_later_iff missing]
    simp [StartRecord.late]
  · simp [StartRecord.delays, after]

end Last

/-! ## Steps -/

section Steps

variable {params : PingParams} {run run' : PingRun}

theorem Exact.stopped_start (exact : Exact run) (stopped : Stopped run) (up : run.up = true)
    {now : Int} {others : Nat} (started : run.startApp params now others = some run') :
    Exact run' := by
  unfold PingRun.startApp at started
  by_cases enabled : run.app.isEnabled params = true
  · rw [if_pos enabled] at started
    have idle : ¬ run.app.timer.isSome = true := by simp [stopped.timer]
    rw [PingTestApp.startSendingPingRequests, if_neg idle] at started
    cases started
    have same := PingTestApp.scheduleNextPingRequest_same params now (-1) false 0 0
      { run.app with
        pid := (run.unique + others : Nat)
        lastStart := now
        timerKind := .firstAddr
        sentCount := 0
        sendSeqNo := 0 }
    constructor
    · refine .inl ⟨up, ?_, same.pid, ?_, ?_⟩
      · rw [same.pid]
        simp only
        omega
      · rw [same.sendSeqNo, same.expectedReplySeqNo]
        simp only [stopped.expectedReplySeqNo]
        exact .empty _
      · intro seqNo sent
        rw [same.sendSeqNo] at sent
        exact absurd sent (Nat.not_lt_zero seqNo)
    · intro record member
      rcases List.mem_append.mp member with before | last
      · exact exact.numbered record before
      · rw [List.mem_singleton.mp last]
        exact stopped.numbered
    · rw [same.sendTimeHistory]
      exact exact.slots
    · rw [same.lossCount, PingRun.records, gapCount_snoc]
      exact exact.loss
    · rw [same.outOfOrderArrivalCount, PingRun.records, lateCount_snoc]
      exact exact.late
    · rw [same.rttStat, PingRun.records, delays_snoc]
      simpa [StartRecord.delays, PingRun.records] using exact.rtts
  · rw [if_neg enabled] at started
    cases started
    exact exact

theorem Exact.same (exact : Exact run) (running : Running run) {app : PingTestApp}
    (same : run.app.SameStatistics app) : Exact { run with app := app } := by
  constructor
  · refine .inl ⟨running.up, ?_, same.pid.trans running.pid, ?_, ?_⟩
    · rw [same.pid]
      exact running.active
    · simp only [same.sendSeqNo, same.expectedReplySeqNo]
      exact running.numbered
    · intro seqNo sent recent
      simp only [same.sendSeqNo, same.sendTimeHistory] at sent recent ⊢
      exact running.remembers seqNo sent recent
  · exact exact.numbered
  · rw [same.sendTimeHistory]
    exact exact.slots
  · rw [same.lossCount]
    exact exact.loss
  · rw [same.outOfOrderArrivalCount]
    exact exact.late
  · rw [same.rttStat]
    exact exact.rtts

theorem Exact.send (exact : Exact run) (running : Running run) {now : Int} {app : PingTestApp}
    {msg : PingPayload} (sends : PingTestApp.SendsNext now run.app app msg) :
    Exact { run with
      app := app
      last := { run.last with sent := run.last.sent ++ [(msg.seqNo, now)] } } := by
  have seqNo : msg.seqNo = run.app.sendSeqNo := by rw [sends.msg]
  rw [seqNo]
  obtain ⟨gaps, late, delays⟩ := running.numbered.send_counts now
  constructor
  · refine .inl ⟨running.up, ?_, ?_, ?_, ?_⟩
    · rw [sends.pid]
      exact running.active
    · exact sends.pid.trans running.pid
    · simp only [sends.sendSeqNo, sends.expectedReplySeqNo]
      exact running.numbered.send now
    · intro other sent recent
      simp only [sends.sendSeqNo] at sent recent
      simp only [sends.sendTimeHistory]
      rcases Nat.lt_or_ge other run.app.sendSeqNo with before | last
      · have otherSlot :
            run.app.sendSeqNo % pingHistorySize ≠ other % pingHistorySize := by
          simp only [pingHistorySize] at recent ⊢
          omega
        have kept := running.remembers other before (by omega)
        rw [lookup_send run.last now before, ← kept]
        simp [List.getD_eq_getElem?_getD, List.getElem?_set_ne otherSlot]
      · have newest : other = run.app.sendSeqNo := by omega
        have slot : run.app.sendSeqNo % pingHistorySize < run.app.sendTimeHistory.length := by
          rw [exact.slots]
          exact Nat.mod_lt _ (by decide)
        rw [newest, running.numbered.lookup_last now]
        simp [List.getD_eq_getElem?_getD, List.getElem?_set_self slot]
  · exact exact.numbered
  · simp only [sends.sendTimeHistory, List.length_set]
    exact exact.slots
  · simp only [sends.lossCount, PingRun.records, gapCount_snoc, gaps]
    simpa [PingRun.records] using exact.loss
  · simp only [sends.outOfOrderArrivalCount, PingRun.records, lateCount_snoc, late]
    simpa [PingRun.records] using exact.late
  · simp only [sends.rttStat, PingRun.records, delays_snoc, delays]
    simpa [PingRun.records] using exact.rtts

theorem countPingResponse_counts (seqNo : Nat) (rtt : Int) (app : PingTestApp) :
    let app' := app.countPingResponse seqNo rtt
    app'.pid = app.pid ∧ app'.sendSeqNo = app.sendSeqNo ∧
      app'.sendTimeHistory = app.sendTimeHistory ∧
      app'.expectedReplySeqNo = max app.expectedReplySeqNo (seqNo + 1) ∧
      app'.lossCount + app.expectedReplySeqNo + 1 =
        app.lossCount + (max app.expectedReplySeqNo (seqNo + 1) : Nat) ∧
      app'.outOfOrderArrivalCount =
        app.outOfOrderArrivalCount + (if seqNo < app.expectedReplySeqNo then 1 else 0) ∧
      app'.rttStat = if rtt > 0 then app.rttStat ++ [rtt] else app.rttStat := by
  unfold PingTestApp.countPingResponse
  dsimp only
  rcases Nat.lt_trichotomy seqNo app.expectedReplySeqNo with late | same | jump
  · have notSame : seqNo ≠ app.expectedReplySeqNo := by omega
    have notAfter : ¬ seqNo > app.expectedReplySeqNo := by omega
    have largest : max app.expectedReplySeqNo (seqNo + 1) = app.expectedReplySeqNo := by omega
    rw [if_neg notSame, if_neg notAfter, if_pos late, largest]
    exact ⟨rfl, rfl, rfl, rfl, by simp only; omega, rfl, rfl⟩
  · have largest : max app.expectedReplySeqNo (seqNo + 1) = app.expectedReplySeqNo + 1 := by omega
    have notLate : ¬ seqNo < app.expectedReplySeqNo := by omega
    rw [if_pos same, if_neg notLate, largest]
    exact ⟨rfl, rfl, rfl, rfl, by simp only; omega, rfl, rfl⟩
  · have notSame : seqNo ≠ app.expectedReplySeqNo := by omega
    have largest : max app.expectedReplySeqNo (seqNo + 1) = seqNo + 1 := by omega
    have notLate : ¬ seqNo < app.expectedReplySeqNo := by omega
    rw [if_neg notSame, if_pos jump, if_neg notLate, largest]
    exact ⟨rfl, rfl, rfl, rfl, by simp only; omega, rfl, rfl⟩

theorem Exact.answer (exact : Exact run) (running : Running run) (now : Int) {seqNo : Nat}
    (sent : seqNo < run.app.sendSeqNo) (missing : seqNo ∉ run.last.answered) :
    Exact { run with
      app := run.app.countPingResponse seqNo (run.app.rttOf now seqNo)
      last := { run.last with answers := run.last.answers ++ [(seqNo, now)] } } := by
  obtain ⟨pid, sendSeqNo, history, expected, loss, late, rtts⟩ :=
    countPingResponse_counts seqNo (run.app.rttOf now seqNo) run.app
  obtain ⟨gaps, lates, delays⟩ := running.numbered.answer_counts now sent missing
  have lossBefore := exact.loss
  have lateBefore := exact.late
  have rttsBefore := exact.rtts
  simp only [PingRun.records, gapCount_snoc, lateCount_snoc] at lossBefore lateBefore
  rw [PingRun.records, delays_snoc] at rttsBefore
  constructor
  · refine .inl ⟨running.up, ?_, ?_, ?_, ?_⟩
    · rw [pid]
      exact running.active
    · exact pid.trans running.pid
    · simp only [sendSeqNo, expected]
      exact running.numbered.answer now sent missing
    · intro other within recent
      simp only [sendSeqNo, history] at within recent ⊢
      exact running.remembers other within recent
  · exact exact.numbered
  · simp only [history]
    exact exact.slots
  · simp only [PingRun.records, gapCount_snoc]
    push_cast at lossBefore loss ⊢
    omega
  · simp only [PingRun.records, lateCount_snoc, late, lates]
    omega
  · simp only [PingRun.records, delays_snoc, delays, rtts]
    rw [← List.append_assoc]
    by_cases collected : run.app.rttOf now seqNo > 0
    · rw [if_pos collected]
      have delay : run.app.rttOf now seqNo = now - (run.last.sent.lookup seqNo).getD 0 := by
        unfold PingTestApp.rttOf at collected ⊢
        by_cases old : (run.app.sendSeqNo : Int) - seqNo > pingHistorySize
        · rw [if_pos old] at collected
          exact absurd collected (lt_irrefl 0)
        · rw [if_neg old, running.remembers seqNo sent (by omega)]
      rw [delay]
      exact rttsBefore.append (List.Sublist.refl _)
    · rw [if_neg collected]
      exact rttsBefore.trans (List.sublist_append_left _ _)

theorem Exact.stop (exact : Exact run) :
    Exact { run with app := run.app.stopSendingPingRequests, up := false } where
  mode := by
    refine .inr ⟨rfl, rfl, rfl, rfl, ?_⟩
    rcases exact.mode with running | stopped
    · exact ⟨_, _, running.numbered⟩
    · exact stopped.numbered
  numbered := exact.numbered
  slots := exact.slots
  loss := exact.loss
  late := exact.late
  rtts := exact.rtts

theorem Exact.step (exact : Exact run) {event : PingEvent}
    (stepped : run.step params event = some run') : Exact run' := by
  cases event with
  | timer srcAddr resolved sendInterval sleepDuration =>
      cases timed : run.app.timer with
      | none => simp [PingRun.step, timed] at stepped
      | some now =>
          have running : Running run := by
            rcases exact.mode with running | stopped
            · exact running
            · exact absurd (timed.symm.trans stopped.timer) nofun
          simp only [PingRun.step, timed] at stepped
          rw [if_pos running.up] at stepped
          cases handled : run.app.handleSelfMessage params now srcAddr resolved sendInterval
            sleepDuration with
          | error fault => simp [handled] at stepped
          | ok result =>
              obtain ⟨app, msg⟩ := result
              rw [handled] at stepped
              rcases PingTestApp.handleSelfMessage_cases handled with
                ⟨rfl, same⟩ | ⟨payload, rfl, sends⟩
              · cases stepped
                exact exact.same running same
              · cases stepped
                exact exact.send running sends
  | reply now msg =>
      simp only [PingRun.step] at stepped
      by_cases possible : run.Possible msg
      · rw [if_pos possible] at stepped
        by_cases up : run.up = true
        · rw [if_pos up] at stepped
          cases stepped
          by_cases own : msg.originatorId = run.app.pid
          · have running : Running run := by
              rcases exact.mode with running | stopped
              · exact running
              · have negative := own.trans stopped.pid
                have unique := possible.1
                omega
            obtain ⟨sent, missing⟩ := possible.2 run.last (by simp) (running.pid ▸ own.symm)
            rw [running.numbered.sent, List.mem_range] at sent
            have answer := exact.answer running now sent missing
            simpa only [PingTestApp.processPingResponse, own, ne_eq, not_true_eq_false, if_false,
              if_true] using answer
          · simpa only [PingTestApp.processPingResponse, own, ne_eq, not_false_eq_true, if_true,
              if_false] using exact
        · rw [if_neg up] at stepped
          cases stepped
          exact exact
      · rw [if_neg possible] at stepped
        cases stepped
  | start now others =>
      simp only [PingRun.step] at stepped
      by_cases up : run.up = true
      · rw [if_pos up] at stepped
        cases stepped
      · rw [if_neg up] at stepped
        have stopped : Stopped run := by
          rcases exact.mode with running | stopped
          · exact absurd running.up up
          · exact stopped
        have raised : Exact { run with up := true } :=
          ⟨.inr ⟨stopped.pid, stopped.sendSeqNo, stopped.expectedReplySeqNo, stopped.timer,
            stopped.numbered⟩, exact.numbered, exact.slots, exact.loss, exact.late, exact.rtts⟩
        exact raised.stopped_start ⟨stopped.pid, stopped.sendSeqNo, stopped.expectedReplySeqNo,
          stopped.timer, stopped.numbered⟩ rfl stepped
  | stop =>
      simp only [PingRun.step] at stepped
      by_cases up : run.up = true
      · rw [if_pos up] at stepped
        cases stepped
        exact exact.stop
      · rw [if_neg up] at stepped
        cases stepped

theorem reached_exact (reached : PingRun.Reached params run) : Exact run := by
  induction reached with
  | init started =>
      rename_i up others
      have stopped : Stopped
          { app := .initialized
            up := up
            unique := 0
            earlier := []
            last := PingRun.noRequests } :=
        ⟨rfl, rfl, rfl, rfl, 0, 0, .empty (-1)⟩
      have exact : Exact
          { app := .initialized
            up := up
            unique := 0
            earlier := []
            last := PingRun.noRequests } :=
        ⟨.inr stopped, nofun, rfl, rfl, rfl, List.Sublist.refl _⟩
      cases up with
      | true => exact exact.stopped_start stopped rfl started
      | false =>
          cases started
          exact exact
  | step _ stepped ih => exact ih.step stepped

end Steps

/-! ## The law -/

/-- What the statistics say after `finish`. -/
structure StatisticsExact (run : PingRun) : Prop where
  loss : run.app.finishedLossCount = run.last.unanswered.length
  nonneg : 0 ≤ run.app.finishedLossCount
  rate : ∀ rate ∈ run.app.recordedLossRate,
    rate = 100 * (run.last.unanswered.length : ℚ) / run.last.sent.length
  late : run.app.outOfOrderArrivalCount = lateCount run.records
  rtts : run.app.rttStat.Sublist (run.records.flatMap StartRecord.delays)

/-- The loss count after `finish` is too large by the gaps of earlier starts, and leaves
out the requests after the last answered one if the application was stopped. -/
theorem finishedLossCount_eq {run : PingRun} (exact : Exact run) :
    run.app.finishedLossCount =
      if run.app.pid = -1 then (gapCount run.earlier + run.last.gaps.length : Int)
      else gapCount run.earlier + run.last.unanswered.length := by
  have loss := exact.loss
  rw [PingRun.records, gapCount_snoc] at loss
  unfold PingTestApp.finishedLossCount
  rcases exact.mode with running | stopped
  · rw [if_neg running.active]
    have gaps := running.numbered.gaps_length
    have unanswered := running.numbered.unanswered_length
    have bound := running.numbered.bound
    by_cases none : run.app.sendSeqNo = 0
    · rw [if_pos none]
      omega
    · rw [if_neg none]
      omega
  · rw [if_pos stopped.sendSeqNo, if_pos stopped.pid, loss]
    push_cast
    rfl

theorem ping_statistics {params : PingParams} {run : PingRun}
    (reached : PingRun.Reached params run) :
    StatisticsExact run ↔
      gapCount run.earlier = if run.app.pid = -1 then run.last.trailing.length else 0 := by
  have exact := reached_exact reached
  have finished := finishedLossCount_eq exact
  have trailing := run.last.trailing_length
  constructor
  · intro statistics
    have loss := statistics.loss
    rw [finished] at loss
    split_ifs at loss ⊢ <;> omega
  · intro noGaps
    have loss : run.app.finishedLossCount = run.last.unanswered.length := by
      rw [finished]
      split_ifs at noGaps ⊢ <;> omega
    refine ⟨loss, by omega, ?_, exact.late, exact.rtts⟩
    intro rate recorded
    unfold PingTestApp.recordedLossRate at recorded
    by_cases none : run.app.sendSeqNo = 0
    · rw [if_pos none] at recorded
      cases recorded
    · rw [if_neg none, loss] at recorded
      rcases exact.mode with running | stopped
      · have sent : run.last.sent.length = run.app.sendSeqNo := by
          have numbers := congrArg List.length running.numbered.sent
          simpa using numbers
        cases recorded
        rw [sent]
        push_cast
        rfl
      · exact absurd stopped.sendSeqNo none

def second : Int := 1000000000000

/-- One destination that is pinged from the start of the simulation on. -/
def pingHost : PingParams where
  destAddr := "host"
  count := -1
  startTime := 0
  stopTime := -1
  continuous := false

/-- A request to host 2, and the next one a second later. -/
def request : PingEvent := .timer (some 1) [some 2] second 0

def reply (now originatorId : Int) (seqNo : Nat) : PingEvent :=
  .reply now { originatorId := originatorId, seqNo := seqNo }

def reorderedReplies : List PingEvent :=
  [request, request, reply (2 * second) 0 1, reply (3 * second) 0 0]

/-- Only the second of two requests is answered before the node goes down. -/
def restartAfterGap : List PingEvent :=
  [request, request, reply (2 * second) 0 1, .stop, .start (6 * second) 0, request,
    reply (7 * second) 1 0]

theorem ping_statistics_reordered :
    ∃ run, PingRun.simulate pingHost true 0 reorderedReplies = some run ∧
      (StatisticsExact run ↔
        gapCount run.earlier = if run.app.pid = -1 then run.last.trailing.length else 0) := by
  cases simulated : PingRun.simulate pingHost true 0 reorderedReplies with
  | none => exact absurd simulated (by decide +kernel)
  | some run => exact ⟨run, rfl, ping_statistics (PingRun.simulate_reached simulated)⟩

/-- The one request after the restart is answered, yet a loss is recorded. -/
theorem losses_survive_restart :
    ∃ run, PingRun.simulate pingHost true 0 restartAfterGap = some run ∧
      run.last.unanswered = [] ∧ run.app.finishedLossCount = 1 ∧
      run.app.recordedLossRate = some 100 ∧ ¬ StatisticsExact run := by
  have outcome : ((PingRun.simulate pingHost true 0 restartAfterGap).map fun run =>
      (run.last.unanswered, run.app.finishedLossCount, run.app.recordedLossRate)) =
        some ([], 1, some 100) := by decide +kernel
  obtain ⟨run, simulated, values⟩ := Option.map_eq_some_iff.mp outcome
  simp only [Prod.mk.injEq] at values
  obtain ⟨unanswered, finished, rate⟩ := values
  refine ⟨run, simulated, unanswered, finished, rate, ?_⟩
  intro statistics
  have loss := statistics.loss
  rw [finished, unanswered] at loss
  exact absurd loss (by decide)

end SyncFanet.Ping
