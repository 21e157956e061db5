import SyncFanet.OlsrEtx.LossWindow

/-!
# Packets that did not arrive

A packet that does not arrive is noticed twice: by the link quality timer when it is due
and by the gap in the sequence numbers when the next one arrives. Here the loss window
carries a log of the calls of `process_packet`.
-/

set_option autoImplicit false

namespace SyncFanet.OlsrEtx

open Olsr

def missing (expected seqno : Nat) : Nat :=
  (seqno + (maxSeqNum + 1) - expected) % (maxSeqNum + 1)

/-- A loss window with the arguments `process_packet` was called with. -/
structure LoggedWindow where
  window : LossWindow
  calls : List Bool
  deriving DecidableEq

namespace LoggedWindow

def processPacket (behaviour : LinkQuality) (now : Int) (received : Bool) (htime : Int)
    (logged : LoggedWindow) : LoggedWindow where
  window := logged.window.processPacket behaviour now received htime
  calls := logged.calls ++ [received]

def skipMissed (behaviour : LinkQuality) (now : Int) (seqno : Nat) (htime : Int) :
    Nat → LoggedWindow → Except Fault LoggedWindow
  | 0, logged => if seqno = logged.window.lossSeqno then .ok logged else .error .diverges
  | fuel + 1, logged =>
      if seqno = logged.window.lossSeqno then .ok logged
      else
        let counted :=
          if logged.window.lossMissedHellos = 0 then
            logged.processPacket behaviour now false htime
          else
            { logged with window := { logged.window with
                lossMissedHellos := logged.window.lossMissedHellos - 1 } }
        skipMissed behaviour now seqno htime fuel
          { counted with window := { counted.window with
              lossSeqno := (counted.window.lossSeqno + 1) % (maxSeqNum + 1) } }

def receive (behaviour : LinkQuality) (now : Int) (seqno : Nat) (htime : Int)
    (logged : LoggedWindow) : Except Fault LoggedWindow :=
  (logged.skipMissed behaviour now seqno htime maxSeqNum).bind fun logged =>
    let counted := logged.processPacket behaviour now true htime
    .ok { counted with window := { counted.window with
      lossMissedHellos := 0
      lossSeqno := (seqno + 1) % (maxSeqNum + 1) } }

def packetTimeout (behaviour : LinkQuality) (now : Int) (logged : LoggedWindow) :
    LoggedWindow :=
  let counted := logged.processPacket behaviour now false 0
  { counted with window := { counted.window with
      lossMissedHellos := counted.window.lossMissedHellos + 1
      nextHello := now + counted.window.helloIval } }

/-! ## Without the log -/

variable (behaviour : LinkQuality)

theorem skipMissed_window (now : Int) (seqno : Nat) (htime : Int) (fuel : Nat)
    (logged : LoggedWindow) :
    (logged.skipMissed behaviour now seqno htime fuel).map LoggedWindow.window =
      logged.window.skipMissed behaviour now seqno htime fuel := by
  induction fuel generalizing logged with
  | zero =>
      rw [skipMissed, LossWindow.skipMissed]
      split <;> rfl
  | succ fuel ih =>
      rw [skipMissed, LossWindow.skipMissed]
      by_cases arrived : seqno = logged.window.lossSeqno
      · rw [if_pos arrived, if_pos arrived]
        rfl
      · rw [if_neg arrived, if_neg arrived, ih]
        by_cases none : logged.window.lossMissedHellos = 0
        · simp only [if_pos none, processPacket]
        · simp only [if_neg none]

theorem receive_window (now : Int) (seqno : Nat) (htime : Int) (logged : LoggedWindow) :
    (logged.receive behaviour now seqno htime).map LoggedWindow.window =
      logged.window.receive behaviour now seqno htime := by
  rw [receive, LossWindow.receive, ← skipMissed_window]
  cases logged.skipMissed behaviour now seqno htime maxSeqNum <;> rfl

theorem packetTimeout_window (now : Int) (logged : LoggedWindow) :
    (logged.packetTimeout behaviour now).window =
      logged.window.packetTimeout behaviour now := rfl

/-! ## The gap -/

/-- What the loop over the missing sequence numbers does: the timeouts that were counted
already pay for as many of them. -/
structure Skipped (logged logged' : LoggedWindow) (seqno gap : Nat) : Prop where
  calls : logged'.calls =
    logged.calls ++ List.replicate (gap - logged.window.lossMissedHellos) false
  arrived : logged'.window.lossSeqno = seqno

end LoggedWindow

theorem missing_next {expected seqno : Nat} (expectedSmall : expected ≤ maxSeqNum)
    (small : seqno ≤ maxSeqNum) (different : seqno ≠ expected) :
    missing expected seqno = missing ((expected + 1) % (maxSeqNum + 1)) seqno + 1 := by
  unfold missing
  simp only [maxSeqNum] at expectedSmall small ⊢
  omega

theorem missing_self (expected : Nat) : missing expected expected = 0 := by
  simp [missing]

theorem missing_le (expected seqno : Nat) : missing expected seqno ≤ maxSeqNum :=
  Nat.le_of_lt_succ (Nat.mod_lt _ (Nat.succ_pos _))

namespace LoggedWindow

variable {behaviour : LinkQuality}

theorem skipMissed_skips (now : Int) {seqno : Nat} (htime : Int) (small : seqno ≤ maxSeqNum)
    {fuel : Nat} {logged : LoggedWindow} (expectedSmall : logged.window.lossSeqno ≤ maxSeqNum)
    (enough : missing logged.window.lossSeqno seqno ≤ fuel) :
    ∃ logged', logged.skipMissed behaviour now seqno htime fuel = .ok logged' ∧
      Skipped logged logged' seqno (missing logged.window.lossSeqno seqno) := by
  induction fuel generalizing logged with
  | zero =>
      have arrived : seqno = logged.window.lossSeqno := by
        by_contra different
        have more := missing_next expectedSmall small different
        omega
      rw [skipMissed, if_pos arrived]
      exact ⟨logged, rfl, by simp [arrived, missing_self], arrived.symm⟩
  | succ fuel ih =>
      rw [skipMissed]
      by_cases arrived : seqno = logged.window.lossSeqno
      · rw [if_pos arrived]
        exact ⟨logged, rfl, by simp [arrived, missing_self], arrived.symm⟩
      · have more := missing_next expectedSmall small arrived
        have nextSmall : (logged.window.lossSeqno + 1) % (maxSeqNum + 1) ≤ maxSeqNum :=
          Nat.le_of_lt_succ (Nat.mod_lt _ (Nat.succ_pos _))
        have enoughNext :
            missing ((logged.window.lossSeqno + 1) % (maxSeqNum + 1)) seqno ≤ fuel := by
          omega
        rw [if_neg arrived]
        by_cases none : logged.window.lossMissedHellos = 0
        · obtain ⟨logged', ran, skipped⟩ := @ih
            { window := { (logged.processPacket behaviour now false htime).window with
                lossSeqno := (logged.window.lossSeqno + 1) % (maxSeqNum + 1) }
              calls := logged.calls ++ [false] } nextSmall enoughNext
          refine ⟨logged', ?_, ?_, skipped.arrived⟩
          · rw [if_pos none]
            simpa [processPacket] using ran
          · have calls := skipped.calls
            simp only [processPacket, LossWindow.processPacket_lossMissedHellos, none,
              Nat.sub_zero] at calls
            rw [calls, more, none, Nat.sub_zero, List.replicate_succ]
            simp
        · obtain ⟨logged', ran, skipped⟩ := @ih
            { logged with window := { logged.window with
                lossMissedHellos := logged.window.lossMissedHellos - 1
                lossSeqno := (logged.window.lossSeqno + 1) % (maxSeqNum + 1) } } nextSmall
            enoughNext
          refine ⟨logged', ?_, ?_, skipped.arrived⟩
          · rw [if_neg none]
            exact ran
          · have same : missing ((logged.window.lossSeqno + 1) % (maxSeqNum + 1)) seqno -
                (logged.window.lossMissedHellos - 1) =
                missing logged.window.lossSeqno seqno - logged.window.lossMissedHellos := by
              omega
            rw [← same]
            exact skipped.calls

/-- What the window is between two packets: `missed` timeouts were counted, and the next
sequence number is `expected`. -/
structure Awaits (logged : LoggedWindow) (expected missed : Nat) : Prop where
  seqno : logged.window.lossSeqno = expected
  missed : logged.window.lossMissedHellos = missed

theorem Awaits.receive {logged : LoggedWindow} {expected missed : Nat}
    (awaits : logged.Awaits expected missed) (behaviour : LinkQuality)
    (expectedSmall : expected ≤ maxSeqNum) (now : Int) {seqno : Nat} (htime : Int) (small : seqno ≤ maxSeqNum) :
    ∃ logged', logged.receive behaviour now seqno htime = .ok logged' ∧
      logged'.calls =
        logged.calls ++ List.replicate (missing expected seqno - missed) false ++ [true] ∧
      logged'.Awaits ((seqno + 1) % (maxSeqNum + 1)) 0 := by
  rcases awaits with ⟨rfl, rfl⟩
  obtain ⟨skipped, ran, known⟩ := @skipMissed_skips behaviour now seqno htime small
    maxSeqNum logged expectedSmall (missing_le logged.window.lossSeqno seqno)
  rw [LoggedWindow.receive, ran]
  refine ⟨_, rfl, ?_, rfl, rfl⟩
  show skipped.calls ++ [true] = _
  rw [known.calls]

theorem Awaits.packetTimeout {logged : LoggedWindow} {expected missed : Nat}
    (awaits : logged.Awaits expected missed) (behaviour : LinkQuality) (now : Int) :
    (logged.packetTimeout behaviour now).Awaits expected (missed + 1) where
  seqno := by simpa [LoggedWindow.packetTimeout, processPacket] using awaits.seqno
  missed := by simpa [LoggedWindow.packetTimeout, processPacket] using awaits.missed

end LoggedWindow

/-! ## Runs of events -/

/-- What happens to a link tuple, with the sequence numbers as the 16 bits they are. -/
inductive WindowEvent where
  | receive (now : Int) (seqno : Fin (maxSeqNum + 1)) (htime : Int)
  | timeout (now : Int)
  deriving DecidableEq

namespace LoggedWindow

def step (behaviour : LinkQuality) (logged : LoggedWindow) :
    WindowEvent → Except Fault LoggedWindow
  | .receive now seqno htime => logged.receive behaviour now seqno htime
  | .timeout now => .ok (logged.packetTimeout behaviour now)

def run (behaviour : LinkQuality) (events : List WindowEvent) (logged : LoggedWindow) :
    Except Fault LoggedWindow :=
  events.foldlM (step behaviour) logged

/-- A fresh link tuple. -/
def init (seqno : Fin (maxSeqNum + 1)) (lossWindowSize : Nat) : LoggedWindow where
  window := linkQualityInit seqno lossWindowSize
  calls := []

end LoggedWindow

namespace LossWindow

def step (behaviour : LinkQuality) (window : LossWindow) : WindowEvent → Except Fault LossWindow
  | .receive now seqno htime => window.receive behaviour now seqno htime
  | .timeout now => .ok (window.packetTimeout behaviour now)

def run (behaviour : LinkQuality) (events : List WindowEvent) (window : LossWindow) :
    Except Fault LossWindow :=
  events.foldlM (step behaviour) window

end LossWindow

namespace LoggedWindow

variable {behaviour : LinkQuality}

theorem step_window (behaviour : LinkQuality) (event : WindowEvent) (logged : LoggedWindow) :
    (logged.step behaviour event).map LoggedWindow.window =
      logged.window.step behaviour event := by
  cases event with
  | receive now seqno htime => exact receive_window behaviour now seqno htime logged
  | timeout now => rfl

theorem run_window (behaviour : LinkQuality) (events : List WindowEvent) (logged : LoggedWindow) :
    (logged.run behaviour events).map LoggedWindow.window =
      logged.window.run behaviour events := by
  induction events generalizing logged with
  | nil => rfl
  | cons event events ih =>
      have first := step_window behaviour event logged
      simp only [run, LossWindow.run, List.foldlM_cons] at ih ⊢
      rw [← first]
      cases stepped : logged.step behaviour event with
      | error fault => rfl
      | ok next => exact ih next

theorem run_append (behaviour : LinkQuality) (events events' : List WindowEvent) (logged : LoggedWindow) :
    logged.run behaviour (events ++ events') =
      (logged.run behaviour events).bind (run behaviour events') :=
  List.foldlM_append

theorem run_total (behaviour : LinkQuality) (events : List WindowEvent) {logged : LoggedWindow}
    (small : logged.window.lossSeqno ≤ maxSeqNum) :
    ∃ logged', logged.run behaviour events = .ok logged' ∧
      logged'.window.lossSeqno ≤ maxSeqNum := by
  induction events generalizing logged with
  | nil => exact ⟨logged, rfl, small⟩
  | cons event events ih =>
      have awaits : logged.Awaits logged.window.lossSeqno logged.window.lossMissedHellos :=
        ⟨rfl, rfl⟩
      cases event with
      | receive now seqno htime =>
          obtain ⟨next, received, _, expects⟩ :=
            awaits.receive behaviour small now htime (Nat.le_of_lt_succ seqno.isLt)
          have nextSmall : next.window.lossSeqno ≤ maxSeqNum := by
            rw [expects.seqno]
            exact Nat.le_of_lt_succ (Nat.mod_lt _ (Nat.succ_pos _))
          obtain ⟨last, ran, lastSmall⟩ := ih nextSmall
          refine ⟨last, ?_, lastSmall⟩
          rw [run, List.foldlM_cons, step, received]
          exact ran
      | timeout now =>
          have nextSmall : (logged.packetTimeout behaviour now).window.lossSeqno ≤ maxSeqNum := by
            rw [(awaits.packetTimeout behaviour now).seqno]
            exact small
          exact ih nextSmall

theorem Awaits.timeouts {expected missed : Nat} (timeouts : List Int) {logged : LoggedWindow}
    (awaits : logged.Awaits expected missed) :
    ∃ logged', logged.run behaviour (timeouts.map .timeout) = .ok logged' ∧
      logged'.calls = logged.calls ++ List.replicate timeouts.length false ∧
      logged'.Awaits expected (missed + timeouts.length) := by
  induction timeouts generalizing logged missed with
  | nil => exact ⟨logged, rfl, by simp, awaits⟩
  | cons now timeouts ih =>
      obtain ⟨last, ran, calls, later⟩ := ih (awaits.packetTimeout behaviour now)
      refine ⟨last, ran, ?_, ?_⟩
      · rw [calls, List.length_cons, List.replicate_succ]
        simp [LoggedWindow.packetTimeout, processPacket]
      · simpa [Nat.add_comm, Nat.add_left_comm] using later

end LoggedWindow

/-- Between two packets every missed one is counted once, as a timeout or as a gap. -/
theorem missed_counted_once (behaviour : LinkQuality) (initial : Fin (maxSeqNum + 1))
    (size : Nat) (events : List WindowEvent) (now now' : Int)
    (first second : Fin (maxSeqNum + 1)) (htime htime' : Int) (timeouts : List Int) :
    ∃ between after : LoggedWindow,
      (LoggedWindow.init initial size).run behaviour (events ++ [.receive now first htime]) =
        .ok between ∧
      between.run behaviour (timeouts.map .timeout ++ [.receive now' second htime']) =
        .ok after ∧
      (linkQualityInit initial size).run behaviour ((events ++ [.receive now first htime]) ++
        (timeouts.map .timeout ++ [.receive now' second htime'])) = .ok after.window ∧
      between.window.lossMissedHellos = 0 ∧
      between.window.lossSeqno = (first + 1) % (maxSeqNum + 1) ∧
      after.calls = between.calls ++
        List.replicate (max timeouts.length (missing between.window.lossSeqno second)) false ++
          [true] ∧
      after.window.lossMissedHellos = 0 ∧
      after.window.lossSeqno = (second + 1) % (maxSeqNum + 1) := by
  obtain ⟨start, reached, small⟩ := LoggedWindow.run_total behaviour events
    (show (LoggedWindow.init initial size).window.lossSeqno ≤ maxSeqNum from
      Nat.le_of_lt_succ initial.isLt)
  obtain ⟨between, received, _, fresh⟩ := LoggedWindow.Awaits.receive ⟨rfl, rfl⟩ behaviour small
    now htime (Nat.le_of_lt_succ first.isLt)
  obtain ⟨waited, ticked, counted, missed⟩ := @LoggedWindow.Awaits.timeouts behaviour _ _
    timeouts _ fresh
  have expectedSmall : (first.val + 1) % (maxSeqNum + 1) ≤ maxSeqNum :=
    Nat.le_of_lt_succ (Nat.mod_lt _ (Nat.succ_pos _))
  obtain ⟨after, closed, calls, last⟩ := missed.receive behaviour expectedSmall now' htime'
    (Nat.le_of_lt_succ second.isLt)
  have toBetween : (LoggedWindow.init initial size).run behaviour
      (events ++ [.receive now first htime]) = .ok between := by
    rw [LoggedWindow.run_append, reached]
    simpa [LoggedWindow.run, LoggedWindow.step, Except.bind] using received
  have toAfter : between.run behaviour
      (timeouts.map .timeout ++ [.receive now' second htime']) = .ok after := by
    rw [LoggedWindow.run_append, ticked]
    simpa [LoggedWindow.run, LoggedWindow.step, Except.bind] using closed
  refine ⟨between, after, toBetween, toAfter, ?_, fresh.missed, fresh.seqno, ?_, last.missed,
    last.seqno⟩
  · have whole := LoggedWindow.run_append behaviour (events ++ [.receive now first htime])
      (timeouts.map .timeout ++ [.receive now' second htime']) (LoggedWindow.init initial size)
    rw [toBetween] at whole
    have erased := LoggedWindow.run_window behaviour
      ((events ++ [.receive now first htime]) ++
        (timeouts.map .timeout ++ [.receive now' second htime'])) (LoggedWindow.init initial size)
    rw [whole] at erased
    rw [← show (LoggedWindow.init initial size).window = linkQualityInit initial size from rfl,
      ← erased]
    simp [Except.bind, toAfter, Except.map]
  · rw [calls, counted, fresh.seqno]
    -- the timeouts pay for the first of the missing ones
    have together : timeouts.length +
        (missing ((first.val + 1) % (maxSeqNum + 1)) second - (0 + timeouts.length)) =
        max timeouts.length (missing ((first.val + 1) % (maxSeqNum + 1)) second) := by
      omega
    rw [← together, List.replicate_add]
    simp

end SyncFanet.OlsrEtx
