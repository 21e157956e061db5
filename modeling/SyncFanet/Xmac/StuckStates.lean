import SyncFanet.Xmac.Armings

/-!
# Where the X-MAC layer gets stuck

`receiveSignal` reacts to each signal as if it were the other one, and compares with a
member that is never written. So the layer is alive as long as it does not transmit data
or an ACK: then no timer is left, and no signal schedules one.
-/

set_option autoImplicit false

namespace SyncFanet.Xmac

/-- The signal announces that a switch or a transmission in progress is over. -/
def Radio.Completes (radio : Radio) : Signal → Prop
  | .radioModeChanged radioMode => radio.next = some radioMode
  | .transmissionStateChanged newRadioTransmissionState =>
      newRadioTransmissionState = .idle ∧
        (radio.transmission = .transmitting ∨ radio.toSend ≠ [] ∨
          radio.next = some .transmitter)

namespace Mac

/-- A message is scheduled, or the radio is busy with something the end of which makes
`receiveSignal` schedule one. -/
def Alive (mac : Mac) : Prop :=
  mac.pending.Nonempty ∨
    ∃ signal now next, mac.radio.Completes signal ∧ mac.receiveSignal now signal = .ok next ∧
      next.pending.Nonempty

end Mac

@[simp] def MacState.quietArmings : MacState → List (Finset Timer)
  | .init => [{.startXmac}]
  | .sleep => [{.wakeup}]
  | .cca => [{.ccaTimeout}]
  | .ccaLost => [{.ccaTimeout}]
  | .cca2 => [{.cca2Timeout}, {.cca2Timeout, .dataTimeout}]
  | .waitData => [{.dataTimeout}]
  | .sendPreamble => [{.stopPreambles}]
  | _ => []

structure Quiet (mac : Mac) : Prop where
  timers : mac.pending ∈ mac.macState.quietArmings
  unset : mac.transmissionState = .undefined

structure Stalled (mac : Mac) : Prop where
  timers : mac.pending = ∅
  state : mac.macState = .sendData ∨ mac.macState = .sendAck ∨ mac.macState = .sendAck2
  unset : mac.transmissionState = .undefined

structure Outcome (stalls : Prop) (mac : Mac) : Prop where
  stalled : stalls → Stalled mac
  quiet : ¬ stalls → Quiet mac

theorem Mac.quiet_outcome {tolerated : Fault → Prop} {computation : Except Fault Mac}
    {stalls : Prop} (guarded : Guarded tolerated Quiet computation) (runs : ¬ stalls) :
    Guarded tolerated (Outcome stalls) computation :=
  guarded.mono fun _ quiet => ⟨fun stall => absurd stall runs, fun _ => quiet⟩

theorem Mac.stalled_outcome {tolerated : Fault → Prop} {computation : Except Fault Mac}
    {stalls : Prop} (guarded : Guarded tolerated Stalled computation) (stall : stalls) :
    Guarded tolerated (Outcome stalls) computation :=
  guarded.mono fun _ stalled => ⟨fun _ => stalled, fun runs => absurd stall runs⟩

namespace XmacRun

/-- The frame makes the layer answer with an ACK2 or an ACK. -/
def FrameStalls (params : Params) (mac : Mac) (frame : Frame) : Prop :=
  mac.macState = .cca ∧ frame.kind = .preamble ∧ params.xmac = true ∧
      Mac.inList params frame.pkt = true ∨
    mac.macState = .waitData ∧ frame.kind = .data ∧ params.useMacAcks = true ∧
      frame.pkt.destAddr = params.address

/-- The preambles are over, a backoff ends, or a frame is to be answered. -/
def Stalls (params : Params) (run : XmacRun) (input : Input) : Prop :=
  match input.event with
  | .self timer =>
      run.mac.macState = .sendPreamble ∧ timer = .stopPreambles ∨
        run.mac.macState = .cca2 ∧ timer = .cca2Timeout
  | .lower frame bitError => bitError = false ∧ FrameStalls params run.mac frame
  | .putBack => ∃ pkt ∈ run.mac.putBack.head?, FrameStalls params run.mac ⟨.data, pkt⟩
  | _ => False

end XmacRun

/-! ## The states -/

namespace Mac

variable {params : Params} {now : Time} {rand : ℚ} {mac : Mac}

variable {frame : Frame} {prevMacState : MacState}

theorem goToSleep_quiet (waking : mac.pending = {.wakeup})
    (unset : mac.transmissionState = .undefined) :
    Guarded AnyFault Quiet (mac.goToSleep prevMacState) := by
  apply partial_setRadioMode
  intro radio
  constructor <;> simp_all

theorem contend_quiet {pkt : XMacPkt} (waiting : mac.pending = {.ccaTimeout})
    (unset : mac.transmissionState = .undefined) :
    Guarded AnyFault Quiet (do
      let next ← mac.contend params now rand prevMacState pkt
      .ok (next.cancelEvent .ccaTimeout)) := by
  rw [guarded_bind]
  apply partial_scheduleAt
  constructor
  · simp_all
    decide
  · exact unset

theorem dataWithoutPreamble_quiet {pkt : XMacPkt} (waiting : mac.pending = {.ccaTimeout})
    (unset : mac.transmissionState = .undefined) :
    Guarded AnyFault Quiet (mac.dataWithoutPreamble params now prevMacState pkt) := by
  unfold dataWithoutPreamble
  rw [guarded_bind]
  apply partial_scheduleAt
  constructor <;> simp_all

theorem handleCca_outcome (state : mac.macState = .cca) (waiting : mac.pending = {.ccaTimeout})
    (unset : mac.transmissionState = .undefined) :
    Guarded AnyFault (Outcome (XmacRun.FrameStalls params mac frame))
      (mac.handleCca params now rand (.frame frame)) := by
  have quiet : Quiet mac := by constructor <;> simp_all
  obtain ⟨kind, pkt⟩ := frame
  cases kind with
  | preamble =>
      simp only [handleCca]
      split
      case isTrue xmac =>
        split
        case isTrue listed =>
          apply stalled_outcome
          · apply partial_setRadioMode
            intro radio
            constructor <;> simp_all
          · exact .inl ⟨state, rfl, xmac, listed⟩
        case isFalse unlisted =>
          apply quiet_outcome
          · rw [guarded_bind]
            apply partial_scheduleAt
            apply goToSleep_quiet <;> simp_all
          · simp_all [XmacRun.FrameStalls]
      case isFalse =>
        apply quiet_outcome
        · split
          · exact contend_quiet waiting unset
          · constructor <;> simp_all
        · simp_all [XmacRun.FrameStalls]
  | data =>
      apply quiet_outcome
      · exact dataWithoutPreamble_quiet waiting unset
      · simp_all [XmacRun.FrameStalls]
  | ack =>
      apply quiet_outcome
      · exact quiet
      · simp_all [XmacRun.FrameStalls]
  | ack2 =>
      apply quiet_outcome
      · constructor <;> simp_all
      · simp_all [XmacRun.FrameStalls]

theorem handleCcaLost_quiet (state : mac.macState = .ccaLost)
    (waiting : mac.pending = {.ccaTimeout}) (unset : mac.transmissionState = .undefined) :
    Guarded AnyFault Quiet (mac.handleCcaLost params now rand (.frame frame)) := by
  have quiet : Quiet mac := by constructor <;> simp_all
  obtain ⟨kind, pkt⟩ := frame
  cases kind with
  | preamble =>
      simp only [handleCcaLost]
      split
      · exact contend_quiet waiting unset
      · exact quiet
  | data => exact dataWithoutPreamble_quiet waiting unset
  | ack => exact quiet
  | ack2 => exact quiet

theorem handleCca2_quiet (state : mac.macState = .cca2)
    (waiting : mac.pending = {.cca2Timeout} ∨ mac.pending = {.cca2Timeout, .dataTimeout})
    (unset : mac.transmissionState = .undefined) :
    Guarded AnyFault Quiet (mac.handleCca2 params now rand (.frame frame)) := by
  have quiet : Quiet mac := by constructor <;> simp_all
  obtain ⟨kind, pkt⟩ := frame
  cases kind with
  | preamble => exact quiet
  | data =>
      simp only [handleCca2]
      split
      · rw [guarded_bind, guarded_ok]
        rcases waiting with alone | both <;> constructor <;> simp_all
      · rw [guarded_bind]
        apply partial_scheduleAt
        rcases waiting with alone | both <;> constructor <;> simp_all
  | ack => exact quiet
  | ack2 =>
      simp only [handleCca2]
      split
      · rw [guarded_bind]
        apply partial_scheduleAt
        apply goToSleep_quiet
        · rcases waiting with alone | both <;> simp_all <;> decide
        · exact unset
      · exact quiet

theorem handleWaitData_outcome (state : mac.macState = .waitData)
    (waiting : mac.pending = {.dataTimeout}) (unset : mac.transmissionState = .undefined) :
    Guarded AnyFault (Outcome (XmacRun.FrameStalls params mac frame))
      (mac.handleWaitData params now rand (.frame frame)) := by
  have quiet : Quiet mac := by constructor <;> simp_all
  obtain ⟨kind, pkt⟩ := frame
  cases kind with
  | preamble =>
      apply quiet_outcome
      · simp only [handleWaitData]
        split
        · split
          · apply partial_scheduleAt
            constructor <;> simp_all
          · exact quiet
        · exact quiet
      · simp_all [XmacRun.FrameStalls]
  | data =>
      simp only [handleWaitData, handleData]
      split
      case isTrue answers =>
        apply stalled_outcome
        · apply partial_setRadioMode
          intro radio
          constructor <;> simp_all [acceptData]
        · exact .inr ⟨state, rfl, answers⟩
      case isFalse silent =>
        apply quiet_outcome
        · split
          · rw [guarded_bind]
            apply partial_wakeupSoon
            intro time
            apply goToSleep_quiet <;> simp_all [acceptData]
          · rw [guarded_bind]
            apply partial_scheduleAt
            constructor <;> simp_all [acceptData]
        · simp_all [XmacRun.FrameStalls]
  | ack =>
      apply quiet_outcome
      · exact quiet
      · simp_all [XmacRun.FrameStalls]
  | ack2 =>
      apply quiet_outcome
      · exact quiet
      · simp_all [XmacRun.FrameStalls]

theorem handleInState_frame_outcome (quiet : Quiet mac) :
    Guarded AnyFault (Outcome (XmacRun.FrameStalls params mac frame))
      (mac.handleInState params now rand (.frame frame)) := by
  obtain ⟨timers, unset⟩ := quiet
  have calm : mac.macState ≠ .cca → mac.macState ≠ .waitData →
      ¬ XmacRun.FrameStalls params mac frame := by
    intro notCca notWaitData stalls
    rcases stalls with ⟨state, -⟩ | ⟨state, -⟩
    · exact notCca state
    · exact notWaitData state
  unfold handleInState
  cases state : mac.macState <;> rw [state] at timers calm
  case cca => exact handleCca_outcome state (List.mem_singleton.mp timers) unset
  case ccaLost =>
    exact quiet_outcome (handleCcaLost_quiet state (List.mem_singleton.mp timers) unset)
      (calm nofun nofun)
  case cca2 =>
    exact quiet_outcome (handleCca2_quiet state (List.mem_pair.mp timers) unset)
      (calm nofun nofun)
  case waitData => exact handleWaitData_outcome state (List.mem_singleton.mp timers) unset
  case init => exact trivial
  case sleep => exact trivial
  case sendPreamble => exact trivial
  all_goals cases timers

theorem handleCcaTimeout_quiet (state : mac.macState = .cca) (idle : mac.pending = ∅)
    (unset : mac.transmissionState = .undefined) :
    Guarded AnyFault Quiet (mac.handleCcaTimeout params now rand) := by
  unfold handleCcaTimeout
  split
  · rw [guarded_bind]
    apply partial_scheduleAt
    apply goToSleep_quiet <;> simp_all
  · split
    · rw [guarded_bind]
      apply partial_setRadioMode
      intro radio
      apply partial_scheduleAt
      constructor <;> simp_all
    · apply partial_scheduleAt
      constructor <;> simp_all

/-- `mac` is the layer without the timer that has expired. -/
theorem handleInState_timer_outcome {timer : Timer}
    (waited : ∃ arming ∈ mac.macState.quietArmings,
      timer ∈ arming ∧ mac.pending = arming.erase timer)
    (unset : mac.transmissionState = .undefined) :
    Guarded AnyFault
      (Outcome (mac.macState = .sendPreamble ∧ timer = .stopPreambles ∨
        mac.macState = .cca2 ∧ timer = .cca2Timeout))
      (mac.handleInState params now rand (.self timer)) := by
  obtain ⟨arming, among, pending, rest⟩ := waited
  unfold handleInState
  cases state : mac.macState <;> rw [state] at among
  case init =>
    obtain rfl := List.mem_singleton.mp among
    obtain rfl := Finset.mem_singleton.mp pending
    apply quiet_outcome
    · simp only [handleInit]
      rw [guarded_bind]
      apply partial_setRadioMode
      intro radio
      apply partial_scheduleAt
      constructor <;> simp_all
    · simp
  case sleep =>
    obtain rfl := List.mem_singleton.mp among
    obtain rfl := Finset.mem_singleton.mp pending
    apply quiet_outcome
    · simp only [handleSleep]
      rw [guarded_bind]
      apply partial_scheduleAt
      rw [guarded_bind]
      apply partial_setRadioMode
      intro radio
      constructor <;> simp_all
    · simp
  case cca =>
    obtain rfl := List.mem_singleton.mp among
    obtain rfl := Finset.mem_singleton.mp pending
    exact quiet_outcome (handleCcaTimeout_quiet state rest unset) (by simp)
  case ccaLost =>
    obtain rfl := List.mem_singleton.mp among
    obtain rfl := Finset.mem_singleton.mp pending
    apply quiet_outcome
    · simp only [handleCcaLost]
      rw [guarded_bind]
      apply partial_scheduleAt
      apply goToSleep_quiet <;> simp_all
    · simp
  case cca2 =>
    have either : timer = .cca2Timeout ∧ mac.pending ⊆ {.dataTimeout} ∨
        timer = .dataTimeout ∧ mac.pending = {.cca2Timeout} := by
      rcases List.mem_pair.mp among with rfl | rfl
      · obtain rfl := Finset.mem_singleton.mp pending
        exact .inl ⟨rfl, rest.trans_subset (by decide)⟩
      · rcases Finset.mem_insert.mp pending with rfl | data
        · exact .inl ⟨rfl, rest.trans_subset (by decide)⟩
        · obtain rfl := Finset.mem_singleton.mp data
          exact .inr ⟨rfl, rest.trans (by decide)⟩
    rcases either with ⟨rfl, waiting⟩ | ⟨rfl, waiting⟩
    · have none : mac.pending.erase .dataTimeout = ∅ := by
        rwa [Finset.erase_eq_empty_iff, ← Finset.subset_singleton_iff]
      apply stalled_outcome
      · apply partial_setRadioMode
        intro radio
        constructor <;> simp_all
      · exact .inr ⟨rfl, rfl⟩
    · apply quiet_outcome
      · simp only [handleCca2]
        rw [guarded_bind]
        apply partial_wakeupSoon
        intro time
        apply goToSleep_quiet
        · simp_all
          decide
        · exact unset
      · simp
  case waitData =>
    obtain rfl := List.mem_singleton.mp among
    obtain rfl := Finset.mem_singleton.mp pending
    apply quiet_outcome
    · simp only [handleWaitData]
      rw [guarded_bind]
      apply partial_wakeupSoon
      intro time
      apply goToSleep_quiet <;> simp_all
    · simp
  case sendPreamble =>
    obtain rfl := List.mem_singleton.mp among
    obtain rfl := Finset.mem_singleton.mp pending
    apply stalled_outcome
    · constructor <;> simp_all
    · exact .inl ⟨rfl, rfl⟩
  all_goals cases among

theorem handleUpperPacket_quiet {msg : NetwPkt} (quiet : Quiet mac) :
    Guarded AnyFault Quiet (mac.handleUpperPacket params now rand msg) := by
  unfold handleUpperPacket addToQueue
  cases full : decide (params.queueLength ≤ mac.macQueue.length) with
  | true =>
      rw [if_pos (of_decide_eq_true full)]
      exact quiet
  | false =>
      rw [if_neg (of_decide_eq_false full)]
      dsimp only
      split
      case isTrue asleep =>
        obtain ⟨timers, unset⟩ := quiet
        rw [asleep.2] at timers
        apply partial_scheduleAt
        constructor <;> simp_all
      case isFalse => exact ⟨quiet.timers, quiet.unset⟩

/-! ## Signals -/

theorem receiveSignal_eq_self {signal : Signal} (unset : mac.transmissionState = .undefined)
    (state : mac.macState ≠ .waitTxDataOver ∧ mac.macState ≠ .waitAckTx ∧
      mac.macState ≠ .waitAck2Tx ∧ mac.macState ≠ .sendPreambleTxEnd) :
    mac.receiveSignal now signal = .ok mac := by
  cases signal with
  | radioModeChanged radioMode =>
      simp only [receiveSignal]
      split
      · split <;> simp_all
      · rfl
  | transmissionStateChanged newRadioTransmissionState =>
      simp [receiveSignal, unset]

theorem receiveSignals_eq_self {signals : List Signal}
    (ignored : ∀ signal, mac.receiveSignal now signal = .ok mac) :
    signals.foldlM (receiveSignal now) mac = .ok mac := by
  induction signals with
  | nil => rfl
  | cons signal signals ih =>
      rw [List.foldlM_cons, ignored signal]
      exact ih

end Mac

theorem Quiet.receiveSignal {mac : Mac} {now : Time} (quiet : Quiet mac) (signal : Signal) :
    mac.receiveSignal now signal = .ok mac := by
  have timers := quiet.timers
  apply Mac.receiveSignal_eq_self quiet.unset
  refine ⟨?_, ?_, ?_, ?_⟩
  all_goals
    intro state
    rw [state] at timers
    cases timers

theorem Quiet.alive {mac : Mac} (quiet : Quiet mac) : mac.Alive := by
  have timers := quiet.timers
  left
  rw [Finset.nonempty_iff_ne_empty]
  intro none
  rw [none] at timers
  cases state : mac.macState <;> rw [state] at timers <;> revert timers <;> decide

theorem Stalled.not_alive {mac : Mac} (stalled : Stalled mac) : ¬ mac.Alive := by
  rintro (pending | ⟨signal, now, next, -, received, pending⟩)
  · rw [stalled.timers] at pending
    exact Finset.not_nonempty_empty pending
  · have ignored : mac.receiveSignal now signal = .ok mac := by
      apply Mac.receiveSignal_eq_self stalled.unset
      rcases stalled.state with state | state | state <;> simp [state]
    rw [ignored] at received
    cases received
    rw [stalled.timers] at pending
    exact Finset.not_nonempty_empty pending

/-! ## Runs -/

namespace XmacRun

variable {params : Params} {run : XmacRun} {input : Input}

theorem handleFrame_outcome {mac : Mac} {now : Time} {rand : ℚ} {frame : Frame}
    (quiet : Quiet mac) :
    Guarded Mac.AnyFault (Outcome (FrameStalls params mac frame))
      (mac.handleSelfMessage params now rand (.frame frame)) := by
  obtain ⟨pendingPreambles, noted⟩ := Mac.notePreamble_eq params mac (.frame frame)
  unfold Mac.handleSelfMessage
  rw [noted]
  exact @Mac.handleInState_frame_outcome params now rand
    { mac with pendingPreambles := pendingPreambles } frame ⟨quiet.timers, quiet.unset⟩

theorem perform_outcome (quiet : Quiet run.mac) (possible : run.Possible .signalled input) :
    Guarded Mac.AnyFault (Outcome (run.Stalls params input))
      (run.perform .signalled params input) := by
  have occurs := possible.occurs
  obtain ⟨time, rand, event⟩ := input
  cases event with
  | upper msg => exact Mac.quiet_outcome (Mac.handleUpperPacket_quiet quiet) id
  | lower frame bitError =>
      cases bitError with
      | true => exact ⟨fun ⟨received, _⟩ => (nomatch received), fun _ => quiet⟩
      | false =>
          refine (handleFrame_outcome quiet).mono fun next outcome => ?_
          exact ⟨fun stalls => outcome.stalled stalls.2,
            fun runs => outcome.quiet fun stalls => runs ⟨rfl, stalls⟩⟩
  | self timer =>
      have arrived : run.mac.timers.arrival timer = some time := by
        rcases occurs with arrived | ⟨other, -⟩
        · exact arrived
        · cases other
      show Guarded _ _ ((run.mac.cancelEvent timer).handleInState params time rand (.self timer))
      apply Mac.handleInState_timer_outcome
      · exact ⟨run.mac.pending, quiet.timers, TimerTable.mem_pending.mpr ⟨time, arrived⟩,
          TimerTable.pending_cancel _ _⟩
      · exact quiet.unset
  | putBack =>
      simp only [perform]
      split
      · rename_i none
        refine ⟨fun ⟨pkt, among, _⟩ => ?_, fun _ => quiet⟩
        rw [none] at among
        cases among
      · rename_i pkt rest queue
        have earlier : Quiet { run.mac with putBack := rest } := ⟨quiet.timers, quiet.unset⟩
        refine (handleFrame_outcome earlier).mono fun next outcome => ?_
        refine ⟨fun ⟨other, among, stalls⟩ => outcome.stalled ?_,
          fun runs => outcome.quiet fun stalls => runs ⟨pkt, ?_, stalls⟩⟩
        · rw [queue] at among
          cases among
          exact stalls
        · rw [queue]
          rfl
  | radio event =>
      have still : Quiet { run.mac with radio := (run.mac.radio.after event).1 } :=
        ⟨quiet.timers, quiet.unset⟩
      have ignored : run.perform .signalled params ⟨time, rand, .radio event⟩ =
          .ok { run.mac with radio := (run.mac.radio.after event).1 } :=
        Mac.receiveSignals_eq_self still.receiveSignal
      rw [ignored]
      exact ⟨fun stalls => stalls.elim, fun _ => still⟩

end XmacRun

/-- The states that a run passes through. -/
def visited (steps : List Step) : List XmacRun := .start :: steps.map Step.after

theorem Run.quiet {params : Params} {steps : List Step} {run : XmacRun}
    (reached : Run .signalled params steps run)
    (free : ∀ step ∈ steps, ¬ step.before.Stalls params step.input) : Quiet run.mac := by
  induction reached with
  | start => exact ⟨by decide, rfl⟩
  | @step steps run input mac earlier possible performed ih =>
      have quiet := ih fun step among => free step (List.mem_append_left _ among)
      have runs := free ⟨run, input, ⟨input.time, mac⟩⟩ (by simp)
      exact ((XmacRun.perform_outcome quiet possible).of_ok performed).quiet runs

theorem Run.mem_visited {completions : Completions} {params : Params} {steps : List Step}
    {run : XmacRun} (reached : Run completions params steps run) : run ∈ visited steps := by
  cases reached with
  | start => exact List.mem_cons_self
  | step earlier possible performed => simp [visited]

/-- A run passes through live states only, exactly when none of its steps ends the
preambles or a backoff, or has a frame to answer. -/
theorem alive_iff_none_stalls {params : Params} {steps : List Step} {run : XmacRun}
    (reached : Run .signalled params steps run) :
    (∀ state ∈ visited steps, state.mac.Alive) ↔
      ∀ step ∈ steps, ¬ step.before.Stalls params step.input := by
  induction reached with
  | start =>
      have alive : (XmacRun.start).mac.Alive := Quiet.alive ⟨by decide, rfl⟩
      simpa [visited] using alive
  | @step steps run input mac earlier possible performed ih =>
      have later : visited (steps ++ [⟨run, input, ⟨input.time, mac⟩⟩]) =
          visited steps ++ [⟨input.time, mac⟩] := by
        simp [visited]
      rw [later, List.forall_mem_append, List.forall_mem_append, ih, List.forall_mem_singleton,
        List.forall_mem_singleton]
      refine and_congr_right fun free => ?_
      have outcome := (XmacRun.perform_outcome (earlier.quiet free) possible).of_ok performed
      constructor
      · intro alive stalls
        exact (outcome.stalled stalls).not_alive alive
      · intro runs
        exact (outcome.quiet runs).alive

def defaults : Params where
  address := 1
  queueLength := 20
  slotDuration := 1
  checkInterval := 1 / 100
  useMacAcks := false
  maxTxAttempts := 2
  xmac := false

def channelClear : List Input :=
  [⟨0, 0, .upper ⟨2, 7⟩⟩, ⟨0, 0, .self .startXmac⟩, ⟨0, 0, .radio .switched⟩,
    ⟨0, 0, .self .wakeup⟩, ⟨0, 0, .radio .switched⟩, ⟨1 / 100, 0, .self .ccaTimeout⟩,
    ⟨1 / 100, 0, .radio .switched⟩]

theorem channelClear_isSome : (simulate .signalled defaults channelClear).isSome := by
  decide +kernel

theorem alive_iff_none_stalls_channelClear :
    (∀ state ∈ visited ((simulate .signalled defaults channelClear).get channelClear_isSome).1,
        state.mac.Alive) ↔
      ∀ step ∈ ((simulate .signalled defaults channelClear).get channelClear_isSome).1,
        ¬ step.before.Stalls defaults step.input :=
  alive_iff_none_stalls (simulate_run (Option.some_get channelClear_isSome).symm)

def preamblesOver : List Input := channelClear ++ [⟨101 / 100, 0, .self .stopPreambles⟩]

theorem preamblesOver_isSome : (simulate .signalled defaults preamblesOver).isSome := by
  decide +kernel

theorem stuck_after_preambles :
    ∃ (params : Params) (steps : List Step) (run : XmacRun),
      0 < params.slotDuration ∧ 0 < params.checkInterval ∧ Run .signalled params steps run ∧
        ∃ state ∈ visited steps, ¬ state.mac.Alive := by
  have reached := simulate_run (Option.some_get preamblesOver_isSome).symm
  refine ⟨defaults, _, _, by decide +kernel, by decide +kernel, reached, _, reached.mem_visited,
    Stalled.not_alive ⟨by decide +kernel, .inl (by decide +kernel), by decide +kernel⟩⟩

end SyncFanet.Xmac
