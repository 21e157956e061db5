import SyncFanet.Library.Guarded
import SyncFanet.Xmac.Runs

/-!
# What each state of the X-MAC layer waits for

The timers that are pending in a state, the states in which the radio may be in receiver
mode, and the states that work on the packet at the front of the queue.
-/

set_option autoImplicit false

namespace SyncFanet.Xmac

@[simp] def MacState.armings : MacState → List (Finset Timer)
  | .init => [{.startXmac}]
  | .sleep => [{.wakeup}]
  | .cca => [{.ccaTimeout}]
  | .ccaLost => [{.ccaTimeout}, ∅]
  | .cca2 => [{.cca2Timeout}, {.cca2Timeout, .dataTimeout}]
  | .waitData => [{.dataTimeout}]
  | .sendPreamble => [{.stopPreambles}]
  | .sendPreambleTxEnd | .waitAck2 => [{.stopPreambles, .ackTimeout}]
  | .waitAck => [{.ackTimeout}]
  | _ => [∅]

/-- The radio is in receiver mode, or on its way to it. -/
@[simp] def MacState.listens : MacState → Bool
  | .cca | .ccaLost | .cca2 | .waitData | .waitAck | .waitAck2 => true
  | _ => false

@[simp] def MacState.sends : MacState → Bool
  | .sendPreamble | .sendPreambleTxEnd | .waitAck2 | .sendData | .sendData2
  | .waitTxDataOver | .waitAck => true
  | _ => false

def Radio.Receives (radio : Radio) : Prop :=
  radio.mode = .receiver ∨ radio.next = some .receiver

structure Armed (mac : Mac) : Prop where
  timers : mac.pending ∈ mac.macState.armings
  radio : mac.radio.Receives → mac.macState.listens = true
  queue : mac.macState.sends = true → mac.macQueue ≠ []

def Fault.Foreign : Fault → Prop
  | .scheduledInThePast _ | .radioSwitching => True
  | _ => False

/-! ## Rules -/

namespace Mac

variable {post : Mac → Prop}

variable {prevMacState : MacState} {frame : Frame} {timer : Timer} {between : Mac → Mac}
  {delay : Time}

theorem guarded_scheduleAt {mac : Mac} {now : Time} (free : timer ∉ mac.pending)
    (armed : post (mac.arm timer (now + delay))) :
    Guarded Fault.Foreign post (mac.scheduleAt now delay timer) := by
  have unscheduled : mac.timers.arrival timer = none := TimerTable.arrival_eq_none.mpr free
  unfold scheduleAt
  split
  · exact trivial
  · simpa [unscheduled] using armed

theorem guarded_setRadioMode {mac : Mac} {mode : RadioMode}
    (switched : ∀ radio : Radio, (radio.Receives → mode = .receiver) →
      post { mac with radio := radio }) :
    Guarded Fault.Foreign post (mac.setRadioMode mode) := by
  unfold setRadioMode
  split
  · exact trivial
  · rename_i idle
    split
    · rename_i same
      refine switched mac.radio fun receives => ?_
      rcases receives with receiver | switching
      · rw [same, receiver]
      · simp [switching] at idle
    · refine switched _ fun receives => ?_
      rcases receives with receiver | switching
      · cases receiver
      · exact Option.some.inj switching

/-! ## Rules for steps that may fail -/

variable {params : Params} {now : Time} {rand : ℚ} {mac : Mac}

def AnyFault (_ : Fault) : Prop := True

theorem partial_scheduleAt {mac : Mac} {now : Time} (armed : post (mac.arm timer (now + delay))) :
    Guarded AnyFault post (mac.scheduleAt now delay timer) := by
  unfold scheduleAt
  split
  · exact trivial
  · split
    · exact trivial
    · exact armed

theorem partial_setRadioMode {mac : Mac} {mode : RadioMode}
    (switched : ∀ radio : Radio, post { mac with radio := radio }) :
    Guarded AnyFault post (mac.setRadioMode mode) := by
  unfold setRadioMode
  split
  · exact trivial
  · split
    · exact switched mac.radio
    · exact switched _

theorem partial_wakeupSoon (armed : ∀ time, post (mac.arm .wakeup time)) :
    Guarded AnyFault post (mac.wakeupSoon params now rand) := by
  unfold wakeupSoon
  split
  · exact partial_scheduleAt (armed _)
  · exact partial_scheduleAt (armed _)

theorem partial_goToSleep
    (asleep : ∀ radio : Radio, post { mac with
      macState := .sleep
      prevMacState := prevMacState
      radio := radio }) :
    Guarded AnyFault post (mac.goToSleep prevMacState) :=
  partial_setRadioMode asleep

theorem partial_sleepAt
    (asleep : ∀ radio : Radio, post { between (mac.arm .wakeup (now + delay)) with
      macState := .sleep
      prevMacState := prevMacState
      radio := radio }) :
    Guarded AnyFault post (do
      let mac ← mac.scheduleAt now delay .wakeup
      (between mac).goToSleep prevMacState) := by
  rw [guarded_bind]
  apply partial_scheduleAt
  exact partial_goToSleep asleep

theorem partial_sleepSoon
    (asleep : ∀ (radio : Radio) (time : Time), post { between (mac.arm .wakeup time) with
      macState := .sleep
      prevMacState := prevMacState
      radio := radio }) :
    Guarded AnyFault post (do
      let mac ← mac.wakeupSoon params now rand
      (between mac).goToSleep prevMacState) := by
  rw [guarded_bind]
  apply partial_wakeupSoon
  intro time
  exact partial_goToSleep fun radio => asleep radio time

theorem partial_leaveQueue
    (left : ∀ pkt rest, mac.macQueue = pkt :: rest → ∀ radio time,
      post { ({ mac with macQueue := rest, preambleCont := 0 }).arm .wakeup time with
        macState := .sleep
        prevMacState := prevMacState
        radio := radio }) :
    Guarded AnyFault post (mac.leaveQueue params now rand prevMacState) := by
  unfold leaveQueue popFront
  cases queue : mac.macQueue with
  | nil => exact trivial
  | cons pkt rest =>
      rw [guarded_bind, guarded_ok]
      exact partial_sleepSoon (left pkt rest queue)

/-! ## Transitions that several states share -/

theorem goToSleep_armed (waking : mac.pending = {.wakeup}) :
    Guarded Fault.Foreign Armed (mac.goToSleep prevMacState) := by
  apply guarded_setRadioMode
  intro radio asleep
  constructor <;> simp_all

theorem guarded_wakeupSoon (free : .wakeup ∉ mac.pending)
    (armed : ∀ time, post (mac.arm .wakeup time)) :
    Guarded Fault.Foreign post (mac.wakeupSoon params now rand) := by
  unfold wakeupSoon
  split
  · exact guarded_scheduleAt free (armed _)
  · exact guarded_scheduleAt free (armed _)

theorem sleepAt_armed (free : .wakeup ∉ mac.pending)
    (waking : (between (mac.arm .wakeup (now + delay))).pending = {.wakeup}) :
    Guarded Fault.Foreign Armed (do
      let mac ← mac.scheduleAt now delay .wakeup
      (between mac).goToSleep prevMacState) := by
  rw [guarded_bind]
  exact guarded_scheduleAt free (goToSleep_armed waking)

theorem sleepSoon_armed (free : .wakeup ∉ mac.pending)
    (waking : ∀ time, (between (mac.arm .wakeup time)).pending = {.wakeup}) :
    Guarded Fault.Foreign Armed (do
      let mac ← mac.wakeupSoon params now rand
      (between mac).goToSleep prevMacState) := by
  rw [guarded_bind]
  exact guarded_wakeupSoon free fun time => goToSleep_armed (waking time)

theorem contend_armed {pkt : XMacPkt} (waiting : mac.pending ⊆ {.ccaTimeout}) :
    Guarded Fault.Foreign Armed (do
      let next ← mac.contend params now rand prevMacState pkt
      .ok (next.cancelEvent .ccaTimeout)) := by
  have none : mac.pending.erase .ccaTimeout = ∅ := by
    rwa [Finset.erase_eq_empty_iff, ← Finset.subset_singleton_iff]
  rw [guarded_bind]
  apply guarded_scheduleAt
  · intro pending
    cases Finset.mem_singleton.mp (waiting pending)
  · constructor
    · simp [Finset.erase_insert_of_ne, show mac.timers.pending.erase .ccaTimeout = ∅ from none]
    · simp
    · simp

theorem dataTimeoutAfter_armed {mac : Mac} (state : mac.macState = .waitData)
    (idle : mac.pending = ∅) :
    Guarded Fault.Foreign Armed (mac.dataTimeoutAfter params now) := by
  apply guarded_scheduleAt
  · simp_all
  · constructor <;> simp_all

theorem leaveQueue_armed (holds : mac.macQueue ≠ []) (idle : mac.pending = ∅) :
    Guarded Fault.Foreign Armed (mac.leaveQueue params now rand prevMacState) := by
  unfold leaveQueue popFront
  cases queue : mac.macQueue with
  | nil => exact absurd queue holds
  | cons pkt rest =>
      rw [guarded_bind, guarded_ok]
      apply sleepSoon_armed <;> simp_all

/-! ## The states -/

theorem handleInit_armed (idle : mac.pending = ∅) :
    Guarded Fault.Foreign Armed (mac.handleInit params now rand (.self .startXmac)) := by
  unfold handleInit
  rw [guarded_bind]
  apply guarded_setRadioMode
  intro radio asleep
  apply guarded_scheduleAt
  · simp_all
  · constructor <;> simp_all

theorem handleSleep_armed (idle : mac.pending = ∅) :
    Guarded Fault.Foreign Armed (mac.handleSleep params now (.self .wakeup)) := by
  unfold handleSleep
  rw [guarded_bind]
  apply guarded_scheduleAt
  · simp_all
  · rw [guarded_bind]
    apply guarded_setRadioMode
    intro radio _
    constructor <;> simp_all

theorem handleCcaTimeout_armed (state : mac.macState = .cca) (idle : mac.pending = ∅) :
    Guarded Fault.Foreign Armed (mac.handleCcaTimeout params now rand) := by
  unfold handleCcaTimeout
  split
  · apply sleepAt_armed <;> simp_all
  · split
    · rw [guarded_bind]
      apply guarded_setRadioMode
      intro radio transmits
      apply guarded_scheduleAt
      · simp_all
      · constructor <;> simp_all
    · apply guarded_scheduleAt
      · simp_all
      · constructor <;> simp_all

theorem dataWithoutPreamble_armed {pkt : XMacPkt} (waiting : mac.pending ⊆ {.ccaTimeout}) :
    Guarded Fault.Foreign Armed (mac.dataWithoutPreamble params now prevMacState pkt) := by
  unfold dataWithoutPreamble
  rw [guarded_bind]
  refine (dataTimeoutAfter_armed rfl ?_).mono fun next armed => ?_
  · show (mac.timers.cancel .ccaTimeout).pending = ∅
    rwa [TimerTable.pending_cancel, Finset.erase_eq_empty_iff, ← Finset.subset_singleton_iff]
  · exact ⟨armed.timers, armed.radio, armed.queue⟩

theorem handleCca_frame_armed (state : mac.macState = .cca)
    (waiting : mac.pending = {.ccaTimeout}) :
    Guarded Fault.Foreign Armed (mac.handleCca params now rand (.frame frame)) := by
  obtain ⟨kind, pkt⟩ := frame
  cases kind with
  | preamble =>
      simp only [handleCca]
      split
      · split
        · apply guarded_setRadioMode
          intro radio transmits
          constructor <;> simp_all
        · apply sleepAt_armed <;> simp_all
      · split
        · exact contend_armed waiting.subset
        · constructor <;> simp_all
  | data => exact dataWithoutPreamble_armed waiting.subset
  | ack => constructor <;> simp_all
  | ack2 => constructor <;> simp_all

theorem handleCcaLost_timeout_armed (idle : mac.pending = ∅) :
    Guarded Fault.Foreign Armed (mac.handleCcaLost params now rand (.self .ccaTimeout)) := by
  simp only [handleCcaLost]
  apply sleepAt_armed <;> simp_all

theorem handleCcaLost_frame_armed (armed : Armed mac) (waiting : mac.pending ⊆ {.ccaTimeout}) :
    Guarded Fault.Foreign Armed (mac.handleCcaLost params now rand (.frame frame)) := by
  obtain ⟨kind, pkt⟩ := frame
  cases kind with
  | preamble =>
      simp only [handleCcaLost]
      split
      · exact contend_armed waiting
      · exact armed
  | data => exact dataWithoutPreamble_armed waiting
  | ack => exact armed
  | ack2 => exact armed

theorem handleCca2_timeout_armed (waiting : mac.pending ⊆ {.dataTimeout}) :
    Guarded Fault.Foreign Armed (mac.handleCca2 params now rand (.self .cca2Timeout)) := by
  have none : mac.pending.erase .dataTimeout = ∅ := by
    rwa [Finset.erase_eq_empty_iff, ← Finset.subset_singleton_iff]
  apply guarded_setRadioMode
  intro radio transmits
  constructor <;> simp_all

theorem handleCca2_dataTimeout_armed (waiting : mac.pending = {.cca2Timeout}) :
    Guarded Fault.Foreign Armed (mac.handleCca2 params now rand (.self .dataTimeout)) := by
  simp only [handleCca2]
  apply sleepSoon_armed
  · simp_all
  · simp_all
    decide

theorem handleCca2_frame_armed (armed : Armed mac) (state : mac.macState = .cca2)
    (waiting : mac.pending = {.cca2Timeout} ∨ mac.pending = {.cca2Timeout, .dataTimeout}) :
    Guarded Fault.Foreign Armed (mac.handleCca2 params now rand (.frame frame)) := by
  obtain ⟨kind, pkt⟩ := frame
  cases kind with
  | preamble => exact armed
  | data =>
      simp only [handleCca2]
      split
      · rw [guarded_bind, guarded_ok]
        rcases waiting with alone | both <;> constructor <;> simp_all
      · rename_i free
        rw [guarded_bind]
        apply guarded_scheduleAt
        · exact free
        · rcases waiting with alone | both <;> constructor <;> simp_all
  | ack => exact armed
  | ack2 =>
      simp only [handleCca2]
      split
      · rw [guarded_bind]
        apply guarded_scheduleAt
        · rcases waiting with alone | both <;> simp_all
        · apply goToSleep_armed
          rcases waiting with alone | both <;> simp_all <;> decide
      · exact armed

theorem handleSendPreamble_armed (state : mac.macState = .sendPreamble)
    (holds : mac.macQueue ≠ []) (transmits : ¬ mac.radio.Receives)
    (waiting : timer = .sendPreamble ∧ mac.pending = {.stopPreambles} ∨
      timer = .stopPreambles ∧ mac.pending = ∅) :
    Guarded Fault.Foreign Armed (mac.handleSendPreamble params now (.self timer)) := by
  rcases waiting with ⟨rfl, waiting⟩ | ⟨rfl, idle⟩
  · simp only [handleSendPreamble, front, Mac.sendPreamble, sendDown]
    cases queue : mac.macQueue with
    | nil => exact absurd queue holds
    | cons pkt rest =>
        rw [guarded_bind, guarded_ok, guarded_bind]
        apply guarded_scheduleAt
        · simp_all
        · constructor
          · simp_all
            decide
          · intro receives
            exact absurd receives transmits
          · simp_all
  · constructor <;> simp_all

theorem handleSendPreambleTxEnd_armed (holds : mac.macQueue ≠ [])
    (waiting : mac.pending = {.stopPreambles, .ackTimeout}) :
    Guarded Fault.Foreign Armed (mac.handleSendPreambleTxEnd (.self .preambleTxOver)) := by
  apply guarded_setRadioMode
  intro radio _
  constructor <;> simp_all

theorem handleSendData_armed (holds : mac.macQueue ≠ []) (idle : mac.pending = ∅)
    (transmits : ¬ mac.radio.Receives) (resend : timer = .sendPreamble ∨ timer = .resendData) :
    Guarded Fault.Foreign Armed (mac.handleSendData (.self timer)) := by
  have sent : Guarded Fault.Foreign Armed (mac.handleSendData (.self .resendData)) := by
    simp only [handleSendData, sendDataPacket, front, sendDown]
    cases queue : mac.macQueue with
    | nil => exact absurd queue holds
    | cons pkt rest =>
        constructor
        · simp_all
        · intro receives
          exact absurd receives transmits
        · simp_all
  rcases resend with rfl | rfl
  · exact sent
  · exact sent

theorem handleWaitTxDataOver_armed (holds : mac.macQueue ≠ []) (idle : mac.pending = ∅) :
    Guarded Fault.Foreign Armed
      (mac.handleWaitTxDataOver params now rand (.self .dataTxOver)) := by
  simp only [handleWaitTxDataOver]
  split
  · rw [guarded_bind]
    apply guarded_setRadioMode
    intro radio _
    apply guarded_scheduleAt
    · simp_all
    · constructor <;> simp_all
  · exact leaveQueue_armed holds idle

theorem handleWaitAck_timeout_armed (holds : mac.macQueue ≠ []) (idle : mac.pending = ∅) :
    Guarded Fault.Foreign Armed (mac.handleWaitAck params now rand (.self .ackTimeout)) := by
  simp only [handleWaitAck]
  split
  · rw [guarded_bind]
    apply guarded_scheduleAt
    · simp_all
    · apply guarded_setRadioMode
      intro radio transmits
      constructor <;> simp_all
  · rw [front, guarded_bind]
    cases queue : mac.macQueue with
    | nil => exact absurd queue holds
    | cons pkt rest => exact leaveQueue_armed (by simp) idle

theorem handleWaitAck_frame_armed (armed : Armed mac) (state : mac.macState = .waitAck)
    (waiting : mac.pending = {.ackTimeout}) :
    Guarded Fault.Foreign Armed (mac.handleWaitAck params now rand (.frame frame)) := by
  have holds : mac.macQueue ≠ [] := armed.queue (by rw [state]; rfl)
  obtain ⟨kind, pkt⟩ := frame
  cases kind with
  | ack =>
      simp only [handleWaitAck]
      split
      · apply leaveQueue_armed
        · exact holds
        · simp_all
      · exact armed
  | preamble => exact armed
  | data => exact armed
  | ack2 => exact armed

theorem handleWaitData_timeout_armed (idle : mac.pending = ∅) :
    Guarded Fault.Foreign Armed (mac.handleWaitData params now rand (.self .dataTimeout)) := by
  simp only [handleWaitData]
  apply sleepSoon_armed <;> simp_all

theorem handleData_armed {pkt : XMacPkt} (waiting : mac.pending = {.dataTimeout}) :
    Guarded Fault.Foreign Armed (mac.handleData params now rand pkt) := by
  have idle : (mac.acceptData params pkt).pending = ∅ := by
    simp_all [acceptData]
  unfold handleData
  dsimp only
  generalize mac.acceptData params pkt = mac at idle ⊢
  split
  · apply guarded_setRadioMode
    intro radio transmits
    constructor <;> simp_all
  · split
    · apply sleepSoon_armed <;> simp_all
    · rw [guarded_bind]
      apply guarded_scheduleAt
      · simp_all
      · constructor <;> simp_all

theorem handleWaitData_frame_armed (armed : Armed mac) (waiting : mac.pending = {.dataTimeout}) :
    Guarded Fault.Foreign Armed (mac.handleWaitData params now rand (.frame frame)) := by
  obtain ⟨kind, pkt⟩ := frame
  cases kind with
  | preamble =>
      simp only [handleWaitData]
      split
      · split
        · apply guarded_scheduleAt
          · simp_all
          · constructor <;> simp_all
        · exact armed
      · exact armed
  | data => exact handleData_armed waiting
  | ack => exact armed
  | ack2 => exact armed

theorem handleSendAck_armed (idle : mac.pending = ∅) (transmits : ¬ mac.radio.Receives) :
    Guarded Fault.Foreign Armed (mac.handleSendAck params (.self .sendAck)) := by
  constructor
  · simp_all [sendMacAck, sendDown]
  · intro receives
    exact absurd receives transmits
  · simp

theorem handleWaitAckTx_armed (idle : mac.pending = ∅) :
    Guarded Fault.Foreign Armed (mac.handleWaitAckTx params now rand (.self .ackTxOver)) := by
  simp only [handleWaitAckTx]
  apply sleepSoon_armed <;> simp_all

theorem handleSendAck2_armed (idle : mac.pending = ∅) (transmits : ¬ mac.radio.Receives) :
    Guarded Fault.Foreign Armed (mac.handleSendAck2 params (.self .sendAck2)) := by
  constructor
  · simp_all [sendMacAck2, sendDown]
  · intro receives
    exact absurd receives transmits
  · simp

theorem handleWaitAck2Tx_armed (idle : mac.pending = ∅) :
    Guarded Fault.Foreign Armed (mac.handleWaitAck2Tx params now (.self .ack2TxOver)) := by
  simp only [handleWaitAck2Tx]
  rw [guarded_bind]
  apply guarded_setRadioMode
  intro radio _
  rw [if_neg (by simp_all)]
  exact dataTimeoutAfter_armed rfl idle

theorem handleWaitAck2_timeout_armed (holds : mac.macQueue ≠ [])
    (waiting : timer = .ackTimeout ∧ mac.pending = {.stopPreambles} ∨
      timer = .stopPreambles ∧ mac.pending = {.ackTimeout}) :
    Guarded Fault.Foreign Armed (mac.handleWaitAck2 params now (.self timer)) := by
  rcases waiting with ⟨rfl, waiting⟩ | ⟨rfl, waiting⟩
  · apply guarded_setRadioMode
    intro radio transmits
    constructor <;> simp_all
  · simp only [handleWaitAck2]
    rw [guarded_bind]
    apply guarded_setRadioMode
    intro radio transmits
    constructor <;> simp_all

theorem handleWaitAck2_frame_armed (armed : Armed mac) (state : mac.macState = .waitAck2)
    (waiting : mac.pending = {.stopPreambles, .ackTimeout}) :
    Guarded Fault.Foreign Armed (mac.handleWaitAck2 params now (.frame frame)) := by
  have holds : mac.macQueue ≠ [] := armed.queue (by rw [state]; rfl)
  have none : (mac.timers.pending.erase .ackTimeout).erase .stopPreambles = ∅ := by
    rw [show mac.timers.pending = _ from waiting]
    decide
  obtain ⟨kind, pkt⟩ := frame
  cases kind with
  | preamble =>
      simp only [handleWaitAck2, lostContention]
      split
      · split
        · apply guarded_setRadioMode
          intro radio transmits
          constructor <;> simp_all
        · split
          · apply dataTimeoutAfter_armed
            · rfl
            · simp_all
          · constructor <;> simp_all
      · exact armed
  | data => exact armed
  | ack => exact armed
  | ack2 =>
      simp only [handleWaitAck2]
      split
      · exact armed
      · apply guarded_setRadioMode
        intro radio transmits
        constructor <;> simp_all

/-! ## Every state -/

theorem notePreamble_eq (params : Params) (mac : Mac) (msg : Message) :
    ∃ pendingPreambles, mac.notePreamble params msg =
      { mac with pendingPreambles := pendingPreambles } := by
  unfold notePreamble
  split
  · split
    · exact ⟨_, rfl⟩
    · exact ⟨_, rfl⟩
  · exact ⟨_, rfl⟩

theorem transmits_of_deaf (armed : Armed mac) (deaf : mac.macState.listens = false) :
    ¬ mac.radio.Receives := by
  intro receives
  rw [armed.radio receives] at deaf
  cases deaf

theorem handleInState_frame_armed (armed : Armed mac) (listens : mac.macState.listens = true) :
    Guarded Fault.Foreign Armed (mac.handleInState params now rand (.frame frame)) := by
  have timers := armed.timers
  unfold handleInState
  cases state : mac.macState <;> rw [state] at listens timers
  case cca => exact handleCca_frame_armed state (by simpa using timers)
  case ccaLost =>
    apply handleCcaLost_frame_armed armed
    rw [MacState.armings, List.mem_pair] at timers
    rcases timers with timeout | none
    · exact timeout.subset
    · simp_all
  case cca2 => exact handleCca2_frame_armed armed state (by simpa using timers)
  case waitData => exact handleWaitData_frame_armed armed (by simpa using timers)
  case waitAck => exact handleWaitAck_frame_armed armed state (by simpa using timers)
  case waitAck2 => exact handleWaitAck2_frame_armed armed state (by simpa using timers)
  all_goals cases listens

theorem handleSelfMessage_frame_armed (armed : Armed mac) (listens : mac.macState.listens = true) :
    Guarded Fault.Foreign Armed (mac.handleSelfMessage params now rand (.frame frame)) := by
  obtain ⟨pendingPreambles, noted⟩ := notePreamble_eq params mac (.frame frame)
  unfold handleSelfMessage
  rw [noted]
  apply handleInState_frame_armed
  · exact ⟨armed.timers, armed.radio, armed.queue⟩
  · exact listens

theorem handleInState_timer_armed
    (waited : ∃ arming ∈ mac.macState.armings, timer ∈ arming ∧ mac.pending = arming.erase timer)
    (deaf : mac.macState.listens = false → ¬ mac.radio.Receives)
    (holds : mac.macState.sends = true → mac.macQueue ≠ [])
    (ended : mac.macState ≠ .sendPreambleTxEnd) :
    Guarded Fault.Foreign Armed (mac.handleInState params now rand (.self timer)) := by
  obtain ⟨arming, among, pending, rest⟩ := waited
  unfold handleInState
  cases state : mac.macState <;> rw [state] at among deaf holds ended
  case init =>
    obtain rfl := List.mem_singleton.mp among
    obtain rfl := Finset.mem_singleton.mp pending
    exact handleInit_armed rest
  case sleep =>
    obtain rfl := List.mem_singleton.mp among
    obtain rfl := Finset.mem_singleton.mp pending
    exact handleSleep_armed rest
  case cca =>
    obtain rfl := List.mem_singleton.mp among
    obtain rfl := Finset.mem_singleton.mp pending
    exact handleCcaTimeout_armed state rest
  case ccaLost =>
    rcases List.mem_pair.mp among with rfl | rfl
    · obtain rfl := Finset.mem_singleton.mp pending
      exact handleCcaLost_timeout_armed rest
    · cases Finset.notMem_empty _ pending
  case cca2 =>
    rcases List.mem_pair.mp among with rfl | rfl
    · obtain rfl := Finset.mem_singleton.mp pending
      exact handleCca2_timeout_armed (rest.trans_subset (by decide))
    · rcases Finset.mem_insert.mp pending with rfl | data
      · exact handleCca2_timeout_armed (rest.trans_subset (by decide))
      · obtain rfl := Finset.mem_singleton.mp data
        exact handleCca2_dataTimeout_armed (rest.trans (by decide))
  case waitData =>
    obtain rfl := List.mem_singleton.mp among
    obtain rfl := Finset.mem_singleton.mp pending
    exact handleWaitData_timeout_armed rest
  case sendPreamble =>
    obtain rfl := List.mem_singleton.mp among
    obtain rfl := Finset.mem_singleton.mp pending
    exact handleSendPreamble_armed state (holds rfl) (deaf rfl) (.inr ⟨rfl, rest⟩)
  case waitAck =>
    obtain rfl := List.mem_singleton.mp among
    obtain rfl := Finset.mem_singleton.mp pending
    exact handleWaitAck_timeout_armed (holds rfl) rest
  case waitAck2 =>
    obtain rfl := List.mem_singleton.mp among
    apply handleWaitAck2_timeout_armed (holds rfl)
    rcases Finset.mem_insert.mp pending with rfl | ack
    · exact .inr ⟨rfl, rest.trans (by decide)⟩
    · obtain rfl := Finset.mem_singleton.mp ack
      exact .inl ⟨rfl, rest.trans (by decide)⟩
  case sendPreambleTxEnd => exact absurd rfl ended
  all_goals
    obtain rfl := List.mem_singleton.mp among
    cases Finset.notMem_empty _ pending

theorem handleInState_completion_armed (armed : Armed mac)
    (awaits : mac.macState.awaits timer = true) :
    Guarded Fault.Foreign Armed (mac.handleInState params now rand (.self timer)) := by
  have timers := armed.timers
  have holds := armed.queue
  have transmits := transmits_of_deaf armed
  unfold handleInState
  cases state : mac.macState <;> rw [state] at awaits timers holds transmits
  case sendPreamble =>
    obtain rfl : timer = .sendPreamble := by
      revert awaits
      cases timer <;> decide
    exact handleSendPreamble_armed state (holds rfl) (transmits rfl)
      (.inl ⟨rfl, List.mem_singleton.mp timers⟩)
  case sendPreambleTxEnd =>
    obtain rfl : timer = .preambleTxOver := by
      revert awaits
      cases timer <;> decide
    exact handleSendPreambleTxEnd_armed (holds rfl) (List.mem_singleton.mp timers)
  case sendData =>
    apply handleSendData_armed (holds rfl) (List.mem_singleton.mp timers) (transmits rfl)
    revert awaits
    cases timer <;> decide
  case sendData2 =>
    apply handleSendData_armed (holds rfl) (List.mem_singleton.mp timers) (transmits rfl)
    revert awaits
    cases timer <;> decide
  case waitTxDataOver =>
    obtain rfl : timer = .dataTxOver := by
      revert awaits
      cases timer <;> decide
    exact handleWaitTxDataOver_armed (holds rfl) (List.mem_singleton.mp timers)
  case sendAck =>
    obtain rfl : timer = .sendAck := by
      revert awaits
      cases timer <;> decide
    exact handleSendAck_armed (List.mem_singleton.mp timers) (transmits rfl)
  case waitAckTx =>
    obtain rfl : timer = .ackTxOver := by
      revert awaits
      cases timer <;> decide
    exact handleWaitAckTx_armed (List.mem_singleton.mp timers)
  case sendAck2 =>
    obtain rfl : timer = .sendAck2 := by
      revert awaits
      cases timer <;> decide
    exact handleSendAck2_armed (List.mem_singleton.mp timers) (transmits rfl)
  case waitAck2Tx =>
    obtain rfl : timer = .ack2TxOver := by
      revert awaits
      cases timer <;> decide
    exact handleWaitAck2Tx_armed (List.mem_singleton.mp timers)
  all_goals cases timer <;> cases awaits

theorem handleUpperPacket_armed {msg : NetwPkt} (armed : Armed mac) :
    Guarded Fault.Foreign Armed (mac.handleUpperPacket params now rand msg) := by
  unfold handleUpperPacket addToQueue
  cases full : decide (params.queueLength ≤ mac.macQueue.length) with
  | true =>
      rw [if_pos (of_decide_eq_true full)]
      exact armed
  | false =>
      rw [if_neg (of_decide_eq_false full)]
      dsimp only
      split
      case isTrue asleep =>
        have timers := armed.timers
        have queued := armed.radio
        rw [asleep.2] at timers queued
        apply guarded_scheduleAt
        · simp
        · constructor <;> simp_all
      case isFalse =>
        refine ⟨armed.timers, armed.radio, fun _ => ?_⟩
        exact List.append_ne_nil_of_right_ne_nil _ (List.cons_ne_nil _ _)

end Mac

end SyncFanet.Xmac
