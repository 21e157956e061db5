import SyncFanet.Xmac.HandleSelfMessage

/-!
# Runs of the X-MAC layer

Packets from above, frames from the air, expired timers, frames put back and the events of
the radio, in any order that the scheduled times allow. The radio follows Radio.cc.
-/

set_option autoImplicit false

namespace SyncFanet.Xmac

/-! ## The signals of the radio -/

inductive Signal where
  | radioModeChanged (radioMode : RadioMode)
  | transmissionStateChanged (newRadioTransmissionState : TransmissionState)
  deriving DecidableEq

/-- `receiveSignal`. -/
def Mac.receiveSignal (now : Time) (mac : Mac) : Signal → Except Fault Mac
  | .radioModeChanged radioMode =>
      if radioMode = .transmitter then
        match mac.macState with
        | .waitTxDataOver => mac.scheduleAt now 0 .dataTxOver
        | .waitAckTx => mac.scheduleAt now 0 .ackTxOver
        | .waitAck2Tx => mac.scheduleAt now 0 .ack2TxOver
        | .sendPreambleTxEnd => mac.scheduleAt now 0 .preambleTxOver
        | _ => .ok mac
      else .ok mac
  | .transmissionStateChanged newRadioTransmissionState =>
      if mac.transmissionState = .transmitting ∧ newRadioTransmissionState = .idle then
        match mac.macState with
        | .sendPreamble => mac.scheduleAt now 0 .sendPreamble
        | .sendAck2 => mac.scheduleAt now 0 .sendAck2
        | .sendAck => mac.scheduleAt now 0 .sendAck
        | .sendData => mac.scheduleAt now 0 .resendData
        | .sendData2 => mac.scheduleAt now 0 .resendData
        | _ => .ok mac
      else .ok mac

inductive RadioEvent where
  | switched
  | transmissionStarted
  | transmissionEnded
  deriving DecidableEq

namespace Radio

/-- A switch ends in the mode asked for, and a transmission starts after the one before. -/
def Possible (radio : Radio) : RadioEvent → Prop
  | .switched => radio.next ≠ none
  | .transmissionStarted => radio.toSend ≠ [] ∧ radio.transmission ≠ .transmitting
  | .transmissionEnded => radio.transmission = .transmitting

instance (radio : Radio) (event : RadioEvent) : Decidable (radio.Possible event) :=
  match event with
  | .switched => inferInstanceAs (Decidable (_ ≠ _))
  | .transmissionStarted => inferInstanceAs (Decidable (_ ≠ _ ∧ _ ≠ _))
  | .transmissionEnded => inferInstanceAs (Decidable (_ = _))

/-- The radio after the event, and the signals it emits. A frame that comes in another mode
than TRANSMITTER is dropped. -/
def after (radio : Radio) : RadioEvent → Radio × List Signal
  | .switched =>
      match radio.next with
      | none => (radio, [])
      | some mode =>
          let transmission := if mode = .transmitter then .idle else .undefined
          ({ radio with mode := mode, next := none, transmission := transmission },
            .radioModeChanged mode ::
              if transmission = radio.transmission then []
              else [.transmissionStateChanged transmission])
  | .transmissionStarted =>
      if radio.mode = .transmitter then
        ({ radio with transmission := .transmitting, toSend := radio.toSend.tail },
          [.transmissionStateChanged .transmitting])
      else ({ radio with toSend := radio.toSend.tail }, [])
  | .transmissionEnded =>
      ({ radio with transmission := .idle }, [.transmissionStateChanged .idle])

end Radio

/-! ## Steps -/

/-- How the radio's completions reach the layer: by `receiveSignal`, which schedules the
messages for them, or as messages that may come whenever the layer waits for them. -/
inductive Completions where
  | signalled
  | whenAwaited
  deriving DecidableEq

/-- The state waits for the completion that the message stands for. -/
def MacState.awaits : MacState → Timer → Bool
  | .sendPreamble, .sendPreamble => true
  | .sendPreambleTxEnd, .preambleTxOver => true
  | .sendData, .sendPreamble => true
  | .sendData, .resendData => true
  | .sendData2, .sendPreamble => true
  | .sendData2, .resendData => true
  | .waitTxDataOver, .dataTxOver => true
  | .sendAck, .sendAck => true
  | .waitAckTx, .ackTxOver => true
  | .sendAck2, .sendAck2 => true
  | .waitAck2Tx, .ack2TxOver => true
  | _, _ => false

inductive Event where
  | upper (msg : NetwPkt)
  | lower (frame : Frame) (bitError : Bool)
  | self (timer : Timer)
  | putBack
  | radio (event : RadioEvent)
  deriving DecidableEq

structure Input where
  time : Time
  rand : ℚ
  event : Event

/-- The layer at the time of the last event. -/
structure XmacRun where
  now : Time
  mac : Mac

namespace XmacRun

/-- The event can be the next one: a timer expires when its time has come. Where the
completions are not signalled, frames come only in receiver mode. -/
def Occurs (completions : Completions) (run : XmacRun) (time : Time) : Event → Prop
  | .upper _ => True
  | .lower _ _ => completions = .whenAwaited → run.mac.radio.mode = .receiver
  | .self timer =>
      run.mac.timers.arrival timer = some time ∨
        completions = .whenAwaited ∧ run.mac.macState.awaits timer = true
  | .putBack => run.mac.putBack ≠ []
  | .radio event => run.mac.radio.Possible event

instance (completions : Completions) (run : XmacRun) (time : Time) (event : Event) :
    Decidable (run.Occurs completions time event) :=
  match event with
  | .upper _ => inferInstanceAs (Decidable True)
  | .lower _ _ => inferInstanceAs (Decidable (_ → _))
  | .self _ => inferInstanceAs (Decidable (_ ∨ _ ∧ _))
  | .putBack => inferInstanceAs (Decidable (_ ≠ _))
  | .radio event => inferInstanceAs (Decidable (run.mac.radio.Possible event))

/-- Time does not pass a scheduled message. -/
structure Possible (completions : Completions) (run : XmacRun) (input : Input) : Prop where
  later : run.now ≤ input.time
  due : ∀ timer, ∀ arrival ∈ run.mac.timers.arrival timer, input.time ≤ arrival
  putBackDue : run.mac.putBack ≠ [] → input.time = run.now
  rand_nonneg : 0 ≤ input.rand
  rand_lt_one : input.rand < 1
  occurs : run.Occurs completions input.time input.event

instance (completions : Completions) (run : XmacRun) (input : Input) :
    Decidable (run.Possible completions input) :=
  decidable_of_iff
    (run.now ≤ input.time ∧
      (∀ timer, ∀ arrival ∈ run.mac.timers.arrival timer, input.time ≤ arrival) ∧
      (run.mac.putBack ≠ [] → input.time = run.now) ∧ 0 ≤ input.rand ∧ input.rand < 1 ∧
      run.Occurs completions input.time input.event)
    ⟨fun ⟨later, due, putBackDue, nonneg, ltOne, occurs⟩ =>
      ⟨later, due, putBackDue, nonneg, ltOne, occurs⟩,
    fun possible => ⟨possible.later, possible.due, possible.putBackDue, possible.rand_nonneg,
      possible.rand_lt_one, possible.occurs⟩⟩

def perform (completions : Completions) (params : Params) (run : XmacRun) (input : Input) :
    Except Fault Mac :=
  let mac := run.mac
  match input.event with
  | .upper msg => mac.handleUpperPacket params input.time input.rand msg
  | .lower frame bitError => mac.handleLowerPacket params input.time input.rand frame bitError
  | .self timer =>
      (mac.cancelEvent timer).handleSelfMessage params input.time input.rand (.self timer)
  | .putBack =>
      match mac.putBack with
      | [] => .ok mac
      | pkt :: rest =>
          { mac with putBack := rest }.handleSelfMessage params input.time input.rand
            (.frame ⟨.data, pkt⟩)
  | .radio event =>
      let (radio, signals) := mac.radio.after event
      match completions with
      | .signalled => signals.foldlM (Mac.receiveSignal input.time) { mac with radio := radio }
      | .whenAwaited => .ok { mac with radio := radio }

end XmacRun

structure Step where
  before : XmacRun
  input : Input
  after : XmacRun

/-- The layer after `initialize`. -/
def XmacRun.start : XmacRun := ⟨0, Mac.initialize⟩

/-- The runs of the layer with their steps. A step that fails ends the simulation. -/
inductive Run (completions : Completions) (params : Params) : List Step → XmacRun → Prop where
  | start : Run completions params [] .start
  | step {steps : List Step} {run : XmacRun} {input : Input} {mac : Mac}
      (earlier : Run completions params steps run) (possible : run.Possible completions input)
      (performed : run.perform completions params input = .ok mac) :
      Run completions params (steps ++ [⟨run, input, ⟨input.time, mac⟩⟩]) ⟨input.time, mac⟩

/-! ## Simulation -/

def simulateFrom (completions : Completions) (params : Params) :
    List Step → XmacRun → List Input → Option (List Step × XmacRun)
  | steps, run, [] => some (steps, run)
  | steps, run, input :: inputs =>
      if run.Possible completions input then
        match run.perform completions params input with
        | .error _ => none
        | .ok mac =>
            simulateFrom completions params (steps ++ [⟨run, input, ⟨input.time, mac⟩⟩])
              ⟨input.time, mac⟩ inputs
      else none

def simulate (completions : Completions) (params : Params) (inputs : List Input) :
    Option (List Step × XmacRun) :=
  simulateFrom completions params [] .start inputs

theorem simulateFrom_run {completions : Completions} {params : Params} {inputs : List Input}
    {steps steps' : List Step} {run run' : XmacRun} (earlier : Run completions params steps run)
    (simulated : simulateFrom completions params steps run inputs = some (steps', run')) :
    Run completions params steps' run' := by
  induction inputs generalizing steps run with
  | nil =>
      cases simulated
      exact earlier
  | cons input inputs ih =>
      unfold simulateFrom at simulated
      split at simulated
      case isTrue possible =>
        cases performed : run.perform completions params input with
        | error fault => simp [performed] at simulated
        | ok mac =>
            rw [performed] at simulated
            exact ih (earlier.step possible performed) simulated
      case isFalse => cases simulated

theorem simulate_run {completions : Completions} {params : Params} {inputs : List Input}
    {steps : List Step} {run : XmacRun}
    (simulated : simulate completions params inputs = some (steps, run)) :
    Run completions params steps run :=
  simulateFrom_run .start simulated

end SyncFanet.Xmac
