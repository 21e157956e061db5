import SyncFanet.Xmac.Armings

/-!
# Which events the X-MAC layer handles

With completions that come when the layer waits for them, two things go wrong: a timer
expires while the preamble is being sent, or a frame that was put back comes back to a
state that no longer listens.
-/

set_option autoImplicit false

namespace SyncFanet.Xmac

namespace XmacRun

def Handles (params : Params) (run : XmacRun) (input : Input) : Prop :=
  ∀ fault, run.perform .whenAwaited params input = .error fault →
    (∀ msg macState, fault ≠ .undefinedEvent msg macState) ∧
    (∀ timer, fault ≠ .alreadyScheduled timer) ∧ fault ≠ .emptyQueue

/-- While a preamble is sent no timer expires, and a frame that was put back comes to a
state that listens. -/
def Timely (run : XmacRun) (input : Input) : Prop :=
  match input.event with
  | .self timer => run.mac.macState = .sendPreambleTxEnd → timer = .preambleTxOver
  | .putBack => run.mac.macState.listens = true
  | _ => True

variable {params : Params} {run : XmacRun} {input : Input}

theorem handles_of_guarded {post : Mac → Prop}
    (guarded : Guarded Fault.Foreign post (run.perform .whenAwaited params input)) :
    run.Handles params input := by
  intro fault failed
  rw [failed] at guarded
  cases fault with
  | undefinedEvent msg macState => exact guarded.elim
  | alreadyScheduled timer => exact guarded.elim
  | emptyQueue => exact guarded.elim
  | scheduledInThePast timer => exact ⟨nofun, nofun, nofun⟩
  | radioSwitching => exact ⟨nofun, nofun, nofun⟩

end XmacRun

theorem Mac.handleInState_data_undefined {params : Params} {now : Time} {rand : ℚ} {mac : Mac}
    {pkt : XMacPkt} (deaf : mac.macState.listens = false) :
    mac.handleInState params now rand (.frame ⟨.data, pkt⟩) =
      .error (.undefinedEvent (.frame ⟨.data, pkt⟩) mac.macState) := by
  unfold handleInState
  cases state : mac.macState <;> rw [state] at deaf <;> first
    | contradiction
    | exact congrArg (fun state => Except.error (Fault.undefinedEvent _ state)) state

theorem Radio.receives_after {radio : Radio} {event : RadioEvent}
    (receives : (radio.after event).1.Receives) : radio.Receives := by
  cases event with
  | switched =>
      simp only [Radio.after] at receives
      cases next : radio.next with
      | none =>
          rw [next] at receives
          exact receives
      | some mode =>
          rw [next] at receives
          rcases receives with receiver | switching
          · exact .inr (next.trans (congrArg some receiver))
          · cases switching
  | transmissionStarted =>
      simp only [Radio.after] at receives
      split at receives
      · exact receives
      · exact receives
  | transmissionEnded => exact receives

namespace XmacRun

variable {params : Params} {run : XmacRun} {input : Input}

theorem self_armed {timer : Timer} {time : Time} {rand : ℚ} (armed : Armed run.mac)
    (occurs : run.Occurs .whenAwaited time (.self timer))
    (ended : run.mac.macState = .sendPreambleTxEnd → timer = .preambleTxOver) :
    Guarded Fault.Foreign Armed
      ((run.mac.cancelEvent timer).handleSelfMessage params time rand (.self timer)) := by
  show Guarded _ _ ((run.mac.cancelEvent timer).handleInState params time rand (.self timer))
  have transmits := Mac.transmits_of_deaf armed
  by_cases pending : timer ∈ run.mac.pending
  · have ended : run.mac.macState ≠ .sendPreambleTxEnd := by
      intro state
      have timers := armed.timers
      rw [ended state] at pending
      rw [state] at timers
      rw [List.mem_singleton.mp timers] at pending
      revert pending
      decide
    apply Mac.handleInState_timer_armed
    · exact ⟨run.mac.pending, armed.timers, pending, TimerTable.pending_cancel _ _⟩
    · exact transmits
    · exact armed.queue
    · exact ended
  · have awaits : run.mac.macState.awaits timer = true := by
      rcases occurs with arrived | ⟨-, awaits⟩
      · exact absurd (TimerTable.mem_pending.mpr ⟨time, arrived⟩) pending
      · exact awaits
    apply Mac.handleInState_completion_armed
    · refine ⟨?_, armed.radio, armed.queue⟩
      show (run.mac.timers.cancel timer).pending ∈ _
      rw [TimerTable.pending_cancel, Finset.erase_eq_of_notMem pending]
      exact armed.timers
    · exact awaits

theorem perform_armed (armed : Armed run.mac) (possible : run.Possible .whenAwaited input)
    (timely : run.Timely input) :
    Guarded Fault.Foreign Armed (run.perform .whenAwaited params input) := by
  have occurs := possible.occurs
  obtain ⟨time, rand, event⟩ := input
  cases event with
  | upper msg => exact Mac.handleUpperPacket_armed armed
  | lower frame bitError =>
      have listens := armed.radio (.inl (occurs rfl))
      cases bitError with
      | true => exact armed
      | false => exact Mac.handleSelfMessage_frame_armed armed listens
  | self timer => exact self_armed armed occurs timely
  | putBack =>
      simp only [perform]
      split
      · exact armed
      · apply Mac.handleSelfMessage_frame_armed
        · exact ⟨armed.timers, armed.radio, armed.queue⟩
        · exact timely
  | radio event =>
      exact ⟨armed.timers, fun receives => armed.radio (Radio.receives_after receives),
        armed.queue⟩

/-- A message other than the completion of a preamble is undefined while it is sent, and a
data frame is undefined in a state that does not listen. -/
theorem not_handles (possible : run.Possible .whenAwaited input)
    (late : ¬ run.Timely input) : ¬ run.Handles params input := by
  have occurs := possible.occurs
  obtain ⟨time, rand, event⟩ := input
  intro handles
  cases event with
  | self timer =>
      obtain ⟨state, other⟩ := Classical.not_imp.mp late
      have undefined : run.perform .whenAwaited params ⟨time, rand, .self timer⟩ =
          .error (.undefinedEvent (.self timer) .sendPreambleTxEnd) := by
        show (run.mac.cancelEvent timer).handleInState params time rand (.self timer) = _
        simp only [Mac.handleInState, Mac.cancelEvent, state]
        cases timer with
        | preambleTxOver => exact absurd rfl other
        | _ => rfl
      exact (handles _ undefined).1 _ _ rfl
  | putBack =>
      obtain ⟨pkt, rest, queue⟩ := List.exists_cons_of_ne_nil occurs
      have undefined : run.perform .whenAwaited params ⟨time, rand, .putBack⟩ =
          .error (.undefinedEvent (.frame ⟨.data, pkt⟩) run.mac.macState) := by
        simp only [perform, queue]
        exact Mac.handleInState_data_undefined (Bool.not_eq_true _ ▸ late)
      exact (handles _ undefined).1 _ _ rfl
  | upper msg => exact late trivial
  | lower frame bitError => exact late trivial
  | radio event => exact late trivial

end XmacRun

theorem Run.armed {params : Params} {steps : List Step} {run : XmacRun}
    (reached : Run .whenAwaited params steps run) : Armed run.mac := by
  induction reached with
  | start => exact ⟨by decide, by rintro (receiver | switching) <;> contradiction, nofun⟩
  | @step steps run input mac earlier possible performed ih =>
      by_cases timely : run.Timely input
      · exact (XmacRun.perform_armed ih possible timely).of_ok performed
      · exfalso
        refine @XmacRun.not_handles params _ _ possible timely fun fault failed => ?_
        rw [performed] at failed
        cases failed

/-- In whatever state a run is, the layer handles a possible event exactly when no timer
expires during the preamble and no frame comes back too late. -/
theorem handles_iff_timely {params : Params} {steps : List Step} {run : XmacRun} {input : Input}
    (reached : Run .whenAwaited params steps run)
    (possible : run.Possible .whenAwaited input) :
    run.Handles params input ↔ run.Timely input := by
  constructor
  · intro handles
    by_contra late
    exact XmacRun.not_handles possible late handles
  · intro timely
    exact XmacRun.handles_of_guarded (XmacRun.perform_armed reached.armed possible timely)

/-- A check interval shorter than two preambles: with the default bit rate a preamble with
one address takes 0.9375 ms. -/
def shortCheck : Params where
  address := 1
  queueLength := 20
  slotDuration := 1
  checkInterval := 1 / 1000
  useMacAcks := true
  maxTxAttempts := 2
  xmac := false

def preambleStarts : List Input :=
  [⟨0, 0, .upper ⟨2, 7⟩⟩, ⟨0, 0, .self .startXmac⟩, ⟨0, 0, .radio .switched⟩,
    ⟨0, 0, .self .wakeup⟩, ⟨0, 0, .radio .switched⟩, ⟨1 / 1000, 0, .self .ccaTimeout⟩,
    ⟨1 / 1000, 0, .radio .switched⟩, ⟨1 / 1000, 0, .self .sendPreamble⟩,
    ⟨1 / 1000, 0, .radio .transmissionStarted⟩]

def earlyTimeout : Input := ⟨3 / 2000, 0, .self .ackTimeout⟩

theorem preambleStarts_isSome : (simulate .whenAwaited shortCheck preambleStarts).isSome := by
  decide +kernel

def duringPreamble : List Step × XmacRun :=
  (simulate .whenAwaited shortCheck preambleStarts).get preambleStarts_isSome

theorem duringPreamble_run : Run .whenAwaited shortCheck duringPreamble.1 duringPreamble.2 :=
  simulate_run (Option.some_get preambleStarts_isSome).symm

theorem handles_iff_timely_during_preamble :
    duringPreamble.2.Handles shortCheck earlyTimeout ↔ duringPreamble.2.Timely earlyTimeout :=
  handles_iff_timely duringPreamble_run (by decide +kernel)

theorem long_preamble_not_handled :
    ∃ (params : Params) (steps : List Step) (run : XmacRun) (input : Input),
      0 < params.slotDuration ∧ 0 < params.checkInterval ∧
        Run .whenAwaited params steps run ∧
        run.Possible .whenAwaited input ∧ ¬ run.Handles params input := by
  refine ⟨shortCheck, duringPreamble.1, duringPreamble.2, earlyTimeout, by decide +kernel,
    by decide +kernel, duringPreamble_run, by decide +kernel, XmacRun.not_handles (by decide +kernel) ?_⟩
  intro timely
  have ended := timely (by decide +kernel)
  cases ended

end SyncFanet.Xmac
