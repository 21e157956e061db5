/-!
# Announcements

What is announced again and again, and remembered for longer than it takes until the next
announcement has arrived. From some time on the announcements are good. One interval and one
transit later it holds what they say, and from then on it holds forever.
-/

set_option autoImplicit false

namespace SyncFanet

/-- The times of the next announcements, the times by which a good announcement arrives that
only good ones follow, whether all announcements under way are good, and the times until
which it is remembered what they say. -/
structure Announcements (State : Type) where
  next : State → Int → Prop
  arrives : State → Int → Prop
  clear : State → Prop
  holds : State → Int → Prop

namespace Announcements

variable {State : Type}

structure Timing where
  interval : Int
  transit : Int
  validity : Int
  transit_nonneg : 0 ≤ transit
  remembered : interval + transit < validity

/-- No announcement is late. -/
structure Punctual (view : Announcements State) (now : Int) (s : State) : Prop where
  next : ∀ time, view.next s time → now ≤ time
  arrives : ∀ time, view.arrives s time → now ≤ time

/-- What a step at some time may do. Announcements after `start` are good. -/
structure Step (view : Announcements State) (timing : Timing) (start now : Int) (s s' : State) :
    Prop where
  next : ∀ time, view.next s time → view.next s' time ∨
    (time = now ∧ (∃ again, again ≤ now + timing.interval ∧ view.next s' again) ∧
      (start < now → view.arrives s' (now + timing.transit)))
  arrives : start < now → ∀ time, view.arrives s time → view.arrives s' time ∨
    (view.clear s' ∧ ∀ expiry, expiry < now + timing.validity → view.holds s' expiry)
  clear : start < now → view.clear s → view.clear s'
  holds : start < now → view.clear s → ∀ expiry, now ≤ expiry → view.holds s expiry →
    view.holds s' expiry ∨ ∀ expiry', expiry' < now + timing.validity → view.holds s' expiry'

/-- Before the first good announcement, on its way, and after its arrival. -/
inductive Phase (view : Announcements State) (timing : Timing) (start clock : Int) (s : State) :
    Prop where
  | awaited (time : Int) (next : view.next s time) (soon : time ≤ start + timing.interval)
  | coming (begun : start < clock) (time : Int) (arrives : view.arrives s time)
      (soon : time ≤ start + timing.interval + timing.transit)
  | kept (begun : start < clock) (clear : view.clear s) (expiry : Int)
      (holds : view.holds s expiry)
      (renewed : (∃ time, view.arrives s time ∧ time ≤ expiry) ∨
        ∃ time, view.next s time ∧ time + timing.transit ≤ expiry)

structure Maintained (view : Announcements State) (timing : Timing) (start clock : Int)
    (s : State) : Prop where
  next : ∃ time, view.next s time ∧ time ≤ clock + timing.interval
  phase : view.Phase timing start clock s

variable {view : Announcements State} {timing : Timing} {start clock now : Int} {s s' : State}

theorem maintained_initial {time : Int} (next : view.next s time)
    (soon : time ≤ clock + timing.interval) (early : clock ≤ start) :
    view.Maintained timing start clock s :=
  ⟨⟨time, next, soon⟩, .awaited time next (by omega)⟩

/-- The next announcement is made, or is still to come. -/
theorem Step.awaited (step : view.Step timing start now s s') {time : Int}
    (next : view.next s time) (soon : time ≤ start + timing.interval) :
    view.Phase timing start now s' := by
  rcases step.next time next with same | ⟨rfl, ⟨again, early, next⟩, arrives⟩
  · exact .awaited time same soon
  · by_cases begun : start < time
    · exact .coming begun _ (arrives begun) (by omega)
    · exact .awaited again next (by omega)

/-- What has just been heard is remembered until the next announcement arrives. -/
theorem Phase.heard (begun : start < now) (clear : view.clear s')
    (next : ∃ time, view.next s' time ∧ time ≤ now + timing.interval)
    (holds : ∀ expiry, expiry < now + timing.validity → view.holds s' expiry) :
    view.Phase timing start now s' := by
  obtain ⟨time, next, soon⟩ := next
  have remembered := timing.remembered
  exact .kept begun clear (now + timing.interval + timing.transit) (holds _ (by omega))
    (.inr ⟨time, next, by omega⟩)

theorem Step.arrived (step : view.Step timing start now s s') (begun : start < now)
    (next : ∃ time, view.next s' time ∧ time ≤ now + timing.interval) {time : Int}
    (arrives : view.arrives s time) :
    view.arrives s' time ∨ view.Phase timing start now s' := by
  rcases step.arrives begun time arrives with same | ⟨clear, holds⟩
  · exact .inl same
  · exact .inr (.heard begun clear next holds)

theorem Step.next_soon (step : view.Step timing start now s s') (later : clock ≤ now)
    (next : ∃ time, view.next s time ∧ time ≤ clock + timing.interval) :
    ∃ time, view.next s' time ∧ time ≤ now + timing.interval := by
  obtain ⟨time, next, soon⟩ := next
  rcases step.next time next with same | ⟨rfl, ⟨again, early, next⟩, _⟩
  · exact ⟨time, same, by omega⟩
  · exact ⟨again, next, early⟩

/-- The next announcement arrives in time. -/
theorem renewed_ahead (punctual : view.Punctual now s) {expiry : Int}
    (renewed : (∃ time, view.arrives s time ∧ time ≤ expiry) ∨
      ∃ time, view.next s time ∧ time + timing.transit ≤ expiry) : now ≤ expiry := by
  have transit := timing.transit_nonneg
  rcases renewed with ⟨time, arrives, early⟩ | ⟨time, next, early⟩
  · have ahead := punctual.arrives time arrives
    omega
  · have ahead := punctual.next time next
    omega

theorem Maintained.step (maintained : view.Maintained timing start clock s) (later : clock ≤ now)
    (punctual : view.Punctual now s) (step : view.Step timing start now s s') :
    view.Maintained timing start now s' := by
  have next := step.next_soon later maintained.next
  refine ⟨next, ?_⟩
  cases maintained.phase with
  | awaited time awaits soon => exact step.awaited awaits soon
  | coming begun time arrives soon =>
      rcases step.arrived (by omega) next arrives with same | phase
      · exact .coming (by omega) time same soon
      · exact phase
  | kept begun clear expiry holds renewed =>
      have begun' : start < now := by omega
      have clear' := step.clear begun' clear
      have ahead := renewed_ahead punctual renewed
      rcases step.holds begun' clear expiry ahead holds with holds' | heard
      · rcases renewed with ⟨time, arrives, early⟩ | ⟨time, awaits, early⟩
        · rcases step.arrived begun' next arrives with same | phase
          · exact .kept begun' clear' expiry holds' (.inl ⟨time, same, early⟩)
          · exact phase
        · rcases step.next time awaits with same | ⟨rfl, _, arrives⟩
          · exact .kept begun' clear' expiry holds' (.inr ⟨time, same, early⟩)
          · exact .kept begun' clear' expiry holds' (.inl ⟨_, arrives begun', early⟩)
      · exact .heard begun' clear' next heard

/-- One round after the announcements have become good, it holds what they say. -/
theorem Maintained.holds (maintained : view.Maintained timing start clock s)
    (punctual : view.Punctual now s) (late : start + timing.interval + timing.transit < now) :
    view.clear s ∧ ∃ expiry, now ≤ expiry ∧ view.holds s expiry := by
  have transit := timing.transit_nonneg
  cases maintained.phase with
  | awaited time next soon =>
      have ahead := punctual.next time next
      omega
  | coming begun time arrives soon =>
      have ahead := punctual.arrives time arrives
      omega
  | kept begun clear expiry holds renewed =>
      exact ⟨clear, expiry, renewed_ahead punctual renewed, holds⟩

end Announcements

end SyncFanet
