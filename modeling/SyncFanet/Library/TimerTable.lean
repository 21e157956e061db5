import Mathlib.Data.Finset.Insert
import Mathlib.Data.Finset.Filter
import Mathlib.Data.Finset.Erase
import Mathlib.Data.Fintype.Defs

/-!
# Tables of timers

A component owns finitely many timers, each of which is scheduled for one time or not at all.
What a component waits for is the set of its pending timers.
-/

set_option autoImplicit false

namespace SyncFanet

variable {Timer Time : Type}

/-- The times for which the timers are scheduled. -/
def TimerTable (Timer Time : Type) : Type := Timer → Option Time

namespace TimerTable

def empty : TimerTable Timer Time := fun _ => none

def arrival (table : TimerTable Timer Time) (timer : Timer) : Option Time := table timer

/-- The timers that are scheduled. -/
def pending [Fintype Timer] (table : TimerTable Timer Time) : Finset Timer :=
  Finset.univ.filter fun timer => (table.arrival timer).isSome

theorem mem_pending [Fintype Timer] {table : TimerTable Timer Time} {timer : Timer} :
    timer ∈ table.pending ↔ ∃ time, table.arrival timer = some time := by
  simp [pending, Option.isSome_iff_exists]

theorem arrival_eq_none [Fintype Timer] {table : TimerTable Timer Time} {timer : Timer} :
    table.arrival timer = none ↔ timer ∉ table.pending := by
  simp [pending]

@[simp] theorem pending_empty [Fintype Timer] :
    (empty : TimerTable Timer Time).pending = ∅ := by
  simp [pending, empty, arrival]

variable [DecidableEq Timer]

def schedule (table : TimerTable Timer Time) (timer : Timer) (time : Time) :
    TimerTable Timer Time :=
  fun other => if other = timer then some time else table.arrival other

def cancel (table : TimerTable Timer Time) (timer : Timer) : TimerTable Timer Time :=
  fun other => if other = timer then none else table.arrival other

theorem arrival_schedule (table : TimerTable Timer Time) (timer other : Timer) (time : Time) :
    (table.schedule timer time).arrival other =
      if other = timer then some time else table.arrival other :=
  rfl

theorem arrival_cancel (table : TimerTable Timer Time) (timer other : Timer) :
    (table.cancel timer).arrival other =
      if other = timer then none else table.arrival other :=
  rfl

variable [Fintype Timer]

@[simp] theorem pending_schedule (table : TimerTable Timer Time) (timer : Timer) (time : Time) :
    (table.schedule timer time).pending = insert timer table.pending := by
  ext other
  rw [mem_pending, arrival_schedule, Finset.mem_insert, mem_pending]
  by_cases same : other = timer <;> simp [same]

@[simp] theorem pending_cancel (table : TimerTable Timer Time) (timer : Timer) :
    (table.cancel timer).pending = table.pending.erase timer := by
  ext other
  rw [mem_pending, arrival_cancel, Finset.mem_erase, mem_pending]
  by_cases same : other = timer <;> simp [same]

end TimerTable

end SyncFanet
