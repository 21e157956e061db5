/-!
# Computations that may fail

What a fallible computation guarantees: a postcondition of its result, and that it fails with
tolerated errors only. With every error tolerated this is partial correctness.
-/

set_option autoImplicit false

namespace SyncFanet

variable {Error Value Result : Type}

/-- The result meets the postcondition, or the computation fails with a tolerated error. -/
def Guarded (tolerated : Error → Prop) (post : Value → Prop) : Except Error Value → Prop
  | .ok value => post value
  | .error error => tolerated error

variable {tolerated : Error → Prop} {post : Value → Prop}

@[simp] theorem guarded_ok {value : Value} :
    Guarded tolerated post (.ok value) ↔ post value := Iff.rfl

@[simp] theorem guarded_pure {value : Value} :
    Guarded tolerated post (pure value : Except Error Value) ↔ post value := Iff.rfl

@[simp] theorem guarded_error {error : Error} :
    Guarded tolerated post (.error error) ↔ tolerated error := Iff.rfl

/-- The rule of sequences. -/
@[simp] theorem guarded_bind {first : Except Error Value} {next : Value → Except Error Result}
    {post : Result → Prop} :
    Guarded tolerated post (first >>= next) ↔
      Guarded tolerated (fun value => Guarded tolerated post (next value)) first := by
  cases first <;> exact Iff.rfl

/-- The rule of consequence. -/
theorem Guarded.mono {computation : Except Error Value} {weaker : Value → Prop}
    (guarded : Guarded tolerated post computation)
    (implied : ∀ value, post value → weaker value) : Guarded tolerated weaker computation := by
  cases computation with
  | ok value => exact implied value guarded
  | error error => exact guarded

theorem Guarded.of_ok {computation : Except Error Value} {value : Value}
    (guarded : Guarded tolerated post computation) (done : computation = .ok value) :
    post value := by
  rw [done] at guarded
  exact guarded

end SyncFanet
