import Mathlib.Data.List.Lemmas
import Mathlib.Data.List.Nodup
import Mathlib.Data.Finset.Card
import Mathlib.Data.Finset.Dedup

/-!
# Following a partial successor function

A walk goes from a value to its successor as long as there is one. Where finitely many
values have a successor, the walk stops exactly if it never comes back to a value it
has visited.
-/

set_option autoImplicit false

namespace SyncFanet.Successor

variable {α : Type} {next : α → Option α}

variable {start : α} {fuel : Nat} {path : List α}

/-- `path` lists the successors of `start` in order, one after the other. -/
inductive Follows (next : α → Option α) : α → List α → Prop where
  | nil (start : α) : Follows next start []
  | cons {start second : α} {path : List α} :
      next start = some second → Follows next second path → Follows next start (second :: path)

/-- The walk from `start` stops within the given number of values. -/
def stops (next : α → Option α) : Nat → α → Bool
  | 0, _ => false
  | fuel + 1, start =>
      match next start with
      | none => true
      | some second => stops next fuel second

theorem stops_succ_of_some {second : α} (step : next start = some second) (fuel : Nat) :
    stops next (fuel + 1) start = stops next fuel second := by
  simp only [stops, step]

/-- Everything on the way stops earlier than the start. -/
theorem Follows.stops_earlier (follows : Follows next start path)
    (stopped : stops next fuel start = true) {value : α} (member : value ∈ path) :
    ∃ less < fuel, stops next less value = true := by
  induction follows generalizing fuel with
  | nil => cases member
  | cons step rest ih =>
      cases fuel with
      | zero => cases stopped
      | succ fuel =>
          rw [stops_succ_of_some step] at stopped
          cases List.mem_cons.mp member with
          | inl here => exact ⟨fuel, Nat.lt_succ_self fuel, here ▸ stopped⟩
          | inr later =>
              obtain ⟨less, bound, done⟩ := ih stopped later
              exact ⟨less, Nat.lt_succ_of_lt bound, done⟩

/-- A walk that stops does not come back to its start. -/
theorem Follows.start_not_mem (follows : Follows next start path)
    (stopped : stops next fuel start = true) : start ∉ path := by
  induction fuel using Nat.strong_induction_on with
  | _ fuel ih =>
      intro back
      obtain ⟨less, bound, earlier⟩ := follows.stops_earlier stopped back
      exact ih less bound earlier back

theorem Follows.nodup (follows : Follows next start path) (stopped : stops next fuel start = true) :
    (start :: path).Nodup := by
  induction follows generalizing fuel with
  | nil => exact List.nodup_singleton _
  | cons step rest ih =>
      have fresh := (Follows.cons step rest).start_not_mem stopped
      cases fuel with
      | zero => cases stopped
      | succ fuel =>
          rw [stops_succ_of_some step] at stopped
          exact List.nodup_cons.mpr ⟨fresh, ih stopped⟩

/-- A walk that has not stopped yet has followed as many successors as it was allowed. -/
theorem exists_follows_of_not_stops (running : stops next fuel start = false) :
    ∃ path, Follows next start path ∧ path.length = fuel := by
  induction fuel generalizing start with
  | zero => exact ⟨[], .nil start, rfl⟩
  | succ fuel ih =>
      cases step : next start with
      | none =>
          simp only [stops, step] at running
          cases running
      | some second =>
          rw [stops_succ_of_some step] at running
          obtain ⟨path, follows, length⟩ := ih running
          exact ⟨second :: path, .cons step follows, by simp [length]⟩

/-- All but the last value of a followed path have a successor. -/
theorem Follows.isSome_of_mem_dropLast (follows : Follows next start path) {value : α}
    (member : value ∈ (start :: path).dropLast) :
    (next value).isSome := by
  induction follows with
  | nil => cases member
  | @cons start second path step rest ih =>
      rw [List.dropLast_cons_cons] at member
      cases List.mem_cons.mp member with
      | inl here => rw [here, step]; rfl
      | inr later => exact ih later

variable [DecidableEq α]

/-- Among finitely many values with a successor, a walk without repetition stops. -/
theorem stops_of_nodup {domain : Finset α}
    (finite : ∀ value, (next value).isSome → value ∈ domain)
    (simple : ∀ path, Follows next start path → (start :: path).Nodup) :
    stops next (domain.card + 1) start = true := by
  by_contra running
  obtain ⟨path, follows, length⟩ :=
    exists_follows_of_not_stops (Bool.eq_false_iff.mpr running)
  have distinct : (start :: path).dropLast.Nodup :=
    (simple path follows).sublist (List.dropLast_sublist _)
  have within : (start :: path).dropLast.toFinset ⊆ domain := by
    intro value member
    exact finite value (follows.isSome_of_mem_dropLast (List.mem_toFinset.mp member))
  have count := Finset.card_le_card within
  rw [List.toFinset_card_of_nodup distinct, List.length_dropLast, List.length_cons] at count
  omega

theorem exists_stops_iff {domain : Finset α}
    (finite : ∀ value, (next value).isSome → value ∈ domain) (start : α) :
    (∃ fuel, stops next fuel start = true) ↔
      ∀ path, Follows next start path → (start :: path).Nodup := by
  constructor
  · rintro ⟨fuel, stopped⟩ path follows
    exact follows.nodup stopped
  · intro simple
    exact ⟨domain.card + 1, stops_of_nodup finite simple⟩

end SyncFanet.Successor
