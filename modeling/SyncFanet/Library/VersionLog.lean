import SyncFanet.Library.Fold

/-!
# Announcements with a version counter

A value is announced together with a counter that wraps around. As long as every
change of the value advances the counter, two announcements with the same version
and fewer changes between them than the counter has values announce the same value.
-/

set_option autoImplicit false

namespace SyncFanet.VersionLog

inductive Entry (Value : Type) where
  | announced (version : Nat) (value : Value)
  | changed

variable {Value : Type} {modulus initial : Nat}

def isChange : Entry Value → Bool
  | .announced _ _ => false
  | .changed => true

/-- Number of changes in a part of the log. -/
def changes (log : List (Entry Value)) : Nat := log.countP isChange

/-- The logs of a source that follows the discipline from its initial version on,
with its current version and value. -/
inductive Log (modulus initial : Nat) : List (Entry Value) → Nat → Value → Prop where
  | start (value : Value) (bound : initial < modulus) : Log modulus initial [] initial value
  | announce {log : List (Entry Value)} {version : Nat} {value : Value}
      (before : Log modulus initial log version value) :
      Log modulus initial (log ++ [.announced version value]) version value
  | change {log : List (Entry Value)} {version : Nat} {value : Value}
      (before : Log modulus initial log version value) (value' : Value) :
      Log modulus initial (log ++ [.changed]) ((version + 1) % modulus) value'

@[simp] theorem changes_append (left right : List (Entry Value)) :
    changes (left ++ right) = changes left + changes right := by
  simp [changes]

@[simp] theorem changes_changed : changes [(Entry.changed : Entry Value)] = 1 := rfl

@[simp] theorem changes_announced (version : Nat) (value : Value) :
    changes [Entry.announced version value] = 0 := rfl

variable {log : List (Entry Value)} {value : Value} {version : Nat}

theorem Log.bound (logged : Log modulus initial log version value) : version < modulus := by
  induction logged with
  | start _ bound => exact bound
  | announce _ ih => exact ih
  | change _ _ ih => exact Nat.mod_lt _ (by omega)

/-- The version counts the changes. -/
theorem Log.version_eq (logged : Log modulus initial log version value) :
    version = (initial + changes log) % modulus := by
  induction logged with
  | start _ bound => simp [changes, Nat.mod_eq_of_lt bound]
  | announce _ ih => simpa using ih
  | @change log version value _ _ ih =>
      calc (version + 1) % modulus = ((initial + changes log) % modulus + 1) % modulus := by
            rw [← ih]
        _ = (initial + changes (log ++ [.changed])) % modulus := by
            rw [Nat.mod_add_mod, changes_append, changes_changed, Nat.add_assoc]

/-- Since an announcement the version moved by the number of changes, and without a
change the value is the announced one. -/
theorem Log.since (logged : Log modulus initial log version value)
    {before after : List (Entry Value)} {version' : Nat} {value' : Value}
    (split : log = before ++ .announced version' value' :: after) :
    version' < modulus ∧ version = (version' + changes after) % modulus ∧
      (changes after = 0 → value = value') := by
  induction logged generalizing after with
  | start _ _ => simp at split
  | @announce log version value logged ih =>
      rcases split_last split with ⟨rfl, _, same⟩ | ⟨rest, rfl, shorter⟩
      · cases same
        have bound := logged.bound
        refine ⟨bound, ?_, fun _ => rfl⟩
        simp [changes, Nat.mod_eq_of_lt bound]
      · obtain ⟨bound, moved, kept⟩ := ih shorter
        refine ⟨bound, ?_, ?_⟩
        · simpa using moved
        · intro none'
          exact kept (by simpa using none')
  | @change log version value logged value'' ih =>
      rcases split_last split with ⟨_, _, same⟩ | ⟨rest, rfl, shorter⟩
      · cases same
      · obtain ⟨bound, moved, _⟩ := ih shorter
        refine ⟨bound, ?_, fun none' => ?_⟩
        · rw [moved, Nat.mod_add_mod, changes_append, changes_changed, Nat.add_assoc]
        · simp at none'

/-- Equal versions with too few changes between them to wrap announce equal values. -/
theorem Log.same_value (logged : Log modulus initial log version value)
    {before between after : List (Entry Value)} {first second : Nat} {old new : Value}
    (split : log = before ++ .announced first old :: (between ++ .announced second new :: after))
    (same : first = second) (few : changes between < modulus) : old = new := by
  induction logged generalizing after with
  | start _ _ => simp at split
  | @announce log version value logged ih =>
      have shape : log ++ [.announced version value] =
          (before ++ .announced first old :: between) ++ .announced second new :: after := by
        simpa using split
      rcases split_last shape with ⟨_, unannounced, equal⟩ | ⟨rest, rfl, shorter⟩
      · cases equal
        obtain ⟨bound, moved, kept⟩ := logged.since unannounced
        have unmoved : changes between = 0 := by
          have wrap := Nat.mod_lt (first + changes between) (Nat.zero_lt_of_lt bound)
          rcases Nat.lt_or_ge (first + changes between) modulus with small | large
          · rw [Nat.mod_eq_of_lt small] at moved
            omega
          · rw [Nat.mod_eq_sub_mod large, Nat.mod_eq_of_lt (by omega)] at moved
            omega
        exact (kept unmoved).symm
      · exact ih (by simpa using shorter)
  | @change log version value logged _ ih =>
      have shape : log ++ [.changed] =
          (before ++ .announced first old :: between) ++ .announced second new :: after := by
        simpa using split
      rcases split_last shape with ⟨_, _, equal⟩ | ⟨rest, rfl, shorter⟩
      · cases equal
      · exact ih (by simpa using shorter)

end SyncFanet.VersionLog
