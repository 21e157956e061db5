import Mathlib.Data.Finmap

/-!
# Filtering the values of a finite map

A scan over a map that changes each value and drops the keys whose value is gone.
-/

set_option autoImplicit false

namespace SyncFanet

variable {Key Value Value' : Type}

/-- An entry with its value changed, unless the value is gone. -/
def changeEntry (change : Key → Value → Option Value') (entry : Σ _ : Key, Value) :
    Option (Σ _ : Key, Value') :=
  (change entry.1 entry.2).map fun value => ⟨entry.1, value⟩

theorem keys_changeEntry_le (change : Key → Value → Option Value')
    (entries : Multiset (Σ _ : Key, Value)) :
    (entries.filterMap (changeEntry change)).keys ≤ entries.keys := by
  induction entries using Multiset.induction_on with
  | empty => exact le_refl _
  | cons entry rest ih =>
      have keys : (entry ::ₘ rest).keys = entry.1 ::ₘ rest.keys := Multiset.keys_cons
      rw [keys]
      cases changed : change entry.1 entry.2 with
      | none =>
          have gone : changeEntry change entry = none := by simp [changeEntry, changed]
          rw [Multiset.filterMap_cons_none _ _ gone]
          exact ih.trans (Multiset.le_cons_self _ _)
      | some value =>
          have kept : changeEntry change entry = some ⟨entry.1, value⟩ := by
            simp [changeEntry, changed]
          rw [Multiset.filterMap_cons_some _ _ _ kept, Multiset.keys_cons]
          exact Multiset.cons_le_cons _ ih

/-- The map with each value changed, without the keys whose value is gone. -/
def filterMapValues (change : Key → Value → Option Value') (map : Finmap fun _ : Key => Value) :
    Finmap fun _ : Key => Value' where
  entries := map.entries.filterMap (changeEntry change)
  nodupKeys :=
    Multiset.nodup_keys.mp
      (Multiset.nodup_of_le (keys_changeEntry_le change map.entries) map.nodupKeys.nodup_keys)

@[simp] theorem lookup_filterMapValues [DecidableEq Key] (change : Key → Value → Option Value')
    (map : Finmap fun _ : Key => Value) (key : Key) :
    (filterMapValues change map).lookup key = (map.lookup key).bind (change key) := by
  apply Option.ext
  intro value
  rw [Finmap.lookup_eq_some_iff, Option.bind_eq_some_iff]
  simp only [filterMapValues, Multiset.mem_filterMap, changeEntry, Option.map_eq_some_iff]
  constructor
  · intro changed
    obtain ⟨⟨other, old⟩, member, value', here, same⟩ := changed
    cases same
    exact ⟨old, Finmap.lookup_eq_some_iff.mpr member, here⟩
  · intro found
    obtain ⟨old, stored, here⟩ := found
    exact ⟨⟨key, old⟩, Finmap.lookup_eq_some_iff.mp stored, value, here, rfl⟩

end SyncFanet
