import Mathlib.Data.List.Basic
import Mathlib.Data.List.Nodup

/-!
# Writing through the first match

A search that returns a pointer to the first matching element, followed by a
write through it, changes that one element of the list and no other. Where a key
occurs once, the first match is every match.
-/

set_option autoImplicit false

namespace SyncFanet

variable {α β : Type}

/-- Replace the first element that satisfies the predicate. -/
def updateFirst (found : α → Bool) (update : α → α) : List α → List α
  | [] => []
  | head :: tail =>
      if found head then update head :: tail
      else head :: updateFirst found update tail

namespace updateFirst

variable {found : α → Bool} {update : α → α}

/-- A write that keeps the key of every match keeps the list of keys. -/
theorem map_key_of_found {key : α → β}
    (keeps : ∀ value, found value = true → key (update value) = key value) (values : List α) :
    (updateFirst found update values).map key = values.map key := by
  induction values with
  | nil => rfl
  | cons head tail ih =>
      simp only [updateFirst]
      split
      · next here => simp [keeps head here]
      · simp [ih]

theorem map_key {key : α → β} (keeps : ∀ value, key (update value) = key value)
    (values : List α) :
    (updateFirst found update values).map key = values.map key :=
  map_key_of_found (fun value _ => keeps value) values

theorem length_updateFirst (values : List α) :
    (updateFirst found update values).length = values.length := by
  induction values with
  | nil => rfl
  | cons head tail ih =>
      simp only [updateFirst]
      split
      · rfl
      · simp [ih]

theorem mem_cases {values : List α} {other : α} (member : other ∈ updateFirst found update values) :
    other ∈ values ∨ ∃ value ∈ values, found value = true ∧ other = update value := by
  induction values with
  | nil => cases member
  | cons head tail ih =>
      simp only [updateFirst] at member
      split at member
      · next here =>
        cases List.mem_cons.mp member with
        | inl same => exact .inr ⟨head, List.mem_cons_self, here, same⟩
        | inr among => exact .inl (List.mem_cons_of_mem _ among)
      · cases List.mem_cons.mp member with
        | inl same => exact .inl (same ▸ List.mem_cons_self)
        | inr among =>
            cases ih among with
            | inl old => exact .inl (List.mem_cons_of_mem _ old)
            | inr updated =>
                obtain ⟨value, among, here, same⟩ := updated
                exact .inr ⟨value, List.mem_cons_of_mem _ among, here, same⟩

/-- What holds of all values and of those that are written holds after the write. -/
theorem forall_mem {values : List α} {holds : α → Prop} (all : ∀ value ∈ values, holds value)
    (written : ∀ value ∈ values, found value = true → holds (update value)) :
    ∀ value ∈ updateFirst found update values, holds value := by
  intro value member
  rcases mem_cases member with old | ⟨before, among, here, rfl⟩
  · exact all value old
  · exact written before among here

/-- A value that is not looked for stays. -/
theorem mem_of_other {values : List α} {other : α} (member : other ∈ values)
    (differs : found other = false) : other ∈ updateFirst found update values := by
  induction values with
  | nil => cases member
  | cons head tail ih =>
      simp only [updateFirst]
      cases List.mem_cons.mp member with
      | inl here =>
          subst here
          rw [if_neg (by simp [differs])]
          exact List.mem_cons_self
      | inr later =>
          split
          · exact List.mem_cons_of_mem _ later
          · exact List.mem_cons_of_mem _ (ih later)

/-- The first value that is looked for is updated. -/
theorem exists_mem_update {values : List α} (some : values.any found = true) :
    ∃ value ∈ values, update value ∈ updateFirst found update values := by
  induction values with
  | nil => cases some
  | cons head tail ih =>
      simp only [updateFirst]
      by_cases here : found head = true
      · rw [if_pos here]
        exact ⟨head, List.mem_cons_self, List.mem_cons_self⟩
      · rw [if_neg here]
        rw [List.any_cons, Bool.or_eq_true] at some
        obtain ⟨value, member, updated⟩ := ih (some.resolve_left here)
        exact ⟨value, List.mem_cons_of_mem _ member, List.mem_cons_of_mem _ updated⟩

/-- A write that leaves the first match as it is changes nothing. -/
theorem eq_self_of_find? {values : List α}
    (same : ∀ value, values.find? found = some value → update value = value) :
    updateFirst found update values = values := by
  induction values with
  | nil => rfl
  | cons head tail ih =>
      simp only [updateFirst]
      split
      · next here => rw [same head (by simp [here])]
      · next other =>
        rw [ih fun value first => same value (by simp [other, first])]

/-- A search that the write does not disturb finds the updated first match. -/
theorem find?_same (keeps : ∀ value, found value = true → found (update value) = true)
    (values : List α) :
    (updateFirst found update values).find? found = (values.find? found).map update := by
  induction values with
  | nil => rfl
  | cons head tail ih =>
      by_cases here : found head = true
      · simp [updateFirst, here, keeps head here]
      · simp [updateFirst, here, ih]

/-- A search for something else finds what it found before. -/
theorem find?_other {wanted : α → Bool}
    (apart : ∀ value, found value = true → wanted value = false ∧ wanted (update value) = false)
    (values : List α) :
    (updateFirst found update values).find? wanted = values.find? wanted := by
  induction values with
  | nil => rfl
  | cons head tail ih =>
      by_cases here : found head = true
      · simp [updateFirst, here, (apart head here).1, (apart head here).2]
      · by_cases match' : wanted head = true
        · simp [updateFirst, here, match']
        · simp [updateFirst, here, match', ih]

end updateFirst

/-! ## Unique keys -/

variable [DecidableEq β] {key : α → β} {values : List α}

theorem updateFirst_eq_map (unique : (values.map key).Nodup) (wanted : β) (update : α → α) :
    updateFirst (fun value => key value = wanted) update values =
      values.map fun value => if key value = wanted then update value else value := by
  induction values with
  | nil => rfl
  | cons head tail ih =>
      simp only [List.map_cons, List.nodup_cons] at unique
      simp only [updateFirst, List.map_cons]
      by_cases here : key head = wanted
      · have others : ∀ value ∈ tail,
            (if key value = wanted then update value else value) = value := by
          intro value member
          have different : key value ≠ wanted := by
            intro same
            exact unique.1 (List.mem_map.mpr ⟨value, member, same.trans here.symm⟩)
          rw [if_neg different]
        simp [here, List.map_congr_left others]
      · simp [here, ih unique.2]

theorem eraseP_eq_filter (unique : (values.map key).Nodup) (wanted : β) :
    values.eraseP (fun value => key value = wanted) =
      values.filter fun value => key value ≠ wanted := by
  induction values with
  | nil => rfl
  | cons head tail ih =>
      simp only [List.map_cons, List.nodup_cons] at unique
      by_cases here : key head = wanted
      · have others : ∀ value ∈ tail, key value ≠ wanted := by
          intro value member same
          exact unique.1 (List.mem_map.mpr ⟨value, member, same.trans here.symm⟩)
        have kept : tail.filter (fun value => !decide (key value = wanted)) = tail := by
          simpa [List.filter_eq_self] using others
        simp [here, kept]
      · simp [here, ih unique.2]

theorem nodup_append_single {Key : Type} {keys : List Key} (unique : keys.Nodup) {last : Key}
    (absent : last ∉ keys) : (keys ++ [last]).Nodup := by
  rw [← List.concat_eq_append]
  exact unique.concat absent

omit [DecidableEq β] in
theorem nodup_eraseP (unique : (values.map key).Nodup) (erased : α → Bool) :
    ((values.eraseP erased).map key).Nodup :=
  unique.sublist (List.eraseP_sublist.map key)

/-- Erasing a key makes room for a new element with that key. -/
theorem nodup_replace (unique : (values.map key).Nodup) (value : α) :
    ((values.eraseP (fun other => key other = key value) ++ [value]).map key).Nodup := by
  rw [eraseP_eq_filter unique, List.map_append, List.nodup_append]
  refine ⟨unique.sublist (List.filter_sublist.map key), by simp, ?_⟩
  intro other member last among
  obtain ⟨kept, included, rfl⟩ := List.mem_map.mp member
  have different := (List.mem_filter.mp included).2
  have same : last = key value := by simpa using among
  simpa [same] using different

/-- With unique keys an element is what a search for its key finds. -/
theorem find?_key (unique : (values.map key).Nodup) {value : α} (member : value ∈ values) :
    values.find? (fun other => key other = key value) = some value := by
  induction values with
  | nil => cases member
  | cons head tail ih =>
      simp only [List.map_cons, List.nodup_cons] at unique
      rcases List.mem_cons.mp member with rfl | member
      · simp
      · have different : key head ≠ key value := by
          intro same
          exact unique.1 (List.mem_map.mpr ⟨value, member, same.symm⟩)
        simp [different, ih unique.2 member]

end SyncFanet
