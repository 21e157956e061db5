import Mathlib.Data.List.Basic

/-!
# Loop invariants of folds

A loop over a list is a fold. The invariant of such a loop speaks about the
elements seen so far and the accumulator; each step extends the seen part.
-/

set_option autoImplicit false

namespace SyncFanet

variable {Item Acc Error : Type}

variable {items : List Item} {initial : Acc} {Value Result : Type}
  {step : Acc → Item → Except Error Acc}

variable {computation : Except Error Value} {fault : Error} {next : Value → Except Error Result}

/-- A list split at an element, of which the last element is known. -/
theorem split_last {before after : List Item} {last item : Item}
    (split : items ++ [last] = before ++ item :: after) :
    (after = [] ∧ items = before ∧ last = item) ∨
      ∃ rest, after = rest ++ [last] ∧ items = before ++ item :: rest := by
  rcases List.eq_nil_or_concat after with rfl | ⟨rest, final, rfl⟩
  · have same := List.append_inj' split rfl
    exact .inl ⟨rfl, same.1, by simpa using same.2⟩
  · have shape : items ++ [last] = (before ++ item :: rest) ++ [final] := by
      simpa using split
    have same := List.append_inj' shape rfl
    have equal : last = final := by simpa using same.2
    exact .inr ⟨rest, by simp [equal], same.1⟩

/-- The loop with the elements that are still to come. -/
theorem foldl_split (step : Acc → Item → Acc) (invariant : List Item → Acc → Prop)
    (start : invariant [] initial)
    (next : ∀ seen item rest acc, items = seen ++ item :: rest → invariant seen acc →
      invariant (seen ++ [item]) (step acc item)) :
    invariant items (items.foldl step initial) := by
  have loop : ∀ (rest seen : List Item) (acc : Acc), items = seen ++ rest → invariant seen acc →
      invariant (seen ++ rest) (rest.foldl step acc) := by
    intro rest
    induction rest with
    | nil => intro seen acc _ holds; simpa using holds
    | cons item rest ih =>
        intro seen acc split holds
        have finished := ih (seen ++ [item]) (step acc item) (by simpa using split)
          (next seen item rest acc split holds)
        simpa using finished
  simpa using loop items [] initial rfl start

theorem foldl_seen (step : Acc → Item → Acc) (invariant : List Item → Acc → Prop)
    (start : invariant [] initial)
    (next : ∀ seen item acc, item ∈ items → invariant seen acc →
      invariant (seen ++ [item]) (step acc item)) :
    invariant items (items.foldl step initial) :=
  foldl_split step invariant start fun seen item rest acc split =>
    next seen item acc (by simp [split])

theorem foldl_keeps (step : Acc → Item → Acc) (invariant : Acc → Prop) (start : invariant initial)
    (next : ∀ item acc, item ∈ items → invariant acc → invariant (step acc item)) :
    invariant (items.foldl step initial) :=
  foldl_seen step (fun _ acc => invariant acc) start fun _ item acc => next item acc

/-- What one item brings about, and every other one keeps. -/
theorem foldl_reaches (step : Acc → Item → Acc) (goal : Acc → Prop) {item : Item}
    (member : item ∈ items) (reaches : ∀ acc, goal (step acc item))
    (keeps : ∀ acc, ∀ other ∈ items, goal acc → goal (step acc other)) (initial : Acc) :
    goal (items.foldl step initial) := by
  obtain ⟨before, after, rfl⟩ := List.append_of_mem member
  rw [List.foldl_append, List.foldl_cons]
  refine foldl_keeps step goal (reaches _) ?_
  intro other acc among holds
  exact keeps acc other (List.mem_append_right _ (List.mem_cons_of_mem _ among)) holds

/-- A step raises the flag by what it sees of the accumulator, which stays as it is where the
step does not. -/
def RaisesFlag {View : Type} (view : Acc → View) (raises : View → Item → Bool)
    (step : Acc × Bool → Item → Acc × Bool) : Prop :=
  ∀ acc item, (step acc item).2 = (acc.2 || raises (view acc.1) item) ∧
    (raises (view acc.1) item = false → view (step acc item).1 = view acc.1)

/-- The loop raises the flag by what it sees before its first step. -/
theorem RaisesFlag.foldl {View : Type} {view : Acc → View} {raises : View → Item → Bool}
    {step : Acc × Bool → Item → Acc × Bool} (each : RaisesFlag view raises step) :
    RaisesFlag view (fun seen items => items.any (raises seen))
      (fun acc (items : List Item) => items.foldl step acc) := by
  intro acc items
  induction items generalizing acc with
  | nil => simp
  | cons item rest ih =>
      obtain ⟨flag, same⟩ := each acc item
      obtain ⟨later, kept⟩ := ih (step acc item)
      dsimp only at later kept ⊢
      rw [List.foldl_cons, List.any_cons]
      cases here : raises (view acc.1) item with
      | true =>
          rw [here] at flag
          rw [later, flag]
          simp
      | false =>
          rw [same here] at later kept
          rw [later, flag, here, Bool.or_false, Bool.false_or]
          exact ⟨rfl, kept⟩

theorem bind_ok {result : Result} :
    computation.bind next = .ok result ↔
      ∃ value, computation = .ok value ∧ next value = .ok result := by
  cases computation with
  | error fault => simp [Except.bind]
  | ok value => simp [Except.bind]

theorem map_ok {f : Value → Result} {result : Result} (ran : computation.map f = .ok result) :
    ∃ value, computation = .ok value ∧ f value = result := by
  cases computation with
  | error fault => cases ran
  | ok value =>
      cases ran
      exact ⟨value, rfl, rfl⟩

theorem toOption_some {value : Value} (ran : computation.toOption = some value) :
    computation = .ok value := by
  cases computation with
  | error fault => cases ran
  | ok other => exact congrArg Except.ok (Option.some.inj ran)

theorem bind_error :
    computation.bind next = .error fault ↔ computation = .error fault ∨
      ∃ value, computation = .ok value ∧ next value = .error fault := by
  cases computation with
  | error other => simp [Except.bind]
  | ok value => simp [Except.bind]

/-- Two computations in a row fail in a way only if one of them does. -/
theorem bind_avoids (first : computation ≠ .error fault)
    (second : ∀ value, computation = .ok value → next value ≠ .error fault) :
    computation.bind next ≠ .error fault := by
  intro failed
  rcases bind_error.mp failed with failed | ⟨value, ran, failed⟩
  · exact first failed
  · exact second value ran failed

theorem foldlM_avoids (next : ∀ acc item, step acc item ≠ .error fault) (items : List Item)
    (initial : Acc) :
    items.foldlM step initial ≠ .error fault := by
  induction items generalizing initial with
  | nil => exact nofun
  | cons item rest ih =>
      rw [List.foldlM_cons]
      exact bind_avoids (next initial item) fun acc _ => ih acc

/-- The invariant of a loop that may stop with an error holds when it ends. -/
theorem foldlM_split {final : Acc} (ran : items.foldlM step initial = .ok final)
    (invariant : List Item → Acc → Prop) (start : invariant [] initial)
    (next : ∀ seen item rest acc acc', items = seen ++ item :: rest → invariant seen acc →
      step acc item = .ok acc' → invariant (seen ++ [item]) acc') :
    invariant items final := by
  have loop : ∀ (rest seen : List Item) (acc : Acc), items = seen ++ rest → invariant seen acc →
      rest.foldlM step acc = .ok final → invariant (seen ++ rest) final := by
    intro rest
    induction rest with
    | nil =>
        intro seen acc _ holds ended
        have same : acc = final := by simpa [pure, Except.pure] using ended
        simpa [← same] using holds
    | cons item rest ih =>
        intro seen acc split holds ended
        rw [List.foldlM_cons] at ended
        obtain ⟨acc', stepped, remaining⟩ := bind_ok.mp ended
        have finished := ih (seen ++ [item]) acc' (by simpa using split)
          (next seen item rest acc acc' split holds stepped) remaining
        simpa using finished
  simpa using loop items [] initial rfl start ran

theorem foldlM_seen {final : Acc} (ran : items.foldlM step initial = .ok final)
    (invariant : List Item → Acc → Prop) (start : invariant [] initial)
    (next : ∀ seen item acc acc', item ∈ items → invariant seen acc →
      step acc item = .ok acc' → invariant (seen ++ [item]) acc') :
    invariant items final :=
  foldlM_split ran invariant start fun seen item rest acc acc' split =>
    next seen item acc acc' (by simp [split])

/-- A loop whose steps all succeed under the invariant succeeds. -/
theorem foldlM_total_split (step : Acc → Item → Except Error Acc)
    (invariant : List Item → Acc → Prop) (start : invariant [] initial)
    (next : ∀ seen item rest acc, items = seen ++ item :: rest → invariant seen acc →
      ∃ acc', step acc item = .ok acc' ∧ invariant (seen ++ [item]) acc') :
    ∃ final, items.foldlM step initial = .ok final ∧ invariant items final := by
  have loop : ∀ (rest seen : List Item) (acc : Acc), items = seen ++ rest → invariant seen acc →
      ∃ final, rest.foldlM step acc = .ok final ∧ invariant (seen ++ rest) final := by
    intro rest
    induction rest with
    | nil =>
        intro seen acc _ holds
        exact ⟨acc, rfl, by simpa using holds⟩
    | cons item rest ih =>
        intro seen acc split holds
        obtain ⟨acc', stepped, kept⟩ := next seen item rest acc split holds
        obtain ⟨final, ended, finished⟩ := ih (seen ++ [item]) acc' (by simpa using split) kept
        refine ⟨final, ?_, by simpa using finished⟩
        rw [List.foldlM_cons, stepped]
        exact ended
  simpa using loop items [] initial rfl start

theorem foldlM_total (step : Acc → Item → Except Error Acc) (invariant : Acc → Prop)
    (start : invariant initial)
    (next : ∀ item acc, item ∈ items → invariant acc →
      ∃ acc', step acc item = .ok acc' ∧ invariant acc') :
    ∃ final, items.foldlM step initial = .ok final ∧ invariant final :=
  foldlM_total_split step (fun _ acc => invariant acc) start fun seen item rest acc split =>
    next item acc (by simp [split])

/-- A loop that follows another one, which cannot fail, step by step. -/
theorem foldlM_follows {Acc' : Type} {step' : Acc' → Item → Acc'} (related : Acc → Acc' → Prop)
    (next : ∀ item acc acc', item ∈ items → related acc acc' →
      ∃ stepped, step acc item = .ok stepped ∧ related stepped (step' acc' item))
    {initial' : Acc'} (start : related initial initial') :
    ∃ final, items.foldlM step initial = .ok final ∧
      related final (items.foldl step' initial') := by
  induction items generalizing initial initial' with
  | nil => exact ⟨initial, rfl, start⟩
  | cons item rest ih =>
      obtain ⟨stepped, ran, holds⟩ := next item initial initial' List.mem_cons_self start
      obtain ⟨final, ended, finished⟩ := ih
        (fun other acc acc' member => next other acc acc' (List.mem_cons_of_mem item member)) holds
      refine ⟨final, ?_, finished⟩
      rw [List.foldlM_cons, ran]
      exact ended

theorem mapM_ok {step : Item → Except Error Value} {value : Item → Value}
    (each : ∀ item ∈ items, step item = .ok (value item)) :
    items.mapM step = .ok (items.map value) := by
  induction items with
  | nil => rfl
  | cons item rest ih =>
      rw [List.mapM_cons, each item List.mem_cons_self,
        ih fun other member => each other (List.mem_cons_of_mem item member)]
      rfl

/-- Every value of a loop was computed for one of its items. -/
theorem mem_mapM {step : Item → Except Error Value} {values : List Value}
    (ran : items.mapM step = .ok values) {value : Value} (member : value ∈ values) :
    ∃ item ∈ items, step item = .ok value := by
  induction items generalizing values with
  | nil =>
      cases ran
      cases member
  | cons item rest ih =>
      rw [List.mapM_cons] at ran
      obtain ⟨first, stepped, ran⟩ := bind_ok.mp ran
      obtain ⟨others, looped, ran⟩ := bind_ok.mp ran
      cases ran
      rcases List.mem_cons.mp member with rfl | later
      · exact ⟨item, List.mem_cons_self, stepped⟩
      · obtain ⟨other, among, computed⟩ := ih looped later
        exact ⟨other, List.mem_cons_of_mem item among, computed⟩

end SyncFanet
