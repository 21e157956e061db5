import Mathlib.Data.Finset.Basic
import Mathlib.Data.List.Basic

/-!
# Greedy covers

A list of pairs says which provider reaches which target. A greedy cover picks
providers until every target of the list is reached by a picked one. The rules
below are independent of how the next provider is picked: all that matters is
that the pick reaches at least one target that is still open.
-/

set_option autoImplicit false

namespace SyncFanet.GreedyCover

variable {Pair Provider Target : Type} [DecidableEq Provider] [DecidableEq Target]
variable (provider : Pair → Provider) (target : Pair → Target)

variable {chosen : Provider} {pairs : List Pair}

/-- Targets that the given provider reaches according to the list. -/
def targetsOf (chosen : Provider) (pairs : List Pair) : List Target :=
  (pairs.filter fun pair => provider pair = chosen).map target

/-- Drop every pair whose target the given provider reaches. -/
def dropCovered (chosen : Provider) (pairs : List Pair) : List Pair :=
  let covered := targetsOf provider target chosen pairs
  pairs.filter fun pair => target pair ∉ covered

/-- Pick providers until no pair is left. The loop only ends when the list is
empty, so a pick that fails leaves it running until the fuel is spent. -/
def greedy (pick : List Pair → Option Provider) :
    Nat → List Pair → Finset Provider → Option (Finset Provider)
  | _, [], picked => some picked
  | 0, _ :: _, _ => none
  | fuel + 1, pair :: rest, picked =>
      match pick (pair :: rest) with
      | some chosen => greedy pick fuel
          (dropCovered provider target chosen (pair :: rest)) (insert chosen picked)
      | none => greedy pick fuel (pair :: rest) picked

/-- Every pair of the whole list is still open, or its target is reached by a
picked provider. -/
def Covers (all : List Pair) (picked : Finset Provider) (rest : List Pair) : Prop :=
  ∀ pair ∈ all, pair ∈ rest ∨
    ∃ other ∈ all, target other = target pair ∧ provider other ∈ picked

/-- A pick is productive on the sublists of a list when it always returns a
provider that reaches one of the open targets. -/
def Productive (pick : List Pair → Option Provider) (all : List Pair) : Prop :=
  ∀ rest, rest ⊆ all → rest ≠ [] →
    ∃ chosen, pick rest = some chosen ∧ ∃ pair ∈ rest, provider pair = chosen

variable {provider target}

omit [DecidableEq Target] in
theorem mem_targetsOf {value : Target} :
    value ∈ targetsOf provider target chosen pairs ↔
      ∃ pair ∈ pairs, provider pair = chosen ∧ target pair = value := by
  simp [targetsOf, and_assoc]

theorem mem_dropCovered {pair : Pair} :
    pair ∈ dropCovered provider target chosen pairs ↔
      pair ∈ pairs ∧ ∀ other ∈ pairs, provider other = chosen →
        target other ≠ target pair := by
  simp [dropCovered, mem_targetsOf]

theorem dropCovered_subset (chosen : Provider) (pairs : List Pair) :
    dropCovered provider target chosen pairs ⊆ pairs :=
  fun _ member => (mem_dropCovered.mp member).1

variable (provider target) in
/-- A provider that reaches an open target shortens the list. -/
theorem dropCovered_length_lt {pair : Pair} (member : pair ∈ pairs)
    (reaches : provider pair = chosen) :
    (dropCovered provider target chosen pairs).length < pairs.length := by
  apply List.length_filter_lt_length_iff_exists.mpr
  refine ⟨pair, member, ?_⟩
  simpa using mem_targetsOf.mpr ⟨pair, member, reaches, rfl⟩

namespace Covers

variable {all rest : List Pair} {picked : Finset Provider}

omit [DecidableEq Provider] [DecidableEq Target] in
theorem refl (all : List Pair) (picked : Finset Provider) :
    Covers provider target all picked all :=
  fun _ member => .inl member

omit [DecidableEq Provider] [DecidableEq Target] in
/-- Shrinking the open list is allowed as long as every dropped pair has its
target reached by a picked provider. -/
theorem shrink {rest' : List Pair} {picked' : Finset Provider}
    (covers : Covers provider target all picked rest) (grows : picked ⊆ picked')
    (dropped : ∀ pair ∈ rest, pair ∈ rest' ∨
      ∃ other ∈ all, target other = target pair ∧ provider other ∈ picked') :
    Covers provider target all picked' rest' := by
  intro pair member
  rcases covers pair member with still | ⟨other, included, same, chosen⟩
  · exact dropped pair still
  · exact .inr ⟨other, included, same, grows chosen⟩

omit [DecidableEq Provider] [DecidableEq Target] in
theorem mono {picked' : Finset Provider} (covers : Covers provider target all picked rest)
    (grows : picked ⊆ picked') :
    Covers provider target all picked' rest :=
  covers.shrink grows fun _ member => .inl member

/-- Picking a provider and dropping what it reaches keeps the cover. -/
theorem drop (covers : Covers provider target all picked rest) (sub : rest ⊆ all)
    (chosen : Provider) :
    Covers provider target all (insert chosen picked)
      (dropCovered provider target chosen rest) := by
  apply covers.shrink (Finset.subset_insert _ _)
  intro pair member
  by_cases kept : pair ∈ dropCovered provider target chosen rest
  · exact .inl kept
  · rw [mem_dropCovered] at kept
    push Not at kept
    obtain ⟨other, included, reaches, same⟩ := kept member
    exact .inr ⟨other, sub included, same, by simp [reaches]⟩

omit [DecidableEq Provider] [DecidableEq Target] in
/-- With nothing left open, every target is reached by a picked provider. -/
theorem complete (covers : Covers provider target all picked []) :
    ∀ pair ∈ all, ∃ other ∈ all, target other = target pair ∧ provider other ∈ picked := by
  intro pair member
  rcases covers pair member with still | reached
  · simp at still
  · exact reached

end Covers

/-- A productive greedy loop ends within as many rounds as there are pairs. It
keeps what was picked before, adds only providers of open pairs and leaves no
target of the whole list uncovered. -/
theorem greedy_spec {pick : List Pair → Option Provider} {all : List Pair}
    (productive : Productive provider pick all) (fuel : Nat) (rest : List Pair)
    (picked : Finset Provider) (budget : rest.length ≤ fuel) (sub : rest ⊆ all)
    (covers : Covers provider target all picked rest) :
    ∃ final, greedy provider target pick fuel rest picked = some final ∧
      picked ⊆ final ∧
      (∀ chosen ∈ final, chosen ∈ picked ∨ ∃ pair ∈ rest, provider pair = chosen) ∧
      Covers provider target all final [] := by
  induction fuel generalizing rest picked with
  | zero =>
      have empty : rest = [] := List.length_eq_zero_iff.mp (by omega)
      subst rest
      exact ⟨picked, by simp [greedy], fun _ member => member,
        fun _ member => .inl member, covers⟩
  | succ fuel ih =>
      cases rest with
      | nil =>
          exact ⟨picked, by simp [greedy], fun _ member => member,
            fun _ member => .inl member, covers⟩
      | cons head tail =>
          obtain ⟨chosen, selected, pair, member, reaches⟩ :=
            productive (head :: tail) sub (by simp)
          have shorter := dropCovered_length_lt provider target member reaches
          obtain ⟨final, ran, grows, origin, complete⟩ :=
            ih (dropCovered provider target chosen (head :: tail)) (insert chosen picked)
              (by omega) (fun _ kept => sub (dropCovered_subset _ _ kept))
              (covers.drop sub chosen)
          refine ⟨final, ?_, fun _ old => grows (Finset.mem_insert_of_mem old), ?_, complete⟩
          · simpa [greedy, selected] using ran
          · intro provider' final'
            rcases origin provider' final' with inserted | ⟨other, kept, same⟩
            · rcases Finset.mem_insert.mp inserted with rfl | old
              · exact .inr ⟨pair, member, reaches⟩
              · exact .inl old
            · exact .inr ⟨other, dropCovered_subset _ _ kept, same⟩

/-! ## Renaming of pairs -/

section Renaming

variable {Pair' : Type} (provider' : Pair' → Provider) (target' : Pair' → Target)
variable (rename : Pair → Pair')

omit [DecidableEq Target] in
theorem targetsOf_map (chosen : Provider) (pairs : List Pair) :
    targetsOf provider' target' chosen (pairs.map rename) =
      targetsOf (provider' ∘ rename) (target' ∘ rename) chosen pairs := by
  simp [targetsOf, List.filter_map, Function.comp_def]

theorem dropCovered_map (chosen : Provider) (pairs : List Pair) :
    dropCovered provider' target' chosen (pairs.map rename) =
      (dropCovered (provider' ∘ rename) (target' ∘ rename) chosen pairs).map rename := by
  simp only [dropCovered, targetsOf_map, List.filter_map]
  rfl

/-- The greedy loop only sees the providers and targets of the pairs. -/
theorem greedy_map {pick : List Pair → Option Provider} {pick' : List Pair' → Option Provider}
    (same : ∀ pairs, pick' (pairs.map rename) = pick pairs) (fuel : Nat) (pairs : List Pair)
    (picked : Finset Provider) :
    greedy provider' target' pick' fuel (pairs.map rename) picked =
      greedy (provider' ∘ rename) (target' ∘ rename) pick fuel pairs picked := by
  induction fuel generalizing pairs picked with
  | zero =>
      cases pairs with
      | nil => rfl
      | cons pair rest => rfl
  | succ fuel ih =>
      cases pairs with
      | nil => rfl
      | cons pair rest =>
          have chosen := same (pair :: rest)
          rw [List.map_cons] at chosen
          simp only [List.map_cons, greedy, chosen]
          cases pick (pair :: rest) with
          | some provider =>
              have dropped := dropCovered_map provider' target' rename provider (pair :: rest)
              rw [List.map_cons] at dropped
              simp only [dropped, ih]
          | none =>
              rw [← List.map_cons]
              exact ih (pair :: rest) picked

end Renaming

end SyncFanet.GreedyCover
