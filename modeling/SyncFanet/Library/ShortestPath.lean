import Mathlib.Algebra.Order.Monoid.Unbundled.Basic
import Mathlib.Order.Bounds.Basic

/-!
# Settling nodes in the order of their costs

Costs of paths that are added up along the way, and the invariant of a search that
repeatedly settles the cheapest open node and relaxes the links that leave it.
Addition need not be associative; it has to be monotone, and links must not make a
path cheaper.
-/

set_option autoImplicit false

namespace SyncFanet

variable {Node Weight : Type}

/-- The costs of the paths to a node: a first link, then links from node to node. -/
inductive PathCost [Add Weight] (first : Node → Weight → Prop)
    (link : Node → Node → Weight → Prop) : Node → Weight → Prop where
  | first {node : Node} {cost : Weight} (starts : first node cost) :
      PathCost first link node cost
  | next {last node : Node} {cost weight : Weight} (path : PathCost first link last cost)
      (linked : link last node weight) : PathCost first link node (cost + weight)

/-- Paths over fewer links are paths. -/
theorem PathCost.weaken [Add Weight] {first first' : Node → Weight → Prop}
    {link link' : Node → Node → Weight → Prop} {node : Node} {cost : Weight}
    (path : PathCost first link node cost) (firsts : ∀ node cost, first node cost → first' node cost)
    (links : ∀ last node weight, link last node weight → link' last node weight) :
    PathCost first' link' node cost := by
  induction path with
  | first starts => exact .first (firsts _ _ starts)
  | next _ linked ih => exact ih.next (links _ _ _ linked)

/-- When some links can be replaced by cheaper paths, all paths over them can. -/
theorem PathCost.replace [LinearOrder Weight] [Add Weight] [AddRightMono Weight]
    {first : Node → Weight → Prop} {link kept : Node → Node → Weight → Prop} {node : Node}
    {cost : Weight}
    (replaced : ∀ last node weight cost, link last node weight → PathCost first kept last cost →
      ∃ cheaper ≤ cost + weight, PathCost first kept node cheaper)
    (path : PathCost first link node cost) :
    ∃ cheaper ≤ cost, PathCost first kept node cheaper := by
  induction path with
  | first starts => exact ⟨_, le_refl _, .first starts⟩
  | next _ linked ih =>
      obtain ⟨before, cheaper, path⟩ := ih
      obtain ⟨after, bound, path'⟩ := replaced _ _ _ _ linked path
      exact ⟨after, bound.trans (add_le_add_left cheaper _), path'⟩

section

variable [LinearOrder Weight] [Add Weight] {first : Node → Weight → Prop}
  {link : Node → Node → Weight → Prop}

/-- The labels of the search: open nodes have the costs of paths over closed ones, and
closed nodes have the least costs. -/
structure Searched (first : Node → Weight → Prop) (link : Node → Node → Weight → Prop)
    (label : Node → Option Weight) (isOpen : Node → Prop) : Prop where
  sound : ∀ node cost, label node = some cost → PathCost first link node cost
  starts : ∀ node cost, first node cost → ∃ best ≤ cost, label node = some best
  relaxed : ∀ last node cost weight, ¬ isOpen last → label last = some cost →
    link last node weight → ∃ best ≤ cost + weight, label node = some best
  least : ∀ node cost, ¬ isOpen node → PathCost first link node cost →
    ∃ best ≤ cost, label node = some best

/-- An open node with a label such that no open node has a lower one. -/
structure Cheapest (label : Node → Option Weight) (isOpen : Node → Prop) (current : Node)
    (best : Weight) : Prop where
  opened : isOpen current
  labelled : label current = some best
  least : ∀ node cost, isOpen node → label node = some cost → best ≤ cost

/-- The labels after the links of the current node were relaxed. -/
structure Relaxes (link : Node → Node → Weight → Prop) (isOpen : Node → Prop) (current : Node)
    (best : Weight) (label label' : Node → Option Weight) : Prop where
  closed : ∀ node, ¬ isOpen node → label' node = label node
  lower : ∀ node cost, label node = some cost → ∃ cost' ≤ cost, label' node = some cost'
  linked : ∀ node weight, isOpen node → link current node weight →
    ∃ cost ≤ best + weight, label' node = some cost
  origin : ∀ node cost, label' node = some cost →
    label node = some cost ∨ ∃ weight, link current node weight ∧ cost = best + weight

variable {label label' : Node → Option Weight} {isOpen : Node → Prop} {current : Node}
  {best : Weight}

/-- No path to a node that is still open is cheaper than the cheapest open label. -/
theorem Searched.bound [AddRightMono Weight] (searched : Searched first link label isOpen)
    (inflates : ∀ last node weight cost, link last node weight → cost ≤ cost + weight)
    (cheapest : Cheapest label isOpen current best) {node : Node} {cost : Weight}
    (path : PathCost first link node cost) : ¬ isOpen node ∨ best ≤ cost := by
  induction path with
  | @first node cost starts =>
      by_cases opened : isOpen node
      · obtain ⟨known, bound, labelled⟩ := searched.starts node cost starts
        exact .inr ((cheapest.least node known opened labelled).trans bound)
      · exact .inl opened
  | @next last node cost weight path linked ih =>
      by_cases opened : isOpen node
      · right
        rcases ih with closed | bound
        · obtain ⟨before, cheaper, labelled⟩ := searched.least last cost closed path
          obtain ⟨after, bound, labelled'⟩ :=
            searched.relaxed last node before weight closed labelled linked
          calc best ≤ after := cheapest.least node after opened labelled'
            _ ≤ before + weight := bound
            _ ≤ cost + weight := add_le_add_left cheaper weight
        · exact bound.trans (inflates last node weight cost linked)
      · exact .inl opened

/-- Settling the cheapest open node. -/
theorem Searched.settle [AddRightMono Weight] (searched : Searched first link label isOpen)
    (inflates : ∀ last node weight cost, link last node weight → cost ≤ cost + weight)
    (cheapest : Cheapest label isOpen current best)
    (relaxes : Relaxes link isOpen current best label label') :
    Searched first link label' fun node => isOpen node ∧ node ≠ current := by
  have settled : label' current = some best := by
    obtain ⟨cost, cheaper, labelled⟩ := relaxes.lower current best cheapest.labelled
    rcases relaxes.origin current cost labelled with same | ⟨weight, linked, rfl⟩
    · rw [labelled, ← same, cheapest.labelled]
    · have equal : best + weight = best :=
        le_antisymm cheaper (inflates current current weight best linked)
      rw [labelled, equal]
  have reached : PathCost first link current best :=
    searched.sound current best cheapest.labelled
  constructor
  · intro node cost labelled
    rcases relaxes.origin node cost labelled with same | ⟨weight, linked, rfl⟩
    · exact searched.sound node cost same
    · exact reached.next linked
  · intro node cost starts
    obtain ⟨before, bound, labelled⟩ := searched.starts node cost starts
    obtain ⟨after, cheaper, labelled'⟩ := relaxes.lower node before labelled
    exact ⟨after, cheaper.trans bound, labelled'⟩
  · intro last node cost weight closed labelled linked
    by_cases opened : isOpen last
    · have here : last = current := by
        by_contra different
        exact closed ⟨opened, different⟩
      subst here
      have same : best = cost := by
        rw [settled] at labelled
        exact Option.some.inj labelled
      subst same
      by_cases open' : isOpen node
      · exact relaxes.linked node weight open' linked
      · obtain ⟨before, cheaper, labelled'⟩ :=
          searched.least node (best + weight) open' (reached.next linked)
        exact ⟨before, cheaper, (relaxes.closed node open').trans labelled'⟩
    · rw [relaxes.closed last opened] at labelled
      obtain ⟨before, bound, labelled'⟩ :=
        searched.relaxed last node cost weight opened labelled linked
      obtain ⟨after, cheaper, labelled''⟩ := relaxes.lower node before labelled'
      exact ⟨after, cheaper.trans bound, labelled''⟩
  · intro node cost closed path
    by_cases opened : isOpen node
    · have here : node = current := by
        by_contra different
        exact closed ⟨opened, different⟩
      subst here
      rcases searched.bound inflates cheapest path with other | bound
      · exact absurd opened other
      · exact ⟨best, bound, settled⟩
    · obtain ⟨before, bound, labelled⟩ := searched.least node cost opened path
      exact ⟨before, bound, (relaxes.closed node opened).trans labelled⟩

/-- When no open node has a label, the labels are the least costs of the nodes that
paths lead to. -/
theorem Searched.finished [AddRightMono Weight] (searched : Searched first link label isOpen)
    (exhausted : ∀ node, isOpen node → label node = none) {node : Node} {cost : Weight}
    (path : PathCost first link node cost) : ∃ best ≤ cost, label node = some best := by
  induction path with
  | first starts => exact searched.starts _ _ starts
  | @next last node cost weight path linked ih =>
      obtain ⟨before, cheaper, labelled⟩ := ih
      have closed : ¬ isOpen last := fun opened => by
        simp [exhausted last opened] at labelled
      obtain ⟨after, bound, labelled'⟩ :=
        searched.relaxed last node before weight closed labelled linked
      exact ⟨after, bound.trans (add_le_add_left cheaper weight), labelled'⟩

theorem Searched.isLeast [AddRightMono Weight] (searched : Searched first link label isOpen)
    (exhausted : ∀ node, isOpen node → label node = none) {node : Node} {best : Weight}
    (labelled : label node = some best) :
    IsLeast { cost | PathCost first link node cost } best := by
  refine ⟨searched.sound node best labelled, ?_⟩
  intro cost path
  obtain ⟨least, bound, same⟩ := searched.finished exhausted path
  rw [labelled] at same
  exact Option.some.inj same ▸ bound

end

end SyncFanet
