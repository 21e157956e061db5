import Mathlib.Data.List.Chain
import Mathlib.Data.List.Nodup

/-!
# Chains of links

Lists in which each node is linked to the next one. A shortest chain between two nodes repeats
none of them, and the nodes of a chain are ends of links.
-/

set_option autoImplicit false

namespace SyncFanet

variable {Node : Type} {linked : Node → Node → Prop} {first last node : Node}
  {nodes before between after : List Node}

/-- The part of a chain between two visits of one node is left out. -/
theorem isChain_cut (chain : (before ++ node :: (between ++ node :: after)).IsChain linked) :
    (before ++ node :: after).IsChain linked := by
  obtain ⟨front, rest⟩ := List.isChain_split.mp chain
  rw [← List.cons_append] at rest
  exact List.isChain_split.mpr ⟨front, (List.isChain_split.mp rest).2⟩

theorem exists_repeated (repeats : ¬ nodes.Nodup) : ∃ node before between after,
    nodes = before ++ node :: (between ++ node :: after) := by
  induction nodes with
  | nil => exact absurd List.nodup_nil repeats
  | cons head tail ih =>
      by_cases again : head ∈ tail
      · obtain ⟨between, after, rfl⟩ := List.append_of_mem again
        exact ⟨head, [], between, after, rfl⟩
      · have later : ¬ tail.Nodup := fun distinct =>
          repeats (List.nodup_cons.mpr ⟨again, distinct⟩)
        obtain ⟨node, before, between, after, rfl⟩ := ih later
        exact ⟨node, head :: before, between, after, rfl⟩

/-- A chain of the fewest nodes between two that differ. -/
theorem nodup_of_shortest (apart : last ≠ first)
    (chain : (first :: (nodes ++ [last])).IsChain linked)
    (least : ∀ others, (first :: (others ++ [last])).IsChain linked →
      nodes.length ≤ others.length) : (first :: (nodes ++ [last])).Nodup := by
  by_contra repeats
  obtain ⟨node, before, between, after, split⟩ := exists_repeated repeats
  rw [split] at chain
  have cut := isChain_cut chain
  have length := congrArg List.length split
  simp only [List.length_cons, List.length_append, List.length_nil] at length
  obtain ⟨back, final, behind⟩ : ∃ back final, node :: after = back ++ [final] :=
    (List.eq_nil_or_concat' (node :: after)).resolve_left (List.cons_ne_nil _ _)
  have regrouped : (first :: nodes) ++ [last] = (before ++ node :: between ++ back) ++ [final] := by
    have flat : (first :: nodes) ++ [last] = before ++ node :: between ++ (node :: after) := by
      simpa using split
    rw [flat, behind, List.append_assoc, List.append_assoc]
    simp
  obtain ⟨front, same⟩ := List.append_inj' regrouped rfl
  obtain rfl : last = final := List.singleton_inj.mp same
  have backLength := congrArg List.length behind
  simp only [List.length_cons, List.length_append, List.length_nil] at backLength
  rw [behind] at cut
  cases before with
  | nil =>
      obtain rfl : first = node := (List.cons.inj front).1
      cases back with
      | nil => exact apart (List.cons.inj behind).1.symm
      | cons head back =>
          obtain rfl : first = head := (List.cons.inj behind).1
          have shorter := least back cut
          simp only [List.length_cons, List.length_nil] at length backLength
          omega
  | cons head before =>
      obtain rfl : first = head := (List.cons.inj front).1
      have shorter := least (before ++ back) (by simpa using cut)
      simp only [List.length_cons, List.length_append] at length shorter
      omega

theorem zip_tail_of_isChain (chain : nodes.IsChain linked) :
    ∀ link ∈ nodes.zip nodes.tail, linked link.1 link.2 := by
  induction nodes with
  | nil => exact nofun
  | cons first rest ih =>
      cases rest with
      | nil => exact nofun
      | cons second rest =>
          obtain ⟨here, later⟩ := List.isChain_cons_cons.mp chain
          intro link member
          cases List.mem_cons.mp member with
          | inl same => exact same ▸ here
          | inr among => exact ih later link among

/-- Every node of a chain with more nodes than one is an end of a link. -/
theorem mem_link (chain : nodes.IsChain linked) (several : 1 < nodes.length)
    (member : node ∈ nodes) : ∃ other, linked node other ∨ linked other node := by
  obtain ⟨before, after, rfl⟩ := List.append_of_mem member
  obtain ⟨front, rest⟩ := List.isChain_split.mp chain
  cases after with
  | cons next after => exact ⟨next, .inl (List.isChain_cons_cons.mp rest).1⟩
  | nil =>
      rcases List.eq_nil_or_concat' before with rfl | ⟨before, previous, rfl⟩
      · exact absurd several (lt_irrefl 1)
      · rw [List.append_assoc, List.singleton_append] at front
        have pair := (List.isChain_split.mp front).2
        exact ⟨previous, .inr (List.isChain_cons_cons.mp pair).1⟩

end SyncFanet
