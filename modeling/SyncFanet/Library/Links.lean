import Mathlib.Data.List.Basic

/-!
# Links of a walk

The pairs of neighbouring nodes of a list, in its order.
-/

set_option autoImplicit false

namespace SyncFanet

variable {Node : Type}

def links (nodes : List Node) : List (Node × Node) :=
  nodes.zip nodes.tail

@[simp] theorem links_nil : links ([] : List Node) = [] := rfl

@[simp] theorem links_singleton (node : Node) : links [node] = [] := rfl

@[simp] theorem links_cons_cons (first second : Node) (rest : List Node) :
    links (first :: second :: rest) = (first, second) :: links (second :: rest) := rfl

@[simp] theorem length_links (nodes : List Node) : (links nodes).length = nodes.length - 1 := by
  simp [links]

/-- Two walks that meet at a node have the links of the one and of the other. -/
theorem links_append (before : List Node) (node : Node) (after : List Node) :
    links (before ++ node :: after) = links (before ++ [node]) ++ links (node :: after) := by
  induction before with
  | nil => rfl
  | cons first before ih =>
      cases before with
      | nil => rfl
      | cons second before =>
          simp only [List.cons_append, links_cons_cons] at ih ⊢
          rw [ih]

theorem links_reverse (nodes : List Node) :
    links nodes.reverse = ((links nodes).map Prod.swap).reverse := by
  induction nodes with
  | nil => rfl
  | cons first rest ih =>
      cases rest with
      | nil => rfl
      | cons second rest =>
          rw [List.reverse_cons, List.reverse_cons, List.append_assoc, List.singleton_append,
            links_append, ← List.reverse_cons, ih]
          simp

/-- A link that is added at the front leads to the first node. -/
theorem links_cons_sublist (node : Node) (nodes : List Node) :
    (links nodes).Sublist (links (node :: nodes)) := by
  cases nodes with
  | nil => exact List.Sublist.refl _
  | cons first rest => exact List.sublist_cons_self _ _

/-- A run of a walk has some of its links. -/
theorem links_sublist_within {part nodes : List Node} (run : part <:+: nodes) :
    (links part).Sublist (links nodes) := by
  obtain ⟨before, after, rfl⟩ := run
  have late : ∀ nodes : List Node, (links nodes).Sublist (links (before ++ nodes)) := by
    induction before with
    | nil => exact fun nodes => List.Sublist.refl _
    | cons first before ih =>
        exact fun nodes => (ih nodes).trans (links_cons_sublist first (before ++ nodes))
  have early : (links part).Sublist (links (part ++ after)) := by
    rcases List.eq_nil_or_concat' part with rfl | ⟨front, last, rfl⟩
    · exact List.nil_sublist _
    · rw [List.append_assoc, List.singleton_append, links_append front last after]
      exact List.sublist_append_left _ _
  rw [List.append_assoc]
  exact early.trans (late _)

end SyncFanet
