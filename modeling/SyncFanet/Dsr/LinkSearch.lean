import Mathlib.Algebra.Order.Field.Rat
import Mathlib.Data.List.GetD
import Mathlib.Tactic.Linarith
import SyncFanet.Dsr.LinkRoutes
import SyncFanet.Library.Fold
import SyncFanet.Library.ShortestPath

/-!
# The links and the heap of `run`

A new element goes between one that it is not less than and one that it is less than, and the
element that is extracted is one of those at the front with the same cost.
-/

set_option autoImplicit false

namespace SyncFanet.Dsr

namespace LinkCache

variable {heap : List SetElem} {rand : Nat}

abbrev LinkArray := Finmap fun _ : InAddr => List Edge

abbrev RouteMap := Finmap fun _ : InAddr => RouteState

def edgesFrom (linkArray : LinkArray) (origin : InAddr) : List Edge :=
  (linkArray.lookup origin).getD []

/-- There is a link between two nodes that has not expired. -/
def Unexpired (linkArray : LinkArray) (now : SimTime) (origin last : InAddr) : Prop :=
  ∃ edge ∈ edgesFrom linkArray origin, edge.lastNode = last ∧ now < edge.expires

/-- The links that the functions of the link cache leave: of cost 1, one at most from a node
to another, and from every node that a link leads to. -/
structure WellFormed (linkArray : LinkArray) : Prop where
  unit : ∀ origin, ∀ edge ∈ edgesFrom linkArray origin, edge.costAdd = 1
  single : ∀ origin, ((edgesFrom linkArray origin).map Edge.lastNode).Nodup
  ends : ∀ origin, ∀ edge ∈ edgesFrom linkArray origin,
    ∃ edges, linkArray.lookup edge.lastNode = some edges

/-! ## The heap -/

theorem places_ne_nil (elem : SetElem) (heap : List SetElem) : places elem heap ≠ [] := by
  have bound : heap.findIdx elem.less ≤ heap.length := List.findIdx_le_length
  apply List.ne_nil_of_mem
  refine List.mem_filter.mpr ⟨List.mem_range.mpr (Nat.lt_succ_of_le bound), decide_eq_true ⟨?_, ?_⟩⟩
  · rw [List.getLast?_take]
    by_cases start : heap.findIdx elem.less = 0
    · rw [if_pos start]
      rfl
    · have inside : heap.findIdx elem.less - 1 < heap.findIdx elem.less := by omega
      rw [if_neg start, List.getElem?_eq_getElem (by omega)]
      have passed := List.not_of_lt_findIdx inside
      simp [passed]
  · by_cases ended : heap.findIdx elem.less < heap.length
    · rw [List.getElem?_eq_getElem ended]
      have here : elem.less heap[heap.findIdx elem.less] = true := List.findIdx_getElem
      exact here
    · rw [List.getElem?_eq_none (Nat.le_of_not_lt ended)]
      rfl

/-- A new element goes between one that it is not less than and one that it is less than. -/
theorem insertElem_between (place : Nat) (elem : SetElem) (heap : List SetElem) :
    ∃ front behind, heap = front ++ behind ∧
      insertElem place elem heap = front ++ elem :: behind ∧
      (∀ before ∈ front.getLast?, elem.less before = false) ∧
      ∀ next ∈ behind.head?, elem.less next = true := by
  have positive : 0 < (places elem heap).length :=
    List.length_pos_iff.mpr (places_ne_nil elem heap)
  have inside := Nat.mod_lt place positive
  have member : (places elem heap).getD (place % (places elem heap).length) 0 ∈
      places elem heap := by
    rw [List.getD_eq_getElem _ _ inside]
    exact List.getElem_mem inside
  obtain ⟨ranged, fits⟩ := List.mem_filter.mp member
  obtain ⟨before, behind⟩ := of_decide_eq_true fits
  refine ⟨_, _, (List.take_append_drop _ heap).symm, rfl, ?_, ?_⟩
  · intro other last
    rw [Option.mem_def.mp last] at before
    exact Bool.eq_false_of_not_eq_true (of_decide_eq_true before)
  · intro other first
    rw [List.head?_drop] at first
    rw [Option.mem_def.mp first] at behind
    exact behind

theorem extracted_lt (nonempty : heap ≠ []) :
    extracted rand heap < equalCount heap := by
  have positive : 0 < equalCount heap := by
    cases heap with
    | nil => exact absurd rfl nonempty
    | cons first rest =>
        cases rest with
        | nil => exact Nat.zero_lt_one
        | cons second rest =>
            unfold equalCount
            split <;> omega
  unfold extracted
  dsimp only
  split
  · next several =>
      have bound := Nat.mod_lt rand several
      omega
  · exact positive

theorem equalCount_least {index : Nat} {elem : SetElem}
    (sorted : heap.Pairwise fun first second => first.costAdd ≤ second.costAdd)
    (within : index < equalCount heap) (here : heap[index]? = some elem) :
    ∀ other ∈ heap, elem.costAdd ≤ other.costAdd := by
  induction heap generalizing index with
  | nil => cases here
  | cons first rest ih =>
      obtain ⟨above, sorted'⟩ := List.pairwise_cons.mp sorted
      cases index with
      | zero =>
          cases here
          intro other member
          cases List.mem_cons.mp member with
          | inl same => rw [same]
          | inr later => exact above other later
      | succ index =>
          have later : rest[index]? = some elem := here
          cases rest with
          | nil => cases later
          | cons second rest =>
              unfold equalCount at within
              split at within
              · omega
              · next equal =>
                  have least := ih sorted' (by omega) later
                  intro other member
                  cases List.mem_cons.mp member with
                  | inl same =>
                      rw [same]
                      exact (least second List.mem_cons_self).trans (not_lt.mp equal)
                  | inr among => exact least other among

theorem extracted_lt_length (nonempty : heap ≠ []) :
    extracted rand heap < heap.length := by
  have within : equalCount heap ≤ heap.length := by
    clear nonempty
    induction heap with
    | nil => exact le_refl _
    | cons first rest ih =>
        cases rest with
        | nil => exact le_refl _
        | cons second rest =>
            unfold equalCount
            split
            · exact Nat.succ_le_succ (Nat.zero_le _)
            · rw [List.length_cons]
              omega
  exact (extracted_lt nonempty).trans_le within

theorem heap_of_extracted_none (none : heap[extracted rand heap]? = none) : heap = [] := by
  by_contra nonempty
  exact absurd (extracted_lt_length nonempty) (not_lt.mpr (List.getElem?_eq_none_iff.mp none))

/-! ## The links of one node -/

section

variable {linkArray : LinkArray} {now : SimTime} {origin node : InAddr}

theorem edgesFrom_of_lookup {edges : List Edge} (stored : linkArray.lookup origin = some edges) :
    edgesFrom linkArray origin = edges := by
  simp [edgesFrom, stored]

theorem edgesFrom_insert {edges : List Edge} :
    edgesFrom (linkArray.insert origin edges) node =
      if node = origin then edges else edgesFrom linkArray node := by
  unfold edgesFrom
  by_cases same : node = origin
  · subst same
    simp
  · rw [Finmap.lookup_insert_of_ne _ same, if_neg same]

end

/-! ## The search -/

def starts (rootNode : InAddr) (node : InAddr) (cost : ℚ) : Prop :=
  node = rootNode ∧ cost = 0

def hop (links : InAddr → InAddr → Prop) (origin last : InAddr) (weight : ℚ) : Prop :=
  links origin last ∧ weight = 1

def label (routeMap : RouteMap) (node : InAddr) : Option ℚ :=
  (routeMap.lookup node).map RouteState.costAdd

def isOpen (routeMap : RouteMap) (node : InAddr) : Prop :=
  ∀ state, routeMap.lookup node = some state → state.perm = false

/-- The route map with which the search starts. -/
def rootMap (rootNode : InAddr) : RouteMap :=
  Finmap.singleton rootNode { costAdd := 0, idPrev := 0, perm := false }

theorem lookup_rootMap {rootNode node : InAddr} {state : RouteState} :
    (rootMap rootNode).lookup node = some state ↔
      node = rootNode ∧ state = { costAdd := 0, idPrev := 0, perm := false } := by
  by_cases same : node = rootNode
  · subst same
    simp [rootMap, eq_comm]
  · have absent : (rootMap rootNode).lookup node = none := by
      apply Finmap.lookup_eq_none.mpr
      simpa [rootMap] using same
    simp [absent, same]

end LinkCache

end SyncFanet.Dsr
