import Mathlib.Data.List.GetD
import Mathlib.Data.List.Perm.Basic
import Mathlib.Order.Lattice
import SyncFanet.Library.Fold

/-!
# Keeping the greatest items of a stream

A loop that keeps a bounded number of the items it sees: while there is room it appends an
item, after that a greater item takes the place of the first least one. What it keeps are items
of greatest key, each as often as it has been seen at most.
-/

set_option autoImplicit false

namespace SyncFanet

variable {Item Key : Type} [LinearOrder Key]

/-- The place of the first of the least values, as a loop over the places finds it. -/
def leastIndex (value : Nat → Key) (count : Nat) : Nat :=
  (List.range' 1 (count - 1)).foldl
    (fun least i => if value i < value least then i else least) 0

theorem leastIndex_least (value : Nat → Key) {count : Nat} (some : 0 < count) :
    leastIndex value count < count ∧ ∀ i < count, value (leastIndex value count) ≤ value i := by
  have loop : leastIndex value count < count ∧ value (leastIndex value count) ≤ value 0 ∧
      ∀ i ∈ List.range' 1 (count - 1), value (leastIndex value count) ≤ value i := by
    refine foldl_seen _ (fun seen least => least < count ∧ value least ≤ value 0 ∧
      ∀ i ∈ seen, value least ≤ value i) ⟨some, le_refl _, ?_⟩ ?_
    · exact fun _ member => absurd member List.not_mem_nil
    · intro seen i least member keeps
      obtain ⟨inside, first, all⟩ := keeps
      have bounds := List.mem_range'_1.mp member
      split
      · next less =>
        refine ⟨by omega, less.le.trans first, fun j among => ?_⟩
        rcases List.mem_append.mp among with earlier | last
        · exact less.le.trans (all j earlier)
        · rw [List.mem_singleton.mp last]
      · next notLess =>
        refine ⟨inside, first, fun j among => ?_⟩
        rcases List.mem_append.mp among with earlier | last
        · exact all j earlier
        · rw [List.mem_singleton.mp last]
          exact not_lt.mp notLess
  refine ⟨loop.1, fun i inside => ?_⟩
  cases i with
  | zero => exact loop.2.1
  | succ i => exact loop.2.2 _ (List.mem_range'_1.mpr (by omega))

/-- A round of the loop. -/
def keepTop (key : Item → Key) (capacity : Nat) (kept : List Item) (item : Item) : List Item :=
  if kept.length < capacity then kept ++ [item]
  else
    let least := leastIndex (fun i => key (kept.getD i item)) kept.length
    if key (kept.getD least item) < key item then kept.set least item else kept

/-- As many of the items seen as there is room for are kept, none of them with a smaller key
than one that is dropped. -/
structure TopOf (key : Item → Key) (capacity : Nat) (seen kept : List Item) : Prop where
  size : kept.length = min capacity seen.length
  dropped : ∃ dropped, (kept ++ dropped).Perm seen ∧
    ∀ lost ∈ dropped, ∀ item ∈ kept, key lost ≤ key item

section

variable {key : Item → Key} {capacity : Nat} {seen kept : List Item}

/-- A full selection without a least item has room for no item. -/
theorem keepTop_full (key : Item → Key) (full : capacity ≤ kept.length) (some : kept ≠ [])
    (item : Item) :
    ∃ before least after, kept = before ++ least :: after ∧
      (∀ other ∈ kept, key least ≤ key other) ∧
      keepTop key capacity kept item =
        if key least < key item then before ++ item :: after else kept := by
  obtain ⟨inside, least⟩ :=
    leastIndex_least (fun i => key (kept.getD i item)) (List.length_pos_iff.mpr some)
  generalize place : leastIndex (fun i => key (kept.getD i item)) kept.length = i at inside least
  have here : kept.getD i item = kept[i] := List.getD_eq_getElem _ _ inside
  refine ⟨kept.take i, kept[i], kept.drop (i + 1), ?_, ?_, ?_⟩
  · rw [← List.drop_eq_getElem_cons inside, List.take_append_drop]
  · intro other member
    obtain ⟨j, within, rfl⟩ := List.mem_iff_getElem.mp member
    have bound := least j within
    rwa [here, List.getD_eq_getElem _ _ within] at bound
  · rw [keepTop, if_neg (Nat.not_lt.mpr full)]
    simp only [place, here]
    rw [List.set_eq_take_append_cons_drop, if_pos inside]

namespace TopOf

theorem nil : TopOf key capacity [] [] :=
  ⟨(Nat.min_zero capacity).symm, [], List.Perm.refl [],
    fun _ member => absurd member List.not_mem_nil⟩

theorem step (some : 0 < capacity) (top : TopOf key capacity seen kept) (item : Item) :
    TopOf key capacity (seen ++ [item]) (keepTop key capacity kept item) := by
  obtain ⟨size, dropped, whole, below⟩ := top
  have total := whole.length_eq
  rw [List.length_append] at total
  rcases Nat.lt_or_ge kept.length capacity with room | full
  · have none : dropped = [] := List.eq_nil_of_length_eq_zero (by omega)
    subst none
    rw [List.append_nil] at whole
    rw [keepTop, if_pos room]
    refine ⟨?_, [], ?_, fun _ member => absurd member List.not_mem_nil⟩
    · rw [List.length_append, List.length_append, List.length_singleton]
      omega
    · rw [List.append_nil]
      exact whole.append_right [item]
  · have filled : kept.length = capacity := by omega
    have some' : kept ≠ [] := by
      rintro rfl
      rw [List.length_nil] at filled
      omega
    obtain ⟨before, least, after, split, lowest, round⟩ := keepTop_full key full some' item
    have later : (seen ++ [item]).Perm (item :: seen) := List.perm_append_singleton item seen
    rw [round]
    split
    · next greater =>
      refine ⟨?_, least :: dropped, ?_, ?_⟩
      · rw [split, List.length_append, List.length_cons] at filled
        simp only [List.length_append, List.length_cons, List.length_nil]
        omega
      · have swapped : (before ++ item :: after ++ least :: dropped).Perm
            (item :: (kept ++ dropped)) := by
          rw [split, List.append_assoc, List.append_assoc, List.cons_append, List.cons_append]
          exact List.perm_middle.trans ((List.perm_middle.append_left before).cons item)
        exact swapped.trans ((whole.cons item).trans later.symm)
      · have above : ∀ other ∈ before ++ item :: after, key least ≤ key other := by
          intro other member
          rcases List.mem_append.mp member with first | rest
          · exact lowest other (split ▸ List.mem_append_left _ first)
          · rcases List.mem_cons.mp rest with rfl | last
            · exact greater.le
            · exact lowest other
                (split ▸ List.mem_append_right _ (List.mem_cons_of_mem _ last))
        intro lost among other member
        rcases List.mem_cons.mp among with rfl | old
        · exact above other member
        · have under := below lost old least
            (split ▸ List.mem_append_right _ List.mem_cons_self)
          exact under.trans (above other member)
    · next notGreater =>
      refine ⟨?_, item :: dropped, ?_, ?_⟩
      · rw [List.length_append, List.length_singleton]
        omega
      · exact List.perm_middle.trans ((whole.cons item).trans later.symm)
      · intro lost among other member
        rcases List.mem_cons.mp among with rfl | old
        · exact (not_lt.mp notGreater).trans (lowest other member)
        · exact below lost old other member

/-- The loop keeps items of greatest key. -/
theorem foldl (some : 0 < capacity) (items : List Item) :
    TopOf key capacity items (items.foldl (keepTop key capacity) []) :=
  foldl_seen (keepTop key capacity) (TopOf key capacity) nil fun _ item _ _ top =>
    top.step some item

/-! ## What is kept -/

theorem subperm (top : TopOf key capacity seen kept) : kept.Subperm seen := by
  obtain ⟨dropped, whole, -⟩ := top.dropped
  exact (List.sublist_append_left kept dropped).subperm.trans whole.subperm

theorem le_of_not_mem (top : TopOf key capacity seen kept) {lost item : Item}
    (member : lost ∈ seen) (omitted : lost ∉ kept) (among : item ∈ kept) :
    key lost ≤ key item := by
  obtain ⟨dropped, whole, below⟩ := top.dropped
  rcases List.mem_append.mp (whole.mem_iff.mpr member) with here | there
  · exact absurd here omitted
  · exact below lost there item among

/-- Items with greater keys than one that is kept are all kept. -/
theorem countP_greater (top : TopOf key capacity seen kept) {item : Item} (member : item ∈ kept) :
    kept.countP (fun other => key item < key other) =
      seen.countP fun other => key item < key other := by
  obtain ⟨dropped, whole, below⟩ := top.dropped
  have none : dropped.countP (fun other => decide (key item < key other)) = 0 :=
    List.countP_eq_zero.mpr fun lost among => by
      simpa using below lost among item member
  rw [← whole.countP_eq, List.countP_append, none, Nat.add_zero]

variable [DecidableEq Item] {item : Item}

/-- An item of which more copies are seen than kept has a least key among those kept. -/
theorem le_of_count (top : TopOf key capacity seen kept) {other : Item}
    (fewer : kept.count item < seen.count item) (member : other ∈ kept) :
    key item ≤ key other := by
  obtain ⟨dropped, whole, below⟩ := top.dropped
  have total := whole.count_eq item
  rw [List.count_append] at total
  have among : item ∈ dropped := List.count_pos_iff.mp (by omega)
  exact below item among other member

/-- An item is kept once if greater items take all places but one. -/
theorem count_le_one (top : TopOf key capacity seen kept)
    (greater : capacity ≤ seen.countP (fun other => key item < key other) + 1) :
    kept.count item ≤ 1 := by
  by_cases member : item ∈ kept
  · have all := top.countP_greater member
    have size := top.size
    have apart : kept.count item ≤ kept.countP fun other => !decide (key item < key other) :=
      List.countP_mono_left fun other _ same => by simp [eq_of_beq same]
    have split := List.length_eq_countP_add_countP (fun other => decide (key item < key other))
      (l := kept)
    simp only [Bool.decide_eq_true, decide_not] at split
    omega
  · rw [List.count_eq_zero.mpr member]
    exact Nat.zero_le 1

/-- If copies of an item are dropped and no other item that is kept has its key, the others are
greater. -/
theorem length_le_of_count (top : TopOf key capacity seen kept)
    (fewer : kept.count item < seen.count item)
    (single : ∀ other ∈ kept, key other = key item → other = item) :
    kept.length ≤ kept.countP (fun other => key item < key other) + kept.count item := by
  have split := List.length_eq_countP_add_countP (fun other => decide (key item < key other))
    (l := kept)
  have rest : kept.countP (fun other => ¬decide (key item < key other) = true) ≤
      kept.count item := by
    refine List.countP_mono_left fun other member notGreater => ?_
    have notLess : ¬key item < key other := by simpa using notGreater
    have same := single other member
      (le_antisymm (not_lt.mp notLess) (top.le_of_count fewer member))
    simp [same]
  omega

end TopOf

end

end SyncFanet
