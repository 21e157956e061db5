import Mathlib.Data.Rat.Defs
import Mathlib.Algebra.Order.Field.Rat
import Mathlib.Logic.Function.Basic
import Mathlib.Tactic.NormNum

/-!
# Link delay

A node sends its first packet twice, with consecutive numbers, and its neighbour estimates the
delay of the link from the time between the two. `link_delay_init` and
`link_delay_computation`, and the pairs they combine.
-/

set_option autoImplicit false

namespace SyncFanet.OlsrEtx

/-! ## The slots -/

/-- `CAPPROBE_MAX_ARRAY`. -/
def capprobeMaxArray : Nat := 16

/-- The delay fields of a link tuple. Not in the source are `probe1`, the packets whose travel
times are in `recv1_`, and `steps`, the packets that each smoothing step combined. -/
structure LinkDelay where
  linkDelay : ℚ
  nbLinkDelay : ℚ
  recv1 : Fin capprobeMaxArray → ℚ
  recv2 : Fin capprobeMaxArray → ℚ
  probe1 : Fin capprobeMaxArray → Option Int
  steps : List (Option Int × Int)

/-- `link_delay_init`. -/
def linkDelayInit : LinkDelay where
  linkDelay := 4
  nbLinkDelay := 6
  recv1 := fun _ => -1
  recv2 := fun _ => -1
  probe1 := fun _ => none
  steps := []

/-- An index into the arrays. -/
def arrayIndex (i : Int) : Option (Fin capprobeMaxArray) :=
  if within : 0 ≤ i ∧ i < capprobeMaxArray then some ⟨i.toNat, by omega⟩ else none

/-- Whether the number is the one of a second packet. -/
def isSecond (sn : Int) : Bool := (sn.tmod capprobeMaxArray).tmod 2 = 0

/-- The index that is computed from a number. -/
def slotOf (sn : Int) : Int :=
  if isSecond sn then (sn.tmod capprobeMaxArray - 1).tdiv 2 else (sn.tmod capprobeMaxArray).tdiv 2

namespace LinkDelay

/-- The branch for a second packet. -/
def combine (cAlpha recv2 : ℚ) (sn : Int) (i : Fin capprobeMaxArray) (link : LinkDelay) :
    LinkDelay :=
  let disp := recv2 - link.recv1 i
  let smoothed :=
    if link.recv1 i > 0 ∧ disp > 0 then
      { link with
        linkDelay := cAlpha * disp + (1 - cAlpha) * link.linkDelay
        steps := link.steps ++ [(link.probe1 i, sn)] }
    else link
  { smoothed with
    recv1 := Function.update link.recv1 i (-1), recv2 := Function.update link.recv2 i (-1)
    probe1 := Function.update link.probe1 i none }

/-- The branch for a first packet. -/
def remember (recv1 : ℚ) (sn : Int) (i : Fin capprobeMaxArray) (link : LinkDelay) : LinkDelay :=
  { link with
    recv1 := Function.update link.recv1 i recv1, recv2 := Function.update link.recv2 i 0
    probe1 := Function.update link.probe1 i (some sn) }

/-- `link_delay_computation`, unless it writes outside the arrays. -/
def linkDelayComputation (cAlpha now sendTime : ℚ) (sn : Int) (link : LinkDelay) :
    Option LinkDelay :=
  (arrayIndex (slotOf sn)).map fun i =>
    if isSecond sn then link.combine cAlpha (now - sendTime) sn i
    else link.remember (now - sendTime) sn i

end LinkDelay

/-! ## Pairs -/

/-- The times at which the two packets of a pair are sent and received. -/
structure ProbePair where
  firstSent : ℚ
  firstReceived : ℚ
  secondSent : ℚ
  secondReceived : ℚ

namespace ProbePair

def firstTravel (pair : ProbePair) : ℚ := pair.firstReceived - pair.firstSent

def dispersion (pair : ProbePair) : ℚ := pair.secondReceived - pair.secondSent - pair.firstTravel

end ProbePair

namespace LinkDelay

/-- The packets `2 * k + 1` and `2 * k + 2` are received. -/
def receivePair (cAlpha : ℚ) (k : Nat) (pair : ProbePair) (link : LinkDelay) : Option LinkDelay :=
  (link.linkDelayComputation cAlpha pair.firstReceived pair.firstSent (2 * k + 1)).bind
    (linkDelayComputation cAlpha pair.secondReceived pair.secondSent (2 * k + 2))

/-- Pairs are received one after the other, from a number on. -/
def receivePairs (cAlpha : ℚ) : Nat → List ProbePair → LinkDelay → Option LinkDelay
  | _, [], link => some link
  | k, pair :: rest, link =>
      (link.receivePair cAlpha k pair).bind (receivePairs cAlpha (k + 1) rest)

/-! ## Which slots meet -/

section

variable {cAlpha : ℚ} {k : Nat} {pair : ProbePair} {link : LinkDelay}

theorem isSecond_natCast (n : Nat) : isSecond n = decide (n % 16 % 2 = 0) := by
  have rest : ((n : Int).tmod capprobeMaxArray).tmod 2 = ((n % 16 % 2 : Nat) : Int) := rfl
  rw [isSecond, rest]
  exact decide_eq_decide.mpr Int.natCast_eq_zero

theorem isSecond_first (k : Nat) : isSecond (2 * k + 1) = false := by
  have number := isSecond_natCast (2 * k + 1)
  push_cast at number
  rw [number]
  exact decide_eq_false (by omega)

theorem isSecond_second (k : Nat) : isSecond (2 * k + 2) = true := by
  have number := isSecond_natCast (2 * k + 2)
  push_cast at number
  rw [number]
  exact decide_eq_true (by omega)

theorem slotOf_first (k : Nat) : slotOf (2 * k + 1) = (k % 8 : Nat) := by
  have slot : ((2 * k + 1 : Nat) : Int).tmod capprobeMaxArray =
      ((2 * k + 1) % 16 : Nat) := rfl
  push_cast at slot
  rw [slotOf, isSecond_first, if_neg (by decide), slot, Int.tdiv_eq_ediv_of_nonneg (by omega)]
  omega

theorem slotOf_second (k : Nat) :
    slotOf (2 * k + 2) = if k % 8 = 7 then 0 else ((k % 8 : Nat) : Int) := by
  have slot : ((2 * k + 2 : Nat) : Int).tmod capprobeMaxArray =
      ((2 * k + 2) % 16 : Nat) := rfl
  push_cast at slot
  rw [slotOf, isSecond_second, if_pos rfl, slot]
  split
  · next last =>
    have wraps : ((2 : Int) * k + 2) % 16 = 0 := by omega
    rw [wraps]
    rfl
  · rw [Int.tdiv_eq_ediv_of_nonneg (by omega)]
    omega

theorem slotOf_eq_iff (k : Nat) : slotOf (2 * k + 1) = slotOf (2 * k + 2) ↔ k % 8 ≠ 7 := by
  rw [slotOf_first, slotOf_second]
  split
  · next last => simp [last]
  · next other => simp [other]

/-! ## What a pair leaves -/

def pairSlot (k : Nat) : Fin capprobeMaxArray :=
  ⟨k % 8, (Nat.mod_lt k (by decide)).trans (by decide)⟩

theorem arrayIndex_natCast {n : Nat} (within : n < capprobeMaxArray) :
    arrayIndex n = some ⟨n, within⟩ := by
  rw [arrayIndex, dif_pos ⟨Int.natCast_nonneg n, by exact_mod_cast within⟩]
  rfl

theorem receivePair_eq (cAlpha : ℚ) (k : Nat) (pair : ProbePair) (link : LinkDelay) :
    link.receivePair cAlpha k pair = some
      ((link.remember pair.firstTravel (2 * k + 1) (pairSlot k)).combine cAlpha
        (pair.secondReceived - pair.secondSent) (2 * k + 2)
        (if k % 8 = 7 then pairSlot 0 else pairSlot k)) := by
  have first : arrayIndex (slotOf (2 * k + 1)) = some (pairSlot k) := by
    rw [slotOf_first]
    exact arrayIndex_natCast _
  have second : arrayIndex (slotOf (2 * k + 2)) =
      some (if k % 8 = 7 then pairSlot 0 else pairSlot k) := by
    rw [slotOf_second]
    split
    · rfl
    · exact arrayIndex_natCast _
  simp only [receivePair, linkDelayComputation, first, second, isSecond_first, isSecond_second,
    Option.map_some, Option.bind_some, if_true, Bool.false_eq_true, if_false,
    ProbePair.firstTravel]

/-- The packets of a pair, as a smoothing step records them. -/
def pairStep (k : Nat) : Option Int × Int := (some (2 * (k : Int) + 1), 2 * k + 2)

def Clear (link : LinkDelay) : Prop := ∀ i, i ≠ pairSlot 7 → link.recv1 i = -1

theorem clear_init : Clear linkDelayInit := fun _ _ => rfl

theorem combine_recv1 (cAlpha recv2 : ℚ) (sn : Int) (i : Fin capprobeMaxArray)
    (link : LinkDelay) :
    (link.combine cAlpha recv2 sn i).recv1 = Function.update link.recv1 i (-1) := by
  rfl

theorem combine_smooths (link : LinkDelay) (cAlpha : ℚ) (sn : Int) {recv2 : ℚ}
    {i : Fin capprobeMaxArray} (stored : 0 < link.recv1 i) (disperses : 0 < recv2 - link.recv1 i) :
    (link.combine cAlpha recv2 sn i).steps = link.steps ++ [(link.probe1 i, sn)] ∧
      (link.combine cAlpha recv2 sn i).linkDelay =
        cAlpha * (recv2 - link.recv1 i) + (1 - cAlpha) * link.linkDelay := by
  simp only [combine, gt_iff_lt, stored, disperses, and_self, if_true]

theorem combine_leaves (link : LinkDelay) (cAlpha : ℚ) (sn : Int) {recv2 : ℚ}
    {i : Fin capprobeMaxArray} (nothing : ¬(0 < link.recv1 i ∧ 0 < recv2 - link.recv1 i)) :
    (link.combine cAlpha recv2 sn i).steps = link.steps ∧
      (link.combine cAlpha recv2 sn i).linkDelay = link.linkDelay := by
  simp only [combine, gt_iff_lt, nothing, if_false, and_self]

theorem Clear.receivePair (clear : Clear link) {after : LinkDelay}
    (ran : link.receivePair cAlpha k pair = some after) : Clear after := by
  rw [receivePair_eq, Option.some.injEq] at ran
  rw [← ran]
  intro i other
  rw [combine_recv1]
  by_cases last : k % 8 = 7
  · have first : pairSlot k = pairSlot 7 := Fin.ext last
    rw [if_pos last, first]
    by_cases zero : i = pairSlot 0
    · rw [zero, Function.update_self]
    · rw [Function.update_of_ne zero]
      exact (Function.update_of_ne other _ _).trans (clear i other)
  · rw [if_neg last]
    by_cases here : i = pairSlot k
    · rw [here, Function.update_self]
    · rw [Function.update_of_ne here]
      exact (Function.update_of_ne here _ _).trans (clear i other)

theorem Clear.receivePairs (clear : Clear link) (cAlpha : ℚ) (k : Nat)
    (pairs : List ProbePair) :
    ∃ after, link.receivePairs cAlpha k pairs = some after ∧ Clear after := by
  induction pairs generalizing link k with
  | nil => exact ⟨link, rfl, clear⟩
  | cons pair rest ih =>
      have ran := receivePair_eq cAlpha k pair link
      obtain ⟨after, received, cleared⟩ := ih (clear.receivePair ran) (k + 1)
      exact ⟨after, by rw [LinkDelay.receivePairs, ran]; exact received, cleared⟩

/-- A pair that meets in a slot is combined if its first packet took any time, and no pair
meets a travel time of another. -/
theorem Clear.combined (clear : Clear link) (cAlpha : ℚ) (k : Nat) (pair : ProbePair)
    {after : LinkDelay} (ran : link.receivePair cAlpha k pair = some after) :
    if k % 8 ≠ 7 ∧ 0 < pair.firstTravel ∧ 0 < pair.dispersion then
      after.steps = link.steps ++ [pairStep k] ∧
        after.linkDelay = cAlpha * pair.dispersion + (1 - cAlpha) * link.linkDelay
    else after.steps = link.steps ∧ after.linkDelay = link.linkDelay := by
  rw [receivePair_eq, Option.some.injEq] at ran
  rw [← ran]
  let first := link.remember pair.firstTravel (2 * k + 1) (pairSlot k)
  by_cases last : k % 8 = 7
  · rw [if_pos last, if_neg (fun met => met.1 last)]
    have empty : first.recv1 (pairSlot 0) = -1 := by
      have apart : pairSlot 0 ≠ pairSlot k := fun same =>
        absurd (Fin.mk.inj_iff.mp same) (by omega)
      exact (Function.update_of_ne apart _ _).trans (clear _ (by decide))
    refine combine_leaves first cAlpha _ ?_
    rw [empty]
    exact fun met => absurd met.1 (by norm_num)
  · rw [if_neg last]
    have stored : first.recv1 (pairSlot k) = pair.firstTravel := Function.update_self ..
    have probe : first.probe1 (pairSlot k) = some (2 * (k : Int) + 1) := Function.update_self ..
    by_cases met : 0 < pair.firstTravel ∧ 0 < pair.dispersion
    · rw [if_pos ⟨last, met⟩, pairStep, ← probe]
      rw [← stored] at met
      have smooths := combine_smooths first cAlpha (2 * k + 2) met.1
        (show 0 < pair.secondReceived - pair.secondSent - _ from stored ▸ met.2)
      rwa [stored] at smooths
    · rw [if_neg fun all => met all.2]
      refine combine_leaves first cAlpha _ ?_
      rw [stored]
      exact met

/-! ## Matched pairs -/

/-- The pair that is received after the others is matched: its packets share a slot, and it
makes one smoothing step if its dispersion is positive, of its own two packets. -/
structure Matched (cAlpha : ℚ) (before : List ProbePair) (pair : ProbePair) : Prop where
  sameSlot : slotOf (2 * before.length + 1) = slotOf (2 * before.length + 2)
  combined : ∃ link after, linkDelayInit.receivePairs cAlpha 0 before = some link ∧
    link.receivePair cAlpha before.length pair = some after ∧
    after.steps = link.steps ++ (if 0 < pair.dispersion then [pairStep before.length] else []) ∧
    after.linkDelay = if 0 < pair.dispersion then
      cAlpha * pair.dispersion + (1 - cAlpha) * link.linkDelay else link.linkDelay

theorem matched_iff (cAlpha : ℚ) (before : List ProbePair) (pair : ProbePair) :
    Matched cAlpha before pair ↔
      before.length % 8 ≠ 7 ∧ (0 < pair.dispersion → 0 < pair.firstTravel) := by
  obtain ⟨link, received, clear⟩ := clear_init.receivePairs cAlpha 0 before
  have ran := receivePair_eq cAlpha before.length pair link
  have combined := clear.combined cAlpha before.length pair ran
  constructor
  · rintro ⟨sameSlot, first, after, receivedFirst, ranAfter, steps, -⟩
    have other := (slotOf_eq_iff _).mp sameSlot
    refine ⟨other, fun disperses => ?_⟩
    by_contra instant
    cases received.symm.trans receivedFirst
    cases ran.symm.trans ranAfter
    rw [if_neg fun met => instant met.2.1] at combined
    rw [combined.1, if_pos disperses] at steps
    simp at steps
  · rintro ⟨other, takesTime⟩
    refine ⟨(slotOf_eq_iff _).mpr other, link, _, received, ran, ?_⟩
    by_cases disperses : 0 < pair.dispersion
    · rw [if_pos ⟨other, takesTime disperses, disperses⟩] at combined
      rw [if_pos disperses, if_pos disperses]
      exact combined
    · rw [if_neg fun met => disperses met.2.2] at combined
      rw [if_neg disperses, if_neg disperses, List.append_nil]
      exact combined

def steadyPair : ProbePair where
  firstSent := 0
  firstReceived := 2
  secondSent := 0
  secondReceived := 3

/-- The eighth pair has the numbers 15 and 16, and its packets go to the slots 7 and 0. -/
theorem not_matched :
    ¬∀ (cAlpha : ℚ) (before : List ProbePair) (pair : ProbePair), Matched cAlpha before pair := by
  intro all
  have sameSlot := (all (1 / 2) (List.replicate 7 steadyPair) steadyPair).sameSlot
  rw [List.length_replicate] at sameSlot
  revert sameSlot
  decide

end

end LinkDelay

end SyncFanet.OlsrEtx
