import Mathlib.Algebra.Order.Ring.Rat
import Mathlib.Algebra.Order.Ring.Canonical
import Mathlib.Algebra.Order.Group.Synonym
import Mathlib.Algebra.Order.Monoid.Unbundled.OrderDual
import Mathlib.Algebra.Order.Monoid.Unbundled.TypeTags
import Mathlib.Data.NNRat.Lemmas
import Mathlib.Tactic.Linarith
import SyncFanet.OlsrEtx.DijkstraGraph

/-!
# What `run` optimises

With `Link_delay` the delays of a path are added up, else its ETX values are added up or
its ML values multiplied. The three are one search over weights that are ordered and
added.
-/

set_option autoImplicit false

namespace SyncFanet.OlsrEtx

open Olsr

inductive Measure where
  | delay
  | etx
  | ml

/-- With this parameter `run` optimises this measure. -/
inductive Optimises (parameter : Parameter) : Measure → Prop where
  | delay (delays : parameter.linkDelay = true) (measured : parameter.linkQuality ≠ .none) :
      Optimises parameter .delay
  | etx (noDelay : parameter.linkDelay = false) (etx : parameter.linkQuality = .etx) :
      Optimises parameter .etx
  | ml (noDelay : parameter.linkDelay = false) (ml : parameter.linkQuality = .ml) :
      Optimises parameter .ml

namespace Measure

def value : Measure → Edge → ℚ
  | .delay => Edge.delay
  | .etx => Edge.quality
  | .ml => Edge.quality

def InRange : Measure → ℚ → Prop
  | .delay, value => 0 ≤ value
  | .etx, value => 0 ≤ value
  | .ml, value => 0 ≤ value ∧ value ≤ 1

def extend : Measure → ℚ → ℚ → ℚ
  | .delay, path, edge => path + edge
  | .etx, path, edge => path + edge
  | .ml, path, edge => path * edge

/-- The one value is as good as the other. -/
def AtLeast : Measure → ℚ → ℚ → Prop
  | .delay, value, other => value ≤ other
  | .etx, value, other => value ≤ other
  | .ml, value, other => other ≤ value

/-- The value of a path: the sum of the delays, the sum of the ETX values or the product
of the ML values. -/
def total : Measure → List Edge → ℚ
  | .delay, edges => (edges.map Edge.delay).sum
  | .etx, edges => (edges.map Edge.quality).sum
  | .ml, edges => (edges.map Edge.quality).prod

theorem total_single (measure : Measure) (edge : Edge) :
    measure.total [edge] = measure.value edge := by
  cases measure <;> simp [total, value]

theorem total_append (measure : Measure) (edges : List Edge) (edge : Edge) :
    measure.total (edges ++ [edge]) = measure.extend (measure.total edges) (measure.value edge) := by
  cases measure <;> simp [total, extend, value]

theorem extend_inRange {measure : Measure} {path edge : ℚ} (inRange : measure.InRange path)
    (inRange' : measure.InRange edge) : measure.InRange (measure.extend path edge) := by
  cases measure with
  | delay => exact add_nonneg inRange inRange'
  | etx => exact add_nonneg inRange inRange'
  | ml => exact ⟨mul_nonneg inRange.1 inRange'.1, mul_le_one₀ inRange.2 inRange'.1 inRange'.2⟩

theorem atLeast_refl (measure : Measure) (value : ℚ) : measure.AtLeast value value := by
  cases measure <;> exact le_refl value

theorem AtLeast.trans {measure : Measure} {value other third : ℚ}
    (first : measure.AtLeast value other) (second : measure.AtLeast other third) :
    measure.AtLeast value third := by
  cases measure with
  | delay => exact le_trans first second
  | etx => exact le_trans first second
  | ml => exact le_trans second first

theorem atLeast_of_not {measure : Measure} {value other : ℚ}
    (worse : ¬ measure.AtLeast value other) : measure.AtLeast other value := by
  cases measure <;> exact (not_le.mp worse).le

end Measure

section

variable {parameter : Parameter} {measure : Measure}

theorem better_measured (optimises : Optimises parameter measure) (hop best : Hop) :
    Dijkstra.better parameter hop best = true ↔
      ¬ measure.AtLeast (measure.value best.link) (measure.value hop.link) := by
  cases optimises with
  | delay delays _ => simp [Dijkstra.better, delays, Measure.AtLeast, Measure.value]
  | etx noDelay etx => simp [Dijkstra.better, noDelay, etx, Measure.AtLeast, Measure.value]
  | ml noDelay ml => simp [Dijkstra.better, noDelay, ml, Measure.AtLeast, Measure.value]

/-- What trying an edge makes of the path to its destination: the path stays if it is as
good as the one over the edge. -/
inductive Relaxed (measure : Measure) (current dest : Hop) (edge : Edge) (hop : Hop) : Prop where
  | kept (same : hop = dest) (reached : dest.hopCount ≠ -1)
      (asGood : measure.AtLeast (measure.value dest.link)
        (measure.extend (measure.value current.link) (measure.value edge)))
  | extended {quality delay : ℚ} (same : hop = Dijkstra.extendHop current edge quality delay)
      (value : measure.value hop.link =
        measure.extend (measure.value current.link) (measure.value edge))
      (worse : dest.hopCount = -1 ∨ ¬ measure.AtLeast (measure.value dest.link)
        (measure.extend (measure.value current.link) (measure.value edge)))

theorem relax_measured (optimises : Optimises parameter measure) (current dest : Hop)
    (edge : Edge) :
    Relaxed measure current dest edge (Dijkstra.relax parameter current edge dest) := by
  cases optimises with
  | delay delays measured =>
      cases quality : parameter.linkQuality with
      | none => exact absurd quality measured
      | etx =>
          by_cases unreached : dest.hopCount = -1
          · simp only [Dijkstra.relax, quality, unreached, if_true]
            exact .extended rfl rfl (.inl unreached)
          · simp only [Dijkstra.relax, quality, delays, unreached, if_false, if_true]
            split
            · next less => exact .extended rfl rfl (.inr (not_le.mpr less))
            · next notLess => exact .kept rfl unreached (not_lt.mp notLess)
      | ml =>
          by_cases unreached : dest.hopCount = -1
          · simp only [Dijkstra.relax, quality, unreached, if_true]
            exact .extended rfl rfl (.inl unreached)
          · simp only [Dijkstra.relax, quality, delays, unreached, if_false, if_true]
            split
            · next less => exact .extended rfl rfl (.inr (not_le.mpr less))
            · next notLess => exact .kept rfl unreached (not_lt.mp notLess)
  | etx noDelay etx =>
      by_cases unreached : dest.hopCount = -1
      · simp only [Dijkstra.relax, etx, unreached, if_true]
        exact .extended rfl rfl (.inl unreached)
      · simp only [Dijkstra.relax, etx, noDelay, unreached, if_false, Bool.false_eq_true]
        split
        · next less => exact .extended rfl rfl (.inr (not_le.mpr less))
        · next notLess => exact .kept rfl unreached (not_lt.mp notLess)
  | ml noDelay ml =>
      by_cases unreached : dest.hopCount = -1
      · simp only [Dijkstra.relax, ml, unreached, if_true]
        exact .extended rfl rfl (.inl unreached)
      · simp only [Dijkstra.relax, ml, noDelay, unreached, if_false, Bool.false_eq_true]
        split
        · next more => exact .extended rfl rfl (.inr (not_le.mpr more))
        · next notMore => exact .kept rfl unreached (not_lt.mp notMore)

end

/-! ## Weights -/

/-- Weights that order the values of a measure and add up along a path. No edge makes a
path better. -/
structure Metric (measure : Measure) (Weight : Type) [LinearOrder Weight] [Add Weight] where
  weigh : ℚ → Weight
  sum : ∀ {path edge : ℚ}, measure.InRange path → measure.InRange edge →
    weigh (measure.extend path edge) = weigh path + weigh edge
  le_iff : ∀ {value other : ℚ}, measure.InRange value → measure.InRange other →
    (weigh value ≤ weigh other ↔ measure.AtLeast value other)
  inflates : ∀ {edge : ℚ} (cost : Weight), measure.InRange edge → cost ≤ cost + weigh edge

def delayMetric : Metric .delay ℚ where
  weigh := id
  sum := fun _ _ => rfl
  le_iff := fun _ _ => Iff.rfl
  inflates := fun _ inRange => le_add_of_nonneg_right inRange

def etxMetric : Metric .etx ℚ where
  weigh := id
  sum := fun _ _ => rfl
  le_iff := fun _ _ => Iff.rfl
  inflates := fun _ inRange => le_add_of_nonneg_right inRange

abbrev Likelihood : Type := Additive ℚ≥0ᵒᵈ

def mlMetric : Metric .ml Likelihood where
  weigh := fun value => Additive.ofMul (OrderDual.toDual value.toNNRat)
  sum := fun inRange _ => congrArg (fun product => Additive.ofMul (OrderDual.toDual product))
    (Rat.toNNRat_mul inRange.1)
  le_iff := fun inRange _ => Rat.toNNRat_le_toNNRat_iff inRange.1
  inflates := fun {edge} cost inRange => by
    have atMost : edge.toNNRat ≤ 1 := Rat.toNNRat_le_iff_le_coe.mpr (by simpa using inRange.2)
    have less : (Additive.toMul cost).ofDual * edge.toNNRat ≤ (Additive.toMul cost).ofDual :=
      mul_le_of_le_one_right zero_le atMost
    exact less

end SyncFanet.OlsrEtx
