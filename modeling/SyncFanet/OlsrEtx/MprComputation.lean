import SyncFanet.Olsr.MprComputation

/-!
# MPR routines of OLSR_ETX

`olsr_r1_`, `olsr_r2_`, `qolsr_` and `olsrd_mpr_computation`, and the selection
among them and the RFC 3626 heuristic by `Mpr_algorithm`. Qualities and delays are
values of any type with the operations that the comparisons use.
-/

set_option autoImplicit false

namespace SyncFanet.OlsrEtx

open Olsr

variable {Metric : Type}

structure EtxLinkTuple (Metric : Type) extends LinkTuple where
  etx : Metric
  linkDelay : Metric

structure EtxNb2hopTuple (Metric : Type) extends Nb2hopTuple where
  etx : Metric

/-- The sets of `OLSR_ETX_state` that the MPR routines read. -/
structure EtxState (Metric : Type) where
  linkset : List (EtxLinkTuple Metric)
  nbset : List NbTuple
  nb2hopset : List (EtxNb2hopTuple Metric)

inductive MprAlgorithm where
  | default
  | r1
  | r2
  | qolsr
  | olsrd
  deriving DecidableEq, Repr

inductive LinkQuality where
  | none
  | etx
  | ml
  deriving DecidableEq, Repr

structure Parameter where
  mprAlgorithm : MprAlgorithm
  linkQuality : LinkQuality
  linkDelay : Bool

abbrev nbMain (hop : EtxNb2hopTuple Metric) : NsAddr := hop.nbMainAddr

abbrev nb2hop (hop : EtxNb2hopTuple Metric) : NsAddr := hop.nb2hopAddr

namespace EtxState

/-- What the inherited routines of `OLSR` see. -/
def base (state : EtxState Metric) : State where
  linkset := state.linkset.map EtxLinkTuple.toLinkTuple
  nbset := state.nbset
  nb2hopset := state.nb2hopset.map EtxNb2hopTuple.toNb2hopTuple

def findSymLinkTuple (state : EtxState Metric) (ifaceAddr : NsAddr) (now : Int) :
    Option (EtxLinkTuple Metric) :=
  match state.linkset.find? fun tuple => tuple.nbIfaceAddr = ifaceAddr with
  | some tuple => if tuple.symTime > now then some tuple else none
  | none => none

end EtxState

/-- The candidates of `olsr_r2_` and `qolsr_`: unwilling neighbors are left out. -/
def willingNeighbors (nbset : List NbTuple) : List NbTuple :=
  nbset.filter fun tuple => tuple.status = .sym ∧ tuple.willingness ≠ willNever

/-! ## Comparison of candidates -/

section Comparison

variable [Add Metric] [Mul Metric] [LT Metric] [DecidableLT Metric] [BEq Metric]

/-- More reachable 2-hop neighbors, then a greater degree. -/
def widerReach (state : EtxState Metric) (current candidate : Nat × NbTuple) : Bool :=
  candidate.1 > current.1 ∨
    candidate.1 = current.1 ∧ degree state.base candidate.2 > degree state.base current.2

/-- A candidate without a symmetric link is not taken; one with a link replaces
one without. -/
def betterLink (better : EtxLinkTuple Metric → EtxLinkTuple Metric → Bool) :
    Option (EtxLinkTuple Metric) → Option (EtxLinkTuple Metric) → Bool
  | _, none => false
  | none, some _ => true
  | some maxLink, some nbLink => better maxLink nbLink

/-- Willingness, then reachability, then the link to this node. -/
def r1Better (parameter : Parameter) (state : EtxState Metric) (now : Int)
    (current candidate : Nat × NbTuple) : Bool :=
  let maxLink := state.findSymLinkTuple current.2.nbMainAddr now
  let nbLink := state.findSymLinkTuple candidate.2.nbMainAddr now
  if candidate.2.willingness > current.2.willingness then true
  else if candidate.2.willingness = current.2.willingness then
    if candidate.1 > current.1 then true
    else if candidate.1 = current.1 then
      if parameter.linkDelay then
        betterLink (fun max nb => nb.linkDelay < max.linkDelay) maxLink nbLink
      else
        match parameter.linkQuality with
        | .etx => betterLink (fun max nb => nb.etx < max.etx) maxLink nbLink
        | .ml => betterLink (fun max nb => nb.etx > max.etx) maxLink nbLink
        | .none => false
    else false
  else false

/-- The link to this node, then reachability, then degree. -/
def r2Better (parameter : Parameter) (state : EtxState Metric) (now : Int)
    (current candidate : Nat × NbTuple) : Bool :=
  let maxLink := state.findSymLinkTuple current.2.nbMainAddr now
  let nbLink := state.findSymLinkTuple candidate.2.nbMainAddr now
  let wider := widerReach state current candidate
  match parameter.linkQuality with
  | .etx => betterLink (fun max nb => nb.etx < max.etx || nb.etx == max.etx && wider) maxLink nbLink
  | .ml => betterLink (fun max nb => nb.etx > max.etx || nb.etx == max.etx && wider) maxLink nbLink
  | .none => wider

/-- Both totals go over the tuple of the candidate, and a candidate is skipped when
either neighbor has no symmetric link. -/
def qolsrBetter (parameter : Parameter) (state : EtxState Metric) (now : Int)
    (current candidate : EtxNb2hopTuple Metric × Nat × NbTuple) : Bool :=
  let wider := widerReach state current.2 candidate.2
  match parameter.linkQuality with
  | .none => wider
  | quality =>
      match state.findSymLinkTuple candidate.2.2.nbMainAddr now,
        state.findSymLinkTuple current.2.2.nbMainAddr now with
      | some nbLink, some maxLink =>
          if quality = .etx then
            let currentTotal := nbLink.etx + candidate.1.etx
            let maxTotal := maxLink.etx + candidate.1.etx
            currentTotal < maxTotal || currentTotal == maxTotal && wider
          else
            let currentTotal := nbLink.etx * candidate.1.etx
            let maxTotal := maxLink.etx * candidate.1.etx
            currentTotal > maxTotal || currentTotal == maxTotal && wider
      | _, _ => false

end Comparison

/-! ## Unique providers in `olsr_r1_` -/

/-- What remains of a part of N2 once a neighbor is selected. -/
def dropProvider (chosen : NsAddr) (hops : List (EtxNb2hopTuple Metric)) :
    List (EtxNb2hopTuple Metric) :=
  hops.filter fun hop => hop.nbMainAddr ≠ chosen

theorem advance_lt (seen tail : List (EtxNb2hopTuple Metric)) (hop : EtxNb2hopTuple Metric) :
    Prod.Lex (· < ·) (· < ·) ((seen ++ [hop]).length + tail.length, tail.length)
      (seen.length + (hop :: tail).length, (hop :: tail).length) := by
  have total : (seen ++ [hop]).length + tail.length = seen.length + (hop :: tail).length := by
    simp only [List.length_append, List.length_cons, List.length_nil]
    omega
  rw [total]
  exact Prod.Lex.right _ (by simp)

theorem dropProvider_length_le (chosen : NsAddr) (hops : List (EtxNb2hopTuple Metric)) :
    (dropProvider chosen hops).length ≤ hops.length :=
  List.length_filter_le _ _

theorem dropProvider_length_lt (chosen : NsAddr) (seen tail : List (EtxNb2hopTuple Metric))
    (hop : EtxNb2hopTuple Metric) :
    (dropProvider chosen seen).length + (dropProvider chosen tail).length <
      seen.length + (hop :: tail).length := by
  have left := dropProvider_length_le chosen seen
  have right := dropProvider_length_le chosen tail
  simp only [List.length_cons]
  omega

theorem restart_length_lt (chosen : NsAddr) (seen tail : List (EtxNb2hopTuple Metric))
    (hop : EtxNb2hopTuple Metric) (keep : EtxNb2hopTuple Metric → Bool) :
    (@List.nil (EtxNb2hopTuple Metric)).length +
        ((dropProvider chosen seen ++ dropProvider chosen tail).filter keep).length <
      seen.length + (hop :: tail).length := by
  have shorter := dropProvider_length_lt chosen seen tail hop
  have kept := List.length_filter_le keep (dropProvider chosen seen ++ dropProvider chosen tail)
  rw [List.length_append] at kept
  simp only [List.length_nil]
  omega

/-- The in-place pass of `olsr_r1_` over N2: `seen` lies before the iterator and
`rest` from it on. Selecting an only provider erases its tuples on both sides; when
a tuple of an erased 2-hop address is found elsewhere it is erased too and the
iterator starts over. -/
def r1UniquePass (nbs : List NbTuple) (foundset : List NsAddr)
    (seen rest : List (EtxNb2hopTuple Metric)) (mprset : Finset NsAddr) :
    List (EtxNb2hopTuple Metric) × Finset NsAddr :=
  match rest with
  | [] => (seen, mprset)
  | hop :: tail =>
      if hop.nb2hopAddr ∈ foundset then r1UniquePass nbs foundset (seen ++ [hop]) tail mprset
      else if nbs.all fun nb => nb.nbMainAddr ≠ hop.nbMainAddr then
        r1UniquePass nbs foundset (seen ++ [hop]) tail mprset
      else if tail.any fun other => other.nb2hopAddr = hop.nb2hopAddr then
        r1UniquePass nbs (hop.nb2hopAddr :: foundset) (seen ++ [hop]) tail mprset
      else
        let deleted := GreedyCover.targetsOf nbMain nb2hop hop.nbMainAddr (seen ++ tail)
        let seen' := dropProvider hop.nbMainAddr seen
        let tail' := dropProvider hop.nbMainAddr tail
        if (seen' ++ tail').any fun other => other.nb2hopAddr ∈ deleted then
          r1UniquePass nbs foundset []
            ((seen' ++ tail').filter fun other => other.nb2hopAddr ∉ deleted)
            (insert hop.nbMainAddr mprset)
        else r1UniquePass nbs foundset seen' tail' (insert hop.nbMainAddr mprset)
  termination_by (seen.length + rest.length, rest.length)
  decreasing_by
    · exact advance_lt seen tail hop
    · exact advance_lt seen tail hop
    · exact advance_lt seen tail hop
    · exact Prod.Lex.left _ _ (restart_length_lt hop.nbMainAddr seen tail hop _)
    · exact Prod.Lex.left _ _ (dropProvider_length_lt hop.nbMainAddr seen tail hop)

/-! ## The routines -/

section Routines

variable [Add Metric] [Mul Metric] [LT Metric] [DecidableLT Metric] [BEq Metric]
variable (parameter : Parameter) (isLocalAddress : NsAddr → Bool) (state : EtxState Metric)
  (now : Int)

/-- `OLSR_ETX::olsr_r1_mpr_computation`. -/
def olsrR1MprComputation : Option (Finset NsAddr) :=
  let nbs := symNeighbors state.nbset
  let n2 := state.nb2hopset.filter (n2Member nbMain nb2hop isLocalAddress nbs)
  let always := (nbs.filter fun nb => nb.willingness = willAlways).map NbTuple.nbMainAddr
  let (n2, mprset) := r1UniquePass nbs [] [] n2 always.toFinset
  GreedyCover.greedy nbMain nb2hop (reachabilityPick nbMain (r1Better parameter state now) nbs)
    n2.length n2 mprset

/-- `OLSR_ETX::olsr_r2_mpr_computation`. The 2-hop neighbors noted in step 3 stay in
N2. -/
def olsrR2MprComputation : Option (Finset NsAddr) :=
  let nbs := willingNeighbors state.nbset
  let n2 := state.nb2hopset.filter (n2Member nbMain nb2hop isLocalAddress nbs)
  let (n2, mprset) := willAlwaysPass nbMain nb2hop nbs n2
  let (mprset, _) := uniqueProviderPass nbMain nb2hop n2 mprset
  GreedyCover.greedy nbMain nb2hop (reachabilityPick nbMain (r2Better parameter state now) nbs)
    n2.length n2 mprset

/-- The neighbors that reach the first 2-hop node of N2, once for each tuple. -/
def qolsrCandidates (nbs : List NbTuple) (n2 : List (EtxNb2hopTuple Metric)) :
    List (EtxNb2hopTuple Metric × Nat × NbTuple) :=
  match n2 with
  | [] => []
  | z :: _ => (n2.filter fun hop => hop.nb2hopAddr = z.nb2hopAddr).flatMap fun hop =>
      ((byReachability nbMain nbs n2).filter fun candidate =>
        candidate.2.nbMainAddr = hop.nbMainAddr).map fun candidate => (hop, candidate)

def qolsrPick (nbs : List NbTuple) (n2 : List (EtxNb2hopTuple Metric)) : Option NsAddr :=
  (selectMax (qolsrBetter parameter state now) (qolsrCandidates nbs n2)).map
    fun candidate => candidate.2.2.nbMainAddr

/-- `OLSR_ETX::qolsr_mpr_computation`. -/
def qolsrMprComputation : Option (Finset NsAddr) :=
  let nbs := willingNeighbors state.nbset
  let n2 := state.nb2hopset.filter (n2Member nbMain nb2hop isLocalAddress nbs)
  let (n2, mprset) := willAlwaysPass nbMain nb2hop nbs n2
  let (mprset, _) := uniqueProviderPass nbMain nb2hop n2 mprset
  GreedyCover.greedy nbMain nb2hop (qolsrPick parameter state now nbs) n2.length n2 mprset

/-- `OLSR_ETX::olsrd_mpr_computation`: every willing symmetric neighbor. -/
def olsrdMprComputation : Finset NsAddr :=
  ((willingNeighbors state.nbset).map NbTuple.nbMainAddr).toFinset

/-- The switch of `OLSR_ETX::process_hello` over `Mpr_algorithm`. -/
def selectedMprComputation : Option (Finset NsAddr) :=
  match parameter.mprAlgorithm with
  | .r1 => olsrR1MprComputation parameter isLocalAddress state now
  | .r2 => olsrR2MprComputation parameter isLocalAddress state now
  | .qolsr => qolsrMprComputation parameter isLocalAddress state now
  | .olsrd => some (olsrdMprComputation state)
  | .default => mprComputation isLocalAddress state.base

end Routines

end SyncFanet.OlsrEtx
