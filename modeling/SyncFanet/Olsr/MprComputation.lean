import SyncFanet.Library.Fold
import SyncFanet.Library.GreedyCover
import SyncFanet.Olsr.State

/-!
# MPR computation

`OLSR::mpr_computation`. The steps that the routines of `OLSR_ETX` share with it
are stated over any type of 2-hop tuples.
-/

set_option autoImplicit false

namespace SyncFanet.Olsr

/-! ## Steps shared by the MPR routines -/

/-- The subset of symmetric neighbors that the computation starts from. -/
def symNeighbors (nbset : List NbTuple) : List NbTuple :=
  nbset.filter fun tuple => tuple.status = .sym

section TwoHop

variable {Hop : Type} (nbMain nb2hop : Hop → NsAddr)

/-- Membership of a 2-hop tuple in N2: its 2-hop address is not local, the first
member of N with its neighbor address is willing, and no member of N is the
2-hop node itself. -/
def n2Member (isLocalAddress : NsAddr → Bool) (nbs : List NbTuple) (hop : Hop) : Bool :=
  if isLocalAddress (nb2hop hop) then false
  else
    match nbs.find? fun neigh => neigh.nbMainAddr = nbMain hop with
    | none => false
    | some neigh =>
        if neigh.willingness = willNever then false
        else !(nbs.any fun other => other.nbMainAddr = nb2hop hop)

/-- `CoverTwoHopNeighbors`: gather the 2-hop neighbors of the new MPR, then
remove every record of them from N2. -/
def coverTwoHopNeighbors (neighborMainAddr : NsAddr) (n2 : List Hop) : List Hop :=
  GreedyCover.dropCovered nbMain nb2hop neighborMainAddr n2

/-- A neighbor with willingness `WILL_ALWAYS` is selected, with what it covers. -/
def willAlwaysStep (acc : List Hop × Finset NsAddr) (nb : NbTuple) :
    List Hop × Finset NsAddr :=
  if nb.willingness = willAlways then
    (coverTwoHopNeighbors nbMain nb2hop nb.nbMainAddr acc.1, insert nb.nbMainAddr acc.2)
  else acc

/-- Step 1: start with the neighbors that are always willing. -/
def willAlwaysPass (nbs : List NbTuple) (n2 : List Hop) : List Hop × Finset NsAddr :=
  nbs.foldl (willAlwaysStep nbMain nb2hop) (n2, ∅)

/-- No other neighbor reaches the 2-hop node of this tuple. -/
def onlyOne (n2 : List Hop) (hop : Hop) : Bool :=
  !(n2.any fun other => nb2hop other = nb2hop hop ∧ nbMain other ≠ nbMain hop)

/-- Select an only provider and note the 2-hop neighbors it covers. -/
def uniqueProviderStep (n2 : List Hop) (acc : Finset NsAddr × List NsAddr) (hop : Hop) :
    Finset NsAddr × List NsAddr :=
  if onlyOne nbMain nb2hop n2 hop then
    (insert (nbMain hop) acc.1,
      acc.2 ++ GreedyCover.targetsOf nbMain nb2hop (nbMain hop) n2)
  else acc

/-- Step 3: the only providers of some 2-hop neighbor. -/
def uniqueProviderPass (n2 : List Hop) (mprset : Finset NsAddr) :
    Finset NsAddr × List NsAddr :=
  n2.foldl (uniqueProviderStep nbMain nb2hop n2) (mprset, [])

/-- Number of tuples of N2 that a neighbor still reaches. -/
def reachabilityOf (n2 : List Hop) (nb : NbTuple) : Nat :=
  n2.countP fun hop => nb.nbMainAddr = nbMain hop

/-- The `reachability` map read in the ascending order of `rs`, without the
neighbors of reachability zero that the selection skips. -/
def byReachability (nbs : List NbTuple) (n2 : List Hop) : List (Nat × NbTuple) :=
  (List.range n2.length).flatMap fun r =>
    (nbs.filter fun nb => reachabilityOf nbMain n2 nb = r + 1).map fun nb => (r + 1, nb)

end TwoHop

/-- Keep the first candidate, and replace it when the comparison prefers another. -/
def selectStep {Candidate : Type} (better : Candidate → Candidate → Bool) :
    Option Candidate → Candidate → Option Candidate
  | none, candidate => some candidate
  | some max, candidate => if better max candidate then some candidate else some max

/-- The selection loop over the candidates in their order. -/
def selectMax {Candidate : Type} (better : Candidate → Candidate → Bool)
    (candidates : List Candidate) : Option Candidate :=
  candidates.foldl (selectStep better) none

/-- The next MPR among the neighbors of nonzero reachability. -/
def reachabilityPick {Hop : Type} (nbMain : Hop → NsAddr)
    (better : Nat × NbTuple → Nat × NbTuple → Bool) (nbs : List NbTuple) (n2 : List Hop) :
    Option NsAddr :=
  (selectMax better (byReachability nbMain nbs n2)).map fun candidate => candidate.2.nbMainAddr

/-- `OLSR::degree`. -/
def degree (state : State) (tuple : NbTuple) : Nat :=
  state.nb2hopset.countP fun hop =>
    hop.nbMainAddr = tuple.nbMainAddr ∧ state.findNbTuple hop.nb2hopAddr = none

/-! ## RFC 3626 heuristic -/

/-- Willingness first, then reachability, then degree. -/
def mprBetter (state : State) (current candidate : Nat × NbTuple) : Bool :=
  if candidate.2.willingness > current.2.willingness then true
  else if candidate.2.willingness = current.2.willingness then
    if candidate.1 > current.1 then true
    else if candidate.1 = current.1 then degree state candidate.2 > degree state current.2
    else false
  else false

/-- `OLSR::mpr_computation`. The fuel of step 4 is the number of tuples left in
N2; the result is `none` when the loop does not empty N2 within it. -/
def mprComputation (isLocalAddress : NsAddr → Bool) (state : State) : Option (Finset NsAddr) :=
  let nbs := symNeighbors state.nbset
  let n2 := state.nb2hopset.filter
    (n2Member Nb2hopTuple.nbMainAddr Nb2hopTuple.nb2hopAddr isLocalAddress nbs)
  let (n2, mprset) := willAlwaysPass Nb2hopTuple.nbMainAddr Nb2hopTuple.nb2hopAddr nbs n2
  let (mprset, covered) :=
    uniqueProviderPass Nb2hopTuple.nbMainAddr Nb2hopTuple.nb2hopAddr n2 mprset
  let n2 := n2.filter fun hop => hop.nb2hopAddr ∉ covered
  GreedyCover.greedy Nb2hopTuple.nbMainAddr Nb2hopTuple.nb2hopAddr
    (reachabilityPick Nb2hopTuple.nbMainAddr (mprBetter state) nbs) n2.length n2 mprset

/-! ## Rules of the shared steps -/

section TwoHop

open GreedyCover

variable {Hop : Type} {nbMain nb2hop : Hop → NsAddr}

variable {nbs : List NbTuple} {n2 all : List Hop} {mprset : Finset NsAddr}

theorem mem_symNeighbors {nbset : List NbTuple} {nb : NbTuple} :
    nb ∈ symNeighbors nbset ↔ nb ∈ nbset ∧ nb.status = .sym := by
  simp [symNeighbors]

theorem n2Member_iff {isLocalAddress : NsAddr → Bool} {hop : Hop} :
    n2Member nbMain nb2hop isLocalAddress nbs hop = true ↔
      isLocalAddress (nb2hop hop) = false ∧
      (∃ neigh, nbs.find? (fun neigh => neigh.nbMainAddr = nbMain hop) = some neigh ∧
        neigh.willingness ≠ willNever) ∧
      ∀ other ∈ nbs, other.nbMainAddr ≠ nb2hop hop := by
  unfold n2Member
  cases local' : isLocalAddress (nb2hop hop) with
  | true => simp
  | false =>
      cases found : nbs.find? fun neigh => decide (neigh.nbMainAddr = nbMain hop) with
      | none => simp
      | some neigh =>
          by_cases never : neigh.willingness = willNever
          · simp [never]
          · simp [never]

theorem selectMax_mem {Candidate : Type} (better : Candidate → Candidate → Bool)
    {candidates : List Candidate} (nonempty : candidates ≠ []) :
    ∃ chosen ∈ candidates, selectMax better candidates = some chosen := by
  have selected : (candidates = [] ∧ selectMax better candidates = none) ∨
      ∃ chosen ∈ candidates, selectMax better candidates = some chosen := by
    refine foldl_seen (selectStep better)
      (fun seen max => (seen = [] ∧ max = none) ∨ ∃ chosen ∈ seen, max = some chosen)
      (.inl ⟨rfl, rfl⟩) ?_
    rintro seen candidate max - holds
    right
    rcases holds with ⟨rfl, rfl⟩ | ⟨chosen, member, rfl⟩
    · exact ⟨candidate, by simp, rfl⟩
    · by_cases replaced : better chosen candidate = true
      · exact ⟨candidate, by simp, by simp [selectStep, replaced]⟩
      · exact ⟨chosen, by simp [member], by simp [selectStep, replaced]⟩
  exact selected.resolve_left fun empty => nonempty empty.1

theorem mem_byReachability {candidate : Nat × NbTuple} :
    candidate ∈ byReachability nbMain nbs n2 ↔
      candidate.2 ∈ nbs ∧ candidate.1 = reachabilityOf nbMain n2 candidate.2 ∧
        0 < candidate.1 := by
  obtain ⟨r, nb⟩ := candidate
  simp only [byReachability, List.mem_flatMap, List.mem_range, List.mem_map, List.mem_filter,
    decide_eq_true_eq, Prod.mk.injEq]
  constructor
  · rintro ⟨r', _, other, ⟨member, count⟩, rfl, rfl⟩
    exact ⟨member, count.symm, by omega⟩
  · rintro ⟨member, count, positive⟩
    have bound : reachabilityOf nbMain n2 nb ≤ n2.length := List.countP_le_length
    exact ⟨r - 1, by omega, nb, ⟨member, by omega⟩, by omega, rfl⟩

variable (nbMain) in
theorem mem_byReachability_of_reaches {nb : NbTuple} (member : nb ∈ nbs) {hop : Hop}
    (included : hop ∈ n2) (reaches : nbMain hop = nb.nbMainAddr) :
    (reachabilityOf nbMain n2 nb, nb) ∈ byReachability nbMain nbs n2 := by
  refine mem_byReachability.mpr ⟨member, rfl, ?_⟩
  exact List.countP_pos_iff.mpr ⟨hop, included, by simp [reaches]⟩

theorem reaches_of_mem_byReachability {candidate : Nat × NbTuple}
    (member : candidate ∈ byReachability nbMain nbs n2) :
    ∃ hop ∈ n2, nbMain hop = candidate.2.nbMainAddr := by
  obtain ⟨_, count, positive⟩ := mem_byReachability.mp member
  rw [count] at positive
  obtain ⟨hop, included, same⟩ := List.countP_pos_iff.mp positive
  exact ⟨hop, included, (of_decide_eq_true same).symm⟩

theorem reachabilityPick_productive (isLocalAddress : NsAddr → Bool)
    (better : Nat × NbTuple → Nat × NbTuple → Bool) (nbs : List NbTuple) (hops : List Hop) :
    Productive nbMain (reachabilityPick nbMain better nbs)
      (hops.filter (n2Member nbMain nb2hop isLocalAddress nbs)) := by
  intro rest sub nonempty
  obtain ⟨hop, tail, rfl⟩ := List.exists_cons_of_ne_nil nonempty
  have n2 := n2Member_iff.mp (List.mem_filter.mp (sub List.mem_cons_self)).2
  obtain ⟨nb, found, _⟩ := n2.2.1
  have main : nb.nbMainAddr = nbMain hop := by simpa using List.find?_some found
  have candidate := mem_byReachability_of_reaches nbMain
    (List.mem_of_find?_eq_some found) (@List.mem_cons_self _ hop tail) main.symm
  obtain ⟨chosen, member, selected⟩ := selectMax_mem better (List.ne_nil_of_mem candidate)
  obtain ⟨other, open', reaches⟩ := reaches_of_mem_byReachability member
  exact ⟨chosen.2.nbMainAddr, by simp [reachabilityPick, selected], other, open', reaches⟩

/-- What a pass over N2 has to keep: N2 only shrinks, what left it is covered,
and every selected MPR is a neighbor that N2 names or one that is always
willing. -/
structure Selection (nbMain nb2hop : Hop → NsAddr) (nbs : List NbTuple) (all : List Hop)
    (n2 : List Hop) (mprset : Finset NsAddr) : Prop where
  sub : n2 ⊆ all
  covers : Covers nbMain nb2hop all mprset n2
  origin : ∀ addr ∈ mprset, (∃ hop ∈ all, nbMain hop = addr) ∨
    ∃ nb ∈ nbs, nb.willingness = willAlways ∧ nb.nbMainAddr = addr

theorem Selection.initial (nbs : List NbTuple) (all : List Hop) :
    Selection nbMain nb2hop nbs all all ∅ :=
  ⟨fun _ member => member, Covers.refl _ _, by simp⟩

theorem Selection.select {n2' : List Hop} (selection : Selection nbMain nb2hop nbs all n2 mprset)
    {addr : NsAddr}
    (origin : (∃ hop ∈ all, nbMain hop = addr) ∨
      ∃ nb ∈ nbs, nb.willingness = willAlways ∧ nb.nbMainAddr = addr) (sub : n2' ⊆ n2)
    (dropped : ∀ hop ∈ n2, hop ∈ n2' ∨
      ∃ other ∈ n2, nb2hop other = nb2hop hop ∧ nbMain other = addr) :
    Selection nbMain nb2hop nbs all n2' (insert addr mprset) := by
  refine ⟨fun _ kept => selection.sub (sub kept), ?_, ?_⟩
  · apply selection.covers.shrink (Finset.subset_insert addr mprset)
    intro hop member
    rcases dropped hop member with kept | ⟨other, included, same, reaches⟩
    · exact .inl kept
    · exact .inr ⟨other, selection.sub included, same, by simp [reaches]⟩
  · intro other member
    rcases Finset.mem_insert.mp member with rfl | old
    · exact origin
    · exact selection.origin other old

theorem Selection.cover (selection : Selection nbMain nb2hop nbs all n2 mprset) {addr : NsAddr}
    (origin : (∃ hop ∈ all, nbMain hop = addr) ∨
      ∃ nb ∈ nbs, nb.willingness = willAlways ∧ nb.nbMainAddr = addr) :
    Selection nbMain nb2hop nbs all (coverTwoHopNeighbors nbMain nb2hop addr n2)
      (insert addr mprset) := by
  apply selection.select origin (dropCovered_subset addr n2)
  intro hop member
  by_cases kept : hop ∈ coverTwoHopNeighbors nbMain nb2hop addr n2
  · exact .inl kept
  · rw [coverTwoHopNeighbors, mem_dropCovered] at kept
    push Not at kept
    obtain ⟨other, included, reaches, same⟩ := kept member
    exact .inr ⟨other, included, same, reaches⟩

variable (nbMain nb2hop) in
theorem willAlwaysPass_spec (nbs : List NbTuple) (all : List Hop) :
    Selection nbMain nb2hop nbs all (willAlwaysPass nbMain nb2hop nbs all).1
        (willAlwaysPass nbMain nb2hop nbs all).2 ∧
      ∀ nb ∈ nbs, nb.willingness = willAlways →
        nb.nbMainAddr ∈ (willAlwaysPass nbMain nb2hop nbs all).2 := by
  refine foldl_seen (willAlwaysStep nbMain nb2hop)
    (fun seen acc => Selection nbMain nb2hop nbs all acc.1 acc.2 ∧
      ∀ nb ∈ seen, nb.willingness = willAlways → nb.nbMainAddr ∈ acc.2)
    ⟨Selection.initial nbs all, by simp⟩ ?_
  rintro seen nb acc member ⟨selection, included⟩
  by_cases always : nb.willingness = willAlways
  · simp only [willAlwaysStep, always, if_true]
    refine ⟨selection.cover (.inr ⟨nb, member, always, rfl⟩), ?_⟩
    intro other among willing
    rcases List.mem_append.mp among with old | last
    · exact Finset.mem_insert_of_mem (included other old willing)
    · have same : other = nb := by simpa using last
      simp [same]
  · simp only [willAlwaysStep, always, if_false]
    refine ⟨selection, ?_⟩
    intro other among willing
    rcases List.mem_append.mp among with old | last
    · exact included other old willing
    · have same : other = nb := by simpa using last
      exact absurd (same ▸ willing) always

theorem uniqueProviderPass_spec (selection : Selection nbMain nb2hop nbs all n2 mprset) :
    Selection nbMain nb2hop nbs all n2 (uniqueProviderPass nbMain nb2hop n2 mprset).1 ∧
      mprset ⊆ (uniqueProviderPass nbMain nb2hop n2 mprset).1 ∧
      ∀ addr ∈ (uniqueProviderPass nbMain nb2hop n2 mprset).2,
        ∃ hop ∈ n2, nb2hop hop = addr ∧
          nbMain hop ∈ (uniqueProviderPass nbMain nb2hop n2 mprset).1 := by
  refine foldl_keeps (uniqueProviderStep nbMain nb2hop n2)
    (fun acc => Selection nbMain nb2hop nbs all n2 acc.1 ∧ mprset ⊆ acc.1 ∧
      ∀ addr ∈ acc.2, ∃ hop ∈ n2, nb2hop hop = addr ∧ nbMain hop ∈ acc.1)
    ⟨selection, fun _ member => member, by simp⟩ ?_
  rintro hop acc member ⟨kept, grows, noted⟩
  cases only : onlyOne nbMain nb2hop n2 hop with
  | false => simpa [uniqueProviderStep, only] using ⟨kept, grows, noted⟩
  | true =>
      simp only [uniqueProviderStep, only, if_true]
      refine ⟨⟨kept.sub, kept.covers.mono (Finset.subset_insert _ _), ?_⟩,
        fun _ old => Finset.mem_insert_of_mem (grows old), ?_⟩
      · intro addr among
        rcases Finset.mem_insert.mp among with rfl | old
        · exact .inl ⟨hop, kept.sub member, rfl⟩
        · exact kept.origin addr old
      · intro addr among
        rcases List.mem_append.mp among with old | fresh
        · obtain ⟨other, included, same, chosen⟩ := noted addr old
          exact ⟨other, included, same, Finset.mem_insert_of_mem chosen⟩
        · obtain ⟨other, included, reaches, same⟩ := mem_targetsOf.mp fresh
          exact ⟨other, included, same, by simp [reaches]⟩

theorem Selection.eraseCovered (selection : Selection nbMain nb2hop nbs all n2 mprset)
    {covered : List NsAddr}
    (noted : ∀ addr ∈ covered, ∃ hop ∈ n2, nb2hop hop = addr ∧ nbMain hop ∈ mprset) :
    Selection nbMain nb2hop nbs all (n2.filter fun hop => nb2hop hop ∉ covered) mprset := by
  refine ⟨fun _ kept => selection.sub (List.mem_filter.mp kept).1, ?_, selection.origin⟩
  apply selection.covers.shrink (fun _ member => member)
  intro hop member
  by_cases erased : nb2hop hop ∈ covered
  · obtain ⟨other, included, same, chosen⟩ := noted _ erased
    exact .inr ⟨other, selection.sub included, same, chosen⟩
  · exact .inl (List.mem_filter.mpr ⟨member, by simpa using erased⟩)

theorem Selection.greedy (selection : Selection nbMain nb2hop nbs all n2 mprset)
    {pick : List Hop → Option NsAddr} (productive : Productive nbMain pick all) :
    ∃ final, GreedyCover.greedy nbMain nb2hop pick n2.length n2 mprset = some final ∧
      mprset ⊆ final ∧ Selection nbMain nb2hop nbs all [] final := by
  obtain ⟨final, ran, grows, origin, covers⟩ :=
    greedy_spec productive n2.length n2 mprset (le_refl _) selection.sub selection.covers
  refine ⟨final, ran, grows, by simp, covers, ?_⟩
  intro addr member
  rcases origin addr member with old | ⟨hop, included, same⟩
  · exact selection.origin addr old
  · exact .inl ⟨hop, selection.sub included, same⟩

/-- What an MPR set promises about the neighbor set and the 2-hop tuples. -/
structure MprCover (nbMain nb2hop : Hop → NsAddr) (isLocalAddress : NsAddr → Bool)
    (nbset : List NbTuple) (hops : List Hop) (mprset : Finset NsAddr) : Prop where
  willing : ∀ addr ∈ mprset, ∃ nb ∈ nbset, nb.nbMainAddr = addr ∧ nb.status = .sym ∧
    nb.willingness ≠ willNever
  always : ∀ nb ∈ nbset, nb.status = .sym → nb.willingness = willAlways →
    nb.nbMainAddr ∈ mprset
  covers : ∀ hop ∈ hops, ∀ nb ∈ nbset, nb.nbMainAddr = nbMain hop → nb.status = .sym →
    nb.willingness ≠ willNever → isLocalAddress (nb2hop hop) = false →
    (∀ other ∈ nbset, other.status = .sym → other.nbMainAddr ≠ nb2hop hop) →
    ∃ other ∈ hops, nb2hop other = nb2hop hop ∧ nbMain other ∈ mprset

/-- A selection over N2 that leaves no tuple open is an MPR cover. N may leave out
unwilling neighbors. -/
theorem Selection.mprCover {isLocalAddress : NsAddr → Bool} {nbset : List NbTuple}
    {hops : List Hop} (unique : (nbset.map NbTuple.nbMainAddr).Nodup)
    (sublist : nbs.Sublist nbset) (sym : ∀ nb ∈ nbs, nb.status = .sym)
    (willing : ∀ nb ∈ nbset, nb.status = .sym → nb.willingness ≠ willNever → nb ∈ nbs)
    (selection : Selection nbMain nb2hop nbs
      (hops.filter (n2Member nbMain nb2hop isLocalAddress nbs)) [] mprset)
    (always : ∀ nb ∈ nbs, nb.willingness = willAlways → nb.nbMainAddr ∈ mprset) :
    MprCover nbMain nb2hop isLocalAddress nbset hops mprset := by
  have alwaysWilling : willAlways ≠ willNever := by decide
  constructor
  · intro addr member
    rcases selection.origin addr member with ⟨hop, included, same⟩ | ⟨nb, included, will, same⟩
    · have n2 := n2Member_iff.mp (List.mem_filter.mp included).2
      obtain ⟨nb, found, will⟩ := n2.2.1
      have among := List.mem_of_find?_eq_some found
      have main : nb.nbMainAddr = nbMain hop := by simpa using List.find?_some found
      exact ⟨nb, sublist.subset among, main.trans same, sym nb among, will⟩
    · exact ⟨nb, sublist.subset included, same, sym nb included, will ▸ alwaysWilling⟩
  · intro nb member isSym will
    exact always nb (willing nb member isSym (will ▸ alwaysWilling)) will
  · intro hop member nb included main isSym will remote twoHop
    have found := find?_key (unique.sublist (sublist.map _)) (willing nb included isSym will)
    rw [main] at found
    have n2 : n2Member nbMain nb2hop isLocalAddress nbs hop = true :=
      n2Member_iff.mpr ⟨remote, ⟨nb, found, will⟩, fun other among =>
        twoHop other (sublist.subset among) (sym other among)⟩
    obtain ⟨other, among, same, chosen⟩ :=
      selection.covers.complete hop (List.mem_filter.mpr ⟨member, n2⟩)
    exact ⟨other, (List.mem_filter.mp among).1, same, chosen⟩

end TwoHop

/-! ## The RFC 3626 heuristic covers the 2-hop neighborhood -/

theorem mprComputation_spec (isLocalAddress : NsAddr → Bool) (state : State)
    (unique : (state.nbset.map NbTuple.nbMainAddr).Nodup) :
    ∃ mprset, mprComputation isLocalAddress state = some mprset ∧
      MprCover Nb2hopTuple.nbMainAddr Nb2hopTuple.nb2hopAddr isLocalAddress
        state.nbset state.nb2hopset mprset := by
  obtain ⟨started, always⟩ := willAlwaysPass_spec Nb2hopTuple.nbMainAddr
    Nb2hopTuple.nb2hopAddr (symNeighbors state.nbset)
    (state.nb2hopset.filter (n2Member Nb2hopTuple.nbMainAddr Nb2hopTuple.nb2hopAddr
      isLocalAddress (symNeighbors state.nbset)))
  obtain ⟨selected, grown, noted⟩ := uniqueProviderPass_spec started
  obtain ⟨final, ran, grows, closed⟩ :=
    (selected.eraseCovered noted).greedy
      (reachabilityPick_productive isLocalAddress (mprBetter state) _ _)
  refine ⟨final, ran, closed.mprCover unique List.filter_sublist ?_ ?_ ?_⟩
  · exact fun nb member => (mem_symNeighbors.mp member).2
  · exact fun nb member sym _ => mem_symNeighbors.mpr ⟨member, sym⟩
  · exact fun nb member willing => grows (grown (always nb member willing))

end SyncFanet.Olsr
