import Mathlib.Data.Rat.Defs
import SyncFanet.OlsrEtx.MprComputation

/-!
# Every MPR routine covers the 2-hop neighborhood

The routines differ in N, in the passes before the greedy loop and in the next
neighbor they pick. The cover needs none of that: each pass keeps a selection, and
each pick reaches an open 2-hop node.
-/

set_option autoImplicit false

namespace SyncFanet.OlsrEtx

open Olsr GreedyCover

variable {Metric : Type}

/-! ## The in-place pass of `olsr_r1_` -/

section

variable {nbs : List NbTuple} {all seen tail : List (EtxNb2hopTuple Metric)}
  {hop : EtxNb2hopTuple Metric} {mprset : Finset NsAddr}

theorem mem_dropProvider {chosen : NsAddr} {hops : List (EtxNb2hopTuple Metric)} :
    hop ∈ dropProvider chosen hops ↔ hop ∈ hops ∧ hop.nbMainAddr ≠ chosen := by
  simp [dropProvider]

theorem mem_dropped_of_ne {other : EtxNb2hopTuple Metric} (member : other ∈ seen ++ hop :: tail)
    (reaches : other.nbMainAddr ≠ hop.nbMainAddr) :
    other ∈ dropProvider hop.nbMainAddr seen ++ dropProvider hop.nbMainAddr tail := by
  rcases List.mem_append.mp member with left | right
  · exact List.mem_append_left _ (mem_dropProvider.mpr ⟨left, reaches⟩)
  · rcases List.mem_cons.mp right with rfl | right
    · exact absurd rfl reaches
    · exact List.mem_append_right _ (mem_dropProvider.mpr ⟨right, reaches⟩)

theorem dropped_subset : dropProvider hop.nbMainAddr seen ++ dropProvider hop.nbMainAddr tail ⊆
    seen ++ hop :: tail := by
  intro other member
  rcases List.mem_append.mp member with left | right
  · simp [(mem_dropProvider.mp left).1]
  · simp [(mem_dropProvider.mp right).1]

theorem dropProvider_selection
    (selection : Selection nbMain nb2hop nbs all (seen ++ hop :: tail) mprset) :
    Selection nbMain nb2hop nbs all
      (dropProvider hop.nbMainAddr seen ++ dropProvider hop.nbMainAddr tail)
      (insert hop.nbMainAddr mprset) := by
  apply selection.select (.inl ⟨hop, selection.sub (by simp), rfl⟩) dropped_subset
  intro other member
  by_cases reaches : other.nbMainAddr = hop.nbMainAddr
  · exact .inr ⟨other, member, rfl, reaches⟩
  · exact .inl (mem_dropped_of_ne member reaches)

theorem restart_selection
    (selection : Selection nbMain nb2hop nbs all (seen ++ hop :: tail) mprset) :
    Selection nbMain nb2hop nbs all
      ((dropProvider hop.nbMainAddr seen ++ dropProvider hop.nbMainAddr tail).filter
        fun other => other.nb2hopAddr ∉
          targetsOf nbMain nb2hop hop.nbMainAddr (seen ++ tail))
      (insert hop.nbMainAddr mprset) := by
  apply selection.select (.inl ⟨hop, selection.sub (by simp), rfl⟩)
  · exact fun other member => dropped_subset (List.mem_filter.mp member).1
  · intro other member
    by_cases deleted : other.nb2hopAddr ∈ targetsOf nbMain nb2hop hop.nbMainAddr (seen ++ tail)
    · obtain ⟨source, included, reaches, same⟩ := mem_targetsOf.mp deleted
      refine .inr ⟨source, ?_, same, reaches⟩
      rcases List.mem_append.mp included with left | right
      · simp [left]
      · simp [right]
    · by_cases reaches : other.nbMainAddr = hop.nbMainAddr
      · exact .inr ⟨other, member, rfl, reaches⟩
      · exact .inl (List.mem_filter.mpr ⟨mem_dropped_of_ne member reaches, by simpa using deleted⟩)

end

theorem r1UniquePass_spec (nbs : List NbTuple) (all : List (EtxNb2hopTuple Metric))
    (foundset : List NsAddr) (seen rest : List (EtxNb2hopTuple Metric))
    (mprset : Finset NsAddr)
    (selection : Selection nbMain nb2hop nbs all (seen ++ rest) mprset) :
    Selection nbMain nb2hop nbs all (r1UniquePass nbs foundset seen rest mprset).1
        (r1UniquePass nbs foundset seen rest mprset).2 ∧
      mprset ⊆ (r1UniquePass nbs foundset seen rest mprset).2 := by
  induction foundset, seen, rest, mprset using r1UniquePass.induct nbs with
  | case1 foundset seen mprset =>
      rw [r1UniquePass]
      exact ⟨by simpa using selection, fun _ member => member⟩
  | case2 foundset seen mprset hop tail known ih =>
      rw [r1UniquePass, if_pos known]
      exact ih (by simpa using selection)
  | case3 foundset seen mprset hop tail known unreached ih =>
      rw [r1UniquePass, if_neg known, if_pos unreached]
      exact ih (by simpa using selection)
  | case4 foundset seen mprset hop tail known reached shared ih =>
      rw [r1UniquePass, if_neg known, if_neg reached, if_pos shared]
      exact ih (by simpa using selection)
  | case5 foundset seen mprset hop tail known reached unique deleted seen' tail' again ih =>
      rw [r1UniquePass, if_neg known, if_neg reached, if_neg unique]
      simp only [deleted, seen', tail'] at again ih
      simp only [again, if_true]
      obtain ⟨final, grows⟩ := ih (restart_selection selection)
      exact ⟨final, fun _ old => grows (Finset.mem_insert_of_mem old)⟩
  | case6 foundset seen mprset hop tail known reached unique deleted seen' tail' done ih =>
      rw [r1UniquePass, if_neg known, if_neg reached, if_neg unique]
      simp only [deleted, seen', tail'] at done ih
      simp only [done]
      obtain ⟨final, grows⟩ := ih (dropProvider_selection selection)
      exact ⟨final, fun _ old => grows (Finset.mem_insert_of_mem old)⟩

/-! ## The routines -/

theorem mem_willingNeighbors {nbset : List NbTuple} {nb : NbTuple} :
    nb ∈ willingNeighbors nbset ↔
      nb ∈ nbset ∧ nb.status = .sym ∧ nb.willingness ≠ willNever := by
  simp [willingNeighbors]

theorem willing_mprCover {nbset : List NbTuple} {hops : List (EtxNb2hopTuple Metric)}
    {isLocalAddress : NsAddr → Bool} {mprset : Finset NsAddr}
    (unique : (nbset.map NbTuple.nbMainAddr).Nodup)
    (selection : Selection nbMain nb2hop (willingNeighbors nbset)
      (hops.filter (n2Member nbMain nb2hop isLocalAddress (willingNeighbors nbset))) [] mprset)
    (always : ∀ nb ∈ willingNeighbors nbset, nb.willingness = willAlways →
      nb.nbMainAddr ∈ mprset) :
    MprCover nbMain nb2hop isLocalAddress nbset hops mprset := by
  refine selection.mprCover unique List.filter_sublist ?_ ?_ always
  · exact fun nb member => (mem_willingNeighbors.mp member).2.1
  · exact fun nb member sym willing => mem_willingNeighbors.mpr ⟨member, sym, willing⟩

section

variable (isLocalAddress : NsAddr → Bool) (state : EtxState Metric)

/-- `olsr_r2_` and `qolsr_` differ only in the next neighbor they pick. -/
theorem willingRoutine_spec (unique : (state.nbset.map NbTuple.nbMainAddr).Nodup)
    (pick : List (EtxNb2hopTuple Metric) → Option NsAddr)
    (productive : Productive nbMain pick (state.nb2hopset.filter
      (n2Member nbMain nb2hop isLocalAddress (willingNeighbors state.nbset)))) :
    ∃ mprset,
      (let nbs := willingNeighbors state.nbset
       let n2 := state.nb2hopset.filter (n2Member nbMain nb2hop isLocalAddress nbs)
       let (n2, mprset) := willAlwaysPass nbMain nb2hop nbs n2
       let (mprset, _) := uniqueProviderPass nbMain nb2hop n2 mprset
       GreedyCover.greedy nbMain nb2hop pick n2.length n2 mprset) = some mprset ∧
      MprCover nbMain nb2hop isLocalAddress state.nbset state.nb2hopset mprset := by
  obtain ⟨started, always⟩ := willAlwaysPass_spec nbMain nb2hop (willingNeighbors state.nbset)
    (state.nb2hopset.filter
      (n2Member nbMain nb2hop isLocalAddress (willingNeighbors state.nbset)))
  obtain ⟨selected, grown, _⟩ := uniqueProviderPass_spec started
  obtain ⟨final, ran, grows, closed⟩ := selected.greedy productive
  exact ⟨final, ran, willing_mprCover unique closed
    fun nb member willing => grows (grown (always nb member willing))⟩

/-- Every candidate of `qolsr_` reaches an open tuple. -/
theorem reaches_of_mem_qolsrCandidates {nbs : List NbTuple}
    {n2 : List (EtxNb2hopTuple Metric)} {candidate : EtxNb2hopTuple Metric × Nat × NbTuple}
    (member : candidate ∈ qolsrCandidates nbs n2) :
    ∃ hop ∈ n2, hop.nbMainAddr = candidate.2.2.nbMainAddr := by
  cases n2 with
  | nil => simp [qolsrCandidates] at member
  | cons z tail =>
      obtain ⟨hop, included, among⟩ := List.mem_flatMap.mp member
      obtain ⟨reach, kept, rfl⟩ := List.mem_map.mp among
      obtain ⟨_, same⟩ := List.mem_filter.mp kept
      exact ⟨hop, (List.mem_filter.mp included).1, (of_decide_eq_true same).symm⟩

theorem olsrdMprComputation_spec :
    MprCover nbMain nb2hop isLocalAddress state.nbset state.nb2hopset
      (olsrdMprComputation state) := by
  have included : ∀ nb ∈ state.nbset, nb.status = .sym → nb.willingness ≠ willNever →
      nb.nbMainAddr ∈ olsrdMprComputation state := by
    intro nb member sym willing
    refine List.mem_toFinset.mpr (List.mem_map.mpr ⟨nb, ?_, rfl⟩)
    exact mem_willingNeighbors.mpr ⟨member, sym, willing⟩
  constructor
  · intro addr member
    obtain ⟨nb, among, same⟩ := List.mem_map.mp (List.mem_toFinset.mp member)
    obtain ⟨stored, sym, willing⟩ := mem_willingNeighbors.mp among
    exact ⟨nb, stored, same, sym, willing⟩
  · intro nb member sym will
    exact included nb member sym (by rw [will]; decide)
  · intro hop member nb stored main sym willing _ _
    exact ⟨hop, member, rfl, main ▸ included nb stored sym willing⟩

theorem mprCover_of_base {mprset : Finset NsAddr}
    (cover : MprCover Nb2hopTuple.nbMainAddr Nb2hopTuple.nb2hopAddr isLocalAddress
      state.base.nbset state.base.nb2hopset mprset) :
    MprCover nbMain nb2hop isLocalAddress state.nbset state.nb2hopset mprset := by
  refine ⟨cover.willing, cover.always, ?_⟩
  intro hop member nb stored main sym willing remote twoHop
  obtain ⟨other, among, same, picked⟩ := cover.covers hop.toNb2hopTuple
    (List.mem_map.mpr ⟨hop, member, rfl⟩) nb stored main sym willing remote twoHop
  obtain ⟨source, included, rfl⟩ := List.mem_map.mp among
  exact ⟨source, included, same, picked⟩

end

section

variable [Add Metric] [Mul Metric] [LT Metric] [DecidableLT Metric] [BEq Metric]
variable (parameter : Parameter) (isLocalAddress : NsAddr → Bool) (state : EtxState Metric)
  (now : Int)

omit [Add Metric] [Mul Metric] [BEq Metric] in
theorem olsrR1MprComputation_spec (unique : (state.nbset.map NbTuple.nbMainAddr).Nodup) :
    ∃ mprset, olsrR1MprComputation parameter isLocalAddress state now = some mprset ∧
      MprCover nbMain nb2hop isLocalAddress state.nbset state.nb2hopset mprset := by
  have started : Selection nbMain nb2hop (Olsr.symNeighbors state.nbset)
      (state.nb2hopset.filter
        (n2Member nbMain nb2hop isLocalAddress (Olsr.symNeighbors state.nbset)))
      ([] ++ state.nb2hopset.filter
        (n2Member nbMain nb2hop isLocalAddress (Olsr.symNeighbors state.nbset)))
      (((Olsr.symNeighbors state.nbset).filter fun nb => nb.willingness = willAlways).map
        NbTuple.nbMainAddr).toFinset := by
    refine ⟨by simp, fun _ member => .inl member, ?_⟩
    intro addr member
    obtain ⟨nb, among, same⟩ := List.mem_map.mp (List.mem_toFinset.mp member)
    obtain ⟨included, will⟩ := List.mem_filter.mp among
    exact .inr ⟨nb, included, by simpa using will, same⟩
  obtain ⟨selected, grown⟩ := r1UniquePass_spec _ _ [] _ _ _ started
  obtain ⟨final, ran, grows, closed⟩ := selected.greedy
    (reachabilityPick_productive isLocalAddress (r1Better parameter state now) _ _)
  refine ⟨final, ran, closed.mprCover unique List.filter_sublist ?_ ?_ ?_⟩
  · exact fun nb member => (mem_symNeighbors.mp member).2
  · exact fun nb member sym _ => mem_symNeighbors.mpr ⟨member, sym⟩
  · intro nb member will
    apply grows (grown (List.mem_toFinset.mpr (List.mem_map.mpr ⟨nb, ?_, rfl⟩)))
    exact List.mem_filter.mpr ⟨member, by simpa using will⟩

omit [Add Metric] [Mul Metric] in
theorem olsrR2MprComputation_spec (unique : (state.nbset.map NbTuple.nbMainAddr).Nodup) :
    ∃ mprset, olsrR2MprComputation parameter isLocalAddress state now = some mprset ∧
      MprCover nbMain nb2hop isLocalAddress state.nbset state.nb2hopset mprset :=
  willingRoutine_spec isLocalAddress state unique _
    (reachabilityPick_productive isLocalAddress (r2Better parameter state now) _ _)

theorem qolsrPick_productive (nbs : List NbTuple) (hops : List (EtxNb2hopTuple Metric)) :
    Productive nbMain (qolsrPick parameter state now nbs)
      (hops.filter (n2Member nbMain nb2hop isLocalAddress nbs)) := by
  intro rest sub nonempty
  obtain ⟨z, tail, rfl⟩ := List.exists_cons_of_ne_nil nonempty
  have n2 := n2Member_iff.mp (List.mem_filter.mp (sub List.mem_cons_self)).2
  obtain ⟨nb, found, _⟩ := n2.2.1
  have main : nb.nbMainAddr = z.nbMainAddr := by simpa using List.find?_some found
  have reaches := mem_byReachability_of_reaches nbMain
    (List.mem_of_find?_eq_some found) (@List.mem_cons_self _ z tail) main.symm
  have candidate : (z, reachabilityOf nbMain (z :: tail) nb, nb) ∈
      qolsrCandidates nbs (z :: tail) := by
    refine List.mem_flatMap.mpr ⟨z, by simp, List.mem_map.mpr ⟨_, ?_, rfl⟩⟩
    exact List.mem_filter.mpr ⟨reaches, by simpa using main⟩
  obtain ⟨chosen, member, selected⟩ :=
    selectMax_mem (qolsrBetter parameter state now) (List.ne_nil_of_mem candidate)
  obtain ⟨hop, open', same⟩ := reaches_of_mem_qolsrCandidates member
  exact ⟨chosen.2.2.nbMainAddr, by simp [qolsrPick, selected], hop, open', same⟩

theorem qolsrMprComputation_spec (unique : (state.nbset.map NbTuple.nbMainAddr).Nodup) :
    ∃ mprset, qolsrMprComputation parameter isLocalAddress state now = some mprset ∧
      MprCover nbMain nb2hop isLocalAddress state.nbset state.nb2hopset mprset :=
  willingRoutine_spec isLocalAddress state unique _
    (qolsrPick_productive parameter isLocalAddress state now _ _)

/-- With one tuple per neighbor, the selected routine ends with an MPR set of
willing symmetric neighbors that has every neighbor that is always willing and
covers every 2-hop node. -/
theorem selectedMprComputation_covers
    (unique : (state.nbset.map NbTuple.nbMainAddr).Nodup) :
    ∃ mprset, selectedMprComputation parameter isLocalAddress state now = some mprset ∧
      MprCover nbMain nb2hop isLocalAddress state.nbset state.nb2hopset mprset := by
  unfold selectedMprComputation
  cases parameter.mprAlgorithm with
  | r1 => exact olsrR1MprComputation_spec parameter isLocalAddress state now unique
  | r2 => exact olsrR2MprComputation_spec parameter isLocalAddress state now unique
  | qolsr => exact qolsrMprComputation_spec parameter isLocalAddress state now unique
  | olsrd => exact ⟨_, rfl, olsrdMprComputation_spec isLocalAddress state⟩
  | default =>
      obtain ⟨mprset, computed, cover⟩ :=
        mprComputation_spec isLocalAddress state.base unique
      exact ⟨mprset, computed, mprCover_of_base isLocalAddress state cover⟩

def twoProviders : EtxState ℚ where
  linkset := [
    { id := 0, localIfaceAddr := 1, nbIfaceAddr := 2, symTime := 10, asymTime := 10,
      lostTime := 0, time := 10, localIfaceIndex := 0, etx := 4, linkDelay := 1 },
    { id := 1, localIfaceAddr := 1, nbIfaceAddr := 3, symTime := 10, asymTime := 10,
      lostTime := 0, time := 10, localIfaceIndex := 0, etx := 2, linkDelay := 1 }]
  nbset := [
    { nbMainAddr := 2, status := .sym, willingness := willDefault },
    { nbMainAddr := 3, status := .sym, willingness := willDefault }]
  nb2hopset := [
    { id := 2, nbMainAddr := 2, nb2hopAddr := 4, time := 10, etx := 1 },
    { id := 3, nbMainAddr := 3, nb2hopAddr := 4, time := 10, etx := 1 }]

theorem selectedMprComputation_covers_twoProviders :
    ∃ mprset, selectedMprComputation
        { mprAlgorithm := .qolsr, linkQuality := .etx, linkDelay := false }
        (fun addr => decide (addr = 1)) twoProviders 0 = some mprset ∧
      MprCover nbMain nb2hop (fun addr => decide (addr = 1)) twoProviders.nbset
        twoProviders.nb2hopset mprset :=
  selectedMprComputation_covers _ _ twoProviders 0 (by decide)

end

end SyncFanet.OlsrEtx
