import Mathlib.Data.List.MinMax
import SyncFanet.Dsr.MaintBuffer
import SyncFanet.Library.Smoothing

/-!
# The estimation of the retransmission timeout

`neigh_tbl_set_rto` keeps a smoothed round trip and its variation in unsigned numbers of 64
bits, to which it adds a signed `delta` of 32 bits. In the range of the samples that
`maint_buf_del_all_id` takes all sums are those of the integers.
-/

set_option autoImplicit false

namespace SyncFanet.Dsr

/-! ## Numbers of the machine -/

/-- A number as `usecs_t`. -/
def usecsT (value : Int) : Nat :=
  (value % 2 ^ 64).toNat

/-- A number as `int`. -/
def cInt (value : Int) : Int :=
  value.bmod (2 ^ 32)

/-! ## The neighbour table -/

/-- `struct neighbor` with all that the estimation reads. -/
structure RtoNeighbor extends Neighbor where
  tRttvar : Nat
  tRttmin : Nat

/-- `neigh_tbl_create`. -/
def RtoNeighbor.create : RtoNeighbor where
  toNeighbor := neighTblCreate
  tRttvar := (30 * 2) <<< 2
  tRttmin := 20

namespace RtoNeighbor

/-- The change of the entry that `neigh_tbl_set_rto` makes. -/
def setRto (n : RtoNeighbor) (rtt : Nat) : RtoNeighbor :=
  let estimate : Nat × Nat :=
    if n.tSrtt ≠ 0 then
      let delta := cInt (usecsT (rtt - 1 - (n.tSrtt >>> 3 : Nat)))
      let tSrtt := usecsT (n.tSrtt + delta)
      let tSrtt := if tSrtt ≤ 0 then 1 else tSrtt
      let delta := if delta < 0 then cInt (-delta) else delta
      let delta := cInt (usecsT (delta - (n.tRttvar >>> 2 : Nat)))
      let tRttvar := usecsT (n.tRttvar + delta)
      (tSrtt, if tRttvar ≤ 0 then 1 else tRttvar)
    else (usecsT (rtt <<< 3 : Nat), usecsT (rtt <<< 1 : Nat))
  { n with
    tSrtt := estimate.1
    tRttvar := estimate.2
    tRxtcur := rangeSet (usecsT (estimate.1 >>> 3 + estimate.1 : Nat)) n.tRttmin 1280 }

end RtoNeighbor

abbrev RtoTable := Finmap fun _ : InAddr => RtoNeighbor

namespace RtoTable

/-- `neigh_tbl_add`. -/
def add (neighbors : RtoTable) (addr : InAddr) : RtoTable :=
  match neighbors.lookup addr with
  | some _ => neighbors
  | none => neighbors.insert addr .create

/-- `neigh_tbl_set_rto`. -/
def setRto (neighbors : RtoTable) (addr : InAddr) (rtt : Nat) : Int × RtoTable :=
  match neighbors.lookup addr with
  | some n => (1, neighbors.insert addr (n.setRto rtt))
  | none => (0, neighbors)

/-- `neigh_tbl_query`: the identifier, the last request and the timeout. -/
def query (neighbors : RtoTable) (addr : InAddr) : Option (Nat × Int × Nat) :=
  (neighbors.lookup addr).map fun n => (n.id, n.lastAckReq, usecsT (n.tRxtcur * 1000 : Nat) / 2)

end RtoTable

/-! ## The estimate in integers -/

/-- The smoothed round trip and its variation. -/
structure RttEstimate where
  srtt : Int
  rttvar : Int

namespace RttEstimate

def first (rtt : Int) : RttEstimate where
  srtt := 8 * rtt
  rttvar := 2 * rtt

def next (estimate : RttEstimate) (rtt : Int) : RttEstimate where
  srtt := smoothed 8 estimate.srtt (rtt - 1)
  rttvar := smoothed 4 estimate.rttvar |innovation 8 estimate.srtt (rtt - 1)|

def run (estimate : RttEstimate) (rest : List Nat) : RttEstimate :=
  rest.foldl (fun estimate (rtt : Nat) => estimate.next rtt) estimate

structure InRange (most : Int) (estimate : RttEstimate) : Prop where
  srttPos : 0 < estimate.srtt
  srttLe : estimate.srtt ≤ 8 * most
  rttvarPos : 0 < estimate.rttvar
  rttvarLe : estimate.rttvar ≤ 4 * most

variable {most rtt : Int} {estimate : RttEstimate}

theorem inRange_first (pos : 1 ≤ rtt) (le : rtt ≤ most) : (first rtt).InRange most := by
  constructor <;> simp only [first] <;> omega

theorem InRange.next (inRange : estimate.InRange most) (pos : 1 ≤ rtt) (le : rtt ≤ most) :
    (estimate.next rtt).InRange most := by
  have sampleNonneg : 0 ≤ rtt - 1 := by omega
  have sampleLe : rtt - 1 ≤ most := by omega
  have deviation := abs_innovation_le (by decide) inRange.srttPos.le inRange.srttLe sampleNonneg
    sampleLe
  exact {
    srttPos := smoothed_pos (by decide) inRange.srttPos sampleNonneg
    srttLe := smoothed_le (by decide) inRange.srttLe sampleLe
    rttvarPos := smoothed_pos (by decide) inRange.rttvarPos (abs_nonneg _)
    rttvarLe := smoothed_le (by decide) inRange.rttvarLe deviation }

end RttEstimate

/-! ## In range the numbers of the machine are the integers -/

theorem usecsT_of_range {value : Int} (nonneg : 0 ≤ value) (small : value < 2 ^ 64) :
    (usecsT value : Int) = value := by
  rw [usecsT, Int.emod_eq_of_lt nonneg small, Int.toNat_of_nonneg nonneg]

theorem cInt_of_range {value : Int} (low : -2 ^ 31 ≤ value) (high : value < 2 ^ 31) :
    cInt value = value := by
  rw [cInt, Int.bmod_eq_of_le] <;> omega

/-- The conversion to `int` does not see that a difference was unsigned. -/
theorem cInt_usecsT (value : Int) : cInt (usecsT value) = cInt value := by
  have nonneg : 0 ≤ value % 2 ^ 64 := Int.emod_nonneg value (by decide)
  rw [usecsT, Int.toNat_of_nonneg nonneg, cInt, cInt, ← Int.emod_bmod,
    Int.emod_emod_of_dvd value (by decide), Int.emod_bmod]

theorem usecsT_natCast (value : Nat) : usecsT value = value % 2 ^ 64 := by
  rw [usecsT]
  omega

theorem cInt_of_abs_le {value most : Int} (le : |value| ≤ most) (small : most < 2 ^ 27) :
    cInt value = value := by
  rw [abs_le] at le
  exact cInt_of_range (by omega) (by omega)

/-- `delta` is made positive. -/
theorem cInt_abs {value most : Int} (le : |value| ≤ most) (small : most < 2 ^ 27) :
    (if value < 0 then cInt (-value) else value) = |value| := by
  split
  · next negative => rw [cInt_of_abs_le ((abs_neg value).trans_le le) small, abs_of_neg negative]
  · next nonneg => rw [abs_of_nonneg (Int.not_lt.mp nonneg)]

theorem guarded_of_range {value : Int} (pos : 0 < value) (small : value < 2 ^ 64) :
    ((if usecsT value ≤ 0 then 1 else usecsT value : Nat) : Int) = value := by
  have exact := usecsT_of_range pos.le small
  rw [if_neg (by omega), exact]

namespace RtoNeighbor

variable {n : RtoNeighbor} {estimate : RttEstimate} {most : Int} {rtt : Nat}

structure Tracks (n : RtoNeighbor) (estimate : RttEstimate) : Prop where
  srtt : (n.tSrtt : Int) = estimate.srtt
  rttvar : (n.tRttvar : Int) = estimate.rttvar
  rttmin : n.tRttmin = 20
  rxtcur : (n.tRxtcur : Int) = max 20 (min (estimate.srtt / 8 + estimate.srtt) 1280)

/-- `DSR_RANGESET` takes the exact sum. -/
theorem tRxtcur_setRto (srtt : ((n.setRto rtt).tSrtt : Int) = estimate.srtt)
    (rttmin : n.tRttmin = 20) (small : estimate.srtt < 2 ^ 32) :
    ((n.setRto rtt).tRxtcur : Int) = max 20 (min (estimate.srtt / 8 + estimate.srtt) 1280) := by
  have limited : (n.setRto rtt).tRxtcur =
      rangeSet (usecsT ((n.setRto rtt).tSrtt >>> 3 + (n.setRto rtt).tSrtt : Nat)) n.tRttmin 1280 :=
    rfl
  rw [limited, rttmin, usecsT_natCast, Nat.shiftRight_eq_div_pow, rangeSet]
  split_ifs <;> omega

theorem tracks_first (unsampled : n.tSrtt = 0) (rttmin : n.tRttmin = 20) (small : rtt < 2 ^ 27) :
    (n.setRto rtt).Tracks (.first rtt) := by
  have srtt : ((n.setRto rtt).tSrtt : Int) = (RttEstimate.first rtt).srtt := by
    simp only [setRto, unsampled, ne_eq, not_true_eq_false, if_false, usecsT_natCast,
      RttEstimate.first, Nat.shiftLeft_eq]
    omega
  have rttvar : ((n.setRto rtt).tRttvar : Int) = (RttEstimate.first rtt).rttvar := by
    simp only [setRto, unsampled, ne_eq, not_true_eq_false, if_false, usecsT_natCast,
      RttEstimate.first, Nat.shiftLeft_eq]
    omega
  have srttSmall : (RttEstimate.first rtt).srtt < 2 ^ 32 := by
    simp only [RttEstimate.first]
    omega
  exact ⟨srtt, rttvar, rttmin, tRxtcur_setRto srtt rttmin srttSmall⟩

theorem Tracks.shift_tSrtt (tracks : n.Tracks estimate) :
    ((n.tSrtt >>> 3 : Nat) : Int) = estimate.srtt / 8 := by
  rw [← tracks.srtt, Nat.shiftRight_eq_div_pow, Int.natCast_ediv]
  rfl

theorem Tracks.shift_tRttvar (tracks : n.Tracks estimate) :
    ((n.tRttvar >>> 2 : Nat) : Int) = estimate.rttvar / 4 := by
  rw [← tracks.rttvar, Nat.shiftRight_eq_div_pow, Int.natCast_ediv]
  rfl

theorem Tracks.next (tracks : n.Tracks estimate) (inRange : estimate.InRange most)
    (small : most < 2 ^ 27) (pos : 1 ≤ rtt) (le : (rtt : Int) ≤ most) :
    (n.setRto rtt).Tracks (estimate.next rtt) := by
  have after := inRange.next (Int.ofNat_le.mpr pos) le
  have srttSmall : (estimate.next rtt).srtt < 2 ^ 32 := after.srttLe.trans_lt (by omega)
  have rttvarSmall : (estimate.next rtt).rttvar < 2 ^ 32 := after.rttvarLe.trans_lt (by omega)
  have deviation : |innovation 8 estimate.srtt (rtt - 1)| ≤ most :=
    abs_innovation_le (by decide) inRange.srttPos.le inRange.srttLe (by omega) (by omega)
  have deviationVar := abs_innovation_le (by decide) inRange.rttvarPos.le inRange.rttvarLe
    (abs_nonneg _) deviation
  have sampled : n.tSrtt ≠ 0 := by
    have positive := inRange.srttPos
    rw [← tracks.srtt] at positive
    omega
  have delta : cInt (usecsT (rtt - 1 - (n.tSrtt >>> 3 : Nat))) =
      innovation 8 estimate.srtt (rtt - 1) := by
    rw [cInt_usecsT, tracks.shift_tSrtt]
    exact cInt_of_abs_le deviation small
  have deltaVar : cInt (usecsT (|innovation 8 estimate.srtt (rtt - 1)| -
      (n.tRttvar >>> 2 : Nat))) =
        innovation 4 estimate.rttvar |innovation 8 estimate.srtt (rtt - 1)| := by
    rw [cInt_usecsT, tracks.shift_tRttvar]
    exact cInt_of_abs_le deviationVar small
  have srtt : ((n.setRto rtt).tSrtt : Int) = (estimate.next rtt).srtt := by
    simp only [setRto, if_pos sampled, delta, tracks.srtt]
    exact guarded_of_range after.srttPos (srttSmall.trans (by decide))
  have rttvar : ((n.setRto rtt).tRttvar : Int) = (estimate.next rtt).rttvar := by
    simp only [setRto, if_pos sampled, delta, cInt_abs deviation small, deltaVar, tracks.rttvar]
    exact guarded_of_range after.rttvarPos (rttvarSmall.trans (by decide))
  exact ⟨srtt, rttvar, tracks.rttmin, tRxtcur_setRto srtt tracks.rttmin srttSmall⟩

theorem Tracks.run {rest : List Nat} (tracks : n.Tracks estimate) (inRange : estimate.InRange most)
    (small : most < 2 ^ 27) (ranged : ∀ rtt ∈ rest, 1 ≤ rtt ∧ (rtt : Int) ≤ most) :
    (rest.foldl setRto n).Tracks (estimate.run rest) ∧ (estimate.run rest).InRange most := by
  induction rest generalizing n estimate with
  | nil => exact ⟨tracks, inRange⟩
  | cons rtt rest ih =>
      obtain ⟨pos, le⟩ := ranged rtt List.mem_cons_self
      exact ih (tracks.next inRange small pos le) (inRange.next (Int.ofNat_le.mpr pos) le)
        fun other listed => ranged other (List.mem_cons_of_mem rtt listed)

theorem toNeighbor_setRto (rttmin : n.tRttmin = 20) :
    (n.setRto rtt).toNeighbor = n.toNeighbor.setRto rtt := by
  have same : (n.setRto rtt).tSrtt = (n.toNeighbor.setRto rtt).tSrtt := by
    by_cases sampled : n.tSrtt ≠ 0
    · simp only [setRto, Neighbor.setRto, if_pos sampled, cInt_usecsT, Nat.le_zero,
        Nat.shiftRight_eq_div_pow]
      rfl
    · simp only [setRto, Neighbor.setRto, if_neg sampled, usecsT_natCast, Nat.shiftLeft_eq]
  have limited : (n.setRto rtt).toNeighbor =
      { n.toNeighbor with
        tSrtt := (n.setRto rtt).tSrtt
        tRxtcur := rangeSet
          (usecsT ((n.setRto rtt).tSrtt >>> 3 + (n.setRto rtt).tSrtt : Nat)) n.tRttmin 1280 } :=
    rfl
  rw [limited, same, rttmin, usecsT_natCast, Nat.shiftRight_eq_div_pow]
  rfl

theorem toNeighbor_run (rttmin : n.tRttmin = 20) (samples : List Nat) :
    (samples.foldl setRto n).toNeighbor = samples.foldl Neighbor.setRto n.toNeighbor := by
  induction samples generalizing n with
  | nil => rfl
  | cons rtt rest ih =>
      have later := ih (n := n.setRto rtt) rttmin
      rw [toNeighbor_setRto rttmin] at later
      exact later

end RtoNeighbor

/-! ## Sequences of samples -/

namespace RtoTable

/-- Samples that `neigh_tbl_set_rto` takes one after the other. -/
def setRtos (neighbors : RtoTable) (addr : InAddr) (samples : List Nat) : RtoTable :=
  samples.foldl (fun neighbors rtt => (neighbors.setRto addr rtt).2) neighbors

variable {neighbors : RtoTable} {addr : InAddr} {n : RtoNeighbor}

theorem lookup_add (fresh : neighbors.lookup addr = none) :
    (neighbors.add addr).lookup addr = some .create := by
  simp only [add, fresh, Finmap.lookup_insert]

theorem lookup_setRto (known : neighbors.lookup addr = some n) (rtt : Nat) :
    (neighbors.setRto addr rtt).2.lookup addr = some (n.setRto rtt) := by
  simp only [setRto, known, Finmap.lookup_insert]

theorem lookup_setRtos (known : neighbors.lookup addr = some n) (samples : List Nat) :
    (neighbors.setRtos addr samples).lookup addr = some (samples.foldl RtoNeighbor.setRto n) := by
  induction samples generalizing neighbors n with
  | nil => exact known
  | cons rtt rest ih => exact ih (lookup_setRto known rtt)

theorem query_eq (known : neighbors.lookup addr = some n) (limited : n.tRxtcur ≤ 1280) :
    neighbors.query addr = some (n.id, n.lastAckReq, n.toNeighbor.rto) := by
  rw [query, known, Option.map_some, usecsT_natCast, Nat.mod_eq_of_lt (by omega)]
  rfl

end RtoTable

/-- The greatest of the samples. -/
def largest (samples : List Nat) : Nat :=
  samples.foldr max 0

theorem le_largest {samples : List Nat} {rtt : Nat} (listed : rtt ∈ samples) :
    rtt ≤ largest samples :=
  List.le_max_of_le listed (Nat.le_refl rtt)

/-- What an entry holds after some samples. -/
structure RtoNeighbor.Estimates (n : RtoNeighbor) (samples : List Nat) : Prop where
  /-- The numbers of the machine are those of the integers. -/
  exact : ∀ rtt rest, samples = rtt :: rest → n.Tracks ((RttEstimate.first rtt).run rest)
  tSrttPos : samples ≠ [] → 1 ≤ n.tSrtt
  tRttvarPos : samples ≠ [] → 1 ≤ n.tRttvar
  tSrttLe : n.tSrtt ≤ 8 * largest samples
  tRxtcurRange : 20 ≤ n.tRxtcur ∧ n.tRxtcur ≤ 1280

theorem RtoNeighbor.estimates_create : create.Estimates [] where
  exact := fun _ _ samples => by cases samples
  tSrttPos := fun sampled => absurd rfl sampled
  tRttvarPos := fun sampled => absurd rfl sampled
  tSrttLe := Nat.le_refl 0
  tRxtcurRange := by decide

theorem RtoNeighbor.estimates_setRto {rtt : Nat} {rest : List Nat}
    (ranged : ∀ sample ∈ rtt :: rest, 1 ≤ sample ∧ sample < 2 ^ 27) :
    ((rtt :: rest).foldl setRto create).Estimates (rtt :: rest) := by
  have pos := (ranged rtt List.mem_cons_self).1
  have small : (largest (rtt :: rest) : Int) < 2 ^ 27 := by
    have least := List.max_le_of_forall_le (rtt :: rest) (2 ^ 27 - 1) fun sample listed =>
      Nat.le_sub_one_of_lt (ranged sample listed).2
    exact Int.ofNat_lt.mpr (Nat.lt_of_le_sub_one (by decide) least)
  have tracks := tracks_first (n := create) rfl rfl (ranged rtt List.mem_cons_self).2
  have inRange := RttEstimate.inRange_first (Int.ofNat_le.mpr pos)
    (Int.ofNat_le.mpr (le_largest (List.mem_cons_self (a := rtt) (l := rest))))
  obtain ⟨held, within⟩ := tracks.run inRange small fun sample listed =>
    ⟨(ranged sample (List.mem_cons_of_mem rtt listed)).1,
      Int.ofNat_le.mpr (le_largest (List.mem_cons_of_mem rtt listed))⟩
  have srtt := held.srtt
  have rttvar := held.rttvar
  have rxtcur := held.rxtcur
  have srttPos := within.srttPos
  have srttLe := within.srttLe
  have rttvarPos := within.rttvarPos
  rw [List.foldl_cons]
  exact {
    exact := fun other others same => by cases same; exact held
    tSrttPos := fun _ => by omega
    tRttvarPos := fun _ => by omega
    tSrttLe := by omega
    tRxtcurRange := by omega }

/-- Samples in range never make the estimation of a new neighbour wrap, and the timeout that
the table reports stays between 10 and 640 ms. -/
theorem RtoTable.estimates {neighbors : RtoTable} {addr : InAddr}
    (fresh : neighbors.lookup addr = none) (samples : List Nat)
    (ranged : ∀ rtt ∈ samples, 1 ≤ rtt ∧ rtt < 2 ^ 27) :
    ∃ n, ((neighbors.add addr).setRtos addr samples).lookup addr = some n ∧
      n.Estimates samples ∧
      ∃ id lastAckReq rto,
        ((neighbors.add addr).setRtos addr samples).query addr = some (id, lastAckReq, rto) ∧
          10000 ≤ rto ∧ rto ≤ 640000 := by
  have known := lookup_setRtos (lookup_add fresh) samples
  have held : (samples.foldl RtoNeighbor.setRto .create).Estimates samples := by
    cases samples with
    | nil => exact RtoNeighbor.estimates_create
    | cons rtt rest => exact RtoNeighbor.estimates_setRto ranged
  obtain ⟨least, most⟩ := held.tRxtcurRange
  refine ⟨_, known, held, _, _, _, query_eq known most, ?_⟩
  rw [Neighbor.rto]
  omega

theorem RtoTable.estimates_three :
    (∀ rtt ∈ [900, 134217727, 1], 1 ≤ rtt ∧ rtt < 2 ^ 27) ∧
      ∃ n, ((add ∅ 7).setRtos 7 [900, 134217727, 1]).lookup 7 = some n ∧
        n.Estimates [900, 134217727, 1] ∧
        ∃ id lastAckReq rto,
          ((add ∅ 7).setRtos 7 [900, 134217727, 1]).query 7 = some (id, lastAckReq, rto) ∧
            10000 ≤ rto ∧ rto ≤ 640000 :=
  ⟨by decide, RtoTable.estimates (Finmap.lookup_empty 7) [900, 134217727, 1] (by decide)⟩

end SyncFanet.Dsr
