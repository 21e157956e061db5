import Mathlib.Data.List.DropRight
import Mathlib.Data.List.MinMax
import SyncFanet.Dsr.CostVector
import SyncFanet.Dsr.RestartRuns
import SyncFanet.Library.TopSelection

/-!
# The neighbours that a probe lists

`EtxMsgSend` visits the neighbours in the order of their addresses, and lists the 15 with the
greatest delivery ratios. When it forgets a neighbour it starts again with the first one, and
lists those before it a second time.
-/

set_option autoImplicit false

namespace SyncFanet.Dsr

/-- An `ETXEntry` with the times at which a probe was received. -/
structure EtxNeighbor extends EtxEntry where
  timeVector : List SimTime

/-- `EtxList`: an element of the extension of a probe. -/
structure EtxList where
  address : InAddr
  delivery : ℚ
  deriving DecidableEq

/-- `etxNeighborTable`: the entries in the order of their addresses, each with the times of the
probes received in their order. -/
structure EtxNeighborTable where
  entries : List (InAddr × EtxNeighbor)
  ordered : entries.Pairwise fun item other => item.1 < other.1
  received : ∀ item ∈ entries, item.2.timeVector.Pairwise (· ≤ ·)

namespace LifeConfig

variable (config : LifeConfig) (now : SimTime)

def outdated (time : SimTime) : Bool :=
  now - time > config.etxWindowSize

/-- The delivery ratio for a number of probes received. -/
def delivery (count : Nat) : ℚ :=
  let expected : ℚ := config.etxWindowSize / config.etxTime
  -- in a window for no probes the quotient is infinite
  if expected = 0 ∨ count / expected > 99 / 100 then 1 else count / expected

/-- The entry without the times that are too old. -/
def prune (entry : EtxNeighbor) : EtxNeighbor :=
  { entry with timeVector := entry.timeVector.dropWhile (config.outdated now) }

end LifeConfig

/-- The element goes into the array, when it is full in the place of the first one with the
least delivery ratio. -/
def recordNeighbor : List EtxList → EtxList → List EtxList :=
  keepTop EtxList.delivery 15

/-- The loop of `EtxMsgSend` with the neighbours visited since it has last started and those
ahead, `neigh` and the neighbours for which it has called `linkFailed`. -/
def etxLoop (config : LifeConfig) (now : SimTime) (visited ahead : List (InAddr × EtxNeighbor))
    (neigh : List EtxList) (failed : List InAddr) :
    List (InAddr × EtxNeighbor) × List EtxList × List InAddr :=
  match ahead with
  | [] => (visited, neigh, failed)
  | (address, entry) :: ahead =>
      let entry := config.prune now entry
      if entry.timeVector = [] then
        etxLoop config now [] (visited ++ ahead) neigh (failed ++ [address])
      else
        let delivery := config.delivery entry.timeVector.length
        etxLoop config now (visited ++ [(address, { entry with deliveryDirect := delivery })])
          ahead (recordNeighbor neigh { address := address, delivery := delivery }) failed
termination_by (visited.length + ahead.length, ahead.length)
decreasing_by
  · exact Prod.Lex.left _ _ (by simp)
  · rw [List.length_append, List.length_singleton, List.length_cons, Nat.add_assoc, Nat.add_comm 1]
    exact Prod.Lex.right _ (Nat.lt_succ_self _)

/-! ## What the loop leaves -/

section

variable (config : LifeConfig) (now : SimTime)

/-- A probe of the neighbour has been received within the window. -/
def fresh (item : InAddr × EtxNeighbor) : Bool :=
  item.2.timeVector.any fun time => now - time ≤ config.etxWindowSize

def settled (item : InAddr × EtxNeighbor) : InAddr × EtxNeighbor :=
  let entry := config.prune now item.2
  (item.1, { entry with deliveryDirect := config.delivery entry.timeVector.length })

def probe (item : InAddr × EtxNeighbor) : EtxList where
  address := item.1
  delivery := config.delivery (config.prune now item.2).timeVector.length

def visits (visited : List EtxList) : List (InAddr × EtxNeighbor) → List EtxList
  | [] => []
  | item :: ahead =>
      if fresh config now item then
        probe config now item :: visits (visited ++ [probe config now item]) ahead
      else visited ++ visits visited ahead

variable {config now} {item : InAddr × EtxNeighbor}

theorem prune_eq_nil_iff :
    (config.prune now item.2).timeVector = [] ↔ fresh config now item = false := by
  rw [LifeConfig.prune, List.dropWhile_eq_nil_iff, fresh, List.any_eq_false]
  simp only [LifeConfig.outdated, decide_eq_true_eq, gt_iff_lt, not_le]

theorem prune_settled :
    (config.prune now (settled config now item).2).timeVector =
      (config.prune now item.2).timeVector := by
  simp only [settled, LifeConfig.prune]
  exact List.dropWhile_idempotent _ _

theorem fresh_settled : fresh config now (settled config now item) = fresh config now item := by
  rw [Bool.eq_iff_iff, ← not_iff_not, Bool.not_eq_true, Bool.not_eq_true, ← prune_eq_nil_iff,
    ← prune_eq_nil_iff, prune_settled]

theorem settled_settled :
    settled config now (settled config now item) = settled config now item := by
  have pruned : (config.prune now (settled config now item).2).timeVector = _ := prune_settled
  simp only [settled, LifeConfig.prune] at pruned ⊢
  rw [pruned]

theorem probe_settled : probe config now (settled config now item) = probe config now item := by
  rw [probe, prune_settled]
  rfl

theorem visits_append {done : List (InAddr × EtxNeighbor)}
    (live : ∀ item ∈ done, fresh config now item = true) (visited : List EtxList)
    (ahead : List (InAddr × EtxNeighbor)) :
    visits config now visited (done ++ ahead) =
      done.map (probe config now) ++
        visits config now (visited ++ done.map (probe config now)) ahead := by
  induction done generalizing visited with
  | nil => simp
  | cons item done ih =>
      have rest := ih (fun other member => live other (List.mem_cons_of_mem item member))
        (visited ++ [probe config now item])
      rw [List.cons_append, visits, if_pos (live item List.mem_cons_self), rest]
      simp

theorem etxLoop_stale {ahead visited : List (InAddr × EtxNeighbor)} {neigh : List EtxList}
    {failed : List InAddr} (stale : fresh config now item = false) :
    etxLoop config now visited (item :: ahead) neigh failed =
      etxLoop config now [] (visited ++ ahead) neigh (failed ++ [item.1]) := by
  rw [etxLoop, if_pos (prune_eq_nil_iff.mpr stale)]

theorem etxLoop_fresh {ahead visited : List (InAddr × EtxNeighbor)} {neigh : List EtxList}
    {failed : List InAddr} (live : fresh config now item = true) :
    etxLoop config now visited (item :: ahead) neigh failed =
      etxLoop config now (visited ++ [settled config now item]) ahead
        (recordNeighbor neigh (probe config now item)) failed := by
  have some : ¬(config.prune now item.2).timeVector = [] := fun none =>
    absurd (prune_eq_nil_iff.mp none) (by simp [live])
  rw [etxLoop, if_neg some]
  rfl

/-- The loop settles the entries of the live neighbours, records every visit of one and calls
`linkFailed` for each of the others. -/
theorem etxLoop_eq (visited ahead : List (InAddr × EtxNeighbor)) (neigh : List EtxList)
    (failed : List InAddr) (live : ∀ item ∈ visited, fresh config now item = true)
    (done : ∀ item ∈ visited, settled config now item = item) :
    etxLoop config now visited ahead neigh failed =
      (visited ++ (ahead.filter (fresh config now)).map (settled config now),
        (visits config now (visited.map (probe config now)) ahead).foldl recordNeighbor neigh,
        failed ++ (ahead.filter fun item => !fresh config now item).map Prod.fst) := by
  induction visited, ahead, neigh, failed using etxLoop.induct config now with
  | case1 visited neigh failed => simp [etxLoop, visits]
  | case2 visited neigh failed address entry ahead pruned none ih =>
      have stale : fresh config now (address, entry) = false := prune_eq_nil_iff.mp none
      have again := ih (fun _ member => absurd member List.not_mem_nil)
        (fun _ member => absurd member List.not_mem_nil)
      have kept : visited.filter (fresh config now) = visited := List.filter_eq_self.mpr live
      have none : (visited.filter fun item => !fresh config now item) = [] :=
        List.filter_eq_nil_iff.mpr fun item member => by simp [live item member]
      have same : visited.map (settled config now) = visited :=
        (List.map_congr_left done).trans (List.map_id visited)
      rw [etxLoop_stale stale, again, List.map_nil, visits_append live, List.filter_append,
        List.filter_append, kept, none, List.map_append, same]
      simp [visits, stale]
  | case3 visited neigh failed address entry ahead pruned some delivery ih =>
      have here : fresh config now (address, entry) = true := by
        rw [← Bool.not_eq_false, ← prune_eq_nil_iff]
        exact some
      have next : ∀ item ∈ visited ++ [settled config now (address, entry)],
          fresh config now item = true ∧ settled config now item = item := by
        intro item member
        rcases List.mem_append.mp member with earlier | last
        · exact ⟨live item earlier, done item earlier⟩
        · rw [List.mem_singleton.mp last]
          exact ⟨fresh_settled.trans here, settled_settled⟩
      have again : etxLoop config now (visited ++ [settled config now (address, entry)]) ahead
          (recordNeighbor neigh (probe config now (address, entry))) failed =
            (visited ++ [settled config now (address, entry)] ++
                (ahead.filter (fresh config now)).map (settled config now),
              (visits config now ((visited ++ [settled config now (address, entry)]).map
                (probe config now)) ahead).foldl recordNeighbor
                  (recordNeighbor neigh (probe config now (address, entry))),
              failed ++ (ahead.filter fun item => !fresh config now item).map Prod.fst) :=
        ih (fun item member => (next item member).1) fun item member => (next item member).2
      rw [etxLoop_fresh here, again]
      simp [visits, here, probe_settled]

end

/-! ## Visits -/

section

variable (config : LifeConfig) (now : SimTime)

/-- The live neighbours before one that is forgotten. -/
def beforeStale : List (InAddr × EtxNeighbor) → List (InAddr × EtxNeighbor)
  | [] => []
  | item :: rest =>
      if fresh config now item ∧ ¬rest.all (fresh config now) then item :: beforeStale rest
      else beforeStale rest

/-- The neighbours after the last one that is forgotten. -/
def afterStale : List (InAddr × EtxNeighbor) → List (InAddr × EtxNeighbor)
  | [] => []
  | item :: rest =>
      if (item :: rest).all (fresh config now) then item :: rest else afterStale rest

def restarts (visited : List EtxList) : List (InAddr × EtxNeighbor) → List EtxList
  | [] => []
  | item :: ahead =>
      if fresh config now item then restarts (visited ++ [probe config now item]) ahead
      else visited ++ restarts visited ahead

variable {config now} {entries : List (InAddr × EtxNeighbor)}

theorem append_visits (visited : List EtxList) (ahead : List (InAddr × EtxNeighbor)) :
    visited ++ visits config now visited ahead =
      restarts config now visited ahead ++
        (visited ++ (ahead.filter (fresh config now)).map (probe config now)) := by
  induction ahead generalizing visited with
  | nil => simp [visits, restarts]
  | cons item ahead ih =>
      by_cases live : fresh config now item = true
      · rw [visits, restarts, if_pos live, if_pos live, List.filter_cons_of_pos live]
        simpa using ih (visited ++ [probe config now item])
      · rw [visits, restarts, if_neg live, if_neg live, List.filter_cons_of_neg live, ih,
          List.append_assoc]

theorem visits_eq : visits config now [] entries =
    restarts config now [] entries ++ (entries.filter (fresh config now)).map (probe config now) :=
  append_visits [] entries

theorem beforeStale_eq_nil (live : entries.all (fresh config now) = true) :
    beforeStale config now entries = [] := by
  induction entries with
  | nil => rfl
  | cons item rest ih =>
      rw [List.all_cons, Bool.and_eq_true] at live
      rw [beforeStale, if_neg fun both => both.2 live.2, ih live.2]

theorem mem_restarts (visited : List EtxList) (element : EtxList) :
    element ∈ restarts config now visited entries ↔
      element ∈ visited ∧ ¬entries.all (fresh config now) ∨
        element ∈ (beforeStale config now entries).map (probe config now) := by
  induction entries generalizing visited with
  | nil => simp [restarts, beforeStale]
  | cons item rest ih =>
      by_cases live : fresh config now item = true
      · rw [restarts, if_pos live, ih, List.mem_append, List.mem_singleton, List.all_cons, live,
          Bool.true_and, beforeStale]
        by_cases all : rest.all (fresh config now) = true
        · rw [if_neg fun both => both.2 all]
          tauto
        · rw [if_pos ⟨live, all⟩, List.map_cons, List.mem_cons]
          tauto
      · rw [restarts, if_neg live, List.mem_append, ih, beforeStale, if_neg fun both => live both.1,
          List.all_cons, Bool.eq_false_of_not_eq_true live, Bool.false_and]
        have never : ¬false = true := Bool.false_ne_true
        tauto

theorem filter_fresh (entries : List (InAddr × EtxNeighbor)) :
    entries.filter (fresh config now) =
      beforeStale config now entries ++ afterStale config now entries := by
  induction entries with
  | nil => rfl
  | cons item rest ih =>
      by_cases live : fresh config now item = true
      · by_cases all : rest.all (fresh config now) = true
        · have every : (item :: rest).all (fresh config now) = true := by
            rw [List.all_cons, live, all]
            rfl
          rw [beforeStale_eq_nil every, afterStale, if_pos every]
          exact List.filter_eq_self.mpr (List.all_eq_true.mp every)
        · have some : ¬(item :: rest).all (fresh config now) = true := by
            rw [List.all_cons, live, Bool.true_and]
            exact all
          rw [List.filter_cons_of_pos live, ih, beforeStale, if_pos ⟨live, all⟩, afterStale,
            if_neg some, List.cons_append]
      · have some : ¬(item :: rest).all (fresh config now) = true := by
          rw [List.all_cons, Bool.eq_false_of_not_eq_true live, Bool.false_and]
          exact Bool.false_ne_true
        rw [List.filter_cons_of_neg live, ih, beforeStale, if_neg fun both => live both.1,
          afterStale, if_neg some]

end

/-! ## The probe -/

section

variable {config : LifeConfig} {now : SimTime}

theorem etxLoop_table (table : EtxNeighborTable) :
    etxLoop config now [] table.entries [] [] =
      ((table.entries.filter (fresh config now)).map (settled config now),
        (visits config now [] table.entries).foldl recordNeighbor [],
        (table.entries.filter fun item => !fresh config now item).map Prod.fst) :=
  etxLoop_eq [] table.entries [] [] (fun _ member => absurd member List.not_mem_nil)
    fun _ member => absurd member List.not_mem_nil

theorem etxLoop_ordered (table : EtxNeighborTable) :
    (etxLoop config now [] table.entries [] []).1.Pairwise fun item other => item.1 < other.1 := by
  rw [etxLoop_table]
  exact List.pairwise_map.mpr (table.ordered.filter _)

theorem etxLoop_received (table : EtxNeighborTable) :
    ∀ item ∈ (etxLoop config now [] table.entries [] []).1,
      item.2.timeVector.Pairwise (· ≤ ·) := by
  rw [etxLoop_table]
  intro item member
  obtain ⟨old, among, rfl⟩ := List.mem_map.mp member
  exact (table.received old (List.mem_of_mem_filter among)).sublist (List.dropWhile_sublist _)

end

/-- The table that `EtxMsgSend` leaves, the extension of the probe and the neighbours for which
it has called `linkFailed`. -/
structure EtxSent where
  table : EtxNeighborTable
  extension : List EtxList
  failed : List InAddr

/-- `EtxMsgSend`. -/
def EtxNeighborTable.etxMsgSend (config : LifeConfig) (now : SimTime) (table : EtxNeighborTable) :
    EtxSent where
  table :=
    { entries := (etxLoop config now [] table.entries [] []).1
      ordered := etxLoop_ordered table
      received := etxLoop_received table }
  extension := (etxLoop config now [] table.entries [] []).2.1
  failed := (etxLoop config now [] table.entries [] []).2.2

/-- The delivery ratio of a neighbour now. -/
def LifeConfig.ratio (config : LifeConfig) (now : SimTime) (item : InAddr × EtxNeighbor) : ℚ :=
  config.delivery (item.2.timeVector.countP fun time => now - time ≤ config.etxWindowSize)

/-- Exactly the neighbours from which nothing was received within the window are forgotten, and
the probe lists each of the others at most once with its delivery ratio: all of them, or 15
of them that are not worse than those left out. -/
structure ListsBest (config : LifeConfig) (now : SimTime) (table : EtxNeighborTable)
    (sent : EtxSent) : Prop where
  remaining : sent.table.entries.map Prod.fst =
    (table.entries.filter (fresh config now)).map Prod.fst
  failed : sent.failed = (table.entries.filter fun item => !fresh config now item).map Prod.fst
  once : (sent.extension.map EtxList.address).Nodup
  current : ∀ element ∈ sent.extension, ∃ item ∈ table.entries, fresh config now item = true ∧
    element = { address := item.1, delivery := config.ratio now item }
  all : sent.table.entries.length ≤ 15 → ∀ item ∈ sent.table.entries,
    item.1 ∈ sent.extension.map EtxList.address
  best : 15 < sent.table.entries.length → sent.extension.length = 15 ∧
    ∀ item ∈ table.entries, fresh config now item = true →
      item.1 ∉ sent.extension.map EtxList.address → ∀ element ∈ sent.extension,
        config.ratio now item ≤ element.delivery

/-- At least 14 neighbours after the last one that is forgotten have a greater delivery ratio
than any before it. -/
def Outranked (config : LifeConfig) (now : SimTime) (table : EtxNeighborTable) : Prop :=
  ∀ item ∈ beforeStale config now table.entries,
    14 ≤ (afterStale config now table.entries).countP fun other =>
      config.ratio now item < config.ratio now other

/-- There are 15 neighbours to list, and the best one before the last one that is forgotten has
the delivery ratio of another one. -/
def Tied (config : LifeConfig) (now : SimTime) (table : EtxNeighborTable) : Prop :=
  15 ≤ (table.entries.filter (fresh config now)).length ∧
    ∃ best ∈ beforeStale config now table.entries,
      (∀ item ∈ beforeStale config now table.entries,
        config.ratio now item ≤ config.ratio now best) ∧
      ∃ other ∈ table.entries, fresh config now other = true ∧ other ≠ best ∧
        config.ratio now other = config.ratio now best

section

variable {config : LifeConfig} {now : SimTime} {table : EtxNeighborTable}
  {item : InAddr × EtxNeighbor} {element : EtxList}

theorem probe_eq (received : item.2.timeVector.Pairwise (· ≤ ·)) :
    probe config now item = { address := item.1, delivery := config.ratio now item } := by
  have count : ∀ times : List SimTime, times.Pairwise (· ≤ ·) →
      (times.dropWhile (config.outdated now)).length =
        times.countP fun time => now - time ≤ config.etxWindowSize := by
    intro times sorted
    induction times with
    | nil => rfl
    | cons first rest ih =>
        obtain ⟨later, sorted⟩ := List.pairwise_cons.mp sorted
        by_cases old : now - first > config.etxWindowSize
        · have late : ¬decide (now - first ≤ config.etxWindowSize) = true := fun young =>
            absurd (of_decide_eq_true young) (not_le.mpr old)
          rw [List.dropWhile_cons_of_pos (by simpa [LifeConfig.outdated] using old), ih sorted,
            List.countP_cons, if_neg late, Nat.add_zero]
        · have young : ∀ time ∈ first :: rest, now - time ≤ config.etxWindowSize := by
            intro time member
            rcases List.mem_cons.mp member with rfl | after
            · exact not_lt.mp old
            · have bound := later time after
              simp only [SimTime] at *
              omega
          rw [List.dropWhile_cons_of_neg (by simpa [LifeConfig.outdated] using old),
            List.countP_eq_length.mpr fun time member => decide_eq_true (young time member)]
  rw [probe, LifeConfig.prune, LifeConfig.ratio, count _ received]

def liveProbes (config : LifeConfig) (now : SimTime) (table : EtxNeighborTable) : List EtxList :=
  (table.entries.filter (fresh config now)).map (probe config now)

theorem liveProbes_nodup : ((liveProbes config now table).map EtxList.address).Nodup := by
  rw [liveProbes, List.map_map]
  exact List.pairwise_map.mpr ((table.ordered.filter _).imp ne_of_lt)

theorem mem_beforeStale {entries : List (InAddr × EtxNeighbor)}
    (member : item ∈ beforeStale config now entries) :
    item ∈ entries ∧ fresh config now item = true := by
  have split : entries.filter (fresh config now) = _ := filter_fresh entries
  exact List.mem_filter.mp (split ▸ List.mem_append_left _ member)

theorem mem_visits : element ∈ visits config now [] table.entries ↔
    element ∈ liveProbes config now table := by
  rw [visits_eq, List.mem_append, mem_restarts, ← liveProbes, or_iff_right_iff_imp]
  rintro (⟨none, -⟩ | before)
  · exact absurd none List.not_mem_nil
  · obtain ⟨item, member, rfl⟩ := List.mem_map.mp before
    exact List.mem_map_of_mem (List.mem_filter.mpr (mem_beforeStale member))

theorem etxMsgSend_entries : (table.etxMsgSend config now).table.entries =
    (table.entries.filter (fresh config now)).map (settled config now) :=
  congrArg Prod.fst (etxLoop_table table)

theorem etxMsgSend_failed : (table.etxMsgSend config now).failed =
    (table.entries.filter fun item => !fresh config now item).map Prod.fst :=
  congrArg (fun left => left.2.2) (etxLoop_table table)

theorem etxMsgSend_extension : (table.etxMsgSend config now).extension =
    (visits config now [] table.entries).foldl recordNeighbor [] :=
  congrArg (fun left => left.2.1) (etxLoop_table table)

theorem extension_topOf : TopOf EtxList.delivery 15 (visits config now [] table.entries)
    (table.etxMsgSend config now).extension := by
  rw [etxMsgSend_extension]
  exact TopOf.foldl (by decide) (visits config now [] table.entries)

theorem extension_subset : (table.etxMsgSend config now).extension ⊆ liveProbes config now table :=
  fun _ member => mem_visits.mp (extension_topOf.subperm.subset member)

theorem eq_of_address {other : EtxList} (member : element ∈ liveProbes config now table)
    (among : other ∈ liveProbes config now table) (same : element.address = other.address) :
    element = other :=
  List.inj_on_of_nodup_map liveProbes_nodup member among same

theorem count_liveProbes : (liveProbes config now table).count element ≤ 1 :=
  List.nodup_iff_count_le_one.mp liveProbes_nodup.of_map element

theorem count_visits : (visits config now [] table.entries).count element =
    (restarts config now [] table.entries).count element +
      (liveProbes config now table).count element := by
  rw [visits_eq, List.count_append]
  rfl

theorem mem_restarts_iff : element ∈ restarts config now [] table.entries ↔
    element ∈ (beforeStale config now table.entries).map (probe config now) := by
  rw [mem_restarts]
  simp

theorem once_iff : ((table.etxMsgSend config now).extension.map EtxList.address).Nodup ↔
    (table.etxMsgSend config now).extension.Nodup := by
  refine ⟨List.Nodup.of_map _, fun distinct => ?_⟩
  exact distinct.map_on fun element member other among same =>
    eq_of_address (extension_subset member) (extension_subset among) same

theorem mem_afterStale {entries : List (InAddr × EtxNeighbor)}
    (member : item ∈ afterStale config now entries) :
    item ∈ entries ∧ fresh config now item = true := by
  have split : entries.filter (fresh config now) = _ := filter_fresh entries
  exact List.mem_filter.mp (split ▸ List.mem_append_right _ member)

theorem delivery_probe (member : item ∈ table.entries) :
    (probe config now item).delivery = config.ratio now item :=
  congrArg EtxList.delivery (probe_eq (table.received item member))

theorem countP_afterStale (member : item ∈ table.entries) :
    ((afterStale config now table.entries).map (probe config now)).countP
        (fun other => (probe config now item).delivery < other.delivery) =
      (afterStale config now table.entries).countP fun other =>
        config.ratio now item < config.ratio now other := by
  rw [List.countP_map]
  refine List.countP_congr fun other among => ?_
  rw [Function.comp_apply, delivery_probe member, delivery_probe (mem_afterStale among).1]

theorem liveProbes_eq : liveProbes config now table =
    (beforeStale config now table.entries).map (probe config now) ++
      (afterStale config now table.entries).map (probe config now) := by
  rw [liveProbes, filter_fresh, List.map_append]

/-! ### Neighbours that are outranked -/

theorem extension_nodup (outranked : Outranked config now table) :
    (table.etxMsgSend config now).extension.Nodup := by
  refine List.nodup_iff_count_le_one.mpr fun element => ?_
  have top : TopOf EtxList.delivery 15 _ (table.etxMsgSend config now).extension :=
    extension_topOf
  by_cases again : element ∈ restarts config now [] table.entries
  · obtain ⟨item, member, rfl⟩ := List.mem_map.mp (mem_restarts_iff.mp again)
    refine top.count_le_one ?_
    have greater := outranked item member
    rw [← countP_afterStale (mem_beforeStale member).1] at greater
    rw [visits_eq, List.countP_append, ← liveProbes, liveProbes_eq, List.countP_append]
    omega
  · have listed := top.subperm.count_le element
    have live : (liveProbes config now table).count element ≤ 1 := count_liveProbes
    rw [count_visits, List.count_eq_zero.mpr again, Nat.zero_add] at listed
    omega

theorem extension_length : (table.etxMsgSend config now).extension.length =
    min 15 ((restarts config now [] table.entries).length +
      (table.etxMsgSend config now).table.entries.length) := by
  have top : TopOf EtxList.delivery 15 _ (table.etxMsgSend config now).extension :=
    extension_topOf
  rw [top.size, visits_eq, List.length_append, List.length_map, etxMsgSend_entries,
    List.length_map]

theorem listsBest_of_nodup (distinct : (table.etxMsgSend config now).extension.Nodup) :
    ListsBest config now table (table.etxMsgSend config now) := by
  have size : (table.etxMsgSend config now).extension.length = _ := extension_length
  have entries : (table.etxMsgSend config now).table.entries.length =
      (liveProbes config now table).length := by
    rw [etxMsgSend_entries, List.length_map, liveProbes, List.length_map]
  constructor
  · rw [etxMsgSend_entries, List.map_map]
    rfl
  · exact etxMsgSend_failed
  · exact once_iff.mpr distinct
  · intro element member
    obtain ⟨item, among, rfl⟩ := List.mem_map.mp (extension_subset member)
    obtain ⟨listed, live⟩ := List.mem_filter.mp among
    exact ⟨item, listed, live, probe_eq (table.received item listed)⟩
  · intro few item member
    rw [etxMsgSend_entries] at member
    obtain ⟨old, among, rfl⟩ := List.mem_map.mp member
    have all : (liveProbes config now table).Subperm (table.etxMsgSend config now).extension :=
      ((List.subperm_of_subset distinct extension_subset).perm_of_length_le
        (by omega)).symm.subperm
    exact List.mem_map.mpr ⟨probe config now old, all.subset (List.mem_map_of_mem among), rfl⟩
  · intro many
    refine ⟨by omega, fun item member live omitted element among => ?_⟩
    have top : TopOf EtxList.delivery 15 _ (table.etxMsgSend config now).extension :=
      extension_topOf
    have visited : probe config now item ∈ visits config now [] table.entries :=
      mem_visits.mpr (List.mem_map_of_mem (List.mem_filter.mpr ⟨member, live⟩))
    rw [← delivery_probe member]
    exact top.le_of_not_mem visited
      (fun listed => omitted (List.mem_map.mpr ⟨_, listed, rfl⟩)) among

/-! ### Neighbours that are not -/

theorem length_extension_le (distinct : (table.etxMsgSend config now).extension.Nodup) :
    (table.etxMsgSend config now).extension.length ≤
      (table.entries.filter (fresh config now)).length := by
  have among := (List.subperm_of_subset distinct extension_subset).length_le
  rwa [liveProbes, List.length_map] at among

theorem two_le_count_visits (member : item ∈ beforeStale config now table.entries) :
    2 ≤ (visits config now [] table.entries).count (probe config now item) := by
  have again : 0 < (restarts config now [] table.entries).count (probe config now item) :=
    List.count_pos_iff.mpr (mem_restarts_iff.mpr (List.mem_map_of_mem member))
  have once : 0 < (liveProbes config now table).count (probe config now item) :=
    List.count_pos_iff.mpr
      (List.mem_map_of_mem (List.mem_filter.mpr (mem_beforeStale member)))
  rw [count_visits]
  omega

/-- The best of the neighbours before the last one that is forgotten is outranked, if it has no
equal. -/
theorem outranks_best {best : InAddr × EtxNeighbor}
    (distinct : (table.etxMsgSend config now).extension.Nodup)
    (full : (table.etxMsgSend config now).extension.length = 15)
    (member : best ∈ beforeStale config now table.entries)
    (greatest : ∀ item ∈ beforeStale config now table.entries,
      config.ratio now item ≤ config.ratio now best)
    (single : ∀ other ∈ table.entries, fresh config now other = true →
      config.ratio now other = config.ratio now best → other = best) :
    14 ≤ (afterStale config now table.entries).countP fun other =>
      config.ratio now best < config.ratio now other := by
  have top : TopOf EtxList.delivery 15 _ (table.etxMsgSend config now).extension :=
    extension_topOf
  obtain ⟨listed, live⟩ := mem_beforeStale member
  have once : (table.etxMsgSend config now).extension.count (probe config now best) ≤ 1 :=
    List.nodup_iff_count_le_one.mp distinct _
  have fewer := Nat.lt_of_le_of_lt once (two_le_count_visits member)
  have others := top.length_le_of_count fewer fun other among same => by
    obtain ⟨item, visited, rfl⟩ := List.mem_map.mp (extension_subset among)
    obtain ⟨listed', live'⟩ := List.mem_filter.mp visited
    rw [delivery_probe listed', delivery_probe listed] at same
    rw [single item listed' live' same]
  have after : ((table.etxMsgSend config now).extension.filter fun other =>
      (probe config now best).delivery < other.delivery).Subperm
        (((afterStale config now table.entries).map (probe config now)).filter fun other =>
          (probe config now best).delivery < other.delivery) := by
    refine List.subperm_of_subset (distinct.filter _) fun element among => ?_
    obtain ⟨selected, greater⟩ := List.mem_filter.mp among
    refine List.mem_filter.mpr ⟨?_, greater⟩
    have probes := extension_subset selected
    rw [liveProbes_eq] at probes
    refine (List.mem_append.mp probes).resolve_left fun before => ?_
    obtain ⟨item, front, rfl⟩ := List.mem_map.mp before
    have less := of_decide_eq_true greater
    rw [delivery_probe listed, delivery_probe (mem_beforeStale front).1] at less
    exact absurd (greatest item front) (not_le.mpr less)
  have most := after.length_le
  rw [← List.countP_eq_length_filter, ← List.countP_eq_length_filter, countP_afterStale listed]
    at most
  omega

theorem outranked_of_listsBest (untied : ¬Tied config now table)
    (lists : ListsBest config now table (table.etxMsgSend config now)) :
    Outranked config now table := by
  have distinct := once_iff.mp lists.once
  intro item member
  have bound := length_extension_le distinct
  have size : (table.etxMsgSend config now).extension.length = _ := extension_length
  rw [etxMsgSend_entries, List.length_map] at size
  have again : 0 < (restarts config now [] table.entries).length :=
    List.length_pos_of_mem (mem_restarts_iff.mpr (List.mem_map_of_mem member))
  have enough : 15 ≤ (table.entries.filter (fresh config now)).length := by omega
  cases greatest : (beforeStale config now table.entries).argmax (config.ratio now) with
  | none =>
      rw [List.argmax_eq_none.mp greatest] at member
      exact absurd member List.not_mem_nil
  | some best =>
      have front := List.argmax_mem greatest
      have above : ∀ item ∈ beforeStale config now table.entries,
          config.ratio now item ≤ config.ratio now best := fun item member =>
        List.le_of_mem_argmax member greatest
      have least := outranks_best distinct (by omega) front above fun other listed live same => by
        by_contra different
        exact untied ⟨enough, best, front, above, other, listed, live, different, same⟩
      refine least.trans (List.countP_mono_left fun other _ greater => ?_)
      exact decide_eq_true ((above item member).trans_lt (of_decide_eq_true greater))

/-- The probe lists the best neighbours once if 14 after the last one that is forgotten outrank
all before it, and but for equal delivery ratios only if they do. -/
theorem listsBest_iff (config : LifeConfig) (now : SimTime) (table : EtxNeighborTable) :
    (Outranked config now table →
      ListsBest config now table (table.etxMsgSend config now)) ∧
    (ListsBest config now table (table.etxMsgSend config now) →
      Outranked config now table ∨ Tied config now table) := by
  refine ⟨fun outranked => listsBest_of_nodup (extension_nodup outranked), fun lists => ?_⟩
  by_cases tied : Tied config now table
  · exact .inr tied
  · exact .inl (outranked_of_listsBest tied lists)

end

/-! ## Two neighbours -/

/-- Node 2 has been heard at 55 s, and node 3 at 1 s. -/
def twoNeighbors : EtxNeighborTable where
  entries := [(2,
      { deliveryDirect := 1 / 10, deliveryReverse := 1, timeVector := [usecs 55000000] }),
    (3, { deliveryDirect := 1 / 10, deliveryReverse := 1, timeVector := [usecs 1000000] })]
  ordered := by decide
  received := by decide

/-- When node 3 is forgotten, node 2 is listed twice. -/
theorem not_listsBest_twoNeighbors :
    ¬ListsBest .default (usecs 60000000) twoNeighbors
      (twoNeighbors.etxMsgSend .default (usecs 60000000)) := by
  intro lists
  have distinct := lists.once
  rw [etxMsgSend_extension] at distinct
  exact absurd distinct (by decide +kernel)

/-! ## The node with its caches -/

theorem etxMsgSend_agent (config : LifeConfig) (now : SimTime) (table : EtxNeighborTable)
    (agent : Agent)
    (same : agent.etxNeighborTable = table.entries.map fun item => (item.1, item.2.timeVector)) :
    (agent.etxMsgSend config now).etxNeighborTable =
        ((table.etxMsgSend config now).table.entries.map fun item =>
          (item.1, item.2.timeVector)) ∧
      (agent.etxMsgSend config now).node = (table.etxMsgSend config now).failed.foldl
        (fun node address => node.deleteLink now node.myaddr address) agent.node := by
  have times : (agent.etxNeighborTable.map fun entry =>
      (entry.1, entry.2.dropWhile fun time => now - time > config.etxWindowSize)) =
        table.entries.map fun item => (item.1, (config.prune now item.2).timeVector) := by
    rw [same, List.map_map]
    rfl
  have live : ∀ item : InAddr × EtxNeighbor,
      decide ((config.prune now item.2).timeVector ≠ []) = fresh config now item := by
    intro item
    rw [Bool.eq_iff_iff, decide_eq_true_eq, ne_eq, prune_eq_nil_iff, Bool.not_eq_false]
  have stale : ∀ item : InAddr × EtxNeighbor,
      decide ((config.prune now item.2).timeVector = []) = !fresh config now item := by
    intro item
    rw [Bool.eq_iff_iff, decide_eq_true_eq, prune_eq_nil_iff, Bool.not_eq_true']
  rw [etxMsgSend_entries, etxMsgSend_failed, Agent.etxMsgSend, times]
  constructor
  · simp only [List.filter_map, Function.comp_def, live, List.map_map]
    rfl
  · simp only [List.filter_map, Function.comp_def, stale, List.foldl_map]

end SyncFanet.Dsr
