import Mathlib.Data.Finset.Sort
import SyncFanet.Library.Fold
import SyncFanet.Olsr.Rtable

/-!
# Distribution paths

`computeDistributionPath` goes from a node to its MPRs, always to the nearest one by the
routing table of the node it is at, and keeps the routes between the stops. The tables of
the other nodes are read through a static map.
-/

set_option autoImplicit false

namespace SyncFanet.Olsr

/-- `globalRtable`: the tables of the agents that have been initialized. -/
abbrev GlobalRtable := NsAddr → Option Rtable

/-- One segment of a path: the addresses on the way to a stop, and the stop. -/
structure Leg where
  route : List NsAddr
  stop : NsAddr
  deriving DecidableEq

/-- The vector of addresses that the segments make up. -/
def pathOf (legs : List Leg) : List NsAddr :=
  legs.flatMap fun leg => leg.route ++ [leg.stop]

/-! ## The computation -/

/-- The search for the nearest MPR, from the distance `hops` of the best one so far. No
result means that an MPR has no entry, where the computation returns. -/
def searchMin (val : Rtable) (actualNode : NsAddr) :
    List NsAddr → Nat → Option (NsAddr × RtEntry) → Option (Option (NsAddr × RtEntry))
  | [], _, itMin => some itMin
  | mpr :: rest, hops, itMin =>
      if mpr = actualNode then searchMin val actualNode rest hops itMin
      else
        match val.lookup mpr with
        | none => none
        | some entry =>
            if hops > entry.dist then searchMin val actualNode rest entry.dist (some (mpr, entry))
            else searchMin val actualNode rest hops itMin

/-- The loop of `computeDistributionPath` over the MPRs that are left, in the order of
their addresses. No result means that it returned without a path. Where no MPR is nearer
than the sentinel, the code reads through `end()`. -/
def distributionLoop (tables : GlobalRtable) :
    Nat → NsAddr → List NsAddr → List Leg → Except Fault (Option (List Leg))
  | 0, _, mprs, legs => if mprs = [] then .ok (some legs) else .error .diverges
  | fuel + 1, actualNode, mprs, legs =>
      if mprs = [] then .ok (some legs)
      else
        match tables actualNode with
        | none => .ok none
        | some val =>
            match searchMin val actualNode mprs 1000 none with
            | none => .ok none
            | some none => .error .nullDeref
            | some (some (next, entry)) =>
                if entry.dist > 1 ∧ entry.route = [] then
                  .error (.runtimeError "error in entry route")
                else
                  distributionLoop tables fuel next (mprs.erase next)
                    (legs ++ [{ route := entry.route, stop := next }])

/-- `computeDistributionPath`: the path that it stores, if it stores one. A round takes one
MPR away, so that there are as many rounds as MPRs. -/
def computeDistributionPath (tables : GlobalRtable) (mprset : Finset NsAddr) (initNode : NsAddr) :
    Except Fault (Option (List Leg)) :=
  distributionLoop tables mprset.card initNode (mprset.sort (· ≤ ·)) []

/-- `getDistributionPath`. -/
def getDistributionPath (distributionPath : NsAddr → Option (List Leg)) (addr : NsAddr) :
    Except Fault (List NsAddr) :=
  match distributionPath addr with
  | none => .ok []
  | some legs =>
      if pathOf legs = [] then .error (.runtimeError "error in distribution route")
      else .ok (pathOf legs)

/-! ## Tours -/

/-- The route that a node stores to a destination. -/
def storedRoute (tables : GlobalRtable) (node dest : NsAddr) : Option (List NsAddr) :=
  (tables node).bind fun rtable => (rtable.lookup dest).map RtEntry.route

/-- Each segment is the route that the stop before it stores. -/
def LegsStored (tables : GlobalRtable) : NsAddr → List Leg → Prop
  | _, [] => True
  | node, leg :: rest =>
      storedRoute tables node leg.stop = some leg.route ∧ LegsStored tables leg.stop rest

/-- `next` is the nearest of the MPRs by the table of a node, the one with the lowest
address among those at the same distance; the node has a usable entry for each of them. -/
structure Nearest (val : Rtable) (actualNode : NsAddr) (mprs : List NsAddr) (next : NsAddr)
    (entry : RtEntry) : Prop where
  known : ∀ mpr ∈ mprs, mpr ≠ actualNode → ∃ entry, val.lookup mpr = some entry
  split : ∃ before after, mprs = before ++ next :: after ∧
    (∀ mpr ∈ before, mpr ≠ actualNode → ∀ other, val.lookup mpr = some other →
      entry.dist < other.dist) ∧
    ∀ mpr ∈ after, mpr ≠ actualNode → ∀ other, val.lookup mpr = some other →
      entry.dist ≤ other.dist
  stored : val.lookup next = some entry
  different : next ≠ actualNode
  near : entry.dist < 1000
  routed : 1 < entry.dist → entry.route ≠ []

/-- From the node to the nearest MPR, from there to the nearest of the others, and so on
to the last. -/
inductive NearestTour (tables : GlobalRtable) : NsAddr → List NsAddr → List Leg → Prop where
  | done (node : NsAddr) : NearestTour tables node [] []
  | visit {node next : NsAddr} {val : Rtable} {mprs : List NsAddr} {entry : RtEntry}
      {legs : List Leg} : tables node = some val → Nearest val node mprs next entry →
      NearestTour tables next (mprs.erase next) legs →
      NearestTour tables node mprs ({ route := entry.route, stop := next } :: legs)

section

variable {tables : GlobalRtable} {val : Rtable} {node next : NsAddr} {entry : RtEntry}
  {mprs : List NsAddr} {legs : List Leg}

variable {hops : Nat} {itMin : Option (NsAddr × RtEntry)}

theorem Nearest.mem (nearest : Nearest val node mprs next entry) : next ∈ mprs := by
  obtain ⟨before, after, split, -⟩ := nearest.split
  rw [split]
  simp

theorem NearestTour.stops_perm (tour : NearestTour tables node mprs legs) :
    (legs.map Leg.stop).Perm mprs := by
  induction tour with
  | done => exact .nil
  | visit _ nearest _ ih => exact (ih.cons _).trans (List.perm_cons_erase nearest.mem).symm

theorem NearestTour.legsStored (tour : NearestTour tables node mprs legs) :
    LegsStored tables node legs := by
  induction tour with
  | done => trivial
  | visit table nearest _ ih =>
      refine ⟨?_, ih⟩
      simp only [storedRoute, table, Option.bind_some, nearest.stored, Option.map_some]

/-! ### The computation follows the tour -/

theorem searchMin_before {before : List NsAddr} (rest : List NsAddr) {dist : Nat}
    (farther : ∀ mpr ∈ before, mpr ≠ node →
      ∃ other, val.lookup mpr = some other ∧ dist < other.dist) (start : dist < hops) :
    ∃ hops' itMin', dist < hops' ∧
      searchMin val node (before ++ rest) hops itMin = searchMin val node rest hops' itMin' := by
  induction before generalizing hops itMin with
  | nil => exact ⟨hops, itMin, start, rfl⟩
  | cons mpr before ih =>
      have later := fun other (member : other ∈ before) =>
        farther other (List.mem_cons_of_mem _ member)
      simp only [List.cons_append, searchMin]
      by_cases here : mpr = node
      · rw [if_pos here]
        exact ih later start
      · obtain ⟨other, known, far⟩ := farther mpr List.mem_cons_self here
        rw [if_neg here, known]
        simp only
        split
        · exact ih later far
        · exact ih later start

theorem searchMin_after {after : List NsAddr}
    (farther : ∀ mpr ∈ after, mpr ≠ node →
      ∃ other, val.lookup mpr = some other ∧ hops ≤ other.dist) :
    searchMin val node after hops itMin = some itMin := by
  induction after with
  | nil => rfl
  | cons mpr after ih =>
      have rest := ih fun other member => farther other (List.mem_cons_of_mem _ member)
      rw [searchMin]
      by_cases here : mpr = node
      · rw [if_pos here]
        exact rest
      · obtain ⟨other, known, far⟩ := farther mpr List.mem_cons_self here
        rw [if_neg here, known]
        simp only [if_neg (Nat.not_lt.mpr far)]
        exact rest

theorem Nearest.searchMin (nearest : Nearest val node mprs next entry) :
    searchMin val node mprs 1000 none = some (some (next, entry)) := by
  obtain ⟨before, after, split, first, last⟩ := nearest.split
  have known := nearest.known
  rw [split] at known ⊢
  obtain ⟨hops, itMin, far, same⟩ := searchMin_before (next :: after) (by
    intro mpr member different
    obtain ⟨other, found⟩ := known mpr (List.mem_append_left _ member) different
    exact ⟨other, found, first mpr member different other found⟩) nearest.near
  rw [same, Olsr.searchMin, if_neg nearest.different, nearest.stored]
  simp only [gt_iff_lt, if_pos far]
  apply searchMin_after
  intro mpr member different
  obtain ⟨other, found⟩ :=
    known mpr (List.mem_append_right _ (List.mem_cons_of_mem _ member)) different
  exact ⟨other, found, last mpr member different other found⟩

theorem NearestTour.distributionLoop (tour : NearestTour tables node mprs legs) {fuel : Nat}
    (enough : mprs.length ≤ fuel) (done : List Leg) :
    distributionLoop tables fuel node mprs done = .ok (some (done ++ legs)) := by
  induction tour generalizing fuel done with
  | done node => cases fuel <;> simp [Olsr.distributionLoop]
  | @visit node next val mprs entry legs table nearest _ ih =>
      have member := nearest.mem
      have left : mprs ≠ [] := List.ne_nil_of_mem member
      have shorter := List.length_erase_of_mem member
      have some' := List.length_pos_of_mem member
      obtain ⟨fuel, rfl⟩ : ∃ less, fuel = less + 1 := ⟨fuel - 1, by omega⟩
      have routed : ¬ (entry.dist > 1 ∧ entry.route = []) := fun broken =>
        nearest.routed broken.1 broken.2
      simp only [Olsr.distributionLoop, if_neg left, table, nearest.searchMin, if_neg routed]
      rw [ih (by omega)]
      simp

theorem computeDistributionPath_of_tour {mprset : Finset NsAddr}
    (tour : NearestTour tables node (mprset.sort (· ≤ ·)) legs) :
    computeDistributionPath tables mprset node = .ok (some legs) := by
  have stored := tour.distributionLoop (Nat.le_of_eq (Finset.length_sort (· ≤ ·))) []
  exact stored

/-! ### Termination -/

theorem searchMin_mem (found : searchMin val node mprs hops itMin = some (some (next, entry))) :
    next ∈ mprs ∨ itMin = some (next, entry) := by
  induction mprs generalizing hops itMin with
  | nil => exact .inr (Option.some.inj found)
  | cons mpr rest ih =>
      simp only [searchMin] at found
      split at found
      · cases ih found with
        | inl later => exact .inl (List.mem_cons_of_mem _ later)
        | inr before => exact .inr before
      · split at found
        · cases found
        · split at found
          · cases ih found with
            | inl later => exact .inl (List.mem_cons_of_mem _ later)
            | inr here =>
                cases here
                exact .inl List.mem_cons_self
          · cases ih found with
            | inl later => exact .inl (List.mem_cons_of_mem _ later)
            | inr before => exact .inr before

theorem distributionLoop_terminates {fuel : Nat} (enough : mprs.length ≤ fuel)
    (done : List Leg) : distributionLoop tables fuel node mprs done ≠ .error .diverges := by
  induction fuel generalizing node mprs done with
  | zero =>
      have empty : mprs = [] := List.eq_nil_of_length_eq_zero (by omega)
      simp [distributionLoop, empty]
  | succ fuel ih =>
      unfold distributionLoop
      split
      · nofun
      · split
        · nofun
        · split
          · nofun
          · nofun
          · next found =>
            split
            · nofun
            · have member : _ ∈ mprs := (searchMin_mem found).resolve_right nofun
              have shorter := List.length_erase_of_mem member
              exact ih (by omega) _

theorem computeDistributionPath_terminates (tables : GlobalRtable) (mprset : Finset NsAddr)
    (node : NsAddr) : computeDistributionPath tables mprset node ≠ .error .diverges :=
  distributionLoop_terminates (Nat.le_of_eq (Finset.length_sort (· ≤ ·))) []

end

end SyncFanet.Olsr
