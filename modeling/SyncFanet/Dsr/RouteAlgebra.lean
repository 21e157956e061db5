import Mathlib.Data.List.Nodup
import SyncFanet.Dsr.SourceRoute
import SyncFanet.Library.Fold
import SyncFanet.Library.Links

/-!
# Reversing, splitting and concatenating routes

What the operations on source routes make of the nodes, the lengths and the costs of the
links. Only `dsr_srt_concatenate` loses the costs: the size with which it decides to copy
them is 0.
-/

set_option autoImplicit false

namespace SyncFanet.Dsr

namespace DsrSrt

/-- The links of a route with their costs. -/
def linkCosts (srt : DsrSrt) : List ((InAddr × InAddr) × Nat) :=
  (links srt.nodes).zip srt.cost

/-- A route without loops, of which the length in bytes and the costs fit the addresses. -/
structure Regular (srt : DsrSrt) : Prop where
  distinct : srt.nodes.Nodup
  laddrs : srt.laddrs = dsrAddressSize * srt.addrs.length
  costs : srt.cost = [] ∨ srt.cost.length = srt.addrs.length + 1

/-- The rest of a route from one of its relays. -/
def suffixFrom (srt : DsrSrt) (addr : InAddr) : DsrSrt :=
  let i := srt.addrs.idxOf addr
  { src := addr, dst := srt.dst, flags := srt.flags,
    laddrs := dsrAddressSize * (srt.addrs.length - (i + 1)), addrs := srt.addrs.drop (i + 1),
    cost := srt.cost.drop (i + 1) }

variable {srt front : DsrSrt} {addr : InAddr}

theorem count_of_laddrs (laddrs : srt.laddrs = dsrAddressSize * srt.addrs.length) :
    srt.count = srt.addrs.length := by
  rw [count, laddrs, dsrAddressSize]
  omega

theorem checkSize_of_laddrs (laddrs : srt.laddrs = dsrAddressSize * srt.addrs.length) :
    srt.checkSize = .ok () :=
  if_pos (count_of_laddrs laddrs)

theorem length_nodes (srt : DsrSrt) : srt.nodes.length = srt.addrs.length + 2 := by
  simp [nodes]

theorem linkCosts_eq_nil_iff : srt.linkCosts = [] ↔ srt.cost = [] := by
  have some : links srt.nodes ≠ [] := by
    intro none
    have length := congrArg List.length none
    rw [length_links, length_nodes] at length
    cases length
  simp [DsrSrt.linkCosts, List.zip_eq_nil_iff, some]

end DsrSrt

open DsrSrt

variable {srt srt1 srt2 front : DsrSrt} {addr : InAddr}

variable {after before : List InAddr}

/-! ## Reversing -/

def DsrSrt.backwards (srt : DsrSrt) : DsrSrt where
  src := srt.dst
  dst := srt.src
  flags := srt.flags
  laddrs := srt.laddrs
  addrs := srt.addrs.reverse
  cost := srt.cost.reverse

theorem dsrSrtNewRev_sized (sized : srt.laddrs = dsrAddressSize * srt.addrs.length) :
    dsrSrtNewRev srt = .ok srt.backwards := by
  rw [dsrSrtNewRev, checkSize_of_laddrs sized]
  rfl

theorem dsrSrtNewRev_regular (regular : srt.Regular) : dsrSrtNewRev srt = .ok srt.backwards :=
  dsrSrtNewRev_sized regular.laddrs

theorem nodes_backwards (srt : DsrSrt) : srt.backwards.nodes = srt.nodes.reverse := by
  simp [backwards, nodes]

theorem DsrSrt.Regular.backwards (regular : srt.Regular) : srt.backwards.Regular where
  distinct := by
    rw [nodes_backwards]
    exact List.nodup_reverse.mpr regular.distinct
  laddrs := by simpa [DsrSrt.backwards] using regular.laddrs
  costs := by simpa [DsrSrt.backwards] using regular.costs

theorem backwards_backwards (srt : DsrSrt) : srt.backwards.backwards = srt := by
  simp [backwards]

theorem linkCosts_backwards (regular : srt.Regular) :
    srt.backwards.linkCosts = (srt.linkCosts.map fun link => (link.1.swap, link.2)).reverse := by
  rw [DsrSrt.linkCosts, nodes_backwards, links_reverse]
  rcases regular.costs with none | some
  · simp [backwards, DsrSrt.linkCosts, none]
  · have lengths : ((links srt.nodes).map Prod.swap).length = srt.cost.length := by
      rw [List.length_map, length_links, length_nodes, some]
      rfl
    have mapped : (srt.linkCosts.map fun link => (link.1.swap, link.2)) =
        ((links srt.nodes).map Prod.swap).zip srt.cost := by
      rw [DsrSrt.linkCosts, List.zip_map_left]
      rfl
    rw [mapped]
    exact (List.reverse_zipWith lengths).symm

/-! ## Splitting -/

theorem findIdx?_of_split (first : addr ∉ before) :
    (before ++ addr :: after).findIdx? (fun hop => hop = addr) = some before.length := by
  rw [List.findIdx?_append, List.findIdx?_eq_none_iff.mpr]
  · simp [List.findIdx?_cons]
  · intro hop member
    exact decide_eq_false fun same => first (same ▸ member)

theorem idxOf_of_split (first : addr ∉ before) :
    (before ++ addr :: after).idxOf addr = before.length := by
  simp [List.idxOf_append, first]

def DsrSrt.frontTo (srt : DsrSrt) (addr : InAddr) (before : List InAddr) : DsrSrt where
  src := srt.src
  dst := addr
  flags := srt.flags
  laddrs := dsrAddressSize * before.length
  addrs := before
  cost := srt.cost.take (before.length + 1)

theorem dsrSrtNewSplit_split (regular : srt.Regular) (split : srt.addrs = before ++ addr :: after)
    (first : addr ∉ before) :
    dsrSrtNewSplit srt addr = .ok (some (srt.frontTo addr before)) := by
  have inside : srt.cost = [] ∨ before.length < srt.cost.length := by
    refine regular.costs.imp id fun some => ?_
    rw [some, split, List.length_append, List.length_cons]
    omega
  rw [dsrSrtNewSplit, checkSize_of_laddrs regular.laddrs]
  simp only [Except.bind, split, findIdx?_of_split first, if_pos inside]
  simp [frontTo]

/-- What is before a relay and the relay, with the costs up to it. -/
structure IsFront (srt : DsrSrt) (addr : InAddr) (front : DsrSrt) : Prop where
  dst : front.dst = addr
  nodes : front.nodes <+: srt.nodes
  linkCosts : front.linkCosts = srt.linkCosts.take (front.addrs.length + 1)
  laddrs : front.laddrs = dsrAddressSize * front.addrs.length

theorem isFront_frontTo (split : srt.addrs = before ++ addr :: after) :
    IsFront srt addr (srt.frontTo addr before) where
  dst := rfl
  nodes := ⟨after ++ [srt.dst], by simp [DsrSrt.nodes, frontTo, split]⟩
  linkCosts := by
    have whole : links srt.nodes = links (srt.frontTo addr before).nodes ++
        links (addr :: after ++ [srt.dst]) := by
      have nodes : srt.nodes = (srt.src :: before) ++ addr :: (after ++ [srt.dst]) := by
        simp [DsrSrt.nodes, split]
      rw [nodes, links_append]
      rfl
    have count : (links (srt.frontTo addr before).nodes).length = before.length + 1 := by
      rw [length_links, length_nodes]
      rfl
    rw [DsrSrt.linkCosts, DsrSrt.linkCosts, List.zip_eq_zipWith, List.zip_eq_zipWith,
      List.take_zipWith, whole]
    simp only [frontTo] at count ⊢
    rw [List.take_append_of_le_length count.ge, List.take_of_length_le count.le]
  laddrs := rfl

/-! ## Concatenating -/

def DsrSrt.andThen (srt1 srt2 : DsrSrt) : DsrSrt where
  src := srt1.src
  dst := srt2.dst
  flags := srt1.flags &&& srt2.flags
  laddrs := (srt1.addrs.length + srt2.addrs.length + 1) * dsrAddressSize
  addrs := srt1.addrs ++ srt2.src :: srt2.addrs
  cost := []

theorem dsrSrtConcatenate_sized (sized1 : srt1.laddrs = dsrAddressSize * srt1.addrs.length)
    (sized2 : srt2.laddrs = dsrAddressSize * srt2.addrs.length) :
    dsrSrtConcatenate srt1 srt2 = .ok (srt1.andThen srt2) := by
  rw [dsrSrtConcatenate, checkSize_of_laddrs sized1, checkSize_of_laddrs sized2]
  simp only [Except.bind, count_of_laddrs sized1, count_of_laddrs sized2]
  rfl

theorem nodes_andThen (meets : srt1.dst = srt2.src) :
    (srt1.andThen srt2).nodes = srt1.nodes ++ srt2.nodes.tail := by
  simp [andThen, nodes, meets]

theorem laddrs_andThen (srt1 srt2 : DsrSrt) :
    (srt1.andThen srt2).laddrs = dsrAddressSize * (srt1.andThen srt2).addrs.length := by
  simp only [andThen, List.length_append, List.length_cons]
  rw [Nat.mul_comm]
  rfl

theorem backwards_andThen (meets : srt1.dst = srt2.src) :
    (srt1.andThen srt2).backwards = srt2.backwards.andThen srt1.backwards := by
  simp [andThen, backwards, meets, Nat.add_comm, Nat.and_comm]

theorem frontTo_andThen_suffixFrom (regular : srt.Regular)
    (split : srt.addrs = before ++ addr :: after) (first : addr ∉ before) :
    (srt.frontTo addr before).andThen (srt.suffixFrom addr) = { srt with cost := [] } := by
  have laddrs := regular.laddrs
  rw [split, List.length_append, List.length_cons] at laddrs
  simp only [andThen, frontTo, suffixFrom, split, idxOf_of_split first]
  simp only [List.drop_append, List.length_append, Nat.and_self, DsrSrt.mk.injEq,
    true_and, and_true]
  simp only [dsrAddressSize] at laddrs ⊢
  simp [laddrs]
  omega

/-! ## The algebra of the routes -/

/-- Reversal is an involution that keeps each cost on its link, the split is the front of the
route, the concatenation has the nodes and the costs of both routes, a front and the rest
from its end give the route again, and reversal turns a concatenation round. -/
structure RouteAlgebra (r s : DsrSrt) : Prop where
  reverse : ∃ back, dsrSrtNewRev r = .ok back ∧ dsrSrtNewRev back = .ok r ∧
    back.nodes = r.nodes.reverse ∧
    back.linkCosts = (r.linkCosts.map fun link => (link.1.swap, link.2)).reverse
  split : ∀ addr ∈ r.addrs, ∃ front, dsrSrtNewSplit r addr = .ok (some front) ∧
    IsFront r addr front
  concatenate : r.dst = s.src → ∃ cat, dsrSrtConcatenate r s = .ok cat ∧
    cat.nodes = r.nodes ++ s.nodes.tail ∧ cat.linkCosts = r.linkCosts ++ s.linkCosts ∧
    cat.laddrs = dsrAddressSize * cat.addrs.length
  rejoin : ∀ addr ∈ r.addrs, ∃ front, dsrSrtNewSplit r addr = .ok (some front) ∧
    dsrSrtConcatenate front (r.suffixFrom addr) = .ok r
  distributes : r.dst = s.src →
    ∃ rBack sBack cat, dsrSrtNewRev r = .ok rBack ∧ dsrSrtNewRev s = .ok sBack ∧
      dsrSrtConcatenate sBack rBack = .ok cat ∧
      (dsrSrtConcatenate r s).bind dsrSrtNewRev = .ok cat

theorem sized_suffixFrom (srt : DsrSrt) (addr : InAddr) :
    (srt.suffixFrom addr).laddrs = dsrAddressSize * (srt.suffixFrom addr).addrs.length := by
  simp [suffixFrom]

theorem rejoin_iff (regular : srt.Regular) (split : srt.addrs = before ++ addr :: after)
    (first : addr ∉ before) :
    (∃ front, dsrSrtNewSplit srt addr = .ok (some front) ∧
        dsrSrtConcatenate front (srt.suffixFrom addr) = .ok srt) ↔ srt.cost = [] := by
  have joined : dsrSrtConcatenate (srt.frontTo addr before) (srt.suffixFrom addr) =
      .ok { srt with cost := [] } := by
    rw [dsrSrtConcatenate_sized rfl (sized_suffixFrom srt addr),
      frontTo_andThen_suffixFrom regular split first]
  rw [dsrSrtNewSplit_split regular split first]
  constructor
  · rintro ⟨front, same, whole⟩
    cases same
    rw [joined] at whole
    exact (congrArg DsrSrt.cost (Except.ok.inj whole)).symm
  · intro none
    refine ⟨_, rfl, joined.trans ?_⟩
    rw [← none]

/-- The laws hold of two routes that have no costs where they are concatenated: both if the
second starts where the first ends, and the first if it can be split. -/
theorem routeAlgebra_iff (r s : DsrSrt) (first : r.Regular) (second : s.Regular) :
    RouteAlgebra r s ↔
      (r.dst = s.src → r.cost = [] ∧ s.cost = []) ∧ (r.addrs ≠ [] → r.cost = []) := by
  have concatenated := dsrSrtConcatenate_sized first.laddrs second.laddrs
  constructor
  · intro algebra
    constructor
    · intro meets
      obtain ⟨cat, ran, -, costs, -⟩ := algebra.concatenate meets
      rw [concatenated] at ran
      cases ran
      have none : r.linkCosts ++ s.linkCosts = [] := by
        rw [← costs]
        exact linkCosts_eq_nil_iff.mpr rfl
      rw [List.append_eq_nil_iff] at none
      exact ⟨linkCosts_eq_nil_iff.mp none.1, linkCosts_eq_nil_iff.mp none.2⟩
    · intro relays
      obtain ⟨addr, member⟩ := List.exists_mem_of_ne_nil _ relays
      obtain ⟨before, after, split, fresh⟩ := List.eq_append_cons_of_mem member
      exact (rejoin_iff first split fresh).mp (algebra.rejoin addr member)
  · rintro ⟨together, alone⟩
    constructor
    · exact ⟨r.backwards, dsrSrtNewRev_regular first,
        (dsrSrtNewRev_regular first.backwards).trans (by rw [backwards_backwards]),
        nodes_backwards r, linkCosts_backwards first⟩
    · intro addr member
      obtain ⟨before, after, split, fresh⟩ := List.eq_append_cons_of_mem member
      exact ⟨_, dsrSrtNewSplit_split first split fresh, isFront_frontTo split⟩
    · intro meets
      obtain ⟨noneFirst, noneSecond⟩ := together meets
      refine ⟨_, concatenated, nodes_andThen meets, ?_, laddrs_andThen r s⟩
      rw [linkCosts_eq_nil_iff.mpr noneFirst, linkCosts_eq_nil_iff.mpr noneSecond]
      exact linkCosts_eq_nil_iff.mpr rfl
    · intro addr member
      obtain ⟨before, after, split, fresh⟩ := List.eq_append_cons_of_mem member
      exact (rejoin_iff first split fresh).mpr (alone (List.ne_nil_of_mem member))
    · intro meets
      refine ⟨_, _, _, dsrSrtNewRev_regular first, dsrSrtNewRev_regular second,
        dsrSrtConcatenate_sized second.backwards.laddrs first.backwards.laddrs, ?_⟩
      rw [concatenated, ← backwards_andThen meets]
      simp only [Except.bind, dsrSrtNewRev, checkSize_of_laddrs (laddrs_andThen r s)]
      rfl

/-- A route over one relay. -/
def routeOverRelay (cost : List Nat) : DsrSrt where
  src := 1
  dst := 3
  flags := srtBidir
  laddrs := 4
  addrs := [2]
  cost := cost

/-- A route over one link. -/
def oneLink (cost : List Nat) : DsrSrt where
  src := 3
  dst := 4
  flags := srtBidir
  laddrs := 0
  addrs := []
  cost := cost

theorem regular_routeOverRelay {cost : List Nat} (costs : cost = [] ∨ cost.length = 2) :
    (routeOverRelay cost).Regular where
  distinct := (by decide : [1, 2, 3].Nodup)
  laddrs := rfl
  costs := costs

theorem regular_oneLink {cost : List Nat} (costs : cost = [] ∨ cost.length = 1) :
    (oneLink cost).Regular where
  distinct := (by decide : [3, 4].Nodup)
  laddrs := rfl
  costs := costs

/-- Routes without costs obey all laws. -/
theorem routeAlgebra_withoutCosts : RouteAlgebra (routeOverRelay []) (oneLink []) :=
  (routeAlgebra_iff (routeOverRelay []) (oneLink []) (regular_routeOverRelay (.inl rfl))
    (regular_oneLink (.inl rfl))).mpr ⟨fun _ => ⟨rfl, rfl⟩, fun _ => rfl⟩

/-- The concatenation of two routes with costs has none. -/
theorem not_routeAlgebra_costs :
    (routeOverRelay [5, 7]).Regular ∧ (oneLink [2]).Regular ∧
      ¬RouteAlgebra (routeOverRelay [5, 7]) (oneLink [2]) := by
  refine ⟨regular_routeOverRelay (.inr rfl), regular_oneLink (.inr rfl), fun algebra => ?_⟩
  obtain ⟨cat, ran, -, costs, -⟩ := algebra.concatenate rfl
  cases ran
  exact absurd costs (by decide)

end SyncFanet.Dsr
