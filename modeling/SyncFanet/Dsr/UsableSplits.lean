import SyncFanet.Dsr.SplitRoutes

/-!
# The routes that an overheard route is split into

A node splits a route at itself, if it is the intended receiver, or else at the previous hop,
from which it has overheard the packet. The two parts are routes of the node that it can use
unless it is on the overheard route itself, at another place than the split.
-/

set_option autoImplicit false

namespace SyncFanet.Dsr

open DsrSrt

/-- A route without loops, with as many addresses as its length in bytes counts and costs that
fit them. -/
structure DsrSrt.LoopFree (srt : DsrSrt) : Prop where
  distinct : srt.nodes.Nodup
  sized : srt.count = srt.addrs.length
  costs : srt.cost = [] ∨ srt.cost.length = srt.addrs.length + 1

/-- A route from one node to another without loops, over given links in their order, with
lengths that fit its addresses. -/
structure Usable (srt : DsrSrt) (me finish : InAddr) (allowed : List (InAddr × InAddr))
    (route : DsrSrt) : Prop where
  src : route.src = me
  dst : route.dst = finish
  distinct : route.nodes.Nodup
  links : (links route.nodes).Sublist allowed
  laddrs : route.laddrs = dsrAddressSize * route.addrs.length
  costs : srt.cost ≠ [] → route.cost.length = route.addrs.length + 1

/-- No index is out of range, and the parts that there are can be used: over the links of the
route in their order or reversed, and the link to the node at which it is split. -/
def SplitsUsable (srt : DsrSrt) (addr me : InAddr) : Prop :=
  ∃ toDest toSrc, dsrSrtSplitBoth srt addr me = .ok (toDest, toSrc) ∧
    (∀ route ∈ toDest, Usable srt me srt.dst ((me, addr) :: links srt.nodes) route) ∧
      ∀ route ∈ toSrc, Usable srt me srt.src ((me, addr) :: links srt.nodes.reverse) route

/-- The node at which the route is split: this node as the intended receiver, or the previous
hop. -/
def SplitNode (srt : DsrSrt) (addr me : InAddr) : Prop :=
  addr ∈ srt.src :: srt.addrs ∨ addr = srt.dst ∧ me = srt.dst

variable {srt route : DsrSrt} {addr me finish : InAddr} {before after rest : List InAddr}
  {whole : List InAddr}

/-! ## Parts of a route -/

theorem links_part (run : addr :: rest <:+: whole) :
    (links (if me = addr then addr :: rest else me :: addr :: rest)).Sublist
      ((me, addr) :: links whole) := by
  have part := links_sublist_within run
  split
  · exact part.trans (List.sublist_cons_self _ _)
  · exact part.cons_cons _

theorem nodup_part (distinct : whole.Nodup) (run : addr :: rest <:+: whole)
    (absent : me = addr ∨ me ∉ addr :: rest) :
    (if me = addr then addr :: rest else me :: addr :: rest).Nodup := by
  have part := distinct.sublist run.sublist
  split
  · exact part
  · next other => exact List.nodup_cons.mpr ⟨absent.resolve_left other, part⟩

/-- A route along a part of the whole one, after the link to the part if this node is not its
first one. -/
theorem usable_part (distinct : whole.Nodup) (run : addr :: rest <:+: whole)
    (absent : me = addr ∨ me ∉ addr :: rest) (src : route.src = me) (dst : route.dst = finish)
    (nodes : route.nodes = if me = addr then addr :: rest else me :: addr :: rest)
    (laddrs : route.laddrs = dsrAddressSize * route.addrs.length)
    (costs : srt.cost ≠ [] → route.cost.length = route.addrs.length + 1) :
    Usable srt me finish ((me, addr) :: links whole) route where
  src := src
  dst := dst
  distinct := nodes ▸ nodup_part distinct run absent
  links := nodes ▸ links_part run
  laddrs := laddrs
  costs := costs

theorem usable_direct (loopFree : srt.LoopFree) (last : srt.addrs = before ++ [me])
    (src : route.src = me) (dst : route.dst = srt.dst) (addrs : route.addrs = [])
    (laddrs : route.laddrs = 0) (free : srt.cost = []) :
    Usable srt me srt.dst ((me, addr) :: links srt.nodes) route where
  src := src
  dst := dst
  distinct := by
    have part : [me, srt.dst] <:+: srt.nodes := ⟨srt.src :: before, [], by simp [nodes, last]⟩
    rw [nodes, src, dst, addrs]
    exact loopFree.distinct.sublist part.sublist
  links := by
    have part : [me, srt.dst] <:+: srt.nodes := ⟨srt.src :: before, [], by simp [nodes, last]⟩
    rw [nodes, src, dst, addrs]
    exact (links_sublist_within part).trans (List.sublist_cons_self _ _)
  laddrs := by rw [laddrs, addrs]; rfl
  costs := fun priced => absurd free priced

theorem Usable.other {allowed : List (InAddr × InAddr)}
    (usable : Usable srt me finish allowed route) : me ≠ finish := by
  intro same
  have distinct := usable.distinct
  rw [nodes, usable.src, usable.dst, same] at distinct
  exact (List.nodup_cons.mp distinct).1 (List.mem_append_right _ (List.mem_singleton_self _))

/-! ## The part towards the destination -/

theorem towardsDst_ends (srt : DsrSrt) (addr me : InAddr) (l : Int) :
    (towardsDst srt addr me l).src = me ∧ (towardsDst srt addr me l).dst = srt.dst ∧
      (towardsDst srt addr me l).laddrs =
        dsrAddressSize * ((srt.addrs.length : Int) - l - 1).toNat := by
  unfold towardsDst
  dsimp only
  split <;> exact ⟨rfl, rfl, rfl⟩

theorem towardsDst_cost {l : Int} (loopFree : srt.LoopFree) (inside : (l + 1).toNat ≤ srt.addrs.length)
    (priced : srt.cost ≠ []) :
    (towardsDst srt addr me l).cost.length = (towardsDst srt addr me l).addrs.length + 1 := by
  have length := loopFree.costs.resolve_left priced
  unfold towardsDst
  dsimp only
  split
  · simp [length]
  · simp only [List.length_drop, length]
    omega

theorem usable_towardsDst {l : Int} (loopFree : srt.LoopFree)
    (addrs : (towardsDst srt addr me l).addrs =
      if addr = me then srt.behind addr else addr :: srt.behind addr)
    (fits : (towardsDst srt addr me l).addrs.length = ((srt.addrs.length : Int) - l - 1).toNat)
    (inside : (l + 1).toNat ≤ srt.addrs.length)
    (run : addr :: (srt.behind addr ++ [srt.dst]) <:+: srt.nodes)
    (absent : me = addr ∨ me ∉ addr :: (srt.behind addr ++ [srt.dst])) :
    Usable srt me srt.dst ((me, addr) :: links srt.nodes) (towardsDst srt addr me l) := by
  obtain ⟨src, dst, laddrs⟩ := towardsDst_ends srt addr me l
  refine usable_part loopFree.distinct run absent src dst ?_ (fits ▸ laddrs)
    (towardsDst_cost loopFree inside)
  rw [nodes, src, dst, addrs]
  by_cases mine : me = addr
  · simp [mine]
  · simp [mine, Ne.symm mine]

theorem splitToDest_usable {l : Int} (loopFree : srt.LoopFree)
    (addrs : (towardsDst srt addr me l).addrs =
      if addr = me then srt.behind addr else addr :: srt.behind addr)
    (fits : (towardsDst srt addr me l).addrs.length = ((srt.addrs.length : Int) - l - 1).toNat)
    (inside : (l + 1).toNat ≤ srt.addrs.length)
    (run : addr :: (srt.behind addr ++ [srt.dst]) <:+: srt.nodes)
    (splits : (me = addr ∨ me ∉ addr :: (srt.behind addr ++ [srt.dst])) ∨
      srt.cost = [] ∧ ∃ front, srt.behind addr = front ++ [me]) :
    ∃ toDest, splitToDest srt addr me l = .ok toDest ∧ ∀ route ∈ toDest,
      Usable srt me srt.dst ((me, addr) :: links srt.nodes) route := by
  have distinct := loopFree.distinct.sublist run.sublist
  rw [splitToDest_at addrs fits]
  by_cases nothing : (towardsDst srt addr me l).addrs = []
  · exact ⟨none, if_pos nothing, by simp⟩
  rw [if_neg nothing]
  rcases splits with absent | ⟨free, front, behind⟩
  · have missing : me ∉ srt.behind addr := by
      intro member
      have later : me ∈ srt.behind addr ++ [srt.dst] := List.mem_append_left _ member
      rcases absent with same | other
      · exact (List.nodup_cons.mp distinct).1 (same ▸ later)
      · exact other (List.mem_cons_of_mem _ later)
    rw [if_pos missing]
    refine ⟨_, rfl, fun route same => ?_⟩
    cases same
    exact usable_towardsDst loopFree addrs fits inside run absent
  · have last : me ∉ front := by
      have part := (List.nodup_cons.mp distinct).2
      rw [behind, List.append_assoc, List.nodup_append] at part
      exact fun member => part.2.2 me member me (by simp) rfl
    have whole : ∃ before, srt.addrs = before ++ [me] := by
      have suffix : srt.behind addr <:+ srt.addrs := by
        unfold DsrSrt.behind
        split
        · exact List.suffix_refl _
        · exact List.drop_suffix _ _
      obtain ⟨before, split⟩ := suffix
      exact ⟨before ++ front, by rw [← split, behind, List.append_assoc]⟩
    obtain ⟨before, whole⟩ := whole
    obtain ⟨src, dst, -⟩ := towardsDst_ends srt addr me l
    rw [behind, if_neg (by simp), if_pos ⟨free, by simpa using last⟩]
    refine ⟨_, rfl, fun route same => ?_⟩
    cases same
    exact usable_direct loopFree whole src dst rfl rfl free

/-! ## The part towards the source -/

theorem splitToSrc_usable {size : Nat} (loopFree : srt.LoopFree) (inside : size ≤ srt.addrs.length)
    (addrs : (srt.addrs.take size).reverse = if me = addr then rest else addr :: rest)
    (run : addr :: (rest ++ [srt.src]) <:+: srt.nodes.reverse)
    (absent : me = addr ∨ me ∉ addr :: (rest ++ [srt.src])) :
    ∃ toSrc, splitToSrc srt me size = .ok toSrc ∧ ∀ route ∈ toSrc,
      Usable srt me srt.src ((me, addr) :: links srt.nodes.reverse) route := by
  rw [splitToSrc_eq loopFree.costs inside]
  by_cases nothing : size = 0
  · exact ⟨none, if_pos nothing, by simp⟩
  have reversed : srt.nodes.reverse.Nodup := List.nodup_reverse.mpr loopFree.distinct
  have among : me ∉ (towardsSrc srt me size).addrs := by
    show me ∉ (srt.addrs.take size).reverse
    rw [addrs]
    by_cases mine : me = addr
    · rw [if_pos mine, mine]
      have distinct := reversed.sublist run.sublist
      exact fun member => (List.nodup_cons.mp distinct).1 (List.mem_append_left _ member)
    · rw [if_neg mine]
      intro member
      have longer : me ∈ (addr :: rest) ++ [srt.src] := List.mem_append_left _ member
      exact absent.resolve_left mine longer
  have length : (towardsSrc srt me size).addrs.length = size := by simp [towardsSrc, inside]
  have uncut : (List.range size).foldlM (cutToSrc me size) (towardsSrc srt me size) =
      .ok (towardsSrc srt me size) :=
    foldlM_same fun k member =>
      cutToSrc_other ((List.mem_range.mp member).trans_eq length.symm) among
  refine ⟨some (towardsSrc srt me size), by rw [if_neg nothing, uncut]; rfl, fun route same => ?_⟩
  cases same
  refine usable_part reversed run absent rfl rfl ?_ ?_ fun priced => ?_
  · rw [nodes]
    show me :: (srt.addrs.take size).reverse ++ [srt.src] = _
    rw [addrs]
    by_cases mine : me = addr
    · simp [mine]
    · simp [mine]
  · rw [length]
    rfl
  · rw [length]
    have full := loopFree.costs.resolve_left priced
    simp only [towardsSrc, List.length_reverse, List.length_take, full]
    omega

/-! ## Which splits can be used -/

/-- Nothing is split; or this node is the one at which the route is split, or it is not on the
route at all, or it is the last relay of a route without costs. -/
def Splittable (srt : DsrSrt) (addr me : InAddr) : Prop :=
  srt.addrs = [] ∨ me = addr ∨ me ∉ srt.nodes ∨ srt.cost = [] ∧ srt.addrs.getLast? = some me

theorem nodes_split (split : srt.addrs = before ++ addr :: after) :
    srt.nodes = (srt.src :: before) ++ addr :: (after ++ [srt.dst]) := by
  simp [nodes, split]

theorem Splittable.behind (splittable : Splittable srt addr me) (relays : srt.addrs ≠ [])
    (run : addr :: (srt.behind addr ++ [srt.dst]) <:+: srt.nodes)
    (suffix : ∀ last, srt.addrs.getLast? = some last → last ≠ addr →
      ∃ front, srt.behind addr = front ++ [last]) :
    (me = addr ∨ me ∉ addr :: (srt.behind addr ++ [srt.dst])) ∨
      srt.cost = [] ∧ ∃ front, srt.behind addr = front ++ [me] := by
  by_cases mine : me = addr
  · exact .inl (.inl mine)
  rcases splittable with direct | same | absent | ⟨free, last⟩
  · exact absurd direct relays
  · exact absurd same mine
  · exact .inl (.inr fun member => absent (run.subset member))
  · exact .inr ⟨free, suffix me last mine⟩

theorem splitsUsable_src (loopFree : srt.LoopFree) (relays : srt.addrs ≠ [])
    (splittable : Splittable srt srt.src me) : SplitsUsable srt srt.src me := by
  obtain ⟨addrs, fits⟩ := towardsDst_src srt me _ rfl
  have behind : srt.behind srt.src = srt.addrs := if_pos rfl
  have run : srt.src :: (srt.behind srt.src ++ [srt.dst]) <:+: srt.nodes := by
    rw [behind]
    exact List.infix_refl _
  have inside : ((if srt.src ≠ me then -2 else -1 : Int) + 1).toNat ≤ srt.addrs.length := by
    split <;> simp
  have suffix : ∀ last, srt.addrs.getLast? = some last → last ≠ srt.src →
      ∃ front, srt.behind srt.src = front ++ [last] := by
    intro last found _
    rw [behind]
    exact List.getLast?_eq_some_iff.mp found
  obtain ⟨toDest, ran, usable⟩ := splitToDest_usable loopFree addrs fits inside run
    (splittable.behind relays run suffix)
  refine ⟨toDest, none, ?_, usable, fun _ found => absurd found (by simp)⟩
  rw [dsrSrtSplitBoth_src loopFree.sized relays, ran]
  rfl

theorem splitsUsable_relay (loopFree : srt.LoopFree) (split : srt.addrs = before ++ addr :: after)
    (first : addr ∉ before) (relay : addr ≠ srt.src) (notLast : addr ≠ srt.dst)
    (splittable : Splittable srt addr me) : SplitsUsable srt addr me := by
  have relays : srt.addrs ≠ [] := by simp [split]
  obtain ⟨addrs, fits⟩ := towardsDst_relay me _ split first relay rfl
  have behind := behind_split split first relay
  have run : addr :: (srt.behind addr ++ [srt.dst]) <:+: srt.nodes :=
    ⟨srt.src :: before, [], by rw [behind, nodes_split split]; simp⟩
  have length : srt.addrs.length = before.length + (after.length + 1) := by simp [split]
  have inside : ((if addr ≠ me then (before.length : Int) - 1 else before.length) + 1).toNat ≤
      srt.addrs.length := by
    split <;> omega
  have suffix : ∀ last, srt.addrs.getLast? = some last → last ≠ addr →
      ∃ front, srt.behind addr = front ++ [last] := by
    intro last found other
    rw [behind]
    rcases List.eq_nil_or_concat' after with rfl | ⟨front, final, rfl⟩
    · rw [split] at found
      exact absurd (by simpa using found.symm) other
    · have whole : srt.addrs = (before ++ addr :: front) ++ [final] := by simp [split]
      rw [whole, List.getLast?_concat] at found
      cases found
      exact ⟨front, rfl⟩
  have splits := splittable.behind relays run suffix
  obtain ⟨toDest, ran, usable⟩ := splitToDest_usable loopFree addrs fits inside run splits
  have back : addr :: (before.reverse ++ [srt.src]) <:+: srt.nodes.reverse :=
    ⟨(after ++ [srt.dst]).reverse, [], by rw [nodes_split split]; simp⟩
  have ahead : me = addr ∨ me ∉ addr :: (before.reverse ++ [srt.src]) := by
    by_cases mine : me = addr
    · exact .inl mine
    refine .inr fun member => ?_
    rcases splittable with direct | same | absent | ⟨free, last⟩
    · exact relays direct
    · exact mine same
    · exact absent (List.mem_reverse.mp (back.subset member))
    · obtain ⟨front, tail⟩ := suffix me last mine
      have distinct := loopFree.distinct
      rw [nodes_split split, List.nodup_append] at distinct
      have early : me ∈ srt.src :: before := by
        rcases List.mem_cons.mp member with same | rest
        · exact absurd same mine
        · simpa [or_comm] using rest
      have late : me ∈ addr :: (after ++ [srt.dst]) := by
        rw [← behind, tail]
        simp
      exact distinct.2.2 me early me late rfl
  have notDst : me = srt.dst → False := by
    rintro rfl
    rcases splits with (same | absent) | ⟨-, front, tail⟩
    · exact notLast same.symm
    · exact absent (by simp)
    · refine dst_fresh loopFree.distinct (List.mem_cons_of_mem _ ?_)
      rw [split, ← behind, tail]
      simp
  have taken : (srt.addrs.take (if addr ≠ me then before.length + 1 else before.length)).reverse =
      if me = addr then before.reverse else addr :: before.reverse := by
    rw [split]
    by_cases mine : me = addr
    · simp [mine]
    · simp [mine, Ne.symm mine, List.take_append]
  obtain ⟨toSrc, ran', usable'⟩ := splitToSrc_usable loopFree
    (by split <;> omega) taken back ahead
  refine ⟨toDest, toSrc, ?_, usable, usable'⟩
  rw [dsrSrtSplitBoth_relay loopFree.sized split first relay notLast, ran,
    if_neg notDst, ran']
  rfl

theorem splitsUsable_dst (loopFree : srt.LoopFree) (relays : srt.addrs ≠ [])
    (mine : me = srt.dst) : SplitsUsable srt srt.dst me := by
  have fresh := dst_fresh loopFree.distinct
  have notFirst : srt.dst ≠ srt.src := fun same => fresh (same ▸ List.mem_cons_self)
  have absent : me ∉ srt.addrs := fun member => fresh (List.mem_cons_of_mem _ (mine ▸ member))
  have taken : (srt.addrs.take srt.addrs.length).reverse =
      if me = srt.dst then srt.addrs.reverse else srt.dst :: srt.addrs.reverse := by
    rw [if_pos mine, List.take_length]
  have run : srt.dst :: (srt.addrs.reverse ++ [srt.src]) <:+: srt.nodes.reverse := by
    simp [nodes]
  obtain ⟨toSrc, ran, usable⟩ := splitToSrc_usable loopFree (le_refl _) taken run (.inl mine)
  refine ⟨none, toSrc, ?_, fun _ found => absurd found (by simp), usable⟩
  rw [dsrSrtSplitBoth_dst loopFree.sized relays notFirst, if_neg absent,
    if_pos mine, ran]
  rfl

/-- At a relay there is a part towards the source, and a part towards the destination if this
node does not come behind it. -/
theorem splits_relay (loopFree : srt.LoopFree) (split : srt.addrs = before ++ addr :: after)
    (first : addr ∉ before) (relay : addr ≠ srt.src) (notLast : addr ≠ srt.dst)
    (other : me ≠ addr) {routes : Option DsrSrt × Option DsrSrt}
    (ran : dsrSrtSplitBoth srt addr me = .ok routes) :
    (me ∉ srt.behind addr → ∃ route, routes.1 = some route) ∧
      (me ≠ srt.dst → ∃ route, routes.2 = some route ∧
        CutFrom me (before.length + 1) (towardsSrc srt me (before.length + 1))
          (List.range (before.length + 1)) route) := by
  obtain ⟨addrs, fits⟩ := towardsDst_relay me _ split first relay rfl
  rw [dsrSrtSplitBoth_relay loopFree.sized split first relay notLast] at ran
  obtain ⟨toDest, ranDest, ran⟩ := bind_ok.mp ran
  obtain ⟨toSrc, ranSrc, ran⟩ := bind_ok.mp ran
  cases ran
  constructor
  · intro absent
    have some : (towardsDst srt addr me (if addr ≠ me then (before.length : Int) - 1
        else before.length)).addrs ≠ [] := by
      rw [addrs, if_neg (Ne.symm other)]
      exact List.cons_ne_nil _ _
    rw [splitToDest_at addrs fits, if_neg some, if_pos absent] at ranDest
    exact ⟨_, (Except.ok.inj ranDest).symm⟩
  · intro notDst
    have inside : before.length + 1 ≤ srt.addrs.length := by simp [split]
    obtain ⟨cut, cuts, from'⟩ := splitToSrc_some loopFree.costs (Nat.succ_ne_zero before.length)
      inside
    rw [if_neg notDst, if_pos (Ne.symm other), cuts] at ranSrc
    exact ⟨cut, (Except.ok.inj ranSrc).symm, from'⟩

theorem SplitsUsable.splittable (loopFree : srt.LoopFree) (splitNode : SplitNode srt addr me)
    (usable : SplitsUsable srt addr me) : Splittable srt addr me := by
  by_cases direct : srt.addrs = []
  · exact .inl direct
  by_cases mine : me = addr
  · exact .inr (.inl mine)
  by_cases absent : me ∉ srt.nodes
  · exact .inr (.inr (.inl absent))
  refine .inr (.inr (.inr ?_))
  obtain ⟨toDest, toSrc, ran, dest, source⟩ := usable
  have sized := loopFree.sized
  have fresh := dst_fresh loopFree.distinct
  have hop : addr ∈ srt.src :: srt.addrs :=
    splitNode.resolve_right fun both => mine (both.2.trans both.1.symm)
  have notLast : addr ≠ srt.dst := fun same => fresh (same ▸ hop)
  have inRange : SplitsInRange srt addr me := by
    by_contra outside
    rw [(dsrSrtSplitBoth_range loopFree.costs _ _ sized).2 outside] at ran
    cases ran
  have behind : me ∉ srt.behind addr ∨ srt.cost = [] ∧ me ∉ (srt.behind addr).dropLast := by
    have within := inRange.resolve_left direct
    rwa [if_neg fun both => notLast both.1] at within
  -- this node comes behind the split, as the last relay
  have late : ∀ front, srt.addrs = front ++ srt.behind addr → me ∈ srt.behind addr →
      srt.cost = [] ∧ srt.addrs.getLast? = some me := by
    intro front whole member
    obtain ⟨free, once⟩ := behind.resolve_left (not_not.mpr member)
    refine ⟨free, ?_⟩
    obtain ⟨lead, last, tail⟩ :=
      (List.eq_nil_or_concat' (srt.behind addr)).resolve_left (List.ne_nil_of_mem member)
    have same : me = last := by
      rw [tail, List.dropLast_concat] at once
      rw [tail] at member
      simpa [once] using member
    rw [whole, tail, ← List.append_assoc, List.getLast?_concat, same]
  have position : me = srt.src ∨ me ∈ srt.addrs ∨ me = srt.dst := by
    simpa [nodes] using not_not.mp absent
  by_cases start : addr = srt.src
  · subst start
    have all : srt.behind srt.src = srt.addrs := if_pos rfl
    rcases position with same | relay | last
    · exact absurd same mine
    · exact late [] (by rw [all]; rfl) (all ▸ relay)
    · have missing : me ∉ srt.behind srt.src := by
        rw [all, last]
        exact fun member => fresh (List.mem_cons_of_mem _ member)
      obtain ⟨addrs, fits⟩ := towardsDst_src srt me _ rfl
      have some : (towardsDst srt srt.src me (if srt.src ≠ me then -2 else -1)).addrs ≠ [] := by
        rw [addrs, if_neg (Ne.symm mine)]
        exact List.cons_ne_nil _ _
      rw [dsrSrtSplitBoth_src sized direct, splitToDest_at addrs fits, if_neg some,
        if_pos missing] at ran
      cases ran
      exact absurd last (dest _ rfl).other
  · have relay : addr ∈ srt.addrs := (List.mem_cons.mp hop).resolve_left start
    obtain ⟨before, after, split, first⟩ := List.eq_append_cons_of_mem relay
    have tail := behind_split split first start
    obtain ⟨toDst, toStart⟩ := splits_relay loopFree split first start notLast mine ran
    rcases position with same | among | last
    · have notDst : me ≠ srt.dst := fun last => fresh (last ▸ same ▸ List.mem_cons_self)
      obtain ⟨route, rfl, -⟩ := toStart notDst
      exact absurd same (source route rfl).other
    · have notDst : me ≠ srt.dst := fun last => fresh (List.mem_cons_of_mem _ (last ▸ among))
      by_cases later : me ∈ srt.behind addr
      · exact late (before ++ [addr]) (by rw [tail, split]; simp) later
      · obtain ⟨route, rfl, cuts⟩ := toStart notDst
        have fits := (source route rfl).laddrs
        rw [cuts.addrs] at fits
        obtain ⟨-, elsewhere⟩ := cuts.unchanged fits
        have early : me ∈ (towardsSrc srt me (before.length + 1)).addrs := by
          have there : me ∈ before ++ addr :: srt.behind addr := by rw [tail, ← split]; exact among
          have earlier : me ∈ before := by simpa [mine, later] using there
          simp [towardsSrc, split, List.take_append, List.take_of_length_le, earlier]
        obtain ⟨k, inside, here⟩ := List.mem_iff_getElem.mp early
        have length : (towardsSrc srt me (before.length + 1)).addrs.length = before.length + 1 := by
          simp [towardsSrc, split]
        refine absurd ?_ (elsewhere k (List.mem_range.mpr (length ▸ inside)))
        rw [List.getElem?_eq_getElem inside, here]
    · have missing : me ∉ srt.behind addr := by
        rw [tail, last]
        refine fun member => fresh (List.mem_cons_of_mem _ ?_)
        rw [split]
        simp [member]
      obtain ⟨route, rfl⟩ := toDst missing
      exact absurd last (dest route rfl).other

/-- The parts of an overheard route can be used if and only if nothing is split, or this node
is the one at which the route is split, or it is not on the route, or it is the last relay of
a route without costs. -/
theorem splitsUsable_iff (srt : DsrSrt) (addr me : InAddr) (loopFree : srt.LoopFree)
    (splitNode : SplitNode srt addr me) : SplitsUsable srt addr me ↔ Splittable srt addr me := by
  refine ⟨SplitsUsable.splittable loopFree splitNode, fun splittable => ?_⟩
  have fresh := dst_fresh loopFree.distinct
  by_cases direct : srt.addrs = []
  · refine ⟨none, none, ?_, fun _ found => absurd found (by simp), fun _ found =>
      absurd found (by simp)⟩
    rw [dsrSrtSplitBoth, checkSize, if_pos loopFree.sized]
    simp only [Except.bind, direct, List.length_nil, if_true]
  rcases splitNode with hop | ⟨rfl, mine⟩
  · rcases List.mem_cons.mp hop with rfl | relay
    · exact splitsUsable_src loopFree direct splittable
    · obtain ⟨before, after, split, first⟩ := List.eq_append_cons_of_mem relay
      have start : addr ≠ srt.src := by
        rintro rfl
        exact (List.nodup_cons.mp loopFree.distinct).1 (List.mem_append_left _ relay)
      exact splitsUsable_relay loopFree split first start (fun same => fresh (same ▸ hop)) splittable
  · exact splitsUsable_dst loopFree direct mine

/-- A route over two relays. -/
def twoRelays (cost : List Nat) : DsrSrt where
  src := 1
  dst := 4
  flags := srtBidir
  laddrs := 8
  addrs := [2, 3]
  cost := cost

theorem loopFree_twoRelays {cost : List Nat} (costs : cost = [] ∨ cost.length = 3) :
    (twoRelays cost).LoopFree where
  distinct := (by decide : [1, 2, 3, 4].Nodup)
  sized := count_of_laddrs rfl
  costs := costs

/-- The first relay is the intended receiver. -/
theorem splitsUsable_receiver : SplitsUsable (twoRelays [1, 1, 1]) 2 2 :=
  (splitsUsable_iff (twoRelays [1, 1, 1]) 2 2 (loopFree_twoRelays (.inr rfl))
    (.inl (by decide))).mpr (.inr (.inl rfl))

/-- The second relay overhears the source: a cost is written behind the end of the vector. -/
theorem not_splitsUsable_overheard :
    (twoRelays [1, 1, 1]).LoopFree ∧ SplitNode (twoRelays [1, 1, 1]) 1 3 ∧
      dsrSrtSplitBoth (twoRelays [1, 1, 1]) 1 3 = .error .outOfBounds ∧
        ¬SplitsUsable (twoRelays [1, 1, 1]) 1 3 := by
  have failed : dsrSrtSplitBoth (twoRelays [1, 1, 1]) 1 3 = .error .outOfBounds := by decide +kernel
  refine ⟨loopFree_twoRelays (.inr rfl), .inl (by decide), failed, ?_⟩
  rintro ⟨toDest, toSrc, ran, -⟩
  rw [failed] at ran
  cases ran

end SyncFanet.Dsr
