import SyncFanet.Dsr.Forwarding
import SyncFanet.Dsr.RouteAlgebra

/-!
# Splitting an overheard route

What `dsr_srt_split_both` makes of a route at each position of the node it is split at. A
node that comes again in the part towards the destination is cut out within the range of the
vectors only if it is the last address of a route without costs. In the part towards the
source the addresses behind the cut stay in the vector.
-/

set_option autoImplicit false

namespace SyncFanet.Dsr

open DsrSrt

/-! ## Cutting a node out of the part towards the destination -/

section

variable {me : InAddr} {cost : List Nat} {size k : Nat} {srt route cut : DsrSrt} {fault : Fault}

theorem at?_ok {Item : Type} {items : List Item} {index : Nat} {item : Item} :
    at? items index = .ok item ↔ items[index]? = some item := by
  unfold at?
  cases items[index]? with
  | none => simp
  | some other => simp

theorem at?_error {Item : Type} {items : List Item} {index : Nat} :
    at? items index = .error fault → fault = .outOfBounds := by
  unfold at?
  cases items[index]? with
  | none => exact fun failed => (Except.error.inj failed).symm
  | some item => exact fun failed => absurd failed (by simp)

theorem cutToDest_error (failed : cutToDest me cost size route k = .error fault) :
    fault = .outOfBounds := by
  rcases bind_error.mp failed with failed | ⟨hop, -, failed⟩
  · exact at?_error failed
  · split at failed
    · split at failed <;> cases failed
      rfl
    · cases failed

theorem cutToDest_ok (ran : cutToDest me cost size route k = .ok cut) :
    k < route.addrs.length ∧ cut.addrs.length ≤ route.addrs.length := by
  obtain ⟨hop, here, ran⟩ := bind_ok.mp ran
  obtain ⟨inside, -⟩ := List.getElem?_eq_some_iff.mp (at?_ok.mp here)
  refine ⟨inside, ?_⟩
  split at ran
  · split at ran <;> cases ran
    simp
  · cases ran
    exact le_refl _

theorem cutToDest_foldlM_error {ks : List Nat}
    (failed : ks.foldlM (cutToDest me cost size) route = .error fault) : fault = .outOfBounds := by
  by_contra other
  exact foldlM_avoids (fun _ _ failed => other (cutToDest_error failed)) ks route failed

theorem cutToDest_foldlM_short {ks : List Nat} (short : route.addrs.length ≤ k) :
    (ks ++ [k]).foldlM (cutToDest me cost size) route = .error .outOfBounds := by
  cases ran : (ks ++ [k]).foldlM (cutToDest me cost size) route with
  | error fault => rw [cutToDest_foldlM_error ran]
  | ok final =>
      rw [List.foldlM_append] at ran
      obtain ⟨middle, first, last⟩ := bind_ok.mp ran
      have shorter : middle.addrs.length ≤ route.addrs.length :=
        foldlM_seen first (fun _ (acc : DsrSrt) => acc.addrs.length ≤ route.addrs.length)
          (le_refl _) fun _ _ _ _ _ bound stepped => (cutToDest_ok stepped).2.trans bound
      rw [List.foldlM_cons] at last
      obtain ⟨cut, stepped, -⟩ := bind_ok.mp last
      exact absurd (cutToDest_ok stepped).1 (by omega)

theorem range_split (before after : Nat) : List.range (before + (after + 1)) =
    List.range before ++ before :: (List.range after).map (before + 1 + ·) := by
  rw [List.range_add, List.range_succ_eq_map]
  simp [Function.comp_def, Nat.add_assoc, Nat.add_comm 1]

theorem cutToDest_foldlM (me : InAddr) (cost : List Nat) (route : DsrSrt) :
    (List.range route.addrs.length).foldlM (cutToDest me cost route.addrs.length) route =
      if me ∉ route.addrs then .ok route
      else if cost = [] ∧ me ∉ route.addrs.dropLast then .ok { route with addrs := [], laddrs := 0 }
      else .error .outOfBounds := by
  by_cases absent : me ∉ route.addrs
  · rw [if_pos absent]
    exact foldlM_same fun k member => cutToDest_other (List.mem_range.mp member) absent
  rw [if_neg absent]
  obtain ⟨before, after, split, fresh⟩ := List.eq_append_cons_of_mem (not_not.mp absent)
  have size : route.addrs.length = before.length + (after.length + 1) := by simp [split]
  have unchanged : (List.range before.length).foldlM (cutToDest me cost route.addrs.length) route =
      .ok route := by
    refine foldlM_same fun k member => ?_
    have inside := List.mem_range.mp member
    have here : route.addrs[k]? = some before[k] := by
      rw [split, List.getElem?_append_left inside, List.getElem?_eq_getElem inside]
    have different : before[k] ≠ me := fun same => fresh (same ▸ List.getElem_mem inside)
    rw [cutToDest, at?_ok.mpr here]
    exact if_neg different
  have step : cutToDest me cost route.addrs.length route before.length =
      if cost = [] then .ok { route with addrs := after, laddrs := dsrAddressSize * after.length }
      else .error .outOfBounds := by
    have here : route.addrs[before.length]? = some me := by simp [split]
    have left : route.addrs.length - (before.length + 1) = after.length := by omega
    have rest : route.addrs.drop (before.length + 1) = after := by
      rw [split, List.drop_append]
      simp
    rw [cutToDest, at?_ok.mpr here]
    simp only [Except.bind, if_true, lt_irrefl, or_false, left, rest]
    by_cases none : cost = []
    · simp [none]
    · simp [none]
  have ranged : (List.range route.addrs.length).foldlM (cutToDest me cost route.addrs.length)
      route = (cutToDest me cost route.addrs.length route before.length).bind fun cut =>
        ((List.range after.length).map (before.length + 1 + ·)).foldlM
          (cutToDest me cost route.addrs.length) cut := by
    conv_lhs => rw [congrArg List.range size, range_split, List.foldlM_append, unchanged]
    rfl
  rw [ranged, step]
  by_cases none : cost = []
  · rw [if_pos none]
    rcases List.eq_nil_or_concat' after with rfl | ⟨front, last, rfl⟩
    · have only : route.addrs.dropLast = before := by simp [split]
      rw [if_pos ⟨none, only ▸ fresh⟩]
      rfl
    · have again : me ∈ route.addrs.dropLast := by
        rw [split, List.dropLast_append_of_ne_nil (List.cons_ne_nil _ _)]
        simp [List.dropLast_cons_of_ne_nil]
      have short : (front ++ [last]).length ≤ before.length + 1 + front.length := by
        rw [List.length_append, List.length_singleton]
        omega
      rw [if_neg fun both => both.2 again, List.length_append, List.length_singleton,
        List.range_succ, List.map_append]
      exact cutToDest_foldlM_short short
  · rw [if_neg none, if_neg fun both => none both.1]
    rfl

end

/-- The part of a route towards the destination before it is cut, with the position of the
split. -/
def towardsDst (srt : DsrSrt) (addr me : InAddr) (l : Int) : DsrSrt :=
  let size := ((srt.addrs.length : Int) - l - 1).toNat
  if addr = srt.src ∧ addr ≠ me then
    { src := me, dst := srt.dst, flags := srt.flags, laddrs := dsrAddressSize * size,
      addrs := srt.src :: srt.addrs, cost := if srt.cost = [] then [] else 1 :: srt.cost }
  else
    { src := me, dst := srt.dst, flags := srt.flags, laddrs := dsrAddressSize * size,
      addrs := srt.addrs.drop (l + 1).toNat, cost := srt.cost.drop (l + 1).toNat }

theorem splitToDest_eq {srt : DsrSrt} {addr me : InAddr} {l : Int}
    (fits : (towardsDst srt addr me l).addrs.length = ((srt.addrs.length : Int) - l - 1).toNat) :
    splitToDest srt addr me l =
      if (towardsDst srt addr me l).addrs = [] then .ok none
      else if me ∉ (towardsDst srt addr me l).addrs then .ok (some (towardsDst srt addr me l))
      else if srt.cost = [] ∧ me ∉ (towardsDst srt addr me l).addrs.dropLast then
        .ok (some { towardsDst srt addr me l with addrs := [], laddrs := 0 })
      else .error .outOfBounds := by
  have cuts := cutToDest_foldlM me srt.cost (towardsDst srt addr me l)
  rw [fits] at cuts
  have whole : splitToDest srt addr me l =
      if ((srt.addrs.length : Int) - l - 1).toNat = 0 then .ok none
      else ((List.range ((srt.addrs.length : Int) - l - 1).toNat).foldlM
        (cutToDest me srt.cost ((srt.addrs.length : Int) - l - 1).toNat)
        (towardsDst srt addr me l)).bind fun srt => .ok (some srt) := rfl
  rw [whole, cuts, ← fits]
  simp only [List.length_eq_zero_iff]
  split
  · rfl
  · split
    · rfl
    · split <;> rfl

/-! ## Cutting a node out of the part towards the source -/

def towardsSrc (srt : DsrSrt) (me : InAddr) (size : Nat) : DsrSrt where
  src := me
  dst := srt.src
  flags := srt.flags
  laddrs := dsrAddressSize * size
  addrs := (srt.addrs.take size).reverse
  cost := (srt.cost.take (size + 1)).reverse

section

variable {me : InAddr} {size : Nat} {srt route : DsrSrt}

theorem length_moveUp {Item : Type} {items : List Item} {k : Nat} (inside : k < size)
    (long : size ≤ items.length) : (moveUp items size k).length = items.length := by
  simp only [moveUp, List.length_append, List.length_drop, List.length_take]
  omega

/-- What the loop keeps of the part towards the source: the addresses stay as many, and the
length in bytes only says so if this node was not among them. -/
structure CutFrom (me : InAddr) (size : Nat) (start : DsrSrt) (seen : List Nat) (cut : DsrSrt) :
    Prop where
  src : cut.src = start.src
  dst : cut.dst = start.dst
  addrs : cut.addrs.length = size
  cost : cut.cost = [] ∨ cut.cost.length = size + 1
  unchanged : cut.laddrs = dsrAddressSize * size →
    cut = start ∧ ∀ k ∈ seen, start.addrs[k]? ≠ some me

theorem CutFrom.step {start cut : DsrSrt} {seen : List Nat} {k : Nat}
    (cuts : CutFrom me size start seen cut) (inside : k < size) :
    ∃ cut', cutToSrc me size cut k = .ok cut' ∧ CutFrom me size start (seen ++ [k]) cut' := by
  obtain ⟨hop, here⟩ : ∃ hop, cut.addrs[k]? = some hop :=
    ⟨_, List.getElem?_eq_getElem (cuts.addrs.symm ▸ inside)⟩
  rw [cutToSrc, at?_ok.mpr here]
  by_cases mine : hop = me
  · simp only [Except.bind, if_pos mine]
    have shorter : dsrAddressSize * (size - (k + 1)) ≠ dsrAddressSize * size := by
      simp only [dsrAddressSize]
      omega
    have moved := length_moveUp inside cuts.addrs.ge
    by_cases none : cut.cost = []
    · simp only [if_pos none]
      exact ⟨_, rfl, cuts.src, cuts.dst, moved.trans cuts.addrs, .inl rfl,
        fun same => absurd same shorter⟩
    · have length : cut.cost.length = size + 1 := cuts.cost.resolve_left none
      have last : cut.cost[size]? = some cut.cost[size] := List.getElem?_eq_getElem _
      simp only [if_neg none, at?_ok.mpr last]
      refine ⟨_, rfl, cuts.src, cuts.dst, moved.trans cuts.addrs, .inr ?_,
        fun same => absurd same shorter⟩
      rw [List.length_set, length_moveUp inside (by omega), length]
  · simp only [Except.bind, if_neg mine]
    refine ⟨_, rfl, cuts.src, cuts.dst, cuts.addrs, cuts.cost, fun same => ?_⟩
    obtain ⟨unchanged, before⟩ := cuts.unchanged same
    refine ⟨unchanged, fun index member => ?_⟩
    rcases List.mem_append.mp member with earlier | now
    · exact before index earlier
    · rw [List.mem_singleton.mp now, ← unchanged, here]
      exact fun same => mine (Option.some.inj same)

theorem cutToSrc_foldlM (sized : route.addrs.length = size)
    (costs : route.cost = [] ∨ route.cost.length = size + 1) :
    ∃ cut, (List.range size).foldlM (cutToSrc me size) route = .ok cut ∧
      CutFrom me size route (List.range size) cut := by
  refine foldlM_total_split (cutToSrc me size) (CutFrom me size route) ?_ ?_
  · exact ⟨rfl, rfl, sized, costs, fun _ => ⟨rfl, by simp⟩⟩
  · intro seen k rest cut split cuts
    have inside : k < size := List.mem_range.mp (split ▸ by simp)
    exact cuts.step inside

theorem mapM_atInt {items values : List Nat} {index : Nat → Int}
    (reads : ∀ k < values.length, ∃ i : Nat, index k = i ∧ items[i]? = values[k]?) :
    (List.range values.length).mapM (fun k => atInt items (index k)) = .ok values := by
  have each : ∀ k ∈ List.range values.length,
      atInt items (index k) = .ok (values.getD k 0) := by
    intro k member
    have inside := List.mem_range.mp member
    obtain ⟨i, same, here⟩ := reads k inside
    rw [List.getElem?_eq_getElem inside] at here
    obtain ⟨long, here⟩ := List.getElem?_eq_some_iff.mp here
    rw [same, atInt_ofNat long, here, List.getD_eq_getElem _ _ inside]
  rw [mapM_ok each]
  refine congrArg Except.ok (List.ext_getElem (by simp) fun k _ inside => ?_)
  simp [List.getElem?_eq_getElem inside]

theorem getElem?_reverse_take {items : List Nat} {count k : Nat} (long : count ≤ items.length)
    (inside : k < count) : items[count - 1 - k]? = (items.take count).reverse[k]? := by
  rw [List.getElem?_reverse (by simp; omega), List.length_take, Nat.min_eq_left long,
    List.getElem?_take_of_lt (by omega)]

theorem splitToSrc_eq (regular : srt.cost = [] ∨ srt.cost.length = srt.addrs.length + 1)
    (inside : size ≤ srt.addrs.length) :
    splitToSrc srt me size =
      if size = 0 then .ok none
      else ((List.range size).foldlM (cutToSrc me size) (towardsSrc srt me size)).bind
        fun srt => .ok (some srt) := by
  unfold splitToSrc
  by_cases done : size = 0
  · rw [if_pos done, if_pos done]
  have addrs : (List.range size).mapM (fun k : Nat => atInt srt.addrs ((size : Int) - k - 1)) =
      .ok (srt.addrs.take size).reverse := by
    have length : (srt.addrs.take size).reverse.length = size := by simp [inside]
    conv_lhs => rw [← length]
    refine mapM_atInt fun k bound => ⟨size - 1 - k, by omega, ?_⟩
    exact getElem?_reverse_take inside (length ▸ bound)
  rw [if_neg done, if_neg done, addrs]
  rcases regular with none | some
  · simp only [Except.bind, none, if_true, towardsSrc, List.take_nil, List.reverse_nil]
  · have present : srt.cost ≠ [] := List.ne_nil_of_length_eq_add_one some
    have first : at? srt.cost 0 = .ok (srt.cost.head present) := by
      rw [at?_ok, List.head?_eq_getElem?.symm, List.head?_eq_some_head]
    have costs : (List.range size).mapM (fun k : Nat => atInt srt.cost ((size : Int) - k)) =
        .ok (srt.cost.take (size + 1)).reverse.dropLast := by
      have length : (srt.cost.take (size + 1)).reverse.dropLast.length = size := by simp; omega
      conv_lhs => rw [← length]
      refine mapM_atInt fun k bound => ⟨size - k, by omega, ?_⟩
      rw [List.getElem?_dropLast, if_pos (by simpa using bound),
        ← getElem?_reverse_take (by omega) (by omega)]
      congr 1
    have whole : (srt.cost.take (size + 1)).reverse.dropLast ++ [srt.cost.head present] =
        (srt.cost.take (size + 1)).reverse := by
      obtain ⟨first, rest, split⟩ := List.exists_cons_of_ne_nil present
      simp [split]
    simp only [Except.bind, if_neg present, costs, first, whole, towardsSrc]

end

/-! ## Where the vectors are read in their range -/

/-- The addresses of a route behind the node at which it is split. -/
def DsrSrt.behind (srt : DsrSrt) (addr : InAddr) : List InAddr :=
  if addr = srt.src then srt.addrs else srt.addrs.drop (srt.addrs.idxOf addr + 1)

/-- At the destination, this node has to be on the route. Elsewhere it must not come behind
the split, or only as the last relay of a route without costs. -/
def SplitsInRange (srt : DsrSrt) (addr me : InAddr) : Prop :=
  srt.addrs = [] ∨
    if addr = srt.dst ∧ addr ≠ srt.src then me ∈ srt.addrs ∨ me = srt.dst
    else me ∉ srt.behind addr ∨ srt.cost = [] ∧ me ∉ (srt.behind addr).dropLast

section

variable {srt : DsrSrt} {addr me : InAddr} {before after : List InAddr}

theorem behind_split (split : srt.addrs = before ++ addr :: after) (first : addr ∉ before)
    (relay : addr ≠ srt.src) : srt.behind addr = after := by
  rw [behind, if_neg relay, split, idxOf_of_split first, List.drop_append]
  simp

theorem splitToDest_at {l : Int}
    (addrs : (towardsDst srt addr me l).addrs =
      if addr = me then srt.behind addr else addr :: srt.behind addr)
    (fits : (towardsDst srt addr me l).addrs.length = ((srt.addrs.length : Int) - l - 1).toNat) :
    splitToDest srt addr me l =
      if (towardsDst srt addr me l).addrs = [] then .ok none
      else if me ∉ srt.behind addr then .ok (some (towardsDst srt addr me l))
      else if srt.cost = [] ∧ me ∉ (srt.behind addr).dropLast then
        .ok (some { towardsDst srt addr me l with addrs := [], laddrs := 0 })
      else .error .outOfBounds := by
  rw [splitToDest_eq fits, addrs]
  by_cases mine : addr = me
  · simp only [if_pos mine]
  · simp only [if_neg mine, List.mem_cons, Ne.symm mine, false_or]
    by_cases absent : me ∈ srt.behind addr
    · have last : (addr :: srt.behind addr).dropLast = addr :: (srt.behind addr).dropLast :=
        List.dropLast_cons_of_ne_nil (List.ne_nil_of_mem absent)
      simp only [last, List.mem_cons, Ne.symm mine, false_or]
    · simp [absent]

theorem towardsDst_src (srt : DsrSrt) (me : InAddr) (l : Int)
    (position : l = if srt.src ≠ me then -2 else -1) :
    (towardsDst srt srt.src me l).addrs =
        (if srt.src = me then srt.behind srt.src else srt.src :: srt.behind srt.src) ∧
      (towardsDst srt srt.src me l).addrs.length = ((srt.addrs.length : Int) - l - 1).toNat := by
  subst position
  by_cases mine : srt.src = me
  · simp [towardsDst, mine, behind]
  · simp [towardsDst, mine, behind]
    omega

theorem towardsDst_relay (me : InAddr) (l : Int) (split : srt.addrs = before ++ addr :: after)
    (first : addr ∉ before) (relay : addr ≠ srt.src)
    (position : l = if addr ≠ me then (before.length : Int) - 1 else before.length) :
    (towardsDst srt addr me l).addrs =
        (if addr = me then srt.behind addr else addr :: srt.behind addr) ∧
      (towardsDst srt addr me l).addrs.length = ((srt.addrs.length : Int) - l - 1).toNat := by
  subst position
  rw [behind_split split first relay]
  by_cases mine : addr = me
  · have index : ((before.length : Int) + 1).toNat = before.length + 1 := by omega
    have rest : srt.addrs.drop (before.length + 1) = after := by
      rw [split, List.drop_append]
      simp
    simp only [towardsDst, mine, ne_eq, not_true_eq_false, and_false, if_false, if_true, index,
      rest, true_and]
    rw [split, List.length_append, List.length_cons]
    omega
  · have index : ((before.length : Int) - 1 + 1).toNat = before.length := by omega
    have rest : srt.addrs.drop before.length = addr :: after := by
      rw [split, List.drop_append]
      simp
    simp only [towardsDst, mine, relay, ne_eq, not_false_eq_true, if_false, if_true, false_and,
      index, rest, true_and]
    rw [split, List.length_append, List.length_cons]
    omega

/-! ### The three positions of the split -/

theorem dsrSrtSplitBoth_src (sized : srt.count = srt.addrs.length) (relays : srt.addrs ≠ []) :
    dsrSrtSplitBoth srt srt.src me =
      (splitToDest srt srt.src me (if srt.src ≠ me then -2 else -1)).bind fun toDest =>
        .ok (toDest, none) := by
  have some : srt.addrs.length ≠ 0 := fun none => relays (List.length_eq_zero_iff.mp none)
  rw [dsrSrtSplitBoth, checkSize, if_pos sized]
  simp only [Except.bind, if_neg some, if_true]

theorem dsrSrtSplitBoth_dst (sized : srt.count = srt.addrs.length) (relays : srt.addrs ≠ [])
    (other : srt.dst ≠ srt.src) :
    dsrSrtSplitBoth srt srt.dst me =
      if me ∈ srt.addrs then .ok (none, none)
      else
        (splitToSrc srt me
          (if me = srt.dst then srt.addrs.length else srt.addrs.length + 1)).bind fun toSrc =>
          .ok (none, toSrc) := by
  have some : srt.addrs.length ≠ 0 := fun none => relays (List.length_eq_zero_iff.mp none)
  have beyond : splitToDest srt srt.dst me ((srt.addrs.length : Int) + 1) = .ok none := by
    rw [splitToDest, if_pos (by omega)]
  rw [dsrSrtSplitBoth, checkSize, if_pos sized]
  simp only [Except.bind, if_neg some, if_neg other, if_true, beyond]

theorem dsrSrtSplitBoth_relay (sized : srt.count = srt.addrs.length)
    (split : srt.addrs = before ++ addr :: after) (first : addr ∉ before)
    (relay : addr ≠ srt.src) (notLast : addr ≠ srt.dst) :
    dsrSrtSplitBoth srt addr me =
      (splitToDest srt addr me
        (if addr ≠ me then (before.length : Int) - 1 else before.length)).bind fun toDest =>
        (splitToSrc srt me
          (if me = srt.dst then srt.addrs.length
            else if addr ≠ me then before.length + 1 else before.length)).bind fun toSrc =>
          .ok (toDest, toSrc) := by
  have some : srt.addrs.length ≠ 0 := by simp [split]
  have found : srt.addrs.findIdx? (fun hop => addr = hop) = Option.some before.length := by
    have flipped : (fun hop => decide (addr = hop)) = fun hop => decide (hop = addr) := by
      funext hop
      simp [eq_comm]
    rw [flipped, split, findIdx?_of_split first]
  rw [dsrSrtSplitBoth, checkSize, if_pos sized]
  simp only [Except.bind, if_neg some, if_neg relay, if_neg notLast, found]

theorem dsrSrtSplitBoth_absent (sized : srt.count = srt.addrs.length) (relay : addr ≠ srt.src)
    (notLast : addr ≠ srt.dst) (absent : addr ∉ srt.addrs) :
    dsrSrtSplitBoth srt addr me = .ok (none, none) := by
  have missed : srt.addrs.findIdx? (fun hop => addr = hop) = none :=
    List.findIdx?_eq_none_iff.mpr fun hop member =>
      decide_eq_false fun same => absent (same ▸ member)
  rw [dsrSrtSplitBoth, checkSize, if_pos sized]
  simp only [Except.bind, if_neg relay, if_neg notLast, missed, ite_self]

/-! ### The range -/

theorem splitToDest_range {l : Int}
    (addrs : (towardsDst srt addr me l).addrs =
      if addr = me then srt.behind addr else addr :: srt.behind addr)
    (fits : (towardsDst srt addr me l).addrs.length = ((srt.addrs.length : Int) - l - 1).toNat) :
    (me ∉ srt.behind addr ∨ srt.cost = [] ∧ me ∉ (srt.behind addr).dropLast →
        ∃ toDest, splitToDest srt addr me l = .ok toDest ∧
          ∀ route ∈ toDest, route.src = me ∧ route.dst = srt.dst) ∧
      (¬(me ∉ srt.behind addr ∨ srt.cost = [] ∧ me ∉ (srt.behind addr).dropLast) →
        splitToDest srt addr me l = .error .outOfBounds) := by
  have ends : (towardsDst srt addr me l).src = me ∧ (towardsDst srt addr me l).dst = srt.dst := by
    unfold towardsDst
    dsimp only
    split <;> exact ⟨rfl, rfl⟩
  rw [splitToDest_at addrs fits]
  constructor
  · intro inRange
    by_cases nothing : (towardsDst srt addr me l).addrs = []
    · exact ⟨none, if_pos nothing, fun _ found => absurd found (by simp)⟩
    rw [if_neg nothing]
    by_cases absent : me ∉ srt.behind addr
    · rw [if_pos absent]
      refine ⟨_, rfl, fun route same => ?_⟩
      cases same
      exact ends
    · rw [if_neg absent, if_pos (inRange.resolve_left absent)]
      refine ⟨_, rfl, fun route same => ?_⟩
      cases same
      exact ends
  · intro outside
    have present : me ∈ srt.behind addr := not_not.mp fun absent => outside (.inl absent)
    have nonempty : (towardsDst srt addr me l).addrs ≠ [] := by
      rw [addrs]
      split
      · exact List.ne_nil_of_mem present
      · exact List.cons_ne_nil _ _
    rw [if_neg nonempty, if_neg (not_not.mpr present), if_neg fun both => outside (.inr both)]

variable (costs : srt.cost = [] ∨ srt.cost.length = srt.addrs.length + 1)
include costs

theorem splitToSrc_some {size : Nat} (some : size ≠ 0) (inside : size ≤ srt.addrs.length) :
    ∃ cut, splitToSrc srt me size = .ok (Option.some cut) ∧
      CutFrom me size (towardsSrc srt me size) (List.range size) cut := by
  have sized : (towardsSrc srt me size).addrs.length = size := by simp [towardsSrc, inside]
  have priced : (towardsSrc srt me size).cost = [] ∨
      (towardsSrc srt me size).cost.length = size + 1 := by
    rcases costs with none | some
    · exact .inl (by simp [towardsSrc, none])
    · exact .inr (by simp [towardsSrc, some]; omega)
  obtain ⟨cut, ran, cuts⟩ := cutToSrc_foldlM sized priced
  refine ⟨cut, ?_, cuts⟩
  rw [splitToSrc_eq costs inside, if_neg some, ran]
  rfl

theorem splitToSrc_range (me : InAddr) {size : Nat} (inside : size ≤ srt.addrs.length) :
    ∃ toSrc, splitToSrc srt me size = .ok toSrc ∧
      ∀ route ∈ toSrc, route.src = me ∧ route.dst = srt.src := by
  by_cases nothing : size = 0
  · exact ⟨none, by rw [splitToSrc_eq costs inside, if_pos nothing], by simp⟩
  · obtain ⟨cut, ran, cuts⟩ := splitToSrc_some costs nothing inside
    refine ⟨some cut, ran, fun route same => ?_⟩
    cases same
    exact ⟨cuts.src, cuts.dst⟩

omit costs in
theorem splitToSrc_beyond (me : InAddr) :
    splitToSrc srt me (srt.addrs.length + 1) = .error .outOfBounds := by
  have beyond : atInt srt.addrs ((srt.addrs.length + 1 : Nat) - (0 : Nat) - 1 : Int) =
      .error .outOfBounds := by
    rw [atInt, if_neg (by omega), at?, List.getElem?_eq_none (by omega)]
  rw [splitToSrc, if_neg (Nat.succ_ne_zero _), List.range_succ_eq_map, List.mapM_cons]
  exact congrArg (fun first => Except.bind (Except.bind first _) _) beyond

/-- The vectors are read in their range if and only if this node does not come behind the
split, but for the cases in which nothing is read. -/
theorem dsrSrtSplitBoth_range (addr me : InAddr) (sized : srt.count = srt.addrs.length) :
    (SplitsInRange srt addr me → ∃ routes, dsrSrtSplitBoth srt addr me = .ok routes ∧
        (∀ route ∈ routes.1, route.src = me ∧ route.dst = srt.dst) ∧
          ∀ route ∈ routes.2, route.src = me ∧ route.dst = srt.src) ∧
      (¬SplitsInRange srt addr me → dsrSrtSplitBoth srt addr me = .error .outOfBounds) := by
  have nothing : ∀ {finish : InAddr}, ∀ route ∈ (none : Option DsrSrt),
      route.src = me ∧ route.dst = finish := fun _ found => absurd found (by simp)
  by_cases direct : srt.addrs = []
  · refine ⟨fun _ => ⟨(none, none), ?_, nothing, nothing⟩, fun outside =>
      absurd (.inl direct) outside⟩
    rw [dsrSrtSplitBoth, checkSize, if_pos sized]
    simp only [Except.bind, direct, List.length_nil, if_true]
  unfold SplitsInRange
  rw [or_iff_right direct]
  by_cases source : addr = srt.src
  · subst source
    rw [dsrSrtSplitBoth_src sized direct, if_neg fun both => both.2 rfl]
    obtain ⟨addrs, fits⟩ := towardsDst_src srt me _ rfl
    obtain ⟨within, outside⟩ := splitToDest_range addrs fits
    refine ⟨fun inRange => ?_, fun out => by rw [outside out]; rfl⟩
    obtain ⟨toDest, ran, ends⟩ := within inRange
    exact ⟨(toDest, none), by rw [ran]; rfl, ends, nothing⟩
  by_cases last : addr = srt.dst
  · subst last
    rw [dsrSrtSplitBoth_dst sized direct source, if_pos ⟨rfl, source⟩]
    by_cases relay : me ∈ srt.addrs
    · rw [if_pos relay]
      exact ⟨fun _ => ⟨(none, none), rfl, nothing, nothing⟩, fun out => absurd (.inl relay) out⟩
    · rw [if_neg relay]
      by_cases here : me = srt.dst
      · rw [if_pos here]
        obtain ⟨toSrc, ran, ends⟩ :=
          splitToSrc_range costs me (Nat.le_refl srt.addrs.length)
        exact ⟨fun _ => ⟨(none, toSrc), by rw [ran]; rfl, nothing, ends⟩, fun out =>
          absurd (.inr here) out⟩
      · rw [if_neg here, splitToSrc_beyond]
        exact ⟨fun inRange => absurd inRange (by simp [relay, here]), fun _ => rfl⟩
  rw [if_neg fun both => last both.1]
  by_cases relay : addr ∈ srt.addrs
  · obtain ⟨before, after, split, first⟩ := List.eq_append_cons_of_mem relay
    rw [dsrSrtSplitBoth_relay sized split first source last]
    obtain ⟨addrs, fits⟩ := towardsDst_relay me _ split first source rfl
    obtain ⟨within, outside⟩ := splitToDest_range addrs fits
    refine ⟨fun inRange => ?_, fun out => by rw [outside out]; rfl⟩
    obtain ⟨toDest, ran, ends⟩ := within inRange
    have inside : (if me = srt.dst then srt.addrs.length
        else if addr ≠ me then before.length + 1 else before.length) ≤ srt.addrs.length := by
      have length : srt.addrs.length = before.length + (after.length + 1) := by simp [split]
      split
      · exact le_refl _
      · split <;> omega
    obtain ⟨toSrc, back, ends'⟩ := splitToSrc_range costs me inside
    exact ⟨(toDest, toSrc), by rw [ran, back]; rfl, ends, ends'⟩
  · rw [dsrSrtSplitBoth_absent sized source last relay]
    have behind : srt.behind addr = [] := by
      rw [DsrSrt.behind, if_neg source, List.idxOf_eq_length relay]
      simp
    rw [behind]
    exact ⟨fun _ => ⟨(none, none), rfl, nothing, nothing⟩, fun out => absurd (.inl (by simp)) out⟩

end

end SyncFanet.Dsr
