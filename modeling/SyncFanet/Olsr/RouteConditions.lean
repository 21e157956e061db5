import SyncFanet.Olsr.RouteReaders

/-!
# When every route is usable

A computed table serves its readers exactly when every entry at distance one is
the entry of its own next hop. Two kinds of entries break this: the main address
of a neighbor that has no link on it, and an interface association that adds an
address to a neighbor.
-/

set_option autoImplicit false

namespace SyncFanet.Olsr

/-! ## Tables -/

def DirectTable (rtable : Rtable) : Prop :=
  ∀ dest entry, rtable.lookup dest = some entry → entry.dist = 1 → entry.nextAddr = dest

def Anchored (rtable : Rtable) : Prop :=
  ∀ dest entry, rtable.lookup dest = some entry → 2 ≤ entry.dist →
    ∃ via, rtable.lookup entry.nextAddr = some via ∧ via.dist = 1

theorem usable_iff_direct {config : Config} {getAp : NsAddr → Option NsAddr} {rtable : Rtable}
    (shaped : ∀ dest entry, rtable.lookup dest = some entry → WellShaped config entry)
    (anchored : DirectTable rtable → Anchored rtable) :
    (∀ dest entry, rtable.lookup dest = some entry → Usable config getAp rtable entry) ↔
      DirectTable rtable := by
  constructor
  · intro usable dest entry found near
    have same := Rtable.lookup_dest found
    subst same
    obtain ⟨fuel, final, chain, _, head⟩ :=
      (usable_iff (shaped _ entry found) found).mp (usable _ entry found)
    obtain ⟨ends, stored⟩ := findSendEntry_final found chain
    have empty : entry.route = [] := by
      rcases (shaped _ entry found).route with ⟨_, empty⟩ | ⟨far, _⟩
      · exact empty
      · omega
    have next : entry.destAddr = final.nextAddr := by simpa [empty] using head
    rw [ends, ← next, found] at stored
    cases stored
    exact ends.symm
  · intro direct dest entry found
    have same := Rtable.lookup_dest found
    subst same
    refine (usable_iff (shaped _ entry found) found).mpr ?_
    rcases (shaped _ entry found).route with ⟨near, empty⟩ | ⟨far, _, head⟩
    · have next := direct _ entry found near
      exact ⟨0, entry, by simp [Rtable.findSendEntry, next], near, by simp [empty, next]⟩
    · obtain ⟨via, stored, near⟩ := anchored direct _ entry found far
      have next := direct _ via stored near
      have dest := Rtable.lookup_dest stored
      refine ⟨1, via, ?_, near, by simp [List.head?_append, head, next]⟩
      by_cases here : entry.destAddr = entry.nextAddr
      · rw [← here, found] at stored
        cases stored
        simp [Rtable.findSendEntry, here]
      · simp [Rtable.findSendEntry, here, stored, dest, next]

theorem layers_succ {state : State} {fuel h : Nat} {rtable final : Rtable}
    (ran : layers state (fuel + 1) h rtable = .ok final) :
    final = (layer state h rtable).1 ∨
      layers state fuel (h + 1) (layer state h rtable).1 = .ok final := by
  unfold layers at ran
  cases added : (layer state h rtable).2 with
  | false =>
      have same : aliasPass state (topologyPass state h rtable) =
        ((layer state h rtable).1, false) := Prod.ext rfl added
      rw [same] at ran
      exact .inl (Except.ok.inj ran).symm
  | true =>
      have same : aliasPass state (topologyPass state h rtable) =
        ((layer state h rtable).1, true) := Prod.ext rfl added
      rw [same] at ran
      exact .inr ran

theorem layers_keeps {state : State} {fuel h : Nat} {rtable final : Rtable}
    (invariant : Rtable → Prop)
    (next : ∀ h' rtable, h ≤ h' → invariant rtable → invariant (layer state h' rtable).1)
    (ran : layers state fuel h rtable = .ok final) (start : invariant rtable) :
    invariant final := by
  induction fuel generalizing h rtable with
  | zero => cases ran
  | succ fuel ih =>
      have grown := next h rtable (le_refl h) start
      rcases layers_succ ran with rfl | ran
      · exact grown
      · exact ih (fun h' rtable later => next h' rtable (Nat.le_of_succ_le later)) ran grown

/-! ## Before the layers -/

def TwoHop (state : State) (addr : NsAddr) : Prop :=
  ∃ hop ∈ state.nb2hopset, inN2 state hop = true ∧ hop.nb2hopAddr = addr

theorem NeighborEntry.dist {state : State} {now : Int} {entry : RtEntry}
    (neighbor : NeighborEntry state now entry) : entry.dist = 1 := by
  obtain ⟨_, _, _, _, _, rfl | rfl⟩ := neighbor
  · rfl
  · rfl

section

variable {config : Config} {state : State} {now : Int} {twoHop : Rtable}

theorem twoHopPass_cases (ran : twoHopPass state (neighborPass state now) = .ok twoHop)
    {addr : NsAddr} {entry : RtEntry} (found : twoHop.lookup addr = some entry) :
    (TwoHop state addr ∧ ∃ main via, SymNeighbor state main ∧
      twoHop.lookup main = some via ∧ (neighborPass state now).lookup main = some via ∧
      entry = twoHopEntry addr via) ∨
    (¬ TwoHop state addr ∧ (neighborPass state now).lookup addr = some entry) := by
  have spec := twoHopPass_spec ran
  by_cases far : TwoHop state addr
  · obtain ⟨hop, member, qualifies, rfl⟩ := far
    obtain ⟨other, among, qualifies', _, via, based, stored⟩ := spec.reached hop member qualifies
    have sym := (inN2_iff.mp qualifies').1
    rw [found] at stored
    exact .inl ⟨⟨hop, member, qualifies, rfl⟩, other.nbMainAddr, via, sym,
      (spec.lookup_symNeighbor sym).trans based, based, Option.some.inj stored⟩
  · refine .inr ⟨far, ?_⟩
    rw [← spec.kept addr fun hop member qualifies same => far ⟨hop, member, qualifies, same⟩]
    exact found

theorem twoHopPass_near_iff (ran : twoHopPass state (neighborPass state now) = .ok twoHop)
    (addr : NsAddr) :
    (∃ entry, twoHop.lookup addr = some entry ∧ entry.dist = 1) ↔
      OneHop state now addr ∧ ¬ TwoHop state addr := by
  constructor
  · rintro ⟨entry, found, near⟩
    rcases twoHopPass_cases ran found with ⟨_, _, via, _, _, _, rfl⟩ | ⟨notFar, based⟩
    · cases near
    · exact ⟨(neighborPass_isSome_iff state now addr).mp (by simp [based]), notFar⟩
  · rintro ⟨oneHop, notFar⟩
    obtain ⟨entry, based⟩ := Option.isSome_iff_exists.mp
      ((neighborPass_isSome_iff state now addr).mpr oneHop)
    refine ⟨entry, ?_, (neighborPass_found based).dist⟩
    rw [(twoHopPass_spec ran).kept addr fun hop member qualifies same =>
      notFar ⟨hop, member, qualifies, same⟩]
    exact based

theorem twoHopPass_isSome_iff (ran : twoHopPass state (neighborPass state now) = .ok twoHop)
    (addr : NsAddr) :
    (twoHop.lookup addr).isSome ↔ OneHop state now addr ∨ TwoHop state addr := by
  constructor
  · intro present
    obtain ⟨entry, found⟩ := Option.isSome_iff_exists.mp present
    rcases twoHopPass_cases ran found with ⟨far, _⟩ | ⟨_, based⟩
    · exact .inr far
    · exact .inl ((neighborPass_isSome_iff state now addr).mp (by simp [based]))
  · intro listed
    by_cases far : TwoHop state addr
    · obtain ⟨hop, member, qualifies, rfl⟩ := far
      obtain ⟨_, _, _, _, via, _, stored⟩ := (twoHopPass_spec ran).reached hop member qualifies
      simp [stored]
    · obtain ⟨entry, found, _⟩ :=
        (twoHopPass_near_iff ran addr).mpr ⟨listed.resolve_right far, far⟩
      simp [found]

theorem twoHopPass_shaped (linked : ∀ link ∈ state.linkset, ∃ iface ∈ config.ifaces,
      iface.addr = link.localIfaceAddr)
    (ran : twoHopPass state (neighborPass state now) = .ok twoHop) {addr : NsAddr}
    {entry : RtEntry} (found : twoHop.lookup addr = some entry) : WellShaped config entry := by
  have based : ∀ {addr entry}, (neighborPass state now).lookup addr = some entry →
      entry.dist = 1 ∧ entry.route = [] ∧
        ∃ iface ∈ config.ifaces, iface.addr = entry.ifaceAddr := by
    intro addr entry found
    obtain ⟨nb, _, _, link, included, rfl | rfl⟩ := neighborPass_found found
    · exact ⟨rfl, rfl, linked link (mem_linksOf.mp included).1⟩
    · exact ⟨rfl, rfl, linked link (mem_linksOf.mp included).1⟩
  rcases twoHopPass_cases ran found with ⟨_, _, via, _, _, stored, rfl⟩ | ⟨_, stored⟩
  · exact ⟨.inr ⟨le_refl 2, rfl, rfl⟩, (based stored).2.2⟩
  · obtain ⟨dist, route, iface⟩ := based stored
    exact ⟨.inl ⟨dist, route⟩, iface⟩

/-! ## Main addresses of neighbors -/

/-- A symmetric neighbor with an unexpired link has an entry for a link on its main
address, from itself or from a neighbor after it. -/
def MainAddrsLinked (state : State) (now : Int) : Prop :=
  ∀ before nb after, state.nbset = before ++ nb :: after → nb.status = .sym →
    linksOf state now nb ≠ [] → ∃ nb' ∈ nb :: after, nb'.status = .sym ∧
      ∃ link ∈ linksOf state now nb', link.nbIfaceAddr = nb.nbMainAddr

theorem neighborPass_direct_iff (state : State) (now : Int) (addr : NsAddr) :
    (∀ entry, (neighborPass state now).lookup addr = some entry → entry.nextAddr = addr) ↔
      ∀ before nb after, state.nbset = before ++ nb :: after → nb.status = .sym →
        nb.nbMainAddr = addr → linksOf state now nb ≠ [] → ∃ nb' ∈ nb :: after,
          nb'.status = .sym ∧ ∃ link ∈ linksOf state now nb', link.nbIfaceAddr = addr := by
  refine foldl_seen (addNeighborEntries state now)
    (fun seen rtable =>
      (∀ entry, Rtable.lookup rtable addr = some entry → entry.nextAddr = addr) ↔
        ∀ before nb after, seen = before ++ nb :: after → nb.status = .sym →
          nb.nbMainAddr = addr → linksOf state now nb ≠ [] → ∃ nb' ∈ nb :: after,
            nb'.status = .sym ∧ ∃ link ∈ linksOf state now nb', link.nbIfaceAddr = addr)
    ?_ ?_
  · simp
  intro seen current rtable _ same
  rcases lookup_addNeighborEntries state now rtable current addr with
    ⟨sym, link, included, onLink, stored⟩ | ⟨sym, main, others, lt, included, stored⟩ |
      ⟨untouched, kept⟩
  · rw [stored]
    constructor
    · intro _ before nb after split _ _ _
      have last : current ∈ nb :: after := by
        rcases split_last split with ⟨rfl, _, rfl⟩ | ⟨rest, rfl, _⟩
        · simp
        · simp
      exact ⟨current, last, sym, link, included, onLink⟩
    · intro _ entry found
      cases found
      exact onLink
  · rw [stored]
    constructor
    · intro direct
      exact absurd (direct _ rfl) (others lt included)
    · intro linked
      have nonempty : linksOf state now current ≠ [] := List.ne_nil_of_mem included
      obtain ⟨nb', among, _, link, included', onLink⟩ :=
        linked seen current [] rfl sym main nonempty
      have equal : nb' = current := by simpa using among
      exact absurd onLink (others link (equal ▸ included'))
  · rw [kept, same]
    constructor
    · intro linked before nb after split sym main nonempty
      rcases split_last split with ⟨rfl, _, rfl⟩ | ⟨rest, rfl, earlier⟩
      · exact absurd ((untouched sym).2 main) nonempty
      · obtain ⟨nb', among, linkedBy⟩ := linked before nb rest earlier sym main nonempty
        exact ⟨nb', by simpa [or_assoc] using Or.inl (List.mem_cons.mp among), linkedBy⟩
    · intro linked before nb after split sym main nonempty
      obtain ⟨nb', among, sym', link, included, onLink⟩ :=
        linked before nb (after ++ [current]) (by simp [split]) sym main nonempty
      have member : nb' ∈ nb :: after ∨ nb' = current := by simpa [or_assoc] using among
      rcases member with earlier | rfl
      · exact ⟨nb', earlier, sym', link, included, onLink⟩
      · exact absurd onLink ((untouched sym').1 link included)

theorem twoHopPass_direct_iff (ran : twoHopPass state (neighborPass state now) = .ok twoHop) :
    DirectTable twoHop ↔ MainAddrsLinked state now := by
  constructor
  · intro direct before nb after split sym nonempty
    refine (neighborPass_direct_iff state now nb.nbMainAddr).mp ?_ before nb after split sym rfl
      nonempty
    intro entry found
    have neighbor : SymNeighbor state nb.nbMainAddr := ⟨nb, by simp [split], rfl, sym⟩
    have near := (neighborPass_found found).dist
    rw [← (twoHopPass_spec ran).lookup_symNeighbor neighbor] at found
    exact direct _ entry found near
  · intro linked addr entry found near
    rcases twoHopPass_cases ran found with ⟨_, _, via, _, _, _, rfl⟩ | ⟨_, based⟩
    · cases near
    · refine (neighborPass_direct_iff state now addr).mpr ?_ entry based
      rintro before nb after split sym rfl nonempty
      exact linked before nb after split sym nonempty

theorem twoHopPass_anchored (ran : twoHopPass state (neighborPass state now) = .ok twoHop)
    (direct : DirectTable twoHop) : Anchored twoHop := by
  intro addr entry found far
  rcases twoHopPass_cases ran found with ⟨_, main, via, _, stored, based, rfl⟩ | ⟨_, based⟩
  · have near := (neighborPass_found based).dist
    have next : (twoHopEntry addr via).nextAddr = main := direct main via stored near
    exact ⟨via, next ▸ stored, near⟩
  · have near := (neighborPass_found based).dist
    omega

end

variable {rtable : Rtable}

/-! ## Layers -/

theorem lookup_store_some {entry found : RtEntry} {dest : NsAddr}
    (stored : (rtable.store entry).lookup dest = some found) :
    (dest = entry.destAddr ∧ found = entry) ∨ rtable.lookup dest = some found := by
  rw [Rtable.lookup_store] at stored
  split at stored
  · next same => exact .inl ⟨same, (Option.some.inj stored).symm⟩
  · exact .inr stored

theorem layer_shaped {config : Config} {state : State} {h : Nat} (beyond : 2 ≤ h)
    (shaped : ∀ dest entry, rtable.lookup dest = some entry → WellShaped config entry) :
    ∀ dest entry, (layer state h rtable).1.lookup dest = some entry →
      WellShaped config entry := by
  refine layer_keeps (fun rtable => ∀ dest entry, Rtable.lookup rtable dest = some entry →
    WellShaped config entry) shaped ?_ ?_
  · intro rtable shaped tuple _ _ via found dist dest entry stored
    rcases lookup_store_some stored with ⟨_, rfl⟩ | old
    · exact (shaped _ via found).extend _ (.inr ⟨by omega, by omega⟩)
    · exact shaped dest entry old
  · intro rtable shaped tuple _ _ via found dest entry stored
    rcases lookup_store_some stored with ⟨_, rfl⟩ | old
    · exact (shaped _ via found).extend _ (.inl rfl)
    · exact shaped dest entry old

theorem Anchored.store (anchored : Anchored rtable) {dest source : NsAddr} {dist : Nat}
    {via : RtEntry} (absent : rtable.lookup dest = none) (found : rtable.lookup source = some via)
    (further : 2 ≤ dist → 2 ≤ via.dist) :
    Anchored (rtable.store (extendEntry dest dist via)) := by
  have grown : Extends rtable (rtable.store (extendEntry dest dist via)) := Extends.store absent
  intro addr entry stored far
  rcases lookup_store_some stored with ⟨_, rfl⟩ | old
  · obtain ⟨anchor, hop, near⟩ := anchored source via found (further far)
    exact ⟨anchor, grown _ anchor hop, near⟩
  · obtain ⟨anchor, hop, near⟩ := anchored addr entry old far
    exact ⟨anchor, grown _ anchor hop, near⟩

theorem layer_anchored {state : State} {h : Nat} (beyond : 2 ≤ h) (anchored : Anchored rtable) :
    Anchored (layer state h rtable).1 :=
  layer_keeps Anchored anchored
    (fun _ anchored _ _ absent _ found dist =>
      anchored.store absent found fun _ => dist ▸ beyond)
    (fun _ anchored _ _ absent _ found => anchored.store absent found fun far => far)

/-! ## Aliases of neighbors -/

def ThreeHop (state : State) (addr : NsAddr) : Prop :=
  ∃ tuple ∈ state.topologyset, tuple.destAddr = addr ∧ TwoHop state tuple.lastAddr

/-- The addresses that have an entry once the first layer handled some associations. -/
inductive Listed (state : State) (now : Int) : List IfaceAssocTuple → NsAddr → Prop where
  | routed {seen : List IfaceAssocTuple} {addr : NsAddr}
      (near : OneHop state now addr ∨ TwoHop state addr ∨ ThreeHop state addr) :
      Listed state now seen addr
  | assoc {before after : List IfaceAssocTuple} {tuple : IfaceAssocTuple}
      (main : Listed state now before tuple.mainAddr) :
      Listed state now (before ++ tuple :: after) tuple.ifaceAddr

/-- An association of a 1-hop address names an interface that has an entry without it. -/
def AliasesListed (state : State) (now : Int) (seen : List IfaceAssocTuple) : Prop :=
  ∀ before tuple after, seen = before ++ tuple :: after → OneHop state now tuple.mainAddr →
    ¬ TwoHop state tuple.mainAddr → Listed state now before tuple.ifaceAddr

theorem listed_snoc {state : State} {now : Int} {seen : List IfaceAssocTuple}
    {tuple : IfaceAssocTuple} {addr : NsAddr} :
    Listed state now (seen ++ [tuple]) addr ↔
      Listed state now seen addr ∨
        (addr = tuple.ifaceAddr ∧ Listed state now seen tuple.mainAddr) := by
  constructor
  · intro listed
    generalize shape : seen ++ [tuple] = items at listed
    cases listed with
    | routed near => exact .inl (.routed near)
    | assoc main =>
        rcases split_last shape with ⟨_, rfl, rfl⟩ | ⟨rest, _, rfl⟩
        · exact .inr ⟨rfl, main⟩
        · exact .inl (.assoc main)
  · rintro (listed | ⟨rfl, main⟩)
    · cases listed with
      | routed near => exact .routed near
      | assoc main =>
          rw [List.append_assoc, List.cons_append]
          exact .assoc main
    · exact .assoc main

theorem aliasesListed_snoc {state : State} {now : Int} {seen : List IfaceAssocTuple}
    {tuple : IfaceAssocTuple} :
    AliasesListed state now (seen ++ [tuple]) ↔
      AliasesListed state now seen ∧ (OneHop state now tuple.mainAddr →
        ¬ TwoHop state tuple.mainAddr → Listed state now seen tuple.ifaceAddr) := by
  constructor
  · intro listed
    refine ⟨?_, listed seen tuple [] rfl⟩
    intro before other after split
    exact listed before other (after ++ [tuple]) (by simp [split])
  · rintro ⟨listed, last⟩ before other after split
    rcases split_last split with ⟨rfl, rfl, rfl⟩ | ⟨rest, _, earlier⟩
    · exact last
    · exact listed before other rest earlier

def NearKept (old new : Rtable) : Prop :=
  ∀ dest entry, Rtable.lookup new dest = some entry → entry.dist = 1 →
    Rtable.lookup old dest = some entry

theorem nearKept_store {old new : Rtable} (grown : Extends old new) {dest : NsAddr}
    {via : RtEntry} (absent : new.lookup dest = none) :
    NearKept old (new.store (extendEntry dest via.dist via)) ↔
      NearKept old new ∧ via.dist ≠ 1 := by
  constructor
  · intro kept
    constructor
    · intro addr entry found near
      exact kept addr entry (Extends.store absent addr entry found) near
    · intro near
      have stored := kept dest _ (Rtable.lookup_store_self new (extendEntry dest via.dist via)) near
      rw [absent_before grown absent] at stored
      cases stored
  · rintro ⟨kept, far⟩ addr entry found near
    rcases lookup_store_some found with ⟨_, rfl⟩ | earlier
    · exact absurd near far
    · exact kept addr entry earlier near

section

variable {state : State} {now : Int} {twoHop : Rtable}

theorem topologyPass_two (ran : twoHopPass state (neighborPass state now) = .ok twoHop)
    (addr : NsAddr) :
    (((topologyPass state 2 twoHop).1.lookup addr).isSome ↔
      OneHop state now addr ∨ TwoHop state addr ∨ ThreeHop state addr) ∧
    ∀ entry, (topologyPass state 2 twoHop).1.lookup addr = some entry →
      twoHop.lookup addr = some entry ∨ entry.dist = 3 := by
  have origin : ∀ addr entry, (topologyPass state 2 twoHop).1.lookup addr = some entry →
      twoHop.lookup addr = some entry ∨ (entry.dist = 3 ∧ ThreeHop state addr) := by
    refine foldl_keeps (addTopologyEntry 2)
      (fun acc => ∀ addr entry, Rtable.lookup acc.1 addr = some entry →
        twoHop.lookup addr = some entry ∨ (entry.dist = 3 ∧ ThreeHop state addr))
      (fun _ _ found => .inl found) ?_
    intro tuple acc member origin addr entry found
    rcases addTopologyEntry_cases 2 acc tuple with ⟨same, _⟩ | ⟨_, via, last, dist, stored⟩
    · rw [same] at found
      exact origin addr entry found
    · rw [stored] at found
      rcases lookup_store_some found with ⟨rfl, rfl⟩ | old
      · refine .inr ⟨rfl, tuple, member, rfl, ?_⟩
        rcases origin _ via last with old | ⟨three, _⟩
        · rcases twoHopPass_cases ran old with ⟨far, _⟩ | ⟨_, based⟩
          · exact far
          · have near := (neighborPass_found based).dist
            omega
        · omega
      · exact origin addr entry old
  refine ⟨?_, fun entry found => (origin addr entry found).imp_right And.left⟩
  constructor
  · intro present
    obtain ⟨entry, found⟩ := Option.isSome_iff_exists.mp present
    rcases origin addr entry found with old | ⟨_, three⟩
    · exact ((twoHopPass_isSome_iff ran addr).mp (by simp [old])).imp_right .inl
    · exact .inr (.inr three)
  · intro listed
    rcases or_assoc.mpr listed with near | ⟨tuple, member, rfl, hop, among, qualifies, last⟩
    · exact (topologyPass_extends state 2 twoHop).isSome ((twoHopPass_isSome_iff ran addr).mpr near)
    · obtain ⟨_, _, _, _, via, _, stored⟩ := (twoHopPass_spec ran).reached hop among qualifies
      exact topologyPass_covers member (last ▸ stored) rfl

/-- After the first layer an entry at distance one is new exactly when an
association added it. -/
theorem layer_two (ran : twoHopPass state (neighborPass state now) = .ok twoHop) :
    (∀ addr, ((layer state 2 twoHop).1.lookup addr).isSome ↔
      Listed state now state.ifaceassocset addr) ∧
    (NearKept twoHop (layer state 2 twoHop).1 ↔
      AliasesListed state now state.ifaceassocset) := by
  have pass : Extends twoHop (layer state 2 twoHop).1 ∧
      (∀ addr, ((layer state 2 twoHop).1.lookup addr).isSome ↔
        Listed state now state.ifaceassocset addr) ∧
      (NearKept twoHop (layer state 2 twoHop).1 ↔
        AliasesListed state now state.ifaceassocset) := by
    refine foldl_seen addAliasEntry (fun seen acc => Extends twoHop acc.1 ∧
      (∀ addr, (Rtable.lookup acc.1 addr).isSome ↔ Listed state now seen addr) ∧
      (NearKept twoHop acc.1 ↔ AliasesListed state now seen)) ⟨?_, ?_, ?_⟩ ?_
    · exact topologyPass_extends state 2 twoHop
    · intro addr
      rw [(topologyPass_two ran addr).1]
      constructor
      · exact .routed
      · generalize shape : ([] : List IfaceAssocTuple) = items
        intro listed
        cases listed with
        | routed near => exact near
        | assoc main => simp at shape
    · constructor
      · intro _ before tuple after split
        simp at split
      · intro _ addr entry found near
        rcases (topologyPass_two ran addr).2 entry found with old | three
        · exact old
        · omega
    · rintro seen tuple acc _ ⟨grown, listed, near⟩
      rw [aliasesListed_snoc, ← near]
      rcases addAliasEntry_cases acc tuple with ⟨same, reason⟩ | ⟨absent, via, found, stored⟩
      · have skipped : Listed state now seen tuple.mainAddr →
            Listed state now seen tuple.ifaceAddr := by
          intro main
          rcases reason with present | unrouted
          · exact (listed _).mp present
          · have present := (listed _).mpr main
            simp [unrouted] at present
        rw [same]
        refine ⟨grown, ?_, ?_⟩
        · intro addr
          rw [listed addr, listed_snoc]
          constructor
          · exact .inl
          · rintro (old | ⟨rfl, main⟩)
            · exact old
            · exact skipped main
        · exact ⟨fun kept => ⟨kept, fun oneHop _ => skipped (.routed (.inl oneHop))⟩, And.left⟩
      · have unlisted : ¬ Listed state now seen tuple.ifaceAddr := by
          intro present
          have := (listed _).mpr present
          simp [absent] at this
        rw [stored]
        refine ⟨grown.trans (Extends.store absent), ?_, ?_⟩
        · intro addr
          rw [listed_snoc, ← listed addr, ← listed tuple.mainAddr, found]
          rw [Rtable.lookup_store]
          by_cases here : addr = tuple.ifaceAddr
          · simp [here, extendEntry]
          · simp [here, extendEntry]
        · rw [nearKept_store grown absent]
          refine and_congr_right fun kept => ?_
          -- The new entry is as near as the main address, whose entry is an old one.
          have nearMain : via.dist = 1 ↔ OneHop state now tuple.mainAddr ∧
              ¬ TwoHop state tuple.mainAddr := by
            rw [← twoHopPass_near_iff ran]
            constructor
            · intro dist
              exact ⟨via, kept _ via found dist, dist⟩
            · rintro ⟨entry, old, dist⟩
              rw [grown _ entry old] at found
              cases found
              exact dist
          rw [ne_eq, nearMain]
          constructor
          · intro notNear oneHop notFar
            exact absurd ⟨oneHop, notFar⟩ notNear
          · rintro listedAlias ⟨oneHop, notFar⟩
            exact unlisted (listedAlias oneHop notFar)
  exact pass.2

theorem layer_nearKept (ran : twoHopPass state (neighborPass state now) = .ok twoHop) {h : Nat}
    (beyond : 2 < h) (grown : Extends (layer state 2 twoHop).1 rtable)
    (kept : NearKept twoHop rtable) :
    NearKept twoHop (layer state h rtable).1 := by
  have based : Extends twoHop (layer state 2 twoHop).1 := layer_extends state 2 twoHop
  have pass : Extends (layer state 2 twoHop).1 (layer state h rtable).1 ∧
      NearKept twoHop (layer state h rtable).1 := by
    refine layer_keeps (fun rtable => Extends (layer state 2 twoHop).1 rtable ∧
      NearKept twoHop rtable) ⟨grown, kept⟩ ?_ ?_
    · rintro rtable ⟨grown, kept⟩ tuple _ absent via _ dist
      refine ⟨grown.trans (Extends.store absent), ?_⟩
      intro dest entry found near
      rcases lookup_store_some found with ⟨_, rfl⟩ | old
      · simp only [extendEntry] at near
        omega
      · exact kept dest entry old near
    · rintro rtable ⟨grown, kept⟩ tuple member absent via found
      refine ⟨grown.trans (Extends.store absent),
        (nearKept_store (based.trans grown) absent).mpr ⟨kept, ?_⟩⟩
      intro near
      obtain ⟨oneHop, _⟩ := (twoHopPass_near_iff ran _).mp ⟨via, kept _ via found near, near⟩
      obtain ⟨before, after, split⟩ := List.append_of_mem member
      have listed : Listed state now state.ifaceassocset tuple.ifaceAddr :=
        split ▸ .assoc (.routed (.inl oneHop))
      have present := grown.isSome (((layer_two ran).1 tuple.ifaceAddr).mpr listed)
      simp [absent] at present
  exact pass.2

theorem nearKept_iff (ran : twoHopPass state (neighborPass state now) = .ok twoHop)
    {fuel : Nat} {final : Rtable} (layered : layers state (fuel + 1) 2 twoHop = .ok final) :
    NearKept twoHop final ↔ AliasesListed state now state.ifaceassocset := by
  rw [← (layer_two ran).2]
  have first := layer_extends state 2 twoHop
  constructor
  · intro kept dest entry found near
    have grown : Extends (layer state 2 twoHop).1 final := by
      rcases layers_succ layered with rfl | later
      · exact Extends.refl _
      · exact layers_keeps (Extends (layer state 2 twoHop).1)
          (fun h rtable _ grown => grown.trans (layer_extends state h rtable)) later
          (Extends.refl _)
    exact kept dest entry (grown dest entry found) near
  · intro kept
    rcases layers_succ layered with rfl | later
    · exact kept
    · have pass : Extends (layer state 2 twoHop).1 final ∧ NearKept twoHop final :=
        layers_keeps (fun rtable => Extends (layer state 2 twoHop).1 rtable ∧
          NearKept twoHop rtable)
          (fun h rtable beyond holds => ⟨holds.1.trans (layer_extends state h rtable),
            layer_nearKept ran beyond holds.1 holds.2⟩) later ⟨Extends.refl _, kept⟩
      exact pass.2

def NewIndirect (old new : Rtable) : Prop :=
  ∀ dest entry, Rtable.lookup new dest = some entry → entry.dist = 1 →
    (Rtable.lookup old dest = some entry ∨ entry.nextAddr ≠ dest) ∧
      (Rtable.lookup new entry.nextAddr).isSome

theorem twoHopPass_newIndirect
    (ran : twoHopPass state (neighborPass state now) = .ok twoHop) :
    NewIndirect twoHop twoHop := by
  intro dest entry found near
  refine ⟨.inl found, ?_⟩
  rcases twoHopPass_cases ran found with ⟨_, _, via, _, _, _, rfl⟩ | ⟨_, based⟩
  · cases near
  · refine (twoHopPass_isSome_iff ran _).mpr (.inl ?_)
    obtain ⟨nb, member, sym, link, included, rfl | rfl⟩ := neighborPass_found based
    · exact ⟨nb, member, sym, link, included, .inl rfl⟩
    · exact ⟨nb, member, sym, link, included, .inl rfl⟩

theorem NewIndirect.store {old new : Rtable} (indirect : NewIndirect old new)
    {dest source : NsAddr} {dist : Nat} {via : RtEntry} (absent : new.lookup dest = none)
    (found : new.lookup source = some via) (near : dist = 1 → via.dist = 1) :
    NewIndirect old (new.store (extendEntry dest dist via)) := by
  have grown : Extends new (new.store (extendEntry dest dist via)) := Extends.store absent
  intro addr entry stored one
  rcases lookup_store_some stored with ⟨rfl, rfl⟩ | earlier
  · obtain ⟨_, present⟩ := indirect source via found (near one)
    refine ⟨.inr ?_, grown.isSome present⟩
    intro same
    have next : via.nextAddr = addr := same
    simp [next, absent] at present
  · obtain ⟨origin, present⟩ := indirect addr entry earlier one
    exact ⟨origin, grown.isSome present⟩

theorem layer_newIndirect {old : Rtable} {h : Nat} (beyond : 2 ≤ h)
    (indirect : NewIndirect old rtable) : NewIndirect old (layer state h rtable).1 :=
  layer_keeps (NewIndirect old) indirect
    (fun _ indirect _ _ absent _ found _ => indirect.store absent found fun one => by omega)
    (fun _ indirect _ _ absent _ found => indirect.store absent found fun one => one)

theorem direct_iff (computed : rtableComputation state now = .ok rtable) :
    DirectTable rtable ↔
      MainAddrsLinked state now ∧ AliasesListed state now state.ifaceassocset := by
  obtain ⟨twoHop, ran, layered⟩ := bind_ok.mp computed
  have grown : Extends twoHop rtable := layers_keeps (Extends twoHop)
    (fun h rtable _ grown => grown.trans (layer_extends state h rtable)) layered (Extends.refl _)
  have indirect : NewIndirect twoHop rtable := layers_keeps (NewIndirect twoHop)
    (fun _ _ beyond => layer_newIndirect beyond) layered (twoHopPass_newIndirect ran)
  rw [← twoHopPass_direct_iff ran, ← nearKept_iff ran layered]
  constructor
  · intro direct
    refine ⟨fun dest entry found => direct dest entry (grown dest entry found), ?_⟩
    intro dest entry found near
    exact (indirect dest entry found near).1.resolve_right
      (not_not.mpr (direct dest entry found near))
  · rintro ⟨direct, kept⟩ dest entry found near
    exact direct dest entry (kept dest entry found near) near

end

/-! ## Reachable repositories -/

theorem usable_iff_direct_of_reached {config : Config} {getAp : NsAddr → Option NsAddr}
    {condition : Int → Event → Node → Prop} {clock now : Int} {node : Node}
    (reached : Reached recvOlsr config condition clock node)
    (computed : rtableComputation node.state now = .ok rtable) :
    (∀ dest entry, rtable.lookup dest = some entry → Usable config getAp rtable entry) ↔
      DirectTable rtable := by
  obtain ⟨twoHop, ran, layered⟩ := bind_ok.mp computed
  have grown : Extends twoHop rtable := layers_keeps (Extends twoHop)
    (fun h rtable _ grown => grown.trans (layer_extends node.state h rtable)) layered
    (Extends.refl _)
  refine usable_iff_direct ?_ fun direct => ?_
  · exact layers_keeps (fun rtable => ∀ dest entry, Rtable.lookup rtable dest = some entry →
      WellShaped config entry) (fun _ _ beyond => layer_shaped beyond) layered
      fun _ _ found => twoHopPass_shaped (reached_wellLinked reached).ifaces ran found
  · have before : DirectTable twoHop := fun dest entry found => direct dest entry
      (grown dest entry found)
    exact layers_keeps Anchored (fun _ _ beyond => layer_anchored beyond) layered
      (twoHopPass_anchored ran before)

/-- In every reachable state, every route of a computed table is usable exactly when
the neighbors have links on their main addresses and no association adds an
address to one of them. -/
theorem routes_usable_iff (config : Config) (getAp : NsAddr → Option NsAddr)
    (clock now : Int) (node : Node) (rtable : Rtable)
    (reached : Reached recvOlsr config (fun _ _ _ => True) clock node)
    (computed : rtableComputation node.state now = .ok rtable) :
    (∀ dest entry, rtable.lookup dest = some entry → Usable config getAp rtable entry) ↔
      MainAddrsLinked node.state now ∧
        AliasesListed node.state now node.state.ifaceassocset :=
  (usable_iff_direct_of_reached reached computed).trans (direct_iff computed)

def aliasRun (ifaceAddrs : List NsAddr) : List (Int × Event) :=
  [(Time.second, receiveHello 2 2 0 134 10),
    (2 * Time.second, receive 2 2 1 231 (.mid { ifaceAddrs := ifaceAddrs }))]

/-- The table of an agent whose neighbor has the main address as its only one. -/
theorem routes_usable_iff_oneAddress :
    ∃ node rtable, rtable.length = 1 ∧
      ((∀ dest entry, Rtable.lookup rtable dest = some entry →
        Usable oneIfaceConfig (fun _ => none) rtable entry) ↔
      MainAddrsLinked node (2 * Time.second) ∧
        AliasesListed node (2 * Time.second) node.ifaceassocset) := by
  obtain ⟨clock, node, reached, checked⟩ := exists_reached_of_runOf recvOlsr
    (fun _ _ _ => true) (aliasRun [2])
    (fun current => match rtableComputation current.2.state (2 * Time.second) with
      | .ok rtable => decide (rtable.length = 1)
      | .error _ => false)
    (by decide +kernel)
  cases computed : rtableComputation node.state (2 * Time.second) with
  | error fault => simp [computed] at checked
  | ok rtable =>
      simp only [computed, decide_eq_true_eq] at checked
      exact ⟨node.state, rtable, checked, routes_usable_iff oneIfaceConfig (fun _ => none) clock
        (2 * Time.second) node rtable (reached.weaken fun _ _ _ _ => trivial) computed⟩

/-- The second address of a neighbor gets an entry that `getRoute` does not accept. -/
theorem route_unusable_of_alias :
    ¬ ∀ (config : Config) (getAp : NsAddr → Option NsAddr) (clock now : Int) (node : Node)
      (rtable : Rtable), Reached recvOlsr config (fun _ _ _ => True) clock node →
      rtableComputation node.state now = .ok rtable →
      ∀ dest entry, rtable.lookup dest = some entry → Usable config getAp rtable entry := by
  intro claimed
  obtain ⟨clock, node, reached, checked⟩ := exists_reached_of_runOf recvOlsr
    (fun _ _ _ => true) (aliasRun [2, 5])
    (fun current =>
      (rtableComputation current.2.state (2 * Time.second)).toOption.any fun rtable =>
        (rtable.lookup 5).any fun entry => decide (entry.dist = 1 ∧ entry.nextAddr = 2))
    (by decide +kernel)
  cases computed : rtableComputation node.state (2 * Time.second) with
  | error fault => simp [computed, Except.toOption] at checked
  | ok rtable =>
      cases found : rtable.lookup 5 with
      | none => simp [computed, found, Except.toOption] at checked
      | some entry =>
          simp only [computed, found, Except.toOption, Option.any_some, decide_eq_true_eq]
            at checked
          have direct := (usable_iff_direct_of_reached reached computed).mp
            (claimed oneIfaceConfig (fun _ => none) clock (2 * Time.second) node rtable
              (reached.weaken fun _ _ _ _ => trivial) computed)
          have next := direct 5 entry found checked.1
          simp [checked.2] at next

end SyncFanet.Olsr
