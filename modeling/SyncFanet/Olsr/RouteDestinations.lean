import SyncFanet.Olsr.RouteConditions

/-!
# Destinations of the routing table

Which addresses get an entry, said about the repositories alone: the neighbors, the
2-hop neighbors and what the topology set and the associations add to them.
-/

set_option autoImplicit false

namespace SyncFanet.Olsr

/-- The address has its entry when the layer comes that extends the routes to it. The
interfaces of associations can miss that layer. -/
def Spreads (state : State) (now : Int) (addr : NsAddr) : Prop :=
  TwoHop state addr ∨
    (¬ OneHop state now addr ∧ ∀ tuple ∈ state.ifaceassocset, tuple.ifaceAddr ≠ addr)

inductive Routable (state : State) (now : Int) : NsAddr → Prop where
  | oneHop {addr : NsAddr} (near : OneHop state now addr) : Routable state now addr
  | twoHop {addr : NsAddr} (far : TwoHop state addr) : Routable state now addr
  | topology {tuple : TopologyTuple} (member : tuple ∈ state.topologyset)
      (last : Routable state now tuple.lastAddr) (spreads : Spreads state now tuple.lastAddr) :
      Routable state now tuple.destAddr
  | assoc {tuple : IfaceAssocTuple} (member : tuple ∈ state.ifaceassocset)
      (main : Routable state now tuple.mainAddr) : Routable state now tuple.ifaceAddr

/-- Addresses that have an entry of one hop, unless they get one of two hops. -/
inductive Near (state : State) (now : Int) : NsAddr → Prop where
  | oneHop {addr : NsAddr} (near : OneHop state now addr) : Near state now addr
  | assoc {tuple : IfaceAssocTuple} (member : tuple ∈ state.ifaceassocset)
      (main : Near state now tuple.mainAddr) : Near state now tuple.ifaceAddr

/-- Addresses that may have an entry of two hops or more. -/
inductive Far (state : State) (now : Int) : NsAddr → Prop where
  | twoHop {addr : NsAddr} (far : TwoHop state addr) : Far state now addr
  | topology {tuple : TopologyTuple} (member : tuple ∈ state.topologyset)
      (last : Far state now tuple.lastAddr) (beyond : ¬ OneHop state now tuple.destAddr) :
      Far state now tuple.destAddr
  | assoc {tuple : IfaceAssocTuple} (member : tuple ∈ state.ifaceassocset)
      (main : Far state now tuple.mainAddr) (beyond : ¬ OneHop state now tuple.ifaceAddr) :
      Far state now tuple.ifaceAddr

section

variable {state : State} {now : Int} {rtable : Rtable}

variable {h : Nat} {addr : NsAddr} {via : RtEntry}

/-! ## Layers -/

theorem aliasPass_covers {acc : Rtable × Bool} {tuple : IfaceAssocTuple}
    (member : tuple ∈ state.ifaceassocset) (present : (acc.1.lookup tuple.mainAddr).isSome) :
    ((aliasPass state acc).1.lookup tuple.ifaceAddr).isSome := by
  have pass : Extends acc.1 (aliasPass state acc).1 ∧ ∀ tuple ∈ state.ifaceassocset,
      (acc.1.lookup tuple.mainAddr).isSome →
        ((aliasPass state acc).1.lookup tuple.ifaceAddr).isSome := by
    refine foldl_seen addAliasEntry
      (fun seen acc' => Extends acc.1 acc'.1 ∧ ∀ tuple ∈ seen,
        (acc.1.lookup tuple.mainAddr).isSome → (acc'.1.lookup tuple.ifaceAddr).isSome)
      ⟨Extends.refl _, by simp⟩ ?_
    rintro seen current acc' _ ⟨grown, covered⟩
    have grows := addAliasEntry_extends acc' current
    refine ⟨grown.trans grows, fun tuple among present => ?_⟩
    rcases List.mem_append.mp among with old | last
    · exact grows.isSome (covered tuple old present)
    · have same : tuple = current := by simpa using last
      subst same
      rcases addAliasEntry_cases acc' tuple with ⟨kept, present' | absent⟩ | ⟨_, via, _, stored⟩
      · rw [kept]
        exact present'
      · have known := grown.isSome present
        rw [absent] at known
        cases known
      · rw [stored]
        exact Option.isSome_of_eq_some
          (Rtable.lookup_store_self acc'.1 (extendEntry tuple.ifaceAddr via.dist via))
  exact pass.2 tuple member present

theorem layer_new {entry : RtEntry} (found : (layer state h rtable).1.lookup addr = some entry) :
    rtable.lookup addr = some entry ∨ entry.dist = h + 1 ∨
      ∃ tuple ∈ state.ifaceassocset, tuple.ifaceAddr = addr := by
  have kept : ∀ addr entry, (layer state h rtable).1.lookup addr = some entry →
      rtable.lookup addr = some entry ∨ entry.dist = h + 1 ∨
        ∃ tuple ∈ state.ifaceassocset, tuple.ifaceAddr = addr := by
    refine layer_keeps (fun table => ∀ addr entry, table.lookup addr = some entry →
      rtable.lookup addr = some entry ∨ entry.dist = h + 1 ∨
        ∃ tuple ∈ state.ifaceassocset, tuple.ifaceAddr = addr) (fun _ _ found => .inl found) ?_ ?_
    · intro table holds tuple _ _ via _ _ addr entry found
      rw [Rtable.lookup_store] at found
      split at found
      · cases found
        exact .inr (.inl rfl)
      · exact holds addr entry found
    · intro table holds tuple member _ via _ addr entry found
      rw [Rtable.lookup_store] at found
      split at found
      · next same => exact .inr (.inr ⟨tuple, member, same.symm⟩)
      · exact holds addr entry found
  exact kept addr entry found

/-- The routes to an address that spreads are extended at the layer of its entry, if
they are not yet. -/
def Spread (state : State) (now : Int) (h : Nat) (rtable : Rtable) : Prop :=
  ∀ addr entry, Spreads state now addr → rtable.lookup addr = some entry →
    entry.dist = h ∨ ∀ tuple ∈ state.topologyset, tuple.lastAddr = addr →
      (rtable.lookup tuple.destAddr).isSome

theorem Spread.covers (spread : Spread state now h rtable) {tuple : TopologyTuple}
    (member : tuple ∈ state.topologyset) (spreads : Spreads state now tuple.lastAddr)
    (present : (rtable.lookup tuple.lastAddr).isSome) :
    ((layer state h rtable).1.lookup tuple.destAddr).isSome := by
  obtain ⟨entry, found⟩ := Option.isSome_iff_exists.mp present
  rcases spread _ entry spreads found with here | before
  · exact (aliasPass_extends state _).isSome (topologyPass_covers member found here)
  · exact (layer_extends state h rtable).isSome (before tuple member rfl)

variable {twoHop : Rtable}

theorem spread_initial (ran : twoHopPass state (neighborPass state now) = .ok twoHop) :
    Spread state now 2 twoHop := by
  intro addr entry spreads found
  rcases twoHopPass_cases ran found with ⟨_, _, via, _, _, _, rfl⟩ | ⟨notFar, based⟩
  · exact .inl rfl
  · have near := (neighborPass_isSome_iff state now addr).mp (by simp [based])
    rcases spreads with far | ⟨beyond, _⟩
    · exact absurd far notFar
    · exact absurd near beyond

theorem spread_layer (ran : twoHopPass state (neighborPass state now) = .ok twoHop)
    (grown : Extends twoHop rtable) (spread : Spread state now h rtable) :
    Spread state now (h + 1) (layer state h rtable).1 := by
  intro addr entry spreads found
  rcases layer_new found with old | new | ⟨tuple, member, same⟩
  · right
    rintro tuple member rfl
    exact spread.covers member spreads (by simp [old])
  · exact .inl new
  · rcases spreads with far | ⟨_, noAlias⟩
    · right
      rintro tuple member rfl
      refine spread.covers member (.inl far) (grown.isSome ?_)
      exact (twoHopPass_isSome_iff ran tuple.lastAddr).mpr (.inr far)
    · exact absurd same (noAlias tuple member)

theorem Routable.lookup (computed : rtableComputation state now = .ok rtable)
    (routable : Routable state now addr) : (rtable.lookup addr).isSome := by
  obtain ⟨twoHop, passed, ran⟩ := bind_ok.mp computed
  have budget := missing_le state twoHop
  obtain ⟨final, last, ran', ⟨grown, spread⟩, _, ended, _⟩ :=
    layers_spec state (fun h table => Extends twoHop table ∧ Spread state now h table)
      (fun h table kept _ => ⟨kept.1.trans (layer_extends state h table),
        spread_layer passed kept.1 kept.2⟩)
      (state.topologyset.length + state.ifaceassocset.length + 1) 2 twoHop (by omega)
      ⟨Extends.refl _, spread_initial passed⟩
  rw [ran] at ran'
  cases ran'
  have same := (layer_flagged state last rtable).1 ended
  induction routable with
  | oneHop near => exact grown.isSome ((twoHopPass_isSome_iff passed _).mpr (.inl near))
  | twoHop far => exact grown.isSome ((twoHopPass_isSome_iff passed _).mpr (.inr far))
  | topology member _ spreads ih =>
      rw [← same]
      exact spread.covers member spreads ih
  | assoc member _ ih =>
      rw [← same]
      exact aliasPass_covers member ((topologyPass_extends state last rtable).isSome ih)

/-! ## Entries by their distance -/

structure Located (state : State) (now : Int) (twoHop rtable : Rtable) : Prop where
  grown : Extends twoHop rtable
  near : ∀ addr entry, rtable.lookup addr = some entry → entry.dist < 2 → Near state now addr
  far : ∀ addr entry, rtable.lookup addr = some entry → 2 ≤ entry.dist → Far state now addr

theorem located_twoHop (passed : twoHopPass state (neighborPass state now) = .ok twoHop) :
    Located state now twoHop twoHop where
  grown := Extends.refl _
  near addr entry found short := by
    rcases twoHopPass_cases passed found with ⟨_, _, _, _, _, _, rfl⟩ | ⟨_, based⟩
    · exact absurd short (Nat.lt_irrefl 2)
    · exact .oneHop ((neighborPass_isSome_iff state now addr).mp (by simp [based]))
  far addr entry found distant := by
    rcases twoHopPass_cases passed found with ⟨far, _⟩ | ⟨_, based⟩
    · exact .twoHop far
    · have near := (neighborPass_found based).dist
      omega

theorem Located.beyond (passed : twoHopPass state (neighborPass state now) = .ok twoHop)
    (located : Located state now twoHop rtable) (missing : rtable.lookup addr = none) :
    ¬ OneHop state now addr := by
  intro near
  have present := located.grown.isSome ((twoHopPass_isSome_iff passed addr).mpr (.inl near))
  rw [missing] at present
  cases present

theorem Located.store (located : Located state now twoHop rtable) {dest : NsAddr} {dist : Nat}
    (missing : rtable.lookup dest = none) (near : dist < 2 → Near state now dest)
    (far : 2 ≤ dist → Far state now dest) :
    Located state now twoHop (rtable.store (extendEntry dest dist via)) where
  grown := located.grown.trans (Extends.store missing)
  near addr entry found short := by
    rw [Rtable.lookup_store] at found
    split at found
    · next same =>
      cases found
      exact same ▸ near short
    · exact located.near addr entry found short
  far addr entry found distant := by
    rw [Rtable.lookup_store] at found
    split at found
    · next same =>
      cases found
      exact same ▸ far distant
    · exact located.far addr entry found distant

theorem Located.topology (passed : twoHopPass state (neighborPass state now) = .ok twoHop)
    (located : Located state now twoHop rtable) (beyond : 2 ≤ h) {tuple : TopologyTuple}
    (member : tuple ∈ state.topologyset) (missing : rtable.lookup tuple.destAddr = none)
    (last : rtable.lookup tuple.lastAddr = some via) (dist : via.dist = h) :
    Located state now twoHop (rtable.store (extendEntry tuple.destAddr (h + 1) via)) := by
  refine located.store missing (fun short => absurd short (by omega)) fun _ => ?_
  exact .topology member (located.far _ via last (dist ▸ beyond)) (located.beyond passed missing)

theorem Located.assoc (passed : twoHopPass state (neighborPass state now) = .ok twoHop)
    (located : Located state now twoHop rtable) {tuple : IfaceAssocTuple}
    (member : tuple ∈ state.ifaceassocset) (missing : rtable.lookup tuple.ifaceAddr = none)
    (main : rtable.lookup tuple.mainAddr = some via) :
    Located state now twoHop (rtable.store (extendEntry tuple.ifaceAddr via.dist via)) :=
  located.store missing (fun short => .assoc member (located.near _ via main short))
    fun distant => .assoc member (located.far _ via main distant) (located.beyond passed missing)

end

end SyncFanet.Olsr
