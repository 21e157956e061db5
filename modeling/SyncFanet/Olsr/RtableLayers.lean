import SyncFanet.Olsr.RtableProperties

/-!
# The layers of the routing table computation

A layer stores entries only for destinations that have none, so entries survive
to the end of the computation and the loop ends.
-/

set_option autoImplicit false

namespace SyncFanet.Olsr

open Rtable (notMeasured)

def extendEntry (dest : NsAddr) (dist : Nat) (via : RtEntry) : RtEntry where
  destAddr := dest
  nextAddr := via.nextAddr
  ifaceAddr := via.ifaceAddr
  dist := dist
  localIfaceIndex := via.localIfaceIndex
  route := via.route ++ if via.dist + 1 = dist then [via.destAddr] else []
  quality := notMeasured
  delay := notMeasured

theorem addTopologyEntry_cases (h : Nat) (acc : Rtable × Bool) (tuple : TopologyTuple) :
    (addTopologyEntry h acc tuple = acc ∧
      ((acc.1.lookup tuple.destAddr).isSome ∨
        ∀ via, acc.1.lookup tuple.lastAddr = some via → via.dist ≠ h)) ∨
    (acc.1.lookup tuple.destAddr = none ∧ ∃ via, acc.1.lookup tuple.lastAddr = some via ∧
      via.dist = h ∧
      addTopologyEntry h acc tuple =
        (acc.1.store (extendEntry tuple.destAddr (h + 1) via), true)) := by
  unfold addTopologyEntry
  cases dest : acc.1.lookup tuple.destAddr with
  | some entry1 => exact .inl ⟨rfl, .inl rfl⟩
  | none =>
      cases last : acc.1.lookup tuple.lastAddr with
      | none => exact .inl ⟨rfl, .inr (by simp)⟩
      | some entry2 =>
          by_cases layer : entry2.dist = h
          · exact .inr ⟨rfl, entry2, rfl, layer, by simp [layer]; rfl⟩
          · refine .inl ⟨by simp [layer], .inr ?_⟩
            intro via same
            cases same
            exact layer

theorem addAliasEntry_cases (acc : Rtable × Bool) (tuple : IfaceAssocTuple) :
    (addAliasEntry acc tuple = acc ∧
      ((acc.1.lookup tuple.ifaceAddr).isSome ∨ acc.1.lookup tuple.mainAddr = none)) ∨
    (acc.1.lookup tuple.ifaceAddr = none ∧ ∃ via, acc.1.lookup tuple.mainAddr = some via ∧
      addAliasEntry acc tuple =
        (acc.1.store (extendEntry tuple.ifaceAddr via.dist via), true)) := by
  unfold addAliasEntry
  cases main : acc.1.lookup tuple.mainAddr with
  | none => exact .inl ⟨rfl, .inr rfl⟩
  | some entry1 =>
      cases iface : acc.1.lookup tuple.ifaceAddr with
      | some entry2 => exact .inl ⟨rfl, .inl rfl⟩
      | none => exact .inr ⟨rfl, entry1, rfl, rfl⟩

/-! ## Entries survive -/

def Extends (old new : Rtable) : Prop :=
  ∀ addr entry, Rtable.lookup old addr = some entry → Rtable.lookup new addr = some entry

namespace Extends

theorem refl (rtable : Rtable) : Extends rtable rtable := fun _ _ found => found

theorem trans {first second third : Rtable} (left : Extends first second)
    (right : Extends second third) : Extends first third :=
  fun addr entry found => right addr entry (left addr entry found)

theorem isSome {old new : Rtable} (extends' : Extends old new) {addr : NsAddr}
    (present : (old.lookup addr).isSome) : (new.lookup addr).isSome := by
  obtain ⟨entry, found⟩ := Option.isSome_iff_exists.mp present
  rw [extends' addr entry found]
  rfl

theorem store {rtable : Rtable} {entry : RtEntry}
    (absent : rtable.lookup entry.destAddr = none) : Extends rtable (rtable.store entry) := by
  intro addr old found
  have different : addr ≠ entry.destAddr := by
    rintro rfl
    rw [absent] at found
    cases found
  rw [Rtable.lookup_store_ne rtable entry different]
  exact found

end Extends

variable {h : Nat} {rtable : Rtable} {state : State}

theorem addTopologyEntry_extends (h : Nat) (acc : Rtable × Bool) (tuple : TopologyTuple) :
    Extends acc.1 (addTopologyEntry h acc tuple).1 := by
  rcases addTopologyEntry_cases h acc tuple with ⟨same, _⟩ | ⟨absent, via, _, _, stored⟩
  · rw [same]
    exact Extends.refl _
  · rw [stored]
    exact Extends.store absent

theorem addAliasEntry_extends (acc : Rtable × Bool) (tuple : IfaceAssocTuple) :
    Extends acc.1 (addAliasEntry acc tuple).1 := by
  rcases addAliasEntry_cases acc tuple with ⟨same, _⟩ | ⟨absent, via, _, stored⟩
  · rw [same]
    exact Extends.refl _
  · rw [stored]
    exact Extends.store absent

theorem topologyPass_extends (state : State) (h : Nat) (rtable : Rtable) :
    Extends rtable (topologyPass state h rtable).1 :=
  foldl_keeps (addTopologyEntry h) (fun acc => Extends rtable acc.1) (Extends.refl _)
    fun tuple acc _ grown => grown.trans (addTopologyEntry_extends h acc tuple)

theorem aliasPass_extends (state : State) (acc : Rtable × Bool) :
    Extends acc.1 (aliasPass state acc).1 :=
  foldl_keeps addAliasEntry (fun acc' => Extends acc.1 acc'.1) (Extends.refl _)
    fun tuple acc' _ grown => grown.trans (addAliasEntry_extends acc' tuple)

theorem topologyPass_covers {tuple : TopologyTuple} (member : tuple ∈ state.topologyset)
    {via : RtEntry} (found : rtable.lookup tuple.lastAddr = some via) (dist : via.dist = h) :
    ((topologyPass state h rtable).1.lookup tuple.destAddr).isSome := by
  have pass : Extends rtable (topologyPass state h rtable).1 ∧
      ∀ tuple ∈ state.topologyset, rtable.lookup tuple.lastAddr = some via → via.dist = h →
        ((topologyPass state h rtable).1.lookup tuple.destAddr).isSome := by
    refine foldl_seen (addTopologyEntry h)
      (fun seen acc => Extends rtable acc.1 ∧ ∀ tuple ∈ seen,
        rtable.lookup tuple.lastAddr = some via → via.dist = h →
          (acc.1.lookup tuple.destAddr).isSome) ⟨Extends.refl _, by simp⟩ ?_
    rintro seen current acc _ ⟨grown, covered⟩
    have grows := addTopologyEntry_extends h acc current
    refine ⟨grown.trans grows, ?_⟩
    intro tuple among found dist
    rcases List.mem_append.mp among with old | last
    · exact grows.isSome (covered tuple old found dist)
    · have same : tuple = current := by simpa using last
      subst same
      rcases addTopologyEntry_cases h acc tuple with
        ⟨kept, present | far⟩ | ⟨_, via', _, _, stored⟩
      · rw [kept]
        exact present
      · exact absurd dist (far via (grown tuple.lastAddr via found))
      · rw [stored]
        exact Option.isSome_of_eq_some
          (Rtable.lookup_store_self acc.1 (extendEntry tuple.destAddr (h + 1) via'))
  exact pass.2 tuple member found dist

/-- One round of the loop over `h`. -/
def layer (state : State) (h : Nat) (rtable : Rtable) : Rtable × Bool :=
  aliasPass state (topologyPass state h rtable)

theorem layer_extends (state : State) (h : Nat) (rtable : Rtable) :
    Extends rtable (layer state h rtable).1 :=
  (topologyPass_extends state h rtable).trans (aliasPass_extends state _)

/-- What holds of the table and survives both kinds of new entries holds after a
layer. -/
theorem layer_keeps (invariant : Rtable → Prop) (start : invariant rtable)
    (topology : ∀ rtable, invariant rtable → ∀ tuple ∈ state.topologyset,
      rtable.lookup tuple.destAddr = none → ∀ via, rtable.lookup tuple.lastAddr = some via →
      via.dist = h → invariant (rtable.store (extendEntry tuple.destAddr (h + 1) via)))
    (assoc : ∀ rtable, invariant rtable → ∀ tuple ∈ state.ifaceassocset,
      rtable.lookup tuple.ifaceAddr = none → ∀ via, rtable.lookup tuple.mainAddr = some via →
      invariant (rtable.store (extendEntry tuple.ifaceAddr via.dist via))) :
    invariant (layer state h rtable).1 := by
  refine foldl_keeps addAliasEntry (fun acc => invariant acc.1) ?_ ?_
  · refine foldl_keeps (addTopologyEntry h) (fun acc => invariant acc.1) start ?_
    intro tuple acc member holds
    rcases addTopologyEntry_cases h acc tuple with ⟨same, _⟩ | ⟨absent, via, found, dist, stored⟩
    · rw [same]
      exact holds
    · rw [stored]
      exact topology acc.1 holds tuple member absent via found dist
  · intro tuple acc member holds
    rcases addAliasEntry_cases acc tuple with ⟨same, _⟩ | ⟨absent, via, found, stored⟩
    · rw [same]
      exact holds
    · rw [stored]
      exact assoc acc.1 holds tuple member absent via found

/-! ## The flag -/

/-- The flag stays down only while the table stays the same, and goes up with an
entry for a tuple that had none. -/
def Flagged (state : State) (before : Rtable) (acc : Rtable × Bool) : Prop :=
  (acc.2 = false → acc.1 = before) ∧
  (acc.2 = true →
    (∃ tuple ∈ state.topologyset, before.lookup tuple.destAddr = none ∧
      (acc.1.lookup tuple.destAddr).isSome) ∨
    ∃ tuple ∈ state.ifaceassocset, before.lookup tuple.ifaceAddr = none ∧
      (acc.1.lookup tuple.ifaceAddr).isSome)

theorem absent_before {old new : Rtable} (grown : Extends old new) {addr : NsAddr}
    (absent : new.lookup addr = none) : old.lookup addr = none := by
  cases found : old.lookup addr with
  | none => rfl
  | some entry =>
      rw [grown addr entry found] at absent
      cases absent

theorem layer_flagged (state : State) (h : Nat) (rtable : Rtable) :
    Flagged state rtable (layer state h rtable) := by
  have both : Flagged state rtable (layer state h rtable) ∧
      Extends rtable (layer state h rtable).1 := by
    refine foldl_keeps addAliasEntry
      (fun acc => Flagged state rtable acc ∧ Extends rtable acc.1) ?_ ?_
    · refine foldl_keeps (addTopologyEntry h)
        (fun acc => Flagged state rtable acc ∧ Extends rtable acc.1)
        ⟨⟨fun _ => rfl, nofun⟩, Extends.refl _⟩ ?_
      rintro tuple acc member ⟨flagged, grown⟩
      rcases addTopologyEntry_cases h acc tuple with ⟨same, _⟩ | ⟨absent, via, _, _, stored⟩
      · rw [same]
        exact ⟨flagged, grown⟩
      · rw [stored]
        refine ⟨⟨nofun, fun _ => .inl ⟨tuple, member, ?_, ?_⟩⟩,
          grown.trans (Extends.store absent)⟩
        · exact absent_before grown absent
        · exact Option.isSome_of_eq_some
            (Rtable.lookup_store_self acc.1 (extendEntry tuple.destAddr (h + 1) via))
    · rintro tuple acc member ⟨flagged, grown⟩
      rcases addAliasEntry_cases acc tuple with ⟨same, _⟩ | ⟨absent, via, _, stored⟩
      · rw [same]
        exact ⟨flagged, grown⟩
      · rw [stored]
        refine ⟨⟨nofun, fun _ => .inr ⟨tuple, member, ?_, ?_⟩⟩,
          grown.trans (Extends.store absent)⟩
        · exact absent_before grown absent
        · exact Option.isSome_of_eq_some
            (Rtable.lookup_store_self acc.1 (extendEntry tuple.ifaceAddr via.dist via))
  exact both.1

/-! ## The loop ends -/

def missing (state : State) (rtable : Rtable) : Nat :=
  state.topologyset.countP (fun tuple => (rtable.lookup tuple.destAddr).isNone) +
    state.ifaceassocset.countP (fun tuple => (rtable.lookup tuple.ifaceAddr).isNone)

theorem missing_le (state : State) (rtable : Rtable) :
    missing state rtable ≤ state.topologyset.length + state.ifaceassocset.length :=
  Nat.add_le_add List.countP_le_length List.countP_le_length

/-- Growing a table lowers the count of absent keys, strictly when one of them
becomes present. -/
theorem countP_absent {Tuple : Type} (key : Tuple → NsAddr) {old new : Rtable}
    (grown : Extends old new) (tuples : List Tuple) :
    tuples.countP (fun tuple => (new.lookup (key tuple)).isNone) ≤
        tuples.countP (fun tuple => (old.lookup (key tuple)).isNone) ∧
      ((∃ tuple ∈ tuples, old.lookup (key tuple) = none ∧ (new.lookup (key tuple)).isSome) →
        tuples.countP (fun tuple => (new.lookup (key tuple)).isNone) <
          tuples.countP (fun tuple => (old.lookup (key tuple)).isNone)) := by
  induction tuples with
  | nil => simp
  | cons head tail ih =>
      obtain ⟨weak, strict⟩ := ih
      simp only [List.countP_cons]
      cases after : new.lookup (key head) with
      | none =>
          have before := absent_before grown after
          simp only [before, Option.isNone_none, if_true]
          refine ⟨by omega, ?_⟩
          rintro ⟨tuple, member, absent, present⟩
          rcases List.mem_cons.mp member with rfl | member
          · simp [after] at present
          · have := strict ⟨tuple, member, absent, present⟩
            omega
      | some entry =>
          simp only [Option.isNone_some, Bool.false_eq_true, if_false]
          refine ⟨by split <;> omega, ?_⟩
          rintro ⟨tuple, member, absent, present⟩
          rcases List.mem_cons.mp member with rfl | member
          · simp only [absent, Option.isNone_none, if_true]
            omega
          · have := strict ⟨tuple, member, absent, present⟩
            split <;> omega

theorem missing_lt (added : (layer state h rtable).2 = true) :
    missing state (layer state h rtable).1 < missing state rtable := by
  have grown := layer_extends state h rtable
  obtain ⟨weakTopology, strictTopology⟩ :=
    countP_absent TopologyTuple.destAddr grown state.topologyset
  obtain ⟨weakAssoc, strictAssoc⟩ :=
    countP_absent IfaceAssocTuple.ifaceAddr grown state.ifaceassocset
  unfold missing
  rcases (layer_flagged state h rtable).2 added with fresh | fresh
  · have := strictTopology fresh
    omega
  · have := strictAssoc fresh
    omega

/-- The invariant rule of the loop: it ends, and what every layer keeps holds of
the last table, to which no layer adds anything. -/
theorem layers_spec (state : State) (invariant : Nat → Rtable → Prop)
    (next : ∀ h rtable, invariant h rtable → (layer state h rtable).2 = true →
      invariant (h + 1) (layer state h rtable).1)
    (fuel h : Nat) (rtable : Rtable) (budget : missing state rtable < fuel)
    (start : invariant h rtable) :
    ∃ final last, layers state fuel h rtable = .ok final ∧ invariant last final ∧ h ≤ last ∧
      (layer state last final).2 = false ∧ Extends rtable final := by
  induction fuel generalizing h rtable with
  | zero => omega
  | succ fuel ih =>
      cases added : (layer state h rtable).2 with
      | false =>
          have same := (layer_flagged state h rtable).1 added
          refine ⟨rtable, h, ?_, start, le_refl h, added, Extends.refl rtable⟩
          rw [layers, show aliasPass state (topologyPass state h rtable) =
            (rtable, false) from Prod.ext same added]
          rfl
      | true =>
          have shorter := missing_lt added
          obtain ⟨final, last, ran, holds, later, ended, grown⟩ :=
            ih (h + 1) (layer state h rtable).1 (by omega) (next h rtable start added)
          refine ⟨final, last, ?_, holds, by omega, ended, (layer_extends state h rtable).trans grown⟩
          rw [layers, show aliasPass state (topologyPass state h rtable) =
            ((layer state h rtable).1, true) from Prod.ext rfl added]
          exact ran

theorem rtableComputation_ok_iff (state : State) (now : Int) :
    (∃ rtable, rtableComputation state now = .ok rtable) ↔
      ∀ hop ∈ state.nb2hopset, inN2 state hop = true → OneHop state now hop.nbMainAddr := by
  rw [← twoHopPass_ok_iff]
  constructor
  · rintro ⟨rtable, ran⟩
    obtain ⟨twoHop, started, _⟩ := bind_ok.mp ran
    exact ⟨twoHop, started⟩
  · rintro ⟨twoHop, started⟩
    have bound := missing_le state twoHop
    obtain ⟨final, _, ran, _⟩ := layers_spec state (fun _ _ => True) (fun _ _ _ _ => trivial)
      (state.topologyset.length + state.ifaceassocset.length + 1) 2 twoHop (by omega) trivial
    exact ⟨final, bind_ok.mpr ⟨twoHop, started, ran⟩⟩

end SyncFanet.Olsr
